import Caplv.Controller.Normal
import Caplv.StringMap
import Mathlib.Data.List.Basic

namespace Caplv.Controller

open Text Api

section ManagedKeys

-- What parseManagedKeys needs of a key to read it back.
def Listable (key : String) : Prop := key ≠ "" ∧ ',' ∉ key.toList

theorem insertSorted_perm (key : String) (keys : List String) : (insertSorted key keys).Perm (key :: keys) := by
  induction keys with
  | nil => exact .refl _
  | cons head rest ih =>
    rw [insertSorted]
    split
    · exact .refl _
    · exact (ih.cons head).trans (.swap key head rest)

theorem sortStrings_perm (keys : List String) : (sortStrings keys).Perm keys := by
  induction keys with
  | nil => exact .refl _
  | cons head rest ih => exact (insertSorted_perm head (sortStrings rest)).trans (ih.cons head)

theorem splitKeys_append (current word rest : List Char) (hword : ',' ∉ word) :
    splitKeys current (word ++ rest) = splitKeys (word.reverse ++ current) rest := by
  induction word generalizing current with
  | nil => rfl
  | cons c word ih =>
    obtain ⟨hc, hrest⟩ := List.ne_and_not_mem_of_not_mem_cons hword
    rw [List.cons_append, splitKeys, if_neg (Ne.symm hc), ih _ hrest, List.reverse_cons, List.append_assoc]
    rfl

theorem splitKeys_intercalate (words : List (List Char)) (hwords : ∀ word ∈ words, word ≠ [] ∧ ',' ∉ word) :
    splitKeys [] ([','].intercalate words) = words.map String.ofList := by
  induction words with
  | nil => rfl
  | cons word rest ih =>
    obtain ⟨hword, hrest⟩ := List.forall_mem_cons.mp hwords
    have hreverse : word.reverse ≠ [] := by simpa using hword.1
    cases rest with
    | nil =>
      have hsplit := splitKeys_append [] word [] hword.2
      rw [List.append_nil, List.append_nil] at hsplit
      simp [List.intercalate, hsplit, splitKeys, hreverse]
    | cons next rest =>
      have hjoin : [','].intercalate (word :: next :: rest) =
          word ++ (',' :: [','].intercalate (next :: rest)) := by
        simp [List.intercalate]
      rw [hjoin, splitKeys_append [] word _ hword.2, List.append_nil, splitKeys, if_pos rfl, if_neg hreverse,
        List.reverse_reverse, ih hrest]
      rfl

theorem parseManagedKeys_formatManagedKeys {m : StringMap} (hkeys : ∀ key ∈ m.keys, Listable key) :
    (parseManagedKeys (formatManagedKeys m)).Perm m.keys := by
  have hsorted : ∀ key ∈ sortStrings m.keys, Listable key := fun key hkey =>
    hkeys key ((sortStrings_perm m.keys).mem_iff.mp hkey)
  have hwords : ∀ word ∈ (sortStrings m.keys).map String.toList, word ≠ [] ∧ ',' ∉ word := by
    intro word hword
    obtain ⟨key, hkey, rfl⟩ := List.mem_map.mp hword
    exact ⟨fun hempty => (hsorted key hkey).1 (String.toList_eq_nil_iff.mp hempty), (hsorted key hkey).2⟩
  have hparsed : parseManagedKeys (formatManagedKeys m) = sortStrings m.keys := by
    rw [parseManagedKeys, formatManagedKeys, String.toList_intercalate]
    refine (splitKeys_intercalate _ hwords).trans ?_
    simp
  rw [hparsed]
  exact sortStrings_perm m.keys

end ManagedKeys

-- The two maps of a Node, with what the spec wants in each and the annotation that tracks it.
inductive NodeField where
  | labels
  | annotations
deriving DecidableEq, Repr

namespace NodeField

def of (node : Node) : NodeField → StringMap
  | labels => node.labels
  | annotations => node.annotations

def wanted (spec : LibvirtMachineSpec) : NodeField → StringMap
  | labels => spec.nodeLabels
  | annotations => spec.nodeAnnotations

def tracking : NodeField → String
  | labels => managedNodeLabelsAnnotation
  | annotations => managedNodeAnnotationsAnnotation

-- The tracking annotations are annotations themselves.
def Tracks (field : NodeField) (key : String) : Prop := field = annotations ∧ ∃ other : NodeField, key = other.tracking

end NodeField

def managedKeys (node : Node) (field : NodeField) : List String :=
  parseManagedKeys (node.annotations.index field.tracking)

def trackingValue (desired : StringMap) : Option String :=
  if desired.length > 0 then some (formatManagedKeys desired) else none

section Lookups

theorem mem_parse_trackingValue {desired : StringMap} (hkeys : ∀ key ∈ desired.keys, Listable key) (key : String) :
    key ∈ parseManagedKeys ((trackingValue desired).getD "") ↔ key ∈ desired.keys := by
  cases desired with
  | nil => exact .rfl
  | cons entry rest => exact (parseManagedKeys_formatManagedKeys hkeys).mem_iff

theorem get?_replaceManaged (current desired : StringMap) (managed : List String) (key : String) :
    (replaceManaged current desired managed).get? key =
      (desired.get? key).or (if key ∈ managed then none else current.get? key) := by
  rw [replaceManaged, StringMap.get?_copy, StringMap.get?_foldl_delete]
  cases hdesired : desired.get? key with
  | some value => rfl
  | none => simp [hdesired]

theorem get?_setManagedKeys (annotations desired : StringMap) (tracking key : String) :
    (setManagedKeys annotations tracking desired).get? key =
      if key = tracking then trackingValue desired else annotations.get? key := by
  rw [setManagedKeys, trackingValue]
  split
  · exact StringMap.get?_set ..
  · exact StringMap.get?_delete ..

variable (spec : LibvirtMachineSpec) (node : Node) (field : NodeField)

theorem labelledNode_get? {key : String} (hkey : ¬ field.Tracks key) :
    (field.of (labelledNode spec node)).get? key = ((field.wanted spec).get? key).or
      (if key ∈ managedKeys node field then none else (field.of node).get? key) := by
  cases field with
  | labels => exact get?_replaceManaged ..
  | annotations =>
    have hlabels : key ≠ managedNodeLabelsAnnotation := fun h => hkey ⟨rfl, .labels, h⟩
    have hannotations : key ≠ managedNodeAnnotationsAnnotation := fun h => hkey ⟨rfl, .annotations, h⟩
    change (labelledNode spec node).annotations.get? key = _
    rw [labelledNode, get?_setManagedKeys, if_neg hannotations, get?_setManagedKeys, if_neg hlabels]
    exact get?_replaceManaged ..

theorem labelledNode_tracking :
    (labelledNode spec node).annotations.get? field.tracking = trackingValue (field.wanted spec) := by
  cases field with
  | labels =>
    change (labelledNode spec node).annotations.get? managedNodeLabelsAnnotation = _
    rw [labelledNode, get?_setManagedKeys, if_neg (by decide), get?_setManagedKeys, if_pos rfl]
    rfl
  | annotations => exact (get?_setManagedKeys ..).trans (if_pos rfl)

end Lookups

end Caplv.Controller

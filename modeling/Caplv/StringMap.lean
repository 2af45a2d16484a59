import Caplv.Text
import Mathlib.Data.List.Basic

namespace Caplv.Text.StringMap

variable (m : StringMap) (key other value : String)

def keys (m : StringMap) : List String := m.map Prod.fst

-- What another client does to one entry: it writes it, or it removes it.
def write (m : StringMap) (key : String) : Option String → StringMap
  | some value => m.set key value
  | none => m.delete key

theorem get?_cons (head : String) (rest : StringMap) :
    get? ((head, value) :: rest) key = if key = head then some value else rest.get? key := by
  rw [get?, List.lookup_cons]
  by_cases hkey : key = head
  · simp [hkey]
  · rw [beq_eq_false_iff_ne.mpr hkey, if_neg hkey]
    rfl

theorem get?_filter (keep : String → Bool) :
    get? (m.filter fun entry => keep entry.1) key = if keep key then m.get? key else none := by
  induction m with
  | nil => simp [get?]
  | cons entry rest ih =>
    obtain ⟨head, value⟩ := entry
    by_cases hkeep : keep head
    · rw [List.filter_cons, if_pos hkeep, get?_cons, get?_cons, ih]
      by_cases hkey : key = head
      · simp [hkey, hkeep]
      · simp [hkey]
    · rw [List.filter_cons, if_neg hkeep, get?_cons, ih]
      by_cases hkey : key = head
      · simp [hkey, hkeep]
      · simp [hkey]

theorem get?_delete : (m.delete key).get? other = if other = key then none else m.get? other := by
  have hfilter := get?_filter m other (· != key)
  by_cases hother : other = key
  · simpa [delete, hother] using hfilter
  · simpa [delete, hother] using hfilter

theorem get?_set : (m.set key value).get? other = if other = key then some value else m.get? other := by
  rw [set, get?_cons, get?_delete]
  by_cases hother : other = key <;> simp [hother]

theorem get?_write (entry : Option String) :
    (m.write key entry).get? other = if other = key then entry else m.get? other := by
  cases entry with
  | none => exact get?_delete m key other
  | some value => exact get?_set m key other value

theorem get?_isSome : (m.get? key).isSome = true ↔ key ∈ m.keys := by
  induction m with
  | nil => simp [get?, keys]
  | cons entry rest ih =>
    obtain ⟨head, value⟩ := entry
    rw [get?_cons]
    by_cases hkey : key = head
    · simp [keys, hkey]
    · rw [if_neg hkey, ih]
      simp [keys, hkey]

theorem get?_eq_none : m.get? key = none ↔ key ∉ m.keys := by
  rw [← get?_isSome, Option.not_isSome_iff_eq_none]

theorem get?_copy (src : StringMap) : (m.copy src).get? key = (src.get? key).or (m.get? key) := by
  induction src with
  | nil => rfl
  | cons entry rest ih =>
    obtain ⟨head, value⟩ := entry
    change ((m.copy rest).set head value).get? key = _
    rw [get?_set, get?_cons]
    by_cases hkey : key = head
    · simp [hkey]
    · rw [if_neg hkey, if_neg hkey, ih]

theorem get?_foldl_delete (removed : List String) :
    (removed.foldl delete m).get? key = if key ∈ removed then none else m.get? key := by
  induction removed generalizing m with
  | nil => rfl
  | cons head rest ih =>
    rw [List.foldl_cons, ih, get?_delete]
    by_cases hrest : key ∈ rest
    · simp [hrest]
    · by_cases hhead : key = head <;> simp [hrest, hhead]

-- A JSON merge patch made from two versions of a map, applied to a third.
def mergePatch (base modified current : StringMap) : StringMap :=
  let removed := base.keys.filter fun key => (modified.get? key).isNone
  let written := modified.filter fun entry => base.get? entry.1 != modified.get? entry.1
  (removed.foldl delete current).copy written

-- It changes the keys on which the two versions differ and no other.
theorem get?_mergePatch (base modified current : StringMap) :
    (mergePatch base modified current).get? key =
      if base.get? key = modified.get? key then current.get? key else modified.get? key := by
  have hwritten := get?_filter modified key fun key => base.get? key != modified.get? key
  have hremoved : key ∈ base.keys.filter (fun key => (modified.get? key).isNone) ↔
      (base.get? key).isSome = true ∧ modified.get? key = none := by
    rw [List.mem_filter, ← get?_isSome, Option.isNone_iff_eq_none]
  rw [mergePatch, get?_copy, hwritten, get?_foldl_delete]
  by_cases hsame : base.get? key = modified.get? key
  · have hkept : key ∉ base.keys.filter (fun key => (modified.get? key).isNone) := by
      rw [hremoved, hsame]
      rintro ⟨hsome, hnone⟩
      rw [hnone] at hsome
      cases hsome
    simp [hsame, hkept]
  · have hdiffer : (base.get? key != modified.get? key) = true := by simp [hsame]
    rw [if_pos hdiffer, if_neg hsame]
    cases hmodified : modified.get? key with
    | some value => rfl
    | none =>
      have hgone : key ∈ base.keys.filter (fun key => (modified.get? key).isNone) := by
        rw [hremoved]
        refine ⟨?_, hmodified⟩
        rw [hmodified] at hsame
        exact Option.isSome_iff_ne_none.mpr hsame
      rw [if_pos hgone]
      rfl

end Caplv.Text.StringMap

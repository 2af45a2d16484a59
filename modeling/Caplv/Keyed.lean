import Mathlib.Data.List.Nodup

namespace Caplv.Keyed

variable {α κ : Type} [DecidableEq κ] (key : α → κ)

-- An entry takes the place of all elements with its key, at the end of the list.
def put (list : List α) (entry : α) : List α := list.filter (fun x => key x ≠ key entry) ++ [entry]

def putAll (list entries : List α) : List α := entries.foldl (put key) list

def others (list entries : List α) : List α := list.filter fun x => key x ∉ entries.map key

theorem others_nil (list : List α) : others key list [] = list := by simp [others]

theorem others_append_left (left right entries : List α) :
    others key (left ++ right) entries = others key left entries ++ others key right entries :=
  List.filter_append ..

theorem others_self (entries : List α) : others key entries entries = [] := by
  rw [others, List.filter_eq_nil_iff]
  intro x hx
  simpa using ⟨x, hx, rfl⟩

theorem others_disjoint {left right : List α} (h : ∀ x ∈ left, ∀ y ∈ right, key x ≠ key y) :
    others key left right = left := by
  rw [others, List.filter_eq_self]
  intro x hx
  simpa using fun y hy => (h x hx y hy).symm

theorem others_others (list left right : List α) :
    others key (others key list left) right = others key list (left ++ right) := by
  rw [others, others, others, List.filter_filter]
  refine List.filter_congr fun x _ => ?_
  simp only [List.map_append, List.mem_append, not_or, Bool.decide_and]
  exact Bool.and_comm _ _

theorem others_comm (list left right : List α) :
    others key list (left ++ right) = others key list (right ++ left) := by
  refine List.filter_congr fun x _ => ?_
  simp only [List.map_append, List.mem_append, or_comm]

theorem put_eq (list : List α) (entry : α) : put key list entry = others key list [entry] ++ [entry] := by
  simp [put, others]

theorem putAll_eq {entries : List α} (h : (entries.map key).Nodup) (list : List α) :
    putAll key list entries = others key list entries ++ entries := by
  induction entries generalizing list with
  | nil => rw [others_nil, List.append_nil]; rfl
  | cons entry entries ih =>
    rw [List.map_cons, List.nodup_cons] at h
    have hfresh : others key [entry] entries = [entry] := by
      refine others_disjoint key fun x hx y hy hkey => h.1 ?_
      rw [← List.mem_singleton.mp hx, hkey]
      exact List.mem_map.mpr ⟨y, hy, rfl⟩
    calc putAll key list (entry :: entries)
        = putAll key (put key list entry) entries := rfl
      _ = others key (put key list entry) entries ++ entries := ih h.2 _
      _ = others key list ([entry] ++ entries) ++ [entry] ++ entries := by
          rw [put_eq, others_append_left, others_others, hfresh]
      _ = others key list (entry :: entries) ++ entry :: entries := by
          rw [List.append_assoc]; rfl

theorem putAll_self {entries : List α} (h : (entries.map key).Nodup) (list : List α) :
    putAll key (putAll key list entries) entries = putAll key list entries := by
  rw [putAll_eq key h, putAll_eq key h, others_append_left, others_self, List.append_nil, others_others]
  congr 1
  refine List.filter_congr fun x _ => ?_
  simp

end Caplv.Keyed

import Mathlib.Data.List.Infix

namespace Caplv.Shell

-- A pattern in which a star stands for any text, blanks and slashes included.
def glob : List Char → List Char → Bool
  | [], text => text.isEmpty
  | c :: pattern, text =>
    if c = '*' then text.tails.any (glob pattern)
    else
      match text with
      | [] => false
      | d :: rest => c == d && glob pattern rest

section Glob

variable {head pattern text : List Char}

theorem glob_star : glob ('*' :: pattern) text = true ↔
    ∃ skipped rest, text = skipped ++ rest ∧ glob pattern rest = true := by
  rw [glob.eq_def]
  change text.tails.any (glob pattern) = true ↔ _
  rw [List.any_eq_true]
  constructor
  · rintro ⟨rest, hrest, hglob⟩
    obtain ⟨skipped, rfl⟩ := (List.mem_tails _ _).mp hrest
    exact ⟨skipped, rest, rfl, hglob⟩
  · rintro ⟨skipped, rest, rfl, hglob⟩
    exact ⟨rest, (List.mem_tails _ _).mpr ⟨skipped, rfl⟩, hglob⟩

theorem glob_literal (hhead : '*' ∉ head) :
    glob (head ++ pattern) text = true ↔ ∃ rest, text = head ++ rest ∧ glob pattern rest = true := by
  induction head generalizing text with
  | nil => simp
  | cons c head ih =>
    obtain ⟨hc, hrest⟩ := List.ne_and_not_mem_of_not_mem_cons hhead
    rw [List.cons_append, glob.eq_def]
    dsimp only
    rw [if_neg (Ne.symm hc)]
    cases text with
    | nil => simp
    | cons d text =>
      dsimp only
      rw [Bool.and_eq_true, beq_iff_eq, ih hrest]
      constructor
      · rintro ⟨rfl, rest, rfl, hglob⟩
        exact ⟨rest, rfl, hglob⟩
      · rintro ⟨rest, heq, hglob⟩
        obtain ⟨rfl, rfl⟩ := List.cons.inj heq
        exact ⟨rfl, rest, rfl, hglob⟩

theorem prefix_of_glob (hhead : '*' ∉ head) (h : glob (head ++ pattern) text = true) : head <+: text := by
  obtain ⟨rest, rfl, -⟩ := (glob_literal hhead).mp h
  exact List.prefix_append head rest

theorem take_of_glob {n : Nat} (hstar : '*' ∉ pattern.take n) (hn : n ≤ pattern.length)
    (h : glob pattern text = true) : text.take n = pattern.take n := by
  rw [← List.take_append_drop n pattern] at h
  obtain ⟨rest, rfl⟩ := prefix_of_glob hstar h
  have hlength : (pattern.take n).length = n := List.length_take_of_le hn
  rw [List.take_append_of_le_length (Nat.le_of_eq hlength.symm), List.take_of_length_le (Nat.le_of_eq hlength)]

theorem glob_star_last (hhead : '*' ∉ head) : glob (head ++ ['*']) text = true ↔ head <+: text := by
  refine ⟨prefix_of_glob hhead, ?_⟩
  rintro ⟨rest, rfl⟩
  exact (glob_literal hhead).mpr ⟨rest, rfl, glob_star.mpr ⟨rest, [], by simp, rfl⟩⟩

end Glob

end Caplv.Shell

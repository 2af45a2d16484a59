import Mathlib.Init

namespace Caplv.Program

-- What an expression without a value does instead.
inductive Panic where
  | outOfRange
deriving DecidableEq, Repr

variable {α : Type}

-- items[i]
def index (items : List α) (i : Nat) : Except Panic α :=
  match items[i]? with
  | some item => .ok item
  | none => .error .outOfRange

-- items[i:j]
def slice (items : List α) (i j : Nat) : Except Panic (List α) :=
  if i ≤ j ∧ j ≤ items.length then .ok ((items.take j).drop i) else .error .outOfRange

theorem slice_of_le {items : List α} {i j : Nat} (hi : i ≤ j) (hj : j ≤ items.length) :
    slice items i j = .ok ((items.take j).drop i) :=
  if_pos ⟨hi, hj⟩

end Caplv.Program

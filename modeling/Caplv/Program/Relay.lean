import Caplv.Program.Expand

namespace Caplv.Program

variable {sig low : Signature} {α ε σ τ : Type}

-- Each implemented operation is replaced by a program that performs it and may give up, which
-- ends the whole.
def Prog.relay (impl : (op : sig.Op) → Option (Prog low (Except ε (sig.Reply op)))) :
    Prog sig α → Prog (sig.sum low) (Except ε α)
  | .done value => .done (.ok value)
  | .ask op next =>
    match impl op with
    | none => .ask (.inl op) fun reply => (next reply).relay impl
    | some prog => do
        match ← prog.inr with
        | .error err => .done (.error err)
        | .ok reply => (next reply).relay impl

def Machine.sum (upper : Machine sig σ) (lower : Machine low σ) : Machine (sig.sum low) σ :=
  fun state op => match op with
    | .inl op => upper state op
    | .inr op => lower state op

theorem run_inr (upper : Machine sig σ) (lower : Machine low σ) (prog : Prog low α) (state : σ) :
    run (upper.sum lower) prog.inr state = run lower prog state := by
  induction prog generalizing state with
  | done value => rfl
  | ask op next ih => exact ih _ _

section Refinement

variable {impl : (op : sig.Op) → Option (Prog low (Except ε (sig.Reply op)))} {spec : Machine sig σ}
  {upper : Machine sig τ} {lower : Machine low τ} {rep : τ → σ → Prop} {guard : σ → sig.Op → Prop}

-- If each operation does on the state below what it does on the state above, then so does a
-- whole run in which every operation is issued where it may be.
theorem run_relay
    (hkept : ∀ {above below op}, impl op = none → rep below above → guard above op →
      (upper below op).1 = (spec above op).1 ∧ rep (upper below op).2 (spec above op).2)
    (himpl : ∀ {above below op prog}, impl op = some prog → rep below above → guard above op →
      ∃ after, run lower prog below = (.ok (spec above op).1, after) ∧ rep after (spec above op).2)
    {post : α → σ → Prop} {prog : Prog sig α} {above : σ} {below : τ}
    (h : Holds spec.handler guard post prog above) (hrep : rep below above) :
    ∃ after, run (upper.sum lower) (prog.relay impl) below = (.ok (run spec prog above).1, after) ∧
      rep after (run spec prog above).2 := by
  induction prog generalizing above below with
  | done value => exact ⟨below, rfl, hrep⟩
  | ask op next ih =>
    obtain ⟨hguard, hnext⟩ := h
    have hrest := hnext (spec above op).1 (spec above op).2 rfl
    cases hop : impl op with
    | none =>
      obtain ⟨hreply, hafter⟩ := hkept hop hrep hguard
      rw [Prog.relay, hop]
      change ∃ after, run _ ((next (upper below op).1).relay impl) (upper below op).2 = _ ∧ _
      rw [hreply]
      exact ih _ hrest hafter
    | some prog =>
      obtain ⟨middle, hrun, hmiddle⟩ := himpl hop hrep hguard
      rw [Prog.relay, hop]
      change ∃ after, run _ (prog.inr >>= _) below = _ ∧ _
      rw [run_bind, run_inr, hrun]
      exact ih _ hrest hmiddle

end Refinement

end Caplv.Program

import Caplv.Program.System

namespace Caplv.Program

variable {sig low : Signature} {α β σ : Type}

def Signature.sum (sig low : Signature) : Signature :=
  ⟨sig.Op ⊕ low.Op, Sum.elim sig.Reply low.Reply⟩

-- An implementation of some operations of a signature by programs over a lower one.
abbrev Implementation (sig low : Signature) := (op : sig.Op) → Option (Prog low (sig.Reply op))

namespace Prog

def inr : Prog low α → Prog (sig.sum low) α
  | .done value => .done value
  | .ask op next => .ask (.inr op) fun reply => (next reply).inr

-- The program with each implemented operation replaced by the program that performs it.
def expand (impl : Implementation sig low) : Prog sig α → Prog (sig.sum low) α
  | .done value => .done value
  | .ask op next =>
    match impl op with
    | none => .ask (.inl op) fun reply => (next reply).expand impl
    | some prog => prog.inr >>= fun reply => (next reply).expand impl

-- The same where all are implemented.
def translate (impl : (op : sig.Op) → Prog low (sig.Reply op)) : Prog sig α → Prog low α
  | .done value => .done value
  | .ask op next => impl op >>= fun reply => (next reply).translate impl

end Prog

def Handler.sum (upper : Handler sig σ) (lower : Handler low σ) : Handler (sig.sum low) σ :=
  fun before op => match op with
    | .inl op => fun reply after => upper before op reply after
    | .inr op => fun reply after => lower before op reply after

section Holds

variable {step : Handler (sig.sum low) σ} {guard : σ → (sig.sum low).Op → Prop}

theorem Holds.sumRight {post : α → σ → Prop} {prog : Prog low α} {state : σ}
    (h : Holds (fun before op reply after => step before (.inr op) reply after)
      (fun before op => guard before (.inr op)) post prog state) :
    Holds step guard post (prog.inr : Prog (sig.sum low) α) state := by
  induction prog generalizing state with
  | done value => exact h
  | ask op next ih => exact ⟨h.1, fun reply after hs => ih reply (h.2 reply after hs)⟩

-- A specification of the program whose steps summarise what the implementations do is one
-- of the expanded program.
theorem Holds.expand {impl : Implementation sig low} {summary : Handler sig σ}
    {guard' : σ → sig.Op → Prop} {post : α → σ → Prop} {prog : Prog sig α} {state : σ}
    (h : Holds summary guard' post prog state)
    (hkept : ∀ before op, impl op = none → guard' before op → guard before (.inl op) ∧
      ∀ reply after, step before (.inl op) reply after → summary before op reply after)
    (himpl : ∀ before op prog, impl op = some prog → guard' before op →
      Holds step guard (summary before op) (prog.inr : Prog (sig.sum low) _) before) :
    Holds step guard post (prog.expand impl) state := by
  induction prog generalizing state with
  | done value => exact h
  | ask op next ih =>
    obtain ⟨hguard, hnext⟩ := h
    cases hop : impl op with
    | none =>
      obtain ⟨hguard', hstep⟩ := hkept state op hop hguard
      rw [Prog.expand, hop]
      exact ⟨hguard', fun reply after hs => ih reply (hnext reply after (hstep reply after hs))⟩
    | some prog =>
      rw [Prog.expand, hop]
      exact (himpl state op prog hop hguard).bind fun reply after hs =>
        ih reply (hnext reply after hs)

end Holds

end Caplv.Program

import Mathlib.Logic.Relation

namespace Caplv.Program

-- The operations a program may issue, each with the type of its reply.
structure Signature where
  Op : Type
  Reply : Op → Type

inductive Prog (sig : Signature) (α : Type) : Type where
  | done (value : α)
  | ask (op : sig.Op) (next : sig.Reply op → Prog sig α)

variable {sig : Signature} {α β γ σ : Type}

namespace Prog

protected def bind : Prog sig α → (α → Prog sig β) → Prog sig β
  | .done value, f => f value
  | .ask op next, f => .ask op fun reply => (next reply).bind f

instance : Monad (Prog sig) where
  pure := Prog.done
  bind := Prog.bind

def perform (op : sig.Op) : Prog sig (sig.Reply op) :=
  .ask op .done

@[simp] theorem pure_eq_done (value : α) : (pure value : Prog sig α) = .done value := rfl

@[simp] theorem done_bind (value : α) (f : α → Prog sig β) : (Prog.done value >>= f) = f value := rfl

@[simp] theorem ask_bind (op : sig.Op) (next : sig.Reply op → Prog sig α) (f : α → Prog sig β) :
    (Prog.ask op next >>= f) = .ask op fun reply => next reply >>= f := rfl

@[simp] theorem perform_bind (op : sig.Op) (f : sig.Reply op → Prog sig β) :
    (perform op >>= f) = .ask op f := rfl

protected theorem bind_done (prog : Prog sig α) : prog.bind .done = prog := by
  induction prog with
  | done value => rfl
  | ask op next ih => exact congrArg (Prog.ask op) (funext ih)

protected theorem bind_assoc (prog : Prog sig α) (f : α → Prog sig β) (g : β → Prog sig γ) :
    (prog.bind f).bind g = prog.bind fun value => (f value).bind g := by
  induction prog with
  | done value => rfl
  | ask op next ih => exact congrArg (Prog.ask op) (funext ih)

instance : LawfulMonad (Prog sig) :=
  LawfulMonad.mk' (Prog sig) Prog.bind_done (fun _ _ => rfl) Prog.bind_assoc

end Prog

-- A handler says which replies an operation may get in a state, and which
-- state it leaves behind.
abbrev Handler (sig : Signature) (σ : Type) : Type :=
  σ → (op : sig.Op) → sig.Reply op → σ → Prop

abbrev Event (sig : Signature) : Type :=
  (op : sig.Op) × sig.Reply op

-- `Exec step prog before events rest after`: `prog` issued the operations of
-- `events`, got their replies and has `rest` still to do. A crash leaves any
-- such `rest` behind; a completed run leaves `.done`.
inductive Exec (step : Handler sig σ) :
    Prog sig α → σ → List (Event sig) → Prog sig α → σ → Prop where
  | refl (prog : Prog sig α) (state : σ) : Exec step prog state [] prog state
  | ask {op : sig.Op} {next : sig.Reply op → Prog sig α} {reply : sig.Reply op}
      {before middle after : σ} {events : List (Event sig)} {rest : Prog sig α}
      (hstep : step before op reply middle) (hrest : Exec step (next reply) middle events rest after) :
      Exec step (.ask op next) before (⟨op, reply⟩ :: events) rest after

theorem Exec.trans {step : Handler sig σ} {first second third : Prog sig α} {s t u : σ}
    {left right : List (Event sig)} (hl : Exec step first s left second t)
    (hr : Exec step second t right third u) : Exec step first s (left ++ right) third u := by
  induction hl with
  | refl => exact hr
  | ask hstep _ ih => exact .ask hstep (ih hr)

-- A run stays a run under a handler that allows all its steps. The invariant says which
-- states it can be in.
theorem Exec.strengthen {step step' : Handler sig σ} {inv : σ → Prop} {prog rest : Prog sig α}
    {s t : σ} {events : List (Event sig)} (h : Exec step prog s events rest t) (hs : inv s)
    (hstep : ∀ before op reply after, inv before → step before op reply after →
      step' before op reply after ∧ inv after) : Exec step' prog s events rest t := by
  induction h with
  | refl => exact .refl _ _
  | ask hfirst _ ih =>
    obtain ⟨hfirst', hmiddle⟩ := hstep _ _ _ _ hs hfirst
    exact .ask hfirst' (ih hmiddle)

-- A deterministic handler computes the reply and the next state.
abbrev Machine (sig : Signature) (σ : Type) : Type :=
  σ → (op : sig.Op) → sig.Reply op × σ

def Machine.handler (machine : Machine sig σ) : Handler sig σ :=
  fun before op reply after => machine before op = (reply, after)

def run (machine : Machine sig σ) : Prog sig α → σ → α × σ
  | .done value, state => (value, state)
  | .ask op next, state => run machine (next (machine state op).1) (machine state op).2

def runFor (machine : Machine sig σ) : Nat → Prog sig α → σ → Prog sig α × σ
  | 0, prog, state => (prog, state)
  | _ + 1, .done value, state => (.done value, state)
  | n + 1, .ask op next, state => runFor machine n (next (machine state op).1) (machine state op).2

-- The states a run passes through, the first and the last included.
def visited (machine : Machine sig σ) : Prog sig α → σ → List σ
  | .done _, state => [state]
  | .ask op next, state =>
    state :: visited machine (next (machine state op).1) (machine state op).2

@[simp] theorem run_done (machine : Machine sig σ) (value : α) (state : σ) :
    run machine (.done value) state = (value, state) := rfl

@[simp] theorem run_ask (machine : Machine sig σ) (op : sig.Op)
    (next : sig.Reply op → Prog sig α) (state : σ) :
    run machine (.ask op next) state =
      run machine (next (machine state op).1) (machine state op).2 := rfl

@[simp] theorem run_bind (machine : Machine sig σ) (prog : Prog sig α) (f : α → Prog sig β)
    (state : σ) :
    run machine (prog >>= f) state =
      run machine (f (run machine prog state).1) (run machine prog state).2 := by
  induction prog generalizing state with
  | done value => rfl
  | ask op next ih => exact ih _ _

theorem run_exec (machine : Machine sig σ) (prog : Prog sig α) (state : σ) :
    ∃ events, Exec machine.handler prog state events
      (.done (run machine prog state).1) (run machine prog state).2 := by
  induction prog generalizing state with
  | done value => exact ⟨[], .refl _ _⟩
  | ask op next ih =>
    obtain ⟨events, h⟩ := ih (machine state op).1 (machine state op).2
    exact ⟨_, .ask rfl h⟩

theorem runFor_exec (machine : Machine sig σ) (n : Nat) (prog : Prog sig α) (state : σ) :
    ∃ events, Exec machine.handler prog state events (runFor machine n prog state).1
      (runFor machine n prog state).2 := by
  induction n generalizing prog state with
  | zero => exact ⟨[], .refl _ _⟩
  | succ n ih =>
    cases prog with
    | done value => exact ⟨[], .refl _ _⟩
    | ask op next =>
      obtain ⟨events, h⟩ := ih (next (machine state op).1) (machine state op).2
      exact ⟨_, .ask rfl h⟩

theorem Exec.mem_visited {machine : Machine sig σ} {prog rest : Prog sig α} {s t : σ}
    {events : List (Event sig)} (h : Exec machine.handler prog s events rest t) :
    t ∈ visited machine prog s := by
  induction h with
  | refl prog state => cases prog <;> simp [visited]
  | @ask op next reply before middle after events rest hstep _ ih =>
    rw [visited, show machine before op = (reply, middle) from hstep]
    exact List.mem_cons_of_mem _ ih

theorem mem_visited_bind {machine : Machine sig σ} {prog : Prog sig α} {f : α → Prog sig β}
    {state mid : σ} (h : mid ∈ visited machine (prog >>= f) state) :
    mid ∈ visited machine prog state ∨
      mid ∈ visited machine (f (run machine prog state).1) (run machine prog state).2 := by
  induction prog generalizing state with
  | done value => exact .inr h
  | ask op next ih =>
    rcases List.mem_cons.mp h with rfl | h
    · exact .inl (by simp [visited])
    · rcases ih _ h with h | h
      · exact .inl (List.mem_cons_of_mem _ h)
      · exact .inr h

end Caplv.Program

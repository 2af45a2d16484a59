import Caplv.Program.Logic
import Mathlib.Logic.Function.Basic

namespace Caplv.Program

variable {sig : Signature} {α σ ι : Type} {machine : Machine sig σ} {enabled : σ → sig.Op → Bool}
  {prog : Prog sig α}

-- The handler as one of several concurrent programs sees it: whatever `rely` allows may
-- happen after each of its own operations.
def interfered (rely : σ → σ → Prop) (step : Handler sig σ) : Handler sig σ :=
  fun before op reply after => ∃ middle, step before op reply middle ∧ rely middle after

-- `Holds` for a program that runs under interference; `post` also outlasts what the others
-- do after the program has ended.
def EndsUnder (rely : σ → σ → Prop) (step : Handler sig σ) (guard : σ → sig.Op → Prop)
    (post : α → σ → Prop) (prog : Prog sig α) (state : σ) : Prop :=
  ∀ other, rely state other → Holds (interfered rely step) guard post prog other

def HoldsUnder (rely : σ → σ → Prop) (step : Handler sig σ) (guard : σ → sig.Op → Prop)
    (prog : Prog sig α) (state : σ) : Prop :=
  EndsUnder rely step guard (fun _ _ => True) prog state

section EndsUnder

variable {rely : σ → σ → Prop} {step : Handler sig σ} {guard : σ → sig.Op → Prop}
  {post : α → σ → Prop}

theorem EndsUnder.stable {prog : Prog sig α} {state other : σ} (h : EndsUnder rely step guard post prog state)
    (htrans : ∀ a b c, rely a b → rely b c → rely a c) (hrely : rely state other) :
    EndsUnder rely step guard post prog other :=
  fun later hlater => h later (htrans state other later hrely hlater)

theorem EndsUnder.guard_ask {op : sig.Op} {next : sig.Reply op → Prog sig α} {state : σ}
    (h : EndsUnder rely step guard post (.ask op next) state) (hrefl : ∀ a, rely a a) : guard state op :=
  (h state (hrefl state)).1

theorem EndsUnder.next {op : sig.Op} {next : sig.Reply op → Prog sig α} {reply : sig.Reply op} {state after : σ}
    (h : EndsUnder rely step guard post (.ask op next) state) (hrefl : ∀ a, rely a a)
    (hstep : step state op reply after) : EndsUnder rely step guard post (next reply) after :=
  fun other hrely => (h state (hrefl state)).2 reply other ⟨after, hstep, hrely⟩

end EndsUnder

-- Every operation of a deterministic run, up to the given number, is one of `enabled`.
def permits (machine : Machine sig σ) (enabled : σ → sig.Op → Bool) : Nat → Prog sig α → σ → Bool
  | 0, _, _ => true
  | _ + 1, .done _, _ => true
  | n + 1, .ask op next, state => enabled state op &&
      permits machine enabled n (next (machine state op).1) (machine state op).2

theorem permits_of_forall (h : ∀ state op, enabled state op = true) (n : Nat) (prog : Prog sig α) (state : σ) :
    permits machine enabled n prog state = true := by
  induction n generalizing prog state with
  | zero => rfl
  | succ n ih =>
    cases prog with
    | done value => rfl
    | ask op next =>
      rw [permits, h, Bool.true_and]
      exact ih _ _

theorem exec_of_permits {step : Handler sig σ} (hstep : ∀ before op, enabled before op = true →
      step before op (machine before op).1 (machine before op).2) (n : Nat) {state : σ}
    (h : permits machine enabled n prog state = true) :
    ∃ events, Exec step prog state events (runFor machine n prog state).1
      (runFor machine n prog state).2 := by
  induction n generalizing prog state with
  | zero => exact ⟨[], .refl _ _⟩
  | succ n ih =>
    cases prog with
    | done value => exact ⟨[], .refl _ _⟩
    | ask op next =>
      rw [permits, Bool.and_eq_true] at h
      obtain ⟨events, hrest⟩ := ih h.2
      exact ⟨_, .ask (hstep state op h.1) hrest⟩

def permitted (machine : Machine sig σ) (enabled : σ → sig.Op → Bool) : Prog sig α → σ → Bool
  | .done _, _ => true
  | .ask op next, state => enabled state op &&
      permitted machine enabled (next (machine state op).1) (machine state op).2

theorem completes_of_permitted {step : Handler sig σ} (hstep : ∀ before op, enabled before op = true →
      step before op (machine before op).1 (machine before op).2) {state : σ}
    (h : permitted machine enabled prog state = true) :
    Completes step prog state (run machine prog state).1 (run machine prog state).2 := by
  induction prog generalizing state with
  | done value => exact ⟨[], .refl _ _⟩
  | ask op next ih =>
    rw [permitted, Bool.and_eq_true] at h
    obtain ⟨events, hrest⟩ := ih _ h.2
    exact ⟨_, .ask (hstep state op h.1) hrest⟩

theorem holds_of_permitted {guard : σ → sig.Op → Prop}
    (henabled : ∀ before op, enabled before op = true → guard before op) {state : σ}
    (h : permitted machine enabled prog state = true) :
    Holds machine.handler guard (fun _ _ => True) prog state := by
  induction prog generalizing state with
  | done value => trivial
  | ask op next ih =>
    rw [permitted, Bool.and_eq_true] at h
    refine ⟨henabled state op h.1, fun reply after hreply => ih reply ?_⟩
    rw [(show machine state op = (reply, after) from hreply)] at h
    exact h.2

-- A deterministic run of a program that holds issues guarded operations only.
theorem Holds.permitted {machine : Machine sig σ} {enabled : σ → sig.Op → Bool} {step : Handler sig σ}
    {guard : σ → sig.Op → Prop} {post : α → σ → Prop} {prog : Prog sig α} {state : σ}
    (h : Holds step guard post prog state)
    (hstep : ∀ before op, step before op (machine before op).1 (machine before op).2)
    (henabled : ∀ before op, guard before op → enabled before op = true) :
    permitted machine enabled prog state = true := by
  induction prog generalizing state with
  | done value => rfl
  | ask op next ih =>
    rw [Program.permitted, henabled state op h.1, Bool.true_and]
    exact ih _ (h.2 _ _ (hstep state op))

-- Programs that run in parallel on one state, an environment that changes it too, and
-- crashes: a program may stop before any of its operations, and start again.
structure System (sig : Signature) (σ ι α : Type) where
  handler : ι → Handler sig σ
  env : σ → σ → Prop
  start : ι → Prog sig α → Prop

structure Config (sig : Signature) (σ ι α : Type) where
  state : σ
  threads : ι → Option (Prog sig α)

namespace System

variable [DecidableEq ι] (system : System sig σ ι α)

inductive Step : Config sig σ ι α → Config sig σ ι α → Prop where
  | env {c : Config sig σ ι α} {after : σ} (h : system.env c.state after) :
      Step c { c with state := after }
  | start {c : Config sig σ ι α} {i : ι} {prog : Prog sig α} (hidle : c.threads i = none)
      (hstart : system.start i prog) :
      Step c { c with threads := Function.update c.threads i (some prog) }
  | op {c : Config sig σ ι α} {i : ι} {op : sig.Op} {next : sig.Reply op → Prog sig α}
      {reply : sig.Reply op} {after : σ} (hthread : c.threads i = some (.ask op next))
      (hstep : system.handler i c.state op reply after) :
      Step c ⟨after, Function.update c.threads i (some (next reply))⟩
  | stop {c : Config sig σ ι α} (i : ι) :
      Step c { c with threads := Function.update c.threads i none }

def idle (state : σ) : Config sig σ ι α := ⟨state, fun _ => none⟩

def Reachable (init : σ → Prop) (c : Config sig σ ι α) : Prop :=
  ∃ state, init state ∧ Relation.ReflTransGen system.Step (idle state) c

-- The rely-guarantee rule: the threads keep the invariant and respect what the others
-- rely on, because each of them does so at every operation its guard lets it issue.
theorem reachable_ends {init : σ → Prop} (inv : σ → Prop) (rely : ι → σ → σ → Prop)
    (guard : ι → σ → sig.Op → Prop) (post : ι → α → σ → Prop) (hrefl : ∀ i a, rely i a a)
    (htrans : ∀ i a b c, rely i a b → rely i b c → rely i a c) (hinit : ∀ state, init state → inv state)
    (henv : ∀ before after, inv before → system.env before after →
      inv after ∧ ∀ i, rely i before after)
    (hstart : ∀ i prog state, inv state → system.start i prog →
      EndsUnder (rely i) (system.handler i) (guard i) (post i) prog state)
    (hop : ∀ i before op reply after, inv before → guard i before op →
      system.handler i before op reply after → inv after ∧ ∀ j, j ≠ i → rely j before after)
    {c : Config sig σ ι α} (hc : system.Reachable init c) :
    inv c.state ∧ ∀ i prog, c.threads i = some prog →
      EndsUnder (rely i) (system.handler i) (guard i) (post i) prog c.state := by
  obtain ⟨state, hs, hpath⟩ := hc
  induction hpath with
  | refl => exact ⟨hinit state hs, fun _ _ h => nomatch h⟩
  | tail _ hstep ih =>
    obtain ⟨hinv, hthreads⟩ := ih
    cases hstep with
    | env h =>
      obtain ⟨hinv', hrely⟩ := henv _ _ hinv h
      exact ⟨hinv', fun i prog hp => (hthreads i prog hp).stable (htrans i) (hrely i)⟩
    | @start i prog hidle hprog =>
      refine ⟨hinv, fun j prog' hj => ?_⟩
      rcases eq_or_ne j i with rfl | hne
      · obtain rfl : prog = prog' := by simpa using hj
        exact hstart j prog _ hinv hprog
      · exact hthreads j prog' (by simpa [hne] using hj)
    | @op i op next reply after hthread hstep =>
      have hown := hthreads i _ hthread
      obtain ⟨hinv', hrely⟩ := hop i _ op reply _ hinv (hown.guard_ask (hrefl i)) hstep
      refine ⟨hinv', fun j prog' hj => ?_⟩
      rcases eq_or_ne j i with rfl | hne
      · obtain rfl : next reply = prog' := by simpa using hj
        exact hown.next (hrefl j) hstep
      · exact (hthreads j prog' (by simpa [hne] using hj)).stable (htrans j) (hrely j hne)
    | stop i =>
      refine ⟨hinv, fun j prog' hj => hthreads j prog' ?_⟩
      rcases eq_or_ne j i with rfl | hne
      · simp at hj
      · simpa [hne] using hj

theorem reachable_safe {init : σ → Prop} (inv : σ → Prop) (rely : ι → σ → σ → Prop)
    (guard : ι → σ → sig.Op → Prop) (hrefl : ∀ i a, rely i a a)
    (htrans : ∀ i a b c, rely i a b → rely i b c → rely i a c) (hinit : ∀ state, init state → inv state)
    (henv : ∀ before after, inv before → system.env before after →
      inv after ∧ ∀ i, rely i before after)
    (hstart : ∀ i prog state, inv state → system.start i prog →
      HoldsUnder (rely i) (system.handler i) (guard i) prog state)
    (hop : ∀ i before op reply after, inv before → guard i before op →
      system.handler i before op reply after → inv after ∧ ∀ j, j ≠ i → rely j before after)
    {c : Config sig σ ι α} (hc : system.Reachable init c) :
    inv c.state ∧ ∀ i prog, c.threads i = some prog →
      HoldsUnder (rely i) (system.handler i) (guard i) prog c.state :=
  system.reachable_ends inv rely guard (fun _ _ _ => True) hrefl htrans hinit henv hstart hop hc

theorem step_exec {i : ι} {prog rest : Prog sig α} {before after : σ} {events : List (Event sig)}
    (h : Exec (system.handler i) prog before events rest after) (threads : ι → Option (Prog sig α)) :
    Relation.ReflTransGen system.Step ⟨before, Function.update threads i (some prog)⟩
      ⟨after, Function.update threads i (some rest)⟩ := by
  induction h with
  | refl => exact .refl
  | @ask op next reply b m a events rest hstep _ ih =>
    refine .head ?_ ih
    let c : Config sig σ ι α := ⟨b, Function.update threads i (some (.ask op next))⟩
    have hthread : c.threads i = some (.ask op next) := Function.update_self ..
    simpa [c] using (Step.op hthread hstep : system.Step c _)

section Reach

variable {system} {init : σ → Prop} {c : Config sig σ ι α} {i : ι} {prog : Prog sig α}

theorem reachable_idle {state : σ} (h : init state) : system.Reachable init (idle state) :=
  ⟨state, h, .refl⟩

theorem Reachable.start (hc : system.Reachable init c) (hidle : c.threads i = none)
    (hprog : system.start i prog) :
    system.Reachable init { c with threads := Function.update c.threads i (some prog) } := by
  obtain ⟨state, hs, hpath⟩ := hc
  exact ⟨state, hs, hpath.tail (.start hidle hprog)⟩

theorem Reachable.env {after : σ} (hc : system.Reachable init c) (h : system.env c.state after) :
    system.Reachable init { c with state := after } := by
  obtain ⟨state, hs, hpath⟩ := hc
  exact ⟨state, hs, hpath.tail (.env h)⟩

theorem Reachable.stop (hc : system.Reachable init c) (i : ι) :
    system.Reachable init { c with threads := Function.update c.threads i none } := by
  obtain ⟨state, hs, hpath⟩ := hc
  exact ⟨state, hs, hpath.tail (.stop i)⟩

-- One thread goes on by itself for a while, the way a deterministic machine answers it.
theorem Reachable.runFor (hc : system.Reachable init c) (hi : c.threads i = some prog)
    (machine : Machine sig σ) (enabled : σ → sig.Op → Bool) (n : Nat)
    (henabled : permits machine enabled n prog c.state = true)
    (hstep : ∀ before op, enabled before op = true →
      system.handler i before op (machine before op).1 (machine before op).2) :
    system.Reachable init ⟨(Program.runFor machine n prog c.state).2,
      Function.update c.threads i (some (Program.runFor machine n prog c.state).1)⟩ := by
  obtain ⟨state, hs, hpath⟩ := hc
  obtain ⟨events, hexec⟩ := exec_of_permits hstep n henabled
  refine ⟨state, hs, hpath.trans ?_⟩
  have hrun := system.step_exec hexec c.threads
  rwa [← hi, Function.update_eq_self] at hrun

theorem Reachable.startRun (hc : system.Reachable init c) (hidle : c.threads i = none)
    (hprog : system.start i prog) (machine : Machine sig σ) (enabled : σ → sig.Op → Bool) (n : Nat)
    (henabled : permits machine enabled n prog c.state = true)
    (hstep : ∀ before op, enabled before op = true →
      system.handler i before op (machine before op).1 (machine before op).2) :
    system.Reachable init ⟨(Program.runFor machine n prog c.state).2,
      Function.update c.threads i (some (Program.runFor machine n prog c.state).1)⟩ := by
  have hrun := (hc.start hidle hprog).runFor (Function.update_self ..) machine enabled n henabled hstep
  rwa [Function.update_idem] at hrun

theorem Reachable.startCrash (hc : system.Reachable init c) (hidle : c.threads i = none)
    (hprog : system.start i prog) (machine : Machine sig σ) (enabled : σ → sig.Op → Bool) (n : Nat)
    (henabled : permits machine enabled n prog c.state = true)
    (hstep : ∀ before op, enabled before op = true →
      system.handler i before op (machine before op).1 (machine before op).2) :
    system.Reachable init { c with state := (Program.runFor machine n prog c.state).2 } := by
  have hcrashed := (hc.startRun hidle hprog machine enabled n henabled hstep).stop i
  rwa [Function.update_idem, ← hidle, Function.update_eq_self] at hcrashed

end Reach

end System

end Caplv.Program

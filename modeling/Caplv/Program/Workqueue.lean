import Caplv.Program.Expand

namespace Caplv.Program

variable {sig : Signature} {σ κ : Type}

-- A work queue: the keys to be worked on, the keys the workers have, and how many additions
-- of a key wait for their time. A key that is added while a worker has it stays marked.
structure Workqueue (κ : Type) where
  dirty : κ → Bool
  processing : κ → Bool
  waiting : κ → Nat

namespace Workqueue

def empty : Workqueue κ := ⟨fun _ => false, fun _ => false, fun _ => 0⟩

variable [DecidableEq κ] (q : Workqueue κ)

def add (key : κ) : Workqueue κ := { q with dirty := Function.update q.dirty key true }

def addAll (keys : List κ) : Workqueue κ := keys.foldl add q

def get (key : κ) : Workqueue κ :=
  { q with dirty := Function.update q.dirty key false, processing := Function.update q.processing key true }

def addAfter (key : κ) : Workqueue κ := { q with waiting := Function.update q.waiting key (q.waiting key + 1) }

def expire (key : κ) : Workqueue κ :=
  { q.add key with waiting := Function.update q.waiting key (q.waiting key - 1) }

def finish (key : κ) : Workqueue κ := { q with processing := Function.update q.processing key false }

-- What a worker leaves behind whose run asks for another time or does not.
def worked (key : κ) (again : Bool) : Workqueue κ :=
  (if again then (q.get key).addAfter key else q.get key).finish key

def Pending (key : κ) : Prop := q.dirty key = true ∨ 0 < q.waiting key

theorem addAll_dirty (keys : List κ) (key : κ) :
    (q.addAll keys).dirty key = true ↔ key ∈ keys ∨ q.dirty key = true := by
  induction keys generalizing q with
  | nil => simp [addAll]
  | cons first rest ih =>
    have hrest := ih (q.add first)
    rw [addAll, List.foldl_cons]
    rw [addAll] at hrest
    rw [hrest, List.mem_cons]
    by_cases hkey : key = first
    · simp [add, hkey]
    · simp [add, hkey]

theorem addAll_processing (keys : List κ) : (q.addAll keys).processing = q.processing := by
  induction keys generalizing q with
  | nil => rfl
  | cons first rest ih => exact ih (q.add first)

theorem addAll_waiting (keys : List κ) : (q.addAll keys).waiting = q.waiting := by
  induction keys generalizing q with
  | nil => rfl
  | cons first rest ih => exact ih (q.add first)

end Workqueue

inductive QueueOp (κ : Type) where
  | get (key : κ)
  | addAfter (key : κ)
  | done (key : κ)
deriving DecidableEq

abbrev queueing (κ : Type) : Signature := ⟨QueueOp κ, fun _ => Unit⟩

-- A worker takes a key, reconciles it, asks for another time if the result says so, and gives
-- the key back.
def worker (reconcile : κ → Prog sig Bool) (key : κ) : Prog ((queueing κ).sum sig) Unit :=
  .ask (.inl (.get key)) fun _ =>
    (reconcile key).inr >>= fun again =>
      if again then .ask (.inl (.addAfter key)) fun _ => .ask (.inl (.done key)) fun _ => .done ()
      else .ask (.inl (.done key)) fun _ => .done ()

-- A reconciler with its watches: what the run for a key does to the world, how the world changes
-- by itself, and the keys the watches add then.
structure Reconciler (sig : Signature) (σ κ : Type) where
  act : κ → Handler sig σ
  changes : σ → σ → List κ → Prop
  reconcile : κ → Prog sig Bool

namespace Reconciler

variable (reconciler : Reconciler sig σ κ)

def onQueue (own : κ) : Handler sig (σ × Workqueue κ) := fun before op reply after =>
  reconciler.act own before.1 op reply after.1 ∧ after.2 = before.2

variable [DecidableEq κ]

def handler (own : κ) : Handler ((queueing κ).sum sig) (σ × Workqueue κ) := fun before op =>
  match op with
  | .inl (.get key) => fun _ after => before.2.dirty key = true ∧ before.2.processing key = false ∧
      after = (before.1, before.2.get key)
  | .inl (.addAfter key) => fun _ after => after = (before.1, before.2.addAfter key)
  | .inl (.done key) => fun _ after => after = (before.1, before.2.finish key)
  | .inr op => fun reply after => reconciler.onQueue own before op reply after

-- The world changes and the watches see it, or a waiting addition is due.
inductive Env (before after : σ × Workqueue κ) : Prop where
  | changes (keys : List κ) (hchanges : reconciler.changes before.1 after.1 keys)
      (hqueue : after.2 = before.2.addAll keys)
  | expire (key : κ) (hwaiting : 0 < before.2.waiting key) (hafter : after = (before.1, before.2.expire key))

-- One worker for each key; a key that is being worked on is not handed out again.
def system : System ((queueing κ).sum sig) (σ × Workqueue κ) κ Unit where
  handler := reconciler.handler
  env := reconciler.Env
  start := fun key prog => prog = worker reconciler.reconcile key

section Coverage

variable {ν : Type} {needs : σ → κ → Prop} {view : σ → κ → ν}

def Covered (needs : σ → κ → Prop) (state : σ × Workqueue κ) (key : κ) : Prop :=
  needs state.1 key → state.2.Pending key

-- While a worker has the key nobody else takes it, what is covered stays covered, and so is what
-- does not look the same any more.
def keepsCovered (needs : σ → κ → Prop) (view : σ → κ → ν) (key : κ) (before after : σ × Workqueue κ) : Prop :=
  before.2.processing key = true →
    after.2.processing key = true ∧ (Covered needs before key → Covered needs after key) ∧
      (view after.1 key = view before.1 key ∨ Covered needs after key)

omit [DecidableEq κ] in
theorem keepsCovered_trans (key : κ) (a b c : σ × Workqueue κ) (hab : keepsCovered needs view key a b)
    (hbc : keepsCovered needs view key b c) : keepsCovered needs view key a c := by
  intro hprocessing
  obtain ⟨hb, hcovered, hview⟩ := hab hprocessing
  obtain ⟨hc, hcovered', hview'⟩ := hbc hb
  refine ⟨hc, hcovered' ∘ hcovered, ?_⟩
  rcases hview with hsame | hlater
  · rcases hview' with hsame' | hlater'
    · exact .inl (hsame'.trans hsame)
    · exact .inr hlater'
  · exact .inr (hcovered' hlater)

-- The watches add every key that comes to need work or to look different.
def Watches (needs : σ → κ → Prop) (view : σ → κ → ν) : Prop :=
  ∀ before after keys key, reconciler.changes before after keys →
    (needs after key → needs before key ∨ key ∈ keys) ∧ (view after key = view before key ∨ key ∈ keys)

-- The runs make no key need more work, and none but their own look different.
def Modest (needs : σ → κ → Prop) (view : σ → κ → ν) : Prop :=
  ∀ own before op reply after key, reconciler.act own before op reply after →
    (needs after key → needs before key) ∧ (key ≠ own → view after key = view before key)

-- Each run, whatever happens meanwhile, asks for another time or leaves its key covered.
def Reconciles (needs : σ → κ → Prop) (view : σ → κ → ν) (key : κ) : Prop :=
  ∀ state : σ × Workqueue κ, state.2.processing key = true →
    Holds (interfered (keepsCovered needs view key) (reconciler.onQueue key)) (fun _ _ => True)
      (fun again after => after.2.processing key = true ∧ (again = true ∨ Covered needs after key))
      (reconciler.reconcile key) state

variable {reconciler}

theorem covered_of_env (hwatches : reconciler.Watches needs view) {before after : σ × Workqueue κ}
    (henv : reconciler.Env before after) (key : κ) :
    after.2.processing key = before.2.processing key ∧ (Covered needs before key → Covered needs after key) ∧
      (view after.1 key = view before.1 key ∨ Covered needs after key) := by
  cases henv with
  | changes keys hchanges hqueue =>
    obtain ⟨hneeds, hview⟩ := hwatches _ _ keys key hchanges
    have hadded (hkey : key ∈ keys) : Covered needs after key := by
      intro _
      rw [hqueue]
      exact .inl ((before.2.addAll_dirty keys key).mpr (.inl hkey))
    refine ⟨by rw [hqueue, Workqueue.addAll_processing], fun hcovered hafter => ?_, hview.imp_right hadded⟩
    rcases hneeds hafter with hbefore | hkey
    · rw [hqueue, Workqueue.Pending, Workqueue.addAll_dirty, Workqueue.addAll_waiting]
      exact (hcovered hbefore).imp .inr id
    · exact hadded hkey hafter
  | expire due hwaiting hafter =>
    subst hafter
    refine ⟨rfl, fun hcovered hneeds => ?_, .inl rfl⟩
    by_cases hkey : key = due
    · exact .inl (by simp [Workqueue.expire, Workqueue.add, hkey])
    · have hpending := hcovered hneeds
      simpa [Workqueue.Pending, Workqueue.expire, Workqueue.add, hkey] using hpending

-- A worker deals with its own key, and gives it back only when it is covered.
def queueGuard (needs : σ → κ → Prop) (own : κ) (state : σ × Workqueue κ) : ((queueing κ).sum sig).Op → Prop
  | .inl (.get key) | .inl (.addAfter key) => key = own
  | .inl (.done key) => key = own ∧ Covered needs state key
  | .inr _ => True

theorem worker_ends {key : κ} (hreconciles : reconciler.Reconciles needs view key) (state : σ × Workqueue κ) :
    HoldsUnder (keepsCovered needs view key) (reconciler.handler key) (queueGuard needs key)
      (worker reconciler.reconcile key) state := by
  intro other _
  refine ⟨rfl, ?_⟩
  rintro reply after ⟨middle, ⟨-, -, rfl⟩, hrely⟩
  have htaken : (other.2.get key).processing key = true := Function.update_self ..
  have hrun := hreconciles after (hrely htaken).1
  refine (Holds.sumRight (hrun.mono (fun _ _ _ _ h => h) (fun _ _ _ => trivial) fun _ _ h => h)).bind ?_
  rintro again later ⟨hprocessing, hagain⟩
  cases again with
  | true =>
    refine ⟨rfl, ?_⟩
    rintro _ added ⟨middle, rfl, hrely⟩
    have hcovered : Covered needs (later.1, later.2.addAfter key) key :=
      fun _ => .inr (by simp [Workqueue.addAfter])
    exact ⟨⟨rfl, (hrely hprocessing).2.1 hcovered⟩, fun _ _ _ => trivial⟩
  | false => exact ⟨⟨rfl, hagain.resolve_left Bool.false_ne_true⟩, fun _ _ _ => trivial⟩

-- What one operation of a worker means for the other keys, and for its own once it is free.
theorem covered_of_op (hmodest : reconciler.Modest needs view) {own : κ} {before after : σ × Workqueue κ}
    {op : ((queueing κ).sum sig).Op} {reply : ((queueing κ).sum sig).Reply op}
    (hguard : queueGuard needs own before op) (hstep : reconciler.handler own before op reply after) :
    (∀ key, key ≠ own → after.2.processing key = before.2.processing key ∧
      (Covered needs before key → Covered needs after key) ∧ view after.1 key = view before.1 key) ∧
    ((before.2.processing own = false → Covered needs before own) → after.2.processing own = false →
      Covered needs after own) := by
  cases op with
  | inl op =>
    cases op with
    | get key =>
      obtain rfl : key = own := hguard
      obtain ⟨-, -, rfl⟩ := hstep
      refine ⟨fun other hother => ?_, fun _ hfree => ?_⟩
      · simp [Covered, Workqueue.Pending, Workqueue.get, hother]
      · simp [Workqueue.get] at hfree
    | addAfter key =>
      obtain rfl : key = own := hguard
      obtain rfl := hstep
      refine ⟨fun other hother => ?_, fun _ _ _ => .inr ?_⟩
      · simp [Covered, Workqueue.Pending, Workqueue.addAfter, hother]
      · simp [Workqueue.addAfter]
    | done key =>
      obtain ⟨rfl, hcovered⟩ := hguard
      obtain rfl := hstep
      refine ⟨fun other hother => ⟨?_, fun h => h, rfl⟩, fun _ _ => hcovered⟩
      simp [Workqueue.finish, hother]
  | inr op =>
    obtain ⟨hact, hqueue⟩ := hstep
    have hkept (key : κ) (hcovered : Covered needs before key) : Covered needs after key := by
      intro hneeds
      rw [hqueue]
      exact hcovered ((hmodest _ _ _ _ _ key hact).1 hneeds)
    refine ⟨fun key hother => ⟨by rw [hqueue], hkept key, (hmodest _ _ _ _ _ key hact).2 hother⟩,
      fun hcovered hfree => hkept own (hcovered ?_)⟩
    rw [← hqueue, hfree]

-- No work is lost: whatever the workers and the world do in whatever order, a key that needs
-- work and that no worker has is marked or waits for its time.
theorem never_lost {init : σ × Workqueue κ → Prop} (hwatches : reconciler.Watches needs view)
    (hmodest : reconciler.Modest needs view) (hreconciles : ∀ key, reconciler.Reconciles needs view key)
    (hinit : ∀ state, init state → ∀ key, Covered needs state key)
    {c : Config ((queueing κ).sum sig) (σ × Workqueue κ) κ Unit} (hc : reconciler.system.Reachable init c)
    {key : κ} (hfree : c.state.2.processing key = false) (hneeds : needs c.state.1 key) :
    c.state.2.Pending key := by
  have hsafe := reconciler.system.reachable_safe
    (fun state => ∀ key, state.2.processing key = false → Covered needs state key)
    (keepsCovered needs view) (queueGuard needs) (fun _ _ h => ⟨h, id, .inl rfl⟩) keepsCovered_trans
    (fun state hstate key _ => hinit state hstate key) ?_ ?_ ?_ hc
  · exact hsafe.1 key hfree hneeds
  · intro before after hinv henv
    refine ⟨fun key hfree => ?_, fun key hprocessing => ?_⟩
    · obtain ⟨hsame, hkept, -⟩ := covered_of_env hwatches henv key
      exact hkept (hinv key (hsame ▸ hfree))
    · obtain ⟨hsame, hkept⟩ := covered_of_env hwatches henv key
      exact ⟨hsame ▸ hprocessing, hkept⟩
  · rintro key prog state hinv rfl
    exact worker_ends (hreconciles key) state
  · intro own before op reply after hinv hguard hstep
    obtain ⟨hothers, hown⟩ := covered_of_op hmodest hguard hstep
    refine ⟨fun key hfree => ?_, fun key hne hprocessing => ?_⟩
    · by_cases hkey : key = own
      · subst hkey
        exact hown (hinv key) hfree
      · obtain ⟨hsame, hkept, -⟩ := hothers key hkey
        exact hkept (hinv key (hsame ▸ hfree))
    · obtain ⟨hsame, hkept, hview⟩ := hothers key hne
      exact ⟨hsame ▸ hprocessing, hkept, .inl hview⟩

end Coverage

section Settles

variable {ν α : Type} {act : Handler sig σ} {needs : σ → Prop} {view : σ → ν} {known : ν → Prop}

-- A run that does not ask for another time has seen, at one of its steps, that the key needs
-- nothing. What is known at a step is how the key looked after the one before it.
def Settles (act : Handler sig σ) (needs : σ → Prop) (view : σ → ν) : (ν → Prop) → Prog sig Bool → Prop
  | _, .done again => again = true
  | known, .ask op next => ∀ before reply after, known (view before) → act before op reply after →
      ¬ needs after ∨ Settles act needs view (fun looks => looks = view after) (next reply)

theorem Settles.bind {replies : Replies sig} {allowed : sig.Op → Prop} {post : α → Prop} {prog : Prog sig α}
    {f : α → Prog sig Bool} {looks : ν} (hprog : Emits replies allowed post prog)
    (hstep : ∀ before op reply after, view before = looks → allowed op → act before op reply after →
      ¬ needs after ∨ replies op reply ∧ view after = looks)
    (hf : ∀ value, post value → Settles act needs view (fun now => now = looks) (f value)) :
    Settles act needs view (fun now => now = looks) (prog >>= f) := by
  induction prog with
  | done value => exact hf value hprog
  | ask op next ih =>
    rw [emits_ask] at hprog
    intro before reply after hbefore hact
    rcases hstep before op reply after hbefore hprog.1 hact with hnone | ⟨hreply, hafter⟩
    · exact .inl hnone
    · rw [hafter]
      exact .inr (ih reply (hprog.2 reply hreply))

-- A part whose replies matter for nothing but what it returns.
theorem Settles.bind_inr {high low : Signature} {act : Handler (high.sum low) σ} {post : α → Prop}
    {prog : Prog low α} {f : α → Prog (high.sum low) Bool} {looks : ν} {events : List (Event low)}
    (hprog : Holds recording (fun _ _ => True) (fun value _ => post value) prog events)
    (hstep : ∀ before op reply after, view before = looks → act before (.inr op) reply after → view after = looks)
    (hf : ∀ value, post value → Settles act needs view (fun now => now = looks) (f value)) :
    Settles act needs view (fun now => now = looks) (prog.inr >>= f) := by
  induction prog generalizing events with
  | done value => exact hf value hprog
  | ask op next ih =>
    intro before reply after hbefore hact
    rw [hstep before op reply after hbefore hact]
    exact .inr (ih reply (hprog.2 reply _ rfl))

end Settles

section Run

variable {ν : Type} {needs : σ → κ → Prop} {view : σ → κ → ν} {reconciler}

omit [DecidableEq κ] in
theorem Settles.reconciles (hmodest : reconciler.Modest needs view) {key : κ}
    (hsettles : Settles (reconciler.act key) (needs · key) (view · key) (fun _ => True) (reconciler.reconcile key)) :
    reconciler.Reconciles needs view key := by
  intro state hprocessing
  have hruns (prog : Prog sig Bool) (state : σ × Workqueue κ) (hprocessing : state.2.processing key = true)
      (hprog : Covered needs state key ∨ ∃ known, known (view state.1 key) ∧
        Settles (reconciler.act key) (needs · key) (view · key) known prog) :
      Holds (interfered (keepsCovered needs view key) (reconciler.onQueue key)) (fun _ _ => True)
        (fun again after => after.2.processing key = true ∧ (again = true ∨ Covered needs after key)) prog state := by
    induction prog generalizing state with
    | done again =>
      refine ⟨hprocessing, hprog.symm.imp_left ?_⟩
      rintro ⟨known, -, hagain⟩
      exact hagain
    | ask op next ih =>
      refine ⟨trivial, ?_⟩
      rintro reply after ⟨middle, ⟨hact, hqueue⟩, hrely⟩
      obtain ⟨hprocessing', hkept, hview⟩ := hrely (hqueue ▸ hprocessing)
      refine ih reply after hprocessing' ?_
      rcases hprog with hcovered | ⟨known, hknown, hsettles⟩
      · refine .inl (hkept fun hneeds => ?_)
        rw [hqueue]
        exact hcovered ((hmodest _ _ _ _ _ key hact).1 hneeds)
      · rcases hsettles _ _ _ hknown hact with hnone | hrest
        · exact .inl (hkept fun hneeds => absurd hneeds hnone)
        · exact hview.symm.imp_right fun hsame => ⟨_, hsame, hrest⟩
  exact hruns _ state hprocessing (.inr ⟨_, trivial, hsettles⟩)

end Run

section Undisturbed

variable {reconciler}

theorem exec_onQueue {key : κ} {α : Type} {prog rest : Prog sig α} {before after : σ} {events : List (Event sig)}
    (h : Exec (reconciler.act key) prog before events rest after) (q : Workqueue κ)
    (f : α → Prog ((queueing κ).sum sig) Unit) :
    ∃ events, Exec (reconciler.handler key) (prog.inr >>= f) (before, q) events (rest.inr >>= f) (after, q) := by
  induction h with
  | refl => exact ⟨[], .refl _ _⟩
  | @ask op next reply before middle after events rest hstep _ ih =>
    obtain ⟨events, hrest⟩ := ih
    have hstep' : reconciler.handler key (before, q) (.inr op) reply (middle, q) := ⟨hstep, rfl⟩
    exact ⟨_, .ask hstep' hrest⟩

-- A worker that nothing comes between takes a marked key, makes its run and gives the key back.
theorem reachable_worked {init : σ × Workqueue κ → Prop} {before after : σ} {q : Workqueue κ}
    (hc : reconciler.system.Reachable init (System.idle (before, q))) {key : κ} (hdirty : q.dirty key = true)
    (hfree : q.processing key = false) {again : Bool}
    (hrun : Completes (reconciler.act key) (reconciler.reconcile key) before again after) :
    reconciler.system.Reachable init (System.idle (after, q.worked key again)) := by
  obtain ⟨events, hexec⟩ := hrun
  obtain ⟨made, hmade⟩ := exec_onQueue hexec (q.get key) fun again =>
    if again then .ask (.inl (.addAfter key)) fun _ => .ask (.inl (.done key)) fun _ => .done ()
    else .ask (.inl (.done key)) fun _ => .done ()
  have hget : reconciler.handler key (before, q) (.inl (.get key)) () (before, q.get key) := ⟨hdirty, hfree, rfl⟩
  have hfinish (q : Workqueue κ) : reconciler.handler key (after, q) (.inl (.done key)) () (after, q.finish key) := rfl
  have hagain : reconciler.handler key (after, q.get key) (.inl (.addAfter key)) () (after, (q.get key).addAfter key) :=
    rfl
  have hworker : ∃ events, Exec (reconciler.handler key) (worker reconciler.reconcile key) (before, q) events (.done ())
      (after, q.worked key again) := by
    cases again with
    | true => exact ⟨_, .ask hget (hmade.trans (.ask hagain (.ask (hfinish _) (.refl _ _))))⟩
    | false => exact ⟨_, .ask hget (hmade.trans (.ask (hfinish _) (.refl _ _)))⟩
  obtain ⟨steps, hsteps⟩ := hworker
  obtain ⟨state, hstate, hpath⟩ := hc.start (i := key) rfl rfl
  have hstop := System.Reachable.stop ⟨state, hstate, hpath.trans (reconciler.system.step_exec hsteps _)⟩ key
  simpa [System.idle] using hstop

end Undisturbed

end Reconciler

end Caplv.Program

import Caplv.Program.Basic

namespace Caplv.Program

variable {sig : Signature} {α β σ : Type} {step : Handler sig σ} {guard : σ → sig.Op → Prop}
  {post post' : α → σ → Prop} {prog : Prog sig α} {state before after : σ}
  {events : List (Event sig)}

-- Every operation is issued in a state that meets `guard`, whatever replies the
-- handler gives, and a completed run ends in `post`.
def Holds (step : Handler sig σ) (guard : σ → sig.Op → Prop) (post : α → σ → Prop) :
    Prog sig α → σ → Prop
  | .done value, state => post value state
  | .ask op next, state => guard state op ∧
      ∀ reply after, step state op reply after → Holds step guard post (next reply) after

@[simp] theorem holds_done (value : α) (state : σ) :
    Holds step guard post (.done value) state ↔ post value state := Iff.rfl

@[simp] theorem holds_ask (op : sig.Op) (next : sig.Reply op → Prog sig α) (state : σ) :
    Holds step guard post (.ask op next) state ↔ guard state op ∧
      ∀ reply after, step state op reply after → Holds step guard post (next reply) after := Iff.rfl

theorem holds_bind {post : β → σ → Prop} (prog : Prog sig α) (f : α → Prog sig β) (state : σ) :
    Holds step guard post (prog >>= f) state ↔
      Holds step guard (fun value after => Holds step guard post (f value) after) prog state := by
  induction prog generalizing state with
  | done value => exact Iff.rfl
  | ask op next ih =>
    simp only [Prog.ask_bind, holds_ask]
    exact and_congr_right fun _ => forall_congr' fun reply => forall_congr' fun after =>
      imp_congr_right fun _ => ih reply after

-- The step handler may be narrowed, the guard and the postcondition weakened.
theorem Holds.mono {step' : Handler sig σ} {guard' : σ → sig.Op → Prop} (h : Holds step guard post prog state)
    (hstep : ∀ before op reply after, step' before op reply after → step before op reply after)
    (hguard : ∀ before op, guard before op → guard' before op)
    (hpost : ∀ value after, post value after → post' value after) : Holds step' guard' post' prog state := by
  induction prog generalizing state with
  | done value => exact hpost value state h
  | ask op next ih =>
    exact ⟨hguard state op h.1, fun reply after hs =>
      ih reply (h.2 reply after (hstep state op reply after hs))⟩

theorem Holds.post_mono (h : Holds step guard post prog state)
    (hpost : ∀ value after, post value after → post' value after) : Holds step guard post' prog state :=
  h.mono (fun _ _ _ _ hs => hs) (fun _ _ hg => hg) hpost

theorem Holds.bind {post' : β → σ → Prop} {f : α → Prog sig β} (h : Holds step guard post prog state)
    (hf : ∀ value after, post value after → Holds step guard post' (f value) after) :
    Holds step guard post' (prog >>= f) state :=
  (holds_bind prog f state).mpr (h.post_mono hf)

theorem Holds.and {guard' : σ → sig.Op → Prop} (h : Holds step guard post prog state)
    (h' : Holds step guard' post' prog state) :
    Holds step (fun before op => guard before op ∧ guard' before op)
      (fun value after => post value after ∧ post' value after) prog state := by
  induction prog generalizing state with
  | done value => exact ⟨h, h'⟩
  | ask op next ih =>
    exact ⟨⟨h.1, h'.1⟩, fun reply after hs => ih reply (h.2 reply after hs) (h'.2 reply after hs)⟩

theorem Holds.exec {prog rest : Prog sig α} (h : Holds step guard post prog before)
    (he : Exec step prog before events rest after) : Holds step guard post rest after := by
  induction he with
  | refl => exact h
  | ask hstep _ ih => exact ih (h.2 _ _ hstep)

theorem Holds.guard_of_exec {op : sig.Op} {next : sig.Reply op → Prog sig α} (h : Holds step guard post prog before)
    (he : Exec step prog before events (.ask op next) after) : guard after op :=
  (h.exec he).1

theorem Holds.post_of_exec {value : α} (h : Holds step guard post prog before)
    (he : Exec step prog before events (.done value) after) : post value after :=
  h.exec he

def Completes (step : Handler sig σ) (prog : Prog sig α) (before : σ) (value : α) (after : σ) : Prop :=
  ∃ events, Exec step prog before events (.done value) after

theorem Holds.completes {value : α} (h : Holds step guard post prog before)
    (hc : Completes step prog before value after) : post value after := by
  obtain ⟨events, he⟩ := hc
  exact h.post_of_exec he

theorem Holds.run {machine : Machine sig σ} {prog : Prog sig α} {state : σ}
    (h : Holds machine.handler guard post prog state) :
    post (run machine prog state).1 (run machine prog state).2 := by
  obtain ⟨events, he⟩ := run_exec machine prog state
  exact h.post_of_exec he

theorem Holds.bind_run {machine : Machine sig σ} {prog : Prog sig β} {f : β → Prog sig α}
    (h : Holds step guard post (prog >>= f) state)
    (hmachine : ∀ before op, step before op (machine before op).1 (machine before op).2) :
    Holds step guard post (f (Program.run machine prog state).1) (Program.run machine prog state).2 := by
  have hnarrow : Holds machine.handler guard (fun value after => Holds step guard post (f value) after) prog state := by
    refine ((holds_bind prog f state).mp h).mono ?_ (fun _ _ hg => hg) fun _ _ hp => hp
    rintro before op reply after hstep
    have hreply := hmachine before op
    rw [show machine before op = (reply, after) from hstep] at hreply
    exact hreply
  exact hnarrow.run

-- The state is the list of the operations issued so far; any reply may come.
def tracing : Handler sig (List sig.Op) := fun before op _ after => after = before ++ [op]

theorem Holds.traced {allowed : sig.Op → Prop} {post : α → List sig.Op → Prop} {issued : List sig.Op}
    (h : Holds tracing (fun _ op => allowed op) post prog issued) (hissued : ∀ op ∈ issued, allowed op) :
    Holds tracing (fun _ _ => True) (fun value after => post value after ∧ ∀ op ∈ after, allowed op) prog issued := by
  induction prog generalizing issued with
  | done value => exact ⟨h, hissued⟩
  | ask op next ih =>
    refine ⟨trivial, fun reply after hs => ih reply (h.2 reply after hs) ?_⟩
    obtain rfl : after = issued ++ [op] := hs
    intro other hother
    rcases List.mem_append.mp hother with hmem | hmem
    · exact hissued other hmem
    · exact List.mem_singleton.mp hmem ▸ h.1

-- The state is the list of the operations and their replies so far; any reply may come.
def recording : Handler sig (List (Event sig)) :=
  fun before op reply after => after = before ++ [⟨op, reply⟩]

def Handler.only (step : Handler sig σ) (allowed : sig.Op → Prop) : Handler sig σ :=
  fun before op reply after => step before op reply after ∧ allowed op

theorem Exec.forall_events {known : Event sig → Prop} {prog rest : Prog sig α}
    (h : Exec step prog before events rest after)
    (hstep : ∀ before op reply after, step before op reply after → known ⟨op, reply⟩) :
    ∀ event ∈ events, known event := by
  induction h with
  | refl => exact fun _ hevent => nomatch hevent
  | ask hfirst _ ih => exact List.forall_mem_cons.mpr ⟨hstep _ _ _ _ hfirst, ih⟩

-- Every run is one whose state is the list of its events.
theorem Exec.recorded {allowed : sig.Op → Prop} {prog rest : Prog sig α}
    (h : Exec step prog before events rest after) (hallowed : ∀ event ∈ events, allowed event.1)
    (seen : List (Event sig)) : Exec (recording.only allowed) prog seen events rest (seen ++ events) := by
  induction h generalizing seen with
  | refl prog state =>
    rw [List.append_nil]
    exact .refl _ _
  | @ask op next reply before middle after events rest hstep hrest ih =>
    have hnext := ih (fun event hevent => hallowed event (List.mem_cons_of_mem _ hevent)) (seen ++ [⟨op, reply⟩])
    rw [List.append_assoc] at hnext
    exact .ask ⟨rfl, hallowed _ List.mem_cons_self⟩ hnext

-- Which replies each operation may get, whatever the state.
abbrev Replies (sig : Signature) := (op : sig.Op) → sig.Reply op → Prop

def anyReply : Replies sig := fun _ _ => True

-- Under such replies the program issues only operations of `allowed`, and a completed
-- run returns a value in `post`: a statement about the operations alone.
def Emits (replies : Replies sig) (allowed : sig.Op → Prop) (post : α → Prop)
    (prog : Prog sig α) : Prop :=
  Holds (fun (_ : Unit) op reply _ => replies op reply) (fun _ op => allowed op)
    (fun value _ => post value) prog ()

section Emits

variable {replies : Replies sig} {allowed : sig.Op → Prop} {post : α → Prop} {prog : Prog sig α}

@[simp] theorem emits_done (value : α) :
    Emits replies allowed post (.done value : Prog sig α) ↔ post value := Iff.rfl

@[simp] theorem emits_ask (op : sig.Op) (next : sig.Reply op → Prog sig α) :
    Emits replies allowed post (.ask op next) ↔ allowed op ∧
      ∀ reply, replies op reply → Emits replies allowed post (next reply) := by
  constructor
  · exact fun h => ⟨h.1, fun reply hr => h.2 reply () hr⟩
  · exact fun h => ⟨h.1, fun reply _ hr => h.2 reply hr⟩

theorem emits_bind {post : β → Prop} (prog : Prog sig α) (f : α → Prog sig β) :
    Emits replies allowed post (prog >>= f) ↔
      Emits replies allowed (fun value => Emits replies allowed post (f value)) prog :=
  holds_bind prog f ()

theorem Emits.mono {replies' : Replies sig} {allowed' : sig.Op → Prop} {post' : α → Prop}
    (h : Emits replies allowed post prog) (hreplies : ∀ op reply, replies' op reply → replies op reply)
    (hallowed : ∀ op, allowed op → allowed' op) (hpost : ∀ value, post value → post' value) :
    Emits replies' allowed' post' prog :=
  Holds.mono h (fun _ op reply _ hr => hreplies op reply hr) (fun _ op => hallowed op)
    fun value _ => hpost value

theorem Emits.post_mono {post' : α → Prop} (h : Emits replies allowed post prog)
    (hpost : ∀ value, post value → post' value) : Emits replies allowed post' prog :=
  h.mono (fun _ _ hr => hr) (fun _ ho => ho) hpost

theorem Emits.bind {post' : β → Prop} {f : α → Prog sig β} (h : Emits replies allowed post prog)
    (hf : ∀ value, post value → Emits replies allowed post' (f value)) :
    Emits replies allowed post' (prog >>= f) :=
  (emits_bind prog f).mpr (h.post_mono hf)

def oracle (answers : (op : sig.Op) → sig.Reply op) : Machine sig Unit := fun _ op => (answers op, ())

theorem Emits.bind_run {answers : (op : sig.Op) → sig.Reply op} (hanswers : ∀ op, replies op (answers op))
    {prog : Prog sig β} {f : β → Prog sig α} (h : Emits replies allowed post (prog >>= f)) :
    Emits replies allowed post (f (run (oracle answers) prog ()).1) :=
  Holds.bind_run h fun _ op => hanswers op

theorem Emits.runFor {answers : (op : sig.Op) → sig.Reply op} (hanswers : ∀ op, replies op (answers op))
    (h : Emits replies allowed post prog) (n : Nat) :
    Emits replies allowed post (Program.runFor (oracle answers) n prog ()).1 := by
  induction n generalizing prog with
  | zero => exact h
  | succ n ih =>
    cases prog with
    | done value => exact h
    | ask op next => exact ih (((emits_ask op next).mp h).2 (answers op) (hanswers op))

theorem Emits.holds {step : Handler sig σ} {guard : σ → sig.Op → Prop} {inv : σ → Prop}
    {state : σ} (h : Emits replies allowed post prog) (hstate : inv state)
    (hguard : ∀ before op, inv before → allowed op → guard before op)
    (hstep : ∀ before op reply after, inv before → allowed op → step before op reply after →
      replies op reply ∧ inv after) :
    Holds step guard (fun value after => post value ∧ inv after) prog state := by
  induction prog generalizing state with
  | done value => exact ⟨h, hstate⟩
  | ask op next ih =>
    rw [emits_ask] at h
    refine ⟨hguard state op hstate h.1, fun reply after hs => ?_⟩
    obtain ⟨hreply, hafter⟩ := hstep state op reply after hstate h.1 hs
    exact ih reply (h.2 reply hreply) hafter

end Emits

end Caplv.Program

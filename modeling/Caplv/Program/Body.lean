import Caplv.Program.Logic

namespace Caplv.Program

-- A function of the modelled code: it works on a local state and returns a value.
abbrev Fn (sig : Signature) (σ ρ : Type) := σ → Prog sig (ρ × σ)

-- A statement in the body of such a function: it falls through with a value or
-- leaves the function early, with the state reached so far in both cases.
structure Body (sig : Signature) (σ ρ α : Type) where
  exec : σ → Prog sig (Except ρ α × σ)

namespace Body

variable {sig : Signature} {σ ρ α β γ : Type}

@[ext] protected theorem ext {x y : Body sig σ ρ α} (h : ∀ state, x.exec state = y.exec state) :
    x = y := by
  cases x
  cases y
  exact congrArg mk (funext h)

def andThen (out : Except ρ α × σ) (f : α → Body sig σ ρ β) : Prog sig (Except ρ β × σ) :=
  match out.1 with
  | .error value => .done (.error value, out.2)
  | .ok value => (f value).exec out.2

instance : Monad (Body sig σ ρ) where
  pure value := ⟨fun state => .done (.ok value, state)⟩
  bind body f := ⟨fun state => body.exec state >>= fun out => andThen out f⟩

def leave (value : ρ) : Body sig σ ρ α := ⟨fun state => .done (.error value, state)⟩

def get : Body sig σ ρ σ := ⟨fun state => .done (.ok state, state)⟩

def modify (f : σ → σ) : Body sig σ ρ Unit := ⟨fun state => .done (.ok (), f state)⟩

def perform (op : sig.Op) : Body sig σ ρ (sig.Reply op) :=
  ⟨fun state => .ask op fun reply => .done (.ok reply, state)⟩

def call (fn : Fn sig σ β) : Body sig σ ρ β :=
  ⟨fun state => fn state >>= fun out => .done (.ok out.1, out.2)⟩

def lift (prog : Prog sig β) : Body sig σ ρ β :=
  ⟨fun state => prog >>= fun value => .done (.ok value, state)⟩

def leaveIf (c : Bool) (value : ρ) : Body sig σ ρ Unit := if c then leave value else pure ()

-- The function a body defines; a body that falls through ends with its value.
def run (body : Body sig σ ρ ρ) : Fn sig σ ρ :=
  fun state => body.exec state >>= fun out =>
    match out.1 with
    | .error value => .done (value, out.2)
    | .ok value => .done (value, out.2)

theorem bind_exec (body : Body sig σ ρ α) (f : α → Body sig σ ρ β) (state : σ) :
    (body >>= f).exec state = body.exec state >>= fun out => andThen out f := rfl

theorem run_bind_exec {ω : Type} {machine : Machine sig ω} {body : Body sig σ ρ α} {f : α → Body sig σ ρ β}
    {state after : σ} {w w' : ω} {value : α}
    (h : Program.run machine (body.exec state) w = ((.ok value, after), w')) :
    Program.run machine ((body >>= f).exec state) w = Program.run machine ((f value).exec after) w' := by
  rw [bind_exec, Program.run_bind, h]
  rfl

@[simp] theorem andThen_ok (value : α) (state : σ) (f : α → Body sig σ ρ β) :
    andThen (.ok value, state) f = (f value).exec state := rfl

@[simp] theorem andThen_error (value : ρ) (state : σ) (f : α → Body sig σ ρ β) :
    andThen (.error value, state) f = .done (.error value, state) := rfl

@[simp] theorem pure_exec (value : α) (state : σ) :
    (pure value : Body sig σ ρ α).exec state = .done (.ok value, state) := rfl

@[simp] theorem leave_exec (value : ρ) (state : σ) :
    (leave value : Body sig σ ρ α).exec state = .done (.error value, state) := rfl

@[simp] theorem modify_exec (f : σ → σ) (state : σ) :
    (modify f : Body sig σ ρ Unit).exec state = .done (.ok (), f state) := rfl

@[simp] theorem perform_exec (op : sig.Op) (state : σ) :
    (perform op : Body sig σ ρ _).exec state = .ask op fun reply => .done (.ok reply, state) := rfl

@[simp] theorem pure_bind_exec (value : α) (f : α → Body sig σ ρ β) (state : σ) :
    (pure value >>= f).exec state = (f value).exec state := rfl

@[simp] theorem leave_bind_exec (value : ρ) (f : α → Body sig σ ρ β) (state : σ) :
    (leave value >>= f).exec state = .done (.error value, state) := rfl

@[simp] theorem get_bind_exec (f : σ → Body sig σ ρ β) (state : σ) :
    (get >>= f).exec state = (f state).exec state := rfl

@[simp] theorem modify_bind_exec (g : σ → σ) (f : Unit → Body sig σ ρ β) (state : σ) :
    (modify g >>= f).exec state = (f ()).exec (g state) := rfl

@[simp] theorem perform_bind_exec (op : sig.Op) (f : sig.Reply op → Body sig σ ρ β) (state : σ) :
    (perform op >>= f).exec state = .ask op fun reply => (f reply).exec state := rfl

@[simp] theorem call_bind_exec (fn : Fn sig σ α) (f : α → Body sig σ ρ β) (state : σ) :
    (call fn >>= f).exec state = fn state >>= fun out => (f out.1).exec out.2 := by
  simp only [bind_exec, call, bind_assoc, Prog.done_bind, andThen_ok]

@[simp] theorem lift_bind_exec (prog : Prog sig α) (f : α → Body sig σ ρ β) (state : σ) :
    (lift prog >>= f).exec state = prog >>= fun value => (f value).exec state := by
  simp only [bind_exec, lift, bind_assoc, Prog.done_bind, andThen_ok]

@[simp] theorem leaveIf_bind_exec (c : Bool) (value : ρ) (f : Unit → Body sig σ ρ β) (state : σ) :
    (leaveIf c value >>= f).exec state =
      if c then .done (.error value, state) else (f ()).exec state := by
  cases c <;> rfl

@[simp] theorem ite_exec (c : Prop) [Decidable c] (x y : Body sig σ ρ α) (state : σ) :
    (if c then x else y).exec state = if c then x.exec state else y.exec state := by
  split <;> rfl

@[simp] theorem ite_bind_exec (c : Prop) [Decidable c] (x y : Body sig σ ρ α)
    (f : α → Body sig σ ρ β) (state : σ) :
    ((if c then x else y) >>= f).exec state =
      if c then (x >>= f).exec state else (y >>= f).exec state := by
  split <;> rfl

protected theorem assoc (body : Body sig σ ρ α) (f : α → Body sig σ ρ β) (g : β → Body sig σ ρ γ) :
    (body >>= f) >>= g = body >>= fun value => f value >>= g := by
  ext1 state
  simp only [bind_exec, bind_assoc]
  congr 1
  funext ⟨out, after⟩
  cases out with
  | error value => rfl
  | ok value => rfl

protected theorem map_id (body : Body sig σ ρ α) : id <$> body = body := by
  ext1 state
  change (body.exec state >>= fun out => andThen out fun value => pure (id value)) = body.exec state
  refine Eq.trans (congrArg _ (funext fun out => ?_)) (Prog.bind_done _)
  obtain ⟨value | value, after⟩ := out
  · rfl
  · rfl

instance : LawfulMonad (Body sig σ ρ) :=
  LawfulMonad.mk' _ Body.map_id (fun _ _ => rfl) Body.assoc

-- Under such replies a body issues only operations of `allowed` and, at whichever exit,
-- leaves the local state in `inv` if it found it there.
def Keeps (replies : Replies sig) (allowed : sig.Op → Prop) (inv : σ → Prop)
    (body : Body sig σ ρ α) : Prop :=
  ∀ state, inv state → Emits replies allowed (fun out => inv out.2) (body.exec state)

end Body

def Fn.Keeps {sig : Signature} {σ ρ : Type} (replies : Replies sig) (allowed : sig.Op → Prop)
    (inv : σ → Prop) (fn : Fn sig σ ρ) : Prop :=
  ∀ state, inv state → Emits replies allowed (fun out => inv out.2) (fn state)

namespace Body

section Keeps

variable {sig : Signature} {σ ρ α β : Type} {replies : Replies sig} {allowed : sig.Op → Prop}
  {inv : σ → Prop}

theorem Keeps.pure (value : α) : Keeps replies allowed inv (Pure.pure value : Body sig σ ρ α) :=
  fun _ h => h

theorem Keeps.leave (value : ρ) : Keeps replies allowed inv (Body.leave value : Body sig σ ρ α) :=
  fun _ h => h

theorem Keeps.get : Keeps replies allowed inv (Body.get : Body sig σ ρ σ) := fun _ h => h

theorem Keeps.modify {f : σ → σ} (hf : ∀ state, inv state → inv (f state)) :
    Keeps replies allowed inv (Body.modify f : Body sig σ ρ Unit) := fun state h => hf state h

theorem Keeps.call {fn : Fn sig σ α} (hfn : Fn.Keeps replies allowed inv fn) :
    Keeps replies allowed inv (Body.call fn : Body sig σ ρ α) := fun state h =>
  (hfn state h).bind fun _ ho => ho

theorem Keeps.lift {post : α → Prop} {prog : Prog sig α} (hprog : Emits replies allowed post prog) :
    Keeps replies allowed inv (Body.lift prog : Body sig σ ρ α) := fun _ h =>
  hprog.bind fun _ _ => h

theorem Keeps.lift_bind {post : α → Prop} {prog : Prog sig α} {f : α → Body sig σ ρ β}
    (hprog : Emits replies allowed post prog) (hf : ∀ value, post value → Keeps replies allowed inv (f value)) :
    Keeps replies allowed inv (Body.lift prog >>= f) := by
  intro state hstate
  rw [lift_bind_exec]
  exact hprog.bind fun value hvalue => hf value hvalue state hstate

theorem Keeps.bind {body : Body sig σ ρ α} {f : α → Body sig σ ρ β} (hbody : Keeps replies allowed inv body)
    (hf : ∀ value, Keeps replies allowed inv (f value)) : Keeps replies allowed inv (body >>= f) := by
  intro state h
  refine (hbody state h).bind ?_
  rintro ⟨out, after⟩ hafter
  cases out with
  | error value => exact hafter
  | ok value => exact hf value after hafter

theorem Keeps.perform_bind {op : sig.Op} {f : sig.Reply op → Body sig σ ρ β} (hop : allowed op)
    (hf : ∀ reply, replies op reply → Keeps replies allowed inv (f reply)) :
    Keeps replies allowed inv (Body.perform op >>= f) := fun state h =>
  (emits_ask op _).mpr ⟨hop, fun reply hr => hf reply hr state h⟩

theorem Keeps.get_bind {f : σ → Body sig σ ρ β}
    (hf : ∀ state, inv state → Keeps replies allowed inv (f state)) :
    Keeps replies allowed inv (Body.get >>= f) := fun state h => hf state h state h

theorem Keeps.ite {c : Prop} [Decidable c] {x y : Body sig σ ρ α} (hx : c → Keeps replies allowed inv x)
    (hy : ¬ c → Keeps replies allowed inv y) : Keeps replies allowed inv (if c then x else y) := by
  split
  · exact hx ‹_›
  · exact hy ‹_›

theorem Keeps.leaveIf (c : Bool) (value : ρ) :
    Keeps replies allowed inv (Body.leaveIf c value : Body sig σ ρ Unit) :=
  Keeps.ite (fun _ => Keeps.leave value) fun _ => Keeps.pure ()

theorem Keeps.run {body : Body sig σ ρ ρ} (h : Keeps replies allowed inv body) :
    Fn.Keeps replies allowed inv body.run := by
  intro state hs
  refine (h state hs).bind ?_
  rintro ⟨out, after⟩ hafter
  cases out <;> exact hafter

end Keeps

-- Pre- and postconditions of a body on its local state and the handler's: `post` holds
-- where the body falls through and `exit` where it leaves the function.
def ends {ω : Type} {σ ρ α : Type} (post : α → σ → ω → Prop) (exit : ρ → σ → ω → Prop)
    (out : Except ρ α × σ) (world : ω) : Prop :=
  match out.1 with
  | .error value => exit value out.2 world
  | .ok value => post value out.2 world

def Triple {sig : Signature} {σ ρ α ω : Type} (step : Handler sig ω) (guard : ω → sig.Op → Prop)
    (pre : σ → ω → Prop) (body : Body sig σ ρ α) (post : α → σ → ω → Prop)
    (exit : ρ → σ → ω → Prop) : Prop :=
  ∀ state world, pre state world → Holds step guard (ends post exit) (body.exec state) world

section Triple

variable {sig : Signature} {σ ρ α β ω : Type} {step : Handler sig ω} {guard : ω → sig.Op → Prop}
  {pre : σ → ω → Prop} {exit : ρ → σ → ω → Prop} {post : β → σ → ω → Prop} {body : Body sig σ ρ α}

theorem Triple.pure {post : α → σ → ω → Prop} {value : α}
    (h : ∀ state world, pre state world → post value state world) :
    Triple step guard pre (Pure.pure value : Body sig σ ρ α) post exit := h

theorem Triple.leave {post : α → σ → ω → Prop} {value : ρ}
    (h : ∀ state world, pre state world → exit value state world) :
    Triple step guard pre (Body.leave value : Body sig σ ρ α) post exit := h

theorem Triple.modify {post : Unit → σ → ω → Prop} {f : σ → σ}
    (h : ∀ state world, pre state world → post () (f state) world) :
    Triple step guard pre (Body.modify f : Body sig σ ρ Unit) post exit := h

theorem Triple.bind {middle : α → σ → ω → Prop} {f : α → Body sig σ ρ β}
    (hbody : Triple step guard pre body middle exit)
    (hf : ∀ value, Triple step guard (middle value) (f value) post exit) :
    Triple step guard pre (body >>= f) post exit := by
  intro state world hpre
  refine (hbody state world hpre).bind ?_
  rintro ⟨out, after⟩ world' hafter
  cases out with
  | error value => exact hafter
  | ok value => exact hf value after world' hafter

theorem Triple.modify_bind (middle : σ → ω → Prop) {g : σ → σ} {f : Unit → Body sig σ ρ β}
    (h : ∀ state world, pre state world → middle (g state) world)
    (hf : Triple step guard middle (f ()) post exit) : Triple step guard pre (Body.modify g >>= f) post exit :=
  fun state world hpre => hf (g state) world (h state world hpre)

theorem Triple.perform {op : sig.Op} {post : sig.Reply op → σ → ω → Prop}
    (hguard : ∀ state world, pre state world → guard world op)
    (h : ∀ state before reply after, pre state before → step before op reply after →
      post reply state after) :
    Triple step guard pre (Body.perform op : Body sig σ ρ _) post exit :=
  fun state world hpre => ⟨hguard state world hpre, fun reply after hs =>
    h state world reply after hpre hs⟩

theorem Triple.perform_bind {op : sig.Op} {f : sig.Reply op → Body sig σ ρ β}
    (hguard : ∀ state world, pre state world → guard world op)
    (hf : ∀ reply, Triple step guard
      (fun state after => ∃ before, pre state before ∧ step before op reply after) (f reply) post exit) :
    Triple step guard pre (Body.perform op >>= f) post exit :=
  (Triple.perform hguard fun _ before _ _ hpre hs => ⟨before, hpre, hs⟩).bind hf

theorem Triple.call {post : α → σ → ω → Prop} {fn : Fn sig σ α}
    (h : ∀ state world, pre state world →
      Holds step guard (fun out after => post out.1 out.2 after) (fn state) world) :
    Triple step guard pre (Body.call fn : Body sig σ ρ α) post exit :=
  fun state world hpre => (h state world hpre).bind fun _ _ hout => hout

theorem Triple.ite {c : Prop} [Decidable c] {post : α → σ → ω → Prop} {x y : Body sig σ ρ α}
    (hx : c → Triple step guard pre x post exit) (hy : ¬ c → Triple step guard pre y post exit) :
    Triple step guard pre (if c then x else y) post exit := by
  split
  · exact hx ‹_›
  · exact hy ‹_›

theorem Triple.leaveIf_bind (middle : σ → ω → Prop) {c : Bool} {value : ρ} {f : Unit → Body sig σ ρ β}
    (hleave : c = true → ∀ state world, pre state world → exit value state world)
    (hstay : c = false → ∀ state world, pre state world → middle state world)
    (hf : Triple step guard middle (f ()) post exit) :
    Triple step guard pre (Body.leaveIf c value >>= f) post exit := by
  intro state world hpre
  cases c with
  | true => exact hleave rfl state world hpre
  | false => exact hf state world (hstay rfl state world hpre)

theorem Triple.mono {post post' : α → σ → ω → Prop} {exit' : ρ → σ → ω → Prop}
    (h : Triple step guard pre body post exit)
    (hpost : ∀ value state world, post value state world → post' value state world)
    (hexit : ∀ value state world, exit value state world → exit' value state world) :
    Triple step guard pre body post' exit' := by
  intro state world hpre
  refine (h state world hpre).post_mono ?_
  rintro ⟨out, after⟩ world' hout
  cases out with
  | error value => exact hexit value after world' hout
  | ok value => exact hpost value after world' hout

theorem Keeps.triple {replies : Replies sig} {allowed : sig.Op → Prop} {inv : σ → Prop}
    {worldInv : ω → Prop} (h : Keeps replies allowed inv body)
    (hguard : ∀ before op, worldInv before → allowed op → guard before op)
    (hstep : ∀ before op reply after, worldInv before → allowed op → step before op reply after →
      replies op reply ∧ worldInv after) :
    Triple step guard (fun state world => inv state ∧ worldInv world) body
      (fun _ state world => inv state ∧ worldInv world)
      fun _ state world => inv state ∧ worldInv world := by
  rintro state world ⟨hstate, hworld⟩
  refine ((h state hstate).holds hworld hguard hstep).post_mono ?_
  rintro ⟨out, after⟩ world' hout
  cases out with
  | error value => exact hout
  | ok value => exact hout

theorem Triple.keeping {allowed : sig.Op → Prop} {inv : σ → Prop} {post : α → σ → ω → Prop}
    (h : Triple step guard pre body post exit) (hkeeps : Keeps anyReply allowed inv body) :
    Triple step guard (fun state world => pre state world ∧ inv state) body
      (fun value state world => post value state world ∧ inv state)
      fun value state world => exit value state world ∧ inv state := by
  rintro state world ⟨hpre, hinv⟩
  have hown : Holds step (fun _ _ => True) (fun out _ => inv out.2 ∧ True) (body.exec state) world :=
    (hkeeps state hinv).holds trivial (fun _ _ _ _ => trivial) fun _ _ _ _ _ _ _ => ⟨trivial, trivial⟩
  refine ((h state world hpre).and hown).mono (fun _ _ _ _ hs => hs) (fun _ _ hg => hg.1) ?_
  rintro ⟨out, after⟩ world' ⟨hout, hinv', -⟩
  cases out with
  | error value => exact ⟨hout, hinv'⟩
  | ok value => exact ⟨hout, hinv'⟩

theorem Triple.run {post : ρ → σ → ω → Prop} {body : Body sig σ ρ ρ}
    (h : Triple step guard pre body post post) {state : σ} {world : ω} (hpre : pre state world) :
    Holds step guard (fun out after => post out.1 out.2 after) (body.run state) world := by
  refine (h state world hpre).bind ?_
  rintro ⟨out, after⟩ world' hout
  cases out with
  | error value => exact hout
  | ok value => exact hout

end Triple

end Body

end Caplv.Program

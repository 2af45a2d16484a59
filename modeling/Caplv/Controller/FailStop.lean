import Caplv.Controller.World

namespace Caplv.Controller

open Text Api Libvirt Scope Program

-- The replies after which a step between the preflights and the domain records no failure.
-- Such a step returns nil for a recorded failure, and reconcileNormal goes on to the next.
def Recoverable (phase : Phase) : Replies signature
  | .client _ call, reply => ∀ err, reply = .error err →
      err.isTerminal = false ∧ (phase = .rootDisk → BaseImageCall call → err.isNotFound = false)
  | .buildCloudInitISO _ _ _, reply => ∀ err, reply ≠ .error err
  | _, _ => True

def Unfailing (w : World) (op : Op) (reply : Reply op) : Prop :=
  (∀ phase, w.phase = some phase → phase ≠ .domain → Recoverable phase op reply) ∧
    ∀ key lm format, (⟨op, reply⟩ : Event signature) = ⟨.getLibvirtMachine key, .ok lm⟩ →
      lm.spec.bootstrapFormat ≠ .other format

def unfailingStep : Handler signature World := fun before op reply after =>
  worldStep before op reply after ∧ Unfailing before op reply

def ReadyClean (status : LibvirtMachineStatus) : Prop :=
  status.ready = true → status.failureReason = none

def StoredClean (w : World) : Prop := ∀ lm, w.stored = some lm → ReadyClean lm.status

def Failed (status : LibvirtMachineStatus) (reason : Reason) (message : String) : Prop :=
  status.failureReason = some reason ∧ status.failureMessage = some message ∧ status.ready = false

structure StatusRely (before after : World) : Prop where
  phase : after.phase = before.phase
  recorded : after.recorded = before.recorded
  clean : StoredClean before → StoredClean after

theorem StatusRely.refl (w : World) : StatusRely w w := ⟨rfl, rfl, fun h => h⟩

theorem StatusRely.trans {a b c : World} (hab : StatusRely a b) (hbc : StatusRely b c) : StatusRely a c :=
  ⟨hbc.phase.trans hab.phase, hbc.recorded.trans hab.recorded, fun h => hbc.clean (hab.clean h)⟩

theorem settle_eq_some {lm lm' : LibvirtMachine} (h : settle lm = some lm') : lm' = lm := by
  rw [settle] at h
  split at h
  · cases h
  · exact (Option.some.inj h).symm

variable {before after w : World}

theorem WorldEnv.statusRely (h : WorldEnv before after) : StatusRely before after := by
  cases h with
  | delete hstored =>
    refine ⟨rfl, rfl, fun hclean lm' hlm' => ?_⟩
    rw [settle_eq_some hlm']
    have hlm := hclean _ hstored
    exact hlm
  | edit hstored hspec hstatus hdeletion hfinalizer =>
    refine ⟨rfl, rfl, fun hclean lm' hlm' => ?_⟩
    rw [settle_eq_some hlm', hstatus]
    exact hclean _ hstored

-- Once a failure is recorded the host is left alone and no second failure is recorded, and
-- the patch writes that failure; no patch reports Ready next to a failure.
def failStopGuard (w : World) : Op → Prop
  | .client _ call => call.mutatesHost = true → w.recorded = none
  | .recordFailure _ _ => w.recorded = none
  | .patchMachine _ new => ReadyClean new.status ∧
      ∀ reason message, w.recorded = some (reason, message) → Failed new.status reason message
  | _ => True

abbrev unfailingSeen : Handler signature World := interfered StatusRely unfailingStep

def Unmarked : Op → Prop
  | .getLibvirtMachine _ | .patchMachine _ _ | .recordFailure _ _ | .enter _ => False
  | _ => True

theorem Unmarked.step {op : Op} {reply : Reply op} (hop : Unmarked op)
    (hstep : unfailingSeen before op reply after) :
    after.recorded = before.recorded ∧ after.phase = before.phase := by
  obtain ⟨middle, ⟨⟨-, rfl⟩, -⟩, hrely⟩ := hstep
  rw [hrely.recorded, hrely.phase]
  cases op <;> first
    | exact hop.elim
    | exact ⟨rfl, rfl⟩

theorem Unmarked.guard {op : Op} (hop : Unmarked op) (hw : w.recorded = none) : failStopGuard w op := by
  cases op with
  | client host call => exact fun _ => hw
  | recordFailure reason message => exact hop.elim
  | patchMachine old new => exact hop.elim
  | _ => trivial

theorem recordFailure_step {reason : Reason} {message : String} (hb : before.recorded = none)
    (hstep : unfailingSeen before (.recordFailure reason message) () after) :
    after.recorded = some (reason, message) := by
  obtain ⟨middle, ⟨⟨-, rfl⟩, -⟩, hrely⟩ := hstep
  rw [hrely.recorded]
  simp [World.next, hb]

theorem enter_step {phase : Phase} (hstep : unfailingSeen before (.enter phase) () after) :
    after.recorded = before.recorded ∧ after.phase = some phase := by
  obtain ⟨middle, ⟨⟨-, rfl⟩, -⟩, hrely⟩ := hstep
  exact ⟨hrely.recorded, hrely.phase⟩

section Bodies

-- No failure so far, and the two fields it would change as they were.
structure Clean (start : LibvirtMachineStatus) (status : LibvirtMachineStatus) (w : World) : Prop where
  recorded : w.recorded = none
  failureReason : status.failureReason = start.failureReason
  ready : status.ready = start.ready

def Recorded (status : LibvirtMachineStatus) (w : World) : Prop :=
  ∃ reason message, w.recorded = some (reason, message) ∧ Failed status reason message

-- A body that leaves its function with `stop` as soon as it has recorded a failure.
def FailStop {ρ α : Type} (start : LibvirtMachineStatus) (stop : ρ)
    (body : Body signature RunState ρ α) : Prop :=
  Body.Triple unfailingSeen failStopGuard (fun st => Clean start st.status) body
    (fun _ st => Clean start st.status)
    (fun value st w => Clean start st.status w ∨ value = stop ∧ Recorded st.status w)

variable {ρ α β : Type} {start : LibvirtMachineStatus} {stop : ρ}

theorem FailStop.bind {body : Body signature RunState ρ α} {f : α → Body signature RunState ρ β}
    (hbody : FailStop start stop body) (hf : ∀ value, FailStop start stop (f value)) :
    FailStop start stop (body >>= f) := Body.Triple.bind hbody hf

theorem FailStop.pure (value : α) :
    FailStop start stop (Pure.pure value : Body signature RunState ρ α) := fun _ _ h => h

theorem FailStop.leave (value : ρ) :
    FailStop start stop (Body.leave value : Body signature RunState ρ α) := fun _ _ h => .inl h

theorem FailStop.get : FailStop start stop (Body.get : Body signature RunState ρ RunState) :=
  fun _ _ h => h

theorem FailStop.ite {c : Prop} [Decidable c] {x y : Body signature RunState ρ α}
    (hx : c → FailStop start stop x) (hy : ¬ c → FailStop start stop y) :
    FailStop start stop (if c then x else y) := Body.Triple.ite hx hy

theorem FailStop.issue {op : Op} (hop : Unmarked op) :
    FailStop start stop (Controller.issue op : Body signature RunState ρ _) := by
  refine Body.Triple.perform (fun _ _ h => hop.guard h.recorded) fun st before reply after h hs => ?_
  exact ⟨(hop.step hs).1.trans h.recorded, h.failureReason, h.ready⟩

theorem setTerminalError_records (reason : Reason) (message : String) {exit : ρ → RunState → World → Prop} :
    Body.Triple unfailingSeen failStopGuard (fun st => Clean start st.status)
      (Body.call (onStatus (setTerminalError reason message)) : Body signature RunState ρ Unit)
      (fun _ st => Recorded st.status) exit := by
  refine Body.Triple.call fun st w h => ⟨h.recorded, fun _ after hs => ?_⟩
  exact ⟨reason, message, recordFailure_step h.recorded hs, rfl, rfl, rfl⟩

theorem FailStop.record (reason : Reason) (message : String) :
    FailStop start stop (Body.call (onStatus (setTerminalError reason message)) >>= fun _ =>
      Body.leave stop : Body signature RunState ρ α) :=
  (setTerminalError_records reason message).bind fun _ => Body.Triple.leave fun _ _ h => .inr ⟨rfl, h⟩

theorem FailStop.recordWith (reason : Reason) (message : String)
    (condition : LibvirtMachineStatus → LibvirtMachineStatus)
    (hcondition : ∀ status w, Recorded status w → Recorded (condition status) w) :
    FailStop start stop (Body.call (onStatus (setTerminalError reason message)) >>= fun _ =>
      updateStatus condition >>= fun _ => Body.leave stop : Body signature RunState ρ α) := by
  refine (setTerminalError_records reason message).bind fun _ => ?_
  intro st w h
  exact .inr ⟨rfl, hcondition _ _ h⟩

theorem callOrHandle_failStop (rc : ReconcileCtx) (call : ClientCall) (operation : String) :
    FailStop start none (callOrHandle rc call operation) := by
  refine (FailStop.issue (show Unmarked (.client rc.hostKey call) from trivial)).bind fun reply => ?_
  cases reply with
  | ok value => exact FailStop.pure value
  | error err => exact FailStop.ite (fun _ => FailStop.record _ _) fun _ => FailStop.leave _

theorem domainCall_failStop (rc : ReconcileCtx) (call : ClientCall) (operation : String) :
    FailStop start (.ok none) (domainCall rc call operation) := by
  refine (FailStop.issue (show Unmarked (.client rc.hostKey call) from trivial)).bind fun reply => ?_
  cases reply with
  | ok value => exact FailStop.pure value
  | error err => exact FailStop.ite (fun _ => FailStop.record _ _) fun _ => FailStop.leave _

theorem eachInOrder_failStop {f : β → StepBody Unit} (hf : ∀ item, FailStop start none (f item))
    (items : List β) : FailStop start none (eachInOrder f items) := by
  induction items with
  | nil => exact FailStop.pure ()
  | cons item rest ih => exact (hf item).bind fun _ => ih

theorem preflightPool_failStop (rc : ReconcileCtx) (pool : RequiredPool) :
    FailStop start none (preflightPool rc pool) := by
  refine (callOrHandle_failStop rc (.poolExists pool.name) _).bind fun found => ?_
  exact FailStop.ite (fun _ => FailStop.pure ()) fun _ =>
    FailStop.recordWith _ _ _ fun _ _ h => h

theorem defineFrom_failStop (deps : Deps) (rc : ReconcileCtx) (params : DomainXMLParams) :
    FailStop start (.ok none) (defineFrom deps rc params) := by
  rw [defineFrom]
  split
  · exact FailStop.record _ _
  · exact (domainCall_failStop rc (.defineDomain _) _).bind fun _ => FailStop.pure _

theorem bootstrapSource_failStop (rc : ReconcileCtx) (pool : String) (params : DomainXMLParams) :
    FailStop start (.ok none) (bootstrapSource rc pool params) := by
  rw [bootstrapSource]
  split
  · exact FailStop.pure _
  · exact (domainCall_failStop rc (.getVolumePath _ _) _).bind fun _ => FailStop.pure _
  · exact FailStop.pure _

theorem defineDomain_failStop (deps : Deps) (rc : ReconcileCtx) :
    FailStop start (.ok none) (defineDomain deps rc) := by
  refine FailStop.get.bind fun st => ?_
  refine (domainCall_failStop rc (.getVolumePath _ _) _).bind fun rootDiskPath => ?_
  exact (bootstrapSource_failStop rc _ _).bind fun params => defineFrom_failStop deps rc params

theorem startDomainIfStopped_failStop (rc : ReconcileCtx) :
    FailStop start (.ok none) (startDomainIfStopped rc) := by
  refine (domainCall_failStop rc (.getDomain _) _).bind fun domainInfo => ?_
  refine FailStop.ite (fun _ => FailStop.pure _) fun _ => ?_
  exact (domainCall_failStop rc (.startDomain _) _).bind fun _ =>
    domainCall_failStop rc (.getDomain _) _

theorem reconcileDomain_failStop (deps : Deps) (rc : ReconcileCtx) {st : RunState} {w : World}
    (h : Clean start st.status w) :
    Holds unfailingSeen failStopGuard
      (fun out after => Clean start out.2.status after ∨ out.1 = .ok none ∧ Recorded out.2.status after)
      (reconcileDomain deps rc st) w := by
  refine Body.Triple.run (Body.Triple.bind (domainCall_failStop rc (.domainExists _) _) fun found => ?_) h
  refine Body.Triple.bind (FailStop.ite (fun _ => FailStop.pure _) fun _ => defineDomain_failStop deps rc)
    fun _ => ?_
  refine Body.Triple.bind (startDomainIfStopped_failStop rc) fun domainInfo => ?_
  exact Body.Triple.pure fun _ _ hclean => .inl hclean

end Bodies

def Closed (status : LibvirtMachineStatus) (w : World) : Prop :=
  ReadyClean status ∧
    ∀ reason message, w.recorded = some (reason, message) → Failed status reason message

def Open (status : LibvirtMachineStatus) (w : World) : Prop :=
  w.recorded = none ∧ status.failureReason = none

theorem Open.closed {status : LibvirtMachineStatus} (h : Open status w) : Closed status w :=
  ⟨fun _ => h.2, fun _ _ hr => nomatch h.1.symm.trans hr⟩

theorem Recorded.closed {status : LibvirtMachineStatus} (h : Recorded status w) : Closed status w := by
  obtain ⟨reason, message, hw, hfailed⟩ := h
  refine ⟨fun hready => Bool.noConfusion (hready.symm.trans hfailed.2.2), fun reason' message' hw' => ?_⟩
  obtain ⟨rfl, rfl⟩ := Prod.mk.inj (Option.some.inj (hw.symm.trans hw'))
  exact hfailed

theorem Clean.closed {start status : LibvirtMachineStatus} (h : Clean start status w)
    (hstart : ReadyClean start) : Closed status w :=
  ⟨fun hready => h.failureReason.trans (hstart (h.ready.symm.trans hready)),
    fun _ _ hr => nomatch h.recorded.symm.trans hr⟩

section Preparation

def QuietOp (deps : Deps) (rc : ReconcileCtx) : Op → Prop
  | .client host call => host = rc.hostKey ∧ NormalCall deps rc call
  | op => LocalOp op

def QuietInv (rc : ReconcileCtx) (st : RunState) : Prop :=
  rc.OwnPool st.storagePool ∧ st.status.failureReason = none

theorem QuietOp.unmarked {deps : Deps} {rc : ReconcileCtx} {op : Op} (h : QuietOp deps rc op) :
    Unmarked op := by
  cases op <;> trivial

theorem recoverable_policy (deps : Deps) (rc : ReconcileCtx) (phase : Phase) :
    StepPolicy deps rc (Recoverable phase) (QuietOp deps rc) (QuietInv rc) where
  ownPool _ h := h.1
  condition _ _ _ _ _ h := h
  ephemeral _ heph h := ⟨.inr ⟨heph, rfl⟩, h.2⟩
  disks _ _ _ h := h
  boot _ _ _ _ h := h
  localOp op h := by cases op <;> first | exact h | exact h.elim
  call _ h := ⟨rfl, h⟩
  terminal _ err _ hreply ht := Bool.noConfusion (ht.symm.trans (hreply err rfl).1)

def Preparing (rc : ReconcileCtx) (phase : Phase) (st : RunState) (w : World) : Prop :=
  QuietInv rc st ∧ w.recorded = none ∧ w.phase = some phase

variable {deps : Deps} {rc : ReconcileCtx}

theorem Preparing.isOpen {phase : Phase} {st : RunState} {w : World} (h : Preparing rc phase st w) :
    Open st.status w := ⟨h.2.1, h.1.2⟩

abbrev Prepares (rc : ReconcileCtx) (before after : Phase) {α : Type} (body : NormalBody α) : Prop :=
  Body.Triple unfailingSeen failStopGuard (Preparing rc before) body
    (fun _ => Preparing rc after) (fun _ st => Open st.status)

theorem runStep_prepares {step : StepFn} {phase : Phase}
    (hstep : Fn.Keeps (Recoverable phase) (QuietOp deps rc) (QuietInv rc) step) (hphase : phase ≠ .domain) :
    Prepares rc phase phase (runStep step) := by
  refine ((runStep_keeps hstep).triple ?_ ?_).mono (fun _ _ _ h => h)
    fun _ st w (h : Preparing rc phase st w) => h.isOpen
  · exact fun before op hb hop => hop.unmarked.guard hb.1
  · intro before op reply after hb hop hs
    obtain ⟨hrecorded, hphase'⟩ := hop.unmarked.step hs
    refine ⟨?_, hrecorded.trans hb.1, hphase'.trans hb.2⟩
    obtain ⟨-, ⟨-, hreply⟩, -⟩ := hs
    exact hreply.1 phase hb.2 hphase

theorem enter_prepares (before after : Phase) :
    Prepares rc before after (issue (.enter after) : NormalBody Unit) := by
  refine Body.Triple.perform (fun _ _ _ => trivial) fun st w reply w' h hs => ?_
  obtain ⟨hrecorded, hphase⟩ := enter_step hs
  exact ⟨h.1, hrecorded.trans h.2.1, hphase⟩

theorem prepareArtifacts_prepares (hformat : ∀ format, rc.spec.bootstrapFormat ≠ .other format) :
    Prepares rc .baseImage .bootArtifacts (prepareArtifacts deps rc) := by
  have policy := recoverable_policy deps rc
  have hbase : BaseImagePolicy rc (Recoverable .rootDisk) (QuietOp deps rc) (QuietInv rc) :=
    fun call err hcall hreply hn => Bool.noConfusion (hn.symm.trans ((hreply err rfl).2 rfl hcall))
  have hboot : BootstrapPolicy rc (Recoverable .bootstrapArtifacts) (QuietOp deps rc) (QuietInv rc) :=
    ⟨fun _ _ _ err hreply => (hreply err rfl).elim, fun format h => (hformat format h).elim⟩
  refine (runStep_prepares (policy .baseImage).reconcileBaseImage nofun).bind fun _ => ?_
  refine (enter_prepares _ .rootDisk).bind fun _ => ?_
  refine (runStep_prepares ((policy _).reconcileRootDisk hbase) nofun).bind fun _ => ?_
  refine (enter_prepares _ .bootstrapArtifacts).bind fun _ => ?_
  refine (runStep_prepares ((policy _).reconcileBootstrapArtifacts hboot) nofun).bind fun _ => ?_
  refine (enter_prepares _ .additionalDisks).bind fun _ => ?_
  refine (runStep_prepares (policy .additionalDisks).reconcileAdditionalDisks nofun).bind fun _ => ?_
  refine (enter_prepares _ .bootArtifacts).bind fun _ => ?_
  exact runStep_prepares (policy .bootArtifacts).reconcileBootArtifacts nofun

end Preparation

section Runs

variable {deps : Deps} {rc : ReconcileCtx} {start : LibvirtMachineStatus} {w : World}

abbrev exitsClosed (_ : Return) (st : RunState) (w : World) : Prop := Closed st.status w

theorem stopIfFailed_open (hstart : ReadyClean start) :
    Body.Triple unfailingSeen failStopGuard
      (fun st w => Clean start st.status w ∨ Recorded st.status w) stopIfFailed
      (fun _ st w => Clean start st.status w ∧ Open st.status w) exitsClosed := by
  intro st w h
  change Holds _ _ _ ((Body.leaveIf st.status.failureReason.isSome _ : NormalBody Unit).exec st) w
  rw [Body.leaveIf, Body.ite_exec]
  split
  · exact h.elim (fun hclean => hclean.closed hstart) Recorded.closed
  · rename_i hnone
    rcases h with hclean | ⟨reason, message, -, hfailed⟩
    · exact ⟨hclean, hclean.recorded, Option.not_isSome_iff_eq_none.mp hnone⟩
    · exact absurd (Option.isSome_of_mem hfailed.1) hnone

theorem preflightSessionMode_failStop :
    Body.Triple unfailingSeen failStopGuard (fun st => Clean start st.status)
      (Body.call (preflightSessionMode deps rc) : NormalBody Unit)
      (fun _ st w => Clean start st.status w ∨ Recorded st.status w) exitsClosed := by
  refine Body.Triple.call fun st w h => ?_
  rcases hconn : localConnectionURI deps rc.libvirtHost.uri with err | _ | _
  · simp only [preflightSessionMode, hconn]
    exact .inl h
  · simp only [preflightSessionMode, hconn]
    exact .inl h
  · simp only [preflightSessionMode, hconn]
    split
    · exact ⟨h.recorded, fun _ after hs =>
        .inr ⟨_, _, recordFailure_step h.recorded hs, rfl, rfl, rfl⟩⟩
    · exact .inl h

theorem preflightPools_failStop :
    Body.Triple unfailingSeen failStopGuard (fun st => Clean start st.status)
      (Body.call (preflightPools rc) : NormalBody (Option GoError))
      (fun err st w => Clean start st.status w ∨ err = none ∧ Recorded st.status w) exitsClosed := by
  have hpools : FailStop start none (eachInOrder (preflightPool rc) (requiredPools rc)) :=
    eachInOrder_failStop (preflightPool_failStop rc) _
  refine Body.Triple.call fun st w h => Body.Triple.run (Body.Triple.bind hpools fun _ => ?_) h
  exact Body.Triple.pure fun _ _ hclean => .inl hclean

theorem preflight_open (hstart : ReadyClean start) :
    Body.Triple unfailingSeen failStopGuard (fun st => Clean start st.status) (preflight deps rc)
      (fun _ st => Open st.status) exitsClosed := by
  refine preflightSessionMode_failStop.bind fun _ => ?_
  refine (stopIfFailed_open hstart).bind fun _ => ?_
  refine Body.Triple.bind ?_ fun _ => (stopIfFailed_open hstart).mono (fun _ _ _ h => h.2) fun _ _ _ h => h
  refine Body.Triple.bind (fun st w h => preflightPools_failStop st w h.1) fun err => ?_
  cases err with
  | some err =>
    refine Body.Triple.leave fun st w h => ?_
    exact (h.resolve_right nofun).closed hstart
  | none => exact Body.Triple.pure fun st w h => h.imp_right And.right

theorem reconcileDomain_open :
    Body.Triple unfailingSeen failStopGuard (fun st => Open st.status)
      (Body.call (reconcileDomain deps rc) : NormalBody _)
      (fun out st w => Open st.status w ∨ out = .ok none ∧ Recorded st.status w) exitsClosed := by
  refine Body.Triple.call fun st w h => ?_
  have hdomain := reconcileDomain_failStop deps rc (⟨h.1, rfl, rfl⟩ : Clean st.status st.status w)
  refine hdomain.post_mono fun out after hout => hout.imp_left fun hclean => ?_
  exact ⟨hclean.recorded, hclean.failureReason.trans h.2⟩

theorem bringUpDomain_open :
    Body.Triple unfailingSeen failStopGuard (fun st => Open st.status) (bringUpDomain deps rc)
      (fun _ st => Open st.status) exitsClosed := by
  have henter : Body.Triple unfailingSeen failStopGuard (fun st => Open st.status)
      (issue (.enter .domain) : NormalBody Unit) (fun _ st => Open st.status) exitsClosed :=
    Body.Triple.perform (fun _ _ _ => trivial) fun _ _ _ _ h hs => ⟨(enter_step hs).1.trans h.1, h.2⟩
  refine henter.bind fun _ => reconcileDomain_open.bind fun out => ?_
  rcases out with err | _ | domainInfo
  · exact Body.Triple.leave fun st w h => (h.resolve_right nofun).closed
  · exact Body.Triple.leave fun st w h => h.elim Open.closed fun hrec => hrec.2.closed
  · exact Body.Triple.pure fun st w h => h.resolve_right nofun

theorem reconcileNodeLabels_open (lm : LibvirtMachine) (nodeName : String) :
    Body.Triple unfailingSeen failStopGuard (fun st => Open st.status)
      (Body.call (onStatus (reconcileNodeLabels lm nodeName)) : NormalBody Return)
      exitsClosed exitsClosed := by
  refine Body.Triple.call fun st w h => ?_
  have hop (op : Op) (hnode : NodeOp nodeName op) : Unmarked op := by
    cases op <;> trivial
  refine Holds.bind ((reconcileNodeLabels_emits lm nodeName st.status).holds h.1
    (fun before op hb hnode => (hop op hnode).guard hb)
    fun before op reply after hb hnode hs =>
      ⟨trivial, ((hop op hnode).step hs).1.trans hb⟩) fun out after hout => ?_
  exact Open.closed ⟨hout.2, hout.1.trans h.2⟩

theorem hostWork_closed (hformat : ∀ format, rc.spec.bootstrapFormat ≠ .other format) :
    Body.Triple unfailingSeen failStopGuard (Preparing rc .baseImage) (hostWork deps rc)
      exitsClosed exitsClosed := by
  have hprepare : Prepares rc .baseImage .bootArtifacts (prepareArtifacts deps rc) :=
    prepareArtifacts_prepares hformat
  refine (hprepare.mono (fun _ st w h => h.isOpen) fun _ st w h => h.closed).bind fun _ =>
    bringUpDomain_open.bind fun domainInfo => ?_
  exact Body.Triple.bind (Body.Triple.modify fun st w h => h) fun _ => reconcileNodeLabels_open _ _

theorem provision_closed (hstart : ReadyClean start)
    (hformat : ∀ format, rc.spec.bootstrapFormat ≠ .other format) {st : RunState}
    (hst : Clean start st.status w) (hpool : PoolInv rc st) :
    Holds unfailingSeen failStopGuard (fun out after => Closed out.2.status after)
      (provision deps rc st) w := by
  have hkeeps : Body.Keeps anyReply (PreflightOp rc) (PoolInv rc) (preflight deps rc) :=
    preflight_keeps deps rc fun _ _ hp => hp
  have hpreflight := ((preflight_open hstart).keeping hkeeps).mono (fun _ _ _ h => h)
    fun _ _ _ h => h.1
  refine Body.Triple.run (hpreflight.bind fun _ => ?_) ⟨hst, hpool⟩
  refine Body.Triple.bind (Body.Triple.perform (fun _ _ _ => trivial) ?_) fun _ => hostWork_closed hformat
  intro st' before reply after h hs
  obtain ⟨hrecorded, hphase⟩ := enter_step hs
  exact ⟨⟨h.2, h.1.2⟩, hrecorded.trans h.1.1, hphase⟩

theorem checkSizes_closed (host : LibvirtHost) (vcpus memoryMB : Int) {status : LibvirtMachineStatus}
    (h : Clean start status w) :
    Holds unfailingSeen failStopGuard
      (fun out after => Clean start out.2 after ∨ out.1 = .error {} ∧ Recorded out.2 after)
      (checkSizes host vcpus memoryMB status) w := by
  rw [checkSizes]
  split
  · exact ⟨h.recorded, fun _ after hs =>
      .inr ⟨rfl, _, _, recordFailure_step h.recorded hs, rfl, rfl, rfl⟩⟩
  · exact .inl h

theorem resolveAutoSizing_closed (lm : LibvirtMachine) (host : LibvirtHost)
    {status : LibvirtMachineStatus} (h : Clean start status w) :
    Holds unfailingSeen failStopGuard
      (fun out after => Clean start out.2 after ∨ out.1 = .error {} ∧ Recorded out.2 after)
      (resolveAutoSizing lm host status) w := by
  rw [resolveAutoSizing]
  split
  · split
    · exact .inl h
    · exact checkSizes_closed host _ _ h
  · exact .inl h

theorem holds_unmarked {α : Type} {allowed : Op → Prop} {post : α → Prop} {prog : Prog signature α}
    (hprog : Emits anyReply allowed post prog) (hallowed : ∀ op, allowed op → Unmarked op)
    (hw : w.recorded = none) :
    Holds unfailingSeen failStopGuard (fun value after => post value ∧ after.recorded = none) prog w :=
  hprog.holds hw (fun _ op hb hop => (hallowed op hop).guard hb)
    fun _ op _ _ hb hop hs => ⟨trivial, ((hallowed op hop).step hs).1.trans hb⟩

theorem readOp_unmarked (op : Op) (h : ReadOp op) : Unmarked op := by
  cases op <;> trivial

theorem reconcileNormal_closed {deps : Deps} {lm : LibvirtMachine} (hclean : ReadyClean lm.status)
    (hformat : ∀ format, lm.spec.bootstrapFormat ≠ .other format) (hw : w.recorded = none) (machine : Machine)
    (cluster : Cluster) (libvirtCluster : LibvirtCluster) (host : LibvirtHost) :
    Holds unfailingSeen failStopGuard (fun out after => Closed out.2.status after)
      (reconcileNormal deps lm machine cluster libvirtCluster host) w := by
  rw [← lm.addFinalizer_spec] at hformat
  rw [← lm.addFinalizer_status] at hclean
  have hsame {w : World} (h : w.recorded = none) :
      Clean lm.addFinalizer.status lm.addFinalizer.status w := ⟨h, rfl, rfl⟩
  rw [reconcileNormal]
  dsimp only
  split
  · exact (hsame hw).closed hclean
  · refine (holds_unmarked (createClients_emits deps host) readOp_unmarked hw).bind ?_
    rintro clients w₁ ⟨-, h₁⟩
    cases clients with
    | error err => exact (hsame h₁).closed hclean
    | ok _ =>
      refine (holds_unmarked (ensureBootstrapData_emits _ machine _) readOp_unmarked h₁).bind ?_
      rintro ⟨early, status⟩ w₂ ⟨hkept, h₂⟩
      have hclean₂ : Clean lm.addFinalizer.status status w₂ := ⟨h₂, hkept.1, hkept.2⟩
      cases early with
      | some early => exact hclean₂.closed hclean
      | none =>
        refine (resolveAutoSizing_closed _ host hclean₂).bind ?_
        rintro ⟨sizes, status'⟩ w₃ hsizes
        cases sizes with
        | error result =>
          exact hsizes.elim (fun hclean₃ => hclean₃.closed hclean) fun hrec => hrec.2.closed
        | ok sizes =>
          have hclean₃ := hsizes.resolve_right fun h => by cases h.1
          refine (provision_closed hclean ?_ hclean₃ (.inl rfl)).bind fun _ _ hout => hout
          exact hformat

theorem reconcileDelete_closed {deps : Deps} {lm : LibvirtMachine} (hclean : ReadyClean lm.status)
    (hw : w.recorded = none) (cluster : Cluster) (host : LibvirtHost) :
    Holds unfailingSeen failStopGuard (fun out after => Closed out.2.status after)
      (reconcileDelete deps lm cluster host) w := by
  have hsame {w : World} (h : w.recorded = none) : Closed lm.status w :=
    Clean.closed ⟨h, rfl, rfl⟩ hclean
  refine reconcileDelete_holds_of_cleanUp (fun w => w.recorded = none) (fun _ w => w.recorded = none)
    (fun _ _ _ h => hsame h) (fun _ _ _ _ h => Clean.closed ⟨h, rfl, rfl⟩ hclean) (fun w₁ h₁ => ?_)
    (fun _ _ _ _ h => Clean.closed ⟨h, rfl, rfl⟩ hclean) (fun w₁ h₁ => ?_) hw
  · exact (holds_unmarked (createClients_emits deps host) readOp_unmarked h₁).post_mono
      fun _ _ hout => hout.2
  · have hunmarked (op : Op) (hop : DeleteOp ⟨cluster, lm, host⟩ op) : Unmarked op := by
      cases op <;> trivial
    have hkeeps : Body.Keeps anyReply (DeleteOp ⟨cluster, lm, host⟩) (· = lm) (cleanUp _) :=
      cleanUp_keeps
    refine (holds_unmarked (hkeeps lm rfl) hunmarked h₁).post_mono ?_
    rintro ⟨out, lm'⟩ w₂ ⟨rfl, h₂⟩
    cases out <;> exact hsame h₂

theorem reconcile_failStop (deps : Deps) (key : ObjectKey) (hw : StoredClean w) :
    Holds unfailingSeen failStopGuard (fun _ _ => True) (reconcile deps key) w := by
  refine ⟨trivial, fun fetched w₁ hs₁ => ?_⟩
  cases fetched with
  | error err => trivial
  | ok lm =>
    obtain ⟨middle, ⟨⟨hstored, rfl⟩, -, hsupported⟩, hrely⟩ := hs₁
    have hclean := hw lm (hstored lm rfl)
    have hformat (format : String) : lm.spec.bootstrapFormat ≠ .other format :=
      hsupported key lm format rfl
    refine ⟨trivial, fun helper w₂ hs₂ => ?_⟩
    have h₂ : w₂.recorded = none :=
      ((show Unmarked (.newPatchHelper key) from trivial).step hs₂).1.trans hrely.recorded
    cases helper with
    | error err => trivial
    | ok _ =>
      have hfetched : Holds unfailingSeen failStopGuard
          (fun out after => Closed out.2.status after) (reconcileFetched deps lm) w₂ := by
        have hunmarked (op : Op) (hop : LookupOp op) : Unmarked op := by
          cases op <;> trivial
        refine reconcileFetched_holds_of_branches (fun w => w.recorded = none) (fun _ => True) (fun _ => True)
          (fun _ => True) (fun _ => True)
          (fun _ op hb hop => (hunmarked op hop).guard hb)
          (fun _ op _ _ hb hop hs => ((hunmarked op hop).step hs).1.trans hb)
          (fun _ _ _ _ _ => trivial) (fun _ _ _ _ _ => trivial) (fun _ _ _ _ _ _ => trivial)
          (fun _ _ _ _ _ => trivial) (fun _ _ h => Clean.closed ⟨h, rfl, rfl⟩ hclean)
          (fun _ cluster host _ _ _ h => reconcileDelete_closed hclean h cluster host)
          (fun _ machine cluster libvirtCluster host _ _ _ _ _ h => ?_) h₂
        exact reconcileNormal_closed hclean hformat h machine cluster libvirtCluster host
      exact hfetched.bind fun out w₃ hclosed => ⟨hclosed, fun _ _ _ => trivial⟩

end Runs

theorem StoredClean.step {op : Op} {reply : Reply op} (h : StoredClean before)
    (hguard : failStopGuard before op) (hstep : worldStep before op reply after) : StoredClean after := by
  obtain ⟨-, rfl⟩ := hstep
  cases op with
  | patchMachine old new =>
    intro lm hlm
    obtain ⟨stored, hstored, hsettled⟩ := Option.bind_eq_some_iff.mp hlm
    rw [settle_eq_some hsettled, patched]
    dsimp only
    split
    · exact hguard.1
    · exact h stored hstored
  | _ => exact h

-- Over any number of reconciles in which no step between the preflights and the domain
-- meets a failure it would record, a recorded failure stops the run: no further call that
-- changes the host, no second failure, and the patch writes the first one with Ready false.
-- So no stored status is Ready next to a failure.
theorem recorded_failure_stops (deps : Deps) (key : ObjectKey) (c : Config signature World Unit Return)
    (hc : (machineSystem deps key unfailingStep).Reachable StoredClean c) :
    (∀ op next reason message, c.threads () = some (.ask op next) →
      c.state.recorded = some (reason, message) →
        (∀ host call, op = Op.client host call → call.mutatesHost = false) ∧
        (∀ reason' message', op ≠ Op.recordFailure reason' message') ∧
        ∀ old new, op = Op.patchMachine old new →
          new.status.failureReason = some reason ∧ new.status.failureMessage = some message ∧
            new.status.ready = false) ∧
      ∀ lm, c.state.stored = some lm → lm.status.ready = true → lm.status.failureReason = none := by
  obtain ⟨hinv, hthreads⟩ := System.reachable_safe (machineSystem deps key unfailingStep)
    StoredClean (fun _ => StatusRely) (fun _ => failStopGuard)
    (fun _ => StatusRely.refl) (fun _ _ _ _ => StatusRely.trans) (fun _ h => h)
    (fun before after hb henv => ⟨henv.statusRely.clean hb, fun _ => henv.statusRely⟩)
    (fun _ prog w hw hprog other hother => by
      obtain rfl := hprog
      exact reconcile_failStop deps key (hother.clean hw))
    (fun _ before op reply after hb hguard hstep =>
      ⟨hb.step hguard hstep.1, fun j hj => absurd (Subsingleton.elim j _) hj⟩) hc
  refine ⟨fun op next reason message hnext hrecorded => ?_, hinv⟩
  have hguard := (hthreads () _ hnext).guard_ask StatusRely.refl
  refine ⟨?_, ?_, ?_⟩
  · rintro host call rfl
    by_contra hcall
    exact nomatch hrecorded.symm.trans (hguard (Bool.not_eq_false _ ▸ hcall))
  · rintro reason' message' rfl
    exact nomatch hrecorded.symm.trans hguard
  · rintro old new rfl
    exact hguard.2 reason message hrecorded

def diskMachine : LibvirtMachine :=
  { sampleMachine with spec := { sampleMachine.spec with
      additionalDisks := [⟨"data", 1073741824, "default", "virtio"⟩] } }

def deniedAnswer : (op : Op) → Reply op
  | .client _ (.createVolume _ name _) =>
    .error (classifyVirshError "error: cannot create path: Permission denied" "vol-create-as" name)
  | .patchMachine _ _ => ⟨true, true⟩
  | op => freshAnswer op

def deniedReconcile (n : Nat) : Prog signature Return × World :=
  runFor (answering deniedAnswer) n (reconcile sampleDeps sampleKey) { stored := some diskMachine }

theorem deniedReconcile_reachable (n : Nat) :
    (machineSystem sampleDeps sampleKey worldStep).Reachable StoredClean
      ⟨(deniedReconcile n).2, fun _ => some (deniedReconcile n).1⟩ := by
  refine machineSystem_reachable_runFor sampleDeps sampleKey deniedAnswer _ n (fun _ => True) ?_ trivial
    fun _ _ _ _ _ h => ⟨answering_worldStep h, trivial⟩
  intro lm hlm hready
  obtain rfl : diskMachine = lm := Option.some.inj hlm
  rfl

-- The terminal error of the disk is recorded, and the same run defines the domain without
-- the disk, starts it and reports Ready.
theorem deniedDisk_starts_domain :
    (∃ c host next,
      (machineSystem sampleDeps sampleKey worldStep).Reachable StoredClean c ∧
        c.threads () = some (.ask (Op.client host (.startDomain "ns-c-m")) next) ∧
        c.state.recorded.isSome = true) ∧
    ∃ c lm, (machineSystem sampleDeps sampleKey worldStep).Reachable StoredClean c ∧
      c.state.stored = some lm ∧ lm.status.ready = true ∧
        lm.status.failureReason = some .specMismatch := by
  constructor
  · obtain ⟨next, hnext⟩ : ∃ next, (deniedReconcile 28).1 =
        .ask (Op.client ⟨"ns", "h"⟩ (.startDomain "ns-c-m")) next := ⟨_, rfl⟩
    exact ⟨_, _, next, deniedReconcile_reachable 28, congrArg some hnext, rfl⟩
  · exact ⟨_, _, deniedReconcile_reachable 31, rfl, rfl, rfl⟩

def missingPoolAnswer : (op : Op) → Reply op
  | .client _ (.poolExists _) => .ok false
  | op => freshAnswer op

def missingPoolReconcile (n : Nat) : Prog signature Return × World :=
  runFor (answering missingPoolAnswer) n (reconcile sampleDeps sampleKey) { stored := some sampleMachine }

theorem missingPoolAnswer_unfailing {op : Op} {reply : Reply op} (hb : before.stored = some sampleMachine)
    (h : (answering missingPoolAnswer).handler before op reply after) :
    unfailingStep before op reply after ∧ after.stored = some sampleMachine := by
  have hworld := answering_worldStep h
  refine ⟨⟨hworld, fun phase _ _ => ?_, ?_⟩, ?_⟩
  · obtain ⟨rfl, rfl⟩ := Prod.mk.inj h
    cases op with
    | client host call => cases call <;> exact fun _ herr => nomatch herr
    | buildCloudInitISO userData instanceID hostname => exact fun _ herr => nomatch herr
    | _ => trivial
  · rintro key lm format hevent
    cases hevent
    rw [← Option.some.inj (hb.symm.trans (hworld.1 lm rfl))]
    exact nofun
  · obtain ⟨rfl, rfl⟩ := Prod.mk.inj h
    cases op with
    | patchMachine old new =>
      simp only [World.next, World.answer, missingPoolAnswer, freshAnswer, hb, Option.bind_some]
      rfl
    | _ => exact hb

theorem missingPoolReconcile_reachable (n : Nat) :
    (machineSystem sampleDeps sampleKey unfailingStep).Reachable StoredClean
      ⟨(missingPoolReconcile n).2, fun _ => some (missingPoolReconcile n).1⟩ := by
  refine machineSystem_reachable_runFor sampleDeps sampleKey missingPoolAnswer _ n
    (fun w => w.stored = some sampleMachine) ?_ rfl fun _ _ _ _ => missingPoolAnswer_unfailing
  intro lm hlm hready
  obtain rfl : sampleMachine = lm := Option.some.inj hlm
  rfl

theorem recorded_failure_stops_missingPool :
    ∃ old new next message, (missingPoolReconcile 11).1 = .ask (Op.patchMachine old new) next ∧
      new.status.failureReason = some .baseImagePoolNotFound ∧
      new.status.failureMessage = some message ∧ new.status.ready = false := by
  obtain ⟨old, new, next, hnext⟩ : ∃ old new next, (missingPoolReconcile 11).1 =
      .ask (Op.patchMachine old new) next := ⟨_, _, _, rfl⟩
  have hstops := (recorded_failure_stops sampleDeps sampleKey _ (missingPoolReconcile_reachable 11)).1 _ next
    .baseImagePoolNotFound _ (congrArg some hnext) rfl
  exact ⟨old, new, next, _, hnext, hstops.2.2 old new rfl⟩

end Caplv.Controller

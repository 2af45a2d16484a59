import Caplv.Controller.Handling
import Caplv.Controller.Cleanup
import Caplv.Controller.World

namespace Caplv.Api

namespace LibvirtMachineStatus

def conditionValue (status : LibvirtMachineStatus) (type : ConditionType) : Option Bool :=
  (findStatusCondition status.conditions type).map Condition.status

@[simp] theorem conditionValue_setCondition (status : LibvirtMachineStatus) (generation : Int)
    (type : ConditionType) (value : Bool) (reason : Reason) (message : String) (other : ConditionType) :
    (status.setCondition generation type value reason message).conditionValue other =
      if type = other then some value else status.conditionValue other := by
  unfold conditionValue setCondition
  rw [findStatusCondition_set]
  split <;> rfl

@[simp] theorem setCondition_ready (status : LibvirtMachineStatus) (generation : Int) (type : ConditionType)
    (value : Bool) (reason : Reason) (message : String) :
    (status.setCondition generation type value reason message).ready = status.ready := rfl

@[simp] theorem conditionValue_recordFailure (status : LibvirtMachineStatus) (reason : Reason)
    (message : String) (type : ConditionType) :
    (status.recordFailure reason message).conditionValue type = status.conditionValue type := rfl

theorem conditionValue_removeCondition (status : LibvirtMachineStatus) {removed type : ConditionType}
    (hother : removed ≠ type) :
    (status.removeCondition removed).conditionValue type = status.conditionValue type := by
  unfold conditionValue removeCondition
  rw [findStatusCondition_remove _ hother]

end LibvirtMachineStatus

end Caplv.Api

namespace Caplv.Controller

open Text Api Libvirt Scope Program

def LeftFalse (type : ConditionType) (before after : LibvirtMachineStatus) : Prop :=
  before.conditionValue type = some false ∧ after.conditionValue type = some false

instance (type : ConditionType) (before after : LibvirtMachineStatus) : Decidable (LeftFalse type before after) :=
  inferInstanceAs (Decidable (_ ∧ _))

def Agree (before after : LibvirtMachineStatus) : Prop :=
  (after.ready = true ↔ after.conditionValue .infrastructureReady = some true) ∧
    (after.ready = true → ∀ type ∈ [ConditionType.hostReachable, .bootstrapDataReady, .baseImageStaged],
      ¬ LeftFalse type before after)

-- The objects a LibvirtMachine goes through: it is created without a status, its other fields
-- are edited, and reconciles leave their status on it. A reconcile whose patch fails changes
-- nothing.
inductive History (reconciled : LibvirtMachine → LibvirtMachine → Prop) : LibvirtMachine → Prop where
  | created {lm : LibvirtMachine} (hready : lm.status.ready = false) (hconditions : lm.status.conditions = []) :
      History reconciled lm
  | edited {lm lm' : LibvirtMachine} (hlm : History reconciled lm) (hstatus : lm'.status = lm.status) :
      History reconciled lm'
  | reconcile {lm lm' : LibvirtMachine} (hlm : History reconciled lm) (hrun : reconciled lm lm') :
      History reconciled lm'

def Reconciles (deps : Deps) (lm lm' : LibvirtMachine) : Prop :=
  ∃ ret, Completes (fun (_ : Unit) _ _ _ => True) (reconcileFetched deps lm) () (ret, lm') ()

def phaseAfter (phase : Option Phase) : Op → Option Phase
  | .enter next => some next
  | _ => phase

-- The failures a preflight records together with InfrastructureReady = False.
def preflightReason : Reason → Bool
  | .networkTypeUnsupported | .storagePoolNotFound | .baseImagePoolNotFound => true
  | _ => false

-- The answers to a reconcile of `lm`, owned by `machine`, that take none of the branches after
-- which a condition goes stale: `found` is what every look at the base image volume says.
def Steady (lm : LibvirtMachine) (machine : Machine) (found : Bool) (phase : Option Phase) :
    (op : Op) → Reply op → Prop
  | .getOwnerMachine _, reply => ∀ owner, reply = .ok (some owner) → owner = machine
  | .getSecret key, reply => lm.status.ready = true → key.namespaceName = machine.namespaceName →
      machine.bootstrapDataSecretName = some key.name → ∀ err, reply = .error err → err.isNotFound = false
  | .getLibvirtCluster _, reply => ∀ libvirtCluster, reply = .ok libvirtCluster →
      lm.status.conditionValue .baseImageStaged = some false → libvirtCluster.baseImage ≠ none
  | .getLibvirtHost _, reply => ∀ host, reply = .ok host → lm.deletionTimestamp = false → host.ready = true
  | .client _ (.volumeExists _ _), reply => phase = some .baseImage → ∀ answer, reply = .ok answer → answer = found
  | .recordFailure reason _, _ => phase ≠ some .baseImage ∧
      (lm.status.ready = true → phase = none ∧ preflightReason reason = true)
  | _, _ => True

def steadyStep (lm : LibvirtMachine) (machine : Machine) (found : Bool) : Handler signature (Option Phase) :=
  fun before op reply after => Steady lm machine found before op reply ∧ after = phaseAfter before op

abbrev SteadyHolds {α : Type} (lm : LibvirtMachine) (machine : Machine) (found : Bool)
    (post : α → Option Phase → Prop) (prog : Prog signature α) (phase : Option Phase) : Prop :=
  Holds (steadyStep lm machine found) (fun _ _ => True) post prog phase

abbrev SteadyBody {σ ρ α : Type} (lm : LibvirtMachine) (machine : Machine) (found : Bool)
    (pre : σ → Option Phase → Prop) (body : Body signature σ ρ α) (post : α → σ → Option Phase → Prop)
    (exit : ρ → σ → Option Phase → Prop) : Prop :=
  Body.Triple (steadyStep lm machine found) (fun _ _ => True) pre body post exit

-- A machine that is ready keeps its bootstrap data and its base image volume, and one whose
-- base image was being staged is not ready and has no such volume yet.
structure Expected (lm : LibvirtMachine) (machine : Machine) (found : Bool) : Prop where
  bootstrap : lm.status.ready = true → machine.bootstrapDataSecretName ≠ none
  ready : lm.status.ready = true → found = true
  staging : lm.status.conditionValue .baseImageStaged = some false → found = false

def ReconcilesSteadily (deps : Deps) (lm lm' : LibvirtMachine) : Prop :=
  ∃ machine found ret phase, Expected lm machine found ∧
    Completes (steadyStep lm machine found) (reconcileFetched deps lm) none (ret, lm') phase

structure Tidy (status : LibvirtMachineStatus) : Prop where
  infrastructure : status.ready = true ↔ status.conditionValue .infrastructureReady = some true
  host : status.conditionValue .hostReachable ≠ some false
  bootstrap : status.ready = true → status.conditionValue .bootstrapDataReady ≠ some false
  staged : status.ready = true → status.conditionValue .baseImageStaged ≠ some false

structure Underway (lm : LibvirtMachine) (status : LibvirtMachineStatus) : Prop where
  infrastructure : status.ready = true ↔ status.conditionValue .infrastructureReady = some true
  host : status.conditionValue .hostReachable ≠ some false
  bootstrap : status.conditionValue .bootstrapDataReady ≠ some false
  ready : status.ready = true → lm.status.ready = true

structure Unstaged (lm : LibvirtMachine) (status : LibvirtMachineStatus) : Prop extends Underway lm status where
  same : status.conditionValue .baseImageStaged = lm.status.conditionValue .baseImageStaged

structure ImageStaged (lm : LibvirtMachine) (status : LibvirtMachineStatus) : Prop extends Underway lm status where
  staged : status.conditionValue .baseImageStaged ≠ some false

section Status

variable {lm : LibvirtMachine} {status : LibvirtMachineStatus}

theorem Underway.tidy (h : Underway lm status)
    (hstaged : lm.status.ready = true → status.conditionValue .baseImageStaged ≠ some false) : Tidy status :=
  ⟨h.infrastructure, h.host, fun _ => h.bootstrap, fun hready => hstaged (h.ready hready)⟩

theorem Unstaged.tidy (h : Unstaged lm status) (hlm : Tidy lm.status) : Tidy status :=
  h.toUnderway.tidy fun hready => h.same ▸ hlm.staged hready

theorem ImageStaged.tidy (h : ImageStaged lm status) : Tidy status := h.toUnderway.tidy fun _ => h.staged

theorem Underway.recordFailure (h : Underway lm status) (hlm : lm.status.ready = false) (reason : Reason)
    (message : String) : Underway lm (status.recordFailure reason message) := by
  have hready : status.ready = false := by
    rw [Bool.eq_false_iff]
    intro hready
    rw [h.ready hready] at hlm
    cases hlm
  have hinfra : status.conditionValue .infrastructureReady ≠ some true := by
    intro hinfra
    rw [h.infrastructure.mpr hinfra] at hready
    cases hready
  exact ⟨⟨nofun, fun hinfra' => absurd hinfra' hinfra⟩, h.host, h.bootstrap, nofun⟩

theorem Unstaged.preflightFailure (h : Unstaged lm status) (generation : Int) (reason : Reason) (message : String) :
    Unstaged lm ((status.recordFailure reason message).setCondition generation .infrastructureReady false
      reason message) := by
  refine ⟨⟨⟨nofun, fun hinfra => ?_⟩, ?_, ?_, nofun⟩, ?_⟩
  · simp at hinfra
  · simpa using h.host
  · simpa using h.bootstrap
  · simpa using h.same

theorem Underway.stage (h : Underway lm status) (generation : Int) (value : Bool) (reason : Reason)
    (message : String) : Underway lm (status.setCondition generation .baseImageStaged value reason message) := by
  refine ⟨?_, ?_, ?_, h.ready⟩
  · simpa using h.infrastructure
  · simpa using h.host
  · simpa using h.bootstrap

end Status

section Runs

variable {deps : Deps} {lm : LibvirtMachine} {machine : Machine} {found : Bool} {rc : ReconcileCtx}
  {status : LibvirtMachineStatus} {α : Type} {st : RunState}

theorem Expected.bootstrapSecret (h : Expected lm machine found) (hname : machine.bootstrapDataSecretName = none) :
    lm.status.ready = false := by
  rw [Bool.eq_false_iff]
  intro hready
  exact h.bootstrap hready hname

theorem Tidy.bootstrapMissing (h : Tidy status) (hready : status.ready = false)
    (generation : Int) (reason : Reason) (message : String) :
    Tidy (status.setCondition generation .bootstrapDataReady false reason message) := by
  refine ⟨?_, ?_, fun hready' => ?_, fun hready' => ?_⟩
  · simpa using h.infrastructure
  · simpa using h.host
  · rw [LibvirtMachineStatus.setCondition_ready, hready] at hready'
    cases hready'
  · rw [LibvirtMachineStatus.setCondition_ready, hready] at hready'
    cases hready'

theorem Tidy.bootstrapPresent (h : Tidy lm.status) (generation : Int) (reason : Reason) (message : String) :
    Unstaged lm (lm.status.setCondition generation .bootstrapDataReady true reason message) := by
  refine ⟨⟨?_, ?_, ?_, fun hready => hready⟩, ?_⟩
  · simpa using h.infrastructure
  · simpa using h.host
  · simp
  · simp

theorem ensureBootstrapData_tidy (hexpected : Expected lm machine found) (hlm : Tidy lm.status)
    (object : LibvirtMachine) :
    SteadyHolds lm machine found
      (fun out phase => phase = none ∧ Tidy out.2 ∧ (out.1 = none → Unstaged lm out.2))
      (ensureBootstrapData object machine lm.status) none := by
  rw [ensureBootstrapData]
  dsimp only
  split
  · rename_i hname
    exact ⟨rfl, hlm.bootstrapMissing (hexpected.bootstrapSecret hname) _ _ _, fun h => by cases h⟩
  · rename_i secretName hname
    refine ⟨trivial, fun secret phase hstep => ?_⟩
    obtain ⟨hsteady, rfl⟩ := hstep
    cases secret with
    | ok secret =>
      have hpresent := hlm.bootstrapPresent object.generation .bootstrapDataReady "Bootstrap data secret is available"
      exact ⟨rfl, hpresent.tidy hlm, fun _ => hpresent⟩
    | error err =>
      change @Holds signature _ _ _ _ _ (if err.isNotFound = true then _ else _) _
      split
      · rename_i hmissing
        have hready : lm.status.ready = false := by
          rw [Bool.eq_false_iff]
          intro hready
          rw [hsteady hready rfl hname err rfl] at hmissing
          cases hmissing
        exact ⟨rfl, hlm.bootstrapMissing hready _ _ _, fun h => by cases h⟩
      · exact ⟨rfl, hlm, fun h => by cases h⟩

theorem unready_of_recordFailure {before after : Option Phase} {reason : Reason} {message : String}
    (hreason : before = none → preflightReason reason = false)
    (hstep : steadyStep lm machine found before (.recordFailure reason message) () after) :
    lm.status.ready = false := by
  rw [Bool.eq_false_iff]
  intro hready
  obtain ⟨hphase, hpreflight⟩ := hstep.1.2 hready
  rw [hreason hphase] at hpreflight
  cases hpreflight

theorem Unstaged.recordFailure (h : Unstaged lm status) (hlm : lm.status.ready = false) (reason : Reason)
    (message : String) : Unstaged lm (status.recordFailure reason message) :=
  ⟨h.toUnderway.recordFailure hlm reason message, h.same⟩

theorem checkSizes_unstaged (host : LibvirtHost) (vcpus memoryMB : Int) (h : Unstaged lm status) :
    SteadyHolds lm machine found (fun out phase => phase = none ∧ Unstaged lm out.2)
      (checkSizes host vcpus memoryMB status) none := by
  rw [checkSizes]
  split
  · refine ⟨trivial, fun _ phase hstep => ?_⟩
    have hready := unready_of_recordFailure (fun _ => rfl) hstep
    exact ⟨hstep.2, h.recordFailure hready _ _⟩
  · exact ⟨rfl, h⟩

theorem resolveAutoSizing_unstaged (object : LibvirtMachine) (host : LibvirtHost) (h : Unstaged lm status) :
    SteadyHolds lm machine found (fun out phase => phase = none ∧ Unstaged lm out.2)
      (resolveAutoSizing object host status) none := by
  rw [resolveAutoSizing]
  split
  · split
    · exact ⟨rfl, h⟩
    · exact checkSizes_unstaged host _ _ h
  · exact ⟨rfl, h⟩

def AtPreflight (lm : LibvirtMachine) (st : RunState) (phase : Option Phase) : Prop :=
  Unstaged lm st.status ∧ phase = none

theorem handleLibvirtError_unstaged {post : α → RunState → Option Phase → Prop} (err : GoError)
    (operation : String) :
    SteadyBody lm machine found (AtPreflight lm)
      (handleLibvirtError err operation : StepBody α) post (fun _ => AtPreflight lm) := by
  refine Body.Triple.ite (fun _ => ?_) fun _ => Body.Triple.leave fun _ _ h => h
  intro st phase h
  refine ⟨trivial, fun _ after hstep => ?_⟩
  have hready := unready_of_recordFailure (fun _ => rfl) hstep
  exact ⟨h.1.recordFailure hready _ _, hstep.2.trans h.2⟩

theorem preflightSessionMode_unstaged {ρ : Type} :
    SteadyBody lm machine found (AtPreflight lm)
      (Body.call (preflightSessionMode deps rc) : Body signature RunState ρ Unit) (fun _ => AtPreflight lm)
      (fun _ => AtPreflight lm) := by
  rw [preflightSessionMode]
  split
  · split
    · refine Body.Triple.call fun st phase h => ?_
      refine ⟨trivial, fun _ after hstep => ?_⟩
      exact ⟨h.1.preflightFailure _ _ _, hstep.2.trans h.2⟩
    · exact Body.Triple.call fun _ _ h => h
  · exact Body.Triple.call fun _ _ h => h

theorem preflightPool_unstaged (pool : RequiredPool) :
    SteadyBody lm machine found (AtPreflight lm) (preflightPool rc pool)
      (fun _ => AtPreflight lm) (fun _ => AtPreflight lm) := by
  have hlookup : SteadyBody lm machine found (AtPreflight lm)
      (callOrHandle rc (.poolExists pool.name) ("checking " ++ pool.label ++ " pool"))
      (fun _ => AtPreflight lm) (fun _ => AtPreflight lm) := by
    refine Body.Triple.perform_bind (fun _ _ _ => trivial) fun reply => ?_
    cases reply with
    | ok value =>
      refine Body.Triple.pure fun st after h => ?_
      obtain ⟨before, hbefore, hstep⟩ := h
      exact ⟨hbefore.1, hstep.2.trans hbefore.2⟩
    | error err =>
      intro st after h
      obtain ⟨before, hbefore, hstep⟩ := h
      exact handleLibvirtError_unstaged err _ st after ⟨hbefore.1, hstep.2.trans hbefore.2⟩
  refine hlookup.bind fun present => ?_
  refine Body.Triple.ite (fun _ => Body.Triple.pure fun _ _ h => h) fun _ => ?_
  intro st phase h
  refine ⟨trivial, fun _ after hstep => ?_⟩
  exact ⟨h.1.preflightFailure _ _ _, hstep.2.trans h.2⟩

theorem preflight_unstaged :
    SteadyBody lm machine found (AtPreflight lm) (preflight deps rc)
      (fun _ => AtPreflight lm) (fun _ => AtPreflight lm) := by
  have hstop : SteadyBody lm machine found (AtPreflight lm) stopIfFailed
      (fun _ => AtPreflight lm) (fun _ => AtPreflight lm) := by
    intro st phase h
    rw [stopIfFailed, Body.get_bind_exec, Body.leaveIf]
    split <;> exact h
  have hpools : SteadyBody lm machine found (AtPreflight lm)
      (runStep (preflightPools rc)) (fun _ => AtPreflight lm) (fun _ => AtPreflight lm) := by
    refine runStep_triple fun st phase h => ?_
    have hloop := stepFn_triple (eachInOrder_triple (fun pool => @preflightPool_unstaged lm machine found rc pool)
      (requiredPools rc)) h
    exact hloop.post_mono fun _ _ hend => ⟨fun _ => hend, fun _ _ => hend⟩
  refine preflightSessionMode_unstaged.bind fun _ => ?_
  refine hstop.bind fun _ => ?_
  refine hpools.bind fun _ => ?_
  exact hstop

-- In the base image step no failure is recorded, and every error leaves a status that is tidy.
def BaseImageEnd (lm : LibvirtMachine) (err : Option GoError) (st : RunState) (phase : Option Phase) : Prop :=
  phase = some .baseImage ∧ Tidy st.status ∧ (err = none → ImageStaged lm st.status)

def ImageStaging (lm : LibvirtMachine) (st : RunState) : Prop := Underway lm st.status ∧ lm.status.ready = false

abbrev InBaseImage (inv : RunState → Prop) (st : RunState) (phase : Option Phase) : Prop :=
  inv st ∧ phase = some .baseImage

theorem ImageStaging.tidy (h : ImageStaging lm st) : Tidy st.status := by
  refine h.1.tidy fun hready => ?_
  rw [h.2] at hready
  cases hready

theorem baseImage_handling {inv : RunState → Prop} (hinv : ∀ st, inv st → Tidy st.status) :
    Handling (steadyStep lm machine found) (fun _ _ => True) (InBaseImage inv)
      (BaseImageEnd lm) := by
  refine ⟨fun _ _ _ _ _ => trivial, fun st before reason message after h hstep => ?_, fun st phase err h => ?_⟩
  · exact absurd h.2 hstep.1.1
  · exact ⟨h.2, hinv st h.1, nofun⟩

theorem orReturn_staging {what : String} (result : Except GoError α) :
    SteadyBody lm machine found (InBaseImage (ImageStaging lm)) (orReturn what result)
      (fun _ => InBaseImage (ImageStaging lm)) (BaseImageEnd lm) := by
  have hhandling := @baseImage_handling lm machine found (ImageStaging lm) fun _ h => h.tidy
  exact (hhandling.orReturn what result fun _ _ h => h).mono (fun _ _ _ h => h.1) fun _ _ _ h => h

theorem lookup_found {inv : RunState → Prop} (hinv : ∀ st, inv st → Tidy st.status) (pool name operation : String) :
    SteadyBody lm machine found (InBaseImage inv)
      (callOrHandle rc (.volumeExists pool name) operation)
      (fun answer st phase => answer = found ∧ InBaseImage inv st phase) (BaseImageEnd lm) := by
  refine (baseImage_handling hinv).callOrHandle rc _ _ (fun _ _ _ => trivial) ?_ ?_
  · intro st before value after h hstep
    exact ⟨hstep.1 h.2 value rfl, h.1, hstep.2.trans h.2⟩
  · intro st before err after h hstep
    exact ⟨h.1, hstep.2.trans h.2⟩

theorem call_staging (call : ClientCall) (operation : String) :
    SteadyBody lm machine found (InBaseImage (ImageStaging lm))
      (callOrHandle rc call operation) (fun _ => InBaseImage (ImageStaging lm)) (BaseImageEnd lm) := by
  have hhandling := @baseImage_handling lm machine found (ImageStaging lm) fun _ h => h.tidy
  exact hhandling.callOrHandle rc call operation (fun _ _ _ => trivial)
    (fun _ _ _ _ h hstep => ⟨h.1, hstep.2.trans h.2⟩) fun _ _ _ _ h hstep => ⟨h.1, hstep.2.trans h.2⟩

theorem localOp_phase {op : Op} (hop : LocalOp op) (phase : Option Phase) : phaseAfter phase op = phase := by
  cases op <;> first
    | exact hop.elim
    | rfl

theorem local_staging (op : Op) (hop : LocalOp op) {inv : RunState → Option Phase → Prop}
    {exit : Option GoError → RunState → Option Phase → Prop} :
    SteadyBody lm machine found inv (issue op : StepBody _) (fun _ => inv) exit := by
  refine Body.Triple.perform (fun _ _ _ => trivial) fun st before reply after h hstep => ?_
  rw [hstep.2, localOp_phase hop]
  exact h

theorem uploadBaseImage_imageStaged (hmissing : found = false) (image : BaseImageSpec) (entry : CacheEntry) :
    SteadyBody lm machine found
      (InBaseImage (ImageStaging lm))
      (Body.call (uploadBaseImage rc image entry) : StepBody (Option GoError)) (BaseImageEnd lm)
      (BaseImageEnd lm) := by
  refine Body.Triple.call fun st phase h => ?_
  refine @stepFn_triple _ _ _ (InBaseImage (ImageStaging lm)) (BaseImageEnd lm) _ ?_ _ _ h
  refine (lookup_found (fun _ h => h.tidy) _ _ _).bind fun answer => ?_
  refine Body.Triple.leaveIf_bind (InBaseImage (ImageStaging lm)) (fun hanswer st phase h => ?_) (fun _ _ _ h => h.2) ?_
  · rw [hanswer, hmissing] at h
    cases h.1
  refine (local_staging (.qcow2VirtualSize entry.path) trivial).bind fun header => ?_
  refine (orReturn_staging header).bind fun virtualSize => ?_
  refine (local_staging (.openFile entry.path) trivial).bind fun file => ?_
  refine (orReturn_staging file).bind fun content => ?_
  refine (call_staging _ _).bind fun _ => ?_
  refine Body.Triple.modify fun st phase h => ?_
  have hstaged : ImageStaged lm (st.status.setCondition rc.libvirtMachine.generation .baseImageStaged true
      .baseImageStaged ("Base image staged in " ++ image.pool ++ " as " ++ image.volumeName)) :=
    ⟨h.1.1.stage _ _ _ _, by simp⟩
  exact ⟨h.2, hstaged.tidy, fun _ => hstaged⟩

theorem Expected.unready (h : Expected lm machine found) (hmissing : found = false) : lm.status.ready = false := by
  rw [Bool.eq_false_iff]
  intro hready
  rw [h.ready hready] at hmissing
  cases hmissing

theorem stageBaseImage_imageStaged (hexpected : Expected lm machine found) (hlm : Tidy lm.status)
    (image : BaseImageSpec) :
    SteadyBody lm machine found
      (fun st phase => Unstaged lm st.status ∧ phase = some .baseImage) (stageBaseImage rc image)
      (fun _ => BaseImageEnd lm none) (BaseImageEnd lm) := by
  have hhandling := @baseImage_handling lm machine found (ImageStaging lm) fun _ h => h.tidy
  have hcreds : SteadyBody lm machine found (InBaseImage (ImageStaging lm))
      (Body.lift (resolveBaseImageCredentials rc.libvirtCluster image.source) : StepBody _)
      (fun _ => InBaseImage (ImageStaging lm)) (BaseImageEnd lm) := by
    intro st phase h
    have hread : SteadyHolds lm machine found
        (fun _ after => True ∧ after = some Phase.baseImage)
        (resolveBaseImageCredentials rc.libvirtCluster image.source) phase := by
      refine (resolveBaseImageCredentials_emits _ _).holds h.2 (fun _ _ _ _ => trivial) ?_
      intro before op reply after hbefore hop hstep
      rw [hstep.2, localOp_phase hop]
      exact ⟨trivial, hbefore⟩
    exact hread.bind fun _ _ hafter => ⟨h.1, hafter.2⟩
  have hinitial (st : RunState) (h : Unstaged lm st.status) : Tidy st.status := h.tidy hlm
  refine (lookup_found hinitial _ _ _).bind fun answer => ?_
  refine Body.Triple.leaveIf_bind (fun st phase => found = false ∧ InBaseImage (fun st => Unstaged lm st.status) st phase)
    (fun hanswer st phase h => ?_) (fun hanswer st phase h => ⟨h.1.symm.trans hanswer, h.2⟩) ?_
  · -- the volume is there, so BaseImageStaged was not False
    obtain ⟨hfound, hst, hphase⟩ := h
    refine ⟨hphase, hst.tidy hlm, fun _ => ⟨hst.toUnderway, ?_⟩⟩
    rw [hst.same]
    intro hfalse
    rw [hanswer, hexpected.staging hfalse] at hfound
    cases hfound
  refine Body.Triple.modify_bind (fun st phase => found = false ∧ InBaseImage (ImageStaging lm) st phase)
    (fun st phase h => ?_) ?_
  · exact ⟨h.1, ⟨h.2.1.toUnderway.stage _ _ _ _, hexpected.unready h.1⟩, h.2.2⟩
  intro st phase h
  obtain ⟨hmissing, h⟩ := h
  refine Body.Triple.bind hcreds (fun creds => ?_) st phase h
  refine (orReturn_staging creds).bind fun creds => ?_
  refine (local_staging (.imageGet image.source creds (baseImageExpectedSHA256 image.source)) trivial).bind
    fun entry => ?_
  refine (orReturn_staging entry).bind fun entry => ?_
  refine (local_staging (.lockUpload _) trivial).bind fun _ => ?_
  refine (uploadBaseImage_imageStaged hmissing image entry).bind fun err => ?_
  refine (local_staging (.unlockUpload _) trivial).bind fun _ => ?_
  exact Body.Triple.leave fun _ _ hend => hend

theorem reconcileBaseImage_imageStaged (hexpected : Expected lm machine found) (hlm : Tidy lm.status)
    (hbound : lm.status.conditionValue .baseImageStaged = some false → rc.libvirtCluster.baseImage ≠ none)
    (h : Unstaged lm st.status) :
    SteadyHolds lm machine found (fun out phase => BaseImageEnd lm out.1 out.2 phase)
      (reconcileBaseImage deps rc st) (some .baseImage) := by
  rw [reconcileBaseImage]
  cases himage : rc.libvirtCluster.baseImage with
  | none =>
    refine ⟨rfl, h.tidy hlm, fun _ => ⟨h.toUnderway, ?_⟩⟩
    rw [h.same]
    intro hfalse
    exact hbound hfalse himage
  | some image =>
    by_cases hcache : deps.baseImageCache = true
    · simp only [hcache, if_true]
      exact stepFn_triple (stageBaseImage_imageStaged hexpected hlm image) ⟨h, rfl⟩
    · simp only [hcache]
      exact ⟨rfl, h.tidy hlm, fun h => by cases h⟩

def laterReplies (lm : LibvirtMachine) : Replies signature
  | .recordFailure _ _, _ => lm.status.ready = false
  | _, _ => True

theorem ImageStaged.recordFailure (h : ImageStaged lm status) (hlm : lm.status.ready = false) (reason : Reason)
    (message : String) : ImageStaged lm (status.recordFailure reason message) :=
  ⟨h.toUnderway.recordFailure hlm reason message, h.staged⟩

theorem later_records : Records (laterReplies lm) (fun _ => True) fun st => ImageStaged lm st.status :=
  ⟨fun _ _ => trivial, fun _ reason message hready h => h.recordFailure hready reason message⟩

theorem later_triple {body : NormalBody α}
    (h : Body.Keeps (laterReplies lm) (fun _ => True) (fun st => ImageStaged lm st.status) body) :
    SteadyBody lm machine found (fun st phase => ImageStaged lm st.status ∧ phase ≠ none)
      body (fun _ st phase => ImageStaged lm st.status ∧ phase ≠ none) fun _ st _ => Tidy st.status := by
  refine (h.triple (fun _ _ _ _ => trivial) ?_).mono (fun _ _ _ h => h) fun _ _ _ h => h.1.tidy
  intro before op reply after hphase _ hstep
  rw [hstep.2]
  cases op with
  | recordFailure reason message =>
    refine ⟨?_, hphase⟩
    exact unready_of_recordFailure (fun hnone => absurd hnone hphase) hstep
  | enter phase => exact ⟨trivial, nofun⟩
  | _ => exact ⟨trivial, hphase⟩

theorem later_callOrHandle (call : ClientCall) (operation : String) :
    Body.Keeps (laterReplies lm) (fun _ => True) (fun st => ImageStaged lm st.status) (callOrHandle rc call operation) :=
  callOrHandle_keeps trivial (fun _ _ _ => later_records) operation

theorem artifacts_later :
    Body.Keeps (laterReplies lm) (fun _ => True) (fun st => ImageStaged lm st.status) (do
      issue (.enter .rootDisk)
      runStep (reconcileRootDisk rc)
      issue (.enter .bootstrapArtifacts)
      runStep (reconcileBootstrapArtifacts deps rc)
      issue (.enter .additionalDisks)
      runStep (reconcileAdditionalDisks rc)
      issue (.enter .bootArtifacts)
      runStep (reconcileBootArtifacts deps rc)) := by
  have hroot : Fn.Keeps (laterReplies lm) (fun _ => True) (fun st => ImageStaged lm st.status) (reconcileRootDisk rc) :=
    reconcileRootDisk_keeps (fun _ => True) (fun _ _ => trivial) (fun _ _ h => h) (fun _ _ => trivial)
      (fun call _ => later_callOrHandle call)
      fun call _ _ => callOnBaseImage_keeps trivial (fun _ _ _ => later_records) fun _ _ _ => later_records
  have hbootstrap : Fn.Keeps (laterReplies lm) (fun _ => True) (fun st => ImageStaged lm st.status)
      (reconcileBootstrapArtifacts deps rc) :=
    reconcileBootstrapArtifacts_keeps (fun _ => True) (fun _ _ => trivial) (fun _ _ => trivial)
      ⟨fun _ _ _ _ _ => later_records, fun _ _ => later_records⟩ fun call _ => later_callOrHandle call
  have hdisks : Fn.Keeps (laterReplies lm) (fun _ => True) (fun st => ImageStaged lm st.status)
      (reconcileAdditionalDisks rc) :=
    reconcileAdditionalDisks_keeps (fun _ _ _ h => h) fun _ _ call _ => later_callOrHandle call
  have hboot : Fn.Keeps (laterReplies lm) (fun _ => True) (fun st => ImageStaged lm st.status)
      (reconcileBootArtifacts deps rc) :=
    reconcileBootArtifacts_keeps (fun _ _ _ _ h => h) (fun _ _ => trivial) fun call _ => later_callOrHandle call
  refine Body.Keeps.perform_bind trivial fun _ _ => ?_
  refine (runStep_keeps hroot).bind fun _ => ?_
  refine Body.Keeps.perform_bind trivial fun _ _ => ?_
  refine (runStep_keeps hbootstrap).bind fun _ => ?_
  refine Body.Keeps.perform_bind trivial fun _ _ => ?_
  refine (runStep_keeps hdisks).bind fun _ => ?_
  refine Body.Keeps.perform_bind trivial fun _ _ => ?_
  exact runStep_keeps hboot

theorem markReady_conditionValue (domainInfo : DomainInfo) (st : RunState) (type : ConditionType) :
    (markReady deps rc domainInfo st).status.conditionValue type =
      if .infrastructureReady = type then some true else st.status.conditionValue type :=
  LibvirtMachineStatus.conditionValue_setCondition ..

theorem ImageStaged.markReady (h : ImageStaged lm st.status) (domainInfo : DomainInfo) :
    Tidy (Controller.markReady deps rc domainInfo st).status := by
  refine ⟨⟨fun _ => ?_, fun _ => rfl⟩, ?_, fun _ => ?_, fun _ => ?_⟩
  · simp [markReady_conditionValue]
  · simpa [markReady_conditionValue] using h.host
  · simpa [markReady_conditionValue] using h.bootstrap
  · simpa [markReady_conditionValue] using h.staged

theorem Tidy.congr {status status' : LibvirtMachineStatus} (h : Tidy status) (hready : status'.ready = status.ready)
    (hsame : ∀ type, type ≠ .nodeLabelled → type ≠ .cleanupStalled →
      status'.conditionValue type = status.conditionValue type) : Tidy status' := by
  refine ⟨?_, ?_, fun hready' => ?_, fun hready' => ?_⟩
  · rw [hready, hsame .infrastructureReady nofun nofun]
    exact h.infrastructure
  · rw [hsame .hostReachable nofun nofun]
    exact h.host
  · rw [hsame .bootstrapDataReady nofun nofun]
    exact h.bootstrap (hready ▸ hready')
  · rw [hsame .baseImageStaged nofun nofun]
    exact h.staged (hready ▸ hready')

theorem reconcileNodeLabels_tidy (lm : LibvirtMachine) (nodeName : String) :
    Fn.Keeps anyReply (NodeOp nodeName) Tidy (reconcileNodeLabels lm nodeName) := by
  refine reconcileNodeLabels_keeps (fun status value reason message h => ?_) (fun status h => ?_) nodeName
  · refine h.congr rfl fun type hother _ => ?_
    rw [LibvirtMachineStatus.conditionValue_setCondition, if_neg hother.symm]
  · refine h.congr rfl fun type hother _ => ?_
    exact status.conditionValue_removeCondition hother.symm

theorem steady_of_emits {allowed : Op → Prop} {post : α → Prop} {prog : Prog signature α}
    (h : Emits anyReply allowed post prog) (phase : Option Phase) :
    SteadyHolds lm machine found (fun value _ => post value) prog phase := by
  have hends : SteadyHolds lm machine found (fun value _ => post value ∧ True) prog phase :=
    h.holds trivial (fun _ _ _ _ => trivial) fun _ _ _ _ _ _ _ => ⟨trivial, trivial⟩
  exact hends.post_mono fun _ _ hend => hend.1

theorem hostWork_tidy (hexpected : Expected lm machine found) (hlm : Tidy lm.status)
    (hbound : lm.status.conditionValue .baseImageStaged = some false → rc.libvirtCluster.baseImage ≠ none) :
    SteadyBody lm machine found
      (fun st phase => Unstaged lm st.status ∧ phase = some .baseImage) (hostWork deps rc)
      (fun _ st _ => Tidy st.status) fun _ st _ => Tidy st.status := by
  have hbase : SteadyBody lm machine found
      (fun st phase => Unstaged lm st.status ∧ phase = some .baseImage) (runStep (reconcileBaseImage deps rc))
      (fun _ st phase => ImageStaged lm st.status ∧ phase ≠ none) fun _ st _ => Tidy st.status := by
    refine runStep_triple fun st phase h => ?_
    obtain ⟨hst, rfl⟩ := h
    refine (reconcileBaseImage_imageStaged hexpected hlm hbound hst).post_mono fun out phase hend => ?_
    refine ⟨fun hnil => ⟨hend.2.2 hnil, ?_⟩, fun _ _ => hend.2.1⟩
    rw [hend.1]
    nofun
  have hdomain : Fn.Keeps (laterReplies lm) (fun _ => True) (fun st => ImageStaged lm st.status)
      (reconcileDomain deps rc) :=
    reconcileDomain_keeps (fun _ => True) later_records (fun _ _ => trivial) fun call _ =>
      domainCall_keeps trivial fun _ _ _ => later_records
  refine Body.Triple.bind (hbase.bind fun _ => later_triple artifacts_later) fun _ => ?_
  refine (later_triple (bringUpDomain_keeps_of (fun _ => trivial) hdomain)).bind fun domainInfo => ?_
  refine Body.Triple.modify_bind (fun st _ => Tidy st.status) (fun st _ h => h.1.markReady domainInfo) ?_
  refine Body.Triple.call fun st phase h => ?_
  exact (steady_of_emits (reconcileNodeLabels_tidy _ _ st.status h) phase).bind fun _ _ htidy => htidy

theorem provision_tidy (hexpected : Expected lm machine found) (hlm : Tidy lm.status)
    (hbound : lm.status.conditionValue .baseImageStaged = some false → rc.libvirtCluster.baseImage ≠ none)
    (h : Unstaged lm st.status) :
    SteadyHolds lm machine found (fun out _ => Tidy out.2.status)
      (provision deps rc st) none := by
  refine @Body.Triple.run _ _ _ _ _ _ (AtPreflight lm) (fun _ st _ => Tidy st.status) _ ?_ _ _ ⟨h, rfl⟩
  refine Body.Triple.bind (preflight_unstaged.mono (fun _ _ _ h => h) fun _ _ _ h => h.1.tidy hlm) fun _ => ?_
  refine Body.Triple.bind (Body.Triple.perform (fun _ _ _ => trivial) fun st before _ after h hstep => ?_)
    fun _ => hostWork_tidy hexpected hlm hbound
  exact ⟨h.1, hstep.2⟩

theorem createClients_phase (host : LibvirtHost) :
    SteadyHolds lm machine found (fun _ phase => True ∧ phase = none)
      (createClients deps host) none := by
  refine (@createClients_emits anyReply deps host).holds rfl (fun _ _ _ _ => trivial) ?_
  intro before op reply after hbefore hop hstep
  refine ⟨trivial, hstep.2.trans ?_⟩
  cases op <;> first
    | exact hop.elim
    | exact hbefore

theorem reconcileNormal_tidy (hexpected : Expected lm machine found) (hlm : Tidy lm.status) {cluster : Cluster}
    {libvirtCluster : LibvirtCluster} {host : LibvirtHost} (hhost : host.ready = true)
    (hbound : lm.status.conditionValue .baseImageStaged = some false → libvirtCluster.baseImage ≠ none) :
    SteadyHolds lm machine found (fun out _ => Tidy out.2.status)
      (reconcileNormal deps lm machine cluster libvirtCluster host) none := by
  have hstart : Tidy lm.addFinalizer.status := by rwa [LibvirtMachine.addFinalizer_status]
  simp only [reconcileNormal, hhost, Bool.not_true, Bool.false_eq_true, if_false]
  refine (createClients_phase host).bind fun clients phase h => ?_
  obtain ⟨-, rfl⟩ := h
  cases clients with
  | error err => exact hstart
  | ok _ =>
    rw [LibvirtMachine.addFinalizer_status]
    refine (ensureBootstrapData_tidy hexpected hlm lm.addFinalizer).bind fun bootstrap phase h => ?_
    obtain ⟨rfl, htidy, hunstaged⟩ := h
    obtain ⟨early, status⟩ := bootstrap
    cases early with
    | some early => exact htidy
    | none =>
      refine (resolveAutoSizing_unstaged lm.addFinalizer host (hunstaged rfl)).bind fun sizing phase h => ?_
      obtain ⟨rfl, hsized⟩ := h
      obtain ⟨sizes, status⟩ := sizing
      cases sizes with
      | error result => exact hsized.tidy hlm
      | ok sizes =>
        refine Holds.bind (provision_tidy hexpected hlm hbound ?_) fun out _ hout => hout
        exact hsized

theorem reconcileDelete_tidy (hlm : Tidy lm.status) {cluster : Cluster} {host : LibvirtHost}
    (phase : Option Phase) :
    SteadyHolds lm machine found (fun out _ => Tidy out.2.status)
      (reconcileDelete deps lm cluster host) phase := by
  have hstall (message : String) : Tidy (lm.setCondition .cleanupStalled true .cleanupStalled message).status := by
    refine hlm.congr rfl fun type _ hother => ?_
    exact (LibvirtMachineStatus.conditionValue_setCondition ..).trans (if_neg hother.symm)
  refine reconcileDelete_holds_of_cleanUp (fun _ => True) (fun _ _ => True) (fun _ _ _ _ => hlm)
    (fun _ _ message _ _ => hstall message) (fun w _ => ?_) (fun _ _ message _ _ => hstall message) (fun w _ => ?_)
    trivial
  · exact steady_of_emits (createClients_emits deps host) w
  · have hkeeps : Body.Keeps anyReply (DeleteOp ⟨cluster, lm, host⟩) (fun lm' => Tidy lm'.status)
        (cleanUp ⟨cluster, lm, host⟩) := cleanUp_keeps
    refine (steady_of_emits (hkeeps lm hlm) w).post_mono ?_
    rintro ⟨out, lm'⟩ _ htidy
    cases out <;> exact htidy

theorem reconcileFetched_tidy (hexpected : Expected lm machine found) (hlm : Tidy lm.status) :
    SteadyHolds lm machine found (fun out _ => Tidy out.2.status)
      (reconcileFetched deps lm) none := by
  refine reconcileFetched_holds_of_branches (· = none) (· = machine) (fun _ => True)
    (fun libvirtCluster => lm.status.conditionValue .baseImageStaged = some false → libvirtCluster.baseImage ≠ none)
    (fun host => lm.deletionTimestamp = false → host.ready = true) (fun _ _ _ _ => trivial) ?_
    (fun _ owner _ _ hstep => hstep.1 owner rfl) (fun _ _ _ _ _ => trivial)
    (fun _ _ libvirtCluster _ _ hstep => hstep.1 libvirtCluster rfl)
    (fun _ host _ _ hstep => hstep.1 host rfl) (fun _ _ _ => hlm)
    (fun _ cluster host phase _ _ _ => reconcileDelete_tidy hlm phase) ?_ rfl
  · intro before op reply after hbefore hop hstep
    refine hstep.2.trans ?_
    cases op <;> first
      | exact hop.elim
      | exact hbefore
  · intro hdeletion owner cluster libvirtCluster host phase howner _ hbound hready hphase
    rw [howner, hphase]
    exact reconcileNormal_tidy hexpected hlm (hready hdeletion) hbound

end Runs

theorem ReconcilesSteadily.tidy {deps : Deps} {lm lm' : LibvirtMachine} (h : ReconcilesSteadily deps lm lm')
    (hlm : Tidy lm.status) : Tidy lm'.status := by
  obtain ⟨machine, found, ret, phase, hexpected, hrun⟩ := h
  exact (reconcileFetched_tidy hexpected hlm).completes hrun

theorem History.tidy {deps : Deps} {lm : LibvirtMachine} (h : History (ReconcilesSteadily deps) lm) :
    Tidy lm.status := by
  induction h with
  | @created fresh hready hconditions =>
    have hnone (type : ConditionType) : fresh.status.conditionValue type = none := by
      rw [LibvirtMachineStatus.conditionValue, hconditions]
      rfl
    refine ⟨?_, ?_, fun _ => ?_, fun _ => ?_⟩
    · rw [hready, hnone]
      exact ⟨nofun, nofun⟩
    · rw [hnone]
      nofun
    · rw [hnone]
      nofun
    · rw [hnone]
      nofun
  | edited _ hstatus ih =>
    rw [hstatus]
    exact ih
  | reconcile _ hrun ih => exact hrun.tidy ih

theorem Tidy.agree {before after : LibvirtMachineStatus} (h : Tidy after) : Agree before after := by
  refine ⟨h.infrastructure, fun hready type htype hleft => ?_⟩
  simp only [List.mem_cons, List.not_mem_nil, or_false] at htype
  rcases htype with rfl | rfl | rfl
  · exact h.host hleft.2
  · exact h.bootstrap hready hleft.2
  · exact h.staged hready hleft.2

-- In every history whose reconciles take none of those branches, readiness and the conditions
-- agree after each reconcile.
theorem conditions_agree_with_readiness {deps : Deps} {lm lm' : LibvirtMachine}
    (hhistory : History (ReconcilesSteadily deps) lm) (hrun : ReconcilesSteadily deps lm lm') :
    Agree lm.status lm'.status :=
  (hrun.tidy hhistory.tidy).agree

def steadyAnswer : Program.Machine signature (Option Phase) := fun phase op => (freshAnswer op, phaseAfter phase op)

def uneventful (phase : Option Phase) : Op → Bool
  | .recordFailure _ _ => false
  | .client _ (.volumeExists _ _) => phase ≠ some .baseImage
  | _ => true

theorem steadyAnswer_steady {lm : LibvirtMachine} (hstaged : lm.status.conditionValue .baseImageStaged ≠ some false)
    (found : Bool) (before : Option Phase) (op : Op) (hop : uneventful before op = true) :
    steadyStep lm sampleOwner found before op (steadyAnswer before op).1 (steadyAnswer before op).2 := by
  refine ⟨?_, rfl⟩
  cases op with
  | getOwnerMachine key => exact fun owner howner => (Option.some.inj (Except.ok.inj howner)).symm
  | getSecret key => exact fun _ _ _ err herr => nomatch herr
  | getLibvirtCluster key => exact fun _ _ hfalse => absurd hfalse hstaged
  | getLibvirtHost key =>
    intro host hhost _
    rw [← Except.ok.inj hhost]
    rfl
  | client host call =>
    cases call with
    | volumeExists pool name => exact fun hphase => absurd hphase (of_decide_eq_true hop)
    | _ => trivial
  | recordFailure reason message => cases hop
  | _ => trivial

def readyOnce : LibvirtMachine := (run steadyAnswer (reconcileFetched sampleDeps sampleMachine) none).1.2

def readyTwice : LibvirtMachine := (run steadyAnswer (reconcileFetched sampleDeps readyOnce) none).1.2

theorem conditions_agree_with_readiness_twice :
    readyOnce.status.ready = true ∧ readyTwice.status.ready = true ∧ Agree readyOnce.status readyTwice.status := by
  have hfirst : ReconcilesSteadily sampleDeps sampleMachine readyOnce :=
    ⟨sampleOwner, false, _, _, ⟨nofun, nofun, fun _ => rfl⟩,
      completes_of_permitted (steadyAnswer_steady (by decide +kernel) false) (by decide +kernel)⟩
  have hsecond : ReconcilesSteadily sampleDeps readyOnce readyTwice :=
    ⟨sampleOwner, true, _, _, ⟨nofun, fun _ => rfl, fun h => absurd h (by decide +kernel)⟩,
      completes_of_permitted (steadyAnswer_steady (by decide +kernel) true) (by decide +kernel)⟩
  exact ⟨by decide +kernel, by decide +kernel,
    conditions_agree_with_readiness (.reconcile (.created rfl rfl) hfirst) hsecond⟩

def reconciledBy (answers : (op : Op) → Reply op) (lm : LibvirtMachine) : LibvirtMachine :=
  (run (oracle answers) (reconcileFetched sampleDeps lm) ()).1.2

theorem reconciles_reconciledBy (answers : (op : Op) → Reply op) (lm : LibvirtMachine) :
    Reconciles sampleDeps lm (reconciledBy answers lm) := by
  refine ⟨(run (oracle answers) (reconcileFetched sampleDeps lm) ()).1.1, ?_⟩
  obtain ⟨events, hrun⟩ := run_exec (oracle answers) (reconcileFetched sampleDeps lm) ()
  exact ⟨events, hrun.strengthen (show (fun _ : Unit => True) () from trivial)
    fun _ _ _ _ _ _ => ⟨trivial, trivial⟩⟩

def unreadyHost : (op : Op) → Reply op
  | .getLibvirtHost _ => .ok { sampleHost with ready := false }
  | op => freshAnswer op

def deniedDomain : (op : Op) → Reply op
  | .client _ (.getDomain name) =>
    .error (classifyVirshError "error: Permission denied" "dominfo" name)
  | op => freshAnswer op

def secretGone : (op : Op) → Reply op
  | .getSecret ⟨_, "bootstrap"⟩ => .error (.notFound "")
  | op => freshAnswer op

def ownerUnread : (op : Op) → Reply op
  | .getOwnerMachine _ => .error (.other "timeout")
  | op => freshAnswer op

def stagingCluster : LibvirtCluster :=
  { sampleLibvirtCluster with baseImage := some ⟨"default", "base.qcow2", ⟨.https, none, none, none⟩⟩ }

def downloadFails : (op : Op) → Reply op
  | .getLibvirtCluster _ => .ok stagingCluster
  | op => freshAnswer op

def volumePresent : (op : Op) → Reply op
  | .getLibvirtCluster _ => .ok stagingCluster
  | .client _ (.volumeExists _ _) => .ok true
  | op => freshAnswer op

-- A host that was not ready leaves HostReachable = False behind for good. A volume that another
-- machine has staged meanwhile leaves BaseImageStaged = False. A ready machine whose secret is
-- gone stays ready, with BootstrapDataReady = False after the next reconcile that ends early. A
-- terminal error takes Ready away and leaves InfrastructureReady = True.
theorem conditions_go_stale :
    History (Reconciles sampleDeps) sampleMachine ∧
    (let unreachable := reconciledBy unreadyHost sampleMachine
      let ready := reconciledBy freshAnswer unreachable
      Reconciles sampleDeps sampleMachine unreachable ∧ Reconciles sampleDeps unreachable ready ∧
        ready.status.ready = true ∧ LeftFalse .hostReachable unreachable.status ready.status) ∧
    (let staging := reconciledBy downloadFails sampleMachine
      let ready := reconciledBy volumePresent staging
      Reconciles sampleDeps sampleMachine staging ∧ Reconciles sampleDeps staging ready ∧
        ready.status.ready = true ∧ LeftFalse .baseImageStaged staging.status ready.status) ∧
    (let ready := reconciledBy freshAnswer sampleMachine
      let missing := reconciledBy secretGone ready
      let later := reconciledBy ownerUnread missing
      Reconciles sampleDeps sampleMachine ready ∧ Reconciles sampleDeps ready missing ∧
        Reconciles sampleDeps missing later ∧ later.status.ready = true ∧
        LeftFalse .bootstrapDataReady missing.status later.status) ∧
    (let ready := reconciledBy freshAnswer sampleMachine
      let denied := reconciledBy deniedDomain ready
      Reconciles sampleDeps sampleMachine ready ∧ Reconciles sampleDeps ready denied ∧
        denied.status.ready = false ∧ denied.status.conditionValue .infrastructureReady = some true) := by
  have hrun (answers : (op : Op) → Reply op) (lm : LibvirtMachine) := reconciles_reconciledBy answers lm
  refine ⟨.created rfl rfl, ⟨hrun _ _, hrun _ _, ?_⟩, ⟨hrun _ _, hrun _ _, ?_⟩, ⟨hrun _ _, hrun _ _, hrun _ _, ?_⟩,
    hrun _ _, hrun _ _, ?_⟩
  · decide +kernel
  · decide +kernel
  · decide +kernel
  · decide +kernel

end Caplv.Controller

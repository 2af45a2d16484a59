import Caplv.Controller.Naming
import Caplv.Controller.World
import Caplv.Controller.Handling
import Caplv.Program.Informer

namespace Caplv.Controller

open Text Api Libvirt Scope Program

-- The controller calls Reconcile again after an error, and after the time it asks for.
def calledAgain (ret : Return) : Bool := ret.2.isSome || decide (0 < ret.1.requeueAfter)

def TrueAt (status : LibvirtMachineStatus) (generation : Int) (type : ConditionType) : Prop :=
  ∃ condition, findStatusCondition status.conditions type = some condition ∧ condition.status = true ∧
    condition.observedGeneration = generation

-- A machine is done with when it is given up, or when it is ready and its Node has what the spec
-- wants of it, both for the present generation.
def Provisioned (lm : LibvirtMachine) (status : LibvirtMachineStatus) : Prop :=
  status.failureReason ≠ none ∨
    status.ready = true ∧ TrueAt status lm.generation .infrastructureReady ∧
      (lm.spec.nodeLabels.length = 0 ∧ lm.spec.nodeAnnotations.length = 0 ∨
        TrueAt status lm.generation .nodeLabelled)

-- Where a reconcile of the object may leave it without being called again.
def Concludes (lm : LibvirtMachine) (out : Return × LibvirtMachine) : Prop :=
  calledAgain out.1 = true ∨ (lm.annotations.get? pausedAnnotation).isSome = true ∨
    if lm.deletionTimestamp then out.2.containsFinalizer = false else Provisioned lm out.2.status

section Outcomes

abbrev freely : Handler signature Unit := fun _ op reply _ => anyReply op reply

-- What a part of reconcileNormal leaves behind, whatever answers it gets.
abbrev Leaves {ρ α : Type} (body : Body signature RunState ρ α) (post : α → RunState → Prop)
    (exit : ρ → RunState → Prop) : Prop :=
  Body.Triple freely (fun _ _ => True) (fun _ _ => True) body (fun value st _ => post value st)
    fun out st _ => exit out st

theorem holds_freely {α : Type} (prog : Prog signature α) :
    Holds freely (fun _ _ => True) (fun _ _ => True) prog () := by
  induction prog with
  | done value => trivial
  | ask op next ih => exact ⟨trivial, fun reply _ _ => ih reply⟩

theorem leaves_call {ρ β : Type} {fn : Fn signature RunState β} {post : β → RunState → Prop}
    {exit : ρ → RunState → Prop}
    (h : ∀ st, Holds freely (fun _ _ => True) (fun out _ => post out.1 out.2) (fn st) ()) :
    Leaves (Body.call fn) post exit := Body.Triple.call fun st _ _ => h st

theorem leaves_perform_bind {ρ α : Type} {op : Op} {f : Reply op → Body signature RunState ρ α}
    {post : α → RunState → Prop} {exit : ρ → RunState → Prop} (h : ∀ reply, Leaves (f reply) post exit) :
    Leaves (issue op >>= f) post exit := fun st _ _ => ⟨trivial, fun reply after _ => h reply st after trivial⟩

theorem trueAt_setCondition (status : LibvirtMachineStatus) (generation : Int) (type : ConditionType)
    (reason : Reason) (message : String) :
    TrueAt (status.setCondition generation type true reason message) generation type := by
  refine ⟨⟨type, true, reason, message, generation⟩, ?_, rfl, rfl⟩
  rw [LibvirtMachineStatus.setCondition, findStatusCondition_set, if_pos rfl]

variable {status : LibvirtMachineStatus}

theorem TrueAt.setCondition {generation : Int} {type : ConditionType} (h : TrueAt status generation type)
    {other : ConditionType} (hother : other ≠ type) (observed : Int) (value : Bool) (reason : Reason)
    (message : String) : TrueAt (status.setCondition observed other value reason message) generation type := by
  obtain ⟨condition, hfound, htrue⟩ := h
  refine ⟨condition, ?_, htrue⟩
  rw [LibvirtMachineStatus.setCondition, findStatusCondition_set, if_neg hother]
  exact hfound

variable (deps : Deps) (rc : ReconcileCtx)

def NilFailed (out : Except GoError (Option DomainInfo)) (st : RunState) : Prop :=
  out = .ok none → st.status.failureReason ≠ none

theorem setTerminalError_nilFailed {α : Type} (reason : Reason) (message : String) :
    Leaves (do Body.call (onStatus (setTerminalError reason message)); Body.leave (.ok none) : DomainBody α)
      (fun _ _ => True) NilFailed := by
  intro st _ _
  exact ⟨trivial, fun _ _ _ _ => Option.some_ne_none _⟩

theorem domainCall_nilFailed (call : ClientCall) (operation : String) :
    Leaves (domainCall rc call operation) (fun _ _ => True) NilFailed := by
  refine leaves_perform_bind fun reply => ?_
  cases reply with
  | ok value => exact Body.Triple.pure fun _ _ _ => trivial
  | error err =>
    refine Body.Triple.ite (fun _ => setTerminalError_nilFailed _ _) fun _ => ?_
    refine Body.Triple.leave fun _ _ _ hnil => ?_
    cases hnil

theorem defineFrom_nilFailed (params : DomainXMLParams) :
    Leaves (defineFrom deps rc params) (fun _ _ => True) NilFailed := by
  rw [defineFrom]
  cases deps.marshalError (domainDocument params) with
  | some err => exact setTerminalError_nilFailed _ _
  | none => exact (domainCall_nilFailed rc _ _).bind fun _ => Body.Triple.pure fun _ _ _ => trivial

theorem defineDomain_nilFailed :
    Leaves (defineDomain deps rc) (fun _ _ => True) NilFailed := by
  intro st w _
  rw [defineDomain, Body.get_bind_exec]
  refine (domainCall_nilFailed rc _ _).bind (fun rootDiskPath => ?_) st w trivial
  rw [bootstrapSource]
  cases rc.spec.bootstrapFormat with
  | ignition => exact defineFrom_nilFailed deps rc _
  | cloudInit =>
    rw [bind_assoc]
    exact (domainCall_nilFailed rc _ _).bind fun isoPath => defineFrom_nilFailed deps rc _
  | other format => exact defineFrom_nilFailed deps rc _

theorem reconcileDomain_nilFailed (st : RunState) :
    Holds freely (fun _ _ => True) (fun out _ => NilFailed out.1 out.2) (reconcileDomain deps rc st) () := by
  have hcall (call : ClientCall) (operation : String) := domainCall_nilFailed rc call operation
  have hdefine := defineDomain_nilFailed deps rc
  have hstart : Leaves (startDomainIfStopped rc) (fun _ _ => True) NilFailed := by
    refine (hcall _ _).bind fun domainInfo => ?_
    refine Body.Triple.ite (fun _ => Body.Triple.pure fun _ _ _ => trivial) fun _ => ?_
    exact (hcall _ _).bind fun _ => hcall _ _
  refine @Body.Triple.run _ _ _ _ _ _ (fun _ _ => True) (fun out st _ => NilFailed out st) _ ?_ st () trivial
  refine (hcall _ _).bind fun found => ?_
  refine (Body.Triple.ite (fun _ => Body.Triple.pure fun _ _ _ => trivial) fun _ => hdefine).bind fun _ => ?_
  refine hstart.bind fun domainInfo => Body.Triple.pure fun _ _ _ hnil => ?_
  cases hnil

theorem reconcileNodeLabels_provisions (lm : LibvirtMachine) (nodeName : String)
    (hready : status.ready = true) (htrue : TrueAt status lm.generation .infrastructureReady) :
    Holds freely (fun _ _ => True) (fun out _ => calledAgain out.1 = true ∨ Provisioned lm out.2)
      (reconcileNodeLabels lm nodeName status) () := by
  rw [reconcileNodeLabels]
  split
  · rename_i hnone
    refine .inr (.inr ⟨hready, ?_, .inl hnone⟩)
    obtain ⟨condition, hfound, htrue⟩ := htrue
    refine ⟨condition, ?_, htrue⟩
    rw [LibvirtMachineStatus.removeCondition, findStatusCondition_remove _ (by decide)]
    exact hfound
  · refine ⟨trivial, fun node _ _ => ?_⟩
    cases node with
    | error err =>
      change Holds _ _ _ (if err.isNotFound = true then _ else _) _
      split
      · exact .inl rfl
      · exact .inl rfl
    | ok node =>
      refine ⟨trivial, fun patched _ _ => ?_⟩
      cases patched with
      | error err => exact .inl rfl
      | ok _ =>
        refine .inr (.inr ⟨hready, ?_, .inr (trueAt_setCondition _ _ _ _ _)⟩)
        exact htrue.setCondition (by decide) _ _ _ _

abbrev ProvisionEnds (ret : Return) (st : RunState) : Prop :=
  calledAgain ret = true ∨ Provisioned rc.libvirtMachine st.status

theorem runStep_ends (step : StepFn) : Leaves (runStep step) (fun _ _ => True) (ProvisionEnds rc) := by
  refine runStep_triple fun st _ _ => (holds_freely (step st)).post_mono fun out _ _ => ⟨fun _ => trivial, ?_⟩
  exact fun err _ => .inl rfl

theorem stopIfFailed_ends : Leaves stopIfFailed (fun _ _ => True) (ProvisionEnds rc) := by
  intro st w _
  rw [stopIfFailed, Body.get_bind_exec, Body.leaveIf, Body.ite_exec]
  split
  · rename_i hfailed
    exact .inr (.inl (Option.isSome_iff_ne_none.mp hfailed))
  · trivial

theorem preflight_ends : Leaves (preflight deps rc) (fun _ _ => True) (ProvisionEnds rc) := by
  have hsession : Leaves (Body.call (preflightSessionMode deps rc)) (fun _ _ => True) (ProvisionEnds rc) :=
    leaves_call fun st => holds_freely _
  refine hsession.bind fun _ => ?_
  refine (stopIfFailed_ends rc).bind fun _ => ?_
  refine (runStep_ends rc _).bind fun _ => ?_
  exact stopIfFailed_ends rc

theorem prepareArtifacts_ends :
    Leaves (prepareArtifacts deps rc) (fun _ _ => True) (ProvisionEnds rc) := by
  have hstep (step : StepFn) := runStep_ends rc step
  refine (hstep _).bind fun _ => leaves_perform_bind fun _ => ?_
  refine (hstep _).bind fun _ => leaves_perform_bind fun _ => ?_
  refine (hstep _).bind fun _ => leaves_perform_bind fun _ => ?_
  refine (hstep _).bind fun _ => leaves_perform_bind fun _ => ?_
  exact hstep _

theorem bringUpDomain_ends :
    Leaves (bringUpDomain deps rc) (fun _ _ => True) (ProvisionEnds rc) := by
  have hdomain : Leaves (Body.call (reconcileDomain deps rc)) NilFailed (ProvisionEnds rc) :=
    leaves_call (reconcileDomain_nilFailed deps rc)
  refine leaves_perform_bind fun _ => hdomain.bind fun out => ?_
  rcases out with err | _ | domainInfo
  · exact Body.Triple.leave fun _ _ _ => .inl rfl
  · exact Body.Triple.leave fun st _ hnil => .inr (.inl (hnil rfl))
  · exact Body.Triple.pure fun _ _ _ => trivial

theorem hostWork_ends : Leaves (hostWork deps rc) (ProvisionEnds rc) (ProvisionEnds rc) := by
  refine (prepareArtifacts_ends deps rc).bind fun _ => ?_
  refine (bringUpDomain_ends deps rc).bind fun domainInfo => ?_
  intro st w _
  rw [Body.modify_bind_exec]
  have hlabels := reconcileNodeLabels_provisions rc.libvirtMachine rc.domainName
    (show (markReady deps rc domainInfo st).status.ready = true from rfl) (trueAt_setCondition _ _ _ _ _)
  refine Holds.bind (hlabels.bind fun out _ hout => ?_) fun out _ hout => hout
  exact hout

theorem provision_ends (st : RunState) :
    Holds freely (fun _ _ => True) (fun out _ => ProvisionEnds rc out.1 out.2) (provision deps rc st) () := by
  refine @Body.Triple.run _ _ _ _ _ _ (fun _ _ => True) (fun ret st _ => ProvisionEnds rc ret st) _ ?_ st () trivial
  exact (preflight_ends deps rc).bind fun _ => leaves_perform_bind fun _ => hostWork_ends deps rc

theorem ensureBootstrapData_ends (lm : LibvirtMachine) (machine : Machine) (status : LibvirtMachineStatus) :
    Holds freely (fun _ _ => True) (fun out _ => ∀ ret, out.1 = some ret → calledAgain ret = true)
      (ensureBootstrapData lm machine status) () := by
  rw [ensureBootstrapData]
  dsimp only
  split
  · intro ret hret
    obtain rfl := Option.some.inj hret
    rfl
  · refine ⟨trivial, fun secret _ _ => ?_⟩
    cases secret with
    | error err =>
      change Holds _ _ _ (if err.isNotFound = true then _ else _) _
      split
      · intro ret hret
        obtain rfl := Option.some.inj hret
        rfl
      · intro ret hret
        obtain rfl := Option.some.inj hret
        rfl
    | ok secret =>
      intro ret hret
      cases hret

abbrev Unsized (out : Except Result (Int × Int) × LibvirtMachineStatus) : Prop :=
  ∀ result, out.1 = .error result → calledAgain (result, none) = true ∨ out.2.failureReason ≠ none

theorem checkSizes_ends (host : LibvirtHost) (vcpus memoryMB : Int) (status : LibvirtMachineStatus) :
    Holds freely (fun _ _ => True) (fun out _ => Unsized out) (checkSizes host vcpus memoryMB status) () := by
  rw [checkSizes]
  split
  · exact ⟨trivial, fun _ _ _ _ _ => .inr (Option.some_ne_none _)⟩
  · intro result hresult
    cases hresult

theorem resolveAutoSizing_ends (lm : LibvirtMachine) (host : LibvirtHost) (status : LibvirtMachineStatus) :
    Holds freely (fun _ _ => True) (fun out _ => Unsized out) (resolveAutoSizing lm host status) () := by
  rw [resolveAutoSizing]
  dsimp only
  split
  · split
    · intro result hresult
      obtain rfl := Except.error.inj hresult
      exact .inl rfl
    · exact checkSizes_ends host _ _ status
  · intro result hresult
    cases hresult

theorem provisioned_addFinalizer {lm : LibvirtMachine} (h : Provisioned lm.addFinalizer status) :
    Provisioned lm status := by
  unfold LibvirtMachine.addFinalizer at h
  split at h
  · exact h
  · exact h

theorem reconcileNormal_ends (lm : LibvirtMachine) (machine : Machine) (cluster : Cluster)
    (libvirtCluster : LibvirtCluster) (host : LibvirtHost) :
    Holds freely (fun _ _ => True) (fun out _ => calledAgain out.1 = true ∨ Provisioned lm out.2.status)
      (reconcileNormal deps lm machine cluster libvirtCluster host) () := by
  rw [reconcileNormal]
  dsimp only
  split
  · exact .inl rfl
  · refine (holds_freely (createClients deps host)).bind fun clients _ _ => ?_
    cases clients with
    | error err => exact .inl rfl
    | ok _ =>
      refine (ensureBootstrapData_ends lm.addFinalizer machine _).bind ?_
      rintro ⟨early, status⟩ - hearly
      cases early with
      | some early => exact .inl (hearly early rfl)
      | none =>
        refine (resolveAutoSizing_ends lm.addFinalizer host status).bind ?_
        rintro ⟨sizes, status'⟩ - hsizes
        cases sizes with
        | error result => exact (hsizes result rfl).imp_right .inl
        | ok sizes =>
          refine (provision_ends deps _ _).bind fun out _ hout => ?_
          exact hout.imp_right provisioned_addFinalizer

section Delete

abbrev CleansUp (body : DeleteBody Unit) : Prop :=
  Body.Triple freely (fun _ _ => True) (fun _ _ => True) body (fun _ _ _ => True) fun ret _ _ => calledAgain ret = true

theorem deleteCall_ends (host : LibvirtHost) (call : ClientCall) (what : String) :
    CleansUp (deleteCall host call what) := by
  refine fun lm w _ => ⟨trivial, fun reply after _ => ?_⟩
  cases reply with
  | ok value => trivial
  | error err =>
    change Holds _ _ _ (Body.exec (if err.isNotFound = true then _ else _) lm) after
    split
    · trivial
    · exact rfl

theorem cleanUp_ends (scope : MachineScope) : CleansUp (cleanUp scope) := by
  have hcall (call : ClientCall) (what : String) := deleteCall_ends scope.libvirtHost call what
  have hdone : CleansUp (pure ()) := Body.Triple.pure fun _ _ _ => trivial
  have hbootstrap : CleansUp (deleteBootstrapArtifacts scope) := by
    rw [deleteBootstrapArtifacts]
    cases scope.libvirtMachine.spec.bootstrapFormat with
    | ignition => exact fun _ _ _ => ⟨trivial, fun _ _ _ => trivial⟩
    | cloudInit => exact hcall _ _
    | other format => exact hdone
  have hdisks (disks : List AdditionalDiskSpec) : CleansUp (deleteAdditionalDisks scope disks) := by
    induction disks with
    | nil => exact hdone
    | cons disk rest ih => exact (hcall _ _).bind fun _ => ih
  have hpool : CleansUp (deleteEphemeralPool scope) := Body.Triple.ite (fun _ => hcall _ _) fun _ => hdone
  have hnode : CleansUp (deleteNodeObject scope.domainName) := by
    refine fun lm w _ => ⟨trivial, fun node after _ => ?_⟩
    cases node with
    | error err => trivial
    | ok node => exact ⟨trivial, fun _ _ _ => trivial⟩
  refine Body.Triple.bind ((hcall _ _).bind fun _ => hcall _ _) fun _ => ?_
  refine (hcall _ _).bind fun _ => hbootstrap.bind fun _ => ?_
  exact (hdisks _).bind fun _ => hpool.bind fun _ => hnode

theorem reconcileDelete_ends (lm : LibvirtMachine) (cluster : Cluster) (host : LibvirtHost) :
    Holds freely (fun _ _ => True) (fun out _ => calledAgain out.1 = true ∨ out.2.containsFinalizer = false)
      (reconcileDelete deps lm cluster host) () := by
  simp only [reconcileDelete, Body.run, reconcileDeleteBody, stallCleanup, bind_assoc,
    Body.leaveIf_bind_exec, Body.ite_bind_exec, Body.pure_bind_exec, Body.modify_bind_exec,
    Body.leave_bind_exec]
  split
  · rename_i hfinalizer
    exact .inr (by simpa using hfinalizer)
  split
  · rw [Body.lift_bind_exec, bind_assoc]
    refine (holds_freely (createClients deps host)).bind fun clients w _ => ?_
    cases clients with
    | error err => exact .inl rfl
    | ok _ =>
      rw [pure_bind, Body.bind_exec, bind_assoc]
      refine (cleanUp_ends ⟨cluster, lm, host⟩ lm w trivial).bind ?_
      rintro ⟨out, lm'⟩ _ hout
      cases out with
      | error ret => exact .inl hout
      | ok _ => exact .inr lm'.removeFinalizer_containsFinalizer
  · exact .inl rfl

end Delete

end Outcomes

section Fetched

variable (deps : Deps) (lm : LibvirtMachine)

def clusterKey : ObjectKey := ⟨lm.namespaceName, lm.labels.index clusterNameLabel⟩

def InnerOp : Op → Prop
  | .getLibvirtMachine _ | .patchMachine _ _ => False
  | .getCluster key => key = clusterKey lm
  | _ => True

def Workable : Replies signature
  | .getOwnerMachine _, reply => (reply : Except ApiError (Option Machine)) ≠ .ok none
  | .getCluster _, reply => ∀ cluster, (reply : Except ApiError Cluster) = .ok cluster → cluster.paused = false
  | _, _ => True

theorem innerOp_of_gateOp (op : Op) (h : GateOp op) : InnerOp lm op := by
  cases op with
  | getSecret | dialSSH | recordFailure => trivial
  | _ => exact h.elim

theorem innerOp_of_normalOp (rc : ReconcileCtx) (op : Op) (h : NormalOp deps rc op) : InnerOp lm op := by
  cases op with
  | getLibvirtMachine | patchMachine | getCluster => exact h.elim
  | _ => trivial

theorem innerOp_of_cleanupOp (scope : MachineScope) (op : Op) (h : CleanupOp scope op) : InnerOp lm op := by
  cases op with
  | getLibvirtMachine | patchMachine | getCluster => exact h.elim (fun h => h.elim) fun h => h.elim
  | _ => trivial

theorem reconcileNormal_inner (machine : Machine) (cluster : Cluster) (libvirtCluster : LibvirtCluster)
    (host : LibvirtHost) :
    Holds freely (fun _ => InnerOp lm) (fun _ _ => True)
      (reconcileNormal deps lm machine cluster libvirtCluster host) () := by
  refine reconcileNormal_holds_of_provision (fun _ => True) (fun _ op _ => innerOp_of_gateOp lm op)
    (fun _ _ _ _ _ _ _ => trivial) (fun _ _ _ _ => trivial) (fun vcpus memoryMB status w _ _ => ?_) trivial
  intro rc
  have hops := @provision_keeps deps rc _ (poolInv_vars rc) anyReply (rc.initialState status) (.inl rfl)
  exact Holds.mono hops (fun _ _ _ _ hr => hr) (fun _ op => innerOp_of_normalOp deps lm rc op) fun _ _ _ => trivial

theorem reconcileDelete_inner (cluster : Cluster) (host : LibvirtHost) :
    Holds freely (fun _ => InnerOp lm) (fun _ _ => True) (reconcileDelete deps lm cluster host) () :=
  Holds.mono (reconcileDelete_emits deps ⟨cluster, lm, host⟩) (fun _ _ _ _ hr => hr)
    (fun _ op => innerOp_of_cleanupOp lm _ op) fun _ _ _ => trivial

theorem getClusterFromMetadata_unpaused :
    Emits Workable (InnerOp lm) (fun out => ∀ cluster, out = .ok cluster → cluster.paused = false)
      (getClusterFromMetadata lm) := by
  rw [getClusterFromMetadata]
  split
  · intro cluster hcluster
    cases hcluster
  · refine (emits_ask _ _).mpr ⟨rfl, fun reply hreply => ?_⟩
    cases reply with
    | error err =>
      intro cluster hcluster
      cases hcluster
    | ok cluster =>
      intro other hother
      exact hreply other (by rw [Except.ok.inj hother])

theorem reconcileFetched_concludes :
    Emits Workable (InnerOp lm) (Concludes lm) (reconcileFetched deps lm) := by
  refine (emits_ask _ _).mpr ⟨trivial, fun machine hmachine => ?_⟩
  rcases machine with err | _ | machine
  · exact .inl rfl
  · exact absurd rfl hmachine
  refine (getClusterFromMetadata_unpaused lm).bind fun cluster hcluster => ?_
  cases cluster with
  | error err => exact .inl rfl
  | ok cluster =>
    change Emits _ _ _ (if isPaused cluster lm = true then _ else _)
    split
    · rename_i hpaused
      rw [isPaused, hcluster cluster rfl, Bool.false_or] at hpaused
      exact .inr (.inl hpaused)
    split
    · exact .inl rfl
    refine (emits_ask _ _).mpr ⟨trivial, fun libvirtCluster _ => ?_⟩
    cases libvirtCluster with
    | error err => exact .inl rfl
    | ok libvirtCluster =>
      refine (emits_ask _ _).mpr ⟨trivial, fun host _ => ?_⟩
      cases host with
      | error err => exact .inl rfl
      | ok host =>
        change Emits _ _ _ (if lm.deletionTimestamp = true then _ else _)
        split
        · rename_i hdeleted
          have hends := (reconcileDelete_inner deps lm cluster host).and (reconcileDelete_ends deps lm cluster host)
          refine Holds.mono hends (fun _ _ _ _ _ => trivial) (fun _ _ hop => hop.1) fun out _ hout => ?_
          exact hout.2.imp_right fun hremoved => .inr (by rwa [if_pos hdeleted])
        · rename_i hdeleted
          have hends := (reconcileNormal_inner deps lm machine cluster libvirtCluster host).and
            (reconcileNormal_ends deps lm machine cluster libvirtCluster host)
          refine Holds.mono hends (fun _ _ _ _ _ => trivial) (fun _ _ hop => hop.1) fun out _ hout => ?_
          exact hout.2.imp_right fun hprovisioned => .inr (by rwa [if_neg hdeleted])

end Fetched

-- A LibvirtMachine and whether it has the owner reference to a Machine.
structure TrackedMachine where
  machine : LibvirtMachine
  owned : Bool
deriving DecidableEq

abbrev MachineInformed := Informed ObjectKey TrackedMachine

-- A change of the spec gives the object a new generation.
def renumbered (before after : LibvirtMachine) : LibvirtMachine :=
  if after.spec = before.spec then after else { after with generation := before.generation + 1 }

def patchTracked (outcome : PatchOutcome) (old new : LibvirtMachine) (tracked : TrackedMachine) : Option TrackedMachine :=
  (settle (renumbered tracked.machine (patched outcome old new tracked.machine))).map (⟨·, tracked.owned⟩)

def patchInformed (informed : MachineInformed) (outcome : PatchOutcome) (old new : LibvirtMachine) :
    MachineInformed :=
  informed.put old.key ((informed.objects old.key).stored.bind (patchTracked outcome old new))
    (outcome.metadata && outcome.status)

-- The run for `own`: the machine is read from what was seen, its owner looked up by the reference
-- in the object in memory, and everything else may be answered in any way.
def informedStep (own : ObjectKey) : Handler signature MachineInformed := fun before op =>
  match op with
  | .getLibvirtMachine key => fun reply after =>
    match (reply : Except ApiError LibvirtMachine) with
    | .ok lm => lm.key = key ∧ ∃ owned, (before.objects key).seen = some ⟨lm, owned⟩ ∧
        after = before.hold own ⟨lm, owned⟩
    | .error err => (err.isNotFound = true → (before.objects key).seen = none) ∧ after = before
  | .getOwnerMachine _ => fun reply after => after = before ∧
      ((reply : Except ApiError (Option Machine)) = .ok none →
        ∀ tracked, before.fetched own = some tracked → tracked.owned = false)
  | .getCluster key => fun reply after => after = before ∧
      ∀ cluster, (reply : Except ApiError Cluster) = .ok cluster → cluster.paused = before.paused key
  | .patchMachine old new => fun outcome after => after = patchInformed before outcome old new
  | _ => fun _ after => after = before

-- The watches are on the machines; nobody is told of a Cluster's pause.
def machineController (deps : Deps) : Reconciler signature MachineInformed ObjectKey where
  act := informedStep
  changes := Learns fun tracked => clusterKey tracked.machine
  reconcile := fun key => reconcile deps key >>= fun ret => .done (calledAgain ret)

def Unfinished (lm : LibvirtMachine) : Prop :=
  if lm.deletionTimestamp then lm.containsFinalizer = true else ¬ Provisioned lm lm.status

structure Wanted (tracked : TrackedMachine) : Prop where
  owned : tracked.owned = true
  unannotated : (tracked.machine.annotations.get? pausedAnnotation).isSome = false
  unfinished : Unfinished tracked.machine

abbrev MachineDue (informed : MachineInformed) (key : ObjectKey) (tracked : TrackedMachine) : Prop :=
  Due (fun tracked => clusterKey tracked.machine) Wanted informed key tracked

abbrev MachineWaits (informed : MachineInformed) (key : ObjectKey) : Prop :=
  Waits (fun tracked => clusterKey tracked.machine) Wanted informed key

theorem informedStep_affects {own : ObjectKey} {before after : MachineInformed} {op : Op} {reply : Reply op}
    (hstep : informedStep own before op reply after) : Affects own before after := by
  cases op with
  | getLibvirtMachine asked =>
    cases reply with
    | ok lm =>
      obtain ⟨-, owned, -, rfl⟩ := hstep
      exact .hold _
    | error err =>
      obtain rfl := hstep.2
      exact .same
  | getOwnerMachine | getCluster =>
    obtain rfl := hstep.1
    exact .same
  | patchMachine old new =>
    obtain rfl := hstep
    exact .put _ _ _
  | _ =>
    obtain rfl := hstep
    exact .same

section Settles

variable {key : ObjectKey} {lm : LibvirtMachine} {owned : Bool}

abbrev held (lm : LibvirtMachine) (owned : Bool) : Option TrackedMachine × Option TrackedMachine :=
  (some ⟨lm, owned⟩, some ⟨lm, owned⟩)

theorem innerOp_same {before after : MachineInformed} {op : Op} {reply : Reply op} (hop : InnerOp lm op)
    (hstep : informedStep key before op reply after) : after = before := by
  cases op with
  | getLibvirtMachine | patchMachine => exact hop.elim
  | getOwnerMachine | getCluster => exact hstep.1
  | _ => exact hstep

theorem innerOp_workable {before after : MachineInformed} {op : Op} {reply : Reply op}
    (hbefore : before.view key = held lm owned) (hop : InnerOp lm op)
    (hstep : informedStep key before op reply after) :
    ¬ MachineWaits after key ∨ Workable op reply ∧ after.view key = held lm owned := by
  obtain rfl := innerOp_same hop hstep
  cases op with
  | getOwnerMachine asked =>
    by_cases hreply : (reply : Except ApiError (Option Machine)) = .ok none
    · refine .inl ?_
      rintro ⟨tracked, hdue⟩
      obtain rfl := hdue.value_eq hbefore
      have hunowned := hstep.2 hreply _ (congrArg Prod.snd hbefore)
      rw [hdue.wanted.owned] at hunowned
      cases hunowned
    · exact .inr ⟨hreply, hbefore⟩
  | getCluster asked =>
    obtain rfl : asked = clusterKey lm := hop
    by_cases hpaused : after.paused (clusterKey lm) = true
    · refine .inl ?_
      rintro ⟨tracked, hdue⟩
      obtain rfl := hdue.value_eq hbefore
      have hunpaused := hdue.unpaused
      rw [hpaused] at hunpaused
      cases hunpaused
    · refine .inr ⟨fun cluster hcluster => ?_, hbefore⟩
      rw [hstep.2 cluster hcluster]
      exact Bool.not_eq_true _ ▸ hpaused
  | getLibvirtMachine | patchMachine => exact hop.elim
  | _ => exact .inr ⟨trivial, hbefore⟩

theorem patched_fetched (old new : LibvirtMachine) :
    patched ⟨true, true⟩ old new old =
      { old with finalizers := new.finalizers, spec := new.spec, status := new.status } := by
  unfold patched
  simp only [true_and, ne_eq, ite_not]
  split <;> split <;> split <;> simp_all

theorem settle_renumbered_eq {old after : LibvirtMachine} (h : settle (renumbered old after) = some old) :
    after = old := by
  have hsame : renumbered old after = old := by
    rw [settle] at h
    split at h
    · cases h
    · exact Option.some.inj h
  rw [renumbered] at hsame
  split at hsame
  · exact hsame
  · rename_i hspec
    exact absurd (congrArg LibvirtMachine.spec hsame) hspec

-- A machine that waits after the patch was left as it was fetched.
theorem patch_unchanged {before : MachineInformed} {new : LibvirtMachine} {outcome : PatchOutcome}
    (hdue : MachineDue (patchInformed before outcome lm new) lm.key ⟨lm, owned⟩) :
    new.finalizers = lm.finalizers ∧ new.status = lm.status := by
  obtain ⟨hsucceeded, hstored, hnew⟩ := hdue.put_unchanged
  obtain ⟨hmetadata, hstatus⟩ := Bool.and_eq_true_iff.mp hsucceeded
  have houtcome : outcome = ⟨true, true⟩ := by
    obtain ⟨metadata, status⟩ := outcome
    exact congrArg₂ PatchOutcome.mk hmetadata hstatus
  rw [hstored, Option.bind_some, houtcome] at hnew
  obtain ⟨left, hleft, htracked⟩ := Option.map_eq_some_iff.mp hnew
  obtain ⟨rfl, -⟩ := TrackedMachine.mk.inj htracked
  have hsame : patched ⟨true, true⟩ left new left = left := settle_renumbered_eq hleft
  rw [patched_fetched] at hsame
  have hfinalizers := congrArg LibvirtMachine.finalizers hsame
  have hstatus := congrArg LibvirtMachine.status hsame
  exact ⟨hfinalizers, hstatus⟩

theorem patch_finishes {before : MachineInformed} {out : Return × LibvirtMachine} {outcome : PatchOutcome}
    (hbefore : before.view lm.key = held lm owned) (hout : Concludes lm out)
    (hagain : calledAgain out.1 = false) : ¬ MachineWaits (patchInformed before outcome lm out.2) lm.key := by
  rintro ⟨tracked, hdue⟩
  obtain rfl := hdue.value_eq ((before.view_put ..).trans hbefore)
  obtain ⟨hfinalizers, hstatus⟩ := patch_unchanged hdue
  have hunfinished : Unfinished lm := hdue.wanted.unfinished
  rcases hout with hcalled | hannotated | hends
  · rw [hagain] at hcalled
    cases hcalled
  · have hunannotated : (lm.annotations.get? pausedAnnotation).isSome = false := hdue.wanted.unannotated
    rw [hunannotated] at hannotated
    cases hannotated
  · unfold Unfinished at hunfinished
    split at hends
    · rename_i hdeleted
      rw [if_pos hdeleted, LibvirtMachine.containsFinalizer, ← hfinalizers] at hunfinished
      rw [LibvirtMachine.containsFinalizer, hunfinished] at hends
      cases hends
    · rename_i hdeleted
      rw [if_neg hdeleted, ← hstatus] at hunfinished
      exact hunfinished hends

theorem reconcile_settles (deps : Deps) (key : ObjectKey) :
    Reconciler.Settles (informedStep key) (MachineWaits · key) (Informed.view · key) (fun _ => True)
      ((machineController deps).reconcile key) := by
  rintro before reply after - hstep
  cases reply with
  | error err =>
    obtain ⟨hfound, rfl⟩ := hstep
    cases hnotFound : err.isNotFound with
    | true =>
      refine .inl ?_
      rintro ⟨tracked, hdue⟩
      have hseen := hdue.seen
      rw [hfound hnotFound] at hseen
      cases hseen
    | false =>
      refine .inr ?_
      change calledAgain (if err.isNotFound then ({}, none) else ({}, some (.api err))) = true
      rw [hnotFound]
      rfl
  | ok lm =>
    obtain ⟨hkey, owned, hseen, rfl⟩ := hstep
    have hview : (before.hold key ⟨lm, owned⟩).view key = held lm owned := by
      simp [Informed.view, Informed.hold, hseen]
    refine .inr ?_
    change Reconciler.Settles _ _ _ (fun now => now = Informed.view _ key) _
    rw [hview]
    intro before helper after hbefore hstep
    obtain rfl := hstep
    have hheld : after.view key = held lm owned := hbefore
    refine .inr ?_
    change Reconciler.Settles _ _ _ (fun now => now = after.view key) _
    rw [hheld]
    cases helper with
    | error err => exact rfl
    | ok _ =>
      change Reconciler.Settles _ _ _ _ ((reconcileFetched deps lm >>= _) >>= _)
      rw [bind_assoc]
      refine Reconciler.Settles.bind (reconcileFetched_concludes deps lm)
        (fun _ _ _ _ hbefore hop hstep => innerOp_workable hbefore hop hstep) fun out hout => ?_
      intro before outcome after hbefore hstep
      obtain rfl := hstep
      cases hagain : calledAgain out.1 with
      | true => exact .inr hagain
      | false =>
        subst hkey
        exact .inl (patch_finishes hbefore hout hagain)

end Settles

-- No machine is left stranded: in whatever order the API server's objects change, reach the
-- controller and are worked on, and whatever fails meanwhile, a machine the controller is up to
-- date with and that is not finished is being reconciled, is going to be, or waits for its time.
-- The exceptions are a failed patch and the end of a pause, which nothing tells the controller of.
theorem machine_never_stranded (deps : Deps) {c : Config _ (MachineInformed × Workqueue ObjectKey) ObjectKey Unit}
    (hc : (machineController deps).system.Reachable
      (fun state => ∀ key, (state.1.objects key).seen ≠ none → state.2.dirty key = true) c)
    {key : ObjectKey} (hfree : c.state.2.processing key = false) {tracked : TrackedMachine}
    (hdue : MachineDue c.state.1 key tracked) : c.state.2.Pending key :=
  due_pending rfl (fun _ _ _ _ _ => informedStep_affects) (reconcile_settles deps) hc hfree hdue

def nothingStored : MachineInformed := ⟨fun _ => ⟨none, []⟩, fun _ => none, fun _ => false, fun _ => false⟩

def machineCreated : MachineInformed :=
  { nothingStored with
    objects := Function.update nothingStored.objects sampleKey (Watched.write ⟨none, []⟩ (some ⟨sampleMachine, true⟩)) }

def machineSeen : MachineInformed :=
  { machineCreated with
    objects := Function.update machineCreated.objects sampleKey ⟨some ⟨sampleMachine, true⟩, []⟩
    missed := Function.update machineCreated.missed sampleKey false }

theorem machineSeen_due : MachineDue machineSeen sampleKey ⟨sampleMachine, true⟩ := by
  refine ⟨rfl, rfl, rfl, rfl, rfl, rfl, ?_⟩
  rw [Unfinished, if_neg (by decide)]
  rintro (hfailed | ⟨hready, -⟩)
  · exact hfailed rfl
  · cases hready

theorem machine_never_stranded_created :
    MachineDue machineSeen sampleKey ⟨sampleMachine, true⟩ ∧ (Workqueue.empty.addAll [sampleKey]).Pending sampleKey := by
  have hidle : (machineController sampleDeps).system.Reachable
      (fun state => ∀ key, (state.1.objects key).seen ≠ none → state.2.dirty key = true)
      (System.idle (nothingStored, Workqueue.empty)) := System.reachable_idle fun _ hseen => absurd rfl hseen
  have hwrite : (machineController sampleDeps).system.env (nothingStored, Workqueue.empty) (machineCreated, Workqueue.empty) :=
    .changes [] (.write sampleKey _ rfl) rfl
  have hdeliver : (machineController sampleDeps).system.env (machineCreated, Workqueue.empty)
      (machineSeen, Workqueue.empty.addAll [sampleKey]) :=
    .changes [sampleKey] (.deliver sampleKey [] [] _ rfl rfl) rfl
  exact ⟨machineSeen_due, machine_never_stranded sampleDeps ((hidle.env hwrite).env hdeliver) rfl machineSeen_due⟩

end Caplv.Controller

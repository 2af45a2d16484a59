import Caplv.Controller.Calls

namespace Caplv.Controller

open Text Api Libvirt Scope Program

section Rules

variable {deps : Deps} {rc : ReconcileCtx} {replies : Replies signature} {allowed : Op → Prop}
  {inv : RunState → Prop}

theorem preflightSessionMode_keeps (hrecords : Records replies allowed inv)
    (hcondition : ∀ st value reason message, inv st → inv { st with
      status := st.status.setCondition rc.libvirtMachine.generation .infrastructureReady value reason message }) :
    Fn.Keeps replies allowed inv (preflightSessionMode deps rc) := by
  rw [preflightSessionMode]
  split
  · split
    · refine Body.Keeps.run ((Body.Keeps.call (setTerminalError_keeps hrecords _ _)).bind fun _ => ?_)
      exact Body.Keeps.modify fun st hst => hcondition st _ _ _ hst
    · exact fun _ hst => hst
  · exact fun _ hst => hst

theorem preflightPools_keeps (hrecords : Records replies allowed inv)
    (hcondition : ∀ st value reason message, inv st → inv { st with
      status := st.status.setCondition rc.libvirtMachine.generation .infrastructureReady value reason message })
    (hpool : ∀ name, allowed (.client rc.hostKey (.poolExists name))) :
    Fn.Keeps replies allowed inv (preflightPools rc) := by
  refine stepFn_keeps (eachInOrder_keeps fun pool _ => ?_)
  refine (callOrHandle_keeps (hpool pool.name) (fun _ _ _ => hrecords) _).bind fun found => ?_
  refine Body.Keeps.ite (fun _ => Body.Keeps.pure ()) fun _ => ?_
  refine (Body.Keeps.call (setTerminalError_keeps hrecords _ _)).bind fun _ => ?_
  refine Body.Keeps.bind (Body.Keeps.modify fun st hst => hcondition st _ _ _ hst) fun _ => ?_
  exact Body.Keeps.leave none

theorem preflight_keeps_of (hrecords : Records replies allowed inv)
    (hcondition : ∀ st value reason message, inv st → inv { st with
      status := st.status.setCondition rc.libvirtMachine.generation .infrastructureReady value reason message })
    (hpool : ∀ name, allowed (.client rc.hostKey (.poolExists name))) :
    Body.Keeps replies allowed inv (preflight deps rc) := by
  refine (Body.Keeps.call (preflightSessionMode_keeps hrecords hcondition)).bind fun _ => ?_
  refine stopIfFailed_keeps.bind fun _ => ?_
  refine (runStep_keeps (preflightPools_keeps hrecords hcondition hpool)).bind fun _ => ?_
  exact stopIfFailed_keeps

-- The client calls of the domain step, with its volumes in one of the given pools.
inductive DomainCall (rc : ReconcileCtx) (pools : String → Prop) : ClientCall → Prop where
  | lookup : DomainCall rc pools (.domainExists rc.domainName)
  | info : DomainCall rc pools (.getDomain rc.domainName)
  | define (xmlDef : DomainXML) (hname : xmlDef.name = rc.domainName) (hsized : rc.Sized xmlDef) :
      DomainCall rc pools (.defineDomain xmlDef)
  | start : DomainCall rc pools (.startDomain rc.domainName)
  | rootPath (pool : String) (hpool : pools pool) :
      DomainCall rc pools (.getVolumePath pool rc.rootDiskVolume)
  | isoPath (pool : String) (hpool : pools pool) : DomainCall rc pools (.getVolumePath pool rc.bootstrapISO)

theorem defineDomain_keeps (pools : String → Prop) (hrecords : Records replies allowed inv)
    (hpools : ∀ st, inv st → pools st.storagePool)
    (hcall : ∀ call, DomainCall rc pools call → ∀ operation,
      Body.Keeps replies allowed inv (domainCall rc call operation)) :
    Body.Keeps replies allowed inv (defineDomain deps rc) := by
  have hdefine (params : DomainXMLParams) (hname : params.name = rc.domainName)
      (hsized : rc.Sized (domainDocument params)) :
      Body.Keeps replies allowed inv (defineFrom deps rc params) := by
    rw [defineFrom]
    split
    · exact (Body.Keeps.call (setTerminalError_keeps hrecords _ _)).bind fun _ => Body.Keeps.leave _
    · exact (hcall _ (.define _ hname hsized) _).bind fun _ => Body.Keeps.pure _
  refine Body.Keeps.get_bind fun st hst => ?_
  have hpool := hpools st hst
  refine (hcall _ (.rootPath _ hpool) _).bind fun rootDiskPath => ?_
  -- the bootstrap source is added to the parameters and leaves the domain's name and sizes alone
  rw [bootstrapSource]
  split
  · exact hdefine _ rfl ⟨rfl, rfl⟩
  · rw [bind_assoc]
    refine (hcall _ (.isoPath _ hpool) _).bind fun isoPath => ?_
    exact hdefine _ rfl ⟨rfl, rfl⟩
  · exact hdefine _ rfl ⟨rfl, rfl⟩

theorem reconcileDomain_keeps (pools : String → Prop) (hrecords : Records replies allowed inv)
    (hpools : ∀ st, inv st → pools st.storagePool)
    (hcall : ∀ call, DomainCall rc pools call → ∀ operation,
      Body.Keeps replies allowed inv (domainCall rc call operation)) :
    Fn.Keeps replies allowed inv (reconcileDomain deps rc) := by
  refine Body.Keeps.run ?_
  refine (hcall _ .lookup _).bind fun found => ?_
  refine (Body.Keeps.ite (fun _ => Body.Keeps.pure _) fun _ =>
    defineDomain_keeps pools hrecords hpools hcall).bind fun _ => ?_
  refine Body.Keeps.bind ?_ fun domainInfo => Body.Keeps.pure _
  refine (hcall _ .info _).bind fun domainInfo => ?_
  refine Body.Keeps.ite (fun _ => Body.Keeps.pure _) fun _ => ?_
  refine (hcall _ .start _).bind fun _ => ?_
  exact hcall _ .info _

theorem StepPolicy.reconcileDomain (h : StepPolicy deps rc replies allowed inv)
    (hrecords : Records replies allowed inv) :
    Fn.Keeps replies allowed inv (Controller.reconcileDomain deps rc) := by
  refine reconcileDomain_keeps rc.OwnPool hrecords h.ownPool fun call hcall operation => ?_
  cases hcall with
  | lookup => exact h.domainCall .domainExists operation
  | info => exact h.domainCall .getDomain operation
  | define xmlDef hname hsized => exact h.domainCall (.defineDomain xmlDef hname hsized) operation
  | start => exact h.domainCall .startDomain operation
  | rootPath pool hpool => exact h.domainCall (.rootPath pool hpool) operation
  | isoPath pool hpool => exact h.domainCall (.isoPath pool hpool) operation

theorem prepareArtifacts_keeps (henter : ∀ phase, allowed (.enter phase))
    (hbase : Fn.Keeps replies allowed inv (reconcileBaseImage deps rc))
    (hroot : Fn.Keeps replies allowed inv (reconcileRootDisk rc))
    (hbootstrap : Fn.Keeps replies allowed inv (reconcileBootstrapArtifacts deps rc))
    (hdisks : Fn.Keeps replies allowed inv (reconcileAdditionalDisks rc))
    (hboot : Fn.Keeps replies allowed inv (reconcileBootArtifacts deps rc)) :
    Body.Keeps replies allowed inv (prepareArtifacts deps rc) := by
  refine (runStep_keeps hbase).bind fun _ => ?_
  refine Body.Keeps.perform_bind (henter _) fun _ _ => ?_
  refine (runStep_keeps hroot).bind fun _ => ?_
  refine Body.Keeps.perform_bind (henter _) fun _ _ => ?_
  refine (runStep_keeps hbootstrap).bind fun _ => ?_
  refine Body.Keeps.perform_bind (henter _) fun _ _ => ?_
  refine (runStep_keeps hdisks).bind fun _ => ?_
  refine Body.Keeps.perform_bind (henter _) fun _ _ => ?_
  exact runStep_keeps hboot

theorem StepPolicy.prepareArtifacts (h : StepPolicy deps rc replies allowed inv)
    (hbase : BaseImagePolicy rc replies allowed inv)
    (hboot : BootstrapPolicy rc replies allowed inv) (henter : ∀ phase, allowed (.enter phase)) :
    Body.Keeps replies allowed inv (Controller.prepareArtifacts deps rc) :=
  prepareArtifacts_keeps henter h.reconcileBaseImage (h.reconcileRootDisk hbase)
    (h.reconcileBootstrapArtifacts hboot) h.reconcileAdditionalDisks h.reconcileBootArtifacts

theorem bringUpDomain_keeps_of (henter : ∀ phase, allowed (.enter phase))
    (hdomain : Fn.Keeps replies allowed inv (reconcileDomain deps rc)) :
    Body.Keeps replies allowed inv (bringUpDomain deps rc) := by
  refine Body.Keeps.perform_bind (henter _) fun _ _ => ?_
  refine (Body.Keeps.call hdomain).bind fun out => ?_
  rcases out with err | _ | domainInfo
  · exact Body.Keeps.leave _
  · exact Body.Keeps.leave _
  · exact Body.Keeps.pure _

end Rules

def NodeOp (nodeName : String) : Op → Prop
  | .getNode name | .patchNode name _ => name = nodeName
  | _ => False

def NormalOp (deps : Deps) (rc : ReconcileCtx) : Op → Prop
  | .client host call => host = rc.hostKey ∧ NormalCall deps rc call
  | .getNode name | .patchNode name _ => name = rc.domainName
  | .recordFailure _ _ | .enter _ => True
  | op => LocalOp op

-- The operations before the first phase of host work: none of them changes the host.
def PreflightOp (rc : ReconcileCtx) : Op → Prop
  | .client host (.poolExists _) => host = rc.hostKey
  | .recordFailure _ _ => True
  | _ => False

def PoolInv (rc : ReconcileCtx) (st : RunState) : Prop := rc.OwnPool st.storagePool

-- An invariant of the fields that provisioning fills in, whatever it makes of the status.
structure VarsInv (rc : ReconcileCtx) (inv : RunState → Prop) : Prop where
  ownPool : ∀ st, inv st → rc.OwnPool st.storagePool
  status : ∀ st status, inv st → inv { st with status := status }
  ephemeral : ∀ st, rc.spec.rootDisk.ephemeralPool = true → inv st →
    inv { st with storagePool := rc.machineScope.ephemeralPoolName }
  disks : ∀ st volumes params, inv st →
    inv { st with additionalDiskVolumes := volumes, additionalDiskParams := params }
  boot : ∀ st kernel initrd cmdline, inv st →
    inv { st with kernelPath := kernel, initrdPath := initrd, kernelCmdline := cmdline }
  published : ∀ st, inv st → inv { st with providerID := some rc.machineScope.providerID }

theorem poolInv_vars (rc : ReconcileCtx) : VarsInv rc (PoolInv rc) where
  ownPool _ h := h
  status _ _ h := h
  ephemeral _ heph _ := .inr ⟨heph, rfl⟩
  disks _ _ _ h := h
  boot _ _ _ _ h := h
  published _ h := h

section Provision

variable (deps : Deps) (rc : ReconcileCtx) {inv : RunState → Prop} {replies : Replies signature}

theorem normalOp_of_localOp (op : Op) (h : LocalOp op) : NormalOp deps rc op := by
  cases op <;> trivial

theorem normalOp_of_nodeOp (op : Op) (h : NodeOp rc.domainName op) : NormalOp deps rc op := by
  cases op <;> first | exact h | exact h.elim

theorem normalOp_records (hinv : VarsInv rc inv) : Records replies (NormalOp deps rc) inv :=
  ⟨fun _ _ => trivial, fun _ _ _ _ h => hinv.status _ _ h⟩

theorem normalOp_policy (hinv : VarsInv rc inv) (replies : Replies signature) :
    StepPolicy deps rc replies (NormalOp deps rc) inv where
  ownPool := hinv.ownPool
  condition _ _ _ _ _ h := hinv.status _ _ h
  ephemeral := hinv.ephemeral
  disks := hinv.disks
  boot := hinv.boot
  localOp := normalOp_of_localOp deps rc
  call _ h := ⟨rfl, h⟩
  terminal _ _ _ _ _ := normalOp_records deps rc hinv

theorem preflight_keeps (hinv : ∀ st status, inv st → inv { st with status := status }) :
    Body.Keeps replies (PreflightOp rc) inv (preflight deps rc) :=
  preflight_keeps_of ⟨fun _ _ => trivial, fun st _ _ _ hst => hinv st _ hst⟩ (fun st _ _ _ hst => hinv st _ hst)
    fun _ => rfl

theorem reconcileNodeLabels_keeps {inv : LibvirtMachineStatus → Prop}
    {lm : LibvirtMachine}
    (hcondition : ∀ status value reason message, inv status →
      inv (status.setCondition lm.generation .nodeLabelled value reason message))
    (hremove : ∀ status, inv status → inv (status.removeCondition .nodeLabelled)) (nodeName : String) :
    Fn.Keeps replies (NodeOp nodeName) inv (reconcileNodeLabels lm nodeName) := by
  intro status hstatus
  rw [reconcileNodeLabels]
  split
  · exact hremove status hstatus
  · refine (emits_ask _ _).mpr ⟨rfl, fun node _ => ?_⟩
    cases node with
    | error err =>
      change @Emits signature _ _ _ _ (if err.isNotFound = true then _ else _)
      split
      · exact hcondition status _ _ _ hstatus
      · exact hstatus
    | ok node =>
      refine (emits_ask _ _).mpr ⟨rfl, fun patched _ => ?_⟩
      cases patched with
      | error err => exact hstatus
      | ok _ => exact hcondition status _ _ _ hstatus

theorem reconcileNodeLabels_emits {replies : Replies signature} (lm : LibvirtMachine)
    (nodeName : String) (status : LibvirtMachineStatus) :
    Emits replies (NodeOp nodeName) (fun out => out.2.failureReason = status.failureReason)
      (reconcileNodeLabels lm nodeName status) := by
  have hkeeps : Fn.Keeps replies (NodeOp nodeName) (fun after => after.failureReason = status.failureReason)
      (reconcileNodeLabels lm nodeName) :=
    reconcileNodeLabels_keeps (fun _ _ _ _ h => h) (fun _ h => h) nodeName
  exact hkeeps status rfl

theorem bringUpDomain_keeps (hinv : VarsInv rc inv) :
    Body.Keeps replies (NormalOp deps rc) inv (bringUpDomain deps rc) := by
  have h := normalOp_policy deps rc hinv replies
  exact bringUpDomain_keeps_of (fun _ => trivial) (h.reconcileDomain (normalOp_records deps rc hinv))

theorem hostWork_keeps (hinv : VarsInv rc inv) :
    Body.Keeps replies (NormalOp deps rc) inv (hostWork deps rc) := by
  have h := normalOp_policy deps rc hinv replies
  have hrecords : Records replies _ inv := normalOp_records deps rc hinv
  refine (h.prepareArtifacts (fun _ _ _ _ _ => hrecords) ⟨fun _ _ _ _ _ => hrecords,
    fun _ _ => hrecords⟩ fun _ => trivial).bind fun _ => ?_
  refine (bringUpDomain_keeps deps rc hinv).bind fun domainInfo => ?_
  refine Body.Keeps.bind (Body.Keeps.modify fun st hst => ?_) fun _ => ?_
  · exact hinv.status _ _ (hinv.published st hst)
  refine Body.Keeps.call fun st hst => ?_
  have hlabels := @reconcileNodeLabels_emits replies rc.libvirtMachine rc.domainName st.status
  exact (hlabels.mono (fun _ _ hr => hr) (normalOp_of_nodeOp deps rc) fun _ h => h).bind
    fun _ _ => hinv.status st _ hst

theorem normalOp_of_preflightOp (op : Op) (h : PreflightOp rc op) : NormalOp deps rc op := by
  cases op with
  | client host call =>
    cases call with
    | poolExists name => exact ⟨h, .poolExists name⟩
    | _ => exact h.elim
  | recordFailure => trivial
  | _ => exact h.elim

theorem provision_keeps (hinv : VarsInv rc inv) {replies : Replies signature} :
    Fn.Keeps replies (NormalOp deps rc) inv (provision deps rc) := by
  have hpreflight : Body.Keeps replies (NormalOp deps rc) inv (preflight deps rc) :=
    fun st hst => (preflight_keeps deps rc hinv.status st hst).mono (fun _ _ hr => hr)
      (normalOp_of_preflightOp deps rc) fun _ h => h
  refine (hpreflight.bind fun _ => ?_).run
  exact Body.Keeps.perform_bind (by exact trivial) fun _ _ => hostWork_keeps deps rc hinv

end Provision

-- The gates of reconcileNormal before its steps: reads only, and the record of a failed sizing.
def ReadOp : Op → Prop
  | .getSecret _ | .dialSSH _ => True
  | _ => False

def GateOp : Op → Prop
  | .recordFailure _ _ => True
  | op => ReadOp op

-- A size that is left out is the available one.
def sizedFrom (domain : DomainSpec) (capacity : HostCapacity) : Int × Int :=
  (if domain.vcpus = 0 then capacity.availableVCPUs else domain.vcpus,
    if domain.memoryMB = 0 then capacity.availableMemoryMB else domain.memoryMB)

-- The sizes resolveAutoSizing gives; without a capacity it gives explicit ones only.
def resolvedSizes (domain : DomainSpec) : Option HostCapacity → Int × Int
  | some capacity => sizedFrom domain capacity
  | none => (domain.vcpus, domain.memoryMB)

section Gates

variable {replies : Replies signature} {inv : LibvirtMachineStatus → Prop}

theorem createClients_emits (deps : Deps) (host : LibvirtHost) :
    Emits replies ReadOp (fun _ => True) (createClients deps host) := by
  rw [createClients]
  split
  · trivial
  · refine (emits_ask _ _).mpr ⟨trivial, fun secret _ => ?_⟩
    cases secret with
    | error err => trivial
    | ok secret =>
      dsimp only
      cases localConnectionURI deps host.uri with
      | error err => trivial
      | ok connURI =>
        refine (emits_ask _ _).mpr ⟨trivial, fun dialled _ => ?_⟩
        cases dialled <;> trivial

theorem ensureBootstrapData_keeps {lm : LibvirtMachine}
    (hcondition : ∀ status value reason message, inv status →
      inv (status.setCondition lm.generation .bootstrapDataReady value reason message)) (machine : Machine) :
    Fn.Keeps replies ReadOp inv (ensureBootstrapData lm machine) := by
  intro status hstatus
  rw [ensureBootstrapData]
  dsimp only
  split
  · exact hcondition status _ _ _ hstatus
  · refine (emits_ask _ _).mpr ⟨trivial, fun secret _ => ?_⟩
    cases secret with
    | error err =>
      change @Emits signature _ _ _ _ (if err.isNotFound = true then _ else _)
      split
      · exact hcondition status _ _ _ hstatus
      · exact hstatus
    | ok secret => exact hcondition status _ _ _ hstatus

theorem ensureBootstrapData_emits (lm : LibvirtMachine) (machine : Machine) (status : LibvirtMachineStatus) :
    Emits replies ReadOp
      (fun out => out.2.failureReason = status.failureReason ∧ out.2.ready = status.ready)
      (ensureBootstrapData lm machine status) := by
  have hkeeps : Fn.Keeps replies ReadOp (fun after => after.failureReason = status.failureReason ∧
      after.ready = status.ready) (ensureBootstrapData lm machine) :=
    ensureBootstrapData_keeps (fun _ _ _ _ h => h) machine
  exact hkeeps status ⟨rfl, rfl⟩

theorem checkSizes_emits (host : LibvirtHost) (vcpus memoryMB : Int) (status : LibvirtMachineStatus) :
    Emits replies GateOp (fun out => ∀ sizes, out.1 = .ok sizes → sizes = (vcpus, memoryMB))
      (checkSizes host vcpus memoryMB status) := by
  rw [checkSizes]
  split
  · refine (emits_ask _ _).mpr ⟨trivial, fun _ _ sizes hout => ?_⟩
    cases hout
  · intro sizes hout
    exact (Except.ok.inj hout).symm

theorem resolveAutoSizing_emits (lm : LibvirtMachine) (host : LibvirtHost) (status : LibvirtMachineStatus) :
    Emits replies GateOp (fun out => ∀ sizes, out.1 = .ok sizes →
      sizes = resolvedSizes lm.spec.domain host.capacity)
      (resolveAutoSizing lm host status) := by
  rw [resolveAutoSizing]
  split
  · split
    · intro sizes hout
      cases hout
    · rename_i capacity hcapacity
      refine (checkSizes_emits host _ _ status).post_mono fun out hout sizes hok => ?_
      rw [hout sizes hok, hcapacity]
      rfl
  · rename_i hexplicit
    obtain ⟨hvcpus, hmemory⟩ := not_or.mp hexplicit
    intro sizes hout
    rw [← Except.ok.inj hout]
    cases host.capacity with
    | none => rfl
    | some capacity => rw [resolvedSizes, sizedFrom, if_neg hvcpus, if_neg hmemory]

theorem checkSizes_keeps (hrecord : ∀ status reason message, inv status → inv (status.recordFailure reason message))
    (host : LibvirtHost) (vcpus memoryMB : Int) :
    Fn.Keeps replies GateOp inv (checkSizes host vcpus memoryMB) := by
  intro status hstatus
  rw [checkSizes]
  split
  · exact (emits_ask _ _).mpr ⟨trivial, fun _ _ => hrecord status _ _ hstatus⟩
  · exact hstatus

theorem resolveAutoSizing_keeps
    (hrecord : ∀ status reason message, inv status → inv (status.recordFailure reason message))
    (lm : LibvirtMachine) (host : LibvirtHost) : Fn.Keeps replies GateOp inv (resolveAutoSizing lm host) := by
  intro status hstatus
  rw [resolveAutoSizing]
  split
  · split
    · exact hstatus
    · exact checkSizes_keeps hrecord host _ _ status hstatus
  · exact hstatus

end Gates

section Normal

variable {σ : Type} {step : Handler signature σ} {guard : σ → Op → Prop} (know : σ → Prop)
  {deps : Deps} {lm : LibvirtMachine} {machine : Machine} {cluster : Cluster}
  {libvirtCluster : LibvirtCluster} {host : LibvirtHost} {post : Return × LibvirtMachine → σ → Prop}

theorem gateOp_of_readOp (op : Op) (h : ReadOp op) : GateOp op := by
  cases op <;> trivial

-- What survives the gates of reconcileNormal is known where provisioning starts; a reconcile
-- that a gate ends has changed the status only. `kept` is what the gates keep of the status.
theorem reconcileNormal_holds_of_status (kept : LibvirtMachineStatus → Prop)
    (hguard : ∀ before op, know before → GateOp op → guard before op)
    (hstep : ∀ before op reply after, know before → GateOp op → step before op reply after → know after)
    (hlm : kept lm.status)
    (hcondition : ∀ status generation type value reason message, kept status →
      kept (status.setCondition generation type value reason message))
    (hrecord : ∀ status reason message, kept status → kept (status.recordFailure reason message))
    (hearly : ∀ ret status w, kept status → know w → post (ret, { lm.addFinalizer with status := status }) w)
    (hprovision : ∀ vcpus memoryMB status w, kept status → know w →
      (vcpus, memoryMB) = resolvedSizes lm.spec.domain host.capacity →
      let rc : ReconcileCtx := ⟨lm.addFinalizer, machine, cluster, libvirtCluster, host, vcpus, memoryMB⟩
      Holds step guard (fun out after => post (out.1, rc.object out.2) after)
        (provision deps rc (rc.initialState status)) w)
    {w : σ} (hw : know w) :
    Holds step guard post (reconcileNormal deps lm machine cluster libvirtCluster host) w := by
  have hgate {α : Type} {prog : Prog signature α} {post : α → Prop} {w : σ}
      (hprog : Emits anyReply GateOp post prog) (hw : know w) :
      Holds step guard (fun value after => post value ∧ know after) prog w :=
    hprog.holds hw hguard fun before op reply after hb hop hs =>
      ⟨trivial, hstep before op reply after hb hop hs⟩
  have hread {α : Type} {prog : Prog signature α} {post : α → Prop} {w : σ}
      (hprog : Emits anyReply ReadOp post prog) (hw : know w) :
      Holds step guard (fun value after => post value ∧ know after) prog w :=
    hgate (hprog.mono (fun _ _ hr => hr) gateOp_of_readOp fun _ h => h) hw
  have hstart : kept lm.addFinalizer.status := by
    rw [LibvirtMachine.addFinalizer_status]
    exact hlm
  rw [reconcileNormal]
  dsimp only
  split
  · exact hearly _ _ w (hcondition _ _ _ _ _ _ hstart) hw
  · refine (hread (createClients_emits deps host) hw).bind fun clients w₁ h₁ => ?_
    cases clients with
    | error err => exact hearly _ _ w₁ hstart h₁.2
    | ok _ =>
      have hbootstrap : Fn.Keeps anyReply ReadOp kept (ensureBootstrapData lm.addFinalizer machine) :=
        ensureBootstrapData_keeps (fun _ _ _ _ h => hcondition _ _ _ _ _ _ h) machine
      refine (hread (hbootstrap _ hstart) h₁.2).bind ?_
      rintro ⟨early, status⟩ w₂ ⟨hstatus, h₂⟩
      cases early with
      | some early => exact hearly _ _ w₂ hstatus h₂
      | none =>
        have hsizing : Fn.Keeps anyReply GateOp kept (resolveAutoSizing lm.addFinalizer host) :=
          resolveAutoSizing_keeps hrecord _ host
        have hresolved := (hgate (resolveAutoSizing_emits lm.addFinalizer host status) h₂).and
          (hgate (hsizing status hstatus) h₂)
        refine (hresolved.mono (fun _ _ _ _ hs => hs) (fun _ _ hg => hg.1) fun _ _ h => h).bind ?_
        rintro ⟨sizes, status'⟩ w₃ ⟨⟨hsizes, h₃⟩, hstatus', -⟩
        rw [LibvirtMachine.addFinalizer_spec] at hsizes
        cases sizes with
        | error result => exact hearly _ _ w₃ hstatus' h₃
        | ok sizes =>
          have hprog := hprovision sizes.1 sizes.2 status' w₃ hstatus' h₃ (hsizes sizes rfl)
          exact hprog.bind fun _ _ hout => hout

theorem reconcileNormal_holds_of_provision
    (hguard : ∀ before op, know before → GateOp op → guard before op)
    (hstep : ∀ before op reply after, know before → GateOp op → step before op reply after → know after)
    (hearly : ∀ ret status w, know w → post (ret, { lm.addFinalizer with status := status }) w)
    (hprovision : ∀ vcpus memoryMB status w, know w →
      (vcpus, memoryMB) = resolvedSizes lm.spec.domain host.capacity →
      let rc : ReconcileCtx := ⟨lm.addFinalizer, machine, cluster, libvirtCluster, host, vcpus, memoryMB⟩
      Holds step guard (fun out after => post (out.1, rc.object out.2) after)
        (provision deps rc (rc.initialState status)) w)
    {w : σ} (hw : know w) :
    Holds step guard post (reconcileNormal deps lm machine cluster libvirtCluster host) w :=
  reconcileNormal_holds_of_status know (fun _ => True) hguard hstep trivial (fun _ _ _ _ _ _ _ => trivial)
    (fun _ _ _ _ => trivial) (fun ret status w _ => hearly ret status w)
    (fun vcpus memoryMB status w _ => hprovision vcpus memoryMB status w) hw

theorem reconcileNormal_reaches_provision {replies : Replies signature} {allowed : Op → Prop}
    {result : Return × LibvirtMachine → Prop} {answers : (op : Op) → Reply op}
    {status status' : LibvirtMachineStatus} {vcpus memoryMB : Int}
    (hanswers : ∀ op, replies op (answers op)) (hready : host.ready = true)
    (hclients : run (oracle answers) (createClients deps host) () = (.ok (), ()))
    (hbootstrap : run (oracle answers) (ensureBootstrapData lm.addFinalizer machine lm.addFinalizer.status) () =
      ((none, status), ()))
    (hsizing : run (oracle answers) (resolveAutoSizing lm.addFinalizer host status) () =
      ((.ok (vcpus, memoryMB), status'), ()))
    (h : Emits replies allowed result (reconcileNormal deps lm machine cluster libvirtCluster host)) :
    let rc : ReconcileCtx := ⟨lm.addFinalizer, machine, cluster, libvirtCluster, host, vcpus, memoryMB⟩
    Emits replies allowed (fun _ => True) (provision deps rc (rc.initialState status')) := by
  rw [reconcileNormal, hready, if_neg (by decide)] at h
  have hdialled := Emits.bind_run hanswers h
  rw [hclients] at hdialled
  have hdata := Emits.bind_run hanswers hdialled
  rw [hbootstrap] at hdata
  have hsized := Emits.bind_run hanswers hdata
  rw [hsizing] at hsized
  exact ((emits_bind _ _).mp hsized).post_mono fun _ _ => trivial

end Normal

end Caplv.Controller

import Caplv.Controller.Normal
import Caplv.Controller.Delete

namespace Caplv.Controller

open Text Api Libvirt Scope Program

-- The pools the root disk and the ISO are looked for in. A run that falls through a
-- failed pool check still uses the operator's pool.
def ReconcileCtx.OwnPool (rc : ReconcileCtx) (pool : String) : Prop :=
  pool = rc.spec.rootDisk.storagePool ∨
    rc.spec.rootDisk.ephemeralPool = true ∧ pool = rc.machineScope.ephemeralPoolName

def ReconcileCtx.BootFile (rc : ReconcileCtx) (deps : Deps) (path : String) : Prop :=
  ∃ ba files, rc.libvirtCluster.bootArtifacts = some ba ∧
    (path = Controller.kernelPath deps ba files ∨ path = Controller.initrdPath deps ba files)

def ReconcileCtx.Sized (rc : ReconcileCtx) (xmlDef : DomainXML) : Prop :=
  xmlDef.vcpu = rc.resolvedVCPUs ∧ xmlDef.memoryKiB = rc.resolvedMemoryMB * memoryMBToKBMultiplier

inductive NormalCall (deps : Deps) (rc : ReconcileCtx) : ClientCall → Prop where
  | domainExists : NormalCall deps rc (.domainExists rc.domainName)
  | getDomain : NormalCall deps rc (.getDomain rc.domainName)
  | defineDomain (xmlDef : DomainXML) (hname : xmlDef.name = rc.domainName) (hsized : rc.Sized xmlDef) :
      NormalCall deps rc (.defineDomain xmlDef)
  | startDomain : NormalCall deps rc (.startDomain rc.domainName)
  | poolExists (name : String) : NormalCall deps rc (.poolExists name)
  | poolIsActive (heph : rc.spec.rootDisk.ephemeralPool = true) :
      NormalCall deps rc (.poolIsActive rc.machineScope.ephemeralPoolName)
  | startPool (heph : rc.spec.rootDisk.ephemeralPool = true) :
      NormalCall deps rc (.startPool rc.machineScope.ephemeralPoolName)
  | createTmpfsPool (heph : rc.spec.rootDisk.ephemeralPool = true) :
      NormalCall deps rc (.createTmpfsPool rc.machineScope.ephemeralPoolName
        rc.machineScope.ephemeralPoolPath rc.spec.rootDisk.ephemeralPoolSize)
  | destroyPool (heph : rc.spec.rootDisk.ephemeralPool = true) :
      NormalCall deps rc (.destroyPool rc.machineScope.ephemeralPoolName)
  | stagedExists (image : BaseImageSpec) (himage : rc.libvirtCluster.baseImage = some image) :
      NormalCall deps rc (.volumeExists image.pool image.volumeName)
  | stage (image : BaseImageSpec) (himage : rc.libvirtCluster.baseImage = some image)
      (content : Bytes) (size : Int) :
      NormalCall deps rc (.uploadQcow2Volume image.pool image.volumeName content size)
  | rootExists (pool : String) (hpool : rc.OwnPool pool) :
      NormalCall deps rc (.volumeExists pool rc.rootDiskVolume)
  | rootPath (pool : String) (hpool : rc.OwnPool pool) :
      NormalCall deps rc (.getVolumePath pool rc.rootDiskVolume)
  | basePath : NormalCall deps rc (.getVolumePath rc.baseImagePool rc.spec.rootDisk.baseImage)
  | cloneRoot :
      NormalCall deps rc (.cloneVolume rc.baseImagePool rc.spec.rootDisk.baseImage rc.rootDiskVolume)
  | createRoot (pool : String) (hpool : rc.OwnPool pool) (backingPath : String) :
      NormalCall deps rc
        (.createVolumeFromBackingStore pool rc.rootDiskVolume backingPath rc.spec.rootDisk.size)
  | isoExists (pool : String) (hpool : rc.OwnPool pool) :
      NormalCall deps rc (.volumeExists pool rc.bootstrapISO)
  | isoPath (pool : String) (hpool : rc.OwnPool pool) :
      NormalCall deps rc (.getVolumePath pool rc.bootstrapISO)
  | createISO (pool : String) (hpool : rc.OwnPool pool) (data : Bytes) :
      NormalCall deps rc (.uploadVolumeFromBytes pool rc.bootstrapISO data)
  | diskExists (disk : AdditionalDiskSpec) (hdisk : disk ∈ rc.spec.additionalDisks) :
      NormalCall deps rc (.volumeExists disk.storagePool (rc.machineScope.additionalDiskVolumeName disk))
  | diskPath (disk : AdditionalDiskSpec) (hdisk : disk ∈ rc.spec.additionalDisks) :
      NormalCall deps rc (.getVolumePath disk.storagePool (rc.machineScope.additionalDiskVolumeName disk))
  | createDisk (disk : AdditionalDiskSpec) (hdisk : disk ∈ rc.spec.additionalDisks) :
      NormalCall deps rc
        (.createVolume disk.storagePool (rc.machineScope.additionalDiskVolumeName disk) disk.size)
  | writeIgnition (data : Bytes) : NormalCall deps rc (.writeRemoteFile rc.ignitionFilePath data)
  | bootFileExists (path : String) (hpath : rc.BootFile deps path) :
      NormalCall deps rc (.remoteFileExists path)
  | writeBootFile (path : String) (hpath : rc.BootFile deps path) (data : Bytes) :
      NormalCall deps rc (.writeRemoteFile path data)

-- The operations of a step that leave the hosts and the API server's objects alone.
def LocalOp : Op → Prop
  | .getSecret _ | .lookupDockerConfigAuth _ _ | .imageGet _ _ _ | .qcow2VirtualSize _
  | .openFile _ | .lockUpload _ | .unlockUpload _ | .loadArtifacts _ | .storeArtifacts _ _
  | .resolveArtifacts _ _ | .buildCloudInitISO _ _ _ => True
  | _ => False

-- A terminal failure may be recorded: the record is an allowed operation and keeps the
-- invariant where it is answered.
structure Records (replies : Replies signature) (allowed : Op → Prop) (inv : RunState → Prop) : Prop where
  op : ∀ reason message, allowed (.recordFailure reason message)
  state : ∀ st reason message, replies (.recordFailure reason message) () → inv st →
    inv { st with status := st.status.recordFailure reason message }

-- What a set of operations and an invariant of the run state have to admit so that the
-- steps of reconcileNormal stay inside them under the given replies. A failure need only
-- be recordable where the replies let it occur.
structure StepPolicy (deps : Deps) (rc : ReconcileCtx) (replies : Replies signature)
    (allowed : Op → Prop) (inv : RunState → Prop) : Prop where
  ownPool : ∀ st, inv st → rc.OwnPool st.storagePool
  condition : ∀ st type value reason message, inv st → inv { st with
    status := st.status.setCondition rc.libvirtMachine.generation type value reason message }
  ephemeral : ∀ st, rc.spec.rootDisk.ephemeralPool = true → inv st →
    inv { st with storagePool := rc.machineScope.ephemeralPoolName }
  disks : ∀ st volumes params, inv st →
    inv { st with additionalDiskVolumes := volumes, additionalDiskParams := params }
  boot : ∀ st kernel initrd cmdline, inv st →
    inv { st with kernelPath := kernel, initrdPath := initrd, kernelCmdline := cmdline }
  localOp : ∀ op, LocalOp op → allowed op
  call : ∀ call, NormalCall deps rc call → allowed (.client rc.hostKey call)
  terminal : ∀ call err, NormalCall deps rc call → replies (.client rc.hostKey call) (.error err) →
    err.isTerminal = true → Records replies allowed inv

-- The further failures of the root disk and bootstrap steps: a missing base image, an ISO
-- that cannot be built and an unknown bootstrap format.
def BaseImageCall : ClientCall → Prop
  | .getVolumePath _ _ | .cloneVolume _ _ _ => True
  | _ => False

def BaseImagePolicy (rc : ReconcileCtx) (replies : Replies signature) (allowed : Op → Prop)
    (inv : RunState → Prop) : Prop :=
  ∀ call err, BaseImageCall call → replies (.client rc.hostKey call) (.error err) →
    err.isNotFound = true → Records replies allowed inv

structure BootstrapPolicy (rc : ReconcileCtx) (replies : Replies signature) (allowed : Op → Prop)
    (inv : RunState → Prop) : Prop where
  iso : ∀ data instanceID hostname err,
    replies (.buildCloudInitISO data instanceID hostname) (.error err) → Records replies allowed inv
  format : ∀ format, rc.spec.bootstrapFormat = .other format → Records replies allowed inv

section Rules

variable {replies : Replies signature} {allowed : Op → Prop} {inv : RunState → Prop}
  {rc : ReconcileCtx} {call : ClientCall}

theorem setTerminalError_keeps (h : Records replies allowed inv) (reason : Reason) (message : String) :
    Fn.Keeps replies allowed inv (onStatus (setTerminalError reason message)) :=
  fun st hst => ⟨h.op reason message, fun _ _ hreply => h.state st reason message hreply hst⟩

theorem handleLibvirtError_keeps {α : Type} {err : GoError}
    (h : err.isTerminal = true → Records replies allowed inv) (operation : String) :
    Body.Keeps replies allowed inv (handleLibvirtError err operation : StepBody α) :=
  Body.Keeps.ite (fun ht => (Body.Keeps.call (setTerminalError_keeps (h ht) _ _)).bind
    fun _ => Body.Keeps.leave _) fun _ => Body.Keeps.leave _

theorem orReturn_keeps {α : Type} (what : String) (result : Except GoError α) :
    Body.Keeps replies allowed inv (orReturn what result) := by
  cases result with
  | ok value => exact Body.Keeps.pure value
  | error err => exact Body.Keeps.leave _

theorem orReturn_bind_keeps {α β : Type} {what : String} {result : Except GoError α} {rest : α → StepBody β}
    (hrest : ∀ value, result = .ok value → Body.Keeps replies allowed inv (rest value)) :
    Body.Keeps replies allowed inv (orReturn what result >>= rest) := by
  cases result with
  | ok value =>
    intro state hstate
    rw [orReturn, Body.pure_bind_exec]
    exact hrest value rfl state hstate
  | error err =>
    intro state hstate
    rw [orReturn, Body.leave_bind_exec]
    exact hstate

theorem callOrHandle_keeps (hcall : allowed (.client rc.hostKey call))
    (hterminal : ∀ err, replies (.client rc.hostKey call) (.error err) → err.isTerminal = true →
      Records replies allowed inv) (operation : String) :
    Body.Keeps replies allowed inv (callOrHandle rc call operation) := by
  refine Body.Keeps.perform_bind hcall fun reply hreply => ?_
  cases reply with
  | ok value => exact Body.Keeps.pure value
  | error err => exact handleLibvirtError_keeps (hterminal err hreply) operation

theorem callOnBaseImage_keeps (hcall : allowed (.client rc.hostKey call))
    (hterminal : ∀ err, replies (.client rc.hostKey call) (.error err) → err.isTerminal = true →
      Records replies allowed inv)
    (hmissing : ∀ err, replies (.client rc.hostKey call) (.error err) → err.isNotFound = true →
      Records replies allowed inv) (operation : String) :
    Body.Keeps replies allowed inv (callOnBaseImage rc call operation) := by
  refine Body.Keeps.perform_bind hcall fun reply hreply => ?_
  cases reply with
  | ok value => exact Body.Keeps.pure value
  | error err =>
    refine Body.Keeps.ite (fun hn => ?_) fun _ => handleLibvirtError_keeps (hterminal err hreply) operation
    exact (Body.Keeps.call (setTerminalError_keeps (hmissing err hreply hn) _ _)).bind
      fun _ => Body.Keeps.leave _

theorem domainCall_keeps (hcall : allowed (.client rc.hostKey call))
    (hterminal : ∀ err, replies (.client rc.hostKey call) (.error err) → err.isTerminal = true →
      Records replies allowed inv) (operation : String) :
    Body.Keeps replies allowed inv (domainCall rc call operation) := by
  refine Body.Keeps.perform_bind hcall fun reply hreply => ?_
  cases reply with
  | ok value => exact Body.Keeps.pure value
  | error err =>
    refine Body.Keeps.ite (fun ht => ?_) fun _ => Body.Keeps.leave _
    exact (Body.Keeps.call (setTerminalError_keeps (hterminal err hreply ht) _ _)).bind
      fun _ => Body.Keeps.leave _

theorem eachInOrder_keeps {α : Type} {f : α → StepBody Unit} {items : List α}
    (hf : ∀ item ∈ items, Body.Keeps replies allowed inv (f item)) :
    Body.Keeps replies allowed inv (eachInOrder f items) := by
  induction items with
  | nil => exact Body.Keeps.pure ()
  | cons item rest ih =>
    exact (hf item List.mem_cons_self).bind fun _ =>
      ih fun other hother => hf other (List.mem_cons_of_mem _ hother)

theorem stepFn_keeps {body : StepBody Unit} (h : Body.Keeps replies allowed inv body) :
    Fn.Keeps replies allowed inv (stepFn body) :=
  (h.bind fun _ => Body.Keeps.pure none).run

theorem runStep_keeps {step : StepFn} (h : Fn.Keeps replies allowed inv step) :
    Body.Keeps replies allowed inv (runStep step) := by
  refine (Body.Keeps.call h).bind fun err => ?_
  cases err with
  | none => exact Body.Keeps.pure _
  | some err => exact Body.Keeps.leave _

theorem stopIfFailed_keeps : Body.Keeps replies allowed inv stopIfFailed :=
  Body.Keeps.get.bind fun _ => Body.Keeps.leaveIf _ _

end Rules

section Readers

def SecretOp : Op → Prop
  | .getSecret _ | .lookupDockerConfigAuth _ _ => True
  | _ => False

theorem SecretOp.localOp (op : Op) (h : SecretOp op) : LocalOp op := by
  cases op <;> first
    | exact h.elim
    | trivial

theorem ociCredentialsFromSecret_reads (secret : Secret) (reference : String) :
    Emits anyReply SecretOp (fun _ => True) (ociCredentialsFromSecret secret reference) := by
  rw [ociCredentialsFromSecret]
  split
  · refine (emits_ask _ _).mpr ⟨trivial, fun reply _ => ?_⟩
    cases reply <;> trivial
  · dsimp only
    split <;> trivial

theorem resolveCredentials_reads (libvirtCluster : LibvirtCluster) (ref : Option SecretReference)
    {decode : Secret → Prog signature (Except GoError Credentials)}
    (hdecode : ∀ secret, Emits anyReply SecretOp (fun _ => True) (decode secret)) :
    Emits anyReply SecretOp (fun _ => True) (resolveCredentials libvirtCluster ref decode) := by
  cases ref with
  | none => trivial
  | some ref =>
    refine (emits_ask _ _).mpr ⟨trivial, fun reply _ => ?_⟩
    cases reply with
    | error err => trivial
    | ok secret =>
      change Emits anyReply SecretOp _ (decode secret >>= _)
      refine (hdecode secret).bind fun creds _ => ?_
      cases creds <;> trivial

theorem resolveBaseImageCredentials_reads (libvirtCluster : LibvirtCluster) (source : BaseImageSource) :
    Emits anyReply SecretOp (fun _ => True) (resolveBaseImageCredentials libvirtCluster source) := by
  refine resolveCredentials_reads _ _ fun secret => ?_
  split
  · exact ociCredentialsFromSecret_reads _ _
  · trivial
  · exact ociCredentialsFromSecret_reads _ _

theorem resolveBaseImageCredentials_emits (libvirtCluster : LibvirtCluster) (source : BaseImageSource) :
    Emits anyReply LocalOp (fun _ => True) (resolveBaseImageCredentials libvirtCluster source) :=
  (resolveBaseImageCredentials_reads _ _).mono (fun _ _ h => h) SecretOp.localOp fun _ h => h

theorem resolveBootArtifactsCredentials_reads (libvirtCluster : LibvirtCluster) (source : BootArtifactsSource) :
    Emits anyReply SecretOp (fun _ => True) (resolveBootArtifactsCredentials libvirtCluster source) := by
  refine resolveCredentials_reads _ _ fun secret => ?_
  split
  · exact ociCredentialsFromSecret_reads _ _
  · trivial
  · trivial

theorem resolveBootArtifactsCredentials_emits (libvirtCluster : LibvirtCluster) (source : BootArtifactsSource) :
    Emits anyReply LocalOp (fun _ => True) (resolveBootArtifactsCredentials libvirtCluster source) :=
  (resolveBootArtifactsCredentials_reads libvirtCluster source).mono (fun _ _ h => h) SecretOp.localOp
    fun _ h => h

theorem getBootstrapData_emits (machine : Machine) :
    Emits anyReply LocalOp (fun _ => True) (getBootstrapData machine) := by
  rw [getBootstrapData]
  split
  · trivial
  · refine (emits_ask _ _).mpr ⟨trivial, fun reply _ => ?_⟩
    cases reply with
    | error err => trivial
    | ok secret =>
      simp only [Prog.bind]
      cases secret.get? "value" with
      | none => trivial
      | some data => trivial

theorem resolveCachedArtifacts_emits (deps : Deps) (source : BootArtifactsSource) (creds : Option Credentials) :
    Emits anyReply LocalOp (fun _ => True) (resolveCachedArtifacts deps source creds) := by
  refine (emits_ask _ _).mpr ⟨trivial, fun cached _ => ?_⟩
  cases cached with
  | some files => trivial
  | none =>
    refine (emits_ask _ _).mpr ⟨trivial, fun resolved _ => ?_⟩
    cases resolved with
    | error err => trivial
    | ok files => exact (emits_ask _ _).mpr ⟨trivial, fun _ _ => trivial⟩

end Readers

section Steps

inductive StagingCall (rc : ReconcileCtx) : ClientCall → Prop where
  | lookup (image : BaseImageSpec) (himage : rc.libvirtCluster.baseImage = some image) :
      StagingCall rc (.volumeExists image.pool image.volumeName)
  | upload (image : BaseImageSpec) (himage : rc.libvirtCluster.baseImage = some image)
      (content : Bytes) (size : Int) :
      StagingCall rc (.uploadQcow2Volume image.pool image.volumeName content size)

inductive RootDiskCall (rc : ReconcileCtx) (pools : String → Prop) : ClientCall → Prop where
  | poolExists (heph : rc.spec.rootDisk.ephemeralPool = true) :
      RootDiskCall rc pools (.poolExists rc.machineScope.ephemeralPoolName)
  | poolIsActive (heph : rc.spec.rootDisk.ephemeralPool = true) :
      RootDiskCall rc pools (.poolIsActive rc.machineScope.ephemeralPoolName)
  | startPool (heph : rc.spec.rootDisk.ephemeralPool = true) :
      RootDiskCall rc pools (.startPool rc.machineScope.ephemeralPoolName)
  | destroyPool (heph : rc.spec.rootDisk.ephemeralPool = true) :
      RootDiskCall rc pools (.destroyPool rc.machineScope.ephemeralPoolName)
  | createTmpfsPool (heph : rc.spec.rootDisk.ephemeralPool = true) :
      RootDiskCall rc pools (.createTmpfsPool rc.machineScope.ephemeralPoolName
        rc.machineScope.ephemeralPoolPath rc.spec.rootDisk.ephemeralPoolSize)
  | lookup (pool : String) (hpool : pools pool) : RootDiskCall rc pools (.volumeExists pool rc.rootDiskVolume)
  | basePath : RootDiskCall rc pools (.getVolumePath rc.baseImagePool rc.spec.rootDisk.baseImage)
  | clone (hstrategy : rc.spec.rootDisk.cloneStrategy = .fullClone) :
      RootDiskCall rc pools (.cloneVolume rc.baseImagePool rc.spec.rootDisk.baseImage rc.rootDiskVolume)
  | create (pool : String) (hpool : pools pool) (backingPath : String) :
      RootDiskCall rc pools
        (.createVolumeFromBackingStore pool rc.rootDiskVolume backingPath rc.spec.rootDisk.size)

inductive BootstrapCall (rc : ReconcileCtx) (pools : String → Prop) : ClientCall → Prop where
  | writeIgnition (hformat : rc.spec.bootstrapFormat = .ignition) (data : Bytes) :
      BootstrapCall rc pools (.writeRemoteFile rc.ignitionFilePath data)
  | lookup (hformat : rc.spec.bootstrapFormat = .cloudInit) (pool : String) (hpool : pools pool) :
      BootstrapCall rc pools (.volumeExists pool rc.bootstrapISO)
  | upload (hformat : rc.spec.bootstrapFormat = .cloudInit) (pool : String) (hpool : pools pool)
      (data : Bytes) : BootstrapCall rc pools (.uploadVolumeFromBytes pool rc.bootstrapISO data)

inductive DiskCall (rc : ReconcileCtx) (disk : AdditionalDiskSpec) : ClientCall → Prop where
  | lookup : DiskCall rc disk
      (.volumeExists disk.storagePool (rc.machineScope.additionalDiskVolumeName disk))
  | create : DiskCall rc disk
      (.createVolume disk.storagePool (rc.machineScope.additionalDiskVolumeName disk) disk.size)
  | path : DiskCall rc disk
      (.getVolumePath disk.storagePool (rc.machineScope.additionalDiskVolumeName disk))

inductive BootFileCall (deps : Deps) (rc : ReconcileCtx) : ClientCall → Prop where
  | lookup (path : String) (hpath : rc.BootFile deps path) : BootFileCall deps rc (.remoteFileExists path)
  | write (path : String) (hpath : rc.BootFile deps path) (data : Bytes) :
      BootFileCall deps rc (.writeRemoteFile path data)

variable {deps : Deps} {rc : ReconcileCtx} {replies : Replies signature} {allowed : Op → Prop}
  {inv : RunState → Prop}

theorem lift_keeps {α : Type} {prog : Prog signature α} (hlocal : ∀ op, LocalOp op → allowed op)
    (hprog : Emits anyReply LocalOp (fun _ => True) prog) :
    Body.Keeps replies allowed inv (Body.lift prog : StepBody α) :=
  Body.Keeps.lift (hprog.mono (fun _ _ _ => trivial) hlocal fun _ ht => ht)

theorem uploadBaseImage_keeps
    (hcondition : ∀ st value reason message, inv st → inv { st with
      status := st.status.setCondition rc.libvirtMachine.generation .baseImageStaged value reason message })
    (hlocal : ∀ op, LocalOp op → allowed op)
    (hcall : ∀ call, StagingCall rc call → ∀ operation,
      Body.Keeps replies allowed inv (callOrHandle rc call operation))
    (image : BaseImageSpec) (himage : rc.libvirtCluster.baseImage = some image) (entry : CacheEntry) :
    Fn.Keeps replies allowed inv (uploadBaseImage rc image entry) := by
  refine stepFn_keeps ?_
  refine (hcall _ (.lookup image himage) _).bind fun found => ?_
  refine (Body.Keeps.leaveIf found none).bind fun _ => ?_
  refine Body.Keeps.perform_bind (hlocal _ trivial) fun header _ => ?_
  refine (orReturn_keeps _ header).bind fun virtualSize => ?_
  refine Body.Keeps.perform_bind (hlocal _ trivial) fun file _ => ?_
  refine (orReturn_keeps _ file).bind fun content => ?_
  refine (hcall _ (.upload image himage content virtualSize) _).bind fun _ => ?_
  exact Body.Keeps.modify fun st hst => hcondition st _ _ _ hst

theorem reconcileBaseImage_keeps
    (hcondition : ∀ st value reason message, inv st → inv { st with
      status := st.status.setCondition rc.libvirtMachine.generation .baseImageStaged value reason message })
    (hlocal : ∀ op, LocalOp op → allowed op)
    (hcall : ∀ call, StagingCall rc call → ∀ operation,
      Body.Keeps replies allowed inv (callOrHandle rc call operation)) :
    Fn.Keeps replies allowed inv (reconcileBaseImage deps rc) := by
  rw [reconcileBaseImage]
  split
  · exact fun _ hst => hst
  · rename_i image himage
    split
    · refine stepFn_keeps ?_
      refine (hcall _ (.lookup image himage) _).bind fun found => ?_
      refine (Body.Keeps.leaveIf found none).bind fun _ => ?_
      refine Body.Keeps.bind (Body.Keeps.modify fun st hst => hcondition st _ _ _ hst) fun _ => ?_
      refine (lift_keeps hlocal (resolveBaseImageCredentials_emits _ _)).bind fun creds => ?_
      refine (orReturn_keeps _ creds).bind fun creds => ?_
      refine Body.Keeps.perform_bind (hlocal _ trivial) fun entry _ => ?_
      refine (orReturn_keeps _ entry).bind fun entry => ?_
      refine Body.Keeps.perform_bind (hlocal _ trivial) fun _ _ => ?_
      refine (Body.Keeps.call (uploadBaseImage_keeps hcondition hlocal hcall image himage entry)).bind
        fun err => ?_
      exact Body.Keeps.perform_bind (hlocal _ trivial) fun _ _ => Body.Keeps.leave err
    · exact fun _ hst => hst

theorem ensureEphemeralPool_keeps {pools : String → Prop} (heph : rc.spec.rootDisk.ephemeralPool = true)
    (hallowed : ∀ call, RootDiskCall rc pools call → allowed (.client rc.hostKey call))
    (hcall : ∀ call, RootDiskCall rc pools call → ∀ operation,
      Body.Keeps replies allowed inv (callOrHandle rc call operation)) :
    Body.Keeps replies allowed inv (ensureEphemeralPool rc) := by
  refine (hcall _ (.poolExists heph) _).bind fun defined => ?_
  refine Body.Keeps.bind (Body.Keeps.ite (fun _ => ?_) fun _ => Body.Keeps.pure _) fun usable => ?_
  · refine (hcall _ (.poolIsActive heph) _).bind fun active => ?_
    refine Body.Keeps.ite (fun _ => Body.Keeps.pure _) fun _ => ?_
    refine Body.Keeps.perform_bind (hallowed _ (.startPool heph)) fun started _ => ?_
    cases started with
    | ok _ => exact Body.Keeps.pure _
    | error _ => exact (hcall _ (.destroyPool heph) _).bind fun _ => Body.Keeps.pure _
  · refine Body.Keeps.ite (fun _ => Body.Keeps.pure _) fun _ => ?_
    exact hcall _ (.createTmpfsPool heph) _

theorem createRootDisk_keeps (pools : String → Prop)
    (hcall : ∀ call, RootDiskCall rc pools call → ∀ operation,
      Body.Keeps replies allowed inv (callOrHandle rc call operation))
    (hbase : ∀ call, RootDiskCall rc pools call → BaseImageCall call → ∀ operation,
      Body.Keeps replies allowed inv (callOnBaseImage rc call operation))
    {pool : String} (hpool : pools pool) : Body.Keeps replies allowed inv (createRootDisk rc pool) := by
  rw [createRootDisk]
  split
  · rename_i hstrategy
    exact hbase _ (.clone hstrategy) trivial _
  · refine (hbase _ .basePath trivial _).bind fun backingPath => ?_
    exact hcall _ (.create pool hpool backingPath) _

theorem reconcileRootDisk_keeps_of (pools : String → Prop) (hpools : ∀ st, inv st → pools st.storagePool)
    (hephemeral : ∀ st, rc.spec.rootDisk.ephemeralPool = true → inv st →
      inv { st with storagePool := rc.machineScope.ephemeralPoolName })
    (hensure : rc.spec.rootDisk.ephemeralPool = true → Body.Keeps replies allowed inv (ensureEphemeralPool rc))
    (hlookup : ∀ pool, pools pool → ∀ operation,
      Body.Keeps replies allowed inv (callOrHandle rc (.volumeExists pool rc.rootDiskVolume) operation))
    (hcreate : ∀ pool, pools pool → Body.Keeps replies allowed inv (createRootDisk rc pool)) :
    Fn.Keeps replies allowed inv (reconcileRootDisk rc) := by
  refine stepFn_keeps (Body.Keeps.bind (Body.Keeps.ite (fun heph => ?_) fun _ => Body.Keeps.pure _)
    fun _ => Body.Keeps.get_bind fun st hst => ?_)
  · refine (hensure heph).bind fun _ => ?_
    exact Body.Keeps.modify fun st hst => hephemeral st heph hst
  · have hpool := hpools st hst
    refine (hlookup _ hpool _).bind fun rootExists => ?_
    exact Body.Keeps.ite (fun _ => Body.Keeps.pure _) fun _ => hcreate _ hpool

theorem reconcileRootDisk_keeps (pools : String → Prop) (hpools : ∀ st, inv st → pools st.storagePool)
    (hephemeral : ∀ st, rc.spec.rootDisk.ephemeralPool = true → inv st →
      inv { st with storagePool := rc.machineScope.ephemeralPoolName })
    (hallowed : ∀ call, RootDiskCall rc pools call → allowed (.client rc.hostKey call))
    (hcall : ∀ call, RootDiskCall rc pools call → ∀ operation,
      Body.Keeps replies allowed inv (callOrHandle rc call operation))
    (hbase : ∀ call, RootDiskCall rc pools call → BaseImageCall call → ∀ operation,
      Body.Keeps replies allowed inv (callOnBaseImage rc call operation)) :
    Fn.Keeps replies allowed inv (reconcileRootDisk rc) :=
  reconcileRootDisk_keeps_of pools hpools hephemeral
    (fun heph => ensureEphemeralPool_keeps heph hallowed hcall)
    (fun pool hpool operation => hcall _ (.lookup pool hpool) operation)
    fun _ hpool => createRootDisk_keeps pools hcall hbase hpool

theorem reconcileBootstrapArtifacts_keeps (pools : String → Prop)
    (hpools : ∀ st, inv st → pools st.storagePool) (hlocal : ∀ op, LocalOp op → allowed op)
    (hboot : BootstrapPolicy rc replies allowed inv)
    (hcall : ∀ call, BootstrapCall rc pools call → ∀ operation,
      Body.Keeps replies allowed inv (callOrHandle rc call operation)) :
    Fn.Keeps replies allowed inv (reconcileBootstrapArtifacts deps rc) := by
  refine stepFn_keeps ?_
  refine (lift_keeps hlocal (getBootstrapData_emits rc.machine)).bind fun data => ?_
  refine (orReturn_keeps _ data).bind fun bootstrapData => ?_
  split
  · rename_i hformat
    exact hcall _ (.writeIgnition hformat _) _
  · rename_i hformat
    refine Body.Keeps.get_bind fun st hst => ?_
    have hpool := hpools st hst
    refine (hcall _ (.lookup hformat _ hpool) _).bind fun isoExists => ?_
    refine Body.Keeps.ite (fun _ => Body.Keeps.pure _) fun _ => ?_
    refine Body.Keeps.perform_bind (hlocal _ trivial) fun built hbuilt => ?_
    cases built with
    | error err => exact Body.Keeps.call (setTerminalError_keeps (hboot.iso _ _ _ err hbuilt) _ _)
    | ok isoData => exact hcall _ (.upload hformat _ hpool isoData) _
  · rename_i format hformat
    exact Body.Keeps.call (setTerminalError_keeps (hboot.format format hformat) _ _)

theorem reconcileAdditionalDisks_keeps
    (hdisks : ∀ st volumes params, inv st →
      inv { st with additionalDiskVolumes := volumes, additionalDiskParams := params })
    (hcall : ∀ disk ∈ rc.spec.additionalDisks, ∀ call, DiskCall rc disk call → ∀ operation,
      Body.Keeps replies allowed inv (callOrHandle rc call operation)) :
    Fn.Keeps replies allowed inv (reconcileAdditionalDisks rc) := by
  refine stepFn_keeps (eachInOrder_keeps fun disk hdisk => ?_)
  refine Body.Keeps.bind (Body.Keeps.modify fun st hst => hdisks st _ st.additionalDiskParams hst)
    fun _ => ?_
  refine (hcall disk hdisk _ .lookup _).bind fun found => ?_
  refine Body.Keeps.bind (Body.Keeps.ite (fun _ => Body.Keeps.pure _) fun _ => ?_) fun _ => ?_
  · exact hcall disk hdisk _ .create _
  · refine (hcall disk hdisk _ .path _).bind fun diskPath => ?_
    exact Body.Keeps.modify fun st hst => hdisks st st.additionalDiskVolumes _ hst

-- The paths hold the digests, so what is known of the resolved files is known of the paths.
theorem reconcileBootArtifacts_keeps_of (known : BootFiles → Prop)
    (hboot : ∀ st kernel initrd cmdline, inv st →
      inv { st with kernelPath := kernel, initrdPath := initrd, kernelCmdline := cmdline })
    (hlocal : ∀ op, LocalOp op → allowed op)
    (hresolved : ∀ source creds, Emits replies LocalOp (fun out => ∀ files, out = .ok files → known files)
      (resolveCachedArtifacts deps source creds))
    (hcall : ∀ ba files path, rc.libvirtCluster.bootArtifacts = some ba → known files →
      path = kernelPath deps ba files ∨ path = initrdPath deps ba files →
      (∀ operation, Body.Keeps replies allowed inv (callOrHandle rc (.remoteFileExists path) operation)) ∧
      ∀ data operation, Body.Keeps replies allowed inv (callOrHandle rc (.writeRemoteFile path data) operation)) :
    Fn.Keeps replies allowed inv (reconcileBootArtifacts deps rc) := by
  rw [reconcileBootArtifacts]
  split
  · exact fun _ hst => hst
  · rename_i ba hba
    have hensure (files : BootFiles) (path : String) (hfiles : known files)
        (hpath : path = kernelPath deps ba files ∨ path = initrdPath deps ba files) (data : Bytes)
        (operation : String) : Body.Keeps replies allowed inv (ensureRemoteArtifact rc path data operation) := by
      obtain ⟨hlookup, hwrite⟩ := hcall ba files path hba hfiles hpath
      refine (hlookup _).bind fun found => ?_
      exact Body.Keeps.ite (fun _ => Body.Keeps.pure _) fun _ => hwrite data _
    split
    · refine stepFn_keeps ?_
      refine (lift_keeps hlocal (resolveBootArtifactsCredentials_emits _ _)).bind fun creds => ?_
      refine (orReturn_keeps _ creds).bind fun creds => ?_
      refine Body.Keeps.lift_bind ((hresolved ba.source creds).mono (fun _ _ h => h) hlocal fun _ h => h)
        fun result hfiles => ?_
      refine orReturn_bind_keeps fun files hok => ?_
      refine (hensure files _ (hfiles files hok) (.inl rfl) _ _).bind fun _ => ?_
      refine (hensure files _ (hfiles files hok) (.inr rfl) _ _).bind fun _ => ?_
      exact Body.Keeps.modify fun st hst => hboot st _ _ _ hst
    · exact fun _ hst => hst

theorem reconcileBootArtifacts_keeps
    (hboot : ∀ st kernel initrd cmdline, inv st →
      inv { st with kernelPath := kernel, initrdPath := initrd, kernelCmdline := cmdline })
    (hlocal : ∀ op, LocalOp op → allowed op)
    (hcall : ∀ call, BootFileCall deps rc call → ∀ operation,
      Body.Keeps replies allowed inv (callOrHandle rc call operation)) :
    Fn.Keeps replies allowed inv (reconcileBootArtifacts deps rc) := by
  refine reconcileBootArtifacts_keeps_of (fun _ => True) hboot hlocal (fun source creds => ?_) ?_
  · exact (resolveCachedArtifacts_emits deps source creds).mono (fun _ _ _ => trivial) (fun _ h => h)
      fun _ _ _ _ => trivial
  · intro ba files path hba _ hpath
    exact ⟨hcall _ (.lookup path ⟨ba, files, hba, hpath⟩), fun data =>
      hcall _ (.write path ⟨ba, files, hba, hpath⟩ data)⟩

end Steps

namespace StepPolicy

variable {deps : Deps} {rc : ReconcileCtx} {replies : Replies signature} {allowed : Op → Prop}
  {inv : RunState → Prop} {call : ClientCall}

theorem callOrHandle (h : StepPolicy deps rc replies allowed inv) (hcall : NormalCall deps rc call)
    (operation : String) : Body.Keeps replies allowed inv (Controller.callOrHandle rc call operation) :=
  callOrHandle_keeps (h.call call hcall) (fun err => h.terminal call err hcall) operation

theorem domainCall (h : StepPolicy deps rc replies allowed inv) (hcall : NormalCall deps rc call)
    (operation : String) : Body.Keeps replies allowed inv (Controller.domainCall rc call operation) :=
  domainCall_keeps (h.call call hcall) (fun err => h.terminal call err hcall) operation

theorem callOnBaseImage (h : StepPolicy deps rc replies allowed inv)
    (hbase : BaseImagePolicy rc replies allowed inv) (hcall : NormalCall deps rc call)
    (hkind : BaseImageCall call) (operation : String) :
    Body.Keeps replies allowed inv (Controller.callOnBaseImage rc call operation) :=
  callOnBaseImage_keeps (h.call call hcall) (fun err => h.terminal call err hcall)
    (fun err => hbase call err hkind) operation

theorem reconcileBaseImage (h : StepPolicy deps rc replies allowed inv) :
    Fn.Keeps replies allowed inv (Controller.reconcileBaseImage deps rc) := by
  refine reconcileBaseImage_keeps (fun st => h.condition st _) h.localOp fun call hcall operation => ?_
  cases hcall with
  | lookup image himage => exact h.callOrHandle (.stagedExists image himage) operation
  | upload image himage content size => exact h.callOrHandle (.stage image himage content size) operation

theorem rootDiskCall (hcall : RootDiskCall rc rc.OwnPool call) : NormalCall deps rc call := by
  cases hcall with
  | poolExists heph => exact .poolExists _
  | poolIsActive heph => exact .poolIsActive heph
  | startPool heph => exact .startPool heph
  | destroyPool heph => exact .destroyPool heph
  | createTmpfsPool heph => exact .createTmpfsPool heph
  | lookup pool hpool => exact .rootExists pool hpool
  | basePath => exact .basePath
  | clone hstrategy => exact .cloneRoot
  | create pool hpool backingPath => exact .createRoot pool hpool backingPath

theorem reconcileRootDisk (h : StepPolicy deps rc replies allowed inv)
    (hbase : BaseImagePolicy rc replies allowed inv) :
    Fn.Keeps replies allowed inv (Controller.reconcileRootDisk rc) :=
  reconcileRootDisk_keeps rc.OwnPool h.ownPool h.ephemeral
    (fun _ hcall => h.call _ (rootDiskCall hcall))
    (fun _ hcall operation => h.callOrHandle (rootDiskCall hcall) operation)
    fun _ hcall hkind operation => h.callOnBaseImage hbase (rootDiskCall hcall) hkind operation

theorem reconcileBootstrapArtifacts (h : StepPolicy deps rc replies allowed inv)
    (hboot : BootstrapPolicy rc replies allowed inv) :
    Fn.Keeps replies allowed inv (Controller.reconcileBootstrapArtifacts deps rc) := by
  refine reconcileBootstrapArtifacts_keeps rc.OwnPool h.ownPool h.localOp hboot fun call hcall operation => ?_
  cases hcall with
  | writeIgnition _ data => exact h.callOrHandle (.writeIgnition data) operation
  | lookup _ pool hpool => exact h.callOrHandle (.isoExists pool hpool) operation
  | upload _ pool hpool data => exact h.callOrHandle (.createISO pool hpool data) operation

theorem reconcileAdditionalDisks (h : StepPolicy deps rc replies allowed inv) :
    Fn.Keeps replies allowed inv (Controller.reconcileAdditionalDisks rc) := by
  refine reconcileAdditionalDisks_keeps h.disks fun disk hdisk call hcall operation => ?_
  cases hcall with
  | lookup => exact h.callOrHandle (.diskExists disk hdisk) operation
  | create => exact h.callOrHandle (.createDisk disk hdisk) operation
  | path => exact h.callOrHandle (.diskPath disk hdisk) operation

theorem reconcileBootArtifacts (h : StepPolicy deps rc replies allowed inv) :
    Fn.Keeps replies allowed inv (Controller.reconcileBootArtifacts deps rc) := by
  refine reconcileBootArtifacts_keeps h.boot h.localOp fun call hcall operation => ?_
  cases hcall with
  | lookup path hpath => exact h.callOrHandle (.bootFileExists path hpath) operation
  | write path hpath data => exact h.callOrHandle (.writeBootFile path hpath data) operation

end StepPolicy

end Caplv.Controller

import Caplv.Controller.Preflight
import Caplv.Controller.Credentials

namespace Caplv.Controller

open Text Api Libvirt Scope Program

-- `if err != nil { return fmt.Errorf("what: %w", err) }` after a call.
def orReturn {α : Type} (what : String) : Except GoError α → StepBody α
  | .ok value => pure value
  | .error err => Body.leave (some (.wrap what err))

-- The part of reconcileBaseImage that runs under the per-host upload lock.
def uploadBaseImage (rc : ReconcileCtx) (baseImage : BaseImageSpec) (entry : CacheEntry) : StepFn :=
  stepFn do
    let found ← callOrHandle rc (.volumeExists baseImage.pool baseImage.volumeName)
      "rechecking base image volume"
    Body.leaveIf found none
    let virtualSize ← orReturn "read qcow2 header" (← issue (.qcow2VirtualSize entry.path))
    let content ← orReturn "open cached qcow2" (← issue (.openFile entry.path))
    callOrHandle rc (.uploadQcow2Volume baseImage.pool baseImage.volumeName content virtualSize)
      "uploading base image"
    updateStatus fun status => status.setCondition rc.libvirtMachine.generation .baseImageStaged true
      .baseImageStaged ("Base image staged in " ++ baseImage.pool ++ " as " ++ baseImage.volumeName)

def stageBaseImage (rc : ReconcileCtx) (baseImage : BaseImageSpec) : StepBody Unit := do
  let found ← callOrHandle rc (.volumeExists baseImage.pool baseImage.volumeName)
    "checking base image volume"
  Body.leaveIf found none
  updateStatus fun status => status.setCondition rc.libvirtMachine.generation .baseImageStaged false
    .baseImageStaging ("Staging base image to " ++ baseImage.pool ++ " on " ++ rc.libvirtHost.name)
  let creds ← orReturn "resolving baseImage credentials"
    (← Body.lift (resolveBaseImageCredentials rc.libvirtCluster baseImage.source))
  let entry ← orReturn "fetching baseImage"
    (← issue (.imageGet baseImage.source creds (baseImageExpectedSHA256 baseImage.source)))
  let uploadKey := rc.libvirtHost.name ++ "|" ++ entry.sha256
  issue (.lockUpload uploadKey)
  let err ← Body.call (uploadBaseImage rc baseImage entry)
  issue (.unlockUpload uploadKey)
  Body.leave err

def reconcileBaseImage (deps : Deps) (rc : ReconcileCtx) : StepFn :=
  match rc.libvirtCluster.baseImage with
  | none => fun st => .done (none, st)
  | some baseImage =>
    if deps.baseImageCache then stepFn (stageBaseImage rc baseImage)
    else fun st => .done (some (.text "baseImage requested but no image cache is wired"), st)

-- Whether the pool is there to be used. An inactive one is started; when that fails its
-- tmpfs is gone and the stale definition is destroyed.
def reviveEphemeralPool (rc : ReconcileCtx) : StepBody Bool := do
  let pool := rc.machineScope.ephemeralPoolName
  let active ← callOrHandle rc (.poolIsActive pool) "checking ephemeral pool state"
  if active then pure true
  else do
    match ← clientCall rc (.startPool pool) with
    | .ok _ => pure true
    | .error _ => do
        callOrHandle rc (.destroyPool pool) "destroying stale ephemeral pool"
        pure false

def ensureEphemeralPool (rc : ReconcileCtx) : StepBody Unit := do
  let pool := rc.machineScope.ephemeralPoolName
  let defined ← callOrHandle rc (.poolExists pool) "checking ephemeral pool"
  let usable ← (if defined then reviveEphemeralPool rc else pure false)
  if usable then pure ()
  else
    callOrHandle rc
      (.createTmpfsPool pool rc.machineScope.ephemeralPoolPath rc.spec.rootDisk.ephemeralPoolSize)
      "creating ephemeral pool"

def baseImageNotFoundMessage (rc : ReconcileCtx) : String :=
  "Base image " ++ quote rc.spec.rootDisk.baseImage ++ " not found in pool " ++ quote rc.baseImagePool

-- The root disk's own calls: a missing base image is terminal, other errors are handled as usual.
def callOnBaseImage (rc : ReconcileCtx) (call : ClientCall) (operation : String) :
    StepBody call.Result := do
  match ← clientCall rc call with
  | .ok value => pure value
  | .error err =>
    if err.isNotFound then do
      Body.call (onStatus (setTerminalError .baseImageNotFound (baseImageNotFoundMessage rc)))
      Body.leave none
    else handleLibvirtError err operation

def createRootDisk (rc : ReconcileCtx) (storagePool : String) : StepBody Unit :=
  match rc.spec.rootDisk.cloneStrategy with
  | .fullClone =>
    callOnBaseImage rc (.cloneVolume rc.baseImagePool rc.spec.rootDisk.baseImage rc.rootDiskVolume)
      "cloning root disk (full-clone)"
  | .copyOnWrite => do
      let backingPath ← callOnBaseImage rc (.getVolumePath rc.baseImagePool rc.spec.rootDisk.baseImage)
        "getting base image path"
      callOrHandle rc (.createVolumeFromBackingStore storagePool rc.rootDiskVolume backingPath
        rc.spec.rootDisk.size) "creating root disk (copy-on-write)"

def reconcileRootDisk (rc : ReconcileCtx) : StepFn := stepFn do
  (if rc.spec.rootDisk.ephemeralPool then do
    ensureEphemeralPool rc
    Body.modify fun st => { st with storagePool := rc.machineScope.ephemeralPoolName }
  else pure ())
  let storagePool := (← Body.get).storagePool
  let rootExists ← callOrHandle rc (.volumeExists storagePool rc.rootDiskVolume) "checking root disk"
  if rootExists then pure () else createRootDisk rc storagePool

def getBootstrapData (machine : Machine) : Prog signature (Except GoError Bytes) :=
  match machine.bootstrapDataSecretName with
  | none => .done (.error (.text "bootstrap data secret not yet available"))
  | some secretName => do
      match ← ask (.getSecret ⟨machine.namespaceName, secretName⟩) with
      | .error err => .done (.error (.wrap "failed to get bootstrap secret" (.api err)))
      | .ok secret =>
        match secret.get? "value" with
        | none => .done (.error (.text "bootstrap secret missing 'value' key"))
        | some data => .done (.ok data)

-- The ignition config with the machine's metadata and network in it, as far as they
-- could be injected.
def ignitionConfig (deps : Deps) (rc : ReconcileCtx) (bootstrapData : Bytes) : Bytes :=
  let withMetadata :=
    match deps.injectMachineMetadata bootstrapData rc.machineScope.domainName
        rc.machineScope.providerID with
    | .ok injected => injected
    | .error _ => bootstrapData
  let netSpec := rc.spec.network
  if netSpec.addresses.length > 0 then
    let netCfg : NetworkConfig :=
      { addresses := netSpec.addresses
        gateway := netSpec.gateway
        dnsServers := (netSpec.dns.map DNSSpec.nameservers).getD []
        dnsSearch := (netSpec.dns.map DNSSpec.searchDomains).getD [] }
    match deps.injectStaticNetwork withMetadata netCfg with
    | .ok injected => injected
    | .error _ => withMetadata
  else withMetadata

def createBootstrapISO (rc : ReconcileCtx) (storagePool : String) (bootstrapData : Bytes) :
    StepBody Unit := do
  match ← issue (.buildCloudInitISO bootstrapData rc.domainName rc.domainName) with
  | .error err =>
    Body.call (onStatus (setTerminalError .invalidBootstrapData
      ("failed to build cloud-init ISO: " ++ err.message)))
  | .ok isoData =>
    callOrHandle rc (.uploadVolumeFromBytes storagePool rc.bootstrapISO isoData)
      "uploading cloud-init ISO"

def reconcileBootstrapArtifacts (deps : Deps) (rc : ReconcileCtx) : StepFn := stepFn do
  let bootstrapData ← orReturn "failed to get bootstrap data"
    (← Body.lift (getBootstrapData rc.machine))
  match rc.spec.bootstrapFormat with
  | .ignition =>
    callOrHandle rc (.writeRemoteFile rc.ignitionFilePath (ignitionConfig deps rc bootstrapData))
      "writing ignition file"
  | .cloudInit => do
      let storagePool := (← Body.get).storagePool
      let isoExists ← callOrHandle rc (.volumeExists storagePool rc.bootstrapISO)
        "checking bootstrap ISO"
      if isoExists then pure () else createBootstrapISO rc storagePool bootstrapData
  | .other format =>
    Body.call (onStatus (setTerminalError .invalidBootstrapData
      ("unsupported bootstrap format: " ++ format)))

def reconcileAdditionalDisk (rc : ReconcileCtx) (disk : AdditionalDiskSpec) : StepBody Unit := do
  let volName := rc.machineScope.additionalDiskVolumeName disk
  Body.modify fun st => { st with additionalDiskVolumes := st.additionalDiskVolumes ++ [volName] }
  let found ← callOrHandle rc (.volumeExists disk.storagePool volName) "checking additional disk"
  (if found then pure ()
  else callOrHandle rc (.createVolume disk.storagePool volName disk.size) "creating additional disk")
  let diskPath ← callOrHandle rc (.getVolumePath disk.storagePool volName)
    "getting additional disk path"
  Body.modify fun st =>
    { st with additionalDiskParams := st.additionalDiskParams ++ [⟨diskPath, disk.bus⟩] }

def reconcileAdditionalDisks (rc : ReconcileCtx) : StepFn :=
  stepFn (eachInOrder (reconcileAdditionalDisk rc) rc.spec.additionalDisks)

-- An error of either call is handled under the one operation name of the caller.
def ensureRemoteArtifact (rc : ReconcileCtx) (remotePath : String) (data : Bytes)
    (operation : String) : StepBody Unit := do
  let found ← callOrHandle rc (.remoteFileExists remotePath) operation
  if found then pure () else callOrHandle rc (.writeRemoteFile remotePath data) operation

def kernelPath (deps : Deps) (ba : BootArtifactsSpec) (files : BootFiles) : String :=
  deps.pathJoin [trimRight ba.hostPath '/', files.kernelSHA256, "vmlinuz"]

def initrdPath (deps : Deps) (ba : BootArtifactsSpec) (files : BootFiles) : String :=
  deps.pathJoin [trimRight ba.hostPath '/', files.initramfsSHA256, "initramfs.img"]

def stageBootArtifacts (deps : Deps) (rc : ReconcileCtx) (ba : BootArtifactsSpec) :
    StepBody Unit := do
  let creds ← orReturn "resolving boot artifacts credentials"
    (← Body.lift (resolveBootArtifactsCredentials rc.libvirtCluster ba.source))
  let files ← orReturn "resolving boot artifacts"
    (← Body.lift (resolveCachedArtifacts deps ba.source creds))
  ensureRemoteArtifact rc (kernelPath deps ba files) files.kernelBytes "staging boot kernel"
  ensureRemoteArtifact rc (initrdPath deps ba files) files.initramfsBytes "staging boot initramfs"
  Body.modify fun st =>
    { st with
      kernelPath := kernelPath deps ba files
      initrdPath := initrdPath deps ba files
      kernelCmdline := ba.kernelArgs }

def reconcileBootArtifacts (deps : Deps) (rc : ReconcileCtx) : StepFn :=
  match rc.libvirtCluster.bootArtifacts with
  | none => fun st => .done (none, st)
  | some ba =>
    if deps.bootArtifactsResolver then stepFn (stageBootArtifacts deps rc ba)
    else fun st => .done (some (.text "bootArtifacts requested but no resolver is wired"), st)

def memoryMBToKBMultiplier : Int := 1024

def domainParams (deps : Deps) (rc : ReconcileCtx) (st : RunState) (rootDiskPath : String) :
    DomainXMLParams :=
  { name := rc.domainName
    vcpus := rc.resolvedVCPUs
    memoryKB := rc.resolvedMemoryMB * memoryMBToKBMultiplier
    machine := rc.spec.domain.machine
    firmware := rc.spec.domain.firmware.text
    firmwarePath := rc.libvirtHost.firmwarePath
    nvramPath := rc.nvramPath deps
    nvramTemplate := rc.libvirtHost.nvramTemplatePath
    rootDiskPath := rootDiskPath
    rootDiskBus := rc.spec.rootDisk.bus
    additionalDisks := st.additionalDiskParams
    networkType := rc.spec.network.type.text
    networkName := rc.spec.network.name
    networkModel := rc.spec.network.model
    macAddress := rc.spec.network.macAddress
    kernelPath := st.kernelPath
    initrdPath := st.initrdPath
    kernelCmdline := st.kernelCmdline }

-- reconcileDomain returns a domain info, a nil info after a terminal failure, or an error.
abbrev DomainBody (α : Type) := Body signature RunState (Except GoError (Option DomainInfo)) α

-- handleLibvirtError in reconcileDomain: `return nil, r.handleLibvirtError(...)`.
def domainCall (rc : ReconcileCtx) (call : ClientCall) (operation : String) :
    DomainBody call.Result := do
  match ← issue (.client rc.hostKey call) with
  | .ok value => pure value
  | .error err =>
    if err.isTerminal then do
      Body.call (onStatus (setTerminalError .specMismatch (terminalMessage operation err)))
      Body.leave (.ok none)
    else Body.leave (.error (.wrap ("error during " ++ operation) err))

def bootstrapSource (rc : ReconcileCtx) (storagePool : String) (params : DomainXMLParams) :
    DomainBody DomainXMLParams :=
  match rc.spec.bootstrapFormat with
  | .ignition => pure { params with ignitionPath := rc.ignitionFilePath }
  | .cloudInit => do
      let isoPath ← domainCall rc (.getVolumePath storagePool rc.bootstrapISO)
        "getting cloud-init ISO path"
      pure { params with bootstrapISOPath := isoPath }
  | .other _ => pure params

def defineFrom (deps : Deps) (rc : ReconcileCtx) (params : DomainXMLParams) : DomainBody Unit :=
  match deps.marshalError (domainDocument params) with
  | some err => do
      Body.call (onStatus (setTerminalError .specMismatch
        ("failed to generate domain XML: " ++ err.message)))
      Body.leave (.ok none)
  | none => do
      let _ ← domainCall rc (.defineDomain (domainDocument params)) "defining domain"
      pure ()

def defineDomain (deps : Deps) (rc : ReconcileCtx) : DomainBody Unit := do
  let st ← Body.get
  let rootDiskPath ← domainCall rc (.getVolumePath st.storagePool rc.rootDiskVolume)
    "getting root disk path"
  let params ← bootstrapSource rc st.storagePool (domainParams deps rc st rootDiskPath)
  defineFrom deps rc params

def startDomainIfStopped (rc : ReconcileCtx) : DomainBody DomainInfo := do
  let domainInfo ← domainCall rc (.getDomain rc.domainName) "getting domain info"
  if domainInfo.state = "running" then pure domainInfo
  else do
    domainCall rc (.startDomain rc.domainName) "starting domain"
    domainCall rc (.getDomain rc.domainName) "getting domain info after start"

def reconcileDomain (deps : Deps) (rc : ReconcileCtx) :
    Fn signature RunState (Except GoError (Option DomainInfo)) := Body.run do
  let found ← domainCall rc (.domainExists rc.domainName) "checking domain"
  (if found then pure () else defineDomain deps rc)
  let domainInfo ← startDomainIfStopped rc
  pure (.ok (some domainInfo))

end Caplv.Controller

import Caplv.Controller.Normal
import Caplv.Libvirt.Growth
import Caplv.Program.Stage

namespace Caplv.Controller

open Text Api Libvirt Scope Program

-- What a program that asks nothing of the host computes from the fixed answers.
def input {α : Type} (answers : (op : Op) → Reply op) (prog : Prog signature α) : α :=
  (run (fun (_ : Unit) op => (answers op, ())) prog ()).1

-- The work of reconcileNormal on a host where every call works as libvirt does, step by step:
-- the states it goes through from, and what it leaves there. Of the variables a run hands
-- from step to step the status and the provider ID play no part.
abbrev HostStage := Stage RunState Host

section Definitions

variable (newUUID : DomainXML → String) (answers : (op : Op) → Reply op) (deps : Deps)
  (rc : ReconcileCtx)

def poolsStage : HostStage :=
  .check fun h => ∀ pool ∈ requiredPools rc, (h (.pool pool.name)).isSome = true

-- The volume a cached image becomes once it is uploaded.
def cachedImage (entry : CacheEntry) : Option Volume :=
  match answers (.qcow2VirtualSize entry.path), answers (.openFile entry.path) with
  | .ok virtualSize, .ok content => some (.image content virtualSize)
  | _, _ => none

def fetchedImage (image : BaseImageSpec) : Option Volume :=
  match input answers (resolveBaseImageCredentials rc.libvirtCluster image.source) with
  | .error _ => none
  | .ok creds =>
    match answers (.imageGet image.source creds (baseImageExpectedSHA256 image.source)) with
    | .error _ => none
    | .ok entry => cachedImage answers entry

def provide (h : Host) (pool name : String) : Option Volume → Host
  | some content => h.put (.volume pool name) content
  | none => h

def volumeStage (pool name : String) (content : Option Volume) : HostStage :=
  .once (fun _ h => h.seen pool name = some true ∨ (h.Usable pool ∧ content.isSome = true))
    (fun vars _ => vars) fun _ h => provide h pool name content

def imageStage : HostStage :=
  match rc.libvirtCluster.baseImage with
  | none => .skip
  | some image =>
    if deps.baseImageCache then
      volumeStage image.pool image.volumeName (fetchedImage answers rc image)
    else .stop

def Stale (h : Host) (name : String) : Prop :=
  ∃ p, h (.pool name) = some p ∧ p.active = false ∧ h (.mount p.path) = none

def ensuredPool (h : Host) (name path : String) : Host :=
  match h (.pool name) with
  | none => (h.createTmpfsPool name path).2
  | some p =>
    if p.active then h
    else
      match h (.mount p.path) with
      | some _ => h.set (.pool name) { p with active := true }
      | none => ((h.destroyPool name).2.createTmpfsPool name path).2

def tmpfsStage (name path : String) : HostStage where
  ok _ _ := True
  next vars h := (vars, ensuredPool h name path)
  path _ h mid := mid = h ∨ (Stale h name ∧ mid = (h.destroyPool name).2) ∨
    mid = ensuredPool h name path
  path_first _ _ _ := .inl rfl
  path_next _ _ _ := .inr (.inr rfl)

def ephemeralStage : HostStage :=
  if rc.spec.rootDisk.ephemeralPool then
    (tmpfsStage rc.machineScope.ephemeralPoolName rc.machineScope.ephemeralPoolPath).andThen
      (.assign fun vars => { vars with storagePool := rc.machineScope.ephemeralPoolName })
  else .skip

-- A missing base image is recorded and the root disk left out, and so is one whose clone is
-- already there.
def createdRoot (pool : String) (h : Host) : Host :=
  match rc.spec.rootDisk.cloneStrategy with
  | .fullClone =>
    provide h rc.baseImagePool rc.rootDiskVolume (h (.volume rc.baseImagePool rc.spec.rootDisk.baseImage))
  | .copyOnWrite =>
    h.put (.volume pool rc.rootDiskVolume)
      (.overlay (h.pathOf rc.baseImagePool rc.spec.rootDisk.baseImage) rc.spec.rootDisk.size)

def ensuredRoot (pool : String) (h : Host) : Host :=
  if h.seen pool rc.rootDiskVolume = some false ∧
      h.seen rc.baseImagePool rc.spec.rootDisk.baseImage = some true then
    createdRoot rc pool h
  else h

def rootStage : HostStage :=
  .once
    (fun vars h => h.seen vars.storagePool rc.rootDiskVolume = some true ∨
      (h.seen vars.storagePool rc.rootDiskVolume = some false ∧
        (h.seen rc.baseImagePool rc.spec.rootDisk.baseImage = some false ∨
          (h.seen rc.baseImagePool rc.spec.rootDisk.baseImage = some true ∧
            (rc.spec.rootDisk.cloneStrategy = .fullClone ∨ h.Usable vars.storagePool)))))
    (fun vars _ => vars) fun vars h => ensuredRoot rc vars.storagePool h

def artifactPool : String :=
  if rc.spec.rootDisk.ephemeralPool then rc.machineScope.ephemeralPoolName
  else rc.spec.rootDisk.storagePool

def builtISO (bootstrapData : Bytes) : Option Volume :=
  match answers (.buildCloudInitISO bootstrapData rc.domainName rc.domainName) with
  | .ok isoData => some (.bytes isoData)
  | .error _ => none

def ignitionStage (path : String) (config : Bytes) : HostStage :=
  .once (fun _ _ => True) (fun vars _ => vars) fun _ h => h.set (.file path) config

-- An ISO that cannot be built is recorded and left out.
def isoStage (pool name : String) (iso : Option Volume) : HostStage :=
  .once
    (fun _ h => h.seen pool name = some true ∨
      (h.seen pool name = some false ∧ (iso = none ∨ h.Usable pool)))
    (fun vars _ => vars) fun _ h => provide h pool name iso

def bootstrapStage : HostStage :=
  .ofResult
    (fun bootstrapData =>
      match rc.spec.bootstrapFormat with
      | .ignition => ignitionStage rc.ignitionFilePath (ignitionConfig deps rc bootstrapData)
      | .cloudInit => isoStage (artifactPool rc) rc.bootstrapISO (builtISO answers rc bootstrapData)
      | .other _ => .skip)
    (input answers (getBootstrapData rc.machine))

def diskStage (disk : AdditionalDiskSpec) : HostStage :=
  .once (fun _ h => h.Usable disk.storagePool)
    (fun vars h => { vars with
      additionalDiskVolumes := vars.additionalDiskVolumes ++ [rc.machineScope.additionalDiskVolumeName disk]
      additionalDiskParams := vars.additionalDiskParams ++
        [⟨h.pathOf disk.storagePool (rc.machineScope.additionalDiskVolumeName disk), disk.bus⟩] })
    fun _ h => h.put (.volume disk.storagePool (rc.machineScope.additionalDiskVolumeName disk))
      (.blank disk.size)

def disksStage : HostStage := .each (diskStage rc) rc.spec.additionalDisks

def fileStage (path : String) (data : Bytes) : HostStage :=
  .once (fun _ _ => True) (fun vars _ => vars) fun _ h => h.put (.file path) data

def bootFilesStage (ba : BootArtifactsSpec) (files : BootFiles) : HostStage :=
  (fileStage (kernelPath deps ba files) files.kernelBytes).andThen
    ((fileStage (initrdPath deps ba files) files.initramfsBytes).andThen
      (.assign fun vars => { vars with
        kernelPath := kernelPath deps ba files
        initrdPath := initrdPath deps ba files
        kernelCmdline := ba.kernelArgs }))

def bootStage : HostStage :=
  match rc.libvirtCluster.bootArtifacts with
  | none => .skip
  | some ba =>
    if deps.bootArtifactsResolver then
      .ofResult
        (fun creds => .ofResult (bootFilesStage deps ba)
          (input answers (resolveCachedArtifacts deps ba.source creds)))
        (input answers (resolveBootArtifactsCredentials rc.libvirtCluster ba.source))
    else .stop

def definition (vars : RunState) (h : Host) : DomainXML :=
  let params := domainParams deps rc vars (h.pathOf vars.storagePool rc.rootDiskVolume)
  domainDocument
    (match rc.spec.bootstrapFormat with
      | .ignition => { params with ignitionPath := rc.ignitionFilePath }
      | .cloudInit => { params with bootstrapISOPath := h.pathOf vars.storagePool rc.bootstrapISO }
      | .other _ => params)

def definedDomain (vars : RunState) (h : Host) : Host :=
  h.put (.domain rc.domainName)
    ⟨definition deps rc vars h, newUUID (definition deps rc vars h), false⟩

def startedDomain (h : Host) : Host :=
  match h (.domain rc.domainName) with
  | some d => h.set (.domain rc.domainName) { d with running := true }
  | none => h

def domainStage : HostStage where
  ok vars h := (h (.domain rc.domainName)).isSome = true ∨
    (h.seen vars.storagePool rc.rootDiskVolume = some true ∧
      (rc.spec.bootstrapFormat = .cloudInit → h.seen vars.storagePool rc.bootstrapISO = some true) ∧
      deps.marshalError (definition deps rc vars h) = none)
  next vars h := (vars, startedDomain rc (definedDomain newUUID deps rc vars h))
  path vars h mid := mid = h ∨ mid = definedDomain newUUID deps rc vars h ∨
    mid = startedDomain rc (definedDomain newUUID deps rc vars h)
  path_first _ _ _ := .inl rfl
  path_next _ _ _ := .inr (.inr rfl)

def artifactsStage : HostStage :=
  (imageStage answers deps rc).andThen (((ephemeralStage rc).andThen (rootStage rc)).andThen
    ((bootstrapStage answers deps rc).andThen ((disksStage rc).andThen (bootStage answers deps rc))))

def provisionStage : HostStage :=
  (poolsStage rc).andThen ((artifactsStage answers deps rc).andThen (domainStage newUUID deps rc))

end Definitions

theorem provide_grows {pools : String → Prop} {pool name : String} (content : Option Volume) (h : Host) :
    Host.Grows pools h (provide h pool name content) := by
  cases content with
  | none => exact .refl h
  | some content => exact .put_volume

theorem provide_of_seen {pool name : String} {content : Option Volume} {h : Host}
    (hseen : h.seen pool name = some true) : provide h pool name content = h := by
  cases content with
  | none => rfl
  | some content => exact Host.put_of_isSome (Host.seen_eq_true_iff.mp hseen).2

end Caplv.Controller

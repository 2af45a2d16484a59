import Caplv.Libvirt.Client
import Caplv.Scope.Machine
import Caplv.Program.Body

namespace Caplv.Controller

open Text Api Libvirt Scope Program

-- The host work of reconcileNormal, in the order of its step comments.
inductive Phase where
  | baseImage
  | rootDisk
  | bootstrapArtifacts
  | additionalDisks
  | bootArtifacts
  | domain
deriving DecidableEq, Repr

structure Credentials where
  username : Bytes := []
  password : Bytes := []
  accessKeyID : Bytes := []
  secretAccessKey : Bytes := []
  sessionToken : Bytes := []
deriving DecidableEq, Repr

structure CacheEntry where
  path : String
  sha256 : String
deriving DecidableEq, Repr

structure BootFiles where
  kernelBytes : Bytes
  kernelSHA256 : String
  initramfsBytes : Bytes
  initramfsSHA256 : String
deriving DecidableEq, Repr

-- The deferred patch is two requests, one for metadata and spec and one for the
-- status; either may fail, which is only logged.
structure PatchOutcome where
  metadata : Bool
  status : Bool
deriving DecidableEq, Repr

-- Everything a reconcile does outside its own memory. `recordFailure` and `enter`
-- mark in the trace where a terminal failure is written to the object in memory and
-- where reconcileNormal starts a phase of its host work; they have no effect.
inductive Op where
  | getLibvirtMachine (key : ObjectKey)
  | newPatchHelper (key : ObjectKey)
  | getOwnerMachine (key : ObjectKey)
  | getCluster (key : ObjectKey)
  | getLibvirtCluster (key : ObjectKey)
  | getLibvirtHost (key : ObjectKey)
  | getSecret (key : ObjectKey)
  | getNode (name : String)
  | patchNode (name : String) (node : Node)
  | deleteNode (name : String)
  | dialSSH (host : ObjectKey)
  | client (host : ObjectKey) (call : ClientCall)
  | lookupDockerConfigAuth (raw : Bytes) (reference : String)
  | imageGet (source : BaseImageSource) (creds : Option Credentials) (sha256 : String)
  | qcow2VirtualSize (path : String)
  | openFile (path : String)
  | lockUpload (key : String)
  | unlockUpload (key : String)
  | loadArtifacts (key : String)
  | storeArtifacts (key : String) (files : BootFiles)
  | resolveArtifacts (source : BootArtifactsSource) (creds : Option Credentials)
  | buildCloudInitISO (userData : Bytes) (instanceID hostname : String)
  | patchMachine (before after : LibvirtMachine)
  | recordFailure (reason : Reason) (message : String)
  | enter (phase : Phase)

@[reducible] def Reply : Op → Type
  | .getLibvirtMachine _ => Except ApiError LibvirtMachine
  | .newPatchHelper _ => Except ApiError Unit
  | .getOwnerMachine _ => Except ApiError (Option Machine)
  | .getCluster _ => Except ApiError Cluster
  | .getLibvirtCluster _ => Except ApiError LibvirtCluster
  | .getLibvirtHost _ => Except ApiError LibvirtHost
  | .getSecret _ => Except ApiError Secret
  | .getNode _ => Except ApiError Node
  | .patchNode _ _ => Except ApiError Unit
  | .deleteNode _ => Except ApiError Unit
  | .dialSSH _ => Except GoError Unit
  | .client _ call => Except GoError call.Result
  | .lookupDockerConfigAuth _ _ => Except GoError (Bytes × Bytes)
  | .imageGet _ _ _ => Except GoError CacheEntry
  | .qcow2VirtualSize _ => Except GoError Int
  | .openFile _ => Except GoError Bytes
  | .lockUpload _ => Unit
  | .unlockUpload _ => Unit
  | .loadArtifacts _ => Option BootFiles
  | .storeArtifacts _ _ => Unit
  | .resolveArtifacts _ _ => Except GoError BootFiles
  | .buildCloudInitISO _ _ _ => Except GoError Bytes
  | .patchMachine _ _ => PatchOutcome
  | .recordFailure _ _ => Unit
  | .enter _ => Unit

abbrev signature : Signature := ⟨Op, Reply⟩

abbrev ask (op : Op) : Prog signature (Reply op) := @Prog.perform signature op

abbrev issue {σ ρ : Type} (op : Op) : Body signature σ ρ (Reply op) := @Body.perform signature σ ρ op

structure NetworkConfig where
  addresses : List String
  gateway : String
  dnsServers : List String := []
  dnsSearch : List String := []
deriving DecidableEq, Repr

-- The pure functions of other packages the reconciler calls, and which optional
-- collaborators it was built with.
structure Deps where
  -- url.Parse(uri).Path
  urlPath : String → Except GoError String
  injectMachineMetadata : Bytes → String → String → Except GoError Bytes
  injectStaticNetwork : Bytes → NetworkConfig → Except GoError Bytes
  -- the error of xml.MarshalIndent on the document, if any
  marshalError : DomainXML → Option GoError
  sha256Hex : String → String
  pathJoin : List String → String
  baseImageCache : Bool
  bootArtifactsResolver : Bool

-- ctrl.Result; zero seconds mean no requeue.
structure Result where
  requeueAfter : Nat := 0
deriving DecidableEq, Repr

abbrev Return := Result × Option GoError

inductive ConnURI where
  | system
  | session
deriving DecidableEq, Repr

def localConnectionURI (deps : Deps) (hostURI : String) : Except GoError ConnURI :=
  match deps.urlPath hostURI with
  | .error err => .error (.wrap ("invalid libvirt URI " ++ quote hostURI) err)
  | .ok path =>
    if path = "" ∨ path = "/" ∨ path = "/system" then .ok .system
    else if path = "/session" then .ok .session
    else .error (.text ("unsupported libvirt connection path " ++ quote path ++ " in URI " ++
      quote hostURI ++ " (expected /system or /session)"))

def LibvirtHost.key (host : LibvirtHost) : ObjectKey := ⟨host.namespaceName, host.name⟩

def hostNotReadyRequeueInterval : Nat := 30
def bootstrapNotReadyRequeueInterval : Nat := 10
def cleanupStalledRequeueInterval : Nat := 60
def nodeJoinRequeueInterval : Nat := 15

-- What reconcileNormal reads and never changes. The status in it is the one fetched.
structure ReconcileCtx where
  libvirtMachine : LibvirtMachine
  machine : Machine
  cluster : Cluster
  libvirtCluster : LibvirtCluster
  libvirtHost : LibvirtHost
  resolvedVCPUs : Int
  resolvedMemoryMB : Int

namespace ReconcileCtx

variable (rc : ReconcileCtx)

def machineScope : MachineScope := ⟨rc.cluster, rc.libvirtMachine, rc.libvirtHost⟩

def spec : LibvirtMachineSpec := rc.libvirtMachine.spec

def hostKey : ObjectKey := LibvirtHost.key rc.libvirtHost

def domainName : String := rc.machineScope.domainName

def rootDiskVolume : String := rc.machineScope.rootDiskVolumeName

def bootstrapISO : String := rc.machineScope.bootstrapISOName

def ignitionFilePath : String := rc.machineScope.ignitionFilePath

def baseImagePool : String :=
  if rc.spec.rootDisk.baseImagePool = "" then rc.spec.rootDisk.storagePool
  else rc.spec.rootDisk.baseImagePool

def nvramPath (deps : Deps) : String :=
  match localConnectionURI deps rc.libvirtHost.uri with
  | .ok .session => ""
  | _ => rc.machineScope.nvramPath

end ReconcileCtx

-- What the steps of reconcileNormal change: the status and provider ID of the object
-- in memory and the fields of reconcileCtx that are filled in on the way.
structure RunState where
  status : LibvirtMachineStatus
  providerID : Option String
  storagePool : String
  additionalDiskVolumes : List String := []
  additionalDiskParams : List DiskParam := []
  kernelPath : String := ""
  initrdPath : String := ""
  kernelCmdline : String := ""

abbrev StatusFn (β : Type) := Fn signature LibvirtMachineStatus β

abbrev StepFn := Fn signature RunState (Option GoError)

abbrev StepBody (α : Type) := Body signature RunState (Option GoError) α

def onStatus {β : Type} (fn : StatusFn β) : Fn signature RunState β :=
  fun st => fn st.status >>= fun out => .done (out.1, { st with status := out.2 })

end Caplv.Controller

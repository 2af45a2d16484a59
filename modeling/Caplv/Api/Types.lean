import Caplv.Api.Meta

namespace Caplv.Api

open Text

inductive BootstrapFormat where
  | ignition
  | cloudInit
  | other (format : String)
deriving DecidableEq, Repr

inductive NetworkType where
  | bridge
  | network
deriving DecidableEq, Repr

def NetworkType.text : NetworkType → String
  | .bridge => "bridge"
  | .network => "network"

inductive CloneStrategy where
  | copyOnWrite
  | fullClone
deriving DecidableEq, Repr

inductive Firmware where
  | uefi
  | bios
deriving DecidableEq, Repr

def Firmware.text : Firmware → String
  | .uefi => "uefi"
  | .bios => "bios"

structure DomainSpec where
  vcpus : Int
  memoryMB : Int
  machine : String
  firmware : Firmware
deriving DecidableEq, Repr

-- Sizes are the values of the resource quantities, in bytes.
structure RootDiskSpec where
  size : Int
  storagePool : String
  baseImage : String
  baseImagePool : String
  ephemeralPool : Bool
  ephemeralPoolSize : String
  bus : String
  cloneStrategy : CloneStrategy
deriving DecidableEq, Repr

structure AdditionalDiskSpec where
  name : String
  size : Int
  storagePool : String
  bus : String
deriving DecidableEq, Repr

structure DNSSpec where
  nameservers : List String
  searchDomains : List String
deriving DecidableEq, Repr

structure NetworkSpec where
  type : NetworkType
  name : String
  model : String
  addresses : List String
  gateway : String
  dns : Option DNSSpec
  macAddress : String
deriving DecidableEq, Repr

structure LibvirtMachineSpec where
  hostRef : String
  domain : DomainSpec
  rootDisk : RootDiskSpec
  additionalDisks : List AdditionalDiskSpec
  network : NetworkSpec
  bootstrapFormat : BootstrapFormat
  providerID : Option String
  nodeLabels : StringMap
  nodeAnnotations : StringMap
deriving DecidableEq, Repr

structure ManagedArtifacts where
  domainName : String
  rootDiskVolume : String
  bootstrapISO : String
  ignitionFile : String
  nvramPath : String
  ephemeralPoolName : String
  additionalDiskVolumes : List String
deriving DecidableEq, Repr

structure MachineAddress where
  address : String
deriving DecidableEq, Repr

structure LibvirtMachineStatus where
  ready : Bool
  addresses : List MachineAddress
  domainUUID : String
  domainState : String
  managedArtifacts : Option ManagedArtifacts
  failureReason : Option Reason
  failureMessage : Option String
  conditions : List Condition
deriving DecidableEq, Repr

namespace LibvirtMachineStatus

def setCondition (status : LibvirtMachineStatus) (generation : Int) (type : ConditionType)
    (value : Bool) (reason : Reason) (message : String) : LibvirtMachineStatus :=
  { status with
    conditions := setStatusCondition status.conditions ⟨type, value, reason, message, generation⟩ }

def removeCondition (status : LibvirtMachineStatus) (type : ConditionType) : LibvirtMachineStatus :=
  { status with conditions := removeStatusCondition status.conditions type }

-- What setTerminalError and a terminal handleLibvirtError leave on the status.
def recordFailure (status : LibvirtMachineStatus) (reason : Reason) (message : String) :
    LibvirtMachineStatus :=
  { status with failureReason := some reason, failureMessage := some message, ready := false }

end LibvirtMachineStatus

structure LibvirtMachine where
  namespaceName : String
  name : String
  generation : Int
  labels : StringMap
  annotations : StringMap
  finalizers : List String
  deletionTimestamp : Bool
  spec : LibvirtMachineSpec
  status : LibvirtMachineStatus
deriving DecidableEq, Repr

namespace LibvirtMachine

def key (machine : LibvirtMachine) : ObjectKey := ⟨machine.namespaceName, machine.name⟩

-- controllerutil.ContainsFinalizer, AddFinalizer and RemoveFinalizer at MachineFinalizer.
def containsFinalizer (machine : LibvirtMachine) : Bool := machine.finalizers.contains machineFinalizer

def addFinalizer (machine : LibvirtMachine) : LibvirtMachine :=
  if machine.containsFinalizer then machine
  else { machine with finalizers := machine.finalizers ++ [machineFinalizer] }

def removeFinalizer (machine : LibvirtMachine) : LibvirtMachine :=
  { machine with finalizers := machine.finalizers.filter fun f => f ≠ machineFinalizer }

def setCondition (machine : LibvirtMachine) (type : ConditionType) (value : Bool) (reason : Reason)
    (message : String) : LibvirtMachine :=
  { machine with status := machine.status.setCondition machine.generation type value reason message }

theorem containsFinalizer_iff (machine : LibvirtMachine) :
    machine.containsFinalizer = true ↔ machineFinalizer ∈ machine.finalizers := by
  simp [containsFinalizer]

@[simp] theorem addFinalizer_spec (machine : LibvirtMachine) :
    machine.addFinalizer.spec = machine.spec := by
  rw [addFinalizer]
  split <;> rfl

@[simp] theorem addFinalizer_status (machine : LibvirtMachine) :
    machine.addFinalizer.status = machine.status := by
  rw [addFinalizer]
  split <;> rfl

theorem addFinalizer_containsFinalizer (machine : LibvirtMachine) :
    machine.addFinalizer.containsFinalizer = true := by
  rw [addFinalizer]
  split
  · assumption
  · simp [containsFinalizer_iff]

theorem removeFinalizer_containsFinalizer (machine : LibvirtMachine) :
    machine.removeFinalizer.containsFinalizer = false := by
  rw [← Bool.not_eq_true, containsFinalizer_iff]
  simp [removeFinalizer]

end LibvirtMachine

structure SecretReference where
  name : String
  namespaceName : String
deriving DecidableEq, Repr

structure HostCapacity where
  availableVCPUs : Int
  availableMemoryMB : Int
deriving DecidableEq, Repr

structure LibvirtHost where
  namespaceName : String
  name : String
  uri : String
  secretRef : Option SecretReference
  firmwarePath : String
  nvramTemplatePath : String
  ready : Bool
  capacity : Option HostCapacity
deriving DecidableEq, Repr

inductive SourceType where
  | https
  | oci
  | s3
deriving DecidableEq, Repr

structure HTTPSBaseImageSource where
  url : String
  sha256 : String
  credentialsSecretRef : Option SecretReference
  insecureSkipTLSVerify : Bool
deriving DecidableEq, Repr

structure OCIBaseImageSource where
  reference : String
  blobTitle : String
  plainHTTP : Bool
  insecureSkipTLSVerify : Bool
  credentialsSecretRef : Option SecretReference
  sha256 : String
deriving DecidableEq, Repr

structure S3BaseImageSource where
  endpoint : String
  region : String
  bucket : String
  key : String
  usePathStyle : Bool
  insecure : Bool
  insecureSkipTLSVerify : Bool
  credentialsSecretRef : Option SecretReference
  sha256 : String
deriving DecidableEq, Repr

structure BaseImageSource where
  type : SourceType
  https : Option HTTPSBaseImageSource
  oci : Option OCIBaseImageSource
  s3 : Option S3BaseImageSource
deriving DecidableEq, Repr

structure BaseImageSpec where
  pool : String
  volumeName : String
  source : BaseImageSource
deriving DecidableEq, Repr

structure HTTPSBootArtifactsSource where
  kernelURL : String
  initramfsURL : String
  kernelSHA256 : String
  initramfsSHA256 : String
deriving DecidableEq, Repr

structure OCIBootArtifactsSource where
  reference : String
  kernelLayerTitle : String
  initramfsLayerTitle : String
  plainHTTP : Bool
  insecureSkipTLSVerify : Bool
  credentialsSecretRef : Option SecretReference
  kernelSHA256 : String
  initramfsSHA256 : String
deriving DecidableEq, Repr

structure S3BootArtifactsSource where
  endpoint : String
  region : String
  bucket : String
  kernelKey : String
  initramfsKey : String
  usePathStyle : Bool
  insecure : Bool
  insecureSkipTLSVerify : Bool
  credentialsSecretRef : Option SecretReference
  kernelSHA256 : String
  initramfsSHA256 : String
deriving DecidableEq, Repr

structure BootArtifactsSource where
  type : SourceType
  https : Option HTTPSBootArtifactsSource
  oci : Option OCIBootArtifactsSource
  s3 : Option S3BootArtifactsSource
deriving DecidableEq, Repr

structure BootArtifactsSpec where
  hostPath : String
  kernelArgs : String
  source : BootArtifactsSource
deriving DecidableEq, Repr

structure LibvirtCluster where
  namespaceName : String
  name : String
  bootArtifacts : Option BootArtifactsSpec
  baseImage : Option BaseImageSpec
deriving DecidableEq, Repr

structure InfrastructureRef where
  kind : String
  namespaceName : String
  name : String
deriving DecidableEq, Repr

-- The Cluster API objects, with the fields the controllers read.
structure Machine where
  namespaceName : String
  name : String
  labels : StringMap
  infrastructureRef : InfrastructureRef
  bootstrapDataSecretName : Option String
deriving DecidableEq, Repr

structure Cluster where
  namespaceName : String
  name : String
  paused : Bool
  infrastructureRef : Option InfrastructureRef
deriving DecidableEq, Repr

structure Node where
  labels : StringMap
  annotations : StringMap
deriving DecidableEq, Repr

structure Secret where
  data : List (String × Bytes)
deriving DecidableEq, Repr

def Secret.get? (secret : Secret) (key : String) : Option Bytes := secret.data.lookup key

def sampleMachine : LibvirtMachine :=
  { namespaceName := "ns"
    name := "m"
    generation := 1
    labels := [(clusterNameLabel, "c")]
    annotations := []
    finalizers := []
    deletionTimestamp := false
    spec :=
      { hostRef := "h"
        domain := ⟨2, 2048, "q35", .uefi⟩
        rootDisk := ⟨1073741824, "default", "base", "", false, "", "virtio", .copyOnWrite⟩
        additionalDisks := []
        network := ⟨.bridge, "br0", "virtio", ["10.0.0.1/24"], "", none, ""⟩
        bootstrapFormat := .ignition
        providerID := none
        nodeLabels := []
        nodeAnnotations := [] }
    status := ⟨false, [], "", "", none, none, none, []⟩ }

def sampleOwner : Machine :=
  ⟨"ns", "m", [(clusterNameLabel, "c")], ⟨"LibvirtMachine", "ns", "m"⟩, some "bootstrap"⟩

end Caplv.Api

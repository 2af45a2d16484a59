import Caplv.Api.Types

namespace Caplv.Scope

open Text Api

-- <namespace>-<clusterName>-<machineName>
def baseName (namespaceName clusterName machineName : String) : String :=
  namespaceName ++ "-" ++ clusterName ++ "-" ++ machineName

-- The objects the artifact names of a machine are computed from.
structure MachineScope where
  cluster : Cluster
  libvirtMachine : LibvirtMachine
  libvirtHost : LibvirtHost

namespace MachineScope

variable (scope : MachineScope)

def artifactBaseName : String :=
  baseName scope.libvirtMachine.namespaceName scope.cluster.name scope.libvirtMachine.name

def domainName : String := scope.artifactBaseName

def rootDiskVolumeName : String := scope.artifactBaseName ++ "-root.qcow2"

def bootstrapISOName : String := scope.artifactBaseName ++ "-bootstrap.iso"

def nvramPath : String := "/var/lib/libvirt/qemu/nvram/" ++ scope.artifactBaseName ++ "_VARS.fd"

def providerID : String := "libvirt:///" ++ scope.libvirtHost.name ++ "/" ++ scope.domainName

def ignitionFilePath : String := "/run/caplv/" ++ scope.artifactBaseName ++ "/ignition.json"

def ephemeralPoolName : String := scope.artifactBaseName ++ "-pool"

def ephemeralPoolPath : String := "/run/caplv/" ++ scope.artifactBaseName

-- The volume of an additional disk, as reconcileAdditionalDisks and reconcileDelete name it.
def additionalDiskVolumeName (disk : AdditionalDiskSpec) : String :=
  scope.artifactBaseName ++ "-" ++ disk.name ++ ".qcow2"

def getAddresses : List MachineAddress :=
  scope.libvirtMachine.spec.network.addresses.map fun addr => ⟨beforeIndex addr '/'⟩

end MachineScope

end Caplv.Scope

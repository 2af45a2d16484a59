import Caplv.Libvirt.Errors
import Caplv.Libvirt.DomainXml

namespace Caplv.Libvirt

open Text

structure DomainInfo where
  name : String
  uuid : String
  state : String
deriving DecidableEq, Repr

-- The calls of the Client interface that the machine reconciler makes. A domain
-- definition stands for the text it is marshalled to.
inductive ClientCall where
  | domainExists (name : String)
  | getDomain (name : String)
  | defineDomain (xmlDef : DomainXML)
  | startDomain (name : String)
  | destroyDomain (name : String)
  | undefineDomain (name : String)
  | poolExists (name : String)
  | poolIsActive (name : String)
  | startPool (name : String)
  | createTmpfsPool (name path size : String)
  | destroyPool (name : String)
  | volumeExists (pool name : String)
  | createVolumeFromBackingStore (pool name backingPath : String) (sizeBytes : Int)
  | cloneVolume (pool sourceName targetName : String)
  | createVolume (pool name : String) (sizeBytes : Int)
  | uploadVolumeFromBytes (pool name : String) (data : Bytes)
  | uploadQcow2Volume (pool name : String) (content : Bytes) (virtualSizeBytes : Int)
  | deleteVolume (pool name : String)
  | getVolumePath (pool name : String)
  | writeRemoteFile (path : String) (data : Bytes)
  | remoteFileExists (path : String)
  | deleteRemoteFile (path : String)
deriving DecidableEq, Repr

namespace ClientCall

@[reducible] def Result : ClientCall → Type
  | .domainExists _ | .poolExists _ | .poolIsActive _ | .volumeExists _ _ | .remoteFileExists _ => Bool
  | .getDomain _ | .defineDomain _ => DomainInfo
  | .getVolumePath _ _ => String
  | _ => Unit

-- The calls that put an artifact on the host or bring it to life.
def createsArtifact : ClientCall → Bool
  | .uploadQcow2Volume .. | .createTmpfsPool .. | .createVolumeFromBackingStore ..
  | .cloneVolume .. | .createVolume .. | .uploadVolumeFromBytes .. | .writeRemoteFile ..
  | .defineDomain _ | .startDomain _ => true
  | _ => false

def mutatesHost : ClientCall → Bool
  | .domainExists _ | .getDomain _ | .poolExists _ | .poolIsActive _ | .volumeExists ..
  | .getVolumePath .. | .remoteFileExists _ => false
  | _ => true

end ClientCall

end Caplv.Libvirt

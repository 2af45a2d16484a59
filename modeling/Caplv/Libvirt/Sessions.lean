import Caplv.Libvirt.DomainMarshal
import Caplv.Libvirt.Remote
import Caplv.Libvirt.RemoteFiles

namespace Caplv.Libvirt

open Text Program GoString
open Caplv.Host (DomainReport virshOutput)

-- What the client uses below its calls: the clock, for the names of its temporary files, and SSH
-- sessions, each of which runs a text with some standard input.
inductive SessionOp where
  | now
  | run (text : String) (stdin : Bytes)
deriving DecidableEq

@[reducible] def SessionOp.Reply : SessionOp → Type
  | .now => Nat
  | .run _ _ => Except Failure Bytes

abbrev sessions : Signature := ⟨SessionOp, SessionOp.Reply⟩

-- A Go string where only text can stand.
def shown (s : GoString) : String :=
  String.ofList (s.map fun
    | .char c => c
    | .byte _ => Char.ofNat 0xFFFD)

def reportedInfo (report : DomainReport) : DomainInfo :=
  ⟨report.name, shown report.uuid, shown report.state⟩

def extractXMLElement (xml : GoString) (element : String) : Except Panic GoString :=
  match indexOf xml (ofString ("<" ++ element ++ ">")), indexOf xml (ofString ("</" ++ element ++ ">")) with
  | some start, some stop =>
    if start < stop then slice xml (start + element.length + 2) stop else .ok []
  | _, _ => .ok []

-- The client down to the texts of its sessions.
namespace Sessions

def session (cmd : RemoteCommand) (stdin : Bytes) : Prog sessions (Except Failure Bytes) :=
  @Prog.perform sessions (.run cmd.text stdin)

section Calls

variable (connURI : String)

def runVirsh (args : List String) : Prog sessions (Except GoError GoString) := do
  let reply ← session (.virsh connURI args) []
  .done (virshOutput args reply)

def runSSH (cmd : RemoteCommand) : Prog sessions (Except GoError Unit) := do
  match ← session cmd [] with
  | .ok _ => .done (.ok ())
  | .error failure => .done (.error (sshFailure cmd.text failure))

-- The callers that use nothing of the output.
def runQuietly (args : List String) : Prog sessions (Except GoError Unit) := do
  match ← runVirsh connURI args with
  | .ok _ => .done (.ok ())
  | .error err => .done (.error err)

def domainExists (name : String) : Prog sessions (Except GoError Bool) := do
  let result ← runVirsh connURI ["dominfo", name]
  .done (existsOrError result)

def getDomain (name : String) : Prog sessions (Except Panic (Except GoError DomainInfo)) := do
  let reply ← session (.virsh connURI ["dominfo", name]) []
  .done ((Caplv.Host.getDomain name reply).map fun result => result.map reportedInfo)

-- The session that removes a temporary file: its errors are ignored.
def removeTemp (tmpFile : String) : Prog sessions Unit := do
  let _ ← session (.removeUpload tmpFile) []
  .done ()

def defineDomain (xmlDef : String) : Prog sessions (Except Panic (Except GoError DomainInfo)) := do
  let time ← @Prog.perform sessions .now
  let tmpFile := "/tmp/caplv-domain-" ++ toString time ++ ".xml"
  match ← session (.upload tmpFile) (encode xmlDef.toList) with
  | .error failure => .done (.ok (.error (VirshClient.uploadXMLFailure failure)))
  | .ok _ => do
      match ← runVirsh connURI ["define", tmpFile] with
      | .error err => .done (.ok (.error err))
      | .ok _ => do
          removeTemp tmpFile
          match extractDomainNameFromXML xmlDef with
          | .error panic => .done (.error panic)
          | .ok name => getDomain connURI name

def startDomain (name : String) : Prog sessions (Except GoError Unit) :=
  runQuietly connURI ["start", name]

-- A missing target is no error of a deletion.
def runDeletion (args : List String) : Prog sessions (Except GoError Unit) := do
  let result ← runQuietly connURI args
  .done (ignoreNotFound result)

def destroyDomain (name : String) : Prog sessions (Except GoError Unit) :=
  runDeletion connURI ["destroy", name]

def undefineDomain (name : String) : Prog sessions (Except GoError Unit) :=
  runDeletion connURI ["undefine", name, "--nvram"]

def poolExists (name : String) : Prog sessions (Except GoError Bool) := do
  let result ← runVirsh connURI ["pool-info", name]
  .done (existsOrError result)

def poolIsActive (name : String) : Prog sessions (Except Panic (Except GoError Bool)) := do
  let reply ← session (.virsh connURI ["pool-info", name]) []
  .done (Caplv.Host.poolIsActive name reply)

def startPool (name : String) : Prog sessions (Except GoError Unit) :=
  runQuietly connURI ["pool-start", name]

def createTmpfsPool (name path size : String) : Prog sessions (Except GoError Unit) := do
  match ← runSSH (.mkdir path) with
  | .error err => .done (.error (.wrap "mkdir failed" err))
  | .ok _ => do
      match ← runSSH (.mount path size) with
      | .error err => .done (.error (.wrap "tmpfs mount failed" err))
      | .ok _ => do
          match ← runVirsh connURI ["pool-define-as", name, "dir", "--target", path] with
          | .error err => .done (.error (.wrap "pool-define-as failed" err))
          | .ok _ => do
              match ← runVirsh connURI ["pool-start", name] with
              | .error err => .done (.error (.wrap "pool-start failed" err))
              | .ok _ => .done (.ok ())

-- The errors after pool-dumpxml are ignored.
def destroyPool (name : String) : Prog sessions (Except Panic (Except GoError Unit)) := do
  match ← runVirsh connURI ["pool-dumpxml", name] with
  | .error err => .done (.ok (if err.isNotFound then .ok () else .error err))
  | .ok output => do
      match extractXMLElement output "path" with
      | .error panic => .done (.error panic)
      | .ok poolPath => do
          let _ ← runVirsh connURI ["pool-destroy", name]
          let _ ← runVirsh connURI ["pool-undefine", name]
          if poolPath = [] then .done (.ok (.ok ()))
          else do
            let _ ← runSSH (.umount (shown poolPath))
            let _ ← runSSH (.rmdir (shown poolPath))
            .done (.ok (.ok ()))

def volumeExists (pool name : String) : Prog sessions (Except GoError Bool) := do
  let result ← runVirsh connURI ["vol-info", name, "--pool", pool]
  .done (existsOrError result)

-- fmt.Sprintf("%dM", sizeBytes / bytesPerMB)
def mebibytes (sizeBytes : Int) : String := toString (sizeBytes.tdiv 1048576) ++ "M"

def createVolumeFromBackingStore (pool name backingPath : String) (sizeBytes : Int) :
    Prog sessions (Except GoError Unit) :=
  runQuietly connURI ["vol-create-as", pool, name, mebibytes sizeBytes, "--format", "qcow2",
    "--backing-vol-format", "qcow2", "--backing-vol", backingPath]

def cloneVolume (pool sourceName targetName : String) : Prog sessions (Except GoError Unit) :=
  runQuietly connURI ["vol-clone", sourceName, targetName, "--pool", pool]

def createVolume (pool name : String) (sizeBytes : Int) : Prog sessions (Except GoError Unit) :=
  runQuietly connURI ["vol-create-as", pool, name, mebibytes sizeBytes, "--format", "qcow2"]

-- A failed vol-create-as leaves the temporary file behind.
def uploadVolumeFromBytes (pool name : String) (data : Bytes) : Prog sessions (Except GoError Unit) := do
  let time ← @Prog.perform sessions .now
  let tmpFile := "/tmp/caplv-upload-" ++ toString time
  match ← session (.upload tmpFile) data with
  | .error failure => .done (.error (VirshClient.uploadDataFailure failure))
  | .ok _ => do
      match ← runVirsh connURI ["vol-create-as", pool, name, toString (data.length : Int), "--format", "raw"] with
      | .error err => .done (.error err)
      | .ok _ => do
          let uploaded ← runQuietly connURI ["vol-upload", name, tmpFile, "--pool", pool]
          removeTemp tmpFile
          .done uploaded

def uploadQcow2Volume (pool name : String) (content : Bytes) (virtualSizeBytes : Int) :
    Prog sessions (Except GoError Unit) := do
  let time ← @Prog.perform sessions .now
  let tmpFile := "/tmp/caplv-upload-" ++ toString time
  match ← session (.upload tmpFile) content with
  | .error failure => .done (.error (VirshClient.streamFailure tmpFile failure))
  | .ok _ => do
      match ← runVirsh connURI ["vol-create-as", pool, name, toString virtualSizeBytes, "--format", "qcow2"] with
      | .error err => do
          removeTemp tmpFile
          .done (.error (.wrap ("vol-create-as " ++ pool ++ "/" ++ name) err))
      | .ok _ => do
          match ← runVirsh connURI ["vol-upload", name, tmpFile, "--pool", pool] with
          | .error err => do
              let _ ← runVirsh connURI ["vol-delete", name, "--pool", pool]
              removeTemp tmpFile
              .done (.error (.wrap ("vol-upload " ++ pool ++ "/" ++ name) err))
          | .ok _ => do
              removeTemp tmpFile
              .done (.ok ())

def deleteVolume (pool name : String) : Prog sessions (Except GoError Unit) :=
  runDeletion connURI ["vol-delete", name, "--pool", pool]

def getVolumePath (pool name : String) : Prog sessions (Except GoError String) := do
  let result ← runVirsh connURI ["vol-path", name, "--pool", pool]
  .done (result.map shown)

end Calls

-- A path without a slash has no directory to cut off: the slice is out of range.
def writeRemoteFile (path : String) (data : Bytes) : Prog sessions (Except Panic (Except GoError Unit)) := do
  if '/' ∈ path.toList then do
    match ← runSSH (.installDir (VirshClient.parentDir path)) with
    | .error err => .done (.ok (.error (.wrap "mkdir failed" err)))
    | .ok _ => do
        match ← session (.tee path) data with
        | .error failure => .done (.ok (.error (VirshClient.writeFailure path failure)))
        | .ok _ => .done (.ok (.ok ()))
  else .done (.error .outOfRange)

def fileCheckFailure (path : String) : Failure → GoError
  | .session message => .wrap "ssh session" (.text message)
  | .cancelled message => .text message
  | .exit _ message => .wrap ("remote file check " ++ path) (.text message)

def remoteFileExists (path : String) : Prog sessions (Except GoError Bool) := do
  match ← session (.testExists path) [] with
  | .error failure => .done (.error (fileCheckFailure path failure))
  | .ok stdout => .done (.ok (trim (decode stdout) == ofString "present"))

def deleteRemoteFile (path : String) : Prog sessions (Except GoError Unit) := runSSH (.rm path)

-- A call that has no expression that can panic.
def settled {α : Type} (prog : Prog sessions (Except GoError α)) :
    Prog sessions (Except Panic (Except GoError α)) := do
  let result ← prog
  .done (.ok result)

def perform (connURI : String) : (call : ClientCall) → Prog sessions (Except Panic (Except GoError call.Result))
  | .domainExists name => settled (domainExists connURI name)
  | .getDomain name => getDomain connURI name
  | .defineDomain xmlDef => defineDomain connURI xmlDef.text
  | .startDomain name => settled (startDomain connURI name)
  | .destroyDomain name => settled (destroyDomain connURI name)
  | .undefineDomain name => settled (undefineDomain connURI name)
  | .poolExists name => settled (poolExists connURI name)
  | .poolIsActive name => poolIsActive connURI name
  | .startPool name => settled (startPool connURI name)
  | .createTmpfsPool name path size => settled (createTmpfsPool connURI name path size)
  | .destroyPool name => destroyPool connURI name
  | .volumeExists pool name => settled (volumeExists connURI pool name)
  | .createVolumeFromBackingStore pool name backingPath sizeBytes =>
    settled (createVolumeFromBackingStore connURI pool name backingPath sizeBytes)
  | .cloneVolume pool sourceName targetName => settled (cloneVolume connURI pool sourceName targetName)
  | .createVolume pool name sizeBytes => settled (createVolume connURI pool name sizeBytes)
  | .uploadVolumeFromBytes pool name data => settled (uploadVolumeFromBytes connURI pool name data)
  | .uploadQcow2Volume pool name content size => settled (uploadQcow2Volume connURI pool name content size)
  | .deleteVolume pool name => settled (deleteVolume connURI pool name)
  | .getVolumePath pool name => settled (getVolumePath connURI pool name)
  | .writeRemoteFile path data => writeRemoteFile path data
  | .remoteFileExists path => settled (remoteFileExists path)
  | .deleteRemoteFile path => settled (deleteRemoteFile path)

end Sessions

end Caplv.Libvirt

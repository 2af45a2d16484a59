import Caplv.Libvirt.Sessions
import Caplv.Shell.Script

namespace Caplv.Libvirt

open Text Program Shell GoString

-- The virsh commands of the client, as virsh understands their arguments.
inductive VirshCommand where
  | dominfo (name : String)
  | define (file : String)
  | start (name : String)
  | destroy (name : String)
  | undefine (name : String)
  | poolInfo (name : String)
  | poolStart (name : String)
  | poolDefineAs (name target : String)
  | poolDumpxml (name : String)
  | poolDestroy (name : String)
  | poolUndefine (name : String)
  | volInfo (name pool : String)
  | volCreateAs (pool name size format : String) (backing : Option String)
  | volClone (source target pool : String)
  | volUpload (name file pool : String)
  | volDelete (name pool : String)
  | volPath (name pool : String)
deriving DecidableEq, Repr

namespace VirshCommand

def ofArgs : List String → Option VirshCommand
  | ["dominfo", name] => some (.dominfo name)
  | ["define", file] => some (.define file)
  | ["start", name] => some (.start name)
  | ["destroy", name] => some (.destroy name)
  | ["undefine", name, "--nvram"] => some (.undefine name)
  | ["pool-info", name] => some (.poolInfo name)
  | ["pool-start", name] => some (.poolStart name)
  | ["pool-define-as", name, "dir", "--target", target] => some (.poolDefineAs name target)
  | ["pool-dumpxml", name] => some (.poolDumpxml name)
  | ["pool-destroy", name] => some (.poolDestroy name)
  | ["pool-undefine", name] => some (.poolUndefine name)
  | ["vol-info", name, "--pool", pool] => some (.volInfo name pool)
  | ["vol-create-as", pool, name, size, "--format", format] => some (.volCreateAs pool name size format none)
  | ["vol-create-as", pool, name, size, "--format", format, "--backing-vol-format", "qcow2",
      "--backing-vol", backing] => some (.volCreateAs pool name size format (some backing))
  | ["vol-clone", source, target, "--pool", pool] => some (.volClone source target pool)
  | ["vol-upload", name, file, "--pool", pool] => some (.volUpload name file pool)
  | ["vol-delete", name, "--pool", pool] => some (.volDelete name pool)
  | ["vol-path", name, "--pool", pool] => some (.volPath name pool)
  | _ => none

-- The arguments that stand for themselves only if they do not look like an option.
def positional : VirshCommand → List String
  | .dominfo name | .start name | .destroy name | .undefine name | .poolInfo name | .poolStart name
  | .poolDefineAs name _ | .poolDumpxml name | .poolDestroy name | .poolUndefine name
  | .volInfo name _ | .volDelete name _ | .volPath name _ => [name]
  | .define file => [file]
  | .volCreateAs pool name size _ _ => [pool, name, size]
  | .volClone source target _ => [source, target]
  | .volUpload name file _ => [name, file]

end VirshCommand

def isOption (arg : String) : Bool := hasPrefix arg "--"

-- A number of bytes, or of mebibytes with the suffix M.
def readSize (text : String) : Option Nat :=
  match text.toList.getLast? with
  | some 'M' => (readDigits text.toList.dropLast).map (· * 1048576)
  | _ => readDigits text.toList

-- What libvirt knows of a volume, and the bytes uploaded into it.
structure Disk where
  format : String
  capacity : Nat
  backing : Option String
  content : Option Bytes
deriving DecidableEq

-- A host behind SSH. `mounts` counts the tmpfs mounted over each other at a path; directories
-- are taken to be there.
structure Station where
  domains : String → Option Domain
  pools : String → Option Pool
  volumes : String → String → Option Disk
  mounts : String → Nat
  files : String → Option Bytes
  clock : Nat

structure Daemon where
  uri : String
  newUUID : DomainXML → String

section Printing

-- virsh prints a table with a column of 16 characters for the keys.
def column (entry : String × String) : String :=
  entry.1 ++ ":" ++ String.ofList (List.replicate (15 - entry.1.length) ' ') ++ entry.2

def table (entries : List (String × String)) : Bytes := encode (unlines (entries.map column)).toList

def dominfoTable (name : String) (d : Domain) : Bytes :=
  table [("Id", if d.running then "1" else "-"), ("Name", name), ("UUID", d.uuid), ("OS Type", "hvm"),
    ("State", if d.running then "running" else "shut off"), ("Persistent", "yes")]

def poolInfoTable (name : String) (p : Pool) : Bytes :=
  table [("Name", name), ("State", if p.active then "running" else "inactive"), ("Persistent", "yes")]

def poolElement (name : String) (p : Pool) : Xml.Element :=
  .node "pool" [("type", "dir")] [.leaf "name" [] name, .node "target" [] [.leaf "path" [] p.path]]

def poolXml (name : String) (p : Pool) : Bytes :=
  encode (Xml.render 0 (poolElement name p) ++ ['\n'])

def echoed (text : String) : Bytes := encode (text ++ "\n").toList

end Printing

def character? : Rune → Option Char
  | .char c => some c
  | .byte _ => none

-- The definition in a file, if all of it is text.
def readDefinition (content : Bytes) : Option DomainXML := do
  let chars ← (decode content).mapM character?
  let element ← Xml.read chars
  readDomain element

namespace Station

variable (s : Station)

def succeed (stdout : Bytes) : Outcome × Station := (⟨true, stdout, ""⟩, s)

def fail (stderr : String) : Outcome × Station := (⟨false, [], stderr ++ "\n"⟩, s)

def setDomain (name : String) (domain : Option Domain) : Station :=
  { s with domains := Function.update s.domains name domain }

def setPool (name : String) (pool : Option Pool) : Station :=
  { s with pools := Function.update s.pools name pool }

def setVolume (pool name : String) (disk : Option Disk) : Station :=
  { s with volumes := Function.update s.volumes pool (Function.update (s.volumes pool) name disk) }

def clearVolumes (pool : String) : Station :=
  { s with volumes := Function.update s.volumes pool fun _ => none }

def setFile (path : String) (content : Option Bytes) : Station :=
  { s with files := Function.update s.files path content }

-- A change of the mounts at a path takes what was visible under it out of sight.
def setMounts (path : String) (height : Nat) : Station :=
  { s with
    mounts := Function.update s.mounts path height
    files := fun file => if under path file then none else s.files file }

def poolFailure (pool : String) : Option String :=
  match s.pools pool with
  | none => some Host.noPool
  | some p => if p.active then none else some Host.inactivePool

def lookupVolume (pool name : String) : Except String Disk :=
  match s.poolFailure pool with
  | some stderr => .error stderr
  | none =>
    match s.volumes pool name with
    | none => .error Host.noVolume
    | some disk => .ok disk

def addVolume (pool name : String) (disk : Disk) : Outcome × Station :=
  match s.poolFailure pool with
  | some stderr => s.fail stderr
  | none =>
    match s.volumes pool name with
    | some _ => s.fail Host.volumeDefined
    | none => (s.setVolume pool name (some disk)).succeed []

def virsh (daemon : Daemon) : VirshCommand → Outcome × Station
  | .dominfo name =>
    match s.domains name with
    | none => s.fail Host.noDomain
    | some d => s.succeed (dominfoTable name d)
  | .define file =>
    match s.files file >>= readDefinition with
    | none => s.fail "error: Failed to define domain"
    | some definition =>
      match s.domains definition.name with
      | some _ => s.fail Host.domainDefined
      | none =>
        (s.setDomain definition.name (some ⟨definition, daemon.newUUID definition, false⟩)).succeed []
  | .start name =>
    match s.domains name with
    | none => s.fail Host.noDomain
    | some d =>
      if d.running then s.fail Host.alreadyRunning
      else (s.setDomain name (some { d with running := true })).succeed []
  | .destroy name =>
    match s.domains name with
    | none => s.fail Host.noDomain
    | some d =>
      if d.running then (s.setDomain name (some { d with running := false })).succeed []
      else s.fail Host.notRunning
  | .undefine name =>
    match s.domains name with
    | none => s.fail Host.noDomain
    | some d => if d.running then s.succeed [] else (s.setDomain name none).succeed []
  | .poolInfo name =>
    match s.pools name with
    | none => s.fail Host.noPool
    | some p => s.succeed (poolInfoTable name p)
  | .poolStart name =>
    match s.pools name with
    | none => s.fail Host.noPool
    | some p =>
      if p.active then s.fail Host.activePool
      else if s.mounts p.path = 0 then s.fail Host.noTarget
      else (s.setPool name (some { p with active := true })).succeed []
  | .poolDefineAs name target =>
    match s.pools name with
    | some _ => s.fail Host.poolDefined
    | none => ((s.clearVolumes name).setPool name (some ⟨target, false⟩)).succeed []
  | .poolDumpxml name =>
    match s.pools name with
    | none => s.fail Host.noPool
    | some p => s.succeed (poolXml name p)
  | .poolDestroy name =>
    match s.pools name with
    | none => s.fail Host.noPool
    | some p =>
      if p.active then (s.setPool name (some { p with active := false })).succeed []
      else s.fail Host.inactivePool
  | .poolUndefine name =>
    match s.pools name with
    | none => s.fail Host.noPool
    | some p =>
      if p.active then s.fail Host.activePool
      else ((s.clearVolumes name).setPool name none).succeed []
  | .volInfo name pool =>
    match s.lookupVolume pool name with
    | .error stderr => s.fail stderr
    | .ok _ => s.succeed (echoed name)
  | .volCreateAs pool name size format backing =>
    match readSize size with
    | none => s.fail "error: Malformed size"
    | some capacity => s.addVolume pool name ⟨format, capacity, backing, none⟩
  | .volClone source target pool =>
    match s.lookupVolume pool source with
    | .error stderr => s.fail stderr
    | .ok disk => s.addVolume pool target disk
  | .volUpload name file pool =>
    match s.lookupVolume pool name, s.files file with
    | .error stderr, _ => s.fail stderr
    | .ok _, none => s.fail "error: cannot read the file"
    | .ok disk, some content =>
      (s.setVolume pool name (some { disk with content := some content })).succeed []
  | .volDelete name pool =>
    match s.lookupVolume pool name with
    | .error stderr => s.fail stderr
    | .ok _ => (s.setVolume pool name none).succeed []
  | .volPath name pool =>
    match s.lookupVolume pool name, s.pools pool with
    | .ok _, some p => s.succeed (echoed (p.path ++ "/" ++ name))
    | .error stderr, _ => s.fail stderr
    | .ok _, none => s.fail Host.noPool

def runArgs (daemon : Daemon) (args : List String) : Outcome × Station :=
  match VirshCommand.ofArgs args with
  | none => s.fail "error: unknown command or option"
  | some cmd =>
    if cmd.positional.any isOption then s.fail "error: command does not support the option"
    else s.virsh daemon cmd

-- What is mounted at a path makes it a directory.
def exec (daemon : Daemon) (argv : List String) (stdin : Bytes) : Outcome × Station :=
  match argv with
  | "virsh" :: "-c" :: uri :: args =>
    if uri = daemon.uri then s.runArgs daemon args
    else s.fail "error: failed to connect to the hypervisor"
  | ["sudo", "mkdir", "-p", _] | ["sudo", "rmdir", _] | ["sudo", "install", "-d", "-m", "0755", _] => s.succeed []
  | "sudo" :: "chmod" :: _ => s.succeed []
  | ["sudo", "mount", "-t", "tmpfs", "tmpfs", path] | ["sudo", "mount", "-t", "tmpfs", "-o", _, "tmpfs", path] =>
    (s.setMounts path (s.mounts path + 1)).succeed []
  | ["sudo", "umount", path] =>
    if s.mounts path = 0 then s.fail "umount: not mounted."
    else (s.setMounts path (s.mounts path - 1)).succeed []
  | ["sudo", "tee", path] =>
    if s.mounts path = 0 then (s.setFile path (some stdin)).succeed stdin
    else s.fail "tee: Is a directory"
  | ["test", "-e", path] =>
    if (s.files path).isSome ∨ s.mounts path ≠ 0 then s.succeed [] else (⟨false, [], ""⟩, s)
  | ["echo", text] => s.succeed (echoed text)
  | ["sudo", "rm", "-f", path] | ["rm", "-f", path] =>
    if s.mounts path = 0 then (s.setFile path none).succeed []
    else s.fail "rm: cannot remove: Is a directory"
  | ["cat"] => s.succeed stdin
  | _ => s.fail "command not found"

def write (path : String) (content : Bytes) : Station :=
  if path = "/dev/null" then s else s.setFile path (some content)

def runner (daemon : Daemon) : Runner Station where
  exec := fun s argv stdin => s.exec daemon argv stdin
  write := write

def answer : Outcome × Station → Except Failure Bytes × Station
  | (outcome, after) =>
    if outcome.succeeded then (.ok outcome.stdout, after)
    else (.error (.exit outcome.stderr "Process exited with status 1"), after)

-- An SSH session: the shell reads the text and runs what it says.
def session (daemon : Daemon) (text : String) (stdin : Bytes) : Except Failure Bytes × Station :=
  match script text with
  | none => answer (s.fail "sh: syntax error")
  | some list => answer (list.run (runner daemon) s stdin)

end Station

def stationAnswer (daemon : Daemon) (s : Station) : (op : SessionOp) → op.Reply × Station
  | .now => (s.clock, { s with clock := s.clock + 1 })
  | .run text stdin => s.session daemon text stdin

def stationMachine (daemon : Daemon) : Machine sessions Station := fun s op => stationAnswer daemon s op

end Caplv.Libvirt

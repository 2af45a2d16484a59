import Caplv.Libvirt.Client
import Caplv.Api.Types
import Mathlib.Logic.Function.Basic

namespace Caplv.Libvirt

open Text Api

structure Domain where
  definition : DomainXML
  uuid : String
  running : Bool
deriving DecidableEq, Repr

structure Pool where
  path : String
  active : Bool
deriving DecidableEq, Repr

inductive Volume where
  | blank (sizeBytes : Int)
  | overlay (backingPath : String) (sizeBytes : Int)
  | bytes (data : Bytes)
  | image (content : Bytes) (virtualSizeBytes : Int)
deriving DecidableEq, Repr

-- The objects of one host, and the Node objects of the cluster beside them. A mount is the
-- tmpfs that backs an ephemeral pool.
inductive Key where
  | domain (name : String)
  | pool (name : String)
  | mount (path : String)
  | volume (pool name : String)
  | file (path : String)
  | node (name : String)
deriving DecidableEq, Repr

@[reducible] def Key.Value : Key → Type
  | .domain _ => Domain
  | .pool _ => Pool
  | .mount _ => Unit
  | .volume _ _ => Volume
  | .file _ => Bytes
  | .node _ => Node

abbrev Host := (key : Key) → Option key.Value

def under (path file : String) : Bool := hasPrefix file (path ++ "/")

def volumesOf (name : String) : Key → Bool
  | .volume pool _ => pool == name
  | _ => false

-- What a mount at the path hides and an unmount takes away.
def filesUnder (path : String) : Key → Bool
  | .file file => under path file
  | _ => false

namespace Host

variable (h : Host)

def set (key : Key) (value : key.Value) : Host := Function.update h key (some value)

def erase (key : Key) : Host := Function.update h key none

def clear (region : Key → Bool) : Host := fun key => if region key then none else h key

@[simp] theorem set_self (key : Key) (value : key.Value) : h.set key value key = some value :=
  Function.update_self ..

@[simp] theorem set_of_ne {key other : Key} (value : key.Value) (hne : other ≠ key) :
    h.set key value other = h other := Function.update_of_ne hne ..

@[simp] theorem erase_self (key : Key) : h.erase key key = none := Function.update_self ..

@[simp] theorem erase_of_ne {key other : Key} (hne : other ≠ key) : h.erase key other = h other :=
  Function.update_of_ne hne ..

@[simp] theorem clear_apply (region : Key → Bool) (key : Key) :
    h.clear region key = if region key then none else h key := rfl

theorem erase_eq_none {key other : Key} (hnone : h other = none) : h.erase key other = none := by
  rcases eq_or_ne other key with rfl | hne
  · exact h.erase_self other
  · rw [h.erase_of_ne hne, hnone]

section Failures

def noDomain : String := "error: failed to get domain"
def notRunning : String := "error: Requested operation is not valid: domain is not running"
def alreadyRunning : String := "error: Requested operation is not valid: domain is already running"
def domainDefined : String := "error: operation failed: domain already exists"
def noPool : String := "error: Storage pool not found"
def inactivePool : String := "error: Requested operation is not valid: storage pool is not active"
def activePool : String := "error: Requested operation is not valid: storage pool is already active"
def poolDefined : String := "error: operation failed: pool already exists"
def noTarget : String := "error: cannot open directory: No such file or directory"
def noVolume : String := "error: Storage volume not found"
def volumeDefined : String := "error: storage volume already exists"

-- What ClassifyVirshError makes of them.
def categories : List (String × ErrorCategory) :=
  [(noDomain, .notFound), (notRunning, .transient), (noPool, .notFound), (inactivePool, .transient),
    (noVolume, .notFound), (volumeDefined, .terminal)]

theorem category_eq (text : String) {category : ErrorCategory}
    (h : (text, category) ∈ categories := by simp [Host.categories]) : virshCategory text = category := by
  simp only [categories, List.mem_cons, Prod.mk.injEq, List.not_mem_nil, or_false] at h
  rcases h with ⟨rfl, rfl⟩ | ⟨rfl, rfl⟩ | ⟨rfl, rfl⟩ | ⟨rfl, rfl⟩ | ⟨rfl, rfl⟩ | ⟨rfl, rfl⟩ <;>
    exact (virshCategory_ofList _).trans (by decide)

end Failures

-- Why libvirt refuses a command on a volume of the pool before it looks at the volume.
def poolFailure (pool : String) : Option String :=
  match h (.pool pool) with
  | none => some noPool
  | some p => if p.active then none else some inactivePool

def lookupVolume (pool name : String) : Except String Volume :=
  match h.poolFailure pool with
  | some stderr => .error stderr
  | none =>
    match h (.volume pool name) with
    | none => .error noVolume
    | some volume => .ok volume

theorem lookupVolume_error {h : Host} {pool name stderr : String}
    (hlookup : h.lookupVolume pool name = .error stderr) :
    (stderr = noPool ∧ h (.pool pool) = none) ∨ stderr = inactivePool ∨
      (stderr = noVolume ∧ h (.volume pool name) = none) := by
  simp only [lookupVolume, poolFailure] at hlookup
  cases hpool : h (.pool pool) with
  | none =>
    rw [hpool] at hlookup
    exact .inl ⟨(Except.error.inj hlookup).symm, rfl⟩
  | some p =>
    rw [hpool] at hlookup
    dsimp only at hlookup
    by_cases hactive : p.active = true
    · rw [if_pos hactive] at hlookup
      cases hvolume : h (.volume pool name) with
      | none =>
        rw [hvolume] at hlookup
        exact .inr (.inr ⟨(Except.error.inj hlookup).symm, rfl⟩)
      | some volume =>
        rw [hvolume] at hlookup
        cases hlookup
    · rw [if_neg hactive] at hlookup
      exact .inr (.inl (Except.error.inj hlookup).symm)

def domainInfo (name : String) : Except GoError DomainInfo :=
  match h (.domain name) with
  | none => .error (classifyVirshError noDomain "dominfo" name)
  | some d => .ok ⟨name, d.uuid, if d.running then "running" else "shut off"⟩

-- A new volume, by one of the commands whose stderr the given function turns into an error.
def createVolume (pool name : String) (failure : String → GoError) (content : Volume) :
    Except GoError Unit × Host :=
  match h.poolFailure pool with
  | some stderr => (.error (failure stderr), h)
  | none =>
    match h (.volume pool name) with
    | some _ => (.error (failure volumeDefined), h)
    | none => (.ok (), h.set (.volume pool name) content)

end Host

-- `if IsNotFound(err) { return false, nil }` and `if IsNotFound(err) { return nil }`.
def existsOrError {α : Type} : Except GoError α → Except GoError Bool
  | .ok _ => .ok true
  | .error err => if err.isNotFound then .ok false else .error err

def ignoreNotFound : Except GoError Unit → Except GoError Unit
  | .ok _ => .ok ()
  | .error err => if err.isNotFound then .ok () else .error err

namespace Host

def destroyDomain (h : Host) (name : String) : Except GoError Unit × Host :=
  match h (.domain name) with
  | none => (.ok (), h)
  | some d =>
    if d.running then (.ok (), h.set (.domain name) { d with running := false })
    else (.error (classifyVirshError notRunning "destroy" name), h)

-- A running domain loses its definition only when it stops.
def undefineDomain (h : Host) (name : String) : Except GoError Unit × Host :=
  match h (.domain name) with
  | none => (.ok (), h)
  | some d => if d.running then (.ok (), h) else (.ok (), h.erase (.domain name))

def startPool (h : Host) (name : String) : Except GoError Unit × Host :=
  match h (.pool name) with
  | none => (.error (classifyVirshError noPool "pool-start" name), h)
  | some p =>
    if p.active then (.error (classifyVirshError activePool "pool-start" name), h)
    else
      match h (.mount p.path) with
      | some _ => (.ok (), h.set (.pool name) { p with active := true })
      | none => (.error (classifyVirshError noTarget "pool-start" name), h)

def unmount (h : Host) (path : String) : Host :=
  match h (.mount path) with
  | some _ => (h.clear (filesUnder path)).erase (.mount path)
  | none => h

-- The new tmpfs hides what was at the path, and the pool on it is empty.
def createTmpfsPool (h : Host) (name path : String) : Except GoError Unit × Host :=
  match h (.pool name) with
  | some _ =>
    (.error (.wrap "pool-define-as failed" (classifyVirshError poolDefined "pool-define-as" path)), h)
  | none =>
    (.ok (), ((((h.clear (filesUnder path)).clear (volumesOf name)).set (.mount path) ()).set
      (.pool name) ⟨path, true⟩))

def destroyPool (h : Host) (name : String) : Except GoError Unit × Host :=
  match h (.pool name) with
  | none => (.ok (), h)
  | some p =>
    let undefined := (h.clear (volumesOf name)).erase (.pool name)
    (.ok (), if p.path = "" then undefined else undefined.unmount p.path)

def startDomain (h : Host) (name : String) : Except GoError Unit × Host :=
  match h (.domain name) with
  | none => (.error (classifyVirshError noDomain "start" name), h)
  | some d =>
    if d.running then (.error (classifyVirshError alreadyRunning "start" name), h)
    else (.ok (), h.set (.domain name) { d with running := true })

def defineDomain (h : Host) (newUUID : DomainXML → String) (xmlDef : DomainXML) :
    Except GoError DomainInfo × Host :=
  match h (.domain xmlDef.name) with
  | some _ => (.error (classifyVirshError domainDefined "define" "/tmp/caplv-domain.xml"), h)
  | none => (.ok ⟨xmlDef.name, newUUID xmlDef, "shut off"⟩,
      h.set (.domain xmlDef.name) ⟨xmlDef, newUUID xmlDef, false⟩)

def cloneVolume (h : Host) (pool sourceName targetName : String) : Except GoError Unit × Host :=
  match h.lookupVolume pool sourceName with
  | .error stderr => (.error (classifyVirshError stderr "vol-clone" pool), h)
  | .ok content =>
    h.createVolume pool targetName (fun stderr => classifyVirshError stderr "vol-clone" pool) content

def deleteVolume (h : Host) (pool name : String) : Except GoError Unit × Host :=
  match h.lookupVolume pool name with
  | .error stderr => (ignoreNotFound (.error (classifyVirshError stderr "vol-delete" pool)), h)
  | .ok _ => (.ok (), h.erase (.volume pool name))

def volumePath (h : Host) (pool name : String) : Except GoError String :=
  match h.lookupVolume pool name, h (.pool pool) with
  | .ok _, some p => .ok (p.path ++ "/" ++ name)
  | .error stderr, _ => .error (classifyVirshError stderr "vol-path" pool)
  | .ok _, none => .error (classifyVirshError noPool "vol-path" pool)

-- Each call of the Client interface as one step of a deterministic host. Definitions
-- without a UUID get one from libvirt.
def call (newUUID : DomainXML → String) (h : Host) :
    (call : ClientCall) → Except GoError call.Result × Host
  | .domainExists name => (existsOrError (h.domainInfo name), h)
  | .getDomain name => (h.domainInfo name, h)
  | .defineDomain xmlDef => h.defineDomain newUUID xmlDef
  | .startDomain name => h.startDomain name
  | .destroyDomain name => h.destroyDomain name
  | .undefineDomain name => h.undefineDomain name
  | .poolExists name => (.ok (h (.pool name)).isSome, h)
  | .poolIsActive name =>
    match h (.pool name) with
    | none => (.error (classifyVirshError noPool "pool-info" name), h)
    | some p => (.ok p.active, h)
  | .startPool name => h.startPool name
  | .createTmpfsPool name path _ => h.createTmpfsPool name path
  | .destroyPool name => h.destroyPool name
  | .volumeExists pool name =>
    match h.lookupVolume pool name with
    | .ok _ => (.ok true, h)
    | .error stderr => (existsOrError (.error (classifyVirshError stderr "vol-info" pool) : Except GoError Unit), h)
  | .createVolumeFromBackingStore pool name backingPath sizeBytes =>
    h.createVolume pool name (fun stderr => classifyVirshError stderr "vol-create-as" backingPath)
      (.overlay backingPath sizeBytes)
  | .cloneVolume pool sourceName targetName => h.cloneVolume pool sourceName targetName
  | .createVolume pool name sizeBytes =>
    h.createVolume pool name (fun stderr => classifyVirshError stderr "vol-create-as" "qcow2")
      (.blank sizeBytes)
  | .uploadVolumeFromBytes pool name data =>
    h.createVolume pool name (fun stderr => classifyVirshError stderr "vol-create-as" "raw")
      (.bytes data)
  | .uploadQcow2Volume pool name content size =>
    h.createVolume pool name (fun stderr => .wrap ("vol-create-as " ++ pool ++ "/" ++ name)
      (classifyVirshError stderr "vol-create-as" "qcow2")) (.image content size)
  | .deleteVolume pool name => h.deleteVolume pool name
  | .getVolumePath pool name => (h.volumePath pool name, h)
  | .writeRemoteFile path data => (.ok (), h.set (.file path) data)
  | .remoteFileExists path => (.ok (h (.file path)).isSome, h)
  | .deleteRemoteFile path => (.ok (), h.erase (.file path))

end Host

end Caplv.Libvirt

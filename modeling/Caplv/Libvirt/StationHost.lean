import Caplv.Libvirt.StationOutput

namespace Caplv.Libvirt

open Text Program GoString

def temporary (path : String) : Bool := hasPrefix path "/tmp/caplv-"

-- A volume as libvirt has it: the sizes of the volumes the client makes itself are given in
-- mebibytes.
def Volume.disk : Volume → Disk
  | .blank sizeBytes => ⟨"qcow2", sizeBytes.toNat / 1048576 * 1048576, none, none⟩
  | .overlay backingPath sizeBytes => ⟨"qcow2", sizeBytes.toNat / 1048576 * 1048576, some backingPath, none⟩
  | .bytes data => ⟨"raw", data.length, none, some data⟩
  | .image content virtualSizeBytes => ⟨"qcow2", virtualSizeBytes.toNat, none, some content⟩

-- The station has the objects of the abstract host, and temporary files next to them.
structure Represents (s : Station) (h : Host) : Prop where
  domains : ∀ name, s.domains name = h (.domain name)
  pools : ∀ name, s.pools name = h (.pool name)
  volumes : ∀ pool name, s.volumes pool name = (h (.volume pool name)).map Volume.disk
  mounts : ∀ path, s.mounts path = if (h (.mount path)).isSome then 1 else 0
  files : ∀ path, temporary path = false → s.files path = h (.file path)

namespace Represents

variable {s : Station} {h : Host} (hrep : Represents s h)

include hrep

theorem tick (clock : Nat) : Represents { s with clock := clock } h :=
  ⟨hrep.domains, hrep.pools, hrep.volumes, hrep.mounts, hrep.files⟩

theorem setDomain (name : String) (d : Option Domain) :
    Represents (s.setDomain name d) (Function.update h (.domain name) d) where
  domains other := by
    by_cases hother : other = name
    · subst hother
      simp [Station.setDomain]
    · simp [Station.setDomain, hother, hrep.domains]
  pools := hrep.pools
  volumes := hrep.volumes
  mounts := hrep.mounts
  files := hrep.files

theorem setPool (name : String) (p : Option Pool) :
    Represents (s.setPool name p) (Function.update h (.pool name) p) where
  domains := hrep.domains
  pools other := by
    by_cases hother : other = name
    · subst hother
      simp [Station.setPool]
    · simp [Station.setPool, hother, hrep.pools]
  volumes := hrep.volumes
  mounts := hrep.mounts
  files := hrep.files

theorem setVolume (pool name : String) (volume : Option Volume) :
    Represents (s.setVolume pool name (volume.map Volume.disk)) (Function.update h (.volume pool name) volume) where
  domains := hrep.domains
  pools := hrep.pools
  volumes otherPool other := by
    by_cases hpool : otherPool = pool
    · subst hpool
      by_cases hother : other = name
      · subst hother
        simp [Station.setVolume]
      · simp [Station.setVolume, hother, hrep.volumes]
    · simp [Station.setVolume, hpool, hrep.volumes]
  mounts := hrep.mounts
  files := hrep.files

theorem clearVolumes (name : String) : Represents (s.clearVolumes name) (h.clear (volumesOf name)) where
  domains := hrep.domains
  pools := hrep.pools
  volumes pool other := by
    by_cases hpool : pool = name
    · subst hpool
      simp [Station.clearVolumes, volumesOf]
    · simp [Station.clearVolumes, volumesOf, hpool, hrep.volumes]
  mounts := hrep.mounts
  files := hrep.files

theorem setFile (path : String) (content : Option Bytes) :
    Represents (s.setFile path content) (Function.update h (.file path) content) where
  domains := hrep.domains
  pools := hrep.pools
  volumes := hrep.volumes
  mounts := hrep.mounts
  files other hother := by
    by_cases hpath : other = path
    · subst hpath
      simp [Station.setFile]
    · simp [Station.setFile, hpath, hrep.files other hother]

theorem setTemp {path : String} (hpath : temporary path = true) (content : Option Bytes) :
    Represents (s.setFile path content) h := by
  refine ⟨hrep.domains, hrep.pools, hrep.volumes, hrep.mounts, fun other hother => ?_⟩
  have hne : other ≠ path := by
    rintro rfl
    rw [hpath] at hother
    cases hother
  simp [Station.setFile, hne, hrep.files other hother]

theorem setMounts (path : String) (mounted : Bool) :
    Represents (s.setMounts path (if mounted then 1 else 0))
      (Function.update (h.clear (filesUnder path)) (.mount path) (if mounted then some () else none)) where
  domains := hrep.domains
  pools := hrep.pools
  volumes := hrep.volumes
  mounts other := by
    by_cases hpath : other = path
    · subst hpath
      cases mounted <;> simp [Station.setMounts]
    · simp [Station.setMounts, filesUnder, hpath, hrep.mounts]
  files other hother := by
    by_cases hunder : under path other = true
    · simp [Station.setMounts, filesUnder, hunder]
    · simp [Station.setMounts, filesUnder, hunder, hrep.files other hother]

theorem mounts_eq_zero {path : String} (hpath : h (.mount path) = none) : s.mounts path = 0 := by
  rw [hrep.mounts, hpath]
  rfl

end Represents

-- An argument virsh does not take for an option, and a text it prints on one line.
def Positional (arg : String) : Prop := isOption arg = false

def OneLine (text : String) : Prop := '\n' ∉ text.toList

instance (arg : String) : Decidable (Positional arg) := inferInstanceAs (Decidable (_ = _))

instance (text : String) : Decidable (OneLine text) := inferInstanceAs (Decidable (_ ∉ _))

-- Where a call's commands do what the call is for: the arguments are read as they are meant, what
-- virsh prints can be read back, and the object to be made is not there yet.
def Ready (daemon : Daemon) (h : Host) : ClientCall → Prop
  | .domainExists name | .startDomain name | .destroyDomain name | .undefineDomain name | .poolExists name
  | .startPool name | .volumeExists _ name | .deleteVolume _ name => Positional name
  | .getDomain name =>
    Positional name ∧ OneLine name ∧ ∀ d, h (.domain name) = some d → OneLine d.uuid ∧ Trimmed d.uuid
  | .defineDomain xmlDef =>
    (∃ params, xmlDef = domainDocument params) ∧ xmlDef.mapTexts Xml.legalText = xmlDef ∧
      Xml.escape xmlDef.name = xmlDef.name.toList ∧ Positional xmlDef.name ∧ OneLine xmlDef.name ∧
      h (.domain xmlDef.name) = none ∧ OneLine (daemon.newUUID xmlDef) ∧ Trimmed (daemon.newUUID xmlDef)
  | .poolIsActive name => Positional name ∧ OneLine name
  | .createTmpfsPool name path _ => Positional name ∧ h (.pool name) = none ∧ h (.mount path) = none
  | .destroyPool name => Positional name ∧ ∀ p, h (.pool name) = some p → Xml.escape p.path = p.path.toList
  | .createVolumeFromBackingStore pool name _ sizeBytes | .createVolume pool name sizeBytes
  | .uploadQcow2Volume pool name _ sizeBytes => Positional pool ∧ Positional name ∧ 0 ≤ sizeBytes
  | .cloneVolume _ sourceName targetName => Positional sourceName ∧ Positional targetName
  | .uploadVolumeFromBytes pool name _ => Positional pool ∧ Positional name
  | .getVolumePath pool name => Positional name ∧ ∀ p, h (.pool pool) = some p → Trimmed (p.path ++ "/" ++ name)
  | .writeRemoteFile path _ => '/' ∈ path.toList ∧ temporary path = false ∧ h (.mount path) = none
  | .remoteFileExists path | .deleteRemoteFile path => temporary path = false ∧ h (.mount path) = none

-- The client's sessions on the station do what the call does on the host above.
def Refines (daemon : Daemon) (s : Station) (h : Host) (call : ClientCall) : Prop :=
  ∃ after, run (stationMachine daemon) (Sessions.perform daemon.uri call) s =
    (.ok (h.call daemon.newUUID call).1, after) ∧ Represents after (h.call daemon.newUUID call).2

end Caplv.Libvirt

import Caplv.Libvirt.DomainXml

namespace Caplv.Libvirt

-- "vd" or "sd" and one or more lower-case ASCII letters.
def ValidTarget (dev : String) : Prop :=
  ∃ head letters, (head = 'v' ∨ head = 's') ∧ dev.toList = head :: 'd' :: letters ∧ letters ≠ [] ∧
    ∀ c ∈ letters, 'a' ≤ c ∧ c ≤ 'z'

def targets (params : DomainXMLParams) : List String := (buildDisks params).map DomainDisk.targetDev

-- The buses of the disks that are numbered after the root disk.
def laterBuses (params : DomainXMLParams) : List String :=
  (if params.kernelPath ≠ "" ∧ params.ignitionPath ≠ "" then ["virtio"] else []) ++
    params.additionalDisks.map fun disk => if disk.bus = "" then "virtio" else disk.bus

def scsiNamed (bus : String) : Prop := bus = "sata" ∨ bus = "scsi"

instance (bus : String) : Decidable (scsiNamed bus) := inferInstanceAs (Decidable (_ ∨ _))

-- At most as many numbered disks as letters, and no cdrom beside a root disk called sda.
def TargetsFree (params : DomainXMLParams) : Prop :=
  1 + (laterBuses params).length ≤ 26 ∧ (params.bootstrapISOPath = "" ∨ ¬ scsiNamed params.rootDiskBus)

def numbered (start : Nat) (buses : List String) : List String :=
  (buses.zipIdx start).map fun (bus, idx) => virtioDevName idx bus

section Names

theorem virtioDevName_toList (idx : Nat) (bus : String) :
    (virtioDevName idx bus).toList = [if scsiNamed bus then 's' else 'v', 'd', runeChar ('a'.toNat + idx)] := by
  unfold virtioDevName scsiNamed
  by_cases hvirtio : bus = "virtio"
  · subst hvirtio
    simp
  · by_cases hscsi : bus = "sata" ∨ bus = "scsi"
    · simp [hvirtio, hscsi]
    · simp [hvirtio, hscsi]

theorem runeChar_small {n : Nat} (hn : n < 0xD800) : (runeChar n).toNat = n := by
  have hmod : n % 2 ^ 32 = n := Nat.mod_eq_of_lt (by omega)
  have hvalid : n.isValidChar := .inl hn
  rw [runeChar, hmod, if_pos hvalid, Char.ofNat, dif_pos hvalid]
  rfl

theorem runeChar_letter : ∀ idx < 26,
    'a' ≤ runeChar ('a'.toNat + idx) ∧ runeChar ('a'.toNat + idx) ≤ 'z' := by decide

theorem valid_virtioDevName {idx : Nat} (hidx : idx < 26) (bus : String) :
    ValidTarget (virtioDevName idx bus) := by
  refine ⟨_, [runeChar ('a'.toNat + idx)], ?_, virtioDevName_toList idx bus, by simp, ?_⟩
  · by_cases hscsi : scsiNamed bus <;> simp [hscsi]
  · intro c hc
    rw [List.mem_singleton.mp hc]
    exact runeChar_letter idx hidx

-- The twenty-seventh disk gets the character behind z.
theorem invalid_virtioDevName (bus : String) : ¬ ValidTarget (virtioDevName 26 bus) := by
  rintro ⟨head, letters, -, hlist, -, hletters⟩
  rw [virtioDevName_toList] at hlist
  have hlast : letters = [runeChar ('a'.toNat + 26)] := by
    injection hlist with _ htail
    injection htail with _ htail
    exact htail.symm
  have hbrace := (hletters (runeChar ('a'.toNat + 26)) (by simp [hlast])).2
  revert hbrace
  decide

theorem virtioDevName_inj {i j : Nat} {bus bus' : String} (hi : i < 26) (hj : j < 26)
    (h : virtioDevName i bus = virtioDevName j bus') : i = j := by
  have ha : 'a'.toNat = 97 := rfl
  have hlist := congrArg String.toList h
  rw [virtioDevName_toList, virtioDevName_toList] at hlist
  have hlast : runeChar ('a'.toNat + i) = runeChar ('a'.toNat + j) := by
    injection hlist with _ htail
    injection htail with _ htail
    exact List.head_eq_of_cons_eq htail
  have hnat := congrArg Char.toNat hlast
  rw [runeChar_small (by omega), runeChar_small (by omega)] at hnat
  omega

theorem virtioDevName_zero_eq_sda (bus : String) : virtioDevName 0 bus = "sda" ↔ scsiNamed bus := by
  rw [← String.toList_inj, virtioDevName_toList]
  have ha : runeChar ('a'.toNat + 0) = 'a' := by decide
  rw [ha]
  by_cases hscsi : scsiNamed bus <;> simp [hscsi]

theorem sda_eq : "sda" = virtioDevName 0 "sata" := rfl

end Names

section Numbered

theorem mem_numbered {start : Nat} {buses : List String} {dev : String} (h : dev ∈ numbered start buses) :
    ∃ idx bus, start ≤ idx ∧ idx < start + buses.length ∧ dev = virtioDevName idx bus := by
  obtain ⟨⟨bus, idx⟩, hmem, rfl⟩ := List.mem_map.mp h
  have hidx := List.le_snd_of_mem_zipIdx hmem
  have hlt := List.snd_lt_of_mem_zipIdx hmem
  exact ⟨idx, bus, hidx, by omega, rfl⟩

theorem numbered_cons (start : Nat) (bus : String) (buses : List String) :
    numbered start (bus :: buses) = virtioDevName start bus :: numbered (start + 1) buses := rfl

theorem numbered_append (start : Nat) (left right : List String) :
    numbered start (left ++ right) = numbered start left ++ numbered (start + left.length) right := by
  rw [numbered, List.zipIdx_append, List.map_append]
  rfl

theorem numbered_nodup {start : Nat} {buses : List String} (h : start + buses.length ≤ 26) :
    (numbered start buses).Nodup := by
  induction buses generalizing start with
  | nil => exact List.nodup_nil
  | cons bus buses ih =>
    rw [List.length_cons] at h
    rw [numbered_cons, List.nodup_cons]
    refine ⟨fun hmem => ?_, ih (by omega)⟩
    obtain ⟨idx, bus', hlow, hhigh, heq⟩ := mem_numbered hmem
    have := virtioDevName_inj (by omega) (by omega) heq
    omega

theorem additionalDomainDisks_targets (idx : Nat) (disks : List DiskParam) :
    (additionalDomainDisks idx disks).map DomainDisk.targetDev =
      numbered idx (disks.map fun disk => if disk.bus = "" then "virtio" else disk.bus) := by
  induction disks generalizing idx with
  | nil => rfl
  | cons disk disks ih =>
    rw [additionalDomainDisks, List.map_cons, List.map_cons, numbered_cons, ih]

theorem targets_eq (params : DomainXMLParams) :
    targets params = virtioDevName 0 params.rootDiskBus ::
      ((if params.bootstrapISOPath ≠ "" then ["sda"] else []) ++ numbered 1 (laterBuses params)) := by
  rw [targets, buildDisks, laterBuses, numbered_append]
  simp only [List.map_append, List.map_cons, additionalDomainDisks_targets,
    List.cons_append, List.nil_append, List.append_assoc]
  by_cases hiso : params.bootstrapISOPath ≠ "" <;>
    by_cases hdirect : params.kernelPath ≠ "" ∧ params.ignitionPath ≠ "" <;>
    simp [hiso, hdirect, numbered]

end Numbered

section Targets

variable {params : DomainXMLParams}

theorem sda_not_mem_numbered {buses : List String} (h : 1 + buses.length ≤ 26) :
    "sda" ∉ numbered 1 buses := by
  intro hmem
  obtain ⟨idx, bus, hlow, hhigh, heq⟩ := mem_numbered hmem
  rw [sda_eq] at heq
  have := virtioDevName_inj (by omega) (by omega) heq
  omega

theorem targets_nodup (hfree : TargetsFree params) : (targets params).Nodup := by
  obtain ⟨hlength, hiso⟩ := hfree
  have hroot : virtioDevName 0 params.rootDiskBus ∉ numbered 1 (laterBuses params) := by
    intro hmem
    obtain ⟨idx, bus, hlow, hhigh, heq⟩ := mem_numbered hmem
    have := virtioDevName_inj (by omega) (by omega) heq
    omega
  have hlater := numbered_nodup hlength
  rw [targets_eq]
  by_cases hpath : params.bootstrapISOPath = ""
  · simpa [hpath] using And.intro hroot hlater
  · have hsda : virtioDevName 0 params.rootDiskBus ≠ "sda" :=
      mt (virtioDevName_zero_eq_sda _).mp (hiso.resolve_left hpath)
    simpa [hpath] using And.intro ⟨hsda, hroot⟩ ⟨sda_not_mem_numbered hlength, hlater⟩

theorem targets_valid (hlength : 1 + (laterBuses params).length ≤ 26) :
    ∀ dev ∈ targets params, ValidTarget dev := by
  intro dev hdev
  rw [targets_eq] at hdev
  rcases List.mem_cons.mp hdev with rfl | hdev
  · exact valid_virtioDevName (by decide) _
  · rcases List.mem_append.mp hdev with hdev | hdev
    · by_cases hpath : params.bootstrapISOPath = ""
      · simp [hpath] at hdev
      · have hsda : dev = "sda" := by simpa [hpath] using hdev
        rw [hsda, sda_eq]
        exact valid_virtioDevName (by decide) _
    · obtain ⟨idx, bus, -, hhigh, rfl⟩ := mem_numbered hdev
      exact valid_virtioDevName (by omega) bus

theorem length_of_valid (hvalid : ∀ dev ∈ targets params, ValidTarget dev) :
    1 + (laterBuses params).length ≤ 26 := by
  by_contra hlong
  have hmem : ∃ bus, virtioDevName 26 bus ∈ numbered 1 (laterBuses params) := by
    have hidx : 25 < (laterBuses params).length := by omega
    refine ⟨(laterBuses params)[25], List.mem_map.mpr ⟨((laterBuses params)[25], 26), ?_, rfl⟩⟩
    rw [List.mem_zipIdx_iff_le_and_getElem?_sub]
    exact ⟨by omega, List.getElem?_eq_getElem hidx⟩
  obtain ⟨bus, hbus⟩ := hmem
  refine invalid_virtioDevName bus (hvalid _ ?_)
  rw [targets_eq]
  exact List.mem_cons_of_mem _ (List.mem_append_right _ hbus)

theorem iso_free_of_nodup (hnodup : (targets params).Nodup) :
    params.bootstrapISOPath = "" ∨ ¬ scsiNamed params.rootDiskBus := by
  by_cases hpath : params.bootstrapISOPath = ""
  · exact .inl hpath
  · right
    intro hscsi
    rw [targets_eq, (virtioDevName_zero_eq_sda _).mpr hscsi] at hnodup
    simp [hpath] at hnodup

end Targets

theorem disk_targets_valid_unique_iff (params : DomainXMLParams) :
    ((targets params).Nodup ∧ ∀ dev ∈ targets params, ValidTarget dev) ↔ TargetsFree params := by
  constructor
  · rintro ⟨hnodup, hvalid⟩
    exact ⟨length_of_valid hvalid, iso_free_of_nodup hnodup⟩
  · intro hfree
    exact ⟨targets_nodup hfree, targets_valid hfree.1⟩

def sampleParams : DomainXMLParams :=
  { name := "d", vcpus := 2, memoryKB := 2097152, machine := "q35", firmware := "bios", firmwarePath := ""
    nvramPath := "", nvramTemplate := "", rootDiskPath := "/pool/root.qcow2", rootDiskBus := "virtio"
    additionalDisks := [], networkType := "bridge", networkName := "br0", networkModel := "virtio"
    macAddress := "", kernelPath := "", initrdPath := "", kernelCmdline := "" }

-- A cloud-init machine with its root disk on sata, and a machine with twenty-six more disks.
theorem disk_targets_clash :
    ¬ (targets { sampleParams with rootDiskBus := "sata", bootstrapISOPath := "/pool/b.iso" }).Nodup ∧
      "vd\x7b" ∈ targets { sampleParams with additionalDisks := List.replicate 26 ⟨"/pool/data.qcow2", "virtio"⟩ } ∧
      ¬ ValidTarget "vd\x7b" := by
  refine ⟨by decide, by decide, ?_⟩
  rintro ⟨head, letters, -, hlist, -, hletters⟩
  have hlast : letters = ['\x7b'] := by
    injection hlist with _ htail
    injection htail with _ htail
    exact htail.symm
  have hbrace := (hletters '\x7b' (by simp [hlast])).2
  revert hbrace
  decide

end Caplv.Libvirt

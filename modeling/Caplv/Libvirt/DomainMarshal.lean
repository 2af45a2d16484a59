import Caplv.Libvirt.DomainXml
import Caplv.Libvirt.Leftovers
import Caplv.Xml

namespace Caplv.Libvirt

open Text
open Xml (Element legalText escape)

section Marshalling

-- `omitempty`: an attribute or an element without a text is not written.
def optionalAttr (key value : String) : List (String × String) :=
  if value = "" then [] else [(key, value)]

def optionalLeaf (name text : String) : List Element :=
  if text = "" then [] else [.leaf name [] text]

-- An element without anything in it.
def emptyElement (name : String) (attrs : List (String × String)) : Element := .leaf name attrs ""

def DomainSysInfo.element (sysInfo : DomainSysInfo) : Element :=
  let entries := sysInfo.entries.map fun entry =>
    emptyElement "entry" [("name", entry.name), ("file", entry.file)]
  if entries.isEmpty then emptyElement "sysinfo" [("type", sysInfo.type)]
  else .node "sysinfo" [("type", sysInfo.type)] entries

def DomainLoader.element (loader : DomainLoader) : Element :=
  .leaf "loader" [("readonly", loader.readOnly), ("type", loader.type)] loader.value

def DomainNVRAM.element (nvram : DomainNVRAM) : Element :=
  .leaf "nvram" (optionalAttr "template" nvram.template) nvram.value

def DomainOS.element (os : DomainOS) : Element :=
  .node "os" (optionalAttr "firmware" os.firmware)
    (.leaf "type" [("arch", os.arch), ("machine", os.machine)] os.type ::
      (os.loader.map DomainLoader.element).toList ++ (os.nvram.map DomainNVRAM.element).toList ++
      optionalLeaf "kernel" os.kernel ++ optionalLeaf "initrd" os.initrd ++
      optionalLeaf "cmdline" os.cmdline ++ [emptyElement "boot" [("dev", os.bootDev)]])

def DomainDisk.element (disk : DomainDisk) : Element :=
  .node "disk" [("type", disk.type), ("device", disk.device)]
    (emptyElement "driver" [("name", disk.driverName), ("type", disk.driverType)] ::
      emptyElement "source" [("file", disk.sourceFile)] ::
      emptyElement "target" [("dev", disk.targetDev), ("bus", disk.targetBus)] ::
      optionalLeaf "serial" disk.serial ++ if disk.readOnly then [emptyElement "readonly" []] else [])

def DomainInterface.element (interface : DomainInterface) : Element :=
  .node "interface" [("type", interface.type)]
    (emptyElement "source" (optionalAttr "bridge" interface.bridge ++ optionalAttr "network" interface.network) ::
      emptyElement "model" [("type", interface.model)] ::
      (interface.mac.map fun address => emptyElement "mac" [("address", address)]).toList)

def standardDevices : List Element :=
  [.node "serial" [("type", "pty")] [emptyElement "target" [("port", "0")]],
    .node "console" [("type", "pty")] [emptyElement "target" [("type", "serial"), ("port", "0")]],
    .node "channel" [("type", "unix")]
      [emptyElement "target" [("type", "virtio"), ("name", "org.qemu.guest_agent.0")]]]

def DomainXML.devices (d : DomainXML) : Element :=
  .node "devices" [] (d.disks.map DomainDisk.element ++ d.interfaces.map DomainInterface.element ++ standardDevices)

-- The fields of domainXML in their order.
def DomainXML.element (d : DomainXML) : Element :=
  .node "domain" [("type", d.type)]
    (.leaf "name" [] d.name :: optionalLeaf "uuid" d.uuid ++
      [.leaf "memory" [("unit", "KiB")] (toString d.memoryKiB),
        .leaf "vcpu" [("placement", "static")] (toString d.vcpu)] ++
      (d.sysInfo.map DomainSysInfo.element).toList ++
      [d.os.element, .node "features" [] [emptyElement "acpi" [], emptyElement "apic" []],
        emptyElement "cpu" [("mode", "host-passthrough")], d.devices])

-- xml.Header and xml.MarshalIndent with two blanks.
def DomainXML.text (d : DomainXML) : String := String.ofList (Xml.header ++ Xml.render 0 d.element)

def generateDomainXML (params : DomainXMLParams) : String := (domainDocument params).text

end Marshalling

section Unmarshalling

def readDigits (digits : List Char) : Option Nat :=
  if digits ≠ [] ∧ digits.all Char.isDigit then some (Nat.ofDigitChars 10 digits 0) else none

def readInt (s : String) : Option Int :=
  match s.toList with
  | '-' :: digits => (readDigits digits).map fun n => -n
  | digits => (readDigits digits).map fun n => n

-- What a domain definition says, whatever the order of its elements.
def readSysInfo (element : Element) : DomainSysInfo :=
  ⟨element.value "type", (element.inside "entry").map fun entry => ⟨entry.value "name", entry.value "file"⟩⟩

def readOS (element : Element) : DomainOS :=
  { firmware := element.value "firmware"
    arch := (element.child "type").value "arch"
    machine := (element.child "type").value "machine"
    type := (element.child "type").text
    loader := (element.inside "loader").head?.map fun loader =>
      ⟨loader.value "readonly", loader.value "type", loader.text⟩
    nvram := (element.inside "nvram").head?.map fun nvram => ⟨nvram.value "template", nvram.text⟩
    kernel := (element.child "kernel").text
    initrd := (element.child "initrd").text
    cmdline := (element.child "cmdline").text
    bootDev := (element.child "boot").value "dev" }

def readDisk (element : Element) : DomainDisk :=
  { type := element.value "type"
    device := element.value "device"
    driverName := (element.child "driver").value "name"
    driverType := (element.child "driver").value "type"
    sourceFile := (element.child "source").value "file"
    targetDev := (element.child "target").value "dev"
    targetBus := (element.child "target").value "bus"
    serial := (element.child "serial").text
    readOnly := !(element.inside "readonly").isEmpty }

def readInterface (element : Element) : DomainInterface :=
  { type := element.value "type"
    bridge := (element.child "source").value "bridge"
    network := (element.child "source").value "network"
    model := (element.child "model").value "type"
    mac := (element.inside "mac").head?.map fun mac => mac.value "address" }

def readDomain (element : Element) : Option DomainXML := do
  let memoryKiB ← readInt (element.child "memory").text
  let vcpu ← readInt (element.child "vcpu").text
  if element.name = "domain" then
    pure
      { type := element.value "type"
        name := (element.child "name").text
        uuid := (element.child "uuid").text
        memoryKiB := memoryKiB
        vcpu := vcpu
        sysInfo := (element.inside "sysinfo").head?.map readSysInfo
        os := readOS (element.child "os")
        disks := ((element.child "devices").inside "disk").map readDisk
        interfaces := ((element.child "devices").inside "interface").map readInterface }
  else none

end Unmarshalling

section Reading

open Xml.Element

@[simp] theorem named_optionalLeaf (name key text : String) :
    named key (optionalLeaf name text) = if name = key then optionalLeaf name text else [] := by
  unfold optionalLeaf
  split
  · exact (ite_self []).symm
  · rw [named_cons, named_nil]
    rfl

theorem named_option {α : Type} (f : α → Element) (kind : String) (hkind : ∀ item, (f item).name = kind)
    (name : String) (item : Option α) :
    named name (item.map f).toList = if kind = name then (item.map f).toList else [] := by
  have hlist : (item.map f).toList = item.toList.map f := by cases item <;> rfl
  rw [hlist, named_map f kind hkind]

@[simp] theorem text_optionalLeaf (name text : String) :
    ((optionalLeaf name text).head?.getD (.leaf name [] "")).text = text := by
  unfold optionalLeaf
  split <;> simp_all

@[simp] theorem lookup_optionalAttr (key other value : String) :
    ((optionalAttr key value).lookup other).getD "" = if other = key then value else "" := by
  unfold optionalAttr
  by_cases hvalue : value = "" <;> by_cases hkey : other = key <;> simp [hvalue, hkey]

theorem readSysInfo_element (sysInfo : DomainSysInfo) : readSysInfo sysInfo.element = sysInfo := by
  let entryElement (entry : DomainSysInfoEntry) : Element :=
    emptyElement "entry" [("name", entry.name), ("file", entry.file)]
  have hread (entry : DomainSysInfoEntry) :
      (⟨(entryElement entry).value "name", (entryElement entry).value "file"⟩ : DomainSysInfoEntry) = entry := by
    simp [entryElement, emptyElement, List.lookup_cons]
  obtain ⟨type, entries⟩ := sysInfo
  cases entries with
  | nil => rfl
  | cons entry rest =>
    have hnamed := named_map entryElement "entry" (fun _ => rfl) "entry" (entry :: rest)
    have hinside : (DomainSysInfo.element ⟨type, entry :: rest⟩).inside "entry" =
        (entry :: rest).map entryElement := hnamed
    rw [readSysInfo, hinside, List.map_map]
    have hid : ((fun element : Element => (⟨element.value "name", element.value "file"⟩ : DomainSysInfoEntry)) ∘
        entryElement) = id := funext hread
    rw [hid, List.map_id]
    rfl

theorem readOS_element (os : DomainOS) : readOS os.element = os := by
  have hloader := named_option DomainLoader.element "loader" (fun _ => rfl)
  have hnvram := named_option DomainNVRAM.element "nvram" (fun _ => rfl)
  simp [readOS, DomainOS.element, hloader, hnvram, emptyElement, List.lookup_cons]
  obtain ⟨firmware, arch, machine, type, loader, nvram, kernel, initrd, cmdline, bootDev⟩ := os
  cases loader <;> cases nvram <;> simp [DomainLoader.element, DomainNVRAM.element, List.lookup_cons]

theorem readDisk_element (disk : DomainDisk) : readDisk disk.element = disk := by
  obtain ⟨type, device, driverName, driverType, sourceFile, targetDev, targetBus, serial, readOnly⟩ := disk
  cases readOnly <;> simp [readDisk, DomainDisk.element, emptyElement, List.lookup_cons]

theorem lookup_optionalAttrs {first second : String} (hne : first ≠ second) (key a b : String) :
    ((optionalAttr first a ++ optionalAttr second b).lookup key).getD "" =
      if key = first then a else if key = second then b else "" := by
  have hsecond := lookup_optionalAttr second key b
  by_cases ha : a = ""
  · rw [optionalAttr, if_pos ha, List.nil_append, hsecond]
    by_cases hkey : key = first
    · rw [if_pos hkey, if_neg (hkey ▸ hne), ha]
    · rw [if_neg hkey]
  · rw [optionalAttr, if_neg ha, List.singleton_append, List.lookup_cons]
    by_cases hkey : key = first
    · simp [hkey]
    · rw [beq_eq_false_iff_ne.mpr hkey, if_neg hkey]
      exact hsecond

theorem readInterface_element (interface : DomainInterface) : readInterface interface.element = interface := by
  obtain ⟨type, bridge, network, model, mac⟩ := interface
  have hattrs := lookup_optionalAttrs (show "bridge" ≠ "network" by decide)
  cases mac <;> simp [readInterface, DomainInterface.element, emptyElement, hattrs]

theorem readDigits_toDigits (n : Nat) : readDigits (Nat.toDigits 10 n) = some n := by
  have hdigits : (Nat.toDigits 10 n).all Char.isDigit = true :=
    List.all_eq_true.mpr fun c hc => Nat.isDigit_of_mem_toDigits (by decide) (by decide) hc
  rw [readDigits, if_pos ⟨Nat.toDigits_ne_nil, hdigits⟩, Nat.ofDigitChars_ten_toDigits]

theorem readInt_repr (n : Int) : readInt n.repr = some n := by
  cases n with
  | ofNat m =>
    have hlist : (Int.ofNat m).repr.toList = Nat.toDigits 10 m := Nat.toList_repr
    have hminus : ∀ digits, Nat.toDigits 10 m ≠ '-' :: digits := by
      intro digits heq
      have hdigit : '-'.isDigit = true := Nat.isDigit_of_mem_toDigits (b := 10) (n := m) (by decide) (by decide)
        (by rw [heq]; exact List.mem_cons_self)
      exact absurd hdigit (by decide)
    rw [readInt, hlist]
    split
    · rename_i digits heq
      exact absurd heq (hminus digits)
    · rw [readDigits_toDigits]
      rfl
  | negSucc m =>
    have hlist : (Int.negSucc m).repr.toList = '-' :: Nat.toDigits 10 (m + 1) := by
      rw [← Nat.toList_repr]
      exact String.toList_append
    rw [readInt, hlist]
    simp only [readDigits_toDigits]
    rfl

@[simp] theorem name_element_os (os : DomainOS) : os.element.name = "os" := rfl

@[simp] theorem name_devices (d : DomainXML) : d.devices.name = "devices" := rfl

theorem name_element_sysInfo (sysInfo : DomainSysInfo) : sysInfo.element.name = "sysinfo" := by
  unfold DomainSysInfo.element
  simp only
  split <;> rfl

theorem inside_devices (d : DomainXML) :
    d.devices.inside "disk" = d.disks.map DomainDisk.element ∧
      d.devices.inside "interface" = d.interfaces.map DomainInterface.element := by
  have hdisks := named_map DomainDisk.element "disk" (fun _ => rfl)
  have hinterfaces := named_map DomainInterface.element "interface" (fun _ => rfl)
  constructor <;> simp [DomainXML.devices, standardDevices, hdisks, hinterfaces]

theorem readDomain_element (d : DomainXML) : readDomain d.element = some d := by
  have hsysInfo := named_option DomainSysInfo.element "sysinfo" name_element_sysInfo
  obtain ⟨hdisks, hinterfaces⟩ := inside_devices d
  have hdisk : readDisk ∘ DomainDisk.element = id := funext readDisk_element
  have hinterface : readInterface ∘ DomainInterface.element = id := funext readInterface_element
  have hsys : readSysInfo ∘ DomainSysInfo.element = id := funext readSysInfo_element
  simp [readDomain, DomainXML.element, emptyElement, hsysInfo, hdisks, hinterfaces, readInt_repr, hdisk,
    hinterface, hsys, readOS_element]

end Reading

section Texts

variable (f : String → String)

def DomainSysInfo.mapTexts (sysInfo : DomainSysInfo) : DomainSysInfo :=
  ⟨f sysInfo.type, sysInfo.entries.map fun entry => ⟨f entry.name, f entry.file⟩⟩

def DomainLoader.mapTexts (loader : DomainLoader) : DomainLoader :=
  ⟨f loader.readOnly, f loader.type, f loader.value⟩

def DomainNVRAM.mapTexts (nvram : DomainNVRAM) : DomainNVRAM := ⟨f nvram.template, f nvram.value⟩

def DomainOS.mapTexts (os : DomainOS) : DomainOS :=
  { firmware := f os.firmware, arch := f os.arch, machine := f os.machine, type := f os.type
    loader := os.loader.map (DomainLoader.mapTexts f), nvram := os.nvram.map (DomainNVRAM.mapTexts f)
    kernel := f os.kernel, initrd := f os.initrd, cmdline := f os.cmdline, bootDev := f os.bootDev }

def DomainDisk.mapTexts (disk : DomainDisk) : DomainDisk :=
  { type := f disk.type, device := f disk.device, driverName := f disk.driverName
    driverType := f disk.driverType, sourceFile := f disk.sourceFile, targetDev := f disk.targetDev
    targetBus := f disk.targetBus, serial := f disk.serial, readOnly := disk.readOnly }

def DomainInterface.mapTexts (interface : DomainInterface) : DomainInterface :=
  ⟨f interface.type, f interface.bridge, f interface.network, f interface.model, interface.mac.map f⟩

def DomainXML.mapTexts (d : DomainXML) : DomainXML :=
  { type := f d.type, name := f d.name, uuid := f d.uuid, memoryKiB := d.memoryKiB, vcpu := d.vcpu
    sysInfo := d.sysInfo.map (DomainSysInfo.mapTexts f), os := d.os.mapTexts f
    disks := d.disks.map (DomainDisk.mapTexts f), interfaces := d.interfaces.map (DomainInterface.mapTexts f) }

end Texts

section Legal

@[simp] theorem legalText_empty : legalText "" = "" := rfl

theorem map_optionalLeaf (name text : String) :
    (optionalLeaf name text).map (Element.mapTexts legalText) = optionalLeaf name (legalText text) := by
  unfold optionalLeaf
  by_cases htext : text = ""
  · simp [htext]
  · rw [if_neg htext, if_neg (mt (Xml.legalText_eq_empty text).mp htext)]
    simp

theorem map_optionalAttr (key value : String) :
    ((optionalAttr key value).map fun attr => (attr.1, legalText attr.2)) = optionalAttr key (legalText value) := by
  unfold optionalAttr
  by_cases hvalue : value = ""
  · simp [hvalue]
  · rw [if_neg hvalue, if_neg (mt (Xml.legalText_eq_empty value).mp hvalue)]
    rfl

theorem mapTexts_sysInfo (sysInfo : DomainSysInfo) :
    sysInfo.element.mapTexts legalText = (sysInfo.mapTexts legalText).element := by
  obtain ⟨type, entries⟩ := sysInfo
  cases entries with
  | nil => simp [DomainSysInfo.element, DomainSysInfo.mapTexts, emptyElement]
  | cons entry rest => simp [DomainSysInfo.element, DomainSysInfo.mapTexts, emptyElement]

theorem mapTexts_os (os : DomainOS) : os.element.mapTexts legalText = (os.mapTexts legalText).element := by
  obtain ⟨firmware, arch, machine, type, loader, nvram, kernel, initrd, cmdline, bootDev⟩ := os
  cases loader <;> cases nvram <;>
    simp [DomainOS.element, DomainOS.mapTexts, DomainLoader.element, DomainLoader.mapTexts, DomainNVRAM.element,
      DomainNVRAM.mapTexts, map_optionalLeaf, map_optionalAttr, emptyElement]

theorem mapTexts_disk (disk : DomainDisk) :
    disk.element.mapTexts legalText = (disk.mapTexts legalText).element := by
  obtain ⟨type, device, driverName, driverType, sourceFile, targetDev, targetBus, serial, readOnly⟩ := disk
  cases readOnly <;> simp [DomainDisk.element, DomainDisk.mapTexts, map_optionalLeaf, emptyElement]

theorem mapTexts_interface (interface : DomainInterface) :
    interface.element.mapTexts legalText = (interface.mapTexts legalText).element := by
  obtain ⟨type, bridge, network, model, mac⟩ := interface
  cases mac <;> simp [DomainInterface.element, DomainInterface.mapTexts, map_optionalAttr, emptyElement]

theorem legalText_repr (n : Int) : legalText n.repr = n.repr := by
  have hdigit (c : Char) (hc : c.isDigit = true) : Xml.legal c = true := by
    have hrange : 48 ≤ c.toNat ∧ c.toNat ≤ 57 := by
      simpa [Char.isDigit, Char.le_def, UInt32.le_iff_toNat_le] using hc
    exact Xml.legal_of_le (by omega) (by omega)
  have hdigits (m : Nat) : ∀ c ∈ m.repr.toList, Xml.legal c = true := by
    intro c hc
    rw [Nat.toList_repr] at hc
    exact hdigit c (Nat.isDigit_of_mem_toDigits (by decide) (by decide) hc)
  refine Xml.legalText_of_legal (List.all_eq_true.mpr ?_)
  cases n with
  | ofNat m => exact hdigits m
  | negSucc m =>
    intro c hc
    have hlist : (Int.negSucc m).repr.toList = '-' :: (m + 1).repr.toList := String.toList_append
    rcases List.mem_cons.mp (hlist ▸ hc) with rfl | hc
    · rfl
    · exact hdigits (m + 1) c hc

theorem mapTexts_standardDevices : standardDevices.map (Element.mapTexts legalText) = standardDevices := by
  have htexts : ∀ text ∈ ["pty", "0", "serial", "unix", "virtio", "org.qemu.guest_agent.0"], legalText text = text := by
    decide
  simp only [List.forall_mem_cons] at htexts
  simp [standardDevices, emptyElement, htexts]

theorem mapTexts_devices (d : DomainXML) : d.devices.mapTexts legalText = (d.mapTexts legalText).devices := by
  have hdisks : Element.mapTexts legalText ∘ DomainDisk.element = DomainDisk.element ∘ DomainDisk.mapTexts legalText :=
    funext mapTexts_disk
  have hinterfaces : Element.mapTexts legalText ∘ DomainInterface.element =
      DomainInterface.element ∘ DomainInterface.mapTexts legalText := funext mapTexts_interface
  simp [DomainXML.devices, DomainXML.mapTexts, mapTexts_standardDevices, hdisks, hinterfaces]

theorem mapTexts_element (d : DomainXML) : d.element.mapTexts legalText = (d.mapTexts legalText).element := by
  have htexts : ∀ text ∈ ["KiB", "static", "host-passthrough"], legalText text = text := by decide
  simp only [List.forall_mem_cons] at htexts
  have hsysInfo : (d.sysInfo.map DomainSysInfo.element).toList.map (Element.mapTexts legalText) =
      ((d.sysInfo.map (DomainSysInfo.mapTexts legalText)).map DomainSysInfo.element).toList := by
    cases d.sysInfo with
    | none => rfl
    | some sysInfo => exact congrArg (fun element => [element]) (mapTexts_sysInfo sysInfo)
  have hdevices := mapTexts_devices d
  simp [DomainXML.element, hdevices, mapTexts_os, map_optionalLeaf, legalText_repr, hsysInfo, htexts, emptyElement]
  simp [DomainXML.mapTexts]

theorem proper_optionalLeaf_iff (name text : String) :
    (∀ child ∈ optionalLeaf name text, Xml.Proper child) ↔ (text ≠ "" → Xml.IsName name) := by
  unfold optionalLeaf
  by_cases htext : text = "" <;> simp [htext, Xml.proper_leaf_iff]

theorem isName_optionalAttr_iff (key value : String) :
    (∀ name text, (name, text) ∈ optionalAttr key value → Xml.IsName name) ↔ (value ≠ "" → Xml.IsName key) := by
  unfold optionalAttr
  by_cases hvalue : value = "" <;> simp [hvalue]

theorem isName_domainNames : ∀ name ∈ ["domain", "type", "name", "uuid", "memory", "unit", "vcpu", "placement",
    "features", "acpi", "apic", "cpu", "mode", "devices", "sysinfo", "entry", "file", "os", "firmware", "arch",
    "machine", "loader", "readonly", "nvram", "template", "kernel", "initrd", "cmdline", "boot", "dev", "disk",
    "device", "driver", "source", "target", "bus", "serial", "interface", "bridge", "network", "model", "mac",
    "address", "console", "channel", "port"], Xml.IsName name := by decide

theorem proper_sysInfo (sysInfo : DomainSysInfo) : Xml.Proper sysInfo.element := by
  have hnames := isName_domainNames
  simp only [List.forall_mem_cons] at hnames
  obtain ⟨type, entries⟩ := sysInfo
  cases entries <;> simp [DomainSysInfo.element, emptyElement, Xml.proper_leaf_iff, Xml.proper_node_iff, hnames]

theorem proper_os (os : DomainOS) : Xml.Proper os.element := by
  have hnames := isName_domainNames
  simp only [List.forall_mem_cons] at hnames
  obtain ⟨firmware, arch, machine, type, loader, nvram, kernel, initrd, cmdline, bootDev⟩ := os
  cases loader <;> cases nvram <;>
    simp [DomainOS.element, DomainLoader.element, DomainNVRAM.element, emptyElement, Xml.proper_leaf_iff,
      Xml.proper_node_iff, or_imp, forall_and, proper_optionalLeaf_iff, isName_optionalAttr_iff, hnames]

theorem proper_disk (disk : DomainDisk) : Xml.Proper disk.element := by
  have hnames := isName_domainNames
  simp only [List.forall_mem_cons] at hnames
  obtain ⟨type, device, driverName, driverType, sourceFile, targetDev, targetBus, serial, readOnly⟩ := disk
  cases readOnly <;>
    simp [DomainDisk.element, emptyElement, Xml.proper_leaf_iff, Xml.proper_node_iff, or_imp, forall_and,
      proper_optionalLeaf_iff, hnames]

theorem proper_interface (interface : DomainInterface) : Xml.Proper interface.element := by
  have hnames := isName_domainNames
  simp only [List.forall_mem_cons] at hnames
  obtain ⟨type, bridge, network, model, mac⟩ := interface
  cases mac <;>
    simp [DomainInterface.element, emptyElement, Xml.proper_leaf_iff, Xml.proper_node_iff, or_imp, forall_and,
      isName_optionalAttr_iff, hnames]

theorem proper_devices (d : DomainXML) : Xml.Proper d.devices := by
  have hnames := isName_domainNames
  simp only [List.forall_mem_cons] at hnames
  simp [DomainXML.devices, standardDevices, emptyElement, Xml.proper_leaf_iff, Xml.proper_node_iff, or_imp,
    forall_and, proper_disk, proper_interface, hnames]

theorem proper_element (d : DomainXML) : Xml.Proper d.element := by
  have hnames := isName_domainNames
  simp only [List.forall_mem_cons] at hnames
  obtain ⟨type, name, uuid, memoryKiB, vcpu, sysInfo, os, disks, interfaces⟩ := d
  cases sysInfo <;>
    simp [DomainXML.element, emptyElement, Xml.proper_leaf_iff, Xml.proper_node_iff, or_imp, forall_and,
      proper_optionalLeaf_iff, proper_sysInfo, proper_os, proper_devices, hnames]

-- Whatever the strings of the parameters hold, the text denotes the document they are in.
theorem read_generateDomainXML (params : DomainXMLParams) :
    (Xml.read (generateDomainXML params).toList).bind readDomain =
      some ((domainDocument params).mapTexts legalText) := by
  have hread := Xml.read_render (proper_element (domainDocument params))
  rw [generateDomainXML, DomainXML.text, String.toList_ofList, hread, Option.bind_some, mapTexts_element,
    readDomain_element]

end Legal

section Names

theorem indexOf_append {part : List Char} {c : Char} (hpart : part.head? = some c) {before : List Char}
    (hbefore : c ∉ before) (rest : List Char) :
    indexOf (before ++ rest) part = (indexOf rest part).map (· + before.length) := by
  induction before with
  | nil => simp
  | cons first before ih =>
    rw [List.mem_cons, not_or] at hbefore
    have hne : part.isPrefixOf (first :: (before ++ rest)) = false := by
      cases part with
      | nil => cases hpart
      | cons start part =>
        obtain rfl := Option.some.inj hpart
        simp [List.isPrefixOf, hbefore.1]
    rw [List.cons_append, indexOf, hne, ih hbefore.2]
    cases indexOf rest part with
    | none => rfl
    | some i => rfl

def beforeName : List Char := Xml.header ++ Xml.startTag "domain" [("type", "kvm")] ++ "\n  ".toList

theorem generateDomainXML_eq (params : DomainXMLParams) :
    ∃ rest, (generateDomainXML params).toList =
      beforeName ++ (nameOpen ++ (escape params.name ++ (nameClose ++ rest))) := by
  have hrender (attrs : List (String × String)) (name : String) (rest : List Element) :
      Xml.render 0 (.node "domain" attrs (.leaf "name" [] name :: rest)) =
        Xml.startTag "domain" attrs ++ ("\n  ".toList ++ (nameOpen ++ (escape name ++ (nameClose ++
          (Xml.renderAll 1 rest ++ '\n' :: Xml.endTag "domain"))))) := by
    simp only [Xml.render, Xml.renderAll, List.append_assoc, List.cons_append]
    rfl
  have htext : (generateDomainXML params).toList = Xml.header ++ Xml.render 0 (domainDocument params).element :=
    String.toList_ofList
  rw [htext, domainDocument, DomainXML.element]
  simp only [List.cons_append, hrender, beforeName, List.append_assoc]
  exact ⟨_, rfl⟩

theorem indexOf_beforeName (rest : List Char) :
    indexOf (beforeName ++ (nameOpen ++ rest)) nameOpen = some beforeName.length := rfl

set_option maxRecDepth 4000 in
theorem indexOf_nameClose (rest : List Char) :
    indexOf (beforeName ++ (nameOpen ++ rest)) nameClose =
      (Option.map (· + 1))^[(beforeName ++ nameOpen).length] (indexOf rest nameClose) := rfl

theorem iterate_map_succ (n : Nat) (i : Option Nat) : (Option.map (· + 1))^[n] i = i.map (· + n) := by
  induction n generalizing i with
  | zero => cases i <;> rfl
  | succ n ih =>
    rw [Function.iterate_succ_apply, ih]
    cases i with
    | none => rfl
    | some i => simp only [Option.map_some, Nat.add_assoc, Nat.add_comm 1 n]

-- The name that is looked up after the definition is the escaped one.
theorem extractDomainNameFromXML_generateDomainXML (params : DomainXMLParams) :
    extractDomainNameFromXML (generateDomainXML params) = .ok (String.ofList (escape params.name)) := by
  obtain ⟨rest, hrest⟩ := generateDomainXML_eq params
  let stop := (escape params.name).length + (beforeName ++ nameOpen).length
  have hfirst : indexOf (nameClose ++ rest) nameClose = some 0 := rfl
  have hstop : indexOf (generateDomainXML params).toList nameClose = some stop := by
    rw [hrest, indexOf_nameClose, iterate_map_succ,
      indexOf_append (show nameClose.head? = some '<' from rfl) (Xml.lt_not_mem_escape params.name), hfirst]
    simp only [Option.map_some, stop, Nat.zero_add]
  have hstart : indexOf (generateDomainXML params).toList nameOpen = some beforeName.length := by
    rw [hrest, indexOf_beforeName]
  have hopen : (beforeName ++ nameOpen).length = beforeName.length + 6 := List.length_append
  have hlength : stop ≤ (generateDomainXML params).toList.length := by
    rw [hrest]
    simp only [List.length_append, stop]
    omega
  have hsplit : ((generateDomainXML params).toList.take stop).drop (beforeName.length + 6) = escape params.name := by
    have hpre : (generateDomainXML params).toList =
        (beforeName ++ nameOpen ++ escape params.name) ++ (nameClose ++ rest) := by
      rw [hrest]
      simp only [List.append_assoc]
    rw [hpre, List.take_left' (by simp only [List.length_append, stop]; omega), List.drop_left' hopen]
  rw [extractDomainNameFromXML, hstart, hstop]
  simp only
  rw [if_pos (show beforeName.length < stop by omega), Program.slice_of_le (by omega) hlength, hsplit]
  rfl

-- It is the name of the domain exactly when nothing in it is written in another way.
theorem extractDomainNameFromXML_eq_name_iff (params : DomainXMLParams) :
    extractDomainNameFromXML (generateDomainXML params) = .ok params.name ↔
      ∀ c ∈ params.name.toList, Xml.legal c = true ∧ c ∉ ['"', '\'', '&', '<', '>', '\t', '\n', '\r'] := by
  rw [extractDomainNameFromXML_generateDomainXML, Except.ok.injEq, ← String.toList_inj, String.toList_ofList, escape,
    Xml.flatMap_escapeChar_eq]
  exact forall₂_congr fun c _ => Xml.escapeChar_eq_self_iff c

end Names

end Caplv.Libvirt

import Caplv.Text
import Mathlib.Algebra.Group.Nat.Defs

namespace Caplv.Libvirt

structure DiskParam where
  path : String
  bus : String
deriving DecidableEq, Repr

structure DomainXMLParams where
  name : String
  uuid : String := ""
  vcpus : Int
  memoryKB : Int
  machine : String
  firmware : String
  firmwarePath : String
  nvramPath : String
  nvramTemplate : String
  rootDiskPath : String
  rootDiskBus : String
  ignitionPath : String := ""
  bootstrapISOPath : String := ""
  additionalDisks : List DiskParam
  networkType : String
  networkName : String
  networkModel : String
  macAddress : String
  kernelPath : String
  initrdPath : String
  kernelCmdline : String
deriving DecidableEq, Repr

structure DomainLoader where
  readOnly : String
  type : String
  value : String
deriving DecidableEq, Repr

structure DomainNVRAM where
  template : String
  value : String
deriving DecidableEq, Repr

structure DomainOS where
  firmware : String := ""
  arch : String
  machine : String
  type : String
  loader : Option DomainLoader := none
  nvram : Option DomainNVRAM := none
  kernel : String := ""
  initrd : String := ""
  cmdline : String := ""
  bootDev : String
deriving DecidableEq, Repr

structure DomainDisk where
  type : String
  device : String
  driverName : String
  driverType : String
  sourceFile : String
  targetDev : String
  targetBus : String
  serial : String := ""
  readOnly : Bool := false
deriving DecidableEq, Repr

structure DomainInterface where
  type : String
  bridge : String := ""
  network : String := ""
  model : String
  mac : Option String
deriving DecidableEq, Repr

structure DomainSysInfoEntry where
  name : String
  file : String
deriving DecidableEq, Repr

structure DomainSysInfo where
  type : String
  entries : List DomainSysInfoEntry
deriving DecidableEq, Repr

-- The document GenerateDomainXML marshals. The elements that are the same in every
-- document (features, cpu, serial, console, channel) are left out.
structure DomainXML where
  type : String
  name : String
  uuid : String
  memoryKiB : Int
  vcpu : Int
  sysInfo : Option DomainSysInfo
  os : DomainOS
  disks : List DomainDisk
  interfaces : List DomainInterface
deriving DecidableEq, Repr

def buildSysInfo (params : DomainXMLParams) : Option DomainSysInfo :=
  if params.ignitionPath = "" ∨ params.kernelPath ≠ "" then none
  else some ⟨"fwcfg", [⟨"opt/com.coreos/config", params.ignitionPath⟩]⟩

def buildOS (params : DomainXMLParams) : DomainOS :=
  let os : DomainOS := { arch := "x86_64", machine := params.machine, type := "hvm", bootDev := "hd" }
  let os :=
    if params.firmware = "uefi" then
      if params.firmwarePath ≠ "" then
        { os with
          loader := some ⟨"yes", "pflash", params.firmwarePath⟩
          nvram :=
            if params.nvramPath ≠ "" ∨ params.nvramTemplate ≠ "" then
              some ⟨params.nvramTemplate, params.nvramPath⟩
            else none }
      else { os with firmware := "efi" }
    else os
  if params.kernelPath ≠ "" then
    { os with
      kernel := params.kernelPath
      initrd := params.initrdPath
      cmdline := params.kernelCmdline }
  else os

-- string(rune(n)): the conversion to int32 wraps, and U+FFFD stands for what is no character.
def runeChar (n : Nat) : Char :=
  if (n % 2 ^ 32).isValidChar then Char.ofNat (n % 2 ^ 32) else Char.ofNat 0xFFFD

def virtioDevName (idx : Nat) (bus : String) : String :=
  let letter := String.singleton (runeChar ('a'.toNat + idx))
  if bus = "virtio" then "vd" ++ letter
  else if bus = "sata" ∨ bus = "scsi" then "sd" ++ letter
  else "vd" ++ letter

def additionalDomainDisks : Nat → List DiskParam → List DomainDisk
  | _, [] => []
  | idx, disk :: rest =>
    let bus := if disk.bus = "" then "virtio" else disk.bus
    { type := "file", device := "disk", driverName := "qemu", driverType := "qcow2"
      sourceFile := disk.path, targetDev := virtioDevName idx bus, targetBus := bus } ::
      additionalDomainDisks (idx + 1) rest

def buildDisks (params : DomainXMLParams) : List DomainDisk :=
  let root : DomainDisk :=
    { type := "file", device := "disk", driverName := "qemu", driverType := "qcow2"
      sourceFile := params.rootDiskPath, targetDev := virtioDevName 0 params.rootDiskBus
      targetBus := params.rootDiskBus }
  let iso : List DomainDisk :=
    if params.bootstrapISOPath ≠ "" then
      [{ type := "file", device := "cdrom", driverName := "qemu", driverType := "raw"
         sourceFile := params.bootstrapISOPath, targetDev := "sda", targetBus := "sata"
         readOnly := true }]
    else []
  let directBoot := params.kernelPath ≠ "" ∧ params.ignitionPath ≠ ""
  let ignition : List DomainDisk :=
    if directBoot then
      [{ type := "file", device := "disk", driverName := "qemu", driverType := "raw"
         sourceFile := params.ignitionPath, targetDev := virtioDevName 1 "virtio"
         targetBus := "virtio", serial := "ignition", readOnly := true }]
    else []
  [root] ++ iso ++ ignition ++
    additionalDomainDisks (if directBoot then 2 else 1) params.additionalDisks

def buildInterface (params : DomainXMLParams) : DomainInterface :=
  { type := params.networkType
    bridge := if params.networkType = "bridge" then params.networkName else ""
    network := if params.networkType = "bridge" then "" else params.networkName
    model := params.networkModel
    mac := if params.macAddress ≠ "" then some params.macAddress else none }

def domainDocument (params : DomainXMLParams) : DomainXML :=
  { type := "kvm"
    name := params.name
    uuid := params.uuid
    memoryKiB := params.memoryKB
    vcpu := params.vcpus
    sysInfo := buildSysInfo params
    os := buildOS params
    disks := buildDisks params
    interfaces := [buildInterface params] }

theorem domainDocument_name (params : DomainXMLParams) :
    (domainDocument params).name = params.name := rfl

end Caplv.Libvirt

import Caplv.Controller.Op
import Mathlib.Algebra.Group.Int.Defs
import Mathlib.Algebra.Group.Nat.Defs

namespace Caplv.Host

open Text Api Libvirt Program Controller

structure ReservedResources where
  vcpus : Int32
  memoryMB : Int32
deriving DecidableEq

structure NodeInfo where
  cpus : Int32
  memoryKB : Int64
deriving DecidableEq

structure Capacity where
  totalVCPUs : Int32
  totalMemoryMB : Int32
  availableVCPUs : Int32
  availableMemoryMB : Int32
deriving DecidableEq

structure LibvirtHostSpec where
  uri : String
  secretRef : Option SecretReference
  firmwarePath : String
  nvramTemplatePath : String
  reservedResources : Option ReservedResources
deriving DecidableEq

structure LibvirtHostStatus where
  ready : Bool
  capacity : Option Capacity
  conditions : List Condition
deriving DecidableEq

-- The LibvirtHost object as its own controller sees it.
structure HostObject where
  namespaceName : String
  name : String
  generation : Int
  spec : LibvirtHostSpec
  status : LibvirtHostStatus
deriving DecidableEq

def Capacity.available (capacity : Capacity) : HostCapacity :=
  ⟨capacity.availableVCPUs.toInt, capacity.availableMemoryMB.toInt⟩

-- What the machine controller reads of it.
def HostObject.read (host : HostObject) : LibvirtHost :=
  { namespaceName := host.namespaceName
    name := host.name
    uri := host.spec.uri
    secretRef := host.spec.secretRef
    firmwarePath := host.spec.firmwarePath
    nvramTemplatePath := host.spec.nvramTemplatePath
    ready := host.status.ready
    capacity := host.status.capacity.map Capacity.available }

inductive ProbeOp where
  | getSecret (key : ObjectKey)
  | dialSSH
  | ping
  | verifyHypervisor
  | verifySessionPrerequisites
  | getNodeInfo
deriving DecidableEq, Repr

@[reducible] def ProbeReply : ProbeOp → Type
  | .getSecret _ => Except ApiError Secret
  | .getNodeInfo => Except GoError NodeInfo
  | _ => Except GoError Unit

abbrev probes : Signature := ⟨ProbeOp, ProbeReply⟩

abbrev probe (op : ProbeOp) : Prog probes (ProbeReply op) := @Prog.perform probes op

def defaultReservedVCPUs : Int32 := 2
def defaultReservedMemoryMB : Int32 := 4096
def kilobytesPerMegabyte : Int64 := 1024

def reservedFor (reserved : Option ReservedResources) : ReservedResources :=
  match reserved with
  | none => ⟨defaultReservedVCPUs, defaultReservedMemoryMB⟩
  | some reserved => reserved

-- The arithmetic of performHealthCheck, in its own integer types.
def capacityFor (reserved : Option ReservedResources) (nodeInfo : NodeInfo) : Capacity :=
  let totalMemoryMB := (nodeInfo.memoryKB / kilobytesPerMegabyte).toInt32
  let availVCPUs := nodeInfo.cpus - (reservedFor reserved).vcpus
  let availMemoryMB := totalMemoryMB - (reservedFor reserved).memoryMB
  { totalVCPUs := nodeInfo.cpus
    totalMemoryMB := totalMemoryMB
    availableVCPUs := if availVCPUs < 0 then 0 else availVCPUs
    availableMemoryMB := if availMemoryMB < 0 then 0 else availMemoryMB }

namespace HostObject

variable (host : HostObject)

def setReachable (ready : Bool) (reason : Reason) (message : String) : HostObject :=
  { host with status := { host.status with
      ready := ready
      conditions := setStatusCondition host.status.conditions
        ⟨.reachable, ready, reason, message, host.generation⟩ } }

def unreachable (message : String) : HostObject := host.setReachable false .connectionFailed message

def discovered (nodeInfo : NodeInfo) : HostObject :=
  let capacity := capacityFor host.spec.reservedResources nodeInfo
  let measured := { host with status := { host.status with capacity := some capacity } }
  measured.setReachable true .connectionSucceeded ("SSH and libvirt verified; " ++
    toString capacity.availableVCPUs ++ " vCPUs / " ++ toString capacity.availableMemoryMB ++ " MB available")

end HostObject

def discoverCapacity (host : HostObject) : Prog probes HostObject := do
  match ← probe .getNodeInfo with
  | .error err => .done (host.unreachable ("Failed to get host capacity: " ++ err.message))
  | .ok nodeInfo => .done (host.discovered nodeInfo)

-- The probes behind a connection that was dialled.
def probeLibvirt (host : HostObject) (connURI : ConnURI) : Prog probes HostObject := do
  match ← probe .ping with
  | .error err => .done (host.unreachable ("Libvirt connectivity check failed: " ++ err.message))
  | .ok _ =>
    match ← probe .verifyHypervisor with
    | .error err =>
      .done (host.setReachable false .hypervisorUnavailable
        ("Libvirt is reachable but the QEMU/KVM hypervisor is unavailable (is qemu-kvm / " ++
          "libvirt-daemon-driver-qemu installed and KVM enabled?): " ++ err.message))
    | .ok _ =>
      if connURI = .session then
        match ← probe .verifySessionPrerequisites with
        | .error err =>
          .done (host.setReachable false .sessionModeMisconfigured
            ("Host is not set up for session-mode libvirt (run setup-host.yaml with " ++
              "libvirt_mode=session): " ++ err.message))
        | .ok _ => discoverCapacity host
      else discoverCapacity host

def performHealthCheck (deps : Deps) (host : HostObject) : Prog probes HostObject :=
  match host.spec.secretRef with
  | none => .done (host.unreachable "spec.secretRef is required for SSH connectivity")
  | some ref => do
      let secretNS := if ref.namespaceName = "" then host.namespaceName else ref.namespaceName
      match ← probe (.getSecret ⟨secretNS, ref.name⟩) with
      | .error err => .done (host.unreachable ("Failed to get SSH secret: " ++ err.message))
      | .ok _ =>
        match ← probe .dialSSH with
        | .error err => .done (host.unreachable ("SSH connection failed: " ++ err.message))
        | .ok _ =>
          match localConnectionURI deps host.spec.uri with
          | .error err => .done (host.unreachable ("Invalid libvirt connection URI: " ++ err.message))
          | .ok connURI => probeLibvirt host connURI

-- A check leaves the host ready only with the capacity of the counts it was given.
def Verdict (replies : Replies probes) (host after : HostObject) : Prop :=
  after.status.ready = false ∨ ∃ nodeInfo, replies .getNodeInfo (.ok nodeInfo) ∧ after = host.discovered nodeInfo

section Verdict

variable {replies : Replies probes} {host : HostObject}

theorem discoverCapacity_verdict : Emits replies (fun _ => True) (Verdict replies host) (discoverCapacity host) := by
  refine (emits_ask _ _).mpr ⟨trivial, fun info hinfo => ?_⟩
  cases info with
  | error err => exact .inl rfl
  | ok nodeInfo => exact .inr ⟨nodeInfo, hinfo, rfl⟩

theorem probeLibvirt_verdict (connURI : ConnURI) :
    Emits replies (fun _ => True) (Verdict replies host) (probeLibvirt host connURI) := by
  refine (emits_ask _ _).mpr ⟨trivial, fun pinged _ => ?_⟩
  cases pinged with
  | error err => exact .inl rfl
  | ok _ =>
    refine (emits_ask _ _).mpr ⟨trivial, fun hypervisor _ => ?_⟩
    cases hypervisor with
    | error err => exact .inl rfl
    | ok _ =>
      change @Emits probes _ _ _ _ (if connURI = .session then _ else _)
      split
      · refine (emits_ask _ _).mpr ⟨trivial, fun session _ => ?_⟩
        cases session with
        | error err => exact .inl rfl
        | ok _ => exact discoverCapacity_verdict
      · exact discoverCapacity_verdict

theorem performHealthCheck_verdict (deps : Deps) (host : HostObject) :
    Emits replies (fun _ => True) (Verdict replies host) (performHealthCheck deps host) := by
  rw [performHealthCheck]
  split
  · exact .inl rfl
  · refine (emits_ask _ _).mpr ⟨trivial, fun secret _ => ?_⟩
    cases secret with
    | error err => exact .inl rfl
    | ok secret =>
      refine (emits_ask _ _).mpr ⟨trivial, fun dialled _ => ?_⟩
      cases dialled with
      | error err => exact .inl rfl
      | ok _ =>
        change @Emits probes _ _ _ _ (match localConnectionURI deps host.spec.uri with
          | .error err => _ | .ok connURI => _)
        split
        · exact .inl rfl
        · exact probeLibvirt_verdict _

end Verdict

section Arithmetic

variable (reserved : Option ReservedResources) (nodeInfo : NodeInfo)

theorem clamp_nonneg (avail : Int32) : 0 ≤ (if avail < 0 then 0 else avail : Int32).toInt := by
  split
  · exact Int.le_of_eq Int32.toInt_zero.symm
  · rename_i h
    rw [Int32.lt_iff_toInt_lt, Int32.toInt_zero] at h
    omega

theorem availableVCPUs_nonneg : 0 ≤ (capacityFor reserved nodeInfo).available.availableVCPUs :=
  clamp_nonneg _

theorem availableMemoryMB_nonneg : 0 ≤ (capacityFor reserved nodeInfo).available.availableMemoryMB :=
  clamp_nonneg _

theorem totalMemoryMB_toInt (hmemory : 0 ≤ nodeInfo.memoryKB.toInt) :
    (capacityFor reserved nodeInfo).totalMemoryMB.toInt = (nodeInfo.memoryKB.toInt / 1024).bmod (2 ^ 32) := by
  change (nodeInfo.memoryKB / kilobytesPerMegabyte).toInt32.toInt = _
  have hdivisor : kilobytesPerMegabyte.toInt = 1024 := rfl
  rw [Int64.toInt_toInt32, Int64.toInt_div, Int.bmod_bmod_of_dvd (by decide), hdivisor,
    Int.tdiv_eq_ediv_of_nonneg hmemory]

theorem clamp_sub_le {total reserve : Int32} {count : Int} (hcount : 0 ≤ count)
    (htotal : total.toInt = count.bmod (2 ^ 32)) (hreserve : 0 ≤ reserve.toInt)
    (hpos : 0 < (if total - reserve < 0 then 0 else total - reserve : Int32).toInt) :
    (if total - reserve < 0 then 0 else total - reserve : Int32).toInt + reserve.toInt ≤ count := by
  have hreserved := Int32.toInt_lt reserve
  split at hpos
  · rw [Int32.toInt_zero] at hpos
    omega
  · rename_i hkept
    have hdiff : (total - reserve).toInt = (count - reserve.toInt).bmod (2 ^ 32) := by
      rw [Int32.toInt_sub, htotal, Int.bmod_sub_bmod]
    have hbmod := Int.bmod_def (count - reserve.toInt) (2 ^ 32)
    rw [if_neg hkept, hdiff]
    omega

end Arithmetic

end Caplv.Host

import Caplv.Controller.World
import Caplv.Host.HealthCheck

namespace Caplv.Host

open Text Api Libvirt Scope Program Controller

-- The domain's sizes are within what the host has available.
def Fits (capacity : Capacity) (xmlDef : DomainXML) : Prop :=
  xmlDef.vcpu ≤ capacity.availableVCPUs.toInt ∧
    xmlDef.memoryKiB ≤ capacity.availableMemoryMB.toInt * memoryMBToKBMultiplier

instance (capacity : Capacity) (xmlDef : DomainXML) : Decidable (Fits capacity xmlDef) :=
  inferInstanceAs (Decidable (_ ∧ _))

-- The spec's own sizes are; one that is left out is zero.
def SizesFit (capacity : Capacity) (domain : DomainSpec) : Prop :=
  domain.vcpus ≤ capacity.availableVCPUs.toInt ∧ domain.memoryMB ≤ capacity.availableMemoryMB.toInt

-- The domain and the reservation together are within the host's totals.
def WithinTotals (nodeInfo : NodeInfo) (reserved : ReservedResources) (xmlDef : DomainXML) : Prop :=
  xmlDef.vcpu + reserved.vcpus.toInt ≤ nodeInfo.cpus.toInt ∧
    xmlDef.memoryKiB + reserved.memoryMB.toInt * memoryMBToKBMultiplier ≤ nodeInfo.memoryKB.toInt

structure Counts (nodeInfo : NodeInfo) (reserved : ReservedResources) : Prop where
  cpus : 0 ≤ nodeInfo.cpus.toInt
  memoryKB : 0 ≤ nodeInfo.memoryKB.toInt
  reservedVCPUs : 0 ≤ reserved.vcpus.toInt
  reservedMemoryMB : 0 ≤ reserved.memoryMB.toInt

section Arithmetic

variable {reserved : Option ReservedResources} {nodeInfo : NodeInfo} {xmlDef : DomainXML}

theorem fits_iff_sizesFit {domain : DomainSpec}
    (hvcpu : xmlDef.vcpu = (sizedFrom domain (capacityFor reserved nodeInfo).available).1)
    (hmemory : xmlDef.memoryKiB =
      (sizedFrom domain (capacityFor reserved nodeInfo).available).2 * memoryMBToKBMultiplier) :
    Fits (capacityFor reserved nodeInfo) xmlDef ↔ SizesFit (capacityFor reserved nodeInfo) domain := by
  have hvcpus := availableVCPUs_nonneg reserved nodeInfo
  have hmemoryMB := availableMemoryMB_nonneg reserved nodeInfo
  simp only [Capacity.available, sizedFrom] at hvcpu hmemory hvcpus hmemoryMB
  rw [Fits, SizesFit, hvcpu, hmemory, memoryMBToKBMultiplier]
  by_cases hauto : domain.vcpus = 0 <;> by_cases hautoMB : domain.memoryMB = 0 <;>
    simp only [hauto, hautoMB, if_true, if_false] <;> omega

theorem fits_within (hcounts : Counts nodeInfo (reservedFor reserved)) (hvcpu : 0 < xmlDef.vcpu)
    (hmemory : 0 < xmlDef.memoryKiB) (hfits : Fits (capacityFor reserved nodeInfo) xmlDef) :
    WithinTotals nodeInfo (reservedFor reserved) xmlDef := by
  have htotal : nodeInfo.cpus.toInt = nodeInfo.cpus.toInt.bmod (2 ^ 32) := by
    have hlow := Int32.le_toInt nodeInfo.cpus
    have hhigh := Int32.toInt_lt nodeInfo.cpus
    exact (Int.bmod_eq_of_le (by omega) (by omega)).symm
  obtain ⟨hfitsVCPUs, hfitsMemory⟩ := hfits
  rw [memoryMBToKBMultiplier] at hfitsMemory
  have hroom : 0 < (capacityFor reserved nodeInfo).availableMemoryMB.toInt := by omega
  have hvcpus : (capacityFor reserved nodeInfo).availableVCPUs.toInt + (reservedFor reserved).vcpus.toInt ≤
      nodeInfo.cpus.toInt :=
    clamp_sub_le hcounts.cpus htotal hcounts.reservedVCPUs (Int.lt_of_lt_of_le hvcpu hfitsVCPUs)
  have hmemoryMB : (capacityFor reserved nodeInfo).availableMemoryMB.toInt +
      (reservedFor reserved).memoryMB.toInt ≤ nodeInfo.memoryKB.toInt / 1024 :=
    clamp_sub_le (Int.ediv_nonneg hcounts.memoryKB (by decide)) (totalMemoryMB_toInt reserved nodeInfo hcounts.memoryKB)
      hcounts.reservedMemoryMB hroom
  rw [WithinTotals, memoryMBToKBMultiplier]
  constructor <;> omega

end Arithmetic

-- GetNodeInfo, where it answers, reports these counts; nothing is said about the other probes.
def reporting (nodeInfo : NodeInfo) : Replies probes := fun op reply =>
  match op, reply with
  | .getNodeInfo, .ok found => found = nodeInfo
  | _, _ => True

def Checked (deps : Deps) (nodeInfo : NodeInfo) (host after : HostObject) : Prop :=
  Completes (fun (_ : Unit) op reply _ => reporting nodeInfo op reply) (performHealthCheck deps host) () after ()

-- A domain is defined with sizes that fit if and only if the spec's own do, and where they
-- fit the domain and the host's reservation are within the counts.
def SizedOp (domain : DomainSpec) (reserved : ReservedResources) (nodeInfo : NodeInfo) (checked : HostObject) :
    Op → Prop
  | .client _ (.defineDomain xmlDef) =>
    ∃ capacity, checked.status.capacity = some capacity ∧
      (Fits capacity xmlDef ↔ SizesFit capacity domain) ∧
      (Fits capacity xmlDef → Counts nodeInfo reserved → 0 < xmlDef.vcpu → 0 < xmlDef.memoryKiB →
        WithinTotals nodeInfo reserved xmlDef)
  | _ => True

theorem defined_domain_fits_iff (deps : Deps) (nodeInfo : NodeInfo) (host checked : HostObject)
    (hchecked : Checked deps nodeInfo host checked) (lm : LibvirtMachine) (machine : Machine) (cluster : Cluster)
    (libvirtCluster : LibvirtCluster) :
    Emits anyReply (SizedOp lm.spec.domain (reservedFor host.spec.reservedResources) nodeInfo checked)
      (fun _ => True) (reconcileNormal deps lm machine cluster libvirtCluster checked.read) := by
  have hcheck : Emits (reporting nodeInfo) (fun _ => True) (Verdict (reporting nodeInfo) host)
      (performHealthCheck deps host) := performHealthCheck_verdict deps host
  rcases Holds.completes hcheck hchecked with hfailed | ⟨found, rfl, rfl⟩
  -- a host whose check failed is not ready, and reconcileNormal ends at its first gate
  · have hread : checked.read.ready = false := hfailed
    rw [reconcileNormal, hread]
    exact trivial
  · have hgate (op : Op) (hop : GateOp op) : SizedOp lm.spec.domain (reservedFor host.spec.reservedResources)
        found (host.discovered found) op := by
      cases op <;> first | exact hop.elim | trivial
    refine reconcileNormal_holds_of_provision (fun _ => True) (fun _ op _ => hgate op)
      (fun _ _ _ _ _ _ _ => trivial) (fun _ _ _ _ => trivial) ?_ trivial
    intro vcpus memoryMB status _ _ hsizes rc
    have hprovision : Emits anyReply _ _ _ :=
      provision_keeps deps rc (poolInv_vars rc) (rc.initialState status) (.inl rfl)
    refine hprovision.mono (fun _ _ hr => hr) (fun op hop => ?_) fun _ _ => trivial
    cases op with
    | client hostKey call =>
      cases call with
      | defineDomain xmlDef =>
        obtain ⟨-, hcall⟩ := hop
        cases hcall with
        | defineDomain _ hname hsized =>
          have hsizes : (vcpus, memoryMB) =
              sizedFrom lm.spec.domain (capacityFor host.spec.reservedResources found).available := hsizes
          refine ⟨capacityFor host.spec.reservedResources found, rfl, fits_iff_sizesFit ?_ ?_, ?_⟩
          · exact hsized.1.trans (congrArg Prod.fst hsizes)
          · rw [hsized.2, ← congrArg Prod.snd hsizes]
          · exact fun hfits hcounts hvcpu hmemory => fits_within hcounts hvcpu hmemory hfits
      | _ => trivial
    | _ => trivial

def sampleHostObject : HostObject :=
  ⟨"ns", "h", 1, ⟨"qemu+ssh://h/system", some ⟨"ssh", ""⟩, "", "", none⟩, ⟨false, none, []⟩⟩

def sampleProbe : Program.Machine probes Unit
  | _, .getSecret _ => (.ok ⟨[]⟩, ())
  | _, .getNodeInfo => (.ok ⟨4, 8388608⟩, ())
  | _, .dialSSH | _, .ping | _, .verifyHypervisor | _, .verifySessionPrerequisites => (.ok (), ())

def checkedHost : HostObject := (run sampleProbe (performHealthCheck sampleDeps sampleHostObject) ()).1

theorem sampleHostObject_checked : Checked sampleDeps ⟨4, 8388608⟩ sampleHostObject checkedHost := by
  have hpermitted : permitted sampleProbe (fun _ _ => true) (performHealthCheck sampleDeps sampleHostObject) () =
      true := by decide +kernel
  refine completes_of_permitted (fun _ op _ => ?_) hpermitted
  cases op <;> trivial

theorem defined_domain_fits_sample :
    Checked sampleDeps ⟨4, 8388608⟩ sampleHostObject checkedHost ∧
      Emits anyReply (SizedOp sampleMachine.spec.domain ⟨2, 4096⟩ ⟨4, 8388608⟩ checkedHost) (fun _ => True)
        (reconcileNormal sampleDeps sampleMachine sampleOwner sampleCluster sampleLibvirtCluster
          checkedHost.read) :=
  ⟨sampleHostObject_checked, defined_domain_fits_iff _ _ _ _ sampleHostObject_checked _ _ _ _⟩

def fitting (capacity : Capacity) : Op → Bool
  | .client _ (.defineDomain xmlDef) => decide (Fits capacity xmlDef)
  | _ => true

def oversizedMachine : LibvirtMachine :=
  { sampleMachine with
    spec := { sampleMachine.spec with domain := ⟨64, 2048, "q35", .uefi⟩ } }

theorem oversized_domain_defined :
    Checked sampleDeps ⟨4, 8388608⟩ sampleHostObject checkedHost ∧
      ∃ capacity, checkedHost.status.capacity = some capacity ∧
        ¬ Emits anyReply (fun op => fitting capacity op = true) (fun _ => True)
          (reconcileNormal sampleDeps oversizedMachine sampleOwner sampleCluster sampleLibvirtCluster
            checkedHost.read) := by
  refine ⟨sampleHostObject_checked, capacityFor none ⟨4, 8388608⟩, rfl, fun hfits => ?_⟩
  have hpermitted : permitted (fun (_ : Unit) op => (freshAnswer op, ()))
      (fun _ => fitting (capacityFor none ⟨4, 8388608⟩)) (reconcileNormal sampleDeps oversizedMachine
        sampleOwner sampleCluster sampleLibvirtCluster checkedHost.read) () = true :=
    Holds.permitted hfits (fun _ _ => trivial) fun _ _ hop => hop
  exact absurd hpermitted (by decide +kernel)

end Caplv.Host

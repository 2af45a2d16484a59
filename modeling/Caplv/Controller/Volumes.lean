import Caplv.Controller.Calls
import Caplv.Controller.Reconcile
import Caplv.Scope.Names
import Caplv.Webhook.Machine
import Mathlib.Data.List.Dedup

namespace Caplv.Controller

open Api Libvirt Scope Program

-- The pools a run puts a machine's own volumes in. A run that falls through a failed check of the
-- ephemeral pool goes on in the operator's.
def ownPools (scope : MachineScope) : List String :=
  (scope.libvirtMachine.spec.rootDisk.storagePool ::
    if scope.libvirtMachine.spec.rootDisk.ephemeralPool then [scope.ephemeralPoolName] else []).dedup

-- A full clone is made next to the base image.
def clonePools (rootDisk : RootDiskSpec) : List String :=
  match rootDisk.cloneStrategy with
  | .fullClone => [if rootDisk.baseImagePool = "" then rootDisk.storagePool else rootDisk.baseImagePool]
  | .copyOnWrite => []

-- The pools the root disk is looked for, made or attached in.
def rootDiskPools (scope : MachineScope) : List String :=
  (ownPools scope ++ clonePools scope.libvirtMachine.spec.rootDisk).dedup

-- The volumes of a machine, each with its pool.
def volumes (scope : MachineScope) : List (String × String) :=
  (rootDiskPools scope).map (·, scope.rootDiskVolumeName) ++ ((ownPools scope).map (·, scope.bootstrapISOName) ++
    scope.libvirtMachine.spec.additionalDisks.map fun disk =>
      (disk.storagePool, scope.additionalDiskVolumeName disk))

-- No additional disk is called root in a pool of the root disk, and no two share a name in one pool.
def DisksApart (scope : MachineScope) : Prop :=
  (∀ disk ∈ scope.libvirtMachine.spec.additionalDisks, disk.name = "root" →
    disk.storagePool ∉ rootDiskPools scope) ∧
  (scope.libvirtMachine.spec.additionalDisks.map fun disk => (disk.storagePool, disk.name)).Nodup

def volumeOf : ClientCall → Option (String × String)
  | .volumeExists pool volume | .getVolumePath pool volume | .createVolume pool volume _
  | .createVolumeFromBackingStore pool volume _ _ | .cloneVolume pool _ volume => some (pool, volume)
  | _ => none

def SparesRootDisk (scope : MachineScope) : Op → Prop
  | .client _ call => ∀ pool ∈ rootDiskPools scope, volumeOf call ≠ some (pool, scope.rootDiskVolumeName)
  | _ => True

def OwnRootDiskOp (rc : ReconcileCtx) : Op → Prop
  | .client _ call => ∀ pool volume, volumeOf call = some (pool, volume) →
      volume = rc.rootDiskVolume ∧ pool ∈ rootDiskPools rc.machineScope ∨
        volume = rc.spec.rootDisk.baseImage ∧ pool = rc.baseImagePool
  | _ => True

section Names

variable {scope : MachineScope}

theorem additionalDiskVolumeName_inj {disk disk' : AdditionalDiskSpec} :
    scope.additionalDiskVolumeName disk = scope.additionalDiskVolumeName disk' ↔ disk.name = disk'.name := by
  rw [MachineScope.additionalDiskVolumeName, MachineScope.additionalDiskVolumeName, String.append_left_inj,
    String.append_right_inj]

theorem additionalDiskVolumeName_eq_root {disk : AdditionalDiskSpec} :
    scope.additionalDiskVolumeName disk = scope.rootDiskVolumeName ↔ disk.name = "root" := by
  rw [scope.rootDiskVolumeName_eq, MachineScope.labelledVolume, MachineScope.additionalDiskVolumeName,
    String.append_left_inj, String.append_right_inj]

theorem bootstrapISOName_ne_additional (disk : AdditionalDiskSpec) :
    scope.bootstrapISOName ≠ scope.additionalDiskVolumeName disk :=
  scope.bootstrapISOName_ne_labelledVolume scope disk.name

theorem rootDiskVolumeName_ne_bootstrapISOName : scope.rootDiskVolumeName ≠ scope.bootstrapISOName := by
  rw [scope.rootDiskVolumeName_eq]
  exact (scope.bootstrapISOName_ne_labelledVolume scope "root").symm

theorem diskVolumes_nodup_iff (disks : List AdditionalDiskSpec) :
    (disks.map fun disk => (disk.storagePool, scope.additionalDiskVolumeName disk)).Nodup ↔
      (disks.map fun disk => (disk.storagePool, disk.name)).Nodup := by
  simp only [List.nodup_iff_pairwise_ne, List.pairwise_map, ne_eq, Prod.mk.injEq,
    additionalDiskVolumeName_inj]

theorem volumes_nodup_iff : (volumes scope).Nodup ↔ DisksApart scope := by
  have hroots : ((rootDiskPools scope).map (·, scope.rootDiskVolumeName)).Nodup :=
    (List.nodup_dedup _).map fun _ _ h => congrArg Prod.fst h
  have hisos : ((ownPools scope).map (·, scope.bootstrapISOName)).Nodup :=
    (List.nodup_dedup _).map fun _ _ h => congrArg Prod.fst h
  rw [volumes, List.nodup_append', List.nodup_append', diskVolumes_nodup_iff]
  constructor
  · rintro ⟨-, ⟨-, hdisks, -⟩, hapart⟩
    refine ⟨fun disk hdisk hname hpool => ?_, hdisks⟩
    refine hapart (List.mem_map_of_mem hpool) (List.mem_append_right _ (List.mem_map.mpr ⟨disk, hdisk, ?_⟩))
    rw [additionalDiskVolumeName_eq_root.mpr hname]
  · rintro ⟨hroot, hdisks⟩
    refine ⟨hroots, ⟨hisos, hdisks, ?_⟩, ?_⟩
    · rintro _ hiso hmem
      obtain ⟨pool, -, rfl⟩ := List.mem_map.mp hiso
      obtain ⟨disk, -, hpair⟩ := List.mem_map.mp hmem
      exact bootstrapISOName_ne_additional disk (congrArg Prod.snd hpair).symm
    · rintro _ hmade hmem
      obtain ⟨pool, hpool, rfl⟩ := List.mem_map.mp hmade
      rcases List.mem_append.mp hmem with hiso | hmem
      · obtain ⟨other, -, hpair⟩ := List.mem_map.mp hiso
        exact rootDiskVolumeName_ne_bootstrapISOName (congrArg Prod.snd hpair).symm
      · obtain ⟨disk, hdisk, hpair⟩ := List.mem_map.mp hmem
        obtain ⟨rfl, hvolume⟩ := Prod.mk.inj hpair
        exact hroot disk hdisk (additionalDiskVolumeName_eq_root.mp hvolume) hpool

end Names

section Steps

variable {rc : ReconcileCtx}

theorem mem_rootDiskPools_of_ownPool {pool : String} (h : rc.OwnPool pool) :
    pool ∈ rootDiskPools rc.machineScope := by
  refine List.mem_dedup.mpr (List.mem_append_left _ (List.mem_dedup.mpr ?_))
  rcases h with rfl | ⟨heph, rfl⟩
  · exact List.mem_cons_self
  · refine List.mem_cons_of_mem _ ?_
    rw [if_pos (show rc.machineScope.libvirtMachine.spec.rootDisk.ephemeralPool = true from heph)]
    exact List.mem_singleton_self _

theorem baseImagePool_mem_rootDiskPools (hclone : rc.spec.rootDisk.cloneStrategy = .fullClone) :
    rc.baseImagePool ∈ rootDiskPools rc.machineScope := by
  refine List.mem_dedup.mpr (List.mem_append_right _ ?_)
  rw [clonePools, show rc.machineScope.libvirtMachine.spec.rootDisk.cloneStrategy = .fullClone from hclone]
  exact List.mem_singleton_self _

theorem reconcileRootDisk_volumes {st : RunState} (hst : rc.OwnPool st.storagePool) :
    Emits anyReply (OwnRootDiskOp rc) (fun _ => True) (reconcileRootDisk rc st) := by
  have hrecords : Records anyReply (OwnRootDiskOp rc) fun st => rc.OwnPool st.storagePool :=
    ⟨fun _ _ => trivial, fun _ _ _ _ h => h⟩
  have hallowed (call : ClientCall) (hcall : RootDiskCall rc rc.OwnPool call) :
      OwnRootDiskOp rc (.client rc.hostKey call) := by
    intro pool volume hvolume
    cases hcall with
    | lookup _ hpool | create _ hpool =>
      cases hvolume
      exact .inl ⟨rfl, mem_rootDiskPools_of_ownPool hpool⟩
    | clone hstrategy =>
      cases hvolume
      exact .inl ⟨rfl, baseImagePool_mem_rootDiskPools hstrategy⟩
    | basePath =>
      cases hvolume
      exact .inr ⟨rfl, rfl⟩
    | _ => cases hvolume
  have hkeeps := reconcileRootDisk_keeps rc.OwnPool (fun _ h => h) (fun _ heph _ => .inr ⟨heph, rfl⟩) hallowed
    (fun call hcall => callOrHandle_keeps (hallowed call hcall) fun _ _ _ => hrecords)
    fun call hcall _ => callOnBaseImage_keeps (hallowed call hcall) (fun _ _ _ => hrecords) fun _ _ _ => hrecords
  exact (hkeeps st hst).post_mono fun _ _ => trivial

theorem reconcileAdditionalDisks_spares (hapart : DisksApart rc.machineScope) (st : RunState) :
    Emits anyReply (SparesRootDisk rc.machineScope) (fun _ => True) (reconcileAdditionalDisks rc st) := by
  have hrecords : Records anyReply (SparesRootDisk rc.machineScope) fun _ => True :=
    ⟨fun _ _ => trivial, fun _ _ _ _ _ => trivial⟩
  have hkeeps : Fn.Keeps anyReply (SparesRootDisk rc.machineScope) (fun _ => True) (reconcileAdditionalDisks rc) := by
    refine reconcileAdditionalDisks_keeps (fun _ _ _ _ => trivial) fun disk hdisk call hcall operation => ?_
    have hother (pool : String) (hpool : pool ∈ rootDiskPools rc.machineScope) :
        (disk.storagePool, rc.machineScope.additionalDiskVolumeName disk) ≠
          (pool, rc.machineScope.rootDiskVolumeName) := by
      intro hpair
      obtain ⟨rfl, hvolume⟩ := Prod.mk.inj hpair
      exact hapart.1 disk hdisk (additionalDiskVolumeName_eq_root.mp hvolume) hpool
    refine callOrHandle_keeps ?_ (fun _ _ _ => hrecords) operation
    cases hcall <;> exact fun pool hpool hsome => hother pool hpool (Option.some.inj hsome)
  exact (hkeeps st trivial).post_mono fun _ _ => trivial

end Steps

-- The root disk step keeps to the root disk's pools, and with the volumes apart no additional disk
-- is the root disk.
theorem machine_volumes_distinct_iff (rc : ReconcileCtx) (st : RunState) :
    ((volumes rc.machineScope).Nodup ↔ DisksApart rc.machineScope) ∧
      (rc.OwnPool st.storagePool →
        Emits anyReply (OwnRootDiskOp rc) (fun _ => True) (reconcileRootDisk rc st)) ∧
      (DisksApart rc.machineScope →
        Emits anyReply (SparesRootDisk rc.machineScope) (fun _ => True) (reconcileAdditionalDisks rc st)) :=
  ⟨volumes_nodup_iff, reconcileRootDisk_volumes, fun hapart => reconcileAdditionalDisks_spares hapart st⟩

def withDisks (disks : List AdditionalDiskSpec) : LibvirtMachine :=
  { sampleMachine with spec := { sampleMachine.spec with additionalDisks := disks } }

def scopeWithDisks (disks : List AdditionalDiskSpec) : MachineScope :=
  ⟨sampleCluster, withDisks disks, sampleHost⟩

-- A data disk called root, and two data disks of one name; the webhook accepts both specs.
theorem machine_volumes_clash :
    (Webhook.validateCreate (fun _ => none) (some (.ok [])) (withDisks [⟨"root", 1073741824, "default", "virtio"⟩]) =
        .ok () ∧
      ¬ (volumes (scopeWithDisks [⟨"root", 1073741824, "default", "virtio"⟩])).Nodup) ∧
    (Webhook.validateCreate (fun _ => none) (some (.ok []))
        (withDisks [⟨"data", 1073741824, "default", "virtio"⟩, ⟨"data", 2147483648, "default", "virtio"⟩]) =
        .ok () ∧
      ¬ (volumes (scopeWithDisks
        [⟨"data", 1073741824, "default", "virtio"⟩, ⟨"data", 2147483648, "default", "virtio"⟩])).Nodup) := by
  decide +kernel

end Caplv.Controller

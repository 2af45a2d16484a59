import Caplv.Controller.Cleanup
import Caplv.Controller.Volumes
import Caplv.Controller.World
import Caplv.Libvirt.Host
import Caplv.Scope.Names
import Caplv.Csr.Theorems

namespace Caplv.Controller

open Text Api Libvirt Scope Program

def Owns (scope : MachineScope) : Key → Prop
  | .domain name | .node name => name = scope.domainName
  | .volume pool name => (pool, name) ∈ volumes scope
  | .pool name => name = scope.ephemeralPoolName
  | .file path => path = scope.ignitionFilePath
  | .mount _ => False

-- The objects a call of a cleanup can remove. A pool goes with its volumes and with the files under
-- its path.
def Removes (poolPath : String) : ClientCall → Key → Prop
  | .destroyDomain name, key | .undefineDomain name, key => key = .domain name
  | .deleteVolume pool name, key => key = .volume pool name
  | .deleteRemoteFile path, key => key = .file path
  | .destroyPool name, key => key = .pool name ∨ (∃ volume, key = .volume name volume) ∨
      ∃ file, key = .file file ∧ under poolPath file = true
  | _, _ => False

-- The operation removes nothing of the machine. A call reaches the objects of the computer its
-- LibvirtHost stands for, a Node is the cluster's.
def LeavesAlone (site : ObjectKey → String) (poolPath : String) (scope : MachineScope) : Op → Prop
  | .client host call => site host = site (LibvirtHost.key scope.libvirtHost) →
      ∀ key, Removes poolPath call key → ¬ Owns scope key
  | .deleteNode name => ¬ Owns scope (.node name)
  | _ => True

-- The disks that a deletion goes for and those that a machine has, by pool and label.
def diskLabels (scope : MachineScope) (rootPools : List String) : List (String × String) :=
  rootPools.map (·, "root") ++
    scope.libvirtMachine.spec.additionalDisks.map fun disk => (disk.storagePool, disk.name)

-- The names differ, and on one computer no disk that goes is one of the other machine's, nor does
-- the other machine keep a volume in the pool that goes.
structure DeletionApart (site : ObjectKey → String) (a b : MachineScope) : Prop where
  names : a.segments ≠ b.segments
  disks : site (LibvirtHost.key a.libvirtHost) = site (LibvirtHost.key b.libvirtHost) →
    ∀ x ∈ diskLabels a [deletionPool a], ∀ y ∈ diskLabels b (rootDiskPools b), x.1 = y.1 →
      a.segments ++ segments x.2 ≠ b.segments ++ segments y.2
  pool : site (LibvirtHost.key a.libvirtHost) = site (LibvirtHost.key b.libvirtHost) →
    a.libvirtMachine.spec.rootDisk.ephemeralPool = true →
      ∀ y ∈ diskLabels b (rootDiskPools b), y.1 ≠ a.ephemeralPoolName

-- Nothing stops a deletion of the machine before it comes to the host.
structure ComesToHost (deps : Deps) (scope : MachineScope) : Prop where
  finalizer : scope.libvirtMachine.containsFinalizer = true
  ready : scope.libvirtHost.ready = true
  secret : ∃ ref, scope.libvirtHost.secretRef = some ref
  uri : ∃ uri, localConnectionURI deps scope.libvirtHost.uri = .ok uri

def CleanupOp (scope : MachineScope) (op : Op) : Prop := ReadOp op ∨ DeleteOp scope op

theorem reconcileDelete_emits {replies : Replies signature} (deps : Deps) (scope : MachineScope) :
    Emits replies (CleanupOp scope) (fun _ => True)
      (reconcileDelete deps scope.libvirtMachine scope.cluster scope.libvirtHost) := by
  refine reconcileDelete_holds_of_cleanUp (fun _ => True) (fun _ _ => True)
    (fun _ _ _ _ => trivial) (fun _ _ _ _ _ => trivial) (fun w _ => ?_) (fun _ _ _ _ _ => trivial)
    (fun w _ => ?_) trivial
  · exact (createClients_emits deps scope.libvirtHost).mono (fun _ _ hr => hr) (fun _ => .inl) fun _ h => h
  · refine Holds.post_mono ((@cleanUp_keeps scope replies (fun _ => True) scope.libvirtMachine trivial).mono
      (fun _ _ hr => hr) (fun _ => .inr) fun _ h => h) ?_
    rintro ⟨out, lm⟩ - -
    cases out <;> trivial

theorem ignitionFile_not_under {a b : MachineScope} (hslash : '/' ∉ b.artifactBaseName.toList)
    (hbase : a.artifactBaseName ≠ b.artifactBaseName) :
    under a.ephemeralPoolPath b.ignitionFilePath = false := by
  rw [← Bool.not_eq_true]
  intro hunder
  obtain ⟨rest, hrest⟩ := (hasPrefix_iff _ _).mp hunder
  rw [MachineScope.ignitionFilePath, MachineScope.ephemeralPoolPath, String.append_assoc,
    String.append_assoc, String.append_assoc, String.append_right_inj] at hrest
  have hchars : b.artifactBaseName.toList ++ '/' :: "ignition.json".toList =
      a.artifactBaseName.toList ++ '/' :: rest.toList := by
    simpa using congrArg String.toList hrest
  have heq := (List.append_cons_inj_of_notMem hslash (by decide)).mp hchars
  exact hbase (String.toList_inj.mp heq.1.symm)

section Labels

variable {scope : MachineScope}

theorem mem_diskLabels {pools : List String} {pool label : String} :
    (pool, label) ∈ diskLabels scope pools ↔ pool ∈ pools ∧ label = "root" ∨
      ∃ disk ∈ scope.libvirtMachine.spec.additionalDisks, disk.storagePool = pool ∧ disk.name = label := by
  simp [diskLabels, eq_comm]

theorem label_mem_diskLabels {pools : List String} {pool name : String}
    (h : (pool, name) ∈ pools.map (·, scope.rootDiskVolumeName) ++
      scope.libvirtMachine.spec.additionalDisks.map fun disk =>
        (disk.storagePool, scope.additionalDiskVolumeName disk)) :
    ∃ label, (pool, label) ∈ diskLabels scope pools ∧ name = scope.labelledVolume label := by
  rcases List.mem_append.mp h with hroot | hdisk
  · obtain ⟨other, hother, hpair⟩ := List.mem_map.mp hroot
    obtain ⟨rfl, rfl⟩ := Prod.mk.inj hpair
    exact ⟨"root", mem_diskLabels.mpr (.inl ⟨hother, rfl⟩), scope.rootDiskVolumeName_eq⟩
  · obtain ⟨disk, hmem, hpair⟩ := List.mem_map.mp hdisk
    obtain ⟨rfl, rfl⟩ := Prod.mk.inj hpair
    exact ⟨disk.name, mem_diskLabels.mpr (.inr ⟨disk, hmem, rfl, rfl⟩), rfl⟩

theorem labelled_mem_volumes {pool label : String} (h : (pool, label) ∈ diskLabels scope (rootDiskPools scope)) :
    (pool, scope.labelledVolume label) ∈ volumes scope := by
  rcases mem_diskLabels.mp h with ⟨hpool, rfl⟩ | ⟨disk, hmem, rfl, rfl⟩
  · exact List.mem_append_left _ (List.mem_map.mpr ⟨pool, hpool, by rw [scope.rootDiskVolumeName_eq]⟩)
  · exact List.mem_append_right _ (List.mem_append_right _ (List.mem_map.mpr ⟨disk, hmem, rfl⟩))

theorem volumes_cases {pool name : String} (h : (pool, name) ∈ volumes scope) :
    (name = scope.bootstrapISOName ∧ (pool, "root") ∈ diskLabels scope (rootDiskPools scope)) ∨
      ∃ label, (pool, label) ∈ diskLabels scope (rootDiskPools scope) ∧ name = scope.labelledVolume label := by
  rcases List.mem_append.mp h with hroot | hrest
  · exact .inr (label_mem_diskLabels (List.mem_append_left _ hroot))
  · rcases List.mem_append.mp hrest with hiso | hdisk
    · obtain ⟨other, hother, hpair⟩ := List.mem_map.mp hiso
      obtain ⟨rfl, rfl⟩ := Prod.mk.inj hpair
      exact .inl ⟨rfl, mem_diskLabels.mpr (.inl ⟨List.mem_dedup.mpr (List.mem_append_left _ hother), rfl⟩)⟩
    · exact .inr (label_mem_diskLabels (List.mem_append_right _ hdisk))

theorem deleteCall_of_label {pool label : String} (h : (pool, label) ∈ diskLabels scope [deletionPool scope]) :
    DeleteCall scope (.deleteVolume pool (scope.labelledVolume label)) := by
  rcases mem_diskLabels.mp h with ⟨hpool, rfl⟩ | ⟨disk, hmem, rfl, rfl⟩
  · rw [← scope.rootDiskVolumeName_eq, List.mem_singleton.mp hpool]
    exact .deleteRoot
  · exact .deleteDisk disk hmem

end Labels

section Apart

variable {site : ObjectKey → String} {a b : MachineScope}

theorem deleteCall_leavesAlone (hapart : DeletionApart site a b) (hslash : '/' ∉ b.artifactBaseName.toList)
    (hsite : site (LibvirtHost.key a.libvirtHost) = site (LibvirtHost.key b.libvirtHost)) {call : ClientCall}
    (hcall : DeleteCall a call) {key : Key} (hremoves : Removes a.ephemeralPoolPath call key) : ¬ Owns b key := by
  have hnames := (MachineScope.namesApart_iff a b).mpr hapart.names
  have hvolume {pool name : String} (h : (pool, name) ∈ [deletionPool a].map (·, a.rootDiskVolumeName) ++
      a.libvirtMachine.spec.additionalDisks.map fun disk => (disk.storagePool, a.additionalDiskVolumeName disk)) :
      ¬ Owns b (.volume pool name) := by
    obtain ⟨label, hlabel, rfl⟩ := label_mem_diskLabels h
    intro howns
    rcases volumes_cases howns with ⟨hiso, -⟩ | ⟨other, hother, heq⟩
    · exact b.bootstrapISOName_ne_labelledVolume a label hiso.symm
    · exact hapart.disks hsite _ hlabel _ hother rfl ((MachineScope.labelledVolume_eq_iff a b label other).mp heq)
  cases hcall with
  | destroyDomain | undefineDomain =>
    subst hremoves
    exact hnames.domain
  | deleteRoot =>
    subst hremoves
    exact hvolume (List.mem_append_left _ List.mem_cons_self)
  | deleteIgnition =>
    subst hremoves
    exact hnames.ignitionFile
  | deleteISO =>
    subst hremoves
    intro howns
    rcases volumes_cases howns with ⟨hiso, -⟩ | ⟨label, -, heq⟩
    · exact hnames.bootstrapISO hiso
    · exact a.bootstrapISOName_ne_labelledVolume b label heq
  | deleteDisk disk hdisk =>
    subst hremoves
    exact hvolume (List.mem_append_right _ (List.mem_map.mpr ⟨disk, hdisk, rfl⟩))
  | destroyPool heph =>
    rcases hremoves with rfl | ⟨volume, rfl⟩ | ⟨file, rfl, hunder⟩
    · exact hnames.ephemeralPool
    · intro howns
      rcases volumes_cases howns with ⟨-, hroot⟩ | ⟨label, hlabel, -⟩
      · exact hapart.pool hsite heph _ hroot rfl
      · exact hapart.pool hsite heph _ hlabel rfl
    · rintro rfl
      exact Bool.noConfusion ((ignitionFile_not_under hslash hnames.domain).symm.trans hunder)

theorem deleteOp_leavesAlone (hapart : DeletionApart site a b) (hslash : '/' ∉ b.artifactBaseName.toList) {op : Op}
    (hop : DeleteOp a op) : LeavesAlone site a.ephemeralPoolPath b op := by
  cases op with
  | client host call =>
    obtain ⟨rfl, hcall⟩ := hop
    exact fun hsite key => deleteCall_leavesAlone hapart hslash hsite hcall
  | deleteNode name =>
    obtain rfl : name = a.domainName := hop
    exact ((MachineScope.namesApart_iff a b).mpr hapart.names).domain
  | _ => trivial

theorem deletionApart_of_leavesAlone (h : ∀ op, DeleteOp a op → LeavesAlone site a.ephemeralPoolPath b op) :
    DeletionApart site a b := by
  refine ⟨?_, fun hsite x hx y hy hpool hnames => ?_, fun hsite heph y hy hpool => ?_⟩
  · intro hsegments
    exact h (.deleteNode a.domainName) rfl ((MachineScope.artifactBaseName_eq_iff a b).mpr hsegments)
  · refine h (.client _ (.deleteVolume x.1 (a.labelledVolume x.2))) ⟨rfl, deleteCall_of_label hx⟩ hsite _ rfl ?_
    rw [(MachineScope.labelledVolume_eq_iff a b x.2 y.2).mpr hnames, hpool]
    exact labelled_mem_volumes hy
  · refine h (.client _ (.destroyPool a.ephemeralPoolName)) ⟨rfl, .destroyPool heph⟩ hsite
      (.volume a.ephemeralPoolName (b.labelledVolume y.2)) (.inr (.inl ⟨_, rfl⟩)) ?_
    rw [← hpool]
    exact labelled_mem_volumes hy

end Apart

section Reached

variable {scope : MachineScope} {reached reached' : Op → Prop} {x y : DeleteBody Unit}

-- Among all replies there are those under which the body issues each of the operations, and comes to
-- its end.
structure Reaches (body : DeleteBody Unit) (reached : Op → Prop) : Prop where
  emits {α : Type} {allowed : Op → Prop} {post : Except Return α × LibvirtMachine → Prop}
    (f : Unit → DeleteBody α) (lm : LibvirtMachine) (h : Emits anyReply allowed post ((body >>= f).exec lm)) :
    (∀ op, reached op → allowed op) ∧ Emits anyReply allowed post ((f ()).exec lm)

theorem Reaches.pure : Reaches (pure ()) fun _ => False := ⟨fun _ _ h => ⟨fun _ => False.elim, h⟩⟩

theorem Reaches.bind (hx : Reaches x reached) (hy : Reaches y reached') :
    Reaches (x >>= fun _ => y) fun op => reached op ∨ reached' op := by
  refine ⟨fun {α allowed post} f lm h => ?_⟩
  rw [bind_assoc] at h
  obtain ⟨hfirst, hrest⟩ := hx.emits _ lm h
  obtain ⟨hsecond, hend⟩ := hy.emits f lm hrest
  exact ⟨fun op => Or.rec (hfirst op) (hsecond op), hend⟩

theorem deleteCall_reaches (host : LibvirtHost) (call : ClientCall) (what : String) :
    Reaches (deleteCall host call what) (· = .client (LibvirtHost.key host) call) := by
  refine ⟨fun {α allowed post} f lm h => ?_⟩
  rw [deleteCall, bind_assoc, Body.perform_bind_exec] at h
  obtain ⟨hop, hnext⟩ := (emits_ask _ _).mp h
  -- a missing target lets the cleanup go on
  exact ⟨fun op heq => heq ▸ hop, hnext (.error (.libvirt .notFound "" "" (.text ""))) trivial⟩

theorem deleteBootstrapArtifacts_reaches : Reaches (deleteBootstrapArtifacts scope) fun op =>
    match scope.libvirtMachine.spec.bootstrapFormat with
    | .ignition => op = .client (LibvirtHost.key scope.libvirtHost) (.deleteRemoteFile scope.ignitionFilePath)
    | .cloudInit => op = .client (LibvirtHost.key scope.libvirtHost)
        (.deleteVolume (deletionPool scope) scope.bootstrapISOName)
    | .other _ => False := by
  rw [deleteBootstrapArtifacts]
  cases scope.libvirtMachine.spec.bootstrapFormat with
  | ignition =>
    refine ⟨fun {α allowed post} f lm h => ?_⟩
    obtain ⟨hop, hnext⟩ := (emits_ask _ _).mp h
    exact ⟨fun op heq => heq ▸ hop, hnext (.ok ()) trivial⟩
  | cloudInit => exact deleteCall_reaches _ _ _
  | other format => exact .pure

theorem deleteAdditionalDisks_reaches (disks : List AdditionalDiskSpec) :
    Reaches (deleteAdditionalDisks scope disks) fun op => ∃ disk ∈ disks, op =
      .client (LibvirtHost.key scope.libvirtHost)
        (.deleteVolume disk.storagePool (scope.additionalDiskVolumeName disk)) := by
  induction disks with
  | nil => exact ⟨fun f lm h => ⟨fun op hop => by simp at hop, h⟩⟩
  | cons disk rest ih =>
    refine ⟨fun {α allowed post} f lm h => ?_⟩
    obtain ⟨hops, hrest⟩ := ((deleteCall_reaches _ _ _).bind ih).emits f lm h
    refine ⟨fun op hop => hops op ?_, hrest⟩
    obtain ⟨other, hother, heq⟩ := hop
    rcases List.mem_cons.mp hother with rfl | hmem
    · exact .inl heq
    · exact .inr ⟨other, hmem, heq⟩

theorem deleteEphemeralPool_reaches : Reaches (deleteEphemeralPool scope) fun op =>
    scope.libvirtMachine.spec.rootDisk.ephemeralPool = true ∧
      op = .client (LibvirtHost.key scope.libvirtHost) (.destroyPool scope.ephemeralPoolName) := by
  refine ⟨fun {α allowed post} f lm h => ?_⟩
  rw [deleteEphemeralPool] at h
  by_cases heph : scope.libvirtMachine.spec.rootDisk.ephemeralPool = true
  · rw [if_pos heph] at h
    obtain ⟨hop, hrest⟩ := (deleteCall_reaches _ _ _).emits f lm h
    exact ⟨fun op heq => hop op heq.2, hrest⟩
  · rw [if_neg heph] at h
    exact ⟨fun op heq => absurd heq.1 heph, h⟩

theorem deleteNodeObject_reaches (name : String) :
    Reaches (deleteNodeObject name) fun op => op = .getNode name ∨ op = .deleteNode name := by
  refine ⟨fun {α allowed post} f lm h => ?_⟩
  obtain ⟨hget, hnext⟩ := (emits_ask _ _).mp h
  obtain ⟨hdelete, hend⟩ := (emits_ask _ _).mp (hnext (.ok ⟨[], []⟩) trivial)
  refine ⟨?_, hend (.ok ()) trivial⟩
  rintro op (rfl | rfl)
  · exact hget
  · exact hdelete

theorem cleanUp_reaches : Reaches (cleanUp scope) (DeleteOp scope) := by
  have hdomain : Reaches (deleteDomain scope) _ := (deleteCall_reaches _ _ _).bind (deleteCall_reaches _ _ _)
  have hdisks : Reaches (deleteAdditionalDisks scope scope.libvirtMachine.spec.additionalDisks) _ :=
    deleteAdditionalDisks_reaches _
  have hall : Reaches (cleanUp scope) _ := hdomain.bind ((deleteCall_reaches _ _ _).bind
    (deleteBootstrapArtifacts_reaches.bind (hdisks.bind (deleteEphemeralPool_reaches.bind
      (deleteNodeObject_reaches _)))))
  refine ⟨fun {α allowed post} f lm h => ?_⟩
  obtain ⟨hops, hrest⟩ := hall.emits f lm h
  refine ⟨fun op hop => hops op ?_, hrest⟩
  -- every operation of a cleanup is one of those that its parts reach
  cases op with
  | client host call =>
    obtain ⟨rfl, hcall⟩ := hop
    cases hcall with
    | destroyDomain => exact .inl (.inl rfl)
    | undefineDomain => exact .inl (.inr rfl)
    | deleteRoot => exact .inr (.inl rfl)
    | deleteIgnition hformat => exact .inr (.inr (.inl (by rw [hformat])))
    | deleteISO hformat => exact .inr (.inr (.inl (by rw [hformat])))
    | deleteDisk disk hdisk => exact .inr (.inr (.inr (.inl ⟨disk, hdisk, rfl⟩)))
    | destroyPool heph => exact .inr (.inr (.inr (.inr (.inl ⟨heph, rfl⟩))))
  | getNode name => exact .inr (.inr (.inr (.inr (.inr (.inl (congrArg Op.getNode hop))))))
  | deleteNode name => exact .inr (.inr (.inr (.inr (.inr (.inr (congrArg Op.deleteNode hop))))))
  | _ => exact hop.elim

theorem reconcileDelete_reaches {deps : Deps} (hdeletes : ComesToHost deps scope) {allowed : Op → Prop}
    {post : Return × LibvirtMachine → Prop}
    (h : Emits anyReply allowed post (reconcileDelete deps scope.libvirtMachine scope.cluster scope.libvirtHost)) :
    ∀ op, DeleteOp scope op → allowed op := by
  obtain ⟨ref, href⟩ := hdeletes.secret
  obtain ⟨uri, huri⟩ := hdeletes.uri
  simp only [reconcileDelete, Body.run, reconcileDeleteBody, emits_bind, Body.leaveIf_bind_exec,
    hdeletes.finalizer, hdeletes.ready, Bool.not_true, Bool.false_eq_true, if_false, if_true, Body.pure_bind_exec,
    Body.lift_bind_exec, createClients, href] at h
  have hdialled := ((emits_ask _ _).mp h).2 (.ok ⟨[]⟩) trivial
  simp only [huri] at hdialled
  have hcleans := hdialled.2 (.ok ()) () trivial
  exact (cleanUp_reaches.emits _ _ hcleans).1

end Reached

-- The record of the approver's listing that gave a node its name.
def recordSegments (lm : LibvirtMachine) (machine : Machine) : List (List Char) :=
  segments lm.namespaceName ++ segments (machine.labels.index clusterNameLabel) ++ segments lm.name

theorem segments_managedNodeName (lm : LibvirtMachine) (machine : Machine) :
    segments (Csr.managedNodeName lm machine) = recordSegments lm machine := by
  rw [Csr.managedNodeName, segments_join, segments_join, recordSegments]

-- Two machines have different names exactly when their dash-separated parts, taken together,
-- differ. Those of one shape differ in their names unless they are the same, and of any two other
-- shapes there are machines that do not. The deletion of one removes nothing of the other exactly
-- when the disks and pools it goes for are apart too, and a node name is only matched with records
-- of the same parts.
theorem artifactNames_apart (a b : MachineScope) (hslash : '/' ∉ b.artifactBaseName.toList) :
    (a.NamesApart b ↔ a.segments ≠ b.segments) ∧
    (a.shape = b.shape → (a.NamesApart b ↔ a.identity ≠ b.identity)) ∧
    (∀ n c n' c' : Nat, (n, c) ≠ (n', c') → ∃ x y : MachineScope, x.shape = (n + 1, c + 1) ∧
      y.shape = (n' + 1, c' + 1) ∧ x.identity ≠ y.identity ∧ x.artifactBaseName = y.artifactBaseName) ∧
    (∀ (site : ObjectKey → String) (deps : Deps), ComesToHost deps a →
      (Emits anyReply (LeavesAlone site a.ephemeralPoolPath b) (fun _ => True)
        (reconcileDelete deps a.libvirtMachine a.cluster a.libvirtHost) ↔ DeletionApart site a b)) ∧
    ∀ before after, Completes Csr.apiHandler (Csr.isLibvirtManagedNode b.domainName) before true after →
      ∃ machine ∈ before.machines, ∃ lm ∈ before.libvirtMachines,
        lm.key = ⟨machine.infrastructureRef.namespaceName, machine.infrastructureRef.name⟩ ∧
          recordSegments lm machine = b.segments := by
  refine ⟨MachineScope.namesApart_iff a b, fun hshape => ?_, fun _ _ _ _ hne => exists_sameNames a hne,
    fun site deps hdeletes => ⟨fun hspares => ?_, fun hapart => ?_⟩, fun before after hrun => ?_⟩
  · rw [MachineScope.namesApart_iff, (MachineScope.segments_eq_iff hshape).ne]
  · exact deletionApart_of_leavesAlone (reconcileDelete_reaches hdeletes hspares)
  · refine (reconcileDelete_emits deps a).mono (fun _ _ hr => hr) ?_ fun _ h => h
    rintro op (hread | hdelete)
    · cases op <;> first | exact hread.elim | trivial
    · exact deleteOp_leavesAlone hapart hslash hdelete
  · have hmanaged := (Csr.isLibvirtManagedNode_holds (fun _ => none) "" b.domainName before).completes hrun
    obtain ⟨machine, hmachine, -, lm, hlm, hkey, hname⟩ := hmanaged.2 rfl
    refine ⟨machine, hmachine, lm, hlm, hkey, ?_⟩
    rw [← segments_managedNodeName, hname, MachineScope.domainName, b.segments_artifactBaseName]

-- A name that Kubernetes accepts for a namespace, and so for any object.
def isDNS1123Label (s : String) : Bool :=
  let alphanumeric (c : Char) : Bool := ('a' ≤ c && c ≤ 'z') || ('0' ≤ c && c ≤ '9')
  s.toList.all (fun c => alphanumeric c || c = '-') && s.toList.head?.any alphanumeric &&
    s.toList.getLast?.any alphanumeric && s.length ≤ 63

def namedScope (clusterName name : String) (disks : List AdditionalDiskSpec) : MachineScope :=
  { cluster := { sampleCluster with name := clusterName }
    libvirtMachine := { sampleMachine.addFinalizer with
      name := name, spec := { sampleMachine.spec with additionalDisks := disks } }
    libvirtHost := sampleHost }

def namedDeletion (scope : MachineScope) (n : Nat) : Prog signature (Return × LibvirtMachine) :=
  (runFor (fun (_ : Unit) op => (freshAnswer op, ()))
    n (reconcileDelete sampleDeps scope.libvirtMachine scope.cluster scope.libvirtHost) ()).1

-- Machine d of cluster b-c and machine c-d of cluster b share every name, and the deletion of
-- one destroys the other's domain. Machine m with a disk x-root and machine m-x have different
-- names, and the deletion of the first deletes the root disk of the second.
theorem distinct_machines_collide :
    let a := namedScope "b-c" "d" []
    let b := namedScope "b" "c-d" []
    let m := namedScope "c" "m" [⟨"x-root", 1073741824, "default", "virtio"⟩]
    let mx := namedScope "c" "m-x" []
    (∀ name ∈ ["ns", "b-c", "d", "b", "c-d", "c", "m", "m-x"], isDNS1123Label name = true) ∧
    a.libvirtMachine.key ≠ b.libvirtMachine.key ∧ a.domainName = b.domainName ∧
      a.rootDiskVolumeName = b.rootDiskVolumeName ∧ a.bootstrapISOName = b.bootstrapISOName ∧
      a.ephemeralPoolName = b.ephemeralPoolName ∧ a.ignitionFilePath = b.ignitionFilePath ∧
      (∃ next, namedDeletion a 2 = .ask (.client (LibvirtHost.key sampleHost) (.destroyDomain b.domainName)) next) ∧
    m.NamesApart mx ∧
      ∃ next, namedDeletion m 6 = .ask (.client (LibvirtHost.key sampleHost)
        (.deleteVolume "default" mx.rootDiskVolumeName)) next := by
  refine ⟨by decide, by decide, rfl, rfl, rfl, rfl, rfl, ⟨_, rfl⟩, ?_, _, rfl⟩
  exact (MachineScope.namesApart_iff _ _).mpr (by decide)

theorem artifactNames_apart_siblings :
    let a := namedScope "c" "m" [⟨"x-root", 1073741824, "fast", "virtio"⟩]
    let b := namedScope "c" "m-x" []
    a.NamesApart b ∧ Emits anyReply (LeavesAlone (fun _ => "host") a.ephemeralPoolPath b) (fun _ => True)
      (reconcileDelete sampleDeps a.libvirtMachine a.cluster a.libvirtHost) := by
  have happart := artifactNames_apart (namedScope "c" "m" [⟨"x-root", 1073741824, "fast", "virtio"⟩])
    (namedScope "c" "m-x" []) (by decide)
  have hnames : (namedScope "c" "m" [⟨"x-root", 1073741824, "fast", "virtio"⟩]).segments ≠
      (namedScope "c" "m-x" []).segments := by decide
  have hdeletes : ComesToHost sampleDeps (namedScope "c" "m" [⟨"x-root", 1073741824, "fast", "virtio"⟩]) :=
    ⟨rfl, rfl, ⟨_, rfl⟩, ⟨_, rfl⟩⟩
  refine ⟨happart.1.mpr hnames, (happart.2.2.2.1 _ _ hdeletes).mpr ⟨hnames, fun _ => ?_, fun _ heph => ?_⟩⟩
  · decide
  · cases heph

end Caplv.Controller

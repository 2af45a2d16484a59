import Caplv.Controller.Calls
import Caplv.Controller.World

namespace Caplv.Libvirt

open Text

inductive VolumeCommand where
  | volCreateAs (pool name : String) (sizeMB : Int) (backingPath : Option String)
  | volClone (sourceName targetName pool : String)
deriving DecidableEq, Repr

namespace VolumeCommand

def capacity (images : String → String → Int) : VolumeCommand → Int
  | .volCreateAs _ _ sizeMB _ => sizeMB * 1048576
  | .volClone sourceName _ pool => images pool sourceName

end VolumeCommand

def bytesPerMB : Int := 1024 * 1024

-- Go's division truncates.
def VirshClient.volumeCommand : ClientCall → Option VolumeCommand
  | .createVolumeFromBackingStore pool name backingPath sizeBytes =>
    some (.volCreateAs pool name (sizeBytes.tdiv bytesPerMB) (some backingPath))
  | .cloneVolume pool sourceName targetName => some (.volClone sourceName targetName pool)
  | .createVolume pool name sizeBytes => some (.volCreateAs pool name (sizeBytes.tdiv bytesPerMB) none)
  | _ => none

theorem le_truncated_iff {size : Int} (hsize : 0 < size) :
    size ≤ size.tdiv bytesPerMB * 1048576 ↔ bytesPerMB ∣ size := by
  rw [bytesPerMB, Int.tdiv_eq_ediv_of_nonneg (by omega)]
  omega

end Caplv.Libvirt

namespace Caplv.Controller

open Text Api Libvirt Program

def createdCapacity (images : String → String → Int) : Event signature → Option Int
  | ⟨.client _ call, reply⟩ =>
    match (reply : Except GoError call.Result) with
    | .ok _ => (VirshClient.volumeCommand call).map (VolumeCommand.capacity images)
    | .error _ => none
  | _ => none

def diskCall (rc : ReconcileCtx) (disk : AdditionalDiskSpec) : ClientCall :=
  .createVolume disk.storagePool (rc.machineScope.additionalDiskVolumeName disk) disk.size

-- Whatever the host and the other calls answer, every disk that a successful step has created is as
-- large as the spec wants it.
structure DisksLargeEnough (images : String → String → Int) (rc : ReconcileCtx) : Prop where
  root : ∀ st, Holds recording (fun _ _ => True)
    (fun out events => out.1 = none → ∀ event ∈ events, ∀ capacity,
      createdCapacity images event = some capacity → rc.spec.rootDisk.size ≤ capacity)
    (reconcileRootDisk rc st) []
  additional : ∀ st, Holds recording (fun _ _ => True)
    (fun out events => out.1 = none → ∀ event ∈ events, ∀ capacity,
      createdCapacity images event = some capacity → ∃ disk ∈ rc.spec.additionalDisks,
        event.1 = .client rc.hostKey (diskCall rc disk) ∧ disk.size ≤ capacity)
    (reconcileAdditionalDisks rc st) []

-- Sizes in whole megabytes, and an image of the size where it is cloned.
structure SizesKept (images : String → String → Int) (rc : ReconcileCtx) : Prop where
  copyOnWrite : rc.spec.rootDisk.cloneStrategy = .copyOnWrite → bytesPerMB ∣ rc.spec.rootDisk.size
  fullClone : rc.spec.rootDisk.cloneStrategy = .fullClone →
    rc.spec.rootDisk.size ≤ images rc.baseImagePool rc.spec.rootDisk.baseImage
  additional : ∀ disk ∈ rc.spec.additionalDisks, bytesPerMB ∣ disk.size

section Sufficient

variable {images : String → String → Int} {rc : ReconcileCtx} {fine : ClientCall → Int → Prop}
  {key : ObjectKey} {call : ClientCall}

def Creates (images : String → String → Int) (fine : ClientCall → Int → Prop) (key : ObjectKey) : Op → Prop
  | .client host call => host = key ∧ ∀ command, VirshClient.volumeCommand call = some command →
      fine call (command.capacity images)
  | _ => True

def CreatedFine (images : String → String → Int) (fine : ClientCall → Int → Prop) (key : ObjectKey)
    (event : Event signature) : Prop :=
  ∀ capacity, createdCapacity images event = some capacity → ∃ call, event.1 = .client key call ∧ fine call capacity

theorem Creates.createdFine {op : Op} (h : Creates images fine key op) (reply : Reply op) :
    CreatedFine images fine key ⟨op, reply⟩ := by
  intro capacity hcapacity
  cases op with
  | client host call =>
    obtain ⟨rfl, hfine⟩ := h
    cases reply with
    | error err => cases hcapacity
    | ok value =>
      obtain ⟨command, hcommand, rfl⟩ := Option.map_eq_some_iff.mp hcapacity
      exact ⟨call, rfl, hfine command hcommand⟩
  | _ => cases hcapacity

theorem holds_of_creates {α : Type} {prog : Prog signature α} {post : α → Prop}
    (h : Emits anyReply (Creates images fine key) post prog) :
    Holds recording (fun _ _ => True) (fun _ events => ∀ event ∈ events, CreatedFine images fine key event) prog [] := by
  have hrun : Holds recording (fun _ _ => True)
      (fun value events => post value ∧ ∀ event ∈ events, CreatedFine images fine key event) prog [] := by
    refine Emits.holds h (List.forall_mem_nil _) (fun _ _ _ _ => trivial) fun before op reply after hbefore hop hstep => ?_
    have hafter : after = before ++ [(⟨op, reply⟩ : Event signature)] := hstep
    refine ⟨trivial, fun event hevent => ?_⟩
    rw [hafter] at hevent
    rcases List.mem_append.mp hevent with hmem | hlast
    · exact hbefore event hmem
    · rw [List.mem_singleton.mp hlast]
      exact hop.createdFine reply
  exact hrun.post_mono fun _ _ hpost => hpost.2

theorem records_creates (key : ObjectKey) : Records anyReply (Creates images fine key) fun _ => True :=
  ⟨fun _ _ => trivial, fun _ _ _ _ _ => trivial⟩

theorem callOrHandle_creates (h : Creates images fine rc.hostKey (.client rc.hostKey call))
    (operation : String) :
    Body.Keeps anyReply (Creates images fine rc.hostKey) (fun _ => True) (callOrHandle rc call operation) :=
  callOrHandle_keeps h (fun _ _ _ => records_creates rc.hostKey) operation

theorem callOnBaseImage_creates (h : Creates images fine rc.hostKey (.client rc.hostKey call))
    (operation : String) :
    Body.Keeps anyReply (Creates images fine rc.hostKey) (fun _ => True) (callOnBaseImage rc call operation) :=
  callOnBaseImage_keeps h (fun _ _ _ => records_creates rc.hostKey) (fun _ _ _ => records_creates rc.hostKey) operation

theorem creates_of_none (h : VirshClient.volumeCommand call = none) :
    Creates images fine key (.client key call) :=
  ⟨rfl, fun _ hcommand => nomatch h.symm.trans hcommand⟩

theorem creates_of_fine {command : VolumeCommand} (hcommand : VirshClient.volumeCommand call = some command)
    (h : fine call (command.capacity images)) : Creates images fine key (.client key call) := by
  refine ⟨rfl, fun other hother => ?_⟩
  rw [hcommand] at hother
  cases hother
  exact h

theorem reconcileRootDisk_creates (hsize : 0 < rc.spec.rootDisk.size) (h : SizesKept images rc) :
    Fn.Keeps anyReply (Creates images (fun _ capacity => rc.spec.rootDisk.size ≤ capacity) rc.hostKey) (fun _ => True)
      (reconcileRootDisk rc) := by
  have hclone (hstrategy : rc.spec.rootDisk.cloneStrategy = .fullClone) :
      Creates images (fun _ capacity => rc.spec.rootDisk.size ≤ capacity) rc.hostKey (.client rc.hostKey
        (.cloneVolume rc.baseImagePool rc.spec.rootDisk.baseImage rc.rootDiskVolume)) :=
    creates_of_fine rfl (h.fullClone hstrategy)
  -- While the pool is set up no volume is created in any.
  have hpool (call : ClientCall) (hcall : RootDiskCall rc (fun _ => False) call) :
      Creates images (fun _ capacity => rc.spec.rootDisk.size ≤ capacity) rc.hostKey (.client rc.hostKey call) := by
    cases hcall with
    | clone hstrategy => exact hclone hstrategy
    | lookup _ hfalse => exact hfalse.elim
    | create _ hfalse => exact hfalse.elim
    | poolExists | poolIsActive | startPool | destroyPool | createTmpfsPool | basePath =>
      exact creates_of_none rfl
  refine reconcileRootDisk_keeps_of (fun _ => True) (fun _ _ => trivial) (fun _ _ _ => trivial) (fun heph => ?_)
    (fun pool _ operation => callOrHandle_creates (creates_of_none rfl) operation) fun pool _ => ?_
  · exact ensureEphemeralPool_keeps heph hpool fun call hcall operation => callOrHandle_creates (hpool call hcall) operation
  · rw [createRootDisk]
    split
    · rename_i hstrategy
      exact callOnBaseImage_creates (hclone hstrategy) _
    · rename_i hstrategy
      refine (callOnBaseImage_creates (creates_of_none rfl) _).bind fun backingPath => ?_
      exact callOrHandle_creates (creates_of_fine rfl ((le_truncated_iff hsize).mpr (h.copyOnWrite hstrategy))) _

theorem reconcileAdditionalDisks_creates (hsizes : ∀ disk ∈ rc.spec.additionalDisks, 0 < disk.size)
    (h : SizesKept images rc) :
    Fn.Keeps anyReply (Creates images (fun call capacity => ∃ disk ∈ rc.spec.additionalDisks,
      call = diskCall rc disk ∧ disk.size ≤ capacity) rc.hostKey) (fun _ => True) (reconcileAdditionalDisks rc) := by
  refine reconcileAdditionalDisks_keeps (fun _ _ _ _ => trivial) fun disk hdisk call hcall operation => ?_
  refine callOrHandle_creates ?_ operation
  cases hcall with
  | lookup => exact creates_of_none rfl
  | create =>
    exact creates_of_fine rfl ⟨disk, hdisk, rfl, (le_truncated_iff (hsizes disk hdisk)).mpr (h.additional disk hdisk)⟩
  | path => exact creates_of_none rfl

end Sufficient

section Necessary

def recordingOf (answers : (op : Op) → Reply op) : Program.Machine signature (List (Event signature)) :=
  fun events op => (answers op, events ++ [⟨op, answers op⟩])

def freshEvent (op : Op) : Event signature := ⟨op, freshAnswer op⟩

variable (rc : ReconcileCtx)

def rootCall (rc : ReconcileCtx) (storagePool : String) : ClientCall :=
  match rc.spec.rootDisk.cloneStrategy with
  | .fullClone => .cloneVolume rc.baseImagePool rc.spec.rootDisk.baseImage rc.rootDiskVolume
  | .copyOnWrite => .createVolumeFromBackingStore storagePool rc.rootDiskVolume rc.spec.rootDisk.baseImage
      rc.spec.rootDisk.size

theorem run_createRootDisk (pool : String) (st : RunState) (events : List (Event signature)) :
    ∃ before, Program.run (recordingOf freshAnswer) ((createRootDisk rc pool).exec st) events =
      ((.ok (), st), before ++ [freshEvent (.client rc.hostKey (rootCall rc pool))]) := by
  unfold createRootDisk rootCall
  cases rc.spec.rootDisk.cloneStrategy with
  | fullClone => exact ⟨events, rfl⟩
  | copyOnWrite => exact ⟨_, rfl⟩

theorem run_stepFn {body : StepBody Unit} {st after : RunState} {before events : List (Event signature)}
    {answers : (op : Op) → Reply op}
    (h : Program.run (recordingOf answers) (body.exec st) before = ((.ok (), after), events)) :
    Program.run (recordingOf answers) (stepFn body st) before = ((none, after), events) := by
  rw [stepFn, Body.run, Program.run_bind, Body.run_bind_exec h]
  rfl

theorem run_reconcileRootDisk (st : RunState) :
    ∃ after before pool, Program.run (recordingOf freshAnswer) (reconcileRootDisk rc st) [] =
      ((none, after), before ++ [freshEvent (.client rc.hostKey (rootCall rc pool))]) := by
  unfold reconcileRootDisk
  cases rc.spec.rootDisk.ephemeralPool with
  | false =>
    obtain ⟨before, hcreate⟩ := run_createRootDisk rc st.storagePool st
      [freshEvent (.client rc.hostKey (.volumeExists st.storagePool rc.rootDiskVolume))]
    exact ⟨st, before, st.storagePool, run_stepFn hcreate⟩
  | true =>
    let pool := rc.machineScope.ephemeralPoolName
    obtain ⟨before, hcreate⟩ := run_createRootDisk rc pool { st with storagePool := pool }
      [freshEvent (.client rc.hostKey (.poolExists pool)), freshEvent (.client rc.hostKey (.poolIsActive pool)),
        freshEvent (.client rc.hostKey (.volumeExists pool rc.rootDiskVolume))]
    exact ⟨{ st with storagePool := pool }, before, pool, run_stepFn hcreate⟩

def diskEvents (rc : ReconcileCtx) (disk : AdditionalDiskSpec) : List (Event signature) :=
  let volName := rc.machineScope.additionalDiskVolumeName disk
  [freshEvent (.client rc.hostKey (.volumeExists disk.storagePool volName)),
    freshEvent (.client rc.hostKey (diskCall rc disk)),
    freshEvent (.client rc.hostKey (.getVolumePath disk.storagePool volName))]

theorem run_additionalDisk (disk : AdditionalDiskSpec) (st : RunState) (events : List (Event signature)) :
    ∃ after, Program.run (recordingOf freshAnswer) ((reconcileAdditionalDisk rc disk).exec st) events =
      ((.ok (), after), events ++ diskEvents rc disk) := by
  have hevents (a b c : Event signature) : events ++ [a, b, c] = events ++ [a] ++ [b] ++ [c] := by simp
  rw [diskEvents, hevents]
  exact ⟨_, rfl⟩

theorem run_additionalDisks (disks : List AdditionalDiskSpec) (st : RunState)
    (events : List (Event signature)) :
    ∃ after, Program.run (recordingOf freshAnswer) ((eachInOrder (reconcileAdditionalDisk rc) disks).exec st) events =
      ((.ok (), after), events ++ disks.flatMap (diskEvents rc)) := by
  induction disks generalizing st events with
  | nil =>
    rw [List.flatMap_nil, List.append_nil]
    exact ⟨st, rfl⟩
  | cons disk rest ih =>
    obtain ⟨middle, hdisk⟩ := run_additionalDisk rc disk st events
    obtain ⟨after, hrest⟩ := ih middle (events ++ diskEvents rc disk)
    refine ⟨after, ?_⟩
    rw [eachInOrder, Body.run_bind_exec hdisk, hrest, List.flatMap_cons, List.append_assoc]

def CreatesWith (images : String → String → Int) (rc : ReconcileCtx) (capacity : Int) : Prop :=
  ∀ st, (Program.run (recordingOf freshAnswer) (reconcileRootDisk rc st) []).1.1 = none ∧
    ∃ event ∈ (Program.run (recordingOf freshAnswer) (reconcileRootDisk rc st) []).2,
      createdCapacity images event = some capacity

def rootCapacity (images : String → String → Int) (rc : ReconcileCtx) : Int :=
  match rc.spec.rootDisk.cloneStrategy with
  | .fullClone => images rc.baseImagePool rc.spec.rootDisk.baseImage
  | .copyOnWrite => rc.spec.rootDisk.size.tdiv bytesPerMB * 1048576

theorem createsWith_rootCapacity (images : String → String → Int) :
    CreatesWith images rc (rootCapacity images rc) := by
  intro st
  obtain ⟨after, before, pool, hrun⟩ := run_reconcileRootDisk rc st
  rw [hrun]
  refine ⟨rfl, _, List.mem_append_right _ List.mem_cons_self, ?_⟩
  unfold rootCapacity rootCall
  cases rc.spec.rootDisk.cloneStrategy with
  | fullClone => rfl
  | copyOnWrite => rfl

theorem post_of_recordingOf {α : Type} {prog : Prog signature α} {post : α → List (Event signature) → Prop}
    (h : Holds recording (fun _ _ => True) post prog []) (answers : (op : Op) → Reply op) :
    post (Program.run (recordingOf answers) prog []).1 (Program.run (recordingOf answers) prog []).2 := by
  refine (h.mono ?_ (fun _ _ hguard => hguard) fun _ _ hpost => hpost).run
  rintro before op reply after hstep
  cases hstep
  rfl

theorem sizesKept_of_largeEnough {images : String → String → Int} {rc : ReconcileCtx}
    (hsize : 0 < rc.spec.rootDisk.size) (hsizes : ∀ disk ∈ rc.spec.additionalDisks, 0 < disk.size)
    (h : DisksLargeEnough images rc) (st : RunState) : SizesKept images rc := by
  obtain ⟨hsuccess, event, hevent, hcapacity⟩ := createsWith_rootCapacity rc images st
  have hroot := post_of_recordingOf (h.root st) freshAnswer hsuccess event hevent _ hcapacity
  refine ⟨fun hstrategy => ?_, fun hstrategy => ?_, fun disk hdisk => ?_⟩
  · rw [rootCapacity, hstrategy] at hroot
    exact (le_truncated_iff hsize).mp hroot
  · rw [rootCapacity, hstrategy] at hroot
    exact hroot
  · obtain ⟨after, hdisks⟩ := run_additionalDisks rc rc.spec.additionalDisks st []
    have hadditional := post_of_recordingOf (h.additional st) freshAnswer
    rw [reconcileAdditionalDisks, run_stepFn hdisks] at hadditional
    have hevent : freshEvent (.client rc.hostKey (diskCall rc disk)) ∈
        [] ++ rc.spec.additionalDisks.flatMap (diskEvents rc) := by
      rw [List.nil_append]
      exact List.mem_flatMap.mpr ⟨disk, hdisk, List.mem_cons_of_mem _ List.mem_cons_self⟩
    obtain ⟨other, -, hcall, hle⟩ := hadditional rfl _ hevent _ rfl
    have hsame : disk.size = other.size := by
      have hop : Op.client rc.hostKey (diskCall rc disk) = .client rc.hostKey (diskCall rc other) := hcall
      simp only [diskCall, Op.client.injEq, ClientCall.createVolume.injEq, true_and] at hop
      exact hop.2.2
    rw [← hsame] at hle
    exact (le_truncated_iff (hsizes disk hdisk)).mp hle

end Necessary

-- For every machine and every host: the created disks are large enough exactly if the sizes are whole
-- megabytes and a cloned image has the size already.
theorem disks_large_enough_iff (images : String → String → Int) (rc : ReconcileCtx)
    (hsize : 0 < rc.spec.rootDisk.size) (hsizes : ∀ disk ∈ rc.spec.additionalDisks, 0 < disk.size) :
    DisksLargeEnough images rc ↔ SizesKept images rc := by
  constructor
  · intro h
    exact sizesKept_of_largeEnough hsize hsizes h (rc.initialState rc.libvirtMachine.status)
  · intro h
    refine ⟨fun st => ?_, fun st => ?_⟩
    · refine (holds_of_creates (reconcileRootDisk_creates hsize h st trivial)).post_mono ?_
      intro out events hevents _ event hevent capacity hcapacity
      obtain ⟨-, -, hfine⟩ := hevents event hevent capacity hcapacity
      exact hfine
    · refine (holds_of_creates (reconcileAdditionalDisks_creates hsizes h st trivial)).post_mono ?_
      intro out events hevents _ event hevent capacity hcapacity
      obtain ⟨call, hcall, disk, hdisk, rfl, hle⟩ := hevents event hevent capacity hcapacity
      exact ⟨disk, hdisk, hcall, hle⟩

def sizedCtx (size : Int) (cloneStrategy : CloneStrategy) : ReconcileCtx :=
  ⟨{ sampleMachine with spec := { sampleMachine.spec with
      rootDisk := { sampleMachine.spec.rootDisk with size := size, cloneStrategy := cloneStrategy } } },
    sampleOwner, sampleCluster, sampleLibvirtCluster, sampleHost, 2, 2048⟩

theorem disks_large_enough_gigabyte : DisksLargeEnough (fun _ _ => 0) (sizedCtx 1073741824 .copyOnWrite) :=
  (disks_large_enough_iff _ _ (by decide) (by decide)).mpr ⟨fun _ => by decide, nofun, by decide⟩

-- One and a half megabytes are one, and a clone of a small image is small.
theorem created_disks_too_small :
    CreatesWith (fun _ _ => 0) (sizedCtx 1572864 .copyOnWrite) 1048576 ∧
    CreatesWith (fun _ _ => 1048576) (sizedCtx 1073741824 .fullClone) 1048576 :=
  ⟨createsWith_rootCapacity (sizedCtx 1572864 .copyOnWrite) _,
    createsWith_rootCapacity (sizedCtx 1073741824 .fullClone) fun _ _ => 1048576⟩

end Caplv.Controller

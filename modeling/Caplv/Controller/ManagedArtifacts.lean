import Caplv.Controller.Deletion
import Caplv.Controller.Settled
import Caplv.Controller.Versions

namespace Caplv.Controller

open Text Api Libvirt Scope Program

-- What a run records that listed these volumes of data disks.
def artifactsOf (scope : MachineScope) (nvramPath : String) (volumes : List String) : ManagedArtifacts :=
  { domainName := scope.domainName
    rootDiskVolume := scope.rootDiskVolumeName
    nvramPath := nvramPath
    additionalDiskVolumes := volumes
    ignitionFile :=
      if scope.libvirtMachine.spec.bootstrapFormat = .ignition then scope.ignitionFilePath else ""
    bootstrapISO :=
      if scope.libvirtMachine.spec.bootstrapFormat = .cloudInit then scope.bootstrapISOName else ""
    ephemeralPoolName :=
      if scope.libvirtMachine.spec.rootDisk.ephemeralPool then scope.ephemeralPoolName else "" }

def diskVolumes (rc : ReconcileCtx) : List String :=
  rc.spec.additionalDisks.map rc.machineScope.additionalDiskVolumeName

def Unrecorded (rc : ReconcileCtx) (start : Option ManagedArtifacts) (st : RunState) : Prop :=
  st.status.managedArtifacts = start ∧ st.additionalDiskVolumes ⊆ diskVolumes rc

-- A step that recorded a failure may have left the list of volumes short.
def Recording (rc : ReconcileCtx) (start : Option ManagedArtifacts) (volumes : List String) (st : RunState) : Prop :=
  Unrecorded rc start st ∧ (st.status.failureReason.isSome = true ∨ st.additionalDiskVolumes = volumes)

-- How the artifacts of a run end: untouched, or recorded, with every data disk unless a
-- failure is next to them.
def ArtifactsEnd (deps : Deps) (rc : ReconcileCtx) (start : Option ManagedArtifacts)
    (status : LibvirtMachineStatus) : Prop :=
  status.managedArtifacts = start ∨ ∃ volumes,
    status.managedArtifacts = some (artifactsOf rc.machineScope (rc.nvramPath deps) volumes) ∧
      volumes ⊆ diskVolumes rc ∧ (status.failureReason.isSome = true ∨ volumes = diskVolumes rc)

section Provisioning

variable {deps : Deps} {rc : ReconcileCtx} {start : Option ManagedArtifacts} {volumes : List String}

abbrev anyOp : Op → Prop := fun _ => True

theorem recording_records : Records anyReply anyOp (Recording rc start volumes) :=
  ⟨fun _ _ => trivial, fun _ _ _ _ h => ⟨h.1, .inl rfl⟩⟩

theorem recording_callOrHandle (call : ClientCall) (operation : String) :
    Body.Keeps anyReply anyOp (Recording rc start volumes) (callOrHandle rc call operation) :=
  callOrHandle_keeps trivial (fun _ _ _ => recording_records) operation

def DiskExit (rc : ReconcileCtx) (start : Option ManagedArtifacts) (err : Option GoError) (st : RunState) : Prop :=
  Unrecorded rc start st ∧ (err = none → st.status.failureReason.isSome = true)

theorem recording_handling : Handling (fun (_ : Unit) op reply _ => anyReply op reply) (fun _ op => anyOp op)
    (fun st _ => Unrecorded rc start st) (fun err st _ => DiskExit rc start err st) :=
  ⟨fun _ _ _ _ _ => trivial, fun _ _ _ _ _ h _ => ⟨h, fun _ => rfl⟩, fun _ _ _ h => ⟨h, nofun⟩⟩

theorem recording_diskCall (call : ClientCall) (operation : String) :
    Issues anyReply anyOp (Recording rc start volumes) (callOrHandle rc call operation) (Recording rc start volumes)
      (DiskExit rc start) :=
  recording_handling.callOrHandle rc call operation (fun _ _ _ => trivial) (fun _ _ _ _ h _ => h)
    fun _ _ _ _ h _ => h.1

-- A disk is listed before it is looked up, so that every disk the loop came to is in the list.
theorem reconcileAdditionalDisk_records {disk : AdditionalDiskSpec} (hdisk : disk ∈ rc.spec.additionalDisks) :
    Issues anyReply anyOp (Recording rc start volumes) (reconcileAdditionalDisk rc disk)
      (Recording rc start (volumes ++ [rc.machineScope.additionalDiskVolumeName disk])) (DiskExit rc start) := by
  have hlist (st : RunState) (h : Recording rc start volumes st) :
      Recording rc start (volumes ++ [rc.machineScope.additionalDiskVolumeName disk]) { st with
        additionalDiskVolumes := st.additionalDiskVolumes ++ [rc.machineScope.additionalDiskVolumeName disk] } := by
    refine ⟨⟨h.1.1, List.append_subset.mpr ⟨h.1.2, ?_⟩⟩, h.2.imp_right fun hvolumes => ?_⟩
    · exact List.cons_subset.mpr ⟨List.mem_map_of_mem hdisk, List.nil_subset _⟩
    · exact congrArg (· ++ [rc.machineScope.additionalDiskVolumeName disk]) hvolumes
  refine Body.Triple.modify_bind (fun st _ => Recording rc start _ st) (fun st _ h => hlist st h) ?_
  refine (recording_diskCall _ _).bind fun found => ?_
  refine Body.Triple.bind (Body.Triple.ite (fun _ => Body.Triple.pure fun _ _ h => h)
    fun _ => recording_diskCall _ _) fun _ => ?_
  exact (recording_diskCall _ _).bind fun diskPath => Body.Triple.modify fun _ _ h => h

theorem eachInOrder_records {disks : List AdditionalDiskSpec} (hdisks : disks ⊆ rc.spec.additionalDisks) :
    Issues anyReply anyOp (Recording rc start volumes) (eachInOrder (reconcileAdditionalDisk rc) disks)
      (Recording rc start (volumes ++ disks.map rc.machineScope.additionalDiskVolumeName)) (DiskExit rc start) := by
  induction disks generalizing volumes with
  | nil => exact Body.Triple.pure fun _ _ h => by simpa using h
  | cons disk rest ih =>
    obtain ⟨hdisk, hrest⟩ := List.cons_subset.mp hdisks
    refine (reconcileAdditionalDisk_records hdisk).bind fun _ => ?_
    have hrest := @ih (volumes ++ [rc.machineScope.additionalDiskVolumeName disk]) hrest
    rw [List.append_assoc] at hrest
    exact hrest

def DisksEnd (rc : ReconcileCtx) (start : Option ManagedArtifacts) (err : Option GoError) (st : RunState) : Prop :=
  Unrecorded rc start st ∧ (err = none →
    Recording rc start (diskVolumes rc) st)

theorem reconcileAdditionalDisks_records {st : RunState} (hst : Recording rc start [] st) :
    Emits anyReply anyOp (fun out => DisksEnd rc start out.1 out.2) (reconcileAdditionalDisks rc st) := by
  have hloop : Issues anyReply anyOp (Recording rc start [])
      (eachInOrder (reconcileAdditionalDisk rc) rc.spec.additionalDisks) (DisksEnd rc start none)
      (DisksEnd rc start) := by
    refine Body.Triple.mono (eachInOrder_records fun _ h => h) ?_ ?_
    · exact fun _ _ _ h => ⟨h.1, fun _ => h⟩
    · exact fun _ _ _ h => ⟨h.1, fun hnil => ⟨h.1, .inl (h.2 hnil)⟩⟩
  exact @stepFn_triple Unit _ _ _ (fun err st _ => DisksEnd rc start err st) _ hloop st () hst

theorem runStep_disks_records :
    Issues anyReply anyOp (Recording rc start []) (runStep (reconcileAdditionalDisks rc))
      (Recording rc start (diskVolumes rc))
      (fun _ st => st.status.managedArtifacts = start) := by
  have hcall : Body.Triple (fun (_ : Unit) op reply _ => anyReply op reply) (fun _ op => anyOp op)
      (fun st _ => Recording rc start [] st) (Body.call (reconcileAdditionalDisks rc) : NormalBody _)
      (fun err st _ => DisksEnd rc start err st) (fun _ st _ => st.status.managedArtifacts = start) :=
    Body.Triple.call fun st w hst => reconcileAdditionalDisks_records hst
  refine hcall.bind fun err => ?_
  cases err with
  | some err => exact Body.Triple.leave fun _ _ h => h.1.1
  | none => exact Body.Triple.pure fun _ _ h => h.2 rfl

theorem prepareArtifacts_records :
    Issues anyReply anyOp (Recording rc start []) (prepareArtifacts deps rc)
      (Recording rc start (diskVolumes rc))
      (fun _ st => st.status.managedArtifacts = start) := by
  have hcall (volumes : List String) (call : ClientCall) (operation : String) :=
    @recording_callOrHandle rc start volumes call operation
  have hrecords : Records anyReply anyOp (Recording rc start []) := recording_records
  have hbase : Fn.Keeps anyReply anyOp (Recording rc start []) (reconcileBaseImage deps rc) :=
    reconcileBaseImage_keeps (fun _ _ _ _ h => h) (fun _ _ => trivial) fun call _ => hcall [] call
  have hroot : Fn.Keeps anyReply anyOp (Recording rc start []) (reconcileRootDisk rc) :=
    reconcileRootDisk_keeps (fun _ => True) (fun _ _ => trivial) (fun _ _ h => h) (fun _ _ => trivial)
      (fun call _ => hcall [] call) fun call _ _ => callOnBaseImage_keeps trivial (fun _ _ _ => hrecords)
        fun _ _ _ => hrecords
  have hbootstrap : Fn.Keeps anyReply anyOp (Recording rc start []) (reconcileBootstrapArtifacts deps rc) :=
    reconcileBootstrapArtifacts_keeps (fun _ => True) (fun _ _ => trivial) (fun _ _ => trivial)
      ⟨fun _ _ _ _ _ => hrecords, fun _ _ => hrecords⟩ fun call _ => hcall [] call
  have hboot (volumes : List String) : Fn.Keeps anyReply anyOp (Recording rc start volumes)
      (reconcileBootArtifacts deps rc) :=
    reconcileBootArtifacts_keeps (fun _ _ _ _ h => h) (fun _ _ => trivial) fun call _ => hcall volumes call
  have hleave {volumes : List String} {α : Type} {body : NormalBody α}
      (h : Body.Keeps anyReply anyOp (Recording rc start volumes) body) :
      Issues anyReply anyOp (Recording rc start volumes) body (Recording rc start volumes)
        (fun _ st => st.status.managedArtifacts = start) := keeps_issues h fun _ _ hst => hst.1.1
  refine Body.Triple.bind (hleave (runStep_keeps hbase)) fun _ => ?_
  refine Body.Triple.bind (Body.Triple.perform (fun _ _ _ => trivial) fun _ _ _ _ h _ => h) fun _ => ?_
  refine Body.Triple.bind (hleave (runStep_keeps hroot)) fun _ => ?_
  refine Body.Triple.bind (Body.Triple.perform (fun _ _ _ => trivial) fun _ _ _ _ h _ => h) fun _ => ?_
  refine Body.Triple.bind (hleave (runStep_keeps hbootstrap)) fun _ => ?_
  refine Body.Triple.bind (Body.Triple.perform (fun _ _ _ => trivial) fun _ _ _ _ h _ => h) fun _ => ?_
  refine runStep_disks_records.bind fun _ => ?_
  refine Body.Triple.bind (Body.Triple.perform (fun _ _ _ => trivial) fun _ _ _ _ h _ => h) fun _ => ?_
  exact hleave (runStep_keeps (hboot _))

theorem bringUpDomain_records :
    Body.Keeps anyReply anyOp (Recording rc start volumes) (bringUpDomain deps rc) := by
  have hrecords : Records anyReply anyOp (Recording rc start volumes) := recording_records
  have hdomain : Fn.Keeps anyReply anyOp (Recording rc start volumes) (reconcileDomain deps rc) :=
    reconcileDomain_keeps (fun _ => True) hrecords (fun _ _ => trivial)
      fun call _ => domainCall_keeps trivial fun _ _ _ => hrecords
  exact bringUpDomain_keeps_of (fun _ => trivial) hdomain

theorem markReady_recorded {st : RunState} (domainInfo : DomainInfo)
    (hst : Recording rc start (diskVolumes rc) st) :
    ArtifactsEnd deps rc start (markReady deps rc domainInfo st).status := by
  exact .inr ⟨st.additionalDiskVolumes, rfl, hst.1.2, hst.2⟩

theorem hostWork_records :
    Issues anyReply anyOp (Recording rc start []) (hostWork deps rc)
      (fun st => ArtifactsEnd deps rc start st.status) (fun _ st => ArtifactsEnd deps rc start st.status) := by
  have hlabels : Fn.Keeps anyReply anyOp (fun st => ArtifactsEnd deps rc start st.status)
      (onStatus (reconcileNodeLabels rc.libvirtMachine rc.domainName)) := by
    intro st hst
    have hkeeps : Fn.Keeps anyReply (NodeOp rc.domainName) (ArtifactsEnd deps rc start)
        (reconcileNodeLabels rc.libvirtMachine rc.domainName) :=
      reconcileNodeLabels_keeps (fun _ _ _ _ h => h) (fun _ h => h) _
    exact ((hkeeps st.status hst).mono (fun _ _ hr => hr) (fun _ _ => trivial) fun _ h => h).bind fun _ h => h
  refine Body.Triple.bind (Body.Triple.mono prepareArtifacts_records (fun _ _ _ h => h)
    fun _ _ _ h => .inl h) fun _ => ?_
  refine Body.Triple.bind (keeps_issues bringUpDomain_records fun _ _ h => .inl h.1.1) fun domainInfo => ?_
  refine Body.Triple.modify_bind (fun st _ => ArtifactsEnd deps rc start st.status)
    (fun st _ h => markReady_recorded domainInfo h) ?_
  exact keeps_issues (Body.Keeps.call hlabels) fun _ _ h => h

theorem provision_records {st : RunState} (hst : Recording rc start [] st) :
    Emits anyReply anyOp (fun out => ArtifactsEnd deps rc start out.2.status) (provision deps rc st) := by
  have hchecks : Body.Keeps anyReply anyOp (Recording rc start []) (preflight deps rc) :=
    preflight_keeps_of recording_records (fun _ _ _ _ h => h) fun _ => trivial
  have hbody : Issues anyReply anyOp (Recording rc start [])
      (do preflight deps rc; issue (.enter .baseImage); hostWork deps rc)
      (fun st => ArtifactsEnd deps rc start st.status) (fun _ st => ArtifactsEnd deps rc start st.status) := by
    refine Body.Triple.bind (keeps_issues hchecks fun _ _ h => .inl h.1.1) fun _ => ?_
    refine Body.Triple.bind (Body.Triple.perform (fun _ _ _ => trivial) fun _ _ _ _ h _ => h) fun _ => ?_
    exact hostWork_records
  exact Body.Triple.run hbody hst

theorem reconcileNormal_records {lm : LibvirtMachine} {machine : Machine} {cluster : Cluster}
    {libvirtCluster : LibvirtCluster} {host : LibvirtHost} :
    Emits anyReply anyOp
      (fun out => ArtifactsEnd deps ⟨lm.addFinalizer, machine, cluster, libvirtCluster, host, 0, 0⟩
        lm.status.managedArtifacts out.2.status)
      (reconcileNormal deps lm machine cluster libvirtCluster host) := by
  refine reconcileNormal_holds_of_status (fun _ => True)
    (fun status => status.managedArtifacts = lm.status.managedArtifacts) (fun _ _ _ _ => trivial)
    (fun _ _ _ _ _ _ _ => trivial) rfl (fun _ _ _ _ _ _ h => h) (fun _ _ _ h => h) (fun _ _ _ h _ => .inl h)
    ?_ trivial
  intro vcpus memoryMB status _ hstatus _ _ rc
  exact @provision_records deps rc _ _ ⟨⟨hstatus, List.nil_subset _⟩, .inr rfl⟩

end Provisioning

inductive Target where
  | domain (name : String)
  | volume (name : String)
  | file (path : String)
  | pool (name : String)
deriving DecidableEq, Repr

def destroyedBy : ClientCall → Option Target
  | .destroyDomain name | .undefineDomain name => some (.domain name)
  | .deleteVolume _ name => some (.volume name)
  | .deleteRemoteFile path => some (.file path)
  | .destroyPool name => some (.pool name)
  | _ => none

-- An artifact the status leaves empty was not made.
def named (name : String) (target : String → Target) : List Target :=
  if name = "" then [] else [target name]

def recordedTargets (artifacts : ManagedArtifacts) : List Target :=
  [.domain artifacts.domainName, .volume artifacts.rootDiskVolume] ++
    named artifacts.ignitionFile .file ++ named artifacts.bootstrapISO .volume ++
    artifacts.additionalDiskVolumes.map .volume ++ named artifacts.ephemeralPoolName .pool

def targetsWith (scope : MachineScope) (volumes : List String) : List Target :=
  [.domain scope.domainName, .volume scope.rootDiskVolumeName] ++
    (match scope.libvirtMachine.spec.bootstrapFormat with
      | .ignition => [.file scope.ignitionFilePath]
      | .cloudInit => [.volume scope.bootstrapISOName]
      | .other _ => []) ++
    volumes.map .volume ++
    if scope.libvirtMachine.spec.rootDisk.ephemeralPool then [.pool scope.ephemeralPoolName] else []

def deletionTargets (scope : MachineScope) : List Target :=
  targetsWith scope (scope.libvirtMachine.spec.additionalDisks.map scope.additionalDiskVolumeName)

section Names

variable {scope other : MachineScope} {volumes : List String}

theorem append_ne_empty (first second : String) (h : second ≠ "") : first ++ second ≠ "" := by
  intro hempty
  have hlength := congrArg String.length hempty
  rw [String.length_append] at hlength
  exact h (String.length_eq_zero_iff.mp (by simpa using (Nat.add_eq_zero_iff.mp hlength).2))

-- What a run records is what the deletion of the same machine goes for, up to the data disks.
theorem recordedTargets_artifactsOf (nvramPath : String) :
    recordedTargets (artifactsOf scope nvramPath volumes) = targetsWith scope volumes := by
  have hiso : scope.bootstrapISOName ≠ "" := append_ne_empty _ _ (by decide)
  have hpool : scope.ephemeralPoolName ≠ "" := append_ne_empty _ _ (by decide)
  have hfile : scope.ignitionFilePath ≠ "" := append_ne_empty _ _ (by decide)
  have hephemeral : named (artifactsOf scope nvramPath volumes).ephemeralPoolName .pool =
      if scope.libvirtMachine.spec.rootDisk.ephemeralPool then [.pool scope.ephemeralPoolName] else [] := by
    cases heph : scope.libvirtMachine.spec.rootDisk.ephemeralPool <;> simp [artifactsOf, named, heph, hpool]
  have hbootstrap : named (artifactsOf scope nvramPath volumes).ignitionFile .file ++
      named (artifactsOf scope nvramPath volumes).bootstrapISO .volume =
      match scope.libvirtMachine.spec.bootstrapFormat with
        | .ignition => [.file scope.ignitionFilePath]
        | .cloudInit => [.volume scope.bootstrapISOName]
        | .other _ => [] := by
    cases hformat : scope.libvirtMachine.spec.bootstrapFormat with
    | ignition => simp [artifactsOf, named, hformat, hfile]
    | cloudInit => simp [artifactsOf, named, hformat, hiso]
    | other format => simp [artifactsOf, named, hformat]
  rw [recordedTargets, hephemeral, List.append_assoc [_, _], hbootstrap]
  rfl

theorem artifactsOf_same (h : SameMachine scope other) (nvramPath : String) :
    artifactsOf other nvramPath volumes = artifactsOf scope nvramPath volumes := by
  have hdomain : other.domainName = scope.domainName := h.base
  have hroot := h.rootDiskVolumeName
  have hiso : other.bootstrapISOName = scope.bootstrapISOName := congrArg (· ++ "-bootstrap.iso") h.base
  have hpool : other.ephemeralPoolName = scope.ephemeralPoolName := congrArg (· ++ "-pool") h.base
  have hfile : other.ignitionFilePath = scope.ignitionFilePath :=
    congrArg (fun base => "/run/caplv/" ++ base ++ "/ignition.json") h.base
  rw [artifactsOf, artifactsOf, hdomain, hroot, hiso, hpool, hfile, h.format, h.rootDisk]

theorem targetsWith_subset {listed : List String}
    (hvolumes : ∀ volume ∈ volumes, .volume volume ∈ targetsWith scope listed) :
    targetsWith scope volumes ⊆ targetsWith scope listed := by
  intro target htarget
  rcases List.mem_append.mp htarget with hmem | hmem
  · rcases List.mem_append.mp hmem with hmem | hmem
    · exact List.mem_append_left _ (List.mem_append_left _ hmem)
    · obtain ⟨volume, hvolume, rfl⟩ := List.mem_map.mp hmem
      exact hvolumes volume hvolume
  · exact List.mem_append_right _ hmem

theorem targetsWith_of_not_disk {listed : List String} {target : Target} (h : target ∈ targetsWith scope volumes)
    (hdisk : ∀ volume ∈ volumes, target ≠ .volume volume) : target ∈ targetsWith scope listed := by
  rcases List.mem_append.mp h with hmem | hmem
  · rcases List.mem_append.mp hmem with hmem | hmem
    · exact List.mem_append_left _ (List.mem_append_left _ hmem)
    · obtain ⟨volume, hvolume, rfl⟩ := List.mem_map.mp hmem
      exact absurd rfl (hdisk volume hvolume)
  · exact List.mem_append_right _ hmem

theorem volume_mem_targetsWith {volume : String}
    (h : volume ∈ volumes) : .volume volume ∈ targetsWith scope volumes :=
  List.mem_append_left _ (List.mem_append_right _ (List.mem_map_of_mem h))

theorem domain_mem_targetsWith {name : String} (h : .domain name ∈ targetsWith scope volumes) :
    name = scope.domainName := by
  rw [targetsWith] at h
  cases hformat : scope.libvirtMachine.spec.bootstrapFormat <;>
    cases heph : scope.libvirtMachine.spec.rootDisk.ephemeralPool <;> simpa [hformat, heph] using h

theorem baseName_inj {namespaceName cluster other machineName : String}
    (h : baseName namespaceName cluster machineName = baseName namespaceName other machineName) :
    cluster = other := by
  have hlist := congrArg String.toList h
  simp only [baseName, String.toList_append, List.append_assoc] at hlist
  have hcluster := List.append_cancel_left (List.append_cancel_left hlist)
  rw [← List.append_assoc, ← List.append_assoc] at hcluster
  exact String.toList_inj.mp (List.append_cancel_right (List.append_cancel_right hcluster))

end Names

def Destroyed (target : Target) (issued : List Op) : Prop :=
  ∃ host call, .client host call ∈ issued ∧ destroyedBy call = some target

def DestroysOp (targets : List Target) : Op → Prop
  | .client _ call => ∀ target, destroyedBy call = some target → target ∈ targets
  | _ => True

section Deletion

variable {scope : MachineScope} {targets : List Target} {target : Target} {issued : List Op}

abbrev Gone (targets : List Target) (issued : List Op) : Prop := ∀ target ∈ targets, Destroyed target issued

theorem Destroyed.append (h : Destroyed target issued) (op : Op) : Destroyed target (issued ++ [op]) := by
  obtain ⟨host, call, hmem, hcall⟩ := h
  exact ⟨host, call, List.mem_append_left _ hmem, hcall⟩

theorem Gone.append (h : Gone targets issued) (op : Op) : Gone targets (issued ++ [op]) :=
  fun target hmem => (h target hmem).append op

theorem Gone.issue (h : Gone targets issued) {call : ClientCall} (hcall : destroyedBy call = some target)
    (host : ObjectKey) : Gone (targets ++ [target]) (issued ++ [.client host call]) := by
  intro other hother
  rcases List.mem_append.mp hother with hmem | hmem
  · exact (h other hmem).append _
  · rw [List.mem_singleton.mp hmem]
    exact ⟨host, call, List.mem_append_right _ (List.mem_singleton_self _), hcall⟩

abbrev Destroys {α : Type} (targets : List Target) (body : DeleteBody α) (after : List Target) : Prop :=
  Body.Triple tracing (fun _ _ => True) (fun _ issued => Gone targets issued) body
    (fun _ _ issued => Gone after issued) fun _ _ _ => True

theorem deleteCall_destroys {call : ClientCall} (hcall : destroyedBy call = some target) (host : LibvirtHost)
    (what : String) : Destroys targets (deleteCall host call what) (targets ++ [target]) := by
  refine Body.Triple.perform_bind (fun _ _ _ => trivial) fun reply => ?_
  have hissued (_ : LibvirtMachine) (after : List Op) (h : ∃ before, Gone targets before ∧
      @tracing signature before (.client (LibvirtHost.key host) call) reply after) :
      Gone (targets ++ [target]) after := by
    obtain ⟨before, hgone, rfl⟩ := h
    exact hgone.issue hcall _
  cases reply with
  | ok _ => exact Body.Triple.pure hissued
  | error err =>
    refine Body.Triple.ite (fun _ => Body.Triple.pure hissued) fun _ => ?_
    exact Body.Triple.leave fun _ _ _ => trivial

theorem deleteAdditionalDisks_destroys (disks : List AdditionalDiskSpec) :
    Destroys targets (deleteAdditionalDisks scope disks)
      (targets ++ (disks.map scope.additionalDiskVolumeName).map .volume) := by
  induction disks generalizing targets with
  | nil =>
    rw [List.map_nil, List.map_nil, List.append_nil]
    exact Body.Triple.pure fun _ _ h => h
  | cons disk rest ih =>
    refine (deleteCall_destroys rfl scope.libvirtHost _).bind fun _ => ?_
    have hrest := @ih (targets ++ [.volume (scope.additionalDiskVolumeName disk)])
    rw [List.append_assoc] at hrest
    exact hrest

theorem deleteBootstrapArtifacts_destroys :
    Destroys targets (deleteBootstrapArtifacts scope) (targets ++
      match scope.libvirtMachine.spec.bootstrapFormat with
        | .ignition => [.file scope.ignitionFilePath]
        | .cloudInit => [.volume scope.bootstrapISOName]
        | .other _ => []) := by
  rw [deleteBootstrapArtifacts]
  cases scope.libvirtMachine.spec.bootstrapFormat with
  | ignition =>
    refine Body.Triple.perform_bind (fun _ _ _ => trivial) fun reply => Body.Triple.pure ?_
    rintro _ _ ⟨before, hgone, rfl⟩
    exact hgone.issue rfl _
  | cloudInit => exact deleteCall_destroys rfl scope.libvirtHost _
  | other format =>
    dsimp only
    rw [List.append_nil]
    exact Body.Triple.pure fun _ _ h => h

theorem deleteEphemeralPool_destroys :
    Destroys targets (deleteEphemeralPool scope) (targets ++
      if scope.libvirtMachine.spec.rootDisk.ephemeralPool then [.pool scope.ephemeralPoolName] else []) := by
  rw [deleteEphemeralPool]
  split
  · exact deleteCall_destroys rfl scope.libvirtHost _
  · rw [List.append_nil]
    exact Body.Triple.pure fun _ _ h => h

theorem deleteNodeObject_destroys (nodeName : String) : Destroys targets (deleteNodeObject nodeName) targets := by
  refine Body.Triple.perform_bind (fun _ _ _ => trivial) fun node => ?_
  cases node with
  | error err =>
    refine Body.Triple.pure ?_
    rintro _ _ ⟨before, hgone, rfl⟩
    exact hgone.append _
  | ok node =>
    refine Body.Triple.perform_bind (fun _ _ _ => trivial) fun _ => Body.Triple.pure ?_
    rintro _ _ ⟨_, ⟨before, hgone, rfl⟩, rfl⟩
    exact (hgone.append _).append _

theorem cleanUp_destroys : Destroys [] (cleanUp scope) (deletionTargets scope) := by
  refine Body.Triple.bind ((deleteCall_destroys rfl scope.libvirtHost _).bind fun _ =>
    deleteCall_destroys rfl scope.libvirtHost _) fun _ => ?_
  refine (deleteCall_destroys rfl scope.libvirtHost _).bind fun _ => ?_
  refine deleteBootstrapArtifacts_destroys.bind fun _ => ?_
  refine (deleteAdditionalDisks_destroys _).bind fun _ => ?_
  refine deleteEphemeralPool_destroys.bind fun _ => ?_
  refine (deleteNodeObject_destroys _).mono (fun _ _ _ h target hmem => h target ?_) fun _ _ _ h => h
  exact List.mem_cons_of_mem _ hmem

theorem deleteOp_destroys (op : Op) (h : DeleteOp scope op) : DestroysOp (deletionTargets scope) op := by
  cases op with
  | client host call =>
    intro target htarget
    rw [deletionTargets, targetsWith]
    cases h.2 with
    | destroyDomain => cases htarget; simp
    | undefineDomain => cases htarget; simp
    | deleteRoot => cases htarget; simp
    | deleteIgnition hformat => cases htarget; simp [hformat]
    | deleteISO hformat => cases htarget; simp [hformat]
    | deleteDisk disk hdisk =>
      cases htarget
      exact volume_mem_targetsWith (List.mem_map_of_mem hdisk)
    | destroyPool heph => cases htarget; simp [heph]
  | _ => trivial

theorem reconcileDelete_destroys {deps : Deps} {lm : LibvirtMachine} {cluster : Cluster} {host : LibvirtHost}
    (hfinalizer : lm.containsFinalizer = true) :
    Holds tracing (fun _ op => DestroysOp (deletionTargets ⟨cluster, lm, host⟩) op)
      (fun out issued => out.2.containsFinalizer = false → Gone (deletionTargets ⟨cluster, lm, host⟩) issued)
      (reconcileDelete deps lm cluster host) [] := by
  have hkept {lm' : LibvirtMachine} (hsame : lm'.containsFinalizer = true) {issued : List Op}
      (hgone : lm'.containsFinalizer = false) : Gone (deletionTargets ⟨cluster, lm, host⟩) issued :=
    Bool.noConfusion (hgone.symm.trans hsame)
  have hread (op : Op) (hop : ReadOp op) : DestroysOp (deletionTargets ⟨cluster, lm, host⟩) op := by
    cases op <;> first | exact hop.elim | trivial
  have hkeeps : Body.Keeps anyReply (DeleteOp ⟨cluster, lm, host⟩) (· = lm) (cleanUp ⟨cluster, lm, host⟩) :=
    cleanUp_keeps
  have hclients (w : List Op) : Holds tracing (fun _ op => DestroysOp (deletionTargets ⟨cluster, lm, host⟩) op)
      (fun _ _ => True) (createClients deps host) w :=
    ((createClients_emits deps host).holds trivial (fun _ op _ => hread op)
      fun _ _ _ _ _ _ _ => ⟨trivial, trivial⟩).post_mono fun _ _ _ => trivial
  refine reconcileDelete_holds_of_cleanUp (fun _ => True) (fun _ _ => True)
    (fun _ _ _ _ => hkept hfinalizer) (fun _ _ _ _ _ => hkept hfinalizer) (fun w _ => hclients w)
    (fun _ _ _ _ _ => hkept hfinalizer) ?_ trivial
  · intro w _
    have hnone : Gone [] w := fun _ hmem => (List.not_mem_nil hmem).elim
    have hclean := (cleanUp_destroys.keeping hkeeps) lm w ⟨hnone, rfl⟩
    have hops : Holds tracing (fun _ op => DestroysOp (deletionTargets ⟨cluster, lm, host⟩) op)
        (fun _ _ => True) ((cleanUp ⟨cluster, lm, host⟩).exec lm) w :=
      ((hkeeps lm rfl).holds trivial (fun _ op _ => deleteOp_destroys op)
        fun _ _ _ _ _ _ _ => ⟨trivial, trivial⟩).post_mono fun _ _ _ => trivial
    refine (hclean.and hops).mono (fun _ _ _ _ hs => hs) (fun _ _ hg => hg.2) ?_
    rintro ⟨out, lm'⟩ issued ⟨hout, -⟩
    cases out with
    | ok _ => exact fun _ => hout.1
    | error ret =>
      obtain ⟨-, rfl⟩ := hout
      exact hkept hfinalizer

end Deletion

-- What a run recorded: the cluster it read off the object, whether it recorded a failure as well,
-- and the artifacts.
structure Record where
  label : String
  failed : Bool
  artifacts : ManagedArtifacts
deriving DecidableEq, Repr

-- The cluster GetClusterFromMetadata looks up.
def labelledCluster (lm : LibvirtMachine) : String := lm.labels.index clusterNameLabel

def newRecord (old after : LibvirtMachine) : List Record :=
  match after.status.managedArtifacts with
  | none => []
  | some artifacts =>
    if old.status.managedArtifacts = some artifacts then []
    else [⟨labelledCluster old, after.status.failureReason.isSome, artifacts⟩]

theorem mem_newRecord {old after : LibvirtMachine} {record : Record} (h : record ∈ newRecord old after) :
    after.status.managedArtifacts = some record.artifacts ∧
    old.status.managedArtifacts ≠ some record.artifacts ∧
    record.label = labelledCluster old ∧ record.failed = after.status.failureReason.isSome := by
  unfold newRecord at h
  split at h
  · cases h
  · rename_i artifacts hartifacts
    split at h
    · cases h
    · rename_i hchanged
      obtain rfl := List.mem_singleton.mp h
      exact ⟨hartifacts, hchanged, rfl, rfl⟩

-- The object from its creation on: edits that ValidateUpdate lets through, whatever they do to
-- the metadata, and runs of reconcileNormal whose status is written. All that was ever recorded
-- counts, not the last record alone.
inductive Life (obj : LibvirtMachine) : LibvirtMachine → List Record → Prop where
  | created (hfresh : obj.status.managedArtifacts = none) : Life obj obj []
  | edited {old new : LibvirtMachine} {records : List Record} (h : Life obj old records)
      (hkey : new.key = old.key) (hvalid : Webhook.validateUpdate old new = .ok ())
      (hstatus : new.status.managedArtifacts = old.status.managedArtifacts) : Life obj new records
  | reconciled {σ : Type} {step : Handler signature σ} {w w' : σ} {old after new : LibvirtMachine}
      {records : List Record} {deps : Deps} {machine : Machine} {cluster : Cluster}
      {libvirtCluster : LibvirtCluster} {host : LibvirtHost} {ret : Return} (h : Life obj old records)
      (hcluster : cluster.name = labelledCluster old)
      (hrun : Completes step (reconcileNormal deps old machine cluster libvirtCluster host) w (ret, after) w')
      (hkey : new.key = old.key) (hvalid : Webhook.validateUpdate old new = .ok () ∨ new.spec = old.spec)
      (hstatus : new.status.managedArtifacts = after.status.managedArtifacts) :
      Life obj new (records ++ newRecord old after)

def recordedBy (records : List Record) : List Target :=
  records.flatMap fun record => recordedTargets record.artifacts

-- Every deletion of the object goes for these targets only, and for all of them before it removes
-- the finalizer.
def DeletesExactly (lm : LibvirtMachine) (targets : List Target) : Prop :=
  ∀ (deps : Deps) (cluster : Cluster) (host : LibvirtHost), cluster.name = labelledCluster lm →
    Holds tracing (fun _ op => DestroysOp targets op)
      (fun out issued => out.2.containsFinalizer = false → Gone targets issued)
      (reconcileDelete deps lm cluster host) []

section Life

variable {obj lm : LibvirtMachine} {records : List Record} {artifacts : ManagedArtifacts}

theorem Life.version (h : Life obj lm records) : Version obj lm := by
  induction h with
  | created hfresh => exact .created
  | edited h hkey hvalid hstatus ih => exact ih.updated hkey (.inl hvalid)
  | reconciled h hcluster hrun hkey hvalid hstatus ih => exact ih.updated hkey hvalid

structure RecordedIn (scope : MachineScope) (failed : Bool) (artifacts : ManagedArtifacts) : Prop where
  names : artifacts = artifactsOf scope artifacts.nvramPath artifacts.additionalDiskVolumes
  listed : artifacts.additionalDiskVolumes ⊆
    scope.libvirtMachine.spec.additionalDisks.map scope.additionalDiskVolumeName
  complete : failed = false → artifacts.additionalDiskVolumes =
    scope.libvirtMachine.spec.additionalDisks.map scope.additionalDiskVolumeName

theorem RecordedIn.targets {scope : MachineScope} {failed : Bool} (h : RecordedIn scope failed artifacts) :
    recordedTargets artifacts = targetsWith scope artifacts.additionalDiskVolumes :=
  (congrArg recordedTargets h.names).trans (recordedTargets_artifactsOf _)

theorem RecordedIn.same {scope other : MachineScope} {failed : Bool} (h : RecordedIn other failed artifacts)
    (hsame : SameMachine scope other) : RecordedIn scope failed artifacts := by
  have hdisks : other.libvirtMachine.spec.additionalDisks.map other.additionalDiskVolumeName =
      scope.libvirtMachine.spec.additionalDisks.map scope.additionalDiskVolumeName := by
    have hname : other.additionalDiskVolumeName = scope.additionalDiskVolumeName := by
      funext disk
      exact congrArg (· ++ "-" ++ disk.name ++ ".qcow2") hsame.base
    rw [hsame.disks, hname]
  exact ⟨h.names.trans (artifactsOf_same hsame _), hdisks ▸ h.listed,
    fun hfailed => (h.complete hfailed).trans hdisks⟩

theorem ArtifactsEnd.recordedIn {deps : Deps} {rc : ReconcileCtx} {start : Option ManagedArtifacts}
    {status : LibvirtMachineStatus} (h : ArtifactsEnd deps rc start status)
    (hchanged : status.managedArtifacts ≠ start) (hartifacts : status.managedArtifacts = some artifacts) :
    RecordedIn rc.machineScope status.failureReason.isSome artifacts := by
  rcases h with hkept | ⟨volumes, hrecorded, hlisted, hcomplete⟩
  · exact absurd hkept hchanged
  · obtain rfl := Option.some.inj (hrecorded.symm.trans hartifacts)
    refine ⟨rfl, hlisted, fun hfailed => ?_⟩
    exact hcomplete.resolve_left (Bool.eq_false_iff.mp hfailed)

theorem Life.recordedIn (h : Life obj lm records) {record : Record} (hrecord : record ∈ records)
    (cluster : Cluster) (host : LibvirtHost) (hcluster : cluster.name = record.label) :
    RecordedIn ⟨cluster, obj, host⟩ record.failed record.artifacts := by
  induction h with
  | created hfresh => cases hrecord
  | edited h hkey hvalid hstatus ih => exact ih hrecord
  | @reconciled _ _ _ _ old after new _ _ machine runCluster libvirtCluster runHost _ h hname hrun hkey hvalid
      hstatus ih =>
      rcases List.mem_append.mp hrecord with hbefore | hnew
      · exact ih hbefore
      · obtain ⟨hartifacts, hchanged, hlabel, hfailed⟩ := mem_newRecord hnew
        have hrecorded := (reconcileNormal_records.holds trivial (fun _ _ _ _ => trivial)
          fun _ _ _ _ _ _ _ => ⟨trivial, trivial⟩).completes hrun
        have hscope := hrecorded.1.recordedIn (fun hkept => hchanged (hkept ▸ hartifacts)) hartifacts
        have hversion : Version obj old.addFinalizer := h.version.addFinalizer
        rw [hfailed]
        exact hscope.same (hversion.same ((hname.trans hlabel.symm).trans hcluster.symm) _)

end Life

def obliging : Machine signature (List Op) := fun issued op => (freshAnswer op, issued ++ [op])

section Obliging

variable {scope : MachineScope}

abbrev GoesOn {α : Type} (body : DeleteBody α) : Prop :=
  Body.Triple obliging.handler (fun _ _ => True) (fun _ _ => True) body (fun _ _ _ => True) fun _ _ _ => False

theorem deleteCall_passes {call : ClientCall} {value : call.Result} (host : LibvirtHost) (what : String)
    (hcall : freshAnswer (.client (LibvirtHost.key host) call) = .ok value) :
    GoesOn (deleteCall host call what) := by
  refine Body.Triple.perform_bind (fun _ _ _ => trivial) fun reply => ?_
  cases reply with
  | ok _ => exact Body.Triple.pure fun _ _ _ => trivial
  | error err =>
    rintro _ _ ⟨_, -, hs⟩
    exact nomatch hcall.symm.trans (Prod.mk.inj hs).1

theorem deleteAdditionalDisks_passes (disks : List AdditionalDiskSpec) :
    GoesOn (deleteAdditionalDisks scope disks) := by
  induction disks with
  | nil => exact Body.Triple.pure fun _ _ _ => trivial
  | cons disk rest ih => exact (deleteCall_passes _ _ rfl).bind fun _ => ih

theorem deleteBootstrapArtifacts_passes : GoesOn (deleteBootstrapArtifacts scope) := by
  rw [deleteBootstrapArtifacts]
  cases scope.libvirtMachine.spec.bootstrapFormat with
  | ignition =>
    exact Body.Triple.perform_bind (fun _ _ _ => trivial) fun _ => Body.Triple.pure fun _ _ _ => trivial
  | cloudInit => exact deleteCall_passes _ _ rfl
  | other format => exact Body.Triple.pure fun _ _ _ => trivial

theorem deleteNodeObject_passes (nodeName : String) : GoesOn (deleteNodeObject nodeName) := by
  refine Body.Triple.perform_bind (fun _ _ _ => trivial) fun node => ?_
  cases node with
  | error err => exact Body.Triple.pure fun _ _ _ => trivial
  | ok node =>
    exact Body.Triple.perform_bind (fun _ _ _ => trivial) fun _ => Body.Triple.pure fun _ _ _ => trivial

theorem cleanUp_passes : GoesOn (cleanUp scope) := by
  refine ((deleteCall_passes _ _ rfl).bind fun _ => deleteCall_passes _ _ rfl).bind fun _ => ?_
  refine (deleteCall_passes _ _ rfl).bind fun _ => ?_
  refine deleteBootstrapArtifacts_passes.bind fun _ => ?_
  refine (deleteAdditionalDisks_passes _).bind fun _ => ?_
  refine Body.Triple.bind ?_ fun _ => deleteNodeObject_passes _
  exact Body.Triple.ite (fun _ => deleteCall_passes _ _ rfl) fun _ => Body.Triple.pure fun _ _ _ => trivial

theorem reconcileDelete_passes {lm : LibvirtMachine} (cluster : Cluster)
    (hfinalizer : lm.containsFinalizer = true) :
    Holds obliging.handler (fun _ _ => True) (fun out _ => out.2.containsFinalizer = false)
      (reconcileDelete sampleDeps lm cluster sampleHost) [] := by
  refine reconcileDelete_holds_of_cleanUp (fun _ => True) (fun clients _ => clients = .ok ())
    (fun hno => Bool.noConfusion (hno.symm.trans hfinalizer)) (fun hno => by cases hno) (fun w _ => ?_)
    (fun _ _ _ _ hno => by cases hno) (fun w _ => ?_) trivial
  · refine ⟨trivial, fun secret w₁ hs => ?_⟩
    obtain ⟨rfl, rfl⟩ := Prod.mk.inj hs
    refine ⟨trivial, fun dialled w₂ hs => ?_⟩
    obtain ⟨rfl, rfl⟩ := Prod.mk.inj hs
    rfl
  · refine (cleanUp_passes lm w trivial).post_mono ?_
    rintro ⟨out, lm'⟩ issued hout
    cases out with
    | ok _ => exact lm'.removeFinalizer_containsFinalizer
    | error ret => exact hout.elim

end Obliging

section Exactness

variable {obj lm : LibvirtMachine} {targets : List Target} {artifacts : ManagedArtifacts}
  {scope : MachineScope} {failed : Bool}

-- A deletion that goes through goes for all its targets, so that an exact one has the same.
theorem DeletesExactly.mem_iff (h : DeletesExactly lm targets) (hfinalizer : lm.containsFinalizer = true)
    {cluster : Cluster} (hcluster : cluster.name = labelledCluster lm) (target : Target) :
    target ∈ deletionTargets ⟨cluster, lm, sampleHost⟩ ↔ target ∈ targets := by
  have hobliging (before : List Op) (op : Op) (reply : Reply op) (after : List Op)
      (hs : obliging.handler before op reply after) : @tracing signature before op reply after :=
    (Prod.mk.inj hs).2.symm
  have hrun {others : List Target} (hdestroys : Holds tracing (fun _ op => DestroysOp others op)
      (fun out issued => out.2.containsFinalizer = false → Gone others issued)
      (reconcileDelete sampleDeps lm cluster sampleHost) []) :=
    ((hdestroys.traced fun _ hmem => (List.not_mem_nil hmem).elim).mono hobliging (fun _ _ hg => hg)
      fun _ _ hp => hp).run
  -- one run in which everything goes through shows all that the deletion goes for
  obtain ⟨hgone, hissued⟩ := hrun (h sampleDeps cluster sampleHost hcluster)
  obtain ⟨hgone', hissued'⟩ := hrun (reconcileDelete_destroys hfinalizer)
  have hremoved := (reconcileDelete_passes cluster hfinalizer).run
  constructor
  · intro htarget
    obtain ⟨host, call, hmem, hcall⟩ := hgone' hremoved target htarget
    exact hissued _ hmem target hcall
  · intro htarget
    obtain ⟨host, call, hmem, hcall⟩ := hgone hremoved target htarget
    exact hissued' _ hmem target hcall

theorem deletesExactly_of_mem_iff (hfinalizer : lm.containsFinalizer = true)
    (h : ∀ (cluster : Cluster) (host : LibvirtHost), cluster.name = labelledCluster lm →
      ∀ target, target ∈ deletionTargets ⟨cluster, lm, host⟩ ↔ target ∈ targets) : DeletesExactly lm targets := by
  intro deps cluster host hcluster
  refine (reconcileDelete_destroys hfinalizer).mono (fun _ _ _ _ hs => hs) ?_ ?_
  · intro issued op hop
    cases op with
    | client key call => exact fun target htarget => (h cluster host hcluster target).mp (hop target htarget)
    | _ => trivial
  · exact fun out issued hgone hremoved target htarget =>
      hgone hremoved target ((h cluster host hcluster target).mpr htarget)

theorem RecordedIn.subset (h : RecordedIn scope failed artifacts) :
    recordedTargets artifacts ⊆ deletionTargets scope := by
  rw [h.targets]
  exact targetsWith_subset fun volume hvolume => volume_mem_targetsWith (h.listed hvolume)

-- What the record and the spec say about where the artifacts are. An error of rm and of virsh
-- pool-undefine does not stop a cleanup.
def RecordedAt (mayFail : Command → Prop) (lm : LibvirtMachine) (artifacts : ManagedArtifacts) : Key → Prop
  | .domain name => name = artifacts.domainName
  | .volume pool name =>
    (name = artifacts.rootDiskVolume ∨ name = artifacts.bootstrapISO ∧ name ≠ "") ∧
      (pool = if lm.spec.rootDisk.ephemeralPool then artifacts.ephemeralPoolName
        else lm.spec.rootDisk.storagePool) ∨
    name ∈ artifacts.additionalDiskVolumes ∧ ∃ disk ∈ lm.spec.additionalDisks, pool = disk.storagePool ∧
      name = artifacts.domainName ++ "-" ++ disk.name ++ ".qcow2"
  | .file path => path = artifacts.ignitionFile ∧ path ≠ "" ∧ ¬ mayFail (.rm path)
  | .pool name => name = artifacts.ephemeralPoolName ∧ name ≠ "" ∧ ¬ mayFail (.poolDestroy name) ∧
      ¬ mayFail (.poolUndefine name)
  | _ => False

theorem RecordedIn.cleanedUp {mayFail : Command → Prop} (h : RecordedIn scope failed artifacts) {key : Key}
    (hkey : RecordedAt mayFail scope.libvirtMachine artifacts key) : CleanedUp mayFail scope key := by
  rw [h.names] at hkey
  cases key with
  | domain name => exact hkey
  | volume pool name =>
    rcases hkey with ⟨hname, hpool⟩ | ⟨-, hdisk⟩
    · have hdeletion : pool = deletionPool scope := by
        rw [hpool, deletionPool]
        cases heph : scope.libvirtMachine.spec.rootDisk.ephemeralPool <;> simp [artifactsOf, heph]
      rcases hname with hroot | ⟨hiso, hne⟩
      · exact .inl ⟨hdeletion, hroot⟩
      · by_cases hformat : scope.libvirtMachine.spec.bootstrapFormat = .cloudInit
        · exact .inr (.inl ⟨hformat, hdeletion, hiso.trans (if_pos hformat)⟩)
        · exact absurd (hiso.trans (if_neg hformat)) hne
    · exact .inr (.inr hdisk)
  | file path =>
    obtain ⟨hpath, hne, hcannot⟩ := hkey
    by_cases hformat : scope.libvirtMachine.spec.bootstrapFormat = .ignition
    · exact ⟨hformat, hpath.trans (if_pos hformat), hcannot⟩
    · exact absurd (hpath.trans (if_neg hformat)) hne
  | pool name =>
    obtain ⟨hname, hne, hcannot⟩ := hkey
    by_cases heph : scope.libvirtMachine.spec.rootDisk.ephemeralPool = true
    · exact ⟨heph, hname.trans (if_pos heph), hcannot⟩
    · exact absurd (hname.trans (if_neg heph)) hne
  | _ => exact hkey.elim

theorem RecordedIn.domain_mem (h : RecordedIn scope failed artifacts) :
    .domain scope.domainName ∈ recordedTargets artifacts := by
  rw [h.targets]
  exact List.mem_append_left _ (List.mem_append_left _ (List.mem_append_left _ List.mem_cons_self))

theorem RecordedIn.label {cluster other : Cluster} {host : LibvirtHost}
    (h : RecordedIn ⟨cluster, lm, host⟩ failed artifacts)
    (hdomain : ∀ target ∈ recordedTargets artifacts, target ∈ deletionTargets ⟨other, lm, host⟩) :
    cluster.name = other.name := by
  have hname := domain_mem_targetsWith (hdomain _ h.domain_mem)
  rw [MachineScope.domainName, MachineScope.domainName, MachineScope.artifactBaseName,
    MachineScope.artifactBaseName] at hname
  exact baseName_inj hname

def diskTarget (lm : LibvirtMachine) (disk : AdditionalDiskSpec) : Target :=
  .volume (baseName lm.namespaceName (labelledCluster lm) lm.name ++ "-" ++ disk.name ++ ".qcow2")

-- The spec does not change, so each record fits the object as it is now, in the cluster its run read.
theorem Life.current {records : List Record} (h : Life obj lm records) {record : Record}
    (hrecord : record ∈ records) (cluster : Cluster) (host : LibvirtHost) (hcluster : cluster.name = record.label) :
    RecordedIn ⟨cluster, lm, host⟩ record.failed record.artifacts := by
  have hsame : SameMachine ⟨cluster, obj, host⟩ ⟨cluster, lm, host⟩ := h.version.same rfl host
  exact (h.recordedIn hrecord cluster host hcluster).same hsame.symm

theorem Life.mem_targets_iff {records : List Record} (h : Life obj lm records) (hrecords : records ≠ [])
    (hlabels : ∀ record ∈ records, record.label = labelledCluster lm)
    (hdisks : ∀ disk ∈ lm.spec.additionalDisks, diskTarget lm disk ∈ recordedBy records) {cluster : Cluster}
    {host : LibvirtHost} (hcluster : cluster.name = labelledCluster lm) {target : Target} :
    target ∈ deletionTargets ⟨cluster, lm, host⟩ ↔ target ∈ recordedBy records := by
  have hcurrent (record : Record) (hrecord : record ∈ records) :
      RecordedIn ⟨cluster, lm, host⟩ record.failed record.artifacts :=
    h.current hrecord cluster host (hcluster.trans (hlabels record hrecord).symm)
  constructor
  · intro htarget
    obtain ⟨record, hrecord⟩ := List.exists_mem_of_ne_nil records hrecords
    by_cases hdisk : ∃ disk ∈ lm.spec.additionalDisks,
        target = .volume (MachineScope.additionalDiskVolumeName ⟨cluster, lm, host⟩ disk)
    · obtain ⟨disk, hmem, rfl⟩ := hdisk
      have htarget := hdisks disk hmem
      rw [diskTarget, ← hcluster] at htarget
      exact htarget
    · -- any record has the other targets
      refine List.mem_flatMap.mpr ⟨record, hrecord, ?_⟩
      rw [(hcurrent record hrecord).targets]
      exact targetsWith_of_not_disk htarget fun volume hvolume heq => hdisk <| by
        obtain ⟨disk, hmem, rfl⟩ := List.mem_map.mp hvolume
        exact ⟨disk, hmem, heq⟩
  · intro htarget
    obtain ⟨record, hrecord, hmem⟩ := List.mem_flatMap.mp htarget
    exact (hcurrent record hrecord).subset hmem

end Exactness

-- Deletion goes for what was ever recorded if and only if the label names the cluster that each of
-- the recording runs read and some record has each data disk, as one does that was made without a
-- failure. Then no finalizer goes while a recorded artifact is where record and spec place it.
theorem deletion_exact_iff (obj lm : LibvirtMachine) (records : List Record) (hlife : Life obj lm records)
    (hrecords : records ≠ []) (hfinalizer : lm.containsFinalizer = true) :
    (DeletesExactly lm (recordedBy records) ↔ (∀ record ∈ records, record.label = labelledCluster lm) ∧
      ∀ disk ∈ lm.spec.additionalDisks, diskTarget lm disk ∈ recordedBy records) ∧
    ((∃ record ∈ records, record.label = labelledCluster lm ∧ record.failed = false) →
      ∀ disk ∈ lm.spec.additionalDisks, diskTarget lm disk ∈ recordedBy records) ∧
    ((∀ record ∈ records, record.label = labelledCluster lm) →
      ∀ (newUUID : DomainXML → String) (mayFail : Command → Prop) (deps : Deps) (cluster : Cluster)
        (host : LibvirtHost) (before after : Host) (ret : Return) (lm' : LibvirtMachine),
      cluster.name = labelledCluster lm →
      Completes (hostStep newUUID mayFail) (reconcileDelete deps lm cluster host) before (ret, lm') after →
      lm'.containsFinalizer = false →
      ∀ record ∈ records, Cleared (RecordedAt mayFail lm record.artifacts) after) := by
  refine ⟨⟨fun hexact => ?_, fun hcondition => ?_⟩, ?_, fun hlabels => ?_⟩
  · have hmem := @DeletesExactly.mem_iff lm _ hexact hfinalizer
      { sampleCluster with name := labelledCluster lm } rfl
    refine ⟨fun record hrecord => ?_, fun disk hdisk => ?_⟩
    · have hin := hlife.current hrecord { sampleCluster with name := record.label } sampleHost rfl
      exact hin.label fun target htarget => (hmem target).mpr (List.mem_flatMap.mpr ⟨record, hrecord, htarget⟩)
    · exact (hmem _).mp (volume_mem_targetsWith (List.mem_map_of_mem hdisk))
  · exact deletesExactly_of_mem_iff hfinalizer fun cluster host hcluster target =>
      hlife.mem_targets_iff hrecords hcondition.1 hcondition.2 hcluster
  · rintro ⟨record, hrecord, hlabel, hcomplete⟩ disk hdisk
    have hin := hlife.current hrecord { sampleCluster with name := labelledCluster lm } sampleHost hlabel.symm
    refine List.mem_flatMap.mpr ⟨record, hrecord, ?_⟩
    rw [hin.targets]
    refine volume_mem_targetsWith ?_
    rw [hin.complete hcomplete]
    exact List.mem_map_of_mem hdisk
  · intro newUUID mayFail deps cluster host before after ret lm' hcluster hrun hremoved record hrecord key hkey
    have hcleared := (reconcileDelete_cleans hfinalizer before).completes hrun hremoved
    have hin := hlife.current hrecord cluster host (hcluster.trans (hlabels record hrecord).symm)
    exact hcleared key (hin.cleanedUp hkey)

def sampleArtifacts : ManagedArtifacts :=
  { domainName := "ns-c-m"
    rootDiskVolume := "ns-c-m-root.qcow2"
    bootstrapISO := ""
    ignitionFile := "/run/caplv/ns-c-m/ignition.json"
    nvramPath := "/var/lib/libvirt/qemu/nvram/ns-c-m_VARS.fd"
    ephemeralPoolName := ""
    additionalDiskVolumes := [] }

def readyConditions : List Condition :=
  [⟨.bootstrapDataReady, true, .bootstrapDataReady, "Bootstrap data secret is available", 1⟩,
    ⟨.infrastructureReady, true, .provisioned, "Machine infrastructure is ready", 1⟩]

def readyMachine : LibvirtMachine :=
  { sampleMachine with
    finalizers := [machineFinalizer]
    spec := { sampleMachine.spec with providerID := some "libvirt:///h/ns-c-m" }
    status := ⟨true, [⟨"10.0.0.1"⟩], "uuid-ns-c-m", "running", some sampleArtifacts, none, none, readyConditions⟩ }

def relabelledMachine : LibvirtMachine := { readyMachine with labels := [(clusterNameLabel, "d")] }

theorem samples_accepted : (provisioned sampleMachine).1.2 = readyMachine ∧
    Webhook.validateUpdate sampleMachine readyMachine = .ok () ∧
    Webhook.validateUpdate readyMachine relabelledMachine = .ok () := by
  decide +kernel

theorem readyMachine_run :
    Completes (hostMachine sampleUUID freshAnswer).handler
      (reconcileNormal sampleDeps sampleMachine sampleOwner sampleCluster sampleLibvirtCluster sampleHost) bareHost
      ((provisioned sampleMachine).1.1, readyMachine) (provisioned sampleMachine).2 := by
  have hrun := provisioned_completes sampleMachine
  rw [samples_accepted.1] at hrun
  exact hrun

theorem readyMachine_life : Life sampleMachine readyMachine [⟨"c", false, sampleArtifacts⟩] := by
  exact Life.reconciled (Life.created rfl) rfl readyMachine_run rfl (.inl samples_accepted.2.1) rfl

theorem relabelledMachine_life : Life sampleMachine relabelledMachine [⟨"c", false, sampleArtifacts⟩] := by
  exact readyMachine_life.edited rfl samples_accepted.2.2 rfl

theorem deletion_exact_sample : readyMachine.status.managedArtifacts = some sampleArtifacts ∧
    DeletesExactly readyMachine (recordedTargets sampleArtifacts) := by
  have hiff := deletion_exact_iff _ _ _ readyMachine_life nofun rfl
  have hexact := hiff.1.mpr ⟨List.forall_mem_singleton.mpr rfl, fun disk hdisk => (List.not_mem_nil hdisk).elim⟩
  rw [recordedBy, List.flatMap_singleton] at hexact
  exact ⟨rfl, hexact⟩

def relabelledDeletion : Prog signature (Return × LibvirtMachine) :=
  reconcileDelete sampleDeps { relabelledMachine with deletionTimestamp := true }
    { sampleCluster with name := "d" } sampleHost

def relabelledEnd : (Return × LibvirtMachine) × Host :=
  run (virshMachine sampleUUID commandMachine freshAnswer) relabelledDeletion (provisioned sampleMachine).2

theorem relabelledDeletion_completes :
    Completes (hostStep sampleUUID fun _ => False) relabelledDeletion (provisioned sampleMachine).2
      relabelledEnd.1 relabelledEnd.2 := by
  obtain ⟨events, hexec⟩ := run_exec (virshMachine sampleUUID commandMachine freshAnswer) relabelledDeletion
    (provisioned sampleMachine).2
  have htrue : (fun _ : Host => True) (provisioned sampleMachine).2 := trivial
  exact ⟨events, hexec.strengthen htrue fun _ _ _ _ _ hs =>
    ⟨virshMachine_hostStep (fun _ _ _ _ h => .inl h) hs, trivial⟩⟩

-- The machine whose label was edited loses its finalizer while its domain still runs.
theorem relabelled_machine_survives :
    Life sampleMachine relabelledMachine [⟨"c", false, sampleArtifacts⟩] ∧
      relabelledMachine.status.managedArtifacts = some sampleArtifacts ∧
      relabelledMachine.containsFinalizer = true ∧ ¬ DeletesExactly relabelledMachine (recordedTargets sampleArtifacts) ∧
      Completes (hostStep sampleUUID fun _ => False) relabelledDeletion (provisioned sampleMachine).2
        relabelledEnd.1 relabelledEnd.2 ∧
      relabelledEnd.1.2.containsFinalizer = false ∧
      (relabelledEnd.2 (.domain sampleArtifacts.domainName)).isSome = true := by
  have hend : relabelledEnd.1.2.containsFinalizer = false ∧
      (relabelledEnd.2 (.domain sampleArtifacts.domainName)).isSome = true := by decide +kernel
  refine ⟨relabelledMachine_life, rfl, rfl, fun hexact => ?_, relabelledDeletion_completes, hend⟩
  have hdomain := (@DeletesExactly.mem_iff _ _ hexact rfl { sampleCluster with name := "d" } rfl
    (.domain "ns-c-m")).mpr List.mem_cons_self
  exact absurd (domain_mem_targetsWith hdomain) (by decide)

end Caplv.Controller

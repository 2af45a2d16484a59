import Caplv.Controller.Handling
import Caplv.Controller.Provision
import Caplv.Controller.World
import Caplv.Path
import Mathlib.Data.List.Forall2

namespace Caplv.Controller

open Text Api Libvirt Scope Program

abbrev Events := List (Event signature)

def ReconcileCtx.effectivePool (rc : ReconcileCtx) : String :=
  if rc.spec.rootDisk.ephemeralPool then rc.machineScope.ephemeralPoolName else rc.spec.rootDisk.storagePool

def Reported (rc : ReconcileCtx) (events : Events) (pool name path : String) : Prop :=
  (⟨.client rc.hostKey (.getVolumePath pool name), .ok path⟩ : Event signature) ∈ events

def IgnitionDisk (rc : ReconcileCtx) (disk : DomainDisk) : Prop :=
  disk.sourceFile = rc.ignitionFilePath ∧ disk.readOnly = true ∧ disk.targetBus = "virtio" ∧
    disk.serial = "ignition"

-- The disks of the domain in order: the root disk, the ISO of a cloud-init machine, the ignition
-- file of an ignition machine that boots a kernel directly, and the disks of the spec.
def FaithfulDisks (rc : ReconcileCtx) (events : Events) (disks : List DomainDisk) : Prop :=
  ∃ root iso ignition data, disks = root :: (iso ++ ignition ++ data) ∧
    Reported rc events rc.effectivePool rc.rootDiskVolume root.sourceFile ∧
    (if rc.spec.bootstrapFormat = .cloudInit then
        ∃ disk, iso = [disk] ∧ Reported rc events rc.effectivePool rc.bootstrapISO disk.sourceFile
      else iso = []) ∧
    (if rc.spec.bootstrapFormat = .ignition ∧ rc.libvirtCluster.bootArtifacts.isSome = true then
        ∃ disk, ignition = [disk] ∧ IgnitionDisk rc disk
      else ignition = []) ∧
    List.Forall₂ (fun spec disk => Reported rc events spec.storagePool
      (rc.machineScope.additionalDiskVolumeName spec) disk.sourceFile) rc.spec.additionalDisks data

def FaithfulBoot (rc : ReconcileCtx) (kernel initrd cmdline : String) : Prop :=
  match rc.libvirtCluster.bootArtifacts with
  | none => kernel = "" ∧ initrd = "" ∧ cmdline = ""
  | some ba => kernel ≠ "" ∧ initrd ≠ "" ∧ cmdline = ba.kernelArgs

structure FaithfulDomain (deps : Deps) (rc : ReconcileCtx) (events : Events) (xml : DomainXML) : Prop where
  name : xml.name = rc.domainName
  vcpu : xml.vcpu = rc.resolvedVCPUs
  memory : xml.memoryKiB = rc.resolvedMemoryMB * 1024
  disks : FaithfulDisks rc events xml.disks
  format : rc.spec.bootstrapFormat = .ignition ∨ rc.spec.bootstrapFormat = .cloudInit
  fwcfg : xml.sysInfo =
    if rc.spec.bootstrapFormat = .ignition ∧ rc.libvirtCluster.bootArtifacts = none then
      some ⟨"fwcfg", [⟨"opt/com.coreos/config", rc.ignitionFilePath⟩]⟩
    else none
  boot : FaithfulBoot rc xml.os.kernel xml.os.initrd xml.os.cmdline
  nvram : localConnectionURI deps rc.libvirtHost.uri = .ok .session →
    ∀ nvram, xml.os.nvram = some nvram → nvram.value = ""

section Document

variable {deps : Deps} {rc : ReconcileCtx} {events : Events} {st : RunState}

structure Assembled (rc : ReconcileCtx) (events : Events) (st : RunState) : Prop where
  pool : st.storagePool = rc.effectivePool
  format : rc.spec.bootstrapFormat = .ignition ∨ rc.spec.bootstrapFormat = .cloudInit
  disks : List.Forall₂ (fun spec param => Reported rc events spec.storagePool
    (rc.machineScope.additionalDiskVolumeName spec) param.path) rc.spec.additionalDisks st.additionalDiskParams
  boot : FaithfulBoot rc st.kernelPath st.initrdPath st.kernelCmdline

theorem additionalDomainDisks_sources (idx : Nat) {specs : List AdditionalDiskSpec} {params : List DiskParam}
    {told : AdditionalDiskSpec → String → Prop}
    (h : List.Forall₂ (fun spec param => told spec param.path) specs params) :
    List.Forall₂ (fun spec disk => told spec disk.sourceFile) specs (additionalDomainDisks idx params) := by
  induction h generalizing idx with
  | nil => exact .nil
  | cons hhead _ ih => exact .cons hhead (ih (idx + 1))

theorem buildDisks_segments (params : DomainXMLParams) :
    ∃ root iso ignition idx,
      buildDisks params = root :: (iso ++ ignition ++ additionalDomainDisks idx params.additionalDisks) ∧
      root.sourceFile = params.rootDiskPath ∧
      (if params.bootstrapISOPath ≠ "" then ∃ disk, iso = [disk] ∧ disk.sourceFile = params.bootstrapISOPath
        else iso = []) ∧
      (if params.kernelPath ≠ "" ∧ params.ignitionPath ≠ "" then
          ∃ disk, ignition = [disk] ∧ disk.sourceFile = params.ignitionPath ∧ disk.readOnly = true ∧
            disk.targetBus = "virtio" ∧ disk.serial = "ignition"
        else ignition = []) := by
  refine ⟨_, _, _, _, rfl, rfl, ?_, ?_⟩
  · by_cases hiso : params.bootstrapISOPath ≠ ""
    · rw [if_pos hiso, if_pos hiso]
      exact ⟨_, rfl, rfl⟩
    · rw [if_neg hiso, if_neg hiso]
      rfl
  · by_cases hdirect : params.kernelPath ≠ "" ∧ params.ignitionPath ≠ ""
    · rw [if_pos hdirect, if_pos hdirect]
      exact ⟨_, rfl, rfl, rfl, rfl, rfl⟩
    · rw [if_neg hdirect, if_neg hdirect]

theorem FaithfulBoot.kernel_iff {kernel initrd cmdline : String} (h : FaithfulBoot rc kernel initrd cmdline) :
    kernel ≠ "" ↔ rc.libvirtCluster.bootArtifacts.isSome = true := by
  unfold FaithfulBoot at h
  split at h
  · rename_i hnone
    simp [h.1, hnone]
  · rename_i ba hsome
    simp [h.1, hsome]

theorem buildOS_kernel (params : DomainXMLParams) : (buildOS params).kernel = params.kernelPath ∧
    (params.kernelPath ≠ "" →
      (buildOS params).initrd = params.initrdPath ∧ (buildOS params).cmdline = params.kernelCmdline) ∧
    (params.kernelPath = "" → (buildOS params).initrd = "" ∧ (buildOS params).cmdline = "") := by
  unfold buildOS
  by_cases hfirmware : params.firmware = "uefi" <;> by_cases hpath : params.firmwarePath = "" <;>
    by_cases hkernel : params.kernelPath = "" <;> simp [hfirmware, hpath, hkernel]

theorem buildOS_nvram (params : DomainXMLParams) {nvram : DomainNVRAM}
    (h : (buildOS params).nvram = some nvram) : nvram.value = params.nvramPath := by
  unfold buildOS at h
  by_cases hfirmware : params.firmware = "uefi" <;> by_cases hpath : params.firmwarePath = "" <;>
    by_cases hkernel : params.kernelPath = "" <;> simp [hfirmware, hpath, hkernel] at h
  all_goals exact h.2 ▸ rfl

theorem buildOS_boot {params : DomainXMLParams}
    (h : FaithfulBoot rc params.kernelPath params.initrdPath params.kernelCmdline) :
    FaithfulBoot rc (buildOS params).kernel (buildOS params).initrd (buildOS params).cmdline := by
  obtain ⟨hkernel, hdirect, hindirect⟩ := buildOS_kernel params
  unfold FaithfulBoot at h ⊢
  split at h
  · obtain ⟨hinitrd, hcmdline⟩ := hindirect h.1
    exact ⟨hkernel.trans h.1, hinitrd, hcmdline⟩
  · obtain ⟨hinitrd, hcmdline⟩ := hdirect h.1
    exact ⟨hkernel ▸ h.1, hinitrd ▸ h.2.1, hcmdline.trans h.2.2⟩

theorem domainDocument_sysInfo (params : DomainXMLParams) :
    (domainDocument params).sysInfo = buildSysInfo params := rfl

theorem nvramPath_session (hsession : localConnectionURI deps rc.libvirtHost.uri = .ok .session) :
    rc.nvramPath deps = "" := by
  rw [ReconcileCtx.nvramPath, hsession]

theorem ignitionFilePath_ne_empty : rc.ignitionFilePath ≠ "" := by
  intro hempty
  have hlength := congrArg String.length hempty
  simp [ReconcileCtx.ignitionFilePath, MachineScope.ignitionFilePath] at hlength

theorem ignition_faithful {rootDiskPath : String} (h : Assembled rc events st)
    (hroot : Reported rc events rc.effectivePool rc.rootDiskVolume rootDiskPath)
    (hformat : rc.spec.bootstrapFormat = .ignition) :
    FaithfulDomain deps rc events
      (domainDocument { domainParams deps rc st rootDiskPath with ignitionPath := rc.ignitionFilePath }) := by
  have hkernel : st.kernelPath ≠ "" ↔ rc.libvirtCluster.bootArtifacts.isSome = true := h.boot.kernel_iff
  have hnotISO : ¬ rc.spec.bootstrapFormat = .cloudInit := by
    rw [hformat]
    exact nofun
  refine ⟨rfl, rfl, rfl, ?_, h.format, ?_, buildOS_boot h.boot, ?_⟩
  · obtain ⟨root, iso, ignition, idx, hdisks, hsource, hiso, hignition⟩ :=
      buildDisks_segments { domainParams deps rc st rootDiskPath with ignitionPath := rc.ignitionFilePath }
    refine ⟨root, iso, ignition, _, hdisks, ?_, ?_, ?_, additionalDomainDisks_sources idx h.disks⟩
    · rw [hsource]
      exact hroot
    · rw [if_neg hnotISO]
      rwa [if_neg (show ¬ (domainParams deps rc st rootDiskPath).bootstrapISOPath ≠ "" from fun hne => hne rfl)]
        at hiso
    · by_cases hdirect : rc.libvirtCluster.bootArtifacts.isSome = true
      · rw [if_pos ⟨hformat, hdirect⟩]
        rwa [if_pos ⟨hkernel.mpr hdirect, ignitionFilePath_ne_empty⟩] at hignition
      · rw [if_neg fun hboth => hdirect hboth.2]
        rwa [if_neg fun hboth => hdirect (hkernel.mp hboth.1)] at hignition
  · rw [domainDocument_sysInfo]
    by_cases hdirect : rc.libvirtCluster.bootArtifacts.isSome = true
    · rw [buildSysInfo, if_pos (.inr (hkernel.mpr hdirect)), if_neg]
      rintro ⟨-, hnone⟩
      rw [hnone] at hdirect
      cases hdirect
    · have hnone := Option.not_isSome_iff_eq_none.mp hdirect
      rw [buildSysInfo, if_neg, if_pos ⟨hformat, hnone⟩]
      rintro (hempty | hne)
      · exact ignitionFilePath_ne_empty hempty
      · exact hdirect (hkernel.mp hne)
  · intro hsession nvram hnvram
    exact (buildOS_nvram _ hnvram).trans (nvramPath_session hsession)

theorem cloudInit_faithful {rootDiskPath isoPath : String} (h : Assembled rc events st)
    (hroot : Reported rc events rc.effectivePool rc.rootDiskVolume rootDiskPath)
    (hiso : Reported rc events rc.effectivePool rc.bootstrapISO isoPath) (hpath : isoPath ≠ "")
    (hformat : rc.spec.bootstrapFormat = .cloudInit) :
    FaithfulDomain deps rc events
      (domainDocument { domainParams deps rc st rootDiskPath with bootstrapISOPath := isoPath }) := by
  have hnotIgnition : ¬ rc.spec.bootstrapFormat = .ignition := by
    rw [hformat]
    exact nofun
  have hnoFile : (domainParams deps rc st rootDiskPath).ignitionPath = "" := rfl
  refine ⟨rfl, rfl, rfl, ?_, h.format, ?_, buildOS_boot h.boot, ?_⟩
  · obtain ⟨root, iso, ignition, idx, hdisks, hsource, hcdrom, hignition⟩ :=
      buildDisks_segments { domainParams deps rc st rootDiskPath with bootstrapISOPath := isoPath }
    refine ⟨root, iso, ignition, _, hdisks, ?_, ?_, ?_, additionalDomainDisks_sources idx h.disks⟩
    · rw [hsource]
      exact hroot
    · rw [if_pos hformat]
      rw [if_pos hpath] at hcdrom
      obtain ⟨disk, hdisk, hfile⟩ := hcdrom
      exact ⟨disk, hdisk, hfile ▸ hiso⟩
    · rw [if_neg fun hboth => hnotIgnition hboth.1]
      rwa [if_neg fun hboth => hboth.2 hnoFile] at hignition
  · rw [domainDocument_sysInfo, buildSysInfo, if_pos (.inl hnoFile), if_neg fun hboth => hnotIgnition hboth.1]
  · intro hsession nvram hnvram
    exact (buildOS_nvram _ hnvram).trans (nvramPath_session hsession)

end Document

def Unrecording : Op → Prop
  | .recordFailure _ _ => False
  | _ => True

def ISOHasPath (rc : ReconcileCtx) (events : Events) : Prop :=
  ∀ path, Reported rc events rc.effectivePool rc.bootstrapISO path → path ≠ ""

def fidelityGuard (deps : Deps) (rc : ReconcileCtx) (events : Events) : Op → Prop
  | .client _ (.defineDomain xml) => ISOHasPath rc events → FaithfulDomain deps rc events xml
  | _ => True

section Rules

variable {deps : Deps} {rc : ReconcileCtx} {ρ α : Type} {known done : RunState → Events → Prop}

def Grows (known : RunState → Events → Prop) : Prop :=
  ∀ st events event, known st events → known st (events ++ [event])

abbrev Assembles (deps : Deps) (rc : ReconcileCtx) (pre : RunState → Events → Prop)
    (body : Body signature RunState ρ α) (post : α → RunState → Events → Prop)
    (exit : ρ → RunState → Events → Prop) : Prop :=
  Body.Triple (recording.only Unrecording) (fidelityGuard deps rc) pre body post exit

def Completed (done : RunState → Events → Prop) (err : Option GoError) (st : RunState) (events : Events) : Prop :=
  err = none → done st events

theorem completed_handling (done : RunState → Events → Prop) :
    Handling (recording.only Unrecording) (fidelityGuard deps rc) (fun _ _ => True) (Completed done) where
  guard _ _ _ _ _ := trivial
  recorded _ _ _ _ _ _ hs := hs.2.elim
  failed _ _ _ _ := nofun

theorem callOrHandle_assembles (hknown : Grows known) (call : ClientCall) (operation : String)
    (hcall : ∀ events, fidelityGuard deps rc events (.client rc.hostKey call)) :
    Assembles deps rc known (callOrHandle rc call operation)
      (fun value st events => known st events ∧
        (⟨.client rc.hostKey call, .ok value⟩ : Event signature) ∈ events) (Completed done) := by
  refine (completed_handling done).callOrHandle rc call operation (fun _ events _ => hcall events) ?_
    fun _ _ _ _ _ _ => trivial
  rintro st before value after hbefore ⟨rfl, -⟩
  exact ⟨hknown st before _ hbefore, List.mem_append_right _ List.mem_cons_self⟩

theorem callOrHandle_keeps_known (hknown : Grows known) (call : ClientCall) (operation : String)
    (hcall : ∀ events, fidelityGuard deps rc events (.client rc.hostKey call)) :
    Assembles deps rc known (callOrHandle rc call operation) (fun _ => known) (Completed done) :=
  (callOrHandle_assembles hknown call operation hcall).mono (fun _ _ _ h => h.1) fun _ _ _ h => h

theorem orReturn_assembles (what : String) (result : Except GoError α) :
    Assembles deps rc known (orReturn what result) (fun _ => known) (Completed done) :=
  ((completed_handling done).orReturn what result fun _ _ _ => trivial).mono (fun _ _ _ h => h.1) fun _ _ _ h => h

theorem lift_assembles (hknown : Grows known) {prog : Prog signature α}
    (hprog : Emits anyReply LocalOp (fun _ => True) prog) {exit : ρ → RunState → Events → Prop} :
    Assembles deps rc known (Body.lift prog) (fun _ => known) exit := by
  intro st events hevents
  refine (hprog.holds hevents (fun before op _ hop => ?_) fun before op reply after hb _ hs => ?_).bind
    fun _ _ h => h.2
  · cases op <;> first
      | exact hop.elim
      | trivial
  · obtain ⟨rfl, -⟩ := hs
    exact ⟨trivial, hknown st before _ hb⟩

end Rules

def Unfilled (st : RunState) : Prop :=
  st.additionalDiskParams = [] ∧ st.kernelPath = "" ∧ st.initrdPath = "" ∧ st.kernelCmdline = ""

def Pooled (rc : ReconcileCtx) (st : RunState) (_ : Events) : Prop :=
  st.storagePool = rc.effectivePool ∧ Unfilled st

def Attached (rc : ReconcileCtx) (specs : List AdditionalDiskSpec) (st : RunState) (events : Events) : Prop :=
  st.storagePool = rc.effectivePool ∧
    (rc.spec.bootstrapFormat = .ignition ∨ rc.spec.bootstrapFormat = .cloudInit) ∧
    List.Forall₂ (fun spec param => Reported rc events spec.storagePool
      (rc.machineScope.additionalDiskVolumeName spec) param.path) specs st.additionalDiskParams ∧
    st.kernelPath = "" ∧ st.initrdPath = "" ∧ st.kernelCmdline = ""

theorem Reported.append {rc : ReconcileCtx} {events : Events} {pool name path : String}
    (h : Reported rc events pool name path) (later : Events) : Reported rc (events ++ later) pool name path :=
  List.mem_append_left later h

section Steps

variable {deps : Deps} {rc : ReconcileCtx} {known done : RunState → Events → Prop} {st : RunState}
  {events : Events}

theorem pooled_grows : Grows (Pooled rc) := fun _ _ _ h => h

theorem attached_grows (specs : List AdditionalDiskSpec) : Grows (Attached rc specs) := by
  rintro st events event ⟨hpool, hformat, hdisks, hboot⟩
  exact ⟨hpool, hformat, hdisks.imp fun _ _ h => h.append _, hboot⟩

theorem reviveEphemeralPool_assembles (hknown : Grows known) :
    Assembles deps rc known (reviveEphemeralPool rc) (fun _ => known) (Completed done) := by
  refine (callOrHandle_keeps_known hknown (.poolIsActive _) _ fun _ => trivial).bind fun active => ?_
  refine Body.Triple.ite (fun _ => Body.Triple.pure fun _ _ h => h) fun _ => ?_
  refine Body.Triple.perform_bind (fun _ _ _ => trivial) fun reply => ?_
  intro st events hevents
  obtain ⟨before, hbefore, rfl, -⟩ := hevents
  have hstarted := hknown st before ⟨.client rc.hostKey (.startPool _), reply⟩ hbefore
  cases reply with
  | ok _ => exact hstarted
  | error err =>
    refine ((callOrHandle_keeps_known hknown (.destroyPool _) _ fun _ => trivial).bind fun _ => ?_) st _ hstarted
    exact Body.Triple.pure fun _ _ h => h

theorem ensureEphemeralPool_assembles (hknown : Grows known) :
    Assembles deps rc known (ensureEphemeralPool rc) (fun _ => known) (Completed done) := by
  refine (callOrHandle_keeps_known hknown (.poolExists _) _ fun _ => trivial).bind fun defined => ?_
  refine Body.Triple.bind (Body.Triple.ite (fun _ => reviveEphemeralPool_assembles hknown)
    fun _ => Body.Triple.pure fun _ _ h => h) fun usable => ?_
  refine Body.Triple.ite (fun _ => Body.Triple.pure fun _ _ h => h) fun _ => ?_
  exact callOrHandle_keeps_known hknown (.createTmpfsPool _ _ _) _ fun _ => trivial

theorem callOnBaseImage_assembles (hknown : Grows known) (call : ClientCall) (operation : String)
    (hcall : ∀ events, fidelityGuard deps rc events (.client rc.hostKey call)) :
    Assembles deps rc known (callOnBaseImage rc call operation) (fun _ => known) (Completed done) := by
  refine Body.Triple.perform_bind (fun _ events _ => hcall events) fun reply => ?_
  intro st events hevents
  obtain ⟨before, hbefore, rfl, -⟩ := hevents
  cases reply with
  | ok value => exact hknown st before _ hbefore
  | error err =>
    have herror : Assembles deps rc (fun _ _ => True)
        (if err.isNotFound then do
          Body.call (onStatus (setTerminalError .baseImageNotFound (baseImageNotFoundMessage rc)))
          Body.leave none
        else handleLibvirtError err operation) (fun (_ : call.Result) => known) (Completed done) := by
      refine Body.Triple.ite (fun _ => ?_) fun _ => (completed_handling done).handleLibvirtError err operation
      exact fun _ _ _ => ⟨trivial, fun _ _ hs => hs.2.elim⟩
    exact herror st _ trivial

theorem createRootDisk_assembles (hknown : Grows known) (storagePool : String) :
    Assembles deps rc known (createRootDisk rc storagePool) (fun _ => known) (Completed done) := by
  unfold createRootDisk
  split
  · exact callOnBaseImage_assembles hknown (.cloneVolume _ _ _) _ fun _ => trivial
  · refine (callOnBaseImage_assembles hknown (.getVolumePath _ _) _ fun _ => trivial).bind fun backingPath => ?_
    exact callOrHandle_keeps_known hknown (.createVolumeFromBackingStore _ _ _ _) _ fun _ => trivial

theorem reconcileRootDisk_assembles (hpool : st.storagePool = rc.spec.rootDisk.storagePool)
    (hfields : Unfilled st) :
    Holds (recording.only Unrecording) (fidelityGuard deps rc)
      (fun out after => Completed (Pooled rc) out.1 out.2 after) (reconcileRootDisk rc st) events := by
  refine @stepFn_triple _ _ _ (fun st _ => st.storagePool = rc.spec.rootDisk.storagePool ∧ Unfilled st)
    (Completed (Pooled rc)) _ ?_ _ _ ⟨hpool, hfields⟩
  have hswitch : Assembles deps rc (fun st _ => st.storagePool = rc.spec.rootDisk.storagePool ∧ Unfilled st)
      (if rc.spec.rootDisk.ephemeralPool then do
        ensureEphemeralPool rc
        Body.modify fun st => { st with storagePool := rc.machineScope.ephemeralPoolName }
      else pure ()) (fun _ => Pooled rc) (Completed (Pooled rc)) := by
    refine Body.Triple.ite (fun hephemeral => ?_) fun hephemeral => ?_
    · refine (ensureEphemeralPool_assembles fun _ _ _ h => h).bind fun _ => ?_
      exact Body.Triple.modify fun st _ h => ⟨(if_pos hephemeral).symm, h.2⟩
    · exact Body.Triple.pure fun st _ h => ⟨h.1.trans (if_neg hephemeral).symm, h.2⟩
  refine hswitch.bind fun _ => ?_
  intro st events hpooled
  rw [Body.get_bind_exec]
  refine ((callOrHandle_keeps_known pooled_grows (.volumeExists _ _) _ fun _ => trivial).bind fun found => ?_)
    st events hpooled
  refine Body.Triple.ite (fun _ => Body.Triple.pure fun _ _ h _ => h) fun _ => ?_
  exact (createRootDisk_assembles pooled_grows _).mono (fun _ _ _ h _ => h) fun _ _ _ h => h

theorem createBootstrapISO_assembles (hknown : Grows known) (storagePool : String) (bootstrapData : Bytes) :
    Assembles deps rc known (createBootstrapISO rc storagePool bootstrapData) (fun _ => known) (Completed done) := by
  refine Body.Triple.perform_bind (fun _ _ _ => trivial) fun reply => ?_
  intro st events hevents
  obtain ⟨before, hbefore, rfl, -⟩ := hevents
  cases reply with
  | error err => exact ⟨trivial, fun _ _ hs => hs.2.elim⟩
  | ok iso =>
    exact callOrHandle_keeps_known hknown (.uploadVolumeFromBytes _ _ _) _ (fun _ => trivial) st _
      (hknown st before _ hbefore)

theorem reconcileBootstrapArtifacts_assembles (hst : Pooled rc st events) :
    Holds (recording.only Unrecording) (fidelityGuard deps rc)
      (fun out after => Completed (Attached rc []) out.1 out.2 after)
      (reconcileBootstrapArtifacts deps rc st) events := by
  refine @stepFn_triple _ _ _ (Pooled rc) (Completed (Attached rc [])) _ ?_ _ _ hst
  have hended (hformat : rc.spec.bootstrapFormat = .ignition ∨ rc.spec.bootstrapFormat = .cloudInit)
      (st : RunState) (events : Events) (h : Pooled rc st events) : Completed (Attached rc []) none st events := by
    obtain ⟨hpool, hdisks, hboot⟩ := h
    intro _
    refine ⟨hpool, hformat, ?_, hboot⟩
    rw [hdisks]
    exact .nil
  refine (lift_assembles pooled_grows (getBootstrapData_emits rc.machine)).bind fun data => ?_
  refine (orReturn_assembles _ data).bind fun bootstrapData => ?_
  split
  · rename_i hformat
    exact (callOrHandle_keeps_known pooled_grows (.writeRemoteFile _ _) _ fun _ => trivial).mono
      (fun _ st events h => hended (.inl hformat) st events h) fun _ _ _ h => h
  · rename_i hformat
    intro st events hpooled
    rw [Body.get_bind_exec]
    refine ((callOrHandle_keeps_known pooled_grows (.volumeExists _ _) _ fun _ => trivial).bind fun found => ?_)
      st events hpooled
    refine Body.Triple.ite (fun _ => Body.Triple.pure fun st events h => hended (.inr hformat) st events h)
      fun _ => ?_
    exact (createBootstrapISO_assembles pooled_grows _ _).mono
      (fun _ st events h => hended (.inr hformat) st events h) fun _ _ _ h => h
  · exact fun _ _ _ => ⟨trivial, fun _ _ hs => hs.2.elim⟩

theorem reconcileAdditionalDisk_assembles (specs : List AdditionalDiskSpec) (disk : AdditionalDiskSpec) :
    Assembles deps rc (Attached rc specs) (reconcileAdditionalDisk rc disk)
      (fun _ => Attached rc (specs ++ [disk])) (Completed done) := by
  have hgrows := @attached_grows rc specs
  refine Body.Triple.modify_bind (Attached rc specs) (fun _ _ h => h) ?_
  refine (callOrHandle_keeps_known hgrows (.volumeExists _ _) _ fun _ => trivial).bind fun found => ?_
  refine Body.Triple.bind (Body.Triple.ite (fun _ => Body.Triple.pure fun _ _ h => h)
    fun _ => callOrHandle_keeps_known hgrows (.createVolume _ _ _) _ fun _ => trivial) fun _ => ?_
  refine (callOrHandle_assembles hgrows (.getVolumePath _ _) _ fun _ => trivial).bind fun diskPath => ?_
  refine Body.Triple.modify ?_
  rintro st events ⟨⟨hpool, hformat, hdisks, hboot⟩, htold⟩
  exact ⟨hpool, hformat, List.rel_append hdisks (.cons htold .nil), hboot⟩

theorem eachInOrder_assembles (specs rest : List AdditionalDiskSpec) :
    Assembles deps rc (Attached rc specs) (eachInOrder (reconcileAdditionalDisk rc) rest)
      (fun _ => Attached rc (specs ++ rest)) (Completed done) := by
  induction rest generalizing specs with
  | nil =>
    rw [List.append_nil]
    exact Body.Triple.pure fun _ _ h => h
  | cons disk rest ih =>
    refine (reconcileAdditionalDisk_assembles specs disk).bind fun _ => ?_
    have hrest := ih (specs ++ [disk])
    rw [List.append_assoc] at hrest
    exact hrest

theorem ensureRemoteArtifact_assembles (hknown : Grows known) (remotePath : String) (data : Bytes)
    (operation : String) :
    Assembles deps rc known (ensureRemoteArtifact rc remotePath data operation) (fun _ => known) (Completed done) := by
  refine (callOrHandle_keeps_known hknown (.remoteFileExists _) _ fun _ => trivial).bind fun found => ?_
  refine Body.Triple.ite (fun _ => Body.Triple.pure fun _ _ h => h) fun _ => ?_
  exact callOrHandle_keeps_known hknown (.writeRemoteFile _ _) _ fun _ => trivial

theorem stageBootArtifacts_assembles (hjoin : deps.pathJoin = Path.join) {ba : BootArtifactsSpec}
    (hba : rc.libvirtCluster.bootArtifacts = some ba) :
    Assembles deps rc (Attached rc rc.spec.additionalDisks) (stageBootArtifacts deps rc ba)
      (fun _ st events => Assembled rc events st) (Completed done) := by
  have hgrows := @attached_grows rc rc.spec.additionalDisks
  refine (lift_assembles hgrows (resolveBootArtifactsCredentials_emits _ _)).bind fun creds => ?_
  refine (orReturn_assembles _ creds).bind fun creds => ?_
  refine (lift_assembles hgrows (resolveCachedArtifacts_emits _ _ _)).bind fun resolved => ?_
  refine (orReturn_assembles _ resolved).bind fun files => ?_
  refine (ensureRemoteArtifact_assembles hgrows _ _ _).bind fun _ => ?_
  refine (ensureRemoteArtifact_assembles hgrows _ _ _).bind fun _ => Body.Triple.modify ?_
  rintro st events ⟨hpool, hformat, hdisks, -⟩
  refine ⟨hpool, hformat, hdisks, ?_⟩
  rw [FaithfulBoot, hba]
  refine ⟨?_, ?_, rfl⟩
  · rw [kernelPath, hjoin]
    exact @Path.join_ne_empty _ "vmlinuz" (by simp) (by decide)
  · rw [initrdPath, hjoin]
    exact @Path.join_ne_empty _ "initramfs.img" (by simp) (by decide)

theorem reconcileBootArtifacts_assembles (hjoin : deps.pathJoin = Path.join)
    (hst : Attached rc rc.spec.additionalDisks st events) :
    Holds (recording.only Unrecording) (fidelityGuard deps rc)
      (fun out after => Completed (fun st events => Assembled rc events st) out.1 out.2 after)
      (reconcileBootArtifacts deps rc st) events := by
  unfold reconcileBootArtifacts
  cases hba : rc.libvirtCluster.bootArtifacts with
  | none =>
    obtain ⟨hpool, hformat, hdisks, hboot⟩ := hst
    refine fun _ => ⟨hpool, hformat, hdisks, ?_⟩
    rw [FaithfulBoot, hba]
    exact hboot
  | some ba =>
    by_cases hresolver : deps.bootArtifactsResolver = true
    · simp only [hresolver, if_true]
      refine @stepFn_triple _ _ _ (Attached rc rc.spec.additionalDisks)
        (Completed fun st events => Assembled rc events st) _ ?_ _ _ hst
      exact (stageBootArtifacts_assembles hjoin hba).mono (fun _ _ _ h _ => h) fun _ _ _ h => h
    · simp only [hresolver]
      exact nofun

end Steps

section Domain

variable {deps : Deps} {rc : ReconcileCtx} {known : RunState → Events → Prop}

abbrev AssemblesDomain {α : Type} (deps : Deps) (rc : ReconcileCtx) (pre : RunState → Events → Prop)
    (body : DomainBody α) (post : α → RunState → Events → Prop) : Prop :=
  Assembles deps rc pre body post fun _ _ _ => True

theorem domainCall_next {pre : RunState → Events → Prop}
    (hnext : ∀ st events event, pre st events → known st (events ++ [event])) (call : ClientCall)
    (operation : String)
    (hcall : ∀ st events, pre st events → fidelityGuard deps rc events (.client rc.hostKey call)) :
    AssemblesDomain deps rc pre (domainCall rc call operation)
      (fun value st events => known st events ∧
        (⟨.client rc.hostKey call, .ok value⟩ : Event signature) ∈ events) := by
  refine Body.Triple.perform_bind (fun st events h => hcall st events h) fun reply => ?_
  intro st events hevents
  obtain ⟨before, hbefore, rfl, -⟩ := hevents
  cases reply with
  | ok value => exact ⟨hnext st before _ hbefore, List.mem_append_right _ List.mem_cons_self⟩
  | error err =>
    have herror : AssemblesDomain deps rc (fun _ _ => True)
        (if err.isTerminal then do
          Body.call (onStatus (setTerminalError .specMismatch (terminalMessage operation err)))
          Body.leave (.ok none)
        else Body.leave (.error (.wrap ("error during " ++ operation) err)) : DomainBody call.Result)
        (fun value st events => known st events ∧
          (⟨.client rc.hostKey call, .ok value⟩ : Event signature) ∈ events) := by
      refine Body.Triple.ite (fun _ => ?_) fun _ => Body.Triple.leave fun _ _ _ => trivial
      exact fun _ _ _ => ⟨trivial, fun _ _ hs => hs.2.elim⟩
    exact herror st _ trivial

theorem domainCall_assembles (hknown : Grows known) (call : ClientCall) (operation : String)
    (hcall : ∀ events, fidelityGuard deps rc events (.client rc.hostKey call)) :
    AssemblesDomain deps rc known (domainCall rc call operation)
      (fun value st events => known st events ∧
        (⟨.client rc.hostKey call, .ok value⟩ : Event signature) ∈ events) :=
  domainCall_next hknown call operation fun _ events _ => hcall events

theorem assembled_grows : Grows fun st events => Assembled rc events st :=
  fun _ _ _ h => ⟨h.pool, h.format, h.disks.imp fun _ _ htold => htold.append _, h.boot⟩

def Rendered (deps : Deps) (rc : ReconcileCtx) (params : DomainXMLParams) (events : Events) : Prop :=
  ISOHasPath rc events → FaithfulDomain deps rc events (domainDocument params)

theorem bootstrapSource_assembles (st₀ : RunState) (rootDiskPath : String) :
    AssemblesDomain deps rc
      (fun st events => st = st₀ ∧ Assembled rc events st ∧
        Reported rc events rc.effectivePool rc.rootDiskVolume rootDiskPath)
      (bootstrapSource rc st₀.storagePool (domainParams deps rc st₀ rootDiskPath))
      (fun params _ events => Rendered deps rc params events) := by
  unfold bootstrapSource
  split
  · rename_i hformat
    refine Body.Triple.pure ?_
    rintro st events ⟨rfl, hassembled, hroot⟩ -
    exact ignition_faithful hassembled hroot hformat
  · rename_i hformat
    have hgrows : Grows fun st events => st = st₀ ∧ Assembled rc events st ∧
        Reported rc events rc.effectivePool rc.rootDiskVolume rootDiskPath :=
      fun st events event h => ⟨h.1, assembled_grows st events event h.2.1, h.2.2.append _⟩
    refine (domainCall_assembles hgrows (.getVolumePath _ _) _ fun _ => trivial).bind fun isoPath => ?_
    refine Body.Triple.pure ?_
    rintro st events ⟨⟨rfl, hassembled, hroot⟩, hiso⟩ hpath
    rw [hassembled.pool] at hiso
    exact cloudInit_faithful hassembled hroot hiso (hpath isoPath hiso) hformat
  · rename_i format hformat
    refine Body.Triple.pure ?_
    rintro st events ⟨rfl, hassembled, -⟩
    rcases hassembled.format with h | h <;> rw [hformat] at h <;> cases h

theorem defineFrom_assembles (params : DomainXMLParams) :
    AssemblesDomain deps rc (fun _ events => Rendered deps rc params events) (defineFrom deps rc params)
      (fun _ _ _ => True) := by
  unfold defineFrom
  split
  · exact fun _ _ _ => ⟨trivial, fun _ _ hs => hs.2.elim⟩
  · have hdefine := @domainCall_next deps rc (fun _ _ => True) (fun _ events => Rendered deps rc params events)
      (fun _ _ _ _ => trivial) (.defineDomain (domainDocument params)) "defining domain" fun _ _ h => h
    exact hdefine.bind fun _ => Body.Triple.pure fun _ _ _ => trivial

theorem defineDomain_assembles :
    AssemblesDomain deps rc (fun st events => Assembled rc events st) (defineDomain deps rc) (fun _ _ _ => True) := by
  intro st₀ events hassembled
  unfold defineDomain
  rw [Body.get_bind_exec]
  have hgrows : Grows fun st events => st = st₀ ∧ Assembled rc events st :=
    fun st events event h => ⟨h.1, assembled_grows st events event h.2⟩
  have hroot : AssemblesDomain deps rc (fun st events => st = st₀ ∧ Assembled rc events st)
      (domainCall rc (.getVolumePath st₀.storagePool rc.rootDiskVolume) "getting root disk path")
      (fun rootDiskPath st events => st = st₀ ∧ Assembled rc events st ∧
        Reported rc events rc.effectivePool rc.rootDiskVolume rootDiskPath) := by
    refine (domainCall_assembles hgrows (.getVolumePath _ _) _ fun _ => trivial).mono ?_ fun _ _ _ h => h
    rintro rootDiskPath st events ⟨⟨heq, hnow⟩, htold⟩
    rw [← heq, hnow.pool] at htold
    exact ⟨heq, hnow, htold⟩
  refine (hroot.bind fun rootDiskPath => ?_) st₀ events ⟨rfl, hassembled⟩
  exact (bootstrapSource_assembles st₀ rootDiskPath).bind fun params => defineFrom_assembles params

theorem domainCall_any (call : ClientCall) (operation : String)
    (hcall : ∀ events, fidelityGuard deps rc events (.client rc.hostKey call)) :
    AssemblesDomain deps rc (fun _ _ => True) (domainCall rc call operation) (fun _ _ _ => True) :=
  (@domainCall_assembles deps rc (fun _ _ => True) (fun _ _ _ _ => trivial) call operation hcall).mono
    (fun _ _ _ _ => trivial) fun _ _ _ h => h

theorem startDomainIfStopped_assembles :
    AssemblesDomain deps rc (fun _ _ => True) (startDomainIfStopped rc) (fun _ _ _ => True) := by
  refine (domainCall_any (.getDomain _) _ fun _ => trivial).bind fun domainInfo => ?_
  refine Body.Triple.ite (fun _ => Body.Triple.pure fun _ _ _ => trivial) fun _ => ?_
  exact (domainCall_any (.startDomain _) _ fun _ => trivial).bind fun _ =>
    domainCall_any (.getDomain _) _ fun _ => trivial

theorem reconcileDomain_assembles {st : RunState} {events : Events} (hst : Assembled rc events st) :
    Holds (recording.only Unrecording) (fidelityGuard deps rc) (fun _ _ => True)
      (reconcileDomain deps rc st) events := by
  have hbody : AssemblesDomain deps rc (fun st events => Assembled rc events st) (do
      let found ← domainCall rc (.domainExists rc.domainName) "checking domain"
      (if found then pure () else defineDomain deps rc)
      let domainInfo ← startDomainIfStopped rc
      pure (Except.ok (some domainInfo) : Except GoError (Option DomainInfo))) (fun _ _ _ => True) := by
    refine (domainCall_assembles assembled_grows (.domainExists _) _ fun _ => trivial).bind fun found => ?_
    refine Body.Triple.bind (Body.Triple.ite (fun _ => Body.Triple.pure fun _ _ _ => trivial) fun _ => ?_) fun _ =>
      startDomainIfStopped_assembles.bind fun _ => Body.Triple.pure fun _ _ _ => trivial
    exact fun st events h => defineDomain_assembles st events h.1
  exact Body.Triple.run hbody hst

end Domain

section Run

variable {deps : Deps} {rc : ReconcileCtx}

def NotDefining : Op → Prop
  | .client _ (.defineDomain _) => False
  | _ => True

theorem NotDefining.guard {op : Op} (hop : NotDefining op) (events : Events) :
    fidelityGuard deps rc events op := by
  cases op with
  | client host call =>
    cases call with
    | defineDomain xml => exact hop.elim
    | _ => trivial
  | _ => trivial

abbrev AssemblesRun {α : Type} (deps : Deps) (rc : ReconcileCtx) (pre : RunState → Events → Prop)
    (body : NormalBody α) (post : α → RunState → Events → Prop) : Prop :=
  Assembles deps rc pre body post fun _ _ _ => True

theorem runStep_assembles {step : StepFn} {pre done : RunState → Events → Prop}
    (h : ∀ st events, pre st events → Holds (recording.only Unrecording) (fidelityGuard deps rc)
      (fun out after => Completed done out.1 out.2 after) (step st) events) :
    AssemblesRun deps rc pre (runStep step) (fun _ => done) := by
  have hcall : AssemblesRun deps rc pre (Body.call step) (fun err st events => Completed done err st events) :=
    Body.Triple.call h
  refine hcall.bind fun err => ?_
  cases err with
  | some err => exact Body.Triple.leave fun _ _ _ => trivial
  | none => exact Body.Triple.pure fun _ _ h => h rfl

theorem keeps_assembles {α : Type} {inv : RunState → Prop} {body : NormalBody α}
    (h : Body.Keeps anyReply NotDefining inv body) :
    AssemblesRun deps rc (fun st _ => inv st) body (fun _ st _ => inv st) := by
  intro st events hst
  refine ((h st hst).holds (trivial : True) (fun before op _ hop => hop.guard before)
    fun _ _ _ _ _ _ _ => ⟨trivial, trivial⟩).post_mono ?_
  rintro ⟨out, after⟩ events' hout
  cases out with
  | error ret => trivial
  | ok value => exact hout.1

theorem enter_assembles {known : RunState → Events → Prop} (hknown : Grows known) (phase : Phase) :
    AssemblesRun deps rc known (issue (.enter phase)) (fun _ => known) := by
  refine Body.Triple.perform (fun _ _ _ => trivial) ?_
  rintro st before reply after hbefore ⟨rfl, -⟩
  exact hknown st before _ hbefore

def Started (rc : ReconcileCtx) (st : RunState) : Prop :=
  st.storagePool = rc.spec.rootDisk.storagePool ∧ Unfilled st

theorem started_records : Records anyReply NotDefining (Started rc) :=
  ⟨fun _ _ => trivial, fun _ _ _ _ h => h⟩

theorem reconcileBaseImage_started : Fn.Keeps anyReply NotDefining (Started rc) (reconcileBaseImage deps rc) := by
  refine reconcileBaseImage_keeps (fun _ _ _ _ h => h) (fun op hop => ?_) fun call hcall operation => ?_
  · cases op <;> first
      | exact hop.elim
      | trivial
  · cases hcall with
    | lookup image himage => exact callOrHandle_keeps trivial (fun _ _ _ => started_records) operation
    | upload image himage content size => exact callOrHandle_keeps trivial (fun _ _ _ => started_records) operation

theorem prepareArtifacts_assembles (hjoin : deps.pathJoin = Path.join) :
    AssemblesRun deps rc (fun st _ => Started rc st) (prepareArtifacts deps rc)
      (fun _ st events => Assembled rc events st) := by
  refine (keeps_assembles (runStep_keeps reconcileBaseImage_started)).bind fun _ => ?_
  refine (enter_assembles (fun _ _ _ h => h) _).bind fun _ => ?_
  refine (runStep_assembles fun st events h => reconcileRootDisk_assembles h.1 h.2).bind fun _ => ?_
  refine (enter_assembles pooled_grows _).bind fun _ => ?_
  refine (runStep_assembles fun st events h => reconcileBootstrapArtifacts_assembles h).bind fun _ => ?_
  refine (enter_assembles (attached_grows _) _).bind fun _ => ?_
  have hdisks : AssemblesRun deps rc (Attached rc []) (runStep (reconcileAdditionalDisks rc))
      (fun _ => Attached rc rc.spec.additionalDisks) := by
    refine runStep_assembles fun st events h => ?_
    refine @stepFn_triple _ _ _ (Attached rc []) (Completed (Attached rc rc.spec.additionalDisks)) _ ?_ _ _ h
    exact (eachInOrder_assembles [] rc.spec.additionalDisks).mono (fun _ _ _ h _ => h) fun _ _ _ h => h
  refine hdisks.bind fun _ => (enter_assembles (attached_grows _) _).bind fun _ => ?_
  exact runStep_assembles fun st events h => reconcileBootArtifacts_assembles hjoin h

theorem bringUpDomain_assembles :
    AssemblesRun deps rc (fun st events => Assembled rc events st) (bringUpDomain deps rc) (fun _ _ _ => True) := by
  refine (enter_assembles assembled_grows _).bind fun _ => ?_
  have hcall : AssemblesRun deps rc (fun st events => Assembled rc events st) (Body.call (reconcileDomain deps rc))
      (fun _ _ _ => True) := Body.Triple.call fun st events h => reconcileDomain_assembles h
  refine hcall.bind fun out => ?_
  cases out with
  | error err => exact Body.Triple.leave fun _ _ _ => trivial
  | ok info =>
    cases info with
    | none => exact Body.Triple.leave fun _ _ _ => trivial
    | some domainInfo => exact Body.Triple.pure fun _ _ _ => trivial

theorem labels_assembles :
    AssemblesRun deps rc (fun _ _ => True)
      (Body.call (onStatus (reconcileNodeLabels rc.libvirtMachine rc.domainName))) (fun _ _ _ => True) := by
  refine keeps_assembles (Body.Keeps.call ?_)
  intro st _
  have hkeeps : Fn.Keeps anyReply (NodeOp rc.domainName) (fun _ => True)
      (reconcileNodeLabels rc.libvirtMachine rc.domainName) :=
    reconcileNodeLabels_keeps (fun _ _ _ _ h => h) (fun _ h => h) _
  refine ((hkeeps st.status trivial).mono (fun _ _ hr => hr) (fun op hop => ?_) fun _ h => h).bind fun _ h => h
  cases op <;> first
    | exact hop.elim
    | trivial

theorem provision_assembles (hjoin : deps.pathJoin = Path.join) (status : LibvirtMachineStatus) (events : Events) :
    Holds (recording.only Unrecording) (fidelityGuard deps rc) (fun _ _ => True)
      (provision deps rc (rc.initialState status)) events := by
  have hchecks : Body.Keeps anyReply NotDefining (Started rc) (preflight deps rc) :=
    preflight_keeps_of started_records (fun _ _ _ _ h => h) fun _ => trivial
  have hbody : AssemblesRun deps rc (fun st _ => Started rc st)
      (do preflight deps rc; issue (.enter .baseImage); hostWork deps rc) (fun _ _ _ => True) := by
    refine (keeps_assembles hchecks).bind fun _ => (enter_assembles (fun _ _ _ h => h) _).bind fun _ => ?_
    refine (prepareArtifacts_assembles hjoin).bind fun _ => bringUpDomain_assembles.bind fun domainInfo => ?_
    exact Body.Triple.modify_bind (fun _ _ => True) (fun _ _ _ => trivial) labels_assembles
  exact Body.Triple.run hbody ⟨rfl, rfl, rfl, rfl, rfl⟩

end Run

def normalCtx (lm : LibvirtMachine) (machine : Machine) (cluster : Cluster) (libvirtCluster : LibvirtCluster)
    (host : LibvirtHost) : ReconcileCtx :=
  ⟨lm.addFinalizer, machine, cluster, libvirtCluster, host,
    (resolvedSizes lm.spec.domain host.capacity).1, (resolvedSizes lm.spec.domain host.capacity).2⟩

-- A domain that a run of reconcileNormal defines without a terminal failure is faithful to the
-- spec, provided that the Client reports a path for the ISO of a cloud-init machine.
theorem defined_domain_faithful {σ : Type} {step : Handler signature σ} {deps : Deps}
    (hjoin : deps.pathJoin = Path.join) {lm : LibvirtMachine} {machine : Machine} {cluster : Cluster}
    {libvirtCluster : LibvirtCluster} {host : LibvirtHost} {before after : σ} {events : Events}
    {key : ObjectKey} {xml : DomainXML}
    {next : Reply (.client key (.defineDomain xml)) → Prog signature (Return × LibvirtMachine)}
    (hrun : Exec step (reconcileNormal deps lm machine cluster libvirtCluster host) before events
      (.ask (.client key (.defineDomain xml)) next) after)
    (hclean : ∀ reason message, ⟨.recordFailure reason message, ()⟩ ∉ events)
    (hiso : ISOHasPath (normalCtx lm machine cluster libvirtCluster host) events) :
    FaithfulDomain deps (normalCtx lm machine cluster libvirtCluster host) events xml := by
  have hholds : Holds (recording.only Unrecording)
      (fidelityGuard deps (normalCtx lm machine cluster libvirtCluster host)) (fun _ _ => True)
      (reconcileNormal deps lm machine cluster libvirtCluster host) [] := by
    refine reconcileNormal_holds_of_provision (fun _ => True) (fun _ op _ hop => ?_)
      (fun _ _ _ _ _ _ _ => trivial) (fun _ _ _ _ => trivial) ?_ trivial
    · cases op <;> first
        | exact hop.elim
        | trivial
    · intro vcpus memoryMB status events _ hsizes rc
      have hrc : rc = normalCtx lm machine cluster libvirtCluster host := by
        rw [normalCtx, ← hsizes]
      rw [hrc]
      exact provision_assembles hjoin status events
  have hunfailed (event : Event signature) (hevent : event ∈ events) : Unrecording event.1 := by
    obtain ⟨op, reply⟩ := event
    cases op with
    | recordFailure reason message => exact hclean reason message hevent
    | _ => trivial
  exact hholds.guard_of_exec (hrun.recorded hunfailed []) hiso

section Samples

def fidelityDeps : Deps := { sampleDeps with pathJoin := Path.join }

def cloudInitRun : Prog signature (Return × LibvirtMachine) :=
  reconcileNormal fidelityDeps { sampleMachine with spec.bootstrapFormat := .cloudInit } sampleOwner sampleCluster
    sampleLibvirtCluster sampleHost

def cloudInitMachineCtx : ReconcileCtx :=
  normalCtx { sampleMachine with spec.bootstrapFormat := .cloudInit } sampleOwner sampleCluster
    sampleLibvirtCluster sampleHost

def recordsNothing : Op → Bool
  | .recordFailure _ _ => false
  | _ => true

theorem unrecording_of {op : Op} (h : recordsNothing op = true) : Unrecording op := by
  cases op <;> first
    | exact absurd h Bool.noConfusion
    | trivial

def answeredFrom (answers : (op : Op) → Reply op) : Handler signature Unit :=
  fun _ op reply _ => reply = answers op ∧ Unrecording op

theorem cloudInitRun_exec {answers : (op : Op) → Reply op} (n : Nat)
    (h : permits (oracle answers) (fun _ op => recordsNothing op) n cloudInitRun () = true) :
    ∃ events, Exec (answeredFrom answers) cloudInitRun () events (runFor (oracle answers) n cloudInitRun ()).1 () ∧
      (∀ reason message, ⟨.recordFailure reason message, ()⟩ ∉ events) ∧
      ∀ event ∈ events, event.2 = answers event.1 := by
  have hstep (before : Unit) (op : Op) (hop : recordsNothing op = true) :
      answeredFrom answers before op (@oracle signature answers before op).1 (@oracle signature answers before op).2 :=
    ⟨rfl, unrecording_of hop⟩
  obtain ⟨events, hexec⟩ := exec_of_permits hstep n h
  have hevents : ∀ event ∈ events, event.2 = answers event.1 ∧ Unrecording event.1 :=
    hexec.forall_events fun _ _ _ _ hstep => hstep
  exact ⟨events, hexec, fun reason message hmem => (hevents _ hmem).2, fun event hmem => (hevents event hmem).1⟩

theorem defined_domain_faithful_sample :
    ∃ events key xml next, Exec (answeredFrom freshAnswer) cloudInitRun () events
        (.ask (.client key (.defineDomain xml)) next) () ∧
      FaithfulDomain fidelityDeps cloudInitMachineCtx events xml := by
  obtain ⟨events, hexec, hclean, hanswers⟩ := @cloudInitRun_exec freshAnswer 20 rfl
  have hiso : ISOHasPath cloudInitMachineCtx events := by
    intro path htold
    have hpath := hanswers _ htold
    obtain rfl : path = cloudInitMachineCtx.bootstrapISO := Except.ok.inj hpath
    decide
  exact ⟨events, _, _, _, hexec, defined_domain_faithful rfl hexec hclean hiso⟩

-- The Client reports an empty path for the ISO: the domain has only its root disk.
def emptyISOPath : (op : Op) → Reply op
  | .client _ (.getVolumePath _ name) => .ok (if name = "ns-c-m-bootstrap.iso" then "" else name)
  | op => freshAnswer op

theorem empty_iso_path_drops_iso :
    ∃ events key xml next, Exec (answeredFrom emptyISOPath) cloudInitRun () events
        (.ask (.client key (.defineDomain xml)) next) () ∧
      (∀ reason message, ⟨.recordFailure reason message, ()⟩ ∉ events) ∧
      cloudInitMachineCtx.spec.bootstrapFormat = .cloudInit ∧ xml.disks.length = 1 := by
  obtain ⟨events, hexec, hclean, -⟩ := @cloudInitRun_exec emptyISOPath 20 rfl
  exact ⟨events, _, _, _, hexec, hclean, rfl, rfl⟩

end Samples

end Caplv.Controller

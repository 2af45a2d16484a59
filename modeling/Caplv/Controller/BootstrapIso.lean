import Caplv.Controller.Staging

namespace Caplv.Controller

open Text Api Libvirt Scope Program

-- The volume of a machine's cloud-init ISO, with the run that fills it, and whether the run
-- recorded a terminal failure.
structure IsoWorld where
  store : Staging Unit
  recorded : Bool

-- UploadVolumeFromBytes is not one operation of the host but the commands it runs.
def isoCommands (tmpFile : String) : Implementation signature uploads
  | .client _ (.uploadVolumeFromBytes pool name data) =>
    some (VirshClient.uploadVolumeFromBytes tmpFile pool name data)
  | _ => none

-- A check sees the volume as soon as it exists, and any check may fail or miss it. `built` are
-- the ISOs that ISOBuilder makes of the bootstrap data.
def isoStep (built : Bytes → Prop) (before : IsoWorld) : (op : Op) → Reply op → IsoWorld → Prop
  | .client _ (.volumeExists _ _), reply, after =>
    after = before ∧ (reply = .ok true → before.store.volume ≠ none)
  | .buildCloudInitISO _ _ _, reply, after => after = before ∧ ∀ iso, reply = .ok iso → built iso
  | .recordFailure _ _, _, after => after = { before with recorded := true }
  | _, _, after => after = before

-- What a command of the upload may do to the volume, beyond what `UploadStep` says.
abbrev CommandPolicy := Staging Unit → UploadCommand → Except Failure String → Staging Unit → Prop

def isoSteps (built : Bytes → Prop) (policy : CommandPolicy) : Handler (signature.sum uploads) IsoWorld :=
  Handler.sum (isoStep built) fun before cmd reply after =>
    UploadStep () before.store cmd reply after.store ∧ after.recorded = before.recorded ∧
      policy before.store cmd reply after.store

-- The run of reconcileBootstrapArtifacts for a cloud-init machine whose ISO is the volume
-- `name` of the pool.
def IsoRun (pool name : String) (prog : Prog (signature.sum uploads) (Option GoError × RunState)) : Prop :=
  ∃ deps rc st tmpFile, rc.spec.bootstrapFormat = .cloudInit ∧ rc.bootstrapISO = name ∧
    st.storagePool = pool ∧ prog = (reconcileBootstrapArtifacts deps rc st).expand (isoCommands tmpFile)

section Runs

variable (built : Bytes → Prop) (policy : CommandPolicy) (crashes : Staging Unit → Prop)
  (pool name : String)

-- One run after the other; the controller may crash in the states of `crashes`.
inductive IsoRuns : Staging Unit → Prop where
  | start (w : Staging Unit) (hvolume : w.volume = none) : IsoRuns w
  | completed {before : Staging Unit} {after : IsoWorld}
      {prog : Prog (signature.sum uploads) (Option GoError × RunState)} {out : Option GoError × RunState}
      (hbefore : IsoRuns before) (hprog : IsoRun pool name prog)
      (hrun : Completes (isoSteps built policy) prog ⟨before, false⟩ out after) : IsoRuns after.store
  | crashed {before : Staging Unit} {after : IsoWorld} {events : List (Event (signature.sum uploads))}
      {prog rest : Prog (signature.sum uploads) (Option GoError × RunState)}
      (hbefore : IsoRuns before) (hprog : IsoRun pool name prog)
      (hrun : Exec (isoSteps built policy) prog ⟨before, false⟩ events rest after)
      (hcrash : crashes after.store) : IsoRuns after.store

end Runs

-- A vol-create-as that reports a failure has made no volume, and no vol-upload fails.
def FillsWhatItMakes : CommandPolicy
  | before, .volCreateAs _ _ _, .error _, after => after.volume = before.volume
  | _, .volUpload _ _ _, .error _, _ => False
  | _, _, _, _ => True

def NotUploading (w : Staging Unit) : Prop := w.uploader = none

def IsoComplete (built : Bytes → Prop) (w : Staging Unit) : Prop :=
  ∃ iso, built iso ∧ w.volume = some (.written iso)

def IsoSound (built : Bytes → Prop) (w : Staging Unit) : Prop :=
  w.volume = none ∨ IsoComplete built w

def IsoWorld.Sound (built : Bytes → Prop) (w : IsoWorld) : Prop := IsoSound built w.store

section Upload

variable {built : Bytes → Prop}

theorem IsoSound.of_volume {before after : Staging Unit} (h : IsoSound built before)
    (hvolume : after.volume = before.volume) : IsoSound built after := by
  unfold IsoSound IsoComplete at *
  rw [hvolume]
  exact h

theorem IsoSound.complete {w : Staging Unit} (h : IsoSound built w) (hpresent : w.volume ≠ none) :
    IsoComplete built w := h.resolve_left hpresent

abbrev carefulSteps (built : Bytes → Prop) : Handler (signature.sum uploads) IsoWorld :=
  isoSteps built FillsWhatItMakes

def isoGuard (built : Bytes → Prop) (w : IsoWorld) (_ : (signature.sum uploads).Op) : Prop :=
  NotUploading w.store → IsoSound built w.store

structure IsoUploaded (built : Bytes → Prop) (before : IsoWorld) (result : Except GoError Unit)
    (after : IsoWorld) : Prop where
  sound : IsoSound built after.store
  recorded : after.recorded = before.recorded
  complete : result = .ok () → IsoComplete built after.store

theorem uploadVolumeFromBytes_holds (tmpFile pool name : String) {data : Bytes} (hbuilt : built data)
    {start : IsoWorld} (hstart : IsoSound built start.store) :
    Holds (carefulSteps built) (isoGuard built) (IsoUploaded built start)
      (VirshClient.uploadVolumeFromBytes tmpFile pool name data).inr start := by
  refine ⟨fun _ => hstart, fun reply ⟨streamed, _⟩ ⟨hcmd, hrecorded, _⟩ => ?_⟩
  have hstreamed : IsoSound built streamed := by
    refine hstart.of_volume ?_
    cases hcmd <;> rfl
  cases reply with
  | error failure => exact ⟨hstreamed, hrecorded, nofun⟩
  | ok out =>
    have htemp : streamed.temp () = some data := by
      cases hcmd
      exact Function.update_self () (some data) start.store.temp
    refine ⟨fun _ => hstreamed, fun reply ⟨made, _⟩ ⟨hcmd, hmadeRecorded, hpolicy⟩ => ?_⟩
    have hrecorded := hmadeRecorded.trans hrecorded
    cases reply with
    | error failure => exact ⟨hstreamed.of_volume hpolicy, hrecorded, nofun⟩
    | ok out =>
      have hmade : made.uploader = some () ∧ made.temp () = some data := by
        cases hcmd
        exact ⟨rfl, htemp⟩
      have huploading : ¬ NotUploading made := by
        intro hnone
        exact absurd (hmade.1.symm.trans hnone) (Option.some_ne_none _)
      refine ⟨fun hnone => absurd hnone huploading,
        fun reply ⟨sent, _⟩ ⟨hcmd, hsentRecorded, hpolicy⟩ => ?_⟩
      have hrecorded := hsentRecorded.trans hrecorded
      cases reply with
      | error failure => exact hpolicy.elim
      | ok out =>
        have hsent : sent.volume = some (.written data) := by
          cases hcmd with
          | upload name path pool out hpresent htemp' =>
            obtain rfl : data = _ := Option.some.inj (hmade.2.symm.trans htemp')
            rfl
        refine ⟨fun _ => .inr ⟨data, hbuilt, hsent⟩, fun reply ⟨cleaned, _⟩ ⟨hcmd, hlast, _⟩ => ?_⟩
        have hcleaned : IsoComplete built cleaned := by
          refine ⟨data, hbuilt, ?_⟩
          cases hcmd
          exact hsent
        exact ⟨.inr hcleaned, hlast.trans hrecorded, fun _ => hcleaned⟩

end Upload

section Summary

variable {built : Bytes → Prop}

def IsoLearned (built : Bytes → Prop) (after : IsoWorld) : (op : Op) → Reply op → Prop
  | .client _ (.volumeExists _ _), reply => reply = .ok true → IsoComplete built after.store
  | .client _ (.uploadVolumeFromBytes _ _ _), reply => reply = .ok () → IsoComplete built after.store
  | .buildCloudInitISO _ _ _, reply => ∀ iso, reply = .ok iso → built iso
  | .recordFailure _ _, _ => after.recorded = true
  | _, _ => True

def isoSummary (built : Bytes → Prop) : Handler signature IsoWorld := fun _ op reply after =>
  IsoSound built after.store ∧ IsoLearned built after op reply

def UploadsBuilt (built : Bytes → Prop) : Op → Prop
  | .client _ (.uploadVolumeFromBytes _ _ data) => built data
  | _ => True

def isoSummaryGuard (built : Bytes → Prop) (w : IsoWorld) (op : Op) : Prop :=
  IsoSound built w.store ∧ UploadsBuilt built op

def IsoEnded (built : Bytes → Prop) (err : Option GoError) (w : IsoWorld) : Prop :=
  IsoSound built w.store ∧ (err = none → w.recorded = false → IsoComplete built w.store)

theorem iso_handling : Handling (isoSummary built) (isoSummaryGuard built)
    (fun _ w => w.Sound built) (fun err _ w => IsoEnded built err w) where
  guard _ _ _ _ hw := ⟨hw, trivial⟩
  recorded _ _ _ _ _ _ hs := ⟨hs.1, fun _ hfalse => absurd (hs.2.symm.trans hfalse) Bool.noConfusion⟩
  failed _ _ _ hw := ⟨hw, nofun⟩

theorem isoEnded_of_complete {w : IsoWorld} (h : IsoComplete built w.store) (err : Option GoError) :
    IsoEnded built err w := ⟨.inr h, fun _ _ => h⟩

theorem callOrHandle_iso (rc : ReconcileCtx) (call : ClientCall) (operation : String)
    (hcall : UploadsBuilt built (.client rc.hostKey call)) :
    Body.Triple (isoSummary built) (isoSummaryGuard built) (fun _ w => w.Sound built)
      (callOrHandle rc call operation)
      (fun value _ w => IsoSound built w.store ∧ IsoLearned built w (.client rc.hostKey call) (.ok value))
      (fun err _ w => IsoEnded built err w) :=
  iso_handling.callOrHandle rc call operation (fun _ _ hw => ⟨hw, hcall⟩) (fun _ _ _ _ _ hs => hs)
    fun _ _ _ _ _ hs => hs.1

theorem createBootstrapISO_iso (rc : ReconcileCtx) (storagePool : String) (bootstrapData : Bytes) :
    Body.Triple (isoSummary built) (isoSummaryGuard built) (fun _ w => w.Sound built)
      (createBootstrapISO rc storagePool bootstrapData) (fun _ _ w => IsoEnded built none w)
      (fun err _ w => IsoEnded built err w) := by
  refine Body.Triple.perform_bind (fun _ _ hw => ⟨hw, trivial⟩) fun reply => ?_
  intro st w hw
  obtain ⟨before, -, hsound, hlearned⟩ := hw
  cases reply with
  | error err => exact ⟨⟨hsound, trivial⟩, fun _ after hs => iso_handling.recorded st w _ _ after hsound hs⟩
  | ok iso =>
    have hupload := callOrHandle_iso rc (.uploadVolumeFromBytes storagePool rc.bootstrapISO iso)
      "uploading cloud-init ISO" (hlearned iso rfl)
    exact hupload.mono (fun _ _ _ h => isoEnded_of_complete (h.2 rfl) none) (fun _ _ _ h => h) st w hsound

theorem reconcileBootstrapArtifacts_iso (deps : Deps) {rc : ReconcileCtx}
    (hformat : rc.spec.bootstrapFormat = .cloudInit) (st : RunState) {w : IsoWorld}
    (hw : IsoSound built w.store) :
    Holds (isoSummary built) (isoSummaryGuard built) (fun out after => IsoEnded built out.1 after)
      (reconcileBootstrapArtifacts deps rc st) w := by
  refine @stepFn_triple _ _ _ (fun _ w => w.Sound built) (fun err _ w => IsoEnded built err w) _ ?_ _ _ hw
  have hdata : Body.Triple (isoSummary built) (isoSummaryGuard built) (fun _ w => w.Sound built)
      (Body.lift (getBootstrapData rc.machine) : StepBody (Except GoError Bytes))
      (fun _ _ w => IsoSound built w.store)
      (fun err _ w => IsoEnded built err w) := by
    intro st w hw
    have hsound : w.Sound built := hw
    refine ((getBootstrapData_emits rc.machine).holds hsound (fun before op hb hop => ⟨hb, ?_⟩)
      fun _ _ _ _ _ _ hs => ⟨trivial, hs.1⟩).bind fun value after h => h.2
    cases op <;> first
      | exact hop.elim
      | trivial
  refine hdata.bind fun data => (iso_handling.orReturn _ data fun _ _ h => h).bind fun bootstrapData => ?_
  rw [hformat]
  intro st w hw
  refine ((callOrHandle_iso rc (.volumeExists st.storagePool rc.bootstrapISO) _ trivial).bind fun found => ?_)
    st w hw.1
  refine Body.Triple.ite (fun hfound => Body.Triple.pure fun _ _ h => ?_) fun _ => ?_
  · exact isoEnded_of_complete (h.2 (congrArg _ hfound)) none
  · intro st w h
    exact createBootstrapISO_iso rc _ bootstrapData st w h.1

end Summary

section Theorem

variable {built : Bytes → Prop} {pool name : String}

theorem iso_controller_summary {tmpFile : String} {before after : IsoWorld} {op : Op} {reply : Reply op}
    (hop : isoCommands tmpFile op = none) (hbefore : IsoSound built before.store)
    (hstep : isoStep built before op reply after) : isoSummary built before op reply after := by
  cases op with
  | client host call =>
    cases call with
    | volumeExists pool name =>
      obtain ⟨rfl, hfound⟩ := hstep
      exact ⟨hbefore, fun h => hbefore.complete (hfound h)⟩
    | uploadVolumeFromBytes pool name data => cases hop
    | _ =>
      cases hstep
      exact ⟨hbefore, trivial⟩
  | buildCloudInitISO data instanceID hostname =>
    obtain ⟨rfl, hbuilt⟩ := hstep
    exact ⟨hbefore, hbuilt⟩
  | recordFailure reason message =>
    cases hstep
    exact ⟨hbefore, rfl⟩
  | _ =>
    cases hstep
    exact ⟨hbefore, trivial⟩

theorem iso_upload_summary {tmpFile : String} {before : IsoWorld} {op : Op}
    {prog : Prog uploads (Reply op)} (hop : isoCommands tmpFile op = some prog)
    (hbefore : isoSummaryGuard built before op) :
    Holds (carefulSteps built) (isoGuard built) (isoSummary built before op)
      (prog.inr : Prog (signature.sum uploads) _) before := by
  cases op with
  | client key call =>
    cases call with
    | uploadVolumeFromBytes pool name data =>
      cases hop
      exact (uploadVolumeFromBytes_holds tmpFile pool name hbefore.2 hbefore.1).post_mono
        fun _ _ h => ⟨h.sound, h.complete⟩
    | _ => cases hop
  | _ => cases hop

theorem IsoRun.holds {prog : Prog (signature.sum uploads) (Option GoError × RunState)}
    (hprog : IsoRun pool name prog) {w : IsoWorld} (hw : IsoSound built w.store) :
    Holds (carefulSteps built) (isoGuard built) (fun out after => IsoEnded built out.1 after) prog w := by
  obtain ⟨deps, rc, st, tmpFile, hformat, -, -, rfl⟩ := hprog
  refine (reconcileBootstrapArtifacts_iso deps hformat st hw).expand
    (fun before op hop hguard => ⟨fun _ => hguard.1, fun reply after hs => ?_⟩) fun before op prog hop hguard => ?_
  · exact iso_controller_summary hop hguard.1 hs
  · exact iso_upload_summary hop hguard

theorem IsoRuns.sound {w : Staging Unit}
    (h : IsoRuns built FillsWhatItMakes NotUploading pool name w) : IsoSound built w := by
  induction h with
  | start w hvolume => exact .inl hvolume
  | completed _ hprog hrun ih => exact ((IsoRun.holds hprog ih).completes hrun).1
  | @crashed before after events prog rest _ hprog hrun hcrash ih =>
    have hrest := (IsoRun.holds hprog ih).exec hrun
    cases rest with
    | done out => exact hrest.1
    | ask op next => exact hrest.1 hcrash

-- In every sequence of runs in which each volume that vol-create-as makes is filled, a run that
-- returns nil without a terminal failure leaves an ISO that was built of the bootstrap data.
theorem bootstrap_iso_complete {before : Staging Unit}
    (hruns : IsoRuns built FillsWhatItMakes NotUploading pool name before)
    {prog : Prog (signature.sum uploads) (Option GoError × RunState)} (hprog : IsoRun pool name prog)
    {err : Option GoError} {st : RunState} {after : IsoWorld}
    (hrun : Completes (isoSteps built FillsWhatItMakes) prog ⟨before, false⟩ (err, st) after) :
    (err = none → after.recorded = false → ∃ iso, built iso ∧ after.store.volume = some (.written iso)) ∧
      (after.store.volume = none ∨ ∃ iso, built iso ∧ after.store.volume = some (.written iso)) := by
  have hended := (IsoRun.holds hprog hruns.sound).completes hrun
  exact ⟨hended.2, hended.1⟩

end Theorem

section Samples

-- A host on which every command works, except that vol-upload may lose the connection.
def isoMachine (uploadFails : Bool) : Program.Machine (signature.sum uploads) IsoWorld := fun w op =>
  match op with
  | .inl (.client _ (.volumeExists _ _)) => (.ok w.store.volume.isSome, w)
  | .inl (.buildCloudInitISO _ _ _) => (.ok [7], w)
  | .inl (.recordFailure _ _) => ((), { w with recorded := true })
  | .inl op => (freshAnswer op, w)
  | .inr (.stream _ content) => (.ok "", { w with store := w.store.setTemp () (some content) })
  | .inr (.volCreateAs _ _ _) => (.ok "", { w with store := w.store.created () })
  | .inr (.volUpload _ _ _) =>
    if uploadFails then
      (.error (.session "lost"), { w with store.volume := w.store.volume.map fun _ => .blank })
    else (.ok "", { w with store := w.store.filled ((w.store.temp ()).getD []) })
  | .inr (.volDelete _ _) => (.ok "", { w with store := w.store.removed })
  | .inr (.rm _) => (.ok "", { w with store := w.store.setTemp () none })

def isoEnabled (w : IsoWorld) : (signature.sum uploads).Op → Bool
  | .inr (.volCreateAs _ _ _) => w.store.volume.isNone
  | .inr (.volUpload _ _ _) => w.store.volume.isSome && (w.store.temp ()).isSome
  | _ => true

theorem isoMachine_controller (uploadFails : Bool) (w : IsoWorld) (op : Op) :
    isoStep (· = [7]) w op (isoMachine uploadFails w (.inl op)).1 (isoMachine uploadFails w (.inl op)).2 := by
  cases op with
  | client host call =>
    cases call with
    | volumeExists pool name =>
      refine ⟨rfl, fun hfound hmissing => ?_⟩
      rw [isoMachine, hmissing] at hfound
      cases hfound
    | _ => rfl
  | buildCloudInitISO data instanceID hostname => exact ⟨rfl, fun iso hiso => (Except.ok.inj hiso).symm⟩
  | _ => rfl

theorem isoMachine_step {policy : CommandPolicy} (uploadFails : Bool)
    (hpolicy : ∀ w cmd, policy w.store cmd (isoMachine uploadFails w (.inr cmd)).1
      (isoMachine uploadFails w (.inr cmd)).2.store)
    (w : IsoWorld) (op : (signature.sum uploads).Op) (h : isoEnabled w op = true) :
    isoSteps (· = [7]) policy w op (isoMachine uploadFails w op).1 (isoMachine uploadFails w op).2 := by
  cases op with
  | inl op => exact isoMachine_controller uploadFails w op
  | inr cmd =>
    refine ⟨?_, ?_, hpolicy w cmd⟩
    · cases cmd with
      | stream path content => exact .stream path content ""
      | volCreateAs pool name sizeBytes =>
        exact .create pool name sizeBytes "" (Option.isNone_iff_eq_none.mp h)
      | volUpload name path pool =>
        obtain ⟨hpresent, htemp⟩ := Bool.and_eq_true_iff.mp h
        obtain ⟨content, hcontent⟩ := Option.isSome_iff_exists.mp htemp
        cases uploadFails with
        | true => exact .uploadFails name path pool (.session "lost") .blank
        | false =>
          have hfilled : (w.store.temp ()).getD [] = content := by rw [hcontent]; rfl
          simp only [isoMachine, hfilled]
          exact .upload name path pool "" (Option.isSome_iff_ne_none.mp hpresent) hcontent
      | volDelete name pool => exact .delete name pool ""
      | rm path => exact .rm path (.ok "") none
    · cases cmd <;> cases uploadFails <;> rfl

def cloudInitCtx : ReconcileCtx :=
  ⟨{ sampleMachine with spec.bootstrapFormat := .cloudInit }, sampleOwner, sampleCluster,
    sampleLibvirtCluster, sampleHost, 1, 1⟩

def isoRun : Prog (signature.sum uploads) (Option GoError × RunState) :=
  (reconcileBootstrapArtifacts sampleDeps cloudInitCtx (cloudInitCtx.initialState sampleMachine.status)).expand
    (isoCommands "/tmp/caplv-upload-1")

theorem isoRun_starts : IsoRun "default" cloudInitCtx.bootstrapISO isoRun :=
  ⟨sampleDeps, cloudInitCtx, _, _, rfl, rfl, rfl, rfl⟩

def bareIso : Staging Unit := ⟨none, none, fun _ => none, fun _ => false⟩

theorem isoMachine_completes {policy : CommandPolicy} (uploadFails : Bool)
    (hpolicy : ∀ w cmd, policy w.store cmd (isoMachine uploadFails w (.inr cmd)).1
      (isoMachine uploadFails w (.inr cmd)).2.store)
    (w : IsoWorld) (h : permitted (isoMachine uploadFails) isoEnabled isoRun w = true) :
    Completes (isoSteps (· = [7]) policy) isoRun w (run (isoMachine uploadFails) isoRun w).1
      (run (isoMachine uploadFails) isoRun w).2 :=
  completes_of_permitted (isoMachine_step uploadFails hpolicy) h

theorem isoMachine_fills (w : IsoWorld) (cmd : UploadCommand) : FillsWhatItMakes w.store cmd
    (isoMachine false w (.inr cmd)).1 (isoMachine false w (.inr cmd)).2.store := by
  cases cmd <;> trivial

theorem bootstrap_iso_complete_single :
    Completes (isoSteps (· = [7]) FillsWhatItMakes) isoRun ⟨bareIso, false⟩
        (run (isoMachine false) isoRun ⟨bareIso, false⟩).1 (run (isoMachine false) isoRun ⟨bareIso, false⟩).2 ∧
      (run (isoMachine false) isoRun ⟨bareIso, false⟩).1.1 = none ∧
      ∃ iso, iso = [7] ∧
        (run (isoMachine false) isoRun ⟨bareIso, false⟩).2.store.volume = some (.written iso) := by
  have hrun := isoMachine_completes false isoMachine_fills ⟨bareIso, false⟩ rfl
  exact ⟨hrun, rfl, (bootstrap_iso_complete (.start bareIso rfl) isoRun_starts hrun).1 rfl rfl⟩

theorem isoRun_accepts {policy : CommandPolicy}
    (hpolicy : ∀ w cmd, policy w.store cmd (isoMachine false w (.inr cmd)).1
      (isoMachine false w (.inr cmd)).2.store)
    (w : Staging Unit) (payload : Payload) (hvolume : w.volume = some payload) :
    ∃ st, Completes (isoSteps (· = [7]) policy) isoRun ⟨w, false⟩ (none, st) ⟨w, false⟩ := by
  obtain ⟨volume, uploader, temp, locked⟩ := w
  subst hvolume
  exact ⟨_, isoMachine_completes false hpolicy _ rfl⟩

-- The vol-upload of the first run fails, or the controller crashes before it: the second run
-- finds the blank volume and returns nil.
theorem blank_iso_passes :
    (∃ before after st, IsoRuns (· = [7]) (fun _ _ _ _ => True) (fun _ => False) "default"
        cloudInitCtx.bootstrapISO before ∧
      Completes (isoSteps (· = [7]) fun _ _ _ _ => True) isoRun ⟨before, false⟩ (none, st) after ∧
      after.recorded = false ∧ after.store.volume = some .blank) ∧
    ∃ before after st, IsoRuns (· = [7]) FillsWhatItMakes (fun _ => True) "default"
        cloudInitCtx.bootstrapISO before ∧
      Completes (isoSteps (· = [7]) FillsWhatItMakes) isoRun ⟨before, false⟩ (none, st) after ∧
      after.recorded = false ∧ after.store.volume = some .blank := by
  constructor
  · have hfirst := @isoMachine_completes (fun _ _ _ _ => True) true (fun _ _ => trivial) ⟨bareIso, false⟩ rfl
    obtain ⟨st, hsecond⟩ := @isoRun_accepts (fun _ _ _ _ => True) (fun _ _ => trivial)
      (run (isoMachine true) isoRun ⟨bareIso, false⟩).2.store .blank rfl
    exact ⟨_, _, st, .completed (.start bareIso rfl) isoRun_starts hfirst, hsecond, rfl, rfl⟩
  · obtain ⟨events, hfirst⟩ := exec_of_permits (isoMachine_step false isoMachine_fills) 5
      (show permits (isoMachine false) isoEnabled 5 isoRun ⟨bareIso, false⟩ = true from rfl)
    obtain ⟨st, hsecond⟩ := isoRun_accepts isoMachine_fills
      (runFor (isoMachine false) 5 isoRun ⟨bareIso, false⟩).2.store .blank rfl
    exact ⟨_, _, st, .crashed (.start bareIso rfl) isoRun_starts hfirst trivial, hsecond, rfl, rfl⟩

end Samples

end Caplv.Controller

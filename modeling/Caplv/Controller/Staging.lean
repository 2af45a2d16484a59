import Caplv.Controller.World
import Caplv.Controller.Handling
import Caplv.Libvirt.Upload

namespace Caplv.Controller

open Text Api Libvirt Scope Program

variable {ι : Type}

-- UploadQcow2Volume is not one operation of the host but the commands it runs.
def uploadCommands (tmpFile : String) : Implementation signature uploads
  | .client _ (.uploadQcow2Volume pool name content virtualSizeBytes) =>
    some (VirshClient.uploadQcow2Volume tmpFile pool name content virtualSizeBytes)
  | _ => none

-- A check sees the volume as soon as it exists, and any check may fail or miss it. The
-- cached file holds the image. The mutexes are the only other state the runs share.
def stagingStep (image : Bytes) (before : Staging ι) : (op : Op) → Reply op → Staging ι → Prop
  | .client _ (.volumeExists _ _), reply, after =>
    after = before ∧ (reply = .ok true → before.volume ≠ none)
  | .openFile _, reply, after => after = before ∧ ∀ content, reply = .ok content → content = image
  | .lockUpload key, _, after => before.locked key = false ∧
      after = { before with locked := Function.update before.locked key true }
  | .unlockUpload key, _, after =>
    after = { before with locked := Function.update before.locked key false }
  | _, _, after => after = before

-- The runs of reconcileBaseImage for one BaseImageSpec on one host. A crash of the
-- controller stops runs wherever they are and forgets the mutexes.
def stagingSystem [DecidableEq ι] (image : Bytes) (baseImage : BaseImageSpec) (host : LibvirtHost)
    (allowed : Staging ι → Op → Prop) :
    System (signature.sum uploads) (Staging ι) ι (Option GoError × RunState) where
  handler i := Handler.sum
    (fun before op reply after => stagingStep image before op reply after ∧ allowed before op)
    (fun before cmd reply after => UploadStep i before cmd reply after)
  env before after := after = { before with locked := fun _ => false }
  start _ prog := ∃ deps rc st tmpFile, rc.libvirtHost = host ∧
    rc.libvirtCluster.baseImage = some baseImage ∧
    prog = (reconcileBaseImage deps rc st).expand (uploadCommands tmpFile)

-- No check is made while a volume that vol-create-as has made is neither filled by vol-upload
-- nor removed by vol-delete.
def ChecksOutsideUploads (w : Staging ι) : Op → Prop
  | .client _ (.volumeExists _ _) => w.uploader = none
  | _ => True

def NotHalfStaged (image : Bytes) (w : Staging ι) : Prop :=
  w.uploader = none ∧ (w.volume = none ∨ w.volume = some (.written image))

section Summary

def StagingLearned (image : Bytes) (after : Staging ι) : (op : Op) → Reply op → Prop
  | .client _ (.volumeExists _ _), reply => reply = .ok true → after.Complete image
  | .client _ (.uploadQcow2Volume _ _ _ _), reply => reply = .ok () → after.Complete image
  | .openFile _, reply => ∀ content, reply = .ok content → content = image
  | _, _ => True

def stagingSummary (image : Bytes) : Handler signature (Staging ι) := fun before op reply after =>
  Staging.Since image before after ∧ StagingLearned image after op reply

def UploadsImage (image : Bytes) : Op → Prop
  | .client _ (.uploadQcow2Volume _ _ content _) => content = image
  | _ => True

def summaryGuard (image : Bytes) (w : Staging ι) (op : Op) : Prop :=
  w.Settles image ∧ UploadsImage image op

variable {image : Bytes} {α β : Type} {pre : Staging ι → Prop} {w : Staging ι}

def Staged (image : Bytes) (err : Option GoError) (st : RunState) (w : Staging ι) : Prop :=
  w.Settles image ∧ (err = none → st.status.failureReason = none → w.Complete image)

abbrev Stages (image : Bytes) (pre : Staging ι → Prop) (body : StepBody α)
    (post : α → Staging ι → Prop) : Prop :=
  Body.Triple (stagingSummary image) (summaryGuard image) (fun _ => pre) body (fun value _ => post value)
    (Staged image)

theorem staging_handling : Handling (stagingSummary image) (summaryGuard image)
    (fun _ (w : Staging ι) => w.Settles image) (Staged image) where
  guard _ _ _ _ hw := ⟨hw, trivial⟩
  recorded _ _ _ _ _ _ hs := ⟨hs.1.settles, fun _ hnone => nomatch hnone⟩
  failed _ _ _ hw := ⟨hw, nofun⟩

theorem issue_stages (hpre : ∀ w, pre w → w.Settles image) (op : Op) (hop : UploadsImage image op) :
    Stages image pre (issue op) fun reply w => w.Settles image ∧ StagingLearned image w op reply :=
  Body.Triple.perform (fun _ w h => ⟨hpre w h, hop⟩) fun _ _ _ _ _ hs => ⟨hs.1.settles, hs.2⟩

theorem callOrHandle_stages (hpre : ∀ w, pre w → w.Settles image) (rc : ReconcileCtx) (call : ClientCall)
    (operation : String) (hcall : UploadsImage image (.client rc.hostKey call)) :
    Stages image pre (callOrHandle rc call operation)
      fun value w => w.Settles image ∧ StagingLearned image w (.client rc.hostKey call) (.ok value) :=
  staging_handling.callOrHandle rc call operation (fun _ w h => ⟨hpre w h, hcall⟩)
    (fun _ _ _ _ _ hs => ⟨hs.1.settles, hs.2⟩) fun _ _ _ _ _ hs => hs.1.settles

theorem leaveIf_stages (found : Bool) (hpre : ∀ w, pre w → w.Settles image)
    (hfound : ∀ w, pre w → found = true → w.Complete image) :
    Stages image pre (Body.leaveIf found none) fun _ w => w.Settles image := by
  refine Body.Triple.ite (fun h => Body.Triple.leave fun _ w hw => ?_) fun _ => ?_
  · exact ⟨hpre w hw, fun _ _ => hfound w hw h⟩
  · exact Body.Triple.pure fun _ w hw => hpre w hw

theorem updateStatus_stages (f : LibvirtMachineStatus → LibvirtMachineStatus) :
    Stages image pre (updateStatus f) fun _ => pre := Body.Triple.modify fun _ _ h => h

theorem lift_stages {prog : Prog signature α} (hprog : Emits anyReply LocalOp (fun _ => True) prog) :
    Stages image (fun w : Staging ι => w.Settles image) (Body.lift prog) fun _ w => w.Settles image := by
  intro st w hw
  refine (hprog.holds hw (fun before op hb hop => ⟨hb, ?_⟩) fun _ _ _ _ _ _ hs =>
    ⟨trivial, hs.1.settles⟩).bind fun value after h => h.2
  cases op <;> first
    | exact hop.elim
    | trivial

theorem staged_of_complete (h : w.Complete image) (err : Option GoError) (st : RunState) :
    Staged image err st w := ⟨h.settles, fun _ _ => h⟩

theorem uploadBaseImage_staged (rc : ReconcileCtx) (baseImage : BaseImageSpec) (entry : CacheEntry)
    (st : RunState) (hw : w.Settles image) :
    Holds (stagingSummary image) (summaryGuard image) (fun out after => Staged image out.1 out.2 after)
      (uploadBaseImage rc baseImage entry st) w := by
  refine @stepFn_triple _ _ _ (fun _ w => w.Settles image) _ _ ?_ _ _ hw
  refine (callOrHandle_stages (fun _ h => h) rc (.volumeExists _ _) _ trivial).bind fun found => ?_
  refine (leaveIf_stages found (fun _ h => h.1) fun w h htrue => h.2 (congrArg _ htrue)).bind fun _ => ?_
  refine (issue_stages (fun _ h => h) (.qcow2VirtualSize entry.path) trivial).bind fun header => ?_
  refine (staging_handling.orReturn _ header fun _ _ h => h.1).bind fun virtualSize => ?_
  refine (issue_stages (fun _ h => h.1.1) (.openFile entry.path) trivial).bind fun file => ?_
  refine (staging_handling.orReturn _ file fun _ _ h => h.1).bind fun content => ?_
  intro st w hopened
  obtain ⟨⟨hsettles, hlearned⟩, hfile⟩ := hopened
  obtain rfl : content = image := hlearned content hfile
  refine (callOrHandle_stages (fun _ h => h) rc (.uploadQcow2Volume _ _ content _) _ rfl).bind
    (fun value => ?_) st w hsettles
  exact Body.Triple.modify fun _ _ h => staged_of_complete (h.2 rfl) _ _

theorem stageBaseImage_stages (rc : ReconcileCtx) (baseImage : BaseImageSpec) :
    Stages image (fun w : Staging ι => w.Settles image) (stageBaseImage rc baseImage)
      fun _ w => w.Complete image := by
  refine (callOrHandle_stages (fun _ h => h) rc (.volumeExists _ _) _ trivial).bind fun found => ?_
  refine (leaveIf_stages found (fun _ h => h.1) fun w h htrue => h.2 (congrArg _ htrue)).bind fun _ => ?_
  refine (updateStatus_stages _).bind fun _ => ?_
  refine (lift_stages (resolveBaseImageCredentials_emits _ _)).bind fun creds => ?_
  refine (staging_handling.orReturn _ creds fun _ _ h => h).bind fun creds => ?_
  refine (issue_stages (fun _ h => h.1) (.imageGet _ _ _) trivial).bind fun got => ?_
  refine (staging_handling.orReturn _ got fun _ _ h => h.1).bind fun entry => ?_
  refine (issue_stages (fun _ h => h.1.1) (.lockUpload _) trivial).bind fun _ => ?_
  have hupload : Body.Triple (stagingSummary image) (summaryGuard image)
      (fun _ (w : Staging ι) => w.Settles image ∧ True) (Body.call (uploadBaseImage rc baseImage entry))
      (fun err st w => Staged image err st w) (Staged image) :=
    Body.Triple.call fun st _ h => uploadBaseImage_staged rc baseImage entry st h.1
  refine Body.Triple.bind hupload fun err => Body.Triple.perform_bind (fun _ _ h => ⟨h.1, trivial⟩) fun _ => ?_
  refine Body.Triple.leave fun st after h => ?_
  obtain ⟨before, hstaged, hsince, -⟩ := h
  exact ⟨hsince.settles, fun herr hnone => hsince.complete (hstaged.2 herr hnone)⟩

theorem reconcileBaseImage_staged (deps : Deps) {rc : ReconcileCtx} {baseImage : BaseImageSpec}
    (hbase : rc.libvirtCluster.baseImage = some baseImage) (st : RunState) (hw : w.Settles image) :
    Holds (stagingSummary image) (summaryGuard image) (fun out after => Staged image out.1 out.2 after)
      (reconcileBaseImage deps rc st) w := by
  rw [reconcileBaseImage, hbase]
  cases hcache : deps.baseImageCache with
  | true =>
    refine @stepFn_triple _ _ _ (fun _ w => w.Settles image) _ _ ?_ _ _ hw
    exact (stageBaseImage_stages rc baseImage).mono (fun _ _ _ h => staged_of_complete h _ _)
      fun _ _ _ h => h
  | false => exact ⟨hw, fun h => by cases h⟩

end Summary

section Runs

variable {image : Bytes} {baseImage : BaseImageSpec} {host : LibvirtHost} {before after : Staging ι}

def stagingGuard (image : Bytes) (i : ι) (w : Staging ι) : (signature.sum uploads).Op → Prop
  | .inl _ => True
  | .inr cmd => Staging.uploadGuard image i w cmd

theorem stagingStep_kept (i : ι) {op : Op} {reply : Reply op} (hbefore : before.Settles image)
    (hstep : stagingStep image before op reply after) : Staging.KeptBy image i before after := by
  have hlock (locked : String → Bool) : Staging.KeptBy image i before { before with locked := locked } :=
    ⟨⟨hbefore.between, hbefore.during⟩, fun h => h, fun _ _ =>
      ⟨⟨hbefore.between, hbefore.during⟩, fun h => h, fun h => h, rfl⟩⟩
  have hsame (h : after = before) : Staging.KeptBy image i before after := by
    subst h
    exact .refl i hbefore
  cases op with
  | lockUpload key => exact hstep.2 ▸ hlock _
  | unlockUpload key => exact (show after = _ from hstep) ▸ hlock _
  | openFile path => exact hsame hstep.1
  | client host call =>
    cases call with
    | volumeExists pool name => exact hsame hstep.1
    | _ => exact hsame hstep
  | _ => exact hsame hstep

variable [DecidableEq ι]

theorem system_kept {allowed : Staging ι → Op → Prop} {i : ι} {op : (signature.sum uploads).Op}
    {reply : (signature.sum uploads).Reply op} (hbefore : before.Settles image)
    (hstep : (stagingSystem image baseImage host allowed).handler i before op reply after)
    (hguard : stagingGuard image i before op) : Staging.KeptBy image i before after := by
  cases op with
  | inl op => exact stagingStep_kept i hbefore hstep.1
  | inr cmd => exact Staging.uploadStep_kept hbefore hstep hguard

abbrev stagingSeen (image : Bytes) (baseImage : BaseImageSpec) (host : LibvirtHost) (i : ι) :
    Handler (signature.sum uploads) (Staging ι) :=
  interfered (Staging.relies image i)
    ((stagingSystem image baseImage host ChecksOutsideUploads).handler i)

-- A check that finds the volume outside of an upload finds the complete image.
theorem controller_summary {i : ι} {tmpFile : String} {op : Op}
    {reply : Reply op} (hop : uploadCommands tmpFile op = none) (hbefore : before.Settles image)
    (hstep : stagingSeen image baseImage host i before (.inl op) reply after) :
    stagingSummary image before op reply after := by
  obtain ⟨middle, ⟨hown, hallowed⟩, hrely⟩ := hstep
  have hkept := stagingStep_kept i hbefore hown
  have hrest := hrely hkept.settles
  have hcomplete (hc : before.Complete image) : after.Complete image :=
    hrest.complete (hkept.complete hc)
  refine ⟨⟨hrest.settles, hcomplete⟩, ?_⟩
  cases op with
  | client host call =>
    cases call with
    | volumeExists pool name =>
      intro hfound
      exact hcomplete (hbefore.complete hallowed (hown.2 hfound))
    | uploadQcow2Volume pool name content virtualSizeBytes => cases hop
    | _ => trivial
  | openFile path => exact hown.2
  | _ => trivial

theorem upload_summary {i : ι} {tmpFile : String} {before : Staging ι} {op : Op}
    {prog : Prog uploads (Reply op)} (hop : uploadCommands tmpFile op = some prog)
    (hbefore : summaryGuard image before op) :
    Holds (stagingSeen image baseImage host i) (stagingGuard image i) (stagingSummary image before op)
      (prog.inr : Prog (signature.sum uploads) _) before := by
  cases op with
  | client key call =>
    cases call with
    | uploadQcow2Volume pool name content virtualSizeBytes =>
      obtain ⟨hsettles, rfl⟩ := hbefore
      cases hop
      exact Holds.sumRight (Staging.uploadQcow2Volume_holds tmpFile pool name virtualSizeBytes hsettles)
    | _ => cases hop
  | _ => cases hop

theorem reconcileBaseImage_ends {i : ι} {prog : Prog (signature.sum uploads) (Option GoError × RunState)}
    (hstart : (stagingSystem image baseImage host ChecksOutsideUploads).start i prog) {w : Staging ι}
    (hw : w.Settles image) :
    EndsUnder (Staging.relies image i)
      ((stagingSystem image baseImage host ChecksOutsideUploads).handler i) (stagingGuard image i)
      (fun out after => Staged image out.1 out.2 after) prog w := by
  obtain ⟨deps, rc, st, tmpFile, -, hbase, rfl⟩ := hstart
  intro other hrely
  refine (reconcileBaseImage_staged deps hbase st (hrely hw).settles).expand
    (fun before op hop hguard => ⟨trivial, fun reply after hs => ?_⟩) fun before op prog hop hguard => ?_
  · exact controller_summary hop hguard.1 hs
  · exact upload_summary hop hguard

-- In every run in which no check falls into an upload, a run that returns nil without a
-- failure leaves the complete image in the volume.
theorem stagedImage_complete {c : Config (signature.sum uploads) (Staging ι) ι (Option GoError × RunState)}
    (hc : (stagingSystem image baseImage host ChecksOutsideUploads).Reachable (NotHalfStaged image) c)
    {i : ι} {st : RunState} (hdone : c.threads i = some (.done (none, st)))
    (hclean : st.status.failureReason = none) : c.state.volume = some (.written image) := by
  have hends := (stagingSystem image baseImage host ChecksOutsideUploads).reachable_ends
    (Staging.Settles image) (Staging.relies image) (stagingGuard image)
    (fun _ out after => Staged image out.1 out.2 after) ?_ ?_ ?_ ?_ ?_ ?_ hc
  · have hstaged := hends.2 i _ hdone c.state fun h => ⟨h, fun h => h, fun h => h, rfl⟩
    exact (hstaged.2 rfl hclean).2
  · exact fun _ _ h => ⟨h, fun h => h, fun h => h, rfl⟩
  · exact fun _ _ _ _ hab hbc h => (hab h).trans (hbc (hab h).settles)
  · exact fun w h => ⟨fun _ => h.2, fun hne => absurd h.1 hne⟩
  · rintro before _ hbefore rfl
    have hsettles : Staging.Settles image { before with locked := fun _ => false } :=
      ⟨hbefore.between, hbefore.during⟩
    exact ⟨hsettles, fun _ _ => ⟨hsettles, fun h => h, fun h => h, rfl⟩⟩
  · exact fun _ _ _ hw hstart => reconcileBaseImage_ends hstart hw
  · intro i before op reply after hbefore hguard hstep
    have hkept := system_kept hbefore hstep hguard
    exact ⟨hkept.settles, fun j hne _ => hkept.others j hne⟩

end Runs

section Samples

def sampleBaseImage : BaseImageSpec := ⟨"default", "base.qcow2", ⟨.https, none, none, none⟩⟩

def stagingMachine (image : Bytes) (i : Bool) : Machine (signature.sum uploads) (Staging Bool) :=
  fun w op => match op with
    | .inl (.client _ (.volumeExists _ _)) => (.ok w.volume.isSome, w)
    | .inl (.imageGet _ _ _) => (.ok ⟨"/cache/d", "d"⟩, w)
    | .inl (.openFile _) => (.ok image, w)
    | .inl (.lockUpload key) => ((), { w with locked := Function.update w.locked key true })
    | .inl (.unlockUpload key) => ((), { w with locked := Function.update w.locked key false })
    | .inl op => (freshAnswer op, w)
    | .inr (.stream _ content) => (.ok "", w.setTemp i (some content))
    | .inr (.volCreateAs _ _ _) => (.ok "", w.created i)
    | .inr (.volUpload _ _ _) => (.ok "", w.filled ((w.temp i).getD []))
    | .inr (.volDelete _ _) => (.ok "", w.removed)
    | .inr (.rm _) => (.ok "", w.setTemp i none)

def stagingEnabled (i : Bool) (w : Staging Bool) : (signature.sum uploads).Op → Bool
  | .inl (.lockUpload key) => !w.locked key
  | .inr (.volCreateAs _ _ _) => w.volume.isNone
  | .inr (.volUpload _ _ _) => w.volume.isSome && (w.temp i).isSome
  | _ => true

def outsideUploads (w : Staging Bool) : (signature.sum uploads).Op → Bool
  | .inl (.client _ (.volumeExists _ _)) => w.uploader.isNone
  | _ => true

variable {w : Staging Bool}

theorem stagingMachine_controller {image : Bytes} {i : Bool} {op : Op}
    (h : stagingEnabled i w (.inl op) = true) :
    stagingStep image w op (stagingMachine image i w (.inl op)).1
      (stagingMachine image i w (.inl op)).2 := by
  cases op with
  | client host call =>
    cases call with
    | volumeExists pool name =>
      refine ⟨rfl, fun hfound hmissing => ?_⟩
      rw [stagingMachine, hmissing] at hfound
      cases hfound
    | _ => rfl
  | openFile path => exact ⟨rfl, fun content hcontent => (Except.ok.inj hcontent).symm⟩
  | lockUpload key => exact ⟨Bool.not_eq_true' _ ▸ h, rfl⟩
  | _ => rfl

theorem stagingMachine_command {image : Bytes} {i : Bool} {cmd : UploadCommand}
    (h : stagingEnabled i w (.inr cmd) = true) :
    UploadStep i w cmd (stagingMachine image i w (.inr cmd)).1
      (stagingMachine image i w (.inr cmd)).2 := by
  cases cmd with
  | stream path content => exact .stream path content ""
  | volCreateAs pool name sizeBytes => exact .create pool name sizeBytes "" (Option.isNone_iff_eq_none.mp h)
  | volUpload name path pool =>
    obtain ⟨hpresent, htemp⟩ := Bool.and_eq_true_iff.mp h
    obtain ⟨content, hcontent⟩ := Option.isSome_iff_exists.mp htemp
    have hfilled : (w.temp i).getD [] = content := by rw [hcontent]; rfl
    rw [stagingMachine, hfilled]
    exact .upload name path pool "" (Option.isSome_iff_ne_none.mp hpresent) hcontent
  | volDelete name pool => exact .delete name pool ""
  | rm path => exact .rm path (.ok "") none

theorem checksOutsideUploads_of {op : Op}
    (h : outsideUploads w (.inl op) = true) : ChecksOutsideUploads w op := by
  cases op with
  | client host call =>
    cases call with
    | volumeExists pool name => exact Option.isNone_iff_eq_none.mp h
    | _ => trivial
  | _ => trivial

abbrev sampleStaging (allowed : Staging Bool → Op → Prop) :
    System (signature.sum uploads) (Staging Bool) Bool (Option GoError × RunState) :=
  stagingSystem [1] sampleBaseImage sampleHost allowed

theorem stagingMachine_step {i : Bool} {allowed : Staging Bool → Op → Prop}
    (w : Staging Bool) (op : (signature.sum uploads).Op) (h : stagingEnabled i w op = true)
    (hallowed : ∀ op', op = .inl op' → allowed w op') :
    (sampleStaging allowed).handler i w op (stagingMachine [1] i w op).1 (stagingMachine [1] i w op).2 := by
  cases op with
  | inl op => exact ⟨stagingMachine_controller h, hallowed op rfl⟩
  | inr cmd => exact stagingMachine_command h

def stagingCtx : ReconcileCtx :=
  ⟨sampleMachine, sampleOwner, sampleCluster,
    { sampleLibvirtCluster with baseImage := some sampleBaseImage }, sampleHost, 1, 1⟩

def stagingRun : Prog (signature.sum uploads) (Option GoError × RunState) :=
  (reconcileBaseImage sampleDeps stagingCtx (stagingCtx.initialState sampleMachine.status)).expand
    (uploadCommands "/tmp/caplv-upload-1")

def bareStaging : Staging Bool := ⟨none, none, fun _ => none, fun _ => false⟩

theorem stagingRun_starts (allowed : Staging Bool → Op → Prop) (i : Bool) :
    (sampleStaging allowed).start i stagingRun :=
  ⟨sampleDeps, stagingCtx, _, _, rfl, rfl, rfl⟩

-- The first run has done so many operations and no other has started.
def firstRun (n : Nat) : Config (signature.sum uploads) (Staging Bool) Bool (Option GoError × RunState) :=
  ⟨(runFor (stagingMachine [1] false) n stagingRun bareStaging).2, Function.update (fun _ => none) false
    (some (runFor (stagingMachine [1] false) n stagingRun bareStaging).1)⟩

theorem firstRun_reachable {allowed : Staging Bool → Op → Prop} (n : Nat)
    (enabled : Staging Bool → (signature.sum uploads).Op → Bool)
    (henabled : permits (stagingMachine [1] false) enabled n stagingRun bareStaging = true)
    (hallowed : ∀ w op, enabled w op = true → stagingEnabled false w op = true ∧
      ∀ op', op = .inl op' → allowed w op') :
    (sampleStaging allowed).Reachable (NotHalfStaged [1]) (firstRun n) := by
  have hidle : (sampleStaging allowed).Reachable (NotHalfStaged [1]) (System.idle bareStaging) :=
    System.reachable_idle ⟨rfl, .inl rfl⟩
  have hstarted := hidle.start (i := false) rfl (stagingRun_starts allowed false)
  have hrun := hstarted.runFor (Function.update_self ..) (stagingMachine [1] false) enabled n henabled
    fun w op h => stagingMachine_step w op (hallowed w op h).1 (hallowed w op h).2
  simpa [firstRun, System.idle] using hrun

-- A second run finds the blank volume and returns nil, while the first is between
-- vol-create-as and vol-upload and when it crashed there.
theorem blank_volume_passes :
    (∃ c st, (sampleStaging fun _ _ => True).Reachable (NotHalfStaged [1]) c ∧
      c.threads true = some (.done (none, st)) ∧ st.status.failureReason = none ∧
      c.state.volume = some .blank ∧ c.threads false ≠ none) ∧
    ∃ c st, (sampleStaging fun _ _ => True).Reachable (NotHalfStaged [1]) c ∧
      c.threads true = some (.done (none, st)) ∧ st.status.failureReason = none ∧
      c.state.volume = some .blank ∧ c.threads false = none := by
  have hfirst : (sampleStaging fun _ _ => True).Reachable (NotHalfStaged [1]) (firstRun 8) :=
    firstRun_reachable 8 (stagingEnabled false) rfl fun _ _ h => ⟨h, fun _ _ => trivial⟩
  have hsecond (w : Staging Bool) (op : (signature.sum uploads).Op) (h : stagingEnabled true w op = true) :=
    @stagingMachine_step true (fun _ _ => True) w op h fun _ _ => trivial
  constructor
  · have hstarted := hfirst.start (i := true) rfl (stagingRun_starts _ true)
    have hrun := hstarted.runFor (Function.update_self ..) (stagingMachine [1] true)
      (stagingEnabled true) 1 rfl hsecond
    exact ⟨_, _, hrun, rfl, rfl, rfl, nofun⟩
  · have hstarted := (hfirst.stop false).start (i := true) rfl (stagingRun_starts _ true)
    have hrun := hstarted.runFor (Function.update_self ..) (stagingMachine [1] true)
      (stagingEnabled true) 1 rfl hsecond
    exact ⟨_, _, hrun, rfl, rfl, rfl, rfl⟩

theorem stagedImage_complete_single :
    (sampleStaging ChecksOutsideUploads).Reachable (NotHalfStaged [1]) (firstRun 11) ∧
      (firstRun 11).state.volume = some (.written [1]) := by
  have hreachable : (sampleStaging ChecksOutsideUploads).Reachable (NotHalfStaged [1]) (firstRun 11) := by
    refine firstRun_reachable 11 (fun w op => stagingEnabled false w op && outsideUploads w op) rfl ?_
    intro w op h
    obtain ⟨henabled, houtside⟩ := Bool.and_eq_true_iff.mp h
    refine ⟨henabled, ?_⟩
    rintro op' rfl
    exact checksOutsideUploads_of houtside
  exact ⟨hreachable, stagedImage_complete hreachable (i := false) rfl rfl⟩

end Samples

end Caplv.Controller

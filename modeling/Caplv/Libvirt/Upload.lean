import Caplv.Libvirt.Virsh
import Caplv.Program.Expand

namespace Caplv.Libvirt

open Text Program

-- The commands UploadQcow2Volume and UploadVolumeFromBytes run on the host.
inductive UploadCommand where
  | stream (path : String) (content : Bytes)
  | volCreateAs (pool name : String) (sizeBytes : Int)
  | volUpload (name path pool : String)
  | volDelete (name pool : String)
  | rm (path : String)
deriving DecidableEq, Repr

abbrev uploads : Signature := ⟨UploadCommand, fun _ => Except Failure String⟩

def UploadCommand.args : UploadCommand → List String
  | .volCreateAs pool name sizeBytes =>
    ["vol-create-as", pool, name, toString sizeBytes, "--format", "qcow2"]
  | .volUpload name path pool => ["vol-upload", name, path, "--pool", pool]
  | .volDelete name pool => ["vol-delete", name, "--pool", pool]
  | .stream _ _ | .rm _ => []

namespace VirshClient

def streamFailure (path : String) : Failure → GoError
  | .session message => .wrap "ssh session" (.text message)
  | .cancelled message | .exit _ message => .wrap ("stream qcow2 to " ++ path) (.text message)

-- The clean-up commands run after a failure and after a success, and their errors are ignored.
def uploadQcow2Volume (tmpFile pool name : String) (content : Bytes) (virtualSizeBytes : Int) :
    Prog uploads (Except GoError Unit) := do
  match ← @Prog.perform uploads (.stream tmpFile content) with
  | .error failure => .done (.error (streamFailure tmpFile failure))
  | .ok _ => do
      let create := UploadCommand.volCreateAs pool name virtualSizeBytes
      match ← @Prog.perform uploads create with
      | .error failure => do
          let _ ← @Prog.perform uploads (.rm tmpFile)
          .done (.error (.wrap ("vol-create-as " ++ pool ++ "/" ++ name)
            (virshFailure create.args failure)))
      | .ok _ => do
          let upload := UploadCommand.volUpload name tmpFile pool
          match ← @Prog.perform uploads upload with
          | .error failure => do
              let _ ← @Prog.perform uploads (.volDelete name pool)
              let _ ← @Prog.perform uploads (.rm tmpFile)
              .done (.error (.wrap ("vol-upload " ++ pool ++ "/" ++ name)
                (virshFailure upload.args failure)))
          | .ok _ => do
              let _ ← @Prog.perform uploads (.rm tmpFile)
              .done (.ok ())

def uploadDataFailure : Failure → GoError
  | .session message => .wrap "ssh session" (.text message)
  | .cancelled message | .exit _ message => .wrap "upload data" (.text message)

def createRawArgs (pool name : String) (sizeBytes : Int) : List String :=
  ["vol-create-as", pool, name, toString sizeBytes, "--format", "raw"]

-- Unlike uploadQcow2Volume it has no vol-delete, and it removes the temporary file only
-- once the volume was made.
def uploadVolumeFromBytes (tmpFile pool name : String) (data : Bytes) :
    Prog uploads (Except GoError Unit) := do
  match ← @Prog.perform uploads (.stream tmpFile data) with
  | .error failure => .done (.error (uploadDataFailure failure))
  | .ok _ => do
      let sizeBytes : Int := data.length
      match ← @Prog.perform uploads (.volCreateAs pool name sizeBytes) with
      | .error failure => .done (.error (virshFailure (createRawArgs pool name sizeBytes) failure))
      | .ok _ => do
          let upload := UploadCommand.volUpload name tmpFile pool
          let uploaded ← @Prog.perform uploads upload
          let _ ← @Prog.perform uploads (.rm tmpFile)
          match uploaded with
          | .error failure => .done (.error (virshFailure upload.args failure))
          | .ok _ => .done (.ok ())

end VirshClient

-- What a volume holds: nothing yet, or what was written into it.
inductive Payload where
  | blank
  | written (content : Bytes)
deriving DecidableEq, Repr

-- The volume the runs `ι` stage the base image to. `uploader` is the run whose vol-create-as made
-- the volume, until its vol-upload has filled it or its vol-delete removed it. Temporary
-- files have fresh names, so each run has its own; the locks are the controller's.
structure Staging (ι : Type) where
  volume : Option Payload
  uploader : Option ι
  temp : ι → Option Bytes
  locked : String → Bool

namespace Staging

variable {ι : Type}

def setTemp [DecidableEq ι] (w : Staging ι) (i : ι) (content : Option Bytes) : Staging ι :=
  { w with temp := Function.update w.temp i content }

def created (w : Staging ι) (i : ι) : Staging ι :=
  { w with volume := some .blank, uploader := some i }

def filled (w : Staging ι) (content : Bytes) : Staging ι :=
  { w with volume := some (.written content), uploader := none }

def removed (w : Staging ι) : Staging ι := { w with volume := none, uploader := none }

end Staging

-- A command that fails may have had any part of its effect.
inductive UploadStep {ι : Type} [DecidableEq ι] (i : ι) (before : Staging ι) :
    UploadCommand → Except Failure String → Staging ι → Prop where
  | stream (path : String) (content : Bytes) (out : String) :
      UploadStep i before (.stream path content) (.ok out) (before.setTemp i (some content))
  | streamFails (path : String) (content : Bytes) (failure : Failure) (left : Option Bytes) :
      UploadStep i before (.stream path content) (.error failure) (before.setTemp i left)
  | create (pool name : String) (sizeBytes : Int) (out : String) (h : before.volume = none) :
      UploadStep i before (.volCreateAs pool name sizeBytes) (.ok out) (before.created i)
  | createFails (pool name : String) (sizeBytes : Int) (failure : Failure) :
      UploadStep i before (.volCreateAs pool name sizeBytes) (.error failure) before
  | createLost (pool name : String) (sizeBytes : Int) (failure : Failure) (h : before.volume = none) :
      UploadStep i before (.volCreateAs pool name sizeBytes) (.error failure) (before.created i)
  | upload (name path pool : String) (out : String) {content : Bytes} (h : before.volume ≠ none)
      (htemp : before.temp i = some content) :
      UploadStep i before (.volUpload name path pool) (.ok out) (before.filled content)
  | uploadFails (name path pool : String) (failure : Failure) (left : Payload) :
      UploadStep i before (.volUpload name path pool) (.error failure)
        { before with volume := before.volume.map fun _ => left }
  | delete (name pool : String) (out : String) :
      UploadStep i before (.volDelete name pool) (.ok out) before.removed
  | deleteFails (name pool : String) (failure : Failure) :
      UploadStep i before (.volDelete name pool) (.error failure) before
  | deleteLost (name pool : String) (failure : Failure) :
      UploadStep i before (.volDelete name pool) (.error failure) before.removed
  | rm (path : String) (reply : Except Failure String) (left : Option Bytes) :
      UploadStep i before (.rm path) reply (before.setTemp i left)

namespace Staging

variable {ι : Type} {image : Bytes} {w before after : Staging ι}

-- The volume holds the whole image and nobody is about to change it.
def Complete (image : Bytes) (w : Staging ι) : Prop :=
  w.uploader = none ∧ w.volume = some (.written image)

structure Settles (image : Bytes) (w : Staging ι) : Prop where
  between : w.uploader = none → w.volume = none ∨ w.volume = some (.written image)
  during : w.uploader ≠ none → w.volume ≠ none

-- Only the run that made the volume fills or removes it.
def uploadGuard (image : Bytes) (i : ι) (w : Staging ι) : UploadCommand → Prop
  | .volUpload _ _ _ => w.uploader = some i ∧ w.temp i = some image
  | .volDelete _ _ => w.uploader = some i
  | _ => True

structure Undisturbed (image : Bytes) (i : ι) (before after : Staging ι) : Prop where
  settles : after.Settles image
  complete : before.Complete image → after.Complete image
  uploader : before.uploader = some i → after.uploader = some i
  temp : after.temp i = before.temp i

theorem Undisturbed.trans {i : ι} {a b c : Staging ι} (hab : Undisturbed image i a b)
    (hbc : Undisturbed image i b c) : Undisturbed image i a c :=
  ⟨hbc.settles, fun h => hbc.complete (hab.complete h), fun h => hbc.uploader (hab.uploader h),
    hbc.temp.trans hab.temp⟩

theorem settles_created (w : Staging ι) (i : ι) : (w.created i).Settles image :=
  ⟨nofun, fun _ => Option.some_ne_none _⟩

theorem settles_removed (w : Staging ι) : w.removed.Settles image :=
  ⟨fun _ => .inl rfl, fun h => absurd rfl h⟩

theorem complete_filled (w : Staging ι) : (w.filled image).Complete image := ⟨rfl, rfl⟩

theorem Complete.settles (h : w.Complete image) : w.Settles image :=
  ⟨fun _ => .inr h.2, fun hne => absurd h.1 hne⟩

theorem Settles.uploader_of_missing (h : w.Settles image) (hmissing : w.volume = none) : w.uploader = none := by
  by_contra hne
  exact h.during hne hmissing

theorem Settles.complete (h : w.Settles image) (hnone : w.uploader = none)
    (hpresent : w.volume ≠ none) : w.Complete image := by
  rcases h.between hnone with hmissing | hcomplete
  · exact absurd hmissing hpresent
  · exact ⟨hnone, hcomplete⟩

-- A step of run `i`, seen by the run itself and by the others.
structure KeptBy (image : Bytes) (i : ι) (before after : Staging ι) : Prop where
  settles : after.Settles image
  complete : before.Complete image → after.Complete image
  others : ∀ j, j ≠ i → Undisturbed image j before after

theorem KeptBy.refl (i : ι) (h : w.Settles image) : KeptBy image i w w :=
  ⟨h, fun hc => hc, fun _ _ => ⟨h, fun hc => hc, fun hu => hu, rfl⟩⟩

theorem KeptBy.setTemp [DecidableEq ι] (i : ι) (left : Option Bytes)
    (h : w.Settles image) : KeptBy image i w (w.setTemp i left) := by
  have hsettles : (w.setTemp i left).Settles image := ⟨h.between, h.during⟩
  exact ⟨hsettles, fun hc => hc, fun j hne =>
    ⟨hsettles, fun hc => hc, fun hu => hu, Function.update_of_ne hne _ _⟩⟩

theorem KeptBy.of_owner {i : ι} (hsettles : after.Settles image)
    (howner : before.uploader = none ∨ before.uploader = some i) (hnot : ¬ before.Complete image)
    (htemp : after.temp = before.temp) : KeptBy image i before after := by
  refine ⟨hsettles, fun hc => absurd hc hnot, fun j hne => ⟨hsettles, fun hc => absurd hc hnot,
    fun hj => ?_, congrFun htemp j⟩⟩
  rw [hj] at howner
  rcases howner with hnone | hi
  · cases hnone
  · exact absurd (Option.some.inj hi) hne

theorem KeptBy.created {i : ι} {w : Staging ι} (h : w.Settles image) (hmissing : w.volume = none) :
    KeptBy image i w (w.created i) := by
  refine KeptBy.of_owner (settles_created w i) (.inl (h.uploader_of_missing hmissing)) ?_ rfl
  intro hc
  rw [hc.2] at hmissing
  cases hmissing

theorem KeptBy.owned {i : ι} (hi : before.uploader = some i) (hsettles : after.Settles image)
    (htemp : after.temp = before.temp) : KeptBy image i before after := by
  refine KeptBy.of_owner hsettles (.inr hi) ?_ htemp
  intro hc
  rw [hc.1] at hi
  cases hi

theorem uploadStep_kept [DecidableEq ι] {i : ι} {cmd : UploadCommand} {reply : Except Failure String}
    (hbefore : before.Settles image) (hstep : UploadStep i before cmd reply after)
    (hguard : uploadGuard image i before cmd) : KeptBy image i before after := by
  cases hstep with
  | stream path content out => exact .setTemp i _ hbefore
  | streamFails path content failure left => exact .setTemp i _ hbefore
  | create pool name sizeBytes out hmissing => exact .created hbefore hmissing
  | createFails pool name sizeBytes failure => exact .refl i hbefore
  | createLost pool name sizeBytes failure hmissing => exact .created hbefore hmissing
  | upload name path pool out hpresent htemp =>
    obtain ⟨hi, himage⟩ := hguard
    obtain rfl : image = _ := Option.some.inj (himage.symm.trans htemp)
    exact .owned hi (complete_filled before).settles rfl
  | uploadFails name path pool failure left =>
    obtain ⟨hi, -⟩ := hguard
    have hpresent := hbefore.during (hi ▸ Option.some_ne_none i)
    refine .owned hi ⟨fun h => ?_, fun _ h => ?_⟩ rfl
    · exact absurd (hi.symm.trans h) (Option.some_ne_none i)
    · exact hpresent (Option.map_eq_none_iff.mp h)
  | delete name pool out => exact .owned hguard (settles_removed before) rfl
  | deleteFails name pool failure => exact .refl i hbefore
  | deleteLost name pool failure => exact .owned hguard (settles_removed before) rfl
  | rm path reply left => exact .setTemp i _ hbefore

section Run

variable [DecidableEq ι] {i : ι}

def relies (image : Bytes) (i : ι) (before after : Staging ι) : Prop :=
  before.Settles image → Undisturbed image i before after

-- The state of the volume since the upload began: a complete image stays one.
structure Since (image : Bytes) (start w : Staging ι) : Prop where
  settles : w.Settles image
  complete : start.Complete image → w.Complete image

abbrev uploadSeen (image : Bytes) (i : ι) : Handler uploads (Staging ι) :=
  interfered (relies image i) fun before cmd reply after => UploadStep i before cmd reply after

theorem Since.step {start w after : Staging ι} {cmd : UploadCommand} {reply : Except Failure String}
    (h : Since image start w) (hstep : uploadSeen image i w cmd reply after)
    (hguard : uploadGuard image i w cmd) : ∃ middle, UploadStep i w cmd reply middle ∧
      Undisturbed image i middle after ∧ Since image start after := by
  obtain ⟨middle, hcmd, hrely⟩ := hstep
  have hkept := uploadStep_kept h.settles hcmd hguard
  have hrest := hrely hkept.settles
  exact ⟨middle, hcmd, hrest, hrest.settles, fun hc => hrest.complete (hkept.complete (h.complete hc))⟩

theorem Since.holds_rm {start w : Staging ι} (h : Since image start w) (path : String)
    (result : Except GoError Unit) {post : Except GoError Unit → Staging ι → Prop}
    (hpost : ∀ after, Since image start after → (w.Complete image → after.Complete image) →
      post result after) :
    Holds (uploadSeen image i) (uploadGuard image i) post
      (@Prog.perform uploads (.rm path) >>= fun _ => .done result) w := by
  refine ⟨trivial, fun reply after hstep => ?_⟩
  obtain ⟨middle, hcmd, hrest, hafter⟩ := h.step hstep trivial
  have hkept := uploadStep_kept h.settles hcmd trivial
  exact hpost after hafter fun hc => hrest.complete (hkept.complete hc)

theorem uploadQcow2Volume_holds (tmpFile pool name : String) (virtualSizeBytes : Int)
    {start : Staging ι} (hstart : start.Settles image) :
    Holds (uploadSeen image i) (uploadGuard image i)
      (fun result after => Since image start after ∧ (result = .ok () → after.Complete image))
      (VirshClient.uploadQcow2Volume tmpFile pool name image virtualSizeBytes) start := by
  have hbegin : Since image start start := ⟨hstart, fun hc => hc⟩
  refine ⟨trivial, fun reply streamed hstep => ?_⟩
  obtain ⟨middle, hcmd, hrest, hstreamed⟩ := hbegin.step hstep trivial
  cases reply with
  | error failure => exact ⟨hstreamed, nofun⟩
  | ok out =>
    have htemp : streamed.temp i = some image := by
      rw [hrest.temp]
      cases hcmd
      exact Function.update_self ..
    refine ⟨trivial, fun reply made hstep => ?_⟩
    obtain ⟨middle, hcmd, hrest, hmade⟩ := hstreamed.step hstep trivial
    cases reply with
    | error failure => exact hmade.holds_rm _ _ fun after hafter _ => ⟨hafter, nofun⟩
    | ok out =>
      have hown : made.uploader = some i ∧ made.temp i = some image := by
        rw [hrest.temp]
        cases hcmd
        exact ⟨hrest.uploader rfl, htemp⟩
      refine ⟨hown, fun reply sent hstep => ?_⟩
      obtain ⟨middle, hcmd, hrest, hsent⟩ := hmade.step hstep hown
      cases reply with
      | error failure =>
        have hstill : sent.uploader = some i := by
          cases hcmd
          exact hrest.uploader hown.1
        refine ⟨hstill, fun reply undone hstep => ?_⟩
        obtain ⟨-, -, -, hundone⟩ := hsent.step hstep hstill
        exact hundone.holds_rm _ _ fun after hafter _ => ⟨hafter, nofun⟩
      | ok out =>
        have hcomplete : sent.Complete image := by
          refine hrest.complete ?_
          cases hcmd with
          | upload name path pool out hpresent htemp' =>
            obtain rfl : image = _ := Option.some.inj (hown.2.symm.trans htemp')
            exact complete_filled made
        exact hsent.holds_rm _ _ fun after hafter hkeeps => ⟨hafter, fun _ => hkeeps hcomplete⟩

end Run

end Staging

end Caplv.Libvirt

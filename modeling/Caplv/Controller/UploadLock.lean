import Caplv.Controller.Staging

namespace Caplv.Controller

open Text Api Libvirt Scope Program

-- The moments at which a call of UploadQcow2Volume begins and returns.
inductive CallPhase where
  | begins
  | returns
deriving DecidableEq, Repr

abbrev phases : Signature := ⟨CallPhase, fun _ => Unit⟩

abbrev uploadPhases : Signature := phases.sum uploads

def uploadCall (tmpFile pool name : String) (content : Bytes) (virtualSizeBytes : Int) :
    Prog uploadPhases (Except GoError Unit) := do
  let _ ← @Prog.perform uploadPhases (.inl .begins)
  let result ← (VirshClient.uploadQcow2Volume tmpFile pool name content virtualSizeBytes).inr
  let _ ← @Prog.perform uploadPhases (.inl .returns)
  .done result

def uploadCalls (tmpFile : String) : Implementation signature uploadPhases
  | .client _ (.uploadQcow2Volume pool name content virtualSizeBytes) =>
    some (uploadCall tmpFile pool name content virtualSizeBytes)
  | _ => none

-- The volume and the mutexes of baseImageHostUpload, each with the run that holds it. For each
-- run, `absent` says that its last check since it took the mutex found no volume and `active`
-- that its call of UploadQcow2Volume is in progress; `begun` counts the calls.
structure Serial (ι : Type) where
  host : Staging ι
  holder : String → Option ι
  absent : ι → Bool
  active : ι → Bool
  begun : Nat

def answersAbsent : Except GoError Bool → Bool
  | .ok found => !found
  | .error _ => false

section Steps

variable {ι : Type} [DecidableEq ι]

-- A check that does not fail tells whether the volume exists, and every fetch gives the same bytes.
def serialStep (digest : String) (i : ι) (before : Serial ι) : (op : Op) → Reply op → Serial ι → Prop
  | .client _ (.volumeExists _ _), reply, after =>
    (∀ found, reply = .ok found → found = before.host.volume.isSome) ∧
      after = { before with absent := Function.update before.absent i (answersAbsent reply) }
  | .imageGet _ _ _, reply, after => after = before ∧ ∀ entry, reply = .ok entry → entry.sha256 = digest
  | .lockUpload key, _, after => before.holder key = none ∧
      after = { before with holder := Function.update before.holder key (some i)
                            absent := Function.update before.absent i false }
  | .unlockUpload key, _, after => after = { before with holder := Function.update before.holder key none }
  | _, _, after => after = before

def phaseStep (i : ι) (before : Serial ι) : CallPhase → Serial ι
  | .begins => { before with active := Function.update before.active i true, begun := before.begun + 1 }
  | .returns => { before with active := Function.update before.active i false }

def serialSteps (digest : String) (i : ι) : Handler (signature.sum uploadPhases) (Serial ι) :=
  Handler.sum (serialStep digest i) <| Handler.sum (fun before phase _ after => after = phaseStep i before phase)
    fun before cmd reply after =>
      ∃ host, UploadStep i before.host cmd reply host ∧ after = { before with host := host }

-- No command fails but for what is on the host: vol-create-as where the volume exists already,
-- and vol-upload where it does not.
def CommandWorks (w : Staging ι) : UploadCommand → Except Failure String → Prop
  | .volCreateAs _ _ _, reply => w.volume = none → ∃ out, reply = .ok out
  | .volUpload _ _ _, reply => w.volume ≠ none → ∃ out, reply = .ok out
  | _, reply => ∃ out, reply = .ok out

def CallWorks (before : Serial ι) :
    (op : (signature.sum uploadPhases).Op) → (signature.sum uploadPhases).Reply op → Prop
  | .inl (.client _ (.volumeExists _ _)), reply => ∃ found, reply = .ok found
  | .inr (.inr cmd), reply => CommandWorks before.host cmd reply
  | _, _ => True

-- The runs of reconcileBaseImage in one controller for one host and one BaseImageSpec. With
-- `steady` no Client call fails.
def serialSystem (steady : Bool) (digest : String) (baseImage : BaseImageSpec) (host : LibvirtHost) :
    System (signature.sum uploadPhases) (Serial ι) ι (Option GoError × RunState) where
  handler i before op reply after := serialSteps digest i before op reply after ∧
    (steady = true → CallWorks before op reply)
  env _ _ := False
  start _ prog := ∃ deps rc st tmpFile, rc.libvirtHost = host ∧
    rc.libvirtCluster.baseImage = some baseImage ∧
    prog = (reconcileBaseImage deps rc st).expand (uploadCalls tmpFile)

def NothingBegun (w : Serial ι) : Prop :=
  (∀ key, w.holder key = none) ∧ (∀ i, w.active i = false) ∧ w.begun = 0

end Steps

-- The errors of the steps that are not calls of the Client.
def localSteps : List String :=
  ["resolving baseImage credentials", "fetching baseImage", "read qcow2 header", "open cached qcow2"]

def LocalError (err : GoError) : Prop :=
  err = .text "baseImage requested but no image cache is wired" ∨
    ∃ what ∈ localSteps, ∃ cause, err = .wrap what cause

section Invariant

variable {ι : Type}

def Serial.Fresh (w : Serial ι) : Prop := w.begun = 0 ∨ w.begun = 1 ∧ w.host.volume ≠ none

variable (steady : Bool) (lock : String)

structure Serial.Inv (w : Serial ι) : Prop where
  active : ∀ i, w.active i = true → w.holder lock = some i
  between : steady = true → w.holder lock = none → w.Fresh
  begun : steady = true → w.begun ≤ 1

structure Serial.Left (i : ι) (before after : Serial ι) : Prop where
  inv : after.Inv steady lock
  holder : after.holder lock = some i ↔ before.holder lock = some i
  absent : after.absent i = before.absent i
  active : after.active i = before.active i
  volume : before.holder lock = some i → after.host.volume = before.host.volume
  begun : before.holder lock = some i → after.begun = before.begun

-- Where a run is: not in its upload, with the mutex, or with it after a check that found no volume.
inductive Position where
  | outside
  | inside
  | absent

def Serial.At (i : ι) (w : Serial ι) : Position → Prop
  | .outside => True
  | .inside => w.holder lock = some i ∧ w.active i = false ∧ (steady = true → w.Fresh)
  | .absent => w.holder lock = some i ∧ w.active i = false ∧ w.absent i = true ∧
      (steady = true → w.begun = 0 ∧ w.host.volume = none)

structure Serial.Idle (i : ι) (position : Position) (w : Serial ι) : Prop where
  inv : w.Inv steady lock
  place : w.At steady lock i position

-- The call of the run is in progress; without failures `volume` holds of the volume.
structure Serial.Busy (i : ι) (volume : Option Payload → Prop) (w : Serial ι) : Prop where
  inv : w.Inv steady lock
  active : w.active i = true
  begun : steady = true → w.begun = 1
  volume : steady = true → volume w.host.volume

end Invariant

section Frame

variable {ι : Type} {steady : Bool} {lock : String} {i : ι} {w before after : Serial ι}

theorem Serial.Left.refl (h : w.Inv steady lock) : Serial.Left steady lock i w w :=
  ⟨h, Iff.rfl, rfl, rfl, fun _ => rfl, fun _ => rfl⟩

theorem Serial.Left.trans {a b c : Serial ι} (hab : Serial.Left steady lock i a b)
    (hbc : Serial.Left steady lock i b c) : Serial.Left steady lock i a c :=
  ⟨hbc.inv, hbc.holder.trans hab.holder, hbc.absent.trans hab.absent, hbc.active.trans hab.active,
    fun h => (hbc.volume (hab.holder.mpr h)).trans (hab.volume h),
    fun h => (hbc.begun (hab.holder.mpr h)).trans (hab.begun h)⟩

theorem Serial.Idle.stable {position : Position} (h : before.Idle steady lock i position)
    (hleft : Serial.Left steady lock i before after) : after.Idle steady lock i position := by
  refine ⟨hleft.inv, ?_⟩
  have hplace := h.place
  cases position with
  | outside => trivial
  | inside =>
    obtain ⟨hheld, hquiet, hfresh⟩ := hplace
    refine ⟨hleft.holder.mpr hheld, hleft.active.trans hquiet, fun hsteady => ?_⟩
    unfold Serial.Fresh
    rw [hleft.begun hheld, hleft.volume hheld]
    exact hfresh hsteady
  | absent =>
    obtain ⟨hheld, hquiet, habsent, hnone⟩ := hplace
    refine ⟨hleft.holder.mpr hheld, hleft.active.trans hquiet, hleft.absent.trans habsent, fun hsteady => ?_⟩
    rw [hleft.begun hheld, hleft.volume hheld]
    exact hnone hsteady

theorem Serial.Busy.held {volume : Option Payload → Prop} (h : w.Busy steady lock i volume) :
    w.holder lock = some i := h.inv.active i h.active

theorem Serial.Busy.stable {volume : Option Payload → Prop} (h : before.Busy steady lock i volume)
    (hleft : Serial.Left steady lock i before after) : after.Busy steady lock i volume := by
  refine ⟨hleft.inv, hleft.active.trans h.active, fun hsteady => ?_, fun hsteady => ?_⟩
  · rw [hleft.begun h.held]
    exact h.begun hsteady
  · rw [hleft.volume h.held]
    exact h.volume hsteady

theorem Serial.Idle.inside_of_absent (h : w.Idle steady lock i .absent) : w.Idle steady lock i .inside := by
  obtain ⟨hheld, hquiet, -, hnone⟩ := h.place
  exact ⟨h.inv, hheld, hquiet, fun hsteady => .inl (hnone hsteady).1⟩

theorem Serial.Inv.held (hinv : after.Inv steady lock)
    (hbefore : before.holder lock = some i) (hafter : ∀ j, j ≠ i → after.holder lock ≠ some j)
    (habsent : after.absent = before.absent) (hactive : ∀ j, j ≠ i → after.active j = before.active j) :
    after.Inv steady lock ∧ ∀ j, j ≠ i → Serial.Left steady lock j before after := by
  refine ⟨hinv, fun j hne => ?_⟩
  have hother : before.holder lock ≠ some j := by
    rw [hbefore]
    exact fun heq => hne (Option.some.inj heq).symm
  exact ⟨hinv, ⟨fun h => absurd h (hafter j hne), fun h => absurd h hother⟩, congrFun habsent j,
    hactive j hne, fun h => absurd h hother, fun h => absurd h hother⟩

theorem Serial.Busy.command {volume volume' : Option Payload → Prop} (h : w.Busy steady lock i volume)
    (host : Staging ι) (hvolume : steady = true → volume' host.volume) :
    { w with host := host }.Busy steady lock i volume' := by
  refine ⟨⟨h.inv.active, fun _ hfree => ?_, h.inv.begun⟩, h.active, h.begun, hvolume⟩
  exact absurd (h.held.symm.trans hfree) (Option.some_ne_none i)

theorem Serial.Idle.unlocked (h : w.Idle steady lock i .inside) :
    { w with holder := Function.update w.holder lock none }.Inv steady lock := by
  obtain ⟨hheld, hquiet, hfresh⟩ := h.place
  refine ⟨fun j hj => ?_, fun hsteady _ => hfresh hsteady, h.inv.begun⟩
  -- the only run that could be active is `i`, and it is not
  obtain rfl : i = j := Option.some.inj (hheld.symm.trans (h.inv.active j hj))
  exact absurd (hquiet.symm.trans hj) Bool.noConfusion

end Frame

section Step

variable {ι : Type} [DecidableEq ι] {steady : Bool} {lock digest : String} {i : ι} {w : Serial ι}

def serialGuard (steady : Bool) (lock : String) (i : ι) (w : Serial ι) :
    (signature.sum uploadPhases).Op → Prop
  | .inl (.lockUpload key) => key = lock
  | .inl (.unlockUpload key) => key = lock ∧ w.Idle steady lock i .inside
  | .inl (.recordFailure _ _) => steady = false
  | .inr (.inl .begins) => w.Idle steady lock i .absent
  | .inr (.inl .returns) => w.Busy steady lock i (· ≠ none)
  | .inr (.inr _) => w.active i = true
  | _ => True

theorem Serial.Inv.checked (h : w.Inv steady lock) (found : Bool) :
    { w with absent := Function.update w.absent i found }.Inv steady lock ∧
      ∀ j, j ≠ i → Serial.Left steady lock j w { w with absent := Function.update w.absent i found } := by
  have hinv : { w with absent := Function.update w.absent i found }.Inv steady lock :=
    ⟨h.active, h.between, h.begun⟩
  exact ⟨hinv, fun j hne => ⟨hinv, Iff.rfl, Function.update_of_ne hne _ _, rfl, fun _ => rfl, fun _ => rfl⟩⟩

theorem Serial.Inv.locked (h : w.Inv steady lock) (hfree : w.holder lock = none) :
    let after : Serial ι := { w with holder := Function.update w.holder lock (some i)
                                     absent := Function.update w.absent i false }
    after.Inv steady lock ∧ ∀ j, j ≠ i → Serial.Left steady lock j w after := by
  intro after
  have hholder : after.holder lock = some i := Function.update_self ..
  have hquiet (j : ι) : w.active j ≠ true := by
    intro hactive
    rw [h.active j hactive] at hfree
    cases hfree
  have hinv : after.Inv steady lock := by
    refine ⟨fun j hj => absurd hj (hquiet j), fun _ hnone => ?_, h.begun⟩
    rw [hholder] at hnone
    cases hnone
  refine ⟨hinv, fun j hne => ⟨hinv, ?_, Function.update_of_ne hne _ _, rfl, fun _ => rfl, fun _ => rfl⟩⟩
  rw [hholder, hfree]
  exact ⟨fun heq => absurd (Option.some.inj heq).symm hne, nofun⟩

theorem Serial.Idle.checked {position : Position} (h : w.Idle steady lock i position)
    (hposition : position ≠ .absent) (found : Bool) :
    { w with absent := Function.update w.absent i found }.Idle steady lock i position := by
  refine ⟨(h.inv.checked found).1, ?_⟩
  cases position with
  | outside => exact h.place
  | inside => exact h.place
  | absent => exact absurd rfl hposition

theorem Serial.Idle.found_absent (h : w.Idle steady lock i .inside) (hmissing : w.host.volume = none) :
    { w with absent := Function.update w.absent i true }.Idle steady lock i .absent := by
  obtain ⟨hheld, hquiet, hfresh⟩ := h.place
  refine ⟨(h.inv.checked true).1, hheld, hquiet, Function.update_self .., fun hsteady => ⟨?_, hmissing⟩⟩
  rcases hfresh hsteady with hnone | ⟨-, hpresent⟩
  · exact hnone
  · exact absurd hmissing hpresent

theorem Serial.Idle.begins (h : w.Idle steady lock i .absent) :
    (phaseStep i w .begins).Busy steady lock i (· = none) := by
  obtain ⟨hheld, -, -, hnone⟩ := h.place
  have hbegun (hsteady : steady = true) : w.begun + 1 = 1 := by rw [(hnone hsteady).1]
  refine ⟨⟨fun j hj => ?_, fun _ hfree => ?_, fun hsteady => (hbegun hsteady).le⟩,
    Function.update_self .., hbegun, fun hsteady => (hnone hsteady).2⟩
  · by_cases heq : j = i
    · rw [heq]
      exact hheld
    · exact h.inv.active j ((Function.update_of_ne heq _ _).symm.trans hj)
  · exact absurd (hheld.symm.trans hfree) (Option.some_ne_none i)

theorem Serial.Busy.returns (h : w.Busy steady lock i (· ≠ none)) :
    (phaseStep i w .returns).Idle steady lock i .inside := by
  have hfresh (hsteady : steady = true) : w.Fresh := .inr ⟨h.begun hsteady, h.volume hsteady⟩
  refine ⟨⟨fun j hj => ?_, fun hsteady _ => hfresh hsteady, h.inv.begun⟩, h.held,
    Function.update_self .., hfresh⟩
  by_cases heq : j = i
  · rw [heq]
    exact h.held
  · exact h.inv.active j ((Function.update_of_ne heq _ _).symm.trans hj)

-- Each step of a run keeps the invariant and what the other runs rely on.
theorem serialSteps_kept {before after : Serial ι} {op : (signature.sum uploadPhases).Op}
    {reply : (signature.sum uploadPhases).Reply op} (hinv : before.Inv steady lock)
    (hguard : serialGuard steady lock i before op) (hstep : serialSteps digest i before op reply after) :
    after.Inv steady lock ∧ ∀ j, j ≠ i → Serial.Left steady lock j before after := by
  have hsame : before.Inv steady lock ∧ ∀ j, j ≠ i → Serial.Left steady lock j before before :=
    ⟨hinv, fun _ _ => .refl hinv⟩
  have hothers (hheld : before.holder lock = some i) (j : ι) (hne : j ≠ i) : before.holder lock ≠ some j := by
    rw [hheld]
    exact fun heq => hne (Option.some.inj heq).symm
  cases op with
  | inl op =>
    cases op with
    | lockUpload key =>
      obtain rfl : key = lock := hguard
      obtain ⟨hfree, rfl⟩ := hstep
      exact hinv.locked hfree
    | unlockUpload key =>
      obtain ⟨rfl, hidle⟩ := hguard
      cases hstep
      refine hidle.unlocked.held hidle.place.1 (fun j _ => ?_) rfl fun _ _ => rfl
      exact fun heq => nomatch (Function.update_self key none before.holder).symm.trans heq
    | imageGet source creds expected =>
      obtain ⟨rfl, -⟩ := hstep
      exact hsame
    | client host call =>
      cases call with
      | volumeExists pool name =>
        obtain ⟨-, rfl⟩ := hstep
        exact hinv.checked _
      | _ =>
        cases hstep
        exact hsame
    | _ =>
      cases hstep
      exact hsame
  | inr op =>
    cases op with
    | inl phase =>
      cases hstep
      cases phase with
      | begins =>
        have hidle : before.Idle steady lock i .absent := hguard
        exact hidle.begins.inv.held hidle.place.1 (hothers hidle.place.1) rfl
          fun j hne => Function.update_of_ne hne _ _
      | returns =>
        have hbusy : before.Busy steady lock i (· ≠ none) := hguard
        exact hbusy.returns.inv.held hbusy.held (hothers hbusy.held) rfl
          fun j hne => Function.update_of_ne hne _ _
    | inr cmd =>
      obtain ⟨host, -, rfl⟩ := hstep
      have hheld := hinv.active i hguard
      refine Serial.Inv.held ⟨hinv.active, fun _ hfree => ?_, hinv.begun⟩ hheld (hothers hheld) rfl
        fun _ _ => rfl
      exact absurd (hheld.symm.trans hfree) (Option.some_ne_none i)

end Step

section Thread

variable {ι : Type} [DecidableEq ι] {steady : Bool} {digest : String} {baseImage : BaseImageSpec}
  {host : LibvirtHost} {lock : String} {i : ι}

def serialRelies (steady : Bool) (lock : String) (i : ι) (before after : Serial ι) : Prop :=
  before.Inv steady lock → Serial.Left steady lock i before after

abbrev serialSeen (steady : Bool) (digest : String) (baseImage : BaseImageSpec) (host : LibvirtHost)
    (lock : String) (i : ι) : Handler (signature.sum uploadPhases) (Serial ι) :=
  interfered (serialRelies steady lock i) ((serialSystem steady digest baseImage host).handler i)

theorem Serial.Busy.seen {volume : Option Payload → Prop} {w after : Serial ι} {cmd : UploadCommand}
    {reply : Except Failure String} (h : w.Busy steady lock i volume)
    (hstep : serialSeen steady digest baseImage host lock i w (.inr (.inr cmd)) reply after) :
    ∃ made, UploadStep i w.host cmd reply made ∧ (steady = true → CommandWorks w.host cmd reply) ∧
      ∀ volume' : Option Payload → Prop, (steady = true → volume' made.volume) →
        after.Busy steady lock i volume' := by
  obtain ⟨middle, ⟨⟨made, hcmd, rfl⟩, hworks⟩, hrely⟩ := hstep
  refine ⟨made, hcmd, hworks, fun volume' hvolume => ?_⟩
  have hbusy := h.command made hvolume
  exact hbusy.stable (hrely hbusy.inv)

abbrev commandSeen (steady : Bool) (digest : String) (baseImage : BaseImageSpec) (host : LibvirtHost)
    (lock : String) (i : ι) : Handler uploads (Serial ι) :=
  fun before cmd reply after => serialSeen steady digest baseImage host lock i before (.inr (.inr cmd)) reply after

theorem Serial.Busy.holds {α : Type} {volume volume' : Option Payload → Prop} {w : Serial ι}
    (h : w.Busy steady lock i volume) (hsteady : steady ≠ true) (prog : Prog uploads α) :
    Holds (commandSeen steady digest baseImage host lock i) (fun w _ => w.active i = true)
      (fun _ after => after.Busy steady lock i volume') prog w := by
  induction prog generalizing w volume with
  | done value => exact ⟨h.inv, h.active, h.begun, fun hs => absurd hs hsteady⟩
  | ask cmd next ih =>
    refine ⟨h.active, fun reply after hstep => ?_⟩
    obtain ⟨made, hcmd, hworks, hbusy⟩ := h.seen hstep
    exact ih reply (hbusy (fun _ => True) fun _ => trivial)

-- The volume is missing when the upload begins, so that without failures vol-create-as works.
theorem uploadQcow2Volume_works (tmpFile pool name : String) (content : Bytes) (virtualSizeBytes : Int)
    {w : Serial ι} (h : w.Busy true lock i (· = none)) :
    Holds (commandSeen true digest baseImage host lock i) (fun w _ => w.active i = true)
      (fun result after => after.Busy true lock i (· ≠ none) ∧ result = .ok ())
      (VirshClient.uploadQcow2Volume tmpFile pool name content virtualSizeBytes) w := by
  refine ⟨h.active, fun reply streamed hstep => ?_⟩
  obtain ⟨made, hcmd, hworks, hbusy⟩ := h.seen hstep
  obtain ⟨out, rfl⟩ := hworks rfl
  have hstreamed : streamed.Busy true lock i (· = none) := by
    refine hbusy _ fun _ => ?_
    cases hcmd
    exact h.volume rfl
  refine ⟨hstreamed.active, fun reply created hstep => ?_⟩
  obtain ⟨made, hcmd, hworks, hbusy⟩ := hstreamed.seen hstep
  obtain ⟨out, rfl⟩ := hworks rfl (hstreamed.volume rfl)
  have hcreated : created.Busy true lock i (· ≠ none) := by
    refine hbusy _ fun _ => ?_
    cases hcmd
    exact Option.some_ne_none _
  refine ⟨hcreated.active, fun reply filled hstep => ?_⟩
  obtain ⟨made, hcmd, hworks, hbusy⟩ := hcreated.seen hstep
  obtain ⟨out, rfl⟩ := hworks rfl (hcreated.volume rfl)
  have hfilled : filled.Busy true lock i (· ≠ none) := by
    refine hbusy _ fun _ => ?_
    cases hcmd
    exact Option.some_ne_none _
  refine ⟨hfilled.active, fun reply cleaned hstep => ?_⟩
  obtain ⟨made, hcmd, hworks, hbusy⟩ := hfilled.seen hstep
  refine ⟨hbusy _ fun _ => ?_, rfl⟩
  cases hcmd
  exact hfilled.volume rfl

theorem uploadCall_serial (tmpFile pool name : String) (content : Bytes) (virtualSizeBytes : Int)
    {w : Serial ι} (h : w.Idle steady lock i .absent) :
    Holds (serialSeen steady digest baseImage host lock i) (serialGuard steady lock i)
      (fun result after => after.Idle steady lock i .inside ∧ (steady = true → result = .ok ()))
      (uploadCall tmpFile pool name content virtualSizeBytes).inr w := by
  refine Holds.sumRight ⟨h, fun _ begun hstep => ?_⟩
  obtain ⟨middle, ⟨rfl, -⟩, hrely⟩ := hstep
  have hbegun := h.begins.stable (hrely h.begins.inv)
  have hupload : Holds (commandSeen steady digest baseImage host lock i) (fun w _ => w.active i = true)
      (fun result after => after.Busy steady lock i (· ≠ none) ∧ (steady = true → result = .ok ()))
      (VirshClient.uploadQcow2Volume tmpFile pool name content virtualSizeBytes) begun := by
    cases steady with
    | false =>
      exact (hbegun.holds Bool.noConfusion _).post_mono fun _ _ h => ⟨h, nofun⟩
    | true =>
      exact (uploadQcow2Volume_works tmpFile pool name content virtualSizeBytes hbegun).post_mono
        fun _ _ h => ⟨h.1, fun _ => h.2⟩
  change Holds _ _ _ ((VirshClient.uploadQcow2Volume tmpFile pool name content virtualSizeBytes).inr >>= _) begun
  refine Holds.bind (Holds.sumRight hupload) fun result sent hsent => ⟨hsent.1, fun _ after hstep => ?_⟩
  obtain ⟨middle, ⟨rfl, -⟩, hrely⟩ := hstep
  exact ⟨hsent.1.returns.stable (hrely hsent.1.returns.inv), hsent.2⟩

end Thread

section Summary

variable {ι : Type} {steady : Bool} {digest : String} {baseImage : BaseImageSpec} {lock : String}
  {i : ι} {position : Position}

-- What an operation of the controller does to the run's place, the other runs included.
def serialSummary (steady : Bool) (lock digest : String) (i : ι) (before : Serial ι) :
    (op : Op) → Reply op → Serial ι → Prop
  | .client _ (.volumeExists _ _), reply, after =>
    (steady = true → ∃ found, reply = .ok found) ∧
    (before.Idle steady lock i .outside → after.Idle steady lock i .outside) ∧
    (before.Idle steady lock i .inside → after.Idle steady lock i .inside ∧
      (reply = .ok false → after.Idle steady lock i .absent))
  | .client _ (.uploadQcow2Volume _ _ _ _), reply, after =>
    after.Idle steady lock i .inside ∧ (steady = true → reply = .ok ())
  | .lockUpload _, _, after => after.Idle steady lock i .inside
  | .unlockUpload _, _, after => after.Idle steady lock i .outside
  | .imageGet _ _ _, reply, after =>
    (∀ position, before.Idle steady lock i position → after.Idle steady lock i position) ∧
    ∀ entry, reply = .ok entry → entry.sha256 = digest
  | _, _, after => ∀ position, before.Idle steady lock i position → after.Idle steady lock i position

def serialSummaryGuard (steady : Bool) (lock : String) (i : ι) (w : Serial ι) : Op → Prop
  | .client _ (.uploadQcow2Volume _ _ _ _) => w.Idle steady lock i .absent
  | .lockUpload key => key = lock ∧ w.Idle steady lock i .outside
  | .unlockUpload key => key = lock ∧ w.Idle steady lock i .inside
  | .recordFailure _ _ => steady = false
  | _ => True

theorem serialGuard_of_summary {tmpFile : String} {w : Serial ι} {op : Op} (hop : uploadCalls tmpFile op = none)
    (hguard : serialSummaryGuard steady lock i w op) : serialGuard steady lock i w (.inl op) := by
  cases op with
  | lockUpload key => exact hguard.1
  | unlockUpload key => exact hguard
  | recordFailure reason message => exact hguard
  | _ => trivial

-- The run is at its place again; without failures only a local step can have made an error.
def SerialEnded (steady : Bool) (lock : String) (i : ι) (position : Position) (err : Option GoError)
    (w : Serial ι) : Prop :=
  w.Idle steady lock i position ∧ (steady = true → ∀ cause, err = some cause → LocalError cause)

abbrev SerialTriple {α : Type} (steady : Bool) (lock digest : String) (i : ι) (pre : Serial ι → Prop)
    (body : StepBody α) (post : α → Serial ι → Prop) (position : Position) : Prop :=
  Body.Triple (serialSummary steady lock digest i) (serialSummaryGuard steady lock i) (fun _ => pre) body
    (fun value _ => post value) (fun err _ w => SerialEnded steady lock i position err w)

theorem serial_handling (position : Position) :
    Handling (serialSummary steady lock digest i) (serialSummaryGuard steady lock i)
      (fun _ w => steady = false ∧ w.Idle steady lock i position)
      (fun err _ w => SerialEnded steady lock i position err w) where
  guard _ _ _ _ hw := hw.1
  recorded _ _ _ _ _ hw hs := ⟨hs _ hw.2, fun _ _ h => nomatch h⟩
  failed _ _ _ hw := ⟨hw.2, fun hsteady => absurd (hw.1.symm.trans hsteady) Bool.noConfusion⟩

theorem orReturn_serial {α : Type} {pre : Serial ι → Prop} {what : String}
    (hwhat : what ∈ localSteps) (hpre : ∀ w, pre w → w.Idle steady lock i position) (result : Except GoError α) :
    SerialTriple steady lock digest i pre (orReturn what result) (fun value w => pre w ∧ result = .ok value)
      position := by
  cases result with
  | ok value => exact Body.Triple.pure fun _ _ hw => ⟨hw, rfl⟩
  | error err =>
    refine Body.Triple.leave fun _ w hw => ⟨hpre w hw, fun _ cause hcause => ?_⟩
    exact .inr ⟨what, hwhat, err, (Option.some.inj hcause).symm⟩

def Unshared : Op → Prop
  | .getSecret _ | .lookupDockerConfigAuth _ _ | .qcow2VirtualSize _ | .openFile _ => True
  | _ => False

theorem serialSummary_unshared {op : Op} (hop : Unshared op) {before after : Serial ι} {reply : Reply op}
    (hstep : serialSummary steady lock digest i before op reply after)
    (h : before.Idle steady lock i position) : after.Idle steady lock i position := by
  cases op <;> first
    | exact hop.elim
    | exact hstep _ h

theorem serialGuard_unshared {op : Op} (hop : Unshared op) (w : Serial ι) :
    serialSummaryGuard steady lock i w op := by
  cases op <;> first
    | exact hop.elim
    | trivial

theorem issue_serial (op : Op) (hop : Unshared op) {pre : Serial ι → Prop} (position outer : Position)
    (hpre : ∀ w, pre w → w.Idle steady lock i position) :
    SerialTriple steady lock digest i pre (issue op) (fun _ w => w.Idle steady lock i position) outer :=
  Body.Triple.perform (fun _ w _ => serialGuard_unshared hop w) fun _ before _ _ hw hs =>
    serialSummary_unshared hop hs (hpre before hw)

theorem leaveIf_serial (found : Bool) {pre post : Serial ι → Prop}
    (hleave : ∀ w, pre w → w.Idle steady lock i position) (hgo : found = false → ∀ w, pre w → post w) :
    SerialTriple steady lock digest i pre (Body.leaveIf found none) (fun _ => post) position := by
  refine Body.Triple.ite (fun _ => Body.Triple.leave fun _ w hw => ⟨hleave w hw, fun _ _ h => nomatch h⟩) fun h => ?_
  exact Body.Triple.pure fun _ w hw => hgo (Bool.eq_false_iff.mpr h) w hw

theorem uploadBaseImage_serial (rc : ReconcileCtx) (entry : CacheEntry) (st : RunState) {w : Serial ι}
    (hw : w.Idle steady lock i .inside) :
    Holds (serialSummary steady lock digest i) (serialSummaryGuard steady lock i)
      (fun out after => SerialEnded steady lock i .inside out.1 after) (uploadBaseImage rc baseImage entry st) w := by
  have hinside (w : Serial ι) : w.Idle steady lock i .absent → w.Idle steady lock i .inside :=
    Serial.Idle.inside_of_absent
  refine @stepFn_triple _ _ _ (fun _ w => w.Idle steady lock i .inside)
    (fun err _ w => SerialEnded steady lock i .inside err w) _ ?_ _ _ hw
  have hcheck : SerialTriple steady lock digest i (·.Idle steady lock i .inside)
      (callOrHandle rc (.volumeExists baseImage.pool baseImage.volumeName) "rechecking base image volume")
      (fun found w => w.Idle steady lock i .inside ∧ (found = false → w.Idle steady lock i .absent)) .inside := by
    refine (serial_handling .inside).callOrHandle rc _ _ (fun _ _ _ => trivial) ?_ ?_
    · rintro _ before found after hpre ⟨-, -, hchecked⟩
      exact ⟨(hchecked hpre).1, fun hfound => (hchecked hpre).2 (congrArg _ hfound)⟩
    · rintro _ before err after hpre ⟨hworks, -, hchecked⟩
      refine ⟨Bool.eq_false_iff.mpr fun hsteady => ?_, (hchecked hpre).1⟩
      obtain ⟨found, hfound⟩ := hworks hsteady
      cases hfound
  refine hcheck.bind fun found => ?_
  refine (leaveIf_serial found (fun _ h => h.1) fun hfound _ h => h.2 hfound).bind fun _ => ?_
  refine (issue_serial (.qcow2VirtualSize entry.path) trivial .absent .inside fun _ h => h).bind fun header => ?_
  refine (orReturn_serial (by decide) hinside header).bind fun virtualSize => ?_
  refine (issue_serial (.openFile entry.path) trivial .absent .inside fun _ h => h.1).bind fun file => ?_
  refine (orReturn_serial (by decide) hinside file).bind fun content => ?_
  have hupload : SerialTriple steady lock digest i (·.Idle steady lock i .absent)
      (callOrHandle rc (.uploadQcow2Volume baseImage.pool baseImage.volumeName content virtualSize)
        "uploading base image") (fun _ w => w.Idle steady lock i .inside) .inside := by
    refine (serial_handling .inside).callOrHandle rc _ _ (fun _ _ h => h) (fun _ _ _ _ _ hs => hs.1) ?_
    rintro _ before err after hpre ⟨hinside, hworks⟩
    refine ⟨Bool.eq_false_iff.mpr fun hsteady => ?_, hinside⟩
    cases hworks hsteady
  intro st w h
  refine (hupload.bind fun _ => ?_) st w h.1
  exact Body.Triple.modify fun _ _ hw => ⟨hw, fun _ _ h => nomatch h⟩

theorem stageBaseImage_serial (rc : ReconcileCtx) (hlock : lock = rc.libvirtHost.name ++ "|" ++ digest) :
    SerialTriple steady lock digest i (·.Idle steady lock i .outside) (stageBaseImage rc baseImage)
      (fun _ w => w.Idle steady lock i .outside) .outside := by
  have hcheck : SerialTriple steady lock digest i (·.Idle steady lock i .outside)
      (callOrHandle rc (.volumeExists baseImage.pool baseImage.volumeName) "checking base image volume")
      (fun _ w => w.Idle steady lock i .outside) .outside := by
    refine (serial_handling .outside).callOrHandle rc _ _ (fun _ _ _ => trivial)
      (fun _ _ _ _ hpre hs => hs.2.1 hpre) ?_
    rintro _ before err after hpre ⟨hworks, houtside, -⟩
    refine ⟨Bool.eq_false_iff.mpr fun hsteady => ?_, houtside hpre⟩
    obtain ⟨found, hfound⟩ := hworks hsteady
    cases hfound
  refine hcheck.bind fun found => ?_
  refine (leaveIf_serial found (fun _ h => h) fun _ _ h => h).bind fun _ => ?_
  refine Body.Triple.modify_bind (fun _ w => w.Idle steady lock i .outside) (fun _ _ h => h) ?_
  have hcreds : SerialTriple steady lock digest i (·.Idle steady lock i .outside)
      (Body.lift (resolveBaseImageCredentials rc.libvirtCluster baseImage.source))
      (fun _ w => w.Idle steady lock i .outside) .outside := by
    intro st w hw
    have hshared (op : Op) (hop : SecretOp op) : Unshared op := by
      cases op <;> first
        | exact hop.elim
        | trivial
    exact ((resolveBaseImageCredentials_reads _ _).holds hw
      (fun before op _ hop => serialGuard_unshared (hshared op hop) before)
      fun _ op _ _ hb hop hs => ⟨trivial, serialSummary_unshared (hshared op hop) hs hb⟩).bind fun _ _ h => h.2
  refine hcreds.bind fun creds => (orReturn_serial (by decide) (fun _ h => h) creds).bind fun creds => ?_
  have hget : SerialTriple steady lock digest i (·.Idle steady lock i .outside)
      (issue (.imageGet baseImage.source creds (baseImageExpectedSHA256 baseImage.source)))
      (fun got w => w.Idle steady lock i .outside ∧ ∀ entry, got = .ok entry → entry.sha256 = digest) .outside :=
    Body.Triple.perform (fun _ _ _ => trivial) fun _ _ _ _ hw hs => ⟨hs.1 _ hw, hs.2⟩
  intro st w hresolved
  refine (hget.bind fun got => (orReturn_serial (by decide) (fun _ h => h.1) got).bind fun entry => ?_)
    st w hresolved.1
  intro st w hfetched
  obtain ⟨⟨hidle, hdigest⟩, hentry⟩ := hfetched
  have hkey : rc.libvirtHost.name ++ "|" ++ entry.sha256 = lock := by rw [hlock, hdigest entry hentry]
  rw [hkey]
  have hlocked : SerialTriple steady lock digest i (·.Idle steady lock i .outside) (issue (.lockUpload lock))
      (fun _ w => w.Idle steady lock i .inside) .outside :=
    Body.Triple.perform (fun _ _ hw => ⟨rfl, hw⟩) fun _ _ _ _ _ hs => hs
  have hupload : Body.Triple (serialSummary steady lock digest i) (serialSummaryGuard steady lock i)
      (fun _ w => w.Idle steady lock i .inside) (Body.call (uploadBaseImage rc baseImage entry))
      (fun err _ w => SerialEnded steady lock i .inside err w)
      (fun err _ w => SerialEnded steady lock i .outside err w) :=
    Body.Triple.call fun st _ hw => uploadBaseImage_serial rc entry st hw
  refine (hlocked.bind fun _ => Body.Triple.bind hupload fun err => ?_) st w hidle
  refine Body.Triple.perform_bind (fun _ _ hw => ⟨rfl, hw.1⟩) fun _ => Body.Triple.leave ?_
  rintro st after ⟨before, hended, hs⟩
  exact ⟨hs, hended.2⟩

theorem reconcileBaseImage_serial (deps : Deps) {rc : ReconcileCtx}
    (hbase : rc.libvirtCluster.baseImage = some baseImage) (hlock : lock = rc.libvirtHost.name ++ "|" ++ digest)
    (st : RunState) {w : Serial ι} (hw : w.Idle steady lock i .outside) :
    Holds (serialSummary steady lock digest i) (serialSummaryGuard steady lock i)
      (fun out after => SerialEnded steady lock i .outside out.1 after) (reconcileBaseImage deps rc st) w := by
  rw [reconcileBaseImage, hbase]
  cases hcache : deps.baseImageCache with
  | true =>
    refine @stepFn_triple _ _ _ (fun _ (w : Serial ι) => w.Idle steady lock i .outside)
      (fun err _ w => SerialEnded steady lock i .outside err w) _ ?_ _ _ hw
    exact (stageBaseImage_serial rc hlock).mono (fun _ _ _ h => ⟨h, fun _ _ h => by cases h⟩) fun _ _ _ h => h
  | false => exact ⟨hw, fun _ cause hcause => .inl (Option.some.inj hcause).symm⟩

end Summary

section Bridge

variable {ι : Type} [DecidableEq ι] {steady : Bool} {digest : String} {baseImage : BaseImageSpec}
  {host : LibvirtHost} {lock : String} {i : ι}

theorem serial_controller_summary {tmpFile : String} {before after : Serial ι} {op : Op} {reply : Reply op}
    (hop : uploadCalls tmpFile op = none) (hguard : serialSummaryGuard steady lock i before op)
    (hstep : serialSeen steady digest baseImage host lock i before (.inl op) reply after) :
    serialSummary steady lock digest i before op reply after := by
  obtain ⟨middle, ⟨hown, hworks⟩, hrely⟩ := hstep
  have hsame (heq : middle = before) (position : Position) (h : before.Idle steady lock i position) :
      after.Idle steady lock i position := by
    subst heq
    exact h.stable (hrely h.inv)
  cases op with
  | lockUpload key =>
    obtain ⟨rfl, hidle⟩ := hguard
    obtain ⟨hfree, rfl⟩ := hown
    have hinv := (hidle.inv.locked hfree (i := i)).1
    have hquiet : before.active i = false := by
      refine Bool.eq_false_iff.mpr fun hactive => ?_
      rw [hidle.inv.active i hactive] at hfree
      cases hfree
    refine Serial.Idle.stable ⟨hinv, Function.update_self .., hquiet, fun hsteady => ?_⟩ (hrely hinv)
    exact hidle.inv.between hsteady hfree
  | unlockUpload key =>
    obtain ⟨rfl, hidle⟩ := hguard
    cases hown
    exact ⟨(hrely hidle.unlocked).inv, trivial⟩
  | imageGet source creds expected => exact ⟨hsame hown.1, hown.2⟩
  | client host call =>
    cases call with
    | volumeExists pool name =>
      obtain ⟨htells, rfl⟩ := hown
      refine ⟨hworks, fun hidle => ?_, fun hidle => ⟨?_, fun habsent => ?_⟩⟩
      · exact (hidle.checked nofun _).stable (hrely (hidle.checked nofun _).inv)
      · exact (hidle.checked nofun _).stable (hrely (hidle.checked nofun _).inv)
      · subst habsent
        have hfound := hidle.found_absent (by simpa using htells false rfl)
        exact hfound.stable (hrely hfound.inv)
    | uploadQcow2Volume pool name content virtualSizeBytes => cases hop
    | _ => exact hsame hown
  | _ => exact hsame hown

theorem serial_upload_summary {tmpFile : String} {before : Serial ι} {op : Op}
    {prog : Prog uploadPhases (Reply op)} (hop : uploadCalls tmpFile op = some prog)
    (hguard : serialSummaryGuard steady lock i before op) :
    Holds (serialSeen steady digest baseImage host lock i) (serialGuard steady lock i)
      (serialSummary steady lock digest i before op) (prog.inr : Prog (signature.sum uploadPhases) _) before := by
  cases op with
  | client key call =>
    cases call with
    | uploadQcow2Volume pool name content virtualSizeBytes =>
      cases hop
      exact uploadCall_serial tmpFile pool name content virtualSizeBytes hguard
    | _ => cases hop
  | _ => cases hop

end Bridge

section Theorem

variable {ι : Type} [DecidableEq ι] {steady : Bool} {digest : String} {baseImage : BaseImageSpec}
  {host : LibvirtHost}

def uploadKey (host : LibvirtHost) (digest : String) : String := host.name ++ "|" ++ digest

theorem serialSystem_ends {i : ι} {prog : Prog (signature.sum uploadPhases) (Option GoError × RunState)}
    (hstart : (serialSystem steady digest baseImage host).start i prog) {w : Serial ι}
    (hw : w.Inv steady (uploadKey host digest)) :
    EndsUnder (serialRelies steady (uploadKey host digest) i)
      ((serialSystem steady digest baseImage host).handler i)
      (serialGuard steady (uploadKey host digest) i)
      (fun out _ => steady = true → ∀ cause, out.1 = some cause → LocalError cause) prog w := by
  obtain ⟨deps, rc, st, tmpFile, hhost, hbase, rfl⟩ := hstart
  have hlock : uploadKey host digest = rc.libvirtHost.name ++ "|" ++ digest := by rw [uploadKey, hhost]
  intro other hrely
  have hother : other.Idle steady (uploadKey host digest) i .outside := ⟨(hrely hw).inv, trivial⟩
  refine ((reconcileBaseImage_serial deps hbase hlock st hother).post_mono fun _ _ h => h.2).expand ?_ ?_
  · exact fun before op hop hguard => ⟨serialGuard_of_summary hop hguard,
      fun reply after hs => serial_controller_summary hop hguard hs⟩
  · exact fun before op prog hop hguard => serial_upload_summary hop hguard

theorem serial_reachable {c : Config (signature.sum uploadPhases) (Serial ι) ι (Option GoError × RunState)}
    (hc : (serialSystem steady digest baseImage host).Reachable NothingBegun c) :
    c.state.Inv steady (uploadKey host digest) ∧ ∀ i prog, c.threads i = some prog →
      EndsUnder (serialRelies steady (uploadKey host digest) i)
        ((serialSystem steady digest baseImage host).handler i)
        (serialGuard steady (uploadKey host digest) i)
        (fun out _ => steady = true → ∀ cause, out.1 = some cause → LocalError cause) prog c.state := by
  refine (serialSystem steady digest baseImage host).reachable_ends _ _ _ _ ?_ ?_ ?_ ?_ ?_ ?_ hc
  · exact fun _ _ hinv => .refl hinv
  · exact fun _ _ _ _ hab hbc hinv => (hab hinv).trans (hbc (hab hinv).inv)
  · intro w hw
    obtain ⟨-, hquiet, hbegun⟩ := hw
    refine ⟨fun i hi => ?_, fun _ _ => .inl hbegun, fun _ => hbegun.le.trans (Nat.zero_le 1)⟩
    exact absurd ((hquiet i).symm.trans hi) Bool.noConfusion
  · exact fun _ _ _ henv => henv.elim
  · exact fun _ _ _ hinv hstart => serialSystem_ends hstart hinv
  · intro i before op reply after hinv hguard hstep
    have hkept := serialSteps_kept hinv hguard hstep.1
    exact ⟨hkept.1, fun j hne _ => hkept.2 j hne⟩

-- At most one upload is in progress, each begins under the mutex after a check under it found
-- no volume, and if no call of the Client fails there is at most one in all, no terminal
-- failure is recorded and only a step that calls no Client makes a run return an error.
theorem base_image_uploads_serialised
    {c : Config (signature.sum uploadPhases) (Serial ι) ι (Option GoError × RunState)}
    (hc : (serialSystem steady digest baseImage host).Reachable NothingBegun c) :
    (∀ i j, c.state.active i = true → c.state.active j = true → i = j) ∧
    (∀ i next, c.threads i = some (.ask (.inr (.inl .begins)) next) →
      c.state.holder (uploadKey host digest) = some i ∧ c.state.absent i = true) ∧
    (steady = true → c.state.begun ≤ 1 ∧
      (∀ i reason message next, c.threads i ≠ some (.ask (.inl (.recordFailure reason message)) next)) ∧
      ∀ i err st, c.threads i = some (.done (some err, st)) → LocalError err) := by
  obtain ⟨hinv, hthreads⟩ := serial_reachable hc
  have hrefl (i : ι) : serialRelies steady (uploadKey host digest) i c.state c.state := fun h => .refl h
  refine ⟨fun i j hi hj => ?_, fun i next hthread => ?_, fun hsteady => ⟨hinv.begun hsteady, ?_, ?_⟩⟩
  · exact Option.some.inj ((hinv.active i hi).symm.trans (hinv.active j hj))
  · have hidle : c.state.Idle steady (uploadKey host digest) i .absent := (hthreads i _ hthread _ (hrefl i)).1
    exact ⟨hidle.place.1, hidle.place.2.2.1⟩
  · intro i reason message next hthread
    have hfalse : steady = false := (hthreads i _ hthread _ (hrefl i)).1
    exact absurd (hsteady.symm.trans hfalse) Bool.noConfusion
  · intro i err st hthread
    exact hthreads i _ hthread _ (hrefl i) hsteady err rfl

end Theorem

section Samples

def serialMachine (badHeader : Bool) (i : Bool) : Program.Machine (signature.sum uploadPhases) (Serial Bool) :=
  fun w op => match op with
    | .inl (.client _ (.volumeExists _ _)) =>
      (.ok w.host.volume.isSome,
        { w with absent := Function.update w.absent i (answersAbsent (.ok w.host.volume.isSome)) })
    | .inl (.imageGet _ _ _) => (.ok ⟨"/cache/d", "d"⟩, w)
    | .inl (.lockUpload key) =>
      ((), { w with holder := Function.update w.holder key (some i)
                    absent := Function.update w.absent i false })
    | .inl (.unlockUpload key) => ((), { w with holder := Function.update w.holder key none })
    | .inl (.qcow2VirtualSize _) => (if badHeader then .error (.text "not a qcow2 file") else .ok 1, w)
    | .inl op => (freshAnswer op, w)
    | .inr (.inl phase) => ((), phaseStep i w phase)
    | .inr (.inr cmd) =>
      ((stagingMachine [1] i w.host (.inr cmd)).1, { w with host := (stagingMachine [1] i w.host (.inr cmd)).2 })

def serialEnabled (i : Bool) (w : Serial Bool) : (signature.sum uploadPhases).Op → Bool
  | .inl (.lockUpload key) => (w.holder key).isNone
  | .inr (.inr cmd) => stagingEnabled i w.host (.inr cmd)
  | _ => true

abbrev sampleSerial :
    System (signature.sum uploadPhases) (Serial Bool) Bool (Option GoError × RunState) :=
  serialSystem true "d" sampleBaseImage sampleHost

theorem serialMachine_step (badHeader i : Bool) (w : Serial Bool) (op : (signature.sum uploadPhases).Op)
    (h : serialEnabled i w op = true) :
    sampleSerial.handler i w op (serialMachine badHeader i w op).1 (serialMachine badHeader i w op).2 := by
  cases op with
  | inl op =>
    cases op with
    | client host call =>
      cases call with
      | volumeExists pool name =>
        exact ⟨⟨fun found hfound => (Except.ok.inj hfound).symm, rfl⟩, fun _ => ⟨_, rfl⟩⟩
      | _ => exact ⟨rfl, fun _ => trivial⟩
    | imageGet source creds expected =>
      exact ⟨⟨rfl, fun entry hentry => (Except.ok.inj hentry) ▸ rfl⟩, fun _ => trivial⟩
    | lockUpload key => exact ⟨⟨Option.isNone_iff_eq_none.mp h, rfl⟩, fun _ => trivial⟩
    | _ => exact ⟨rfl, fun _ => trivial⟩
  | inr op =>
    cases op with
    | inl phase => exact ⟨rfl, fun _ => trivial⟩
    | inr cmd =>
      refine ⟨⟨_, stagingMachine_command h, rfl⟩, fun _ => ?_⟩
      cases cmd with
      | volCreateAs pool name sizeBytes => exact fun _ => ⟨_, rfl⟩
      | volUpload name path pool => exact fun _ => ⟨_, rfl⟩
      | _ => exact ⟨_, rfl⟩

def serialRun : Prog (signature.sum uploadPhases) (Option GoError × RunState) :=
  (reconcileBaseImage sampleDeps stagingCtx (stagingCtx.initialState sampleMachine.status)).expand
    (uploadCalls "/tmp/caplv-upload-1")

theorem serialRun_starts (i : Bool) : sampleSerial.start i serialRun :=
  ⟨sampleDeps, stagingCtx, _, _, rfl, rfl, rfl⟩

def bareSerial : Serial Bool := ⟨bareStaging, fun _ => none, fun _ => false, fun _ => false, 0⟩

theorem bareSerial_reachable : sampleSerial.Reachable NothingBegun (System.idle bareSerial) :=
  System.reachable_idle ⟨fun _ => rfl, fun _ => rfl, rfl⟩

-- Both runs find no volume at first; the second then waits for the mutex and finds it.
theorem base_image_uploads_serialised_two :
    ∃ c st st', sampleSerial.Reachable NothingBegun c ∧ c.threads false = some (.done (none, st)) ∧
      c.threads true = some (.done (none, st')) ∧ c.state.begun = 1 ∧
      ∀ i j, c.state.active i = true → c.state.active j = true → i = j := by
  have hfirst := bareSerial_reachable.startRun (i := false) rfl (serialRun_starts false)
    (serialMachine false false) (serialEnabled false) 2 rfl (serialMachine_step false false)
  have hsecond := hfirst.startRun (i := true) rfl (serialRun_starts true)
    (serialMachine false true) (serialEnabled true) 2 rfl (serialMachine_step false true)
  have hthird := hsecond.runFor (i := false) rfl (serialMachine false false) (serialEnabled false) 12 rfl
    (serialMachine_step false false)
  have hlast := hthird.runFor (i := true) rfl (serialMachine false true) (serialEnabled true) 4 rfl
    (serialMachine_step false true)
  exact ⟨_, _, _, hlast, rfl, rfl, rfl, (base_image_uploads_serialised hlast).1⟩

-- No call of the Client fails, but the cached file is no qcow2 file: the run returns an error.
theorem bad_header_returns_error :
    ∃ c err st, sampleSerial.Reachable NothingBegun c ∧ c.threads false = some (.done (some err, st)) := by
  have hrun := bareSerial_reachable.startRun (i := false) rfl (serialRun_starts false)
    (serialMachine true false) (serialEnabled false) 6 rfl (serialMachine_step true false)
  exact ⟨_, _, _, hrun, rfl⟩

end Samples

end Caplv.Controller

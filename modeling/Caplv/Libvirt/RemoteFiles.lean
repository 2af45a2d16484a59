import Caplv.Libvirt.Virsh
import Caplv.Libvirt.Remote
import Caplv.Program.Expand

namespace Caplv.Libvirt

open Text Program

-- The commands WriteRemoteFile runs. A tee that runs for a while is two of them: it opens
-- and truncates the file, and later it has written all of the data and ends.
inductive FileCommand where
  | installDir (dir : String)
  | openTee (path : String) (data : Bytes)
  | endTee (path : String) (data : Bytes)
deriving DecidableEq, Repr

abbrev fileCommands : Signature := ⟨FileCommand, fun _ => Except Failure String⟩

namespace VirshClient

-- path[:strings.LastIndex(path, "/")]
def parentDir (path : String) : String :=
  String.ofList ((path.toList.reverse.dropWhile (· ≠ '/')).drop 1).reverse

def writeFailure (path : String) : Failure → GoError
  | .session message => .wrap "ssh session for write" (.text message)
  | .cancelled message | .exit _ message => .wrap ("write remote file " ++ path) (.text message)

def writeRemoteFile (path : String) (data : Bytes) : Prog fileCommands (Except GoError Unit) := do
  let dir := parentDir path
  match ← @Prog.perform fileCommands (.installDir dir) with
  | .error failure =>
    .done (.error (.wrap "mkdir failed" (sshFailure (RemoteCommand.installDir dir).text failure)))
  | .ok _ => do
      match ← @Prog.perform fileCommands (.openTee path data) with
      | .error failure => .done (.error (writeFailure path failure))
      | .ok _ => do
          match ← @Prog.perform fileCommands (.endTee path data) with
          | .error failure => .done (.error (writeFailure path failure))
          | .ok _ => .done (.ok ())

end VirshClient

-- The files of a host. `writing` says which run has opened a file, with which data, and has not
-- ended its tee with success.
structure RemoteFiles (ι : Type) where
  files : String → Option Bytes
  writing : String → Option (ι × Bytes)

namespace RemoteFiles

variable {ι : Type}

def arrived (w : RemoteFiles ι) (path : String) (data : Bytes) (n : Nat) : RemoteFiles ι :=
  { w with files := Function.update w.files path (some (data.take n)) }

def opened (w : RemoteFiles ι) (i : ι) (path : String) (data : Bytes) : RemoteFiles ι :=
  { files := Function.update w.files path (some [])
    writing := Function.update w.writing path (some (i, data)) }

def ended (w : RemoteFiles ι) (path : String) (data : Bytes) : RemoteFiles ι :=
  { files := Function.update w.files path (some data)
    writing := Function.update w.writing path none }

end RemoteFiles

-- A failed write leaves a prefix of the data.
inductive FileStep {ι : Type} (i : ι) (before : RemoteFiles ι) :
    FileCommand → Except Failure String → RemoteFiles ι → Prop where
  | installDir (dir : String) (reply : Except Failure String) :
      FileStep i before (.installDir dir) reply before
  | openTee (path : String) (data : Bytes) (reply : Except Failure String) :
      FileStep i before (.openTee path data) reply (before.opened i path data)
  | openFails (path : String) (data : Bytes) (failure : Failure) :
      FileStep i before (.openTee path data) (.error failure) before
  | endTee (path : String) (data : Bytes) (out : String) :
      FileStep i before (.endTee path data) (.ok out) (before.ended path data)
  | endFails (path : String) (data : Bytes) (failure : Failure) (n : Nat) :
      FileStep i before (.endTee path data) (.error failure) (before.arrived path data n)

namespace RemoteFiles

variable {ι : Type} {right : String → Bytes → Prop} {w before after : RemoteFiles ι} {path : String} {data : Bytes}

def Finished (w : RemoteFiles ι) (path : String) : Prop := w.writing path = none ∧ w.files path ≠ none

-- Where every path says what its file has to hold: each finished file holds it, and so does
-- the data of each write that has begun.
structure Sound (right : String → Bytes → Prop) (w : RemoteFiles ι) : Prop where
  finished : ∀ path content, w.writing path = none → w.files path = some content → right path content
  begun : ∀ path i data, w.writing path = some (i, data) → right path data ∧ w.files path ≠ none

-- Only the run that has opened a file ends the write, and with the data it began with.
def fileGuard (right : String → Bytes → Prop) (i : ι) (w : RemoteFiles ι) : FileCommand → Prop
  | .openTee path data => right path data
  | .endTee path data => w.writing path = some (i, data)
  | .installDir _ => True

def OpensNewFile (w : RemoteFiles ι) : FileCommand → Prop
  | .openTee path _ => w.files path = none
  | _ => True

-- What nobody takes away: finished files stay as they are.
structure Kept (right : String → Bytes → Prop) (before after : RemoteFiles ι) : Prop where
  sound : after.Sound right
  finished : ∀ path, before.Finished path → after.Finished path ∧ after.files path = before.files path

theorem Kept.refl (h : w.Sound right) : Kept right w w :=
  ⟨h, fun _ hf => ⟨hf, rfl⟩⟩

theorem Kept.trans {a b c : RemoteFiles ι} (hab : Kept right a b) (hbc : Kept right b c) : Kept right a c := by
  refine ⟨hbc.sound, fun path hf => ?_⟩
  obtain ⟨hfb, hb⟩ := hab.finished path hf
  obtain ⟨hfc, hc⟩ := hbc.finished path hfb
  exact ⟨hfc, hc.trans hb⟩

theorem Kept.of_path (path : String) (hsound : after.Sound right)
    (hpath : ¬ before.Finished path)
    (hother : ∀ other, other ≠ path → after.files other = before.files other ∧
      after.writing other = before.writing other) : Kept right before after := by
  refine ⟨hsound, fun other hf => ?_⟩
  by_cases heq : other = path
  · exact absurd (heq ▸ hf) hpath
  · obtain ⟨hfiles, hwriting⟩ := hother other heq
    refine ⟨?_, hfiles⟩
    unfold Finished at hf ⊢
    rw [hfiles, hwriting]
    exact hf

theorem sound_opened (h : w.Sound right) (i : ι) (hright : right path data) :
    (w.opened i path data).Sound right := by
  constructor
  · intro other content hwriting hfile
    by_cases heq : other = path
    · subst heq
      simp [opened] at hwriting
    · simp only [opened, Function.update_of_ne heq] at hwriting hfile
      exact h.finished other content hwriting hfile
  · intro other j data' hwriting
    by_cases heq : other = path
    · subst heq
      simp only [opened, Function.update_self, Option.some.injEq, Prod.mk.injEq] at hwriting ⊢
      exact ⟨hwriting.2 ▸ hright, Option.some_ne_none _⟩
    · simp only [opened, Function.update_of_ne heq] at hwriting ⊢
      exact h.begun other j data' hwriting

theorem sound_ended (h : w.Sound right) (hright : right path data) : (w.ended path data).Sound right := by
  constructor
  · intro other content hwriting hfile
    by_cases heq : other = path
    · subst heq
      simp only [ended, Function.update_self, Option.some.injEq] at hfile
      exact hfile ▸ hright
    · simp only [ended, Function.update_of_ne heq] at hwriting hfile
      exact h.finished other content hwriting hfile
  · intro other j data' hwriting
    by_cases heq : other = path
    · subst heq
      simp [ended] at hwriting
    · simp only [ended, Function.update_of_ne heq] at hwriting ⊢
      exact h.begun other j data' hwriting

theorem sound_arrived (h : w.Sound right) {i : ι} (hwriting : w.writing path = some (i, data)) (n : Nat) :
    (w.arrived path data n).Sound right := by
  constructor
  · intro other content hnone hfile
    by_cases heq : other = path
    · subst heq
      exact absurd (hwriting.symm.trans hnone) (Option.some_ne_none _)
    · simp only [arrived, Function.update_of_ne heq] at hfile
      exact h.finished other content hnone hfile
  · intro other j data' hother
    by_cases heq : other = path
    · subst heq
      simp only [arrived, Function.update_self]
      exact ⟨(h.begun other j data' hother).1, Option.some_ne_none _⟩
    · simp only [arrived, Function.update_of_ne heq]
      exact h.begun other j data' hother

theorem not_finished_of_writing {entry : ι × Bytes} (h : w.writing path = some entry) : ¬ w.Finished path :=
  fun hf => absurd (h.symm.trans hf.1) (Option.some_ne_none _)

theorem kept_arrived (h : w.Sound right) {i : ι} (hwriting : w.writing path = some (i, data)) (n : Nat) :
    Kept right w (w.arrived path data n) :=
  Kept.of_path path (sound_arrived h hwriting n) (not_finished_of_writing hwriting) fun _ hne =>
    ⟨Function.update_of_ne hne _ _, rfl⟩

theorem fileStep_kept {i : ι} {cmd : FileCommand} {reply : Except Failure String} (hbefore : before.Sound right)
    (hstep : FileStep i before cmd reply after) (hnew : OpensNewFile before cmd)
    (hguard : fileGuard right i before cmd) : Kept right before after := by
  cases hstep with
  | installDir dir reply => exact Kept.refl hbefore
  | openTee path data reply =>
    have hmissing : ¬ before.Finished path := fun hf => hf.2 hnew
    exact Kept.of_path path (sound_opened hbefore i hguard) hmissing fun _ hne =>
      ⟨Function.update_of_ne hne _ _, Function.update_of_ne hne _ _⟩
  | openFails path data failure => exact Kept.refl hbefore
  | endTee path data out =>
    have hright := (hbefore.begun path i data hguard).1
    exact Kept.of_path path (sound_ended hbefore hright) (not_finished_of_writing hguard) fun _ hne =>
      ⟨Function.update_of_ne hne _ _, Function.update_of_ne hne _ _⟩
  | endFails path data failure n => exact kept_arrived hbefore hguard n

theorem fileStep_others {i j : ι} {cmd : FileCommand} {reply : Except Failure String}
    (hbefore : before.Sound right) (hstep : FileStep i before cmd reply after) (hnew : OpensNewFile before cmd)
    (hguard : fileGuard right i before cmd) (hne : j ≠ i) (hwriting : before.writing path = some (j, data)) :
    after.writing path = some (j, data) := by
  cases hstep with
  | installDir dir reply => exact hwriting
  | openTee other data' reply =>
    by_cases heq : path = other
    · subst heq
      exact absurd hnew (hbefore.begun path j data hwriting).2
    · exact (Function.update_of_ne heq _ _).trans hwriting
  | openFails other data' failure => exact hwriting
  | endTee other data' out =>
    by_cases heq : path = other
    · subst heq
      have hown : some (i, data') = some (j, data) := hguard.symm.trans hwriting
      exact absurd (Prod.mk.inj (Option.some.inj hown)).1.symm hne
    · exact (Function.update_of_ne heq _ _).trans hwriting
  | endFails other data' failure n => exact hwriting

end RemoteFiles

end Caplv.Libvirt

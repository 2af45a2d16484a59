import Caplv.Controller.Reconcile
import Caplv.Controller.Cleanup
import Caplv.Program.System

namespace Caplv.Controller

open Text Api Libvirt Scope Program

-- One LibvirtMachine as the API server stores it, with what has happened so far: what
-- the reconcile in progress has fetched, which phase it is in and the first terminal
-- failure it recorded; whether a call that creates an artifact was ever issued, and
-- whether a cleanup ever reached the host.
structure World where
  stored : Option LibvirtMachine
  fetched : Option LibvirtMachine := none
  phase : Option Phase := none
  recorded : Option (Reason × String) := none
  created : Bool := false
  cleanupRan : Bool := false

-- The API server removes an object that is being deleted and has no finalizer left.
def settle (lm : LibvirtMachine) : Option LibvirtMachine :=
  if lm.deletionTimestamp = true ∧ lm.finalizers = [] then none else some lm

-- What the deferred patch writes: the fields that differ between the object as fetched
-- and as left in memory. Nobody else writes the status.
def patched (outcome : PatchOutcome) (old new stored : LibvirtMachine) : LibvirtMachine :=
  { stored with
    finalizers := if outcome.metadata = true ∧ old.finalizers ≠ new.finalizers then new.finalizers
      else stored.finalizers
    spec := if outcome.metadata = true ∧ old.spec ≠ new.spec then new.spec else stored.spec
    status := if outcome.status = true ∧ old.status ≠ new.status then new.status else stored.status }

def isDestroyDomain : ClientCall → Bool
  | .destroyDomain _ => true
  | _ => false

def World.next (w : World) : (op : Op) → Reply op → World
  | .getLibvirtMachine _, reply =>
    { w with fetched := reply.toOption, phase := none, recorded := none }
  | .patchMachine old new, outcome =>
    { w with stored := w.stored.bind fun lm => settle (patched outcome old new lm) }
  | .client _ call, _ =>
    { w with
      created := w.created || call.createsArtifact
      cleanupRan := w.cleanupRan || isDestroyDomain call }
  | .enter phase, _ => { w with phase := some phase }
  | .recordFailure reason message, _ =>
    { w with recorded := w.recorded.or (some (reason, message)) }
  | _, _ => w

-- Every reply is possible, except that the machine itself is read from the store.
def World.Answers (w : World) : (op : Op) → Reply op → Prop
  | .getLibvirtMachine _, reply => ∀ lm, reply = .ok lm → w.stored = some lm
  | _, _ => True

def worldStep : Handler signature World := fun before op reply after =>
  before.Answers op reply ∧ after = before.next op reply

-- The handler that answers from the store and otherwise by a fixed function.
def World.answer (w : World) (answer : (op : Op) → Reply op) : (op : Op) → Reply op
  | .getLibvirtMachine _ =>
    match w.stored with
    | some lm => .ok lm
    | none => .error (.notFound "not found")
  | op => answer op

def answering (answer : (op : Op) → Reply op) : Machine signature World := fun w op =>
  (w.answer answer op, w.next op (w.answer answer op))

theorem answering_worldStep {answer : (op : Op) → Reply op} {before after : World} {op : Op}
    {reply : Reply op} (h : (answering answer).handler before op reply after) :
    worldStep before op reply after := by
  obtain ⟨rfl, rfl⟩ := Prod.mk.inj h
  refine ⟨?_, rfl⟩
  cases op with
  | getLibvirtMachine key =>
    intro lm hlm
    rw [World.answer] at hlm
    split at hlm
    · rename_i stored hstored
      rw [hstored, Except.ok.inj hlm]
    · cases hlm
  | _ => trivial

-- What others do to the object: a user deletes it, or something that is not the
-- reconciler edits its metadata, leaving MachineFinalizer as it is.
inductive WorldEnv : World → World → Prop where
  | delete {before : World} {lm : LibvirtMachine} (hstored : before.stored = some lm) :
      WorldEnv before { before with stored := settle { lm with deletionTimestamp := true } }
  | edit {before : World} {lm edited : LibvirtMachine} (hstored : before.stored = some lm)
      (hspec : edited.spec = lm.spec) (hstatus : edited.status = lm.status)
      (hdeletion : edited.deletionTimestamp = lm.deletionTimestamp)
      (hfinalizer : edited.containsFinalizer = lm.containsFinalizer) :
      WorldEnv before { before with stored := settle edited }

-- Reconciles of the machine one after the other, with the deferred patch, crashes
-- between any two operations and the environment acting at any time. `step` is
-- `worldStep` or a restriction of it.
def machineSystem (deps : Deps) (key : ObjectKey) (step : Handler signature World) :
    System signature World Unit Return where
  handler _ := step
  env := WorldEnv
  start _ prog := prog = reconcile deps key

def World.Finalized (w : World) : Prop :=
  ∃ lm, w.stored = some lm ∧ lm.containsFinalizer = true

theorem settle_of_containsFinalizer {lm : LibvirtMachine} (h : lm.containsFinalizer = true) :
    settle lm = some lm := by
  rw [settle, if_neg]
  rintro ⟨-, hnil⟩
  rw [LibvirtMachine.containsFinalizer_iff, hnil] at h
  exact List.not_mem_nil h

theorem patched_containsFinalizer (outcome : PatchOutcome) {old new stored : LibvirtMachine}
    (hstored : stored.containsFinalizer = true)
    (hnew : new.containsFinalizer = true ∨ old.finalizers = new.finalizers) :
    (patched outcome old new stored).containsFinalizer = true := by
  simp only [LibvirtMachine.containsFinalizer_iff, patched] at *
  split
  · rename_i h
    exact hnew.resolve_right h.2
  · exact hstored

theorem WorldEnv.finalized {before after : World} (h : WorldEnv before after)
    (hb : before.Finalized) : after.Finalized := by
  obtain ⟨lm, hlm, hf⟩ := hb
  cases h with
  | @delete lm' hstored =>
    obtain rfl : lm' = lm := Option.some.inj (hstored.symm.trans hlm)
    exact ⟨_, settle_of_containsFinalizer hf, hf⟩
  | @edit lm' edited hstored _ _ _ hfinalizer =>
    obtain rfl : lm' = lm := Option.some.inj (hstored.symm.trans hlm)
    exact ⟨edited, settle_of_containsFinalizer (hfinalizer.trans hf), hfinalizer.trans hf⟩

-- A run with fixed answers, cut short anywhere, is a reachable configuration.
theorem machineSystem_reachable_runFor (deps : Deps) (key : ObjectKey)
    (answer : (op : Op) → Reply op) (w : World) (n : Nat) {step : Handler signature World}
    {init : World → Prop} (inv : World → Prop) (hinit : init w) (hw : inv w)
    (hstep : ∀ before op reply after, inv before →
      (answering answer).handler before op reply after → step before op reply after ∧ inv after) :
    (machineSystem deps key step).Reachable init
      ⟨(runFor (answering answer) n (reconcile deps key) w).2,
        fun _ => some (runFor (answering answer) n (reconcile deps key) w).1⟩ := by
  have hconst (threads : Unit → Option (Prog signature Return)) (prog : Prog signature Return) :
      Function.update threads () (some prog) = fun _ => some prog :=
    funext fun _ => Function.update_self ..
  obtain ⟨events, hexec⟩ := runFor_exec (answering answer) n (reconcile deps key) w
  have hpath := (machineSystem deps key step).step_exec (i := ()) (hexec.strengthen hw hstep)
    fun _ => none
  have hstart : (machineSystem deps key step).Step (System.idle w) _ := .start (i := ()) rfl rfl
  rw [hconst, hconst] at hpath
  refine ⟨w, hinit, .head hstart ?_⟩
  rw [hconst]
  exact hpath

def freshAnswer : (op : Op) → Reply op
  | .getLibvirtMachine _ => .error (.other "")
  | .newPatchHelper _ => .ok ()
  | .getOwnerMachine _ => .ok (some sampleOwner)
  | .getCluster _ => .ok sampleCluster
  | .getLibvirtCluster _ => .ok sampleLibvirtCluster
  | .getLibvirtHost _ => .ok sampleHost
  | .getSecret _ => .ok ⟨[("value", [1])]⟩
  | .getNode _ => .error (.notFound "")
  | .patchNode _ _ => .ok ()
  | .deleteNode _ => .ok ()
  | .dialSSH _ => .ok ()
  | .client _ call =>
    match call with
    | .domainExists _ | .volumeExists _ _ | .remoteFileExists _ => .ok false
    | .poolExists _ | .poolIsActive _ => .ok true
    | .getDomain name => .ok ⟨name, "uuid", "shut off"⟩
    | .defineDomain xmlDef => .ok ⟨xmlDef.name, "uuid", "shut off"⟩
    | .getVolumePath _ name => .ok name
    | .startDomain _ | .destroyDomain _ | .undefineDomain _ | .startPool _ | .createTmpfsPool ..
    | .destroyPool _ | .createVolumeFromBackingStore .. | .cloneVolume .. | .createVolume ..
    | .uploadVolumeFromBytes .. | .uploadQcow2Volume .. | .deleteVolume .. | .writeRemoteFile ..
    | .deleteRemoteFile _ => .ok ()
  | .lookupDockerConfigAuth _ _ => .ok ([], [])
  | .imageGet _ _ _ => .error (.text "")
  | .qcow2VirtualSize _ => .ok 0
  | .openFile _ => .ok []
  | .lockUpload _ => ()
  | .unlockUpload _ => ()
  | .loadArtifacts _ => none
  | .storeArtifacts _ _ => ()
  | .resolveArtifacts _ _ => .error (.text "")
  | .buildCloudInitISO _ _ _ => .ok []
  | .patchMachine _ _ => ⟨false, false⟩
  | .recordFailure _ _ => ()
  | .enter _ => ()

def sampleKey : ObjectKey := ⟨"ns", "m"⟩

end Caplv.Controller

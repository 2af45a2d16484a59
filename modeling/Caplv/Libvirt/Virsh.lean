import Caplv.Libvirt.Host
import Caplv.Program.Logic

namespace Caplv.Libvirt

open Text Program

inductive Command where
  | destroy (name : String)
  | undefine (name : String)
  | volDelete (name pool : String)
  | poolDumpxml (name : String)
  | poolDestroy (name : String)
  | poolUndefine (name : String)
  | umount (path : String)
  | rmdir (path : String)
  | rm (path : String)
deriving DecidableEq, Repr

-- How a command fails: no session could be opened, the context ended, or it exited with
-- an error.
inductive Failure where
  | session (message : String)
  | cancelled (message : String)
  | exit (stderr message : String)
deriving DecidableEq, Repr

-- A command answers with its trimmed standard output; of the XML that pool-dumpxml prints
-- this is the text of the <path> element.
abbrev shell : Signature := ⟨Command, fun _ => Except Failure String⟩

-- The arguments of a virsh command, and the text of one that runs through sudo.
def Command.args : Command → List String
  | .destroy name => ["destroy", name]
  | .undefine name => ["undefine", name, "--nvram"]
  | .volDelete name pool => ["vol-delete", name, "--pool", pool]
  | .poolDumpxml name => ["pool-dumpxml", name]
  | .poolDestroy name => ["pool-destroy", name]
  | .poolUndefine name => ["pool-undefine", name]
  | .umount _ | .rmdir _ | .rm _ => []

def Command.text : Command → String
  | .umount path => "sudo umount " ++ shellQuote path ++ " 2>/dev/null"
  | .rmdir path => "sudo rmdir " ++ shellQuote path ++ " 2>/dev/null"
  | .rm path => "sudo rm -f " ++ shellQuote path
  | cmd => String.intercalate " " (cmd.args.map shellQuote)

def getResourceArg (args : List String) : String :=
  if args.length > 1 then args.getLastD "" else ""

def virshFailure (args : List String) : Failure → GoError
  | .session message => .wrap "ssh session" (.text message)
  | .cancelled message => .text message
  | .exit stderr message =>
    if trimSpace stderr = "" then .wrap ("virsh " ++ args.headD "") (.text message)
    else classifyVirshError (trimSpace stderr) (args.headD "") (getResourceArg args)

def sshFailure (cmd : String) : Failure → GoError
  | .session message => .wrap cmd (.wrap "ssh session" (.text message))
  | .cancelled message => .wrap cmd (.text message)
  | .exit stderr message =>
    if trimSpace stderr = "" then .wrap cmd (.text message)
    else .text (cmd ++ ": " ++ trimSpace stderr)

def runVirsh (cmd : Command) : Prog shell (Except GoError String) := do
  match ← @Prog.perform shell cmd with
  | .ok stdout => .done (.ok stdout)
  | .error failure => .done (.error (virshFailure cmd.args failure))

def runSSH (cmd : Command) : Prog shell (Except GoError Unit) := do
  match ← @Prog.perform shell cmd with
  | .ok _ => .done (.ok ())
  | .error failure => .done (.error (sshFailure cmd.text failure))

-- The command's output does not matter, and a missing target is no error.
def runDeletion (cmd : Command) : Prog shell (Except GoError Unit) := do
  match ← runVirsh cmd with
  | .ok _ => .done (.ok ())
  | .error err => .done (if err.isNotFound then .ok () else .error err)

namespace VirshClient

def destroyDomain (name : String) : Prog shell (Except GoError Unit) := runDeletion (.destroy name)

def undefineDomain (name : String) : Prog shell (Except GoError Unit) := runDeletion (.undefine name)

def deleteVolume (pool name : String) : Prog shell (Except GoError Unit) := runDeletion (.volDelete name pool)

def deleteRemoteFile (path : String) : Prog shell (Except GoError Unit) := runSSH (.rm path)

-- Errors of the commands after pool-dumpxml are ignored.
def destroyPool (name : String) : Prog shell (Except GoError Unit) := do
  match ← runVirsh (.poolDumpxml name) with
  | .error err => .done (if err.isNotFound then .ok () else .error err)
  | .ok poolPath => do
      let _ ← runVirsh (.poolDestroy name)
      let _ ← runVirsh (.poolUndefine name)
      if poolPath = "" then .done (.ok ())
      else do
        let _ ← runSSH (.umount poolPath)
        let _ ← runSSH (.rmdir poolPath)
        .done (.ok ())

def deletion : (call : ClientCall) → Option (Prog shell (Except GoError call.Result))
  | .destroyDomain name => some (destroyDomain name)
  | .undefineDomain name => some (undefineDomain name)
  | .deleteVolume pool name => some (deleteVolume pool name)
  | .destroyPool name => some (destroyPool name)
  | .deleteRemoteFile path => some (deleteRemoteFile path)
  | _ => none

end VirshClient

namespace Host

def exit (h : Host) (stderr : String) : Except Failure String × Host :=
  (.error (.exit stderr "Process exited with status 1"), h)

def execute (h : Host) : Command → Except Failure String × Host
  | .destroy name =>
    match h (.domain name) with
    | none => h.exit noDomain
    | some d =>
      if d.running then (.ok "", h.set (.domain name) { d with running := false })
      else h.exit notRunning
  | .undefine name =>
    match h (.domain name) with
    | none => h.exit noDomain
    | some d => if d.running then (.ok "", h) else (.ok "", h.erase (.domain name))
  | .volDelete name pool =>
    match h.lookupVolume pool name with
    | .error stderr => h.exit stderr
    | .ok _ => (.ok "", h.erase (.volume pool name))
  | .poolDumpxml name =>
    match h (.pool name) with
    | none => h.exit noPool
    | some p => (.ok p.path, h)
  | .poolDestroy name =>
    match h (.pool name) with
    | none => h.exit noPool
    | some p =>
      if p.active then (.ok "", h.set (.pool name) { p with active := false })
      else h.exit inactivePool
  | .poolUndefine name =>
    match h (.pool name) with
    | none => h.exit noPool
    | some p =>
      if p.active then h.exit activePool
      else (.ok "", (h.clear (volumesOf name)).erase (.pool name))
  | .umount path =>
    match h (.mount path) with
    | none => h.exit "umount: not mounted."
    | some _ => (.ok "", h.unmount path)
  | .rmdir _ => (.ok "", h)
  | .rm path => (.ok "", h.erase (.file path))

end Host

def commandMachine : Machine shell Host := fun h cmd => h.execute cmd

def Failure.claimsAbsent : Failure → Bool
  | .exit stderr _ => virshCategory (trimSpace stderr) == .notFound
  | _ => false

-- A command takes its effect or, where it may fail, fails without one. A failure claims that
-- the target is missing only when it is.
def commandStep (mayFail : Command → Prop) : Handler shell Host := fun before cmd reply after =>
  before.execute cmd = (reply, after) ∨
    mayFail cmd ∧ after = before ∧ ∃ failure, reply = .error failure ∧ failure.claimsAbsent = false

section Categories

theorem trimSpace_text {text : String}
    (h : text ∈ Host.categories.map Prod.fst := by simp [Host.categories]) : trimSpace text = text := by
  simp only [Host.categories, List.map_cons, List.map_nil, List.mem_cons, List.not_mem_nil, or_false] at h
  rcases h with rfl | rfl | rfl | rfl | rfl | rfl <;>
    exact (trimSpace_ofList _).trans (congrArg String.ofList (by decide))

theorem category_trimmed (text : String) {category : ErrorCategory}
    (h : (text, category) ∈ Host.categories := by simp [Host.categories]) :
    virshCategory (trimSpace text) = category := by
  rw [trimSpace_text (List.mem_map_of_mem h), Host.category_eq _ h]

theorem category_empty : virshCategory "" = .transient := virshCategory_ofList []

end Categories

theorem virshFailure_isNotFound (args : List String) (failure : Failure) :
    (virshFailure args failure).isNotFound = failure.claimsAbsent := by
  cases failure with
  | session message => rfl
  | cancelled message => rfl
  | exit stderr message =>
    rw [virshFailure, Failure.claimsAbsent]
    split
    · rename_i hempty
      rw [hempty, category_empty]
      rfl
    · rw [classifyVirshError]
      generalize virshCategory (trimSpace stderr) = category
      cases category <;> rfl

-- A volume is gone with its pool.
def Host.Absent (h : Host) : Key → Prop
  | .volume pool name => h (.pool pool) = none ∨ h (.volume pool name) = none
  | key => h key = none

def Shrinks (before after : Host) : Prop := ∀ key, before key = none → after key = none

theorem Shrinks.refl (h : Host) : Shrinks h h := fun _ hkey => hkey

theorem Shrinks.trans {a b c : Host} (hab : Shrinks a b) (hbc : Shrinks b c) : Shrinks a c :=
  fun key hkey => hbc key (hab key hkey)

theorem Shrinks.set (h : Host) {key : Key} (value : key.Value) (hkey : h key ≠ none) :
    Shrinks h (h.set key value) := by
  intro other hother
  rcases eq_or_ne other key with rfl | hne
  · exact absurd hother hkey
  · rw [h.set_of_ne value hne, hother]

theorem Shrinks.erase (h : Host) (key : Key) : Shrinks h (h.erase key) :=
  fun _ hother => h.erase_eq_none hother

theorem Shrinks.clear (h : Host) (region : Key → Bool) : Shrinks h (h.clear region) := by
  intro key hkey
  rw [h.clear_apply, hkey, ite_self]

theorem Shrinks.unmount (h : Host) (path : String) : Shrinks h (h.unmount path) := by
  rw [Host.unmount]
  split
  · exact (Shrinks.clear h _).trans (Shrinks.erase _ _)
  · exact Shrinks.refl h

theorem Host.Absent.shrinks {before after : Host} {key : Key} (h : before.Absent key)
    (hshrinks : Shrinks before after) : after.Absent key := by
  cases key with
  | volume pool name => exact h.imp (hshrinks _) (hshrinks _)
  | domain name => exact hshrinks _ h
  | pool name => exact hshrinks _ h
  | mount path => exact hshrinks _ h
  | file path => exact hshrinks _ h
  | node name => exact hshrinks _ h

theorem execute_shrinks (h : Host) (cmd : Command) : Shrinks h (h.execute cmd).2 := by
  cases cmd with
  | destroy name =>
    rw [Host.execute]
    split
    · exact Shrinks.refl h
    · rename_i d hd
      split
      · exact Shrinks.set h _ (hd ▸ Option.some_ne_none d)
      · exact Shrinks.refl h
  | undefine name =>
    rw [Host.execute]
    split
    · exact Shrinks.refl h
    · split
      · exact Shrinks.refl h
      · exact Shrinks.erase h _
  | volDelete name pool =>
    rw [Host.execute]
    split
    · exact Shrinks.refl h
    · exact Shrinks.erase h _
  | poolDumpxml name =>
    rw [Host.execute]
    split <;> exact Shrinks.refl h
  | poolDestroy name =>
    rw [Host.execute]
    split
    · exact Shrinks.refl h
    · rename_i p hp
      split
      · exact Shrinks.set h _ (hp ▸ Option.some_ne_none p)
      · exact Shrinks.refl h
  | poolUndefine name =>
    rw [Host.execute]
    split
    · exact Shrinks.refl h
    · split
      · exact Shrinks.refl h
      · exact (Shrinks.clear h _).trans (Shrinks.erase _ _)
  | umount path =>
    rw [Host.execute]
    split
    · exact Shrinks.refl h
    · exact Shrinks.unmount h path
  | rmdir path => exact Shrinks.refl h
  | rm path => exact Shrinks.erase h _

section Deletions

variable {mayFail : Command → Prop} {before after : Host} {cmd : Command}
  {reply : Except Failure String} {post : Host → Prop}

theorem commandStep_shrinks (hstep : commandStep mayFail before cmd reply after) : Shrinks before after := by
  rcases hstep with hdone | ⟨-, rfl, -⟩
  · have hafter : (before.execute cmd).2 = after := congrArg Prod.snd hdone
    exact hafter ▸ execute_shrinks before cmd
  · exact Shrinks.refl after

-- A deletion adds nothing, never reports its target missing as an error, and has
-- established `post` when it reports success.
def Deletes (before : Host) (post : Host → Prop) (result : Except GoError Unit) (after : Host) :
    Prop :=
  Shrinks before after ∧ (∀ err, result = .error err → err.isNotFound = false) ∧
    (result = .ok () → post after)

theorem commandStep_failed {failure : Failure} (args : List String)
    (hstep : commandStep mayFail before cmd (.error failure) after)
    (habsent : before.execute cmd = (.error failure, after) → failure.claimsAbsent = true → post after) :
    Deletes before post (if (virshFailure args failure).isNotFound then .ok ()
      else .error (virshFailure args failure)) after := by
  have hshrinks := commandStep_shrinks hstep
  rw [virshFailure_isNotFound]
  by_cases hclaims : failure.claimsAbsent = true
  · rw [if_pos hclaims]
    rcases hstep with hdone | ⟨-, -, failure', hreply, hnot⟩
    · exact ⟨hshrinks, nofun, fun _ => habsent hdone hclaims⟩
    · cases hreply
      exact Bool.noConfusion (hclaims.symm.trans hnot)
  · rw [if_neg hclaims]
    refine ⟨hshrinks, ?_, nofun⟩
    rintro err ⟨rfl⟩
    rw [virshFailure_isNotFound]
    exact Bool.not_eq_true _ ▸ hclaims

-- What a deletion that reports success has established, from what its command establishes
-- when it succeeds or finds the target missing.
theorem runDeletion_holds {before : Host} (hdone : ∀ stdout after, before.execute cmd = (.ok stdout, after) → post after)
    (habsent : ∀ failure after, before.execute cmd = (.error failure, after) →
      failure.claimsAbsent = true → post after) :
    Holds (commandStep mayFail) (fun _ _ => True) (Deletes before post) (runDeletion cmd) before := by
  refine ⟨trivial, fun reply after hstep => ?_⟩
  cases reply with
  | ok stdout =>
    refine ⟨commandStep_shrinks hstep, nofun, fun _ => ?_⟩
    rcases hstep with heq | ⟨-, -, failure, hreply, -⟩
    · exact hdone stdout after heq
    · cases hreply
  | error failure => exact commandStep_failed cmd.args hstep (habsent failure after)

def Stopped (name : String) (h : Host) : Prop :=
  ∀ d, h (.domain name) = some d → d.running = false

theorem destroyDomain_holds (before : Host) (name : String) :
    Holds (commandStep mayFail) (fun _ _ => True) (Deletes before (Stopped name))
      (VirshClient.destroyDomain name) before := by
  refine runDeletion_holds ?_ ?_
  · intro stdout after hdone d hd
    rw [Host.execute] at hdone
    split at hdone
    · cases hdone
    · split at hdone
      · cases hdone
        rw [Host.set_self] at hd
        exact (Option.some.inj hd) ▸ rfl
      · cases hdone
  · intro failure after hfailed hclaims d hd
    rw [Host.execute] at hfailed
    split at hfailed
    · rename_i hnone
      cases hfailed
      exact nomatch hnone.symm.trans hd
    · split at hfailed
      · cases hfailed
      · cases hfailed
        simp [Failure.claimsAbsent, (category_trimmed Host.notRunning : _ = .transient)]
          at hclaims

theorem undefineDomain_holds (before : Host) (name : String) (hstopped : Stopped name before) :
    Holds (commandStep mayFail) (fun _ _ => True)
      (Deletes before fun after => after (.domain name) = none)
      (VirshClient.undefineDomain name) before := by
  refine runDeletion_holds ?_ ?_
  · intro stdout after hdone
    rw [Host.execute] at hdone
    split at hdone
    · cases hdone
    · rename_i d hd
      rw [hstopped d hd] at hdone
      cases hdone
      exact before.erase_self _
  · intro failure after hfailed _
    rw [Host.execute] at hfailed
    split at hfailed
    · rename_i hnone
      cases hfailed
      exact hnone
    · split at hfailed <;> cases hfailed

theorem deleteVolume_holds (before : Host) (pool name : String) :
    Holds (commandStep mayFail) (fun _ _ => True)
      (Deletes before fun after => after.Absent (.volume pool name))
      (VirshClient.deleteVolume pool name) before := by
  refine runDeletion_holds ?_ ?_
  · intro stdout after hdone
    rw [Host.execute] at hdone
    split at hdone
    · cases hdone
    · cases hdone
      exact .inr (before.erase_self _)
  · intro failure after hfailed hclaims
    rw [Host.execute] at hfailed
    split at hfailed
    · rename_i stderr hlookup
      cases hfailed
      rcases Host.lookupVolume_error hlookup with ⟨-, hpool⟩ | rfl | ⟨-, hvolume⟩
      · exact .inl hpool
      · simp [Failure.claimsAbsent, (category_trimmed Host.inactivePool : _ = .transient)]
          at hclaims
      · exact .inr hvolume
    · cases hfailed

theorem deleteRemoteFile_holds (before : Host) (path : String) :
    Holds (commandStep mayFail) (fun _ _ => True)
      (fun _ after => Shrinks before after ∧ (¬ mayFail (.rm path) → after (.file path) = none))
      (VirshClient.deleteRemoteFile path) before := by
  refine ⟨trivial, fun reply after hstep => ?_⟩
  have hpost : Shrinks before after ∧ (¬ mayFail (.rm path) → after (.file path) = none) := by
    refine ⟨commandStep_shrinks hstep, fun hcannot => ?_⟩
    rcases hstep with hdone | ⟨hfails, -⟩
    · cases hdone
      exact before.erase_self _
    · exact absurd hfails hcannot
  cases reply <;> exact hpost

theorem runVirsh_holds {before : Host}
    (hpost : ∀ reply after, commandStep mayFail before cmd reply after → post after) :
    Holds (commandStep mayFail) (fun _ _ => True) (fun _ after => post after) (runVirsh cmd) before := by
  refine ⟨trivial, fun reply after hstep => ?_⟩
  have hafter := hpost reply after hstep
  cases reply <;> exact hafter

theorem runSSH_holds {before : Host}
    (hpost : ∀ reply after, commandStep mayFail before cmd reply after → post after) :
    Holds (commandStep mayFail) (fun _ _ => True) (fun _ after => post after) (runSSH cmd) before := by
  refine ⟨trivial, fun reply after hstep => ?_⟩
  have hafter := hpost reply after hstep
  cases reply <;> exact hafter

def Inactive (name : String) (h : Host) : Prop := ∀ p, h (.pool name) = some p → p.active = false

theorem poolDestroy_inactive {name : String} (hcannot : ¬ mayFail (.poolDestroy name))
    (hstep : commandStep mayFail before (.poolDestroy name) reply after) : Inactive name after := by
  rcases hstep with hdone | ⟨hfails, -⟩
  · intro p hp
    rw [Host.execute] at hdone
    split at hdone
    · rename_i hnone
      cases hdone
      exact nomatch hnone.symm.trans hp
    · rename_i q hq
      split at hdone
      · cases hdone
        rw [Host.set_self] at hp
        exact (Option.some.inj hp) ▸ rfl
      · rename_i hactive
        cases hdone
        obtain rfl : q = p := Option.some.inj (hq.symm.trans hp)
        exact Bool.not_eq_true _ ▸ hactive
  · exact absurd hfails hcannot

theorem poolUndefine_gone {name : String} (hcannot : ¬ mayFail (.poolUndefine name))
    (hinactive : Inactive name before) (hstep : commandStep mayFail before (.poolUndefine name) reply after) :
    after (.pool name) = none := by
  rcases hstep with hdone | ⟨hfails, -⟩
  · rw [Host.execute] at hdone
    split at hdone
    · rename_i hnone
      cases hdone
      exact hnone
    · rename_i p hp
      rw [hinactive p hp] at hdone
      cases hdone
      exact Host.erase_self ..
  · exact absurd hfails hcannot

theorem destroyPool_holds (before : Host) (name : String) :
    Holds (commandStep mayFail) (fun _ _ => True)
      (Deletes before fun after =>
        ¬ mayFail (.poolDestroy name) → ¬ mayFail (.poolUndefine name) → after (.pool name) = none)
      (VirshClient.destroyPool name) before := by
  refine ⟨trivial, fun reply h₁ hdump => ?_⟩
  have hs₁ := commandStep_shrinks hdump
  cases reply with
  | error failure =>
    refine commandStep_failed _ hdump fun hdone _ _ _ => ?_
    rw [Host.execute] at hdone
    split at hdone
    · rename_i hnone
      cases hdone
      exact hnone
    · cases hdone
  | ok poolPath =>
    have hstop : Holds (commandStep mayFail) (fun _ _ => True)
        (fun _ after => Shrinks h₁ after ∧ (¬ mayFail (.poolDestroy name) → Inactive name after))
        (runVirsh (.poolDestroy name)) h₁ :=
      runVirsh_holds fun _ _ hstep =>
        ⟨commandStep_shrinks hstep, fun hcannot => poolDestroy_inactive hcannot hstep⟩
    refine hstop.bind fun _ h₂ ⟨hs₂, hinactive⟩ => ?_
    have hundefine : Holds (commandStep mayFail) (fun _ _ => True)
        (fun _ after => Shrinks h₂ after ∧ (¬ mayFail (.poolDestroy name) →
          ¬ mayFail (.poolUndefine name) → after (.pool name) = none))
        (runVirsh (.poolUndefine name)) h₂ :=
      runVirsh_holds fun _ _ hstep => ⟨commandStep_shrinks hstep, fun hcannot hcannot' =>
        poolUndefine_gone hcannot' (hinactive hcannot) hstep⟩
    refine hundefine.bind fun _ h₃ ⟨hs₃, hgone⟩ => ?_
    have hs := (hs₁.trans hs₂).trans hs₃
    split
    · exact ⟨hs, nofun, fun _ => hgone⟩
    · refine (runSSH_holds fun _ _ => commandStep_shrinks).bind fun _ h₄ hs₄ => ?_
      refine (runSSH_holds fun _ _ => commandStep_shrinks).bind fun _ h₅ hs₅ => ?_
      refine ⟨(hs.trans hs₄).trans hs₅, nofun, fun _ hcannot hcannot' => ?_⟩
      exact hs₅ _ (hs₄ _ (hgone hcannot hcannot'))

end Deletions

section Refinement

theorem run_runVirsh (h : Host) (cmd : Command) :
    run commandMachine (runVirsh cmd) h =
      ((h.execute cmd).1.mapError (virshFailure cmd.args), (h.execute cmd).2) := by
  rw [runVirsh, Prog.perform_bind, run_ask, commandMachine]
  rcases h.execute cmd with ⟨failure | stdout, after⟩ <;> rfl

theorem run_runSSH (h : Host) (cmd : Command) : (run commandMachine (runSSH cmd) h).2 = (h.execute cmd).2 := by
  rw [runSSH, Prog.perform_bind, run_ask, commandMachine]
  rcases h.execute cmd with ⟨failure | stdout, after⟩ <;> rfl

def reported (args : List String) : Except Failure String → Except GoError Unit
  | .ok _ => .ok ()
  | .error failure => if failure.claimsAbsent then .ok () else .error (virshFailure args failure)

theorem run_runDeletion (h : Host) (cmd : Command) :
    run commandMachine (runDeletion cmd) h = (reported cmd.args (h.execute cmd).1, (h.execute cmd).2) := by
  rw [runDeletion, run_bind, run_runVirsh]
  rcases h.execute cmd with ⟨failure | stdout, after⟩
  · simp only [Except.mapError, reported, ← virshFailure_isNotFound cmd.args failure]
    rfl
  · rfl

theorem virshFailure_exit {stderr : String} (args : List String) (message : String)
    (htrim : trimSpace stderr = stderr) (hne : stderr ≠ "") :
    virshFailure args (.exit stderr message) =
      classifyVirshError stderr (args.headD "") (getResourceArg args) := by
  rw [virshFailure, htrim, if_neg hne]

theorem destroyDomain_run (h : Host) (name : String) :
    run commandMachine (VirshClient.destroyDomain name) h = h.destroyDomain name := by
  rw [VirshClient.destroyDomain, run_runDeletion]
  cases hd : h (.domain name) with
  | none =>
    simp [Host.execute, Host.destroyDomain, hd, Host.exit, reported, Failure.claimsAbsent,
      (category_trimmed Host.noDomain : _ = .notFound)]
  | some d =>
    by_cases hrunning : d.running = true
    · simp [Host.execute, Host.destroyDomain, hd, hrunning, reported]
    · simp [Host.execute, Host.destroyDomain, hd, hrunning, Host.exit, reported,
        Failure.claimsAbsent, Command.args,
        (category_trimmed Host.notRunning : _ = .transient)]
      exact virshFailure_exit _ _ trimSpace_text (by decide)

theorem undefineDomain_run (h : Host) (name : String) :
    run commandMachine (VirshClient.undefineDomain name) h = h.undefineDomain name := by
  rw [VirshClient.undefineDomain, run_runDeletion]
  cases hd : h (.domain name) with
  | none =>
    simp [Host.execute, Host.undefineDomain, hd, Host.exit, reported, Failure.claimsAbsent,
      (category_trimmed Host.noDomain : _ = .notFound)]
  | some d =>
    by_cases hrunning : d.running = true <;>
      simp [Host.execute, Host.undefineDomain, hd, hrunning, reported]

theorem reported_exit {stderr : String} (args : List String) (message : String)
    (htrim : trimSpace stderr = stderr) (hne : stderr ≠ "") :
    reported args (.error (.exit stderr message)) = ignoreNotFound
      (.error (classifyVirshError stderr (args.headD "") (getResourceArg args))) := by
  rw [← virshFailure_exit args message htrim hne, ignoreNotFound, virshFailure_isNotFound]
  rfl

theorem deleteVolume_run (h : Host) (pool name : String) :
    run commandMachine (VirshClient.deleteVolume pool name) h = h.deleteVolume pool name := by
  rw [VirshClient.deleteVolume, run_runDeletion]
  cases hlookup : h.lookupVolume pool name with
  | ok volume => simp [Host.execute, Host.deleteVolume, hlookup, reported]
  | error stderr =>
    simp only [Host.execute, Host.deleteVolume, hlookup, Host.exit]
    have htrim : trimSpace stderr = stderr ∧ stderr ≠ "" := by
      rcases Host.lookupVolume_error hlookup with ⟨rfl, -⟩ | rfl | ⟨rfl, -⟩
      · exact ⟨trimSpace_text, by decide⟩
      · exact ⟨trimSpace_text, by decide⟩
      · exact ⟨trimSpace_text, by decide⟩
    exact congrArg (·, h) (reported_exit _ _ htrim.1 htrim.2)

theorem deleteRemoteFile_run (h : Host) (path : String) :
    run commandMachine (VirshClient.deleteRemoteFile path) h = (.ok (), h.erase (.file path)) := rfl

theorem clear_erase_set (h : Host) (region : Key → Bool) (key : Key) (value : key.Value) :
    ((h.set key value).clear region).erase key = (h.clear region).erase key := by
  funext other
  rcases eq_or_ne other key with rfl | hne
  · rw [Host.erase_self, Host.erase_self]
  · simp [hne]

theorem poolTeardown_run (h : Host) (name : String) (p : Pool) (hp : h (.pool name) = some p) :
    (((h.execute (.poolDestroy name)).2).execute (.poolUndefine name)).2 =
      (h.clear (volumesOf name)).erase (.pool name) := by
  by_cases hactive : p.active = true
  · simp [Host.execute, hp, hactive, clear_erase_set]
  · simp [Host.execute, hp, hactive, Host.exit]

theorem umount_run (h : Host) (path : String) : (h.execute (.umount path)).2 = h.unmount path := by
  cases hmount : h (.mount path) <;> simp [Host.execute, hmount, Host.exit, Host.unmount]

theorem destroyPool_run (h : Host) (name : String) :
    run commandMachine (VirshClient.destroyPool name) h = h.destroyPool name := by
  rw [VirshClient.destroyPool, run_bind, run_runVirsh]
  cases hp : h (.pool name) with
  | none =>
    have hexec : h.execute (.poolDumpxml name) = h.exit Host.noPool := by
      simp only [Host.execute, hp]
    rw [hexec, Host.exit]
    simp only [Host.destroyPool, hp, Except.mapError, virshFailure_isNotFound, Failure.claimsAbsent,
      (category_trimmed Host.noPool : _ = .notFound)]
    rfl
  | some p =>
    have hexec : h.execute (.poolDumpxml name) = (.ok p.path, h) := by
      simp only [Host.execute, hp]
    simp only [hexec, Except.mapError, run_bind, run_runVirsh, poolTeardown_run h name p hp,
      Host.destroyPool, hp]
    split
    · rfl
    · simp only [run_bind, run_runSSH, umount_run]
      rfl

-- On a host that works, the commands of a deletion do together what the client's call is
-- taken to do in one step.
theorem deletion_run (newUUID : DomainXML → String) (h : Host) {call : ClientCall}
    {prog : Prog shell (Except GoError call.Result)} (hprog : VirshClient.deletion call = some prog) :
    run commandMachine prog h = h.call newUUID call := by
  cases call with
  | destroyDomain name => cases hprog; exact destroyDomain_run h name
  | undefineDomain name => cases hprog; exact undefineDomain_run h name
  | deleteVolume pool name => cases hprog; exact deleteVolume_run h pool name
  | destroyPool name => cases hprog; exact destroyPool_run h name
  | deleteRemoteFile path => cases hprog; exact deleteRemoteFile_run h path
  | _ => cases hprog

end Refinement

end Caplv.Libvirt

import Caplv.Libvirt.Virsh
import Caplv.Program.Expand

namespace Caplv.Libvirt

open Text Program

-- The commands that look for an ephemeral pool and set it up, next to those that tear it down. Of
-- what pool-info prints the answer is the state.
inductive PoolCommand where
  | poolInfo (name : String)
  | poolStart (name : String)
  | poolDefineAs (name target : String)
  | mkdir (path : String)
  | mount (path size : String)
deriving DecidableEq, Repr

abbrev poolSetup : Signature := ⟨PoolCommand, fun _ => Except Failure String⟩

abbrev tmpfs : Signature := poolSetup.sum shell

def PoolCommand.args : PoolCommand → List String
  | .poolInfo name => ["pool-info", name]
  | .poolStart name => ["pool-start", name]
  | .poolDefineAs name target => ["pool-define-as", name, "dir", "--target", target]
  | .mkdir _ | .mount _ _ => []

def PoolCommand.text : PoolCommand → String
  | .mkdir path => "sudo mkdir -p " ++ shellQuote path
  | .mount path size =>
    if size = "" then "sudo mount -t tmpfs tmpfs " ++ shellQuote path
    else "sudo mount -t tmpfs -o " ++ shellQuote ("size=" ++ size) ++ " tmpfs " ++ shellQuote path
  | cmd => String.intercalate " " (cmd.args.map shellQuote)

namespace VirshClient

def setupVirsh (cmd : PoolCommand) : Prog tmpfs (Except GoError String) :=
  .ask (.inl cmd) fun reply : Except Failure String =>
    match reply with
    | .ok stdout => .done (.ok stdout)
    | .error failure => .done (.error (virshFailure cmd.args failure))

def setupSSH (cmd : PoolCommand) : Prog tmpfs (Except GoError Unit) :=
  .ask (.inl cmd) fun reply : Except Failure String =>
    match reply with
    | .ok _ => .done (.ok ())
    | .error failure => .done (.error (sshFailure cmd.text failure))

def poolExists (name : String) : Prog tmpfs (Except GoError Bool) := do
  match ← setupVirsh (.poolInfo name) with
  | .ok _ => .done (.ok true)
  | .error err => .done (if err.isNotFound then .ok false else .error err)

def poolIsActive (name : String) : Prog tmpfs (Except GoError Bool) := do
  match ← setupVirsh (.poolInfo name) with
  | .ok state => .done (.ok (state == "running"))
  | .error err => .done (.error err)

def startPool (name : String) : Prog tmpfs (Except GoError Unit) := do
  match ← setupVirsh (.poolStart name) with
  | .ok _ => .done (.ok ())
  | .error err => .done (.error err)

def createTmpfsPool (name path size : String) : Prog tmpfs (Except GoError Unit) := do
  match ← setupSSH (.mkdir path) with
  | .error err => .done (.error (.wrap "mkdir failed" err))
  | .ok _ =>
    match ← setupSSH (.mount path size) with
    | .error err => .done (.error (.wrap "tmpfs mount failed" err))
    | .ok _ =>
      match ← setupVirsh (.poolDefineAs name path) with
      | .error err => .done (.error (.wrap "pool-define-as failed" err))
      | .ok _ =>
        match ← setupVirsh (.poolStart name) with
        | .error err => .done (.error (.wrap "pool-start failed" err))
        | .ok _ => .done (.ok ())

end VirshClient

-- The part of a host these commands act on: the number of tmpfs mounted over each other at a
-- path, the directories, and the pools.
structure TmpfsHost where
  mounts : String → Nat
  dirs : String → Bool
  pools : String → Option Pool

namespace TmpfsHost

variable (h : TmpfsHost)

def exit (stderr : String) : Except Failure String × TmpfsHost :=
  (.error (.exit stderr "Process exited with status 1"), h)

def setPool (name : String) (pool : Option Pool) : TmpfsHost :=
  { h with pools := Function.update h.pools name pool }

def setMounts (path : String) (height : Nat) : TmpfsHost :=
  { h with mounts := Function.update h.mounts path height }

def setDir (path : String) (there : Bool) : TmpfsHost :=
  { h with dirs := Function.update h.dirs path there }

def setUp : PoolCommand → Except Failure String × TmpfsHost
  | .poolInfo name =>
    match h.pools name with
    | none => h.exit Host.noPool
    | some p => (.ok (if p.active then "running" else "inactive"), h)
  | .poolStart name =>
    match h.pools name with
    | none => h.exit Host.noPool
    | some p =>
      if p.active then h.exit Host.activePool
      else if h.dirs p.path then (.ok "", h.setPool name (some { p with active := true }))
      else h.exit Host.noTarget
  | .poolDefineAs name target =>
    match h.pools name with
    | some _ => h.exit Host.poolDefined
    | none => (.ok "", h.setPool name (some ⟨target, false⟩))
  | .mkdir path => (.ok "", h.setDir path true)
  | .mount path _ =>
    if h.dirs path then (.ok "", h.setMounts path (h.mounts path + 1))
    else h.exit "mount: mount point does not exist."

-- umount takes the topmost tmpfs away, and a directory with one on it is busy. The other
-- deletions have nothing to do with pools.
def tearDown : Command → Except Failure String × TmpfsHost
  | .poolDumpxml name =>
    match h.pools name with
    | none => h.exit Host.noPool
    | some p => (.ok p.path, h)
  | .poolDestroy name =>
    match h.pools name with
    | none => h.exit Host.noPool
    | some p =>
      if p.active then (.ok "", h.setPool name (some { p with active := false }))
      else h.exit Host.inactivePool
  | .poolUndefine name =>
    match h.pools name with
    | none => h.exit Host.noPool
    | some p => if p.active then h.exit Host.activePool else (.ok "", h.setPool name none)
  | .umount path =>
    if h.mounts path = 0 then h.exit "umount: not mounted."
    else (.ok "", h.setMounts path (h.mounts path - 1))
  | .rmdir path =>
    if h.mounts path = 0 then (.ok "", h.setDir path false)
    else h.exit "rmdir: Device or resource busy"
  | .destroy _ | .undefine _ | .volDelete _ _ | .rm _ => (.ok "", h)

end TmpfsHost

-- A command takes its effect, or fails in any way, before or after it.
def unreliable {κ : Type} (execute : TmpfsHost → κ → Except Failure String × TmpfsHost)
    (before : TmpfsHost) (cmd : κ) (reply : Except Failure String) (after : TmpfsHost) : Prop :=
  execute before cmd = (reply, after) ∨
    ∃ failure, reply = .error failure ∧ (after = before ∨ after = (execute before cmd).2)

def tmpfsStep : Handler tmpfs TmpfsHost :=
  Handler.sum (unreliable TmpfsHost.setUp) (unreliable TmpfsHost.tearDown)

-- A lookup does not end in a text that says the pool is missing while a tmpfs is mounted: neither
-- because the pool is not defined, nor by a failure whose text only reads like it.
def Seen (path : String) (before : TmpfsHost) (reply : Except Failure String) : Prop :=
  before.mounts path ≠ 0 → ∀ failure, reply = .error failure → failure.claimsAbsent = false

-- The lookups of the pool see it, and umount takes a tmpfs away that is there.
def Careful (name path : String) (before after : TmpfsHost) : (op : tmpfs.Op) → tmpfs.Reply op → Prop
  | .inl (.poolInfo other), reply | .inr (.poolDumpxml other), reply => other = name → Seen path before reply
  | .inr (.umount other), _ =>
    other = path → before.mounts path ≠ 0 → after.mounts path + 1 = before.mounts path
  | _, _ => True

def carefulStep (name path : String) : Handler tmpfs TmpfsHost := fun before cmd reply after =>
  tmpfsStep before cmd reply after ∧ Careful name path before after cmd reply

section Unreliable

variable {κ : Type} {execute : TmpfsHost → κ → Except Failure String × TmpfsHost} {cmd : κ}
  {before after : TmpfsHost}

theorem unreliable_after {reply : Except Failure String} (h : unreliable execute before cmd reply after) :
    after = before ∨ after = (execute before cmd).2 := by
  rcases h with hdone | ⟨failure, -, hafter⟩
  · right
    rw [hdone]
  · exact hafter

theorem unreliable_ok {stdout : String} (h : unreliable execute before cmd (.ok stdout) after) :
    execute before cmd = (.ok stdout, after) := by
  rcases h with hdone | ⟨failure, hreply, -⟩
  · exact hdone
  · cases hreply

end Unreliable

-- At most one tmpfs at the path, and the pool, where it is defined, is the one on it.
structure Single (name path : String) (h : TmpfsHost) : Prop where
  mounts : h.mounts path ≤ 1
  target : ∀ p, h.pools name = some p → p.path = path

section Commands

variable {name path : String} {h before after : TmpfsHost} {reply : Except Failure String}

theorem Single.setPool (hs : Single name path h) {other : String} {pool : Option Pool}
    (hpool : other = name → ∀ p, pool = some p → p.path = path) : Single name path (h.setPool other pool) := by
  refine ⟨hs.mounts, fun p hp => ?_⟩
  by_cases heq : name = other
  · subst heq
    simp only [TmpfsHost.setPool, Function.update_self] at hp
    exact hpool rfl p hp
  · simp only [TmpfsHost.setPool, Function.update_of_ne heq] at hp
    exact hs.target p hp

theorem Single.setMounts (hs : Single name path h) {other : String} {height : Nat}
    (hheight : other = path → height ≤ 1) : Single name path (h.setMounts other height) := by
  refine ⟨?_, hs.target⟩
  by_cases heq : path = other
  · subst heq
    simp only [TmpfsHost.setMounts, Function.update_self]
    exact hheight rfl
  · simp only [TmpfsHost.setMounts, Function.update_of_ne heq]
    exact hs.mounts

theorem Single.setUp (hs : Single name path h) {cmd : PoolCommand}
    (hmount : ∀ size, cmd = .mount path size → h.mounts path = 0)
    (hdefine : ∀ target, cmd = .poolDefineAs name target → target = path) :
    Single name path (h.setUp cmd).2 := by
  cases cmd with
  | poolInfo other =>
    rw [TmpfsHost.setUp]
    cases h.pools other <;> exact hs
  | poolStart other =>
    rw [TmpfsHost.setUp]
    cases hp : h.pools other with
    | none => exact hs
    | some p =>
      dsimp only
      split
      · exact hs
      · split
        · refine hs.setPool fun heq q hq => ?_
          obtain rfl := Option.some.inj hq
          exact hs.target p (heq ▸ hp)
        · exact hs
  | poolDefineAs other target =>
    rw [TmpfsHost.setUp]
    cases h.pools other with
    | some p => exact hs
    | none =>
      refine hs.setPool fun heq q hq => ?_
      obtain rfl := Option.some.inj hq
      exact hdefine target (heq ▸ rfl)
  | mkdir other => exact ⟨hs.mounts, hs.target⟩
  | mount other size =>
    rw [TmpfsHost.setUp]
    split
    · refine hs.setMounts fun heq => ?_
      have hzero := hmount size (heq ▸ rfl)
      rw [heq]
      omega
    · exact hs

theorem Single.tearDown (hs : Single name path h) (cmd : Command) : Single name path (h.tearDown cmd).2 := by
  cases cmd with
  | poolDumpxml other =>
    rw [TmpfsHost.tearDown]
    cases h.pools other <;> exact hs
  | poolDestroy other =>
    rw [TmpfsHost.tearDown]
    cases hp : h.pools other with
    | none => exact hs
    | some p =>
      dsimp only
      split
      · refine hs.setPool fun heq q hq => ?_
        obtain rfl := Option.some.inj hq
        exact hs.target p (heq ▸ hp)
      · exact hs
  | poolUndefine other =>
    rw [TmpfsHost.tearDown]
    cases h.pools other with
    | none => exact hs
    | some p =>
      dsimp only
      split
      · exact hs
      · exact hs.setPool fun _ q hq => nomatch hq
  | umount other =>
    rw [TmpfsHost.tearDown]
    split
    · exact hs
    · refine hs.setMounts fun heq => ?_
      have hone := hs.mounts
      rw [heq]
      omega
  | rmdir other =>
    rw [TmpfsHost.tearDown]
    split
    · exact ⟨hs.mounts, hs.target⟩
    · exact hs
  | destroy _ | undefine _ | volDelete _ _ | rm _ => exact hs

theorem Single.setUpStep {cmd : PoolCommand} (hstep : carefulStep name path before (.inl cmd) reply after)
    (hmount : ∀ size, cmd = .mount path size → before.mounts path = 0)
    (hdefine : ∀ target, cmd = .poolDefineAs name target → target = path) (hs : Single name path before) :
    Single name path after := by
  rcases unreliable_after hstep.1 with rfl | rfl
  · exact hs
  · exact hs.setUp hmount hdefine

theorem Single.tearDownStep {cmd : Command} (hstep : carefulStep name path before (.inr cmd) reply after)
    (hs : Single name path before) : Single name path after := by
  rcases unreliable_after hstep.1 with rfl | rfl
  · exact hs
  · exact hs.tearDown cmd

theorem poolInfo_step (hstep : carefulStep name path before (.inl (.poolInfo name)) reply after) :
    after = before ∧ ∀ failure, reply = .error failure → failure.claimsAbsent = true →
      before.mounts path = 0 := by
  have hsame : (before.setUp (.poolInfo name)).2 = before := by
    rw [TmpfsHost.setUp]
    cases before.pools name <;> rfl
  constructor
  · exact (unreliable_after hstep.1).elim id fun hafter => hafter.trans hsame
  · rintro failure rfl hclaims
    by_contra hmounted
    exact Bool.noConfusion (hclaims.symm.trans (hstep.2 rfl hmounted failure rfl))

theorem poolDumpxml_step (hstep : carefulStep name path before (.inr (.poolDumpxml name)) reply after) :
    after = before ∧ (∀ failure, reply = .error failure → failure.claimsAbsent = true →
      before.mounts path = 0) ∧
      ∀ stdout, reply = .ok stdout → ∃ p, before.pools name = some p ∧ stdout = p.path := by
  have hsame : (before.tearDown (.poolDumpxml name)).2 = before := by
    rw [TmpfsHost.tearDown]
    cases before.pools name <;> rfl
  refine ⟨(unreliable_after hstep.1).elim id fun hafter => hafter.trans hsame, ?_, ?_⟩
  · rintro failure rfl hclaims
    by_contra hmounted
    exact Bool.noConfusion (hclaims.symm.trans (hstep.2 rfl hmounted failure rfl))
  · rintro stdout rfl
    have hdone := unreliable_ok hstep.1
    rw [TmpfsHost.tearDown] at hdone
    cases hp : before.pools name with
    | none =>
      rw [hp] at hdone
      cases hdone
    | some p =>
      rw [hp] at hdone
      cases hdone
      exact ⟨p, rfl, rfl⟩

theorem umount_step (hs : Single name path before)
    (hstep : carefulStep name path before (.inr (.umount path)) reply after) : after.mounts path = 0 := by
  have hone := hs.mounts
  by_cases hmounted : before.mounts path = 0
  · have hsame : (before.tearDown (.umount path)).2 = before := by
      rw [TmpfsHost.tearDown]
      rw [if_pos hmounted]
      rfl
    rcases unreliable_after hstep.1 with rfl | rfl
    · exact hmounted
    · rw [hsame]
      exact hmounted
  · have hgone := hstep.2 rfl hmounted
    omega

end Commands

section Calls

variable {name path : String} {h : TmpfsHost}

-- A program that finds at most one tmpfs at each of its commands.
abbrev Stacks {α : Type} (name path : String) (post : α → TmpfsHost → Prop) (prog : Prog tmpfs α)
    (h : TmpfsHost) : Prop :=
  Holds (carefulStep name path) (fun h _ => Single name path h) post prog h

theorem setupVirsh_stacks {cmd : PoolCommand} {post : Except GoError String → TmpfsHost → Prop}
    (hs : Single name path h)
    (hpost : ∀ reply after, carefulStep name path h (.inl cmd) reply after →
      post (Except.mapError (virshFailure cmd.args) reply) after) :
    Stacks name path post (VirshClient.setupVirsh cmd) h := by
  refine ⟨hs, fun reply after hstep => ?_⟩
  have hend := hpost reply after hstep
  cases reply <;> exact hend

theorem setupSSH_stacks {cmd : PoolCommand} {post : TmpfsHost → Prop} (hs : Single name path h)
    (hpost : ∀ reply after, carefulStep name path h (.inl cmd) reply after → post after) :
    Stacks name path (fun _ => post) (VirshClient.setupSSH cmd) h := by
  refine ⟨hs, fun reply after hstep => ?_⟩
  have hend := hpost reply after hstep
  cases reply <;> exact hend

theorem poolExists_stacks (hs : Single name path h) :
    Stacks name path (fun reply after => Single name path after ∧
      (reply = .ok false → after.mounts path = 0)) (VirshClient.poolExists name) h := by
  have hinfo : Stacks name path (fun reply after => Single name path after ∧
      ∀ err, reply = .error err → err.isNotFound = true → after.mounts path = 0)
      (VirshClient.setupVirsh (.poolInfo name)) h := by
    refine setupVirsh_stacks hs fun reply after hstep => ?_
    obtain ⟨rfl, hmissing⟩ := poolInfo_step hstep
    refine ⟨hs, fun err herr hnotfound => ?_⟩
    cases reply with
    | ok stdout => cases herr
    | error failure =>
      obtain rfl := Except.error.inj herr
      exact hmissing failure rfl (virshFailure_isNotFound _ _ ▸ hnotfound)
  refine hinfo.bind fun reply after hend => ?_
  cases reply with
  | ok stdout => exact ⟨hend.1, nofun⟩
  | error err =>
    refine ⟨hend.1, fun hfalse => hend.2 err rfl ?_⟩
    by_contra hfound
    rw [if_neg hfound] at hfalse
    cases hfalse

theorem poolIsActive_stacks (hs : Single name path h) :
    Stacks name path (fun _ after => Single name path after) (VirshClient.poolIsActive name) h := by
  have hinfo : Stacks name path (fun _ after => Single name path after)
      (VirshClient.setupVirsh (.poolInfo name)) h := by
    refine setupVirsh_stacks hs fun reply after hstep => ?_
    obtain ⟨rfl, -⟩ := poolInfo_step hstep
    exact hs
  refine hinfo.bind fun reply after hend => ?_
  cases reply <;> exact hend

theorem poolStart_stacks (hs : Single name path h) :
    Stacks name path (fun _ after => Single name path after) (VirshClient.setupVirsh (.poolStart name)) h :=
  setupVirsh_stacks hs fun _ _ hstep => hs.setUpStep hstep nofun nofun

theorem startPool_stacks (hs : Single name path h) :
    Stacks name path (fun _ after => Single name path after) (VirshClient.startPool name) h := by
  refine (poolStart_stacks hs).bind fun reply after hend => ?_
  cases reply <;> exact hend

theorem createTmpfsPool_stacks (hs : Single name path h) (hnone : h.mounts path = 0) (size : String) :
    Stacks name path (fun _ after => Single name path after)
      (VirshClient.createTmpfsPool name path size) h := by
  have hmkdir : Stacks name path (fun _ after => Single name path after ∧ after.mounts path = 0)
      (VirshClient.setupSSH (.mkdir path)) h := by
    refine setupSSH_stacks hs fun reply after hstep => ⟨hs.setUpStep hstep nofun nofun, ?_⟩
    rcases unreliable_after hstep.1 with rfl | rfl
    · exact hnone
    · exact hnone
  refine hmkdir.bind fun made h₁ ⟨hs₁, hnone₁⟩ => ?_
  cases made with
  | error err => exact hs₁
  | ok _ =>
    have hmount : Stacks name path (fun _ after => Single name path after)
        (VirshClient.setupSSH (.mount path size)) h₁ :=
      setupSSH_stacks hs₁ fun _ _ hstep => hs₁.setUpStep hstep (fun _ _ => hnone₁) nofun
    refine hmount.bind fun mounted h₂ hs₂ => ?_
    cases mounted with
    | error err => exact hs₂
    | ok _ =>
      have hdefine : Stacks name path (fun _ after => Single name path after)
          (VirshClient.setupVirsh (.poolDefineAs name path)) h₂ :=
        setupVirsh_stacks hs₂ fun _ _ hstep => hs₂.setUpStep hstep nofun
          fun _ hcmd => (PoolCommand.poolDefineAs.inj hcmd).2.symm
      refine hdefine.bind fun defined h₃ hs₃ => ?_
      cases defined with
      | error err => exact hs₃
      | ok _ =>
        refine (poolStart_stacks hs₃).bind fun started h₄ hs₄ => ?_
        cases started <;> exact hs₄

theorem destroyPool_stacks (hs : Single name path h) (hpath : path ≠ "") :
    Stacks name path (fun reply after => Single name path after ∧
        (reply = .ok () → after.mounts path = 0) ∧ ∀ err, reply = .error err → err.isNotFound = false)
      (VirshClient.destroyPool name).inr h := by
  refine Holds.sumRight ⟨hs, fun reply h₁ hdump => ?_⟩
  obtain ⟨rfl, hmissing, htarget⟩ := poolDumpxml_step hdump
  have hkeep {h' : TmpfsHost} (hs' : Single name path h') (cmd : Command) :
      Holds (fun before op reply after => carefulStep name path before (.inr op) reply after)
        (fun before _ => Single name path before) (fun _ after => Single name path after) (runVirsh cmd) h' := by
    refine ⟨hs', fun reply after hstep => ?_⟩
    have hs'' := hs'.tearDownStep hstep
    cases reply <;> exact hs''
  cases reply with
  | error failure =>
    have hfound := virshFailure_isNotFound (Command.poolDumpxml name).args failure
    refine ⟨hs, fun hok => ?_, fun err herr => ?_⟩
    · by_cases hclaims : failure.claimsAbsent = true
      · exact hmissing failure rfl hclaims
      · rw [hfound, if_neg hclaims] at hok
        cases hok
    · by_cases hclaims : failure.claimsAbsent = true
      · rw [hfound, if_pos hclaims] at herr
        cases herr
      · rw [hfound, if_neg hclaims] at herr
        obtain rfl := Except.error.inj herr
        rw [hfound]
        simpa using hclaims
  | ok poolPath =>
    obtain ⟨p, hp, rfl⟩ := htarget poolPath rfl
    have hown := hs.target p hp
    refine (hkeep hs (.poolDestroy name)).bind fun _ h₂ hs₂ => ?_
    refine (hkeep hs₂ (.poolUndefine name)).bind fun _ h₃ hs₃ => ?_
    rw [hown, if_neg hpath]
    refine ⟨hs₃, fun unmounted h₄ humount => ?_⟩
    have hs₄ := hs₃.tearDownStep humount
    have hgone := umount_step hs₃ humount
    have hrmdir : Holds (fun before op reply after => carefulStep name path before (.inr op) reply after)
        (fun before _ => Single name path before)
        (fun _ after => Single name path after ∧ after.mounts path = 0) (runSSH (.rmdir path)) h₄ := by
      refine ⟨hs₄, fun reply after hstep => ?_⟩
      have hend : Single name path after ∧ after.mounts path = 0 := by
        refine ⟨hs₄.tearDownStep hstep, ?_⟩
        rcases unreliable_after hstep.1 with rfl | rfl
        · exact hgone
        · rw [TmpfsHost.tearDown, if_pos hgone]
          exact hgone
      cases reply <;> exact hend
    cases unmounted <;> exact hrmdir.bind fun _ after hend => ⟨hend.1, fun _ => hend.2, nofun⟩

end Calls

end Caplv.Libvirt

import Caplv.Controller.RootDisk
import Caplv.Libvirt.Tmpfs

namespace Caplv.Controller

open Text Api Libvirt Scope Program

-- The client's calls on pools, run command by command.
def poolCommands : Implementation signature tmpfs
  | .client _ (.poolExists name) => some (VirshClient.poolExists name)
  | .client _ (.poolIsActive name) => some (VirshClient.poolIsActive name)
  | .client _ (.startPool name) => some (VirshClient.startPool name)
  | .client _ (.createTmpfsPool name path size) => some (VirshClient.createTmpfsPool name path size)
  | .client _ (.destroyPool name) => some (VirshClient.destroyPool name).inr
  | _ => none

-- Every other operation may get any reply and has nothing to do with mounts.
def onTmpfs (commands : Handler tmpfs TmpfsHost) : Handler (signature.sum tmpfs) TmpfsHost :=
  Handler.sum (fun before _ _ after => after = before) commands

-- Attempts at the root disk step of one machine, each of which may stop after any command.
inductive Attempts (commands : Handler tmpfs TmpfsHost) (scope : MachineScope) (start : TmpfsHost) :
    TmpfsHost → Prop where
  | none : Attempts commands scope start start
  | run {middle after : TmpfsHost} {rc : ReconcileCtx} {st : RunState}
      {events : List (Event (signature.sum tmpfs))} {rest : Prog (signature.sum tmpfs) (Option GoError × RunState)}
      (h : Attempts commands scope start middle) (hsame : SameMachine scope rc.machineScope)
      (hrun : Exec (onTmpfs commands) ((reconcileRootDisk rc st).expand poolCommands) middle events rest after) :
      Attempts commands scope start after

section Summary

variable {name path : String} {h : TmpfsHost}

-- What a call on the machine's pool comes to, once its commands are careful.
def poolSummary (name path : String) : Handler signature TmpfsHost := fun before op reply after =>
  match op, reply with
  | .client _ (.poolExists _), reply =>
    Single name path after ∧ ((reply : Except GoError Bool) = .ok false → after.mounts path = 0)
  | .client _ (.destroyPool _), reply =>
    Single name path after ∧ ((reply : Except GoError Unit) = .ok () → after.mounts path = 0) ∧
      ∀ err, (reply : Except GoError Unit) = .error err → err.isNotFound = false
  | .client _ (.poolIsActive _), _ | .client _ (.startPool _), _ | .client _ (.createTmpfsPool _ _ _), _ =>
    Single name path after
  | _, _ => after = before

def PoolGuard (name path : String) (h : TmpfsHost) : Op → Prop
  | .client _ (.poolExists other) | .client _ (.poolIsActive other) | .client _ (.startPool other)
  | .client _ (.destroyPool other) => Single name path h ∧ other = name
  | .client _ (.createTmpfsPool other target _) =>
    Single name path h ∧ other = name ∧ target = path ∧ h.mounts path = 0
  | _ => Single name path h

theorem poolGuard_single {op : Op} (hguard : PoolGuard name path h op) : Single name path h := by
  cases op with
  | client host call => cases call <;> first | exact hguard | exact hguard.1
  | _ => exact hguard

theorem poolGuard_of_quiet {op : Op} (hquiet : poolCommands op = none)
    (hs : Single name path h) : PoolGuard name path h op := by
  cases op with
  | client host call => cases call <;> first | exact hs | cases hquiet
  | _ => exact hs

theorem poolSummary_quiet {before after : TmpfsHost} {op : Op} {reply : Reply op}
    (hquiet : poolCommands op = none) : poolSummary name path before op reply after ↔ after = before := by
  cases op with
  | client host call => cases call <;> first | exact Iff.rfl | cases hquiet
  | _ => exact Iff.rfl

theorem poolCommands_stack (hpath : path ≠ "") {op : Op} {prog : Prog tmpfs (Reply op)}
    (hprog : poolCommands op = some prog) (hguard : PoolGuard name path h op) :
    Stacks name path (poolSummary name path h op) prog h := by
  cases op with
  | client host call =>
    cases call with
    | poolExists other =>
      obtain ⟨hs, rfl⟩ := hguard
      cases hprog
      exact poolExists_stacks hs
    | poolIsActive other =>
      obtain ⟨hs, rfl⟩ := hguard
      cases hprog
      exact poolIsActive_stacks hs
    | startPool other =>
      obtain ⟨hs, rfl⟩ := hguard
      cases hprog
      exact startPool_stacks hs
    | createTmpfsPool other target size =>
      obtain ⟨hs, rfl, rfl, hnone⟩ := hguard
      cases hprog
      exact createTmpfsPool_stacks hs hnone size
    | destroyPool other =>
      obtain ⟨hs, rfl⟩ := hguard
      cases hprog
      exact destroyPool_stacks hs hpath
    | _ => cases hprog
  | _ => cases hprog

theorem expand_stacks {α : Type} (hpath : path ≠ "") {post : α → TmpfsHost → Prop} {prog : Prog signature α}
    (hprog : Holds (poolSummary name path) (PoolGuard name path) post prog h) :
    Holds (onTmpfs (carefulStep name path)) (fun h _ => Single name path h) post
      (prog.expand poolCommands) h := by
  refine hprog.expand (fun before op hquiet hguard => ⟨poolGuard_single hguard, fun reply after hs => ?_⟩)
    fun before op commands hop hguard => ?_
  · exact (poolSummary_quiet hquiet).mpr hs
  · exact Holds.sumRight (poolCommands_stack hpath hop hguard)

end Summary

section Attempt

variable {rc : ReconcileCtx} {name path : String}

abbrev Mounts {α : Type} (name path : String) (pre : TmpfsHost → Prop) (body : StepBody α)
    (post : α → TmpfsHost → Prop) : Prop :=
  Body.Triple (poolSummary name path) (PoolGuard name path) (fun _ => pre) body (fun value _ => post value)
    (fun _ _ => Single name path)

theorem mounts_handling :
    Handling (poolSummary name path) (PoolGuard name path) (fun _ => Single name path)
      (fun _ _ => Single name path) where
  guard _ _ _ _ hs := hs
  recorded _ _ _ _ _ hs hstep := hstep ▸ hs
  failed _ _ _ hs := hs

theorem keeps_mounts {α : Type} {body : StepBody α}
    (h : Body.Keeps anyReply (fun op => poolCommands op = none) (fun _ => True) body) :
    Mounts name path (Single name path) body (fun _ => Single name path) := by
  have htriple : Body.Triple (poolSummary name path) (PoolGuard name path)
      (fun _ w => True ∧ Single name path w) body (fun _ _ w => True ∧ Single name path w)
      (fun _ _ w => True ∧ Single name path w) :=
    h.triple (fun _ _ hs hquiet => poolGuard_of_quiet hquiet hs) fun _ _ _ _ hs hquiet hstep =>
      ⟨trivial, (poolSummary_quiet hquiet).mp hstep ▸ hs⟩
  intro st w hs
  exact (htriple.mono (fun _ _ _ h => h.2) fun _ _ _ h => h.2) st w ⟨trivial, hs⟩

theorem reviveEphemeralPool_mounts :
    Mounts rc.machineScope.ephemeralPoolName path (Single rc.machineScope.ephemeralPoolName path)
      (reviveEphemeralPool rc) (fun usable h => Single rc.machineScope.ephemeralPoolName path h ∧
        (usable = false → h.mounts path = 0)) := by
  have hactive : Mounts rc.machineScope.ephemeralPoolName path
      (Single rc.machineScope.ephemeralPoolName path)
      (callOrHandle rc (.poolIsActive rc.machineScope.ephemeralPoolName) "checking ephemeral pool state")
      (fun _ => Single rc.machineScope.ephemeralPoolName path) :=
    mounts_handling.callOrHandle rc _ _ (fun _ _ hs => ⟨hs, rfl⟩) (fun _ _ _ _ _ hs => hs)
      fun _ _ _ _ _ hs => hs
  refine hactive.bind fun active => ?_
  refine Body.Triple.ite (fun _ => Body.Triple.pure fun _ _ hs => ⟨hs, nofun⟩) fun _ => ?_
  refine Body.Triple.perform_bind (fun _ _ hs => ⟨hs, rfl⟩) fun started => ?_
  cases started with
  | ok _ =>
    refine Body.Triple.pure fun _ _ hstarted => ?_
    obtain ⟨before, -, hs⟩ := hstarted
    exact ⟨hs, nofun⟩
  | error err =>
    have hdestroy : Mounts rc.machineScope.ephemeralPoolName path
        (Single rc.machineScope.ephemeralPoolName path)
        (callOrHandle rc (.destroyPool rc.machineScope.ephemeralPoolName) "destroying stale ephemeral pool")
        (fun _ h => Single rc.machineScope.ephemeralPoolName path h ∧ h.mounts path = 0) :=
      mounts_handling.callOrHandle rc _ _ (fun _ _ hs => ⟨hs, rfl⟩)
        (fun _ _ _ _ _ hs => ⟨hs.1, hs.2.1 rfl⟩) fun _ _ _ _ _ hs => hs.1
    intro st w hstarted
    obtain ⟨before, -, hs⟩ := hstarted
    refine Body.Triple.bind hdestroy (fun _ => Body.Triple.pure fun _ _ hs => ?_) st w hs
    exact ⟨hs.1, fun _ => hs.2⟩

theorem ensureEphemeralPool_mounts (htarget : rc.machineScope.ephemeralPoolPath = path) :
    Mounts rc.machineScope.ephemeralPoolName path (Single rc.machineScope.ephemeralPoolName path)
      (ensureEphemeralPool rc) (fun _ => Single rc.machineScope.ephemeralPoolName path) := by
  have hexists : Mounts rc.machineScope.ephemeralPoolName path
      (Single rc.machineScope.ephemeralPoolName path)
      (callOrHandle rc (.poolExists rc.machineScope.ephemeralPoolName) "checking ephemeral pool")
      (fun defined h => Single rc.machineScope.ephemeralPoolName path h ∧
        (defined = false → h.mounts path = 0)) :=
    mounts_handling.callOrHandle rc _ _ (fun _ _ hs => ⟨hs, rfl⟩)
      (fun _ _ _ _ _ hs => ⟨hs.1, fun hfalse => hs.2 (hfalse ▸ rfl)⟩) fun _ _ _ _ _ hs => hs.1
  refine hexists.bind fun defined => ?_
  have hrevive : Mounts rc.machineScope.ephemeralPoolName path
      (fun h => Single rc.machineScope.ephemeralPoolName path h ∧ (defined = false → h.mounts path = 0))
      (if defined then reviveEphemeralPool rc else pure false)
      (fun usable h => Single rc.machineScope.ephemeralPoolName path h ∧
        (usable = false → h.mounts path = 0)) := by
    refine Body.Triple.ite (fun _ => fun st w hs => reviveEphemeralPool_mounts st w hs.1) fun hundefined => ?_
    exact Body.Triple.pure fun _ _ hs => ⟨hs.1, fun _ => hs.2 (Bool.not_eq_true _ ▸ hundefined)⟩
  refine hrevive.bind fun usable => ?_
  refine Body.Triple.ite (fun _ => Body.Triple.pure fun _ _ hs => hs.1) fun hunusable => ?_
  refine mounts_handling.callOrHandle rc _ _ (fun _ _ hs => ?_) (fun _ _ _ _ _ hs => hs)
    fun _ _ _ _ _ hs => hs
  exact ⟨hs.1, rfl, htarget, hs.2 (Bool.not_eq_true _ ▸ hunusable)⟩

theorem createRootDisk_quiet (storagePool : String) :
    Body.Keeps anyReply (fun op => poolCommands op = none) (fun _ => True) (createRootDisk rc storagePool) := by
  have hrecords : Records anyReply (fun op => poolCommands op = none) (fun _ => True) :=
    ⟨fun _ _ => rfl, fun _ _ _ _ h => h⟩
  rw [createRootDisk]
  split
  · exact callOnBaseImage_keeps (by exact rfl) (fun _ _ _ => hrecords) (fun _ _ _ => hrecords) _
  · refine (callOnBaseImage_keeps (by exact rfl) (fun _ _ _ => hrecords) (fun _ _ _ => hrecords) _).bind
      fun backingPath => ?_
    exact callOrHandle_keeps (by exact rfl) (fun _ _ _ => hrecords) _

theorem reconcileRootDisk_mounts (htarget : rc.machineScope.ephemeralPoolPath = path) (st : RunState)
    {h : TmpfsHost} (hs : Single rc.machineScope.ephemeralPoolName path h) :
    Holds (poolSummary rc.machineScope.ephemeralPoolName path)
      (PoolGuard rc.machineScope.ephemeralPoolName path)
      (fun _ after => Single rc.machineScope.ephemeralPoolName path after) (reconcileRootDisk rc st) h := by
  have hrecords : Records anyReply (fun op => poolCommands op = none) (fun _ => True) :=
    ⟨fun _ _ => rfl, fun _ _ _ _ h => h⟩
  have hpool : Mounts rc.machineScope.ephemeralPoolName path (Single rc.machineScope.ephemeralPoolName path)
      (if rc.spec.rootDisk.ephemeralPool then do
        ensureEphemeralPool rc
        Body.modify fun st => { st with storagePool := rc.machineScope.ephemeralPoolName }
      else pure ()) (fun _ => Single rc.machineScope.ephemeralPoolName path) := by
    refine Body.Triple.ite (fun _ => ?_) fun _ => Body.Triple.pure fun _ _ hs => hs
    exact (ensureEphemeralPool_mounts htarget).bind fun _ => Body.Triple.modify fun _ _ hs => hs
  refine stepFn_triple (hpool.bind fun _ => keeps_mounts ?_) hs
  refine Body.Keeps.get_bind fun st _ => ?_
  refine (callOrHandle_keeps (by exact rfl) (fun _ _ _ => hrecords) _).bind fun rootExists => ?_
  exact Body.Keeps.ite (fun _ => Body.Keeps.pure _) fun _ => createRootDisk_quiet _

end Attempt

section Deletion

variable {scope : MachineScope} {host : LibvirtHost} {lm : LibvirtMachine} {name path : String}

-- Statements of a cleanup; where it ends early the object in memory is the one it started with.
abbrev Unmounts (name path : String) (lm : LibvirtMachine) (body : DeleteBody Unit)
    (post : TmpfsHost → Prop) : Prop :=
  Body.Triple (poolSummary name path) (PoolGuard name path)
    (fun lm' h => lm' = lm ∧ Single name path h) body (fun _ lm' h => lm' = lm ∧ post h)
    (fun _ lm' _ => lm' = lm)

theorem deleteCall_quiet {call : ClientCall} {what : String}
    (hquiet : poolCommands (.client (LibvirtHost.key host) call) = none) :
    Unmounts name path lm (deleteCall host call what) (Single name path) := by
  refine Body.Triple.perform_bind (fun _ _ hs => poolGuard_of_quiet hquiet hs.2) fun reply => ?_
  have hkept {lm' : LibvirtMachine} {after : TmpfsHost} (h : ∃ before, (lm' = lm ∧ Single name path before) ∧
      poolSummary name path before (.client (LibvirtHost.key host) call) reply after) :
      lm' = lm ∧ Single name path after := by
    obtain ⟨before, hs, hstep⟩ := h
    exact (poolSummary_quiet hquiet).mp hstep ▸ hs
  cases reply with
  | ok value => exact Body.Triple.pure fun _ _ h => hkept h
  | error err =>
    exact Body.Triple.ite (fun _ => Body.Triple.pure fun _ _ h => hkept h) fun _ =>
      Body.Triple.leave fun _ _ h => (hkept h).1

theorem deleteBootstrapArtifacts_quiet :
    Unmounts name path lm (deleteBootstrapArtifacts scope) (Single name path) := by
  rw [deleteBootstrapArtifacts]
  split
  · refine Body.Triple.perform_bind (fun _ _ hs => hs.2) fun reply => ?_
    rintro lm' after ⟨before, hs, rfl⟩
    exact hs
  · exact deleteCall_quiet rfl
  · exact Body.Triple.pure fun _ _ hs => hs

theorem deleteAdditionalDisks_quiet (disks : List AdditionalDiskSpec) :
    Unmounts name path lm (deleteAdditionalDisks scope disks) (Single name path) := by
  induction disks with
  | nil => exact Body.Triple.pure fun _ _ hs => hs
  | cons disk rest ih => exact Body.Triple.bind (deleteCall_quiet rfl) fun _ => ih

theorem deleteEphemeralPool_unmounts (heph : scope.libvirtMachine.spec.rootDisk.ephemeralPool = true) :
    Unmounts scope.ephemeralPoolName path lm (deleteEphemeralPool scope)
      (fun h => Single scope.ephemeralPoolName path h ∧ h.mounts path = 0) := by
  rw [deleteEphemeralPool, if_pos heph]
  refine Body.Triple.perform_bind (fun _ _ hs => ⟨hs.2, rfl⟩) fun reply => ?_
  cases reply with
  | ok value =>
    refine Body.Triple.pure fun _ _ h => ?_
    obtain ⟨before, hs, hstep⟩ := h
    exact ⟨hs.1, hstep.1, hstep.2.1 rfl⟩
  | error err =>
    refine Body.Triple.ite (fun hnotfound => Body.Triple.pure fun _ _ h => ?_) fun _ =>
      Body.Triple.leave fun _ _ h => ?_
    · obtain ⟨before, hs, hstep⟩ := h
      cases (hstep.2.2 err rfl).symm.trans hnotfound
    · obtain ⟨before, hs, hstep⟩ := h
      exact hs.1

theorem deleteNodeObject_unmounted (nodeName : String) :
    Body.Triple (poolSummary name path) (PoolGuard name path)
      (fun lm' h => lm' = lm ∧ Single name path h ∧ h.mounts path = 0) (deleteNodeObject nodeName)
      (fun _ lm' h => lm' = lm ∧ h.mounts path = 0) (fun _ lm' _ => lm' = lm) := by
  refine Body.Triple.perform_bind (fun _ _ hs => hs.2.1) fun found => ?_
  cases found with
  | error err =>
    rintro lm' after ⟨before, hs, rfl⟩
    exact ⟨hs.1, hs.2.2⟩
  | ok node =>
    refine Body.Triple.perform_bind (fun lm' after h => ?_) fun deleted => ?_
    · obtain ⟨before, hs, rfl⟩ := h
      exact hs.2.1
    · rintro lm' after ⟨middle, ⟨before, hs, rfl⟩, rfl⟩
      exact ⟨hs.1, hs.2.2⟩

theorem cleanUp_unmounts (heph : scope.libvirtMachine.spec.rootDisk.ephemeralPool = true) :
    Unmounts scope.ephemeralPoolName path lm (cleanUp scope) (fun h => h.mounts path = 0) := by
  have hdomain : Unmounts scope.ephemeralPoolName path lm (deleteDomain scope)
      (Single scope.ephemeralPoolName path) :=
    Body.Triple.bind (deleteCall_quiet rfl) fun _ => deleteCall_quiet rfl
  refine Body.Triple.bind hdomain fun _ => ?_
  refine Body.Triple.bind (deleteCall_quiet rfl) fun _ => ?_
  refine Body.Triple.bind deleteBootstrapArtifacts_quiet fun _ => ?_
  refine Body.Triple.bind (deleteAdditionalDisks_quiet _) fun _ => ?_
  exact Body.Triple.bind (deleteEphemeralPool_unmounts heph) fun _ => deleteNodeObject_unmounted _

theorem readOp_quiet {op : Op} (h : ReadOp op) : poolCommands op = none := by
  cases op with
  | client host call => exact h.elim
  | _ => rfl

theorem reconcileDelete_unmounts (deps : Deps) (hfinalizer : scope.libvirtMachine.containsFinalizer = true)
    (heph : scope.libvirtMachine.spec.rootDisk.ephemeralPool = true) {h : TmpfsHost}
    (hs : Single scope.ephemeralPoolName path h) :
    Holds (poolSummary scope.ephemeralPoolName path) (PoolGuard scope.ephemeralPoolName path)
      (fun out after => out.2.containsFinalizer = false → after.mounts path = 0)
      (reconcileDelete deps scope.libvirtMachine scope.cluster scope.libvirtHost) h := by
  have hkept {lm' : LibvirtMachine} (hsame : lm'.containsFinalizer = true) (after : TmpfsHost)
      (hremoved : lm'.containsFinalizer = false) : after.mounts path = 0 :=
    Bool.noConfusion (hremoved.symm.trans hsame)
  have hclients (w : TmpfsHost) (hw : Single scope.ephemeralPoolName path w) :
      Holds (poolSummary scope.ephemeralPoolName path) (PoolGuard scope.ephemeralPoolName path)
        (fun _ => Single scope.ephemeralPoolName path) (createClients deps scope.libvirtHost) w := by
    have hemits : Emits anyReply ReadOp (fun _ => True) (createClients deps scope.libvirtHost) :=
      createClients_emits deps scope.libvirtHost
    refine (hemits.holds hw (fun _ _ hb hread => poolGuard_of_quiet (readOp_quiet hread) hb)
      fun _ _ _ _ hb hread hstep => ⟨trivial, ?_⟩).post_mono fun _ _ hend => hend.2
    exact (poolSummary_quiet (readOp_quiet hread)).mp hstep ▸ hb
  refine reconcileDelete_holds_of_cleanUp (Single scope.ephemeralPoolName path)
    (fun _ => Single scope.ephemeralPoolName path) (fun hno => ?_)
    (fun _ _ _ w _ => hkept hfinalizer w) hclients (fun _ _ _ w _ => hkept hfinalizer w)
    (fun w hw => ?_) hs
  · exact Bool.noConfusion (hno.symm.trans hfinalizer)
  · refine (cleanUp_unmounts heph scope.libvirtMachine w ⟨rfl, hw⟩).post_mono ?_
    rintro ⟨out, lm'⟩ after hout
    cases out with
    | ok _ => exact fun _ => hout.2
    | error ret =>
      obtain rfl : lm' = scope.libvirtMachine := hout
      exact hkept hfinalizer after

end Deletion

section Runs

variable {scope : MachineScope} {start after : TmpfsHost}

theorem SameMachine.ephemeralPoolName {other : MachineScope} (h : SameMachine scope other) :
    other.ephemeralPoolName = scope.ephemeralPoolName := congrArg (· ++ "-pool") h.base

theorem SameMachine.ephemeralPoolPath {other : MachineScope} (h : SameMachine scope other) :
    other.ephemeralPoolPath = scope.ephemeralPoolPath := congrArg ("/run/caplv/" ++ ·) h.base

theorem ephemeralPoolPath_ne_empty (scope : MachineScope) : scope.ephemeralPoolPath ≠ "" := by
  intro hempty
  have hlength := congrArg String.length hempty
  simp [MachineScope.ephemeralPoolPath] at hlength

theorem Attempts.single
    (h : Attempts (carefulStep scope.ephemeralPoolName scope.ephemeralPoolPath) scope start after)
    (hs : Single scope.ephemeralPoolName scope.ephemeralPoolPath start) :
    Single scope.ephemeralPoolName scope.ephemeralPoolPath after := by
  induction h with
  | none => exact hs
  | @run middle after rc st events rest _ hsame hrun ih =>
    have hmiddle : Single rc.machineScope.ephemeralPoolName scope.ephemeralPoolPath middle := by
      rw [hsame.ephemeralPoolName]
      exact ih
    have hmounts := reconcileRootDisk_mounts hsame.ephemeralPoolPath st hmiddle
    rw [hsame.ephemeralPoolName] at hmounts
    have hrest := (expand_stacks (ephemeralPoolPath_ne_empty scope) hmounts).exec hrun
    cases rest with
    | done value => exact hrest
    | ask op next => exact hrest.1

end Runs

-- As long as no lookup says the pool is missing where a tmpfs is mounted, and umount takes away
-- what is there, no attempt mounts a second tmpfs and a deletion that removes the finalizer leaves none.
theorem tmpfs_singly_mounted (scope : MachineScope) (start after : TmpfsHost)
    (heph : scope.libvirtMachine.spec.rootDisk.ephemeralPool = true)
    (hnone : start.mounts scope.ephemeralPoolPath = 0)
    (htarget : ∀ p, start.pools scope.ephemeralPoolName = some p → p.path = scope.ephemeralPoolPath)
    (hattempts : Attempts (carefulStep scope.ephemeralPoolName scope.ephemeralPoolPath) scope start after) :
    after.mounts scope.ephemeralPoolPath ≤ 1 ∧
      ∀ (deps : Deps) (other : MachineScope) (out : Return × LibvirtMachine) (final : TmpfsHost),
        SameMachine scope other → other.libvirtMachine.containsFinalizer = true →
        Completes (onTmpfs (carefulStep scope.ephemeralPoolName scope.ephemeralPoolPath))
          ((reconcileDelete deps other.libvirtMachine other.cluster other.libvirtHost).expand poolCommands)
          after out final →
        out.2.containsFinalizer = false → final.mounts scope.ephemeralPoolPath = 0 := by
  have hsingle := hattempts.single ⟨hnone.le.trans (Nat.zero_le 1), htarget⟩
  refine ⟨hsingle.mounts, fun deps other out final hsame hfinalizer hdeleted => ?_⟩
  have hother : other.libvirtMachine.spec.rootDisk.ephemeralPool = true := by
    rw [hsame.rootDisk]
    exact heph
  rw [← hsame.ephemeralPoolName] at hsingle hdeleted
  have hunmounts := reconcileDelete_unmounts deps hfinalizer hother hsingle
  exact (expand_stacks (ephemeralPoolPath_ne_empty scope) hunmounts).completes hdeleted

def tmpfsMachine : Program.Machine (signature.sum tmpfs) TmpfsHost := fun h op =>
  match op with
  | .inl op => (freshAnswer op, h)
  | .inr (.inl cmd) => h.setUp cmd
  | .inr (.inr cmd) => h.tearDown cmd

theorem tmpfsMachine_step (h : TmpfsHost) (op : (signature.sum tmpfs).Op) :
    onTmpfs tmpfsStep h op (tmpfsMachine h op).1 (tmpfsMachine h op).2 := by
  rcases op with op | cmd | cmd
  · rfl
  · exact Or.inl rfl
  · exact Or.inl rfl

def bareTmpfs : TmpfsHost := ⟨fun _ => 0, fun _ => false, fun _ => none⟩

def tmpfsScope : MachineScope := ⟨sampleCluster, ephemeralMachine.addFinalizer, sampleHost⟩

def tmpfsCtx : ReconcileCtx :=
  ⟨ephemeralMachine.addFinalizer, sampleOwner, sampleCluster, sampleLibvirtCluster, sampleHost, 2, 2048⟩

def tmpfsVars : RunState :=
  { status := ephemeralMachine.status
    providerID := none
    storagePool := "default" }

def tmpfsAttempt : Prog (signature.sum tmpfs) (Option GoError × RunState) :=
  (reconcileRootDisk tmpfsCtx tmpfsVars).expand poolCommands

def tmpfsDeletion : Prog (signature.sum tmpfs) (Return × LibvirtMachine) :=
  (reconcileDelete sampleDeps tmpfsScope.libvirtMachine tmpfsScope.cluster tmpfsScope.libvirtHost).expand
    poolCommands

theorem tmpfsCtx_same : SameMachine tmpfsScope tmpfsCtx.machineScope := ⟨rfl, rfl, rfl, rfl⟩

-- The first attempt stops after pool-info, mkdir and mount; the second goes through.
def cutHost : TmpfsHost := (runFor tmpfsMachine 3 tmpfsAttempt bareTmpfs).2

def retriedHost : TmpfsHost := (runFor tmpfsMachine 20 tmpfsAttempt cutHost).2

theorem tmpfs_stacked :
    tmpfsScope.libvirtMachine.spec.rootDisk.ephemeralPool = true ∧
      bareTmpfs.mounts tmpfsScope.ephemeralPoolPath = 0 ∧ bareTmpfs.pools tmpfsScope.ephemeralPoolName = none ∧
      Attempts tmpfsStep tmpfsScope bareTmpfs retriedHost ∧
      retriedHost.mounts tmpfsScope.ephemeralPoolPath = 2 ∧
      let out := run tmpfsMachine tmpfsDeletion retriedHost
      out.1.2.containsFinalizer = false ∧ out.2.mounts tmpfsScope.ephemeralPoolPath = 1 := by
  have hattempt (n : Nat) {before : TmpfsHost} (h : Attempts tmpfsStep tmpfsScope bareTmpfs before) :
      Attempts tmpfsStep tmpfsScope bareTmpfs (runFor tmpfsMachine n tmpfsAttempt before).2 := by
    obtain ⟨events, hexec⟩ := exec_of_permits (fun before op _ => tmpfsMachine_step before op) n
      (permits_of_forall (fun _ _ => rfl) n tmpfsAttempt before)
    have hrun : Exec (onTmpfs tmpfsStep) ((reconcileRootDisk tmpfsCtx tmpfsVars).expand poolCommands) before
        events (runFor tmpfsMachine n tmpfsAttempt before).1 (runFor tmpfsMachine n tmpfsAttempt before).2 := hexec
    exact .run h tmpfsCtx_same hrun
  exact ⟨rfl, rfl, rfl, hattempt 20 (hattempt 3 .none), by decide +kernel, by decide +kernel⟩

def careful (name path : String) (h : TmpfsHost) : (signature.sum tmpfs).Op → Bool
  | .inr (.inl (.poolInfo _)) | .inr (.inr (.poolDumpxml _)) => h.mounts path == 0 || (h.pools name).isSome
  | _ => true

theorem tmpfsMachine_careful {name path : String} (h : TmpfsHost) (op : (signature.sum tmpfs).Op)
    (hcareful : careful name path h op = true) :
    onTmpfs (carefulStep name path) h op (tmpfsMachine h op).1 (tmpfsMachine h op).2 := by
  have hlookup (hfound : (h.mounts path == 0 || (h.pools name).isSome) = true)
      (hmounted : h.mounts path ≠ 0) : ∃ p, h.pools name = some p := by
    rw [← Option.isSome_iff_exists]
    simpa [hmounted] using hfound
  rcases op with op | cmd | cmd
  · rfl
  · refine ⟨.inl rfl, ?_⟩
    cases cmd with
    | poolInfo other =>
      rintro rfl hmounted failure hreply
      obtain ⟨p, hp⟩ := hlookup hcareful hmounted
      simp only [tmpfsMachine, TmpfsHost.setUp, hp] at hreply
      cases hreply
    | _ => trivial
  · refine ⟨.inl rfl, ?_⟩
    cases cmd with
    | poolDumpxml other =>
      rintro rfl hmounted failure hreply
      obtain ⟨p, hp⟩ := hlookup hcareful hmounted
      simp only [tmpfsMachine, TmpfsHost.tearDown, hp] at hreply
      cases hreply
    | umount other =>
      rintro rfl hmounted
      simp only [tmpfsMachine, TmpfsHost.tearDown, if_neg hmounted, TmpfsHost.setMounts, Function.update_self]
      omega
    | _ => trivial

-- One attempt that goes through, and the deletion.
def provisionedTmpfs : TmpfsHost := (runFor tmpfsMachine 20 tmpfsAttempt bareTmpfs).2

theorem tmpfs_singly_mounted_provisioned :
    provisionedTmpfs.mounts tmpfsScope.ephemeralPoolPath = 1 ∧
      (run tmpfsMachine tmpfsDeletion provisionedTmpfs).2.mounts tmpfsScope.ephemeralPoolPath = 0 := by
  have hattempt : permits tmpfsMachine (careful tmpfsScope.ephemeralPoolName tmpfsScope.ephemeralPoolPath) 20
      tmpfsAttempt bareTmpfs = true := by decide +kernel
  obtain ⟨events, hexec⟩ := exec_of_permits tmpfsMachine_careful 20 hattempt
  have hrun : Exec (onTmpfs (carefulStep tmpfsScope.ephemeralPoolName tmpfsScope.ephemeralPoolPath))
      ((reconcileRootDisk tmpfsCtx tmpfsVars).expand poolCommands) bareTmpfs events
      (runFor tmpfsMachine 20 tmpfsAttempt bareTmpfs).1 provisionedTmpfs := hexec
  obtain ⟨-, hdeletion⟩ := tmpfs_singly_mounted tmpfsScope bareTmpfs provisionedTmpfs rfl rfl
    (fun _ hp => nomatch hp) (.run .none tmpfsCtx_same hrun)
  have hpermitted : permitted tmpfsMachine (careful tmpfsScope.ephemeralPoolName tmpfsScope.ephemeralPoolPath)
      tmpfsDeletion provisionedTmpfs = true := by decide +kernel
  have hremoved : (run tmpfsMachine tmpfsDeletion provisionedTmpfs).1.2.containsFinalizer = false := by
    decide +kernel
  have hdeleted := completes_of_permitted tmpfsMachine_careful hpermitted
  exact ⟨by decide +kernel, hdeletion sampleDeps tmpfsScope _ _ tmpfsCtx_same rfl hdeleted hremoved⟩

end Caplv.Controller

import Caplv.Controller.Handling
import Caplv.Controller.Provision

namespace Caplv.Controller

open Text Api Libvirt Scope Program

-- No client call reports a terminal error. An error for an absent target is never one.
def noTerminal : Replies signature := fun op reply =>
  match op, reply with
  | .client _ call, reply =>
    ∀ err, (reply : Except GoError call.Result) = .error err → err.isTerminal = false
  | _, _ => True

abbrev InPool (pool : String) (st : RunState) : Prop := st.storagePool = pool

-- How the root disk step ends: with an error, in the pool, or with a terminal failure that was
-- recorded before it came to the disk.
def Settles (replies : Replies signature) (rc : ReconcileCtx) (pool : String) (err : Option GoError)
    (st : RunState) : Prop :=
  err = none → st.storagePool = pool ∨
    (∃ call err, replies (.client rc.hostKey call) (.error err) ∧ err.isTerminal = true) ∧
      st.status.failureReason.isSome = true

-- Every client call of the host work while no terminal error is reported: the root disk step
-- has then settled the pool before the steps that use it.
inductive SettledCall (deps : Deps) (rc : ReconcileCtx) : ClientCall → Prop where
  | staging {call : ClientCall} (h : StagingCall rc call) : SettledCall deps rc call
  | rootDisk {call : ClientCall} (h : RootDiskCall rc (· = deletionPool rc.machineScope) call) :
      SettledCall deps rc call
  | bootstrap {call : ClientCall} (h : BootstrapCall rc (· = deletionPool rc.machineScope) call) :
      SettledCall deps rc call
  | disk {call : ClientCall} (disk : AdditionalDiskSpec) (hdisk : disk ∈ rc.spec.additionalDisks)
      (h : DiskCall rc disk call) : SettledCall deps rc call
  | bootFile {call : ClientCall} (h : BootFileCall deps rc call) : SettledCall deps rc call
  | domain {call : ClientCall} (h : DomainCall rc (· = deletionPool rc.machineScope) call) :
      SettledCall deps rc call

structure SettledPolicy (deps : Deps) (rc : ReconcileCtx) (allowed : Op → Prop) : Prop where
  localOp : ∀ op, LocalOp op → allowed op
  record : ∀ reason message, allowed (.recordFailure reason message)
  enter : ∀ phase, allowed (.enter phase)
  node : ∀ op, NodeOp rc.domainName op → allowed op
  call : ∀ call, SettledCall deps rc call → allowed (.client rc.hostKey call)

section RootDisk

variable {replies : Replies signature} {allowed : Op → Prop} {rc : ReconcileCtx} {pool : String}

-- Specifications of statements by their operations and the local state.
abbrev Issues {ρ α : Type} (replies : Replies signature) (allowed : Op → Prop) (pre : RunState → Prop)
    (body : Body signature RunState ρ α) (post : RunState → Prop) (exit : ρ → RunState → Prop) : Prop :=
  Body.Triple (fun (_ : Unit) op reply _ => replies op reply) (fun _ op => allowed op)
    (fun st _ => pre st) body (fun _ st _ => post st) (fun out st _ => exit out st)

theorem keeps_issues {ρ α : Type} {inv : RunState → Prop} {body : Body signature RunState ρ α}
    {exit : ρ → RunState → Prop} (h : Body.Keeps replies allowed inv body)
    (hexit : ∀ out st, inv st → exit out st) : Issues replies allowed inv body inv exit := by
  rintro st ⟨⟩ hst
  refine Holds.post_mono (h st hst) ?_
  rintro ⟨out, after⟩ _ hafter
  cases out with
  | error value => exact hexit value after hafter
  | ok value => exact hafter

theorem callOrHandle_settles (hrecord : ∀ reason message, allowed (.recordFailure reason message))
    {call : ClientCall} (hcall : allowed (.client rc.hostKey call)) (operation : String) :
    Issues replies allowed (fun _ => True) (callOrHandle rc call operation) (fun _ => True)
      (Settles replies rc pool) := by
  refine Body.Triple.perform_bind (fun _ _ _ => hcall) fun reply => ?_
  cases reply with
  | ok value => exact Body.Triple.pure fun _ _ _ => trivial
  | error err =>
    rintro st _ ⟨_, -, hreply⟩
    change Holds _ _ _ ((handleLibvirtError err operation).exec st) _
    rw [handleLibvirtError]
    by_cases hterminal : err.isTerminal = true
    · rw [if_pos hterminal]
      exact ⟨hrecord _ _, fun _ _ _ _ => .inr ⟨⟨call, err, hreply, hterminal⟩, rfl⟩⟩
    · rw [if_neg hterminal]
      exact nofun

variable (hrecord : ∀ reason message, allowed (.recordFailure reason message))
  (hcall : ∀ call, RootDiskCall rc (· = pool) call → allowed (.client rc.hostKey call))

include hrecord hcall

theorem reviveEphemeralPool_settles (heph : rc.spec.rootDisk.ephemeralPool = true) :
    Issues replies allowed (fun _ => True) (reviveEphemeralPool rc) (fun _ => True)
      (Settles replies rc pool) := by
  refine Body.Triple.bind (callOrHandle_settles hrecord (hcall _ (.poolIsActive heph)) _) fun active => ?_
  refine Body.Triple.ite (fun _ => Body.Triple.pure fun _ _ _ => trivial) fun _ => ?_
  refine Body.Triple.perform_bind (fun _ _ _ => hcall _ (.startPool heph)) fun started => ?_
  cases started with
  | ok _ => exact Body.Triple.pure fun _ _ _ => trivial
  | error _ =>
    have hdestroy (operation : String) : Issues replies allowed _ _ _ (Settles replies rc pool) :=
      callOrHandle_settles hrecord (hcall _ (.destroyPool heph)) operation
    refine Body.Triple.bind (fun st w _ => hdestroy _ st w trivial) fun _ => ?_
    exact Body.Triple.pure fun _ _ h => h

theorem ensureEphemeralPool_settles (heph : rc.spec.rootDisk.ephemeralPool = true) :
    Issues replies allowed (fun _ => True) (ensureEphemeralPool rc) (fun _ => True)
      (Settles replies rc pool) := by
  refine Body.Triple.bind (callOrHandle_settles hrecord (hcall _ (.poolExists heph)) _) fun defined => ?_
  refine Body.Triple.bind (Body.Triple.ite (fun _ => reviveEphemeralPool_settles hrecord hcall heph)
    fun _ => Body.Triple.pure fun _ _ h => h) fun usable => ?_
  refine Body.Triple.ite (fun _ => Body.Triple.pure fun _ _ h => h) fun _ => ?_
  exact callOrHandle_settles hrecord (hcall _ (.createTmpfsPool heph)) _

end RootDisk

section HostWork

variable {replies : Replies signature} {allowed : Op → Prop} {deps : Deps} {rc : ReconcileCtx}

theorem reconcileRootDisk_settles (hrecord : ∀ reason message, allowed (.recordFailure reason message))
    (hcall : ∀ call, RootDiskCall rc (· = deletionPool rc.machineScope) call →
      allowed (.client rc.hostKey call))
    {st : RunState} (hst : InPool rc.spec.rootDisk.storagePool st) :
    Emits replies allowed (fun out => Settles replies rc (deletionPool rc.machineScope) out.1 out.2)
      (reconcileRootDisk rc st) := by
  have hrecords : Records replies allowed (InPool (deletionPool rc.machineScope)) :=
    ⟨hrecord, fun _ _ _ _ h => h⟩
  have hpool : Issues replies allowed (InPool rc.spec.rootDisk.storagePool)
      (if rc.spec.rootDisk.ephemeralPool then do
        ensureEphemeralPool rc
        Body.modify fun st => { st with storagePool := rc.machineScope.ephemeralPoolName }
      else pure ()) (InPool (deletionPool rc.machineScope))
      (Settles replies rc (deletionPool rc.machineScope)) := by
    refine Body.Triple.ite (fun heph => ?_) fun heph => ?_
    · have hensure : Issues replies allowed _ _ _ _ := ensureEphemeralPool_settles hrecord hcall heph
      refine Body.Triple.bind (fun st w _ => hensure st w trivial) fun _ => ?_
      exact Body.Triple.modify fun _ _ _ => (if_pos heph).symm
    · exact Body.Triple.pure fun _ _ h => h.trans (if_neg heph).symm
  refine stepFn_triple (hpool.bind fun _ => ?_) hst
  refine Body.Triple.mono (keeps_issues ?_ fun _ _ h _ => .inl h) (fun _ _ _ h _ => .inl h)
    fun _ _ _ h => h
  refine Body.Keeps.get_bind fun st hst => ?_
  rw [hst]
  refine (callOrHandle_keeps (hcall _ (.lookup _ rfl)) (fun _ _ _ => hrecords) _).bind fun rootExists => ?_
  refine Body.Keeps.ite (fun _ => Body.Keeps.pure _) fun _ => createRootDisk_keeps
    (· = deletionPool rc.machineScope) (fun call h operation => ?_) (fun call h _ operation => ?_) rfl
  · exact callOrHandle_keeps (hcall call h) (fun _ _ _ => hrecords) operation
  · exact callOnBaseImage_keeps (hcall call h) (fun _ _ _ => hrecords) (fun _ _ _ => hrecords) operation

variable (h : SettledPolicy deps rc allowed)

include h

theorem SettledPolicy.records (pool : String) : Records replies allowed (InPool pool) :=
  ⟨h.record, fun _ _ _ _ hst => hst⟩

theorem SettledPolicy.callOrHandle {pool : String} {call : ClientCall} (hcall : SettledCall deps rc call)
    (operation : String) : Body.Keeps replies allowed (InPool pool) (callOrHandle rc call operation) :=
  callOrHandle_keeps (h.call call hcall) (fun _ _ _ => h.records pool) operation

theorem runStep_rootDisk_settles :
    Issues noTerminal allowed (InPool rc.spec.rootDisk.storagePool)
      (runStep (reconcileRootDisk rc)) (InPool (deletionPool rc.machineScope)) (fun _ _ => True) := by
  have hcall : Body.Triple (fun (_ : Unit) op reply _ => noTerminal op reply) (fun _ op => allowed op)
      (fun st _ => InPool rc.spec.rootDisk.storagePool st) (Body.call (reconcileRootDisk rc) : NormalBody _)
      (fun err st _ => Settles noTerminal rc (deletionPool rc.machineScope) err st) (fun _ _ _ => True) :=
    Body.Triple.call fun st w hst =>
      reconcileRootDisk_settles h.record (fun call hcall => h.call call (.rootDisk hcall)) hst
  refine hcall.bind fun err => ?_
  cases err with
  | some err => exact Body.Triple.leave fun _ _ _ => trivial
  | none =>
    refine Body.Triple.pure fun st _ hend => ?_
    rcases hend rfl with hst | ⟨⟨call, err, hreply, hterminal⟩, -⟩
    · exact hst
    · exact nomatch (hreply err rfl).symm.trans hterminal

theorem prepareArtifacts_settles :
    Issues noTerminal allowed (InPool rc.spec.rootDisk.storagePool) (prepareArtifacts deps rc)
      (InPool (deletionPool rc.machineScope)) (fun _ _ => True) := by
  have hrecords : Records noTerminal allowed _ := h.records (deletionPool rc.machineScope)
  have hbase : Fn.Keeps noTerminal allowed (InPool rc.spec.rootDisk.storagePool)
      (reconcileBaseImage deps rc) :=
    reconcileBaseImage_keeps (fun _ _ _ _ hst => hst) h.localOp fun _ hcall => h.callOrHandle (.staging hcall)
  have hbootstrap : Fn.Keeps noTerminal allowed (InPool (deletionPool rc.machineScope))
      (reconcileBootstrapArtifacts deps rc) :=
    reconcileBootstrapArtifacts_keeps (· = deletionPool rc.machineScope) (fun _ hst => hst) h.localOp
      ⟨fun _ _ _ _ _ => hrecords, fun _ _ => hrecords⟩ fun _ hcall => h.callOrHandle (.bootstrap hcall)
  have hdisks : Fn.Keeps noTerminal allowed (InPool (deletionPool rc.machineScope))
      (reconcileAdditionalDisks rc) :=
    reconcileAdditionalDisks_keeps (fun _ _ _ hst => hst) fun disk hdisk _ hcall =>
      h.callOrHandle (.disk disk hdisk hcall)
  have hboot : Fn.Keeps noTerminal allowed (InPool (deletionPool rc.machineScope))
      (reconcileBootArtifacts deps rc) :=
    reconcileBootArtifacts_keeps (fun _ _ _ _ hst => hst) h.localOp fun _ hcall =>
      h.callOrHandle (.bootFile hcall)
  refine Body.Triple.bind (keeps_issues (runStep_keeps hbase) fun _ _ _ => trivial) fun _ => ?_
  refine Body.Triple.bind (Body.Triple.perform (fun _ _ _ => h.enter _) fun _ _ _ _ hst _ => hst) fun _ => ?_
  refine Body.Triple.bind (runStep_rootDisk_settles h) fun _ => ?_
  refine keeps_issues (Body.Keeps.perform_bind (h.enter _) fun _ _ => ?_) fun _ _ _ => trivial
  refine (runStep_keeps hbootstrap).bind fun _ => ?_
  refine Body.Keeps.perform_bind (h.enter _) fun _ _ => ?_
  refine (runStep_keeps hdisks).bind fun _ => ?_
  refine Body.Keeps.perform_bind (h.enter _) fun _ _ => ?_
  exact runStep_keeps hboot

theorem bringUpDomain_settles :
    Body.Keeps noTerminal allowed (InPool (deletionPool rc.machineScope)) (bringUpDomain deps rc) := by
  have hrecords : Records noTerminal allowed _ := h.records (deletionPool rc.machineScope)
  have hdomain : Fn.Keeps noTerminal allowed (InPool (deletionPool rc.machineScope)) (reconcileDomain deps rc) :=
    reconcileDomain_keeps (· = deletionPool rc.machineScope) hrecords (fun _ hst => hst)
      fun call hcall => domainCall_keeps (h.call call (.domain hcall)) fun _ _ _ => hrecords
  refine Body.Keeps.perform_bind (h.enter _) fun _ _ => ?_
  refine (Body.Keeps.call hdomain).bind fun out => ?_
  rcases out with err | _ | domainInfo
  · exact Body.Keeps.leave _
  · exact Body.Keeps.leave _
  · exact Body.Keeps.pure _

theorem hostWork_settles :
    Issues noTerminal allowed (InPool rc.spec.rootDisk.storagePool) (hostWork deps rc) (fun _ => True)
      (fun _ _ => True) := by
  have hlabels : Fn.Keeps noTerminal allowed (InPool (deletionPool rc.machineScope))
      (onStatus (reconcileNodeLabels rc.libvirtMachine rc.domainName)) := by
    intro st hst
    exact ((reconcileNodeLabels_emits _ _ st.status).mono (fun _ _ hr => hr) h.node fun _ hout => hout).bind
      fun _ _ => hst
  refine Body.Triple.bind (prepareArtifacts_settles h) fun _ => ?_
  refine Body.Triple.mono (keeps_issues ?_ fun _ _ _ => trivial) (fun _ _ _ _ => trivial) fun _ _ _ hout => hout
  refine (bringUpDomain_settles h).bind fun domainInfo => ?_
  exact Body.Keeps.bind (Body.Keeps.modify fun _ hst => hst) fun _ => Body.Keeps.call hlabels

theorem provision_settles (hpreflight : ∀ op, PreflightOp rc op → allowed op) {st : RunState}
    (hst : InPool rc.spec.rootDisk.storagePool st) :
    Emits noTerminal allowed (fun _ => True) (provision deps rc st) := by
  have hchecks : Body.Keeps noTerminal allowed (InPool rc.spec.rootDisk.storagePool) (preflight deps rc) :=
    fun st hst => ((preflight_keeps deps rc fun _ _ hst => hst) st hst).mono (fun _ _ hr => hr) hpreflight
      fun _ hout => hout
  have hbody : Issues noTerminal allowed (InPool rc.spec.rootDisk.storagePool)
      (do preflight deps rc; issue (.enter .baseImage); hostWork deps rc) (fun _ => True)
      (fun _ _ => True) := by
    refine Body.Triple.bind (keeps_issues hchecks fun _ _ _ => trivial) fun _ => ?_
    refine Body.Triple.bind (Body.Triple.perform (fun _ _ _ => h.enter _) fun _ _ _ _ hst _ => hst) fun _ => ?_
    exact hostWork_settles h
  exact Body.Triple.run hbody hst

end HostWork

end Caplv.Controller

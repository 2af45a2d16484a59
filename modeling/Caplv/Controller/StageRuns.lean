import Caplv.Controller.StageLaws
import Caplv.Controller.OnHost
import Caplv.Controller.Provision

namespace Caplv.Controller

open Text Api Libvirt Scope Program

def RunState.SameVars (st vars : RunState) : Prop :=
  ∃ status providerID, st = { vars with status := status, providerID := providerID }

def Falls {ρ α : Type} (out : Except ρ α × RunState) (vars : RunState) : Prop :=
  (∃ value, out.1 = .ok value) ∧ RunState.SameVars out.2 vars

def Passes {α : Type} (out : Except (Option GoError) α × RunState) (vars : RunState) : Prop :=
  ((∃ value, out.1 = .ok value) ∨ out.1 = .error none) ∧ RunState.SameVars out.2 vars

def Errs {α : Type} (out : Except (Option GoError) α × RunState) : Prop := ∃ e, out.1 = .error (some e)

def StepPasses (out : Option GoError × RunState) (vars : RunState) : Prop :=
  out.1 = none ∧ RunState.SameVars out.2 vars

def StepErrs (out : Option GoError × RunState) : Prop := ∃ e, out.1 = some e

section Rules

variable {newUUID : DomainXML → String} {answers : (op : Op) → Reply op} {stage : HostStage}
  {vars st : RunState} {before now after : Host} {rc : ReconcileCtx}

theorem RunState.SameVars.status (h : RunState.SameVars st vars) (status : LibvirtMachineStatus) :
    RunState.SameVars { st with status := status } vars := by
  obtain ⟨_, providerID, rfl⟩ := h
  exact ⟨status, providerID, rfl⟩

def OffHost : Op → Prop
  | .client _ _ | .getNode _ | .patchNode _ _ | .deleteNode _ => False
  | _ => True

theorem offHost_of_localOp (op : Op) (h : LocalOp op) : OffHost op := by
  cases op <;> trivial

theorem offHost_holds {α : Type} {prog : Prog signature α} {post : α → Prop}
    (h : Emits anyReply OffHost post prog) (before : Host) :
    Holds (hostMachine newUUID answers).handler (fun mid _ => mid = before)
      (fun value after => value = input answers prog ∧ after = before) prog before := by
  induction prog with
  | done value => exact ⟨rfl, rfl⟩
  | ask op next ih =>
    obtain ⟨hop, hnext⟩ := (emits_ask op next).mp h
    refine ⟨rfl, fun reply after hs => ?_⟩
    have hanswer : hostAnswer newUUID answers before op = (answers op, before) := by
      cases op <;> first | rfl | exact hop.elim
    obtain ⟨rfl, rfl⟩ := Prod.mk.inj (hanswer.symm.trans hs)
    exact ih _ (hnext _ trivial)

theorem local_bind_performing {α β : Type} {prog : Prog signature α} {f : α → Prog signature β}
    {goesOn : β → RunState → Prop} {stops : β → Prop} {post : α → Prop}
    (h : Emits anyReply LocalOp post prog)
    (hpath : stage.ok vars before → stage.path vars before now)
    (hf : Performing (hostMachine newUUID answers) stage goesOn stops vars before
      (f (input answers prog)) now) :
    Performing (hostMachine newUUID answers) stage goesOn stops vars before (prog >>= f) now := by
  have hoff := h.mono (fun _ _ hr => hr) offHost_of_localOp fun _ hpost => hpost
  refine Holds.bind ((offHost_holds hoff now).mono (fun _ _ _ _ hs => hs) ?_ fun _ _ hpost => hpost) ?_
  · rintro mid _ rfl
    exact hpath
  · rintro value after ⟨rfl, rfl⟩
    exact hf

section Bodies

variable {α : Type} {goesOn : Except (Option GoError) α × RunState → RunState → Prop}
  {operation : String}

abbrev BodyPerforming (newUUID : DomainXML → String) (answers : (op : Op) → Reply op)
    (stage : HostStage) (goesOn : Except (Option GoError) α × RunState → RunState → Prop)
    (vars : RunState) (before : Host) (body : StepBody α) (st : RunState) (now : Host) : Prop :=
  Performing (hostMachine newUUID answers) stage goesOn Errs vars before (body.exec st) now

theorem handleLibvirtError_performing {β : Type} {err : GoError} {f : β → StepBody α}
    (hpath : stage.ok vars before → stage.path vars before now)
    (hterminal : err.isTerminal = true → ∀ status, Performing (hostMachine newUUID answers) stage goesOn
      Errs vars before (.done (.error none, { st with status := status })) now)
    (hother : err.isTerminal = false → ¬ stage.ok vars before) :
    BodyPerforming newUUID answers stage goesOn vars before (handleLibvirtError err operation >>= f)
      st now := by
  cases hcase : err.isTerminal with
  | true =>
    rw [handleLibvirtError, hcase, if_pos rfl]
    exact Performing.ask hpath rfl (hterminal hcase _)
  | false =>
    rw [handleLibvirtError, hcase, if_neg Bool.false_ne_true]
    exact .inr ⟨hother hcase, _, rfl⟩

theorem callOrHandle_performing {call : ClientCall} {f : call.Result → StepBody α}
    {value : call.Result} (hpath : stage.ok vars before → stage.path vars before now)
    (hcall : now.call newUUID call = (.ok value, after))
    (hf : BodyPerforming newUUID answers stage goesOn vars before (f value) st after) :
    BodyPerforming newUUID answers stage goesOn vars before (callOrHandle rc call operation >>= f) st now :=
  Performing.ask hpath hcall hf

theorem callOrHandle_errs {call : ClientCall} {f : call.Result → StepBody α}
    {err : GoError} (hcall : now.call newUUID call = (.error err, now))
    (hterminal : err.isTerminal = false) (hnok : ¬ stage.ok vars before) :
    BodyPerforming newUUID answers stage goesOn vars before (callOrHandle rc call operation >>= f)
      st now := by
  have hpath : stage.ok vars before → stage.path vars before now := fun hok => (hnok hok).elim
  refine Performing.ask hpath hcall (handleLibvirtError_performing hpath (fun h => ?_) fun _ => hnok)
  exact Bool.noConfusion (h.symm.trans hterminal)

theorem bind_performs {β : Type} {body : StepBody α} {f : α → StepBody β}
    {a b : HostStage} {goesOn : Except (Option GoError) β × RunState → RunState → Prop}
    (hbody : BodyPerforming newUUID answers a Falls vars before body st before)
    (hf : ∀ value st', a.ok vars before → RunState.SameVars st' (a.next vars before).1 →
      BodyPerforming newUUID answers b goesOn (a.next vars before).1 (a.next vars before).2 (f value) st'
        (a.next vars before).2) :
    BodyPerforming newUUID answers (a.andThen b) goesOn vars before (body >>= f) st before := by
  refine Performs.bind hbody ?_ ?_
  · rintro ⟨out, st'⟩ hok ⟨⟨value, rfl⟩, hsame⟩
    exact hf value st' hok hsame
  · rintro ⟨out, st'⟩ after ⟨e, rfl⟩
    exact ⟨e, rfl⟩

theorem stepFn_performs {body : StepBody Unit}
    (h : BodyPerforming newUUID answers stage Passes vars before body st before) :
    Performs (hostMachine newUUID answers) stage StepPasses StepErrs (stepFn body st) vars before := by
  change Performs _ _ _ _ ((body.exec st >>= fun out => Body.andThen out fun _ => pure none) >>= _) _ _
  rw [bind_assoc]
  refine Performs.map h ?_ ?_
  · rintro ⟨out, st'⟩ vars' ⟨⟨value, rfl⟩ | rfl, hsame⟩
    · exact ⟨_, rfl, rfl, hsame⟩
    · exact ⟨_, rfl, rfl, hsame⟩
  · rintro ⟨out, st'⟩ ⟨e, rfl⟩
    exact ⟨_, rfl, e, rfl⟩

theorem Falls.passes {α : Type} {out : Except (Option GoError) α × RunState} {vars : RunState}
    (h : Falls out vars) : Passes out vars := ⟨.inl h.1, h.2⟩

theorem BodyPerforming.passes {body : StepBody α}
    (h : BodyPerforming newUUID answers stage Falls vars before body st now) :
    BodyPerforming newUUID answers stage Passes vars before body st now :=
  Holds.post_mono h fun _ _ hpost => hpost.imp (fun h => ⟨h.1, h.2.1.passes, h.2.2⟩) id

end Bodies

end Rules

section Steps

variable {newUUID : DomainXML → String} {answers : (op : Op) → Reply op} {deps : Deps}
  {rc : ReconcileCtx} {vars st : RunState} {stage : HostStage} {before : Host} {operation : String}
  {err : GoError}

theorem diskPath_performing {vars' : RunState} {before now : Host}
    (disk : AdditionalDiskSpec) (hsame : RunState.SameVars st vars') (hok : stage.ok vars before)
    (hseen : now.seen disk.storagePool (rc.machineScope.additionalDiskVolumeName disk) = some true)
    (hnext : stage.next vars before = ({ vars' with
      additionalDiskParams := vars'.additionalDiskParams ++
        [⟨now.pathOf disk.storagePool (rc.machineScope.additionalDiskVolumeName disk), disk.bus⟩] }, now)) :
    BodyPerforming newUUID answers stage Falls vars before (do
      let diskPath ← callOrHandle rc (.getVolumePath disk.storagePool
        (rc.machineScope.additionalDiskVolumeName disk)) "getting additional disk path"
      Body.modify fun st =>
        { st with additionalDiskParams := st.additionalDiskParams ++ [⟨diskPath, disk.bus⟩] }) st now := by
  have hnow := stage.path_next vars before hok
  rw [hnext] at hnow
  refine callOrHandle_performing (fun _ => hnow) (Host.call_getVolumePath_found hseen) (.inl ⟨hok, ?_⟩)
  rw [hnext]
  obtain ⟨status, providerID, rfl⟩ := hsame
  exact ⟨⟨⟨(), rfl⟩, status, providerID, rfl⟩, rfl⟩

theorem reconcileAdditionalDisk_performs (hsame : RunState.SameVars st vars) (disk : AdditionalDiskSpec)
    (before : Host) :
    BodyPerforming newUUID answers (diskStage rc disk) Falls vars before (reconcileAdditionalDisk rc disk)
      st before := by
  let name := rc.machineScope.additionalDiskVolumeName disk
  let vars' : RunState := { vars with additionalDiskVolumes := vars.additionalDiskVolumes ++ [name] }
  have hsame' : RunState.SameVars
      { st with additionalDiskVolumes := st.additionalDiskVolumes ++ [name] } vars' := by
    obtain ⟨status, providerID, rfl⟩ := hsame
    exact ⟨status, providerID, rfl⟩
  cases hseen : before.seen disk.storagePool name with
  | none =>
    refine callOrHandle_errs (Host.call_volumeExists_inactive hseen)
      (classify_transient _ _ (Host.category_eq _)).2 ?_
    rintro ⟨p, hp, hactive⟩
    simp [Host.seen, hp, hactive] at hseen
  | some found =>
    cases found with
    | true =>
      obtain ⟨husable, hvolume⟩ := Host.seen_eq_true_iff.mp hseen
      refine callOrHandle_performing (Stage.path_first _ _ _) (Host.call_volumeExists_found hseen) ?_
      simp only [if_true, pure_bind]
      refine diskPath_performing disk hsame' husable hseen ?_
      exact Prod.ext rfl (Host.put_of_isSome hvolume)
    | false =>
      refine callOrHandle_performing (Stage.path_first _ _ _) (Host.call_volumeExists_missing hseen) ?_
      simp only [Bool.false_eq_true, if_false]
      rcases Host.seen_eq_false_iff.mp hseen with hnone | ⟨husable, hvolume⟩
      · refine callOrHandle_errs (Host.createVolume_noPool hnone)
          (classify_notFound _ _ (Host.category_eq _)).2 ?_
        rintro ⟨p, hp, -⟩
        cases hnone.symm.trans hp
      · refine callOrHandle_performing (Stage.path_first _ _ _) (Host.createVolume_missing husable hvolume) ?_
        refine diskPath_performing disk hsame' husable (Host.put_seen husable _) (Prod.ext ?_ rfl)
        rw [Host.put_pathOf]
        rfl

theorem eachInOrder_performs {α : Type} {f : α → StepBody Unit} {stages : α → HostStage} (items : List α)
    (hf : ∀ item st vars before, RunState.SameVars st vars →
      BodyPerforming newUUID answers (stages item) Falls vars before (f item) st before)
    (hsame : RunState.SameVars st vars) (before : Host) :
    BodyPerforming newUUID answers (.each stages items) Falls vars before (eachInOrder f items) st before := by
  induction items generalizing st vars before with
  | nil => exact .inl ⟨trivial, ⟨⟨(), rfl⟩, hsame⟩, rfl⟩
  | cons item rest ih =>
    exact bind_performs (hf item st vars before hsame) fun _ _ _ hsame' => ih hsame' _

theorem reconcileAdditionalDisks_performs (hsame : RunState.SameVars st vars) (before : Host) :
    Performs (hostMachine newUUID answers) (disksStage rc) StepPasses StepErrs
      (reconcileAdditionalDisks rc st) vars before := by
  refine stepFn_performs (BodyPerforming.passes (eachInOrder_performs _ ?_ hsame before))
  exact fun disk st vars before hsame => reconcileAdditionalDisk_performs hsame disk before

theorem ensureRemoteArtifact_performs (hsame : RunState.SameVars st vars) (path : String) (data : Bytes)
    (operation : String) (before : Host) :
    BodyPerforming newUUID answers (fileStage path data) Falls vars before
      (ensureRemoteArtifact rc path data operation) st before := by
  refine callOrHandle_performing (Stage.path_first _ _ _) rfl ?_
  cases hfile : before (.file path) with
  | some old =>
    refine .inl ⟨trivial, ⟨⟨(), rfl⟩, hsame⟩, ?_⟩
    exact (Host.put_of_isSome (by rw [hfile]; rfl)).symm
  | none =>
    change BodyPerforming newUUID answers _ Falls vars before
      (callOrHandle rc (.writeRemoteFile path data) operation) st before
    rw [← bind_pure (callOrHandle rc _ _)]
    refine callOrHandle_performing (Stage.path_first _ _ _) rfl (.inl ⟨trivial, ⟨⟨(), rfl⟩, hsame⟩, ?_⟩)
    exact (Host.put_of_eq_none hfile).symm

theorem stagedFiles_performs (hsame : RunState.SameVars st vars) (ba : BootArtifactsSpec)
    (files : BootFiles) (before : Host) :
    BodyPerforming newUUID answers (bootFilesStage deps ba files) Falls vars before (do
      ensureRemoteArtifact rc (kernelPath deps ba files) files.kernelBytes "staging boot kernel"
      ensureRemoteArtifact rc (initrdPath deps ba files) files.initramfsBytes "staging boot initramfs"
      Body.modify fun st =>
        { st with
          kernelPath := kernelPath deps ba files
          initrdPath := initrdPath deps ba files
          kernelCmdline := ba.kernelArgs }) st before := by
  refine bind_performs (ensureRemoteArtifact_performs hsame _ _ _ before) fun _ st₁ _ hsame₁ => ?_
  refine bind_performs (ensureRemoteArtifact_performs hsame₁ _ _ _ _) fun _ st₂ _ hsame₂ => ?_
  obtain ⟨status, providerID, rfl⟩ := hsame₂
  exact .inl ⟨trivial, ⟨⟨(), rfl⟩, status, providerID, rfl⟩, rfl⟩

theorem lift_orReturn_performs {α : Type} {stages : α → HostStage} {what : String}
    {prog : Prog signature (Except GoError α)} {post : Except GoError α → Prop} {f : α → StepBody Unit}
    (hprog : Emits anyReply LocalOp post prog)
    (hf : ∀ value, BodyPerforming newUUID answers (stages value) Passes vars before (f value) st before) :
    BodyPerforming newUUID answers (.ofResult stages (input answers prog)) Passes vars before
      (Body.lift prog >>= fun result => orReturn what result >>= f) st before := by
  rw [BodyPerforming, Body.lift_bind_exec]
  refine local_bind_performing hprog (Stage.path_first _ _ _) ?_
  cases input answers prog with
  | error err => exact .inr ⟨not_false, _, rfl⟩
  | ok value => exact hf value

theorem reconcileBootArtifacts_performs (hsame : RunState.SameVars st vars) (before : Host) :
    Performs (hostMachine newUUID answers) (bootStage answers deps rc) StepPasses StepErrs
      (reconcileBootArtifacts deps rc st) vars before := by
  rw [reconcileBootArtifacts, bootStage]
  cases rc.libvirtCluster.bootArtifacts with
  | none => exact .inl ⟨trivial, ⟨rfl, hsame⟩, rfl⟩
  | some ba =>
    cases deps.bootArtifactsResolver with
    | false => exact .inr ⟨not_false, _, rfl⟩
    | true =>
      simp only [if_true]
      refine stepFn_performs (lift_orReturn_performs
        (resolveBootArtifactsCredentials_emits _ _) fun creds => ?_)
      refine lift_orReturn_performs (resolveCachedArtifacts_emits deps _ creds) fun files => ?_
      exact BodyPerforming.passes (stagedFiles_performs hsame ba files before)

theorem createBootstrapISO_performing (hsame : RunState.SameVars st vars) (bootstrapData : Bytes)
    {pool : String} (hseen : before.seen pool rc.bootstrapISO = some false) :
    BodyPerforming newUUID answers (isoStage pool rc.bootstrapISO (builtISO answers rc bootstrapData))
      Passes vars before (createBootstrapISO rc pool bootstrapData) st before := by
  refine Performing.ask (Stage.path_first _ _ _) rfl ?_
  rw [builtISO]
  cases answers (.buildCloudInitISO bootstrapData rc.domainName rc.domainName) with
  | error err =>
    refine Performing.ask (Stage.path_first _ _ _) rfl (.inl ⟨.inr ⟨hseen, .inl rfl⟩, ?_, rfl⟩)
    exact ⟨.inl ⟨(), rfl⟩, hsame.status _⟩
  | ok isoData =>
    change BodyPerforming newUUID answers _ Passes vars before
      (callOrHandle rc (.uploadVolumeFromBytes pool rc.bootstrapISO isoData) _) st before
    rw [← bind_pure (callOrHandle rc _ _)]
    rcases Host.seen_eq_false_iff.mp hseen with hnone | ⟨husable, hvolume⟩
    · refine callOrHandle_errs (Host.createVolume_noPool hnone)
        (classify_notFound _ _ (Host.category_eq _)).2 ?_
      rintro (hfound | ⟨-, hiso | ⟨p, hp, -⟩⟩)
      · cases hseen.symm.trans hfound
      · cases hiso
      · cases hnone.symm.trans hp
    · refine callOrHandle_performing (Stage.path_first _ _ _)
        (Host.createVolume_missing husable hvolume) (.inl ⟨.inr ⟨hseen, .inr husable⟩, ?_, rfl⟩)
      exact ⟨.inl ⟨(), rfl⟩, hsame⟩

theorem bootstrapISO_performs (hsame : RunState.SameVars st vars) (bootstrapData : Bytes) (pool : String)
    (before : Host) :
    BodyPerforming newUUID answers (isoStage pool rc.bootstrapISO (builtISO answers rc bootstrapData))
      Passes vars before (do
        let isoExists ← callOrHandle rc (.volumeExists pool rc.bootstrapISO) "checking bootstrap ISO"
        if isoExists then pure () else createBootstrapISO rc pool bootstrapData) st before := by
  cases hseen : before.seen pool rc.bootstrapISO with
  | none =>
    refine callOrHandle_errs (Host.call_volumeExists_inactive hseen)
      (classify_transient _ _ (Host.category_eq _)).2 ?_
    rintro (hfound | ⟨hmissing, -⟩)
    · cases hseen.symm.trans hfound
    · cases hseen.symm.trans hmissing
  | some found =>
    cases found with
    | true =>
      refine callOrHandle_performing (Stage.path_first _ _ _) (Host.call_volumeExists_found hseen)
        (.inl ⟨.inl hseen, ⟨.inl ⟨(), rfl⟩, hsame⟩, (provide_of_seen hseen).symm⟩)
    | false =>
      refine callOrHandle_performing (Stage.path_first _ _ _)
        (Host.call_volumeExists_missing hseen) ?_
      exact createBootstrapISO_performing hsame bootstrapData hseen

theorem reconcileBootstrapArtifacts_performs (hsame : RunState.SameVars st vars)
    (hpool : vars.storagePool = artifactPool rc) (before : Host) :
    Performs (hostMachine newUUID answers) (bootstrapStage answers deps rc) StepPasses StepErrs
      (reconcileBootstrapArtifacts deps rc st) vars before := by
  refine stepFn_performs (lift_orReturn_performs (getBootstrapData_emits rc.machine)
    fun bootstrapData => ?_)
  cases rc.spec.bootstrapFormat with
  | ignition =>
    dsimp only
    rw [← bind_pure (callOrHandle rc _ _)]
    exact callOrHandle_performing (Stage.path_first _ _ _) rfl
      (.inl ⟨trivial, ⟨.inl ⟨(), rfl⟩, hsame⟩, rfl⟩)
  | cloudInit =>
    have hstate : st.storagePool = artifactPool rc := by
      obtain ⟨status, providerID, rfl⟩ := hsame
      exact hpool
    rw [← hstate]
    exact bootstrapISO_performs hsame bootstrapData st.storagePool before
  | other format =>
    exact Performing.ask (Stage.path_first _ _ _) rfl
      (.inl ⟨trivial, ⟨.inl ⟨(), rfl⟩, hsame.status _⟩, rfl⟩)

section Ephemeral

variable {before now : Host} {name path size : String}

theorem createTmpfsPool_performing {operation : String} (hsame : RunState.SameVars st vars)
    (hpath : (tmpfsStage name path).path vars before now) (hnone : now (.pool name) = none)
    (hnext : ensuredPool before name path = (now.createTmpfsPool name path).2) :
    BodyPerforming newUUID answers (tmpfsStage name path) Falls vars before
      (callOrHandle rc (.createTmpfsPool name path size) operation) st now := by
  have hcreated : now.createTmpfsPool name path = (.ok (), (now.createTmpfsPool name path).2) := by
    rw [Host.createTmpfsPool, hnone]
  rw [← bind_pure (callOrHandle rc _ _)]
  refine callOrHandle_performing (fun _ => hpath) hcreated (.inl ⟨trivial, ⟨⟨(), rfl⟩, hsame⟩, ?_⟩)
  exact hnext.symm

theorem ensureEphemeralPool_performs (hsame : RunState.SameVars st vars) (before : Host) :
    BodyPerforming newUUID answers
      (tmpfsStage rc.machineScope.ephemeralPoolName rc.machineScope.ephemeralPoolPath) Falls vars before
      (ensureEphemeralPool rc) st before := by
  let name := rc.machineScope.ephemeralPoolName
  let path := rc.machineScope.ephemeralPoolPath
  have hfirst := (tmpfsStage name path).path_first vars before
  have hgoes (now : Host) (hnow : ensuredPool before name path = now) : Performing
      (hostMachine newUUID answers) (tmpfsStage name path) Falls Errs vars before (.done (.ok (), st)) now :=
    .inl ⟨trivial, ⟨⟨(), rfl⟩, hsame⟩, hnow.symm⟩
  cases hpool : before (.pool name) with
  | none =>
    have hexists : before.call newUUID (.poolExists name) = (.ok false, before) := by
      simp only [Host.call, hpool, Option.isSome_none]
    refine callOrHandle_performing hfirst hexists ?_
    exact createTmpfsPool_performing hsame (hfirst trivial) hpool (by rw [ensuredPool, hpool])
  | some p =>
    have hexists : before.call newUUID (.poolExists name) = (.ok true, before) := by
      simp only [Host.call, hpool, Option.isSome_some]
    have hactive : before.call newUUID (.poolIsActive name) = (.ok p.active, before) := by
      simp only [Host.call, hpool]
    refine callOrHandle_performing hfirst hexists ?_
    simp only [if_true, reviveEphemeralPool, bind_assoc]
    refine callOrHandle_performing hfirst hactive ?_
    cases hcase : p.active with
    | true => exact hgoes before (by simp only [ensuredPool, hpool, hcase, if_true])
    | false =>
      cases hmount : before (.mount p.path) with
      | some _ =>
        have hstarted : before.call newUUID (.startPool name) =
            (.ok (), before.set (.pool name) { p with active := true }) := by
          simp only [Host.call, Host.startPool, hpool, hcase, Bool.false_eq_true, if_false, hmount]
        refine Performing.ask hfirst hstarted (hgoes _ ?_)
        simp only [ensuredPool, hpool, hcase, Bool.false_eq_true, if_false, hmount]
      | none =>
        have hfailed : before.call newUUID (.startPool name) =
            (.error (classifyVirshError Host.noTarget "pool-start" name), before) := by
          simp only [Host.call, Host.startPool, hpool, hcase, Bool.false_eq_true, if_false, hmount]
        have hdestroyed : before.call newUUID (.destroyPool name) =
            (.ok (), (before.destroyPool name).2) := by
          simp only [Host.call, Host.destroyPool, hpool]
        have hnext : ensuredPool before name path =
            ((before.destroyPool name).2.createTmpfsPool name path).2 := by
          simp only [ensuredPool, hpool, hcase, Bool.false_eq_true, if_false, hmount]
        refine Performing.ask hfirst hfailed (Performing.ask hfirst hdestroyed ?_)
        exact createTmpfsPool_performing hsame
          (.inr (.inl ⟨⟨p, hpool, hcase, hmount⟩, rfl⟩)) (before.destroyPool_pool name) hnext

end Ephemeral

theorem callOnBaseImage_missing {call : ClientCall} {f : call.Result → StepBody Unit}
    (hsame : RunState.SameVars st vars) (hcall : before.call newUUID call = (.error err, before))
    (hmissing : err.isNotFound = true) (hok : stage.ok vars before)
    (hnext : stage.next vars before = (vars, before)) :
    BodyPerforming newUUID answers stage Passes vars before (callOnBaseImage rc call operation >>= f)
      st before := by
  refine Performing.ask (stage.path_first vars before) hcall ?_
  change BodyPerforming newUUID answers stage Passes vars before
    ((if err.isNotFound then _ else _) >>= f) st before
  rw [if_pos hmissing]
  refine Performing.ask (stage.path_first vars before) rfl (.inl ⟨hok, ?_⟩)
  rw [hnext]
  exact ⟨⟨.inr rfl, hsame.status _⟩, rfl⟩

theorem callOnBaseImage_handled {call : ClientCall}
    {f : call.Result → StepBody Unit}
    (hcall : before.call newUUID call = (.error err, before)) (hmissing : err.isNotFound = false)
    (hhandled : BodyPerforming newUUID answers stage Passes vars before
      (handleLibvirtError err operation >>= f) st before) :
    BodyPerforming newUUID answers stage Passes vars before (callOnBaseImage rc call operation >>= f)
      st before := by
  refine Performing.ask (stage.path_first vars before) hcall ?_
  change BodyPerforming newUUID answers stage Passes vars before
    ((if err.isNotFound then _ else _) >>= f) st before
  rw [if_neg (by rw [hmissing]; exact Bool.false_ne_true)]
  exact hhandled

theorem inactive_handled {α : Type} {f : α → StepBody Unit} (hterminal : err.isTerminal = false)
    (hnok : ¬ stage.ok vars before) :
    BodyPerforming newUUID answers stage Passes vars before (handleLibvirtError err operation >>= f)
      st before :=
  handleLibvirtError_performing (stage.path_first vars before)
    (fun h => Bool.noConfusion (h.symm.trans hterminal)) fun _ => hnok

theorem rootStage_not_ok (hroot : before.seen vars.storagePool rc.rootDiskVolume = some false)
    (hbase : before.seen rc.baseImagePool rc.spec.rootDisk.baseImage = none) :
    ¬ (rootStage rc).ok vars before := by
  rintro (hfound | ⟨-, hmissing | ⟨hfound, -⟩⟩)
  · exact nomatch hroot.symm.trans hfound
  · exact nomatch hbase.symm.trans hmissing
  · exact nomatch hbase.symm.trans hfound

theorem rootStage_next_created (hroot : before.seen vars.storagePool rc.rootDiskVolume = some false)
    (hbase : before.seen rc.baseImagePool rc.spec.rootDisk.baseImage = some true) :
    (rootStage rc).next vars before = (vars, createdRoot rc vars.storagePool before) :=
  congrArg (Prod.mk vars) (if_pos ⟨hroot, hbase⟩)

theorem cloneRoot_performing (hsame : RunState.SameVars st vars)
    (hclone : rc.spec.rootDisk.cloneStrategy = .fullClone)
    (hroot : before.seen vars.storagePool rc.rootDiskVolume = some false) :
    BodyPerforming newUUID answers (rootStage rc) Passes vars before
      (callOnBaseImage rc (.cloneVolume rc.baseImagePool rc.spec.rootDisk.baseImage rc.rootDiskVolume)
        operation) st before := by
  rw [← bind_pure (callOnBaseImage rc _ _)]
  cases hbase : before.seen rc.baseImagePool rc.spec.rootDisk.baseImage with
  | none =>
    obtain ⟨err, hcall, hmissing, hterminal⟩ := Host.call_cloneVolume_inactive newUUID _ hbase
    exact callOnBaseImage_handled hcall hmissing
      (inactive_handled hterminal (rootStage_not_ok hroot hbase))
  | some found =>
    cases found with
    | false =>
      obtain ⟨err, hcall, hmissing⟩ := Host.call_cloneVolume_missing newUUID _ hbase
      exact callOnBaseImage_missing hsame hcall hmissing (.inr ⟨hroot, .inl hbase⟩)
        (congrArg (Prod.mk vars) (ensuredRoot_of_missing _ hbase))
    | true =>
      have hok : (rootStage rc).ok vars before := .inr ⟨hroot, .inr ⟨hbase, .inl hclone⟩⟩
      have hnext := rootStage_next_created hroot hbase
      obtain ⟨content, hcontent, hcases⟩ :=
        Host.call_cloneVolume_found newUUID rc.rootDiskVolume hbase
      rw [createdRoot, hclone, hcontent] at hnext
      rcases hcases with ⟨-, hcall⟩ | ⟨hsome, err, hcall, hmissing, hterminal⟩
      · refine Performing.ask (Stage.path_first _ _ _) hcall (.inl ⟨hok, ?_⟩)
        rw [hnext]
        exact ⟨⟨.inl ⟨(), rfl⟩, hsame⟩, rfl⟩
      · -- the clone is already there, in a pool where the root disk is not looked for
        refine callOnBaseImage_handled hcall hmissing (handleLibvirtError_performing
          (Stage.path_first _ _ _) (fun _ status => .inl ⟨hok, ?_⟩) fun h =>
            Bool.noConfusion (h.symm.trans hterminal))
        rw [hnext]
        exact ⟨⟨.inr rfl, hsame.status status⟩, (Host.put_of_isSome hsome).symm⟩

theorem overlayRoot_performing {what operation : String}
    (hsame : RunState.SameVars st vars) (hclone : rc.spec.rootDisk.cloneStrategy = .copyOnWrite)
    (hroot : before.seen vars.storagePool rc.rootDiskVolume = some false) :
    BodyPerforming newUUID answers (rootStage rc) Passes vars before (do
      let backingPath ← callOnBaseImage rc (.getVolumePath rc.baseImagePool rc.spec.rootDisk.baseImage) what
      callOrHandle rc (.createVolumeFromBackingStore vars.storagePool rc.rootDiskVolume backingPath
        rc.spec.rootDisk.size) operation) st before := by
  cases hbase : before.seen rc.baseImagePool rc.spec.rootDisk.baseImage with
  | none =>
    obtain ⟨err, hcall, hmissing, hterminal⟩ := Host.call_getVolumePath_inactive hbase
    exact callOnBaseImage_handled hcall hmissing
      (inactive_handled hterminal (rootStage_not_ok hroot hbase))
  | some found =>
    cases found with
    | false =>
      obtain ⟨err, hcall, hmissing, -⟩ := Host.call_getVolumePath_missing hbase
      exact callOnBaseImage_missing hsame hcall hmissing (.inr ⟨hroot, .inl hbase⟩)
        (congrArg (Prod.mk vars) (ensuredRoot_of_missing _ hbase))
    | true =>
      have hpath : before.call newUUID (.getVolumePath rc.baseImagePool rc.spec.rootDisk.baseImage) =
          (.ok _, before) := Host.call_getVolumePath_found hbase
      refine Performing.ask (Stage.path_first _ _ _) hpath ?_
      change BodyPerforming newUUID answers _ Passes vars before (callOrHandle rc _ _) st before
      rw [← bind_pure (callOrHandle rc _ _)]
      rcases Host.seen_eq_false_iff.mp hroot with hnone | ⟨husable, hvolume⟩
      · refine callOrHandle_errs (Host.createVolume_noPool hnone)
          (classify_notFound _ _ (Host.category_eq _)).2 ?_
        rintro (hfound | ⟨-, hmissing | ⟨-, hfull | ⟨p, hp, -⟩⟩⟩)
        · cases hroot.symm.trans hfound
        · cases hbase.symm.trans hmissing
        · cases hclone.symm.trans hfull
        · cases hnone.symm.trans hp
      · refine callOrHandle_performing (Stage.path_first _ _ _)
          (Host.createVolume_missing husable hvolume)
          (.inl ⟨.inr ⟨hroot, .inr ⟨hbase, .inr husable⟩⟩, ?_⟩)
        rw [rootStage_next_created hroot hbase, createdRoot, hclone]
        exact ⟨⟨.inl ⟨(), rfl⟩, hsame⟩, rfl⟩

theorem rootDisk_performs (hsame : RunState.SameVars st vars) (before : Host) :
    BodyPerforming newUUID answers (rootStage rc) Passes vars before (do
      let storagePool := (← Body.get).storagePool
      let rootExists ← callOrHandle rc (.volumeExists storagePool rc.rootDiskVolume) "checking root disk"
      if rootExists then pure () else createRootDisk rc storagePool) st before := by
  have hpool : st.storagePool = vars.storagePool := by
    obtain ⟨status, providerID, rfl⟩ := hsame
    rfl
  change BodyPerforming newUUID answers (rootStage rc) Passes vars before
    (callOrHandle rc (.volumeExists st.storagePool rc.rootDiskVolume) _ >>= _) st before
  rw [hpool]
  cases hroot : before.seen vars.storagePool rc.rootDiskVolume with
  | none =>
    refine callOrHandle_errs (Host.call_volumeExists_inactive hroot)
      (classify_transient _ _ (Host.category_eq _)).2 ?_
    rintro (hfound | ⟨hmissing, -⟩)
    · cases hroot.symm.trans hfound
    · cases hroot.symm.trans hmissing
  | some found =>
    cases found with
    | true =>
      refine callOrHandle_performing (Stage.path_first _ _ _) (Host.call_volumeExists_found hroot)
        (.inl ⟨.inl hroot, ⟨.inl ⟨(), rfl⟩, hsame⟩, (ensuredRoot_of_found hroot).symm⟩)
    | false =>
      refine callOrHandle_performing (Stage.path_first _ _ _)
        (Host.call_volumeExists_missing hroot) ?_
      change BodyPerforming newUUID answers _ Passes vars before
        (createRootDisk rc vars.storagePool) st before
      rw [createRootDisk]
      split
      · exact cloneRoot_performing hsame ‹_› hroot
      · exact overlayRoot_performing hsame ‹_› hroot

theorem reconcileRootDisk_performs (hsame : RunState.SameVars st vars) (before : Host) :
    Performs (hostMachine newUUID answers) ((ephemeralStage rc).andThen (rootStage rc)) StepPasses
      StepErrs (reconcileRootDisk rc st) vars before := by
  refine stepFn_performs (bind_performs ?_ fun _ st' _ hsame' => rootDisk_performs hsame' _)
  rw [ephemeralStage]
  split
  · refine bind_performs (ensureEphemeralPool_performs hsame before) fun _ st' _ hsame' => ?_
    obtain ⟨status, providerID, rfl⟩ := hsame'
    exact .inl ⟨trivial, ⟨⟨(), rfl⟩, status, providerID, rfl⟩, rfl⟩
  · exact .inl ⟨trivial, ⟨⟨(), rfl⟩, hsame⟩, rfl⟩

section Image

variable {image : BaseImageSpec} {before : Host}

theorem volumeStage_not_ok {content : Option Volume}
    (hseen : before.seen image.pool image.volumeName = some false)
    (hcontent : content = none ∨ before (.pool image.pool) = none) :
    ¬ (volumeStage image.pool image.volumeName content).ok vars before := by
  rintro (hfound | ⟨⟨p, hp, -⟩, hsome⟩)
  · exact nomatch hseen.symm.trans hfound
  · rcases hcontent with rfl | hnone
    · cases hsome
    · exact nomatch hnone.symm.trans hp

theorem uploadBaseImage_performs (hsame : RunState.SameVars st vars) {entry : CacheEntry}
    {content : Option Volume} (hseen : before.seen image.pool image.volumeName = some false)
    (hcontent : content = cachedImage answers entry) :
    Performs (hostMachine newUUID answers) (volumeStage image.pool image.volumeName content) StepPasses
      StepErrs (uploadBaseImage rc image entry st) vars before := by
  have hfirst := (volumeStage image.pool image.volumeName content).path_first vars before
  rw [cachedImage] at hcontent
  refine stepFn_performs (callOrHandle_performing hfirst (Host.call_volumeExists_missing hseen) ?_)
  refine Performing.ask hfirst rfl ?_
  cases hsize : answers (.qcow2VirtualSize entry.path) with
  | error err =>
    rw [hsize] at hcontent
    exact .inr ⟨volumeStage_not_ok hseen (.inl hcontent), _, rfl⟩
  | ok virtualSize =>
    refine Performing.ask hfirst rfl ?_
    cases hdata : answers (.openFile entry.path) with
    | error err =>
      rw [hsize, hdata] at hcontent
      exact .inr ⟨volumeStage_not_ok hseen (.inl hcontent), _, rfl⟩
    | ok data =>
      rw [hsize, hdata] at hcontent
      change BodyPerforming newUUID answers _ Passes vars before
        (callOrHandle rc (.uploadQcow2Volume image.pool image.volumeName data virtualSize) _ >>= _) st before
      rcases Host.seen_eq_false_iff.mp hseen with hnone | ⟨husable, hvolume⟩
      · exact callOrHandle_errs (Host.createVolume_noPool hnone)
          (classify_notFound "vol-create-as" "qcow2" (Host.category_eq _)).2
          (volumeStage_not_ok hseen (.inr hnone))
      · refine callOrHandle_performing hfirst (Host.createVolume_missing husable hvolume) ?_
        subst hcontent
        exact .inl ⟨.inr ⟨husable, rfl⟩, ⟨.inl ⟨(), rfl⟩, hsame.status _⟩, rfl⟩

theorem locked_performs {stage : HostStage} {fn : StepFn} {key : String}
    (hfn : Performs (hostMachine newUUID answers) stage StepPasses StepErrs (fn st) vars before) :
    BodyPerforming newUUID answers stage Passes vars before (do
      issue (.lockUpload key)
      let err ← Body.call fn
      issue (.unlockUpload key)
      (Body.leave err : StepBody Unit)) st before := by
  refine Performing.ask (stage.path_first vars before) rfl ?_
  change BodyPerforming newUUID answers stage Passes vars before (Body.call fn >>= _) st before
  rw [BodyPerforming, Body.call_bind_exec]
  refine Holds.bind hfn ?_
  rintro ⟨err, st'⟩ after (⟨hok, ⟨rfl, hsame⟩, rfl⟩ | ⟨hnok, e, rfl⟩)
  · exact Performing.ask (stage.path_next vars before) rfl (.inl ⟨hok, ⟨.inr rfl, hsame⟩, rfl⟩)
  · exact Performing.ask (fun hok => (hnok hok).elim) rfl (.inr ⟨hnok, e, rfl⟩)

theorem stageBaseImage_performs (hsame : RunState.SameVars st vars) (image : BaseImageSpec) (before : Host) :
    BodyPerforming newUUID answers
      (volumeStage image.pool image.volumeName (fetchedImage answers rc image)) Passes vars before
      (stageBaseImage rc image) st before := by
  cases hseen : before.seen image.pool image.volumeName with
  | none =>
    refine callOrHandle_errs (Host.call_volumeExists_inactive hseen)
      (classify_transient _ _ (Host.category_eq _)).2 ?_
    rintro (hfound | ⟨⟨p, hp, hactive⟩, -⟩)
    · cases hseen.symm.trans hfound
    · simp [Host.seen, hp, hactive] at hseen
  | some found =>
    cases found with
    | true =>
      refine callOrHandle_performing (Stage.path_first _ _ _) (Host.call_volumeExists_found hseen) ?_
      exact .inl ⟨.inl hseen, ⟨.inr rfl, hsame⟩, (provide_of_seen hseen).symm⟩
    | false =>
      refine callOrHandle_performing (Stage.path_first _ _ _)
        (Host.call_volumeExists_missing hseen) ?_
      change BodyPerforming newUUID answers _ Passes vars before
        (Body.lift (resolveBaseImageCredentials rc.libvirtCluster image.source) >>= _)
        { st with status := _ } before
      rw [BodyPerforming, Body.lift_bind_exec]
      refine local_bind_performing (resolveBaseImageCredentials_emits _ _) (Stage.path_first _ _ _) ?_
      cases hcreds : input answers (resolveBaseImageCredentials rc.libvirtCluster image.source) with
      | error err =>
        have hnone : fetchedImage answers rc image = none := by rw [fetchedImage, hcreds]
        exact .inr ⟨volumeStage_not_ok hseen (.inl hnone), _, rfl⟩
      | ok creds =>
        refine Performing.ask (Stage.path_first _ _ _) rfl ?_
        cases hget : answers (.imageGet image.source creds (baseImageExpectedSHA256 image.source)) with
        | error err =>
          have hnone : fetchedImage answers rc image = none := by
            simp only [fetchedImage, hcreds, hget]
          exact .inr ⟨volumeStage_not_ok hseen (.inl hnone), _, rfl⟩
        | ok entry =>
          refine locked_performs (uploadBaseImage_performs (hsame.status _) hseen ?_)
          simp only [fetchedImage, hcreds, hget]

theorem reconcileBaseImage_performs (hsame : RunState.SameVars st vars) (before : Host) :
    Performs (hostMachine newUUID answers) (imageStage answers deps rc) StepPasses StepErrs
      (reconcileBaseImage deps rc st) vars before := by
  rw [reconcileBaseImage, imageStage]
  cases rc.libvirtCluster.baseImage with
  | none => exact .inl ⟨trivial, ⟨rfl, hsame⟩, rfl⟩
  | some image =>
    cases deps.baseImageCache with
    | false => exact .inr ⟨not_false, _, rfl⟩
    | true => exact stepFn_performs (stageBaseImage_performs hsame image before)

end Image

end Steps

end Caplv.Controller

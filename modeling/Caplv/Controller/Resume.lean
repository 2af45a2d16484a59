import Caplv.Controller.StageRuns
import Caplv.Controller.Deletion

namespace Caplv.Controller

open Text Api Libvirt Scope Program

variable {newUUID : DomainXML → String} {answers : (op : Op) → Reply op} {deps : Deps}
  {rc : ReconcileCtx} {vars st : RunState} {before now after : Host} {stage : HostStage}

abbrev DomainOutcome := Except GoError (Option DomainInfo)

def DomainUp (out : DomainOutcome × RunState) (vars : RunState) : Prop :=
  (∃ domainInfo, out.1 = .ok (some domainInfo)) ∧ RunState.SameVars out.2 vars

-- An error, or a recorded failure.
def DomainDown (out : DomainOutcome × RunState) : Prop :=
  (∃ err, out.1 = .error err) ∨ (out.1 = .ok none ∧ out.2.status.ready = false)

-- The same for the body of reconcileDomain, which leaves early when the domain stays down.
def BodyUp (out : Except DomainOutcome DomainOutcome × RunState) (vars : RunState) : Prop :=
  ∃ outcome, out.1 = .ok outcome ∧ DomainUp (outcome, out.2) vars

def BodyDown (out : Except DomainOutcome DomainOutcome × RunState) : Prop :=
  ∃ outcome, out.1 = .error outcome ∧ DomainDown (outcome, out.2)

abbrev DomainPerforming (newUUID : DomainXML → String) (answers : (op : Op) → Reply op)
    (stage : HostStage) (vars : RunState) (before : Host) (body : DomainBody DomainOutcome)
    (st : RunState) (now : Host) : Prop :=
  Performing (hostMachine newUUID answers) stage BodyUp BodyDown vars before (body.exec st) now

theorem domainCall_performing {call : ClientCall} {operation : String}
    {f : call.Result → DomainBody DomainOutcome} {value : call.Result}
    (hpath : stage.ok vars before → stage.path vars before now)
    (hcall : now.call newUUID call = (.ok value, after))
    (hf : DomainPerforming newUUID answers stage vars before (f value) st after) :
    DomainPerforming newUUID answers stage vars before (domainCall rc call operation >>= f) st now :=
  Performing.ask hpath hcall hf

theorem domainCall_errs {call : ClientCall} {operation : String}
    {f : call.Result → DomainBody DomainOutcome} {err : GoError}
    (hcall : now.call newUUID call = (.error err, now)) (hterminal : err.isTerminal = false)
    (hnok : ¬ stage.ok vars before) :
    DomainPerforming newUUID answers stage vars before (domainCall rc call operation >>= f) st now := by
  refine Performing.ask (fun hok => (hnok hok).elim) hcall ?_
  change DomainPerforming newUUID answers stage vars before ((if err.isTerminal then _ else _) >>= f) st now
  rw [if_neg (by rw [hterminal]; exact Bool.false_ne_true)]
  exact .inr ⟨hnok, _, rfl, .inl ⟨_, rfl⟩⟩

theorem startDomain_performing {d : Domain} (hsame : RunState.SameVars st vars)
    (hd : now (.domain rc.domainName) = some d) (hok : stage.ok vars before)
    (hpath : stage.path vars before now)
    (hnext : stage.next vars before = (vars, startedDomain rc now)) :
    DomainPerforming newUUID answers stage vars before
      (startDomainIfStopped rc >>= fun domainInfo => pure (.ok (some domainInfo))) st now := by
  have hget : now.call newUUID (.getDomain rc.domainName) =
      (.ok ⟨rc.domainName, d.uuid, if d.running then "running" else "shut off"⟩, now) := by
    simp only [Host.call, Host.domainInfo, hd]
  have hup (domainInfo : DomainInfo) : DomainPerforming newUUID answers stage vars before
      (pure (.ok (some domainInfo))) st (startedDomain rc now) := by
    refine .inl ⟨hok, ?_⟩
    rw [hnext]
    exact ⟨⟨_, rfl, ⟨domainInfo, rfl⟩, hsame⟩, rfl⟩
  rw [startDomainIfStopped, bind_assoc]
  refine domainCall_performing (fun _ => hpath) hget ?_
  cases hrunning : d.running with
  | true =>
    have hstarted := hup ⟨rc.domainName, d.uuid, "running"⟩
    rw [startedDomain_of_running hd hrunning] at hstarted
    exact hstarted
  | false =>
    have hstart : now.call newUUID (.startDomain rc.domainName) = (.ok (), startedDomain rc now) := by
      simp only [Host.call, Host.startDomain, hd, hrunning, Bool.false_eq_true, if_false, startedDomain]
    have hget' : (startedDomain rc now).call newUUID (.getDomain rc.domainName) =
        (.ok ⟨rc.domainName, d.uuid, "running"⟩, startedDomain rc now) := by
      simp only [Host.call, Host.domainInfo, startedDomain_running hd, if_true]
    have hlast := stage.path_next vars before hok
    rw [hnext] at hlast
    exact Performing.ask (fun _ => hpath) hstart (Performing.ask (fun _ => hlast) hget' (hup _))

theorem definition_name (vars : RunState) (h : Host) :
    (definition deps rc vars h).name = rc.domainName := by
  rw [definition, domainDocument_name]
  cases rc.spec.bootstrapFormat <;> rfl

theorem defineFrom_performing {params : DomainXMLParams} (hsame : RunState.SameVars st vars)
    (hdocument : domainDocument params = definition deps rc vars before)
    (hnone : before (.domain rc.domainName) = none)
    (hroot : before.seen vars.storagePool rc.rootDiskVolume = some true)
    (hiso : rc.spec.bootstrapFormat = .cloudInit → before.seen vars.storagePool rc.bootstrapISO = some true) :
    DomainPerforming newUUID answers (domainStage newUUID deps rc) vars before (do
      defineFrom deps rc params
      let domainInfo ← startDomainIfStopped rc
      pure (.ok (some domainInfo))) st before := by
  have hfirst := (domainStage newUUID deps rc).path_first vars before
  rw [defineFrom, hdocument]
  cases hmarshal : deps.marshalError (definition deps rc vars before) with
  | some err =>
    refine Performing.ask hfirst rfl (.inr ⟨?_, _, rfl, .inr ⟨rfl, rfl⟩⟩)
    rintro (hsome | ⟨-, -, hgenerated⟩)
    · rw [hnone] at hsome
      cases hsome
    · cases hmarshal.symm.trans hgenerated
  | none =>
    have hok : (domainStage newUUID deps rc).ok vars before := .inr ⟨hroot, hiso, hmarshal⟩
    refine Performing.ask hfirst (Host.defineDomain_missing (definition_name vars before) hnone) ?_
    have hdefined : definedDomain newUUID deps rc vars before (.domain rc.domainName) = some
        ⟨definition deps rc vars before, newUUID (definition deps rc vars before), false⟩ := by
      rw [definedDomain, Host.put_of_eq_none hnone, Host.set_self]
    exact startDomain_performing hsame hdefined hok (.inr (.inl rfl)) rfl

theorem domainStage_not_ok (hnone : before (.domain rc.domainName) = none)
    (hmissing : before.seen vars.storagePool rc.rootDiskVolume ≠ some true ∨
      (rc.spec.bootstrapFormat = .cloudInit ∧ before.seen vars.storagePool rc.bootstrapISO ≠ some true)) :
    ¬ (domainStage newUUID deps rc).ok vars before := by
  rintro (hsome | ⟨hroot, hiso, -⟩)
  · rw [hnone] at hsome
    cases hsome
  · rcases hmissing with hmissing | ⟨hformat, hmissing⟩
    · exact hmissing hroot
    · exact hmissing (hiso hformat)

theorem getVolumePath_performing {pool name operation : String} {f : String → DomainBody DomainOutcome}
    (hfound : before.seen pool name = some true → DomainPerforming newUUID answers stage vars before
      (f (before.pathOf pool name)) st before)
    (hmissing : before.seen pool name ≠ some true → ¬ stage.ok vars before) :
    DomainPerforming newUUID answers stage vars before
      (domainCall rc (.getVolumePath pool name) operation >>= f) st before := by
  cases hseen : before.seen pool name with
  | none =>
    obtain ⟨err, hcall, -, hterminal⟩ := Host.call_getVolumePath_inactive hseen
    exact domainCall_errs hcall hterminal (hmissing (by simp [hseen]))
  | some found =>
    cases found with
    | false =>
      obtain ⟨err, hcall, -, hterminal⟩ := Host.call_getVolumePath_missing hseen
      exact domainCall_errs hcall hterminal (hmissing (by simp [hseen]))
    | true =>
      exact domainCall_performing (stage.path_first vars before)
        (Host.call_getVolumePath_found hseen) (hfound hseen)

theorem defineDomain_performing (hsame : RunState.SameVars st vars)
    (hnone : before (.domain rc.domainName) = none) :
    DomainPerforming newUUID answers (domainStage newUUID deps rc) vars before (do
      defineDomain deps rc
      let domainInfo ← startDomainIfStopped rc
      pure (.ok (some domainInfo))) st before := by
  obtain ⟨status, providerID, rfl⟩ := hsame
  have hsame : RunState.SameVars { vars with status := status, providerID := providerID } vars :=
    ⟨status, providerID, rfl⟩
  simp only [defineDomain, bind_assoc]
  refine getVolumePath_performing (fun hroot => ?_) fun h => domainStage_not_ok hnone (.inl h)
  rw [bootstrapSource]
  cases hformat : rc.spec.bootstrapFormat with
  | ignition =>
    refine defineFrom_performing hsame ?_ hnone hroot fun h => by cases hformat.symm.trans h
    rw [definition, hformat]
    rfl
  | cloudInit =>
    dsimp only
    rw [bind_assoc]
    refine getVolumePath_performing (fun hiso => ?_) fun h => domainStage_not_ok hnone (.inr ⟨hformat, h⟩)
    refine defineFrom_performing hsame ?_ hnone hroot fun _ => hiso
    rw [definition, hformat]
    rfl
  | other format =>
    refine defineFrom_performing hsame ?_ hnone hroot fun h => by cases hformat.symm.trans h
    rw [definition, hformat]
    rfl

theorem domainBody_performs (hsame : RunState.SameVars st vars) (before : Host) :
    DomainPerforming newUUID answers (domainStage newUUID deps rc) vars before (do
      let found ← domainCall rc (.domainExists rc.domainName) "checking domain"
      (if found then pure () else defineDomain deps rc)
      let domainInfo ← startDomainIfStopped rc
      pure (.ok (some domainInfo))) st before := by
  have hfirst := (domainStage newUUID deps rc).path_first vars before
  cases hd : before (.domain rc.domainName) with
  | some d =>
    have hdefined : (before (.domain rc.domainName)).isSome = true := by rw [hd]; rfl
    refine domainCall_performing hfirst (Host.call_domainExists_defined hd) ?_
    exact startDomain_performing hsame hd (.inl hdefined) (hfirst (.inl hdefined))
      (domainStage_next_of_defined hdefined)
  | none =>
    refine domainCall_performing hfirst (Host.call_domainExists_missing hd) ?_
    exact defineDomain_performing hsame hd

theorem reconcileDomain_performs (hsame : RunState.SameVars st vars) (before : Host) :
    Performs (hostMachine newUUID answers) (domainStage newUUID deps rc) DomainUp DomainDown
      (reconcileDomain deps rc st) vars before := by
  refine Performs.map (domainBody_performs hsame before) ?_ ?_
  · rintro ⟨out, st'⟩ vars' ⟨outcome, rfl, hup⟩
    exact ⟨_, rfl, hup⟩
  · rintro ⟨out, st'⟩ ⟨outcome, rfl, hdown⟩
    exact ⟨_, rfl, hdown⟩

def RunDown {α : Type} (out : Except Return α × RunState) : Prop :=
  ∃ ret, out.1 = .error ret ∧ (ret.2 ≠ none ∨ out.2.status.ready = false)

abbrev RunPerforming {α : Type} (newUUID : DomainXML → String) (answers : (op : Op) → Reply op)
    (stage : HostStage) (vars : RunState) (before : Host) (body : NormalBody α) (st : RunState)
    (now : Host) : Prop :=
  Performing (hostMachine newUUID answers) stage Falls RunDown vars before (body.exec st) now

theorem run_bind_performs {α β : Type} {body : NormalBody α} {f : α → NormalBody β} {a b : HostStage}
    (hbody : RunPerforming newUUID answers a vars before body st before)
    (hf : ∀ value st', RunState.SameVars st' (a.next vars before).1 →
      RunPerforming newUUID answers b (a.next vars before).1 (a.next vars before).2 (f value) st'
        (a.next vars before).2) :
    RunPerforming newUUID answers (a.andThen b) vars before (body >>= f) st before := by
  refine Performs.bind hbody ?_ ?_
  · rintro ⟨out, st'⟩ - ⟨⟨value, rfl⟩, hsame⟩
    exact hf value st' hsame
  · rintro ⟨out, st'⟩ after ⟨ret, rfl, hdown⟩
    exact ⟨ret, rfl, hdown⟩

theorem runStep_performs {step : StepFn}
    (hstep : Performs (hostMachine newUUID answers) stage StepPasses StepErrs (step st) vars before) :
    RunPerforming newUUID answers stage vars before (runStep step) st before := by
  rw [RunPerforming, runStep, Body.call_bind_exec]
  refine Performs.map hstep ?_ ?_
  · rintro ⟨err, st'⟩ vars' ⟨rfl, hsame⟩
    exact ⟨_, rfl, ⟨(), rfl⟩, hsame⟩
  · rintro ⟨err, st'⟩ ⟨e, rfl⟩
    exact ⟨_, rfl, _, rfl, .inl (Option.some_ne_none e)⟩

theorem enter_performs {α : Type} {phase : Phase} {f : Unit → NormalBody α}
    (hf : RunPerforming newUUID answers stage vars before (f ()) st before) :
    RunPerforming newUUID answers stage vars before (issue (.enter phase) >>= f) st before :=
  Performing.ask (stage.path_first vars before) rfl hf

theorem imageStage_vars (vars : RunState) (h : Host) :
    ((imageStage answers deps rc).next vars h).1 = vars := by
  rw [imageStage]
  split
  · rfl
  · split <;> rfl

theorem rootDiskStage_storagePool (hpool : vars.storagePool = rc.spec.rootDisk.storagePool) (h : Host) :
    (((ephemeralStage rc).andThen (rootStage rc)).next vars h).1.storagePool = artifactPool rc := by
  change ((ephemeralStage rc).next vars h).1.storagePool = _
  rw [ephemeralStage, artifactPool]
  split
  · rfl
  · exact hpool

theorem prepareArtifacts_performs (hsame : RunState.SameVars st vars)
    (hpool : vars.storagePool = rc.spec.rootDisk.storagePool) (before : Host) :
    RunPerforming newUUID answers (artifactsStage answers deps rc) vars before
      (prepareArtifacts deps rc) st before := by
  refine run_bind_performs (runStep_performs (reconcileBaseImage_performs hsame before))
    fun _ st₁ hsame₁ => enter_performs ?_
  rw [imageStage_vars] at hsame₁ ⊢
  refine run_bind_performs (runStep_performs (reconcileRootDisk_performs hsame₁ _))
    fun _ st₂ hsame₂ => enter_performs ?_
  refine run_bind_performs (runStep_performs (reconcileBootstrapArtifacts_performs hsame₂
    (rootDiskStage_storagePool hpool _) _)) fun _ st₃ hsame₃ => enter_performs ?_
  refine run_bind_performs (runStep_performs (reconcileAdditionalDisks_performs hsame₃ _))
    fun _ st₄ hsame₄ => enter_performs ?_
  exact runStep_performs (reconcileBootArtifacts_performs hsame₄ _)

theorem bringUpDomain_performs (hsame : RunState.SameVars st vars) (before : Host) :
    RunPerforming newUUID answers (domainStage newUUID deps rc) vars before (bringUpDomain deps rc)
      st before := by
  refine enter_performs ?_
  rw [RunPerforming, Body.call_bind_exec]
  refine Performs.map (reconcileDomain_performs hsame before) ?_ ?_
  · rintro ⟨out, st'⟩ vars' ⟨⟨domainInfo, rfl⟩, hsame'⟩
    exact ⟨_, rfl, ⟨domainInfo, rfl⟩, hsame'⟩
  · rintro ⟨out, st'⟩ (⟨err, rfl⟩ | ⟨rfl, hready⟩)
    · exact ⟨_, rfl, _, rfl, .inl (Option.some_ne_none err)⟩
    · exact ⟨_, rfl, _, rfl, .inr hready⟩

theorem preflightPool_holds (pools : List RequiredPool) (st : RunState) (before : Host) :
    Holds (hostMachine newUUID answers).handler (fun mid _ => mid = before)
      (fun out after => after = before ∧
        ((out = (.ok (), st) ∧ ∀ pool ∈ pools, (before (.pool pool.name)).isSome = true) ∨
          (out.1 = .error none ∧ out.2.status.failureReason.isSome = true ∧ out.2.status.ready = false ∧
            ¬ ∀ pool ∈ pools, (before (.pool pool.name)).isSome = true)))
      ((eachInOrder (preflightPool rc) pools).exec st) before := by
  induction pools with
  | nil => exact ⟨rfl, .inl ⟨rfl, nofun⟩⟩
  | cons pool rest ih =>
    refine ⟨rfl, fun reply after hs => ?_⟩
    obtain ⟨rfl, rfl⟩ := Prod.mk.inj hs
    cases hpool : (before (.pool pool.name)).isSome with
    | true =>
      change Holds _ _ _ ((eachInOrder (preflightPool rc) rest).exec st) before
      refine ih.post_mono ?_
      rintro out after ⟨hafter, ⟨hout, hrest⟩ | ⟨hout, hfailed, hready, hrest⟩⟩
      · exact ⟨hafter, .inl ⟨hout, List.forall_mem_cons.mpr ⟨hpool, hrest⟩⟩⟩
      · exact ⟨hafter, .inr ⟨hout, hfailed, hready, fun h => hrest (List.forall_mem_cons.mp h).2⟩⟩
    | false =>
      refine ⟨rfl, fun reply after hs => ?_⟩
      obtain ⟨-, rfl⟩ := Prod.mk.inj hs
      refine ⟨rfl, .inr ⟨rfl, rfl, rfl, fun h => ?_⟩⟩
      exact Bool.noConfusion (hpool.symm.trans (List.forall_mem_cons.mp h).1)

theorem preflightPools_performs (hsame : RunState.SameVars st vars)
    (hfailure : st.status.failureReason = none) (before : Host) :
    RunPerforming newUUID answers (poolsStage rc) vars before (do
      runStep (preflightPools rc)
      stopIfFailed) st before := by
  simp only [runStep, bind_assoc, RunPerforming, Body.call_bind_exec, preflightPools, stepFn, Body.run]
  rw [Body.bind_exec, bind_assoc]
  refine Holds.bind ((preflightPool_holds (requiredPools rc) st before).mono (fun _ _ _ _ hs => hs)
    (fun mid _ hmid _ => hmid) fun _ _ hpost => hpost) ?_
  rintro ⟨out, st'⟩ after ⟨rfl, ⟨hout, hall⟩ | ⟨hout, hfailed, hready, hmissing⟩⟩
  · obtain ⟨rfl, rfl⟩ := Prod.mk.inj hout
    change RunPerforming newUUID answers _ vars after stopIfFailed st' after
    rw [RunPerforming, stopIfFailed, Body.get_bind_exec, hfailure]
    exact .inl ⟨hall, ⟨⟨(), rfl⟩, hsame⟩, rfl⟩
  · cases hout
    change RunPerforming newUUID answers _ vars after stopIfFailed st' after
    rw [RunPerforming, stopIfFailed, Body.get_bind_exec, hfailed]
    exact .inr ⟨hmissing, _, rfl, .inr hready⟩

def provisionWork (deps : Deps) (rc : ReconcileCtx) : NormalBody DomainInfo := do
  runStep (preflightPools rc)
  stopIfFailed
  issue (.enter .baseImage)
  prepareArtifacts deps rc
  bringUpDomain deps rc

theorem provisionWork_performs (hsame : RunState.SameVars st vars)
    (hpool : vars.storagePool = rc.spec.rootDisk.storagePool)
    (hfailure : st.status.failureReason = none) (before : Host) :
    RunPerforming newUUID answers (provisionStage newUUID answers deps rc) vars before
      (provisionWork deps rc) st before := by
  have hwork : provisionWork deps rc = (do
      runStep (preflightPools rc)
      stopIfFailed) >>= fun _ => issue (.enter .baseImage) >>= fun _ =>
        prepareArtifacts deps rc >>= fun _ => bringUpDomain deps rc := by
    rw [provisionWork, bind_assoc]
  rw [hwork]
  refine run_bind_performs (preflightPools_performs hsame hfailure before) fun _ st₁ hsame₁ => ?_
  refine enter_performs (run_bind_performs (prepareArtifacts_performs hsame₁ hpool _)
    fun _ st₂ hsame₂ => ?_)
  exact bringUpDomain_performs hsame₂ _

-- What provision does after the domain's start, or after the host work ended short of it.
def finish (deps : Deps) (rc : ReconcileCtx) (out : Except Return DomainInfo × RunState) :
    Prog signature (Return × RunState) :=
  match out.1 with
  | .error ret => .done (ret, out.2)
  | .ok domainInfo =>
    onStatus (reconcileNodeLabels rc.libvirtMachine rc.domainName) (markReady deps rc domainInfo out.2)

theorem provision_eq (deps : Deps) (rc : ReconcileCtx) (st : RunState) :
    provision deps rc st = preflightSessionMode deps rc st >>= fun out =>
      if out.2.status.failureReason.isSome then .done (({}, none), out.2)
      else (provisionWork deps rc).exec out.2 >>= finish deps rc := by
  have hbody : (do
      preflight deps rc
      issue (.enter .baseImage)
      hostWork deps rc) = Body.call (preflightSessionMode deps rc) >>= fun _ => stopIfFailed >>= fun _ =>
        provisionWork deps rc >>= fun domainInfo => Body.modify (markReady deps rc domainInfo) >>= fun _ =>
          Body.call (onStatus (reconcileNodeLabels rc.libvirtMachine rc.domainName)) := by
    simp only [preflight, hostWork, provisionWork, bind_assoc]
  rw [provision, hbody, Body.run]
  simp only [Body.call_bind_exec, stopIfFailed, bind_assoc, Body.get_bind_exec, Body.leaveIf_bind_exec]
  congr 1
  funext out
  split
  · rfl
  · rw [Body.bind_exec, bind_assoc]
    congr 1
    funext out
    obtain ⟨value, st'⟩ := out
    cases value with
    | error ret => rfl
    | ok domainInfo =>
      simp only [Body.andThen_ok, Body.modify_bind_exec, finish, Body.call, bind_assoc, Prog.done_bind]
      exact Prog.bind_done _

section Resumable

variable {α β : Type} {ready : β → Prop}

theorem OffNodes.symm {before after : Host} (h : OffNodes before after) : OffNodes after before :=
  fun key hkey => (h key hkey).symm

theorem OffNodes.trans {before middle after : Host} (hl : OffNodes before middle)
    (hr : OffNodes middle after) : OffNodes before after :=
  fun key hkey => (hr key hkey).trans (hl key hkey)

-- From any state a successful run has passed, another run succeeds and ends like the first.
def Resumable (newUUID : DomainXML → String) (answers : (op : Op) → Reply op) (ready : β → Prop)
    (prog : Prog signature β) (before : Host) : Prop :=
  ready (run (hostMachine newUUID answers) prog before).1 →
    ∀ mid ∈ visited (hostMachine newUUID answers) prog before,
      ready (run (hostMachine newUUID answers) prog mid).1 ∧
        OffNodes (run (hostMachine newUUID answers) prog before).2
          (run (hostMachine newUUID answers) prog mid).2

theorem offHost_run {post : α → Prop} {prog : Prog signature α} (h : Emits anyReply OffHost post prog)
    (before : Host) : run (hostMachine newUUID answers) prog before = (input answers prog, before) :=
  Prod.ext_iff.mpr (Holds.run (offHost_holds h before))

theorem offHost_visited {post : α → Prop} {prog : Prog signature α} (h : Emits anyReply OffHost post prog)
    {before mid : Host} (hmid : mid ∈ visited (hostMachine newUUID answers) prog before) : mid = before :=
  Holds.visited (· = before) (offHost_holds h before) (fun _ _ hg => hg) (fun _ _ hpost => hpost.2) hmid

theorem Resumable.done (value : β) (before : Host) :
    Resumable newUUID answers ready (.done value) before :=
  fun hready _ hmid => ⟨hready, fun _ _ => congrFun (List.mem_singleton.mp hmid) _⟩

theorem Resumable.gate {post : α → Prop} {gate : Prog signature α} {f : α → Prog signature β}
    (hgate : Emits anyReply OffHost post gate) {before : Host}
    (hf : Resumable newUUID answers ready (f (input answers gate)) before) :
    Resumable newUUID answers ready (gate >>= f) before := by
  have hrun (mid : Host) : run (hostMachine newUUID answers) (gate >>= f) mid =
      run (hostMachine newUUID answers) (f (input answers gate)) mid := by
    rw [run_bind, offHost_run hgate]
  intro hready mid hmid
  rw [hrun] at hready ⊢
  rw [hrun]
  rcases mem_visited_bind hmid with hfirst | hrest
  · obtain rfl := offHost_visited hgate hfirst
    exact ⟨hready, fun _ _ => rfl⟩
  · rw [offHost_run hgate] at hrest
    exact hf hready mid hrest

-- A cut in the stage is resumed by the stage; after it nothing of the stage is left to do,
-- and what follows only changes Nodes.
theorem Resumable.of_stage {stage : HostStage} {goesOn : α → RunState → Prop} {stops : α → Prop}
    {work : Prog signature α} {f : α → Prog signature β}
    (hwork : ∀ mid, Performs (hostMachine newUUID answers) stage goesOn stops work vars mid)
    (hresumes : stage.Resumes) (hsettles : stage.Settles OffNodes)
    (hstops : ∀ value s, stops value → ¬ ready (run (hostMachine newUUID answers) (f value) s).1)
    (hgoes : ∀ value vars s, goesOn value vars → Holds (hostMachine newUUID answers).handler
      (fun mid _ => OffNodes s mid) (fun value' after => ready value' ∧ OffNodes s after) (f value) s)
    (before : Host) : Resumable newUUID answers ready (work >>= f) before := by
  intro hready mid hmid
  rw [run_bind] at hready
  have hnot : ¬ stops (run (hostMachine newUUID answers) work before).1 :=
    fun h => hstops _ _ h hready
  obtain ⟨hok, hvalue, hafter⟩ := (Holds.run (hwork before)).resolve_right fun h => hnot h.2
  have hfirst := hgoes _ _ (run (hostMachine newUUID answers) work before).2 hvalue
  rw [run_bind, run_bind]
  rcases mem_visited_bind hmid with hcut | hcut
  · obtain ⟨hvalue', hafter'⟩ := (hwork before).resume hresumes hwork hnot hcut
    have hsecond := hgoes _ _ (run (hostMachine newUUID answers) work mid).2 hvalue'
    obtain ⟨hready', hoff⟩ := Holds.run hsecond
    refine ⟨hready', (Holds.run hfirst).2.symm.trans ?_⟩
    rw [← hafter']
    exact hoff
  · have hoff : OffNodes (run (hostMachine newUUID answers) work before).2 mid :=
      Holds.visited _ hfirst (fun _ _ hg => hg) (fun _ _ hpost => hpost.2) hcut
    obtain ⟨hok', hnext⟩ := hsettles vars before mid hok (hafter ▸ hoff)
    obtain ⟨-, hvalue', hafter'⟩ := (Holds.run (hwork mid)).resolve_right fun h => h.1 hok'
    have hsecond := hgoes _ _ (run (hostMachine newUUID answers) work mid).2 hvalue'
    obtain ⟨hready', hoff'⟩ := Holds.run hsecond
    rw [hnext] at hafter'
    refine ⟨hready', (Holds.run hfirst).2.symm.trans (hoff.trans ?_)⟩
    rw [hafter'] at hoff' ⊢
    exact hoff'

end Resumable

theorem reconcileNodeLabels_offNodes (lm : LibvirtMachine) (nodeName : String)
    (status : LibvirtMachineStatus) (h : Host) :
    Holds (hostMachine newUUID answers).handler (fun mid _ => OffNodes h mid)
      (fun out after => (out.1.2 = none ∧ out.2.ready = status.ready) ∧ OffNodes h after)
      (reconcileNodeLabels lm nodeName status) h := by
  rw [reconcileNodeLabels]
  split
  · exact ⟨⟨rfl, rfl⟩, fun _ _ => rfl⟩
  · refine ⟨fun _ _ => rfl, fun reply after hs => ?_⟩
    cases hnode : h (.node nodeName) with
    | none =>
      have hget : hostAnswer newUUID answers h (.getNode nodeName) =
          (.error (.notFound ("nodes " ++ quote nodeName ++ " not found")), h) := by
        simp only [hostAnswer, hnode]
      obtain ⟨rfl, rfl⟩ := Prod.mk.inj (hget.symm.trans hs)
      exact ⟨⟨rfl, rfl⟩, fun _ _ => rfl⟩
    | some node =>
      have hget : hostAnswer newUUID answers h (.getNode nodeName) = (.ok node, h) := by
        simp only [hostAnswer, hnode]
      obtain ⟨rfl, rfl⟩ := Prod.mk.inj (hget.symm.trans hs)
      refine ⟨fun _ _ => rfl, fun reply after hs => ?_⟩
      have hpatch : hostAnswer newUUID answers h (.patchNode nodeName (labelledNode lm.spec node)) =
          (.ok (), h.set (.node nodeName) (labelledNode lm.spec node)) := by
        simp only [hostAnswer, hnode]
      obtain ⟨rfl, rfl⟩ := Prod.mk.inj (hpatch.symm.trans hs)
      exact ⟨⟨rfl, rfl⟩, fun key hkey => h.set_of_ne _ (hkey nodeName)⟩

def ReachesReady (out : Return × LibvirtMachine) : Prop :=
  out.1.2 = none ∧ out.2.status.ready = true

theorem preflightSessionMode_offHost (st : RunState) :
    Emits anyReply OffHost (fun out => out.2.status.failureReason.isSome = true ∨ out.2 = st)
      (preflightSessionMode deps rc st) := by
  rw [preflightSessionMode]
  rcases localConnectionURI deps rc.libvirtHost.uri with err | _ | _
  · exact .inr rfl
  · exact .inr rfl
  · dsimp only
    split
    · exact (emits_ask _ _).mpr ⟨trivial, fun _ _ => .inl rfl⟩
    · exact .inr rfl

theorem input_post {α : Type} {prog : Prog signature α} {post : α → Prop}
    (h : Emits anyReply OffHost post prog) : post (input answers prog) := by
  have hall : Holds (Machine.handler fun (_ : Unit) op => (answers op, ())) (fun _ _ => True)
      (fun value _ => post value) prog () :=
    Holds.mono h (fun _ _ _ _ _ => trivial) (fun _ _ _ => trivial) fun _ _ hpost => hpost
  exact Holds.run hall

theorem finish_ready {out : Except Return DomainInfo × RunState} (hfalls : Falls out vars) (h : Host) :
    Holds (hostMachine newUUID answers).handler (fun mid _ => OffNodes h mid)
      (fun value after => ReachesReady value ∧ OffNodes h after)
      (finish deps rc out >>= fun out => .done (out.1, rc.object out.2)) h := by
  obtain ⟨out, st⟩ := out
  obtain ⟨⟨domainInfo, rfl⟩, -⟩ := hfalls
  simp only [finish, onStatus, bind_assoc, Prog.done_bind]
  refine Holds.bind (reconcileNodeLabels_offNodes _ _ _ h) ?_
  rintro ⟨ret, status⟩ after ⟨⟨herr, hready⟩, hoff⟩
  exact ⟨⟨herr, hready⟩, hoff⟩

theorem finish_down {out : Except Return DomainInfo × RunState} (hdown : RunDown out) (h : Host) :
    ¬ ReachesReady (run (hostMachine newUUID answers)
      (finish deps rc out >>= fun out => .done (out.1, rc.object out.2)) h).1 := by
  obtain ⟨out, st⟩ := out
  obtain ⟨ret, rfl, herr | hready⟩ := hdown
  · exact fun h => herr h.1
  · exact fun h => Bool.noConfusion (hready.symm.trans h.2)

theorem provision_resumable (hapart : BaseImageApart rc) (hpools : PoolsApart rc)
    (status : LibvirtMachineStatus) (before : Host) :
    Resumable newUUID answers ReachesReady
      (provision deps rc (rc.initialState status) >>= fun out => .done (out.1, rc.object out.2)) before := by
  rw [provision_eq, bind_assoc]
  have hmode : Emits anyReply OffHost _ (preflightSessionMode deps rc (rc.initialState status)) :=
    preflightSessionMode_offHost (rc.initialState status)
  refine Resumable.gate hmode ?_
  cases hfailure : (input answers (preflightSessionMode deps rc
      (rc.initialState status))).2.status.failureReason with
  | some reason =>
    simp only [Option.isSome_some, if_true, Prog.done_bind]
    exact Resumable.done _ before
  | none =>
    have hstate := (input_post hmode).resolve_left (by rw [hfailure]; exact nofun)
    rw [hstate] at hfailure ⊢
    simp only [Option.isSome_none, Bool.false_eq_true, if_false, bind_assoc]
    have hwork (mid : Host) : Performs (hostMachine newUUID answers)
        (provisionStage newUUID answers deps rc) Falls RunDown
        ((provisionWork deps rc).exec (rc.initialState status)) (rc.initialState status) mid :=
      provisionWork_performs ⟨_, _, rfl⟩ rfl hfailure mid
    exact Resumable.of_stage hwork (provisionStage_resumes hapart hpools)
      (provisionStage_settles hapart hpools) (fun out h hdown => finish_down hdown h)
      (fun out vars h hfalls => finish_ready hfalls h) before

theorem offHost_of_gateOp (op : Op) (h : GateOp op) : OffHost op := by
  cases op <;> trivial

theorem offHost_of_readOp (op : Op) (h : ReadOp op) : OffHost op := by
  cases op <;> trivial

section Main

variable {fetched : LibvirtMachine} {machine : Machine} {cluster : Cluster}
  {libvirtCluster : LibvirtCluster} {host : LibvirtHost}

theorem reconcileNormal_resumable
    (hapart : ∀ vcpus memoryMB,
      BaseImageApart ⟨fetched.addFinalizer, machine, cluster, libvirtCluster, host, vcpus, memoryMB⟩)
    (hpools : ∀ vcpus memoryMB,
      PoolsApart ⟨fetched.addFinalizer, machine, cluster, libvirtCluster, host, vcpus, memoryMB⟩)
    (before : Host) :
    Resumable newUUID answers ReachesReady
      (reconcileNormal deps fetched machine cluster libvirtCluster host) before := by
  rw [reconcileNormal]
  split
  · exact Resumable.done _ before
  refine Resumable.gate ((createClients_emits deps host).mono (fun _ _ hr => hr) offHost_of_readOp
    fun _ h => h) ?_
  split
  · exact Resumable.done _ before
  refine Resumable.gate ((ensureBootstrapData_emits _ machine _).mono (fun _ _ hr => hr)
    offHost_of_readOp fun _ h => h) ?_
  split
  · exact Resumable.done _ before
  refine Resumable.gate ((resolveAutoSizing_emits _ host _).mono (fun _ _ hr => hr)
    offHost_of_gateOp fun _ h => h) ?_
  split
  · exact Resumable.done _ before
  · exact provision_resumable (hapart _ _) (hpools _ _) _ before

end Main

-- A machine whose base image has the name of its own data disk, on a host where its domain is
-- left without the root disk.
def selfBasedMachine : LibvirtMachine :=
  { sampleMachine with spec := { sampleMachine.spec with
      rootDisk := { sampleMachine.spec.rootDisk with baseImage := "ns-c-m-data.qcow2" }
      additionalDisks := [⟨"data", 1073741824, "default", "virtio"⟩] } }

def rootlessHost : Host :=
  (provisioned sampleMachine).2.erase (.volume "default" "ns-c-m-root.qcow2")

def selfBasedRun (h : Host) : (Return × LibvirtMachine) × Host :=
  run (hostMachine sampleUUID freshAnswer) (reconcileNormal sampleDeps selfBasedMachine sampleOwner
    sampleCluster sampleLibvirtCluster sampleHost) h

end Caplv.Controller

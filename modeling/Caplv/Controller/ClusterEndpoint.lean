import Caplv.Controller.NeverStranded

namespace Caplv.Controller

open Text Api Libvirt Program

inductive ReadyReason where
  | controlPlaneUnreachable
  | clusterReady
deriving DecidableEq, Repr

-- The condition "Ready", the only one of a LibvirtCluster.
structure ReadyCondition where
  status : Bool
  reason : ReadyReason
  message : String
  observedGeneration : Int
deriving DecidableEq, Repr

structure ClusterStatus where
  ready : Bool
  condition : Option ReadyCondition
deriving DecidableEq, Repr

structure ClusterObject where
  namespaceName : String
  name : String
  generation : Int
  annotations : StringMap
  endpointHost : String
  endpointPort : Int32
  status : ClusterStatus
deriving DecidableEq

def ClusterObject.key (object : ClusterObject) : ObjectKey := ⟨object.namespaceName, object.name⟩

inductive ClusterOp where
  | getLibvirtCluster (key : ObjectKey)
  | newPatchHelper (key : ObjectKey)
  | getOwnerCluster (key : ObjectKey)
  | dial (address : String)
  | patchCluster (fetched checked : ClusterObject)
deriving DecidableEq

@[reducible] def ClusterReply : ClusterOp → Type
  | .getLibvirtCluster _ => Except ApiError ClusterObject
  | .newPatchHelper _ => Except ApiError Unit
  | .getOwnerCluster _ => Except ApiError (Option Cluster)
  | .dial _ => Except GoError Unit
  | .patchCluster _ _ => PatchOutcome

abbrev clusterSignature : Signature := ⟨ClusterOp, ClusterReply⟩

abbrev clusterAsk (op : ClusterOp) : Prog clusterSignature (ClusterReply op) := @Prog.perform clusterSignature op

def clusterRequeueInterval : Nat := 60

-- net.JoinHostPort: a host with a colon is put in brackets.
def joinHostPort (host port : String) : String :=
  if ':' ∈ host.toList then "[" ++ host ++ "]:" ++ port else host ++ ":" ++ port

namespace ClusterObject

variable (object : ClusterObject)

def address : String := joinHostPort object.endpointHost (toString object.endpointPort.toInt)

def checked : Except GoError Unit → ClusterObject
  | .error err => { object with status := ⟨false, some ⟨false, .controlPlaneUnreachable,
      "TCP dial to " ++ object.address ++ " failed: " ++ err.message, object.generation⟩⟩ }
  | .ok _ => { object with status := ⟨true, some ⟨true, .clusterReady,
      "Control plane endpoint " ++ object.address ++ " is reachable", object.generation⟩⟩ }

end ClusterObject

-- The part of Reconcile under the deferred patch.
def checkCluster (object : ClusterObject) : Prog clusterSignature (Return × ClusterObject) := do
  match ← clusterAsk (.getOwnerCluster object.key) with
  | .error err => .done (({}, some (.api err)), object)
  | .ok none => .done (({}, none), object)
  | .ok (some cluster) =>
    if cluster.paused || (object.annotations.get? pausedAnnotation).isSome then .done (({}, none), object)
    else do
      let dialled ← clusterAsk (.dial object.address)
      .done ((⟨clusterRequeueInterval⟩, none), object.checked dialled)

def reconcileCluster (key : ObjectKey) : Prog clusterSignature Return := do
  match ← clusterAsk (.getLibvirtCluster key) with
  | .error err => .done (if err.isNotFound then ({}, none) else ({}, some (.api err)))
  | .ok fetched =>
    match ← clusterAsk (.newPatchHelper key) with
    | .error err => .done ({}, some (.api err))
    | .ok _ => do
        let out ← checkCluster fetched
        let _ ← clusterAsk (.patchCluster fetched out.2)
        .done out.1

structure TrackedCluster where
  object : ClusterObject
  owner : Option ObjectKey
deriving DecidableEq

abbrev ClusterInformed := Informed ObjectKey TrackedCluster

def TrackedCluster.group (tracked : TrackedCluster) : ObjectKey := tracked.owner.getD tracked.object.key

-- The fields of the status that differ between the object as fetched and as checked.
def patchedCluster (outcome : PatchOutcome) (old new stored : ClusterObject) : ClusterObject :=
  { stored with
    status.ready := if outcome.status = true ∧ old.status.ready ≠ new.status.ready then new.status.ready
      else stored.status.ready
    status.condition := if outcome.status = true ∧ old.status.condition ≠ new.status.condition then
      new.status.condition else stored.status.condition }

-- A patch that fails is made up for by the next check, so that it need not be marked.
def patchClusterInformed (informed : ClusterInformed) (outcome : PatchOutcome) (old new : ClusterObject) :
    ClusterInformed :=
  informed.put old.key ((informed.objects old.key).stored.map fun tracked =>
    { tracked with object := patchedCluster outcome old new tracked.object }) true

-- The cluster is read from what was seen and its owner by the reference in memory.
def clusterStep (own : ObjectKey) : Handler clusterSignature ClusterInformed := fun before op =>
  match op with
  | .getLibvirtCluster key => fun reply after =>
    match (reply : Except ApiError ClusterObject) with
    | .ok object => object.key = key ∧ ∃ owner, (before.objects key).seen = some ⟨object, owner⟩ ∧
        after = before.hold own ⟨object, owner⟩
    | .error err => (err.isNotFound = true → (before.objects key).seen = none) ∧ after = before
  | .getOwnerCluster _ => fun reply after => after = before ∧
      ∀ tracked, before.fetched own = some tracked →
        match (reply : Except ApiError (Option Cluster)) with
        | .ok none => tracked.owner = none
        | .ok (some cluster) => cluster.paused = before.paused tracked.group
        | .error _ => True
  | .patchCluster old new => fun outcome after => after = patchClusterInformed before outcome old new
  | _ => fun _ after => after = before

def clusterController : Reconciler clusterSignature ClusterInformed ObjectKey where
  act := clusterStep
  changes := Learns TrackedCluster.group
  reconcile := fun key => reconcileCluster key >>= fun ret => .done (calledAgain ret)

structure Probed (tracked : TrackedCluster) : Prop where
  owned : tracked.owner ≠ none
  unannotated : (tracked.object.annotations.get? pausedAnnotation).isSome = false

abbrev ClusterDue (informed : ClusterInformed) (key : ObjectKey) (tracked : TrackedCluster) : Prop :=
  Due TrackedCluster.group Probed informed key tracked

abbrev ClusterWaits (informed : ClusterInformed) (key : ObjectKey) : Prop :=
  Waits TrackedCluster.group Probed informed key

section Probing

variable {key : ObjectKey} {object : ClusterObject} {owner : Option ObjectKey}

theorem clusterStep_affects {own : ObjectKey} {before after : ClusterInformed} {op : ClusterOp}
    {reply : ClusterReply op} (hstep : clusterStep own before op reply after) : Affects own before after := by
  cases op with
  | getLibvirtCluster asked =>
    cases reply with
    | ok object =>
      obtain ⟨-, owner, -, rfl⟩ := hstep
      exact .hold _
    | error err =>
      obtain rfl := hstep.2
      exact .same
  | getOwnerCluster asked =>
    obtain rfl := hstep.1
    exact .same
  | patchCluster old new =>
    obtain rfl := hstep
    exact .put _ _ _
  | newPatchHelper | dial =>
    obtain rfl := hstep
    exact .same

abbrev SettlesCluster (key : ObjectKey) (known : Option TrackedCluster × Option TrackedCluster → Prop)
    (prog : Prog clusterSignature Bool) : Prop :=
  Reconciler.Settles (clusterStep key) (ClusterWaits · key) (Informed.view · key) known prog

-- A check of a cluster that is owned and not paused comes to the dial, and asks for the next one.
theorem checkCluster_settles {f : Return × ClusterObject → Prog clusterSignature Bool}
    {looks : Option TrackedCluster × Option TrackedCluster} (hlooks : looks = (some ⟨object, owner⟩, some ⟨object, owner⟩))
    (hf : ∀ out, calledAgain out.1 = true → SettlesCluster key (fun now => now = looks) (f out)) :
    SettlesCluster key (fun now => now = looks) (checkCluster object >>= f) := by
  subst hlooks
  intro before reply after hbefore hstep
  obtain ⟨rfl, hreply⟩ := hstep
  have hheld : after.view key = (some ⟨object, owner⟩, some ⟨object, owner⟩) := hbefore
  have hfetched := hreply ⟨object, owner⟩ (congrArg Prod.snd hheld)
  change _ ∨ SettlesCluster key (fun now => now = after.view key) _
  rw [hheld]
  rcases reply with err | _ | cluster
  · exact .inr (hf _ rfl)
  · refine .inl ?_
    rintro ⟨tracked, hdue⟩
    obtain rfl := hdue.value_eq hheld
    exact hdue.wanted.owned hfetched
  · by_cases hpaused : (cluster.paused || (object.annotations.get? pausedAnnotation).isSome) = true
    · refine .inl ?_
      rintro ⟨tracked, hdue⟩
      obtain rfl := hdue.value_eq hheld
      have hunannotated := hdue.wanted.unannotated
      have hunpaused := hdue.unpaused
      rw [← show cluster.paused = _ from hfetched] at hunpaused
      rw [hunpaused, hunannotated] at hpaused
      cases hpaused
    · refine .inr ?_
      change SettlesCluster key _ ((if (cluster.paused || _) = true then _ else _) >>= f)
      rw [if_neg hpaused]
      intro before dialled after hbefore hstep
      obtain rfl := hstep
      have hstill : after.view key = (some ⟨object, owner⟩, some ⟨object, owner⟩) := hbefore
      change _ ∨ SettlesCluster key (fun now => now = after.view key) _
      rw [hstill]
      exact .inr (hf _ rfl)

theorem reconcileCluster_settles (key : ObjectKey) :
    SettlesCluster key (fun _ => True) (clusterController.reconcile key) := by
  rintro before reply after - hstep
  cases reply with
  | error err =>
    obtain ⟨hfound, rfl⟩ := hstep
    cases hnotFound : err.isNotFound with
    | true =>
      refine .inl ?_
      rintro ⟨tracked, hdue⟩
      have hseen := hdue.seen
      rw [hfound hnotFound] at hseen
      cases hseen
    | false =>
      refine .inr ?_
      change calledAgain (if err.isNotFound then ({}, none) else ({}, some (.api err))) = true
      rw [hnotFound]
      rfl
  | ok object =>
    obtain ⟨-, owner, hseen, rfl⟩ := hstep
    refine .inr fun before helper after hbefore hstep => .inr ?_
    obtain rfl := hstep
    have hheld : after.view key = (some ⟨object, owner⟩, some ⟨object, owner⟩) := by
      refine Eq.trans hbefore ?_
      simp [Informed.view, Informed.hold, hseen]
    cases helper with
    | error err => exact rfl
    | ok _ =>
      change SettlesCluster key _ ((checkCluster object >>= _) >>= _)
      rw [bind_assoc]
      exact checkCluster_settles hheld fun out hagain _ _ _ _ _ => .inr hagain

end Probing

-- A cluster's endpoint never stops being probed while it is owned and not paused: the next check
-- is going on, is to come, or waits for its time. Nothing tells the controller that a pause has
-- ended.
theorem endpoint_always_probed {c : Config _ (ClusterInformed × Workqueue ObjectKey) ObjectKey Unit}
    (hc : clusterController.system.Reachable
      (fun state => ∀ key, (state.1.objects key).seen ≠ none → state.2.dirty key = true) c)
    {key : ObjectKey} (hfree : c.state.2.processing key = false) {tracked : TrackedCluster}
    (hdue : ClusterDue c.state.1 key tracked) : c.state.2.Pending key :=
  due_pending rfl (fun _ _ _ _ _ => clusterStep_affects) reconcileCluster_settles hc hfree hdue

theorem patchClusterInformed_same (informed : ClusterInformed) (outcome : PatchOutcome) (object : ClusterObject) :
    patchClusterInformed informed outcome object object = informed := by
  simp [patchClusterInformed, patchedCluster, Informed.put, Watched.put]

def endpointKey : ObjectKey := ⟨"ns", "lc"⟩

def sampleTracked : TrackedCluster :=
  ⟨ClusterObject.checked ⟨"ns", "lc", 1, [], "10.0.0.1", 6443, ⟨false, none⟩⟩ (.ok ()), some ⟨"ns", "c"⟩⟩

def clusterInformed (object : Watched (Option TrackedCluster)) : ClusterInformed :=
  { objects := Function.update (fun _ => ⟨none, []⟩) endpointKey object
    fetched := fun _ => none
    paused := fun _ => false
    missed := fun _ => false }

def probedOnce : Workqueue ObjectKey := (Workqueue.empty.addAll [endpointKey]).worked endpointKey true

def clusterProbed : ClusterInformed := (clusterInformed ⟨some sampleTracked, []⟩).hold endpointKey sampleTracked

theorem clusterProbed_due : ClusterDue clusterProbed endpointKey sampleTracked :=
  ⟨rfl, rfl, rfl, rfl, ⟨Option.some_ne_none _, rfl⟩⟩

-- The probe finds what the status already says, so that the patch changes nothing.
theorem clusterProbed_run : Completes (clusterStep endpointKey) (clusterController.reconcile endpointKey)
    (clusterInformed ⟨some sampleTracked, []⟩) true clusterProbed := by
  have hget : clusterStep endpointKey (clusterInformed ⟨some sampleTracked, []⟩) (.getLibvirtCluster endpointKey)
      (.ok sampleTracked.object) clusterProbed := ⟨rfl, sampleTracked.owner, rfl, rfl⟩
  have hhelper : clusterStep endpointKey clusterProbed (.newPatchHelper endpointKey) (.ok ()) clusterProbed := rfl
  have howner : clusterStep endpointKey clusterProbed (.getOwnerCluster endpointKey) (.ok (some sampleCluster))
      clusterProbed := ⟨rfl, fun tracked _ => rfl⟩
  have hdial : clusterStep endpointKey clusterProbed (.dial "10.0.0.1:6443") (.ok ()) clusterProbed := rfl
  have hpatch : clusterStep endpointKey clusterProbed (.patchCluster sampleTracked.object sampleTracked.object)
      ⟨true, true⟩ clusterProbed :=
    (patchClusterInformed_same _ _ _).symm
  exact ⟨_, .ask hget (.ask hhelper (.ask howner (.ask hdial (.ask hpatch (.refl _ _)))))⟩

theorem endpoint_always_probed_started :
    ClusterDue clusterProbed endpointKey sampleTracked ∧ probedOnce.dirty endpointKey = false ∧
      probedOnce.Pending endpointKey := by
  have hidle : clusterController.system.Reachable
      (fun state => ∀ key, (state.1.objects key).seen ≠ none → state.2.dirty key = true)
      (System.idle (clusterInformed ⟨none, []⟩, Workqueue.empty)) :=
    System.reachable_idle fun key hseen => absurd (by simp [clusterInformed]) hseen
  have hwrite : clusterController.system.env (clusterInformed ⟨none, []⟩, Workqueue.empty)
      (clusterInformed ⟨none, [some sampleTracked]⟩, Workqueue.empty) :=
    .changes [] (.write endpointKey (some sampleTracked) (by simp [clusterInformed, Watched.write])) rfl
  have hdeliver : clusterController.system.env (clusterInformed ⟨none, [some sampleTracked]⟩, Workqueue.empty)
      (clusterInformed ⟨some sampleTracked, []⟩, Workqueue.empty.addAll [endpointKey]) :=
    .changes _ (.deliver endpointKey [] [] (some sampleTracked) (by simp [clusterInformed])
      (by simp [clusterInformed])) rfl
  have hprobed := Reconciler.reachable_worked ((hidle.env hwrite).env hdeliver) rfl rfl clusterProbed_run
  exact ⟨clusterProbed_due, rfl, endpoint_always_probed hprobed rfl clusterProbed_due⟩

end Caplv.Controller

import Caplv.Controller.Normal
import Caplv.Controller.Delete

namespace Caplv.Controller

open Text Api Libvirt Scope Program

-- annotations.IsPaused
def isPaused (cluster : Cluster) (lm : LibvirtMachine) : Bool :=
  cluster.paused || (lm.annotations.get? pausedAnnotation).isSome

-- util.GetClusterFromMetadata
def getClusterFromMetadata (lm : LibvirtMachine) : Prog signature (Except GoError Cluster) :=
  let clusterName := lm.labels.index clusterNameLabel
  if clusterName = "" then
    .done (.error (.text ("no " ++ quote clusterNameLabel ++ " label present")))
  else do
    match ← ask (.getCluster ⟨lm.namespaceName, clusterName⟩) with
    | .error err => .done (.error (.wrap ("failed to get Cluster/" ++ clusterName) (.api err)))
    | .ok cluster => .done (.ok cluster)

-- The part of Reconcile under the deferred patch, with the object it leaves in memory.
def reconcileFetched (deps : Deps) (lm : LibvirtMachine) :
    Prog signature (Return × LibvirtMachine) := do
  match ← ask (.getOwnerMachine lm.key) with
  | .error err => .done (({}, some (.api err)), lm)
  | .ok none => .done (({}, none), lm)
  | .ok (some machine) =>
    match ← getClusterFromMetadata lm with
    | .error err => .done (({}, some err), lm)
    | .ok cluster =>
      if isPaused cluster lm then .done (({}, none), lm)
      else
        match cluster.infrastructureRef with
        | none => .done (({}, some (.text ("cluster " ++ cluster.namespaceName ++ "/" ++
            cluster.name ++ " has no InfrastructureRef"))), lm)
        | some infraRef =>
          match ← ask (.getLibvirtCluster ⟨lm.namespaceName, infraRef.name⟩) with
          | .error err => .done (({}, some (.wrap "failed to get LibvirtCluster" (.api err))), lm)
          | .ok libvirtCluster =>
            match ← ask (.getLibvirtHost ⟨lm.namespaceName, lm.spec.hostRef⟩) with
            | .error err => .done (({}, some (.wrap "failed to get LibvirtHost" (.api err))), lm)
            | .ok host =>
              if lm.deletionTimestamp then reconcileDelete deps lm cluster host
              else reconcileNormal deps lm machine cluster libvirtCluster host

def reconcile (deps : Deps) (key : ObjectKey) : Prog signature Return := do
  match ← ask (.getLibvirtMachine key) with
  | .error err => .done (if err.isNotFound then ({}, none) else ({}, some (.api err)))
  | .ok fetched =>
    match ← ask (.newPatchHelper key) with
    | .error err => .done ({}, some (.api err))
    | .ok _ => do
        let out ← reconcileFetched deps fetched
        let _ ← ask (.patchMachine fetched out.2)
        .done out.1

def LookupOp : Op → Prop
  | .getOwnerMachine _ | .getCluster _ | .getLibvirtCluster _ | .getLibvirtHost _ => True
  | _ => False

section Rules

variable {σ : Type} {step : Handler signature σ} {guard : σ → Op → Prop} (know : σ → Prop)
  {deps : Deps} {lm : LibvirtMachine} {post : Return × LibvirtMachine → σ → Prop}

theorem getClusterFromMetadata_holds (chosen : Cluster → Prop)
    (hguard : ∀ before op, know before → LookupOp op → guard before op)
    (hstep : ∀ before op reply after, know before → LookupOp op → step before op reply after →
      know after)
    (hchosen : ∀ before cluster after, know before →
      step before (.getCluster ⟨lm.namespaceName, lm.labels.index clusterNameLabel⟩) (.ok cluster) after →
        chosen cluster)
    {w : σ} (hw : know w) :
    Holds step guard (fun out after => know after ∧ ∀ cluster, out = .ok cluster → chosen cluster)
      (getClusterFromMetadata lm) w := by
  rw [getClusterFromMetadata]
  split
  · exact ⟨hw, nofun⟩
  · refine ⟨hguard _ _ hw trivial, fun reply after hs => ?_⟩
    have hafter : know after := hstep _ _ reply _ hw trivial hs
    cases reply with
    | error err => exact ⟨hafter, nofun⟩
    | ok cluster =>
      refine ⟨hafter, fun other hout => ?_⟩
      obtain rfl : cluster = other := Except.ok.inj hout
      exact hchosen _ cluster _ hw hs

-- What is known when the object was fetched and survives the reads is known where one of
-- the branches starts; a reconcile that ends before that leaves the object as it was. `owned`,
-- `chosen`, `bound` and `named` are what the reads of the four objects say about them.
theorem reconcileFetched_holds_of_branches (owned : Machine → Prop) (chosen : Cluster → Prop)
    (bound : LibvirtCluster → Prop) (named : LibvirtHost → Prop)
    (hguard : ∀ before op, know before → LookupOp op → guard before op)
    (hstep : ∀ before op reply after, know before → LookupOp op → step before op reply after →
      know after)
    (howned : ∀ before machine after, know before →
      step before (.getOwnerMachine lm.key) (.ok (some machine)) after → owned machine)
    (hchosen : ∀ before cluster after, know before →
      step before (.getCluster ⟨lm.namespaceName, lm.labels.index clusterNameLabel⟩) (.ok cluster) after →
        chosen cluster)
    (hbound : ∀ before key libvirtCluster after, know before →
      step before (.getLibvirtCluster key) (.ok libvirtCluster) after → bound libvirtCluster)
    (hnamed : ∀ before host after, know before →
      step before (.getLibvirtHost ⟨lm.namespaceName, lm.spec.hostRef⟩) (.ok host) after → named host)
    (hsame : ∀ ret w, know w → post (ret, lm) w)
    (hdelete : lm.deletionTimestamp = true → ∀ cluster host w, chosen cluster → named host → know w →
      Holds step guard post (reconcileDelete deps lm cluster host) w)
    (hnormal : lm.deletionTimestamp = false →
      ∀ machine cluster libvirtCluster host w, owned machine → chosen cluster → bound libvirtCluster →
      named host → know w →
      Holds step guard post (reconcileNormal deps lm machine cluster libvirtCluster host) w)
    {w : σ} (hw : know w) : Holds step guard post (reconcileFetched deps lm) w := by
  refine ⟨hguard w _ hw trivial, fun machine w₁ hs₁ => ?_⟩
  have h₁ : know w₁ := hstep w _ machine w₁ hw trivial hs₁
  rcases machine with err | _ | machine
  · exact hsame _ _ h₁
  · exact hsame _ _ h₁
  have hmachine : owned machine := howned w machine w₁ hw hs₁
  refine (getClusterFromMetadata_holds know chosen hguard hstep hchosen h₁).bind ?_
  rintro cluster w₂ ⟨h₂, hcluster⟩
  cases cluster with
  | error err => exact hsame _ _ h₂
  | ok cluster =>
    have hcluster : chosen cluster := hcluster cluster rfl
    change Holds step _ _ (if isPaused cluster lm = true then _ else _) _
    split
    · exact hsame _ _ h₂
    split
    · exact hsame _ _ h₂
    refine ⟨hguard _ _ h₂ trivial, fun libvirtCluster w₃ hs₃ => ?_⟩
    have h₃ : know w₃ := hstep _ _ libvirtCluster _ h₂ trivial hs₃
    cases libvirtCluster with
    | error err => exact hsame _ _ h₃
    | ok libvirtCluster =>
      have hinfra : bound libvirtCluster := hbound _ _ libvirtCluster _ h₂ hs₃
      refine ⟨hguard _ _ h₃ trivial, fun host w₄ hs => ?_⟩
      have h₄ : know w₄ := hstep _ _ host _ h₃ trivial hs
      cases host with
      | error err => exact hsame _ _ h₄
      | ok host =>
        have hname : named host := hnamed _ host _ h₃ hs
        change Holds step _ _ (if lm.deletionTimestamp = true then _ else _) _
        split
        · exact hdelete ‹_› cluster host w₄ hcluster hname h₄
        · exact hnormal (Bool.not_eq_true _ ▸ ‹_›) machine cluster libvirtCluster host w₄ hmachine
            hcluster hinfra hname h₄

-- The exits of reconcileDelete: nothing to do, a stalled cleanup, a cleanup that failed and
-- one that went through. `dialled` is what is known once the clients were asked for.
theorem reconcileDelete_holds_of_cleanUp (dialled : Except GoError Unit → σ → Prop)
    {cluster : Cluster} {host : LibvirtHost}
    (hsame : lm.containsFinalizer = false → ∀ ret w, know w → post (ret, lm) w)
    (hstall : host.ready = false → ∀ ret message w, know w →
      post (ret, lm.setCondition .cleanupStalled true .cleanupStalled message) w)
    (hclients : ∀ w, know w → Holds step guard dialled (createClients deps host) w)
    (hfailed : ∀ err ret message w, dialled (.error err) w →
      post (ret, lm.setCondition .cleanupStalled true .cleanupStalled message) w)
    (hclean : ∀ w, dialled (.ok ()) w → Holds step guard
      (Body.ends (fun _ lm' => post (({}, none), lm'.removeFinalizer)) fun ret lm' => post (ret, lm'))
      ((cleanUp ⟨cluster, lm, host⟩).exec lm) w)
    {w : σ} (hw : know w) : Holds step guard post (reconcileDelete deps lm cluster host) w := by
  simp only [reconcileDelete, Body.run, reconcileDeleteBody, stallCleanup, bind_assoc,
    Body.leaveIf_bind_exec, Body.ite_bind_exec, Body.pure_bind_exec, Body.modify_bind_exec,
    Body.leave_bind_exec]
  split
  · rename_i hfinalizer
    exact hsame (by simpa using hfinalizer) _ _ hw
  split
  · rw [Body.lift_bind_exec, bind_assoc]
    refine (hclients w hw).bind fun clients w₁ h₁ => ?_
    cases clients with
    | error err => exact hfailed err _ _ _ h₁
    | ok _ =>
      rw [pure_bind, Body.bind_exec, bind_assoc]
      refine (hclean w₁ h₁).bind ?_
      rintro ⟨out, lm'⟩ w₂ hout
      cases out with
      | error ret => exact hout
      | ok _ => exact hout
  · rename_i hready
    exact hstall (Bool.not_eq_true _ ▸ hready) _ _ _ hw

end Rules

def sampleDeps : Deps :=
  { urlPath := fun _ => .ok "/system"
    injectMachineMetadata := fun data _ _ => .ok data
    injectStaticNetwork := fun data _ => .ok data
    marshalError := fun _ => none
    sha256Hex := fun text => text
    pathJoin := fun parts => String.intercalate "/" parts
    baseImageCache := true
    bootArtifactsResolver := true }

def sampleCluster : Cluster := ⟨"ns", "c", false, some ⟨"LibvirtCluster", "ns", "lc"⟩⟩

def sampleLibvirtCluster : LibvirtCluster := ⟨"ns", "lc", none, none⟩

def sampleHost : LibvirtHost :=
  ⟨"ns", "h", "qemu+ssh://h/system", some ⟨"ssh", ""⟩, "", "", true, none⟩

end Caplv.Controller

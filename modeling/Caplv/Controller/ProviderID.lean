import Caplv.Controller.Cleanup
import Caplv.Controller.Versions
import Caplv.Controller.World

namespace Caplv.Controller

open Text Api Libvirt Scope Program

-- Reconcile reads the given object, and a cluster and a host under the names it asks for.
def readsObject (lm : LibvirtMachine) : Replies signature := fun op reply =>
  match op, reply with
  | .getLibvirtMachine _, reply => (reply : Except ApiError LibvirtMachine) = .ok lm
  | .getCluster key, reply =>
    ∀ cluster, (reply : Except ApiError Cluster) = .ok cluster → cluster.name = key.name
  | .getLibvirtHost key, reply =>
    ∀ host, (reply : Except ApiError LibvirtHost) = .ok host → host.name = key.name
  | _, _ => True

-- libvirt:///<host>/<domain> for the host and the cluster the object refers to.
def ownProviderID (lm : LibvirtMachine) : String :=
  "libvirt:///" ++ lm.spec.hostRef ++ "/" ++
    baseName lm.namespaceName (lm.labels.index clusterNameLabel) lm.name

def Publishes (lm after : LibvirtMachine) : Prop :=
  ∃ providerID, (providerID = lm.spec.providerID ∨ providerID = some (ownProviderID lm)) ∧
    after.spec = { lm.spec with providerID := providerID }

-- A patch leaves the provider ID alone, where the reconcile did not come to the status update,
-- and is accepted; or it sets the own one and is accepted if and only if no other was there.
def PatchOp (lm : LibvirtMachine) : Op → Prop
  | .patchMachine before after => before = lm ∧ Publishes lm after ∧
      (after.spec.providerID = lm.spec.providerID → Webhook.validateUpdate before after = .ok ()) ∧
      (after.spec.providerID = some (ownProviderID lm) → (Webhook.validateUpdate before after = .ok () ↔
        lm.spec.providerID = none ∨ lm.spec.providerID = some (ownProviderID lm)))
  | _ => True

section Validation

theorem validateCreate_shellSafe {parseCIDR : String → Option GoError}
    {listed : Option (Except GoError (List LibvirtMachine))} {obj : LibvirtMachine}
    (h : Webhook.validateCreate parseCIDR listed obj = .ok ()) :
    Webhook.validateShellSafeLibvirtFields obj.spec = [] := by
  have hall := Webhook.no_errors h
  simp only [List.append_eq_nil_iff] at hall
  exact hall.1.1.2

theorem validateUpdate_shellSafe {old new : LibvirtMachine} (h : Webhook.validateUpdate old new = .ok ()) :
    Webhook.validateShellSafeLibvirtFields new.spec = [] := by
  have hall := Webhook.no_errors h
  simp only [List.append_eq_nil_iff] at hall
  exact hall.1.1

theorem Version.shellSafe {obj lm : LibvirtMachine} (h : Version obj lm)
    (hcreated : Webhook.validateShellSafeLibvirtFields obj.spec = []) :
    Webhook.validateShellSafeLibvirtFields lm.spec = [] := by
  induction h with
  | created => exact hcreated
  | updated h hkey hvalid ih =>
    rcases hvalid with hvalid | hsame
    · exact validateUpdate_shellSafe hvalid
    · rw [hsame]
      exact ih

theorem providerIDErrors_eq_nil (old new : Option String) :
    Webhook.providerIDErrors old new = [] ↔ old = none ∨ old = new := by
  cases old with
  | none => simp [Webhook.providerIDErrors]
  | some old =>
    cases new with
    | none => simp [Webhook.providerIDErrors]
    | some new =>
      by_cases hsame : old = new <;> simp [Webhook.providerIDErrors, hsame]

theorem validateUpdate_iff {lm after : LibvirtMachine} {providerID : Option String}
    (hsafe : Webhook.validateShellSafeLibvirtFields lm.spec = [])
    (hspec : after.spec = { lm.spec with providerID := providerID }) :
    Webhook.validateUpdate lm after = .ok () ↔
      lm.spec.providerID = none ∨ lm.spec.providerID = providerID := by
  have hnew : Webhook.validateShellSafeLibvirtFields after.spec = [] := by
    rw [hspec]
    exact hsafe
  have hsame : Webhook.specErrors lm.spec after.spec = [] := by
    rw [hspec, Webhook.specErrors, if_neg (not_not.mpr rfl)]
  rw [← providerIDErrors_eq_nil, Webhook.validateUpdate, hnew, hsame, hspec]
  cases Webhook.providerIDErrors lm.spec.providerID providerID with
  | nil => simp
  | cons err rest => simp

end Validation

section Patch

variable {lm after : LibvirtMachine}

theorem patchOp_of_publishes (hsafe : Webhook.validateShellSafeLibvirtFields lm.spec = [])
    (h : Publishes lm after) : PatchOp lm (.patchMachine lm after) := by
  refine ⟨rfl, h, ?_⟩
  obtain ⟨providerID, -, hspec⟩ := h
  have hafter : after.spec.providerID = providerID := by rw [hspec]
  rw [hafter, validateUpdate_iff hsafe hspec]
  constructor
  · rintro rfl
    exact .inr rfl
  · rintro rfl
    exact Iff.rfl

theorem publishes_of_spec (h : after.spec = lm.spec) : Publishes lm after :=
  ⟨lm.spec.providerID, .inl rfl, h⟩

end Patch

section Runs

variable {deps : Deps} {lm : LibvirtMachine} {cluster : Cluster} {host : LibvirtHost}

def ProviderInv (rc : ReconcileCtx) (st : RunState) : Prop :=
  PoolInv rc st ∧ (st.providerID = rc.spec.providerID ∨ st.providerID = some rc.machineScope.providerID)

theorem providerInv_vars (rc : ReconcileCtx) : VarsInv rc (ProviderInv rc) where
  ownPool _ h := h.1
  status _ _ h := h
  ephemeral _ heph h := ⟨.inr ⟨heph, rfl⟩, h.2⟩
  disks _ _ _ h := h
  boot _ _ _ _ h := h
  published _ h := ⟨h.1, .inr rfl⟩

theorem providerID_own (hcluster : cluster.name = lm.labels.index clusterNameLabel)
    (hhost : host.name = lm.spec.hostRef) :
    MachineScope.providerID ⟨cluster, lm.addFinalizer, host⟩ = ownProviderID lm := by
  have hkey : lm.addFinalizer.namespaceName = lm.namespaceName ∧ lm.addFinalizer.name = lm.name := by
    unfold LibvirtMachine.addFinalizer
    split <;> exact ⟨rfl, rfl⟩
  rw [MachineScope.providerID, MachineScope.domainName, MachineScope.artifactBaseName, hkey.1, hkey.2,
    hcluster, hhost, ownProviderID]

theorem reconcileNormal_publishes {machine : Machine} {libvirtCluster : LibvirtCluster}
    (hcluster : cluster.name = lm.labels.index clusterNameLabel) (hhost : host.name = lm.spec.hostRef) :
    Emits (readsObject lm) (PatchOp lm) (fun out => Publishes lm out.2)
      (reconcileNormal deps lm machine cluster libvirtCluster host) := by
  have hgate (op : Op) (hop : GateOp op) : PatchOp lm op := by
    cases op <;> first | exact hop.elim | trivial
  refine reconcileNormal_holds_of_provision (fun _ => True) (fun _ op _ => hgate op)
    (fun _ _ _ _ _ _ _ => trivial) (fun _ _ _ _ => publishes_of_spec lm.addFinalizer_spec) ?_ trivial
  intro vcpus memoryMB status _ _ _ rc
  have hprovision : Emits (readsObject lm) _ _ _ :=
    provision_keeps deps rc (providerInv_vars rc) (rc.initialState status) ⟨.inl rfl, .inl rfl⟩
  refine hprovision.mono (fun _ _ hr => hr) (fun op hop => ?_) fun out hout => ?_
  · cases op <;> first | exact hop.elim | trivial
  · refine ⟨out.2.providerID, hout.2.imp ?_ ?_, ?_⟩
    · intro hkept
      rw [hkept, ReconcileCtx.spec, LibvirtMachine.addFinalizer_spec]
    · intro hset
      rw [hset]
      exact congrArg some (providerID_own hcluster hhost)
    · rw [ReconcileCtx.object, ReconcileCtx.spec, LibvirtMachine.addFinalizer_spec]

theorem reconcileDelete_publishes :
    Emits (readsObject lm) (PatchOp lm) (fun out => Publishes lm out.2)
      (reconcileDelete deps lm cluster host) := by
  have hread (op : Op) (hop : ReadOp op) : PatchOp lm op := by
    cases op <;> first | exact hop.elim | trivial
  have hdelete (op : Op) (hop : DeleteOp ⟨cluster, lm, host⟩ op) : PatchOp lm op := by
    cases op <;> first | exact hop.elim | trivial
  refine reconcileDelete_holds_of_cleanUp (fun _ => True) (fun _ _ => True)
    (fun _ _ _ _ => publishes_of_spec rfl) (fun _ _ _ _ _ => publishes_of_spec rfl) ?_
    (fun _ _ _ _ _ => publishes_of_spec rfl) ?_ trivial
  · intro _ _
    exact (createClients_emits deps host).mono (fun _ _ hr => hr) hread fun _ _ => trivial
  · intro _ _
    have hclean : Body.Keeps (readsObject lm) _ (fun lm' => lm'.spec = lm.spec)
        (cleanUp ⟨cluster, lm, host⟩) := cleanUp_keeps
    refine (hclean lm rfl).mono (fun _ _ hr => hr) hdelete ?_
    rintro ⟨out, lm'⟩ hspec
    cases out <;> exact publishes_of_spec hspec

theorem reconcileFetched_publishes :
    Emits (readsObject lm) (PatchOp lm) (fun out => Publishes lm out.2) (reconcileFetched deps lm) := by
  have hlookup (op : Op) (hop : LookupOp op) : PatchOp lm op := by
    cases op <;> first | exact hop.elim | trivial
  refine reconcileFetched_holds_of_branches (fun _ => True) (fun _ => True)
    (fun cluster => cluster.name = lm.labels.index clusterNameLabel) (fun _ => True)
    (fun host => host.name = lm.spec.hostRef) (fun _ op _ => hlookup op) (fun _ _ _ _ _ _ _ => trivial)
    (fun _ _ _ _ _ => trivial) (fun _ cluster _ _ hs => hs cluster rfl) (fun _ _ _ _ _ _ => trivial)
    (fun _ host _ _ hs => hs host rfl)
    (fun _ _ _ => publishes_of_spec rfl) ?_ ?_ trivial
  · intro _ cluster host _ _ _ _
    exact reconcileDelete_publishes
  · intro _ machine cluster libvirtCluster host _ _ hcluster _ hhost _
    exact reconcileNormal_publishes hcluster hhost

end Runs

-- The patch at the end of a reconcile is one the webhook lets through, unless the object had
-- another provider ID than the one its cluster label and host reference give.
theorem patch_accepted_iff (parseCIDR : String → Option GoError)
    (listed : Option (Except GoError (List LibvirtMachine))) (deps : Deps) (obj lm : LibvirtMachine)
    (hcreated : Webhook.validateCreate parseCIDR listed obj = .ok ()) (hversion : Version obj lm) :
    Emits (readsObject lm) (PatchOp lm) (fun _ => True) (reconcile deps lm.key) := by
  have hsafe := hversion.shellSafe (validateCreate_shellSafe hcreated)
  refine (emits_ask _ _).mpr ⟨trivial, fun fetched hread => ?_⟩
  obtain rfl : fetched = .ok lm := hread
  refine (emits_ask _ _).mpr ⟨trivial, fun helper _ => ?_⟩
  cases helper with
  | error err => trivial
  | ok _ =>
    refine (@reconcileFetched_publishes deps lm).bind fun out hout => ?_
    exact (emits_ask _ _).mpr ⟨patchOp_of_publishes hsafe hout, fun _ _ => trivial⟩

theorem patch_accepted_sample :
    Webhook.validateCreate (fun _ => none) none sampleMachine = .ok () ∧
      Emits (readsObject sampleMachine) (PatchOp sampleMachine) (fun _ => True)
        (reconcile sampleDeps sampleMachine.key) :=
  ⟨by decide +kernel, patch_accepted_iff (fun _ => none) none _ _ _ (by decide +kernel) .created⟩

def adoptedMachine : LibvirtMachine :=
  { sampleMachine with
    spec := { sampleMachine.spec with providerID := some "other:///h" } }

def acceptedPatch : Op → Bool
  | .patchMachine before after => (Webhook.validateUpdate before after).isOk
  | _ => true

def adoptedAnswer : (op : Op) → Reply op
  | .getLibvirtMachine _ => .ok adoptedMachine
  | .getCluster key => .ok { sampleCluster with name := key.name }
  | .getLibvirtHost key => .ok { sampleHost with name := key.name }
  | op => freshAnswer op

theorem adoptedAnswer_reads (op : Op) : readsObject adoptedMachine op (adoptedAnswer op) := by
  cases op with
  | getLibvirtMachine key => rfl
  | getCluster key =>
    rintro cluster ⟨⟩
    rfl
  | getLibvirtHost key =>
    rintro host ⟨⟩
    rfl
  | _ => trivial

theorem patch_rejected_adopted :
    Webhook.validateCreate (fun _ => none) (some (.ok [])) adoptedMachine = .ok () ∧
      ¬ Emits (readsObject adoptedMachine) (fun op => acceptedPatch op = true) (fun _ => True)
        (reconcile sampleDeps adoptedMachine.key) := by
  refine ⟨by decide +kernel, fun haccepted => ?_⟩
  have hpermitted : permitted (fun (_ : Unit) op => (adoptedAnswer op, ())) (fun _ => acceptedPatch)
      (reconcile sampleDeps adoptedMachine.key) () = true :=
    Holds.permitted haccepted (fun _ op => adoptedAnswer_reads op) fun _ _ hop => hop
  exact absurd hpermitted (by decide +kernel)

end Caplv.Controller

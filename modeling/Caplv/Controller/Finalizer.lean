import Caplv.Controller.World

namespace Caplv.Controller

open Text Api Libvirt Scope Program

-- The first phase of host work is entered only by a reconcile that fetched the object
-- with the finalizer already on it.
def fetchedFinalized (before : World) (op : Op) : Prop :=
  op = .enter .baseImage → ∃ lm, before.fetched = some lm ∧ lm.containsFinalizer = true

def persistedStep : Handler signature World := fun before op reply after =>
  worldStep before op reply after ∧ fetchedFinalized before op

structure StoreRely (before after : World) : Prop where
  fetched : after.fetched = before.fetched
  created : after.created = before.created
  cleanupRan : after.cleanupRan = before.cleanupRan
  finalized : before.Finalized → after.Finalized

theorem StoreRely.refl (w : World) : StoreRely w w := ⟨rfl, rfl, rfl, fun h => h⟩

theorem StoreRely.trans {a b c : World} (hab : StoreRely a b) (hbc : StoreRely b c) : StoreRely a c :=
  ⟨hbc.fetched.trans hab.fetched, hbc.created.trans hab.created,
    hbc.cleanupRan.trans hab.cleanupRan, fun h => hbc.finalized (hab.finalized h)⟩

variable {before after : World}

theorem WorldEnv.storeRely (h : WorldEnv before after) : StoreRely before after := by
  refine ⟨?_, ?_, ?_, h.finalized⟩ <;> cases h <;> rfl

-- Artifacts are created under a stored finalizer, and the patch drops the finalizer only
-- after a cleanup.
def finalizerGuard (w : World) : Op → Prop
  | .client _ call => call.createsArtifact = true → w.Finalized
  | .patchMachine old new =>
    new.containsFinalizer = true ∨ old.finalizers = new.finalizers ∨ w.cleanupRan = true
  | _ => True

def Accounted (w : World) : Prop := w.created = true → w.Finalized ∨ w.cleanupRan = true

structure Fetched (lm : LibvirtMachine) (w : World) : Prop where
  fetched : w.fetched = some lm
  finalized : lm.containsFinalizer = true → w.Finalized

def KeepsStore : Op → Prop
  | .getLibvirtMachine _ | .patchMachine _ _ => False
  | _ => True

def CreatesNothing : Op → Prop
  | .client _ call => call.createsArtifact = false
  | op => KeepsStore op

theorem CreatesNothing.keepsStore {op : Op} (h : CreatesNothing op) : KeepsStore op := by
  cases op <;> trivial

theorem worldStep_keepsStore {op : Op} {reply : Reply op}
    (hop : KeepsStore op) (h : worldStep before op reply after) :
    after.fetched = before.fetched ∧ after.stored = before.stored ∧
      (before.cleanupRan = true → after.cleanupRan = true) := by
  cases op <;> first
    | exact hop.elim
    | (obtain ⟨-, rfl⟩ := h; simp_all [World.next])

section Reconcile

abbrev seenStep : Handler signature World := interfered StoreRely persistedStep

variable {lm : LibvirtMachine} {w : World} {allowed : Op → Prop} {rc : ReconcileCtx} {deps : Deps}

theorem Fetched.step {before after : World} {op : Op} {reply : Reply op} (h : Fetched lm before)
    (hop : KeepsStore op) (hstep : seenStep before op reply after) : Fetched lm after := by
  obtain ⟨middle, ⟨hmiddle, -⟩, hrely⟩ := hstep
  obtain ⟨hfetched, hstored, -⟩ := worldStep_keepsStore hop hmiddle
  refine ⟨(hrely.fetched.trans hfetched).trans h.fetched, fun hf => hrely.finalized ?_⟩
  obtain ⟨stored, hs, hf'⟩ := h.finalized hf
  exact ⟨stored, hstored.trans hs, hf'⟩

theorem finalizerGuard_of_createsNothing {op : Op} (h : CreatesNothing op) : finalizerGuard w op := by
  cases op with
  | client host call => exact fun hc => Bool.noConfusion (hc.symm.trans h)
  | patchMachine old new => exact h.elim
  | _ => trivial

theorem Fetched.holds_quiet {α : Type} {post : α → Prop} {prog : Prog signature α} (h : Fetched lm w)
    (hprog : Emits anyReply allowed post prog) (hallowed : ∀ op, allowed op → CreatesNothing op) :
    Holds seenStep finalizerGuard (fun value after => post value ∧ Fetched lm after) prog w :=
  hprog.holds h (fun _ _ _ hop => finalizerGuard_of_createsNothing (hallowed _ hop))
    fun _ _ _ _ hb hop hs => ⟨trivial, hb.step (hallowed _ hop).keepsStore hs⟩

theorem Fetched.holds_finalized {α : Type} {post : α → Prop} {prog : Prog signature α} (h : Fetched lm w)
    (hf : lm.containsFinalizer = true) (hprog : Emits anyReply allowed post prog)
    (hallowed : ∀ op, allowed op → KeepsStore op) :
    Holds seenStep finalizerGuard (fun value after => post value ∧ Fetched lm after) prog w := by
  refine hprog.holds h (fun before op hb hop => ?_)
    fun _ _ _ _ hb hop hs => ⟨trivial, hb.step (hallowed _ hop) hs⟩
  have hop' := hallowed op hop
  cases op with
  | client host call => exact fun _ => hb.finalized hf
  | patchMachine old new => exact hop'.elim
  | _ => trivial

theorem readOp_createsNothing (op : Op) (h : ReadOp op) : CreatesNothing op := by
  cases op <;> trivial

theorem gateOp_createsNothing (op : Op) (h : GateOp op) : CreatesNothing op := by
  cases op <;> trivial

theorem preflightOp_createsNothing (op : Op) (h : PreflightOp rc op) : CreatesNothing op := by
  cases op with
  | client host call => cases call <;> first | rfl | exact h.elim
  | _ => trivial

theorem normalOp_keepsStore (op : Op) (h : NormalOp deps rc op) : KeepsStore op := by
  cases op <;> trivial

theorem deleteOp_createsNothing {scope : MachineScope} (op : Op) (h : DeleteOp scope op) :
    CreatesNothing op := by
  cases op with
  | client host call => obtain ⟨-, hcall⟩ := h; cases hcall <;> rfl
  | _ => trivial

theorem provision_holds (h : Fetched lm w) (st : RunState) (hst : PoolInv rc st) :
    Holds seenStep finalizerGuard (fun _ after => Fetched lm after) (provision deps rc st) w := by
  rw [provision, Body.run, Body.bind_exec, bind_assoc]
  have hpreflight := h.holds_quiet
    (preflight_keeps deps rc (fun _ _ hp => hp) st hst) preflightOp_createsNothing
  refine hpreflight.bind ?_
  rintro ⟨out, st₁⟩ w₁ ⟨hst₁, hfetched⟩
  cases out with
  | error early => exact hfetched
  | ok _ =>
    refine ⟨trivial, fun _ w₂ hstep => ?_⟩
    -- entering the host work requires the finalizer on the fetched object
    obtain ⟨-, ⟨-, hentered⟩, -⟩ := id hstep
    obtain ⟨lm', hlm', hf⟩ := hentered rfl
    obtain rfl : lm' = lm := Option.some.inj (hlm'.symm.trans hfetched.fetched)
    have hwork := (hfetched.step (show KeepsStore (.enter .baseImage) from trivial) hstep).holds_finalized hf
      (hostWork_keeps deps rc (poolInv_vars rc) st₁ hst₁) normalOp_keepsStore
    refine hwork.bind ?_
    rintro ⟨ret, st₂⟩ w₃ ⟨-, hdone⟩
    cases ret <;> exact hdone

theorem object_containsFinalizer (h : rc.libvirtMachine.containsFinalizer = true) (st : RunState) :
    (rc.object st).containsFinalizer = true := h

theorem reconcileNormal_holds (h : Fetched lm w)
    (machine : Machine) (cluster : Cluster) (libvirtCluster : LibvirtCluster) (host : LibvirtHost) :
    Holds seenStep finalizerGuard (fun out _ => out.2.containsFinalizer = true)
      (reconcileNormal deps lm machine cluster libvirtCluster host) w := by
  have hadded := lm.addFinalizer_containsFinalizer
  refine reconcileNormal_holds_of_provision (Fetched lm)
    (fun _ op _ hop => finalizerGuard_of_createsNothing (gateOp_createsNothing op hop))
    (fun _ op _ _ hb hop hs => hb.step (gateOp_createsNothing op hop).keepsStore hs)
    (fun _ _ _ _ => hadded) (fun vcpus memoryMB status w₁ h₁ _ => ?_) h
  exact (provision_holds h₁ _ (.inl rfl)).post_mono fun out _ _ => object_containsFinalizer hadded out.2

theorem holds_cleanupRan {α : Type} {post : α → Prop} {prog : Prog signature α} (hran : w.cleanupRan = true)
    (hprog : Emits anyReply allowed post prog) (hallowed : ∀ op, allowed op → CreatesNothing op) :
    Holds seenStep finalizerGuard (fun value after => post value ∧ after.cleanupRan = true) prog w := by
  refine hprog.holds hran (fun _ _ _ hop => finalizerGuard_of_createsNothing (hallowed _ hop)) ?_
  rintro before op reply after hb hop ⟨middle, ⟨hmiddle, -⟩, hrely⟩
  obtain ⟨-, -, hran'⟩ := worldStep_keepsStore (hallowed _ hop).keepsStore hmiddle
  exact ⟨trivial, hrely.cleanupRan.trans (hran' hb)⟩

theorem cleanUp_holds (scope : MachineScope) (lm : LibvirtMachine) (w : World) :
    Holds seenStep finalizerGuard (fun _ after => after.cleanupRan = true)
      ((cleanUp scope).exec lm) w := by
  have hemits := @cleanUp_keeps scope anyReply (fun _ => True) lm trivial
  obtain ⟨next, hnext⟩ : ∃ next, (cleanUp scope).exec lm =
      .ask (.client (LibvirtHost.key scope.libvirtHost) (.destroyDomain scope.domainName)) next :=
    ⟨_, rfl⟩
  rw [hnext, emits_ask] at hemits
  rw [hnext]
  refine ⟨fun hc => Bool.noConfusion hc, ?_⟩
  rintro reply after ⟨middle, ⟨⟨-, rfl⟩, -⟩, hrely⟩
  have hran : after.cleanupRan = true := hrely.cleanupRan.trans (Bool.or_true _)
  exact (holds_cleanupRan hran (hemits.2 reply trivial) deleteOp_createsNothing).post_mono
    fun _ _ h => h.2

theorem lookupOp_createsNothing (op : Op) (h : LookupOp op) : CreatesNothing op := by
  cases op <;> trivial

def PatchKeeps (lm : LibvirtMachine) (out : Return × LibvirtMachine) (w : World) : Prop :=
  out.2.containsFinalizer = true ∨ lm.finalizers = out.2.finalizers ∨ w.cleanupRan = true

theorem reconcileDelete_holds (h : Fetched lm w) (cluster : Cluster) (host : LibvirtHost) :
    Holds seenStep finalizerGuard (PatchKeeps lm) (reconcileDelete deps lm cluster host) w := by
  refine reconcileDelete_holds_of_cleanUp (Fetched lm) (fun _ => Fetched lm)
    (fun _ _ _ _ => .inr (.inl rfl)) (fun _ _ _ _ _ => .inr (.inl rfl)) (fun w₁ h₁ => ?_)
    (fun _ _ _ _ _ => .inr (.inl rfl)) (fun w₁ h₁ => ?_) h
  · exact (h₁.holds_quiet (createClients_emits deps host) readOp_createsNothing).post_mono
      fun _ _ hout => hout.2
  · refine (cleanUp_holds ⟨cluster, lm, host⟩ lm w₁).post_mono ?_
    rintro ⟨out, lm'⟩ w₂ hran
    cases out <;> exact .inr (.inr hran)

theorem reconcileFetched_holds (h : Fetched lm w) :
    Holds seenStep finalizerGuard (PatchKeeps lm) (reconcileFetched deps lm) w := by
  refine reconcileFetched_holds_of_branches (Fetched lm) (fun _ => True) (fun _ => True) (fun _ => True)
    (fun _ => True)
    (fun _ op _ hop => finalizerGuard_of_createsNothing (lookupOp_createsNothing op hop))
    (fun _ op _ _ hb hop hs => hb.step (lookupOp_createsNothing op hop).keepsStore hs)
    (fun _ _ _ _ _ => trivial) (fun _ _ _ _ _ => trivial) (fun _ _ _ _ _ _ => trivial)
    (fun _ _ _ _ _ => trivial) (fun _ _ _ => .inr (.inl rfl))
    (fun _ cluster host w₁ _ _ h₁ => ?_) (fun _ machine cluster libvirtCluster host w₁ _ _ _ _ h₁ => ?_) h
  · exact reconcileDelete_holds h₁ cluster host
  · exact (reconcileNormal_holds h₁ machine cluster libvirtCluster host).post_mono
      fun _ _ hout => .inl hout

theorem reconcile_holds (deps : Deps) (key : ObjectKey) (w : World) :
    Holds seenStep finalizerGuard (fun _ _ => True) (reconcile deps key) w := by
  refine ⟨trivial, fun fetched w₁ hs₁ => ?_⟩
  cases fetched with
  | error err => trivial
  | ok lm =>
    obtain ⟨middle, ⟨⟨hstored, rfl⟩, -⟩, hrely⟩ := hs₁
    have h₁ : Fetched lm w₁ :=
      ⟨hrely.fetched, fun hf => hrely.finalized ⟨lm, hstored lm rfl, hf⟩⟩
    refine ⟨trivial, fun helper w₂ hs₂ => ?_⟩
    have h₂ := h₁.step (show KeepsStore (.newPatchHelper key) from trivial) hs₂
    cases helper with
    | error err => trivial
    | ok _ =>
      refine (reconcileFetched_holds h₂).bind ?_
      rintro ⟨ret, obj⟩ w₃ hpatch
      exact ⟨hpatch, fun _ _ _ => trivial⟩

end Reconcile

theorem Accounted.step {op : Op} {reply : Reply op} (h : Accounted before) (hguard : finalizerGuard before op)
    (hstep : worldStep before op reply after) : Accounted after := by
  obtain ⟨-, rfl⟩ := hstep
  intro hcreated
  cases op with
  | client host call =>
    simp only [World.next, Bool.or_eq_true] at hcreated ⊢
    rcases hcreated with hc | hc
    · exact (h hc).imp_right .inl
    · exact .inl (hguard hc)
  | patchMachine old new =>
    rcases h hcreated with ⟨lm, hlm, hf⟩ | hran
    · rw [finalizerGuard, ← or_assoc] at hguard
      rcases hguard with hkeep | hran
      · have hf' := patched_containsFinalizer reply hf hkeep
        exact .inl ⟨_, by simp [World.next, hlm, settle_of_containsFinalizer hf'], hf'⟩
      · exact .inr hran
    · exact .inr hran
  | _ => exact h hcreated

theorem Accounted.env (h : Accounted before) (henv : WorldEnv before after) : Accounted after := by
  intro hcreated
  have hrely := henv.storeRely
  rcases h (hrely.created.symm.trans hcreated) with hf | hran
  · exact .inl (hrely.finalized hf)
  · exact .inr (hrely.cleanupRan.trans hran)

def NothingCreated (w : World) : Prop := w.created = false

-- Over any number of reconciles with crashes and failing patches, if host work is only
-- entered by reconciles that fetched the object with its finalizer, every call that
-- creates an artifact is issued under a stored finalizer, and an object that would be
-- removed without its finalizer has no artifact that was never cleaned up.
theorem artifacts_under_finalizer (deps : Deps) (key : ObjectKey) (c : Config signature World Unit Return)
    (hc : (machineSystem deps key persistedStep).Reachable NothingCreated c) :
    (∀ host call next, c.threads () = some (.ask (Op.client host call) next) →
        call.createsArtifact = true → c.state.Finalized) ∧
      (c.state.created = true → c.state.Finalized ∨ c.state.cleanupRan = true) := by
  obtain ⟨hinv, hthreads⟩ := System.reachable_safe (machineSystem deps key persistedStep)
    Accounted (fun _ => StoreRely) (fun _ => finalizerGuard)
    (fun _ => StoreRely.refl) (fun _ _ _ _ => StoreRely.trans)
    (fun w hw hcreated => Bool.noConfusion (hw.symm.trans hcreated))
    (fun before after hb henv => ⟨hb.env henv, fun _ => henv.storeRely⟩)
    (fun _ prog w _ hprog other _ => by
      obtain rfl := hprog
      exact reconcile_holds deps key other)
    (fun _ before op reply after hb hguard hstep =>
      ⟨hb.step hguard hstep.1, fun j hj => absurd (Subsingleton.elim j _) hj⟩) hc
  refine ⟨fun host call next hnext hcall => ?_, hinv⟩
  exact (hthreads () _ hnext).guard_ask StoreRely.refl hcall

def createdWorld : World := { stored := some sampleMachine }

def firstReconcile (n : Nat) : Prog signature Return × World :=
  runFor (answering freshAnswer) n (reconcile sampleDeps sampleKey) createdWorld

theorem firstReconcile_reachable (n : Nat) :
    (machineSystem sampleDeps sampleKey worldStep).Reachable NothingCreated
      ⟨(firstReconcile n).2, fun _ => some (firstReconcile n).1⟩ :=
  machineSystem_reachable_runFor sampleDeps sampleKey freshAnswer createdWorld n
    (fun _ => True) rfl trivial fun _ _ _ _ _ h => ⟨answering_worldStep h, trivial⟩

-- The first reconcile creates the root disk while the stored object has no finalizer. If
-- it crashes there and the user deletes the machine, the object is gone and the disk stays.
theorem firstReconcile_orphans_rootDisk :
    (∃ c host call next,
      (machineSystem sampleDeps sampleKey worldStep).Reachable NothingCreated c ∧
        c.threads () = some (.ask (Op.client host call) next) ∧ call.createsArtifact = true ∧
        ¬ c.state.Finalized) ∧
    ∃ c, (machineSystem sampleDeps sampleKey worldStep).Reachable NothingCreated c ∧
      c.state.created = true ∧ c.state.stored = none ∧ c.state.cleanupRan = false := by
  constructor
  · obtain ⟨next, hnext⟩ : ∃ next, (firstReconcile 14).1 = .ask (Op.client ⟨"ns", "h"⟩
        (.createVolumeFromBackingStore "default" "ns-c-m-root.qcow2" "base" 1073741824)) next :=
      ⟨_, rfl⟩
    refine ⟨_, _, _, next, firstReconcile_reachable 14, congrArg some hnext, rfl, ?_⟩
    rintro ⟨lm, hlm, hf⟩
    obtain rfl : sampleMachine = lm := Option.some.inj hlm
    exact Bool.noConfusion hf
  · obtain ⟨w, hw, hpath⟩ := firstReconcile_reachable 15
    have hstop : (machineSystem sampleDeps sampleKey worldStep).Step _ _ :=
      .stop (c := ⟨(firstReconcile 15).2, fun _ => some (firstReconcile 15).1⟩) ()
    have hdelete : WorldEnv (firstReconcile 15).2 _ :=
      .delete (show (firstReconcile 15).2.stored = some sampleMachine from rfl)
    refine ⟨_, ⟨w, hw, (hpath.tail hstop).tail (.env hdelete)⟩, rfl, rfl, rfl⟩

def finalizedMachine : LibvirtMachine := sampleMachine.addFinalizer

def finalizedWorld : World := { stored := some finalizedMachine, fetched := some finalizedMachine }

def laterReconcile (n : Nat) : Prog signature Return × World :=
  runFor (answering freshAnswer) n (reconcile sampleDeps sampleKey) finalizedWorld

theorem answering_persistedStep {op : Op} {reply : Reply op}
    (hb : before.stored = some finalizedMachine ∧ before.fetched = some finalizedMachine)
    (h : (answering freshAnswer).handler before op reply after) :
    persistedStep before op reply after ∧
      after.stored = some finalizedMachine ∧ after.fetched = some finalizedMachine := by
  refine ⟨⟨answering_worldStep h, fun _ => ⟨finalizedMachine, hb.2, rfl⟩⟩, ?_⟩
  obtain ⟨rfl, rfl⟩ := Prod.mk.inj h
  cases op with
  | getLibvirtMachine key => simp [World.next, World.answer, hb.1, Except.toOption]
  | patchMachine old new =>
    refine ⟨?_, hb.2⟩
    simp only [World.next, World.answer, freshAnswer, hb.1, Option.bind_some]
    rfl
  | _ => exact hb

theorem artifacts_under_finalizer_laterReconcile :
    (laterReconcile 15).2.created = true ∧
      ((laterReconcile 15).2.Finalized ∨ (laterReconcile 15).2.cleanupRan = true) :=
  ⟨rfl, (artifacts_under_finalizer sampleDeps sampleKey
    ⟨(laterReconcile 15).2, fun _ => some (laterReconcile 15).1⟩
    (machineSystem_reachable_runFor sampleDeps sampleKey freshAnswer finalizedWorld 15
      (fun w => w.stored = some finalizedMachine ∧ w.fetched = some finalizedMachine) rfl ⟨rfl, rfl⟩
      fun _ _ _ _ hb h => answering_persistedStep hb h)).2 rfl⟩

end Caplv.Controller

import Caplv.Controller.Reconcile
import Caplv.Controller.Settled
import Mathlib.Data.List.Nodup

namespace Caplv.Controller

open Text Api Libvirt Scope Program

def namedPool : ClientCall → Option String
  | .poolExists name | .poolIsActive name | .startPool name | .createTmpfsPool name _ _
  | .destroyPool name => some name
  | .volumeExists pool _ | .createVolumeFromBackingStore pool _ _ _ | .cloneVolume pool _ _
  | .createVolume pool _ _ | .uploadVolumeFromBytes pool _ _ | .uploadQcow2Volume pool _ _ _
  | .deleteVolume pool _ | .getVolumePath pool _ => some pool
  | _ => none

-- The pools the specs of a machine and its cluster leave to the operator.
inductive OperatorPool (rc : ReconcileCtx) : String → Prop where
  | clusterImage (image : BaseImageSpec) (himage : rc.libvirtCluster.baseImage = some image) :
      OperatorPool rc image.pool
  | baseImage : OperatorPool rc rc.baseImagePool
  | rootDisk (hkept : rc.spec.rootDisk.ephemeralPool = false) :
      OperatorPool rc rc.spec.rootDisk.storagePool
  | disk (disk : AdditionalDiskSpec) (hdisk : disk ∈ rc.spec.additionalDisks) :
      OperatorPool rc disk.storagePool

-- The pool names the CRDs require, rootDisk.baseImagePool being optional.
structure PoolsNamed (spec : LibvirtMachineSpec) (libvirtCluster : LibvirtCluster) : Prop where
  clusterImage : ∀ image, libvirtCluster.baseImage = some image → image.pool ≠ ""
  rootDisk : spec.rootDisk.storagePool ≠ ""
  disks : ∀ disk ∈ spec.additionalDisks, disk.storagePool ≠ ""

abbrev hostWorkStarted (issued : List Op) : Prop := .enter .baseImage ∈ issued

-- No client call fails. The pools present when a run starts are the given ones; what the host
-- work does to its own pool later is left open.
def poolReply (pools : String → Prop) (issued : List Op) : Replies signature := fun op reply =>
  match op, reply with
  | .client _ (.poolExists name), reply =>
    ∃ found : Bool, (reply : Except GoError Bool) = .ok found ∧
      (¬ hostWorkStarted issued → (found = true ↔ pools name))
  | .client _ call, reply => ∃ value, (reply : Except GoError call.Result) = .ok value
  | _, _ => True

def poolStep (pools : String → Prop) : Handler signature (List Op) := fun before op reply after =>
  poolReply pools before op reply ∧ after = before ++ [op]

def FreshQuery (rc : ReconcileCtx) (before : List Op) : Op → Prop
  | .client host call =>
    .client host call ∉ before ∧ ∃ pool, OperatorPool rc pool ∧ call = .poolExists pool
  | _ => True

-- Before the host work only pools are looked up; after that each call stays in the given pools
-- and the machine's own.
def InPools (pools : String → Prop) (own : String) (before : List Op) : Op → Prop
  | .client _ call =>
    (hostWorkStarted before → ∀ pool, namedPool call = some pool → pools pool ∨ pool = own) ∧
      (¬ hostWorkStarted before → ∃ pool, call = .poolExists pool)
  | _ => True

section RequiredPools

theorem addRequired_names (required : List RequiredPool) (pool : RequiredPool) (name : String) :
    name ∈ (addRequired required pool).map RequiredPool.name ↔
      name ∈ required.map RequiredPool.name ∨ name = pool.name ∧ name ≠ "" := by
  unfold addRequired
  split
  · rename_i hdrop
    refine ⟨.inl, ?_⟩
    rintro (hmem | ⟨rfl, hne⟩)
    · exact hmem
    · exact hdrop.resolve_left hne
  · rename_i hkeep
    rw [List.map_append, List.mem_append, List.map_singleton, List.mem_singleton]
    refine or_congr_right ⟨?_, And.left⟩
    rintro rfl
    exact ⟨rfl, fun hempty => hkeep (.inl hempty)⟩

theorem addRequired_nodup {required : List RequiredPool} (pool : RequiredPool)
    (h : (required.map RequiredPool.name).Nodup) :
    ((addRequired required pool).map RequiredPool.name).Nodup := by
  unfold addRequired
  split
  · exact h
  · rename_i hkeep
    rw [List.map_append, List.map_singleton]
    refine h.append (List.nodup_singleton _) (List.disjoint_singleton.mpr ?_)
    exact fun hmem => hkeep (.inr hmem)

theorem foldl_addRequired_names (referenced required : List RequiredPool) (name : String) :
    name ∈ (referenced.foldl addRequired required).map RequiredPool.name ↔
      name ∈ required.map RequiredPool.name ∨ name ∈ referenced.map RequiredPool.name ∧ name ≠ "" := by
  induction referenced generalizing required with
  | nil => simp
  | cons pool rest ih =>
    rw [List.foldl_cons, ih, addRequired_names, List.map_cons, List.mem_cons, or_and_right, or_assoc]

theorem foldl_addRequired_nodup (referenced : List RequiredPool) {required : List RequiredPool}
    (h : (required.map RequiredPool.name).Nodup) :
    ((referenced.foldl addRequired required).map RequiredPool.name).Nodup := by
  induction referenced generalizing required with
  | nil => exact h
  | cons pool rest ih => exact ih (addRequired_nodup pool h)

theorem requiredPools_nodup (rc : ReconcileCtx) : ((requiredPools rc).map RequiredPool.name).Nodup :=
  foldl_addRequired_nodup _ List.nodup_nil

theorem mem_referencedPools (rc : ReconcileCtx) (name : String) :
    name ∈ (referencedPools rc).map RequiredPool.name ↔ OperatorPool rc name := by
  simp only [referencedPools, List.map_append, List.mem_append, List.map_map, List.map_singleton,
    List.mem_singleton]
  constructor
  · rintro (((hcluster | rfl) | hroot) | hdisk)
    · split at hcluster
      · rename_i image himage
        obtain rfl : name = image.pool := List.mem_singleton.mp hcluster
        exact .clusterImage image himage
      · exact (List.not_mem_nil hcluster).elim
    · exact .baseImage
    · split at hroot
      · exact (List.not_mem_nil hroot).elim
      · rename_i hkept
        obtain rfl : name = rc.spec.rootDisk.storagePool := List.mem_singleton.mp hroot
        exact .rootDisk (Bool.eq_false_iff.mpr hkept)
    · obtain ⟨disk, hmem, rfl⟩ := List.mem_map.mp hdisk
      exact .disk disk hmem
  · intro h
    cases h with
    | clusterImage image himage =>
      rw [himage]
      exact .inl (.inl (.inl (List.mem_singleton_self _)))
    | baseImage => exact .inl (.inl (.inr rfl))
    | rootDisk hkept =>
      rw [hkept]
      exact .inl (.inr (List.mem_singleton_self _))
    | disk disk hdisk => exact .inr (List.mem_map.mpr ⟨disk, hdisk, rfl⟩)

theorem OperatorPool.ne_empty {rc : ReconcileCtx} (h : PoolsNamed rc.spec rc.libvirtCluster)
    {name : String} (hpool : OperatorPool rc name) : name ≠ "" := by
  cases hpool with
  | clusterImage image himage => exact h.clusterImage image himage
  | baseImage =>
    unfold ReconcileCtx.baseImagePool
    split
    · exact h.rootDisk
    · rename_i hset
      exact hset
  | rootDisk hkept => exact h.rootDisk
  | disk disk hdisk => exact h.disks disk hdisk

theorem mem_requiredPools {rc : ReconcileCtx} (h : PoolsNamed rc.spec rc.libvirtCluster) (name : String) :
    name ∈ (requiredPools rc).map RequiredPool.name ↔ OperatorPool rc name := by
  rw [requiredPools, foldl_addRequired_names, mem_referencedPools]
  constructor
  · rintro (hnil | ⟨hpool, -⟩)
    · exact (List.not_mem_nil hnil).elim
    · exact hpool
  · exact fun hpool => .inr ⟨hpool, hpool.ne_empty h⟩

end RequiredPools

section Preflight

variable {pools : String → Prop} {rc : ReconcileCtx}

theorem not_started_append {before : List Op} {op : Op} (hearly : ¬ hostWorkStarted before)
    (hop : op ≠ .enter .baseImage) : ¬ hostWorkStarted (before ++ [op]) := by
  intro hmem
  rcases List.mem_append.mp hmem with hmem | hmem
  · exact hearly hmem
  · exact hop (List.mem_singleton.mp hmem).symm

-- The guard of the loop: the query is fresh and nothing has been done on the host.
abbrev EarlyQuery (rc : ReconcileCtx) (before : List Op) (op : Op) : Prop :=
  ¬ hostWorkStarted before ∧ FreshQuery rc before op

-- How the checks of a list of pools end: all are there, or the first that is not was recorded.
def PoolsVerdict (pools : String → Prop) (items : List RequiredPool) (before : RunState)
    (passed : Prop) (after : RunState) : Prop :=
  passed ∧ after = before ∧ (∀ item ∈ items, pools item.name) ∨
    after.status.failureReason.isSome = true ∧ ∃ item ∈ items, ¬ pools item.name

theorem eachInOrder_preflightPool_holds (items : List RequiredPool) (st : RunState) (w : List Op)
    (hnodup : (items.map RequiredPool.name).Nodup) (hitems : ∀ item ∈ items, OperatorPool rc item.name)
    (hfresh : ∀ item ∈ items, .client rc.hostKey (.poolExists item.name) ∉ w)
    (hearly : ¬ hostWorkStarted w) :
    Holds (poolStep pools) (EarlyQuery rc)
      (fun out after => ¬ hostWorkStarted after ∧ (out.1 = .ok () ∨ out.1 = .error none) ∧
        PoolsVerdict pools items st (out.1 = .ok ()) out.2)
      ((eachInOrder (preflightPool rc) items).exec st) w := by
  induction items generalizing w with
  | nil => exact ⟨hearly, .inl rfl, .inl ⟨rfl, rfl, fun _ hmem => (List.not_mem_nil hmem).elim⟩⟩
  | cons item rest ih =>
    have hquery : FreshQuery rc w (.client rc.hostKey (.poolExists item.name)) :=
      ⟨hfresh item List.mem_cons_self, item.name, hitems item List.mem_cons_self, rfl⟩
    refine ⟨⟨hearly, hquery⟩, fun reply after hs => ?_⟩
    obtain ⟨⟨found, hreply, hfound⟩, rfl⟩ := hs
    obtain rfl : reply = .ok found := hreply
    have hearly' := not_started_append hearly
      (nofun : Op.client rc.hostKey (.poolExists item.name) ≠ .enter .baseImage)
    rw [List.map_cons, List.nodup_cons] at hnodup
    cases found with
    | true =>
      change Holds _ _ _ ((eachInOrder (preflightPool rc) rest).exec st) _
      have hpool : pools item.name := (hfound hearly).mp rfl
      have hrest := ih (w ++ [.client rc.hostKey (.poolExists item.name)]) hnodup.2
        (fun other hother => hitems other (List.mem_cons_of_mem _ hother)) ?_ hearly'
      · refine hrest.post_mono ?_
        rintro ⟨out, st'⟩ w' ⟨hw', hout, hverdict⟩
        refine ⟨hw', hout, ?_⟩
        rcases hverdict with ⟨hpassed, hsame, hall⟩ | ⟨hfailed, missing, hmem, hmissing⟩
        · exact .inl ⟨hpassed, hsame, List.forall_mem_cons.mpr ⟨hpool, hall⟩⟩
        · exact .inr ⟨hfailed, missing, List.mem_cons_of_mem _ hmem, hmissing⟩
      · intro other hother hmem
        rcases List.mem_append.mp hmem with hmem | hmem
        · exact hfresh other (List.mem_cons_of_mem _ hother) hmem
        · have hname : other.name = item.name := by
            injection List.mem_singleton.mp hmem with _ hcall
            injection hcall
          exact hnodup.1 (hname ▸ List.mem_map_of_mem hother)
    | false =>
      refine ⟨⟨hearly', trivial⟩, fun reply after hs => ?_⟩
      obtain ⟨-, rfl⟩ := hs
      refine ⟨not_started_append hearly' nofun, .inr rfl, .inr ⟨rfl, item, List.mem_cons_self, ?_⟩⟩
      intro hpool
      exact nomatch (hfound hearly).mpr hpool

theorem preflightPools_holds (hnamed : PoolsNamed rc.spec rc.libvirtCluster) (st : RunState) {w : List Op}
    (hfresh : ∀ name, .client rc.hostKey (.poolExists name) ∉ w) (hearly : ¬ hostWorkStarted w) :
    Holds (poolStep pools) (EarlyQuery rc)
      (fun out after => ¬ hostWorkStarted after ∧ out.1 = none ∧
        PoolsVerdict pools (requiredPools rc) st True out.2)
      (preflightPools rc st) w := by
  have hloop := @eachInOrder_preflightPool_holds pools rc (requiredPools rc) st w (requiredPools_nodup rc)
    (fun item hitem => (mem_requiredPools hnamed _).mp (List.mem_map_of_mem hitem))
    (fun item _ => hfresh item.name) hearly
  unfold preflightPools stepFn Body.run
  rw [Body.bind_exec, bind_assoc]
  refine hloop.bind ?_
  rintro ⟨out, st'⟩ after ⟨hafter, hout, hverdict⟩
  have hend : PoolsVerdict pools (requiredPools rc) st True st' :=
    hverdict.imp_left fun hpassed => ⟨trivial, hpassed.2⟩
  rcases hout with hout | hout <;> cases hout
  · exact ⟨hafter, rfl, hend⟩
  · exact ⟨hafter, rfl, hend⟩

theorem operatorPools_of_required (hnamed : PoolsNamed rc.spec rc.libvirtCluster) :
    (∀ item ∈ requiredPools rc, pools item.name) ↔ ∀ pool, OperatorPool rc pool → pools pool := by
  constructor
  · intro hall pool hpool
    obtain ⟨item, hitem, rfl⟩ := List.mem_map.mp ((mem_requiredPools hnamed pool).mpr hpool)
    exact hall item hitem
  · intro hall item hitem
    exact hall _ ((mem_requiredPools hnamed _).mp (List.mem_map_of_mem hitem))

end Preflight

section HostWork

variable {pools : String → Prop} {deps : Deps} {rc : ReconcileCtx} {own : String}

def Gated (issued : List Op) : Prop := ∀ op ∈ issued, GateOp op

theorem Gated.append {issued : List Op} (h : Gated issued) {op : Op} (hop : GateOp op) :
    Gated (issued ++ [op]) := by
  intro other hother
  rcases List.mem_append.mp hother with hmem | hmem
  · exact h other hmem
  · rw [List.mem_singleton.mp hmem]
    exact hop

theorem Gated.not_started {issued : List Op} (h : Gated issued) : ¬ hostWorkStarted issued :=
  fun hmem => h _ hmem

theorem Gated.no_query {issued : List Op} (h : Gated issued) (host : ObjectKey) (call : ClientCall) :
    .client host call ∉ issued :=
  fun hmem => h _ hmem

theorem inPools_of_gateOp {before : List Op} {op : Op} (hop : GateOp op) : InPools pools own before op := by
  cases op <;> first | exact hop.elim | trivial

theorem settledCall_pools (hpools : ∀ pool, OperatorPool rc pool → pools pool) {call : ClientCall}
    (h : SettledCall deps rc call) {pool : String} (hname : namedPool call = some pool) :
    pools pool ∨ pool = rc.machineScope.ephemeralPoolName := by
  have hroot : pools (deletionPool rc.machineScope) ∨
      deletionPool rc.machineScope = rc.machineScope.ephemeralPoolName := by
    unfold deletionPool
    split
    · exact .inr rfl
    · rename_i hkept
      exact .inl (hpools _ (.rootDisk (Bool.eq_false_iff.mpr hkept)))
  cases h with
  | staging h =>
    cases h <;> cases hname <;> exact .inl (hpools _ (.clusterImage _ ‹_›))
  | rootDisk h =>
    cases h with
    | lookup other hother | create other hother =>
      cases hname
      rw [hother]
      exact hroot
    | basePath | clone => cases hname; exact .inl (hpools _ .baseImage)
    | _ => cases hname; exact .inr rfl
  | bootstrap h =>
    cases h with
    | writeIgnition => cases hname
    | lookup hformat other hother | upload hformat other hother =>
      cases hname
      rw [hother]
      exact hroot
  | disk disk hdisk h => cases h <;> cases hname <;> exact .inl (hpools _ (.disk disk hdisk))
  | bootFile h => cases h <;> cases hname
  | domain h =>
    cases h with
    | rootPath other hother | isoPath other hother =>
      cases hname
      rw [hother]
      exact hroot
    | _ => cases hname

def PoolOp (pools : String → Prop) (own : String) : Op → Prop
  | .client _ call => ∀ pool, namedPool call = some pool → pools pool ∨ pool = own
  | _ => True

theorem settledPolicy_pools (hpools : ∀ pool, OperatorPool rc pool → pools pool) :
    SettledPolicy deps rc (PoolOp pools rc.machineScope.ephemeralPoolName) where
  localOp op hop := by
    cases op <;> first | exact hop.elim | trivial
  record _ _ := trivial
  enter _ := trivial
  node op hop := by
    cases op <;> first | exact hop.elim | trivial
  call call h pool hname := settledCall_pools hpools h hname

theorem poolReply_noTerminal {before : List Op} {op : Op} {reply : Reply op}
    (h : poolReply pools before op reply) : noTerminal op reply := by
  cases op with
  | client host call =>
    intro err herr
    have hvalue : ∃ value, (reply : Except GoError call.Result) = .ok value := by
      cases call <;> first | exact h | exact h.imp fun _ hfound => hfound.1
    obtain ⟨value, hvalue⟩ := hvalue
    cases herr.symm.trans hvalue
  | _ => trivial

theorem hostWork_inPools (hpools : ∀ pool, OperatorPool rc pool → pools pool) {st : RunState}
    (hst : InPool rc.spec.rootDisk.storagePool st) {w : List Op} (hstarted : hostWorkStarted w) :
    Holds (poolStep pools) (InPools pools rc.machineScope.ephemeralPoolName) (fun _ _ => True)
      ((hostWork deps rc).exec st) w := by
  have hwork : Emits noTerminal (PoolOp pools rc.machineScope.ephemeralPoolName) (fun _ => True)
      ((hostWork deps rc).exec st) :=
    (hostWork_settles (settledPolicy_pools hpools) st () hst).post_mono fun _ _ _ => trivial
  have hguard (before : List Op) (op : Op) (hbefore : hostWorkStarted before)
      (hop : PoolOp pools rc.machineScope.ephemeralPoolName op) :
      InPools pools rc.machineScope.ephemeralPoolName before op := by
    cases op with
    | client host call => exact ⟨fun _ => hop, fun hearly => (hearly hbefore).elim⟩
    | _ => trivial
  refine (hwork.holds hstarted hguard ?_).post_mono fun _ _ _ => trivial
  rintro before op reply after hbefore - ⟨hreply, rfl⟩
  exact ⟨poolReply_noTerminal hreply, List.mem_append_left _ hbefore⟩

theorem stopIfFailed_covers {covered : RunState → Prop} :
    Body.Triple (poolStep pools) (InPools pools own)
      (fun st _ => covered st ∨ st.status.failureReason.isSome = true) stopIfFailed
      (fun _ st _ => covered st) fun _ _ _ => True := by
  intro st w hst
  unfold stopIfFailed
  rw [Body.get_bind_exec]
  cases hfailed : st.status.failureReason.isSome with
  | true => trivial
  | false => exact hst.resolve_right fun h => nomatch hfailed.symm.trans h

theorem preflightPools_covers (hnamed : PoolsNamed rc.spec rc.libvirtCluster) :
    Body.Triple (poolStep pools) (InPools pools own)
      (fun st w => InPool rc.spec.rootDisk.storagePool st ∧ Gated w) (runStep (preflightPools rc))
      (fun _ st _ => (InPool rc.spec.rootDisk.storagePool st ∧ ∀ pool, OperatorPool rc pool → pools pool) ∨
        st.status.failureReason.isSome = true) fun _ _ _ => True := by
  have hchecks : Body.Triple (poolStep pools) (InPools pools own)
      (fun st w => InPool rc.spec.rootDisk.storagePool st ∧ Gated w)
      (Body.call (preflightPools rc) : NormalBody (Option GoError))
      (fun _ st _ => (InPool rc.spec.rootDisk.storagePool st ∧ ∀ pool, OperatorPool rc pool → pools pool) ∨
        st.status.failureReason.isSome = true) fun _ _ _ => True := by
    refine Body.Triple.call fun st w hpre => ?_
    have hpools := @preflightPools_holds pools rc hnamed st w (fun name => hpre.2.no_query _ _)
      hpre.2.not_started
    refine hpools.mono (fun _ _ _ _ hs => hs) ?_ ?_
    · rintro before op ⟨hearly, hfresh⟩
      cases op with
      | client host call =>
        obtain ⟨-, pool, -, hcall⟩ := hfresh
        exact ⟨fun hstarted => (hearly hstarted).elim, fun _ => ⟨pool, hcall⟩⟩
      | _ => trivial
    · rintro ⟨out, st'⟩ after ⟨-, -, ⟨-, hsame, hall⟩ | ⟨hfailed, -⟩⟩
      · left
        obtain rfl : st' = st := hsame
        exact ⟨hpre.1, (operatorPools_of_required hnamed).mp hall⟩
      · exact .inr hfailed
  refine hchecks.bind fun err => ?_
  cases err with
  | some err => exact Body.Triple.leave fun _ _ _ => trivial
  | none => exact Body.Triple.pure fun _ _ h => h

theorem preflight_covers (hnamed : PoolsNamed rc.spec rc.libvirtCluster) :
    Body.Triple (poolStep pools) (InPools pools own)
      (fun st w => InPool rc.spec.rootDisk.storagePool st ∧ Gated w) (preflight deps rc)
      (fun _ st _ => InPool rc.spec.rootDisk.storagePool st ∧ ∀ pool, OperatorPool rc pool → pools pool)
      fun _ _ _ => True := by
  have hkeeps {α : Type} {body : NormalBody α}
      (h : Body.Keeps anyReply GateOp (InPool rc.spec.rootDisk.storagePool) body) :
      Body.Triple (poolStep pools) (InPools pools own)
        (fun st w => InPool rc.spec.rootDisk.storagePool st ∧ Gated w) body
        (fun _ st w => InPool rc.spec.rootDisk.storagePool st ∧ Gated w) fun _ _ _ => True := by
    refine (h.triple (fun _ _ _ hop => inPools_of_gateOp hop) ?_).mono (fun _ _ _ h => h) fun _ _ _ _ => trivial
    rintro before op reply after hbefore hop ⟨-, rfl⟩
    exact ⟨trivial, hbefore.append hop⟩
  have hrecords : Records anyReply GateOp (InPool rc.spec.rootDisk.storagePool) :=
    ⟨fun _ _ => trivial, fun _ _ _ _ h => h⟩
  refine Body.Triple.bind (hkeeps (Body.Keeps.call (preflightSessionMode_keeps hrecords
    fun _ _ _ _ h => h))) fun _ => ?_
  refine Body.Triple.bind (hkeeps stopIfFailed_keeps) fun _ => ?_
  exact (preflightPools_covers hnamed).bind fun _ => stopIfFailed_covers

theorem provision_inPools (hnamed : PoolsNamed rc.spec rc.libvirtCluster) {st : RunState}
    (hst : InPool rc.spec.rootDisk.storagePool st) {w : List Op} (hw : Gated w) :
    Holds (poolStep pools) (InPools pools rc.machineScope.ephemeralPoolName) (fun _ _ => True)
      (provision deps rc st) w := by
  have hbody : Body.Triple (poolStep pools) (InPools pools rc.machineScope.ephemeralPoolName)
      (fun st w => InPool rc.spec.rootDisk.storagePool st ∧ Gated w)
      (do preflight deps rc; issue (.enter .baseImage); hostWork deps rc)
      (fun _ _ _ => True) fun _ _ _ => True := by
    refine (preflight_covers hnamed).bind fun _ => Body.Triple.perform_bind (fun _ _ _ => trivial) fun _ => ?_
    rintro st w ⟨before, ⟨hst, hpools⟩, -, rfl⟩
    have hstarted : hostWorkStarted (before ++ [.enter .baseImage]) :=
      List.mem_append_right _ (List.mem_singleton_self _)
    refine (hostWork_inPools hpools hst hstarted).post_mono ?_
    rintro ⟨out, after⟩ _ -
    cases out <;> trivial
  exact Body.Triple.run hbody ⟨hst, hw⟩

end HostWork

-- While no client call fails, preflightPools fails exactly when an operator pool is missing,
-- having asked for each pool once at most; and where it does not fail, the client calls of the
-- same reconcileNormal stay in the pools that were there and the machine's own.
theorem preflight_covers_every_pool (pools : String → Prop) (deps : Deps) (lm : LibvirtMachine)
    (machine : Machine) (cluster : Cluster) (libvirtCluster : LibvirtCluster) (host : LibvirtHost)
    (hnamed : PoolsNamed lm.spec libvirtCluster) :
    (∀ (vcpus memoryMB : Int) (status : LibvirtMachineStatus), status.failureReason = none →
      let rc : ReconcileCtx := ⟨lm.addFinalizer, machine, cluster, libvirtCluster, host, vcpus, memoryMB⟩
      Holds (poolStep pools) (FreshQuery rc)
        (fun out _ => out.1 = none ∧
          (out.2.status.failureReason.isSome = true ↔ ∃ pool, OperatorPool rc pool ∧ ¬ pools pool))
        (preflightPools rc (rc.initialState status)) []) ∧
    Holds (poolStep pools) (InPools pools (MachineScope.ephemeralPoolName ⟨cluster, lm, host⟩))
      (fun _ _ => True) (reconcileNormal deps lm machine cluster libvirtCluster host) [] := by
  have hfinal : PoolsNamed lm.addFinalizer.spec libvirtCluster := by
    rw [LibvirtMachine.addFinalizer_spec]
    exact hnamed
  constructor
  · intro vcpus memoryMB status hclean rc
    have hpools := @preflightPools_holds pools rc hfinal (rc.initialState status) []
      (fun _ => List.not_mem_nil) List.not_mem_nil
    refine hpools.mono (fun _ _ _ _ hs => hs) (fun _ _ hg => hg.2) ?_
    rintro ⟨out, st'⟩ after ⟨-, hout, hverdict⟩
    refine ⟨hout, ?_⟩
    have hall := @operatorPools_of_required pools rc hfinal
    rcases hverdict with ⟨-, hsame, hpresent⟩ | ⟨hfailed, missing, hmem, hmissing⟩
    · obtain rfl : st' = rc.initialState status := hsame
      constructor
      · intro hsome
        rw [show (rc.initialState status).status.failureReason = none from hclean] at hsome
        cases hsome
      · rintro ⟨pool, hpool, habsent⟩
        exact (habsent (hall.mp hpresent pool hpool)).elim
    · refine ⟨fun _ => ?_, fun _ => hfailed⟩
      exact ⟨missing.name, (@mem_requiredPools rc hfinal _).mp (List.mem_map_of_mem hmem), hmissing⟩
  · have hown : MachineScope.ephemeralPoolName ⟨cluster, lm, host⟩ =
        MachineScope.ephemeralPoolName ⟨cluster, lm.addFinalizer, host⟩ := by
      unfold LibvirtMachine.addFinalizer
      split <;> rfl
    rw [hown]
    refine reconcileNormal_holds_of_provision Gated (fun _ _ _ hop => inPools_of_gateOp hop) ?_
      (fun _ _ _ _ => trivial) ?_ fun _ hmem => (List.not_mem_nil hmem).elim
    · rintro before op reply after hbefore hop ⟨-, rfl⟩
      exact hbefore.append hop
    · intro vcpus memoryMB status w hw _ rc
      exact @provision_inPools pools deps rc hfinal (rc.initialState status) rfl w hw

def dataDiskMachine : LibvirtMachine :=
  { sampleMachine with
    spec := { sampleMachine.spec with additionalDisks := [⟨"data", 1073741824, "data", "virtio"⟩] } }

def dataDiskCtx : ReconcileCtx :=
  ⟨dataDiskMachine.addFinalizer, sampleOwner, sampleCluster, sampleLibvirtCluster, sampleHost, 2, 2048⟩

theorem dataDiskMachine_named : PoolsNamed dataDiskMachine.spec sampleLibvirtCluster where
  clusterImage image himage := by cases himage
  rootDisk := by decide
  disks := by decide

theorem preflight_covers_data_disk :
    OperatorPool dataDiskCtx "data" ∧
      Holds (poolStep (· = "default")) (FreshQuery dataDiskCtx)
        (fun out _ => out.2.status.failureReason.isSome = true)
        (preflightPools dataDiskCtx (dataDiskCtx.initialState dataDiskMachine.status)) [] := by
  have hdata : OperatorPool dataDiskCtx "data" := .disk ⟨"data", 1073741824, "data", "virtio"⟩ (by decide)
  refine ⟨hdata, ?_⟩
  have hcovers := (preflight_covers_every_pool (· = "default") sampleDeps dataDiskMachine sampleOwner
    sampleCluster sampleLibvirtCluster sampleHost dataDiskMachine_named).1 2 2048 dataDiskMachine.status rfl
  exact hcovers.post_mono fun out _ hout => hout.2.mpr ⟨"data", hdata, by decide⟩

end Caplv.Controller

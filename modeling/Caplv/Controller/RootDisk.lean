import Caplv.Controller.Deletion
import Caplv.Controller.Naming
import Caplv.Controller.Settled
import Caplv.Controller.Versions

namespace Caplv.Controller

open Text Api Libvirt Scope Program

def createdVolume : ClientCall → Option (String × String)
  | .createVolumeFromBackingStore pool name _ _ | .cloneVolume pool _ name | .createVolume pool name _
  | .uploadVolumeFromBytes pool name _ | .uploadQcow2Volume pool name _ _ => some (pool, name)
  | _ => none

def Allocates (plan : String → String → Prop) : Op → Prop
  | .client _ call => ∀ pool name, createdVolume call = some (pool, name) → plan pool name
  | _ => True

section Volumes

variable {newUUID : DomainXML → String} {mayFail : Command → Prop} {plan : String → String → Prop}
  {pool name : String}

theorem absent_set {h : Host} (habsent : h.Absent (.volume pool name))
    (key : Key) (value : key.Value) (hpool : key ≠ .pool pool) (hvolume : key ≠ .volume pool name) :
    (h.set key value).Absent (.volume pool name) :=
  habsent.imp (h.set_of_ne value hpool.symm).trans (h.set_of_ne value hvolume.symm).trans

-- A tmpfs pool comes up empty; every other call adds at most the volume it creates.
theorem call_absent {h : Host} {call : ClientCall} (hnew : createdVolume call ≠ some (pool, name))
    (hkept : VirshClient.deletion call = none) (habsent : h.Absent (.volume pool name)) :
    (h.call newUUID call).2.Absent (.volume pool name) := by
  have hcreate {p n : String} (failure : String → GoError) (content : Volume)
      (hne : some (p, n) ≠ some (pool, name)) :
      (h.createVolume p n failure content).2.Absent (.volume pool name) := by
    rw [Host.createVolume]
    split
    · exact habsent
    · split
      · exact habsent
      · refine absent_set habsent (.volume p n) content nofun fun heq => hne ?_
        rw [(Key.volume.inj heq).1, (Key.volume.inj heq).2]
  cases call with
  | createVolumeFromBackingStore p n backingPath size => exact hcreate _ _ hnew
  | createVolume p n size => exact hcreate _ _ hnew
  | uploadVolumeFromBytes p n data => exact hcreate _ _ hnew
  | uploadQcow2Volume p n content size => exact hcreate _ _ hnew
  | cloneVolume p source n =>
    change (h.cloneVolume p source n).2.Absent _
    rw [Host.cloneVolume]
    split
    · exact habsent
    · exact hcreate _ _ hnew
  | startPool p =>
    change (h.startPool p).2.Absent _
    rw [Host.startPool]
    split
    · exact habsent
    · rename_i found hfound
      split
      · exact habsent
      · split
        · by_cases heq : pool = p
          · subst heq
            have hnone := habsent.resolve_left fun hnone => nomatch hfound.symm.trans hnone
            have hkept : h.set (.pool pool) { found with active := true } (.volume pool name) =
                h (.volume pool name) := h.set_of_ne _ nofun
            exact .inr (hkept.trans hnone)
          · exact absent_set habsent (.pool p) _ (fun hkey => heq (Key.pool.inj hkey).symm) nofun
        · exact habsent
  | createTmpfsPool p path size =>
    change (h.createTmpfsPool p path).2.Absent _
    rw [Host.createTmpfsPool]
    split
    · exact habsent
    · by_cases heq : pool = p
      · right
        simp [heq, volumesOf]
      · refine habsent.imp (fun hnone => ?_) fun hnone => ?_
        · simp [heq, volumesOf, filesUnder, hnone]
        · simp [heq, volumesOf, filesUnder, hnone]
  | defineDomain xmlDef =>
    change (h.defineDomain newUUID xmlDef).2.Absent _
    rw [Host.defineDomain]
    split
    · exact habsent
    · exact absent_set habsent (.domain _) _ nofun nofun
  | startDomain n =>
    change (h.startDomain n).2.Absent _
    rw [Host.startDomain]
    split
    · exact habsent
    · split
      · exact habsent
      · exact absent_set habsent (.domain n) _ nofun nofun
  | writeRemoteFile path data => exact absent_set habsent (.file path) _ nofun nofun
  | poolIsActive p =>
    have hsame : (h.call newUUID (.poolIsActive p)).2 = h := by
      rw [Host.call]
      split <;> rfl
    rw [hsame]
    exact habsent
  | volumeExists p n =>
    have hsame : (h.call newUUID (.volumeExists p n)).2 = h := by
      rw [Host.call]
      split <;> rfl
    rw [hsame]
    exact habsent
  | domainExists _ | getDomain _ | poolExists _ | getVolumePath _ _ | remoteFileExists _ => exact habsent
  | destroyDomain _ | undefineDomain _ | destroyPool _ | deleteVolume _ _ | deleteRemoteFile _ =>
    cases hkept

theorem hostStep_absent {before after : Host} {op : Op} {reply : Reply op} (hop : Allocates plan op)
    (hplan : ¬ plan pool name) (hstep : hostStep newUUID mayFail before op reply after)
    (habsent : before.Absent (.volume pool name)) : after.Absent (.volume pool name) := by
  have hframe (hsame : ∀ key, (∀ node, key ≠ .node node) → after key = before key) :
      after.Absent (.volume pool name) :=
    habsent.imp (hsame (.pool pool) fun _ => nofun).trans (hsame (.volume pool name) fun _ => nofun).trans
  cases op with
  | client host call =>
    cases hkept : VirshClient.deletion call with
    | some prog =>
      exact Host.Absent.shrinks habsent (completes_shrinks (hstep.1 prog hkept))
    | none =>
      rcases hstep.2 hkept with hcall | ⟨rfl, -⟩
      · have hafter : after = (before.call newUUID call).2 := by rw [hcall]
        rw [hafter]
        exact call_absent (fun hnew => hplan (hop _ _ hnew)) hkept habsent
      · exact habsent
  | patchNode _ _ => exact hframe hstep
  | deleteNode _ => exact hframe hstep
  | _ => exact hframe fun key _ => congrFun hstep key

end Volumes

def RootDiskOp (pool root : String) : Op → Prop
  | .client _ (.volumeExists p n) | .client _ (.createVolumeFromBackingStore p n _ _)
  | .client _ (.cloneVolume p _ n) => p = pool ∧ n = root
  | .client _ call => createdVolume call = none
  | _ => True

section Provisioning

variable {deps : Deps} {rc : ReconcileCtx} {plan : String → String → Prop} {pool : String}

theorem rootDiskCall_op (hclone : rc.spec.rootDisk.cloneStrategy = .fullClone → rc.baseImagePool = pool)
    {call : ClientCall} (h : RootDiskCall rc (· = pool) call) :
    RootDiskOp pool rc.rootDiskVolume (.client rc.hostKey call) := by
  cases h with
  | lookup other hother => exact ⟨hother, rfl⟩
  | clone hstrategy => exact ⟨hclone hstrategy, rfl⟩
  | create other hother backingPath => exact ⟨hother, rfl⟩
  | _ => rfl

theorem settledCall_allocates
    (hplan : ∀ pool name, CleanedUp (fun _ => False) rc.machineScope (.volume pool name) → plan pool name)
    (himage : ∀ image, rc.libvirtCluster.baseImage = some image → plan image.pool image.volumeName)
    (hclone : rc.spec.rootDisk.cloneStrategy = .fullClone → rc.baseImagePool = deletionPool rc.machineScope)
    {call : ClientCall} (h : SettledCall deps rc call) {name : String}
    (hkey : createdVolume call = some (pool, name)) : plan pool name := by
  cases h with
  | staging h =>
    cases h with
    | lookup image himage => cases hkey
    | upload image hstaged content size =>
      obtain ⟨rfl, rfl⟩ := Prod.mk.inj (Option.some.inj hkey)
      exact himage image hstaged
  | rootDisk h =>
    cases h with
    | clone hstrategy =>
      obtain ⟨rfl, rfl⟩ := Prod.mk.inj (Option.some.inj hkey)
      exact hplan _ _ (.inl ⟨hclone hstrategy, rfl⟩)
    | create other hother backingPath =>
      obtain ⟨rfl, rfl⟩ := Prod.mk.inj (Option.some.inj hkey)
      exact hplan _ _ (.inl ⟨hother, rfl⟩)
    | _ => cases hkey
  | bootstrap h =>
    cases h with
    | writeIgnition hformat data => cases hkey
    | lookup hformat pool hpool => cases hkey
    | upload hformat pool hpool data =>
      obtain ⟨rfl, rfl⟩ := Prod.mk.inj (Option.some.inj hkey)
      exact hplan _ _ (.inr (.inl ⟨hformat, hpool, rfl⟩))
  | disk disk hdisk h =>
    cases h with
    | lookup => cases hkey
    | path => cases hkey
    | create =>
      obtain ⟨rfl, rfl⟩ := Prod.mk.inj (Option.some.inj hkey)
      exact hplan _ _ (.inr (.inr ⟨disk, hdisk, rfl, rfl⟩))
  | bootFile h => cases h <;> cases hkey
  | domain h => cases h <;> cases hkey

theorem provision_allocates
    (hplan : ∀ pool name, CleanedUp (fun _ => False) rc.machineScope (.volume pool name) → plan pool name)
    (himage : ∀ image, rc.libvirtCluster.baseImage = some image → plan image.pool image.volumeName)
    (hclone : rc.spec.rootDisk.cloneStrategy = .fullClone → rc.baseImagePool = deletionPool rc.machineScope)
    {st : RunState} (hst : InPool rc.spec.rootDisk.storagePool st) :
    Emits noTerminal (Allocates plan) (fun _ => True) (provision deps rc st) := by
  have hlocal (op : Op) (hop : LocalOp op) : Allocates plan op := by
    cases op <;> first | exact hop.elim | trivial
  have hnode (op : Op) (hop : NodeOp rc.domainName op) : Allocates plan op := by
    cases op <;> first | exact hop.elim | trivial
  have hpolicy : SettledPolicy deps rc (Allocates plan) :=
    ⟨hlocal, fun _ _ => trivial, fun _ => trivial, hnode, fun _ hcall _ _ hkey =>
      settledCall_allocates hplan himage hclone hcall hkey⟩
  refine provision_settles hpolicy (fun op hop => ?_) hst
  cases op with
  | client host call =>
    intro p n hkey
    cases call <;> first | exact hop.elim | cases hkey
  | _ => trivial

end Provisioning

section SameMachine

variable {scope other : MachineScope}

theorem SameMachine.cleanedUp (h : SameMachine scope other) {mayFail mayFail' : Command → Prop}
    {pool name : String} (hclean : CleanedUp mayFail other (.volume pool name)) :
    CleanedUp mayFail' scope (.volume pool name) := by
  have hiso : other.bootstrapISOName = scope.bootstrapISOName := congrArg (· ++ "-bootstrap.iso") h.base
  rcases hclean with ⟨hpool, hname⟩ | ⟨hformat, hpool, hname⟩ | ⟨disk, hdisk, hpool, hname⟩
  · exact .inl ⟨hpool.trans h.deletionPool, hname.trans h.rootDiskVolumeName⟩
  · exact .inr (.inl ⟨h.format.symm.trans hformat, hpool.trans h.deletionPool, hname.trans hiso⟩)
  · refine .inr (.inr ⟨disk, h.disks ▸ hdisk, hpool, hname.trans ?_⟩)
    rw [MachineScope.additionalDiskVolumeName, MachineScope.additionalDiskVolumeName, h.base]

end SameMachine

-- A full clone is made in the base image's pool, not in the ephemeral pool.
def ClonesApart (scope : MachineScope) : Prop :=
  scope.libvirtMachine.spec.rootDisk.cloneStrategy = .fullClone ∧
    scope.libvirtMachine.spec.rootDisk.ephemeralPool = true ∧
    scope.libvirtMachine.spec.rootDisk.storagePool ≠ scope.ephemeralPoolName

section Agreement

variable {scope : MachineScope} {plan : String → String → Prop}

-- The volumes provisioning may create: those the cleanup removes and the shared base images.
def Planned (scope : MachineScope) (images : BaseImageSpec → Prop) (pool name : String) : Prop :=
  CleanedUp (fun _ => False) scope (.volume pool name) ∨
    ∃ image, images image ∧ pool = image.pool ∧ name = image.volumeName

section Accepted

variable {parseCIDR : String → Option GoError} {listed : Option (Except GoError (List LibvirtMachine))}
  {rc : ReconcileCtx}

theorem clone_in_storagePool (haccepted : Webhook.validateCreate parseCIDR listed scope.libvirtMachine = .ok ())
    (hclone : scope.libvirtMachine.spec.rootDisk.cloneStrategy = .fullClone)
    (hsame : SameMachine scope rc.machineScope) :
    rc.baseImagePool = scope.libvirtMachine.spec.rootDisk.storagePool := by
  have hdisk : rc.spec.rootDisk = scope.libvirtMachine.spec.rootDisk := hsame.rootDisk
  rw [ReconcileCtx.baseImagePool, hdisk]
  rcases Webhook.validateCreate_clone haccepted hclone with hempty | hequal
  · exact if_pos hempty
  · split
    · rfl
    · exact hequal

theorem clone_in_deletionPool
    (haccepted : Webhook.validateCreate parseCIDR listed scope.libvirtMachine = .ok ())
    (hapart : ¬ ClonesApart scope) (hsame : SameMachine scope rc.machineScope)
    (hclone : rc.spec.rootDisk.cloneStrategy = .fullClone) :
    rc.baseImagePool = deletionPool rc.machineScope := by
  have hdisk : rc.spec.rootDisk = scope.libvirtMachine.spec.rootDisk := hsame.rootDisk
  have hstrategy : scope.libvirtMachine.spec.rootDisk.cloneStrategy = .fullClone := hdisk ▸ hclone
  rw [clone_in_storagePool haccepted hstrategy hsame, hsame.deletionPool, deletionPool]
  split
  · rename_i heph
    by_contra hne
    exact hapart ⟨hstrategy, heph, hne⟩
  · rfl

end Accepted

theorem gateOp_allocates (op : Op) (h : GateOp op) : Allocates plan op := by
  cases op <;> first
    | exact h.elim
    | trivial

theorem readOp_allocates (op : Op) (h : ReadOp op) : Allocates plan op := by
  cases op <;> first
    | exact h.elim
    | trivial

theorem reconcileNormal_allocates {images : BaseImageSpec → Prop} {deps : Deps} {lm : LibvirtMachine}
    {machine : Machine} {cluster : Cluster} {libvirtCluster : LibvirtCluster} {host : LibvirtHost}
    (hsame : SameMachine scope ⟨cluster, lm.addFinalizer, host⟩)
    (himages : ∀ image, libvirtCluster.baseImage = some image → images image)
    (hclone : ∀ rc : ReconcileCtx, SameMachine scope rc.machineScope →
      rc.spec.rootDisk.cloneStrategy = .fullClone → rc.baseImagePool = deletionPool rc.machineScope) :
    Emits noTerminal (Allocates (Planned scope images)) (fun _ => True)
      (reconcileNormal deps lm machine cluster libvirtCluster host) := by
  refine reconcileNormal_holds_of_provision (fun _ => True) (fun _ op _ hop => gateOp_allocates op hop)
    (fun _ _ _ _ _ _ _ => trivial) (fun _ _ _ _ => trivial) (fun vcpus memoryMB status _ _ _ => ?_) trivial
  let rc : ReconcileCtx := ⟨lm.addFinalizer, machine, cluster, libvirtCluster, host, vcpus, memoryMB⟩
  have hprovision : Emits noTerminal (Allocates (Planned scope images)) (fun _ => True)
      (provision deps rc (rc.initialState status)) :=
    provision_allocates (fun _ _ h => .inl (hsame.cleanedUp h))
      (fun image h => .inr ⟨image, himages image h, rfl, rfl⟩) (hclone rc hsame) rfl
  exact hprovision

theorem emits_absent {α : Type} {replies : Replies signature} {step : Handler signature Host}
    {newUUID : DomainXML → String} {mayFail : Command → Prop} {post : α → Prop}
    {prog rest : Prog signature α} {before after : Host} {events : List (Event signature)}
    {pool name : String} (hprog : Emits replies (Allocates plan) post prog)
    (hstep : ∀ before op reply after, step before op reply after →
      hostStep newUUID mayFail before op reply after ∧ replies op reply)
    (hexec : Exec step prog before events rest after) (hplan : ¬ plan pool name)
    (habsent : before.Absent (.volume pool name)) : after.Absent (.volume pool name) := by
  have hholds : Holds step (fun before _ => before.Absent (.volume pool name))
      (fun value after => post value ∧ after.Absent (.volume pool name)) prog before := by
    refine hprog.holds habsent (fun _ _ h _ => h) fun before op reply after h hop hs => ?_
    obtain ⟨hhost, hreply⟩ := hstep before op reply after hs
    exact ⟨hreply, hostStep_absent hop hplan hhost h⟩
  cases rest with
  | done value => exact (hholds.post_of_exec hexec).2
  | ask op next => exact hholds.guard_of_exec hexec

def PathOp (pool : String) : Op → Prop
  | .client _ (.getVolumePath p _) => p = pool
  | _ => True

-- All steps mean the same pool. A root disk step that returns nil with a failure recorded has
-- not come to the disk.
structure PoolsAgree (scope : MachineScope) (pool : String) : Prop where
  rootDisk : ∀ (rc : ReconcileCtx) (status : LibvirtMachineStatus),
    Version scope.libvirtMachine rc.libvirtMachine → rc.cluster.name = scope.cluster.name →
    Emits anyReply (RootDiskOp pool scope.rootDiskVolumeName)
      (fun out => out.1 = none → out.2.status.failureReason = none → out.2.storagePool = pool)
      (reconcileRootDisk rc (rc.initialState status))
  domain : ∀ (deps : Deps) (rc : ReconcileCtx) (st : RunState), st.storagePool = pool →
    Emits anyReply (PathOp pool) (fun _ => True) (reconcileDomain deps rc st)
  deletion : ∀ (newUUID : DomainXML → String) (mayFail : Command → Prop) (deps : Deps)
    (lm lm' : LibvirtMachine) (cluster : Cluster) (host : LibvirtHost) (before after : Host) (ret : Return),
    Version scope.libvirtMachine lm → cluster.name = scope.cluster.name → lm.containsFinalizer = true →
    Completes (hostStep newUUID mayFail) (reconcileDelete deps lm cluster host) before (ret, lm') after →
    lm'.containsFinalizer = false → after.Absent (.volume pool scope.rootDiskVolumeName)

def gracefulStep (newUUID : DomainXML → String) (mayFail : Command → Prop) : Handler signature Host :=
  fun before op reply after => hostStep newUUID mayFail before op reply after ∧ noTerminal op reply

-- Any number of runs of reconcileNormal for the machine, each of which may be cut short.
inductive Provisionings (newUUID : DomainXML → String) (mayFail : Command → Prop) (scope : MachineScope)
    (images : BaseImageSpec → Prop) (before : Host) : Host → Prop where
  | none : Provisionings newUUID mayFail scope images before before
  | run {middle after : Host} {deps : Deps} {lm : LibvirtMachine} {machine : Machine} {cluster : Cluster}
      {libvirtCluster : LibvirtCluster} {host : LibvirtHost} {events : List (Event signature)}
      {rest : Prog signature (Return × LibvirtMachine)}
      (h : Provisionings newUUID mayFail scope images before middle)
      (hversion : Version scope.libvirtMachine lm) (hcluster : cluster.name = scope.cluster.name)
      (himages : ∀ image, libvirtCluster.baseImage = some image → images image)
      (hrun : Exec (gracefulStep newUUID mayFail)
        (reconcileNormal deps lm machine cluster libvirtCluster host) middle events rest after) :
      Provisionings newUUID mayFail scope images before after

-- No new volume is left after the deletion, but for the base images of the clusters.
def NothingLeft (scope : MachineScope) : Prop :=
  ∀ (newUUID : DomainXML → String) (mayFail : Command → Prop) (images : BaseImageSpec → Prop) (deps : Deps)
    (lm lm' : LibvirtMachine) (cluster : Cluster) (host : LibvirtHost) (before middle after : Host)
    (ret : Return), Provisionings newUUID mayFail scope images before middle →
    Version scope.libvirtMachine lm → cluster.name = scope.cluster.name → lm.containsFinalizer = true →
    Completes (hostStep newUUID mayFail) (reconcileDelete deps lm cluster host) middle (ret, lm') after →
    lm'.containsFinalizer = false → ∀ pool name, before.Absent (.volume pool name) →
      after.Absent (.volume pool name) ∨
        ∃ image, images image ∧ pool = image.pool ∧ name = image.volumeName

theorem Provisionings.absent {newUUID : DomainXML → String} {mayFail : Command → Prop}
    {images : BaseImageSpec → Prop} {before after : Host}
    (h : Provisionings newUUID mayFail scope images before after)
    (hclone : ∀ rc : ReconcileCtx, SameMachine scope rc.machineScope →
      rc.spec.rootDisk.cloneStrategy = .fullClone → rc.baseImagePool = deletionPool rc.machineScope)
    {pool name : String} (hplan : ¬ Planned scope images pool name)
    (habsent : before.Absent (.volume pool name)) : after.Absent (.volume pool name) := by
  induction h with
  | none => exact habsent
  | run h hversion hcluster himages hrun ih =>
    have hsame := hversion.addFinalizer.same hcluster
    exact emits_absent (reconcileNormal_allocates (hsame _) himages hclone) (fun _ _ _ _ hs => hs) hrun
      hplan ih

theorem cleanupOp_allocates (op : Op) (h : CleanupOp scope op) : Allocates (fun _ _ => False) op := by
  rcases h with hread | hdelete
  · exact readOp_allocates op hread
  · cases op with
    | client host call =>
      intro p n hkey
      cases hdelete.2 <;> cases hkey
    | _ => trivial

theorem poolsAgree (hclone : ∀ rc : ReconcileCtx, SameMachine scope rc.machineScope →
      rc.spec.rootDisk.cloneStrategy = .fullClone → rc.baseImagePool = deletionPool rc.machineScope) :
    PoolsAgree scope (deletionPool scope) where
  rootDisk rc status hversion hcluster := by
    have hsame : SameMachine scope rc.machineScope := hversion.same hcluster _
    rw [← hsame.deletionPool, ← hsame.rootDiskVolumeName]
    have hstart : InPool rc.spec.rootDisk.storagePool (rc.initialState status) := rfl
    have hsettles : Emits anyReply _ _ _ := reconcileRootDisk_settles (fun _ _ => trivial)
      (fun _ => rootDiskCall_op (hclone rc hsame)) hstart
    refine hsettles.post_mono fun out hend hnil hclean => ?_
    rcases hend hnil with hst | ⟨-, hfailed⟩
    · exact hst
    · rw [hclean] at hfailed
      cases hfailed
  domain deps rc st hst := by
    have hrecords : Records anyReply (PathOp (deletionPool scope)) (InPool (deletionPool scope)) :=
      ⟨fun _ _ => trivial, fun _ _ _ _ h => h⟩
    have hkeeps : Fn.Keeps anyReply (PathOp (deletionPool scope)) (InPool (deletionPool scope))
        (reconcileDomain deps rc) := by
      refine reconcileDomain_keeps (· = deletionPool scope) hrecords (fun _ h => h) fun call hcall operation =>
        domainCall_keeps ?_ (fun _ _ _ => hrecords) operation
      cases hcall <;> trivial
    exact (hkeeps st hst).post_mono fun _ _ => trivial
  deletion newUUID mayFail deps lm lm' cluster host before after ret hversion hcluster hfinalizer hrun
      hremoved := by
    have hsame := hversion.same hcluster host
    have hgone := (reconcileDelete_cleans hfinalizer before).completes hrun hremoved
    rw [← hsame.deletionPool, ← hsame.rootDiskVolumeName]
    exact hgone (.volume _ _) (.inl ⟨rfl, rfl⟩)

theorem nothingLeft (hclone : ∀ rc : ReconcileCtx, SameMachine scope rc.machineScope →
      rc.spec.rootDisk.cloneStrategy = .fullClone → rc.baseImagePool = deletionPool rc.machineScope) :
    NothingLeft scope := by
  intro newUUID mayFail images deps lm lm' cluster host before middle after ret hruns hversion hcluster
    hfinalizer hrun hremoved pool name habsent
  have hsame := hversion.same hcluster host
  by_cases himage : ∃ image, images image ∧ pool = image.pool ∧ name = image.volumeName
  · exact .inr himage
  left
  by_cases hclean : CleanedUp mayFail ⟨cluster, lm, host⟩ (.volume pool name)
  · exact (reconcileDelete_cleans hfinalizer middle).completes hrun hremoved _ hclean
  · have hplan : ¬ Planned scope images pool name := by
      rintro (hplanned | hshared)
      · exact hclean (hsame.symm.cleanedUp hplanned)
      · exact himage hshared
    obtain ⟨events, hexec⟩ := hrun
    have hemits := @reconcileDelete_emits anyReply deps ⟨cluster, lm, host⟩
    exact emits_absent (hemits.mono (fun _ _ h => h) cleanupOp_allocates fun _ h => h)
      (fun _ _ _ _ hs => ⟨hs, trivial⟩) hexec not_false (hruns.absent hclone hplan habsent)

theorem ClonesApart.disagree (hapart : ClonesApart scope)
    (hclone : ∀ rc : ReconcileCtx, SameMachine scope rc.machineScope →
      rc.baseImagePool = scope.libvirtMachine.spec.rootDisk.storagePool) (pool : String) :
    ¬ PoolsAgree scope pool := by
  obtain ⟨hstrategy, heph, hne⟩ := hapart
  intro hagree
  let rc : ReconcileCtx :=
    ⟨scope.libvirtMachine, sampleOwner, scope.cluster, sampleLibvirtCluster, scope.libvirtHost, 0, 0⟩
  have hbase : rc.baseImagePool = scope.libvirtMachine.spec.rootDisk.storagePool :=
    hclone rc ⟨rfl, rfl, rfl, rfl⟩
  have hemits := hagree.rootDisk rc scope.libvirtMachine.status .created rfl
  have hcreate (storagePool : String) : createRootDisk rc storagePool = callOnBaseImage rc
      (.cloneVolume rc.baseImagePool rc.spec.rootDisk.baseImage rc.rootDiskVolume)
      "cloning root disk (full-clone)" := by
    have hstrategy' : rc.spec.rootDisk.cloneStrategy = .fullClone := hstrategy
    rw [createRootDisk, hstrategy']
  rw [reconcileRootDisk, if_pos (show rc.spec.rootDisk.ephemeralPool = true from heph)] at hemits
  simp only [hcreate] at hemits
  have hactive := ((emits_ask _ _).mp hemits).2 (.ok true) trivial
  have hlookup := ((emits_ask _ _).mp hactive).2 (.ok true) trivial
  obtain ⟨hchecked, hmissing⟩ := (emits_ask _ _).mp hlookup
  have hcloned := ((emits_ask _ _).mp (hmissing (.ok false) trivial)).1
  exact hne (hbase.symm.trans (hcloned.1.trans hchecked.1.symm))

end Agreement

-- For an accepted spec creation, lookup and deletion of the root disk agree on its pool, and a
-- deletion leaves no new volume, exactly when a full clone is not combined with an ephemeral pool.
theorem rootDisk_pools_agree_iff (parseCIDR : String → Option GoError)
    (listed : Option (Except GoError (List LibvirtMachine))) (scope : MachineScope)
    (haccepted : Webhook.validateCreate parseCIDR listed scope.libvirtMachine = .ok ()) :
    ((∃ pool, PoolsAgree scope pool) ∧ NothingLeft scope) ↔ ¬ ClonesApart scope := by
  constructor
  · rintro ⟨⟨pool, hagree⟩, -⟩ hapart
    exact hapart.disagree (fun rc hsame => clone_in_storagePool haccepted hapart.1 hsame) pool hagree
  · intro hapart
    have hclone (rc : ReconcileCtx) (hsame : SameMachine scope rc.machineScope)
        (hstrategy : rc.spec.rootDisk.cloneStrategy = .fullClone) :
        rc.baseImagePool = deletionPool rc.machineScope :=
      clone_in_deletionPool haccepted hapart hsame hstrategy
    exact ⟨⟨_, poolsAgree hclone⟩, nothingLeft hclone⟩

def clonedMachine : LibvirtMachine :=
  { ephemeralMachine with
    spec := { ephemeralMachine.spec with
      rootDisk := { ephemeralMachine.spec.rootDisk with cloneStrategy := .fullClone } } }

def clonedScope : MachineScope := ⟨sampleCluster, clonedMachine, sampleHost⟩

def sampleCommands : Program.Machine signature Host := virshMachine sampleUUID commandMachine freshAnswer

def graceful : (op : Op) → Reply op → Bool
  | .client _ _, .error err => !err.isTerminal
  | _, _ => true

theorem noTerminal_of_graceful {op : Op} {reply : Reply op} (h : graceful op reply = true) :
    noTerminal op reply := by
  cases op with
  | client host call =>
    intro err herr
    obtain rfl := herr
    simpa [graceful] using h
  | _ => trivial

-- The clone is made in the operator's pool, and the domain's root disk is then missing.
def clonedNormal : Prog signature (Return × LibvirtMachine) :=
  reconcileNormal sampleDeps clonedMachine sampleOwner sampleCluster sampleLibvirtCluster sampleHost

def clonedRun : Prog signature (Return × LibvirtMachine) × Host :=
  runFor sampleCommands 40 clonedNormal bareHost

theorem sampleCommands_hostStep {before after : Host} {op : Op} {reply : Reply op}
    (h : sampleCommands.handler before op reply after) :
    hostStep sampleUUID (fun _ => False) before op reply after :=
  virshMachine_hostStep (fun _ _ _ _ hs => .inl hs) h

theorem clonedRun_provisionings :
    Provisionings sampleUUID (fun _ => False) clonedScope (fun _ => False) bareHost clonedRun.2 := by
  have hstep (before : Host) (op : Op) (h : graceful op (sampleCommands before op).1 = true) :
      gracefulStep sampleUUID (fun _ => False) before op (sampleCommands before op).1
        (sampleCommands before op).2 := ⟨sampleCommands_hostStep rfl, noTerminal_of_graceful h⟩
  have hpermits : permits sampleCommands (fun h op => graceful op (sampleCommands h op).1) 40 clonedNormal
      bareHost = true := by decide +kernel
  obtain ⟨events, hexec⟩ := exec_of_permits hstep 40 hpermits
  have hrun : Exec (gracefulStep sampleUUID fun _ => False) (reconcileNormal sampleDeps clonedMachine
      sampleOwner sampleCluster sampleLibvirtCluster sampleHost) bareHost events clonedRun.1 clonedRun.2 := hexec
  have hnone (image : BaseImageSpec) (h : sampleLibvirtCluster.baseImage = some image) : False := by cases h
  exact .run .none .created rfl hnone hrun

def clonedDeletion : (Return × LibvirtMachine) × Host :=
  run sampleCommands (reconcileDelete sampleDeps { clonedMachine.addFinalizer with deletionTimestamp := true }
    sampleCluster sampleHost) clonedRun.2

-- An accepted machine leaves its root disk behind.
theorem clone_left_behind :
    Webhook.validateCreate (fun _ => none) none clonedMachine = .ok () ∧ ClonesApart clonedScope ∧
      bareHost.Absent (.volume "default" "ns-c-m-root.qcow2") ∧
      clonedDeletion.1.2.containsFinalizer = false ∧
      (clonedDeletion.2 (.volume "default" "ns-c-m-root.qcow2")).isSome = true ∧
      ¬ NothingLeft clonedScope := by
  have hclone : (clonedDeletion.2 (.volume "default" "ns-c-m-root.qcow2")).isSome = true := by
    decide +kernel
  have hremoved : clonedDeletion.1.2.containsFinalizer = false := by decide +kernel
  have habsent : bareHost.Absent (.volume "default" "ns-c-m-root.qcow2") := .inr rfl
  refine ⟨by decide +kernel, ⟨rfl, rfl, by decide⟩, habsent, hremoved, hclone, fun hleft => ?_⟩
  obtain ⟨events, hexec⟩ := run_exec sampleCommands (reconcileDelete sampleDeps
    { clonedMachine.addFinalizer with deletionTimestamp := true } sampleCluster sampleHost) clonedRun.2
  have hrun := hexec.strengthen (show (fun _ : Host => True) clonedRun.2 from trivial)
    fun _ _ _ _ _ hs => ⟨sampleCommands_hostStep hs, trivial⟩
  have hversion : Version clonedMachine { clonedMachine.addFinalizer with deletionTimestamp := true } :=
    Version.created.updated rfl (.inr rfl)
  rcases hleft _ _ _ _ _ _ _ _ _ _ _ _ clonedRun_provisionings hversion rfl rfl ⟨events, hrun⟩ hremoved
    "default" "ns-c-m-root.qcow2" habsent with hgone | ⟨image, himage, -⟩
  · rcases hgone with hpool | hvolume
    · have hkept : (clonedDeletion.2 (.pool "default")).isSome = true := by decide +kernel
      rw [show clonedDeletion.2 (.pool "default") = none from hpool] at hkept
      cases hkept
    · rw [show clonedDeletion.2 (.volume "default" "ns-c-m-root.qcow2") = none from hvolume] at hclone
      cases hclone
  · exact himage

theorem rootDisk_pools_agree_overlay :
    Webhook.validateCreate (fun _ => none) none ephemeralMachine = .ok () ∧
      (∃ pool, PoolsAgree ⟨sampleCluster, ephemeralMachine, sampleHost⟩ pool) ∧
      NothingLeft ⟨sampleCluster, ephemeralMachine, sampleHost⟩ := by
  have haccepted : Webhook.validateCreate (fun _ => none) none ephemeralMachine = .ok () := by decide +kernel
  exact ⟨haccepted, (rootDisk_pools_agree_iff _ _ ⟨sampleCluster, ephemeralMachine, sampleHost⟩
    haccepted).mpr fun hapart => nomatch hapart.1⟩

end Caplv.Controller

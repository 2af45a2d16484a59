import Caplv.Controller.Deletion
import Caplv.Controller.Handling

namespace Caplv.Controller

open Text Api Libvirt Scope Program

-- A client call takes its effect, or fails with one of the errors it may fail with, before
-- or after its effect.
def faultyCall (newUUID : DomainXML → String) (fails : ClientCall → GoError → Prop) (before : Host)
    (call : ClientCall) (reply : Except GoError call.Result) (after : Host) : Prop :=
  before.call newUUID call = (reply, after) ∨
    ∃ err, reply = .error err ∧ fails call err ∧ (after = before ∨ after = (before.call newUUID call).2)

def faultyStep (newUUID : DomainXML → String) (fails : ClientCall → GoError → Prop) : Handler signature Host :=
  fun before op reply after =>
    match op, reply with
    | .client _ call, reply => faultyCall newUUID fails before call reply after
    | _, _ => after = before

-- The pool is defined, its tmpfs is mounted, and the root disk is on it.
def DiskKept (pool root : String) (disk : Volume) (h : Host) : Prop :=
  ∃ p, h (.pool pool) = some p ∧ h (.mount p.path) = some () ∧ h (.volume pool root) = some disk

def DestroysStale (h : Host) : Op → Prop
  | .client _ (.destroyPool name) => ∀ p, h (.pool name) = some p → h (.mount p.path) = none
  | _ => True

-- In every run the disk is still there, with its content, when reconcileRootDisk returns.
def DiskSurvives (newUUID : DomainXML → String) (fails : ClientCall → GoError → Prop) (rc : ReconcileCtx) : Prop :=
  ∀ st disk h, DiskKept rc.machineScope.ephemeralPoolName rc.rootDiskVolume disk h →
    Holds (faultyStep newUUID fails) DestroysStale
      (fun _ after => DiskKept rc.machineScope.ephemeralPoolName rc.rootDiskVolume disk after)
      (reconcileRootDisk rc st) h

section Revival

variable {newUUID : DomainXML → String} {fails : ClientCall → GoError → Prop} {rc : ReconcileCtx} {disk : Volume}

abbrev Kept (rc : ReconcileCtx) (disk : Volume) (h : Host) : Prop :=
  DiskKept rc.machineScope.ephemeralPoolName rc.rootDiskVolume disk h

def InUse (rc : ReconcileCtx) (disk : Volume) (h : Host) : Prop :=
  Kept rc disk h ∧ ∃ p, h (.pool rc.machineScope.ephemeralPoolName) = some p ∧ p.active = true

abbrev Revives {α : Type} (newUUID : DomainXML → String) (fails : ClientCall → GoError → Prop) (rc : ReconcileCtx)
    (disk : Volume) (pre : RunState → Host → Prop) (body : StepBody α) (post : α → RunState → Host → Prop) : Prop :=
  Body.Triple (faultyStep newUUID fails) DestroysStale pre body post fun _ _ => Kept rc disk

theorem revival_handling : Handling (faultyStep newUUID fails) DestroysStale (fun _ => Kept rc disk)
    fun _ _ => Kept rc disk where
  guard _ _ _ _ _ := trivial
  recorded _ _ _ _ _ hkept hs := (show _ = _ from hs) ▸ hkept
  failed _ _ _ hkept := hkept

theorem faultyCall_query {call : ClientCall} {before after : Host} {reply : Except GoError call.Result}
    (hquery : (before.call newUUID call).2 = before) (h : faultyCall newUUID fails before call reply after) :
    after = before := by
  rcases h with h | ⟨err, -, -, h | h⟩
  · rw [h] at hquery
    exact hquery
  · exact h
  · rw [h, hquery]

theorem volumeExists_query (before : Host) (pool name : String) :
    (before.call newUUID (.volumeExists pool name)).2 = before := by
  rw [Host.call]
  split <;> rfl

theorem poolIsActive_query (before : Host) (name : String) :
    (before.call newUUID (.poolIsActive name)).2 = before := by
  rw [Host.call]
  split <;> rfl

theorem startPool_starts {before after : Host} {name : String} {reply : Except GoError Unit} {p : Pool}
    (hpool : before (.pool name) = some p) (hinactive : p.active = false)
    (hmount : before (.mount p.path) = some ()) (hstart : before.startPool name = (reply, after)) :
    reply = .ok () ∧ after = before.set (.pool name) { p with active := true } := by
  rw [Host.startPool, hpool] at hstart
  simp only [hinactive, hmount, Bool.false_eq_true, if_false, Prod.mk.injEq] at hstart
  exact ⟨hstart.1.symm, hstart.2.symm⟩

theorem reviveEphemeralPool_revives (hfails : ∀ err, ¬ fails (.startPool rc.machineScope.ephemeralPoolName) err) :
    Revives newUUID fails rc disk (fun _ => Kept rc disk) (reviveEphemeralPool rc)
      fun usable _ h => usable = true ∧ InUse rc disk h := by
  have hactive : Revives newUUID fails rc disk (fun _ => Kept rc disk)
      (callOrHandle rc (.poolIsActive rc.machineScope.ephemeralPoolName) "checking ephemeral pool state")
      fun active _ h => Kept rc disk h ∧ ∃ p, h (.pool rc.machineScope.ephemeralPoolName) = some p ∧
        p.active = active := by
    refine revival_handling.callOrHandle rc _ _ (fun _ _ _ => trivial) ?_ ?_
    · rintro _ before value after hkept (hstep | ⟨err, herr, -⟩)
      · obtain ⟨p, hpool, hmount, hdisk⟩ := hkept
        simp only [Host.call, hpool, Prod.mk.injEq, Except.ok.injEq] at hstep
        obtain ⟨rfl, rfl⟩ := hstep
        exact ⟨⟨p, hpool, hmount, hdisk⟩, p, hpool, rfl⟩
      · cases herr
    · intro _ before err after hkept hstep
      exact (faultyCall_query (poolIsActive_query _ _) hstep) ▸ hkept
  refine hactive.bind fun active => ?_
  refine Body.Triple.ite (fun htrue => Body.Triple.pure fun _ h hin => ?_) fun hfalse => ?_
  · obtain ⟨hkept, p, hpool, hp⟩ := hin
    exact ⟨rfl, hkept, p, hpool, hp.trans htrue⟩
  · have hinactive : active = false := by simpa using hfalse
    refine Body.Triple.perform_bind (fun _ _ _ => trivial) fun started => ?_
    intro st after hstarted
    obtain ⟨before, ⟨⟨p, hpool, hmount, hdisk⟩, p', hpool', hp⟩, hstep⟩ := hstarted
    obtain rfl : p = p' := Option.some.inj (hpool.symm.trans hpool')
    rcases hstep with hstep | ⟨err, rfl, herr, -⟩
    · obtain ⟨rfl, rfl⟩ := startPool_starts hpool (hp.trans hinactive) hmount hstep
      refine ⟨rfl, ⟨{ p with active := true }, ?_, ?_, ?_⟩, { p with active := true }, ?_, rfl⟩
      · exact Host.set_self _ _ _
      · rw [Host.set_of_ne _ _ (by simp)]
        exact hmount
      · rw [Host.set_of_ne _ _ (by simp)]
        exact hdisk
      · exact Host.set_self _ _ _
    · exact absurd herr (hfails err)

theorem ensureEphemeralPool_revives (hfails : ∀ err, ¬ fails (.startPool rc.machineScope.ephemeralPoolName) err) :
    Revives newUUID fails rc disk (fun _ => Kept rc disk) (ensureEphemeralPool rc) fun _ _ => InUse rc disk := by
  have hexists : Revives newUUID fails rc disk (fun _ => Kept rc disk)
      (callOrHandle rc (.poolExists rc.machineScope.ephemeralPoolName) "checking ephemeral pool")
      fun defined _ h => defined = true ∧ Kept rc disk h := by
    refine revival_handling.callOrHandle rc _ _ (fun _ _ _ => trivial) ?_ ?_
    · rintro _ before value after hkept (hstep | ⟨err, herr, -⟩)
      · obtain ⟨p, hpool, hrest⟩ := hkept
        simp only [Host.call, hpool, Option.isSome_some, Prod.mk.injEq, Except.ok.injEq] at hstep
        obtain ⟨rfl, rfl⟩ := hstep
        exact ⟨rfl, p, hpool, hrest⟩
      · cases herr
    · intro _ before err after hkept hstep
      exact (faultyCall_query rfl hstep) ▸ hkept
  refine hexists.bind fun defined => ?_
  intro st h hdefined
  obtain ⟨rfl, hkept⟩ := hdefined
  refine Body.Triple.bind (reviveEphemeralPool_revives hfails) (fun usable => ?_) st h hkept
  intro st h husable
  obtain ⟨rfl, huse⟩ := husable
  exact huse

theorem lookupVolume_inUse {h : Host} (huse : InUse rc disk h) :
    h.lookupVolume rc.machineScope.ephemeralPoolName rc.rootDiskVolume = .ok disk := by
  obtain ⟨⟨p, hpool, hmount, hdisk⟩, p', hpool', hactive⟩ := huse
  obtain rfl : p = p' := Option.some.inj (hpool.symm.trans hpool')
  rw [Host.lookupVolume, Host.poolFailure, hpool]
  simp only [hactive, if_true, hdisk]

theorem reconcileRootDisk_eq (heph : rc.spec.rootDisk.ephemeralPool = true) : reconcileRootDisk rc = stepFn (do
    ensureEphemeralPool rc
    Body.modify fun st => { st with storagePool := rc.machineScope.ephemeralPoolName }
    let storagePool := (← Body.get).storagePool
    let rootExists ← callOrHandle rc (.volumeExists storagePool rc.rootDiskVolume) "checking root disk"
    if rootExists then pure () else createRootDisk rc storagePool) := by
  rw [reconcileRootDisk, heph]
  simp only [if_true, bind_assoc]

theorem reconcileRootDisk_keeps_disk (heph : rc.spec.rootDisk.ephemeralPool = true)
    (hfails : ∀ err, ¬ fails (.startPool rc.machineScope.ephemeralPoolName) err) :
    DiskSurvives newUUID fails rc := by
  intro st disk h hkept
  rw [reconcileRootDisk_eq heph]
  refine @stepFn_triple _ _ _ (fun _ => Kept rc disk) (fun _ _ => Kept rc disk) _ ?_ _ _ hkept
  refine Body.Triple.bind (ensureEphemeralPool_revives hfails) fun _ => ?_
  refine Body.Triple.modify_bind
    (fun st h => InUse rc disk h ∧ st.storagePool = rc.machineScope.ephemeralPoolName) (fun _ _ huse => ⟨huse, rfl⟩) ?_
  intro st h hin
  rw [Body.get_bind_exec, hin.2]
  have hexists : Revives newUUID fails rc disk (fun _ => InUse rc disk)
      (callOrHandle rc (.volumeExists rc.machineScope.ephemeralPoolName rc.rootDiskVolume) "checking root disk")
      fun found _ h => found = true ∧ Kept rc disk h := by
    refine revival_handling.callOrHandle rc _ _ (fun _ _ _ => trivial) ?_ ?_
    · rintro _ before value after huse (hstep | ⟨err, herr, -⟩)
      · simp only [Host.call, lookupVolume_inUse huse, Prod.mk.injEq, Except.ok.injEq] at hstep
        obtain ⟨rfl, rfl⟩ := hstep
        exact ⟨rfl, huse.1⟩
      · cases herr
    · intro _ before err after huse hstep
      exact (faultyCall_query (volumeExists_query _ _ _) hstep) ▸ huse.1
  refine Body.Triple.bind hexists (fun found => ?_) st h hin.1
  intro st h hfound
  obtain ⟨rfl, hkept⟩ := hfound
  exact hkept

end Revival

-- The host after a restart of the daemon: the pool is inactive, the tmpfs and the disk are there.
def restartedHost (pool root : String) (disk : Volume) : Host :=
  Host.set (Host.set (Host.set (fun _ => none) (.pool pool) ⟨"/run", false⟩) (.mount "/run") ())
    (.volume pool root) disk

theorem restartedHost_pool (pool root : String) (disk : Volume) :
    restartedHost pool root disk (.pool pool) = some ⟨"/run", false⟩ := by
  simp [restartedHost]

theorem restartedHost_mount (pool root : String) (disk : Volume) :
    restartedHost pool root disk (.mount "/run") = some () := by
  simp [restartedHost]

theorem restartedHost_kept (pool root : String) (disk : Volume) :
    DiskKept pool root disk (restartedHost pool root disk) :=
  ⟨_, restartedHost_pool pool root disk, restartedHost_mount pool root disk, Host.set_self _ _ _⟩

-- Among all patterns of errors, those that never destroy the disk are the ones in which
-- starting the pool does not fail.
theorem disk_survives_iff (newUUID : DomainXML → String) (fails : ClientCall → GoError → Prop) (rc : ReconcileCtx)
    (heph : rc.spec.rootDisk.ephemeralPool = true) :
    DiskSurvives newUUID fails rc ↔ ∀ err, ¬ fails (.startPool rc.machineScope.ephemeralPoolName) err := by
  constructor
  · intro hsurvives err herr
    -- pool-info answers twice, pool-start fails, and the pool is destroyed with its tmpfs.
    let host := restartedHost rc.machineScope.ephemeralPoolName rc.rootDiskVolume (.blank 0)
    have hpool : host (.pool rc.machineScope.ephemeralPoolName) = some ⟨"/run", false⟩ := restartedHost_pool ..
    have hrun := hsurvives (rc.initialState rc.libvirtMachine.status) (.blank 0) host (restartedHost_kept ..)
    rw [reconcileRootDisk_eq heph] at hrun
    have hdefined := hrun.2 (.ok true) host (.inl (by simp only [Host.call, hpool, Option.isSome_some]))
    have hinactive := hdefined.2 (.ok false) host (.inl (by simp only [Host.call, hpool]))
    have hfailed := hinactive.2 (.error err) host (.inr ⟨err, rfl, herr, .inl rfl⟩)
    have hgone : host (.mount "/run") = none := hfailed.1 _ hpool
    rw [show host (.mount "/run") = some () from restartedHost_mount ..] at hgone
    cases hgone
  · exact reconcileRootDisk_keeps_disk heph

def ephemeralCtx : ReconcileCtx :=
  ⟨ephemeralMachine, sampleOwner, sampleCluster, sampleLibvirtCluster, sampleHost, 2, 2048⟩

theorem disk_survives_sample : ephemeralCtx.spec.rootDisk.ephemeralPool = true ∧
    DiskSurvives sampleUUID (fun call _ => call ≠ .startPool ephemeralCtx.machineScope.ephemeralPoolName)
      ephemeralCtx :=
  ⟨rfl, (disk_survives_iff _ _ _ rfl).mpr fun _ hother => hother rfl⟩

-- The disk of a machine that was running, and a daemon that refuses pool-start while it is still
-- coming up. Every other command finds it ready.
def writtenDisk : Volume := .image [1, 2, 3] 0

def notReady : String := "error: failed to connect to the hypervisor"

def restartingDaemon : Program.Machine signature Host
  | h, .client _ (.startPool name) => (.error (classifyVirshError notReady "pool-start" name), h)
  | h, op => hostAnswer sampleUUID freshAnswer h op

def hostBefore : Host :=
  Host.set (Host.set (restartedHost "ns-c-m-pool" "ns-c-m-root.qcow2" writtenDisk) (.pool "default") ⟨"/data", true⟩)
    (.volume "default" "base") (.image [] 0)

def hostAfter : Host :=
  (run restartingDaemon (reconcileRootDisk ephemeralCtx (ephemeralCtx.initialState ephemeralMachine.status))
    hostBefore).2

-- The error is a transient one, and the pool is rebuilt from the base image.
theorem refused_start_wipes_disk :
    virshCategory notReady = .transient ∧
      hostBefore (.pool ephemeralCtx.machineScope.ephemeralPoolName) = some ⟨"/run", false⟩ ∧
      hostBefore (.mount "/run") = some () ∧
      hostBefore (.volume ephemeralCtx.machineScope.ephemeralPoolName ephemeralCtx.rootDiskVolume) = some writtenDisk ∧
      hostAfter (.volume ephemeralCtx.machineScope.ephemeralPoolName ephemeralCtx.rootDiskVolume) =
        some (.overlay "/data/base" 1073741824) :=
  ⟨(virshCategory_ofList _).trans (by decide), by decide +kernel⟩

end Caplv.Controller

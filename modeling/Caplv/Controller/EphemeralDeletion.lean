import Caplv.Controller.Retry

namespace Caplv.Controller

open Text Api Libvirt Scope Program

section Halting

variable {newUUID : DomainXML → String} {answers : (op : Op) → Reply op} {scope : MachineScope}
  {host : LibvirtHost} {lm : LibvirtMachine} {pool : String} {p : Pool}

-- A part of the cleanup on a host with the given pool, which it leaves alone where it falls
-- through; where it ends early the object in memory is still the one it started with.
abbrev BesidePool (newUUID : DomainXML → String) (answers : (op : Op) → Reply op) (lm : LibvirtMachine)
    (pool : String) (p : Pool) (body : DeleteBody Unit) (post : LibvirtMachine → Host → Prop) : Prop :=
  Body.Triple (working newUUID answers) (fun _ _ => True) (fun lm' h => lm' = lm ∧ h (.pool pool) = some p)
    body (fun _ => post) (fun _ lm' _ => lm' = lm)

theorem deleteVolume_pool (h : Host) (inPool name : String) :
    (h.deleteVolume inPool name).2 (.pool pool) = h (.pool pool) := by
  rw [Host.deleteVolume]
  split
  · rfl
  · simp

theorem destroyDomain_pool (h : Host) (name : String) :
    (h.destroyDomain name).2 (.pool pool) = h (.pool pool) := by
  rw [Host.destroyDomain]
  split
  · rfl
  · split
    · simp
    · rfl

theorem undefineDomain_pool (h : Host) (name : String) :
    (h.undefineDomain name).2 (.pool pool) = h (.pool pool) := by
  rw [Host.undefineDomain]
  split
  · rfl
  · split
    · rfl
    · simp

theorem deleteCall_besidePool {call : ClientCall} {what : String}
    (hpool : ∀ before : Host, (before.call newUUID call).2 (.pool pool) = before (.pool pool)) :
    BesidePool newUUID answers lm pool p (deleteCall host call what)
      (fun lm' h => lm' = lm ∧ h (.pool pool) = some p) := by
  refine Body.Triple.perform_bind (fun _ _ _ => trivial) fun reply => ?_
  have hkept {lm' : LibvirtMachine} {before after : Host} (h : lm' = lm ∧ before (.pool pool) = some p)
      (hs : before.call newUUID call = (reply, after)) : lm' = lm ∧ after (.pool pool) = some p := by
    have hafter : (before.call newUUID call).2 = after := congrArg Prod.snd hs
    exact ⟨h.1, hafter ▸ (hpool before).trans h.2⟩
  cases reply with
  | ok value =>
    refine Body.Triple.pure fun _ after hafter => ?_
    obtain ⟨before, hpre, hs⟩ := hafter
    exact hkept hpre hs
  | error err =>
    refine Body.Triple.ite (fun _ => Body.Triple.pure fun _ after hafter => ?_) fun _ =>
      Body.Triple.leave fun _ after hafter => ?_
    · obtain ⟨before, hpre, hs⟩ := hafter
      exact hkept hpre hs
    · obtain ⟨before, hpre, hs⟩ := hafter
      exact hpre.1

theorem deleteDomain_besidePool :
    BesidePool newUUID answers lm pool p (deleteDomain scope)
      (fun lm' h => lm' = lm ∧ h (.pool pool) = some p) := by
  refine Body.Triple.bind (deleteCall_besidePool fun before => ?_) fun _ =>
    deleteCall_besidePool fun before => ?_
  · exact destroyDomain_pool before scope.domainName
  · exact undefineDomain_pool before scope.domainName

theorem deleteBootstrapArtifacts_besidePool :
    BesidePool newUUID answers lm pool p (deleteBootstrapArtifacts scope)
      (fun lm' h => lm' = lm ∧ h (.pool pool) = some p) := by
  rw [deleteBootstrapArtifacts]
  split
  · refine Body.Triple.perform_bind (fun _ _ _ => trivial) fun reply => ?_
    rintro lm' after ⟨before, ⟨hlm, hp⟩, hs⟩
    obtain ⟨-, rfl⟩ := Prod.mk.inj hs
    exact ⟨hlm, (before.erase_of_ne (fun h => by cases h)).trans hp⟩
  · exact deleteCall_besidePool fun before => deleteVolume_pool before _ _
  · exact Body.Triple.pure fun _ _ h => h

-- The volume deletion is refused as "pool is not active", which is not a missing target.
theorem deleteVolume_halts (hinactive : p.active = false) (name what : String) :
    BesidePool newUUID answers lm pool p (deleteCall host (.deleteVolume pool name) what)
      (fun _ _ => False) := by
  have hfound := (classify_transient "vol-delete" pool (Host.category_eq Host.inactivePool)).1
  refine Body.Triple.perform_bind (fun _ _ _ => trivial) fun reply => ?_
  rintro lm' after ⟨before, ⟨rfl, hp⟩, hs⟩
  have hlookup : before.lookupVolume pool name = .error Host.inactivePool := by
    rw [Host.lookupVolume, Host.poolFailure, hp]
    simp [hinactive]
  have hrefused : before.deleteVolume pool name =
      (.error (classifyVirshError Host.inactivePool "vol-delete" pool), before) := by
    rw [Host.deleteVolume, hlookup]
    simp [ignoreNotFound, hfound]
  obtain ⟨rfl, rfl⟩ := Prod.mk.inj (hrefused.symm.trans hs)
  simp only [hfound, Bool.false_eq_true, if_false]
  rfl

theorem deleteAdditionalDisks_halts (hinactive : p.active = false) {disks : List AdditionalDiskSpec}
    (hdisk : ∃ disk ∈ disks, pool = disk.storagePool) :
    BesidePool newUUID answers lm pool p (deleteAdditionalDisks scope disks) (fun _ _ => False) := by
  induction disks with
  | nil =>
    obtain ⟨disk, hmem, -⟩ := hdisk
    cases hmem
  | cons first rest ih =>
    by_cases hfirst : pool = first.storagePool
    · subst hfirst
      refine Body.Triple.bind (deleteVolume_halts hinactive _ _) fun _ => ?_
      exact fun _ _ hfalse => hfalse.elim
    · refine Body.Triple.bind (deleteCall_besidePool fun before => deleteVolume_pool before _ _) fun _ => ?_
      obtain ⟨disk, hmem, heq⟩ := hdisk
      rcases List.mem_cons.mp hmem with rfl | hrest
      · exact absurd heq hfirst
      · exact ih ⟨disk, hrest, heq⟩

theorem cleanUp_halts (hinactive : p.active = false) (hpool : pool = deletionPool scope ∨
      ∃ disk ∈ scope.libvirtMachine.spec.additionalDisks, pool = disk.storagePool) :
    BesidePool newUUID answers lm pool p (cleanUp scope) (fun _ _ => False) := by
  have hnever (body : Unit → DeleteBody Unit) (value : Unit) : Body.Triple (working newUUID answers)
      (fun _ _ => True) (fun _ _ => False) (body value) (fun _ _ _ => False) (fun _ lm' _ => lm' = lm) :=
    fun _ _ h => h.elim
  refine Body.Triple.bind deleteDomain_besidePool fun _ => ?_
  rcases hpool with rfl | hdisk
  · exact Body.Triple.bind (deleteVolume_halts hinactive _ _) (hnever _)
  · refine Body.Triple.bind (deleteCall_besidePool fun before => deleteVolume_pool before _ _) fun _ => ?_
    refine Body.Triple.bind deleteBootstrapArtifacts_besidePool fun _ => ?_
    exact Body.Triple.bind (deleteAdditionalDisks_halts hinactive hdisk) (hnever _)

end Halting

section Destroyed

variable {newUUID : DomainXML → String} {pool : String} {start : Host}

def GoneWithVolumes (start : Host) (pool : String) (h : Host) : Prop :=
  h (.pool pool) = none → start (.pool pool) = none ∨ ∀ name, h (.volume pool name) = none

theorem unmount_apply (h : Host) (path : String) {key : Key} (hmount : key ≠ .mount path)
    (hfile : filesUnder path key = false) : h.unmount path key = h key := by
  unfold Host.unmount
  cases h (.mount path) with
  | none => rfl
  | some mounted => simp [hmount, hfile]

theorem destroyPool_apply {h : Host} {name : String} {key : Key} (hpool : h (.pool name) ≠ none)
    (hmount : ∀ path, key ≠ .mount path) (hfile : ∀ path, filesUnder path key = false) :
    (h.destroyPool name).2 key = (h.clear (volumesOf name)).erase (.pool name) key := by
  rw [Host.destroyPool]
  split
  · contradiction
  · dsimp only
    split
    · rfl
    · exact unmount_apply _ _ (hmount _) (hfile _)

theorem GoneWithVolumes.destroyPool {before : Host} (h : GoneWithVolumes start pool before) (name : String) :
    GoneWithVolumes start pool (before.destroyPool name).2 := by
  by_cases hpool : before (.pool name) = none
  · have hsame : (before.destroyPool name).2 = before := by rw [Host.destroyPool, hpool]
    rw [hsame]
    exact h
  have hkey (key : Key) (hmount : ∀ path, key ≠ .mount path) (hfile : ∀ path, filesUnder path key = false) :
      (before.destroyPool name).2 key = (before.clear (volumesOf name)).erase (.pool name) key :=
    destroyPool_apply hpool hmount hfile
  by_cases heq : pool = name
  · subst heq
    refine fun _ => .inr fun volume => ?_
    rw [hkey (.volume pool volume) (fun _ h => by cases h) fun _ => rfl]
    simp [volumesOf]
  · intro hnone
    rw [hkey (.pool pool) (fun _ h => by cases h) fun _ => rfl] at hnone
    refine (h ?_).imp_right fun hvolumes volume => ?_
    · simpa [heq, volumesOf] using hnone
    · rw [hkey (.volume pool volume) (fun _ h => by cases h) fun _ => rfl]
      simp [hvolumes volume]

theorem GoneWithVolumes.step {answers : (op : Op) → Reply op} {scope : MachineScope} {before after : Host}
    {op : Op} {reply : Reply op} (hop : DeleteOp scope op) (hs : working newUUID answers before op reply after)
    (h : GoneWithVolumes start pool before) : GoneWithVolumes start pool after := by
  have hhost := working_hostStep hs
  cases op with
  | client host call =>
    have hafter : (before.call newUUID call).2 = after := congrArg Prod.snd hs
    obtain ⟨-, hcall⟩ := hop
    have hbeside {prog : Prog shell (Except GoError call.Result)}
        (hdeletion : VirshClient.deletion call = some prog)
        (hpool : (before.call newUUID call).2 (.pool pool) = before (.pool pool)) :
        GoneWithVolumes start pool after := by
      have hshrinks := completes_shrinks (hhost.1 prog hdeletion)
      exact fun hnone => (h (hpool.symm.trans (hafter ▸ hnone))).imp_right fun hvolumes name =>
        hshrinks _ (hvolumes name)
    cases hcall with
    | destroyDomain => exact hbeside rfl (destroyDomain_pool before _)
    | undefineDomain => exact hbeside rfl (undefineDomain_pool before _)
    | deleteRoot => exact hbeside rfl (deleteVolume_pool before _ _)
    | deleteISO hformat => exact hbeside rfl (deleteVolume_pool before _ _)
    | deleteDisk disk hdisk => exact hbeside rfl (deleteVolume_pool before _ _)
    | deleteIgnition hformat =>
      have hfile : before.erase (.file scope.ignitionFilePath) (.pool pool) = before (.pool pool) :=
        before.erase_of_ne nofun
      exact hbeside rfl hfile
    | destroyPool heph =>
      rw [← hafter]
      exact h.destroyPool scope.ephemeralPoolName
  | getNode name =>
    obtain rfl : after = before := hhost
    exact h
  | deleteNode name =>
    intro hnone
    rw [hhost (.pool pool) fun _ => nofun] at hnone
    refine (h hnone).imp_right fun hvolumes volume => ?_
    rw [hhost (.volume pool volume) fun _ => nofun]
    exact hvolumes volume
  | _ => exact hop.elim

end Destroyed

section Reconcile

variable {newUUID : DomainXML → String} {deps : Deps} {answers : (op : Op) → Reply op}
  {scope : MachineScope} {h : Host}

theorem reconcileDelete_halts (hfree : Unhindered deps answers scope) {pool : String} {p : Pool}
    (hp : h (.pool pool) = some p) (hinactive : p.active = false) (hpool : pool = deletionPool scope ∨
      ∃ disk ∈ scope.libvirtMachine.spec.additionalDisks, pool = disk.storagePool) :
    Deleting newUUID deps answers scope h fun out _ => out.2.containsFinalizer = true :=
  reconcileDelete_stalls hfree (cleanUp_halts hinactive hpool scope.libvirtMachine h ⟨rfl, hp⟩)

theorem reconcileDelete_goneWithVolumes (hfree : Unhindered deps answers scope) (pool : String) :
    Deleting newUUID deps answers scope h fun _ => GoneWithVolumes h pool :=
  reconcileDelete_preserves hfree (fun hnone => .inl hnone) fun _ _ _ _ hb hop hs => hb.step hop hs

end Reconcile

-- On a ready host where commands fail only as the state of the host makes them, one
-- reconcileDelete of a machine on tmpfs removes its pool with the volumes and the finalizer
-- exactly when the domain is not shut off and no pool it looks for a volume in is inactive.
theorem ephemeral_deletion_completes_iff (newUUID : DomainXML → String) (deps : Deps)
    (answers : (op : Op) → Reply op) (scope : MachineScope) (h : Host)
    (hfinalizer : scope.libvirtMachine.containsFinalizer = true)
    (hready : scope.libvirtHost.ready = true) (havailable : ClientsAvailable deps answers scope.libvirtHost)
    (heph : scope.libvirtMachine.spec.rootDisk.ephemeralPool = true) :
    let out := run (virshMachine newUUID commandMachine answers)
      (reconcileDelete deps scope.libvirtMachine scope.cluster scope.libvirtHost) h
    (out.1.2.containsFinalizer = false ∧ out.2 (.pool scope.ephemeralPoolName) = none ∧
        ((h (.pool scope.ephemeralPoolName)).isSome = true →
          ∀ name, out.2 (.volume scope.ephemeralPoolName name) = none)) ↔
      (∀ d, h (.domain scope.domainName) = some d → d.running = true) ∧
        (∀ p, h (.pool scope.ephemeralPoolName) = some p → p.active = true) ∧
        ∀ disk ∈ scope.libvirtMachine.spec.additionalDisks, ∀ p,
          h (.pool disk.storagePool) = some p → p.active = true := by
  rw [virshMachine_commandMachine]
  intro out
  have hfree : Unhindered deps answers scope := ⟨hfinalizer, hready, havailable⟩
  have hpool : deletionPool scope = scope.ephemeralPoolName := if_pos heph
  constructor
  · rintro ⟨hremoved, -⟩
    have hhalts (name : String) (p : Pool) (hp : h (.pool name) = some p)
        (hname : name = deletionPool scope ∨
          ∃ disk ∈ scope.libvirtMachine.spec.additionalDisks, name = disk.storagePool) :
        p.active = true := by
      by_contra hinactive
      have hkept : out.1.2.containsFinalizer = true := (reconcileDelete_halts hfree
        hp (Bool.not_eq_true _ ▸ hinactive) hname).run
      exact Bool.noConfusion (hremoved.symm.trans hkept)
    exact ⟨running_of_removed hfree hremoved, fun p hp => hhalts _ p hp (.inl hpool.symm),
      fun disk hdisk p hp => hhalts _ p hp (.inr ⟨disk, hdisk, rfl⟩)⟩
  · rintro ⟨hrunning, hown, hdisks⟩
    have hactive : PoolsActive scope h := by
      rintro name (rfl | ⟨disk, hdisk, rfl⟩) p hp
      · exact hown p (hpool ▸ hp)
      · exact hdisks disk hdisk p hp
    obtain ⟨hremoved, hcleared⟩ := cleared_of_goesThrough hfree hactive hrunning
    have hgone : out.2 (.pool scope.ephemeralPoolName) = none :=
      hcleared (.pool scope.ephemeralPoolName) ⟨heph, rfl, not_false, not_false⟩
    have hvolumes : GoneWithVolumes h scope.ephemeralPoolName out.2 :=
      (reconcileDelete_goneWithVolumes hfree _).run
    refine ⟨hremoved, hgone, fun hdefined => ?_⟩
    rcases hvolumes hgone with hnone | hnames
    · rw [hnone] at hdefined
      cases hdefined
    · exact hnames

-- The deletion of a running machine on tmpfs, interrupted when the domain is undefined, its
-- fourth operation, and then a reboot of the host: the tmpfs is gone and the pool inactive.
def rebootedHost : Host :=
  let interrupted := (runFor (virshMachine sampleUUID commandMachine freshAnswer) 4
    (sampleDeletion ephemeralMachine) (provisioned ephemeralMachine).2).2
  ((interrupted.clear (volumesOf "ns-c-m-pool")).erase (.mount "/run/caplv/ns-c-m")).set
    (.pool "ns-c-m-pool") ⟨"/run/caplv/ns-c-m", false⟩

theorem inactive_pool_sticks :
    (provisioned ephemeralMachine).1.2.status.ready = true ∧
      (deletedScope ephemeralMachine).libvirtMachine.containsFinalizer = true ∧
      sampleHost.ready = true ∧ ClientsAvailable sampleDeps freshAnswer sampleHost ∧
      (deletedScope ephemeralMachine).libvirtMachine.spec.rootDisk.ephemeralPool = true ∧
      rebootedHost (.domain "ns-c-m") = none ∧
      let out := run (virshMachine sampleUUID commandMachine freshAnswer)
        (sampleDeletion ephemeralMachine) rebootedHost
      out.1.2.containsFinalizer = true ∧ (out.2 (.pool "ns-c-m-pool")).isSome = true ∧
        out.1.1.2 = some (.wrap "failed to delete root disk"
          (classifyVirshError Host.inactivePool "vol-delete" "ns-c-m-pool")) :=
  ⟨rfl, rfl, rfl, ⟨⟨_, _, rfl, rfl⟩, ⟨_, rfl⟩, rfl⟩, rfl, rfl, by decide +kernel⟩

theorem ephemeral_deletion_completes_running :
    let out := run (virshMachine sampleUUID commandMachine freshAnswer)
      (sampleDeletion ephemeralMachine) (provisioned ephemeralMachine).2
    out.1.2.containsFinalizer = false ∧ out.2 (.pool "ns-c-m-pool") = none ∧
      out.2 (.volume "ns-c-m-pool" "ns-c-m-root.qcow2") = none := by
  have hrunning (d : Domain) (hd : (provisioned ephemeralMachine).2 (.domain "ns-c-m") = some d) :
      d.running = true := by
    obtain rfl : _ = d := Option.some.inj hd
    rfl
  have hactive (p : Pool) (hp : (provisioned ephemeralMachine).2 (.pool "ns-c-m-pool") = some p) :
      p.active = true := by
    obtain rfl : _ = p := Option.some.inj hp
    rfl
  have hout := (ephemeral_deletion_completes_iff sampleUUID sampleDeps freshAnswer
    (deletedScope ephemeralMachine) (provisioned ephemeralMachine).2 rfl rfl
    ⟨⟨_, _, rfl, rfl⟩, ⟨_, rfl⟩, rfl⟩ rfl).mpr ⟨hrunning, hactive, fun _ hdisk => nomatch hdisk⟩
  exact ⟨hout.1, hout.2.1, hout.2.2 rfl _⟩

end Caplv.Controller

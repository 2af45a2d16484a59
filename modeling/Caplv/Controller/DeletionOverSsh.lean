import Caplv.Controller.OnStation

namespace Caplv.Controller

open Text Api Libvirt Scope Program

section Names

variable {scope : MachineScope}

-- The two hyphens of the base name are its shortest text, so what follows it makes no option of it.
theorem positional_append (hbase : Positional scope.artifactBaseName) (rest : String) :
    Positional (scope.artifactBaseName ++ rest) := by
  have hlength : 2 ≤ scope.artifactBaseName.toList.length := by
    simp [MachineScope.artifactBaseName, baseName]
    omega
  rw [Positional, isOption, hasPrefix] at hbase ⊢
  rw [String.toList_append]
  generalize scope.artifactBaseName.toList = chars at hbase hlength
  rcases chars with _ | ⟨first, _ | ⟨second, others⟩⟩
  · cases hlength
  · exact absurd hlength (by simp)
  · exact hbase

theorem positional_additionalDisk (hbase : Positional scope.artifactBaseName) (disk : AdditionalDiskSpec) :
    Positional (scope.additionalDiskVolumeName disk) := by
  rw [MachineScope.additionalDiskVolumeName, String.append_assoc, String.append_assoc]
  exact positional_append hbase _

theorem temporary_ignitionFilePath : temporary scope.ignitionFilePath = false := by
  rw [temporary, hasPrefix, MachineScope.ignitionFilePath, String.toList_append, String.toList_append]
  rfl

end Names

section Readiness

variable {daemon : Daemon} {answers : (op : Op) → Reply op} {scope : MachineScope} {h : Host}

-- What the commands of a cleanup rely on: the path of the pool can be read from its definition,
-- and nothing is mounted where the ignition file goes.
structure Deletable (scope : MachineScope) (h : Host) : Prop where
  poolPath : ∀ p, h (.pool scope.ephemeralPoolName) = some p → Xml.escape p.path = p.path.toList
  unmounted : h (.mount scope.ignitionFilePath) = none

def Fades (key : Key) (before after : Host) : Prop := after key = before key ∨ after key = none

theorem Fades.trans {key : Key} {before middle after : Host} (hfirst : Fades key before middle)
    (hsecond : Fades key middle after) : Fades key before after := by
  rcases hsecond with hsame | hgone
  · rw [Fades, hsame]
    exact hfirst
  · exact .inr hgone

theorem erase_fades (h : Host) (key other : Key) : Fades other h (h.erase key) := by
  by_cases hother : other = key
  · subst hother
    exact .inr (h.erase_self other)
  · exact .inl (h.erase_of_ne hother)

theorem clear_fades (h : Host) (region : Key → Bool) (key : Key) : Fades key h (h.clear region) := by
  rw [Fades, Host.clear_apply]
  split
  · exact .inr rfl
  · exact .inl rfl

theorem unmount_fades (h : Host) (path : String) (key : Key) : Fades key h (h.unmount path) := by
  unfold Host.unmount
  cases h (.mount path) with
  | none => exact .inl rfl
  | some mounted => exact (clear_fades h _ key).trans (erase_fades _ _ key)

theorem destroyPool_fades (h : Host) (name : String) (key : Key) : Fades key h (h.destroyPool name).2 := by
  have hundefined : Fades key h ((h.clear (volumesOf name)).erase (.pool name)) :=
    (clear_fades h _ key).trans (erase_fades _ _ key)
  rw [Host.destroyPool]
  split
  · exact .inl rfl
  · dsimp only
    split
    · exact hundefined
    · exact hundefined.trans (unmount_fades _ _ key)

theorem deleteCall_fades {call : ClientCall} (hcall : DeleteCall scope call) {key : Key}
    (hdomain : ∀ name, key ≠ .domain name) : Fades key h (h.call daemon.newUUID call).2 := by
  have hdelete (pool name : String) : Fades key h (h.deleteVolume pool name).2 := by
    rw [Host.deleteVolume]
    split
    · exact .inl rfl
    · exact erase_fades h _ key
  cases hcall with
  | destroyDomain =>
    change Fades key h (h.destroyDomain scope.domainName).2
    rw [Host.destroyDomain]
    split
    · exact .inl rfl
    · split
      · exact .inl (h.set_of_ne _ (hdomain _))
      · exact .inl rfl
  | undefineDomain =>
    change Fades key h (h.undefineDomain scope.domainName).2
    rw [Host.undefineDomain]
    split
    · exact .inl rfl
    · split
      · exact .inl rfl
      · exact erase_fades h _ key
  | deleteRoot => exact hdelete _ _
  | deleteIgnition hformat => exact erase_fades h _ key
  | deleteISO hformat => exact hdelete _ _
  | deleteDisk disk hdisk => exact hdelete _ _
  | destroyPool heph => exact destroyPool_fades h _ key

theorem Deletable.fades {after : Host} (hstate : Deletable scope h)
    (hpool : Fades (.pool scope.ephemeralPoolName) h after)
    (hmount : Fades (.mount scope.ignitionFilePath) h after) : Deletable scope after := by
  refine ⟨fun p hp => ?_, ?_⟩
  · rcases hpool with hsame | hgone
    · exact hstate.poolPath p (hsame.symm.trans hp)
    · cases hgone.symm.trans hp
  · rcases hmount with hsame | hgone
    · exact hsame.trans hstate.unmounted
    · exact hgone

theorem deleteCall_ready (hbase : Positional scope.artifactBaseName) (hstate : Deletable scope h)
    {call : ClientCall} (hcall : DeleteCall scope call) : Ready daemon h call := by
  cases hcall with
  | destroyDomain => exact hbase
  | undefineDomain => exact hbase
  | deleteRoot => exact positional_append hbase _
  | deleteIgnition hformat => exact ⟨temporary_ignitionFilePath, hstate.unmounted⟩
  | deleteISO hformat => exact positional_append hbase _
  | deleteDisk disk hdisk => exact positional_additionalDisk hbase disk
  | destroyPool heph => exact ⟨positional_append hbase _, hstate.poolPath⟩

theorem cleanupOp_ready (hbase : Positional scope.artifactBaseName) (hstate : Deletable scope h) {op : Op}
    (hop : CleanupOp scope op) : ReadyOp daemon h op := by
  cases op with
  | client host call =>
    rcases hop with hread | ⟨-, hcall⟩
    · exact hread.elim
    · exact deleteCall_ready hbase hstate hcall
  | _ => trivial

theorem cleanupOp_deletable (hstate : Deletable scope h) {op : Op} (hop : CleanupOp scope op) :
    Deletable scope (hostAnswer daemon.newUUID answers h op).2 := by
  cases op with
  | client host call =>
    rcases hop with hread | ⟨-, hcall⟩
    · exact hread.elim
    · exact hstate.fades (deleteCall_fades hcall (by simp)) (deleteCall_fades hcall (by simp))
  | getNode name =>
    rw [hostAnswer]
    split <;> exact hstate
  | deleteNode name =>
    rw [hostAnswer]
    split
    · exact hstate.fades (erase_fades h _ _) (erase_fades h _ _)
    · exact hstate
  | patchNode name node => rcases hop with hread | hdelete <;> contradiction
  | _ => exact hstate

theorem reconcileDelete_ready (deps : Deps) (hbase : Positional scope.artifactBaseName)
    (hstate : Deletable scope h) :
    Holds (hostMachine daemon.newUUID answers).handler (ReadyOp daemon) (fun _ _ => True)
      (reconcileDelete deps scope.libvirtMachine scope.cluster scope.libvirtHost) h := by
  have hemits : Emits anyReply (CleanupOp scope) (fun _ => True)
      (reconcileDelete deps scope.libvirtMachine scope.cluster scope.libvirtHost) := reconcileDelete_emits deps scope
  refine (hemits.holds hstate (fun before op hbefore hop => cleanupOp_ready hbase hbefore hop)
    fun before op reply after hbefore hop hstep => ⟨trivial, ?_⟩).post_mono fun _ _ _ => trivial
  obtain rfl := (Prod.ext_iff.mp hstep).2
  exact cleanupOp_deletable hbefore hop

end Readiness

-- Nothing is left of the machine on the host behind SSH, in the pools its deletion looks in.
structure Site.FreeOf (site : Site) (scope : MachineScope) : Prop where
  domain : site.station.domains scope.domainName = none
  volumes : ∀ pool name, CleanedUp (fun _ => False) scope (.volume pool name) →
    site.station.pools pool = none ∨ site.station.volumes pool name = none
  ignition : scope.libvirtMachine.spec.bootstrapFormat = .ignition →
    site.station.files scope.ignitionFilePath = none
  pool : scope.libvirtMachine.spec.rootDisk.ephemeralPool = true →
    site.station.pools scope.ephemeralPoolName = none

theorem Site.Represents.freeOf {scope : MachineScope} {site : Site} {h : Host} (hrep : site.Represents h)
    (hcleared : Cleared (CleanedUp (fun _ => False) scope) h) : site.FreeOf scope where
  domain := (hrep.station.domains _).trans (hcleared (.domain _) rfl)
  volumes pool name hvolume := by
    rcases hcleared (.volume pool name) hvolume with hpool | hgone
    · exact .inl ((hrep.station.pools pool).trans hpool)
    · right
      rw [hrep.station.volumes, hgone]
      rfl
  ignition hformat :=
    (hrep.station.files _ temporary_ignitionFilePath).trans (hcleared (.file _) ⟨hformat, rfl, not_false⟩)
  pool heph := (hrep.station.pools _).trans (hcleared (.pool _) ⟨heph, rfl, not_false, not_false⟩)

-- A deletion carried out in commands over SSH comes to the result that the calls of the client
-- come to on the abstract host. Where it lets the object go, nothing of the machine is left there.
theorem deletion_over_ssh (daemon : Daemon) (answers : (op : Op) → Reply op) (deps : Deps) (scope : MachineScope)
    (site : Site) (h : Host) (hrep : site.Represents h) (hbase : Positional scope.artifactBaseName)
    (hstate : Deletable scope h) (hfinalizer : scope.libvirtMachine.containsFinalizer = true) :
    let deletion := reconcileDelete deps scope.libvirtMachine scope.cluster scope.libvirtHost
    let out := run (hostMachine daemon.newUUID answers) deletion h
    ∃ after, run (siteMachine daemon answers) (deletion.relay (overSSH daemon.uri)) site = (.ok out.1, after) ∧
      after.Represents out.2 ∧ (out.1.2.containsFinalizer = false → after.FreeOf scope) := by
  intro deletion out
  have hready : Holds (hostMachine daemon.newUUID answers).handler (ReadyOp daemon) (fun _ _ => True) deletion h :=
    reconcileDelete_ready deps hbase hstate
  obtain ⟨after, hrun, hafter⟩ := run_overSSH hrep hready
  refine ⟨after, hrun, hafter, fun hremoved => hafter.freeOf ?_⟩
  have hcleans : Holds (hostStep daemon.newUUID fun _ => False) (fun _ _ => True)
      (fun out after => out.2.containsFinalizer = false → Cleared (CleanedUp (fun _ => False) scope) after)
      deletion h := reconcileDelete_cleans hfinalizer h
  exact (hcleans.mono (fun _ _ _ _ => working_hostStep) (fun _ _ hop => hop) fun _ _ hpost => hpost).run hremoved

theorem deletable_provisioned : Deletable (deletedScope ephemeralMachine) (provisioned ephemeralMachine).2 where
  poolPath p hp := by
    obtain rfl : (⟨"/run/caplv/ns-c-m", true⟩ : Pool) = p := Option.some.inj hp
    rfl
  unmounted := rfl

theorem deletion_over_ssh_ephemeral :
    ∃ out after, run (siteMachine sampleDaemon freshAnswer)
        ((sampleDeletion ephemeralMachine).relay (overSSH "qemu:///system"))
        (siteOf (provisioned ephemeralMachine).2) = (.ok out, after) ∧
      out.2.containsFinalizer = false ∧ after.FreeOf (deletedScope ephemeralMachine) := by
  obtain ⟨after, hrun, -, hfree⟩ := deletion_over_ssh sampleDaemon freshAnswer sampleDeps
    (deletedScope ephemeralMachine) (siteOf (provisioned ephemeralMachine).2) (provisioned ephemeralMachine).2
    (siteOf_represents _) rfl deletable_provisioned rfl
  exact ⟨_, after, hrun, rfl, hfree rfl⟩

end Caplv.Controller

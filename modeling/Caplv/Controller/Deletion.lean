import Caplv.Controller.OnHost
import Caplv.Controller.World

namespace Caplv.Controller

open Text Api Libvirt Scope Program

section Cleanup

variable {newUUID : DomainXML → String} {mayFail : Command → Prop} {scope : MachineScope}
  {targets : Key → Prop}

def Cleared (targets : Key → Prop) (h : Host) : Prop := ∀ key, targets key → h.Absent key

theorem Cleared.shrinks {before after : Host} (h : Cleared targets before)
    (hshrinks : Shrinks before after) : Cleared targets after :=
  fun key hkey => (h key hkey).shrinks hshrinks

theorem completes_shrinks {α : Type} {prog : Prog shell α} {before after : Host} {value : α}
    (h : Completes (commandStep mayFail) prog before value after) : Shrinks before after := by
  obtain ⟨events, hexec⟩ := h
  generalize Prog.done value = rest at hexec
  induction hexec with
  | refl => exact fun _ hnone => hnone
  | ask hstep _ ih => exact fun key hnone => ih key (commandStep_shrinks hstep key hnone)

-- A step of the cleanup on the host: `post` holds when it goes on to the next.
abbrev Cleans (newUUID : DomainXML → String) (mayFail : Command → Prop) (pre : Host → Prop)
    (body : DeleteBody Unit) (post : Host → Prop) : Prop :=
  Body.Triple (hostStep newUUID mayFail) (fun _ _ => True) (fun _ => pre) body
    (fun _ _ => post) (fun _ _ _ => True)

theorem deleteCall_cleans {host : LibvirtHost} {call : ClientCall} {what : String}
    {pre post : Host → Prop}
    (hcall : ∀ before reply after, pre before → clientStep newUUID mayFail before call reply after →
      (∀ err, reply = .error err → err.isNotFound = false) ∧ ∀ value, reply = .ok value → post after) :
    Cleans newUUID mayFail pre (deleteCall host call what) post := by
  refine Body.Triple.bind (Body.Triple.perform (fun _ _ _ => trivial)
    fun _ before reply after hpre hstep => hcall before reply after hpre hstep) fun reply => ?_
  cases reply with
  | ok value => exact Body.Triple.pure fun _ _ h => h.2 value rfl
  | error err =>
    refine Body.Triple.ite (fun hn => Body.Triple.pure fun _ _ h => ?_) fun _ =>
      Body.Triple.leave fun _ _ _ => trivial
    exact Bool.noConfusion (hn.symm.trans (h.1 err rfl))

theorem deleteDomain_cleans :
    Cleans newUUID mayFail (fun _ => True) (deleteDomain scope)
      (Cleared fun key => key = .domain scope.domainName) := by
  have hdestroy : Cleans newUUID mayFail (fun _ => True)
      (deleteCall scope.libvirtHost (.destroyDomain scope.domainName) "failed to destroy domain")
      (Stopped scope.domainName) := by
    refine deleteCall_cleans fun before reply after _ hstep => ?_
    obtain ⟨-, herror, hok⟩ := (destroyDomain_holds before scope.domainName).completes (hstep.1 _ rfl)
    exact ⟨herror, fun value hvalue => hok hvalue⟩
  refine hdestroy.bind fun _ => deleteCall_cleans fun before reply after hstopped hstep => ?_
  obtain ⟨-, herror, hok⟩ := (undefineDomain_holds before scope.domainName hstopped).completes (hstep.1 _ rfl)
  refine ⟨herror, fun value hvalue key hkey => ?_⟩
  rw [hkey]
  exact hok hvalue

theorem deleteVolume_cleans (pool name what : String) :
    Cleans newUUID mayFail (Cleared targets)
      (deleteCall scope.libvirtHost (.deleteVolume pool name) what)
      (Cleared fun key => targets key ∨ key = .volume pool name) := by
  refine deleteCall_cleans fun before reply after hpre hstep => ?_
  obtain ⟨hshrinks, herror, hok⟩ := (deleteVolume_holds before pool name).completes (hstep.1 _ rfl)
  refine ⟨herror, fun value hvalue key hkey => ?_⟩
  rcases hkey with hkey | rfl
  · exact hpre.shrinks hshrinks key hkey
  · exact hok hvalue

theorem deleteBootstrapArtifacts_cleans :
    Cleans newUUID mayFail (Cleared targets) (deleteBootstrapArtifacts scope)
      (Cleared fun key => targets key ∨
        (scope.libvirtMachine.spec.bootstrapFormat = .cloudInit ∧
          key = .volume (deletionPool scope) scope.bootstrapISOName) ∨
        (scope.libvirtMachine.spec.bootstrapFormat = .ignition ∧
          key = .file scope.ignitionFilePath ∧ ¬ mayFail (.rm scope.ignitionFilePath))) := by
  rw [deleteBootstrapArtifacts]
  split
  · rename_i hformat
    refine Body.Triple.bind (Body.Triple.perform (fun _ _ _ => trivial) ?_) fun _ =>
      Body.Triple.pure fun _ _ h => h
    intro _ before reply after hpre hstep key hkey
    obtain ⟨hshrinks, hgone⟩ := (deleteRemoteFile_holds before scope.ignitionFilePath).completes (hstep.1 _ rfl)
    rcases hkey with hkey | ⟨hformat', -⟩ | ⟨-, rfl, hcannot⟩
    · exact hpre.shrinks hshrinks key hkey
    · cases hformat.symm.trans hformat'
    · exact hgone hcannot
  · rename_i hformat
    refine (deleteVolume_cleans _ _ _).mono (fun _ _ h hcleared key hkey => ?_) fun _ _ _ h => h
    rcases hkey with hkey | ⟨-, hkey⟩ | ⟨hformat', -⟩
    · exact hcleared key (.inl hkey)
    · exact hcleared key (.inr hkey)
    · cases hformat.symm.trans hformat'
  · rename_i format hformat
    refine Body.Triple.pure fun _ h hcleared key hkey => ?_
    rcases hkey with hkey | ⟨hformat', -⟩ | ⟨hformat', -⟩
    · exact hcleared key hkey
    · cases hformat.symm.trans hformat'
    · cases hformat.symm.trans hformat'

theorem deleteAdditionalDisks_cleans (disks : List AdditionalDiskSpec) :
    Cleans newUUID mayFail (Cleared targets) (deleteAdditionalDisks scope disks)
      (Cleared fun key => targets key ∨
        ∃ disk ∈ disks, key = .volume disk.storagePool (scope.additionalDiskVolumeName disk)) := by
  induction disks generalizing targets with
  | nil =>
    refine Body.Triple.pure fun _ h hcleared key hkey => ?_
    rcases hkey with hkey | ⟨disk, hdisk, -⟩
    · exact hcleared key hkey
    · cases hdisk
  | cons disk rest ih =>
    refine Body.Triple.bind (deleteVolume_cleans _ _ _) fun _ => ?_
    refine ih.mono (fun _ _ h hcleared key hkey => hcleared key ?_) fun _ _ _ h => h
    rcases hkey with hkey | ⟨other, hother, rfl⟩
    · exact .inl (.inl hkey)
    · rcases List.mem_cons.mp hother with rfl | hrest
      · exact .inl (.inr rfl)
      · exact .inr ⟨other, hrest, rfl⟩

theorem deleteEphemeralPool_cleans :
    Cleans newUUID mayFail (Cleared targets) (deleteEphemeralPool scope)
      (Cleared fun key => targets key ∨
        (scope.libvirtMachine.spec.rootDisk.ephemeralPool = true ∧ key = .pool scope.ephemeralPoolName ∧
          ¬ mayFail (.poolDestroy scope.ephemeralPoolName) ∧
          ¬ mayFail (.poolUndefine scope.ephemeralPoolName))) := by
  refine Body.Triple.ite (fun heph => deleteCall_cleans fun before reply after hpre hstep => ?_)
    fun heph => Body.Triple.pure fun _ h hcleared key hkey => ?_
  · obtain ⟨hshrinks, herror, hok⟩ :=
      (destroyPool_holds before scope.ephemeralPoolName).completes (hstep.1 _ rfl)
    refine ⟨herror, fun value hvalue key hkey => ?_⟩
    rcases hkey with hkey | ⟨-, rfl, hdestroy, hundefine⟩
    · exact hpre.shrinks hshrinks key hkey
    · exact hok hvalue hdestroy hundefine
  · exact hcleared key (hkey.resolve_right fun h => heph h.1)

theorem deleteNodeObject_cleans (hnode : ∀ name, ¬ targets (.node name)) (nodeName : String) :
    Cleans newUUID mayFail (Cleared targets) (deleteNodeObject nodeName) (Cleared targets) := by
  have hget : Body.Triple (hostStep newUUID mayFail) (fun _ _ => True) (fun _ => Cleared targets)
      (issue (.getNode nodeName) : DeleteBody _) (fun _ _ => Cleared targets) (fun _ _ _ => True) := by
    refine Body.Triple.perform (fun _ _ _ => trivial) ?_
    rintro _ before reply after hpre (rfl : after = before)
    exact hpre
  refine hget.bind fun node => ?_
  cases node with
  | error err => exact Body.Triple.pure fun _ _ h => h
  | ok node =>
    refine Body.Triple.bind (Body.Triple.perform (fun _ _ _ => trivial) ?_) fun _ =>
      Body.Triple.pure fun _ _ h => h
    intro _ before reply after hpre hkept key hkey
    have habsent := hpre key hkey
    cases key with
    | node name => exact absurd hkey (hnode name)
    | volume pool name =>
      have hpool := hkept (.pool pool) fun _ => nofun
      have hvolume := hkept (.volume pool name) fun _ => nofun
      exact habsent.imp hpool.trans hvolume.trans
    | domain name => exact (hkept (.domain name) fun _ => nofun).trans habsent
    | pool name => exact (hkept (.pool name) fun _ => nofun).trans habsent
    | mount path => exact (hkept (.mount path) fun _ => nofun).trans habsent
    | file path => exact (hkept (.file path) fun _ => nofun).trans habsent

def CleanedUp (mayFail : Command → Prop) (scope : MachineScope) : Key → Prop
  | .domain name => name = scope.domainName
  | .volume pool name =>
    (pool = deletionPool scope ∧ name = scope.rootDiskVolumeName) ∨
    (scope.libvirtMachine.spec.bootstrapFormat = .cloudInit ∧ pool = deletionPool scope ∧
      name = scope.bootstrapISOName) ∨
    ∃ disk ∈ scope.libvirtMachine.spec.additionalDisks,
      pool = disk.storagePool ∧ name = scope.additionalDiskVolumeName disk
  | .file path =>
    scope.libvirtMachine.spec.bootstrapFormat = .ignition ∧ path = scope.ignitionFilePath ∧
      ¬ mayFail (.rm path)
  | .pool name =>
    scope.libvirtMachine.spec.rootDisk.ephemeralPool = true ∧ name = scope.ephemeralPoolName ∧
      ¬ mayFail (.poolDestroy name) ∧ ¬ mayFail (.poolUndefine name)
  | _ => False

theorem cleanUp_cleans :
    Cleans newUUID mayFail (fun _ => True) (cleanUp scope) (Cleared (CleanedUp mayFail scope)) := by
  refine Body.Triple.bind deleteDomain_cleans fun _ => ?_
  refine Body.Triple.bind (deleteVolume_cleans _ _ _) fun _ => ?_
  refine Body.Triple.bind deleteBootstrapArtifacts_cleans fun _ => ?_
  refine Body.Triple.bind (deleteAdditionalDisks_cleans _) fun _ => ?_
  refine Body.Triple.bind deleteEphemeralPool_cleans fun _ => ?_
  refine (deleteNodeObject_cleans ?_ _).mono (fun _ _ h hcleared key hkey => hcleared key ?_)
    fun _ _ _ h => h
  · simp
  · cases key with
    | domain name =>
      obtain rfl := hkey
      exact .inl (.inl (.inl (.inl rfl)))
    | volume pool name =>
      rcases hkey with ⟨rfl, rfl⟩ | ⟨hformat, rfl, rfl⟩ | ⟨disk, hdisk, rfl, rfl⟩
      · exact .inl (.inl (.inl (.inr rfl)))
      · exact .inl (.inl (.inr (.inl ⟨hformat, rfl⟩)))
      · exact .inl (.inr ⟨disk, hdisk, rfl⟩)
    | file path =>
      obtain ⟨hformat, rfl, hcannot⟩ := hkey
      exact .inl (.inl (.inr (.inr ⟨hformat, rfl, hcannot⟩)))
    | pool name =>
      obtain ⟨heph, rfl, hcannot⟩ := hkey
      exact .inr ⟨heph, rfl, hcannot⟩
    | mount path => exact hkey.elim
    | node name => exact hkey.elim

theorem reconcileDelete_cleans {deps : Deps} {lm : LibvirtMachine} {cluster : Cluster}
    {host : LibvirtHost} (hfinalizer : lm.containsFinalizer = true) (before : Host) :
    Holds (hostStep newUUID mayFail) (fun _ _ => True)
      (fun out after => out.2.containsFinalizer = false →
        Cleared (CleanedUp mayFail ⟨cluster, lm, host⟩) after)
      (reconcileDelete deps lm cluster host) before := by
  have hkeeps : Body.Keeps anyReply (DeleteOp ⟨cluster, lm, host⟩) (· = lm) (cleanUp _) := cleanUp_keeps
  have hclients (h : Host) : Holds (hostStep newUUID mayFail) (fun _ _ => True) (fun _ _ => True)
      (createClients deps host) h :=
    ((createClients_emits deps host).holds trivial (fun _ _ _ _ => trivial)
      fun _ _ _ _ _ _ _ => ⟨trivial, trivial⟩).post_mono fun _ _ _ => trivial
  have hkept (lm' : LibvirtMachine) (hsame : lm'.containsFinalizer = true) (after : Host)
      (hgone : lm'.containsFinalizer = false) :
      Cleared (CleanedUp mayFail ⟨cluster, lm, host⟩) after :=
    Bool.noConfusion (hgone.symm.trans hsame)
  refine reconcileDelete_holds_of_cleanUp (fun _ => True) (fun _ _ => True)
    (fun _ _ h _ => hkept lm hfinalizer h) (fun _ _ _ h _ => hkept _ hfinalizer h)
    (fun h _ => hclients h) (fun _ _ _ h _ => hkept _ hfinalizer h) (fun h _ => ?_) trivial
  refine ((cleanUp_cleans.keeping hkeeps) lm h ⟨trivial, rfl⟩).post_mono ?_
  rintro ⟨out, lm'⟩ after hout
  cases out with
  | ok _ => exact fun _ => hout.1
  | error ret =>
    obtain ⟨-, rfl⟩ := hout
    exact hkept _ hfinalizer after

end Cleanup

-- Whatever commands fail, a reconcileDelete that removes the finalizer has removed the
-- domain and, from the pools it looks in, every volume. The ignition file and the ephemeral
-- pool are gone unless the commands whose errors are ignored failed.
theorem finalizer_removed_after_cleanup (newUUID : DomainXML → String) (mayFail : Command → Prop)
    (deps : Deps) (scope : MachineScope) (before after : Host) (ret : Return) (lm' : LibvirtMachine)
    (hrun : Completes (hostStep newUUID mayFail)
      (reconcileDelete deps scope.libvirtMachine scope.cluster scope.libvirtHost) before (ret, lm') after)
    (hfinalizer : scope.libvirtMachine.containsFinalizer = true)
    (hremoved : lm'.containsFinalizer = false) :
    after.Absent (.domain scope.domainName) ∧
      after.Absent (.volume (deletionPool scope) scope.rootDiskVolumeName) ∧
      (scope.libvirtMachine.spec.bootstrapFormat = .cloudInit →
        after.Absent (.volume (deletionPool scope) scope.bootstrapISOName)) ∧
      (∀ disk ∈ scope.libvirtMachine.spec.additionalDisks,
        after.Absent (.volume disk.storagePool (scope.additionalDiskVolumeName disk))) ∧
      (scope.libvirtMachine.spec.bootstrapFormat = .ignition →
        ¬ mayFail (.rm scope.ignitionFilePath) → after.Absent (.file scope.ignitionFilePath)) ∧
      (scope.libvirtMachine.spec.rootDisk.ephemeralPool = true →
        ¬ mayFail (.poolDestroy scope.ephemeralPoolName) →
        ¬ mayFail (.poolUndefine scope.ephemeralPoolName) →
          after.Absent (.pool scope.ephemeralPoolName)) := by
  have hgone := (reconcileDelete_cleans hfinalizer before).completes hrun hremoved
  refine ⟨hgone (.domain _) rfl, hgone (.volume _ _) (.inl ⟨rfl, rfl⟩), fun hformat => ?_,
    fun disk hdisk => ?_, fun hformat hcannot => ?_, fun heph hdestroy hundefine => ?_⟩
  · exact hgone (.volume _ _) (.inr (.inl ⟨hformat, rfl, rfl⟩))
  · exact hgone (.volume _ _) (.inr (.inr ⟨disk, hdisk, rfl, rfl⟩))
  · exact hgone (.file _) ⟨hformat, rfl, hcannot⟩
  · exact hgone (.pool _) ⟨heph, rfl, hdestroy, hundefine⟩

def bareHost : Host :=
  Host.set (Host.set (fun _ => none) (.pool "default") ⟨"/data", true⟩)
    (.volume "default" "base") (.image [] 0)

def sampleUUID (xmlDef : DomainXML) : String := "uuid-" ++ xmlDef.name

def ephemeralMachine : LibvirtMachine :=
  { sampleMachine with
    spec := { sampleMachine.spec with
      rootDisk := { sampleMachine.spec.rootDisk with ephemeralPool := true } } }

def provisioned (lm : LibvirtMachine) : (Return × LibvirtMachine) × Host :=
  run (hostMachine sampleUUID freshAnswer) (reconcileNormal sampleDeps lm sampleOwner
    sampleCluster sampleLibvirtCluster sampleHost) bareHost

theorem provisioned_completes (lm : LibvirtMachine) :
    Completes (hostMachine sampleUUID freshAnswer).handler (reconcileNormal sampleDeps lm sampleOwner
      sampleCluster sampleLibvirtCluster sampleHost) bareHost ((provisioned lm).1.1, (provisioned lm).1.2)
      (provisioned lm).2 := run_exec _ _ _

def deletedScope (lm : LibvirtMachine) : MachineScope :=
  ⟨sampleCluster, { (provisioned lm).1.2 with deletionTimestamp := true }, sampleHost⟩

def sampleDeletion (lm : LibvirtMachine) : Prog signature (Return × LibvirtMachine) :=
  reconcileDelete sampleDeps (deletedScope lm).libvirtMachine (deletedScope lm).cluster
    (deletedScope lm).libvirtHost

def stubbornCommands : Machine shell Host := fun h cmd =>
  match cmd with
  | .rm _ | .umount _ | .poolUndefine _ => (.error (.exit "error: resource busy" "exit status 1"), h)
  | cmd => h.execute cmd

def deletionRun (commands : Machine shell Host) : (Return × LibvirtMachine) × Host :=
  run (virshMachine sampleUUID commands freshAnswer) (sampleDeletion ephemeralMachine)
    (provisioned ephemeralMachine).2

theorem stubbornCommands_commandStep {before after : Host} {cmd : Command}
    {reply : Except Failure String} (h : stubbornCommands.handler before cmd reply after) :
    commandStep (fun _ => True) before cmd reply after := by
  cases cmd with
  | rm path =>
    obtain ⟨rfl, rfl⟩ := Prod.mk.inj h
    exact .inr ⟨trivial, rfl, _, rfl, rfl⟩
  | umount path =>
    obtain ⟨rfl, rfl⟩ := Prod.mk.inj h
    exact .inr ⟨trivial, rfl, _, rfl, rfl⟩
  | poolUndefine name =>
    obtain ⟨rfl, rfl⟩ := Prod.mk.inj h
    exact .inr ⟨trivial, rfl, _, rfl, rfl⟩
  | _ => exact .inl h

theorem deletionRun_completes {commands : Machine shell Host} {mayFail : Command → Prop}
    (hcommands : ∀ before cmd reply after, commands.handler before cmd reply after →
      commandStep mayFail before cmd reply after) :
    Completes (hostStep sampleUUID mayFail) (sampleDeletion ephemeralMachine)
      (provisioned ephemeralMachine).2 (deletionRun commands).1 (deletionRun commands).2 := by
  obtain ⟨events, hexec⟩ := run_exec (virshMachine sampleUUID commands freshAnswer)
    (sampleDeletion ephemeralMachine) (provisioned ephemeralMachine).2
  have htrue : (fun _ : Host => True) (provisioned ephemeralMachine).2 := trivial
  exact ⟨events, hexec.strengthen htrue fun _ _ _ _ _ hs =>
    ⟨virshMachine_hostStep hcommands hs, trivial⟩⟩

-- A machine that was provisioned completely: its deletion removes the finalizer although the
-- ignition file and the ephemeral pool are still there.
theorem deletion_leaves_artifacts :
    (provisioned ephemeralMachine).1.2.status.ready = true ∧
      ∃ ret lm' after, Completes (hostStep sampleUUID fun _ => True)
        (sampleDeletion ephemeralMachine) (provisioned ephemeralMachine).2 (ret, lm') after ∧
        (deletedScope ephemeralMachine).libvirtMachine.containsFinalizer = true ∧
        lm'.containsFinalizer = false ∧
        (after (.file (deletedScope ephemeralMachine).ignitionFilePath)).isSome = true ∧
        (after (.pool (deletedScope ephemeralMachine).ephemeralPoolName)).isSome = true :=
  ⟨rfl, _, _, _, deletionRun_completes fun _ _ _ _ => stubbornCommands_commandStep, rfl, rfl, rfl, rfl⟩

theorem finalizer_removed_after_cleanup_sample :
    (deletionRun commandMachine).1.2.containsFinalizer = false ∧
      (deletionRun commandMachine).2.Absent (.domain "ns-c-m") ∧
      (deletionRun commandMachine).2.Absent (.pool "ns-c-m-pool") := by
  have hgone := finalizer_removed_after_cleanup sampleUUID (fun _ => False) sampleDeps
    (deletedScope ephemeralMachine) (provisioned ephemeralMachine).2 _ _ _
    (deletionRun_completes fun _ _ _ _ h => .inl h) rfl rfl
  exact ⟨rfl, hgone.1, hgone.2.2.2.2.2 rfl not_false not_false⟩

end Caplv.Controller

import Caplv.Controller.Deletion

namespace Caplv.Controller

open Text Api Libvirt Scope Program

structure ClientsAvailable (deps : Deps) (answers : (op : Op) → Reply op) (host : LibvirtHost) : Prop where
  secret : ∃ ref secret, host.secretRef = some ref ∧ answers (.getSecret
    ⟨if ref.namespaceName = "" then host.namespaceName else ref.namespaceName, ref.name⟩) = .ok secret
  uri : ∃ uri, localConnectionURI deps host.uri = .ok uri
  ssh : answers (.dialSSH (LibvirtHost.key host)) = .ok ()

def PoolsActive (scope : MachineScope) (h : Host) : Prop :=
  ∀ name, (name = deletionPool scope ∨
      ∃ disk ∈ scope.libvirtMachine.spec.additionalDisks, name = disk.storagePool) →
    ∀ p, h (.pool name) = some p → p.active = true

-- Where reconcileNormal puts the artifacts of a machine without an ephemeral pool.
def rootDiskPool (scope : MachineScope) : String :=
  let disk := scope.libvirtMachine.spec.rootDisk
  match disk.cloneStrategy with
  | .copyOnWrite => disk.storagePool
  | .fullClone => if disk.baseImagePool = "" then disk.storagePool else disk.baseImagePool

def Artifact (scope : MachineScope) : Key → Prop
  | .domain name => name = scope.domainName
  | .volume pool name =>
    (pool = rootDiskPool scope ∧ name = scope.rootDiskVolumeName) ∨
    (scope.libvirtMachine.spec.bootstrapFormat = .cloudInit ∧
      pool = scope.libvirtMachine.spec.rootDisk.storagePool ∧ name = scope.bootstrapISOName) ∨
    ∃ disk ∈ scope.libvirtMachine.spec.additionalDisks,
      pool = disk.storagePool ∧ name = scope.additionalDiskVolumeName disk
  | .file path =>
    scope.libvirtMachine.spec.bootstrapFormat = .ignition ∧ path = scope.ignitionFilePath
  | _ => False

def RootDiskFound (scope : MachineScope) : Prop :=
  rootDiskPool scope = scope.libvirtMachine.spec.rootDisk.storagePool ∨
    ∃ disk ∈ scope.libvirtMachine.spec.additionalDisks,
      rootDiskPool scope = disk.storagePool ∧
        scope.rootDiskVolumeName = scope.additionalDiskVolumeName disk

section Working

variable {newUUID : DomainXML → String} {answers : (op : Op) → Reply op} {scope : MachineScope}

abbrev working (newUUID : DomainXML → String) (answers : (op : Op) → Reply op) :
    Handler signature Host := (hostMachine newUUID answers).handler

theorem working_hostStep {before after : Host} {op : Op} {reply : Reply op}
    (h : working newUUID answers before op reply after) :
    hostStep newUUID (fun _ => False) before op reply after := by
  rw [working, ← virshMachine_commandMachine] at h
  exact virshMachine_hostStep (fun _ _ _ _ hs => .inl hs) h

theorem createClients_working {deps : Deps} {host : LibvirtHost}
    (havailable : ClientsAvailable deps answers host) (h : Host) :
    Holds (working newUUID answers) (fun _ _ => True) (fun clients after => clients = .ok () ∧ after = h)
      (createClients deps host) h := by
  obtain ⟨ref, secret, href, hsecret⟩ := havailable.secret
  obtain ⟨uri, huri⟩ := havailable.uri
  rw [createClients, href]
  refine ⟨trivial, fun reply after hs => ?_⟩
  obtain ⟨rfl, rfl⟩ := Prod.mk.inj hs
  rw [hsecret]
  dsimp only
  rw [huri]
  refine ⟨trivial, fun reply after hs => ?_⟩
  obtain ⟨rfl, rfl⟩ := Prod.mk.inj hs
  rw [havailable.ssh]
  exact ⟨rfl, rfl⟩

abbrev GoesThrough (newUUID : DomainXML → String) (answers : (op : Op) → Reply op)
    (pre : Host → Prop) (body : DeleteBody Unit) (post : Host → Prop) : Prop :=
  Body.Triple (working newUUID answers) (fun _ _ => True) (fun _ => pre) body
    (fun _ _ => post) (fun _ _ _ => False)

theorem deleteCall_goesThrough {host : LibvirtHost} {call : ClientCall} {what : String}
    {pre post : Host → Prop} (hcall : ∀ before, pre before → ∃ value after,
      before.call newUUID call = (.ok value, after) ∧ post after) :
    GoesThrough newUUID answers pre (deleteCall host call what) post := by
  refine Body.Triple.perform_bind (fun _ _ _ => trivial) fun reply => ?_
  rintro lm after ⟨before, hpre, hs⟩
  obtain ⟨value, after', hcalled, hpost⟩ := hcall before hpre
  obtain ⟨rfl, rfl⟩ := Prod.mk.inj (hcalled.symm.trans hs)
  exact hpost

theorem PoolsActive.of_pools_eq {before after : Host} (h : PoolsActive scope before)
    (hpools : ∀ name, after (.pool name) = before (.pool name)) : PoolsActive scope after :=
  fun name hname p hp => h name hname p ((hpools name).symm.trans hp)

theorem deleteVolume_goesThrough {pool : String} (name what : String)
    (hpool : pool = deletionPool scope ∨
      ∃ disk ∈ scope.libvirtMachine.spec.additionalDisks, pool = disk.storagePool) :
    GoesThrough newUUID answers (PoolsActive scope)
      (deleteCall scope.libvirtHost (.deleteVolume pool name) what) (PoolsActive scope) := by
  refine deleteCall_goesThrough fun before hactive => ?_
  change ∃ value after, before.deleteVolume pool name = (.ok value, after) ∧ PoolsActive scope after
  rw [Host.deleteVolume]
  split
  · rename_i stderr hlookup
    refine ⟨(), before, ?_, hactive⟩
    rw [Host.lookupVolume, Host.poolFailure] at hlookup
    cases hp : before (.pool pool) with
    | none =>
      rw [hp] at hlookup
      rw [← Except.error.inj hlookup, ignoreNotFound, isNotFound_classifyVirshError,
        (Host.category_eq Host.noPool : _ = .notFound)]
      rfl
    | some p =>
      simp only [hp, hactive pool hpool p hp, if_true] at hlookup
      split at hlookup
      · rw [← Except.error.inj hlookup, ignoreNotFound, isNotFound_classifyVirshError,
          (Host.category_eq Host.noVolume : _ = .notFound)]
        rfl
      · cases hlookup
  · exact ⟨(), _, rfl, hactive.of_pools_eq fun _ => before.erase_of_ne (fun h => by cases h)⟩

theorem deleteDomain_goesThrough :
    GoesThrough newUUID answers (fun h => PoolsActive scope h ∧
        ∀ d, h (.domain scope.domainName) = some d → d.running = true)
      (deleteDomain scope) (PoolsActive scope) := by
  have hdestroy : GoesThrough newUUID answers (fun h => PoolsActive scope h ∧
        ∀ d, h (.domain scope.domainName) = some d → d.running = true)
      (deleteCall scope.libvirtHost (.destroyDomain scope.domainName) "failed to destroy domain")
      (PoolsActive scope) := by
    refine deleteCall_goesThrough fun before hpre => ?_
    obtain ⟨hactive, hrunning⟩ := hpre
    change ∃ value after, before.destroyDomain scope.domainName = (.ok value, after) ∧ _
    rw [Host.destroyDomain]
    split
    · exact ⟨(), before, rfl, hactive⟩
    · rename_i d hd
      rw [if_pos (hrunning d hd)]
      exact ⟨(), _, rfl, hactive.of_pools_eq fun _ => before.set_of_ne _ (fun h => by cases h)⟩
  refine hdestroy.bind fun _ => deleteCall_goesThrough fun before hactive => ?_
  change ∃ value after, before.undefineDomain scope.domainName = (.ok value, after) ∧ _
  rw [Host.undefineDomain]
  split
  · exact ⟨(), before, rfl, hactive⟩
  · split
    · exact ⟨(), before, rfl, hactive⟩
    · exact ⟨(), _, rfl, hactive.of_pools_eq fun _ => before.erase_of_ne (fun h => by cases h)⟩

theorem deleteBootstrapArtifacts_goesThrough :
    GoesThrough newUUID answers (PoolsActive scope) (deleteBootstrapArtifacts scope)
      (PoolsActive scope) := by
  rw [deleteBootstrapArtifacts]
  split
  · refine Body.Triple.perform_bind (fun _ _ _ => trivial) fun reply => ?_
    rintro lm after ⟨before, hactive, hs⟩
    obtain ⟨-, rfl⟩ := Prod.mk.inj hs
    exact hactive.of_pools_eq fun _ => before.erase_of_ne (fun h => by cases h)
  · exact deleteVolume_goesThrough _ _ (.inl rfl)
  · exact Body.Triple.pure fun _ _ h => h

theorem deleteAdditionalDisks_goesThrough {disks : List AdditionalDiskSpec}
    (hdisks : ∀ disk ∈ disks, disk ∈ scope.libvirtMachine.spec.additionalDisks) :
    GoesThrough newUUID answers (PoolsActive scope) (deleteAdditionalDisks scope disks)
      (PoolsActive scope) := by
  induction disks with
  | nil => exact Body.Triple.pure fun _ _ h => h
  | cons disk rest ih =>
    have hdisk := hdisks disk List.mem_cons_self
    exact Body.Triple.bind (deleteVolume_goesThrough _ _ (.inr ⟨disk, hdisk, rfl⟩)) fun _ =>
      ih fun other hother => hdisks other (List.mem_cons_of_mem _ hother)

theorem deleteNodeObject_goesThrough {pre : Host → Prop} (nodeName : String) :
    GoesThrough newUUID answers pre (deleteNodeObject nodeName) (fun _ => True) := by
  refine Body.Triple.perform_bind (fun _ _ _ => trivial) fun node => ?_
  cases node with
  | error err => exact Body.Triple.pure fun _ _ _ => trivial
  | ok node =>
    exact Body.Triple.perform_bind (fun _ _ _ => trivial) fun _ =>
      Body.Triple.pure fun _ _ _ => trivial

-- DestroyPool answers nil whatever it finds.
theorem deleteEphemeralPool_goesThrough {pre : Host → Prop} :
    GoesThrough newUUID answers pre (deleteEphemeralPool scope) (fun _ => True) := by
  refine Body.Triple.ite (fun _ => deleteCall_goesThrough fun before _ => ?_) fun _ =>
    Body.Triple.pure fun _ _ _ => trivial
  change ∃ value after, before.destroyPool scope.ephemeralPoolName = (.ok value, after) ∧ True
  rw [Host.destroyPool]
  split <;> exact ⟨(), _, rfl, trivial⟩

theorem cleanUp_goesThrough :
    GoesThrough newUUID answers (fun h => PoolsActive scope h ∧
        ∀ d, h (.domain scope.domainName) = some d → d.running = true)
      (cleanUp scope) (fun _ => True) := by
  refine deleteDomain_goesThrough.bind fun _ => ?_
  refine Body.Triple.bind (deleteVolume_goesThrough _ _ (.inl rfl)) fun _ => ?_
  refine deleteBootstrapArtifacts_goesThrough.bind fun _ => ?_
  refine (deleteAdditionalDisks_goesThrough fun _ h => h).bind fun _ => ?_
  refine deleteEphemeralPool_goesThrough.bind fun _ => ?_
  exact deleteNodeObject_goesThrough _

-- A domain that is defined but shut off stops the cleanup at its first call.
theorem cleanUp_sticks {d : Domain} (hoff : d.running = false) (lm : LibvirtMachine) :
    Body.Triple (working newUUID answers) (fun _ _ => True)
      (fun lm' h => lm' = lm ∧ h (.domain scope.domainName) = some d) (cleanUp scope)
      (fun _ _ _ => False) (fun _ lm' _ => lm' = lm) := by
  have hdestroy : Body.Triple (working newUUID answers) (fun _ _ => True)
      (fun lm' h => lm' = lm ∧ h (.domain scope.domainName) = some d)
      (deleteCall scope.libvirtHost (.destroyDomain scope.domainName) "failed to destroy domain")
      (fun _ _ _ => False) (fun _ lm' _ => lm' = lm) := by
    refine Body.Triple.perform_bind (fun _ _ _ => trivial) fun reply => ?_
    rintro lm' after ⟨before, ⟨rfl, hd⟩, hs⟩
    have hrefused : before.destroyDomain scope.domainName =
        (.error (classifyVirshError Host.notRunning "destroy" scope.domainName), before) := by
      rw [Host.destroyDomain, hd]
      exact if_neg (by rw [hoff]; exact Bool.false_ne_true)
    obtain ⟨rfl, rfl⟩ := Prod.mk.inj (hrefused.symm.trans hs)
    have hfound := (classify_transient "destroy" scope.domainName (Host.category_eq Host.notRunning)).1
    simp only [hfound, Bool.false_eq_true, if_false]
    rfl
  have hnever (body : Unit → DeleteBody Unit) : ∀ value, Body.Triple (working newUUID answers)
      (fun _ _ => True) (fun _ _ => False) (body value) (fun _ _ _ => False) (fun _ lm' _ => lm' = lm) :=
    fun _ _ _ h => h.elim
  exact (hdestroy.bind (hnever _)).bind (hnever _)

theorem deleteCall_frame (heph : scope.libvirtMachine.spec.rootDisk.ephemeralPool = false)
    {call : ClientCall} (hcall : DeleteCall scope call) (before : Host) {key : Key}
    (hkey : ¬ CleanedUp (fun _ => False) scope key) : (before.call newUUID call).2 key = before key := by
  have hdelete {pool name : String} (hne : key ≠ .volume pool name) :
      (before.deleteVolume pool name).2 key = before key := by
    rw [Host.deleteVolume]
    split
    · rfl
    · exact before.erase_of_ne hne
  cases hcall with
  | destroyDomain =>
    change (before.destroyDomain scope.domainName).2 key = _
    rw [Host.destroyDomain]
    split
    · rfl
    · split
      · exact before.set_of_ne _ fun h => hkey (h ▸ rfl)
      · rfl
  | undefineDomain =>
    change (before.undefineDomain scope.domainName).2 key = _
    rw [Host.undefineDomain]
    split
    · rfl
    · split
      · rfl
      · exact before.erase_of_ne fun h => hkey (h ▸ rfl)
  | deleteRoot => exact hdelete fun h => hkey (h ▸ .inl ⟨rfl, rfl⟩)
  | deleteIgnition hformat => exact before.erase_of_ne fun h => hkey (h ▸ ⟨hformat, rfl, not_false⟩)
  | deleteISO hformat => exact hdelete fun h => hkey (h ▸ .inr (.inl ⟨hformat, rfl, rfl⟩))
  | deleteDisk disk hdisk => exact hdelete fun h => hkey (h ▸ .inr (.inr ⟨disk, hdisk, rfl, rfl⟩))
  | destroyPool h => exact Bool.noConfusion (h.symm.trans heph)

section Reconcile

-- Nothing keeps reconcileDelete from its cleanup.
structure Unhindered (deps : Deps) (answers : (op : Op) → Reply op) (scope : MachineScope) : Prop where
  finalizer : scope.libvirtMachine.containsFinalizer = true
  ready : scope.libvirtHost.ready = true
  available : ClientsAvailable deps answers scope.libvirtHost

abbrev Deleting (newUUID : DomainXML → String) (deps : Deps) (answers : (op : Op) → Reply op)
    (scope : MachineScope) (h : Host) (post : Return × LibvirtMachine → Host → Prop) : Prop :=
  Holds (working newUUID answers) (fun _ _ => True) post
    (reconcileDelete deps scope.libvirtMachine scope.cluster scope.libvirtHost) h

variable {deps : Deps} {h : Host}

theorem reconcileDelete_working (hfree : Unhindered deps answers scope)
    {post : Return × LibvirtMachine → Host → Prop}
    (hclean : Holds (working newUUID answers) (fun _ _ => True)
      (Body.ends (fun _ lm' => post (({}, none), lm'.removeFinalizer)) fun ret lm' => post (ret, lm'))
      ((cleanUp scope).exec scope.libvirtMachine) h) : Deleting newUUID deps answers scope h post := by
  refine reconcileDelete_holds_of_cleanUp (· = h) (fun clients after => clients = .ok () ∧ after = h)
    (fun hno => Bool.noConfusion (hno.symm.trans hfree.finalizer))
    (fun hno => Bool.noConfusion (hno.symm.trans hfree.ready)) ?_ ?_ ?_ rfl
  · rintro _ rfl
    exact createClients_working hfree.available _
  · rintro err ret message w ⟨hok, -⟩
    cases hok
  · rintro _ ⟨-, rfl⟩
    exact hclean

theorem reconcileDelete_goesThrough (hfree : Unhindered deps answers scope) (hactive : PoolsActive scope h)
    (hrunning : ∀ d, h (.domain scope.domainName) = some d → d.running = true) :
    Deleting newUUID deps answers scope h fun out _ => out.2.containsFinalizer = false := by
  refine reconcileDelete_working hfree ?_
  refine (cleanUp_goesThrough scope.libvirtMachine h ⟨hactive, hrunning⟩).post_mono ?_
  rintro ⟨out, lm'⟩ after hout
  cases out with
  | ok _ => exact lm'.removeFinalizer_containsFinalizer
  | error ret => exact hout.elim

-- A cleanup that ends early leaves the finalizer on the object.
theorem reconcileDelete_stalls (hfree : Unhindered deps answers scope)
    (hclean : Holds (working newUUID answers) (fun _ _ => True)
      (Body.ends (fun _ _ _ => False) fun _ lm' _ => lm' = scope.libvirtMachine)
      ((cleanUp scope).exec scope.libvirtMachine) h) :
    Deleting newUUID deps answers scope h fun out _ => out.2.containsFinalizer = true := by
  refine reconcileDelete_working hfree (hclean.post_mono ?_)
  rintro ⟨out, lm'⟩ after hout
  cases out with
  | ok _ => exact hout.elim
  | error ret =>
    obtain rfl : lm' = scope.libvirtMachine := hout
    exact hfree.finalizer

theorem reconcileDelete_sticks (hfree : Unhindered deps answers scope) {d : Domain}
    (hd : h (.domain scope.domainName) = some d) (hoff : d.running = false) :
    Deleting newUUID deps answers scope h fun out _ => out.2.containsFinalizer = true :=
  reconcileDelete_stalls hfree (cleanUp_sticks hoff scope.libvirtMachine _ h ⟨rfl, hd⟩)

-- What no operation of a cleanup takes away holds after the deletion.
theorem reconcileDelete_preserves (hfree : Unhindered deps answers scope) {inv : Host → Prop} (hinv : inv h)
    (hstep : ∀ before op reply after, inv before → DeleteOp scope op →
      working newUUID answers before op reply after → inv after) :
    Deleting newUUID deps answers scope h fun _ => inv := by
  have hkeeps : Body.Keeps anyReply (DeleteOp scope) (fun _ => True) (cleanUp scope) := cleanUp_keeps
  have hcleans : Body.Triple (working newUUID answers) (fun _ _ => True) (fun _ after => True ∧ inv after)
      (cleanUp scope) (fun _ _ after => True ∧ inv after) (fun _ _ after => True ∧ inv after) :=
    hkeeps.triple (fun _ _ _ _ => trivial) fun _ _ _ _ hb hop hs => ⟨trivial, hstep _ _ _ _ hb hop hs⟩
  refine reconcileDelete_working hfree ((hcleans _ h ⟨trivial, hinv⟩).post_mono ?_)
  rintro ⟨out, lm'⟩ after hout
  cases out with
  | ok _ => exact hout.2
  | error ret => exact hout.2

theorem reconcileDelete_frame (hfree : Unhindered deps answers scope)
    (heph : scope.libvirtMachine.spec.rootDisk.ephemeralPool = false) {key : Key}
    (hkey : ¬ CleanedUp (fun _ => False) scope key) (hnode : ∀ name, key ≠ .node name) :
    Deleting newUUID deps answers scope h fun _ after => after key = h key := by
  refine reconcileDelete_preserves hfree rfl fun before op reply after hb hop hs => ?_
  cases op with
  | client host call =>
    obtain ⟨-, rfl⟩ := Prod.mk.inj hs
    exact (deleteCall_frame heph hop.2 before hkey).trans hb
  | getNode name =>
    obtain rfl : after = before := working_hostStep hs
    exact hb
  | deleteNode name => exact (working_hostStep hs key hnode).trans hb
  | _ => exact hop.elim

-- Where the finalizer goes the domain was not shut off.
theorem running_of_removed (hfree : Unhindered deps answers scope)
    (hremoved : (run (hostMachine newUUID answers)
      (reconcileDelete deps scope.libvirtMachine scope.cluster scope.libvirtHost) h).1.2.containsFinalizer = false)
    (d : Domain) (hd : h (.domain scope.domainName) = some d) : d.running = true := by
  by_contra hoff
  have hkept := (@reconcileDelete_sticks newUUID answers scope deps h hfree d hd (Bool.not_eq_true _ ▸ hoff)).run
  exact Bool.noConfusion (hremoved.symm.trans hkept)

theorem cleared_of_goesThrough (hfree : Unhindered deps answers scope) (hactive : PoolsActive scope h)
    (hrunning : ∀ d, h (.domain scope.domainName) = some d → d.running = true) :
    let out := run (hostMachine newUUID answers)
      (reconcileDelete deps scope.libvirtMachine scope.cluster scope.libvirtHost) h
    out.1.2.containsFinalizer = false ∧ Cleared (CleanedUp (fun _ => False) scope) out.2 := by
  intro out
  have hremoved : out.1.2.containsFinalizer = false :=
    (reconcileDelete_goesThrough hfree hactive hrunning).run
  exact ⟨hremoved, ((reconcileDelete_cleans hfree.finalizer h).mono (fun _ _ _ _ hs => working_hostStep hs)
    (fun _ _ hg => hg) fun _ _ hp => hp).run hremoved⟩

end Reconcile

end Working

-- Without an ephemeral pool every artifact but the root disk is looked for where
-- reconcileNormal puts it.
theorem Artifact.cases {scope : MachineScope}
    (heph : scope.libvirtMachine.spec.rootDisk.ephemeralPool = false) {key : Key}
    (h : Artifact scope key) : CleanedUp (fun _ => False) scope key ∨
      key = .volume (rootDiskPool scope) scope.rootDiskVolumeName := by
  have hpool : deletionPool scope = scope.libvirtMachine.spec.rootDisk.storagePool :=
    if_neg (by rw [heph]; exact Bool.false_ne_true)
  cases key with
  | domain name => exact .inl h
  | volume pool name =>
    rcases h with ⟨rfl, rfl⟩ | ⟨hformat, rfl, rfl⟩ | hdisk
    · exact .inr rfl
    · exact .inl (.inr (.inl ⟨hformat, hpool.symm, rfl⟩))
    · exact .inl (.inr (.inr hdisk))
  | file path => exact .inl ⟨h.1, h.2, not_false⟩
  | pool name => exact h.elim
  | mount path => exact h.elim
  | node name => exact h.elim

theorem cleanedUp_rootDisk_iff {scope : MachineScope}
    (heph : scope.libvirtMachine.spec.rootDisk.ephemeralPool = false) :
    CleanedUp (fun _ => False) scope (.volume (rootDiskPool scope) scope.rootDiskVolumeName) ↔
      RootDiskFound scope := by
  have hpool : deletionPool scope = scope.libvirtMachine.spec.rootDisk.storagePool :=
    if_neg (by rw [heph]; exact Bool.false_ne_true)
  constructor
  · rintro (⟨hroot, -⟩ | ⟨-, hroot, -⟩ | hdisk)
    · exact .inl (hroot.trans hpool)
    · exact .inl (hroot.trans hpool)
    · exact .inr hdisk
  · rintro (hroot | hdisk)
    · exact .inl ⟨hroot.trans hpool.symm, rfl⟩
    · exact .inr (.inr hdisk)

-- One reconcileDelete on a ready host where every command works finishes the deletion exactly
-- from the states in which the domain is not shut off and the root disk, where the cleanup does
-- not look for it, is not there.
theorem deletion_resumes_iff (newUUID : DomainXML → String) (deps : Deps)
    (answers : (op : Op) → Reply op) (scope : MachineScope) (h : Host)
    (hfinalizer : scope.libvirtMachine.containsFinalizer = true)
    (hready : scope.libvirtHost.ready = true) (havailable : ClientsAvailable deps answers scope.libvirtHost)
    (heph : scope.libvirtMachine.spec.rootDisk.ephemeralPool = false) (hactive : PoolsActive scope h) :
    let out := run (virshMachine newUUID commandMachine answers)
      (reconcileDelete deps scope.libvirtMachine scope.cluster scope.libvirtHost) h
    (out.1.2.containsFinalizer = false ∧ ∀ key, Artifact scope key → out.2.Absent key) ↔
      (∀ d, h (.domain scope.domainName) = some d → d.running = true) ∧
        (RootDiskFound scope ∨ h.Absent (.volume (rootDiskPool scope) scope.rootDiskVolumeName)) := by
  rw [virshMachine_commandMachine]
  intro out
  have hfree : Unhindered deps answers scope := ⟨hfinalizer, hready, havailable⟩
  have hframe {key : Key} (hkey : ¬ CleanedUp (fun _ => False) scope key)
      (hnode : ∀ name, key ≠ .node name) : out.2 key = h key :=
    (reconcileDelete_frame hfree heph hkey hnode).run
  have hpool : out.2 (.pool (rootDiskPool scope)) = h (.pool (rootDiskPool scope)) :=
    hframe (fun hkey => Bool.noConfusion (hkey.1.symm.trans heph)) fun _ => nofun
  have hroot (hfound : ¬ RootDiskFound scope) :
      out.2.Absent (.volume (rootDiskPool scope) scope.rootDiskVolumeName) ↔
        h.Absent (.volume (rootDiskPool scope) scope.rootDiskVolumeName) := by
    have hvolume : out.2 (.volume (rootDiskPool scope) scope.rootDiskVolumeName) = h _ :=
      hframe (mt (cleanedUp_rootDisk_iff heph).mp hfound) fun _ => nofun
    rw [Host.Absent, Host.Absent, hpool, hvolume]
  constructor
  · rintro ⟨hremoved, hgone⟩
    refine ⟨running_of_removed hfree hremoved, or_iff_not_imp_left.mpr fun hfound => ?_⟩
    exact (hroot hfound).mp (hgone _ (.inl ⟨rfl, rfl⟩))
  · rintro ⟨hrunning, hfound⟩
    obtain ⟨hremoved, hcleared⟩ := cleared_of_goesThrough hfree hactive hrunning
    refine ⟨hremoved, fun key hkey => ?_⟩
    rcases hkey.cases heph with hclean | rfl
    · exact hcleared key hclean
    · by_cases hlooked : RootDiskFound scope
      · exact hcleared _ ((cleanedUp_rootDisk_iff heph).mpr hlooked)
      · exact (hroot hlooked).mpr (hfound.resolve_left hlooked)

-- A running machine whose deletion is interrupted after `virsh destroy`, its third operation:
-- the domain is shut off, and every later deletion fails there.
def interruptedDeletion : Host :=
  (runFor (virshMachine sampleUUID commandMachine freshAnswer) 3 (sampleDeletion sampleMachine)
    (provisioned sampleMachine).2).2

theorem interrupted_deletion_sticks :
    (provisioned sampleMachine).1.2.status.ready = true ∧
      (deletedScope sampleMachine).libvirtMachine.containsFinalizer = true ∧
      sampleHost.ready = true ∧ ClientsAvailable sampleDeps freshAnswer sampleHost ∧
      (deletedScope sampleMachine).libvirtMachine.spec.rootDisk.ephemeralPool = false ∧
      let out := run (virshMachine sampleUUID commandMachine freshAnswer)
        (sampleDeletion sampleMachine) interruptedDeletion
      out.1.2.containsFinalizer = true ∧ out.2 = interruptedDeletion ∧
        (out.2 (.domain "ns-c-m")).isSome = true ∧
        (out.2 (.volume "default" "ns-c-m-root.qcow2")).isSome = true ∧
        out.1.1.2 = some (.wrap "failed to destroy domain"
          (classifyVirshError Host.notRunning "destroy" "ns-c-m")) :=
  ⟨rfl, rfl, rfl, ⟨⟨_, _, rfl, rfl⟩, ⟨_, rfl⟩, rfl⟩, rfl, rfl, rfl, rfl, rfl, rfl⟩

theorem deletion_resumes_running :
    let out := run (virshMachine sampleUUID commandMachine freshAnswer)
      (sampleDeletion sampleMachine) (provisioned sampleMachine).2
    out.1.2.containsFinalizer = false ∧ out.2.Absent (.domain "ns-c-m") ∧
      out.2.Absent (.volume "default" "ns-c-m-root.qcow2") := by
  have hactive : PoolsActive (deletedScope sampleMachine) (provisioned sampleMachine).2 := by
    rintro name (rfl | ⟨disk, hdisk, -⟩) p hp
    · obtain rfl : _ = p := Option.some.inj hp
      rfl
    · cases hdisk
  have hrunning (d : Domain) (hd : (provisioned sampleMachine).2 (.domain "ns-c-m") = some d) :
      d.running = true := by
    obtain rfl : _ = d := Option.some.inj hd
    rfl
  have hout := (deletion_resumes_iff sampleUUID sampleDeps freshAnswer (deletedScope sampleMachine)
    (provisioned sampleMachine).2 rfl rfl ⟨⟨_, _, rfl, rfl⟩, ⟨_, rfl⟩, rfl⟩ rfl hactive).mpr
    ⟨hrunning, .inl (.inl rfl)⟩
  exact ⟨hout.1, hout.2 (.domain _) rfl, hout.2 (.volume _ _) (.inl ⟨rfl, rfl⟩)⟩

end Caplv.Controller

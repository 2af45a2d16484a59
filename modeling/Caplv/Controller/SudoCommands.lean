import Caplv.Controller.ArtifactCache
import Caplv.Controller.Deletion
import Caplv.Controller.Naming
import Caplv.Libvirt.Sudoers

namespace Caplv.Controller

open Text Api Libvirt Scope Program BootArtifacts

-- The path of bootArtifacts as the CRD has it: ^/[A-Za-z0-9._/-]+$
def hostPathPattern (path : String) : Bool :=
  match path.toList with
  | '/' :: rest => !rest.isEmpty && rest.all fun c => c.isAlphanum || c ∈ ['.', '_', '/', '-']
  | _ => false

def inRunDir (path : String) : Prop := path = "/run/caplv" ∨ underRunDir path = true

-- Every command of a call that goes through sudo is allowed, with the given target for a
-- pool that is torn down.
def CallAllowed (connURI target : String) : ClientCall → Prop
  | .createTmpfsPool name path size =>
    Emits anyReply (Sum.elim (fun cmd => Allowed (cmd.remote connURI).text)
      fun cmd => Allowed (Command.remote connURI cmd).text) (fun _ => True)
      (VirshClient.createTmpfsPool name path size)
  | .destroyPool name =>
    Emits (reportsTarget target) (fun cmd => Allowed (cmd.remote connURI).text) (fun _ => True)
      (VirshClient.destroyPool name)
  | .writeRemoteFile path data =>
    Emits anyReply (fun cmd => Allowed (FileCommand.remote cmd).text) (fun _ => True)
      (VirshClient.writeRemoteFile path data)
  | .deleteRemoteFile path =>
    Emits anyReply (fun cmd => Allowed (cmd.remote connURI).text) (fun _ => True)
      (VirshClient.deleteRemoteFile path)
  | _ => True

def SudoOp (target : String) : Op → Prop
  | .client _ call => ∀ connURI, CallAllowed connURI target call
  | _ => True

def Resolved (sha : Sha256) (files : BootFiles) : Prop :=
  ∃ net src creds, MultiResolver.resolve net sha src creds = .ok files

-- The cache has what the resolver gave in an earlier run.
def resolving (sha : Sha256) : Replies signature
  | .loadArtifacts _, reply => ∀ files, reply = some files → Resolved sha files
  | .resolveArtifacts _ _, reply => ∀ files, reply = .ok files → Resolved sha files
  | _, _ => True

-- Every run of either reconcile with this path in the cluster's specification.
def OnlyAllowed (sha : Sha256) (hostPath target : String) : Prop :=
  ∀ (deps : Deps) (lm : LibvirtMachine) (machine : Machine) (cluster : Cluster) (libvirtCluster : LibvirtCluster)
    (host : LibvirtHost), deps.pathJoin = Path.join →
    (∀ ba, libvirtCluster.bootArtifacts = some ba → ba.hostPath = hostPath) →
    Emits (resolving sha) (SudoOp target) (fun _ => True)
      (reconcileNormal deps lm machine cluster libvirtCluster host) ∧
    Emits anyReply (SudoOp target) (fun _ => True) (reconcileDelete deps lm cluster host)

section Paths

variable {hostPath digest name : String}

theorem rooted_of_hostPathPattern (h : hostPathPattern hostPath = true) : Path.rooted hostPath = true := by
  unfold hostPathPattern at h
  split at h
  · rename_i rest hchars
    rw [Path.rooted, hchars]
    rfl
  · cases h

theorem inRunDir_iff_stem (hrooted : Path.rooted hostPath = true) :
    inRunDir (Path.clean hostPath) ↔ inRunDir (Path.stem hostPath) := by
  rw [Path.clean_rooted hrooted]
  split
  · rename_i hempty
    rw [Path.stem_eq_empty hempty]
    constructor
    · rintro (h | h)
      · exact absurd h (by decide)
      · exact absurd h (by decide)
    · rintro (h | h)
      · exact absurd h (by decide)
      · exact absurd h (by decide)
  · exact Iff.rfl

theorem underRunDir_below (hname : '/' ∉ name.toList) (stem : String) :
    underRunDir (stem ++ "/" ++ name) = true ↔ inRunDir stem := by
  have hchars : (stem ++ "/" ++ name).toList = stem.toList ++ '/' :: name.toList := by simp
  have hdir : "/run/caplv/".toList = "/run/caplv".toList ++ ['/'] := by decide
  rw [underRunDir, hasPrefix, hchars, hdir, List.isPrefixOf_iff_prefix, Path.prefix_slash_iff hname, inRunDir,
    underRunDir, hasPrefix, hdir, List.isPrefixOf_iff_prefix, String.toList_inj]

theorem bootDir_iff (hrooted : Path.rooted hostPath = true) (hdigest : Path.IsName digest)
    (hname : Path.IsName name) :
    underRunDir (VirshClient.parentDir (Path.join [trimRight hostPath '/', digest, name])) = true ↔
      inRunDir (Path.clean hostPath) := by
  rw [inRunDir_iff_stem hrooted]
  by_cases hempty : trimRight hostPath '/' = ""
  · rw [hempty, Path.join_names hdigest hname, parentDir_append _ hname.2.2.2,
      Path.stem_eq_empty (Path.kept_of_trimRight hempty)]
    constructor
    · intro hunder
      obtain ⟨rest, hrest⟩ := (hasPrefix_iff _ _).mp hunder
      refine absurd ?_ hdigest.2.2.2
      rw [hrest, String.toList_append]
      exact List.mem_append_left _ (by decide)
    · rintro (h | h)
      · exact absurd h (by decide)
      · exact absurd h (by decide)
  · have hstem : Path.stem (trimRight hostPath '/') = Path.stem hostPath := by
      rw [Path.stem, Path.kept_trimRight hempty, Path.stem]
    have htrimmed : Path.rooted (trimRight hostPath '/') = true := (Path.rooted_trimRight hempty).trans hrooted
    rw [Path.join_rooted htrimmed hdigest hname, parentDir_append _ hname.2.2.2, hstem]
    exact underRunDir_below hdigest.2.2.2 _

theorem Resolved.addressed {sha : Sha256} {files : BootFiles} (h : Resolved sha files) : Addressed sha files := by
  obtain ⟨net, src, creds, hok⟩ := h
  exact resolve_addressed hok

theorem bootFile_under {deps : Deps} (hjoin : deps.pathJoin = Path.join) {sha : Sha256} {ba : BootArtifactsSpec}
    {files : BootFiles} (hrooted : Path.rooted ba.hostPath = true) (hdir : inRunDir (Path.clean ba.hostPath))
    (hfiles : Resolved sha files) {path : String}
    (hpath : path = kernelPath deps ba files ∨ path = initrdPath deps ba files) :
    underRunDir (VirshClient.parentDir path) = true := by
  obtain ⟨hkernel, hinitramfs⟩ := hfiles.addressed
  rcases hpath with rfl | rfl
  · rw [kernelPath, hjoin, hkernel]
    exact (bootDir_iff hrooted (sha.isName_hex _) isName_vmlinuz).mpr hdir
  · rw [initrdPath, hjoin, hinitramfs]
    exact (bootDir_iff hrooted (sha.isName_hex _) isName_initramfs).mpr hdir

theorem scope_dir_under (scope : MachineScope) : underRunDir scope.ephemeralPoolPath = true :=
  (hasPrefix_iff _ _).mpr ⟨_, rfl⟩

theorem ignitionFile_under (scope : MachineScope) : underRunDir scope.ignitionFilePath = true :=
  (hasPrefix_iff _ _).mpr ⟨scope.artifactBaseName ++ "/ignition.json", by
    rw [MachineScope.ignitionFilePath, String.append_assoc]⟩

theorem ignitionDir_under (scope : MachineScope) :
    underRunDir (VirshClient.parentDir scope.ignitionFilePath) = true := by
  have hpath : scope.ignitionFilePath = scope.ephemeralPoolPath ++ "/" ++ "ignition.json" := by
    rw [MachineScope.ignitionFilePath, MachineScope.ephemeralPoolPath]
    apply String.toList_inj.mp
    simp
  rw [hpath, parentDir_append _ (by decide)]
  exact scope_dir_under scope

end Paths

section Runs

variable {deps : Deps} {sha : Sha256} {target : String} {replies : Replies signature}
  {rc : ReconcileCtx}

theorem resolveCachedArtifacts_resolved (source : BootArtifactsSource) (creds : Option Credentials) :
    Emits (resolving sha) LocalOp (fun out => ∀ files, out = .ok files → Resolved sha files)
      (resolveCachedArtifacts deps source creds) := by
  refine (emits_ask _ _).mpr ⟨trivial, fun cached hcached => ?_⟩
  cases cached with
  | some files => exact fun other hother => Except.ok.inj hother ▸ hcached files rfl
  | none =>
    refine (emits_ask _ _).mpr ⟨trivial, fun resolved hresolved => ?_⟩
    cases resolved with
    | error err => exact fun other hother => nomatch hother
    | ok files =>
      refine (emits_ask _ _).mpr ⟨trivial, fun _ _ => ?_⟩
      exact fun other hother => Except.ok.inj hother ▸ hresolved files rfl

abbrev anyState : RunState → Prop := fun _ => True

theorem sudo_records : Records replies (SudoOp target) anyState :=
  ⟨fun _ _ => trivial, fun _ _ _ _ _ => trivial⟩

theorem sudo_localOp (op : Op) (h : LocalOp op) : SudoOp target op := by
  cases op with
  | client => exact h.elim
  | _ => trivial

theorem callOrHandle_sudo {rc : ReconcileCtx} {call : ClientCall}
    (hcall : ∀ connURI, CallAllowed connURI target call) (operation : String) :
    Body.Keeps replies (SudoOp target) anyState (callOrHandle rc call operation) :=
  callOrHandle_keeps hcall (fun _ _ _ => sudo_records) operation

theorem reconcileRootDisk_sudo (htarget : target = "" ∨ underRunDir target = true) :
    Fn.Keeps replies (SudoOp target) anyState (reconcileRootDisk rc) := by
  have hcall (call : ClientCall) (h : RootDiskCall rc (fun _ => True) call) (connURI : String) :
      CallAllowed connURI target call := by
    cases h with
    | createTmpfsPool => exact createTmpfsPool_allowed (scope_dir_under _)
    | destroyPool => exact (destroyPool_allowed_iff target).mpr htarget
    | _ => trivial
  refine reconcileRootDisk_keeps (fun _ => True) (fun _ _ => trivial) (fun _ _ _ => trivial) ?_ ?_ ?_
  · exact fun call h => hcall call h
  · exact fun call h operation => callOrHandle_sudo (hcall call h) operation
  · exact fun call h _ operation => callOnBaseImage_keeps (hcall call h) (fun _ _ _ => sudo_records)
      (fun _ _ _ => sudo_records) operation

theorem prepareArtifacts_sudo (hjoin : deps.pathJoin = Path.join)
    (hboot : ∀ ba, rc.libvirtCluster.bootArtifacts = some ba →
      Path.rooted ba.hostPath = true ∧ inRunDir (Path.clean ba.hostPath))
    (htarget : target = "" ∨ underRunDir target = true) :
    Body.Keeps (resolving sha) (SudoOp target) anyState (prepareArtifacts deps rc) := by
  refine prepareArtifacts_keeps (fun _ => trivial) ?_ (reconcileRootDisk_sudo htarget) ?_ ?_ ?_
  · refine reconcileBaseImage_keeps (fun _ _ _ _ _ => trivial) sudo_localOp fun call hcall operation => ?_
    refine callOrHandle_sudo (fun connURI => ?_) operation
    cases hcall <;> trivial
  · refine reconcileBootstrapArtifacts_keeps (fun _ => True) (fun _ _ => trivial) sudo_localOp
      ⟨fun _ _ _ _ _ => sudo_records, fun _ _ => sudo_records⟩ fun call hcall operation => ?_
    refine callOrHandle_sudo (fun connURI => ?_) operation
    cases hcall with
    | writeIgnition hformat data => exact (writeRemoteFile_allowed_iff data).mpr (ignitionDir_under _)
    | _ => trivial
  · refine reconcileAdditionalDisks_keeps (fun _ _ _ _ => trivial) fun disk _ call hcall operation => ?_
    refine callOrHandle_sudo (fun connURI => ?_) operation
    cases hcall <;> trivial
  · refine reconcileBootArtifacts_keeps_of (Resolved sha) (fun _ _ _ _ _ => trivial) sudo_localOp
      resolveCachedArtifacts_resolved fun ba files path hba hfiles hpath => ?_
    obtain ⟨hrooted, hdir⟩ := hboot ba hba
    have hwrite (data : Bytes) (connURI : String) : CallAllowed connURI target (.writeRemoteFile path data) :=
      (writeRemoteFile_allowed_iff data).mpr (bootFile_under hjoin hrooted hdir hfiles hpath)
    have hlookup (connURI : String) : CallAllowed connURI target (.remoteFileExists path) := trivial
    exact ⟨callOrHandle_sudo hlookup, fun data => callOrHandle_sudo (hwrite data)⟩

theorem provision_sudo (hjoin : deps.pathJoin = Path.join)
    (hboot : ∀ ba, rc.libvirtCluster.bootArtifacts = some ba →
      Path.rooted ba.hostPath = true ∧ inRunDir (Path.clean ba.hostPath))
    (htarget : target = "" ∨ underRunDir target = true) :
    Fn.Keeps (resolving sha) (SudoOp target) anyState (provision deps rc) := by
  have hchecks : Body.Keeps (resolving sha) (SudoOp target) anyState (preflight deps rc) :=
    preflight_keeps_of sudo_records (fun _ _ _ _ _ => trivial) fun _ _ => trivial
  have hdomain : Fn.Keeps (resolving sha) (SudoOp target) anyState (reconcileDomain deps rc) := by
    refine reconcileDomain_keeps (fun _ => True) sudo_records (fun _ _ => trivial) fun call hcall operation => ?_
    cases hcall <;> exact domainCall_keeps (fun _ => trivial) (fun _ _ _ => sudo_records) operation
  refine Body.Keeps.run (hchecks.bind fun _ => Body.Keeps.perform_bind trivial fun _ _ => ?_)
  refine (prepareArtifacts_sudo hjoin hboot htarget).bind fun _ => ?_
  refine (bringUpDomain_keeps_of (fun _ => trivial) hdomain).bind fun domainInfo => ?_
  refine Body.Keeps.bind (Body.Keeps.modify fun _ _ => trivial) fun _ => Body.Keeps.call fun st _ => ?_
  refine ((reconcileNodeLabels_emits rc.libvirtMachine rc.domainName st.status).mono (fun _ _ h => h) ?_
    fun _ h => h).bind fun _ _ => trivial
  intro op hop
  cases op with
  | client => exact hop.elim
  | _ => trivial

theorem reconcileNormal_sudo {lm : LibvirtMachine} {machine : Machine} {cluster : Cluster}
    {libvirtCluster : LibvirtCluster} {host : LibvirtHost} (hjoin : deps.pathJoin = Path.join)
    (hboot : ∀ ba, libvirtCluster.bootArtifacts = some ba →
      Path.rooted ba.hostPath = true ∧ inRunDir (Path.clean ba.hostPath))
    (htarget : target = "" ∨ underRunDir target = true) :
    Emits (resolving sha) (SudoOp target) (fun _ => True)
      (reconcileNormal deps lm machine cluster libvirtCluster host) := by
  refine reconcileNormal_holds_of_provision (fun _ => True) ?_ (fun _ _ _ _ _ _ _ => trivial)
    (fun _ _ _ _ => trivial) ?_ trivial
  · intro _ op _ hop
    cases op with
    | client => exact hop.elim
    | _ => trivial
  · intro vcpus memoryMB status _ _ _ rc
    exact (@provision_sudo deps sha target rc hjoin hboot htarget _ trivial).post_mono fun _ _ => trivial

theorem reconcileDelete_sudo {lm : LibvirtMachine} {cluster : Cluster} {host : LibvirtHost}
    (htarget : target = "" ∨ underRunDir target = true) :
    Emits anyReply (SudoOp target) (fun _ => True) (reconcileDelete deps lm cluster host) := by
  refine (reconcileDelete_emits deps ⟨cluster, lm, host⟩).mono (fun _ _ h => h) ?_ fun _ h => h
  rintro op (hread | hdelete)
  · cases op with
    | client => exact hread.elim
    | _ => trivial
  · cases op with
    | client key call =>
      intro connURI
      cases hdelete.2 with
      | deleteIgnition => exact deleteRemoteFile_allowed (ignitionFile_under _)
      | destroyPool => exact (destroyPool_allowed_iff target).mpr htarget
      | _ => trivial
    | _ => trivial

end Runs

section Exactness

abbrev freshMachine : Program.Machine signature Unit := oracle freshAnswer

theorem freshAnswer_resolving (sha : Sha256) (op : Op) : resolving sha op (freshAnswer op) := by
  cases op with
  | loadArtifacts => exact nofun
  | resolveArtifacts => exact nofun
  | _ => trivial

def joinDeps : Deps := { sampleDeps with pathJoin := Path.join }

theorem joinDeps_pathJoin : joinDeps.pathJoin = Path.join := rfl

def bootedCluster (hostPath : String) : LibvirtCluster :=
  { sampleLibvirtCluster with bootArtifacts := some ⟨hostPath, "", sampleSource false⟩ }

def bootedCtx (hostPath : String) : ReconcileCtx :=
  ⟨sampleMachine.addFinalizer, sampleOwner, sampleCluster, bootedCluster hostPath, sampleHost, 2, 2048⟩

def beforeBoot (deps : Deps) (rc : ReconcileCtx) : NormalBody Unit := do
  preflight deps rc
  issue (.enter .baseImage)
  runStep (reconcileBaseImage deps rc)
  issue (.enter .rootDisk)
  runStep (reconcileRootDisk rc)
  issue (.enter .bootstrapArtifacts)
  runStep (reconcileBootstrapArtifacts deps rc)
  issue (.enter .additionalDisks)
  runStep (reconcileAdditionalDisks rc)
  issue (.enter .bootArtifacts)

def afterBoot (deps : Deps) (rc : ReconcileCtx) : NormalBody Return := do
  let domainInfo ← bringUpDomain deps rc
  Body.modify (markReady deps rc domainInfo)
  Body.call (onStatus (reconcileNodeLabels rc.libvirtMachine rc.domainName))

theorem provision_split (deps : Deps) (rc : ReconcileCtx) : provision deps rc = Body.run (do
    beforeBoot deps rc
    runStep (reconcileBootArtifacts deps rc)
    afterBoot deps rc) := by
  simp only [provision, hostWork, prepareArtifacts, beforeBoot, afterBoot, bind_assoc]

theorem beforeBoot_eq (hostPath : String) :
    beforeBoot joinDeps (bootedCtx hostPath) = beforeBoot joinDeps (bootedCtx "") := rfl

@[irreducible] def gatedStatus : LibvirtMachineStatus :=
  (run freshMachine (ensureBootstrapData sampleMachine.addFinalizer sampleOwner sampleMachine.status) ()).1.2

@[irreducible] def gatedState : RunState := (bootedCtx "").initialState gatedStatus

theorem gates_pass :
    run freshMachine (createClients joinDeps sampleHost) () = (.ok (), ()) ∧
    run freshMachine (ensureBootstrapData sampleMachine.addFinalizer sampleOwner
      sampleMachine.addFinalizer.status) () = ((none, gatedStatus), ()) ∧
    run freshMachine (resolveAutoSizing sampleMachine.addFinalizer sampleHost gatedStatus) () =
      ((.ok (2, 2048), gatedStatus), ()) ∧
    (run freshMachine ((beforeBoot joinDeps (bootedCtx "")).exec gatedState) ()).1.1 = .ok () := by
  decide +kernel

variable {sha : Sha256} {target hostPath : String} {post : Return × LibvirtMachine → Prop}

theorem provision_of_reconcileNormal
    (h : Emits (resolving sha) (SudoOp target) post
      (reconcileNormal joinDeps sampleMachine sampleOwner sampleCluster (bootedCluster hostPath) sampleHost)) :
    Emits (resolving sha) (SudoOp target) (fun _ => True) (provision joinDeps (bootedCtx hostPath) gatedState) := by
  obtain ⟨hclients, hbootstrap, hsizing, -⟩ := gates_pass
  have hprovision := reconcileNormal_reaches_provision (fun op => freshAnswer_resolving sha op) rfl hclients
    hbootstrap hsizing h
  rw [gatedState]
  exact hprovision

theorem boot_of_provision
    (h : Emits (resolving sha) (SudoOp target) (fun _ => True) (provision joinDeps (bootedCtx hostPath) gatedState)) :
    ∃ st, Emits (resolving sha) (SudoOp target) (fun _ => True)
      (reconcileBootArtifacts joinDeps (bootedCtx hostPath) st) := by
  rw [provision_split, Body.run, Body.bind_exec, beforeBoot_eq] at h
  have hbody := (emits_bind _ _).mp h
  have hready := Emits.bind_run (fun op => freshAnswer_resolving sha op) hbody
  obtain ⟨-, -, -, hok⟩ := gates_pass
  generalize (run freshMachine ((beforeBoot joinDeps (bootedCtx "")).exec gatedState) ()).1 = out at hready hok
  obtain ⟨value, st⟩ := out
  obtain rfl : value = .ok () := hok
  refine ⟨st, ?_⟩
  have hstep := (emits_bind _ _).mp hready
  rw [runStep, Body.call_bind_exec] at hstep
  exact ((emits_bind _ _).mp hstep).post_mono fun _ _ => trivial

def stagedFiles (sha : Sha256) : BootFiles := ⟨[1], sha.hex [1], [1, 2], sha.hex [1, 2]⟩

theorem resolved_stagedFiles (sha : Sha256) : Resolved sha (stagedFiles sha) :=
  ⟨sampleNetwork, sampleSource false, none, rfl⟩

theorem hostPath_of_boot {st : RunState} (hrooted : Path.rooted hostPath = true)
    (h : Emits (resolving sha) (SudoOp target) (fun _ => True)
      (reconcileBootArtifacts joinDeps (bootedCtx hostPath) st)) : inRunDir (Path.clean hostPath) := by
  have hloaded := ((emits_ask _ _).mp h).2 (some (stagedFiles sha))
    fun files hfiles => Option.some.inj hfiles ▸ resolved_stagedFiles sha
  have habsent := ((emits_ask _ _).mp hloaded).2 (.ok false) trivial
  have hwrite : CallAllowed "" target (.writeRemoteFile
      (kernelPath joinDeps ⟨hostPath, "", sampleSource false⟩ (stagedFiles sha)) (stagedFiles sha).kernelBytes) :=
    ((emits_ask _ _).mp habsent).1 ""
  have hunder := (writeRemoteFile_allowed_iff _).mp hwrite
  rw [kernelPath, joinDeps_pathJoin] at hunder
  exact (bootDir_iff hrooted (sha.isName_hex [1]) isName_vmlinuz).mp hunder

def firstCall {α : Type} : Prog signature α → Option ClientCall
  | .ask (.client _ call) _ => some call
  | _ => none

theorem callAllowed_of_firstCall {prog : Prog signature (Return × LibvirtMachine)} {call : ClientCall}
    (h : Emits anyReply (SudoOp target) post prog) (hcall : firstCall prog = some call) (connURI : String) :
    CallAllowed connURI target call := by
  unfold firstCall at hcall
  split at hcall
  · obtain rfl := Option.some.inj hcall
    exact h.1 connURI
  · cases hcall

theorem target_of_deletion
    (h : Emits anyReply (SudoOp target) post
      (reconcileDelete joinDeps ephemeralMachine.addFinalizer sampleCluster sampleHost)) :
    target = "" ∨ underRunDir target = true := by
  have hcall : firstCall (runFor freshMachine 6
      (reconcileDelete joinDeps ephemeralMachine.addFinalizer sampleCluster sampleHost) ()).1 =
      some (.destroyPool "ns-c-m-pool") := by
    decide +kernel
  have hallowed := callAllowed_of_firstCall (h.runFor (fun _ => trivial) 6) hcall ""
  exact (destroyPool_allowed_iff target).mp hallowed

end Exactness

-- The playbook's rules cover the run directory alone, while the path of the boot artifacts and
-- the target of a pool that is torn down can be anywhere.
theorem sudo_commands_allowed_iff (sha : Sha256) (target : String) {hostPath : String}
    (hpattern : hostPathPattern hostPath = true) :
    OnlyAllowed sha hostPath target ↔
      inRunDir (Path.clean hostPath) ∧ (target = "" ∨ underRunDir target = true) := by
  have hrooted := rooted_of_hostPathPattern hpattern
  constructor
  · intro h
    obtain ⟨hnormal, -⟩ := h joinDeps sampleMachine sampleOwner sampleCluster (bootedCluster hostPath) sampleHost rfl
      fun ba hba => Option.some.inj hba ▸ rfl
    obtain ⟨-, hdelete⟩ := h joinDeps ephemeralMachine.addFinalizer sampleOwner sampleCluster (bootedCluster hostPath)
      sampleHost rfl fun ba hba => Option.some.inj hba ▸ rfl
    obtain ⟨st, hboot⟩ := boot_of_provision (provision_of_reconcileNormal hnormal)
    exact ⟨hostPath_of_boot hrooted hboot, target_of_deletion hdelete⟩
  · rintro ⟨hdir, htarget⟩ deps lm machine cluster libvirtCluster host hjoin hpath
    refine ⟨reconcileNormal_sudo hjoin (fun ba hba => ?_) htarget, reconcileDelete_sudo htarget⟩
    rw [hpath ba hba]
    exact ⟨hrooted, hdir⟩

theorem sudo_commands_allowed_sample :
    hostPathPattern "/run/caplv/boot/" = true ∧ OnlyAllowed sampleSha "/run/caplv/boot/" "/run/caplv/ns-c-m" :=
  ⟨by decide +kernel, (sudo_commands_allowed_iff sampleSha "/run/caplv/ns-c-m" (by decide +kernel)).mpr
    ⟨.inr (by decide +kernel), .inr (by decide +kernel)⟩⟩

def cachedAnswer : (op : Op) → Reply op
  | .loadArtifacts _ => some (stagedFiles sampleSha)
  | op => freshAnswer op

def documentedKernel : String := "/var/lib/caplv/boot/" ++ sampleSha.hex [1] ++ "/vmlinuz"

-- The path of the README's example.
theorem documented_path_denied :
    hostPathPattern "/var/lib/caplv/boot" = true ∧ (∀ op, resolving sampleSha op (cachedAnswer op)) ∧
    firstCall (runFor (oracle cachedAnswer) 16 (reconcileNormal joinDeps sampleMachine sampleOwner sampleCluster
      (bootedCluster "/var/lib/caplv/boot") sampleHost) ()).1 = some (.writeRemoteFile documentedKernel [1]) ∧
    ¬ CallAllowed "" "" (.writeRemoteFile documentedKernel [1]) := by
  refine ⟨by decide +kernel, fun op => ?_, by decide +kernel, fun hallowed => ?_⟩
  · cases op with
    | loadArtifacts key => exact fun files hfiles => Option.some.inj hfiles ▸ resolved_stagedFiles sampleSha
    | resolveArtifacts => exact nofun
    | _ => trivial
  · exact absurd ((writeRemoteFile_allowed_iff [1]).mp hallowed) (by decide +kernel)

end Caplv.Controller

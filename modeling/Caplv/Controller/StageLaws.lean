import Caplv.Controller.Stages

namespace Caplv.Controller

open Text Api Libvirt Scope Program

-- What the steps after the root disk leave as it is: every pool, every volume there is, and
-- the base image even where it is missing.
structure Spares (rc : ReconcileCtx) (before after : Host) : Prop where
  grows : Host.Grows (fun _ => True) before after
  base : after (.volume rc.baseImagePool rc.spec.rootDisk.baseImage) =
    before (.volume rc.baseImagePool rc.spec.rootDisk.baseImage)

structure Late (rc : ReconcileCtx) (before after : Host) : Prop extends Spares rc before after where
  file : ∀ path data, before (.file path) = some data → after (.file path) = some data

def OffNodes (before after : Host) : Prop :=
  ∀ key, (∀ name, key ≠ .node name) → after key = before key

section Relations

variable {rc : ReconcileCtx} {before middle after : Host}

theorem Spares.refl (h : Host) : Spares rc h h := ⟨.refl h, rfl⟩

theorem Spares.trans (hl : Spares rc before middle) (hr : Spares rc middle after) : Spares rc before after :=
  ⟨hl.grows.trans hr.grows, hr.base.trans hl.base⟩

theorem Late.refl (h : Host) : Late rc h h := ⟨.refl h, fun _ _ hf => hf⟩

theorem Late.trans (hl : Late rc before middle) (hr : Late rc middle after) : Late rc before after :=
  ⟨hl.toSpares.trans hr.toSpares, fun path data hf => hr.file path data (hl.file path data hf)⟩

theorem OffNodes.late (h : OffNodes before after) : Late rc before after where
  grows :=
    ⟨fun name _ => h (.pool name) fun _ => nofun,
      fun pool name _ _ hv => (h (.volume pool name) fun _ => nofun).trans hv⟩
  base := h (.volume _ _) fun _ => nofun
  file path _ hf := (h (.file path) fun _ => nofun).trans hf

theorem late_put_volume {pool name : String} {content : Volume} {h : Host}
    (hne : Key.volume rc.baseImagePool rc.spec.rootDisk.baseImage ≠ .volume pool name) :
    Late rc h (h.put (.volume pool name) content) :=
  ⟨⟨.put_volume, Host.put_of_ne hne⟩, fun _ _ hf => Host.put_of_eq_some hf⟩

theorem late_put_file {path : String} {data : Bytes} {h : Host} : Late rc h (h.put (.file path) data) :=
  ⟨⟨⟨fun _ _ => Host.put_of_ne (by exact nofun), fun _ _ _ _ hv => Host.put_of_eq_some hv⟩,
    Host.put_of_ne (by exact nofun)⟩, fun _ _ hf => Host.put_of_eq_some hf⟩

end Relations

section Laws

variable {newUUID : DomainXML → String} {answers : (op : Op) → Reply op} {deps : Deps}
  {rc : ReconcileCtx} {pools : String → Prop} {h : Host}

theorem poolsStage_settles (hpools : ∀ pool ∈ requiredPools rc, pools pool.name) :
    (poolsStage rc).Settles (Host.Grows pools) := by
  refine Stage.check_settles fun before later hok hgrows pool hpool => ?_
  rw [hgrows.pool pool.name (hpools pool hpool)]
  exact hok pool hpool

theorem volumeStage_settles {pool name : String} {content : Option Volume} (hpool : pools pool) :
    (volumeStage pool name content).Settles (Host.Grows pools) := by
  refine Stage.once_settles fun _ before later hok hgrows => ?_
  have hseen : later.seen pool name = some true := by
    refine hgrows.seen_true hpool ?_
    rcases hok with hseen | ⟨husable, hcontent⟩
    · rw [provide_of_seen hseen]
      exact hseen
    · obtain ⟨volume, rfl⟩ := Option.isSome_iff_exists.mp hcontent
      exact Host.put_seen husable _
  exact ⟨.inl hseen, rfl, provide_of_seen hseen⟩

theorem imageStage_steady (hpools : ∀ image, rc.libvirtCluster.baseImage = some image → pools image.pool) :
    (imageStage answers deps rc).Steady (Host.Grows pools) := by
  rw [imageStage]
  split
  · exact Stage.assign_steady .refl
  · split
    · exact Stage.once_steady .refl (fun _ before _ => provide_grows _ before)
        (volumeStage_settles (hpools _ ‹_›))
    · exact Stage.stop_steady

theorem ensuredPool_cases (h : Host) (name path : String) :
    (h.Usable name ∧ ensuredPool h name path = h) ∨
    (∃ p : Pool, ensuredPool h name path = h.set (.pool name) { p with active := true }) ∨
    (h (.pool name) = none ∧ ensuredPool h name path = (h.createTmpfsPool name path).2) ∨
    (Stale h name ∧ ensuredPool h name path = ((h.destroyPool name).2.createTmpfsPool name path).2) := by
  cases hpool : h (.pool name) with
  | none => exact .inr (.inr (.inl ⟨rfl, by rw [ensuredPool, hpool]⟩))
  | some p =>
    cases hactive : p.active with
    | true => exact .inl ⟨⟨p, hpool, hactive⟩, by simp only [ensuredPool, hpool, hactive, if_true]⟩
    | false =>
      cases hmount : h (.mount p.path) with
      | some _ =>
        refine .inr (.inl ⟨p, ?_⟩)
        simp only [ensuredPool, hpool, hactive, Bool.false_eq_true, if_false, hmount]
      | none =>
        refine .inr (.inr (.inr ⟨⟨p, hpool, hactive, hmount⟩, ?_⟩))
        simp only [ensuredPool, hpool, hactive, Bool.false_eq_true, if_false, hmount]

theorem ensuredPool_usable (h : Host) (name path : String) : (ensuredPool h name path).Usable name := by
  rcases ensuredPool_cases h name path with ⟨husable, heq⟩ | ⟨p, heq⟩ | ⟨hnone, heq⟩ | ⟨-, heq⟩
  · rw [heq]
    exact husable
  · rw [heq]
    exact ⟨_, h.set_self _ _, rfl⟩
  · rw [heq]
    exact ⟨_, Host.createTmpfsPool_active hnone path, rfl⟩
  · rw [heq]
    exact ⟨_, Host.createTmpfsPool_active (h.destroyPool_pool name) path, rfl⟩

theorem ensuredPool_grows (h : Host) (name path : String) :
    Host.Grows (· ≠ name) h (ensuredPool h name path) := by
  rcases ensuredPool_cases h name path with ⟨-, heq⟩ | ⟨p, heq⟩ | ⟨-, heq⟩ | ⟨-, heq⟩
  · rw [heq]
    exact .refl h
  · rw [heq]
    exact .set_pool
  · rw [heq]
    exact h.createTmpfsPool_grows name path
  · rw [heq]
    exact (h.destroyPool_grows name).trans (Host.createTmpfsPool_grows _ name path)

theorem ensuredPool_of_usable {name : String} (husable : h.Usable name) (path : String) :
    ensuredPool h name path = h := by
  obtain ⟨p, hp, hactive⟩ := husable
  simp only [ensuredPool, hp, hactive, if_true]

theorem tmpfsStage_within (name path : String) : (tmpfsStage name path).Within (Host.Grows (· ≠ name)) := by
  rintro vars before _ - (rfl | ⟨-, rfl⟩ | rfl)
  · exact .refl _
  · exact before.destroyPool_grows name
  · exact ensuredPool_grows before name path

theorem tmpfsStage_settles (name path : String) :
    (tmpfsStage name path).Settles (Host.Grows fun _ => True) := by
  intro vars before later _ hgrows
  have husable := (hgrows.usable trivial).mpr (ensuredPool_usable before name path)
  exact ⟨trivial, congrArg (Prod.mk vars) (ensuredPool_of_usable husable path)⟩

theorem tmpfsStage_resumes (name path : String) : (tmpfsStage name path).Resumes := by
  rintro vars before _ - (rfl | ⟨⟨p, hp, hactive, hmount⟩, rfl⟩ | rfl)
  · exact ⟨trivial, rfl⟩
  · -- cut between the two: the pool is no longer defined and gets created
    refine ⟨trivial, congrArg (Prod.mk vars) ?_⟩
    rw [ensuredPool, before.destroyPool_pool name]
    simp only [ensuredPool, hp, hactive, Bool.false_eq_true, if_false, hmount]
  · refine ⟨trivial, congrArg (Prod.mk vars) ?_⟩
    exact ensuredPool_of_usable (ensuredPool_usable before name path) path

theorem ephemeralStage_within :
    (ephemeralStage rc).Within (Host.Grows (· ≠ rc.machineScope.ephemeralPoolName)) := by
  rw [ephemeralStage]
  split
  · exact Stage.andThen_within (tmpfsStage_within _ _) (Stage.assign_within .refl)
      fun _ _ _ => Host.Grows.trans
  · exact Stage.assign_within .refl

theorem ephemeralStage_settles : (ephemeralStage rc).Settles (Host.Grows fun _ => True) := by
  rw [ephemeralStage]
  split
  · exact Stage.andThen_settles (tmpfsStage_settles _ _) (Stage.assign_within .refl)
      Stage.assign_settles fun _ _ _ => Host.Grows.trans
  · exact Stage.assign_settles

theorem ephemeralStage_resumes : (ephemeralStage rc).Resumes := by
  rw [ephemeralStage]
  split
  · exact Stage.andThen_resumes (tmpfsStage_resumes _ _) Stage.assign_resumes
      (tmpfsStage_settles _ _) (Stage.assign_within .refl)
  · exact Stage.assign_resumes

theorem createdRoot_grows (pool : String) (h : Host) : Host.Grows pools h (createdRoot rc pool h) := by
  rw [createdRoot]
  split
  · exact provide_grows _ h
  · exact .put_volume

theorem ensuredRoot_of_found {pool : String} (hroot : h.seen pool rc.rootDiskVolume = some true) :
    ensuredRoot rc pool h = h :=
  if_neg (by simp [hroot])

theorem ensuredRoot_of_missing (pool : String)
    (hbase : h.seen rc.baseImagePool rc.spec.rootDisk.baseImage = some false) : ensuredRoot rc pool h = h :=
  if_neg (by simp [hbase])

theorem ensuredRoot_of_cloned (pool : String) (hclone : rc.spec.rootDisk.cloneStrategy = .fullClone)
    (hcloned : h.seen rc.baseImagePool rc.rootDiskVolume = some true) : ensuredRoot rc pool h = h := by
  rw [ensuredRoot, createdRoot, hclone]
  dsimp only
  rw [provide_of_seen hcloned, ite_self]

theorem ensuredRoot_grows (pool : String) (h : Host) : Host.Grows pools h (ensuredRoot rc pool h) := by
  rw [ensuredRoot]
  split
  · exact createdRoot_grows pool h
  · exact .refl h

theorem rootStage_within : (rootStage rc).Within (Host.Grows fun _ => True) :=
  Stage.once_within .refl fun vars before _ => ensuredRoot_grows vars.storagePool before

theorem createdRoot_seen {pool : String} (hbase : h.seen rc.baseImagePool rc.spec.rootDisk.baseImage = some true)
    (hstrategy : rc.spec.rootDisk.cloneStrategy = .fullClone ∨ h.Usable pool) :
    (rc.spec.rootDisk.cloneStrategy = .fullClone ∧
        (createdRoot rc pool h).seen rc.baseImagePool rc.rootDiskVolume = some true) ∨
      (createdRoot rc pool h).seen pool rc.rootDiskVolume = some true := by
  obtain ⟨husable, hvolume⟩ := Host.seen_eq_true_iff.mp hbase
  obtain ⟨content, hcontent⟩ := Option.isSome_iff_exists.mp hvolume
  cases hclone : rc.spec.rootDisk.cloneStrategy with
  | fullClone =>
    rw [createdRoot, hclone, hcontent]
    exact .inl ⟨rfl, Host.put_seen husable _⟩
  | copyOnWrite =>
    rw [createdRoot, hclone]
    exact .inr (Host.put_seen (hstrategy.resolve_left fun h => nomatch hclone.symm.trans h) _)

-- Once the disk was created, or left out because its base image is missing, the step does
-- nothing as long as the base image does not appear.
theorem rootStage_settles : (rootStage rc).Settles (Spares rc) := by
  refine Stage.once_settles fun vars before later hok hspares => ?_
  rcases hok with hroot | ⟨hroot, hbase | ⟨hbase, hstrategy⟩⟩
  · rw [ensuredRoot_of_found hroot] at hspares
    have hroot' := hspares.grows.seen_true trivial hroot
    exact ⟨.inl hroot', rfl, ensuredRoot_of_found hroot'⟩
  · rw [ensuredRoot_of_missing _ hbase] at hspares
    have hbase' : later.seen rc.baseImagePool rc.spec.rootDisk.baseImage = some false := by
      rw [Host.seen_eq_false_iff, hspares.grows.usable trivial, hspares.grows.pool _ trivial, hspares.base]
      exact Host.seen_eq_false_iff.mp hbase
    refine ⟨?_, rfl, ensuredRoot_of_missing _ hbase'⟩
    rcases hspares.grows.seen_false trivial hroot with hroot' | hroot'
    · exact .inl hroot'
    · exact .inr ⟨hroot', .inl hbase'⟩
  · have hgrows := (ensuredRoot_grows vars.storagePool before).trans hspares.grows
    rw [ensuredRoot, if_pos ⟨hroot, hbase⟩] at hspares
    rcases createdRoot_seen hbase hstrategy with ⟨hclone, hcloned⟩ | hcreated
    · have hcloned' := hspares.grows.seen_true trivial hcloned
      refine ⟨?_, rfl, ensuredRoot_of_cloned _ hclone hcloned'⟩
      rcases hgrows.seen_false trivial hroot with hroot' | hroot'
      · exact .inl hroot'
      · exact .inr ⟨hroot', .inr ⟨hgrows.seen_true trivial hbase, .inl hclone⟩⟩
    · have hcreated' := hspares.grows.seen_true trivial hcreated
      exact ⟨.inl hcreated', rfl, ensuredRoot_of_found hcreated'⟩

theorem rootStage_resumes : (rootStage rc).Resumes := Stage.once_resumes rootStage_settles .refl

-- The base image is not a volume that the machine's own later steps create.
structure BaseImageApart (rc : ReconcileCtx) : Prop where
  iso : rc.spec.bootstrapFormat = .cloudInit →
    Key.volume rc.baseImagePool rc.spec.rootDisk.baseImage ≠ .volume (artifactPool rc) rc.bootstrapISO
  disk : ∀ disk ∈ rc.spec.additionalDisks, Key.volume rc.baseImagePool rc.spec.rootDisk.baseImage ≠
    .volume disk.storagePool (rc.machineScope.additionalDiskVolumeName disk)

theorem ignitionStage_settles (rc : ReconcileCtx) (path : String) (config : Bytes) :
    (ignitionStage path config).Settles (Late rc) := by
  refine Stage.once_settles fun _ before later _ hlate => ⟨trivial, rfl, ?_⟩
  exact Host.set_eq_self (hlate.file path config (before.set_self _ _))

theorem isoStage_settles (pool name : String) (iso : Option Volume) :
    (isoStage pool name iso).Settles (Host.Grows fun _ => True) := by
  refine Stage.once_settles fun _ before later hok hgrows => ?_
  cases iso with
  | none =>
    refine ⟨?_, rfl, rfl⟩
    rcases hok with hseen | ⟨hseen, -⟩
    · exact .inl (hgrows.seen_true trivial hseen)
    · exact (hgrows.seen_false trivial hseen).imp id fun hseen' => ⟨hseen', .inl rfl⟩
  | some content =>
    have hseen : later.seen pool name = some true := by
      refine hgrows.seen_true trivial ?_
      rcases hok with hseen | ⟨-, hnone | husable⟩
      · rw [provide_of_seen hseen]
        exact hseen
      · cases hnone
      · exact Host.put_seen husable _
    exact ⟨.inl hseen, rfl, provide_of_seen hseen⟩

theorem bootstrapStage_within (hapart : BaseImageApart rc) :
    (bootstrapStage answers deps rc).Within (Spares rc) := by
  refine Stage.ofResult_within _ fun bootstrapData => ?_
  split
  · refine Stage.once_within .refl fun _ before _ => ⟨⟨fun _ _ => ?_, fun _ _ _ _ hv => ?_⟩, ?_⟩
    · exact before.set_of_ne _ (by exact nofun)
    · exact (before.set_of_ne _ (by exact nofun)).trans hv
    · exact before.set_of_ne _ (by exact nofun)
  · rename_i hformat
    refine Stage.once_within .refl fun _ before _ => ⟨provide_grows _ before, ?_⟩
    cases builtISO answers rc bootstrapData with
    | none => rfl
    | some content => exact Host.put_of_ne (hapart.iso hformat)
  · exact Stage.assign_within .refl

theorem bootstrapStage_settles : (bootstrapStage answers deps rc).Settles (Late rc) := by
  refine Stage.ofResult_settles _ fun bootstrapData => ?_
  split
  · exact ignitionStage_settles rc _ _
  · exact (isoStage_settles _ _ _).mono fun _ _ hlate => hlate.grows
  · exact Stage.assign_settles

theorem bootstrapStage_resumes : (bootstrapStage answers deps rc).Resumes := by
  refine Stage.ofResult_resumes _ fun bootstrapData => ?_
  split
  · exact Stage.once_resumes (ignitionStage_settles rc _ _) .refl
  · exact Stage.once_resumes (isoStage_settles _ _ _) .refl
  · exact Stage.assign_resumes

theorem diskStage_settles (disk : AdditionalDiskSpec) : (diskStage rc disk).Settles (Late rc) := by
  refine Stage.once_settles fun vars before later husable hlate => ?_
  have hgrows := (Host.Grows.put_volume).trans hlate.grows
  have hseen := hlate.grows.seen_true trivial (Host.put_seen husable _)
  refine ⟨(hgrows.usable trivial).mpr husable, ?_, Host.put_of_isSome (Host.seen_eq_true_iff.mp hseen).2⟩
  rw [hgrows.pathOf trivial]

theorem disksStage_steady (hapart : BaseImageApart rc) : (disksStage rc).Steady (Late rc) := by
  refine Stage.each_steady (fun disk hdisk => ?_) .refl fun _ _ _ => Late.trans
  exact Stage.once_steady .refl (fun _ _ _ => late_put_volume (hapart.disk disk hdisk))
    (diskStage_settles disk)

theorem fileStage_settles (path : String) (data : Bytes) : (fileStage path data).Settles (Late rc) := by
  refine Stage.once_settles fun _ before later _ hlate => ⟨trivial, rfl, Host.put_of_isSome ?_⟩
  obtain ⟨old, hold⟩ := Option.isSome_iff_exists.mp (before.put_isSome (.file path) data)
  rw [hlate.file path old hold]
  rfl

theorem fileStage_steady (path : String) (data : Bytes) : (fileStage path data).Steady (Late rc) :=
  Stage.once_steady .refl (fun _ _ _ => late_put_file) (fileStage_settles path data)

theorem bootFilesStage_steady (ba : BootArtifactsSpec) (files : BootFiles) :
    (bootFilesStage deps ba files).Steady (Late rc) :=
  (fileStage_steady _ _).andThen
    ((fileStage_steady _ _).andThen (Stage.assign_steady .refl) fun _ _ _ => Late.trans)
    fun _ _ _ => Late.trans

theorem bootStage_steady : (bootStage answers deps rc).Steady (Late rc) := by
  rw [bootStage]
  split
  · exact Stage.assign_steady .refl
  · split
    · exact Stage.ofResult_steady _ fun creds =>
        Stage.ofResult_steady _ fun files => bootFilesStage_steady _ files
    · exact Stage.stop_steady

theorem startedDomain_late (h : Host) : Late rc h (startedDomain rc h) := by
  rw [startedDomain]
  split
  · refine ⟨⟨⟨fun _ _ => ?_, fun _ _ _ _ hv => ?_⟩, ?_⟩, fun _ _ hf => ?_⟩
    · exact h.set_of_ne _ (by exact nofun)
    · exact (h.set_of_ne _ (by exact nofun)).trans hv
    · exact h.set_of_ne _ (by exact nofun)
    · exact (h.set_of_ne _ (by exact nofun)).trans hf
  · exact .refl h

theorem definedDomain_late (vars : RunState) (h : Host) : Late rc h (definedDomain newUUID deps rc vars h) :=
  ⟨⟨⟨fun _ _ => Host.put_of_ne (by exact nofun), fun _ _ _ _ hv => Host.put_of_eq_some hv⟩,
    Host.put_of_ne (by exact nofun)⟩, fun _ _ hf => Host.put_of_eq_some hf⟩

theorem domainStage_within : (domainStage newUUID deps rc).Within (Late rc) := by
  rintro vars before _ - (rfl | rfl | rfl)
  · exact .refl _
  · exact definedDomain_late vars before
  · exact (definedDomain_late vars before).trans (startedDomain_late _)

theorem domainStage_next_of_defined {vars : RunState} (hdefined : (h (.domain rc.domainName)).isSome = true) :
    (domainStage newUUID deps rc).next vars h = (vars, startedDomain rc h) := by
  change (vars, startedDomain rc (definedDomain newUUID deps rc vars h)) = _
  rw [definedDomain, Host.put_of_isSome hdefined]

theorem startedDomain_running {d : Domain} (hd : h (.domain rc.domainName) = some d) :
    startedDomain rc h (.domain rc.domainName) = some { d with running := true } := by
  simp only [startedDomain, hd, Host.set_self]

theorem startedDomain_of_running {d : Domain} (hd : h (.domain rc.domainName) = some d)
    (hrunning : d.running = true) : startedDomain rc h = h := by
  simp only [startedDomain, hd]
  refine Host.set_eq_self (hd.trans ?_)
  rw [← hrunning]

theorem domainStage_settles : (domainStage newUUID deps rc).Settles OffNodes := by
  intro vars before later _ hoff
  obtain ⟨d, hd⟩ := Option.isSome_iff_exists.mp (before.put_isSome (.domain rc.domainName)
    ⟨definition deps rc vars before, newUUID (definition deps rc vars before), false⟩)
  have hrunning : later (.domain rc.domainName) = some { d with running := true } :=
    (hoff (.domain _) fun _ => nofun).trans (startedDomain_running hd)
  have hdefined : (later (.domain rc.domainName)).isSome = true := by
    rw [hrunning]
    rfl
  refine ⟨.inl hdefined, ?_⟩
  rw [domainStage_next_of_defined hdefined, startedDomain_of_running hrunning rfl]
  rfl

theorem domainStage_resumes : (domainStage newUUID deps rc).Resumes := by
  rintro vars before _ hok (rfl | rfl | rfl)
  · exact ⟨hok, rfl⟩
  · have hdefined := before.put_isSome (.domain rc.domainName)
      ⟨definition deps rc vars before, newUUID (definition deps rc vars before), false⟩
    exact ⟨.inl hdefined, domainStage_next_of_defined hdefined⟩
  · exact domainStage_settles vars before _ hok fun _ _ => rfl

def PoolsApart (rc : ReconcileCtx) : Prop :=
  ∀ pool ∈ referencedPools rc, pool.name ≠ rc.machineScope.ephemeralPoolName

theorem mem_foldl_addRequired {pool : RequiredPool} (pools required : List RequiredPool)
    (h : pool ∈ pools.foldl addRequired required) : pool ∈ required ∨ pool ∈ pools := by
  induction pools generalizing required with
  | nil => exact .inl h
  | cons head rest ih =>
    rcases ih (addRequired required head) h with hadded | hrest
    · rw [addRequired] at hadded
      split at hadded
      · exact .inl hadded
      · rcases List.mem_append.mp hadded with hold | hnew
        · exact .inl hold
        · exact .inr (List.mem_cons.mpr (.inl (List.mem_singleton.mp hnew)))
    · exact .inr (List.mem_cons_of_mem _ hrest)

theorem PoolsApart.required (h : PoolsApart rc) (pool : RequiredPool) (hpool : pool ∈ requiredPools rc) :
    pool.name ≠ rc.machineScope.ephemeralPoolName :=
  h pool ((mem_foldl_addRequired _ _ hpool).resolve_left List.not_mem_nil)

theorem PoolsApart.image (h : PoolsApart rc) (image : BaseImageSpec)
    (himage : rc.libvirtCluster.baseImage = some image) : image.pool ≠ rc.machineScope.ephemeralPoolName := by
  refine h ⟨image.pool, "base image", .baseImagePoolNotFound⟩ ?_
  simp only [referencedPools, himage, List.mem_append, List.mem_singleton, true_or]

section Sequence

theorem Spares.grows_apart {before after : Host} (h : Spares rc before after) :
    Host.Grows (· ≠ rc.machineScope.ephemeralPoolName) before after :=
  h.grows.mono fun _ _ => trivial

theorem rootDiskStage_within : ((ephemeralStage rc).andThen (rootStage rc)).Within
    (Host.Grows (· ≠ rc.machineScope.ephemeralPoolName)) :=
  Stage.andThen_within ephemeralStage_within
    (rootStage_within.mono fun _ _ h => h.mono fun _ _ => trivial) fun _ _ _ => Host.Grows.trans

theorem rootDiskStage_settles : ((ephemeralStage rc).andThen (rootStage rc)).Settles (Spares rc) :=
  Stage.andThen_settles ephemeralStage_settles rootStage_within rootStage_settles
    fun _ _ _ hgrows hspares => hgrows.trans hspares.grows

theorem rootDiskStage_resumes : ((ephemeralStage rc).andThen (rootStage rc)).Resumes :=
  Stage.andThen_resumes ephemeralStage_resumes rootStage_resumes ephemeralStage_settles rootStage_within

theorem imageStage_apart (hpools : PoolsApart rc) : (imageStage answers deps rc).Steady
    (Host.Grows (· ≠ rc.machineScope.ephemeralPoolName)) :=
  imageStage_steady hpools.image

variable (hapart : BaseImageApart rc) (hpools : PoolsApart rc)
include hapart

theorem lateStage_steady : ((disksStage rc).andThen (bootStage answers deps rc)).Steady (Late rc) :=
  (disksStage_steady hapart).andThen bootStage_steady fun _ _ _ => Late.trans

theorem bootstrapOn_within : ((bootstrapStage answers deps rc).andThen
    ((disksStage rc).andThen (bootStage answers deps rc))).Within (Spares rc) :=
  Stage.andThen_within (bootstrapStage_within hapart)
    ((lateStage_steady hapart).within.mono fun _ _ h => h.toSpares) fun _ _ _ => Spares.trans

theorem bootstrapOn_settles : ((bootstrapStage answers deps rc).andThen
    ((disksStage rc).andThen (bootStage answers deps rc))).Settles (Late rc) :=
  Stage.andThen_settles bootstrapStage_settles (lateStage_steady hapart).within
    (lateStage_steady hapart).settles fun _ _ _ => Late.trans

theorem bootstrapOn_resumes : ((bootstrapStage answers deps rc).andThen
    ((disksStage rc).andThen (bootStage answers deps rc))).Resumes :=
  Stage.andThen_resumes bootstrapStage_resumes (lateStage_steady hapart).resumes
    bootstrapStage_settles (lateStage_steady hapart).within

include hpools

theorem artifactsStage_within : (artifactsStage answers deps rc).Within
    (Host.Grows (· ≠ rc.machineScope.ephemeralPoolName)) := by
  refine Stage.andThen_within (imageStage_apart hpools).within ?_ fun _ _ _ => Host.Grows.trans
  exact Stage.andThen_within rootDiskStage_within
    ((bootstrapOn_within hapart).mono fun _ _ h => h.grows_apart) fun _ _ _ => Host.Grows.trans

theorem artifactsStage_settles : (artifactsStage answers deps rc).Settles (Late rc) := by
  refine Stage.andThen_settles (imageStage_apart hpools).settles ?_ ?_
    fun _ _ _ hgrows hlate => hgrows.trans hlate.grows_apart
  · exact Stage.andThen_within rootDiskStage_within
      ((bootstrapOn_within hapart).mono fun _ _ h => h.grows_apart) fun _ _ _ => Host.Grows.trans
  · exact Stage.andThen_settles rootDiskStage_settles (bootstrapOn_within hapart)
      (bootstrapOn_settles hapart) fun _ _ _ hspares hlate => hspares.trans hlate.toSpares

theorem artifactsStage_resumes : (artifactsStage answers deps rc).Resumes := by
  refine Stage.andThen_resumes (imageStage_apart hpools).resumes ?_
    (imageStage_apart hpools).settles ?_
  · exact Stage.andThen_resumes rootDiskStage_resumes (bootstrapOn_resumes hapart)
      rootDiskStage_settles (bootstrapOn_within hapart)
  · exact Stage.andThen_within rootDiskStage_within
      ((bootstrapOn_within hapart).mono fun _ _ h => h.grows_apart) fun _ _ _ => Host.Grows.trans

theorem hostWorkStage_within :
    ((artifactsStage answers deps rc).andThen (domainStage newUUID deps rc)).Within
      (Host.Grows (· ≠ rc.machineScope.ephemeralPoolName)) :=
  Stage.andThen_within (artifactsStage_within hapart hpools)
    (domainStage_within.mono fun _ _ h => h.grows_apart) fun _ _ _ => Host.Grows.trans

theorem provisionStage_settles : (provisionStage newUUID answers deps rc).Settles OffNodes := by
  refine Stage.andThen_settles (poolsStage_settles hpools.required)
    (hostWorkStage_within hapart hpools) ?_ fun _ _ _ hgrows hoff => hgrows.trans hoff.late.grows_apart
  exact Stage.andThen_settles (artifactsStage_settles hapart hpools) domainStage_within
    domainStage_settles fun _ _ _ hlate hoff => hlate.trans hoff.late

theorem provisionStage_resumes : (provisionStage newUUID answers deps rc).Resumes := by
  refine Stage.andThen_resumes Stage.check_resumes ?_ (poolsStage_settles hpools.required)
    (hostWorkStage_within hapart hpools)
  exact Stage.andThen_resumes (artifactsStage_resumes hapart hpools) domainStage_resumes
    (artifactsStage_settles hapart hpools) domainStage_within

end Sequence

end Laws

end Caplv.Controller

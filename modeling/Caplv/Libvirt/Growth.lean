import Caplv.Libvirt.Host

namespace Caplv.Libvirt.Host

-- What volumeExists reports, if the pool is not defined and inactive.
def seen (h : Host) (pool name : String) : Option Bool :=
  match h (.pool pool) with
  | none => some false
  | some p => if p.active then some (h (.volume pool name)).isSome else none

def Usable (h : Host) (pool : String) : Prop := ∃ p, h (.pool pool) = some p ∧ p.active = true

def pathOf (h : Host) (pool name : String) : String :=
  match h (.pool pool) with
  | some p => p.path ++ "/" ++ name
  | none => name

-- What is there already stays.
def put (h : Host) (key : Key) (value : key.Value) : Host :=
  match h key with
  | some _ => h
  | none => h.set key value

variable {h : Host} {pool name : String}

theorem seen_eq_true_iff :
    h.seen pool name = some true ↔ h.Usable pool ∧ (h (.volume pool name)).isSome = true := by
  cases hpool : h (.pool pool) with
  | none => simp [seen, Usable, hpool]
  | some p => cases hactive : p.active <;> simp [seen, Usable, hpool, hactive]

theorem seen_eq_false_iff :
    h.seen pool name = some false ↔
      h (.pool pool) = none ∨ (h.Usable pool ∧ h (.volume pool name) = none) := by
  cases hpool : h (.pool pool) with
  | none => simp [seen, hpool]
  | some p => cases hactive : p.active <;> simp [seen, Usable, hpool, hactive]

theorem put_of_isSome {key : Key} {value : key.Value} (hkey : (h key).isSome = true) :
    h.put key value = h := by
  obtain ⟨old, hold⟩ := Option.isSome_iff_exists.mp hkey
  rw [put, hold]

theorem put_of_eq_none {key : Key} {value : key.Value} (hkey : h key = none) :
    h.put key value = h.set key value := by
  rw [put, hkey]

theorem put_isSome (h : Host) (key : Key) (value : key.Value) :
    (h.put key value key).isSome = true := by
  cases hkey : h key with
  | none => rw [put_of_eq_none hkey, set_self, Option.isSome_some]
  | some old =>
    rw [put_of_isSome (by rw [hkey]; rfl), hkey]
    rfl

theorem put_of_ne {key other : Key} {value : key.Value} (hne : other ≠ key) :
    h.put key value other = h other := by
  cases hkey : h key with
  | none => rw [put_of_eq_none hkey, set_of_ne _ _ hne]
  | some old => rw [put_of_isSome (by rw [hkey]; rfl)]

theorem put_of_eq_some {key other : Key} {value : key.Value} {old : other.Value}
    (hold : h other = some old) : h.put key value other = some old := by
  rcases eq_or_ne other key with rfl | hne
  · rw [put_of_isSome (by rw [hold]; rfl), hold]
  · rw [put_of_ne hne, hold]

theorem set_eq_self {key : Key} {value : key.Value} (hkey : h key = some value) :
    h.set key value = h := by
  rw [set, ← hkey]
  exact Function.update_eq_self key h

-- Nothing happened to these pools and no volume of them was lost or changed.
structure Grows (pools : String → Prop) (before after : Host) : Prop where
  pool : ∀ name, pools name → after (.pool name) = before (.pool name)
  volume : ∀ pool name volume, pools pool → before (.volume pool name) = some volume →
    after (.volume pool name) = some volume

namespace Grows

variable {pools : String → Prop} {before middle after : Host}

theorem refl (h : Host) : Grows pools h h := ⟨fun _ _ => rfl, fun _ _ _ _ hv => hv⟩

theorem trans (hl : Grows pools before middle) (hr : Grows pools middle after) :
    Grows pools before after :=
  ⟨fun name hname => (hr.pool name hname).trans (hl.pool name hname),
    fun pool name volume hpool hv => hr.volume pool name volume hpool (hl.volume pool name volume hpool hv)⟩

theorem mono {pools' : String → Prop} (h : Grows pools before after)
    (hpools : ∀ name, pools' name → pools name) : Grows pools' before after :=
  ⟨fun name hname => h.pool name (hpools name hname),
    fun pool name volume hpool hv => h.volume pool name volume (hpools pool hpool) hv⟩

theorem usable (h : Grows pools before after) (hpool : pools pool) :
    after.Usable pool ↔ before.Usable pool := by
  rw [Usable, Usable, h.pool pool hpool]

theorem seen_true (h : Grows pools before after) (hpool : pools pool)
    (hseen : before.seen pool name = some true) : after.seen pool name = some true := by
  rw [seen_eq_true_iff] at hseen ⊢
  obtain ⟨volume, hvolume⟩ := Option.isSome_iff_exists.mp hseen.2
  rw [h.volume pool name volume hpool hvolume]
  exact ⟨(h.usable hpool).mpr hseen.1, rfl⟩

-- A volume that was looked for and not found may be there later, or not yet.
theorem seen_false (h : Grows pools before after) (hpool : pools pool)
    (hseen : before.seen pool name = some false) :
    after.seen pool name = some true ∨ after.seen pool name = some false := by
  rw [seen_eq_true_iff, seen_eq_false_iff, h.usable hpool, h.pool pool hpool]
  rw [seen_eq_false_iff] at hseen
  rcases hseen with hnone | ⟨husable, -⟩
  · exact .inr (.inl hnone)
  · cases hvolume : after (.volume pool name) with
    | none => exact .inr (.inr ⟨husable, rfl⟩)
    | some volume => exact .inl ⟨husable, rfl⟩

theorem pathOf (h : Grows pools before after) (hpool : pools pool) :
    after.pathOf pool name = before.pathOf pool name := by
  rw [Host.pathOf, Host.pathOf, h.pool pool hpool]

theorem put_volume {content : Volume} :
    Grows pools before (before.put (.volume pool name) content) :=
  ⟨fun _ _ => put_of_ne (by exact nofun), fun _ _ _ _ hv => put_of_eq_some hv⟩

theorem clear_volumesOf : Grows (· ≠ name) h (h.clear (volumesOf name)) := by
  refine ⟨fun _ _ => rfl, fun pool _ _ hpool hv => ?_⟩
  rw [clear_apply, if_neg, hv]
  rw [volumesOf, beq_iff_eq]
  exact hpool

theorem clear_filesUnder (path : String) : Grows pools h (h.clear (filesUnder path)) :=
  ⟨fun _ _ => rfl, fun _ _ _ _ hv => hv⟩

theorem set_pool {p : Pool} : Grows (· ≠ name) h (h.set (.pool name) p) :=
  ⟨fun _ hne => h.set_of_ne _ fun heq => hne (Key.pool.inj heq),
    fun _ _ _ _ hv => (h.set_of_ne _ (by exact nofun)).trans hv⟩

theorem set_mount (path : String) : Grows pools h (h.set (.mount path) ()) :=
  ⟨fun _ _ => h.set_of_ne _ (by exact nofun),
    fun _ _ _ _ hv => (h.set_of_ne _ (by exact nofun)).trans hv⟩

theorem erase_pool : Grows (· ≠ name) h (h.erase (.pool name)) :=
  ⟨fun _ hne => h.erase_of_ne fun heq => hne (Key.pool.inj heq),
    fun _ _ _ _ hv => (h.erase_of_ne (by exact nofun)).trans hv⟩

theorem unmount (path : String) : Grows pools h (h.unmount path) := by
  rw [Host.unmount]
  split
  · refine (clear_filesUnder path).trans ⟨fun _ _ => Host.erase_of_ne _ (by exact nofun), ?_⟩
    exact fun _ _ _ _ hv => (Host.erase_of_ne _ (by exact nofun)).trans hv
  · exact refl h

end Grows

theorem put_seen (husable : h.Usable pool) (content : Volume) :
    (h.put (.volume pool name) content).seen pool name = some true := by
  have hgrows : Grows (fun _ => True) h (h.put (.volume pool name) content) := .put_volume
  exact seen_eq_true_iff.mpr ⟨(hgrows.usable trivial).mpr husable, h.put_isSome _ _⟩

theorem put_pathOf {other file : String} (content : Volume) :
    (h.put (.volume pool name) content).pathOf other file = h.pathOf other file := by
  have hgrows : Grows (fun _ => True) h (h.put (.volume pool name) content) := .put_volume
  exact hgrows.pathOf trivial

section Pools

theorem createTmpfsPool_grows (h : Host) (name path : String) :
    Grows (· ≠ name) h (h.createTmpfsPool name path).2 := by
  rw [createTmpfsPool]
  split
  · exact .refl h
  · exact (((Grows.clear_filesUnder path).trans .clear_volumesOf).trans (.set_mount path)).trans
      .set_pool

theorem createTmpfsPool_active {name : String} (hnone : h (.pool name) = none) (path : String) :
    (h.createTmpfsPool name path).2 (.pool name) = some ⟨path, true⟩ := by
  rw [createTmpfsPool, hnone]
  exact Host.set_self _ _ _

theorem destroyPool_grows (h : Host) (name : String) : Grows (· ≠ name) h (h.destroyPool name).2 := by
  rw [destroyPool]
  split
  · exact .refl h
  · have herased : Grows (· ≠ name) h ((h.clear (volumesOf name)).erase (.pool name)) :=
      Grows.clear_volumesOf.trans .erase_pool
    dsimp only
    split
    · exact herased
    · exact herased.trans (.unmount _)

theorem destroyPool_pool (h : Host) (name : String) : (h.destroyPool name).2 (.pool name) = none := by
  rw [destroyPool]
  split
  · assumption
  · have herased : (h.clear (volumesOf name)).erase (.pool name) (.pool name) = none := erase_self _ _
    dsimp only
    split
    · exact herased
    · rename_i p hp hpath
      have hgrows (x : Host) : Grows (fun _ => True) x (x.unmount p.path) := .unmount p.path
      exact ((hgrows _).pool name trivial).trans herased

end Pools

section Calls

variable {newUUID : DomainXML → String}

theorem poolFailure_eq_none (husable : h.Usable pool) : h.poolFailure pool = none := by
  obtain ⟨p, hp, hactive⟩ := husable
  simp only [poolFailure, hp, hactive, if_true]

theorem lookupVolume_of_seen (hseen : h.seen pool name = some true) :
    ∃ volume, h (.volume pool name) = some volume ∧ h.lookupVolume pool name = .ok volume := by
  obtain ⟨husable, hvolume⟩ := seen_eq_true_iff.mp hseen
  obtain ⟨volume, hvolume⟩ := Option.isSome_iff_exists.mp hvolume
  exact ⟨volume, hvolume, by simp only [lookupVolume, poolFailure_eq_none husable, hvolume]⟩

theorem lookupVolume_of_missing (hseen : h.seen pool name = some false) :
    h.lookupVolume pool name = .error noPool ∨ h.lookupVolume pool name = .error noVolume := by
  rcases seen_eq_false_iff.mp hseen with hnone | ⟨husable, hvolume⟩
  · exact .inl (by simp only [lookupVolume, poolFailure, hnone])
  · exact .inr (by simp only [lookupVolume, poolFailure_eq_none husable, hvolume])

theorem lookupVolume_of_inactive (hseen : h.seen pool name = none) :
    h.lookupVolume pool name = .error inactivePool := by
  cases hpool : h (.pool pool) with
  | none => simp [seen, hpool] at hseen
  | some p => cases hactive : p.active <;> simp_all [seen, lookupVolume, poolFailure]

theorem call_volumeExists_found (hseen : h.seen pool name = some true) :
    h.call newUUID (.volumeExists pool name) = (.ok true, h) := by
  obtain ⟨volume, -, hlookup⟩ := lookupVolume_of_seen hseen
  simp only [call, hlookup]

theorem call_volumeExists_missing (hseen : h.seen pool name = some false) :
    h.call newUUID (.volumeExists pool name) = (.ok false, h) := by
  rcases lookupVolume_of_missing hseen with hlookup | hlookup
  · simp only [call, hlookup, existsOrError, isNotFound_classifyVirshError, (category_eq noPool : _ = .notFound)]
    rfl
  · simp only [call, hlookup, existsOrError, isNotFound_classifyVirshError, (category_eq noVolume : _ = .notFound)]
    rfl

theorem call_volumeExists_inactive (hseen : h.seen pool name = none) :
    h.call newUUID (.volumeExists pool name) =
      (.error (classifyVirshError inactivePool "vol-info" pool), h) := by
  simp only [call, lookupVolume_of_inactive hseen, existsOrError, isNotFound_classifyVirshError,
    (category_eq inactivePool : _ = .transient)]
  rfl

theorem call_getVolumePath_found (hseen : h.seen pool name = some true) :
    h.call newUUID (.getVolumePath pool name) = (.ok (h.pathOf pool name), h) := by
  obtain ⟨volume, -, hlookup⟩ := lookupVolume_of_seen hseen
  obtain ⟨p, hp, -⟩ := (seen_eq_true_iff.mp hseen).1
  simp only [call, volumePath, hlookup, hp, pathOf]

theorem call_getVolumePath_missing (hseen : h.seen pool name = some false) :
    ∃ err, h.call newUUID (.getVolumePath pool name) = (.error err, h) ∧ err.isNotFound = true ∧
      err.isTerminal = false := by
  rcases lookupVolume_of_missing hseen with hlookup | hlookup
  · obtain ⟨hfound, hterminal⟩ := classify_notFound "vol-path" pool (category_eq noPool)
    refine ⟨classifyVirshError noPool "vol-path" pool, ?_, hfound, hterminal⟩
    simp only [call, volumePath, hlookup]
  · obtain ⟨hfound, hterminal⟩ := classify_notFound "vol-path" pool (category_eq noVolume)
    refine ⟨classifyVirshError noVolume "vol-path" pool, ?_, hfound, hterminal⟩
    simp only [call, volumePath, hlookup]

theorem call_getVolumePath_inactive (hseen : h.seen pool name = none) :
    ∃ err, h.call newUUID (.getVolumePath pool name) = (.error err, h) ∧ err.isNotFound = false ∧
      err.isTerminal = false := by
  obtain ⟨hfound, hterminal⟩ := classify_transient "vol-path" pool (category_eq inactivePool)
  refine ⟨classifyVirshError inactivePool "vol-path" pool, ?_, hfound, hterminal⟩
  simp only [call, volumePath, lookupVolume_of_inactive hseen]

theorem call_domainExists_defined {d : Domain} (hd : h (.domain name) = some d) :
    h.call newUUID (.domainExists name) = (.ok true, h) := by
  simp only [call, domainInfo, hd, existsOrError]

theorem call_domainExists_missing (hnone : h (.domain name) = none) :
    h.call newUUID (.domainExists name) = (.ok false, h) := by
  simp only [call, domainInfo, hnone, existsOrError, isNotFound_classifyVirshError, (category_eq noDomain : _ = .notFound)]
  rfl

theorem defineDomain_missing {xmlDef : DomainXML} (hname : xmlDef.name = name)
    (hnone : h (.domain name) = none) :
    h.defineDomain newUUID xmlDef = (.ok ⟨name, newUUID xmlDef, "shut off"⟩,
      h.put (.domain name) ⟨xmlDef, newUUID xmlDef, false⟩) := by
  subst hname
  simp only [defineDomain, hnone, put_of_eq_none hnone]

variable {failure : String → GoError} {content : Volume}

theorem createVolume_missing (husable : h.Usable pool) (hnone : h (.volume pool name) = none) :
    h.createVolume pool name failure content = (.ok (), h.put (.volume pool name) content) := by
  simp only [createVolume, poolFailure_eq_none husable, hnone, put_of_eq_none hnone]

theorem createVolume_found (husable : h.Usable pool) (hsome : (h (.volume pool name)).isSome = true) :
    h.createVolume pool name failure content = (.error (failure volumeDefined), h) := by
  obtain ⟨volume, hvolume⟩ := Option.isSome_iff_exists.mp hsome
  simp only [createVolume, poolFailure_eq_none husable, hvolume]

theorem createVolume_noPool (hnone : h (.pool pool) = none) :
    h.createVolume pool name failure content = (.error (failure noPool), h) := by
  simp only [createVolume, poolFailure, hnone]

theorem call_cloneVolume_inactive (newUUID : DomainXML → String) (target : String)
    (hseen : h.seen pool name = none) :
    ∃ err, h.call newUUID (.cloneVolume pool name target) = (.error err, h) ∧ err.isNotFound = false ∧
      err.isTerminal = false := by
  obtain ⟨hfound, hterminal⟩ := classify_transient "vol-clone" pool (category_eq inactivePool)
  refine ⟨classifyVirshError inactivePool "vol-clone" pool, ?_, hfound, hterminal⟩
  simp only [call, cloneVolume, lookupVolume_of_inactive hseen]

theorem call_cloneVolume_missing (newUUID : DomainXML → String) (target : String)
    (hseen : h.seen pool name = some false) :
    ∃ err, h.call newUUID (.cloneVolume pool name target) = (.error err, h) ∧ err.isNotFound = true := by
  rcases lookupVolume_of_missing hseen with hlookup | hlookup
  · refine ⟨classifyVirshError noPool "vol-clone" pool, ?_, (classify_notFound _ _ (category_eq _)).1⟩
    simp only [call, cloneVolume, hlookup]
  · refine ⟨classifyVirshError noVolume "vol-clone" pool, ?_, (classify_notFound _ _ (category_eq _)).1⟩
    simp only [call, cloneVolume, hlookup]

theorem call_cloneVolume_found (newUUID : DomainXML → String) (target : String)
    (hseen : h.seen pool name = some true) :
    ∃ content, h (.volume pool name) = some content ∧
      ((h (.volume pool target) = none ∧
          h.call newUUID (.cloneVolume pool name target) = (.ok (), h.put (.volume pool target) content)) ∨
        ((h (.volume pool target)).isSome = true ∧
          ∃ err, h.call newUUID (.cloneVolume pool name target) = (.error err, h) ∧
            err.isNotFound = false ∧ err.isTerminal = true)) := by
  obtain ⟨content, hcontent, hlookup⟩ := lookupVolume_of_seen hseen
  have husable := (seen_eq_true_iff.mp hseen).1
  refine ⟨content, hcontent, ?_⟩
  simp only [call, cloneVolume, hlookup]
  cases htarget : h (.volume pool target) with
  | none => exact .inl ⟨rfl, createVolume_missing husable htarget⟩
  | some old =>
    obtain ⟨hfound, hterminal⟩ := classify_terminal "vol-clone" pool (category_eq volumeDefined)
    refine .inr ⟨rfl, classifyVirshError volumeDefined "vol-clone" pool, ?_, hfound, hterminal⟩
    exact createVolume_found husable (by rw [htarget]; rfl)

end Calls

end Caplv.Libvirt.Host

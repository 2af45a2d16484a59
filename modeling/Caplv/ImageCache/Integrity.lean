import Caplv.ImageCache.Cache

namespace Caplv.ImageCache

open Text Api Libvirt Controller Program

-- The subdirectories that may be there from the start, and the calls that are made.
structure Given where
  dirs : String → Prop
  calls : ImageCall → Prop

def Fits (given : Given) (key : String) (call : ImageCall) : Prop := call.key = key ∧ given.calls call

variable {ι : Type} {cache : Cache} {sha : Sha256} {given : Given}

section Invariant

structure Delivered (cache : Cache) (sha : Sha256) (files : String → Option Node) (call : ImageCall)
    (entry : CacheEntry) : Prop where
  path : entry.path = Path.join [cache.dir, entry.sha256]
  content : ∃ content, files entry.path = some (.file content) ∧ sha.hex content = entry.sha256
  expected : call.expectedSHA256 ≠ "" → equalFold entry.sha256 call.expectedSHA256 = true

-- The files of the directory other than temporary ones, by name.
def Listed (name : String) : Prop := Path.IsName name ∧ hasPrefix name partPrefix = false

def Cleared (n : Nat) (w : CacheHost ι) : Prop := ∀ path, w.temps path = some n → w.files path = none

structure CacheInv (cache : Cache) (sha : Sha256) (given : Given) (w : CacheHost ι) : Prop where
  named : ∀ name content, Listed name →
    w.files (Path.join [cache.dir, name]) = some (.file content) → name = sha.hex content
  dirs : ∀ name, Path.IsName name → w.files (Path.join [cache.dir, name]) = some .directory → given.dirs name
  flights : w.flights.Sound (Fits given)
  temps : ∀ path n, w.temps path = some n → IsTemp cache.dir partPrefix path ∧ n < w.flights.next
  delivered : ∀ n flight entry, w.flights.flight n = some flight → flight.outcome = some (.ok entry) →
    Delivered cache sha w.files flight.leader entry
  cleared : ∀ n flight outcome, w.flights.flight n = some flight → flight.outcome = some outcome →
    Cleared n w

structure CacheSince (cache : Cache) (sha : Sha256) (given : Given) (before after : CacheHost ι) :
    Prop where
  inv : CacheInv cache sha given after
  flights : before.flights.Later after.flights
  kept : ∀ name, Listed name → before.files (Path.join [cache.dir, name]) ≠ none →
    after.files (Path.join [cache.dir, name]) = before.files (Path.join [cache.dir, name]) ∨
      ∃ content, after.files (Path.join [cache.dir, name]) = some (.file content)

-- What the others leave to thread `i`: the flight it leads, and the temporary files of it.
structure Own (i : ι) (before after : CacheHost ι) : Prop where
  leading : ∀ n, before.flights.Leading i n → after.flights.Leading i n
  temps : ∀ n, before.flights.Leading i n → ∀ path, after.temps path = some n →
    before.temps path = some n ∧ after.files path = before.files path
  held : ∀ n, before.flights.Leading i n → ∀ path, before.temps path = some n → before.files path ≠ none →
    after.temps path = some n

theorem CacheSince.refl {w : CacheHost ι} (h : CacheInv cache sha given w) : CacheSince cache sha given w w :=
  ⟨h, .refl _, fun _ _ _ => .inl rfl⟩

theorem CacheSince.present {before after : CacheHost ι} (h : CacheSince cache sha given before after)
    {name : String} (hname : Listed name) (hpresent : before.files (Path.join [cache.dir, name]) ≠ none) :
    after.files (Path.join [cache.dir, name]) ≠ none := by
  rcases h.kept name hname hpresent with hsame | ⟨content, hfile⟩
  · exact hsame ▸ hpresent
  · exact hfile ▸ Option.some_ne_none _

theorem CacheSince.trans {a b c : CacheHost ι} (hab : CacheSince cache sha given a b)
    (hbc : CacheSince cache sha given b c) : CacheSince cache sha given a c := by
  refine ⟨hbc.inv, hab.flights.trans hbc.flights, fun name hname hpresent => ?_⟩
  rcases hbc.kept name hname (hab.present hname hpresent) with hsame | hfile
  · rw [hsame]
    exact hab.kept name hname hpresent
  · exact .inr hfile

theorem Own.refl (i : ι) (w : CacheHost ι) : Own i w w :=
  ⟨fun _ h => h, fun _ _ _ h => ⟨h, rfl⟩, fun _ _ _ h _ => h⟩

theorem Own.trans {i : ι} {a b c : CacheHost ι} (hab : Own i a b) (hbc : Own i b c) : Own i a c := by
  refine ⟨fun n h => hbc.leading n (hab.leading n h), fun n h path hc => ?_, fun n h path ha hpresent => ?_⟩
  · obtain ⟨hb, hsame⟩ := hbc.temps n (hab.leading n h) path hc
    obtain ⟨ha, hsame'⟩ := hab.temps n h path hb
    exact ⟨ha, hsame.trans hsame'⟩
  · have hb := hab.held n h path ha hpresent
    refine hbc.held n (hab.leading n h) path hb ?_
    rw [(hab.temps n h path hb).2]
    exact hpresent

theorem Listed.hex (sha : Sha256) (content : Bytes) : Listed (sha.hex content) :=
  ⟨sha.isName_hex content, sha.hex_hidden content partPrefix (by decide)⟩

theorem isName_temp {random : String} (hslash : '/' ∉ random.toList) : Path.IsName (partPrefix ++ random) := by
  have hlong (other : String) (h : other.toList.length < 6) : partPrefix ++ random ≠ other := by
    rintro rfl
    rw [String.toList_append, List.length_append] at h
    have hsix : partPrefix.toList.length = 6 := by decide
    omega
  refine ⟨hlong "" (by decide), hlong "." (by decide), hlong ".." (by decide), fun hmem => ?_⟩
  rw [String.toList_append, List.mem_append] at hmem
  rcases hmem with hhead | hrandom
  · exact absurd hhead (by decide)
  · exact hslash hrandom

theorem IsTemp.not_listed {dir name : String} (hname : Listed name) :
    ¬ IsTemp dir partPrefix (Path.join [dir, name]) := by
  rintro ⟨random, hslash, heq⟩
  have hsame : name = partPrefix ++ random := Path.name_of_join_eq hname.1 (isName_temp hslash) heq
  have hhidden : hasPrefix name partPrefix = true := by
    rw [hsame]
    exact hasPrefix_append partPrefix random
  exact absurd hname.2 (by rw [hhidden]; decide)

theorem Delivered.since {before after : CacheHost ι} {call : ImageCall} {entry : CacheEntry}
    (h : Delivered cache sha before.files call entry)
    (hkept : ∀ name, Listed name → before.files (Path.join [cache.dir, name]) ≠ none →
      after.files (Path.join [cache.dir, name]) = before.files (Path.join [cache.dir, name]) ∨
        ∃ content, after.files (Path.join [cache.dir, name]) = some (.file content))
    (hnamed : ∀ name content, Listed name →
      after.files (Path.join [cache.dir, name]) = some (.file content) → name = sha.hex content) :
    Delivered cache sha after.files call entry := by
  refine ⟨h.path, ?_, h.expected⟩
  obtain ⟨content, hcontent, hdigest⟩ := h.content
  have hlisted : Listed entry.sha256 := hdigest ▸ Listed.hex sha content
  rw [h.path] at hcontent ⊢
  have hpresent : before.files (Path.join [cache.dir, entry.sha256]) ≠ none :=
    hcontent ▸ Option.some_ne_none _
  rcases hkept entry.sha256 hlisted hpresent with hsame | ⟨content', hfile⟩
  · exact ⟨content, hsame.trans hcontent, hdigest⟩
  · exact ⟨content', hfile, (hnamed _ content' hlisted hfile).symm⟩

end Invariant

section FileSteps

-- What one file operation of the leader of flight `n` may change: a temporary file of the
-- flight, or the file of a digest.
structure Touches (cache : Cache) (sha : Sha256) (n : Nat) (before after : CacheHost ι) : Prop where
  flights : after.flights = before.flights
  temps : ∀ path, after.temps path = before.temps path ∨
    (before.files path = none ∧ after.temps path = some n ∧ IsTemp cache.dir partPrefix path)
  files : ∀ path, after.files path = before.files path ∨
    (after.temps path = some n ∧ IsTemp cache.dir partPrefix path ∧ after.files path ≠ some .directory) ∨
    ∃ content, path = Path.join [cache.dir, sha.hex content] ∧ after.files path = some (.file content)

theorem Touches.refl (n : Nat) (w : CacheHost ι) : Touches cache sha n w w :=
  ⟨rfl, fun _ => .inl rfl, fun _ => .inl rfl⟩

variable {n : Nat} {before after : CacheHost ι} {path : String}

theorem Touches.listed (h : Touches cache sha n before after) {name : String} (hname : Listed name) :
    after.files (Path.join [cache.dir, name]) = before.files (Path.join [cache.dir, name]) ∨
      ∃ content, name = sha.hex content ∧
        after.files (Path.join [cache.dir, name]) = some (.file content) := by
  rcases h.files (Path.join [cache.dir, name]) with hsame | ⟨-, htemp, -⟩ | ⟨content, heq, hfile⟩
  · exact .inl hsame
  · exact absurd htemp (IsTemp.not_listed hname)
  · exact .inr ⟨content, Path.name_of_join_eq hname.1 (sha.isName_hex content) heq, hfile⟩

theorem Touches.other {n m : Nat} (h : Touches cache sha n before after)
    (hbefore : CacheInv cache sha given before) (hne : m ≠ n) (hpath : after.temps path = some m) :
    before.temps path = some m ∧ after.files path = before.files path := by
  have hother : after.temps path ≠ some n := fun hn => hne (Option.some.inj (hpath.symm.trans hn))
  have htemps : before.temps path = some m := by
    rcases h.temps path with hsame | ⟨-, hn, -⟩
    · exact hsame ▸ hpath
    · exact absurd hn hother
  refine ⟨htemps, ?_⟩
  rcases h.files path with hsame | ⟨hn, -⟩ | ⟨content, rfl, -⟩
  · exact hsame
  · exact absurd hn hother
  · exact absurd (hbefore.temps _ m htemps).1 (IsTemp.not_listed (Listed.hex sha content))

theorem Touches.since {i : ι} (h : Touches cache sha n before after) (hbefore : CacheInv cache sha given before)
    (hleading : before.flights.Leading i n) :
    CacheSince cache sha given before after ∧ ∀ j, j ≠ i → Own j before after := by
  have hlisted (name : String) (hname : Listed name) := h.listed hname
  have hnamed : ∀ name content, Listed name →
      after.files (Path.join [cache.dir, name]) = some (.file content) → name = sha.hex content := by
    intro name content hname hfile
    rcases hlisted name hname with hsame | ⟨content', heq, hfile'⟩
    · exact hbefore.named name content hname (hsame ▸ hfile)
    · rw [hfile] at hfile'
      cases hfile'
      exact heq
  have hkept : ∀ name, Listed name → before.files (Path.join [cache.dir, name]) ≠ none →
      after.files (Path.join [cache.dir, name]) = before.files (Path.join [cache.dir, name]) ∨
        ∃ content, after.files (Path.join [cache.dir, name]) = some (.file content) := by
    intro name hname _
    exact (hlisted name hname).imp_right fun ⟨content, _, hfile⟩ => ⟨content, hfile⟩
  have hfinished (m : Nat) (flight : Flight String ImageCall Outcome) (outcome : Outcome)
      (hflight : before.flights.flight m = some flight) (houtcome : flight.outcome = some outcome) : m ≠ n := by
    rintro rfl
    obtain ⟨-, flight', hflight', hopen⟩ := hleading
    cases hflight.symm.trans hflight'
    rw [hopen] at houtcome
    cases houtcome
  refine ⟨⟨⟨hnamed, fun name hname hdir => ?_, h.flights ▸ hbefore.flights, fun path m hpath => ?_,
      fun m flight entry hflight houtcome => ?_, fun m flight outcome hflight houtcome path hpath => ?_⟩,
    h.flights ▸ .refl _, hkept⟩, fun j hne => ⟨fun m hm => h.flights ▸ hm, fun m hm path hpath => ?_,
      fun m hm path hpath hpresent => ?_⟩⟩
  · rcases h.files (Path.join [cache.dir, name]) with hsame | ⟨-, -, hfile⟩ | ⟨content, -, hfile⟩
    · exact hbefore.dirs name hname (hsame ▸ hdir)
    · exact absurd hdir hfile
    · rw [hfile] at hdir
      cases hdir
  · rw [h.flights]
    rcases h.temps path with hsame | ⟨-, hn, htemp⟩
    · exact hbefore.temps path m (hsame ▸ hpath)
    · cases hn.symm.trans hpath
      exact ⟨htemp, hbefore.flights.started i n hleading.1⟩
  · rw [h.flights] at hflight
    exact (hbefore.delivered m flight entry hflight houtcome).since hkept hnamed
  · rw [h.flights] at hflight
    obtain ⟨hbefore', hsame⟩ := h.other hbefore (hfinished m flight outcome hflight houtcome) hpath
    rw [hsame]
    exact hbefore.cleared m flight outcome hflight houtcome path hbefore'
  · have hmn : m ≠ n := fun heq => hne (hbefore.flights.leads j i n (heq ▸ hm.1) hleading.1)
    exact h.other hbefore hmn hpath
  · rcases h.temps path with hsame | ⟨habsent, -⟩
    · exact hsame ▸ hpath
    · exact absurd habsent hpresent

variable {before : CacheHost ι}

theorem created_touches {i : ι} (hleads : before.flights.leads i = some n)
    (htemp : IsTemp cache.dir partPrefix path) (habsent : before.files path = none) :
    Touches cache sha n before (before.created i path) := by
  refine ⟨rfl, fun other => ?_, fun other => ?_⟩
  · rcases eq_or_ne other path with rfl | hne
    · exact .inr ⟨habsent, (Function.update_self ..).trans hleads, htemp⟩
    · exact .inl (Function.update_of_ne hne ..)
  · rcases eq_or_ne other path with rfl | hne
    · refine .inr (.inl ⟨(Function.update_self ..).trans hleads, htemp, ?_⟩)
      simp [CacheHost.created]
    · exact .inl (Function.update_of_ne hne ..)

theorem wrote_touches (hbefore : CacheInv cache sha given before) (hpath : before.temps path = some n)
    (sent : Bytes) : Touches cache sha n before (before.wrote path sent) := by
  rw [CacheHost.wrote]
  split
  · refine ⟨rfl, fun _ => .inl rfl, fun other => ?_⟩
    rcases eq_or_ne other path with rfl | hne
    · refine .inr (.inl ⟨hpath, (hbefore.temps _ _ hpath).1, ?_⟩)
      simp
    · exact .inl (Function.update_of_ne hne ..)
  · exact .refl n before

theorem removed_touches (hbefore : CacheInv cache sha given before)
    (hpath : before.temps path = some n) : Touches cache sha n before (before.removed path) := by
  refine ⟨rfl, fun _ => .inl rfl, fun other => ?_⟩
  rcases eq_or_ne other path with rfl | hne
  · refine .inr (.inl ⟨hpath, (hbefore.temps _ _ hpath).1, ?_⟩)
    simp [CacheHost.removed]
  · exact .inl (Function.update_of_ne hne ..)

theorem renamed_touches {old : String} {content : Bytes} (hbefore : CacheInv cache sha given before)
    (hold : before.temps old = some n) (hcontent : before.files old = some (.file content)) :
    Touches cache sha n before (before.renamed old (Path.join [cache.dir, sha.hex content])) := by
  refine ⟨rfl, fun _ => .inl rfl, fun other => ?_⟩
  rcases eq_or_ne other (Path.join [cache.dir, sha.hex content]) with rfl | hne
  · exact .inr (.inr ⟨content, rfl, (Function.update_self ..).trans hcontent⟩)
  · rcases eq_or_ne other old with rfl | hne'
    · refine .inr (.inl ⟨hold, (hbefore.temps _ _ hold).1, ?_⟩)
      simp [CacheHost.renamed, hne]
    · exact .inl ((Function.update_of_ne hne ..).trans (Function.update_of_ne hne' ..))

end FileSteps

section Steps

variable {i : ι} {before after : CacheHost ι}

theorem CacheEnv.since (h : CacheEnv cache before after) (hbefore : CacheInv cache sha given before) :
    CacheSince cache sha given before after ∧ ∀ j, Own j before after := by
  obtain ⟨htemps, hflights, hfiles⟩ := h
  have hflight : after.flights.flight = before.flights.flight ∧ after.flights.leads = before.flights.leads ∧
      after.flights.next = before.flights.next ∧ after.flights.Sound (Fits given) := by
    rcases hflights with heq | heq <;> rw [heq]
    · exact ⟨rfl, rfl, rfl, hbefore.flights⟩
    · exact ⟨rfl, rfl, rfl, hbefore.flights.forgotten⟩
  obtain ⟨hflight, hleads, hnext, hsound⟩ := hflight
  have hlisted (name : String) (hname : Listed name) := hfiles name hname.1
  have htemp {path : String} {n : Nat} (hpath : before.temps path = some n) :
      after.files path = before.files path := by
    obtain ⟨⟨random, hslash, rfl⟩, -⟩ := hbefore.temps path n hpath
    exact hfiles _ (isName_temp hslash)
  have hnamed : ∀ name content, Listed name →
      after.files (Path.join [cache.dir, name]) = some (.file content) → name = sha.hex content :=
    fun name content hname hfile => hbefore.named name content hname (hlisted name hname ▸ hfile)
  refine ⟨⟨⟨hnamed, fun name hname hdir => hbefore.dirs name hname (hfiles name hname ▸ hdir), hsound,
      fun path n hpath => ?_, fun n flight entry hn houtcome => ?_, fun n flight outcome hn houtcome path hpath => ?_⟩,
    fun n flight hn => ⟨flight, hflight ▸ hn, .refl flight⟩, fun name hname _ => .inl (hlisted name hname)⟩,
    fun j => ⟨fun n hn => ?_, fun n _ path hpath => ?_, fun n _ path hpath _ => htemps ▸ hpath⟩⟩
  · rw [hnext]
    exact hbefore.temps path n (htemps ▸ hpath)
  · exact (hbefore.delivered n flight entry (hflight ▸ hn) houtcome).since
      (fun name hname _ => .inl (hlisted name hname)) hnamed
  · rw [htemps] at hpath
    rw [htemp hpath]
    exact hbefore.cleared n flight outcome (hflight ▸ hn) houtcome path hpath
  · rw [Flights.Leading, hleads, hflight]
    exact hn
  · rw [htemps] at hpath
    exact ⟨hpath, htemp hpath⟩

variable [DecidableEq ι]

def Finishable (cache : Cache) (sha : Sha256) (w : CacheHost ι) : FlightOp String ImageCall Outcome → Prop
  | .finish n outcome => Cleared n w ∧ ∀ flight entry, w.flights.flight n = some flight →
      outcome = .ok entry → Delivered cache sha w.files flight.leader entry
  | _ => True

def cacheGuard (cache : Cache) (sha : Sha256) (given : Given) (i : ι) (w : CacheHost ι) : CacheOp → Prop
  | .createTemp dir head => dir = cache.dir ∧ head = partPrefix ∧ ∃ n, w.flights.Leading i n
  | .write path _ => ∃ n, w.flights.Leading i n ∧ w.temps path = some n
  | .remove path => ∃ n, w.flights.Leading i n ∧ w.temps path = some n
  | .rename old new => ∃ n content, w.flights.Leading i n ∧ w.temps old = some n ∧
      w.files old = some (.file content) ∧ new = Path.join [cache.dir, sha.hex content]
  | .flight op => w.flights.Guard (Fits given) i op ∧ Finishable cache sha w op
  | _ => True

theorem flightStep_since (hbefore : CacheInv cache sha given before) {op : FlightOp String ImageCall Outcome}
    {reply : op.Reply} (hfiles : after.files = before.files) (htemps : after.temps = before.temps)
    (hstep : Flights.Step i before.flights op reply after.flights)
    (hguard : before.flights.Guard (Fits given) i op) (hfinish : Finishable cache sha before op) :
    CacheSince cache sha given before after ∧ ∀ j, j ≠ i → Own j before after := by
  have hlater := hstep.later hbefore.flights hguard
  refine ⟨⟨⟨?_, ?_, hstep.sound hbefore.flights hguard, fun path n hpath => ?_,
      fun n flight entry hflight houtcome => ?_, fun n flight outcome hflight houtcome path hpath => ?_⟩,
    hlater, fun _ _ _ => .inl (by rw [hfiles])⟩, fun j hne => ⟨fun n h => hstep.leading hbefore.flights hguard hne h,
      fun n _ path hpath => ⟨htemps ▸ hpath, by rw [hfiles]⟩, fun n _ path hpath _ => htemps ▸ hpath⟩⟩
  · rw [hfiles]
    exact hbefore.named
  · rw [hfiles]
    exact hbefore.dirs
  · rw [htemps] at hpath
    obtain ⟨htemp, hlt⟩ := hbefore.temps path n hpath
    exact ⟨htemp, Nat.lt_of_lt_of_le hlt hstep.next_le⟩
  · rw [hfiles]
    obtain ⟨old, hold, hleader, hsame | hop⟩ := hstep.outcome hflight houtcome
    · exact hleader ▸ hbefore.delivered n old entry hold hsame
    · subst hop
      exact hleader ▸ hfinish.2 old entry hold rfl
  · rw [htemps] at hpath
    rw [hfiles]
    obtain ⟨old, hold, hleader, hsame | hop⟩ := hstep.outcome hflight houtcome
    · exact hbefore.cleared n old outcome hold hsame path hpath
    · subst hop
      exact hfinish.1 path hpath

theorem cacheStep_since (hbefore : CacheInv cache sha given before) {op : CacheOp} {reply : op.Reply}
    (hstep : cacheStep i before op reply after) (hguard : cacheGuard cache sha given i before op) :
    CacheSince cache sha given before after ∧ ∀ j, j ≠ i → Own j before after := by
  have hsame (h : after = before) :
      CacheSince cache sha given before after ∧ ∀ j, j ≠ i → Own j before after := by
    subst h
    exact ⟨.refl hbefore, fun j _ => .refl j after⟩
  cases op with
  | stat path => exact hsame hstep.1
  | openSource source creds => exact hsame hstep
  | createTemp dir head =>
    obtain ⟨rfl, rfl, n, hleading⟩ := hguard
    cases reply with
    | error err => exact hsame hstep
    | ok path =>
      obtain ⟨htemp, habsent, rfl⟩ := hstep
      exact (created_touches hleading.1 htemp habsent).since hbefore hleading
  | write path chunk =>
    obtain ⟨n, hleading, hpath⟩ := hguard
    obtain ⟨sent, -, -, rfl⟩ := hstep
    exact (wrote_touches hbefore hpath sent).since hbefore hleading
  | close path => exact hsame hstep
  | remove path =>
    obtain ⟨n, hleading, hpath⟩ := hguard
    obtain rfl : after = before.removed path := hstep
    exact (removed_touches hbefore hpath).since hbefore hleading
  | rename old new =>
    obtain ⟨n, content, hleading, hold, hcontent, rfl⟩ := hguard
    cases reply with
    | some err => exact hsame hstep
    | none =>
      obtain ⟨-, -, rfl⟩ := hstep
      exact (renamed_touches hbefore hold hcontent).since hbefore hleading
  | flight op => exact flightStep_since hbefore hstep.1 hstep.2.1 hstep.2.2 hguard.1 hguard.2

end Steps

section Threads

variable [DecidableEq ι] {i : ι} {n : Nat} {call : ImageCall} {path : String} {w : CacheHost ι}

def cacheRelies (cache : Cache) (sha : Sha256) (given : Given) (i : ι) (before after : CacheHost ι) :
    Prop :=
  CacheInv cache sha given before → CacheSince cache sha given before after ∧ Own i before after

abbrev cacheSeen (cache : Cache) (sha : Sha256) (given : Given) (i : ι) :
    Handler cacheOps (CacheHost ι) :=
  interfered (cacheRelies cache sha given i) (cacheStep i)

theorem cacheSeen_since {before after : CacheHost ι} {op : CacheOp} {reply : op.Reply}
    (hbefore : CacheInv cache sha given before) (hstep : cacheSeen cache sha given i before op reply after)
    (hguard : cacheGuard cache sha given i before op) :
    ∃ middle, cacheStep i before op reply middle ∧ CacheSince cache sha given before middle ∧
      CacheSince cache sha given middle after ∧ Own i middle after := by
  obtain ⟨middle, hown, hrely⟩ := hstep
  have hsince := (cacheStep_since hbefore hown hguard).1
  obtain ⟨hrest, hkept⟩ := hrely hsince.inv
  exact ⟨middle, hown, hsince, hrest, hkept⟩

structure Led (cache : Cache) (sha : Sha256) (given : Given) (i : ι) (n : Nat) (call : ImageCall)
    (w : CacheHost ι) : Prop where
  inv : CacheInv cache sha given w
  leading : w.flights.Leading i n
  leader : ∃ flight, w.flights.flight n = some flight ∧ flight.leader = call

structure Holding (n : Nat) (path : String) (content : Bytes) (w : CacheHost ι) : Prop where
  mine : w.temps path = some n
  content : w.files path = some (.file content)
  only : ∀ other, w.temps other = some n → other ≠ path → w.files other = none

omit [DecidableEq ι] in
theorem Led.since {before after : CacheHost ι} (h : Led cache sha given i n call before)
    (hsince : CacheSince cache sha given before after) (hown : Own i before after) :
    Led cache sha given i n call after := by
  obtain ⟨flight, hflight, hleader⟩ := h.leader
  obtain ⟨later, hlater, hsame⟩ := hsince.flights n flight hflight
  exact ⟨hsince.inv, hown.leading n h.leading, later, hlater, hsame.leader.trans hleader⟩

omit [DecidableEq ι] in
theorem Led.own_step {before after : CacheHost ι} (h : Led cache sha given i n call before)
    (hsince : CacheSince cache sha given before after) (hflights : after.flights = before.flights) :
    Led cache sha given i n call after :=
  ⟨hsince.inv, hflights ▸ h.leading, hflights ▸ h.leader⟩

omit [DecidableEq ι] in
theorem Cleared.own {before after : CacheHost ι} (h : Cleared n before) (hleading : before.flights.Leading i n)
    (hown : Own i before after) : Cleared n after := by
  intro path hpath
  obtain ⟨hbefore, hsame⟩ := hown.temps n hleading path hpath
  exact hsame.trans (h path hbefore)

omit [DecidableEq ι] in
theorem Holding.own {before after : CacheHost ι} {path : String} {content : Bytes}
    (h : Holding n path content before) (hleading : before.flights.Leading i n) (hown : Own i before after) :
    Holding n path content after := by
  have hmine := hown.held n hleading path h.mine (h.content ▸ Option.some_ne_none _)
  refine ⟨hmine, ((hown.temps n hleading path hmine).2).trans h.content, fun other hother hne => ?_⟩
  obtain ⟨hbefore, hsame⟩ := hown.temps n hleading other hother
  exact hsame.trans (h.only other hbefore hne)

-- How fetch ends: no temporary file is left, and an entry is what it should be.
structure Fetched (cache : Cache) (sha : Sha256) (given : Given) (i : ι) (n : Nat) (call : ImageCall)
    (outcome : Outcome) (w : CacheHost ι) : Prop where
  led : Led cache sha given i n call w
  cleared : Cleared n w
  delivered : ∀ entry, outcome = .ok entry → Delivered cache sha w.files call entry

abbrev Fetches (cache : Cache) (sha : Sha256) (given : Given) (i : ι) (n : Nat) (call : ImageCall)
    (prog : Prog cacheOps Outcome) (w : CacheHost ι) : Prop :=
  Holds (cacheSeen cache sha given i) (cacheGuard cache sha given i) (Fetched cache sha given i n call) prog w

theorem remove_fetches {content : Bytes} (hled : Led cache sha given i n call w)
    (hhold : Holding n path content w) (err : GoError) :
    Fetches cache sha given i n call (.ask (.remove path) fun _ => .done (.error err)) w := by
  have hguard : cacheGuard cache sha given i w (.remove path) := ⟨n, hled.leading, hhold.mine⟩
  refine ⟨hguard, fun reply after hstep => ?_⟩
  obtain ⟨middle, hremoved, hsince, hrest, hown⟩ := cacheSeen_since hled.inv hstep hguard
  obtain rfl : middle = w.removed path := hremoved
  have hled' := hled.own_step hsince rfl
  have hcleared : Cleared n (w.removed path) := by
    intro other hother
    rcases eq_or_ne other path with rfl | hne
    · exact Function.update_self ..
    · exact (Function.update_of_ne hne ..).trans (hhold.only other hother hne)
  exact ⟨hled'.since hrest hown, hcleared.own hled'.leading hown, nofun⟩

theorem copy_holds (failure : Option GoError) (chunks : List Bytes) {hashed : Bytes}
    (hled : Led cache sha given i n call w) (hhold : Holding n path hashed w) :
    Holds (cacheSeen cache sha given i) (cacheGuard cache sha given i)
      (fun result after => Led cache sha given i n call after ∧
        ∃ content, Holding n path content after ∧ ∀ bytes, result = .ok bytes → bytes = content)
      (copy path failure chunks hashed) w := by
  -- the file holds what was hashed, until a write fails
  induction chunks generalizing hashed w with
  | nil =>
    refine ⟨hled, hashed, hhold, fun bytes hbytes => ?_⟩
    cases failure with
    | none => exact (Except.ok.inj hbytes).symm
    | some err => cases hbytes
  | cons chunk rest ih =>
    have hguard : cacheGuard cache sha given i w (.write path chunk) := ⟨n, hled.leading, hhold.mine⟩
    refine ⟨hguard, fun reply after hstep => ?_⟩
    obtain ⟨middle, ⟨sent, -, hsent, hwrote⟩, hsince, hrest, hown⟩ :=
      cacheSeen_since hled.inv hstep hguard
    have hmiddle : middle = { w with
        files := Function.update w.files path (some (.file (hashed ++ sent))) } := by
      rw [hwrote, CacheHost.wrote, hhold.content]
    subst hmiddle
    have hled' := hled.own_step hsince rfl
    have hhold' : Holding n path (hashed ++ sent) { w with
        files := Function.update w.files path (some (.file (hashed ++ sent))) } :=
      ⟨hhold.mine, Function.update_self .., fun other hother hne =>
        (Function.update_of_ne hne ..).trans (hhold.only other hother hne)⟩
    have hafter := hhold'.own hled'.leading hown
    cases reply with
    | some err => exact ⟨hled'.since hrest hown, _, hafter, nofun⟩
    | none =>
      rw [hsent rfl] at hafter
      exact ih (hled'.since hrest hown) hafter

theorem commit_fetches {content : Bytes} (hled : Led cache sha given i n call w)
    (hhold : Holding n path content w) :
    Fetches cache sha given i n call (cache.commit call.expectedSHA256 path (sha.hex content)) w := by
  have hpath : cache.pathFor (sha.hex content) = Path.join [cache.dir, sha.hex content] := by
    rw [Cache.pathFor, sha.toLower_hex]
  unfold Cache.commit
  split
  · exact remove_fetches hled hhold _
  next hexpected =>
    have hguard : cacheGuard cache sha given i w (.rename path (cache.pathFor (sha.hex content))) :=
      ⟨n, content, hled.leading, hhold.mine, hhold.content, hpath⟩
    refine ⟨hguard, fun reply after hstep => ?_⟩
    obtain ⟨middle, hrenamed, hsince, hrest, hown⟩ := cacheSeen_since hled.inv hstep hguard
    cases reply with
    | some err =>
      obtain rfl : middle = w := hrenamed
      exact remove_fetches (hled.since hrest hown) (hhold.own hled.leading hown) _
    | none =>
      obtain ⟨-, -, rfl⟩ := hrenamed
      have hled' := hled.own_step hsince rfl
      have hcleared : Cleared n (w.renamed path (cache.pathFor (sha.hex content))) := by
        intro other hother
        have hother' : other ≠ cache.pathFor (sha.hex content) := by
          rintro rfl
          rw [hpath] at hother
          exact IsTemp.not_listed (Listed.hex sha content) (hled.inv.temps _ n hother).1
        refine (Function.update_of_ne hother' ..).trans ?_
        rcases eq_or_ne other path with rfl | hne'
        · exact Function.update_self ..
        · exact (Function.update_of_ne hne' ..).trans (hhold.only other hother hne')
      have hdelivered : Delivered cache sha (w.renamed path (cache.pathFor (sha.hex content))).files call
          ⟨cache.pathFor (sha.hex content), sha.hex content⟩ := by
        refine ⟨hpath, ⟨content, (Function.update_self ..).trans hhold.content, rfl⟩, fun hne => ?_⟩
        by_contra hfold
        exact hexpected ⟨hne, by simpa using hfold⟩
      refine ⟨hled'.since hrest hown, hcleared.own hled'.leading hown, fun entry hentry => ?_⟩
      cases hentry
      exact hdelivered.since hrest.kept hrest.inv.named

theorem stage_fetches (stream : Stream) (hled : Led cache sha given i n call w) (hhold : Holding n path [] w) :
    Fetches cache sha given i n call (cache.stage sha call.expectedSHA256 stream path) w := by
  refine (copy_holds stream.failure stream.chunks hled hhold).bind fun result middle ⟨hled, content, hhold, hbytes⟩ => ?_
  have hclose {next : Option GoError → Prog cacheOps Outcome}
      (h : ∀ reply after, Led cache sha given i n call after → Holding n path content after →
        Fetches cache sha given i n call (next reply) after) :
      Fetches cache sha given i n call (.ask (.close path) next) middle := by
    refine ⟨trivial, fun reply after hstep => ?_⟩
    obtain ⟨same, rfl, -, hrest, hown⟩ := cacheSeen_since hled.inv hstep trivial
    exact h reply after (hled.since hrest hown) (hhold.own hled.leading hown)
  cases result with
  | error err => exact hclose fun _ after hled hhold => remove_fetches hled hhold _
  | ok hashed =>
    obtain rfl : hashed = content := hbytes hashed rfl
    refine hclose fun reply after hled hhold => ?_
    cases reply with
    | some err => exact remove_fetches hled hhold _
    | none => exact commit_fetches hled hhold

theorem fetch_fetches (gunzip : Stream → Except GoError Stream) (hled : Led cache sha given i n call w)
    (hcleared : Cleared n w) : Fetches cache sha given i n call (cache.fetch gunzip sha call) w := by
  have hnothing {w : CacheHost ι} (hled : Led cache sha given i n call w) (hcleared : Cleared n w) (err : GoError) :
      Fetches cache sha given i n call (.done (.error err)) w := ⟨hled, hcleared, nofun⟩
  refine ⟨trivial, fun reply opened hstep => ?_⟩
  obtain ⟨same, rfl, -, hrest, hown⟩ := cacheSeen_since hled.inv hstep trivial
  have hcleared := hcleared.own hled.leading hown
  have hled := hled.since hrest hown
  cases reply with
  | error err => exact hnothing hled hcleared err
  | ok body =>
    cases hstream : maybeGunzipStream gunzip body with
    | error err =>
      simp only [hstream]
      exact hnothing hled hcleared _
    | ok stream =>
      simp only [hstream]
      have hguard : cacheGuard cache sha given i opened (.createTemp cache.dir partPrefix) :=
        ⟨rfl, rfl, n, hled.leading⟩
      refine ⟨hguard, fun reply after hstep => ?_⟩
      obtain ⟨middle, hcreated, hsince, hrest, hown⟩ := cacheSeen_since hled.inv hstep hguard
      cases reply with
      | error err =>
        obtain rfl : opened = middle := Eq.symm hcreated
        exact hnothing (hled.since hrest hown) (hcleared.own hled.leading hown) _
      | ok path =>
        obtain ⟨-, -, rfl⟩ := hcreated
        have hled' := hled.own_step hsince rfl
        have hhold : Holding n path [] (opened.created i path) := by
          refine ⟨(Function.update_self ..).trans hled.leading.1, Function.update_self .., ?_⟩
          intro other hother hne
          exact (Function.update_of_ne hne ..).trans
            (hcleared other ((Function.update_of_ne hne ..).symm.trans hother))
        exact stage_fetches stream (hled'.since hrest hown) (hhold.own hled'.leading hown)

def Got (cache : Cache) (call : ImageCall) (outcome : Outcome) (w : CacheHost ι) : Prop :=
  (∃ n flight, w.flights.flight n = some flight ∧ flight.outcome = some outcome ∧ call ∈ flight.callers) ∨
    (call.expectedSHA256 ≠ "" ∧
      outcome = .ok ⟨cache.pathFor call.expectedSHA256, toLower call.expectedSHA256⟩ ∧
      (Listed (toLower call.expectedSHA256) → w.files (cache.pathFor call.expectedSHA256) ≠ none))

omit [DecidableEq ι] in
theorem Got.since {before after : CacheHost ι} {outcome : Outcome} (h : Got cache call outcome before)
    (hsince : CacheSince cache sha given before after) : Got cache call outcome after := by
  rcases h with ⟨n, flight, hflight, houtcome, hcaller⟩ | ⟨hne, houtcome, hfound⟩
  · obtain ⟨later, hlater, hsame⟩ := hsince.flights n flight hflight
    exact .inl ⟨n, later, hlater, hsame.outcome outcome houtcome, hsame.callers hcaller⟩
  · exact .inr ⟨hne, houtcome, fun hlisted => hsince.present hlisted (hfound hlisted)⟩

abbrev Gets (cache : Cache) (sha : Sha256) (given : Given) (i : ι) (call : ImageCall)
    (prog : Prog cacheOps Outcome) (w : CacheHost ι) : Prop :=
  Holds (cacheSeen cache sha given i) (cacheGuard cache sha given i) (Got cache call) prog w

theorem lead_gets (gunzip : Stream → Except GoError Stream) (hled : Led cache sha given i n call w)
    (hcleared : Cleared n w) :
    Gets cache sha given i call (do
      let outcome ← cache.fetch gunzip sha call
      .ask (.flight (.finish n outcome)) fun _ => .done outcome) w := by
  refine (fetch_fetches gunzip hled hcleared).bind fun outcome fetched hfetched => ?_
  have hguard : cacheGuard cache sha given i fetched (.flight (.finish n outcome)) := by
    refine ⟨hfetched.led.leading, hfetched.cleared, fun flight entry hflight hok => ?_⟩
    obtain ⟨flight', hflight', hleader⟩ := hfetched.led.leader
    cases hflight.symm.trans hflight'
    exact hleader ▸ hfetched.delivered entry hok
  refine ⟨hguard, fun reply after hstep => ?_⟩
  obtain ⟨middle, ⟨-, -, hfinish⟩, -, hrest, -⟩ := cacheSeen_since hfetched.led.inv hstep hguard
  refine Got.since (.inl ?_) hrest
  obtain ⟨flight', hflight', hleader⟩ := hfetched.led.leader
  generalize middle.flights = flights at hfinish
  cases hfinish with
  | finish outcome hflight =>
    cases hflight.symm.trans hflight'
    exact ⟨n, _, Function.update_self .., rfl, hleader ▸ List.mem_cons_self⟩

theorem doFetch_gets (gunzip : Stream → Except GoError Stream) (hcall : given.calls call)
    (hw : CacheInv cache sha given w) : Gets cache sha given i call (cache.doFetch gunzip sha call) w := by
  have hguard : cacheGuard cache sha given i w (.flight (.enter call.key call)) :=
    ⟨⟨rfl, hcall⟩, trivial⟩
  refine ⟨hguard, fun reply after hstep => ?_⟩
  obtain ⟨middle, ⟨-, htemps, henter⟩, hsince, hrest, hown⟩ := cacheSeen_since hw hstep hguard
  generalize hmiddle : middle.flights = flights at henter
  cases henter with
  | lead key call _ =>
    have hled : Led cache sha given i w.flights.next call middle := by
      refine ⟨hsince.inv, ⟨?_, ⟨call.key, call, [], none⟩, ?_, rfl⟩, ⟨call.key, call, [], none⟩, ?_, rfl⟩ <;>
        rw [hmiddle] <;> exact Function.update_self ..
    have hcleared : Cleared w.flights.next middle := by
      intro path hpath
      rw [htemps] at hpath
      exact absurd (hw.temps path _ hpath).2 (Nat.lt_irrefl _)
    exact lead_gets gunzip (hled.since hrest hown) (hcleared.own hled.leading hown)
  | @join key call m flight _ _ =>
    have hjoined : middle.flights.flight m =
        some { flight with followers := call :: flight.followers } := by
      rw [hmiddle]
      exact Function.update_self ..
    obtain ⟨later, hlater, hsame⟩ := hrest.flights m _ hjoined
    have hcaller : call ∈ later.callers :=
      hsame.callers (List.mem_cons_of_mem _ List.mem_cons_self)
    refine ⟨⟨trivial, trivial⟩, fun outcome waited hstep => ?_⟩
    obtain ⟨middle', ⟨-, -, hwait⟩, hsince', hrest', -⟩ :=
      cacheSeen_since hrest.inv hstep ⟨trivial, trivial⟩
    refine Got.since (.inl ?_) hrest'
    generalize middle'.flights = flights' at hwait
    cases hwait with
    | wait hflight houtcome =>
      cases hlater.symm.trans hflight
      exact ⟨m, _, hlater, houtcome, hcaller⟩

theorem get_gets (gunzip : Stream → Except GoError Stream) (hcall : given.calls call)
    (hw : CacheInv cache sha given w) : Gets cache sha given i call (cache.get gunzip sha call) w := by
  unfold Cache.get
  split
  · next hne =>
      refine ⟨trivial, fun found after hstep => ?_⟩
      obtain ⟨same, ⟨rfl, hfound⟩, -, hrest, -⟩ := cacheSeen_since hw hstep trivial
      cases found with
      | false => exact doFetch_gets gunzip hcall hrest.inv
      | true =>
        have hgot : Got cache call (.ok ⟨cache.pathFor call.expectedSHA256, toLower call.expectedSHA256⟩) same :=
          .inr ⟨hne, rfl, fun _ => hfound rfl⟩
        exact hgot.since hrest
  · exact doFetch_gets gunzip hcall hw

end Threads

section System

variable [DecidableEq ι] {dirs : String → Prop} {gunzip : Stream → Except GoError Stream} {call : ι → ImageCall}

structure CacheStart (cache : Cache) (sha : Sha256) (dirs : String → Prop) (w : CacheHost ι) : Prop where
  named : ∀ name content, Listed name →
    w.files (Path.join [cache.dir, name]) = some (.file content) → name = sha.hex content
  dirs : ∀ name, Path.IsName name → w.files (Path.join [cache.dir, name]) = some .directory → dirs name
  temps : ∀ path, w.temps path = none
  flights : w.flights = Flights.empty

omit [DecidableEq ι] in
theorem CacheStart.inv {w : CacheHost ι} (h : CacheStart cache sha dirs w) (calls : ImageCall → Prop) :
    CacheInv cache sha ⟨dirs, calls⟩ w := by
  have hnone (n : Nat) : w.flights.flight n = none := by
    rw [h.flights]
    rfl
  refine ⟨h.named, h.dirs, h.flights ▸ Flights.sound_empty _, fun path n hpath => ?_,
    fun n flight entry hflight => ?_, fun n flight outcome hflight => ?_⟩
  · rw [h.temps] at hpath
    cases hpath
  · rw [hnone] at hflight
    cases hflight
  · rw [hnone] at hflight
    cases hflight

theorem reachable_cache {c : Config cacheOps (CacheHost ι) ι Outcome}
    (hc : (cacheSystem cache gunzip sha call).Reachable (CacheStart cache sha dirs) c) :
    CacheInv cache sha ⟨dirs, fun a => ∃ i, a = call i⟩ c.state ∧
      ∀ i outcome, c.threads i = some (.done outcome) → Got cache (call i) outcome c.state := by
  let given : Given := ⟨dirs, fun a => ∃ i, a = call i⟩
  have hrefl (i : ι) (w : CacheHost ι) : cacheRelies cache sha given i w w :=
    fun h => ⟨.refl h, .refl i w⟩
  obtain ⟨hinv, hends⟩ := (cacheSystem cache gunzip sha call).reachable_ends
    (CacheInv cache sha given) (cacheRelies cache sha given) (cacheGuard cache sha given)
    (fun i outcome after => Got cache (call i) outcome after) hrefl
    (fun _ _ _ _ hab hbc h =>
      have hab := hab h
      have hbc := hbc hab.1.inv
      ⟨hab.1.trans hbc.1, hab.2.trans hbc.2⟩)
    (fun _ h => h.inv _)
    (fun _ _ hbefore henv =>
      have hsince := henv.since hbefore
      ⟨hsince.1.inv, fun i _ => ⟨hsince.1, hsince.2 i⟩⟩)
    (fun i _ _ hw hstart other hrely => by
      obtain rfl : _ = cache.get gunzip sha (call i) := hstart
      have hcall : given.calls (call i) := ⟨i, rfl⟩
      exact get_gets gunzip hcall (hrely hw).1.inv)
    (fun _ _ _ _ _ hbefore hguard hstep =>
      have hsince := cacheStep_since hbefore hstep hguard
      ⟨hsince.1.inv, fun j hne _ => ⟨hsince.1, hsince.2 j hne⟩⟩) hc
  exact ⟨hinv, fun i outcome hdone => hends i _ hdone c.state (hrefl i c.state)⟩

-- Whatever the streams, the failures and the crashes: finished files are named by their
-- digests, entries stand for such files, and a fetch that has returned leaves nothing else.
theorem cacheDir_addressed {c : Config cacheOps (CacheHost ι) ι Outcome}
    (hc : (cacheSystem cache gunzip sha call).Reachable (CacheStart cache sha dirs) c) :
    (∀ name content, Path.IsName name → hasPrefix name ".part-" = false →
      c.state.files (Path.join [cache.dir, name]) = some (.file content) → name = sha.hex content) ∧
    (∀ n flight entry, c.state.flights.flight n = some flight → flight.outcome = some (.ok entry) →
      entry.path = Path.join [cache.dir, entry.sha256] ∧
      (∃ content, c.state.files entry.path = some (.file content) ∧ sha.hex content = entry.sha256) ∧
      (flight.leader.expectedSHA256 ≠ "" →
        equalFold entry.sha256 flight.leader.expectedSHA256 = true)) ∧
    ∀ n flight outcome, c.state.flights.flight n = some flight → flight.outcome = some outcome →
      ∀ path, c.state.temps path = some n → c.state.files path = none := by
  obtain ⟨hinv, -⟩ := reachable_cache hc
  refine ⟨fun name content hname hpart => hinv.named name content ⟨hname, hpart⟩,
    fun n flight entry hflight houtcome => ?_, hinv.cleared⟩
  have hdelivered := hinv.delivered n flight entry hflight houtcome
  exact ⟨hdelivered.path, hdelivered.content, hdelivered.expected⟩

-- A digest that selects a finished file of the directory, and whose key is its own.
structure PlainDigest (expectedSHA256 : String) : Prop where
  name : Path.IsName (toLower expectedSHA256)
  shown : hasPrefix (toLower expectedSHA256) ".part-" = false
  colon : ':' ∉ expectedSHA256.toList

theorem append_colon_eq {front front' text text' : List Char} (htext : ':' ∉ text)
    (h : front ++ ':' :: text = front' ++ ':' :: text') : text = text' ∨ ':' ∈ text' := by
  rcases List.append_eq_append_iff.mp h with ⟨between, -, heq⟩ | ⟨between, -, heq⟩
  · cases between with
    | nil => exact .inl (List.cons.inj heq).2
    | cons first rest =>
      obtain ⟨-, rfl⟩ := List.cons.inj heq
      exact absurd (List.mem_append_right rest List.mem_cons_self) htext
  · cases between with
    | nil => exact .inl (List.cons.inj heq).2.symm
    | cons first rest =>
      obtain ⟨-, rfl⟩ := List.cons.inj heq
      exact .inr (List.mem_append_right rest List.mem_cons_self)

theorem expected_of_key {a b : ImageCall} (hcolon : ':' ∉ a.expectedSHA256.toList) (h : a.key = b.key) :
    a.expectedSHA256 = b.expectedSHA256 ∨ ':' ∈ b.expectedSHA256.toList := by
  have hchars := congrArg String.toList h
  simp only [ImageCall.key, String.toList_append, List.append_assoc] at hchars
  rcases append_colon_eq hcolon hchars with heq | hmem
  · exact .inl (String.toList_inj.mp heq)
  · exact .inr hmem

theorem colon_not_expected {content : Bytes} {expectedSHA256 : String}
    (h : equalFold (sha.hex content) expectedSHA256 = true) : ':' ∉ expectedSHA256.toList :=
  fun hmem => absurd (sha.foldChar_mem_of_equalFold content h hmem) (by decide)

omit [DecidableEq ι] in
theorem CacheInv.leader_expected {w : CacheHost ι} (h : CacheInv cache sha given w) {n : Nat}
    {flight : Flight String ImageCall Outcome} {entry : CacheEntry} {caller : ImageCall}
    (hflight : w.flights.flight n = some flight) (houtcome : flight.outcome = some (.ok entry))
    (hcaller : caller ∈ flight.callers) (hcolon : ':' ∉ caller.expectedSHA256.toList) :
    flight.leader.expectedSHA256 = caller.expectedSHA256 := by
  have hkey : caller.key = flight.leader.key := by
    rw [(h.flights.keyed n flight hflight _ hcaller).1,
      (h.flights.keyed n flight hflight _ List.mem_cons_self).1]
  rcases expected_of_key hcolon hkey with heq | hmem
  · exact heq.symm
  · have hne : flight.leader.expectedSHA256 ≠ "" := by
      intro hempty
      rw [hempty] at hmem
      cases hmem
    have hdelivered := h.delivered n flight entry hflight houtcome
    obtain ⟨content, -, hdigest⟩ := hdelivered.content
    have hfold := hdelivered.expected hne
    rw [← hdigest] at hfold
    exact absurd hmem (colon_not_expected hfold)

-- For such a digest the entry is a file directly in the directory, with the digest asked for.
-- The directory has no subdirectory, as New and Get leave it.
theorem cachedEntry_matches {c : Config cacheOps (CacheHost ι) ι Outcome}
    (hc : (cacheSystem cache gunzip sha call).Reachable (CacheStart cache sha fun _ => False) c) {i : ι}
    {entry : CacheEntry} (hdone : c.threads i = some (.done (.ok entry)))
    (hsupplied : (call i).expectedSHA256 ≠ "") (hplain : PlainDigest (call i).expectedSHA256) :
    ∃ name content, Path.IsName name ∧ entry.path = Path.join [cache.dir, name] ∧
      c.state.files entry.path = some (.file content) ∧
      equalFold (sha.hex content) (call i).expectedSHA256 = true := by
  obtain ⟨hinv, hgot⟩ := reachable_cache hc
  rcases hgot i _ hdone with ⟨n, flight, hflight, houtcome, hcaller⟩ | ⟨-, hentry, hfound⟩
  · have hdelivered := hinv.delivered n flight entry hflight houtcome
    obtain ⟨content, hcontent, hdigest⟩ := hdelivered.content
    have hexpected := hinv.leader_expected hflight houtcome hcaller hplain.colon
    refine ⟨entry.sha256, content, hdigest ▸ sha.isName_hex content, hdelivered.path, hcontent, ?_⟩
    have hfold := hdelivered.expected (hexpected ▸ hsupplied)
    rw [hdigest, ← hexpected]
    exact hfold
  · cases hentry
    have hpresent := hfound ⟨hplain.name, hplain.shown⟩
    refine ⟨toLower (call i).expectedSHA256, ?_⟩
    cases hnode : c.state.files (cache.pathFor (call i).expectedSHA256) with
    | none => exact absurd hnode hpresent
    | some node =>
      cases node with
      | directory => exact (hinv.dirs _ hplain.name hnode).elim
      | file content =>
        have hname := hinv.named _ content ⟨hplain.name, hplain.shown⟩ hnode
        exact ⟨content, hplain.name, rfl, rfl, sha.equalFold_of_toLower content hname⟩

end System

section Samples

instance : Inhabited Outcome := ⟨.error (.text "")⟩

def cacheMachine (i : Bool) : Machine cacheOps (CacheHost Bool) := fun w op => match op with
  | .stat path => ((w.files path).isSome, w)
  | .openSource _ _ => (.ok ⟨[[1]], none⟩, w)
  | .createTemp dir head => (.ok (Path.join [dir, head ++ "2"]), w.created i (Path.join [dir, head ++ "2"]))
  | .write path chunk => (none, w.wrote path chunk)
  | .close _ => (none, w)
  | .remove path => (none, w.removed path)
  | .rename old new => (none, w.renamed old new)
  | .flight op => ((w.flights.answer i op).1, { w with flights := (w.flights.answer i op).2 })

def isFile : Option Node → Bool
  | some (.file _) => true
  | _ => false

def cacheReady (w : CacheHost Bool) : CacheOp → Bool
  | .createTemp dir head => (w.files (Path.join [dir, head ++ "2"])).isNone
  | .rename old new => isFile (w.files old) && w.files new != some .directory
  | .flight op => w.flights.ready op
  | _ => true

theorem cacheMachine_step (i : Bool) (w : CacheHost Bool) (op : CacheOp) (h : cacheReady w op = true) :
    cacheStep i w op (cacheMachine i w op).1 (cacheMachine i w op).2 := by
  cases op with
  | stat path => exact ⟨rfl, fun hfound => Option.isSome_iff_ne_none.mp hfound⟩
  | openSource source creds => rfl
  | createTemp dir head => exact ⟨⟨"2", by decide, rfl⟩, Option.isNone_iff_eq_none.mp h, rfl⟩
  | write path chunk => exact ⟨chunk, List.prefix_rfl, fun _ => rfl, rfl⟩
  | close path => rfl
  | remove path => rfl
  | rename old new =>
    rw [cacheReady, Bool.and_eq_true] at h
    refine ⟨?_, by simpa using h.2, rfl⟩
    cases hold : w.files old with
    | none => simp [hold, isFile] at h
    | some node =>
      cases node with
      | file content => exact ⟨content, rfl⟩
      | directory => simp [hold, isFile] at h
  | flight op => exact ⟨rfl, rfl, Flights.answer_step i w.flights op h⟩

def sampleCache : Cache := ⟨"/cache", by decide⟩

def sampleImage : BaseImageSource := ⟨.https, some ⟨"https://images/base", "", none, false⟩, none, none⟩

def sampleDisk : String → Option Node
  | "/cache" => some .directory
  | "/cache/.part-1" => some (.file [1, 2])
  | "/other" => some (.file [1, 2, 3])
  | _ => none

def sampleCacheHost : CacheHost Bool := ⟨sampleDisk, fun _ => none, Flights.empty⟩

theorem sampleCacheHost_start : CacheStart sampleCache sampleSha (fun _ => False) sampleCacheHost := by
  have hpath {name path : String} (hname : Path.IsName name) (h : Path.join ["/cache", name] = path) :
      name = Path.base path ∧ Path.join ["/cache", Path.base path] = path := by
    have hbase := Path.base_join "/cache" hname
    rw [h] at hbase
    exact ⟨hbase.symm, hbase.symm ▸ h⟩
  refine ⟨fun name content hname hfile => ?_, fun name hname hdir => ?_, fun _ => rfl, rfl⟩
  · have hfile : sampleDisk (Path.join ["/cache", name]) = some (.file content) := hfile
    unfold sampleDisk at hfile
    split at hfile
    · cases hfile
    · next h =>
        rw [(hpath hname.1 h).1] at hname
        exact absurd hname.2 (by decide)
    · next h => exact absurd (hpath hname.1 h).2 (by decide)
    · cases hfile
  · have hdir : sampleDisk (Path.join ["/cache", name]) = some .directory := hdir
    unfold sampleDisk at hdir
    split at hdir
    · next h => exact absurd (hpath hname h).2 (by decide)
    · cases hdir
    · cases hdir
    · cases hdir

abbrev sampleGets (expectedSHA256 : String) : System cacheOps (CacheHost Bool) Bool Outcome :=
  cacheSystem sampleCache .ok sampleSha fun _ => ⟨sampleImage, none, expectedSHA256⟩

theorem sampleGets_reachable (expectedSHA256 : String) (n : Nat)
    (hready : permits (cacheMachine true) cacheReady n
      (sampleCache.get .ok sampleSha ⟨sampleImage, none, expectedSHA256⟩) sampleCacheHost = true) :
    (sampleGets expectedSHA256).Reachable (CacheStart sampleCache sampleSha fun _ => False)
      ⟨(runFor (cacheMachine true) n
          (sampleCache.get .ok sampleSha ⟨sampleImage, none, expectedSHA256⟩) sampleCacheHost).2,
        Function.update (fun _ => none) true (some (runFor (cacheMachine true) n
          (sampleCache.get .ok sampleSha ⟨sampleImage, none, expectedSHA256⟩) sampleCacheHost).1)⟩ := by
  have hidle : (sampleGets expectedSHA256).Reachable (CacheStart sampleCache sampleSha fun _ => False)
      (System.idle sampleCacheHost) := System.reachable_idle sampleCacheHost_start
  exact hidle.startRun (i := true) rfl rfl (cacheMachine true) cacheReady n hready
    fun w op h => cacheMachine_step true w op h

def sampleReady (n : Nat) (expectedSHA256 : String) : Bool :=
  permits (cacheMachine true) cacheReady n (sampleCache.get .ok sampleSha ⟨sampleImage, none, expectedSHA256⟩)
    sampleCacheHost

theorem samples_ready : sampleReady 7 "" = true ∧ sampleReady 8 (sampleSha.hex [1]) = true ∧
    sampleReady 1 "../other" = true ∧ sampleReady 1 "." = true ∧ sampleReady 1 ".part-1" = true := by
  decide +kernel

theorem cacheDir_addressed_single : ∃ c entry,
    (sampleGets "").Reachable (CacheStart sampleCache sampleSha fun _ => False) c ∧
      c.threads true = some (.done (.ok entry)) ∧
      ∃ content, c.state.files entry.path = some (.file content) ∧ sampleSha.hex content = entry.sha256 := by
  have hreachable := sampleGets_reachable "" 7 samples_ready.1
  refine ⟨_, _, hreachable, rfl, ?_⟩
  exact ((cacheDir_addressed hreachable).2.1 0 _ _ rfl rfl).2.1

theorem cachedEntry_matches_download : ∃ c entry,
    (sampleGets (sampleSha.hex [1])).Reachable (CacheStart sampleCache sampleSha fun _ => False) c ∧
      c.threads true = some (.done (.ok entry)) ∧
      ∃ name content, Path.IsName name ∧ entry.path = Path.join ["/cache", name] ∧
        c.state.files entry.path = some (.file content) ∧
        equalFold (sampleSha.hex content) (sampleSha.hex [1]) = true := by
  have hreachable := sampleGets_reachable (sampleSha.hex [1]) 8 samples_ready.2.1
  refine ⟨_, _, hreachable, rfl, ?_⟩
  exact cachedEntry_matches hreachable (i := true) rfl (by decide) ⟨by decide, by decide, by decide⟩

-- A call that returned an entry behind which there is no file with the digest.
def Deceived (expectedSHA256 : String) : Prop :=
  ∃ c entry, (sampleGets expectedSHA256).Reachable (CacheStart sampleCache sampleSha fun _ => False) c ∧
    c.threads true = some (.done (.ok entry)) ∧
    ¬ ∃ content, c.state.files entry.path = some (.file content) ∧
      equalFold (sampleSha.hex content) expectedSHA256 = true

-- A path out of the directory, the directory itself and a partial file all pass.
theorem unchecked_digests : Deceived "../other" ∧ Deceived "." ∧ Deceived ".part-1" := by
  have hshort (expectedSHA256 : String) (h : expectedSHA256.toList.length ≠ 64)
      (files : Option Node) : ¬ ∃ content, files = some (.file content) ∧
        equalFold (sampleSha.hex content) expectedSHA256 = true :=
    fun ⟨content, _, hfold⟩ => h (sampleSha.length_of_equalFold content hfold)
  obtain ⟨-, -, hother, hdir, hpart⟩ := samples_ready
  refine ⟨?_, ?_, ?_⟩
  · exact ⟨_, _, sampleGets_reachable _ 1 hother, rfl, hshort _ (by decide) _⟩
  · exact ⟨_, _, sampleGets_reachable _ 1 hdir, rfl, hshort _ (by decide) _⟩
  · exact ⟨_, _, sampleGets_reachable _ 1 hpart, rfl, hshort _ (by decide) _⟩

end Samples

end Caplv.ImageCache

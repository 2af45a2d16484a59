import Caplv.ImageCache.Integrity

namespace Caplv.ImageCache

open Text Api Libvirt Controller Program

section Key

-- What sourceKey writes of a source, with the fields kept apart.
structure KeyedFields where
  type : SourceType
  https : Option String
  oci : Option (String × String)
  s3 : Option (String × String × String)
deriving DecidableEq

def keyedFields (src : BaseImageSource) : KeyedFields :=
  ⟨src.type, src.https.map (·.url), src.oci.map fun oci => (oci.reference, oci.blobTitle),
    src.s3.map fun s3 => (s3.endpoint, s3.bucket, s3.key)⟩

-- What the transports read beside it.
structure TransportFields where
  https : Option Bool
  oci : Option (Bool × Bool)
  s3 : Option (String × Bool × Bool × Bool)
deriving DecidableEq

def transportFields (src : BaseImageSource) : TransportFields :=
  ⟨src.https.map (·.insecureSkipTLSVerify), src.oci.map fun oci => (oci.plainHTTP, oci.insecureSkipTLSVerify),
    src.s3.map fun s3 => (s3.region, s3.usePathStyle, s3.insecure, s3.insecureSkipTLSVerify)⟩

variable {src src' : BaseImageSource}

theorem readFields_eq (hkeyed : keyedFields src = keyedFields src')
    (htransport : transportFields src = transportFields src') : readFields src = readFields src' := by
  obtain ⟨type, https, oci, s3⟩ := src
  obtain ⟨type', https', oci', s3'⟩ := src'
  simp only [keyedFields, KeyedFields.mk.injEq] at hkeyed
  simp only [transportFields, TransportFields.mk.injEq] at htransport
  obtain ⟨rfl, hhttps, hoci, hs3⟩ := hkeyed
  obtain ⟨hhttps', hoci', hs3'⟩ := htransport
  cases type with
  | https => cases https <;> cases https' <;> simp_all [readFields]
  | oci => cases oci <;> cases oci' <;> simp_all [readFields]
  | s3 => cases s3 <;> cases s3' <;> simp_all [readFields]

-- The source sets the part of its type and no other, and a separator of the key does not
-- occur in a field that it ends.
def Separable (src : BaseImageSource) : Prop :=
  match src.type with
  | .https => src.https ≠ none ∧ src.oci = none ∧ src.s3 = none
  | .oci => src.https = none ∧ src.s3 = none ∧ ∃ oci, src.oci = some oci ∧ '|' ∉ oci.reference.toList
  | .s3 => src.https = none ∧ src.oci = none ∧
      ∃ s3, src.s3 = some s3 ∧ '/' ∉ s3.endpoint.toList ∧ '/' ∉ s3.bucket.toList

theorem append_cons_inj {c : Char} {front front' rest rest' : List Char} (hfront : c ∉ front)
    (hfront' : c ∉ front') (h : front ++ c :: rest = front' ++ c :: rest') : front = front' ∧ rest = rest' := by
  rcases List.append_eq_append_iff.mp h with ⟨between, rfl, heq⟩ | ⟨between, rfl, heq⟩
  · cases between with
    | nil => exact ⟨(List.append_nil front).symm, (List.cons.inj heq).2⟩
    | cons first others =>
      obtain ⟨rfl, -⟩ := List.cons.inj heq
      exact absurd (List.mem_append_right front List.mem_cons_self) hfront'
  · cases between with
    | nil => exact ⟨List.append_nil front', (List.cons.inj heq).2.symm⟩
    | cons first others =>
      obtain ⟨rfl, -⟩ := List.cons.inj heq
      exact absurd (List.mem_append_right front' List.mem_cons_self) hfront

theorem bar_not_type (type : SourceType) : '|' ∉ (Controller.SourceType.text type).toList := by
  cases type <;> decide

-- The part of the key after the type, for a separable source.
def keyTail (src : BaseImageSource) : String :=
  src.https.elim "" (·.url) ++ src.oci.elim "" (fun oci => oci.reference ++ "|" ++ oci.blobTitle) ++
    src.s3.elim "" (fun s3 => s3.endpoint ++ "/" ++ s3.bucket ++ "/" ++ s3.key)

theorem sourceKey_inj (h : sourceKey src = sourceKey src') :
    src.type = src'.type ∧ keyTail src = keyTail src' := by
  have hchars := congrArg String.toList h
  have hkey (src : BaseImageSource) :
      (sourceKey src).toList = (Controller.SourceType.text src.type).toList ++ '|' :: (keyTail src).toList := by
    simp [sourceKey, keyTail, String.toList_append]
  rw [hkey, hkey] at hchars
  obtain ⟨htype, htail⟩ := append_cons_inj (bar_not_type _) (bar_not_type _) hchars
  exact ⟨text_injective (String.toList_inj.mp htype), String.toList_inj.mp htail⟩

theorem keyedFields_of_sourceKey (hsrc : Separable src) (hsrc' : Separable src')
    (h : sourceKey src = sourceKey src') : keyedFields src = keyedFields src' := by
  obtain ⟨htype, htail⟩ := sourceKey_inj h
  obtain ⟨type, https, oci, s3⟩ := src
  obtain ⟨type', https', oci', s3'⟩ := src'
  obtain rfl : type = type' := htype
  cases type with
  | https =>
    obtain ⟨hset, rfl, rfl⟩ := hsrc
    obtain ⟨hset', rfl, rfl⟩ := hsrc'
    obtain ⟨a, rfl⟩ := Option.ne_none_iff_exists'.mp hset
    obtain ⟨b, rfl⟩ := Option.ne_none_iff_exists'.mp hset'
    have hurl : a.url = b.url := by simpa [keyTail] using htail
    simp [keyedFields, hurl]
  | oci =>
    obtain ⟨rfl, rfl, a, rfl, ha⟩ := hsrc
    obtain ⟨rfl, rfl, b, rfl, hb⟩ := hsrc'
    have hchars := congrArg String.toList htail
    simp only [keyTail, Option.elim, String.toList_append, String.toList_empty, List.nil_append, List.append_nil,
      List.append_assoc] at hchars
    obtain ⟨href, htitle⟩ := append_cons_inj ha hb hchars
    simp [keyedFields, String.toList_inj.mp href, String.toList_inj.mp htitle]
  | s3 =>
    obtain ⟨rfl, rfl, a, rfl, haEndpoint, haBucket⟩ := hsrc
    obtain ⟨rfl, rfl, b, rfl, hbEndpoint, hbBucket⟩ := hsrc'
    have hchars := congrArg String.toList htail
    simp only [keyTail, Option.elim, String.toList_append, String.toList_empty, List.nil_append,
      List.append_assoc] at hchars
    obtain ⟨hendpoint, hrest⟩ := append_cons_inj haEndpoint hbEndpoint hchars
    obtain ⟨hbucket, hkey⟩ := append_cons_inj haBucket hbBucket hrest
    simp [keyedFields, String.toList_inj.mp hendpoint, String.toList_inj.mp hbucket,
      String.toList_inj.mp hkey]

theorem sourceKey_of_key {a b : ImageCall} (hexpected : a.expectedSHA256 = b.expectedSHA256)
    (h : a.key = b.key) : sourceKey a.source = sourceKey b.source := by
  have hchars := congrArg String.toList h
  simp only [ImageCall.key, String.toList_append, hexpected] at hchars
  exact String.toList_inj.mp (List.append_cancel_right (List.append_cancel_right hchars))

end Key

section System

variable {ι : Type} [DecidableEq ι] {cache : Cache} {sha : Sha256} {dirs : String → Prop}
  {gunzip : Stream → Except GoError Stream} {call : ι → ImageCall}

-- The sources are separable, and calls that agree on what the key holds use the same
-- settings of the transport and the same credentials.
structure KeySuffices (call : ι → ImageCall) : Prop where
  separable : ∀ i, Separable (call i).source
  settings : ∀ i j, (call i).expectedSHA256 = (call j).expectedSHA256 →
    keyedFields (call i).source = keyedFields (call j).source →
    transportFields (call i).source = transportFields (call j).source ∧ (call i).creds = (call j).creds

def SameFetch (a b : ImageCall) : Prop := readFields a.source = readFields b.source ∧ a.creds = b.creds

omit [DecidableEq ι] in
theorem KeySuffices.sameFetch (h : KeySuffices call) {i j : ι}
    (hexpected : (call i).expectedSHA256 = (call j).expectedSHA256) (hkey : (call i).key = (call j).key) :
    SameFetch (call i) (call j) := by
  have hkeyed := keyedFields_of_sourceKey (h.separable i) (h.separable j) (sourceKey_of_key hexpected hkey)
  obtain ⟨htransport, hcreds⟩ := h.settings i j hexpected hkeyed
  exact ⟨readFields_eq hkeyed htransport, hcreds⟩

-- Then calls for one digest share a flight only if they are the same fetch, and without a
-- digest a call receives only what such a fetch produced.
theorem coalesced_same {c : Config cacheOps (CacheHost ι) ι Outcome}
    (hc : (cacheSystem cache gunzip sha call).Reachable (CacheStart cache sha dirs) c)
    (hkey : KeySuffices call) :
    (∀ n flight, c.state.flights.flight n = some flight → ∀ a ∈ flight.callers, ∀ b ∈ flight.callers,
      a.expectedSHA256 = b.expectedSHA256 → SameFetch a b ∧
        ∀ net, MultiResolver.openStream net a.source a.creds = MultiResolver.openStream net b.source b.creds) ∧
    ∀ i entry, c.threads i = some (.done (.ok entry)) → (call i).expectedSHA256 = "" →
      ∃ n flight, c.state.flights.flight n = some flight ∧ flight.outcome = some (.ok entry) ∧
        SameFetch flight.leader (call i) := by
  obtain ⟨hinv, hgot⟩ := reachable_cache hc
  have hsame {n : Nat} {flight : Flight String ImageCall Outcome}
      (hflight : c.state.flights.flight n = some flight) {a b : ImageCall} (ha : a ∈ flight.callers)
      (hb : b ∈ flight.callers) (hexpected : a.expectedSHA256 = b.expectedSHA256) : SameFetch a b := by
    obtain ⟨hakey, i, rfl⟩ := hinv.flights.keyed n flight hflight a ha
    obtain ⟨hbkey, j, rfl⟩ := hinv.flights.keyed n flight hflight b hb
    exact hkey.sameFetch hexpected (hakey.trans hbkey.symm)
  refine ⟨fun n flight hflight a ha b hb hexpected => ?_, fun i entry hdone hnone => ?_⟩
  · have hfetch := hsame hflight ha hb hexpected
    refine ⟨hfetch, fun net => ?_⟩
    rw [hfetch.2]
    exact openStream_readFields hfetch.1 b.creds
  · rcases hgot i _ hdone with ⟨n, flight, hflight, houtcome, hcaller⟩ | ⟨hsupplied, -⟩
    · have hcolon : ':' ∉ (call i).expectedSHA256.toList := by
        rw [hnone]
        exact List.not_mem_nil
      have hexpected := hinv.leader_expected hflight houtcome hcaller hcolon
      exact ⟨n, flight, hflight, houtcome, hsame hflight List.mem_cons_self hcaller hexpected⟩
    · exact absurd hnone hsupplied

end System

section Samples

theorem coalesced_same_download : ∃ c entry,
    (sampleGets "").Reachable (CacheStart sampleCache sampleSha fun _ => False) c ∧
      c.threads true = some (.done (.ok entry)) ∧
      ∃ n flight, c.state.flights.flight n = some flight ∧ flight.outcome = some (.ok entry) ∧
        SameFetch flight.leader ⟨sampleImage, none, ""⟩ := by
  have hreachable := sampleGets_reachable "" 7 samples_ready.1
  have hkey : KeySuffices fun _ : Bool => (⟨sampleImage, none, ""⟩ : ImageCall) :=
    ⟨fun _ => ⟨by decide, rfl, rfl⟩, fun _ _ _ _ => ⟨rfl, rfl⟩⟩
  exact ⟨_, _, hreachable, rfl, (coalesced_same hreachable hkey).2 true _ rfl rfl⟩

-- Two calls for one URL, the first with a password and the second without.
def sampleCalls (first : Bool) : ImageCall :=
  ⟨sampleImage, if first then some { username := [1], password := [2] } else none, ""⟩

-- The second call enters while the first is in flight, and waits for it.
theorem flight_shared : ∃ c entry flight,
    (cacheSystem sampleCache .ok sampleSha sampleCalls).Reachable
        (CacheStart sampleCache sampleSha fun _ => False) c ∧
      c.threads false = some (.done (.ok entry)) ∧ c.state.flights.flight 0 = some flight ∧
      flight.outcome = some (.ok entry) ∧ sampleCalls false ∈ flight.callers ∧
      flight.leader = sampleCalls true ∧ (sampleCalls true).creds ≠ (sampleCalls false).creds := by
  have hstep (i : Bool) (w : CacheHost Bool) (op : CacheOp) (h : cacheReady w op = true) :=
    cacheMachine_step i w op h
  have hidle : (cacheSystem sampleCache .ok sampleSha sampleCalls).Reachable
      (CacheStart sampleCache sampleSha fun _ => False) (System.idle sampleCacheHost) :=
    System.reachable_idle sampleCacheHost_start
  have hled := hidle.startRun (i := true) rfl rfl (cacheMachine true) cacheReady 1 (by decide +kernel) (hstep true)
  have hjoined := hled.startRun (i := false) rfl rfl (cacheMachine false) cacheReady 1 (by decide +kernel)
    (hstep false)
  have hfetched := hjoined.runFor (i := true) rfl (cacheMachine true) cacheReady 6 (by decide +kernel) (hstep true)
  have hshared := hfetched.runFor (i := false) rfl (cacheMachine false) cacheReady 1 (by decide +kernel) (hstep false)
  exact ⟨_, _, _, hshared, rfl, rfl, rfl, List.mem_cons_of_mem _ List.mem_cons_self, rfl, by decide⟩

end Samples

end Caplv.ImageCache

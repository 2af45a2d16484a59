import Caplv.Controller.World
import Caplv.BootArtifacts.Resolver

namespace Caplv.Controller

open Text Api Libvirt Program BootArtifacts

section Key

-- The lines bootArtifactsCacheKey hashes.
def httpsLines (https : HTTPSBootArtifactsSource) : List String :=
  ["https.kernel=" ++ https.kernelURL, "https.initramfs=" ++ https.initramfsURL,
    "https.kernel.sha256=" ++ https.kernelSHA256, "https.initramfs.sha256=" ++ https.initramfsSHA256]

def ociLines (oci : OCIBootArtifactsSource) : List String :=
  ["oci.ref=" ++ oci.reference, "oci.kernel.title=" ++ oci.kernelLayerTitle,
    "oci.initramfs.title=" ++ oci.initramfsLayerTitle, "oci.kernel.sha256=" ++ oci.kernelSHA256,
    "oci.initramfs.sha256=" ++ oci.initramfsSHA256]

def s3Lines (s3 : S3BootArtifactsSource) : List String :=
  ["s3.endpoint=" ++ s3.endpoint, "s3.region=" ++ s3.region, "s3.bucket=" ++ s3.bucket,
    "s3.kernel=" ++ s3.kernelKey, "s3.initramfs=" ++ s3.initramfsKey,
    "s3.kernel.sha256=" ++ s3.kernelSHA256, "s3.initramfs.sha256=" ++ s3.initramfsSHA256]

def keyLines (src : BootArtifactsSource) : List String :=
  ["type=" ++ SourceType.text src.type] ++ src.https.elim [] httpsLines ++ src.oci.elim [] ociLines ++
    src.s3.elim [] s3Lines

theorem bootArtifactsCacheText_eq (src : BootArtifactsSource) :
    bootArtifactsCacheText src = unlines (keyLines src) := by
  have hcons (line : String) (rest : List String) :
      unlines (line :: rest) = line ++ "\n" ++ unlines rest := rfl
  have hnil : unlines [] = "" := rfl
  rw [keyLines, unlines_append, unlines_append, unlines_append, bootArtifactsCacheText]
  congr 1
  · congr 1
    · congr 1
      · rw [hcons, hnil, String.append_empty]
      · cases src.https with
        | none => rfl
        | some https =>
          simp only [-String.reduceAppend, Option.elim, httpsLines, hcons, hnil, String.append_assoc,
            String.append_empty]
    · cases src.oci with
      | none => rfl
      | some oci =>
        simp only [-String.reduceAppend, Option.elim, ociLines, hcons, hnil, String.append_assoc, String.append_empty]
  · cases src.s3 with
    | none => rfl
    | some s3 =>
      simp only [-String.reduceAppend, Option.elim, s3Lines, hcons, hnil, String.append_assoc, String.append_empty]

def NewlineFree (src : BootArtifactsSource) : Prop := ∀ line ∈ keyLines src, '\n' ∉ line.toList

-- The fields of the source that the key holds.
def keyedFields (src : BootArtifactsSource) : BootArtifactsSource :=
  { src with
    oci := src.oci.map fun oci => { oci with
      plainHTTP := false, insecureSkipTLSVerify := false, credentialsSecretRef := none }
    s3 := src.s3.map fun s3 => { s3 with
      usePathStyle := false, insecure := false, insecureSkipTLSVerify := false
      credentialsSecretRef := none } }

-- The settings of the transport that it does not hold.
def ociFlags (oci : OCIBootArtifactsSource) : Bool × Bool := (oci.plainHTTP, oci.insecureSkipTLSVerify)

def s3Flags (s3 : S3BootArtifactsSource) : Bool × Bool × Bool :=
  (s3.usePathStyle, s3.insecure, s3.insecureSkipTLSVerify)

def transportFlags (src : BootArtifactsSource) : Option (Bool × Bool) × Option (Bool × Bool × Bool) :=
  (src.oci.map ociFlags, src.s3.map s3Flags)

def StartsWith (c : Char) (line : String) : Prop := line.toList.head? = some c

theorem startsWith_append {c : Char} {label : String} (value : String) (h : StartsWith c label) :
    StartsWith c (label ++ value) := by
  unfold StartsWith at h ⊢
  rw [String.toList_append, List.head?_append, h]
  rfl

theorem StartsWith.unique {c d : Char} {line : String} (hc : StartsWith c line) (hd : StartsWith d line) :
    c = d := Option.some.inj (hc.symm.trans hd)

-- A block of lines, all with the same first letter, or no block.
structure IsBlock (c : Char) (size : Nat) (lines : List String) : Prop where
  starts : ∀ line ∈ lines, StartsWith c line
  size : lines = [] ∨ lines.length = size

theorem isBlock_elim {α : Type} {c : Char} {size : Nat} (block : α → List String) (value : Option α)
    (hlines : ∀ a, ∀ line ∈ block a, StartsWith c line) (hsize : ∀ a, (block a).length = size) :
    IsBlock c size (value.elim [] block) := by
  cases value with
  | none => exact ⟨nofun, .inl rfl⟩
  | some a => exact ⟨hlines a, .inr (hsize a)⟩

theorem IsBlock.append_inj {c : Char} {size : Nat} {block block' rest rest' : List String}
    (h : IsBlock c size block) (h' : IsBlock c size block') (hrest : ∀ line ∈ rest, ¬ StartsWith c line)
    (hrest' : ∀ line ∈ rest', ¬ StartsWith c line) (heq : block ++ rest = block' ++ rest') :
    block = block' ∧ rest = rest' := by
  have hmixed {block rest : List String} (h : IsBlock c size block)
      (hnone : ∀ line ∈ block ++ rest, ¬ StartsWith c line) : block = [] := by
    cases block with
    | nil => rfl
    | cons line others =>
      exact absurd (h.starts line List.mem_cons_self) (hnone line (by simp))
  rcases h.size with hnil | hsize
  · subst hnil
    rw [List.nil_append] at heq
    have hnil' : block' = [] := hmixed h' (heq ▸ hrest)
    subst hnil'
    exact ⟨rfl, heq⟩
  · rcases h'.size with hnil' | hsize'
    · subst hnil'
      rw [List.nil_append] at heq
      have hnil : block = [] := hmixed h (heq ▸ hrest')
      subst hnil
      exact ⟨rfl, heq⟩
    · exact List.append_inj heq (hsize.trans hsize'.symm)

theorem isBlock_https (value : Option HTTPSBootArtifactsSource) :
    IsBlock 'h' 4 (value.elim [] httpsLines) := by
  refine isBlock_elim httpsLines value (fun https line hline => ?_) fun _ => rfl
  simp only [httpsLines, List.mem_cons, List.not_mem_nil, or_false] at hline
  rcases hline with rfl | rfl | rfl | rfl <;> exact startsWith_append _ rfl

theorem isBlock_oci (value : Option OCIBootArtifactsSource) : IsBlock 'o' 5 (value.elim [] ociLines) := by
  refine isBlock_elim ociLines value (fun oci line hline => ?_) fun _ => rfl
  simp only [ociLines, List.mem_cons, List.not_mem_nil, or_false] at hline
  rcases hline with rfl | rfl | rfl | rfl | rfl <;> exact startsWith_append _ rfl

theorem isBlock_s3 (value : Option S3BootArtifactsSource) : IsBlock 's' 7 (value.elim [] s3Lines) := by
  refine isBlock_elim s3Lines value (fun s3 line hline => ?_) fun _ => rfl
  simp only [s3Lines, List.mem_cons, List.not_mem_nil, or_false] at hline
  rcases hline with rfl | rfl | rfl | rfl | rfl | rfl | rfl <;> exact startsWith_append _ rfl

theorem IsBlock.not_startsWith {c d : Char} {size : Nat} {block : List String} (h : IsBlock d size block)
    (hne : c ≠ d) : ∀ line ∈ block, ¬ StartsWith c line :=
  fun line hline hc => hne (hc.unique (h.starts line hline))

theorem keyedFields_eq {src src' : BootArtifactsSource} (h : keyLines src = keyLines src') :
    keyedFields src = keyedFields src' := by
  obtain ⟨type, https, oci, s3⟩ := src
  obtain ⟨type', https', oci', s3'⟩ := src'
  simp only [keyLines, List.append_assoc] at h
  obtain ⟨htype, h⟩ := List.append_inj h rfl
  have hafterS3 (value : Option S3BootArtifactsSource) {c : Char} (hc : c ≠ 's') :=
    (isBlock_s3 value).not_startsWith hc
  have hafterOCI (oci : Option OCIBootArtifactsSource) (s3 : Option S3BootArtifactsSource) :
      ∀ line ∈ oci.elim [] ociLines ++ s3.elim [] s3Lines, ¬ StartsWith 'h' line := by
    intro line hline
    rcases List.mem_append.mp hline with ho | hs
    · exact (isBlock_oci oci).not_startsWith (by decide) line ho
    · exact hafterS3 s3 (by decide) line hs
  obtain ⟨hhttps, h⟩ := (isBlock_https https).append_inj (isBlock_https https') (hafterOCI oci s3)
    (hafterOCI oci' s3') h
  obtain ⟨hoci, hs3⟩ := (isBlock_oci oci).append_inj (isBlock_oci oci') (hafterS3 s3 (by decide))
    (hafterS3 s3' (by decide)) h
  have htype' : type = type' := by
    apply text_injective
    simpa using htype
  have hhttps' : https = https' := by
    cases https with
    | none => cases https' <;> simp_all [httpsLines]
    | some a =>
      cases https' with
      | none => simp [httpsLines] at hhttps
      | some b =>
        obtain ⟨_, _, _, _⟩ := a
        obtain ⟨_, _, _, _⟩ := b
        simp_all [httpsLines]
  subst htype' hhttps'
  rw [keyedFields, keyedFields]
  congr 1
  · cases oci <;> cases oci' <;> simp_all [ociLines]
  · cases s3 <;> cases s3' <;> simp_all [s3Lines]

end Key

section Reads

-- What the resolvers read of a source: the part of its type, without the reference to the
-- Secret, which the caller has turned into credentials.
inductive ReadFields where
  | https (src : Option HTTPSBootArtifactsSource)
  | oci (src : Option OCIBootArtifactsSource)
  | s3 (src : Option S3BootArtifactsSource)
deriving DecidableEq

def readFields (src : BootArtifactsSource) : ReadFields :=
  match src.type with
  | .https => .https src.https
  | .oci => .oci (src.oci.map fun oci => { oci with credentialsSecretRef := none })
  | .s3 => .s3 (src.s3.map fun s3 => { s3 with credentialsSecretRef := none })

def ReadFields.resolve (net : Network) (sha : Sha256) (creds : Option Credentials) :
    ReadFields → Except GoError BootFiles
  | .https src => MultiResolver.resolve net sha ⟨.https, src, none, none⟩ creds
  | .oci src => MultiResolver.resolve net sha ⟨.oci, none, src, none⟩ creds
  | .s3 src => MultiResolver.resolve net sha ⟨.s3, none, none, src⟩ creds

theorem resolve_readFields (net : Network) (sha : Sha256) (src : BootArtifactsSource)
    (creds : Option Credentials) :
    MultiResolver.resolve net sha src creds = (readFields src).resolve net sha creds := by
  obtain ⟨type, https, oci, s3⟩ := src
  cases type with
  | https => rfl
  | oci => cases oci <;> rfl
  | s3 => cases s3 <;> rfl

theorem readFields_eq {src src' : BootArtifactsSource} (hkeyed : keyedFields src = keyedFields src')
    (hflags : transportFlags src = transportFlags src') : readFields src = readFields src' := by
  obtain ⟨type, https, oci, s3⟩ := src
  obtain ⟨type', https', oci', s3'⟩ := src'
  simp only [keyedFields, transportFlags, BootArtifactsSource.mk.injEq, Prod.mk.injEq] at hkeyed hflags
  obtain ⟨rfl, rfl, hoci, hs3⟩ := hkeyed
  obtain ⟨hociFlags, hs3Flags⟩ := hflags
  cases type with
  | https => rfl
  | oci => cases oci <;> cases oci' <;> simp_all [readFields, ociFlags]
  | s3 => cases s3 <;> cases s3' <;> simp_all [readFields, s3Flags]

end Reads

section System

structure ArtifactCall where
  source : BootArtifactsSource
  creds : Option Credentials
deriving DecidableEq

-- The cache in the controller's memory, and the calls of the resolver that succeeded.
structure ArtifactStore where
  cached : String → Option BootFiles
  resolved : List (ArtifactCall × BootFiles)

def artifactStep (sha : Sha256) (before : ArtifactStore) : (op : Op) → Reply op → ArtifactStore → Prop
  | .loadArtifacts key, reply, after => after = before ∧ reply = before.cached key
  | .storeArtifacts key files, _, after =>
    after = { before with cached := Function.update before.cached key (some files) }
  | .resolveArtifacts src creds, reply, after =>
    ∃ net, reply = MultiResolver.resolve net sha src creds ∧ after = { before with
      resolved := (reply.toOption.map fun files => (⟨src, creds⟩, files)).toList ++ before.resolved }
  | _, _, after => after = before

-- Any number of concurrent calls. A restart of the controller empties the cache.
def artifactSystem {ι : Type} (deps : Deps) (sha : Sha256) (call : ι → ArtifactCall) :
    System signature ArtifactStore ι (Except GoError BootFiles) where
  handler _ := artifactStep sha
  env before after := after = { before with cached := fun _ => none }
  start i prog := prog = resolveCachedArtifacts deps (call i).source (call i).creds

def NothingCached (w : ArtifactStore) : Prop := (∀ key, w.cached key = none) ∧ w.resolved = []

variable {ι : Type} {deps : Deps} {sha : Sha256} {call : ι → ArtifactCall}

def ResolvedUnder (deps : Deps) (call : ι → ArtifactCall) (w : ArtifactStore) (key : String)
    (files : BootFiles) : Prop :=
  ∃ j, bootArtifactsCacheKey deps (call j).source = key ∧ (call j, files) ∈ w.resolved

structure CacheHonest (deps : Deps) (sha : Sha256) (call : ι → ArtifactCall) (w : ArtifactStore) :
    Prop where
  cached : ∀ key files, w.cached key = some files → ResolvedUnder deps call w key files
  resolved : ∀ call files, (call, files) ∈ w.resolved →
    ∃ net, MultiResolver.resolve net sha call.source call.creds = .ok files

structure ArtifactRely (deps : Deps) (sha : Sha256) (call : ι → ArtifactCall)
    (before after : ArtifactStore) : Prop where
  resolved : ∀ entry ∈ before.resolved, entry ∈ after.resolved
  honest : CacheHonest deps sha call before → CacheHonest deps sha call after

theorem ArtifactRely.refl (w : ArtifactStore) : ArtifactRely deps sha call w w :=
  ⟨fun _ h => h, fun h => h⟩

theorem ArtifactRely.trans {a b c : ArtifactStore} (hab : ArtifactRely deps sha call a b)
    (hbc : ArtifactRely deps sha call b c) : ArtifactRely deps sha call a c :=
  ⟨fun entry h => hbc.resolved entry (hab.resolved entry h), fun h => hbc.honest (hab.honest h)⟩

theorem ResolvedUnder.mono {before after : ArtifactStore} {key : String} {files : BootFiles}
    (h : ResolvedUnder deps call before key files) (hrely : ∀ entry ∈ before.resolved, entry ∈ after.resolved) :
    ResolvedUnder deps call after key files := by
  obtain ⟨j, hkey, hmem⟩ := h
  exact ⟨j, hkey, hrely _ hmem⟩

-- A call stores only what the resolver has given for its key.
def artifactGuard (deps : Deps) (call : ι → ArtifactCall) (w : ArtifactStore) : Op → Prop
  | .storeArtifacts key files => ResolvedUnder deps call w key files
  | _ => True

theorem artifactStep_rely {before after : ArtifactStore} {op : Op} {reply : Reply op}
    (hguard : artifactGuard deps call before op) (hstep : artifactStep sha before op reply after) :
    ArtifactRely deps sha call before after := by
  have hsame (h : after = before) : ArtifactRely deps sha call before after := h ▸ ArtifactRely.refl _
  cases op with
  | loadArtifacts key => exact hsame hstep.1
  | storeArtifacts key files =>
    obtain rfl : after = _ := hstep
    refine ⟨fun _ h => h, fun honest => ⟨fun key' files' hcached => ?_, honest.resolved⟩⟩
    by_cases hkey : key' = key
    · subst hkey
      simp only [Function.update_self, Option.some.injEq] at hcached
      exact hcached ▸ hguard
    · simp only [Function.update_of_ne hkey] at hcached
      exact honest.cached key' files' hcached
  | resolveArtifacts src creds =>
    obtain ⟨net, hreply, rfl⟩ := hstep
    refine ⟨fun _ h => List.mem_append_right _ h, fun honest =>
      ⟨fun key files hcached => ?_, fun call' files hmem => ?_⟩⟩
    · exact (honest.cached key files hcached).mono fun _ h => List.mem_append_right _ h
    · rcases List.mem_append.mp hmem with hnew | hold
      · cases hresult : reply with
        | error err => simp [hresult, Except.toOption] at hnew
        | ok resolved =>
          simp only [hresult, Except.toOption, Option.map_some, Option.toList_some,
            List.mem_singleton, Prod.mk.injEq] at hnew
          obtain ⟨rfl, rfl⟩ := hnew
          exact ⟨net, hreply.symm.trans hresult⟩
      · exact honest.resolved call' files hold
  | _ => exact hsame hstep

theorem resolveCachedArtifacts_ends (i : ι) {w : ArtifactStore} (hw : CacheHonest deps sha call w) :
    EndsUnder (ArtifactRely deps sha call) (artifactStep sha) (artifactGuard deps call)
      (fun out after => ∀ files, out = .ok files →
        ResolvedUnder deps call after (bootArtifactsCacheKey deps (call i).source) files)
      (resolveCachedArtifacts deps (call i).source (call i).creds) w := by
  intro start hstart
  refine ⟨trivial, fun cached loaded hload => ?_⟩
  obtain ⟨middle, ⟨rfl, hcached⟩, hrely⟩ := hload
  cases cached with
  | some cached =>
    intro files hfiles
    obtain rfl : cached = files := Except.ok.inj hfiles
    exact ((hstart.honest hw).cached _ _ hcached.symm).mono hrely.resolved
  | none =>
    refine ⟨trivial, fun result resolved hresolve => ?_⟩
    obtain ⟨middle, ⟨net, hresult, rfl⟩, hrely⟩ := hresolve
    cases result with
    | error err => exact fun _ h => nomatch h
    | ok files =>
      have hresolved : ResolvedUnder deps call resolved
          (bootArtifactsCacheKey deps (call i).source) files :=
        ⟨i, rfl, hrely.resolved _ (List.mem_append_left _ List.mem_cons_self)⟩
      refine ⟨hresolved, fun _ stored hstore => ?_⟩
      obtain ⟨middle, rfl, hrely⟩ := hstore
      intro files' hfiles
      obtain rfl : files = files' := Except.ok.inj hfiles
      exact hresolved.mono hrely.resolved

theorem NothingCached.honest {w : ArtifactStore} (h : NothingCached w) : CacheHonest deps sha call w := by
  refine ⟨fun key files hcached => ?_, fun call' files hmem => ?_⟩
  · rw [h.1] at hcached
    cases hcached
  · rw [h.2] at hmem
    cases hmem

theorem restart_honest {w : ArtifactStore} (h : CacheHonest deps sha call w) :
    CacheHonest deps sha call { w with cached := fun _ => none } := ⟨nofun, h.resolved⟩

-- Two calls that agree on everything the key holds also agree on what it leaves out.
def KeySuffices (call : ι → ArtifactCall) : Prop :=
  (∀ i, NewlineFree (call i).source) ∧
    ∀ i j, keyedFields (call i).source = keyedFields (call j).source →
      transportFlags (call i).source = transportFlags (call j).source ∧ (call i).creds = (call j).creds

theorem keyedFields_eq_of_key (hsha : Function.Injective deps.sha256Hex) {src src' : BootArtifactsSource}
    (hfree : NewlineFree src) (hfree' : NewlineFree src')
    (hkey : bootArtifactsCacheKey deps src = bootArtifactsCacheKey deps src') :
    keyedFields src = keyedFields src' := by
  have htext := hsha hkey
  rw [bootArtifactsCacheText_eq, bootArtifactsCacheText_eq] at htext
  exact keyedFields_eq (unlines_inj hfree hfree' htext)

-- Whatever a call returns was resolved by a call that reads the same and has the same
-- credentials, and so it is what its own source gives.
theorem cachedArtifacts_own [DecidableEq ι] (hsha : Function.Injective deps.sha256Hex)
    (hkeys : KeySuffices call) {c : Config signature ArtifactStore ι (Except GoError BootFiles)}
    (hc : (artifactSystem deps sha call).Reachable NothingCached c) {i : ι} {files : BootFiles}
    (hdone : c.threads i = some (.done (.ok files))) :
    (∃ j, (call j, files) ∈ c.state.resolved ∧ readFields (call j).source = readFields (call i).source ∧
      (call j).creds = (call i).creds) ∧
    ∃ net, MultiResolver.resolve net sha (call i).source (call i).creds = .ok files := by
  obtain ⟨honest, hends⟩ := (artifactSystem deps sha call).reachable_ends
    (CacheHonest deps sha call) (fun _ => ArtifactRely deps sha call) (fun _ => artifactGuard deps call)
    (fun i out after => ∀ files, out = .ok files →
      ResolvedUnder deps call after (bootArtifactsCacheKey deps (call i).source) files)
    (fun _ => ArtifactRely.refl) (fun _ _ _ _ => ArtifactRely.trans) (fun _ => NothingCached.honest)
    (fun before after hbefore hrestart => by
      subst hrestart
      exact ⟨restart_honest hbefore, fun _ => ⟨fun _ h => h, restart_honest⟩⟩)
    (fun i prog w hw hprog => hprog ▸ resolveCachedArtifacts_ends i hw)
    (fun i before op reply after hbefore hguard hstep => by
      have hrely := artifactStep_rely hguard hstep
      exact ⟨hrely.honest hbefore, fun _ _ => hrely⟩) hc
  obtain ⟨j, hkey, hmem⟩ := hends i _ hdone c.state (ArtifactRely.refl _) files rfl
  have hkeyed := keyedFields_eq_of_key hsha (hkeys.1 j) (hkeys.1 i) hkey
  obtain ⟨hflags, hcreds⟩ := hkeys.2 j i hkeyed
  have hread := readFields_eq hkeyed hflags
  obtain ⟨net, hnet⟩ := honest.resolved _ _ hmem
  refine ⟨⟨j, hmem, hread, hcreds⟩, net, ?_⟩
  rw [resolve_readFields, ← hread, ← hcreds, ← resolve_readFields]
  exact hnet

end System

section Samples

def sampleNetwork : Network :=
  { newRequest := fun _ => .ok ()
    get := fun _ => .ok ⟨200, .ok []⟩
    newRepository := fun _ => .ok "v1"
    fetchManifest := fun _ _ => .ok []
    unmarshalManifest := fun _ => .ok [⟨"vmlinuz", "k"⟩, ⟨"initramfs.img", "i"⟩]
    fetchBlob := fun _ layer => .ok (.ok (if layer.digest = "k" then [1] else [1, 2]))
    newS3 := fun _ => .ok ()
    getObject := fun _ _ _ => .ok (.ok [])
    gunzip := fun raw => .ok raw }

def sampleSource (insecureSkipTLSVerify : Bool) : BootArtifactsSource :=
  ⟨.oci, none, some ⟨"registry/boot:v1", "", "", false, insecureSkipTLSVerify, none, "", ""⟩, none⟩

def mixedCalls (i : Bool) : ArtifactCall :=
  if i then ⟨sampleSource false, none⟩ else ⟨sampleSource true, some { username := [1], password := [2] }⟩

def artifactMachine : Machine signature ArtifactStore := fun w op => match op with
  | .loadArtifacts key => (w.cached key, w)
  | .storeArtifacts key files => ((), { w with cached := Function.update w.cached key (some files) })
  | .resolveArtifacts src creds =>
    let reply := MultiResolver.resolve sampleNetwork sampleSha src creds
    (reply, { w with
      resolved := (reply.toOption.map fun files => (⟨src, creds⟩, files)).toList ++ w.resolved })
  | _ => (freshAnswer _, w)

theorem artifactMachine_step (w : ArtifactStore) (op : Op) :
    artifactStep sampleSha w op (artifactMachine w op).1 (artifactMachine w op).2 := by
  cases op with
  | loadArtifacts key => exact ⟨rfl, rfl⟩
  | resolveArtifacts src creds => exact ⟨sampleNetwork, rfl, rfl⟩
  | _ => rfl

def emptyStore : ArtifactStore := ⟨fun _ => none, []⟩

def afterCall (call : Bool → ArtifactCall) (i : Bool) (w : ArtifactStore) :
    Prog signature (Except GoError BootFiles) × ArtifactStore :=
  runFor artifactMachine 3 (resolveCachedArtifacts sampleDeps (call i).source (call i).creds) w

theorem afterCall_reachable {call : Bool → ArtifactCall}
    {c : Config signature ArtifactStore Bool (Except GoError BootFiles)}
    (hc : (artifactSystem sampleDeps sampleSha call).Reachable NothingCached c) {i : Bool}
    (hidle : c.threads i = none) :
    (artifactSystem sampleDeps sampleSha call).Reachable NothingCached
      ⟨(afterCall call i c.state).2, Function.update c.threads i (some (afterCall call i c.state).1)⟩ := by
  have hstarted := hc.start (i := i) hidle rfl
  have hrun := hstarted.runFor (Function.update_self ..) artifactMachine (fun _ _ => true) 3
    (permits_of_forall (fun _ _ => rfl) _ _ _) fun w op _ => artifactMachine_step w op
  rwa [Function.update_idem] at hrun

theorem bothCalls_reachable (call : Bool → ArtifactCall) :
    (artifactSystem sampleDeps sampleSha call).Reachable NothingCached
      ⟨(afterCall call true (afterCall call false emptyStore).2).2,
        Function.update (Function.update (fun _ => none) false (some (afterCall call false emptyStore).1)) true
          (some (afterCall call true (afterCall call false emptyStore).2).1)⟩ := by
  have hempty : (artifactSystem sampleDeps sampleSha call).Reachable NothingCached
      (System.idle emptyStore) := System.reachable_idle ⟨fun _ => rfl, rfl⟩
  exact afterCall_reachable (afterCall_reachable hempty (i := false) rfl) (i := true) rfl

-- The cluster that verifies TLS and has no credentials gets the files that were fetched
-- without verification and with the other cluster's credentials.
theorem mixedCalls_share : Function.Injective sampleDeps.sha256Hex ∧ ∃ c files,
    (artifactSystem sampleDeps sampleSha mixedCalls).Reachable NothingCached c ∧
      c.threads true = some (.done (.ok files)) ∧ c.state.resolved = [(mixedCalls false, files)] ∧
      readFields (mixedCalls false).source ≠ readFields (mixedCalls true).source ∧
      (mixedCalls false).creds ≠ (mixedCalls true).creds :=
  ⟨fun _ _ h => h, _, _, bothCalls_reachable mixedCalls, rfl, rfl, by decide, by decide⟩

def equalCalls (_ : Bool) : ArtifactCall := ⟨sampleSource false, none⟩

theorem cachedArtifacts_own_equalCalls : ∃ c files,
    (artifactSystem sampleDeps sampleSha equalCalls).Reachable NothingCached c ∧
      c.threads true = some (.done (.ok files)) ∧
      ∃ j, (equalCalls j, files) ∈ c.state.resolved ∧ (equalCalls j).creds = none := by
  have hfree : ∀ line ∈ keyLines (sampleSource false), '\n' ∉ line.toList := by decide
  have hkeys : KeySuffices equalCalls := ⟨fun _ => hfree, fun _ _ _ => ⟨rfl, rfl⟩⟩
  have hreachable := bothCalls_reachable equalCalls
  obtain ⟨⟨j, hmem, -, hcreds⟩, -⟩ := cachedArtifacts_own (fun _ _ h => h) hkeys hreachable (i := true) rfl
  exact ⟨_, _, hreachable, rfl, j, hmem, hcreds⟩

end Samples

end Caplv.Controller

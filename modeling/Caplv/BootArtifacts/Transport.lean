import Caplv.BootArtifacts.Resolver

namespace Caplv.BootArtifacts

open Text Api Libvirt Controller

def StartsGzip (payload : Bytes) : Prop := ∃ rest, payload = 0x1f :: 0x8b :: rest

-- A compressor that the network's gunzip undoes.
structure Compressor (net : Network) where
  gzip : Bytes → Bytes
  gunzip_gzip : ∀ payload, net.gunzip (gzip payload) = .ok payload
  startsGzip : ∀ payload, StartsGzip (gzip payload)

-- The network with these bytes as the body of everything that is read from it.
def Network.delivering (net : Network) (raw : Bytes) : Network :=
  { net with
    get := fun url => (net.get url).map fun resp => { resp with body := resp.body.map fun _ => raw }
    fetchBlob := fun client layer => (net.fetchBlob client layer).map fun reader => reader.map fun _ => raw
    getObject := fun client bucket key =>
      (net.getObject client bucket key).map fun reader => reader.map fun _ => raw }

-- Each resolver makes the same of the payload and of the compressed payload, under any digest.
structure TransportInvisible (net : Network) (sha : Sha256) (compressor : Compressor net) (payload : Bytes) : Prop where
  decompress : decompressIfGzip net (compressor.gzip payload) = decompressIfGzip net payload
  https : ∀ url expectedDigest,
    HTTPSResolver.fetchOne (net.delivering (compressor.gzip payload)) sha url expectedDigest =
      HTTPSResolver.fetchOne (net.delivering payload) sha url expectedDigest
  oci : ∀ client layer expectedSHA256,
    OCIResolver.fetchLayer (net.delivering (compressor.gzip payload)) sha client layer expectedSHA256 =
      OCIResolver.fetchLayer (net.delivering payload) sha client layer expectedSHA256
  s3 : ∀ client bucket key expectedSHA256,
    S3Resolver.fetchObject (net.delivering (compressor.gzip payload)) sha client bucket key expectedSHA256 =
      S3Resolver.fetchObject (net.delivering payload) sha client bucket key expectedSHA256
  resolve : ∀ src creds,
    MultiResolver.resolve (net.delivering (compressor.gzip payload)) sha src creds =
      MultiResolver.resolve (net.delivering payload) sha src creds

section Decompress

variable {net : Network} {sha : Sha256}

theorem decompressIfGzip_of_startsGzip {payload : Bytes} (h : StartsGzip payload) :
    decompressIfGzip net payload = net.gunzip payload := by
  obtain ⟨rest, rfl⟩ := h
  rfl

theorem decompressIfGzip_of_not {payload : Bytes} (h : ¬ StartsGzip payload) :
    decompressIfGzip net payload = .ok payload := by
  unfold decompressIfGzip
  split
  · rename_i rest
    exact absurd ⟨rest, rfl⟩ h
  · rfl

theorem decompressIfGzip_gzip (compressor : Compressor net) (payload : Bytes) :
    decompressIfGzip net (compressor.gzip payload) = .ok payload := by
  rw [decompressIfGzip_of_startsGzip (compressor.startsGzip payload), compressor.gunzip_gzip]

-- One layer is taken off, so the payload itself must not lose one.
theorem decompressIfGzip_gzip_eq_iff (compressor : Compressor net) (payload : Bytes) :
    decompressIfGzip net (compressor.gzip payload) = decompressIfGzip net payload ↔
      ¬ StartsGzip payload ∨ net.gunzip payload = .ok payload := by
  rw [decompressIfGzip_gzip]
  by_cases hmagic : StartsGzip payload
  · rw [decompressIfGzip_of_startsGzip hmagic]
    constructor
    · exact fun h => .inr h.symm
    · exact fun h => (h.resolve_left (not_not_intro hmagic)).symm
  · rw [decompressIfGzip_of_not hmagic]
    exact iff_of_true rfl (.inl hmagic)

variable {packed plain : Bytes}

theorem verified_congr (h : decompressIfGzip net packed = decompressIfGzip net plain)
    (what which expectedSHA256 : String) :
    verified net sha what which expectedSHA256 packed = verified net sha what which expectedSHA256 plain := by
  rw [verified, verified, h]

theorem read_congr {α : Type} {next : Bytes → Except GoError α} (h : next packed = next plain) (what : String)
    (reader : Except GoError Bytes) :
    (wrapped what (reader.map fun _ => packed) >>= next) = (wrapped what (reader.map fun _ => plain) >>= next) := by
  cases reader with
  | error err => rfl
  | ok raw => exact h

theorem open_congr {α β : Type} {next : β → Except GoError α} {packedOf plainOf : β → β}
    (h : ∀ reader, next (packedOf reader) = next (plainOf reader)) (what : String) (opened : Except GoError β) :
    (wrapped what (opened.map packedOf) >>= next) = (wrapped what (opened.map plainOf) >>= next) := by
  cases opened with
  | error err => rfl
  | ok reader => exact h reader

theorem fetchOne_congr (h : decompressIfGzip net packed = decompressIfGzip net plain)
    (url expectedDigest : String) :
    HTTPSResolver.fetchOne (net.delivering packed) sha url expectedDigest =
      HTTPSResolver.fetchOne (net.delivering plain) sha url expectedDigest := by
  unfold HTTPSResolver.fetchOne
  split
  · rfl
  · refine bind_congr fun _ => open_congr (fun resp => ?_) ("get " ++ url) (net.get url)
    dsimp only
    split
    · rfl
    · exact read_congr (verified_congr h url url expectedDigest) ("read " ++ url) resp.body

theorem fetchLayer_congr (h : decompressIfGzip net packed = decompressIfGzip net plain)
    (client : OCIClient) (layer : Layer) (expectedSHA256 : String) :
    OCIResolver.fetchLayer (net.delivering packed) sha client layer expectedSHA256 =
      OCIResolver.fetchLayer (net.delivering plain) sha client layer expectedSHA256 := by
  refine open_congr (fun reader => ?_) ("fetch blob " ++ layer.digest) (net.fetchBlob client layer)
  exact read_congr (verified_congr h _ _ expectedSHA256) ("read blob " ++ layer.digest) reader

theorem fetchObject_congr (h : decompressIfGzip net packed = decompressIfGzip net plain)
    (client : S3Client) (bucket key expectedSHA256 : String) :
    S3Resolver.fetchObject (net.delivering packed) sha client bucket key expectedSHA256 =
      S3Resolver.fetchObject (net.delivering plain) sha client bucket key expectedSHA256 := by
  refine open_congr (fun reader => ?_) _ (net.getObject client bucket key)
  exact read_congr (verified_congr h _ _ expectedSHA256) _ reader

theorem resolve_congr (h : decompressIfGzip net packed = decompressIfGzip net plain)
    (src : BootArtifactsSource) (creds : Option Credentials) :
    MultiResolver.resolve (net.delivering packed) sha src creds =
      MultiResolver.resolve (net.delivering plain) sha src creds := by
  unfold MultiResolver.resolve
  cases src.type with
  | https =>
    cases src.https with
    | none => rfl
    | some https =>
      change artifacts _ _ = artifacts _ _
      rw [fetchOne_congr h, fetchOne_congr h]
  | oci =>
    cases src.oci with
    | none => rfl
    | some oci =>
      change OCIResolver.resolve _ sha oci creds = OCIResolver.resolve _ sha oci creds
      unfold OCIResolver.resolve
      refine bind_congr fun tag => ?_
      split
      · rfl
      · refine bind_congr fun bytes => bind_congr fun layers => bind_congr fun kernelLayer =>
          bind_congr fun initramfsLayer => ?_
        rw [fetchLayer_congr h, fetchLayer_congr h]
  | s3 =>
    cases src.s3 with
    | none => rfl
    | some s3 =>
      change S3Resolver.resolve _ sha s3 creds = S3Resolver.resolve _ sha s3 creds
      unfold S3Resolver.resolve
      refine bind_congr fun _ => ?_
      rw [fetchObject_congr h, fetchObject_congr h]

end Decompress

-- For every payload, every network and every expected digest: the wrapping is invisible exactly if
-- the payload does not begin with the magic bytes itself, or is its own decompression.
theorem transport_gzip_invisible_iff (net : Network) (sha : Sha256) (compressor : Compressor net) (payload : Bytes) :
    TransportInvisible net sha compressor payload ↔ ¬ StartsGzip payload ∨ net.gunzip payload = .ok payload := by
  rw [← decompressIfGzip_gzip_eq_iff compressor payload]
  constructor
  · exact fun h => h.decompress
  · intro h
    exact ⟨h, fetchOne_congr h, fetchLayer_congr h, fetchObject_congr h, resolve_congr h⟩

def magicNetwork : Network :=
  { newRequest := fun _ => .ok ()
    get := fun _ => .ok ⟨200, .ok []⟩
    newRepository := fun _ => .ok "v1"
    fetchManifest := fun _ _ => .ok []
    unmarshalManifest := fun _ => .ok []
    fetchBlob := fun _ _ => .ok (.ok [])
    newS3 := fun _ => .ok ()
    getObject := fun _ _ _ => .ok (.ok [])
    gunzip := fun raw => .ok (raw.drop 2) }

def magicCompressor : Compressor magicNetwork where
  gzip payload := 0x1f :: 0x8b :: payload
  gunzip_gzip _ := rfl
  startsGzip payload := ⟨payload, rfl⟩

-- A compressed initramfs is unpacked when it arrives as it is, and kept when it arrives wrapped.
theorem compressed_payload_visible :
    HTTPSResolver.fetchOne (magicNetwork.delivering (magicCompressor.gzip (magicCompressor.gzip [1]))) sampleSha
      "https://mirror/initramfs.img" "" = .ok (magicCompressor.gzip [1], sampleSha.hex (magicCompressor.gzip [1])) ∧
    HTTPSResolver.fetchOne (magicNetwork.delivering (magicCompressor.gzip [1])) sampleSha
      "https://mirror/initramfs.img" "" = .ok ([1], sampleSha.hex [1]) ∧
    sampleSha.hex (magicCompressor.gzip [1]) ≠ sampleSha.hex [1] := by
  decide +kernel

end Caplv.BootArtifacts

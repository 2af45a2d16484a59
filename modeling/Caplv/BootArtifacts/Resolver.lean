import Caplv.Controller.Op
import Caplv.Digest

namespace Caplv.BootArtifacts

open Text Api Libvirt Controller

-- `if err != nil { return ..., fmt.Errorf("what: %w", err) }`.
def wrapped {α : Type} (what : String) (result : Except GoError α) : Except GoError α :=
  result.mapError (GoError.wrap what)

structure HTTPResponse where
  statusCode : Nat
  body : Except GoError Bytes

structure Layer where
  title : String
  digest : String
deriving DecidableEq, Repr

structure OCIClient where
  reference : String
  plainHTTP : Bool
  insecureSkipTLSVerify : Bool
  credential : Option (Bytes × Bytes)
deriving DecidableEq, Repr

structure S3Client where
  endpoint : String
  secure : Bool
  region : String
  usePathStyle : Bool
  insecureSkipTLSVerify : Bool
  accessKeyID : Bytes
  secretAccessKey : Bytes
  sessionToken : Bytes
deriving DecidableEq, Repr

-- What the servers answer during one call, and the libraries that decode it. A reader that
-- was opened may still fail when it is read.
structure Network where
  newRequest : String → Except GoError Unit
  get : String → Except GoError HTTPResponse
  newRepository : String → Except GoError String
  fetchManifest : OCIClient → String → Except GoError Bytes
  unmarshalManifest : Bytes → Except GoError (List Layer)
  fetchBlob : OCIClient → Layer → Except GoError (Except GoError Bytes)
  newS3 : S3Client → Except GoError Unit
  getObject : S3Client → String → String → Except GoError (Except GoError Bytes)
  gunzip : Bytes → Except GoError Bytes

variable (net : Network) (sha : Sha256)

def decompressIfGzip : Bytes → Except GoError Bytes
  | 0x1f :: 0x8b :: rest => net.gunzip (0x1f :: 0x8b :: rest)
  | raw => .ok raw

-- What fetchOne, fetchLayer and fetchObject do with the bytes they have read from `what`,
-- which a mismatch calls `which`.
def verified (what which : String) (expectedSHA256 : String) (raw : Bytes) :
    Except GoError (Bytes × String) := do
  let body ← wrapped ("decompress " ++ what) (decompressIfGzip net raw)
  let digest := sha.hex body
  if expectedSHA256 ≠ "" ∧ equalFold digest expectedSHA256 = false then
    .error (.text ("sha256 mismatch for " ++ which ++ ": got " ++ digest ++ ", expected " ++
      expectedSHA256))
  else .ok (body, digest)

def artifacts (kernel initramfs : Except GoError (Bytes × String)) : Except GoError BootFiles := do
  let kernel ← wrapped "kernel" kernel
  let initramfs ← wrapped "initramfs" initramfs
  .ok ⟨kernel.1, kernel.2, initramfs.1, initramfs.2⟩

namespace HTTPSResolver

def fetchOne (url expectedDigest : String) : Except GoError (Bytes × String) := do
  if hasPrefix (toLower url) "https://" = false then
    .error (.text ("only https:// URLs are supported, got " ++ quote url))
  else do
    wrapped "build request" (net.newRequest url)
    let resp ← wrapped ("get " ++ url) (net.get url)
    if resp.statusCode ≠ 200 then
      .error (.text ("get " ++ url ++ ": unexpected status " ++ toString resp.statusCode))
    else do
      let raw ← wrapped ("read " ++ url) resp.body
      verified net sha url url expectedDigest raw

def resolve (src : HTTPSBootArtifactsSource) : Except GoError BootFiles :=
  artifacts (fetchOne net sha src.kernelURL src.kernelSHA256)
    (fetchOne net sha src.initramfsURL src.initramfsSHA256)

end HTTPSResolver

namespace OCIResolver

def defaultKernelLayerTitle : String := "vmlinuz"

def defaultInitramfsLayerTitle : String := "initramfs.img"

def pickLayerByTitle (layers : List Layer) (title : String) : Except GoError Layer :=
  match layers.filter (·.title = title) with
  | [] => .error (.text ("no layer titled " ++ quote title ++ " in manifest"))
  | [layer] => .ok layer
  | _ => .error (.text ("ambiguous: multiple layers titled " ++ quote title))

def fetchLayer (client : OCIClient) (layer : Layer) (expectedSHA256 : String) :
    Except GoError (Bytes × String) := do
  let reader ← wrapped ("fetch blob " ++ layer.digest) (net.fetchBlob client layer)
  let raw ← wrapped ("read blob " ++ layer.digest) reader
  verified net sha ("blob " ++ layer.digest) ("layer " ++ layer.digest) expectedSHA256 raw

def client (src : OCIBootArtifactsSource) (creds : Option Credentials) : OCIClient :=
  { reference := src.reference
    plainHTTP := src.plainHTTP
    insecureSkipTLSVerify := src.insecureSkipTLSVerify
    credential := creds.bind fun creds =>
      if creds.username ≠ [] ∨ creds.password ≠ [] then some (creds.username, creds.password) else none }

def layerTitle (title default : String) : String := if title = "" then default else title

def resolve (src : OCIBootArtifactsSource) (creds : Option Credentials) : Except GoError BootFiles := do
  let tag ← wrapped ("parse oci reference " ++ quote src.reference) (net.newRepository src.reference)
  if tag = "" then
    .error (.text ("oci reference " ++ quote src.reference ++ " has no tag or digest"))
  else do
    let client := client src creds
    let bytes ← wrapped ("fetch manifest " ++ src.reference) (net.fetchManifest client tag)
    let layers ← wrapped ("parse manifest " ++ src.reference) (net.unmarshalManifest bytes)
    let kernelLayer ← wrapped "kernel layer"
      (pickLayerByTitle layers (layerTitle src.kernelLayerTitle defaultKernelLayerTitle))
    let initramfsLayer ← wrapped "initramfs layer"
      (pickLayerByTitle layers (layerTitle src.initramfsLayerTitle defaultInitramfsLayerTitle))
    artifacts (fetchLayer net sha client kernelLayer src.kernelSHA256)
      (fetchLayer net sha client initramfsLayer src.initramfsSHA256)

end OCIResolver

namespace S3Resolver

-- Without an access key the client is anonymous, whatever else the credentials hold.
def client (src : S3BootArtifactsSource) (creds : Option Credentials) : S3Client :=
  let creds := (creds.filter fun creds => creds.accessKeyID ≠ []).getD {}
  { endpoint := src.endpoint
    secure := !src.insecure
    region := src.region
    usePathStyle := src.usePathStyle
    insecureSkipTLSVerify := src.insecureSkipTLSVerify
    accessKeyID := creds.accessKeyID
    secretAccessKey := creds.secretAccessKey
    sessionToken := creds.sessionToken }

def fetchObject (client : S3Client) (bucket key expectedSHA256 : String) :
    Except GoError (Bytes × String) := do
  let object := "s3://" ++ bucket ++ "/" ++ key
  let reader ← wrapped ("get " ++ object) (net.getObject client bucket key)
  let raw ← wrapped ("read " ++ object) reader
  verified net sha object object expectedSHA256 raw

def resolve (src : S3BootArtifactsSource) (creds : Option Credentials) : Except GoError BootFiles := do
  let client := client src creds
  wrapped ("init s3 client for " ++ src.endpoint) (net.newS3 client)
  artifacts (fetchObject net sha client src.bucket src.kernelKey src.kernelSHA256)
    (fetchObject net sha client src.bucket src.initramfsKey src.initramfsSHA256)

end S3Resolver

namespace MultiResolver

def resolve (src : BootArtifactsSource) (creds : Option Credentials) : Except GoError BootFiles :=
  match src.type with
  | .https =>
    match src.https with
    | none => .error (.text "bootArtifacts.source.https is required when type=HTTPS")
    | some https => HTTPSResolver.resolve net sha https
  | .oci =>
    match src.oci with
    | none => .error (.text "bootArtifacts.source.oci is required when type=OCI")
    | some oci => OCIResolver.resolve net sha oci creds
  | .s3 =>
    match src.s3 with
    | none => .error (.text "bootArtifacts.source.s3 is required when type=S3")
    | some s3 => S3Resolver.resolve net sha s3 creds

end MultiResolver

section Digests

variable {net sha}

theorem bind_eq_ok {α β : Type} {result : Except GoError α} {next : α → Except GoError β} {value : β} :
    (result >>= next) = .ok value ↔ ∃ middle, result = .ok middle ∧ next middle = .ok value := by
  cases result <;> simp [bind, Except.bind]

theorem wrapped_eq_ok {α : Type} {what : String} {result : Except GoError α} {value : α} :
    wrapped what result = .ok value ↔ result = .ok value := by
  cases result <;> simp [wrapped, Except.mapError]

def Digested (sha : Sha256) (fetch : Except GoError (Bytes × String)) : Prop :=
  ∀ body digest, fetch = .ok (body, digest) → digest = sha.hex body

theorem verified_digested (what which expectedSHA256 : String) (raw : Bytes) :
    Digested sha (verified net sha what which expectedSHA256 raw) := by
  intro body digest h
  obtain ⟨middle, -, hok⟩ := bind_eq_ok.mp h
  simp only at hok
  split at hok
  · cases hok
  · cases hok
    rfl

theorem Digested.bind {α : Type} {result : Except GoError α} {next : α → Except GoError (Bytes × String)}
    (h : ∀ value, Digested sha (next value)) : Digested sha (result >>= next) := by
  intro body digest hok
  obtain ⟨middle, -, hnext⟩ := bind_eq_ok.mp hok
  exact h middle body digest hnext

theorem fetchOne_digested (url expectedDigest : String) :
    Digested sha (HTTPSResolver.fetchOne net sha url expectedDigest) := by
  unfold HTTPSResolver.fetchOne
  split
  · exact nofun
  · refine Digested.bind fun _ => Digested.bind fun resp => ?_
    split
    · exact nofun
    · exact Digested.bind fun raw => verified_digested url url expectedDigest raw

theorem fetchLayer_digested (client : OCIClient) (layer : Layer) (expectedSHA256 : String) :
    Digested sha (OCIResolver.fetchLayer net sha client layer expectedSHA256) :=
  Digested.bind fun _ => Digested.bind fun raw => verified_digested _ _ expectedSHA256 raw

theorem fetchObject_digested (client : S3Client) (bucket key expectedSHA256 : String) :
    Digested sha (S3Resolver.fetchObject net sha client bucket key expectedSHA256) :=
  Digested.bind fun _ => Digested.bind fun raw => verified_digested _ _ expectedSHA256 raw

structure Addressed (sha : Sha256) (files : BootFiles) : Prop where
  kernel : files.kernelSHA256 = sha.hex files.kernelBytes
  initramfs : files.initramfsSHA256 = sha.hex files.initramfsBytes

theorem artifacts_addressed {kernel initramfs : Except GoError (Bytes × String)} {files : BootFiles}
    (hkernel : Digested sha kernel) (hinitramfs : Digested sha initramfs)
    (h : artifacts kernel initramfs = .ok files) : Addressed sha files := by
  obtain ⟨⟨kernelBytes, kernelDigest⟩, hk, hrest⟩ := bind_eq_ok.mp h
  obtain ⟨⟨initramfsBytes, initramfsDigest⟩, hi, hfiles⟩ := bind_eq_ok.mp hrest
  cases hfiles
  exact ⟨hkernel _ _ (wrapped_eq_ok.mp hk), hinitramfs _ _ (wrapped_eq_ok.mp hi)⟩

theorem resolve_addressed {src : BootArtifactsSource} {creds : Option Credentials} {files : BootFiles}
    (h : MultiResolver.resolve net sha src creds = .ok files) : Addressed sha files := by
  unfold MultiResolver.resolve at h
  cases htype : src.type with
  | https =>
    rw [htype] at h
    cases hhttps : src.https with
    | none => simp [hhttps] at h
    | some https =>
      simp only [hhttps] at h
      exact artifacts_addressed (fetchOne_digested _ _) (fetchOne_digested _ _) h
  | oci =>
    rw [htype] at h
    cases hoci : src.oci with
    | none => simp [hoci] at h
    | some oci =>
      simp only [hoci] at h
      obtain ⟨tag, -, htag⟩ := bind_eq_ok.mp h
      split at htag
      · cases htag
      · obtain ⟨_, -, h1⟩ := bind_eq_ok.mp htag
        obtain ⟨_, -, h2⟩ := bind_eq_ok.mp h1
        obtain ⟨_, -, h3⟩ := bind_eq_ok.mp h2
        obtain ⟨_, -, h4⟩ := bind_eq_ok.mp h3
        exact artifacts_addressed (fetchLayer_digested _ _ _) (fetchLayer_digested _ _ _) h4
  | s3 =>
    rw [htype] at h
    cases hs3 : src.s3 with
    | none => simp [hs3] at h
    | some s3 =>
      simp only [hs3] at h
      obtain ⟨_, -, h1⟩ := bind_eq_ok.mp h
      exact artifacts_addressed (fetchObject_digested _ _ _ _) (fetchObject_digested _ _ _ _) h1

end Digests

theorem isName_vmlinuz : Path.IsName "vmlinuz" := by decide

theorem isName_initramfs : Path.IsName "initramfs.img" := by decide

end Caplv.BootArtifacts

import Caplv.BootArtifacts.Resolver

namespace Caplv.ImageCache

open Text Api Libvirt Controller
open BootArtifacts (wrapped Layer OCIClient S3Client)

-- What a reader gives: chunks of bytes, and then the end of the file or a failure.
structure Stream where
  chunks : List Bytes
  failure : Option GoError

structure HTTPRequest where
  url : String
  basicAuth : Option Bytes
  insecureSkipTLSVerify : Bool
deriving DecidableEq, Repr

structure HTTPResponse where
  statusCode : Nat
  body : Stream

-- What the servers answer during one call.
structure Network where
  newRequest : String → Except GoError Unit
  get : HTTPRequest → Except GoError HTTPResponse
  newRepository : String → Except GoError String
  fetchManifest : OCIClient → String → Except GoError Bytes
  unmarshalManifest : Bytes → Except GoError (List Layer)
  fetchBlob : OCIClient → Layer → Except GoError Stream
  newS3 : S3Client → Except GoError Unit
  getObject : S3Client → String → String → Except GoError Stream

variable (net : Network)

namespace HTTPSResolver

-- The text of the Authorization header before base64; 0x3a is the colon.
def basicAuth (creds : Option Credentials) : Option Bytes :=
  creds.bind fun creds =>
    if creds.username ≠ [] ∨ creds.password ≠ [] then
      some (creds.username ++ 0x3a :: creds.password)
    else none

def openStream (src : BaseImageSource) (creds : Option Credentials) : Except GoError Stream :=
  match src.https with
  | none => .error (.text "https source not set")
  | some https =>
    if hasPrefix (toLower https.url) "http://" = false ∧ hasPrefix (toLower https.url) "https://" = false then
      .error (.text ("baseImage URL " ++ quote https.url ++ " is not http(s)"))
    else do
      wrapped "build request" (net.newRequest https.url)
      let resp ← wrapped ("get " ++ https.url)
        (net.get ⟨https.url, basicAuth creds, https.insecureSkipTLSVerify⟩)
      if resp.statusCode ≠ 200 then
        .error (.text ("get " ++ https.url ++ ": unexpected status " ++ toString resp.statusCode))
      else .ok resp.body

end HTTPSResolver

namespace OCIResolver

def client (oci : OCIBaseImageSource) (creds : Option Credentials) : OCIClient :=
  { reference := oci.reference
    plainHTTP := oci.plainHTTP
    insecureSkipTLSVerify := oci.insecureSkipTLSVerify
    credential := creds.bind fun creds =>
      if creds.username ≠ [] ∨ creds.password ≠ [] then some (creds.username, creds.password) else none }

def pickQcow2Layer (layers : List Layer) (title : String) : Except GoError Layer :=
  if title = "" then
    match layers with
    | [layer] => .ok layer
    | _ => .error (.text ("manifest has " ++ toString layers.length ++
        " layers; set baseImage.source.oci.blobTitle to disambiguate"))
  else
    match layers.filter (·.title = title) with
    | [] => .error (.text ("no layer titled " ++ quote title ++ " in manifest"))
    | [layer] => .ok layer
    | _ => .error (.text ("ambiguous: multiple layers titled " ++ quote title))

def openStream (src : BaseImageSource) (creds : Option Credentials) : Except GoError Stream :=
  match src.oci with
  | none => .error (.text "oci source not set")
  | some oci => do
      let tag ← wrapped ("parse oci reference " ++ quote oci.reference) (net.newRepository oci.reference)
      if tag = "" then
        .error (.text ("oci reference " ++ quote oci.reference ++ " has no tag or digest"))
      else do
        let client := client oci creds
        let bytes ← wrapped ("fetch manifest " ++ oci.reference) (net.fetchManifest client tag)
        let layers ← wrapped ("parse manifest " ++ oci.reference) (net.unmarshalManifest bytes)
        let layer ← pickQcow2Layer layers oci.blobTitle
        net.fetchBlob client layer

end OCIResolver

namespace S3Resolver

def client (s3 : S3BaseImageSource) (creds : Option Credentials) : S3Client :=
  let creds := (creds.filter fun creds => creds.accessKeyID ≠ []).getD {}
  { endpoint := s3.endpoint
    secure := !s3.insecure
    region := s3.region
    usePathStyle := s3.usePathStyle
    insecureSkipTLSVerify := s3.insecureSkipTLSVerify
    accessKeyID := creds.accessKeyID
    secretAccessKey := creds.secretAccessKey
    sessionToken := creds.sessionToken }

def openStream (src : BaseImageSource) (creds : Option Credentials) : Except GoError Stream :=
  match src.s3 with
  | none => .error (.text "s3 source not set")
  | some s3 => do
      wrapped ("init s3 client for " ++ s3.endpoint) (net.newS3 (client s3 creds))
      wrapped ("get s3://" ++ s3.bucket ++ "/" ++ s3.key) (net.getObject (client s3 creds) s3.bucket s3.key)

end S3Resolver

namespace MultiResolver

def openStream (src : BaseImageSource) (creds : Option Credentials) : Except GoError Stream :=
  match src.type with
  | .https =>
    if src.https = none then .error (.text "baseImage.source.https is required when type=HTTPS")
    else HTTPSResolver.openStream net src creds
  | .oci =>
    if src.oci = none then .error (.text "baseImage.source.oci is required when type=OCI")
    else OCIResolver.openStream net src creds
  | .s3 =>
    if src.s3 = none then .error (.text "baseImage.source.s3 is required when type=S3")
    else S3Resolver.openStream net src creds

end MultiResolver

-- The first two bytes decide; a stream that fails before them fails here.
def maybeGunzipStream (gunzip : Stream → Except GoError Stream) (stream : Stream) : Except GoError Stream :=
  match stream.chunks.flatten with
  | first :: second :: _ => if first = 0x1f ∧ second = 0x8b then gunzip stream else .ok stream
  | _ =>
    match stream.failure with
    | some err => .error err
    | none => .ok stream

-- What the resolvers read of a source: the part of its type, without the reference to the
-- Secret, which the caller has turned into credentials, and without the digest.
inductive ReadFields where
  | https (src : Option HTTPSBaseImageSource)
  | oci (src : Option OCIBaseImageSource)
  | s3 (src : Option S3BaseImageSource)
deriving DecidableEq

def readFields (src : BaseImageSource) : ReadFields :=
  match src.type with
  | .https => .https (src.https.map fun https => { https with credentialsSecretRef := none, sha256 := "" })
  | .oci => .oci (src.oci.map fun oci => { oci with credentialsSecretRef := none, sha256 := "" })
  | .s3 => .s3 (src.s3.map fun s3 => { s3 with credentialsSecretRef := none, sha256 := "" })

variable {net}

def ReadFields.source : ReadFields → BaseImageSource
  | .https src => ⟨.https, src, none, none⟩
  | .oci src => ⟨.oci, none, src, none⟩
  | .s3 src => ⟨.s3, none, none, src⟩

theorem openStream_source (src : BaseImageSource) (creds : Option Credentials) :
    MultiResolver.openStream net src creds = MultiResolver.openStream net (readFields src).source creds := by
  obtain ⟨type, https, oci, s3⟩ := src
  cases type with
  | https => cases https <;> rfl
  | oci => cases oci <;> rfl
  | s3 => cases s3 <;> rfl

theorem openStream_readFields {src src' : BaseImageSource} (h : readFields src = readFields src')
    (creds : Option Credentials) :
    MultiResolver.openStream net src creds = MultiResolver.openStream net src' creds := by
  rw [openStream_source src, openStream_source src', h]

end Caplv.ImageCache

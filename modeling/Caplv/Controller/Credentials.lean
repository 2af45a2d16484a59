import Caplv.Controller.Op

namespace Caplv.Controller

open Text Api Libvirt Program

def dockerConfigJsonKey : String := ".dockerconfigjson"

def baseImageExpectedSHA256 (src : BaseImageSource) : String :=
  match src.type with
  | .https => (src.https.map HTTPSBaseImageSource.sha256).getD ""
  | .oci => (src.oci.map OCIBaseImageSource.sha256).getD ""
  | .s3 => (src.s3.map S3BaseImageSource.sha256).getD ""

def baseImageSecretRef (src : BaseImageSource) : Option SecretReference :=
  match src.type with
  | .https => src.https.bind HTTPSBaseImageSource.credentialsSecretRef
  | .oci => src.oci.bind OCIBaseImageSource.credentialsSecretRef
  | .s3 => src.s3.bind S3BaseImageSource.credentialsSecretRef

def bootArtifactsSecretRef (src : BootArtifactsSource) : Option SecretReference :=
  match src.type with
  | .https => none
  | .oci => src.oci.bind OCIBootArtifactsSource.credentialsSecretRef
  | .s3 => src.s3.bind S3BootArtifactsSource.credentialsSecretRef

def firstNonEmptyString (candidates : List (Option Bytes)) : Bytes :=
  (candidates.filterMap id).find? (fun c => !c.isEmpty) |>.getD []

-- A dockerconfigjson entry is preferred over plain username and password keys.
def ociCredentialsFromSecret (secret : Secret) (reference : String) :
    Prog signature (Except GoError Credentials) :=
  match secret.get? dockerConfigJsonKey with
  | some (b :: raw) => do
      match ← ask (.lookupDockerConfigAuth (b :: raw) reference) with
      | .error err => .done (.error (.wrap ("parse " ++ dockerConfigJsonKey) err))
      | .ok (user, pass) => .done (.ok { username := user, password := pass })
  | _ =>
    let user := (secret.get? "username").getD []
    let pass := (secret.get? "password").getD []
    if user = [] ∧ pass = [] then
      .done (.error (.text ("secret has neither " ++ dockerConfigJsonKey ++
        " nor username/password keys")))
    else .done (.ok { username := user, password := pass })

def s3CredentialsFromSecret (secret : Secret) : Except GoError Credentials :=
  let keyID := firstNonEmptyString [secret.get? "accessKeyID", secret.get? "AWS_ACCESS_KEY_ID"]
  let secretKey :=
    firstNonEmptyString [secret.get? "secretAccessKey", secret.get? "AWS_SECRET_ACCESS_KEY"]
  let sessionToken := firstNonEmptyString [secret.get? "sessionToken", secret.get? "AWS_SESSION_TOKEN"]
  if keyID = [] ∨ secretKey = [] then
    .error (.text "secret missing accessKeyID and/or secretAccessKey")
  else .ok { accessKeyID := keyID, secretAccessKey := secretKey, sessionToken := sessionToken }

-- The part both resolvers share: read the referenced Secret, then decode it by transport.
def resolveCredentials (libvirtCluster : LibvirtCluster) (ref : Option SecretReference)
    (decode : Secret → Prog signature (Except GoError Credentials)) :
    Prog signature (Except GoError (Option Credentials)) :=
  match ref with
  | none => .done (.ok none)
  | some ref => do
      let ns := if ref.namespaceName = "" then libvirtCluster.namespaceName else ref.namespaceName
      match ← ask (.getSecret ⟨ns, ref.name⟩) with
      | .error err => .done (.error (.wrap ("get secret " ++ ns ++ "/" ++ ref.name) (.api err)))
      | .ok secret =>
        match ← decode secret with
        | .error err => .done (.error err)
        | .ok creds => .done (.ok (some creds))

def resolveBaseImageCredentials (libvirtCluster : LibvirtCluster) (source : BaseImageSource) :
    Prog signature (Except GoError (Option Credentials)) :=
  resolveCredentials libvirtCluster (baseImageSecretRef source) fun secret =>
    match source.type with
    | .oci => ociCredentialsFromSecret secret ((source.oci.map OCIBaseImageSource.reference).getD "")
    | .s3 => .done (s3CredentialsFromSecret secret)
    | .https => ociCredentialsFromSecret secret ""

-- An HTTPS source has no reference, so the last transport is never decoded.
def resolveBootArtifactsCredentials (libvirtCluster : LibvirtCluster)
    (source : BootArtifactsSource) : Prog signature (Except GoError (Option Credentials)) :=
  resolveCredentials libvirtCluster (bootArtifactsSecretRef source) fun secret =>
    match source.type with
    | .oci => ociCredentialsFromSecret secret ((source.oci.map OCIBootArtifactsSource.reference).getD "")
    | .s3 => .done (s3CredentialsFromSecret secret)
    | .https => .done (.error (.text "credentials not supported for source type \"HTTPS\""))

def SourceType.text : SourceType → String
  | .https => "HTTPS"
  | .oci => "OCI"
  | .s3 => "S3"

theorem text_injective : Function.Injective SourceType.text := by
  intro a b h
  cases a <;> cases b <;> first
    | rfl
    | exact absurd h (by decide)

def bootArtifactsCacheText (src : BootArtifactsSource) : String :=
  "type=" ++ SourceType.text src.type ++ "\n" ++
  (match src.https with
    | none => ""
    | some https =>
      "https.kernel=" ++ https.kernelURL ++ "\n" ++
      "https.initramfs=" ++ https.initramfsURL ++ "\n" ++
      "https.kernel.sha256=" ++ https.kernelSHA256 ++ "\n" ++
      "https.initramfs.sha256=" ++ https.initramfsSHA256 ++ "\n") ++
  (match src.oci with
    | none => ""
    | some oci =>
      "oci.ref=" ++ oci.reference ++ "\n" ++
      "oci.kernel.title=" ++ oci.kernelLayerTitle ++ "\n" ++
      "oci.initramfs.title=" ++ oci.initramfsLayerTitle ++ "\n" ++
      "oci.kernel.sha256=" ++ oci.kernelSHA256 ++ "\n" ++
      "oci.initramfs.sha256=" ++ oci.initramfsSHA256 ++ "\n") ++
  (match src.s3 with
    | none => ""
    | some s3 =>
      "s3.endpoint=" ++ s3.endpoint ++ "\n" ++
      "s3.region=" ++ s3.region ++ "\n" ++
      "s3.bucket=" ++ s3.bucket ++ "\n" ++
      "s3.kernel=" ++ s3.kernelKey ++ "\n" ++
      "s3.initramfs=" ++ s3.initramfsKey ++ "\n" ++
      "s3.kernel.sha256=" ++ s3.kernelSHA256 ++ "\n" ++
      "s3.initramfs.sha256=" ++ s3.initramfsSHA256 ++ "\n")

def bootArtifactsCacheKey (deps : Deps) (src : BootArtifactsSource) : String :=
  deps.sha256Hex (bootArtifactsCacheText src)

def resolveCachedArtifacts (deps : Deps) (src : BootArtifactsSource) (creds : Option Credentials) :
    Prog signature (Except GoError BootFiles) := do
  let key := bootArtifactsCacheKey deps src
  match ← ask (.loadArtifacts key) with
  | some cached => .done (.ok cached)
  | none =>
    match ← ask (.resolveArtifacts src creds) with
    | .error err => .done (.error err)
    | .ok files => do
        ask (.storeArtifacts key files)
        .done (.ok files)

end Caplv.Controller

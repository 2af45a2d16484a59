import Caplv.Controller.Credentials
import Caplv.ImageCache.Resolver
import Caplv.Program.Singleflight

namespace Caplv.ImageCache

open Text Api Libvirt Controller Program

-- A cache that New has made; MkdirAll refuses the empty path.
structure Cache where
  dir : String
  dir_ne : dir ≠ ""

structure ImageCall where
  source : BaseImageSource
  creds : Option Credentials
  expectedSHA256 : String
deriving DecidableEq

abbrev Outcome := Except GoError CacheEntry

-- The calls of Get to the resolver, the file system and the singleflight group. The reply of
-- a file operation is its error.
inductive CacheOp where
  | stat (path : String)
  | openSource (source : BaseImageSource) (creds : Option Credentials)
  | createTemp (dir : String) (head : String)
  | write (path : String) (chunk : Bytes)
  | close (path : String)
  | remove (path : String)
  | rename (old new : String)
  | flight (op : FlightOp String ImageCall Outcome)

def CacheOp.Reply : CacheOp → Type
  | .stat _ => Bool
  | .openSource _ _ => Except GoError Stream
  | .createTemp _ _ => Except GoError String
  | .write _ _ => Option GoError
  | .close _ => Option GoError
  | .remove _ => Option GoError
  | .rename _ _ => Option GoError
  | .flight op => op.Reply

def cacheOps : Signature := ⟨CacheOp, CacheOp.Reply⟩

def partPrefix : String := ".part-"

def sourceKey (src : BaseImageSource) : String :=
  Controller.SourceType.text src.type ++ "|" ++
    src.https.elim "" (·.url) ++
    src.oci.elim "" (fun oci => oci.reference ++ "|" ++ oci.blobTitle) ++
    src.s3.elim "" (fun s3 => s3.endpoint ++ "/" ++ s3.bucket ++ "/" ++ s3.key)

def ImageCall.key (call : ImageCall) : String := sourceKey call.source ++ ":" ++ call.expectedSHA256

-- io.Copy into the file and the hasher. The bytes hashed so far are the accumulator, and the
-- result is what the hasher has seen.
def copy (path : String) (failure : Option GoError) :
    List Bytes → Bytes → Prog cacheOps (Except GoError Bytes)
  | [], hashed => .done (failure.elim (.ok hashed) .error)
  | chunk :: rest, hashed => .ask (.write path chunk) fun
      | some err => .done (.error err)
      | none => copy path failure rest (hashed ++ chunk)

namespace Cache

variable (cache : Cache) (gunzip : Stream → Except GoError Stream) (sha : Sha256)

def pathFor (digest : String) : String := Path.join [cache.dir, toLower digest]

-- The end of fetch once the bytes are in the temporary file.
def commit (expectedSHA256 tmpPath digest : String) : Prog cacheOps Outcome :=
  if expectedSHA256 ≠ "" ∧ equalFold digest expectedSHA256 = false then
    .ask (.remove tmpPath) fun _ => .done (.error
      (.text ("sha256 mismatch: got " ++ digest ++ ", expected " ++ expectedSHA256)))
  else
    .ask (.rename tmpPath (cache.pathFor digest)) fun
      | some err => .ask (.remove tmpPath) fun _ => .done (.error (.wrap "rename into cache" err))
      | none => .done (.ok ⟨cache.pathFor digest, digest⟩)

def stage (expectedSHA256 : String) (stream : Stream) (tmpPath : String) : Prog cacheOps Outcome := do
  match ← copy tmpPath stream.failure stream.chunks [] with
  | .error err =>
    .ask (.close tmpPath) fun _ => .ask (.remove tmpPath) fun _ =>
      .done (.error (.wrap "stream to cache" err))
  | .ok hashed =>
    .ask (.close tmpPath) fun
      | some err => .ask (.remove tmpPath) fun _ => .done (.error (.wrap "close temp file" err))
      | none => cache.commit expectedSHA256 tmpPath (sha.hex hashed)

def fetch (call : ImageCall) : Prog cacheOps Outcome :=
  .ask (.openSource call.source call.creds) fun
    | .error err => .done (.error err)
    | .ok body =>
      match maybeGunzipStream gunzip body with
      | .error err => .done (.error (.wrap "decompress" err))
      | .ok stream =>
        .ask (.createTemp cache.dir partPrefix) fun
          | .error err => .done (.error (.wrap "create temp file" err))
          | .ok tmpPath => cache.stage sha call.expectedSHA256 stream tmpPath

-- c.sf.Do(key, func() { return c.fetch(...) }).
def doFetch (call : ImageCall) : Prog cacheOps Outcome :=
  .ask (.flight (.enter call.key call)) fun
    | .leader flight => do
        let outcome ← cache.fetch gunzip sha call
        .ask (.flight (.finish flight outcome)) fun _ => .done outcome
    | .follower flight => .ask (.flight (.wait flight)) .done

def get (call : ImageCall) : Prog cacheOps Outcome :=
  if call.expectedSHA256 ≠ "" then
    .ask (.stat (cache.pathFor call.expectedSHA256)) fun
      | true => .done (.ok ⟨cache.pathFor call.expectedSHA256, toLower call.expectedSHA256⟩)
      | false => cache.doFetch gunzip sha call
  else cache.doFetch gunzip sha call

end Cache

inductive Node where
  | file (content : Bytes)
  | directory
deriving DecidableEq, Repr

-- The file system by cleaned paths, the flight whose fetch made the temporary file at a path,
-- and the group's memory.
structure CacheHost (ι : Type) where
  files : String → Option Node
  temps : String → Option Nat
  flights : Flights String ImageCall Outcome ι

variable {ι : Type}

-- os.CreateTemp puts a random text in place of the star.
def IsTemp (dir head path : String) : Prop :=
  ∃ random : String, '/' ∉ random.toList ∧ path = Path.join [dir, head ++ random]

namespace CacheHost

def created (w : CacheHost ι) (i : ι) (path : String) : CacheHost ι :=
  { w with
    files := Function.update w.files path (some (.file []))
    temps := Function.update w.temps path (w.flights.leads i) }

def wrote (w : CacheHost ι) (path : String) (sent : Bytes) : CacheHost ι :=
  match w.files path with
  | some (.file content) => { w with files := Function.update w.files path (some (.file (content ++ sent))) }
  | _ => w

def removed (w : CacheHost ι) (path : String) : CacheHost ι :=
  { w with files := Function.update w.files path none }

def renamed (w : CacheHost ι) (old new : String) : CacheHost ι :=
  { w with files := Function.update (Function.update w.files old none) new (w.files old) }

end CacheHost

-- A write that fails may have written a part of its chunk, a rename is atomic and does not
-- replace a directory, a remove succeeds.
def cacheStep [DecidableEq ι] (i : ι) (before : CacheHost ι) :
    (op : CacheOp) → op.Reply → CacheHost ι → Prop
  | .stat path, found, after => after = before ∧ (found = true → before.files path ≠ none)
  | .openSource _ _, _, after => after = before
  | .createTemp _ _, .error _, after => after = before
  | .createTemp dir head, .ok path, after =>
    IsTemp dir head path ∧ before.files path = none ∧ after = before.created i path
  | .write path chunk, reply, after =>
    ∃ sent, sent <+: chunk ∧ (reply = none → sent = chunk) ∧ after = before.wrote path sent
  | .close _, _, after => after = before
  | .remove path, _, after => after = before.removed path
  | .rename _ _, some _, after => after = before
  | .rename old new, none, after =>
    (∃ content, before.files old = some (.file content)) ∧ before.files new ≠ some .directory ∧
      after = before.renamed old new
  | .flight op, reply, after =>
    after.files = before.files ∧ after.temps = before.temps ∧ Flights.Step i before.flights op reply after.flights

-- Outside the cache directory anything may happen, and the process may start again.
def CacheEnv (cache : Cache) (before after : CacheHost ι) : Prop :=
  after.temps = before.temps ∧
    (after.flights = before.flights ∨ after.flights = before.flights.forgotten) ∧
    ∀ name, Path.IsName name →
      after.files (Path.join [cache.dir, name]) = before.files (Path.join [cache.dir, name])

def cacheSystem [DecidableEq ι] (cache : Cache) (gunzip : Stream → Except GoError Stream) (sha : Sha256)
    (call : ι → ImageCall) : System cacheOps (CacheHost ι) ι Outcome where
  handler := cacheStep
  env := CacheEnv cache
  start i prog := prog = cache.get gunzip sha (call i)

end Caplv.ImageCache

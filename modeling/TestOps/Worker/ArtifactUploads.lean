import TestOps.Lib.Requests
import TestOps.Lib.Url
import TestOps.Runners.RunWorkspace

/-! The artifacts of a result, on their way from the workspace of the run to the store.

      head ──▸ matches ────────────────────────────────────▸ done
        │  ╰─▸ conflicts ──▸ raise                             ▴
        ╰────▸ missing ──▸ put, if nothing is there ──▸ head ──╯

    Each request may fail, whether or not the store has carried it out. -/

namespace TestOps.Artifacts

open Checked Paths

/-- `ArtifactUploadError`, or whatever else is raised. -/
inductive UploadError where
  | upload (text : String)
  | other (text : String)
  deriving DecidableEq

/-- The directory of a run, where the worker looks for it. -/
def runRoot (workspaceRoot : Path) (runId : UUID) : Path :=
  resolve (resolve workspaceRoot ++ [(uuidText runId).toList])

/-- `_local_path` -/
def localPath (locations : Url.Locations) (disk : Disk) (workspaceRoot : Path) (runId : UUID)
    (artifact : ReportedArtifact) : Except UploadError Path := do
  let parsed ← found (Url.urlsplit locations artifact.uri.toList) (.other "Invalid IPv6 URL")
  ensure (parsed.scheme = "workspace".toList ∧ parsed.netloc = (uuidText runId).toList)
    (.upload "Runner artifact URI is not in this Run workspace")
  let relative := Url.unquote (parsed.path.dropWhile (· = '/'))
  ensure (isSafeKey relative = true) (.upload "Runner artifact path is unsafe")
  let path := resolve (runRoot workspaceRoot runId ++ relative.splitOn '/')
  ensure (runRoot workspaceRoot runId <+: path ∧ runRoot workspaceRoot runId ≠ path ∧
      ((disk.node path).any FileTree.Node.isFile) = true)
    (.upload "Runner artifact file is missing or escaped its workspace")
  return path

/-- `_verify_local_file`: the digest of the file, in hexadecimal digits -/
def verifyLocalFile (sha256 : Bytes → Text) (disk : Disk) (path : Path)
    (artifact : ReportedArtifact) : Except UploadError (Bytes × Text) := do
  let content ← match disk.node path with
    | some (.file content) => Except.ok content
    | _ => .error (.other "No such file or directory")
  ensure (artifact.sizeBytes = content.length ∧
      artifact.digest.toList = "sha256:".toList ++ sha256 content)
    (.upload "Runner artifact metadata does not match its local file")
  return (content, sha256 content)

/-! ### Names of objects -/

def isObjectNameChar (c : Char) : Bool := c.isAlphanum || c = '.' || c = '_' || c = '-'

/-- One underscore for each run of other characters. -/
def replaceRuns (inRun : Bool) : Text → Text
  | [] => []
  | c :: cs =>
    if isObjectNameChar c then c :: replaceRuns false cs
    else if inRun then replaceRuns true cs else '_' :: replaceRuns true cs

/-- `_safe_object_name` -/
def safeObjectName (name : Text) : Text :=
  let leaf := (partsOf name).getLast?.getD []
  let safe := strip (fun c => c = '.' || c = '_') (replaceRuns false leaf)
  if safe = [] then "artifact".toList else safe

def objectKey (runId : UUID) (artifact : ReportedArtifact) : Text :=
  posix ["runs".toList, (uuidText runId).toList, (uuidText artifact.artifactId).toList,
    safeObjectName artifact.name.toList]

def objectUri (bucket key : Text) : Text := "s3".toList ++ ':' :: '/' :: '/' :: (bucket ++ '/' :: key)

/-! ### Requests -/

structure StoredObject where
  body : Bytes
  contentType : String
  metadata : List (String × Text)
  deriving DecidableEq

structure PutObject where
  key : Text
  object : StoredObject
  contentLength : Int
  deriving DecidableEq

/-- What `head_object` tells of an object. -/
structure ObjectHead where
  contentLength : Option Int
  metadata : List (String × Text)
  deriving DecidableEq

/-- A `ClientError` with its code, or whatever else a request raises. -/
inductive RequestError where
  | client (code : String)
  | other (text : String)
  deriving DecidableEq

inductive StoreRequest where
  | headBucket
  | createBucket
  | headObject (key : Text)
  | putObject (put : PutObject)
  deriving DecidableEq

/-- Answers, without what nobody reads of them. -/
abbrev StoreAnswer : StoreRequest → Type
  | .headObject _ => Except RequestError ObjectHead
  | _ => Except RequestError Unit

abbrev Upload := Remote.Program StoreAnswer UploadError

open Remote Program

/-- What every instance of the uploader shares, and what the libraries know. -/
structure Uploader where
  bucket : Text
  sha256 : Bytes → Text
  guessType : String → Option String
  locations : Url.Locations

/-- One call: the result, the files of the worker, and whether its uploader has seen the bucket. -/
structure UploadCall where
  result : ReportedResult
  disk : Disk
  workspaceRoot : Path
  bucketReady : Bool

/-- A failed request, unless its code is one of these. -/
def unlessCode (codes : List String) (text : String) : RequestError → Upload Unit
  | .client code => if code ∈ codes then pure () else raise (.upload text)
  | .other text => raise (.other text)

def createBucket : Upload Unit := do
  match ← request StoreRequest.createBucket with
  | .ok _ => pure ()
  | .error e =>
    unlessCode ["BucketAlreadyExists", "BucketAlreadyOwnedByYou"]
      "unable to create the artifact bucket" e

/-- `_ensure_bucket` -/
def ensureBucket (ready : Bool) : Upload Unit := do
  if ready then pure ()
  else match ← request StoreRequest.headBucket with
    | .ok _ => pure ()
    | .error e => do
      unlessCode ["404", "NoSuchBucket", "NotFound"] "unable to inspect the artifact bucket" e
      createBucket

/-- An object that is there has the size and the digest of the artifact, or is in conflict with
    it. -/
def headMatches (artifact : ReportedArtifact) (sha256Hex : Text) (head : ObjectHead) :
    Except UploadError Bool :=
  if head.contentLength.getD (-1) = artifact.sizeBytes ∧
      head.metadata.lookup "sha256" = some sha256Hex then .ok true
  else .error (.upload "immutable artifact object conflicts with local content")

/-- `_object_matches` -/
def objectMatches (key : Text) (artifact : ReportedArtifact) (sha256Hex : Text) : Upload Bool := do
  match ← request (StoreRequest.headObject key) with
  | .ok head => lift (headMatches artifact sha256Hex head)
  | .error e => do
    unlessCode ["404", "NoSuchKey", "NotFound"] "unable to inspect an existing artifact object" e
    pure false

def newObject (uploader : Uploader) (runId : UUID) (artifact : ReportedArtifact) (body : Bytes)
    (sha256Hex : Text) : StoredObject where
  body := body
  contentType := (uploader.guessType artifact.name).getD "application/octet-stream"
  metadata := [("sha256", sha256Hex), ("run-id", (uuidText runId).toList),
    ("artifact-id", (uuidText artifact.artifactId).toList)]

/-- The object is written unless there is one, and then looked at again. -/
def writeObject (uploader : Uploader) (runId : UUID) (artifact : ReportedArtifact)
    (body : Bytes) (sha256Hex : Text) : Upload Unit := do
  let key := objectKey runId artifact
  let object := newObject uploader runId artifact body sha256Hex
  match ← request (StoreRequest.putObject ⟨key, object, artifact.sizeBytes⟩) with
  | .ok _ => pure ()
  | .error e => unlessCode ["412", "PreconditionFailed"] "artifact upload failed" e
  if ← objectMatches key artifact sha256Hex then pure ()
  else raise (.upload "uploaded artifact failed integrity verification")

/-- The artifact as it is returned. -/
def uploadedArtifact (uploader : Uploader) (runId : UUID) (artifact : ReportedArtifact) :
    ReportedArtifact :=
  { artifact with uri := String.ofList (objectUri uploader.bucket (objectKey runId artifact)) }

def uploadArtifact (uploader : Uploader) (call : UploadCall) (artifact : ReportedArtifact) :
    Upload ReportedArtifact := do
  let path ← lift (localPath uploader.locations call.disk call.workspaceRoot call.result.runId
    artifact)
  let (body, sha256Hex) ← lift (verifyLocalFile uploader.sha256 call.disk path artifact)
  if ← objectMatches (objectKey call.result.runId artifact) artifact sha256Hex then pure ()
  else writeObject uploader call.result.runId artifact body sha256Hex
  return uploadedArtifact uploader call.result.runId artifact

/-- One artifact after the other. -/
def uploadArtifacts (uploader : Uploader) (call : UploadCall) :
    List ReportedArtifact → Upload (List ReportedArtifact)
  | [] => pure []
  | artifact :: artifacts => do
    let uploaded ← uploadArtifact uploader call artifact
    let rest ← uploadArtifacts uploader call artifacts
    return uploaded :: rest

/-- `upload_result` -/
def uploadResult (uploader : Uploader) (call : UploadCall) : Upload ReportedResult := do
  if call.result.artifacts = [] then pure call.result
  else do
    ensureBucket call.bucketReady
    let uploaded ← uploadArtifacts uploader call call.result.artifacts
    return { call.result with artifacts := uploaded }

/-! ### The store -/

abbrev ObjectStore := Text → Option StoredObject

def ObjectStore.insert (store : ObjectStore) (key : Text) (object : StoredObject) : ObjectStore :=
  fun k => if k = key then some object else store k

/-- The store writes an object only if there is none, and as a whole; any request may fail, and one
    that fails may still have been carried out. -/
inductive Serves : Server ObjectStore StoreAnswer
  | headBucket {store answer} : Serves store .headBucket answer store
  | createBucket {store answer} : Serves store .createBucket answer store
  | found {store key object} : store key = some object →
      Serves store (.headObject key) (.ok ⟨some object.body.length, object.metadata⟩) store
  | headFails {store key e} : Serves store (.headObject key) (.error e) store
  | written {store put} : store put.key = none → put.contentLength = put.object.body.length →
      Serves store (.putObject put) (.ok ()) (store.insert put.key put.object)
  | putFails {store put e} : Serves store (.putObject put) (.error e) store
  | writtenFails {store put e} : store put.key = none →
      put.contentLength = put.object.body.length →
      Serves store (.putObject put) (.error e) (store.insert put.key put.object)

end TestOps.Artifacts

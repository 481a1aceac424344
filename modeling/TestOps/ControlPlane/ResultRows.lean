import TestOps.Contracts.Text
import TestOps.ControlPlane.RunLifecycle

/-! The three schemas of a result: what the contract validates, what the columns hold, and what the
    run page shows.

      reported  ──contract──▸  result  ──▸  rows and document  ──▸  columns
                                                   └──────────────▸  response

    Each has its own patterns and limits for the same fields. Here a digest is the text it is written
    in, and a number any integer. -/

namespace TestOps

open Checked

/-! ### The contract -/

def isLowerHexDigit (c : Char) : Bool := ('0' ≤ c ∧ c ≤ '9') ∨ ('a' ≤ c ∧ c ≤ 'f')

def isHexDigit (c : Char) : Bool := isLowerHexDigit c ∨ ('A' ≤ c ∧ c ≤ 'F')

/-- The pattern `^sha256:[..]{64}$` for a set of digits. -/
def digestPattern (isDigit : Char → Bool) (text : String) : Bool :=
  "sha256:".toList.isPrefixOf text.toList ∧ (text.toList.drop 7).length = 64 ∧
    (text.toList.drop 7).all isDigit

/-- `Sha256Digest` of the contract -/
def sha256Digest (text : String) : Except ValidationError Unit :=
  ensure (digestPattern isHexDigit text = true) "String should match pattern"

def isNameChar (c : Char) : Bool := ('0' ≤ c ∧ c ≤ '9') ∨ ('a' ≤ c ∧ c ≤ 'z')

/-- The pattern `^[a-z0-9](?:[-a-z0-9]{0,61}[a-z0-9])?$` -/
def kubernetesName (text : String) : Bool :=
  text.length ≤ 63 ∧ text.toList.all (fun c => isNameChar c ∨ c = '-') ∧
    text.toList.head?.any isNameChar ∧ text.toList.getLast?.any isNameChar

/-- A timestamp, with or without an offset. -/
inductive Timestamp where
  | naive (written : Instant)
  | aware (instant : Instant)
  deriving DecidableEq

def Timestamp.instant? : Timestamp → Option Instant
  | .naive _ => none
  | .aware instant => some instant

structure ReportedArtifact where
  artifactId : UUID
  kind : ArtifactKind
  name : String
  uri : String
  digest : String
  sizeBytes : Int
  deriving DecidableEq

structure ReportedCaseResult where
  caseId : UUID
  caseCode : String
  status : CaseResultStatus
  startedAt : Timestamp
  finishedAt : Timestamp
  durationMs : Int
  failureCategory : Option String
  errorMessage : Option String
  artifactIds : List UUID
  deriving DecidableEq

structure ReportedIsolation where
  mode : IsolationMode
  executorVersion : String
  dedicatedProcess : Bool
  credentialScope : CredentialScope
  readOnlyRootFilesystem : Bool
  networkPolicy : NetworkPolicy
  resourceLimitsEnforced : Bool
  runtimeImageId : Option String
  memoryLimitBytes : Option Int
  cpuLimitMillis : Option Int
  pidsLimit : Option Int
  ephemeralStorageLimitBytes : Option Int
  orchestratorNamespace : Option String
  serviceAccountName : Option String
  serviceAccountTokenAutomounted : Option Bool
  deriving DecidableEq

structure ReportedResult where
  runId : UUID
  status : RunStatus
  startedAt : Timestamp
  finishedAt : Timestamp
  runnerVersion : String
  caseResults : List ReportedCaseResult
  artifacts : List ReportedArtifact
  executionIsolation : Option ReportedIsolation
  deriving DecidableEq

def ReportedArtifact.validate (artifact : ReportedArtifact) :
    Except ValidationError ReportedArtifact := do
  let name ← nonEmptyStr artifact.name
  let uri ← nonEmptyStr artifact.uri
  sha256Digest artifact.digest
  ensure (0 ≤ artifact.sizeBytes) "Input should be greater than or equal to 0"
  return { artifact with name := name, uri := uri }

/-- The two instants of a period; both have an offset. -/
def period (startedAt finishedAt : Timestamp) : Except ValidationError (Instant × Instant) := do
  let started ← found startedAt.instant? "result timestamps must include timezone"
  let finished ← found finishedAt.instant? "result timestamps must include timezone"
  ensure (started ≤ finished) "finished_at must not be earlier than started_at"
  return (started, finished)

def ReportedCaseResult.validate (item : ReportedCaseResult) :
    Except ValidationError ReportedCaseResult := do
  let caseCode ← nonEmptyStr item.caseCode
  ensure (0 ≤ item.durationMs) "Input should be greater than or equal to 0"
  let _ ← period item.startedAt item.finishedAt
  ensure (item.status = .failed ∨ item.status = .infraError → item.errorMessage.any (· ≠ ""))
    "failed result requires error_message"
  return { item with caseCode := caseCode }

/-- `hard_isolation_evidence_is_complete` -/
def ReportedIsolation.complete (isolation : ReportedIsolation) : Except ValidationError Unit :=
  if isolation.mode ≠ .container ∧ isolation.mode ≠ .kubernetes then return ()
  else do
    ensure (isolation.dedicatedProcess = true ∧ isolation.credentialScope = .runSecretsOnly)
      "hard isolation requires a dedicated process and Run credentials"
    ensure (isolation.readOnlyRootFilesystem = true ∧ isolation.networkPolicy ≠ .workerDefault)
      "hard isolation requires filesystem and network enforcement"
    ensure (isolation.resourceLimitsEnforced = true)
      "hard isolation requires resource enforcement"
    ensure (isolation.runtimeImageId ≠ none ∧ isolation.memoryLimitBytes ≠ none ∧
        isolation.cpuLimitMillis ≠ none)
      "hard isolation requires an immutable image and exact limits"
    ensure (isolation.mode = .container → isolation.pidsLimit ≠ none)
      "container isolation requires immutable image and exact limits"
    ensure (isolation.mode = .kubernetes → isolation.ephemeralStorageLimitBytes ≠ none)
      "Kubernetes isolation requires an ephemeral storage limit"
    ensure (isolation.mode = .kubernetes → isolation.orchestratorNamespace.any (· ≠ "") ∧
        isolation.serviceAccountName.any (· ≠ ""))
      "Kubernetes isolation requires namespace and ServiceAccount evidence"
    ensure (isolation.mode = .kubernetes → isolation.serviceAccountName ≠ some "default")
      "Kubernetes isolation cannot use the default ServiceAccount"
    ensure (isolation.mode = .kubernetes →
        isolation.serviceAccountTokenAutomounted = some false)
      "Kubernetes isolation must disable ServiceAccount token automount"

def ReportedIsolation.validate (isolation : ReportedIsolation) :
    Except ValidationError ReportedIsolation := do
  let executorVersion ← nonEmptyStr isolation.executorVersion
  ensure (∀ image ∈ isolation.runtimeImageId, digestPattern isHexDigit image = true)
    "String should match pattern"
  ensure (∀ limit ∈ isolation.memoryLimitBytes, 128 * 1024 * 1024 ≤ limit)
    "Input should be greater than or equal to 134217728"
  ensure (∀ limit ∈ isolation.cpuLimitMillis, 100 ≤ limit ∧ limit ≤ 32000)
    "Input should be between 100 and 32000"
  ensure (∀ limit ∈ isolation.pidsLimit, 16 ≤ limit ∧ limit ≤ 4096)
    "Input should be between 16 and 4096"
  ensure (∀ limit ∈ isolation.ephemeralStorageLimitBytes, 64 * 1024 * 1024 ≤ limit)
    "Input should be greater than or equal to 67108864"
  ensure (∀ name ∈ isolation.orchestratorNamespace, kubernetesName name = true)
    "String should match pattern"
  ensure (∀ name ∈ isolation.serviceAccountName, kubernetesName name = true)
    "String should match pattern"
  isolation.complete
  return { isolation with executorVersion := executorVersion }

def validateIsolation :
    Option ReportedIsolation → Except ValidationError (Option ReportedIsolation)
  | none => return none
  | some isolation => some <$> isolation.validate

/-- `RunResult.model_validate` -/
def ReportedResult.validate (result : ReportedResult) :
    Except ValidationError ReportedResult := do
  let runnerVersion ← nonEmptyStr result.runnerVersion
  let caseResults ← result.caseResults.mapM ReportedCaseResult.validate
  let artifacts ← result.artifacts.mapM ReportedArtifact.validate
  let executionIsolation ← validateIsolation result.executionIsolation
  ensure (result.status.isTerminal = true) "run result requires a terminal status"
  let _ ← period result.startedAt result.finishedAt
  return { result with
    runnerVersion := runnerVersion
    caseResults := caseResults
    artifacts := artifacts
    executionIsolation := executionIsolation }

/-! ### The result that the control plane records -/

def hexDigitValue (c : Char) : Nat :=
  if '0' ≤ c ∧ c ≤ '9' then c.toNat - '0'.toNat
  else if 'a' ≤ c ∧ c ≤ 'f' then c.toNat - 'a'.toNat + 10
  else c.toNat - 'A'.toNat + 10

/-- The number that the digits of a digest write. -/
def digestValue (text : String) : Digest :=
  (text.toList.drop 7).foldl (fun value c => 16 * value + hexDigitValue c) 0

def ReportedArtifact.artifact (artifact : ReportedArtifact) : Artifact where
  artifactId := artifact.artifactId
  kind := artifact.kind
  name := artifact.name
  uri := artifact.uri
  digest := digestValue artifact.digest
  sizeBytes := artifact.sizeBytes.toNat

def ReportedCaseResult.caseResult? (item : ReportedCaseResult) : Option CaseResult :=
  match item.startedAt, item.finishedAt with
  | .aware startedAt, .aware finishedAt =>
    if hordered : startedAt ≤ finishedAt then
      if hexplained :
          item.status = .failed ∨ item.status = .infraError → item.errorMessage.any (· ≠ "") then
        some ⟨item.caseId, item.caseCode, item.status, startedAt, finishedAt,
          item.durationMs.toNat, item.failureCategory, item.errorMessage, item.artifactIds, hordered,
          hexplained⟩
      else none
    else none
  | _, _ => none

def ReportedIsolation.evidence (isolation : ReportedIsolation) :
    RunExecutionIsolationEvidence where
  mode := isolation.mode
  executorVersion := isolation.executorVersion
  dedicatedProcess := isolation.dedicatedProcess
  credentialScope := isolation.credentialScope
  readOnlyRootFilesystem := isolation.readOnlyRootFilesystem
  networkPolicy := isolation.networkPolicy
  resourceLimitsEnforced := isolation.resourceLimitsEnforced
  runtimeImageId := isolation.runtimeImageId.map digestValue
  memoryLimitBytes := isolation.memoryLimitBytes.map Int.toNat
  cpuLimitMillis := isolation.cpuLimitMillis.map Int.toNat
  pidsLimit := isolation.pidsLimit.map Int.toNat
  ephemeralStorageLimitBytes := isolation.ephemeralStorageLimitBytes.map Int.toNat
  orchestratorNamespace := isolation.orchestratorNamespace
  serviceAccountName := isolation.serviceAccountName
  serviceAccountTokenAutomounted := isolation.serviceAccountTokenAutomounted

/-- The result, with its digests as numbers. -/
def ReportedResult.runResult? (result : ReportedResult) : Option RunResult :=
  match result.startedAt, result.finishedAt with
  | .aware startedAt, .aware finishedAt =>
    if hordered : startedAt ≤ finishedAt then
      if hterminal : result.status.isTerminal = true then
        (result.caseResults.mapM ReportedCaseResult.caseResult?).map fun caseResults =>
          ⟨result.runId, result.status, startedAt, finishedAt, result.runnerVersion, caseResults,
            result.artifacts.map ReportedArtifact.artifact,
            result.executionIsolation.map ReportedIsolation.evidence, hterminal, hordered⟩
      else none
    else none
  | _, _ => none

/-! ### Rows -/

def ArtifactKind.text : ArtifactKind → String
  | .log => "LOG"
  | .screenshot => "SCREENSHOT"
  | .video => "VIDEO"
  | .trace => "TRACE"
  | .allure => "ALLURE"
  | .other => "OTHER"

structure ArtifactRow where
  artifactId : UUID
  runId : UUID
  kind : ArtifactKind
  name : String
  uri : String
  digest : String
  sizeBytes : Int
  deriving DecidableEq

/-- What a result writes to the row of a case. -/
structure CaseRow where
  caseId : UUID
  status : StatusValue
  durationMs : Int
  failureCategory : Option String
  errorMessage : Option String
  deriving DecidableEq

/-- What a result writes to the row of its run. -/
structure RunRow where
  status : StatusValue
  resultDigest : String
  resultDocument : ReportedResult
  errorMessage : Option String
  deriving DecidableEq

structure EventRow where
  dedupeKey : String
  source : String
  eventType : String
  status : StatusValue
  deriving DecidableEq

structure ResultRows where
  run : RunRow
  cases : List CaseRow
  artifacts : List ArtifactRow
  event : EventRow
  deriving DecidableEq

/-- `canonical_sha256` of a result; its digits are lowercase. -/
structure ResultDigest where
  text : ReportedResult → String
  formed : ∀ result, digestPattern isLowerHexDigit (text result) = true

def ReportedArtifact.row (runId : UUID) (artifact : ReportedArtifact) : ArtifactRow :=
  ⟨artifact.artifactId, runId, artifact.kind, artifact.name, artifact.uri, artifact.digest,
    artifact.sizeBytes⟩

def ReportedCaseResult.row (item : ReportedCaseResult) : CaseRow :=
  ⟨item.caseId, item.status.value, item.durationMs, item.failureCategory, item.errorMessage⟩

def ReportedResult.firstFailure (result : ReportedResult) : Option String :=
  (result.caseResults.find? fun item =>
    (item.status = .failed ∨ item.status = .infraError) ∧ item.errorMessage.any (· ≠ "")).bind
      ReportedCaseResult.errorMessage

/-- The row, with its digest as a number. -/
def ArtifactRow.record (row : ArtifactRow) : ArtifactRecord :=
  ⟨row.artifactId, row.runId, row.kind, row.name, row.uri, digestValue row.digest,
    row.sizeBytes.toNat⟩

/-- The rows that `record_run_result` derives from a result. -/
def ReportedResult.rows (canonicalSha256 : ResultDigest) (result : ReportedResult) : ResultRows where
  run := ⟨result.status.value, canonicalSha256.text result, result, result.firstFailure⟩
  cases := result.caseResults.map ReportedCaseResult.row
  artifacts := result.artifacts.map (ReportedArtifact.row result.runId)
  event := ⟨"system:result:" ++ canonicalSha256.text result, "SYSTEM", "result_recorded",
    result.status.value⟩

/-! ### Columns -/

/-- A text of PostgreSQL has no character of code 0. -/
def isText (text : String) : Bool := '\x00' ∉ text.toList

/-- `String(width)` -/
def fitsString (width : Nat) (text : String) : Bool := text.length ≤ width ∧ isText text

/-- `Integer` -/
def fitsInteger (value : Int) : Bool := -2 ^ 31 ≤ value ∧ value < 2 ^ 31

/-- `JSONB`: the texts of the document -/
def ReportedResult.texts (result : ReportedResult) : List String :=
  result.runnerVersion ::
    result.caseResults.flatMap (fun item => item.caseCode ::
      (item.failureCategory.toList ++ item.errorMessage.toList)) ++
    result.artifacts.flatMap (fun artifact => [artifact.name, artifact.uri, artifact.digest]) ++
    result.executionIsolation.toList.flatMap fun isolation => isolation.executorVersion ::
      (isolation.runtimeImageId.toList ++ isolation.orchestratorNamespace.toList ++
        isolation.serviceAccountName.toList)

def ArtifactRow.fits (row : ArtifactRow) : Bool :=
  fitsString 32 row.kind.text ∧ fitsString 255 row.name ∧ isText row.uri ∧ fitsString 71 row.digest ∧
    fitsInteger row.sizeBytes

def CaseRow.fits (row : CaseRow) : Bool :=
  fitsString 32 row.status.text ∧ fitsInteger row.durationMs ∧
    row.failureCategory.all (fitsString 64) ∧ row.errorMessage.all isText

def RunRow.fits (row : RunRow) : Bool :=
  fitsString 32 row.status.text ∧ fitsString 71 row.resultDigest ∧
    row.resultDocument.texts.all isText ∧ row.errorMessage.all isText

def EventRow.fits (row : EventRow) : Bool :=
  fitsString 128 row.dedupeKey ∧ fitsString 16 row.source ∧ fitsString 64 row.eventType ∧
    fitsString 32 row.status.text

def ResultRows.fit (rows : ResultRows) : Bool :=
  rows.run.fits ∧ rows.cases.all CaseRow.fits ∧ rows.artifacts.all ArtifactRow.fits ∧
    rows.event.fits

/-! ### Responses -/

/-- `Digest` of the responses -/
def responseDigest (text : String) : Except ValidationError String := do
  ensure (digestPattern isLowerHexDigit text = true) "String should match pattern"
  return text

structure RunDetailResponse where
  status : StatusValue
  resultDigest : String
  errorMessage : Option String
  result : ReportedResult
  cases : List CaseRow
  artifacts : List ArtifactRow
  deriving DecidableEq

def artifactResponse (row : ArtifactRow) : Except ValidationError ArtifactRow := do
  let digest ← responseDigest row.digest
  return { row with digest := digest }

/-- The part of the response that comes from the rows of a result. -/
def runDetailResponse (rows : ResultRows) : Except ValidationError RunDetailResponse := do
  let resultDigest ← responseDigest rows.run.resultDigest
  let result ← rows.run.resultDocument.validate
  let artifacts ← rows.artifacts.mapM artifactResponse
  return ⟨rows.run.status, resultDigest, rows.run.errorMessage, result, rows.cases, artifacts⟩

end TestOps

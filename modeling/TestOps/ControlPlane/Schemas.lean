import TestOps.ControlPlane.Persistence

/-! The validated payloads of the control plane's endpoints, the documents it hashes, and the
    functions it takes from its libraries. -/

namespace TestOps

/-! ### Runs -/

structure RunCreate where
  projectId : UUID
  targetId : UUID
  environmentId : UUID
  baselineId : UUID
  automationPackageId : UUID
  caseCodes : List String
  headless : Option Bool
  deriving DecidableEq

inductive RunnerEventType where
  | runStarted | caseStarted | caseFinished | progressUpdated | runFinished
  | liveViewReady | liveViewEnded
  deriving DecidableEq

def RunnerEventType.text : RunnerEventType → String
  | .runStarted => "run_started"
  | .caseStarted => "case_started"
  | .caseFinished => "case_finished"
  | .progressUpdated => "progress_updated"
  | .runFinished => "run_finished"
  | .liveViewReady => "live_view_ready"
  | .liveViewEnded => "live_view_ended"

/-- The typed fields of a runner event, before its shape is validated. -/
structure RunEventFields where
  runId : UUID
  event : RunnerEventType
  at' : Instant
  caseCode : Option String
  status : Option StatusValue
  currentRound : Option Nat
  totalRounds : Option Nat
  roundCompleted : Option Nat
  roundTotal : Option Nat
  completed : Option Nat
  total : Option Nat
  passed : Option Nat
  failed : Option Nat
  skipped : Option Nat
  currentCaseCode : Option String
  deriving DecidableEq

/-- The counters an event of type `progress_updated` carries. -/
def RunEventFields.progressValues (fields : RunEventFields) : List (Option Nat) :=
  [fields.currentRound, fields.totalRounds, fields.roundCompleted, fields.roundTotal,
    fields.completed, fields.total, fields.passed, fields.failed, fields.skipped]

def StatusValue.isCaseResult : StatusValue → Bool
  | .passed | .failed | .skipped | .infraError => true
  | .queued | .preparing | .running | .canceled | .timedOut => false

def StatusValue.isTerminalRun : StatusValue → Bool
  | .passed | .failed | .canceled | .timedOut | .infraError => true
  | .queued | .preparing | .running | .skipped => false

/-- Which fields an event of each type must and must not carry. -/
def validateEventShape (fields : RunEventFields) : Except String Unit := do
  let caseEvent := fields.event = .caseStarted ∨ fields.event = .caseFinished
  Checked.ensure (caseEvent ↔ fields.caseCode.isSome)
    "case events require case_code and Run events forbid it"
  let finishedEvent := fields.event = .caseFinished ∨ fields.event = .runFinished
  Checked.ensure (finishedEvent ↔ fields.status.isSome)
    "finished events require status and started events forbid it"
  Checked.ensure (fields.event = .caseFinished → fields.status.any StatusValue.isCaseResult)
    "case_finished requires a Case Result status"
  Checked.ensure (fields.event = .runFinished → fields.status.any StatusValue.isTerminalRun)
    "run_finished requires a terminal Run status"
  if fields.event = .progressUpdated then
    match fields.currentRound, fields.totalRounds, fields.roundCompleted, fields.roundTotal,
      fields.completed, fields.total, fields.passed, fields.failed, fields.skipped with
    | some currentRound, some totalRounds, some roundCompleted, some roundTotal,
      some completed, some total, some passed, some failed, some skipped =>
      Checked.ensure (fields.caseCode = none ∧ fields.status = none)
        "progress_updated forbids case_code and status"
      Checked.ensure (currentRound ≤ totalRounds) "current_round cannot exceed total_rounds"
      Checked.ensure (roundCompleted ≤ roundTotal) "round_completed cannot exceed round_total"
      Checked.ensure (completed ≤ total) "completed cannot exceed total"
      Checked.ensure (passed + failed + skipped = completed)
        "progress result counters must equal completed"
    | _, _, _, _, _, _, _, _, _ => .error "progress_updated requires complete progress counters"
  else
    Checked.ensure (fields.progressValues.all Option.isNone ∧ fields.currentCaseCode = none)
      "progress counters are only valid for progress_updated"

/-- A runner event whose shape has been accepted. -/
structure InternalRunEventCreate extends RunEventFields where
  accepted : validateEventShape toRunEventFields = .ok ()
  deriving DecidableEq

/-! ### Governance -/

/-- One operation of a change request, in one of the three shapes the validator admits. -/
inductive ChangeOperation where
  | add (case : CaseDefinition)
  | modify (case : CaseDefinition)
  | delete (caseId : UUID)
  deriving DecidableEq

def ChangeOperation.changeType : ChangeOperation → ChangeType
  | .add _ => .add
  | .modify _ => .modify
  | .delete _ => .delete

structure ChangeRequestCreate where
  baseBaselineId : UUID
  candidateVersion : String
  title : String
  reason : String
  changes : List ChangeOperation
  deriving DecidableEq

structure ChangeRequestUpdate where
  candidateVersion : String
  title : String
  reason : String
  changes : List ChangeOperation
  deriving DecidableEq

structure ReviewDecisionRequest where
  decision : ReviewDecision
  comment : Option String
  commented : decision = .requestChanges → comment.any (· ≠ "")
  deriving DecidableEq

structure CandidateRunCreate where
  targetId : UUID
  environmentId : UUID
  automationPackageId : UUID
  deriving DecidableEq

/-! ### Runner pools -/

structure RunnerPoolCreate where
  key : String
  name : String
  description : Option String
  targetTypes : List TargetType
  maxConcurrency : Nat
  targetTypesNodup : targetTypes.Nodup
  maxConcurrencyRange : 1 ≤ maxConcurrency ∧ maxConcurrency ≤ 500
  deriving DecidableEq

/-- Absent fields stay as they are; the description may also be set to null. -/
structure RunnerPoolUpdate where
  name : Option String
  description : Option (Option String)
  targetTypes : Option (List TargetType)
  maxConcurrency : Option Nat
  status : Option ServingStatus
  maxConcurrencyRange : ∀ n ∈ maxConcurrency, 1 ≤ n ∧ n ≤ 500

structure RunnerWorkerHeartbeat where
  poolKey : String
  displayName : String
  runnerVersion : String
  maxSlots : Nat
  capabilities : RunnerCapabilities
  maxSlotsRange : 1 ≤ maxSlots ∧ maxSlots ≤ 100
  deriving DecidableEq

/-! ### Email preferences -/

/-- The validated form: `emails` and `selectedEmails` are filled in from the legacy field. -/
structure RunEmailPreferenceUpdate where
  emails : List String
  selectedEmails : List String
  enabled : Bool
  statuses : List RunStatus
  statusesTerminal : ∀ status ∈ statuses, status.isTerminal = true
  statusesNodup : statuses.Nodup
  enabledComplete : enabled = true → selectedEmails ≠ [] ∧ statuses ≠ []

/-! ### Automation packages -/

structure AutomationPackageCreate where
  name : String
  version : String
  digest : Digest
  runnerType : RunnerType
  imageRepository : String

/-- A verification report; `reason` is the reason of a rejection. -/
structure AutomationPackageSupplyChainVerificationCreate where
  outcome : VerificationOutcome
  policyVersion : String
  verifier : String
  imageDigest : Digest
  signatureBundleDigest : Digest
  provenanceDigest : Digest
  sbomDigest : Digest
  signatureVerified : Bool
  transparencyLogVerified : Bool
  provenanceVerified : Bool
  sbomVerified : Bool
  certificateIssuer : String
  certificateIdentity : String
  builderId : String
  sourceRepository : String
  sourceRevision : String
  reason : Option String
  verifiedChecks : outcome = .verified → signatureVerified = true ∧
    transparencyLogVerified = true ∧ provenanceVerified = true ∧ sbomVerified = true
  rejectedReason : outcome = .rejected → reason ≠ none
  deriving DecidableEq

/-! ### Documents and library functions -/

/-- The documents whose canonical JSON is hashed. -/
inductive Document where
  | runCreate (payload : RunCreate)
  | rerun (sourceRunId : UUID) (mode : RetryMode)
  | snapshot (snapshot : RunSnapshot)
  | result (result : RunResult)
  | baseline (baseline : CaseBaseline)
  | runEvent (event : RunEventFields)
  | supplyChainReport (packageId : UUID)
      (report : AutomationPackageSupplyChainVerificationCreate)
  deriving DecidableEq

/-- What the control plane takes from its libraries. -/
structure Primitives where
  /-- The SHA-256 digest of a document's canonical JSON. -/
  canonicalSha256 : Document → Digest
  /-- Unicode case folding. -/
  casefold : String → String
  /-- The first sixteen hexadecimal digits of the SHA-256 digest of a text. -/
  sha256Prefix : String → Digest
  /-- All of its hexadecimal digits. -/
  sha256Hexdigest : String → String

end TestOps

import TestOps.Contracts.Models
import TestOps.Lib.Table

/-! The control plane's database: one record type per table and one field of `Database` per table.
    Primary keys and the unique constraints that stand for the identity of a row are the keys of
    the tables; the remaining unique constraints are checked where rows are written.

    A command is a function from the database it starts from to the database it commits, or to the
    error that rolls it back. -/

namespace TestOps

open Relational

/-! ### Stored statuses -/

/-- The text of a status column that holds run statuses and case result statuses. -/
inductive StatusValue where
  | queued | preparing | running | passed | failed | canceled | timedOut | infraError | skipped
  deriving DecidableEq

def RunStatus.value : RunStatus → StatusValue
  | .queued => .queued
  | .preparing => .preparing
  | .running => .running
  | .passed => .passed
  | .failed => .failed
  | .canceled => .canceled
  | .timedOut => .timedOut
  | .infraError => .infraError

def CaseResultStatus.value : CaseResultStatus → StatusValue
  | .passed => .passed
  | .failed => .failed
  | .skipped => .skipped
  | .infraError => .infraError

/-- The text itself, as error messages print it. -/
def StatusValue.text : StatusValue → String
  | .queued => "QUEUED"
  | .preparing => "PREPARING"
  | .running => "RUNNING"
  | .passed => "PASSED"
  | .failed => "FAILED"
  | .canceled => "CANCELED"
  | .timedOut => "TIMED_OUT"
  | .infraError => "INFRA_ERROR"
  | .skipped => "SKIPPED"

inductive BaselineStatus where | draft | candidate | released | superseded
  deriving DecidableEq

def BaselineStatus.text : BaselineStatus → String
  | .draft => "DRAFT"
  | .candidate => "CANDIDATE"
  | .released => "RELEASED"
  | .superseded => "SUPERSEDED"

inductive PackageStatus where | draft | active | deprecated | revoked
  deriving DecidableEq

def PackageStatus.text : PackageStatus → String
  | .draft => "DRAFT"
  | .active => "ACTIVE"
  | .deprecated => "DEPRECATED"
  | .revoked => "REVOKED"

inductive SupplyChainStatus where | legacy | pending | verified | rejected
  deriving DecidableEq

def SupplyChainStatus.text : SupplyChainStatus → String
  | .legacy => "LEGACY"
  | .pending => "PENDING"
  | .verified => "VERIFIED"
  | .rejected => "REJECTED"

inductive VerificationOutcome where | verified | rejected
  deriving DecidableEq

def VerificationOutcome.status : VerificationOutcome → SupplyChainStatus
  | .verified => .verified
  | .rejected => .rejected

inductive ChangeRequestStatus where
  | draft | inReview | changesRequested | candidate | published
  deriving DecidableEq

/-- The validation column of a change request; `run` holds the status of its validation run. -/
inductive ValidationStatus where
  | pendingExecution
  | notRequired
  | run (status : RunStatus)
  deriving DecidableEq

inductive ChangeType where | add | modify | delete
  deriving DecidableEq

inductive ReviewDecision where | approve | requestChanges
  deriving DecidableEq

inductive ServingStatus where | active | draining | disabled
  deriving DecidableEq

inductive LeaseStatus where | active | released | expired
  deriving DecidableEq

inductive DispatchState where | pending | waiting | dispatched
  deriving DecidableEq

/-- Why a run waits for dispatch. -/
inductive WaitReason where
  | runnerPoolNotFound | runnerPoolDraining | runnerPoolDisabled | noHealthyRunner
  | runnerCapabilityMismatch | runnerIsolationUnavailable | automationPackageUnavailable
  | runnerPoolCapacityExhausted | brokerPublishFailed
  deriving DecidableEq

def WaitReason.text : WaitReason → String
  | .runnerPoolNotFound => "RUNNER_POOL_NOT_FOUND"
  | .runnerPoolDraining => "RUNNER_POOL_DRAINING"
  | .runnerPoolDisabled => "RUNNER_POOL_DISABLED"
  | .noHealthyRunner => "NO_HEALTHY_RUNNER"
  | .runnerCapabilityMismatch => "RUNNER_CAPABILITY_MISMATCH"
  | .runnerIsolationUnavailable => "RUNNER_ISOLATION_UNAVAILABLE"
  | .automationPackageUnavailable => "AUTOMATION_PACKAGE_UNAVAILABLE"
  | .runnerPoolCapacityExhausted => "RUNNER_POOL_CAPACITY_EXHAUSTED"
  | .brokerPublishFailed => "BROKER_PUBLISH_FAILED"

inductive RetryMode where | full | failedOnly
  deriving DecidableEq

inductive OutboxStatus where | pending | published
  deriving DecidableEq

inductive DeliveryStatus where | pending | delivered | failed | canceled
  deriving DecidableEq

/-- The three reasons for which the reliability sweep ends a run. -/
inductive ReasonCode where | timedOut | runnerLost | dispatchStalled
  deriving DecidableEq

/-! ### Projects and their resources -/

structure ProjectRecord where
  id : UUID
  key : String
  name : String
  maxInFlightRuns : Nat
  maxDailyRuns : Nat
  runTimeoutSeconds : Nat
  status : String
  deriving DecidableEq

structure TestTargetRecord where
  id : UUID
  projectId : UUID
  runnerPoolId : Option UUID
  targetType : TargetType
  browser : Option String
  status : String
  deriving DecidableEq

structure EnvironmentDocument where
  webConfig : Option WebRunConfig
  runtimeVariables : List RuntimeVariable
  secretBindings : List SecretBinding
  deriving DecidableEq

structure EnvironmentRecord where
  id : UUID
  projectId : UUID
  targetId : UUID
  runnerPoolId : Option UUID
  configDocument : EnvironmentDocument
  configHash : Digest
  status : String
  deriving DecidableEq

structure CaseBaselineRecord where
  baselineId : UUID
  projectId : UUID
  version : String
  digest : Digest
  caseCount : Nat
  enabledCaseCount : Nat
  sourceKind : SourceKind
  status : BaselineStatus
  document : CaseBaseline
  deriving DecidableEq

structure AutomationPackageRecord where
  id : UUID
  projectId : UUID
  targetId : UUID
  name : String
  version : String
  digest : Digest
  runnerType : RunnerType
  imageRepository : String
  status : PackageStatus
  validatedRunId : Option UUID
  activatedBy : Option UUID
  activatedAt : Option Instant
  statusReason : Option String
  supplyChainStatus : SupplyChainStatus
  supplyChainVerificationId : Option UUID
  deriving DecidableEq

structure AutomationPackageSupplyChainVerificationRecord where
  id : UUID
  automationPackageId : UUID
  outcome : VerificationOutcome
  policyVersion : String
  verifier : String
  imageDigest : Digest
  signatureBundleDigest : Digest
  provenanceDigest : Digest
  sbomDigest : Digest
  certificateIssuer : String
  certificateIdentity : String
  builderId : String
  sourceRepository : String
  sourceRevision : String
  reportDigest : Digest
  deriving DecidableEq

/-! ### Case changes -/

structure ChangeRequestRecord where
  id : UUID
  projectId : UUID
  baseBaselineId : UUID
  candidateBaselineId : UUID
  candidateVersion : String
  candidateDigest : Digest
  candidateDocument : CaseBaseline
  title : String
  reason : String
  status : ChangeRequestStatus
  validationStatus : ValidationStatus
  createdBy : UUID
  submittedAt : Option Instant
  reviewedAt : Option Instant
  publishedAt : Option Instant
  publishedBaselineId : Option UUID
  validationRunId : Option UUID
  deriving DecidableEq

structure ChangeItemRecord where
  changeRequestId : UUID
  sequence : Nat
  changeType : ChangeType
  caseId : UUID
  caseCode : String
  beforeDocument : Option CaseDefinition
  afterDocument : Option CaseDefinition
  changedFields : List String
  deriving DecidableEq

structure ApprovalRecord where
  id : UUID
  changeRequestId : UUID
  reviewerId : UUID
  decision : ReviewDecision
  comment : Option String
  createdAt : Instant
  deriving DecidableEq

/-! ### Runner pools -/

structure RunnerExecutionIsolationCapabilities where
  mode : IsolationMode
  dedicatedProcess : Bool
  credentialScope : CredentialScope
  readOnlyRootFilesystem : Bool
  networkPolicy : NetworkPolicy
  resourceLimitsEnforced : Bool
  memoryLimitBytes : Option Nat
  cpuLimitMillis : Option Nat
  pidsLimit : Option Nat
  ephemeralStorageLimitBytes : Option Nat
  orchestratorNamespace : Option String
  serviceAccountName : Option String
  serviceAccountTokenAutomounted : Option Bool
  deriving DecidableEq

structure AutomationPackageRuntimeRef where
  runnerType : RunnerType
  imageRepository : String
  digest : Digest
  deriving DecidableEq

structure RunnerCapabilities where
  targetTypes : List TargetType
  browsers : List String
  automationPackages : List AutomationPackageRuntimeRef
  executionIsolation : Option RunnerExecutionIsolationCapabilities
  deriving DecidableEq

structure RunnerPoolRecord where
  id : UUID
  key : String
  name : String
  description : Option String
  targetTypes : List TargetType
  queueName : String
  maxConcurrency : Nat
  status : ServingStatus
  deriving DecidableEq

structure RunnerWorkerRecord where
  id : UUID
  poolId : UUID
  workerKey : String
  displayName : String
  runnerVersion : String
  capabilities : RunnerCapabilities
  maxSlots : Nat
  status : ServingStatus
  lastHeartbeatAt : Instant
  deriving DecidableEq

structure RunnerSlotLeaseRecord where
  id : UUID
  poolId : UUID
  runId : UUID
  workerId : Option UUID
  status : LeaseStatus
  acquiredAt : Instant
  releasedAt : Option Instant
  deriving DecidableEq

/-! ### Runs -/

structure TestRunRecord where
  id : UUID
  projectId : UUID
  targetId : UUID
  environmentId : UUID
  baselineId : UUID
  automationPackageId : UUID
  runnerPoolId : Option UUID
  regressionScheduleId : Option UUID
  scheduledFor : Option Instant
  sourceRunId : Option UUID
  retryMode : Option RetryMode
  status : RunStatus
  idempotencyKey : String
  requestHash : Digest
  snapshotDigest : Digest
  snapshot : RunSnapshot
  resultDigest : Option Digest
  resultDocument : Option RunResult
  caseCount : Nat
  timeoutSeconds : Nat
  createdBy : UUID
  createdAt : Instant
  cancelRequested : Bool
  dispatchState : DispatchState
  dispatchWaitReason : Option WaitReason
  dispatchedAt : Option Instant
  startedAt : Option Instant
  timeoutAt : Option Instant
  finishedAt : Option Instant
  errorMessage : Option String
  deriving DecidableEq

structure RunCaseRecord where
  runId : UUID
  caseId : UUID
  caseCode : String
  sequence : Nat
  status : StatusValue
  durationMs : Option Nat
  failureCategory : Option String
  errorMessage : Option String
  deriving DecidableEq

structure ArtifactRecord where
  artifactId : UUID
  runId : UUID
  kind : ArtifactKind
  name : String
  uri : String
  digest : Digest
  sizeBytes : Nat
  deriving DecidableEq

inductive EventSource where | system | runner
  deriving DecidableEq

/-- The dedupe key of a run event: a fixed system text, or the digest of a runner's document. -/
inductive EventKey where
  | runCreated
  | status (target : RunStatus)
  | result (digest : Digest)
  | cancelRequested
  | reliability (reasonCode : ReasonCode)
  | runner (digest : Digest)
  deriving DecidableEq

structure RunEventRecord where
  runId : UUID
  sequence : Nat
  dedupeKey : EventKey
  source : EventSource
  eventType : String
  caseCode : Option String
  status : Option StatusValue
  occurredAt : Instant
  deriving DecidableEq

/-! ### Outbox -/

/-- What an outbox row publishes: its event type with the payload of that type. -/
inductive OutboxMessage where
  | runQueued (snapshot : RunSnapshot) (runnerPoolId : Option UUID)
  | runCancelRequested (reason : Option ReasonCode)
  deriving DecidableEq

inductive OutboxKey where
  | runQueued (runId : UUID)
  | runCancelRequested (runId : UUID)
  | runReliabilityCancel (reasonCode : ReasonCode) (runId : UUID)
  deriving DecidableEq

structure DispatchOutboxRecord where
  id : UUID
  aggregateId : UUID
  message : OutboxMessage
  dedupeKey : OutboxKey
  status : OutboxStatus
  attempts : Nat
  availableAt : Instant
  createdAt : Instant
  processedAt : Option Instant
  lastError : Option String
  deriving DecidableEq

/-! ### Email -/

structure RunEmailPreferenceRecord where
  userId : UUID
  email : Option String
  emails : List String
  selectedEmails : List String
  enabled : Bool
  statuses : List RunStatus
  deriving DecidableEq

/-- The dedupe key of a delivery; a recipient enters it through the hash of its folded address. -/
inductive DeliveryKey where
  | runResult (runId : UUID) (userId : UUID) (recipientHash : Digest)
  | runEmailTest (nonce : UUID)
  deriving DecidableEq

structure RunResultEmail where
  projectId : UUID
  projectKey : String
  projectName : String
  runId : UUID
  status : RunStatus
  caseCount : Nat
  statusCounts : List (CaseResultStatus × Nat)
  durationMs : Option Nat
  finishedAt : Option Instant
  baselineVersion : String
  packageVersion : String
  deriving DecidableEq

inductive EmailPayload where
  | runResult (email : RunResultEmail)
  | test (occurredAt : Instant)
  deriving DecidableEq

structure RunEmailDeliveryRecord where
  userId : UUID
  projectId : Option UUID
  runId : Option UUID
  dedupeKey : DeliveryKey
  recipientEmail : String
  destinationDisplay : String
  payload : EmailPayload
  status : DeliveryStatus
  attempts : Nat
  availableAt : Instant
  lastError : Option String
  deriving DecidableEq

/-! ### The database -/

abbrev RunTable := Table TestRunRecord.id
abbrev LeaseTable := Table RunnerSlotLeaseRecord.id
abbrev RunCaseTable := Table fun case : RunCaseRecord => (case.runId, case.caseId)
abbrev RunEventTable := Table fun event : RunEventRecord => (event.runId, event.dedupeKey)
abbrev ChangeRequestTable := Table ChangeRequestRecord.id
abbrev OutboxTable := Table DispatchOutboxRecord.dedupeKey
abbrev DeliveryTable := Table RunEmailDeliveryRecord.dedupeKey

structure Database where
  projects : Table ProjectRecord.id
  targets : Table TestTargetRecord.id
  environments : Table EnvironmentRecord.id
  baselines : Table CaseBaselineRecord.baselineId
  packages : Table AutomationPackageRecord.id
  verifications : Table AutomationPackageSupplyChainVerificationRecord.id
  changeRequests : ChangeRequestTable
  changeItems : List ChangeItemRecord
  approvals : List ApprovalRecord
  pools : Table RunnerPoolRecord.id
  workers : Table RunnerWorkerRecord.id
  leases : LeaseTable
  runs : RunTable
  runCases : RunCaseTable
  artifacts : Table ArtifactRecord.artifactId
  runEvents : RunEventTable
  outbox : OutboxTable
  emailPreferences : Table RunEmailPreferenceRecord.userId
  emailDeliveries : DeliveryTable

/-- The database before any command. -/
def Database.empty : Database where
  projects := .empty
  targets := .empty
  environments := .empty
  baselines := .empty
  packages := .empty
  verifications := .empty
  changeRequests := .empty
  changeItems := []
  approvals := []
  pools := .empty
  workers := .empty
  leases := .empty
  runs := .empty
  runCases := .empty
  artifacts := .empty
  runEvents := .empty
  outbox := .empty
  emailPreferences := .empty
  emailDeliveries := .empty

/-! ### Errors -/

/-- What a command stops with. The first three are answered as 404, 409 and 422; an integrity
    error is raised by the final commit or by a flush before it. -/
inductive ServiceError where
  | resourceNotFound (message : String)
  | resourceConflict (message : String)
  | invalidRequest (message : String)
  | integrityError (atCommit : Bool)
  | validationError
  | valueError (message : String)
  | invalidRunTransition (current target : RunStatus)
  deriving DecidableEq

end TestOps

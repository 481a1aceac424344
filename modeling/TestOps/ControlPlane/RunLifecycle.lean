import TestOps.ControlPlane.RunEmails

/-! The commands that move a run: the status callback of its runner, the result callback, and the
    cancellation by a user. Each of them holds the lock of the run row until it commits. -/

namespace TestOps

open Checked Relational

variable {P : Primitives} {db db' : Database}

/-! ### Slot leases -/

def RunnerSlotLeaseRecord.holds (runId : UUID) (lease : RunnerSlotLeaseRecord) : Bool :=
  lease.runId = runId ∧ lease.status = .active

theorem RunnerSlotLeaseRecord.holds_iff {runId : UUID} {lease : RunnerSlotLeaseRecord} :
    lease.holds runId = true ↔ lease.runId = runId ∧ lease.status = .active :=
  decide_eq_true_iff

/-- The active lease of a run. -/
def activeLease (leases : LeaseTable) (runId : UUID) : Option RunnerSlotLeaseRecord :=
  leases.first? (RunnerSlotLeaseRecord.holds runId)

/-- End the active lease of a run, when there is one. -/
def endLease (leases : LeaseTable) (runId : UUID) (status : LeaseStatus) (now : Instant) :
    LeaseTable :=
  match activeLease leases runId with
  | none => leases
  | some lease => leases.modify lease.id fun lease =>
      { lease with status := status, releasedAt := some now }

def releaseRunnerSlot (now : Instant) (leases : LeaseTable) (runId : UUID) : LeaseTable :=
  endLease leases runId .released now

/-- Bind the active lease of a pooled run to the worker that calls back. -/
def bindRunnerSlot (now : Instant) (run : TestRunRecord) (workerKey : Option String)
    (db : Database) : Except ServiceError (LeaseTable × Table RunnerWorkerRecord.id) :=
  match workerKey with
  | none => return (db.leases, db.workers)
  | some workerKey =>
    if run.runnerPoolId = none then
      return (db.leases, db.workers)
    else do
      let lease ← found (activeLease db.leases run.id)
        (.resourceConflict "pooled Run has no active Runner slot lease")
      let foreign := ServiceError.invalidRequest "Runner worker does not belong to the Run pool"
      let worker ← found (db.workers.first? fun worker => worker.workerKey = workerKey) foreign
      ensure (worker.poolId = lease.poolId) foreign
      ensure (worker.status = .active) (.resourceConflict "Runner worker is not ACTIVE")
      ensure (∀ workerId ∈ lease.workerId, workerId = worker.id)
        (.resourceConflict "Runner slot lease is already bound to another worker")
      return (db.leases.modify lease.id fun lease => { lease with workerId := some worker.id },
        db.workers.modify worker.id fun worker => { worker with lastHeartbeatAt := now })

/-! ### Status callback -/

/-- A run that its runner has moved to `target`. -/
def startedRun (now : Instant) (target : RunStatus) (run : TestRunRecord) : TestRunRecord :=
  { run with
    status := target
    timeoutAt := run.timeoutAt <|> some (now + run.timeoutSeconds * 1000000)
    startedAt := if target = .running then run.startedAt <|> some now else run.startedAt }

def updateRunStatus (now : Instant) (runId : UUID) (target : RunStatus)
    (workerKey : Option String) (db : Database) : Except ServiceError Database := do
  ensure (target = .preparing ∨ target = .running)
    (.invalidRequest "Runner status callback only accepts PREPARING or RUNNING")
  let record ← lockedRun db runId
  let (leases, workers) ← bindRunnerSlot now record workerKey db
  if record.status = target then
    return { db with leases := leases, workers := workers }
  else
    requireRunTransition record.status target
      (.resourceConflict (invalidRunTransition record.status target))
    return { db with
      leases := leases
      workers := workers
      runs := db.runs.modify runId (startedRun now target)
      runEvents := (appendRunEvent db.runEvents runId (.status target) .system "status_changed" now
        none (some target.value)).1 }

/-! ### Result callback -/

/-- The case results a result with the given status may and must contain. -/
def requireConsistentStatuses (result : RunResult) : Except ServiceError Unit := do
  ensure (result.status = .passed →
      ∀ item ∈ result.caseResults, item.status = .passed ∨ item.status = .skipped)
    (.invalidRequest "PASSED Run Result cannot contain failed case results")
  ensure (result.status = .failed → ∃ item ∈ result.caseResults, item.status = .failed)
    (.invalidRequest "FAILED Run Result requires at least one FAILED case")
  ensure (result.status = .infraError → ∃ item ∈ result.caseResults, item.status = .infraError)
    (.invalidRequest "INFRA_ERROR Run Result requires at least one INFRA_ERROR case")

/-- The result has exactly one case result for each stored case, under the stored code. -/
def requireMatchingCases (result : RunResult) (storedCases : List RunCaseRecord) :
    Except ServiceError Unit := do
  let resultIds := result.caseResults.map CaseResult.caseId
  let storedIds := storedCases.map RunCaseRecord.caseId
  ensure resultIds.Nodup (.invalidRequest "Run Result contains duplicate case_id")
  ensure (resultIds ⊆ storedIds ∧ storedIds ⊆ resultIds)
    (.invalidRequest "Run Result cases do not match the immutable Run Snapshot")
  requireConsistentStatuses result
  ensure (∀ item ∈ result.caseResults, ∀ stored ∈ storedCases, stored.caseId = item.caseId →
      stored.caseCode = item.caseCode)
    (.invalidRequest "Run Result case_code does not match stored case_id")

def requireKnownArtifacts (result : RunResult) : Except ServiceError Unit := do
  let artifactIds := result.artifacts.map Artifact.artifactId
  ensure artifactIds.Nodup (.invalidRequest "Run Result contains duplicate artifact_id")
  ensure (∀ item ∈ result.caseResults, item.artifactIds ⊆ artifactIds)
    (.invalidRequest "Run Result case references unknown artifact_id")

def RunCaseRecord.settle (item : CaseResult) (case : RunCaseRecord) : RunCaseRecord :=
  { case with
    status := item.status.value
    durationMs := some item.durationMs
    failureCategory := item.failureCategory
    errorMessage := item.errorMessage }

/-- Store the case results of a run in the rows of its cases. -/
def settleRunCases (runId : UUID) : List CaseResult → RunCaseTable → RunCaseTable
  | [], cases => cases
  | item :: items, cases =>
    settleRunCases runId items (cases.modify (runId, item.caseId) (RunCaseRecord.settle item))

def Artifact.record (runId : UUID) (artifact : Artifact) : ArtifactRecord :=
  ⟨artifact.artifactId, runId, artifact.kind, artifact.name, artifact.uri, artifact.digest,
    artifact.sizeBytes⟩

/-- The message of the first failed case. -/
def firstFailure (result : RunResult) : Option String :=
  (result.caseResults.find? fun item =>
    (item.status = .failed ∨ item.status = .infraError) ∧ item.errorMessage.any (· ≠ "")).bind
      CaseResult.errorMessage

/-- A run whose result has been accepted. -/
def finishedRun (P : Primitives) (result : RunResult) (run : TestRunRecord) : TestRunRecord :=
  { run with
    status := result.status
    startedAt := some result.startedAt
    timeoutAt := none
    finishedAt := some result.finishedAt
    resultDigest := some (P.canonicalSha256 (.result result))
    resultDocument := some result
    errorMessage := firstFailure result }

/-- Pass the status of a run on to the change request it validates. -/
def pushValidationStatus (requests : ChangeRequestTable) (runId : UUID) (status : RunStatus) :
    ChangeRequestTable :=
  match requests.first? fun request => request.validationRunId = some runId with
  | none => requests
  | some request => requests.modify request.id fun request =>
      { request with validationStatus := .run status }

/-- Store a first result; the row locks are held and no result is recorded yet. -/
def storeResult (P : Primitives) (now : Instant) (runId : UUID) (result : RunResult)
    (record : TestRunRecord) (db : Database) : Except ServiceError Database := do
  requireRunTransition record.status result.status
    (.resourceConflict (invalidRunTransition record.status result.status))
  requireMatchingCases result (db.runCases.rows.filter fun case => case.runId = runId)
  requireKnownArtifacts result
  let artifacts ← found (db.artifacts.insertAll? (result.artifacts.map (Artifact.record runId)))
    (.integrityError false)
  let emailDeliveries ← enqueueRunResultEmail P now db (finishedRun P result record)
    (.resourceConflict "Run Result artifacts conflict with existing records")
  return { db with
    artifacts := artifacts
    emailDeliveries := emailDeliveries
    runs := db.runs.modify runId (finishedRun P result)
    runCases := settleRunCases runId result.caseResults db.runCases
    leases := releaseRunnerSlot now db.leases runId
    changeRequests := pushValidationStatus db.changeRequests runId result.status
    runEvents := (appendRunEvent db.runEvents runId
      (.result (P.canonicalSha256 (.result result))) .system "result_recorded" result.finishedAt
      none (some result.status.value)).1 }

def recordRunResult (P : Primitives) (now : Instant) (runId : UUID) (result : RunResult)
    (db : Database) : Except ServiceError Database := do
  ensure (result.runId = runId) (.invalidRequest "Run Result run_id does not match URL")
  let record ← lockedRun db runId
  match record.resultDigest with
  | some digest =>
    ensure (digest = P.canonicalSha256 (.result result) ∧ record.resultDocument = some result)
      (.resourceConflict "Run Result is immutable and was already recorded")
    return db
  | none => storeResult P now runId result record db

/-! ### Cancellation -/

/-- A run whose cancellation has been requested; a queued one ends at once. -/
def canceledRun (now : Instant) (run : TestRunRecord) : TestRunRecord :=
  { run with
    cancelRequested := true
    status := if run.status = .queued then .canceled else run.status
    finishedAt := if run.status = .queued then some now else run.finishedAt }

def cancelOutboxRecord (now : Instant) (outboxId runId : UUID) (dedupeKey : OutboxKey)
    (reason : Option ReasonCode) : DispatchOutboxRecord where
  id := outboxId
  aggregateId := runId
  message := .runCancelRequested reason
  dedupeKey := dedupeKey
  status := .pending
  attempts := 0
  availableAt := now
  createdAt := now
  processedAt := none
  lastError := none

/-- The deliveries after a cancellation: only a queued run ends, and is announced. -/
def cancelDeliveries (P : Primitives) (now : Instant) (record : TestRunRecord) (db : Database) :
    Except ServiceError DeliveryTable :=
  if record.status = .queued then
    enqueueRunResultEmail P now db (canceledRun now record) (.integrityError false)
  else
    return db.emailDeliveries

/-- Request the cancellation of a run; also say whether anything changed. -/
def requestCancel (P : Primitives) (now : Instant) (outboxId : UUID) (record : TestRunRecord)
    (db : Database) : Except ServiceError (Database × Bool) := do
  if record.status.isTerminal = true ∨ record.cancelRequested = true then
    return (db, false)
  else
    let emailDeliveries ← cancelDeliveries P now record db
    let outbox ← found (db.outbox.insert?
      (cancelOutboxRecord now outboxId record.id (.runCancelRequested record.id) none))
      (.integrityError true)
    return ({ db with
      emailDeliveries := emailDeliveries
      outbox := outbox
      runs := db.runs.modify record.id (canceledRun now)
      leases := if record.status = .queued then releaseRunnerSlot now db.leases record.id
        else db.leases
      runEvents := (appendRunEvent db.runEvents record.id .cancelRequested .system
        "cancel_requested" now none (some (canceledRun now record).status.value)).1 }, true)

/-- A conflict at the commit leaves the run as another command has left it. -/
def cancelRun (P : Primitives) (now : Instant) (outboxId runId : UUID) (db : Database) :
    Except ServiceError Database := do
  let record ← lockedRun db runId
  match requestCancel P now outboxId record db with
  | .ok (canceled, _) => return canceled
  | .error (.integrityError true) => return db
  | .error error => .error error

/-- Cancel several runs of one project in one transaction; `outboxId` draws the identifier of the
    outbox record of each run. -/
def cancelRuns (P : Primitives) (now : Instant) (outboxId : UUID → UUID) (projectId : UUID)
    (runIds : List UUID) (db : Database) : Except ServiceError Database := do
  ensure (db.projects.get? projectId).isSome (.resourceNotFound "project not found")
  ensure (runIds.Nodup ∧ ∀ runId ∈ runIds, (db.runs.get? runId).any (·.projectId = projectId))
    (.resourceNotFound "one or more Runs were not found in project")
  runIds.foldlM (fun db runId => do
    let record ← lockedRun db runId
    let (db, _) ← requestCancel P now (outboxId runId) record db
    return db) db

end TestOps

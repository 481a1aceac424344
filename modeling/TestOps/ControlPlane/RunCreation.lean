import TestOps.ControlPlane.RunEvents

/-! Queueing runs. A run is created from a request or from an earlier run; either way the command
    answers a repeated idempotency key with the run it already created, and otherwise composes an
    immutable snapshot and queues it:

      createRun    ──┐                      ┌── the run, QUEUED
      createRerun  ──┴──▸ queueSnapshotRun ─┼── one row per case, QUEUED
                                            └── the outbox record that dispatches it -/

namespace TestOps

open Checked Relational

variable {P : Primitives} {db db' : Database}

/-! ### Quotas -/

def microsPerDay : Int := 86400 * 1000000

/-- Midnight of the day of `now`. -/
def dailyWindowStart (now : Instant) : Instant := now / microsPerDay * microsPerDay

def inFlightRuns (db : Database) (projectId : UUID) : Nat :=
  db.runs.count fun run => run.projectId = projectId ∧ run.status.isTerminal = false

def runsCreatedToday (db : Database) (projectId : UUID) (now : Instant) : Nat :=
  db.runs.count fun run => run.projectId = projectId ∧ dailyWindowStart now ≤ run.createdAt

def enforceExecutionPolicy (now : Instant) (project : ProjectRecord) (db : Database) :
    Except ServiceError Unit := do
  let inFlight := inFlightRuns db project.id
  ensure (inFlight < project.maxInFlightRuns) (.resourceConflict
    ("project in-flight Run quota reached (" ++ toString inFlight ++ "/"
      ++ toString project.maxInFlightRuns ++ ")"))
  let createdToday := runsCreatedToday db project.id now
  ensure (createdToday < project.maxDailyRuns) (.resourceConflict
    ("project daily Run quota reached (" ++ toString createdToday ++ "/"
      ++ toString project.maxDailyRuns ++ ")"))

/-! ### Case selection -/

/-- The enabled cases of a baseline, or those of them that were asked for. -/
def selectCases (baseline : CaseBaseline) (requestedCodes : List String) :
    Except ServiceError (List CaseDefinition) := do
  ensure requestedCodes.Nodup (.invalidRequest "case_codes contains duplicates")
  if requestedCodes ≠ [] then
    let unknown := requestedCodes.filter fun code =>
      code ∉ baseline.cases.map CaseDefinition.caseCode
    ensure (unknown = []) (.invalidRequest
      ("unknown case_codes: " ++ ", ".intercalate (unknown.insertionSort (· ≤ ·))))
    let disabled := requestedCodes.filter fun code =>
      baseline.cases.any fun case => case.caseCode = code ∧ case.enabled = false
    ensure (disabled = []) (.invalidRequest
      ("disabled cases cannot be scheduled: "
        ++ ", ".intercalate (disabled.insertionSort (· ≤ ·))))
    return baseline.cases.filter fun case => case.caseCode ∈ requestedCodes
  else
    return baseline.enabledCases

/-! ### Idempotency -/

/-- The run a project already created under an idempotency key. -/
def runByIdempotencyKey (db : Database) (projectId : UUID) (idempotencyKey : String) :
    Option TestRunRecord :=
  db.runs.first? fun run => run.projectId = projectId ∧ run.idempotencyKey = idempotencyKey

def existingIdempotentRun (db : Database) (projectId : UUID) (idempotencyKey : String)
    (requestHash : Digest) : Except ServiceError (Option TestRunRecord) := do
  let existing := runByIdempotencyKey db projectId idempotencyKey
  ensure (∀ run ∈ existing, run.requestHash = requestHash)
    (.resourceConflict "idempotency key was already used with a different request")
  return existing

/-! ### Queueing a snapshot -/

/-- What is stored about a run besides its snapshot. -/
structure RunPlan where
  snapshot : RunSnapshot
  projectId : UUID
  targetId : UUID
  environmentId : UUID
  baselineId : UUID
  automationPackageId : UUID
  idempotencyKey : String
  requestHash : Digest
  actorId : UUID
  runnerPoolId : Option UUID
  timeoutSeconds : Nat
  sourceRunId : Option UUID
  retryMode : Option RetryMode
  regressionScheduleId : Option UUID
  scheduledFor : Option Instant

/-- The row of a run that has just been queued. -/
def RunPlan.run (P : Primitives) (plan : RunPlan) : TestRunRecord where
  id := plan.snapshot.runId
  projectId := plan.projectId
  targetId := plan.targetId
  environmentId := plan.environmentId
  baselineId := plan.baselineId
  automationPackageId := plan.automationPackageId
  runnerPoolId := plan.runnerPoolId
  regressionScheduleId := plan.regressionScheduleId
  scheduledFor := plan.scheduledFor
  sourceRunId := plan.sourceRunId
  retryMode := plan.retryMode
  status := .queued
  idempotencyKey := plan.idempotencyKey
  requestHash := plan.requestHash
  snapshotDigest := P.canonicalSha256 (.snapshot plan.snapshot)
  snapshot := plan.snapshot
  resultDigest := none
  resultDocument := none
  caseCount := plan.snapshot.cases.length
  timeoutSeconds := plan.timeoutSeconds
  createdBy := plan.actorId
  createdAt := plan.snapshot.createdAt
  cancelRequested := false
  dispatchState := .pending
  dispatchWaitReason := none
  dispatchedAt := none
  startedAt := none
  timeoutAt := none
  finishedAt := none
  errorMessage := none

/-- The rows of its cases. -/
def RunPlan.runCases (plan : RunPlan) : List RunCaseRecord :=
  plan.snapshot.cases.zipIdx.map fun (case, i) =>
    ⟨plan.snapshot.runId, case.caseId, case.caseCode, i + 1, .queued, none, none, none⟩

/-- The outbox record that dispatches it. -/
def RunPlan.outboxRecord (now : Instant) (outboxId : UUID) (plan : RunPlan) :
    DispatchOutboxRecord where
  id := outboxId
  aggregateId := plan.snapshot.runId
  message := .runQueued plan.snapshot plan.runnerPoolId
  dedupeKey := .runQueued plan.snapshot.runId
  status := .pending
  attempts := 0
  availableAt := now
  createdAt := now
  processedAt := none
  lastError := none

def uniquenessConflict : ServiceError :=
  .resourceConflict "Run could not be created due to a uniqueness conflict"

/-- The caller has found no run under the idempotency key, so a failed insertion is a conflict. -/
def queueSnapshotRun (P : Primitives) (now : Instant) (outboxId : UUID) (plan : RunPlan)
    (db : Database) : Except ServiceError (Database × TestRunRecord × Bool) := do
  let record := plan.run P
  ensure (runByIdempotencyKey db plan.projectId plan.idempotencyKey = none) uniquenessConflict
  let runs ← found (db.runs.insert? record) uniquenessConflict
  let (runEvents, _) := appendRunEvent db.runEvents record.id .runCreated .system "run_created"
    record.createdAt none (some .queued)
  let runCases ← found (db.runCases.insertAll? plan.runCases) uniquenessConflict
  let outbox ← found (db.outbox.insert? (plan.outboxRecord now outboxId)) uniquenessConflict
  return ({ db with
    runs := runs
    runEvents := runEvents
    runCases := runCases
    outbox := outbox }, record, true)

/-! ### Runs from a request -/

/-- The supply-chain evidence a snapshot refers to; a legacy package has none. -/
def automationPackageSupplyChainRef (db : Database) (package : AutomationPackageRecord) :
    Except ServiceError (Option AutomationPackageSupplyChainRef) :=
  if package.supplyChainStatus = .legacy then
    return none
  else do
    ensure (package.supplyChainStatus = .verified)
      (.invalidRequest ("automation package supply-chain status "
        ++ package.supplyChainStatus.text ++ " cannot be scheduled"))
    let verificationId ← found package.supplyChainVerificationId
      (.resourceConflict "verified automation package has no supply-chain evidence")
    let inconsistent :=
      ServiceError.resourceConflict "automation package supply-chain evidence is inconsistent"
    let record ← found (db.verifications.get? verificationId) inconsistent
    ensure (record.automationPackageId = package.id ∧ record.outcome = .verified ∧
      record.imageDigest = package.digest) inconsistent
    return some ⟨record.id, record.reportDigest, record.policyVersion, record.verifier,
      record.signatureBundleDigest, record.provenanceDigest, record.sbomDigest,
      record.certificateIssuer, record.certificateIdentity, record.builderId,
      record.sourceRepository, record.sourceRevision⟩

def SupplyChainStatus.executable : SupplyChainStatus → Bool
  | .legacy | .verified => true
  | .pending | .rejected => false

/-- The web configuration of a run: the environment's, with the headless flag of the request. -/
def runWebConfig (target : TestTargetRecord) (environment : EnvironmentRecord)
    (headless : Option Bool) : Except ServiceError (Option WebRunConfig) := do
  if target.targetType = .web then
    let webConfig ← found environment.configDocument.webConfig
      (.invalidRequest "WEB environment has no web_config")
    return some { webConfig with headless := headless.getD webConfig.headless }
  else
    ensure (headless = none) (.invalidRequest "headless is only valid for WEB runs")
    return environment.configDocument.webConfig

/-- Everything `createRun` checks and composes before it queues the run. The quota is checked at
    `checkedAt`; the run is stamped with the later instant `now`. -/
def planRun (P : Primitives) (checkedAt now : Instant) (runId : UUID) (payload : RunCreate)
    (idempotencyKey : String) (actorId : UUID) (allowedBaselineStatuses : List BaselineStatus)
    (allowedPackageStatuses : List PackageStatus) (regressionScheduleId : Option UUID)
    (scheduledFor : Option Instant) (db : Database) : Except ServiceError RunPlan := do
  let project ← found (db.projects.get? payload.projectId) (.resourceNotFound "project not found")
  let target ← found (db.targets.get? payload.targetId)
    (.resourceNotFound "target not found in project")
  ensure (target.projectId = project.id) (.resourceNotFound "target not found in project")
  let environment ← found (db.environments.get? payload.environmentId)
    (.resourceNotFound "environment not found for target")
  ensure (environment.projectId = project.id ∧ environment.targetId = target.id)
    (.resourceNotFound "environment not found for target")
  let baselineRecord ← found (db.baselines.get? payload.baselineId)
    (.resourceNotFound "baseline not found in project")
  ensure (baselineRecord.projectId = project.id)
    (.resourceNotFound "baseline not found in project")
  ensure (baselineRecord.status ∈ allowedBaselineStatuses)
    (.invalidRequest ("baseline status " ++ baselineRecord.status.text
      ++ " cannot be scheduled through this endpoint"))
  let package ← found (db.packages.get? payload.automationPackageId)
    (.resourceNotFound "automation package not found for target")
  ensure (package.projectId = project.id ∧ package.targetId = target.id)
    (.resourceNotFound "automation package not found for target")
  ensure (package.status ∈ allowedPackageStatuses)
    (.invalidRequest ("automation package status " ++ package.status.text
      ++ " cannot be scheduled through this endpoint"))
  ensure (package.supplyChainStatus.executable = true)
    (.invalidRequest ("automation package supply-chain status "
      ++ package.supplyChainStatus.text ++ " cannot be scheduled through this endpoint"))
  ensure (target.targetType = .web ∨ target.targetType = .app)
    (.invalidRequest "Runner dispatch supports WEB and APP targets only")
  let baseline := baselineRecord.document
  let cases ← selectCases baseline payload.caseCodes
  ensure (cases ≠ []) (.invalidRequest "Run must contain at least one enabled case")
  let webConfig ← runWebConfig target environment payload.headless
  enforceExecutionPolicy checkedAt project db
  let supplyChain ← automationPackageSupplyChainRef db package
  let snapshot : RunSnapshot :=
    { runId := runId
      projectId := project.id
      targetId := target.id
      targetType := target.targetType
      environmentId := environment.id
      caseBaseline :=
        ⟨baseline.baselineId, baseline.version, baselineRecord.digest, baseline.cases.length⟩
      automationPackage := ⟨package.name, package.version, package.digest, package.runnerType,
        package.imageRepository, supplyChain⟩
      cases := cases
      browser := target.browser
      webConfig := webConfig
      configHash := environment.configHash
      runtimeVariables := environment.configDocument.runtimeVariables
      secretBindings := environment.configDocument.secretBindings
      createdBy := actorId
      createdAt := now }
  ensure snapshot.Valid .validationError
  return {
    snapshot := snapshot
    projectId := project.id
    targetId := target.id
    environmentId := environment.id
    baselineId := baseline.baselineId
    automationPackageId := package.id
    idempotencyKey := idempotencyKey
    requestHash := P.canonicalSha256 (.runCreate payload)
    actorId := actorId
    runnerPoolId := environment.runnerPoolId <|> target.runnerPoolId
    timeoutSeconds := project.runTimeoutSeconds
    sourceRunId := none
    retryMode := none
    regressionScheduleId := regressionScheduleId
    scheduledFor := scheduledFor }

def createRun (P : Primitives) (now : Instant) (runId outboxId : UUID) (payload : RunCreate)
    (idempotencyKey : String) (actorId : UUID) (allowedBaselineStatuses : List BaselineStatus)
    (allowedPackageStatuses : List PackageStatus) (regressionScheduleId : Option UUID)
    (scheduledFor : Option Instant) (db : Database) :
    Except ServiceError (Database × TestRunRecord × Bool) := do
  let requestHash := P.canonicalSha256 (.runCreate payload)
  match ← existingIdempotentRun db payload.projectId idempotencyKey requestHash with
  | some existing => return (db, existing, false)
  | none =>
    let plan ← planRun P now now runId payload idempotencyKey actorId allowedBaselineStatuses
      allowedPackageStatuses regressionScheduleId scheduledFor db
    queueSnapshotRun P now outboxId plan db

/-- A validation run of a draft package; a repeated request finds the run of the first one. -/
def createAutomationPackageValidationRun (P : Primitives) (now : Instant)
    (runId outboxId projectId targetId packageId environmentId baselineId : UUID)
    (idempotencyKey : String) (actorId : UUID) (db : Database) :
    Except ServiceError (Database × TestRunRecord × Bool) := do
  let package ← found (db.packages.get? packageId)
    (.resourceNotFound "automation package not found for target")
  ensure (package.projectId = projectId ∧ package.targetId = targetId)
    (.resourceNotFound "automation package not found for target")
  ensure (package.status = .draft)
    (.resourceConflict "only a DRAFT automation package can start validation")
  ensure (package.supplyChainStatus = .verified) (.resourceConflict
    "automation package must pass supply-chain verification before validation")
  createRun P now runId outboxId
    ⟨projectId, targetId, environmentId, baselineId, packageId, [], none⟩
    idempotencyKey actorId [.released] [.draft] none none db

/-! ### Reruns -/

/-- The cases of a rerun: all cases of the source run, or those that failed in its result. -/
def rerunCases (source : TestRunRecord) (mode : RetryMode) :
    Except ServiceError (List CaseDefinition) :=
  match mode with
  | .full => return source.snapshot.cases
  | .failedOnly => do
    let result ← found source.resultDocument
      (.resourceConflict "failed-only rerun requires an immutable Run Result")
    let failedCaseIds := (result.caseResults.filter fun item =>
      item.status = .failed ∨ item.status = .infraError).map CaseResult.caseId
    let cases := source.snapshot.cases.filter fun case => case.caseId ∈ failedCaseIds
    ensure (cases ≠ []) (.resourceConflict "source Run has no failed cases to rerun")
    return cases

/-- Everything `createRerun` checks and composes before it queues the run. -/
def planRerun (P : Primitives) (checkedAt now : Instant) (runId : UUID) (source : TestRunRecord)
    (mode : RetryMode) (idempotencyKey : String) (actorId : UUID) (db : Database) :
    Except ServiceError RunPlan := do
  let project ← found (db.projects.get? source.projectId) (.resourceNotFound "project not found")
  ensure source.snapshot.Valid .validationError
  let missing :=
    ServiceError.resourceNotFound "source Run scheduling resources no longer exist"
  let target ← found (db.targets.get? source.targetId) missing
  let environment ← found (db.environments.get? source.environmentId) missing
  let package ← found (db.packages.get? source.automationPackageId) missing
  ensure (package.status ≠ .revoked)
    (.resourceConflict "a Run using a revoked automation package cannot be rerun")
  ensure (package.supplyChainStatus.executable = true) (.resourceConflict
    "a Run using a supply-chain rejected automation package cannot be rerun")
  let cases ← rerunCases source mode
  enforceExecutionPolicy checkedAt project db
  return {
    snapshot := { source.snapshot with
      runId := runId, cases := cases, createdBy := actorId, createdAt := now }
    projectId := source.projectId
    targetId := source.targetId
    environmentId := source.environmentId
    baselineId := source.baselineId
    automationPackageId := source.automationPackageId
    idempotencyKey := idempotencyKey
    requestHash := P.canonicalSha256 (.rerun source.id mode)
    actorId := actorId
    runnerPoolId := environment.runnerPoolId <|> target.runnerPoolId
    timeoutSeconds := project.runTimeoutSeconds
    sourceRunId := some source.id
    retryMode := some mode
    regressionScheduleId := none
    scheduledFor := none }

def createRerun (P : Primitives) (now : Instant) (runId outboxId sourceRunId : UUID)
    (mode : RetryMode) (idempotencyKey : String) (actorId : UUID) (db : Database) :
    Except ServiceError (Database × TestRunRecord × Bool) := do
  let source ← getRun db sourceRunId
  ensure (source.status.isTerminal = true)
    (.resourceConflict "only a terminal Run can be rerun")
  let requestHash := P.canonicalSha256 (.rerun sourceRunId mode)
  match ← existingIdempotentRun db source.projectId idempotencyKey requestHash with
  | some existing => return (db, existing, false)
  | none =>
    let plan ← planRerun P now now runId source mode idempotencyKey actorId db
    queueSnapshotRun P now outboxId plan db

/-! ### What creating a run writes -/

/-- A queued snapshot inserts its run and the rows of its cases, all of them queued. -/
theorem queueSnapshotRun_ok {now : Instant} {outboxId : UUID} {plan : RunPlan}
    {run : TestRunRecord} {created : Bool}
    (h : queueSnapshotRun P now outboxId plan db = .ok (db', run, created)) :
    created = true ∧ run = plan.run P ∧
      runByIdempotencyKey db plan.projectId plan.idempotencyKey = none ∧
      ∃ runs runEvents runCases outbox,
        db' = { db with
          runs := runs, runEvents := runEvents, runCases := runCases, outbox := outbox } ∧
        db.runs.insert? (plan.run P) = some runs ∧
        db.runCases.insertAll? plan.runCases = some runCases ∧
        db.outbox.insert? (plan.outboxRecord now outboxId) = some outbox ∧
        Logged plan.snapshot.runId db.runEvents runEvents := by
  simp only [queueSnapshotRun, bind_eq_ok, ensure_eq_ok, found_eq_ok, pure_eq_ok,
    Prod.mk.injEq] at h
  obtain ⟨-, hkey, runs, hruns, runCases, hcases, outbox, houtbox, rfl, rfl, rfl⟩ := h
  exact ⟨rfl, rfl, hkey, runs, _, runCases, outbox, rfl, hruns, hcases, houtbox,
    appendRunEvent_logged (by decide)⟩

theorem existingIdempotentRun_eq_ok {projectId : UUID} {key : String} {requestHash : Digest}
    {existing : Option TestRunRecord} :
    existingIdempotentRun db projectId key requestHash = .ok existing ↔
      (∀ run ∈ existing, run.requestHash = requestHash) ∧
        runByIdempotencyKey db projectId key = existing := by
  simp only [existingIdempotentRun, bind_eq_ok, ensure_eq_ok, pure_eq_ok, exists_const]
  constructor
  · rintro ⟨h, rfl⟩
    exact ⟨h, rfl⟩
  · rintro ⟨h, rfl⟩
    exact ⟨h, rfl⟩

/-- The run a repeated key answers with. -/
structure Replayed (db : Database) (projectId : UUID) (idempotencyKey : String)
    (requestHash : Digest) (run : TestRunRecord) : Prop where
  stored : run ∈ db.runs
  projectId : run.projectId = projectId
  idempotencyKey : run.idempotencyKey = idempotencyKey
  requestHash : run.requestHash = requestHash

theorem replayed_of_existing {projectId : UUID} {key : String} {requestHash : Digest}
    {run : TestRunRecord}
    (h : existingIdempotentRun db projectId key requestHash = .ok (some run)) :
    Replayed db projectId key requestHash run := by
  obtain ⟨hhash, hrun⟩ := existingIdempotentRun_eq_ok.mp h
  have hmatch := Table.first?_some hrun
  simp only [decide_eq_true_eq] at hmatch
  exact ⟨Table.mem_of_first? hrun, hmatch.1, hmatch.2, hhash run rfl⟩

theorem createRun_ok {now : Instant} {runId outboxId : UUID} {payload : RunCreate} {key : String}
    {actorId : UUID} {baselineStatuses : List BaselineStatus}
    {packageStatuses : List PackageStatus} {scheduleId : Option UUID}
    {scheduledFor : Option Instant} {run : TestRunRecord} {created : Bool}
    (h : createRun P now runId outboxId payload key actorId baselineStatuses packageStatuses
      scheduleId scheduledFor db = .ok (db', run, created)) :
    (db' = db ∧ created = false ∧
      Replayed db payload.projectId key (P.canonicalSha256 (.runCreate payload)) run) ∨
    (created = true ∧ ∃ plan, planRun P now now runId payload key actorId baselineStatuses
      packageStatuses scheduleId scheduledFor db = .ok plan ∧
      queueSnapshotRun P now outboxId plan db = .ok (db', run, true)) := by
  simp only [createRun, bind_eq_ok] at h
  obtain ⟨existing, hexisting, h⟩ := h
  cases existing with
  | some existing =>
    simp only [pure_eq_ok, Prod.mk.injEq] at h
    obtain ⟨rfl, rfl, rfl⟩ := h
    exact .inl ⟨rfl, rfl, replayed_of_existing hexisting⟩
  | none =>
    simp only [bind_eq_ok] at h
    obtain ⟨plan, hplan, h⟩ := h
    obtain ⟨rfl, -⟩ := queueSnapshotRun_ok h
    exact .inr ⟨rfl, plan, hplan, h⟩

theorem createAutomationPackageValidationRun_ok {now : Instant}
    {runId outboxId projectId targetId packageId environmentId baselineId : UUID} {key : String}
    {actorId : UUID} {run : TestRunRecord} {created : Bool}
    (h : createAutomationPackageValidationRun P now runId outboxId projectId targetId packageId
      environmentId baselineId key actorId db = .ok (db', run, created)) :
    createRun P now runId outboxId
      ⟨projectId, targetId, environmentId, baselineId, packageId, [], none⟩
      key actorId [.released] [.draft] none none db = .ok (db', run, created) := by
  simp only [createAutomationPackageValidationRun, bind_eq_ok, ensure_eq_ok] at h
  obtain ⟨-, -, -, -, -, -, -, -, h⟩ := h
  exact h

theorem createRerun_ok {now : Instant} {runId outboxId sourceRunId : UUID} {mode : RetryMode}
    {key : String} {actorId : UUID} {run : TestRunRecord} {created : Bool}
    (h : createRerun P now runId outboxId sourceRunId mode key actorId db =
      .ok (db', run, created)) :
    ∃ source, db.runs.get? sourceRunId = some source ∧ source.status.isTerminal = true ∧
      ((db' = db ∧ created = false ∧
        Replayed db source.projectId key (P.canonicalSha256 (.rerun sourceRunId mode)) run) ∨
      (created = true ∧ ∃ plan, planRerun P now now runId source mode key actorId db = .ok plan ∧
        queueSnapshotRun P now outboxId plan db = .ok (db', run, true))) := by
  simp only [createRerun, bind_eq_ok, ensure_eq_ok, getRun_eq_ok] at h
  obtain ⟨source, hsource, -, hterminal, existing, hexisting, h⟩ := h
  refine ⟨source, hsource, hterminal, ?_⟩
  cases existing with
  | some existing =>
    simp only [pure_eq_ok, Prod.mk.injEq] at h
    obtain ⟨rfl, rfl, rfl⟩ := h
    exact .inl ⟨rfl, rfl, replayed_of_existing hexisting⟩
  | none =>
    simp only [bind_eq_ok] at h
    obtain ⟨plan, hplan, h⟩ := h
    obtain ⟨rfl, -⟩ := queueSnapshotRun_ok h
    exact .inr ⟨rfl, plan, hplan, h⟩

/-! ### What a plan contains -/

/-- The selected cases are enabled cases of the baseline, in the order of the baseline. -/
theorem selectCases_sublist {baseline : CaseBaseline} {codes : List String}
    {cases : List CaseDefinition} (h : selectCases baseline codes = .ok cases) :
    cases.Sublist baseline.enabledCases := by
  simp only [selectCases, bind_eq_ok, ensure_eq_ok] at h
  obtain ⟨-, -, h⟩ := h
  split at h
  · simp only [bind_eq_ok, ensure_eq_ok, pure_eq_ok] at h
    obtain ⟨-, -, -, hdisabled, rfl⟩ := h
    -- a requested code that names a disabled case is refused, so what is left is enabled
    have henabled : ∀ case ∈ baseline.cases, case.caseCode ∈ codes → case.enabled = true := by
      intro case hcase hcode
      by_contra hoff
      have hmem : case.caseCode ∈ codes.filter fun code =>
          baseline.cases.any fun case => case.caseCode = code ∧ case.enabled = false := by
        rw [List.mem_filter, List.any_eq_true]
        exact ⟨hcode, case, hcase, by simpa using hoff⟩
      rw [hdisabled] at hmem
      exact List.not_mem_nil hmem
    rw [CaseBaseline.enabledCases]
    have hfilter : baseline.cases.filter (fun case => decide (case.caseCode ∈ codes)) =
        (baseline.cases.filter CaseDefinition.enabled).filter
          fun case => decide (case.caseCode ∈ codes) := by
      rw [List.filter_filter]
      refine List.filter_congr fun case hcase => ?_
      by_cases hcode : case.caseCode ∈ codes
      · simp [hcode, henabled case hcase hcode]
      · simp [hcode]
    rw [hfilter]
    exact List.filter_sublist
  · simp only [pure_eq_ok] at h
    exact h ▸ List.Sublist.refl _

/-- The codes of the selected cases are the requested ones, when there are any. -/
theorem selectCases_codes {baseline : CaseBaseline} {codes : List String}
    {cases : List CaseDefinition} (h : selectCases baseline codes = .ok cases)
    (hcodes : codes ≠ []) :
    codes.Nodup ∧ ∀ code, code ∈ cases.map CaseDefinition.caseCode ↔ code ∈ codes := by
  simp only [selectCases, bind_eq_ok, ensure_eq_ok, if_pos hcodes, pure_eq_ok] at h
  obtain ⟨-, hnodup, -, hunknown, -, -, rfl⟩ := h
  refine ⟨hnodup, fun code => ?_⟩
  simp only [List.mem_map, List.mem_filter, decide_eq_true_eq]
  constructor
  · rintro ⟨case, ⟨-, hcode⟩, rfl⟩
    exact hcode
  · intro hcode
    have hknown : code ∈ baseline.cases.map CaseDefinition.caseCode := by
      by_contra hnot
      have hmem : code ∈ codes.filter fun code =>
          code ∉ baseline.cases.map CaseDefinition.caseCode := by
        rw [List.mem_filter]
        exact ⟨hcode, by simpa using hnot⟩
      rw [hunknown] at hmem
      exact List.not_mem_nil hmem
    obtain ⟨case, hcase, rfl⟩ := List.mem_map.mp hknown
    exact ⟨case, ⟨hcase, hcode⟩, rfl⟩

/-- What a plan made from a request contains. -/
structure Planned (P : Primitives) (now : Instant) (runId : UUID) (payload : RunCreate)
    (key : String) (actorId : UUID) (baselineStatuses : List BaselineStatus) (db : Database)
    (plan : RunPlan) (baseline : CaseBaselineRecord) : Prop where
  project : (db.projects.get? payload.projectId).isSome
  stored : db.baselines.get? payload.baselineId = some baseline
  baselineProject : baseline.projectId = payload.projectId
  cases : selectCases baseline.document payload.caseCodes = .ok plan.snapshot.cases
  runId : plan.snapshot.runId = runId
  createdAt : plan.snapshot.createdAt = now
  valid : plan.snapshot.Valid
  projectId : plan.projectId = payload.projectId
  targetId : plan.targetId = payload.targetId
  automationPackageId : plan.automationPackageId = payload.automationPackageId
  baselineId : plan.baselineId = baseline.document.baselineId
  idempotencyKey : plan.idempotencyKey = key
  requestHash : plan.requestHash = P.canonicalSha256 (.runCreate payload)
  actorId : plan.actorId = actorId
  sourceRunId : plan.sourceRunId = none

theorem planRun_ok {checkedAt now : Instant} {runId : UUID} {payload : RunCreate} {key : String}
    {actorId : UUID} {baselineStatuses : List BaselineStatus}
    {packageStatuses : List PackageStatus} {scheduleId : Option UUID}
    {scheduledFor : Option Instant} {plan : RunPlan}
    (h : planRun P checkedAt now runId payload key actorId baselineStatuses packageStatuses
      scheduleId scheduledFor db = .ok plan) :
    ∃ baseline, Planned P now runId payload key actorId baselineStatuses db plan baseline := by
  simp only [planRun, bind_eq_ok, ensure_eq_ok, found_eq_ok, pure_eq_ok] at h
  obtain ⟨project, hproject, target, htarget, -, -, environment, -, -, -, baseline, hbaseline, -,
    hbproject, -, hstatus, package, hpackage, -, -, -, -, -, -, -, -, cases, hcases, -, -,
    webConfig, -, -, -, supplyChain, -, -, hvalid, rfl⟩ := h
  have hprojectId := Table.key_of_get? hproject
  have htargetId := Table.key_of_get? htarget
  have hpackageId := Table.key_of_get? hpackage
  exact ⟨baseline,
    { project := by rw [hproject]; rfl
      stored := hbaseline
      baselineProject := hbproject.trans hprojectId
      cases := hcases
      runId := rfl
      createdAt := rfl
      valid := hvalid
      projectId := hprojectId
      targetId := htargetId
      automationPackageId := hpackageId
      baselineId := rfl
      idempotencyKey := rfl
      requestHash := rfl
      actorId := rfl
      sourceRunId := rfl }⟩

/-- What a plan made from an earlier run contains. -/
structure Replanned (P : Primitives) (now : Instant) (runId : UUID) (source : TestRunRecord)
    (mode : RetryMode) (key : String) (actorId : UUID) (db : Database) (plan : RunPlan) :
    Prop where
  project : (db.projects.get? source.projectId).isSome
  valid : source.snapshot.Valid
  cases : rerunCases source mode = .ok plan.snapshot.cases
  snapshot : plan.snapshot = { source.snapshot with
    runId := runId, cases := plan.snapshot.cases, createdBy := actorId, createdAt := now }
  projectId : plan.projectId = source.projectId
  targetId : plan.targetId = source.targetId
  automationPackageId : plan.automationPackageId = source.automationPackageId
  baselineId : plan.baselineId = source.baselineId
  idempotencyKey : plan.idempotencyKey = key
  requestHash : plan.requestHash = P.canonicalSha256 (.rerun source.id mode)
  actorId : plan.actorId = actorId
  sourceRunId : plan.sourceRunId = some source.id
  retryMode : plan.retryMode = some mode

theorem planRerun_ok {checkedAt now : Instant} {runId : UUID} {source : TestRunRecord} {mode : RetryMode}
    {key : String} {actorId : UUID} {plan : RunPlan}
    (h : planRerun P checkedAt now runId source mode key actorId db = .ok plan) :
    Replanned P now runId source mode key actorId db plan := by
  simp only [planRerun, bind_eq_ok, ensure_eq_ok, found_eq_ok, pure_eq_ok] at h
  obtain ⟨project, hproject, -, hvalid, -, -, -, -, -, -, -, -, -, -, cases, hcases, -, -, rfl⟩ := h
  exact {
    project := by rw [hproject]; rfl
    valid := hvalid
    cases := hcases
    snapshot := rfl
    projectId := rfl
    targetId := rfl
    automationPackageId := rfl
    baselineId := rfl
    idempotencyKey := rfl
    requestHash := rfl
    actorId := rfl
    sourceRunId := rfl
    retryMode := rfl }

/-- The cases of a rerun are cases of its source run, in their order. -/
theorem rerunCases_sublist {source : TestRunRecord} {mode : RetryMode}
    {cases : List CaseDefinition} (h : rerunCases source mode = .ok cases) :
    cases.Sublist source.snapshot.cases := by
  cases mode with
  | full =>
    simp only [rerunCases, pure_eq_ok] at h
    exact h ▸ List.Sublist.refl _
  | failedOnly =>
    simp only [rerunCases, bind_eq_ok, ensure_eq_ok, found_eq_ok, pure_eq_ok] at h
    obtain ⟨-, -, -, -, rfl⟩ := h
    exact List.filter_sublist

end TestOps

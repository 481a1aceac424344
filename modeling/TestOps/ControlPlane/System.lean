import TestOps.Lib.Transition
import TestOps.ControlPlane.Reliability
import TestOps.ControlPlane.Dispatch
import TestOps.ControlPlane.RunnerPools
import TestOps.ControlPlane.Governance

/-! The control plane as a transition system. Its state is the database, together with the calls of
    `createValidationRun` that have committed their first transaction and not their second. Every
    action is one transaction; its clock, its fresh identifiers and the answers of the outside world
    are part of the action. A transaction that stops with an error leaves the state as it is. -/

namespace TestOps

open Checked Relational Transition

structure State where
  db : Database
  pendingValidations : List PendingValidation

def State.init : State := ⟨.empty, []⟩

inductive Action where
  -- configuration
  | configure (configuration : Configuration)
  | createRunnerPool (poolId : UUID) (payload : RunnerPoolCreate)
  | updateRunnerPool (poolId : UUID) (payload : RunnerPoolUpdate)
  | heartbeatRunnerWorker (now : Instant) (workerId : UUID) (workerKey : String)
      (payload : RunnerWorkerHeartbeat)
  | updateRunnerWorker (workerId : UUID) (status : ServingStatus)
  -- email
  | updateRunEmailPreference (userId : UUID) (payload : RunEmailPreferenceUpdate)
      (smtpConfigured : Bool)
  | enqueueRunEmailTest (now : Instant) (nonce : Nat → UUID) (userId : UUID)
      (smtpConfigured : Bool)
  | settleDelivery (key : DeliveryKey) (status : DeliveryStatus) (attempts : Nat)
      (availableAt : Instant) (lastError : Option String)
  -- runs
  | createRun (now : Instant) (runId outboxId : UUID) (payload : RunCreate)
      (idempotencyKey : String) (actorId : UUID) (regressionScheduleId : Option UUID)
      (scheduledFor : Option Instant)
  | createAutomationPackageValidationRun (now : Instant)
      (runId outboxId projectId targetId packageId environmentId baselineId : UUID)
      (idempotencyKey : String) (actorId : UUID)
  | createRerun (now : Instant) (runId outboxId sourceRunId : UUID) (mode : RetryMode)
      (idempotencyKey : String) (actorId : UUID)
  | dispatchOutboxBatch (ctx : DispatchContext)
  | updateRunStatus (now : Instant) (runId : UUID) (target : RunStatus)
      (workerKey : Option String)
  | recordRunEvent (runId : UUID) (payload : InternalRunEventCreate)
  | recordRunResult (now : Instant) (runId : UUID) (result : RunResult)
  | cancelRun (now : Instant) (outboxId runId : UUID)
  | cancelRuns (now : Instant) (outboxId : UUID → UUID) (projectId : UUID) (runIds : List UUID)
  | processRunReliability (moment : Instant) (batchSize heartbeatTtlSeconds
      dispatchStartTimeoutSeconds : Nat) (locks : RowLocks) (outboxId : UUID → UUID)
  -- baselines and packages
  | publishBaseline (projectId : UUID) (digest : Digest) (baseline : CaseBaseline)
  | activateAutomationPackage (now : Instant) (projectId targetId packageId validationRunId
      actorId : UUID)
  -- governance
  | createChangeRequest (requestId candidateBaselineId projectId : UUID)
      (payload : ChangeRequestCreate) (actorId : UUID)
  | updateChangeRequest (newCandidateBaselineId projectId requestId : UUID)
      (payload : ChangeRequestUpdate) (actorId : UUID) (actorIsProjectAdmin : Bool)
  | submitChangeRequest (now : Instant) (projectId requestId actorId : UUID)
  | reviewChangeRequest (now : Instant) (approvalId projectId requestId : UUID)
      (payload : ReviewDecisionRequest) (reviewerId : UUID)
  | createCandidateRun (now : Instant) (runId outboxId projectId requestId : UUID)
      (payload : CandidateRunCreate) (idempotencyKey : String) (actorId : UUID)
  | createValidationRun (now : Instant) (runId outboxId projectId requestId : UUID)
      (payload : CandidateRunCreate) (idempotencyKey : String) (actorId : UUID)
  | linkValidationRun (index : Nat)
  | publishChangeRequest (now : Instant) (projectId requestId regressionRunId : UUID)

/-- The email worker stores what became of a delivery. -/
def settleDelivery (key : DeliveryKey) (status : DeliveryStatus) (attempts : Nat)
    (availableAt : Instant) (lastError : Option String) (db : Database) : Database :=
  { db with
    emailDeliveries := db.emailDeliveries.modify key fun delivery =>
      { delivery with
        status := status
        attempts := attempts
        availableAt := availableAt
        lastError := lastError } }

/-- The transaction of an action on the database; what it returns besides is dropped. -/
def Action.commit (P : Primitives) (db : Database) : Action → Except ServiceError Database
  | .configure configuration => TestOps.configure configuration db
  | .createRunnerPool poolId payload => TestOps.createRunnerPool poolId payload db
  | .updateRunnerPool poolId payload => TestOps.updateRunnerPool poolId payload db
  | .heartbeatRunnerWorker now workerId workerKey payload =>
    TestOps.heartbeatRunnerWorker now workerId workerKey payload db
  | .updateRunnerWorker workerId status => TestOps.updateRunnerWorker workerId status db
  | .updateRunEmailPreference userId payload smtpConfigured =>
    TestOps.updateRunEmailPreference P userId payload smtpConfigured db
  | .enqueueRunEmailTest now nonce userId smtpConfigured =>
    TestOps.enqueueRunEmailTest P now nonce userId smtpConfigured db
  | .settleDelivery key status attempts availableAt lastError =>
    return TestOps.settleDelivery key status attempts availableAt lastError db
  | .createRun now runId outboxId payload idempotencyKey actorId scheduleId scheduledFor =>
    Prod.fst <$> TestOps.createRun P now runId outboxId payload idempotencyKey actorId [.released]
      [.active] scheduleId scheduledFor db
  | .createAutomationPackageValidationRun now runId outboxId projectId targetId packageId
      environmentId baselineId idempotencyKey actorId =>
    Prod.fst <$> TestOps.createAutomationPackageValidationRun P now runId outboxId projectId
      targetId packageId environmentId baselineId idempotencyKey actorId db
  | .createRerun now runId outboxId sourceRunId mode idempotencyKey actorId =>
    Prod.fst <$> TestOps.createRerun P now runId outboxId sourceRunId mode idempotencyKey actorId
      db
  | .dispatchOutboxBatch ctx => Prod.fst <$> TestOps.dispatchOutboxBatch ctx db
  | .updateRunStatus now runId target workerKey =>
    TestOps.updateRunStatus now runId target workerKey db
  | .recordRunEvent runId payload => TestOps.recordRunEvent P runId payload db
  | .recordRunResult now runId result => TestOps.recordRunResult P now runId result db
  | .cancelRun now outboxId runId => TestOps.cancelRun P now outboxId runId db
  | .cancelRuns now outboxId projectId runIds =>
    TestOps.cancelRuns P now outboxId projectId runIds db
  | .processRunReliability moment batchSize heartbeatTtlSeconds dispatchStartTimeoutSeconds locks
      outboxId =>
    Prod.fst <$> TestOps.processRunReliability moment batchSize heartbeatTtlSeconds
      dispatchStartTimeoutSeconds locks outboxId db
  | .publishBaseline projectId digest baseline =>
    TestOps.publishBaseline P projectId digest baseline db
  | .activateAutomationPackage now projectId targetId packageId validationRunId actorId =>
    TestOps.activateAutomationPackage now projectId targetId packageId validationRunId actorId db
  | .createChangeRequest requestId candidateBaselineId projectId payload actorId =>
    TestOps.createChangeRequest P requestId candidateBaselineId projectId payload actorId db
  | .updateChangeRequest newCandidateBaselineId projectId requestId payload actorId isAdmin =>
    TestOps.updateChangeRequest P newCandidateBaselineId projectId requestId payload actorId
      isAdmin db
  | .submitChangeRequest now projectId requestId actorId =>
    TestOps.submitChangeRequest now projectId requestId actorId db
  | .reviewChangeRequest now approvalId projectId requestId payload reviewerId =>
    TestOps.reviewChangeRequest now approvalId projectId requestId payload reviewerId db
  | .createCandidateRun now runId outboxId projectId requestId payload idempotencyKey actorId =>
    Prod.fst <$> TestOps.createCandidateRun P now runId outboxId projectId requestId payload
      idempotencyKey actorId db
  | .publishChangeRequest now projectId requestId regressionRunId =>
    TestOps.publishChangeRequest now projectId requestId regressionRunId db
  | .createValidationRun .. | .linkValidationRun _ => return db

def step (P : Primitives) (s : State) : Action → Except ServiceError State
  | .createValidationRun now runId outboxId projectId requestId payload idempotencyKey actorId => do
    let (db, pending) ← TestOps.createValidationRun P now runId outboxId projectId requestId
      payload idempotencyKey actorId s.db
    return ⟨db, s.pendingValidations ++ pending.toList⟩
  | .linkValidationRun index => do
    let pending ← found s.pendingValidations[index]? (.valueError "no such call")
    let db ← TestOps.linkValidationRun pending.loaded pending.runId s.db
    return ⟨db, s.pendingValidations.eraseIdx index⟩
  | action => do
    let db ← action.commit P s.db
    return { s with db := db }

/-- The runs of the control plane. -/
def controlPlane (P : Primitives) : System State Action :=
  machine (· = State.init) (step P)

/-! ### A small installation

    One project with a web target, an active and a draft package, and a released baseline of two
    enabled cases. The runs that witness or refute a property below are runs of this installation. -/

namespace Installation

def textCode (text : String) : List Nat := text.toList.map Char.toNat

/-- Digests that tell apart all run requests, and the other documents of the installation. -/
def canonicalSha256 : Document → Digest
  | .runCreate payload => 7 * Encodable.encode (payload.projectId, payload.targetId,
      payload.environmentId, payload.baselineId, payload.automationPackageId,
      payload.caseCodes.map textCode, payload.headless)
  | .rerun sourceRunId mode => 7 * Encodable.encode (sourceRunId, decide (mode = .full)) + 1
  | .snapshot snapshot => 7 * snapshot.runId + 2
  | .result result => 7 * (2 * result.runId + if result.status = .passed then 1 else 0) + 3
  | .baseline baseline => 7 * baseline.baselineId + 4
  | .runEvent event => 7 * event.at'.toNat + 5
  | .supplyChainReport packageId report =>
    7 * (2 * packageId + if report.outcome = .verified then 1 else 0) + 6

def primitives : Primitives where
  canonicalSha256 := canonicalSha256
  casefold := String.toLower
  sha256Prefix text := Encodable.encode (textCode text)
  sha256Hexdigest text := text

def case (caseId : UUID) (caseCode : String) (formed : caseCodePattern caseCode = true) :
    CaseDefinition where
  caseId := caseId
  caseCode := caseCode
  moduleKey := "login"
  moduleName := "Login"
  title := "Log in"
  testPoint := "Log in"
  priority := .p1
  preconditions := []
  steps := [⟨"open", none, .none, none⟩]
  assertion := ⟨"visible", .text "Welcome", none, none⟩
  tags := []
  enabled := true
  sourceInstructions := none
  dataType := none
  expectedResult := none
  timeoutSeconds := none
  sourceTrace := none
  notes := none
  executionGroup := none
  caseCodeFormed := formed

def caseA : CaseDefinition := case 1 "TC-A-1" (by decide)

def caseB : CaseDefinition := case 2 "TC-A-2" (by decide)

def baseline : CaseBaseline where
  baselineId := 10
  projectKey := "shop"
  version := "v1"
  source := .legacyExcel "cases.xlsx" 0 "Sheet1"
  cases := [caseA, caseB]
  casesNonempty := List.cons_ne_nil _ _
  caseIdsNodup := by decide
  caseCodesNodup := by decide

def webConfig : WebRunConfig := ⟨"https://shop.example", true, 1280, 720, 10, 30, false, true⟩

def package (id : UUID) (version : String) (status : PackageStatus) : AutomationPackageRecord where
  id := id
  projectId := 1
  targetId := 2
  name := "shop-web"
  version := version
  digest := id
  runnerType := .webPlaywright
  imageRepository := "registry/shop-web"
  status := status
  validatedRunId := none
  activatedBy := none
  activatedAt := none
  statusReason := none
  supplyChainStatus := .verified
  supplyChainVerificationId := some id

def verification (id : UUID) : AutomationPackageSupplyChainVerificationRecord where
  id := id
  automationPackageId := id
  outcome := .verified
  policyVersion := "1"
  verifier := "verifier"
  imageDigest := id
  signatureBundleDigest := 0
  provenanceDigest := 0
  sbomDigest := 0
  certificateIssuer := "issuer"
  certificateIdentity := "identity"
  builderId := "builder"
  sourceRepository := "repository"
  sourceRevision := "revision"
  reportDigest := 0

def configuration : Configuration where
  projects := ⟨[⟨1, "shop", "Shop", 10, 100, 3600, "ACTIVE"⟩], by decide⟩
  targets := ⟨[⟨2, 1, some 7, .web, some "chromium", "ACTIVE"⟩], by decide⟩
  environments := ⟨[⟨3, 1, 2, none, ⟨some webConfig, [], []⟩, 0, "ACTIVE"⟩], by decide⟩
  packages := ⟨[package 4 "1" .active, package 5 "2" .draft], by decide⟩
  verifications := ⟨[verification 4, verification 5], by decide⟩

/-- The owner of the runs below is mailed about every way a run can end. -/
def emailPreference : RunEmailPreferenceUpdate where
  emails := ["owner@shop.example"]
  selectedEmails := ["owner@shop.example"]
  enabled := true
  statuses := [.passed, .failed, .canceled, .timedOut, .infraError]
  statusesTerminal := by decide
  statusesNodup := by decide
  enabledComplete := by decide

def capabilities : RunnerCapabilities where
  targetTypes := [.web]
  browsers := ["chromium"]
  automationPackages := [⟨.webPlaywright, "registry/shop-web", 4⟩,
    ⟨.webPlaywright, "registry/shop-web", 5⟩]
  executionIsolation := some ⟨.subprocess, true, .runSecretsOnly, false, .workerDefault, false,
    none, none, none, none, none, none, none⟩

/-- Set the installation up, with a pool of one slot and its worker. -/
def setUp : List Action :=
  [.configure configuration,
    .createRunnerPool 7 ⟨"web", "Web", none, [.web], 1, by decide, by decide⟩,
    .heartbeatRunnerWorker 0 8 "worker" ⟨"web", "Worker", "1", 1, capabilities, by decide⟩,
    .updateRunEmailPreference 100 emailPreference true,
    .publishBaseline 1 (primitives.canonicalSha256 (.baseline baseline)) baseline]

/-- Queue run 20 over both cases of the baseline. -/
def queueRun : Action := .createRun 0 20 30 ⟨1, 2, 3, 10, 4, [], none⟩ "run" 100 none none

/-- One dispatch batch, whose tasks the broker takes. -/
def dispatchBatch : Action :=
  .dispatchOutboxBatch ⟨0, 10, 60, 1000000, fun _ _ => .ok (), fun id => id + 10, fun _ => false⟩

/-- A sweep long after the dispatch, when nothing is locked. -/
def sweep : Action :=
  .processRunReliability 100000000 10 60 30
    ⟨fun _ => false, fun _ => false, fun _ => false, fun _ => false⟩ fun id => id + 11

def caseResult (case : CaseDefinition) (status : CaseResultStatus) : CaseResult where
  caseId := case.caseId
  caseCode := case.caseCode
  status := status
  startedAt := 0
  finishedAt := 1
  durationMs := 1
  failureCategory := none
  errorMessage := some "failed"
  artifactIds := []
  timesOrdered := by decide
  failureExplained := by cases status <;> decide

/-- A passed result of run `runId`. -/
def passed (runId : UUID) (caseResults : List CaseResult) : RunResult where
  runId := runId
  status := .passed
  startedAt := 0
  finishedAt := 1
  runnerVersion := "1"
  caseResults := caseResults
  artifacts := []
  executionIsolation := none
  terminal := rfl
  timesOrdered := by decide

/-- Run 20 passes its first case and fails its second. -/
def failedRun : List Action :=
  [queueRun, dispatchBatch, .updateRunStatus 0 20 .preparing none,
    .updateRunStatus 0 20 .running none,
    .recordRunResult 1 20 { passed 20 [caseResult caseA .passed, caseResult caseB .failed] with
      status := .failed, terminal := rfl }]

/-- Run 23 runs the failed case again and fails again, and is itself rerun in full. -/
def rerunTwice : List Action :=
  [.createRerun 2 23 35 20 .failedOnly "again" 100, .updateRunStatus 2 23 .preparing none,
    .updateRunStatus 2 23 .running none,
    .recordRunResult 3 23 { passed 23 [caseResult caseB .failed] with
      status := .failed, terminal := rfl },
    .createRerun 4 24 36 23 .full "once more" 100]

/-- Run 21 validates the draft package; it passes, and skips the second case. -/
def validatePackage : List Action :=
  [.createAutomationPackageValidationRun 0 21 32 1 2 5 3 10 "validation" 100,
    .updateRunStatus 0 21 .preparing none, .updateRunStatus 0 21 .running none,
    .recordRunResult 1 21 (passed 21 [caseResult caseA .passed, caseResult caseB .skipped])]

def activatePackage : Action := .activateAutomationPackage 2 1 2 5 21 100

/-- Request 40 drops the second case, in baseline 41; it needs no validation. -/
def dropCaseB : Action :=
  .createChangeRequest 40 41 1 ⟨10, "v2", "Drop a case", "obsolete", [.delete 2]⟩ 100

/-- The request is approved, its candidate runs and passes, and is published. -/
def publication : List Action :=
  [dropCaseB, .submitChangeRequest 0 1 40 100,
    .reviewChangeRequest 0 50 1 40 ⟨.approve, none, nofun⟩ 101,
    .createCandidateRun 0 22 33 1 40 ⟨2, 3, 4⟩ "candidate" 100,
    .updateRunStatus 0 22 .preparing none, .updateRunStatus 0 22 .running none,
    .recordRunResult 1 22 (passed 22 [caseResult caseA .passed]),
    .publishChangeRequest 2 1 40 22]

/-- The set-up, followed by the given actions, ends in a state that satisfies `p`. -/
abbrev Leads (as : List Action) (p : State → Prop) : Prop :=
  Ends (step primitives) State.init (setUp ++ as) p

theorem Leads.exists_reachable {as : List Action} {p : State → Prop} (h : Leads as p) :
    ∃ s, (controlPlane primitives).Reachable s ∧ p s :=
  Ends.exists_reachable h (fun _ _ _ _ hstep => hstep) rfl

/-- The same in a system that takes only the steps `g` admits. -/
theorem Leads.exists_restricted {as : List Action} {p : State → Prop}
    {g : State → Action → Prop} (h : Leads as p) (hguard : ∀ a ∈ setUp ++ as, ∀ s, g s a) :
    ∃ s, ((controlPlane primitives).restrict g).Reachable s ∧ p s :=
  Ends.exists_reachable h (fun a ha s _ hstep => ⟨hguard a ha s, hstep⟩) rfl

end Installation

end TestOps

import TestOps.ControlPlane.System

/-! Creating runs while other requests are served. A session that creates a run looks its idempotency
    key up, locks the row of the project, looks the key up again, composes the run, and commits; the
    transactions of other sessions commit anywhere in between:

      begin    first lookup                       ── answered, or waiting for the lock
      plan     project lock, second lookup, plan  ── answered, or holding the lock
      commit   insertion                          ── answered, the lock is released
      abandon  the session ends without a commit

    A row that a session has loaded stays as it was for this session. -/

namespace TestOps

open Checked Relational Transition

/-! ### What a session has loaded -/

/-- Copies of the rows a session has loaded before it composes a run. -/
structure LoadedRows where
  project : Option ProjectRecord
  target : Option TestTargetRecord
  environment : Option EnvironmentRecord
  baseline : Option CaseBaselineRecord
  package : Option AutomationPackageRecord

def LoadedRows.nothing : LoadedRows := ⟨none, none, none, none, none⟩

/-- The rows a schedule loads when it validates its resources. -/
def loadResources (payload : RunCreate) (db : Database) : LoadedRows where
  project := db.projects.get? payload.projectId
  target := db.targets.get? payload.targetId
  environment := db.environments.get? payload.environmentId
  baseline := db.baselines.get? payload.baselineId
  package := db.packages.get? payload.automationPackageId

/-- The database as the session reads it. -/
def LoadedRows.view (loaded : LoadedRows) (db : Database) : Database :=
  { db with
    projects := db.projects.overlay loaded.project
    targets := db.targets.overlay loaded.target
    environments := db.environments.overlay loaded.environment
    baselines := db.baselines.overlay loaded.baseline
    packages := db.packages.overlay loaded.package }

/-! ### Sessions that create a run -/

/-- What is to be created; a rerun has loaded its source run. -/
inductive CreationRequest where
  | run (payload : RunCreate) (allowedBaselineStatuses : List BaselineStatus)
      (allowedPackageStatuses : List PackageStatus) (regressionScheduleId : Option UUID)
      (scheduledFor : Option Instant)
  | rerun (source : TestRunRecord) (mode : RetryMode)

def CreationRequest.projectId : CreationRequest → UUID
  | .run payload _ _ _ _ => payload.projectId
  | .rerun source _ => source.projectId

def CreationRequest.packageId : CreationRequest → UUID
  | .run payload _ _ _ _ => payload.automationPackageId
  | .rerun source _ => source.automationPackageId

/-- The document whose digest tells requests apart. -/
def CreationRequest.document : CreationRequest → Document
  | .run payload _ _ _ _ => .runCreate payload
  | .rerun source mode => .rerun source.id mode

/-- A session that has found no run under its key. Once it has a plan it holds the project lock. -/
structure Creation where
  request : CreationRequest
  idempotencyKey : String
  actorId : UUID
  loaded : LoadedRows
  /-- The change request that the run is to validate. -/
  validates : Option ChangeRequestRecord
  plan : Option RunPlan

def Creation.existing (P : Primitives) (creation : Creation) (db : Database) :
    Except ServiceError (Option TestRunRecord) :=
  existingIdempotentRun db creation.request.projectId creation.idempotencyKey
    (P.canonicalSha256 creation.request.document)

def Creation.compose (P : Primitives) (checkedAt now : Instant) (runId : UUID)
    (creation : Creation) (db : Database) : Except ServiceError RunPlan :=
  match creation.request with
  | .run payload baselineStatuses packageStatuses scheduleId scheduledFor =>
    planRun P checkedAt now runId payload creation.idempotencyKey creation.actorId
      baselineStatuses packageStatuses scheduleId scheduledFor db
  | .rerun source mode =>
    planRerun P checkedAt now runId source mode creation.idempotencyKey creation.actorId db

/-- The commands that create a run. -/
inductive CreationCall where
  | createRun (payload : RunCreate)
  | createAutomationPackageValidationRun
      (projectId targetId packageId environmentId baselineId : UUID)
  | createRerun (sourceRunId : UUID) (mode : RetryMode)
  | createCandidateRun (projectId requestId : UUID) (payload : CandidateRunCreate)
  | createValidationRun (projectId requestId : UUID) (payload : CandidateRunCreate)
  | schedule (scheduleId : UUID) (scheduledFor : Instant) (payload : RunCreate)

/-- What a command does before its first lookup. A validation run may need no run at all. -/
def beginCreation (call : CreationCall) (idempotencyKey : String) (actorId : UUID)
    (db : Database) : Except ServiceError (Database × Option Creation) :=
  match call with
  | .createRun payload =>
    return (db, some ⟨.run payload [.released] [.active] none none, idempotencyKey, actorId,
      .nothing, none, none⟩)
  | .createAutomationPackageValidationRun projectId targetId packageId environmentId baselineId => do
    let package ← found (db.packages.get? packageId)
      (.resourceNotFound "automation package not found for target")
    ensure (package.projectId = projectId ∧ package.targetId = targetId)
      (.resourceNotFound "automation package not found for target")
    ensure (package.status = .draft)
      (.resourceConflict "only a DRAFT automation package can start validation")
    ensure (package.supplyChainStatus = .verified) (.resourceConflict
      "automation package must pass supply-chain verification before validation")
    return (db, some ⟨.run ⟨projectId, targetId, environmentId, baselineId, packageId, [], none⟩
      [.released] [.draft] none none, idempotencyKey, actorId,
      { LoadedRows.nothing with package := some package }, none, none⟩)
  | .createRerun sourceRunId mode => do
    let source ← getRun db sourceRunId
    ensure (source.status.isTerminal = true)
      (.resourceConflict "only a terminal Run can be rerun")
    return (db, some ⟨.rerun source mode, idempotencyKey, actorId, .nothing, none, none⟩)
  | .createCandidateRun projectId requestId payload => do
    let record ← getChangeRequest db projectId requestId
    ensure (record.status = .candidate)
      (.resourceConflict "only an approved CANDIDATE can run full regression")
    return (db, some ⟨.run ⟨projectId, payload.targetId, payload.environmentId,
      record.candidateBaselineId, payload.automationPackageId, [], none⟩ [.candidate]
      [.active, .draft] none none, idempotencyKey, actorId, .nothing, none, none⟩)
  | .createValidationRun projectId requestId payload => do
    let record ← getChangeRequest db projectId requestId
    ensure (record.status.editable = true)
      (.resourceConflict "only an editable draft can run affected-case validation")
    let codes := validationCodes db requestId
    if codes = [] then
      return ({ db with
        changeRequests := db.changeRequests.modify requestId fun request =>
          { request with validationStatus := .notRequired, validationRunId := none } }, none)
    else do
      match ← currentValidation db record idempotencyKey with
      | some _ => return (db, none)
      | none =>
        return (db, some ⟨.run (validationPayload projectId payload record codes) [.draft]
          [.active, .draft] none none, idempotencyKey, actorId, .nothing, some record, none⟩)
  | .schedule scheduleId scheduledFor payload =>
    return (db, some ⟨.run payload [.released] [.active] (some scheduleId) (some scheduledFor),
      idempotencyKey, actorId, loadResources payload db, none, none⟩)

/-- Insert the planned run. When another session was first, its run answers this one. -/
def commitCreation (P : Primitives) (now : Instant) (outboxId : UUID) (creation : Creation)
    (plan : RunPlan) (db : Database) : Except ServiceError (Database × TestRunRecord × Bool) :=
  match queueSnapshotRun P now outboxId plan db with
  | .ok queued => return queued
  | .error error => do
    let raced ← creation.existing P db
    let run ← found raced error
    return (db, run, false)

/-- What a command does with the run it has got: a validation run is linked to its request. -/
def settleCreation (creation : Creation) (runId : UUID) (created : Bool) (s : State) :
    Except ServiceError State :=
  match creation.validates with
  | none => return s
  | some request =>
    if created = true then
      return { s with pendingValidations := s.pendingValidations ++ [⟨request, runId⟩] }
    else do
      let db ← linkValidationRun request runId s.db
      return { s with db := db }

/-! ### The system -/

/-- The control plane and the sessions that are creating a run. -/
structure Sessions where
  core : State
  creations : List Creation

def Sessions.init : Sessions := ⟨.init, []⟩

inductive SessionAction where
  /-- A command that creates no run. -/
  | other (action : Action)
  | begin (call : CreationCall) (idempotencyKey : String) (actorId : UUID)
  | plan (index : Nat) (checkedAt now : Instant) (runId : UUID)
  | commit (index : Nat) (now : Instant) (outboxId : UUID)
  | abandon (index : Nat)

/-- The commands that create runs; here they go through sessions. -/
def Action.creates : Action → Bool
  | .createRun .. | .createAutomationPackageValidationRun .. | .createRerun ..
  | .createCandidateRun .. | .createValidationRun .. => true
  | _ => false

def noSession : ServiceError := .valueError "no such session"

def projectLocked : ServiceError := .valueError "the project row is locked"

/-- No session holds the lock of the project row. -/
def ProjectFree (creations : List Creation) (projectId : UUID) : Prop :=
  ∀ creation ∈ creations, creation.plan.isSome = true → creation.request.projectId ≠ projectId

instance {creations : List Creation} {projectId : UUID} :
    Decidable (ProjectFree creations projectId) :=
  inferInstanceAs (Decidable (∀ creation ∈ creations, _))

def sessionStep (P : Primitives) (s : Sessions) : SessionAction → Except ServiceError Sessions
  | .other action => do
    ensure (action.creates = false) noSession
    let core ← step P s.core action
    return { s with core := core }
  | .begin call idempotencyKey actorId => do
    let (db, creation) ← beginCreation call idempotencyKey actorId s.core.db
    match creation with
    | none => return { s with core := { s.core with db := db } }
    | some creation =>
      match ← creation.existing P db with
      | some run => do
        let core ← settleCreation creation run.id false s.core
        return { s with core := core }
      | none => return { s with creations := s.creations ++ [creation] }
  | .plan index checkedAt now runId => do
    let creation ← found s.creations[index]? noSession
    ensure (creation.plan.isNone = true) noSession
    ensure (ProjectFree s.creations creation.request.projectId) projectLocked
    match ← creation.existing P s.core.db with
    | some run => do
      let core ← settleCreation creation run.id false s.core
      return ⟨core, s.creations.eraseIdx index⟩
    | none => do
      let plan ← creation.compose P checkedAt now runId (creation.loaded.view s.core.db)
      return { s with creations := s.creations.set index { creation with plan := some plan } }
  | .commit index now outboxId => do
    let creation ← found s.creations[index]? noSession
    let plan ← found creation.plan noSession
    let (db, run, created) ← commitCreation P now outboxId creation plan s.core.db
    let core ← settleCreation creation run.id created { s.core with db := db }
    return ⟨core, s.creations.eraseIdx index⟩
  | .abandon index => do
    let _ ← found s.creations[index]? noSession
    return { s with creations := s.creations.eraseIdx index }

/-- The control plane under concurrent requests for runs. -/
def sessions (P : Primitives) : System Sessions SessionAction :=
  machine (· = Sessions.init) (sessionStep P)

end TestOps

import TestOps.ControlPlane.Creations
import TestOps.ControlPlane.Packages

/-! The service: the control plane, the sessions that create runs, and the requests that change
    packages and schedules, all of them at the same time.

      a schedule row   is locked from the first read of an update, a firing or a trigger to its commit
      a package row    is locked while a deprecation looks for schedules that use it
      a project row    is locked by the run a firing or a trigger is creating

    Everything else is read without a lock: what a transaction has read may have changed when it
    commits. -/

namespace TestOps

open Checked Relational Transition

variable {P : Primitives} {lib : CronLibrary}

/-! ### Transactions on schedules -/

/-- What a transaction that holds a schedule is going to commit. -/
inductive ScheduleWork where
  | create (record : RegressionScheduleRecord)
  | update (record : RegressionScheduleRecord)
  | occurrence (occurrence : Occurrence)
  | manual (moment : Instant)

structure ScheduleTask where
  scheduleId : UUID
  work : ScheduleWork

/-- An evaluator: the moment at which it looked for due schedules, and those it has not got to yet. -/
structure Evaluation where
  moment : Instant
  scheduleIds : List UUID

structure Service where
  sessions : Sessions
  schedules : ScheduleTable
  firings : FiringTable
  envelopes : EnvelopeTable
  tasks : Table ScheduleTask.scheduleId
  deprecations : Table Deprecation.packageId
  evaluations : List Evaluation

def Service.init : Service := ⟨.init, .empty, .empty, .empty, .empty, .empty, []⟩

abbrev Service.db (s : Service) : Database := s.sessions.core.db

/-- The schedule a session creates a run for. -/
def Creation.scheduleId (creation : Creation) : Option UUID :=
  match creation.request with
  | .run _ _ _ scheduleId _ => scheduleId
  | .rerun .. => none

/-- The session of a schedule. -/
def scheduleSession (creations : List Creation) (scheduleId : UUID) : Option Nat :=
  creations.findIdx? fun creation => creation.scheduleId = some scheduleId

inductive ServiceAction where
  | session (action : SessionAction)
  | configure (projects : Table ProjectRecord.id) (targets : Table TestTargetRecord.id)
      (environments : Table EnvironmentRecord.id)
  -- packages
  | createPackage (packageId projectId targetId : UUID) (payload : AutomationPackageCreate)
      (draft : Bool) (supersedesId : Option UUID)
  | recordReport (moment : Instant) (recordId projectId targetId packageId : UUID)
      (payload : AutomationPackageSupplyChainVerificationCreate)
      (principal : SupplyChainVerifierPrincipal) (policy : SupplyChainPolicy)
  | revoke (projectId targetId packageId : UUID) (reason : String)
  | beginDeprecation (projectId targetId packageId : UUID) (reason : String)
  | commitDeprecation (packageId : UUID)
  | abandonDeprecation (packageId : UUID)
  -- schedules
  | createSchedule (now : Instant) (scheduleId projectId : UUID)
      (payload : RegressionScheduleCreate) (actorId : UUID)
  | updateSchedule (now : Instant) (projectId scheduleId : UUID)
      (payload : RegressionScheduleUpdate)
  | commitSchedule (scheduleId : UUID)
  | selectDue (moment : Instant) (limit : Nat)
  | processDue (index : Nat)
  | trigger (moment : Instant) (projectId scheduleId : UUID) (idempotencyKey : String)
      (actorId : UUID)
  | planFiring (scheduleId : UUID) (checkedAt now : Instant) (runId : UUID)
  | commitFiring (scheduleId : UUID) (now : Instant) (outboxId : UUID)
  | abandonTask (scheduleId : UUID)

def rowLocked : ServiceError := .valueError "the row is locked"

def noTask : ServiceError := .valueError "no such task"

/-- What goes through the sessions as it is: no write to the tables that the service manages, no step
    of a schedule's session, and no write to a package that is locked. -/
def Service.permits (s : Service) : SessionAction → Bool
  | .other (.configure _) => false
  | .other (.activateAutomationPackage _ _ _ packageId _ _) =>
    (s.deprecations.get? packageId).isNone
  | .other _ => true
  | .begin (.schedule ..) _ _ => false
  | .begin .. => true
  | .plan index .. | .commit index .. | .abandon index =>
    match s.sessions.creations[index]? with
    | some creation => creation.scheduleId.isNone
    | none => true

/-- Take a step of the sessions. -/
def Service.inSessions (P : Primitives) (s : Service) (action : SessionAction) :
    Except ServiceError Service := do
  let sessions ← sessionStep P s.sessions action
  return { s with sessions := sessions }

/-- Store packages and reports. -/
def Service.storePackages (P : Primitives) (s : Service)
    (packages : Table AutomationPackageRecord.id)
    (verifications : Table AutomationPackageSupplyChainVerificationRecord.id) :
    Except ServiceError Service :=
  s.inSessions P (.other (.configure
    ⟨s.db.projects, s.db.targets, s.db.environments, packages, verifications⟩))

/-! ### Firings -/

/-- The errors that block an occurrence; any other ends its transaction. -/
def ServiceError.message : ServiceError → Option String
  | .resourceNotFound message | .resourceConflict message | .invalidRequest message =>
    some (String.ofList (message.toList.take 2000))
  | _ => none

def Service.settle (s : Service) (occurrence : Occurrence) (outcome : FiringOutcome) :
    Except ServiceError Service := do
  let (schedules, firings) ← settleOccurrence occurrence outcome s.schedules s.firings
  return { s with
    schedules := schedules
    firings := firings
    tasks := s.tasks.erase occurrence.record.id }

/-- The transaction has got its run. -/
def Service.finish (s : Service) (scheduleId : UUID) (work : ScheduleWork) (runId : UUID) :
    Except ServiceError Service :=
  match work with
  | .occurrence occurrence => s.settle occurrence (.triggered runId)
  | .manual moment => do
    let (schedules, firings) ← settleManual scheduleId moment runId s.schedules s.firings
    return { s with
      schedules := schedules, firings := firings, tasks := s.tasks.erase scheduleId }
  | _ => .error noTask

/-- The transaction gets no run: an occurrence is blocked, anything else has failed. -/
def Service.fail (s : Service) (work : ScheduleWork) (error : ServiceError) :
    Except ServiceError Service :=
  match work, error.message with
  | .occurrence occurrence, some message => s.settle occurrence (.blocked message)
  | _, _ => .error error

/-- Look for the run of a schedule, and begin a session for it if there is none. -/
def Service.startRun (P : Primitives) (s : Service) (record : RegressionScheduleRecord)
    (scheduledFor : Instant) (idempotencyKey : String) (actorId : UUID) (work : ScheduleWork) :
    Except ServiceError Service := do
  let payload := runPayload record
  match ← existingIdempotentRun s.db payload.projectId idempotencyKey
      (P.canonicalSha256 (.runCreate payload)) with
  | some run => s.finish record.id work run.id
  | none => do
    let s ← s.inSessions P (.begin (.schedule record.id scheduledFor payload) idempotencyKey actorId)
    let tasks ← found (s.tasks.insert? ⟨record.id, work⟩) rowLocked
    return { s with tasks := tasks }

/-- Process an occurrence that has not fired yet. -/
def Service.processOccurrence (P : Primitives) (s : Service) (occurrence : Occurrence) :
    Except ServiceError Service :=
  if occurrence.skips = true then
    s.settle occurrence .skipped
  else
    let started := do
      occurrence.record.validate s.db
      s.startRun P occurrence.record occurrence.scheduledFor
        (scheduledIdempotencyKey occurrence.record.id occurrence.scheduledFor)
        occurrence.record.createdBy (.occurrence occurrence)
    match started with
    | .ok s => .ok s
    | .error error => s.fail (.occurrence occurrence) error

/-- Process a schedule at the moment of an evaluator. -/
def Service.processSchedule (P : Primitives) (lib : CronLibrary) (s : Service)
    (record : RegressionScheduleRecord) (moment : Instant) : Except ServiceError Service :=
  match dueOccurrence record moment with
  | none => return s
  | some scheduledFor => do
    let nextFireAt ← record.nextAfter lib moment
    match s.firings.get? (record.id, scheduledFor) with
    | some _ =>
      return { s with
        schedules := s.schedules.modify record.id fun record =>
          { record with nextFireAt := some nextFireAt } }
    | none => s.processOccurrence P ⟨record, moment, scheduledFor, nextFireAt⟩

/-- The schedules that are due at a moment, those that waited longest first. -/
def dueSchedules (schedules : ScheduleTable) (moment : Instant) (limit : Nat) : List UUID :=
  (((schedules.rows.filter fun record => (dueOccurrence record moment).isSome).insertionSort
    fun a b => a.nextFireAt.getD 0 ≤ b.nextFireAt.getD 0).take limit).map
      RegressionScheduleRecord.id

/-! ### Steps -/

/-- Store the row that a transaction holds. -/
def Service.commitWork (s : Service) (task : ScheduleTask) : Except ServiceError Service :=
  match task.work with
  | .create record => do
    let conflict :=
      ServiceError.resourceConflict "regression schedule key already exists in project"
    ensure (∀ other ∈ s.schedules.rows, other.projectId = record.projectId →
      other.key ≠ record.key) conflict
    let schedules ← found (s.schedules.insert? record) conflict
    return { s with schedules := schedules, tasks := s.tasks.erase task.scheduleId }
  | .update record =>
    return { s with
      schedules := s.schedules.modify task.scheduleId fun old => { record with id := old.id }
      tasks := s.tasks.erase task.scheduleId }
  | _ => .error noTask

/-- The session of a task, where it stands among the sessions. -/
def Service.taskSession (s : Service) (scheduleId : UUID) :
    Except ServiceError (ScheduleTask × Nat × Creation) := do
  let task ← found (s.tasks.get? scheduleId) noTask
  let index ← found (scheduleSession s.sessions.creations scheduleId) noTask
  let creation ← found s.sessions.creations[index]? noTask
  return (task, index, creation)

def Service.planFiring (P : Primitives) (s : Service) (scheduleId : UUID)
    (checkedAt now : Instant) (runId : UUID) : Except ServiceError Service := do
  let (task, index, creation) ← s.taskSession scheduleId
  ensure (creation.plan.isNone = true) noTask
  ensure (ProjectFree s.sessions.creations creation.request.projectId) projectLocked
  match creation.existing P s.db with
  | .error error => do
    let s ← s.inSessions P (.abandon index)
    s.fail task.work error
  | .ok (some run) => do
    let s ← s.inSessions P (.abandon index)
    s.finish scheduleId task.work run.id
  | .ok none =>
    match s.inSessions P (.plan index checkedAt now runId) with
    | .ok s => return s
    | .error error => do
      let s ← s.inSessions P (.abandon index)
      s.fail task.work error

/-- The run and its firing are one transaction. -/
def Service.commitFiring (P : Primitives) (s : Service) (scheduleId : UUID) (now : Instant)
    (outboxId : UUID) : Except ServiceError Service := do
  let (task, index, creation) ← s.taskSession scheduleId
  let plan ← found creation.plan noTask
  let (_, run, _) ← queueSnapshotRun P now outboxId plan s.db
  let s ← s.inSessions P (.commit index now outboxId)
  s.finish scheduleId task.work run.id

def Service.abandonTask (P : Primitives) (s : Service) (scheduleId : UUID) :
    Except ServiceError Service := do
  let _ ← found (s.tasks.get? scheduleId) noTask
  let s := { s with tasks := s.tasks.erase scheduleId }
  match scheduleSession s.sessions.creations scheduleId with
  | some index => s.inSessions P (.abandon index)
  | none => return s

def serviceStep (P : Primitives) (lib : CronLibrary) (s : Service) :
    ServiceAction → Except ServiceError Service
  | .session action => do
    ensure (s.permits action = true) rowLocked
    s.inSessions P action
  | .configure projects targets environments =>
    s.inSessions P (.other (.configure
      ⟨projects, targets, environments, s.db.packages, s.db.verifications⟩))
  | .createPackage packageId projectId targetId payload draft supersedesId => do
    let packages ←
      createAutomationPackage packageId projectId targetId payload draft supersedesId s.db
    s.storePackages P packages s.db.verifications
  | .recordReport moment recordId projectId targetId packageId payload principal policy => do
    ensure ((s.deprecations.get? packageId).isNone = true) rowLocked
    let recorded ← recordAutomationPackageSupplyChainVerification P moment recordId projectId
      targetId packageId payload principal policy s.db s.envelopes
    let s ← s.storePackages P recorded.packages recorded.verifications
    return { s with envelopes := recorded.envelopes }
  | .revoke projectId targetId packageId reason => do
    ensure ((s.deprecations.get? packageId).isNone = true) rowLocked
    let packages ← revokeAutomationPackage projectId targetId packageId reason s.db
    s.storePackages P packages s.db.verifications
  | .beginDeprecation projectId targetId packageId reason => do
    ensure ((s.deprecations.get? packageId).isNone = true) rowLocked
    match ← TestOps.beginDeprecation projectId targetId packageId reason s.db s.schedules with
    | none => return s
    | some deprecation => do
      let deprecations ← found (s.deprecations.insert? deprecation) rowLocked
      return { s with deprecations := deprecations }
  | .commitDeprecation packageId => do
    let deprecation ← found (s.deprecations.get? packageId) noTask
    let s ← s.storePackages P
      (setPackageStatus packageId .deprecated deprecation.reason s.db.packages) s.db.verifications
    return { s with deprecations := s.deprecations.erase packageId }
  | .abandonDeprecation packageId => do
    let _ ← found (s.deprecations.get? packageId) noTask
    return { s with deprecations := s.deprecations.erase packageId }
  | .createSchedule now scheduleId projectId payload actorId => do
    let record ← createRegressionSchedule lib now scheduleId projectId payload actorId s.db
    let tasks ← found (s.tasks.insert? ⟨scheduleId, .create record⟩) rowLocked
    return { s with tasks := tasks }
  | .updateSchedule now projectId scheduleId payload => do
    let record ← found (s.schedules.get? scheduleId)
      (.resourceNotFound "regression schedule not found")
    let updated ← updateRegressionSchedule lib now projectId payload record s.db
    let tasks ← found (s.tasks.insert? ⟨scheduleId, .update updated⟩) rowLocked
    return { s with tasks := tasks }
  | .commitSchedule scheduleId => do
    let task ← found (s.tasks.get? scheduleId) noTask
    s.commitWork task
  | .selectDue moment limit => do
    ensure (1 ≤ limit ∧ limit ≤ 500)
      (.valueError "schedule batch limit must be between 1 and 500")
    return { s with
      evaluations := s.evaluations ++ [⟨moment, dueSchedules s.schedules moment limit⟩] }
  | .processDue index => do
    let evaluation ← found s.evaluations[index]? noTask
    match evaluation.scheduleIds with
    | [] => return { s with evaluations := s.evaluations.eraseIdx index }
    | scheduleId :: scheduleIds => do
      ensure ((s.tasks.get? scheduleId).isNone = true) rowLocked
      let s := { s with
        evaluations := s.evaluations.set index { evaluation with scheduleIds := scheduleIds } }
      match s.schedules.get? scheduleId with
      | none => return s
      | some record =>
        match s.processSchedule P lib record evaluation.moment with
        | .ok s => return s
        -- the evaluator counts the failure and goes on
        | .error _ => return s
  | .trigger moment projectId scheduleId idempotencyKey actorId => do
    ensure ((s.tasks.get? scheduleId).isNone = true) rowLocked
    let notFound := ServiceError.resourceNotFound "regression schedule not found"
    let record ← found (s.schedules.get? scheduleId) notFound
    ensure (record.projectId = projectId) notFound
    ensure (record.status ≠ .archived)
      (.resourceConflict "an archived regression schedule cannot be triggered")
    record.validate s.db
    s.startRun P record moment (manualIdempotencyKey P scheduleId idempotencyKey) actorId
      (.manual moment)
  | .planFiring scheduleId checkedAt now runId => s.planFiring P scheduleId checkedAt now runId
  | .commitFiring scheduleId now outboxId => s.commitFiring P scheduleId now outboxId
  | .abandonTask scheduleId => s.abandonTask P scheduleId

def service (P : Primitives) (lib : CronLibrary) : System Service ServiceAction :=
  machine (· = Service.init) (serviceStep P lib)

/-! ### The small installation as a service

    Package 4 is active and was never verified, package 5 is a draft that waits for its report. -/

namespace Installation

/-- A platform that knows one time zone and plain digits. -/
def cronLibrary : CronLibrary where
  zoneInfo name := if name = "UTC" then some ⟨fun instant => (instant, false), fun wall _ => wall⟩
    else none
  decimal c := if c.isDigit then some (c.toNat - 48) else none
  isSpace c := c = ' '
  maxStrDigits := 4300

def supplyChainPolicy : SupplyChainPolicy :=
  ⟨"1", ["verifier"], ["issuer"], ["identity"], ["builder"], ["repository"]⟩

def report (packageId : UUID) (outcome : VerificationOutcome) :
    AutomationPackageSupplyChainVerificationCreate where
  outcome := outcome
  policyVersion := "1"
  verifier := "verifier"
  imageDigest := packageId
  signatureBundleDigest := 0
  provenanceDigest := 0
  sbomDigest := 0
  signatureVerified := true
  transparencyLogVerified := true
  provenanceVerified := true
  sbomVerified := true
  certificateIssuer := "issuer"
  certificateIdentity := "identity"
  builderId := "builder"
  sourceRepository := "repository"
  sourceRevision := "revision"
  reason := some "scan"
  verifiedChecks _ := ⟨rfl, rfl, rfl, rfl⟩
  rejectedReason _ := by decide

/-- Submit a report of a package, under a nonce of the one verifier. -/
def submitReport (recordId packageId : UUID) (outcome : VerificationOutcome) (nonce : String) :
    ServiceAction :=
  .recordReport 0 recordId 1 2 packageId (report packageId outcome)
    ⟨"verifier", "credential", nonce⟩ supplyChainPolicy

def registerPackage (packageId : UUID) (version : String) (draft : Bool) : ServiceAction :=
  .createPackage packageId 1 2 ⟨"shop-web", version, packageId, .webPlaywright, "registry/shop-web"⟩
    draft none

def serviceSetUp : List ServiceAction :=
  [.configure configuration.projects configuration.targets configuration.environments,
    registerPackage 4 "1" false, registerPackage 5 "2" true,
    .session (.other (.publishBaseline 1 (primitives.canonicalSha256 (.baseline baseline))
      baseline))]

end Installation

end TestOps

import TestOps.ControlPlane.Cron
import TestOps.ControlPlane.RunCreation

/-! Regression schedules. An ACTIVE schedule knows when it fires next; each occurrence it is asked
    about leaves one firing behind:

      in time, or late and FIRE_ONCE   ──▸  TRIGGERED, with its run
      late and SKIP                    ──▸  SKIPPED
      nothing can run                  ──▸  BLOCKED -/

namespace TestOps

open Checked Relational

variable {P : Primitives} {lib : CronLibrary} {db : Database}

/-! ### Rows -/

inductive ScheduleStatus where | active | paused | archived
  deriving DecidableEq

inductive MisfirePolicy where | skip | fireOnce
  deriving DecidableEq

inductive TriggerKind where | scheduled | misfire | manual
  deriving DecidableEq

inductive FiringStatus where | triggered | skipped | blocked
  deriving DecidableEq

structure RegressionScheduleRecord where
  id : UUID
  projectId : UUID
  key : String
  targetId : UUID
  environmentId : UUID
  baselineId : UUID
  automationPackageId : UUID
  caseCodes : List String
  cronExpression : String
  timezone : String
  misfirePolicy : MisfirePolicy
  misfireGraceSeconds : Nat
  status : ScheduleStatus
  nextFireAt : Option Instant
  lastScheduledFor : Option Instant
  lastTriggeredAt : Option Instant
  lastRunId : Option UUID
  lastError : Option String
  createdBy : UUID
  deriving DecidableEq

structure RegressionScheduleFiringRecord where
  scheduleId : UUID
  scheduledFor : Instant
  runId : Option UUID
  triggeredAt : Option Instant
  triggerKind : TriggerKind
  status : FiringStatus
  errorMessage : Option String
  deriving DecidableEq

/-- A schedule fires once for an instant. -/
def RegressionScheduleFiringRecord.occurrence (firing : RegressionScheduleFiringRecord) :
    UUID × Instant :=
  (firing.scheduleId, firing.scheduledFor)

abbrev ScheduleTable := Table RegressionScheduleRecord.id

abbrev FiringTable := Table RegressionScheduleFiringRecord.occurrence

/-! ### Payloads -/

structure RegressionScheduleCreate where
  key : String
  targetId : UUID
  environmentId : UUID
  baselineId : UUID
  automationPackageId : UUID
  caseCodes : List String
  cronExpression : String
  timezone : String
  misfirePolicy : MisfirePolicy
  misfireGraceSeconds : Nat
  active : Bool

/-- The fields that were sent; none of them may be null. -/
structure RegressionScheduleUpdate where
  targetId : Option UUID
  environmentId : Option UUID
  baselineId : Option UUID
  automationPackageId : Option UUID
  caseCodes : Option (List String)
  cronExpression : Option String
  timezone : Option String
  misfirePolicy : Option MisfirePolicy
  misfireGraceSeconds : Option Nat
  status : Option ScheduleStatus

/-- Some resource of the schedule was sent. -/
def RegressionScheduleUpdate.setsResources (payload : RegressionScheduleUpdate) : Bool :=
  payload.targetId.isSome || payload.environmentId.isSome || payload.baselineId.isSome ||
    payload.automationPackageId.isSome || payload.caseCodes.isSome

/-- Something that decides when the schedule fires was sent. -/
def RegressionScheduleUpdate.setsTimes (payload : RegressionScheduleUpdate) : Bool :=
  payload.cronExpression.isSome || payload.timezone.isSome || payload.status.isSome

/-! ### Validation -/

def validateResources (projectId targetId environmentId baselineId automationPackageId : UUID)
    (caseCodes : List String) (db : Database) : Except ServiceError Unit := do
  let project ← found (db.projects.get? projectId) (.resourceNotFound "project not found")
  ensure (project.status = "ACTIVE")
    (.resourceConflict "regression schedules require an ACTIVE project")
  let target ← found (db.targets.get? targetId) (.resourceNotFound "target not found in project")
  ensure (target.projectId = projectId) (.resourceNotFound "target not found in project")
  ensure (target.status = "ACTIVE")
    (.resourceConflict "regression schedules require an ACTIVE target")
  let environment ← found (db.environments.get? environmentId)
    (.resourceNotFound "environment not found for target")
  ensure (environment.projectId = projectId ∧ environment.targetId = targetId)
    (.resourceNotFound "environment not found for target")
  ensure (environment.status = "ACTIVE")
    (.resourceConflict "regression schedules require an ACTIVE environment")
  let baselineRecord ← found (db.baselines.get? baselineId)
    (.resourceNotFound "baseline not found in project")
  ensure (baselineRecord.projectId = projectId)
    (.resourceNotFound "baseline not found in project")
  ensure (baselineRecord.status = .released)
    (.resourceConflict "regression schedules require a RELEASED baseline")
  let package ← found (db.packages.get? automationPackageId)
    (.resourceNotFound "automation package not found for target")
  ensure (package.projectId = projectId ∧ package.targetId = targetId)
    (.resourceNotFound "automation package not found for target")
  ensure (package.status = .active)
    (.resourceConflict "regression schedules require an ACTIVE automation package")
  ensure (package.supplyChainStatus.executable = true) (.resourceConflict
    "regression schedules require a supply-chain admitted automation package")
  let cases ← selectCases baselineRecord.document caseCodes
  ensure (cases ≠ [])
    (.invalidRequest "regression schedule must contain at least one enabled case")

/-- The resources a schedule refers to. -/
def RegressionScheduleRecord.validate (record : RegressionScheduleRecord) (db : Database) :
    Except ServiceError Unit :=
  validateResources record.projectId record.targetId record.environmentId record.baselineId
    record.automationPackageId record.caseCodes db

/-- When a schedule fires next after an instant. -/
def RegressionScheduleRecord.nextAfter (lib : CronLibrary) (record : RegressionScheduleRecord)
    (moment : Instant) : Except ServiceError Instant := do
  let cron ← CronExpression.parse lib record.cronExpression
  cron.nextAfter lib moment record.timezone

/-! ### Writing schedules -/

/-- The row of a new schedule, before it knows when it fires. -/
def RegressionScheduleCreate.row (scheduleId projectId actorId : UUID)
    (payload : RegressionScheduleCreate) : RegressionScheduleRecord where
  id := scheduleId
  projectId := projectId
  key := payload.key
  targetId := payload.targetId
  environmentId := payload.environmentId
  baselineId := payload.baselineId
  automationPackageId := payload.automationPackageId
  caseCodes := payload.caseCodes
  cronExpression := payload.cronExpression
  timezone := payload.timezone
  misfirePolicy := payload.misfirePolicy
  misfireGraceSeconds := payload.misfireGraceSeconds
  status := if payload.active = true then .active else .paused
  nextFireAt := none
  lastScheduledFor := none
  lastTriggeredAt := none
  lastRunId := none
  lastError := none
  createdBy := actorId

/-- The row `createRegressionSchedule` is going to insert. -/
def createRegressionSchedule (lib : CronLibrary) (now : Instant) (scheduleId projectId : UUID)
    (payload : RegressionScheduleCreate) (actorId : UUID) (db : Database) :
    Except ServiceError RegressionScheduleRecord := do
  let record := payload.row scheduleId projectId actorId
  record.validate db
  if record.status = .active then do
    let nextFireAt ← record.nextAfter lib now
    return { record with nextFireAt := some nextFireAt }
  else
    return record

/-- The row with the fields that were sent. -/
def RegressionScheduleUpdate.apply (payload : RegressionScheduleUpdate)
    (record : RegressionScheduleRecord) : RegressionScheduleRecord :=
  { record with
    targetId := payload.targetId.getD record.targetId
    environmentId := payload.environmentId.getD record.environmentId
    baselineId := payload.baselineId.getD record.baselineId
    automationPackageId := payload.automationPackageId.getD record.automationPackageId
    caseCodes := payload.caseCodes.getD record.caseCodes
    cronExpression := payload.cronExpression.getD record.cronExpression
    timezone := payload.timezone.getD record.timezone
    misfirePolicy := payload.misfirePolicy.getD record.misfirePolicy
    misfireGraceSeconds := payload.misfireGraceSeconds.getD record.misfireGraceSeconds
    status := payload.status.getD record.status }

/-- When an updated schedule fires next: only an ACTIVE one does, and it keeps its time unless
    something that decides it was sent. -/
def rescheduled (lib : CronLibrary) (now : Instant) (payload : RegressionScheduleUpdate)
    (record : RegressionScheduleRecord) : Except ServiceError RegressionScheduleRecord :=
  if record.status = .active then
    if record.nextFireAt = none ∨ payload.setsTimes = true then do
      let nextFireAt ← record.nextAfter lib now
      return { record with nextFireAt := some nextFireAt }
    else
      return record
  else
    return { record with nextFireAt := none }

/-- The row `updateRegressionSchedule` is going to store; it holds the lock of the old one. -/
def updateRegressionSchedule (lib : CronLibrary) (now : Instant) (projectId : UUID)
    (payload : RegressionScheduleUpdate) (record : RegressionScheduleRecord) (db : Database) :
    Except ServiceError RegressionScheduleRecord := do
  ensure (record.projectId = projectId) (.resourceNotFound "regression schedule not found")
  ensure (record.status ≠ .archived ∨ payload.status = none ∨ payload.status = some .archived)
    (.resourceConflict "an archived regression schedule cannot be reactivated")
  if payload.setsResources = true then do
    (payload.apply record).validate db
    rescheduled lib now payload (payload.apply record)
  else
    rescheduled lib now payload (payload.apply record)

/-! ### Runs of schedules -/

def runPayload (record : RegressionScheduleRecord) : RunCreate :=
  ⟨record.projectId, record.targetId, record.environmentId, record.baselineId,
    record.automationPackageId, record.caseCodes, none⟩

/-- A number in decimal, padded with zeros. -/
def padded (width number : Nat) : String :=
  let digits := toString number
  String.ofList (List.replicate (width - digits.length) '0') ++ digits

/-- An instant as `%Y%m%dT%H%M%S%fZ` prints it. -/
def timestamp (instant : Instant) : String :=
  let day := instant / cronMicrosPerDay
  let micros := (instant % cronMicrosPerDay).toNat
  toString (yearOf day) ++ padded 2 (monthAndDay day).1 ++ padded 2 (monthAndDay day).2 ++ "T" ++
    padded 2 (micros / 3600000000) ++ padded 2 (micros / 60000000 % 60) ++
    padded 2 (micros / 1000000 % 60) ++ padded 6 (micros % 1000000) ++ "Z"

def scheduledIdempotencyKey (scheduleId : UUID) (scheduledFor : Instant) : String :=
  "schedule:" ++ toString scheduleId ++ ":" ++ timestamp scheduledFor

def manualIdempotencyKey (P : Primitives) (scheduleId : UUID) (idempotencyKey : String) : String :=
  "schedule:manual:" ++ toString scheduleId ++ ":" ++ P.sha256Hexdigest idempotencyKey

/-! ### Occurrences -/

/-- An automatic occurrence that is being processed; `record` is the locked row. -/
structure Occurrence where
  record : RegressionScheduleRecord
  moment : Instant
  scheduledFor : Instant
  nextFireAt : Instant

/-- The occurrence a schedule is due for. -/
def dueOccurrence (record : RegressionScheduleRecord) (moment : Instant) : Option Instant :=
  if record.status = .active then record.nextFireAt.filter (· ≤ moment) else none

def Occurrence.missed (occurrence : Occurrence) : Bool :=
  (occurrence.record.misfireGraceSeconds : Int) * 1000000 <
    occurrence.moment - occurrence.scheduledFor

/-- A late occurrence of a schedule that does not make up for it. -/
def Occurrence.skips (occurrence : Occurrence) : Bool :=
  occurrence.missed && occurrence.record.misfirePolicy = .skip

/-- How an occurrence ends. -/
inductive FiringOutcome where
  | skipped
  | blocked (message : String)
  | triggered (runId : UUID)

def FiringOutcome.status : FiringOutcome → FiringStatus
  | .skipped => .skipped
  | .blocked _ => .blocked
  | .triggered _ => .triggered

def FiringOutcome.runId : FiringOutcome → Option UUID
  | .triggered runId => some runId
  | _ => none

def FiringOutcome.errorMessage : FiringOutcome → Option String
  | .blocked message => some message
  | _ => none

def Occurrence.firing (occurrence : Occurrence) (outcome : FiringOutcome) :
    RegressionScheduleFiringRecord where
  scheduleId := occurrence.record.id
  scheduledFor := occurrence.scheduledFor
  runId := outcome.runId
  triggeredAt := some occurrence.moment
  triggerKind := if occurrence.missed = true then .misfire else .scheduled
  status := outcome.status
  errorMessage := outcome.errorMessage

/-- What the occurrence writes to its schedule. -/
def Occurrence.settled (occurrence : Occurrence) (outcome : FiringOutcome)
    (record : RegressionScheduleRecord) : RegressionScheduleRecord :=
  let record := { record with
    nextFireAt := some occurrence.nextFireAt
    lastScheduledFor := some occurrence.scheduledFor }
  match outcome with
  | .skipped => { record with lastError := some "MISFIRE_SKIPPED" }
  | .blocked message =>
    { record with lastTriggeredAt := some occurrence.moment, lastError := some message }
  | .triggered runId =>
    { record with
      lastTriggeredAt := some occurrence.moment, lastRunId := some runId, lastError := none }

/-- Store the firing of an occurrence. -/
def settleOccurrence (occurrence : Occurrence) (outcome : FiringOutcome)
    (schedules : ScheduleTable) (firings : FiringTable) :
    Except ServiceError (ScheduleTable × FiringTable) := do
  let firings ← found (firings.insert? (occurrence.firing outcome)) (.integrityError true)
  return (schedules.modify occurrence.record.id (occurrence.settled outcome) (.of (by
    intro record
    cases outcome <;> rfl)), firings)

/-! ### Manual triggers -/

/-- The firing of a manual trigger. -/
def manualFiring (scheduleId : UUID) (moment : Instant) (runId : UUID) :
    RegressionScheduleFiringRecord where
  scheduleId := scheduleId
  scheduledFor := moment
  runId := some runId
  triggeredAt := some moment
  triggerKind := .manual
  status := .triggered
  errorMessage := none

/-- The firing that a run of a schedule has, and the firings with it. -/
def ensureFiring (scheduleId : UUID) (moment : Instant) (runId : UUID) (firings : FiringTable) :
    Except ServiceError (RegressionScheduleFiringRecord × FiringTable) :=
  match firings.first? fun firing => firing.scheduleId = scheduleId ∧ firing.runId = some runId with
  | some firing => return (firing, firings)
  | none => do
    let firing := manualFiring scheduleId moment runId
    let firings ← found (firings.insert? firing) (.integrityError true)
    return (firing, firings)

/-- Store a manual trigger that has got its run. -/
def settleManual (scheduleId : UUID) (moment : Instant) (runId : UUID) (schedules : ScheduleTable)
    (firings : FiringTable) : Except ServiceError (ScheduleTable × FiringTable) := do
  let (firing, firings) ← ensureFiring scheduleId moment runId firings
  return (schedules.modify scheduleId fun record =>
    { record with
      lastScheduledFor := some firing.scheduledFor
      lastTriggeredAt := firing.triggeredAt
      lastRunId := some runId
      lastError := none }, firings)

/-! ### What the commands write -/

/-- A schedule is written with an active package. -/
theorem validate_ok {record : RegressionScheduleRecord} {u : Unit}
    (h : record.validate db = .ok u) :
    ∃ package, db.packages.get? record.automationPackageId = some package ∧
      package.status = .active := by
  simp only [RegressionScheduleRecord.validate, validateResources, bind_eq_ok, ensure_eq_ok,
    found_eq_ok] at h
  obtain ⟨project, -, -, -, target, -, -, -, -, -, environment, -, -, -, -, -, baseline, -, -, -, -,
    -, package, hpackage, -, -, -, hactive, -⟩ := h
  exact ⟨package, hpackage, hactive⟩

/-- When a row that is about to be written fires next: it is active and has a time, or neither. -/
inductive FiresNext (lib : CronLibrary) (now : Instant) (record : RegressionScheduleRecord) :
    Option Instant → Prop
  | active (nextFireAt : Instant) : record.status = .active →
      record.nextFireAt = some nextFireAt ∨ record.nextAfter lib now = .ok nextFireAt →
      FiresNext lib now record (some nextFireAt)
  | inactive : record.status ≠ .active → FiresNext lib now record none

theorem rescheduled_ok {now : Instant} {payload : RegressionScheduleUpdate}
    {record updated : RegressionScheduleRecord}
    (h : rescheduled lib now payload record = .ok updated) :
    ∃ nextFireAt, updated = { record with nextFireAt := nextFireAt } ∧
      FiresNext lib now record nextFireAt := by
  rw [rescheduled] at h
  split at h
  · rename_i hactive
    split at h
    · simp only [bind_eq_ok, pure_eq_ok] at h
      obtain ⟨nextFireAt, hnext, rfl⟩ := h
      exact ⟨some nextFireAt, rfl, .active nextFireAt hactive (.inr hnext)⟩
    · rename_i hkept
      simp only [pure_eq_ok] at h
      obtain ⟨nextFireAt, hstored⟩ := Option.ne_none_iff_exists'.mp fun hnone => hkept (.inl hnone)
      refine ⟨some nextFireAt, ?_, .active nextFireAt hactive (.inl hstored)⟩
      rw [← h, ← hstored]
  · rename_i hinactive
    simp only [pure_eq_ok] at h
    exact ⟨none, h.symm, .inactive hinactive⟩

theorem updateRegressionSchedule_ok {now : Instant} {projectId : UUID}
    {payload : RegressionScheduleUpdate} {record updated : RegressionScheduleRecord}
    (h : updateRegressionSchedule lib now projectId payload record db = .ok updated) :
    ∃ nextFireAt, updated = { payload.apply record with nextFireAt := nextFireAt } ∧
      FiresNext lib now (payload.apply record) nextFireAt ∧
      (payload.setsResources = true → ∃ package,
        db.packages.get? updated.automationPackageId = some package ∧
        package.status = .active) := by
  simp only [updateRegressionSchedule, bind_eq_ok, ensure_eq_ok] at h
  obtain ⟨-, -, -, -, h⟩ := h
  split at h
  · simp only [bind_eq_ok] at h
    obtain ⟨_, hvalid, h⟩ := h
    obtain ⟨nextFireAt, rfl, hnext⟩ := rescheduled_ok h
    exact ⟨nextFireAt, rfl, hnext, fun _ => validate_ok hvalid⟩
  · rename_i hsets
    obtain ⟨nextFireAt, rfl, hnext⟩ := rescheduled_ok h
    exact ⟨nextFireAt, rfl, hnext, fun hset => absurd hset hsets⟩

theorem createRegressionSchedule_ok {now : Instant} {scheduleId projectId : UUID}
    {payload : RegressionScheduleCreate} {actorId : UUID} {record : RegressionScheduleRecord}
    (h : createRegressionSchedule lib now scheduleId projectId payload actorId db = .ok record) :
    ∃ nextFireAt,
      record = { payload.row scheduleId projectId actorId with nextFireAt := nextFireAt } ∧
      FiresNext lib now (payload.row scheduleId projectId actorId) nextFireAt ∧
      ∃ package, db.packages.get? record.automationPackageId = some package ∧
        package.status = .active := by
  simp only [createRegressionSchedule, bind_eq_ok] at h
  obtain ⟨_, hvalid, h⟩ := h
  have hpackage := validate_ok hvalid
  split at h
  · rename_i hactive
    simp only [bind_eq_ok, pure_eq_ok] at h
    obtain ⟨nextFireAt, hnext, rfl⟩ := h
    exact ⟨some nextFireAt, rfl, .active nextFireAt hactive (.inr hnext), hpackage⟩
  · rename_i hinactive
    simp only [pure_eq_ok] at h
    subst h
    exact ⟨none, rfl, .inactive hinactive, hpackage⟩

end TestOps

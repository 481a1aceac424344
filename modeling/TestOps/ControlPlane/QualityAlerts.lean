import TestOps.ControlPlane.Persistence
import TestOps.Lib.Checked

/-! Quality alerts. Every evaluation compares the signal of a metric with what was announced last:

      none      ──triggered──▸    WARNING ◂──deescalated── CRITICAL
      none      ──triggered──▸    CRITICAL
      WARNING   ──escalated──▸    CRITICAL
      any alert ──recovered──▸    none

    A silence holds an announcement back and leaves the state as it was, so that the next evaluation
    finds the same announcement due. -/

namespace TestOps

open Checked Relational

/-! ### Signals -/

inductive QualityAlertMetric where | runPassRate | casePassRate | executionReliability
  deriving DecidableEq

inductive ActiveAlertStatus where | warning | critical
  deriving DecidableEq

inductive AlertStatus where
  | noData
  | stable
  | active (severity : ActiveAlertStatus)
  deriving DecidableEq

/-- `QUALITY_ALERT_RANK` -/
def AlertStatus.rank : AlertStatus → Nat
  | .noData => 0
  | .stable => 1
  | .active .warning => 2
  | .active .critical => 3

def ActiveAlertStatus.rank (status : ActiveAlertStatus) : Nat := (AlertStatus.active status).rank

structure QualityChangeSignal where
  metric : QualityAlertMetric
  currentPercent : Option ℚ
  previousPercent : Option ℚ
  deltaPercentagePoints : Option ℚ
  alertStatus : AlertStatus
  deriving DecidableEq

/-- How many runs and cases of a window have ended. -/
structure QualityWindowCounts where
  terminalRuns : Nat
  terminalCases : Nat
  deriving DecidableEq

structure QualityWindowComparison where
  previousWindowStartedAt : Instant
  previousWindowEndedAt : Instant
  warningDropPercentagePoints : Nat
  criticalDropPercentagePoints : Nat
  signals : List QualityChangeSignal
  deriving DecidableEq

structure QualityComparisonSnapshot where
  windowStartedAt : Instant
  windowEndedAt : Instant
  comparison : QualityWindowComparison
  latestCompletedAt : Option Instant
  current : QualityWindowCounts
  previous : QualityWindowCounts
  deriving DecidableEq

/-- The document whose digest is the fingerprint of a signal. -/
structure SignalDocument where
  projectId : UUID
  signal : QualityChangeSignal
  latestCompletedAt : Option Instant
  current : QualityWindowCounts
  previous : QualityWindowCounts
  deriving DecidableEq

/-! ### Rows -/

inductive QualityEventType where | triggered | escalated | deescalated | recovered | test
  deriving DecidableEq

inductive QualityDeliveryStatus where | pending | delivered | failed
  deriving DecidableEq

/-- What makes a delivery unique: the announcement, the test or the delivery it repeats. -/
inductive QualityDeliveryKey where
  | alert (projectId : UUID) (metric : QualityAlertMetric) (notificationSequence : Nat)
      (fingerprint : Digest)
  | test (deliveryId : UUID)
  | replay (sourceId : UUID)
  deriving DecidableEq

structure AlertDetails where
  signal : QualityChangeSignal
  previousStatus : AlertStatus
  reason : String
  windowStartedAt : Instant
  windowEndedAt : Instant
  comparison : QualityWindowComparison
  latestCompletedAt : Option Instant
  deriving DecidableEq

structure QualityWebhookPayload where
  eventId : UUID
  eventType : QualityEventType
  occurredAt : Instant
  project : UUID × String × String
  /-- What is alerted about; nothing in a test. -/
  alert : Option AlertDetails
  deriving DecidableEq

structure QualityWebhookConfigRecord where
  id : UUID
  projectId : UUID
  enabled : Bool
  endpointUrl : String
  minimumAlertStatus : ActiveAlertStatus
  cooldownSeconds : Nat
  lastEvaluatedAt : Option Instant
  nextEvaluationAt : Option Instant
  silencedUntil : Option Instant
  silencedBy : Option UUID
  silenceReason : Option String
  createdAt : Instant
  deriving DecidableEq

structure QualityWebhookDeliveryRecord where
  id : UUID
  projectId : UUID
  webhookConfigId : UUID
  eventType : QualityEventType
  dedupeKey : QualityDeliveryKey
  payload : QualityWebhookPayload
  status : QualityDeliveryStatus
  attempts : Nat
  availableAt : Instant
  responseStatus : Option Nat
  lastError : Option String
  replayOfId : Option UUID
  replayedBy : Option UUID
  replayReason : Option String
  createdAt : Instant
  deliveredAt : Option Instant
  deriving DecidableEq

structure QualityAlertStateRecord where
  id : UUID
  projectId : UUID
  metric : QualityAlertMetric
  currentStatus : AlertStatus
  activeNotificationStatus : Option ActiveAlertStatus
  currentPercent : Option ℚ
  previousPercent : Option ℚ
  deltaPercentagePoints : Option ℚ
  signalFingerprint : Digest
  notificationSequence : Nat
  lastEvaluatedAt : Instant
  lastTransitionAt : Instant
  lastNotifiedAt : Option Instant
  cooldownUntil : Option Instant
  lastDeliveryId : Option UUID
  acknowledgedAt : Option Instant
  acknowledgedBy : Option UUID
  acknowledgementNote : Option String
  deriving DecidableEq

/-- A project has one state for each metric. -/
def QualityAlertStateRecord.subject (state : QualityAlertStateRecord) :
    UUID × QualityAlertMetric :=
  (state.projectId, state.metric)

structure QualityDatabase where
  projects : Table ProjectRecord.id
  configs : Table QualityWebhookConfigRecord.projectId
  deliveries : Table QualityWebhookDeliveryRecord.id
  alertStates : Table QualityAlertStateRecord.subject

/-- Add a delivery; no two share their deduplication key or repeat the same one. -/
def insertDelivery (delivery : QualityWebhookDeliveryRecord) (db : QualityDatabase) :
    Except ServiceError QualityDatabase := do
  ensure (∀ other ∈ db.deliveries.rows, other.dedupeKey ≠ delivery.dedupeKey ∧
    (delivery.replayOfId = none ∨ other.replayOfId ≠ delivery.replayOfId)) (.integrityError false)
  let deliveries ← found (db.deliveries.insert? delivery) (.integrityError false)
  return { db with deliveries := deliveries }

/-! ### Deciding -/

structure QualityAlertDecision where
  eventType : Option QualityEventType
  activeNotificationStatus : Option ActiveAlertStatus
  reason : String
  deriving DecidableEq

def decideQualityAlertEvent (currentStatus : AlertStatus)
    (activeNotificationStatus : Option ActiveAlertStatus) (minimumAlertStatus : ActiveAlertStatus)
    (cooldownUntil : Option Instant) (now : Instant) : QualityAlertDecision :=
  match currentStatus, activeNotificationStatus with
  | .noData, active => ⟨none, active, "insufficient_data"⟩
  | .stable, some _ => ⟨some .recovered, none, "signal_recovered"⟩
  | .active severity, some active =>
    if active.rank < severity.rank then
      ⟨some .escalated, some severity, "severity_increased"⟩
    else if severity.rank < active.rank then
      ⟨some .deescalated, if minimumAlertStatus.rank ≤ severity.rank then some severity else none,
        "severity_decreased"⟩
    else
      ⟨none, some active, "active_state_unchanged"⟩
  -- every minimum ranks above STABLE
  | .stable, none => ⟨none, none, "below_minimum_severity"⟩
  | .active severity, none =>
    if severity.rank < minimumAlertStatus.rank then
      ⟨none, none, "below_minimum_severity"⟩
    else if ∃ cooldown ∈ cooldownUntil, now < cooldown then
      ⟨none, none, "cooldown_active"⟩
    else
      ⟨some .triggered, some severity, "qualifying_signal"⟩

/-! ### Evaluating -/

/-- The rows that an evaluation of a signal may add. -/
structure SignalIds where
  state : UUID
  delivery : UUID

/-- Everything an evaluation of a project starts from. -/
structure ProjectEvaluation where
  config : QualityWebhookConfigRecord
  project : ProjectRecord
  snapshot : QualityComparisonSnapshot
  newIds : QualityAlertMetric → SignalIds
  moment : Instant

def ProjectEvaluation.subject (evaluation : ProjectEvaluation) (signal : QualityChangeSignal) :
    UUID × QualityAlertMetric :=
  (evaluation.project.id, signal.metric)

def QualityWebhookConfigRecord.isSilenced (config : QualityWebhookConfigRecord)
    (moment : Instant) : Prop :=
  ∃ until_ ∈ config.silencedUntil, moment < until_

instance {config : QualityWebhookConfigRecord} {moment : Instant} :
    Decidable (config.isSilenced moment) :=
  inferInstanceAs (Decidable (∃ until_ ∈ config.silencedUntil, moment < until_))

section

variable (sha256 : SignalDocument → Digest) (evaluation : ProjectEvaluation)
  (signal : QualityChangeSignal)

def signalFingerprint : Digest :=
  sha256 ⟨evaluation.project.id, signal, evaluation.snapshot.latestCompletedAt,
    evaluation.snapshot.current, evaluation.snapshot.previous⟩

/-- The state of a metric that has not been evaluated before. -/
def newAlertState : QualityAlertStateRecord where
  id := (evaluation.newIds signal.metric).state
  projectId := evaluation.project.id
  metric := signal.metric
  currentStatus := signal.alertStatus
  activeNotificationStatus := none
  currentPercent := signal.currentPercent
  previousPercent := signal.previousPercent
  deltaPercentagePoints := signal.deltaPercentagePoints
  signalFingerprint := TestOps.signalFingerprint sha256 evaluation signal
  notificationSequence := 0
  lastEvaluatedAt := evaluation.moment
  lastTransitionAt := evaluation.moment
  lastNotifiedAt := none
  cooldownUntil := none
  lastDeliveryId := none
  acknowledgedAt := none
  acknowledgedBy := none
  acknowledgementNote := none

/-- Forget that somebody has acknowledged the alert. -/
def QualityAlertStateRecord.unacknowledged (state : QualityAlertStateRecord) :
    QualityAlertStateRecord :=
  { state with acknowledgedAt := none, acknowledgedBy := none, acknowledgementNote := none }

/-- The state with a further signal. -/
def QualityAlertStateRecord.observe (state : QualityAlertStateRecord) : QualityAlertStateRecord :=
  let observed := { state with
    currentStatus := signal.alertStatus
    currentPercent := signal.currentPercent
    previousPercent := signal.previousPercent
    deltaPercentagePoints := signal.deltaPercentagePoints
    signalFingerprint := TestOps.signalFingerprint sha256 evaluation signal
    lastEvaluatedAt := evaluation.moment }
  if state.currentStatus ≠ signal.alertStatus then
    { observed.unacknowledged with lastTransitionAt := evaluation.moment }
  else observed

/-- The state after its announcement. -/
def QualityAlertStateRecord.announce (decision : QualityAlertDecision)
    (state : QualityAlertStateRecord) : QualityAlertStateRecord :=
  { state.unacknowledged with
    notificationSequence := state.notificationSequence + 1
    activeNotificationStatus := decision.activeNotificationStatus
    lastNotifiedAt := some evaluation.moment
    lastDeliveryId := some (evaluation.newIds signal.metric).delivery
    cooldownUntil :=
      if decision.activeNotificationStatus.isSome then
        some (evaluation.moment + evaluation.config.cooldownSeconds * 1000000)
      else state.cooldownUntil }

def deliveryPayload (eventType : QualityEventType) (previousStatus : AlertStatus)
    (decision : QualityAlertDecision) : QualityWebhookPayload where
  eventId := (evaluation.newIds signal.metric).delivery
  eventType := eventType
  occurredAt := evaluation.moment
  project := (evaluation.project.id, evaluation.project.key, evaluation.project.name)
  alert := some {
    signal := signal
    previousStatus := previousStatus
    reason := decision.reason
    windowStartedAt := evaluation.snapshot.windowStartedAt
    windowEndedAt := evaluation.snapshot.windowEndedAt
    comparison := evaluation.snapshot.comparison
    latestCompletedAt := evaluation.snapshot.latestCompletedAt }

/-- The delivery that announces what was decided about a state. -/
def alertDelivery (eventType : QualityEventType) (previousStatus : AlertStatus)
    (decision : QualityAlertDecision) (notificationSequence : Nat) :
    QualityWebhookDeliveryRecord where
  id := (evaluation.newIds signal.metric).delivery
  projectId := evaluation.project.id
  webhookConfigId := evaluation.config.id
  eventType := eventType
  dedupeKey := .alert evaluation.project.id signal.metric notificationSequence
    (signalFingerprint sha256 evaluation signal)
  payload := deliveryPayload evaluation signal eventType previousStatus decision
  status := .pending
  attempts := 0
  availableAt := evaluation.moment
  responseStatus := none
  lastError := none
  replayOfId := none
  replayedBy := none
  replayReason := none
  createdAt := evaluation.moment
  deliveredAt := none

/-- The status that was current so far. -/
def previousStatus (db : QualityDatabase) : AlertStatus :=
  match db.alertStates.get? (evaluation.subject signal) with
  | some state => state.currentStatus
  | none => .noData

/-- Store the signal in the state of its metric. -/
def observeSignal (db : QualityDatabase) :
    Except ServiceError (QualityAlertStateRecord × QualityDatabase) :=
  match db.alertStates.get? (evaluation.subject signal) with
  | some state =>
    return (state.observe sha256 evaluation signal, { db with
      alertStates := db.alertStates.modify (evaluation.subject signal)
        (fun state => state.observe sha256 evaluation signal)
        (.of (by intro state; simp only [QualityAlertStateRecord.observe]; split <;> rfl)) })
  | none => do
    let state := newAlertState sha256 evaluation signal
    let alertStates ← found (db.alertStates.insert? state) (.integrityError false)
    return (state, { db with alertStates := alertStates })

def evaluateSignal (db : QualityDatabase) : Except ServiceError QualityDatabase := do
  let previous := previousStatus evaluation signal db
  let (state, db) ← observeSignal sha256 evaluation signal db
  let decision := decideQualityAlertEvent signal.alertStatus state.activeNotificationStatus
    evaluation.config.minimumAlertStatus state.cooldownUntil evaluation.moment
  match decision.eventType with
  | none => return db
  | some eventType =>
    if evaluation.config.isSilenced evaluation.moment then
      return db
    else do
      let db ← insertDelivery (alertDelivery sha256 evaluation signal eventType previous decision
        (state.notificationSequence + 1)) db
      return { db with
        alertStates := db.alertStates.modify (evaluation.subject signal)
          (QualityAlertStateRecord.announce evaluation signal decision) }

end

def evaluateProject (sha256 : SignalDocument → Digest) (evaluation : ProjectEvaluation)
    (db : QualityDatabase) : Except ServiceError QualityDatabase :=
  evaluation.snapshot.comparison.signals.foldlM
    (fun db signal => evaluateSignal sha256 evaluation signal db) db

/-- Whether a configuration is to be evaluated before another one. -/
def QualityWebhookConfigRecord.dueBefore (config other : QualityWebhookConfigRecord) : Prop :=
  let due := config.nextEvaluationAt.getD config.createdAt
  let otherDue := other.nextEvaluationAt.getD other.createdAt
  due < otherDue ∨ (due = otherDue ∧ config.projectId ≤ other.projectId)

instance : DecidableRel QualityWebhookConfigRecord.dueBefore :=
  fun _ _ => inferInstanceAs (Decidable (_ < _ ∨ (_ = _ ∧ _)))

def dueConfigs (moment : Instant) (batchSize : Nat) (db : QualityDatabase) :
    List QualityWebhookConfigRecord :=
  ((db.configs.rows.filter fun config => config.enabled = true ∧
      ∀ next ∈ config.nextEvaluationAt, next ≤ moment).insertionSort
    QualityWebhookConfigRecord.dueBefore).take batchSize

/-- The configuration after its evaluation; it is due again at the end of a silence. -/
def QualityWebhookConfigRecord.evaluated (moment : Instant) (evaluationIntervalSeconds : Nat)
    (config : QualityWebhookConfigRecord) : QualityWebhookConfigRecord :=
  let next := moment + evaluationIntervalSeconds * 1000000
  { config with
    lastEvaluatedAt := some moment
    nextEvaluationAt :=
      match config.silencedUntil with
      | some until_ => if moment < until_ ∧ until_ < next then some until_ else some next
      | none => some next }

/-- A batch reads the comparison of each project and adds rows under new ids. -/
structure EvaluationBatch where
  moment : Instant
  batchSize : Nat
  evaluationIntervalSeconds : Nat
  snapshots : UUID → QualityComparisonSnapshot
  newIds : UUID → QualityAlertMetric → SignalIds

def EvaluationBatch.evaluation (batch : EvaluationBatch) (config : QualityWebhookConfigRecord)
    (project : ProjectRecord) : ProjectEvaluation :=
  ⟨config, project, batch.snapshots project.id, batch.newIds project.id, batch.moment⟩

/-- One round of the batch. -/
def EvaluationBatch.evaluate (sha256 : SignalDocument → Digest) (batch : EvaluationBatch)
    (db : QualityDatabase) (config : QualityWebhookConfigRecord) :
    Except ServiceError QualityDatabase :=
  match db.projects.get? config.projectId with
  | none => return db
  | some project => do
    let db ← evaluateProject sha256 (batch.evaluation config project) db
    return { db with
      configs := db.configs.modify config.projectId fun config =>
        config.evaluated batch.moment batch.evaluationIntervalSeconds }

def evaluateQualityAlertBatch (sha256 : SignalDocument → Digest) (batch : EvaluationBatch)
    (db : QualityDatabase) : Except ServiceError QualityDatabase := do
  ensure (1 ≤ batch.batchSize ∧ batch.batchSize ≤ 500)
    (.valueError "quality alert batch size must be between 1 and 500")
  ensure (5 ≤ batch.evaluationIntervalSeconds ∧ batch.evaluationIntervalSeconds ≤ 3600)
    (.valueError "quality alert evaluation interval must be between 5 and 3600 seconds")
  (dueConfigs batch.moment batch.batchSize db).foldlM (batch.evaluate sha256) db

end TestOps

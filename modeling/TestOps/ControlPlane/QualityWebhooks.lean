import TestOps.ControlPlane.QualityAlerts
import TestOps.Lib.Transition

/-! Quality webhooks: the configuration of a project, its silence, the acknowledgement of its alerts,
    and the delivery of what was announced.

      PENDING ──▸ DELIVERED
         │  ▴
         │  └── a retry
         ▾
      FAILED  ──▸  a replay: a new PENDING delivery of the same payload

    Each action is one transaction, which locks the rows it reads until it commits. -/

namespace TestOps

open Checked Relational Transition

/-! ### Configuration -/

structure QualityWebhookConfigUpdate where
  enabled : Option Bool
  endpointUrl : Option String
  minimumAlertStatus : Option ActiveAlertStatus
  cooldownSeconds : Option Nat

def requireProject (projectId : UUID) (db : QualityDatabase) :
    Except ServiceError ProjectRecord :=
  found (db.projects.get? projectId) (.resourceNotFound "project not found")

/-- The configuration that an update starts from, and whether it is a new one. -/
def configToUpdate (now : Instant) (newConfigId projectId : UUID)
    (payload : QualityWebhookConfigUpdate) (db : QualityDatabase) :
    Except ServiceError QualityDatabase :=
  match db.configs.get? projectId with
  | some _ => return db
  | none => do
    let endpointUrl ← found payload.endpointUrl
      (.invalidRequest "endpoint_url is required when configuring a quality webhook")
    ensure (∀ other ∈ db.configs.rows, other.id ≠ newConfigId) (.integrityError true)
    let configs ← found (db.configs.insert? ⟨newConfigId, projectId, false, endpointUrl, .warning,
      3600, none, none, none, none, none, now⟩) (.integrityError true)
    return { db with configs := configs }

/-- The enabled flag and the minimum that were in force so far. -/
def activation (projectId : UUID) (db : QualityDatabase) : Bool × ActiveAlertStatus :=
  match db.configs.get? projectId with
  | some config => (config.enabled, config.minimumAlertStatus)
  | none => (false, .warning)

def QualityWebhookConfigRecord.update (payload : QualityWebhookConfigUpdate) (now : Instant)
    (config : QualityWebhookConfigRecord) : QualityWebhookConfigRecord :=
  let enabled := payload.enabled.getD config.enabled
  let minimumAlertStatus := payload.minimumAlertStatus.getD config.minimumAlertStatus
  { config with
    endpointUrl := payload.endpointUrl.getD config.endpointUrl
    enabled := enabled
    minimumAlertStatus := minimumAlertStatus
    cooldownSeconds := payload.cooldownSeconds.getD config.cooldownSeconds
    nextEvaluationAt :=
      if enabled = true then
        if (enabled, minimumAlertStatus) ≠ (config.enabled, config.minimumAlertStatus) ∨
            config.nextEvaluationAt = none then
          some now
        else config.nextEvaluationAt
      else none }

/-- The state of a metric whose episode is dropped. -/
def QualityAlertStateRecord.reset (state : QualityAlertStateRecord) : QualityAlertStateRecord :=
  { state.unacknowledged with activeNotificationStatus := none, cooldownUntil := none }

def updateQualityWebhookConfig (now : Instant) (newConfigId projectId : UUID)
    (payload : QualityWebhookConfigUpdate) (db : QualityDatabase) :
    Except ServiceError QualityDatabase := do
  let _ ← requireProject projectId db
  let before := activation projectId db
  let db ← configToUpdate now newConfigId projectId payload db
  let db := { db with
    configs := db.configs.modify projectId (QualityWebhookConfigRecord.update payload now) }
  if activation projectId db ≠ before then
    return { db with
      alertStates := db.alertStates.modifyWhere (fun state => state.projectId = projectId)
        QualityAlertStateRecord.reset }
  else return db

/-! ### Silence -/

structure QualityAlertSilenceUpdate where
  silencedUntil : Instant
  reason : String

/-- `MAX_QUALITY_ALERT_SILENCE`: thirty days -/
def maxQualityAlertSilence : Int := 30 * 86400 * 1000000

def setQualityAlertSilence (now : Instant) (actorId projectId : UUID)
    (payload : QualityAlertSilenceUpdate) (db : QualityDatabase) :
    Except ServiceError QualityDatabase := do
  let _ ← requireProject projectId db
  let message := "quality webhook must be configured and enabled before silencing"
  let config ← found (db.configs.get? projectId) (.resourceConflict message)
  ensure (config.enabled = true) (.resourceConflict message)
  ensure (now < payload.silencedUntil)
    (.invalidRequest "quality alert silence must end in the future")
  ensure (payload.silencedUntil ≤ now + maxQualityAlertSilence)
    (.invalidRequest "quality alert silence cannot exceed 30 days")
  return { db with
    configs := db.configs.modify projectId fun config => { config with
      silencedUntil := some payload.silencedUntil
      silencedBy := some actorId
      silenceReason := some payload.reason
      nextEvaluationAt := some now } }

def clearQualityAlertSilence (now : Instant) (projectId : UUID) (db : QualityDatabase) :
    Except ServiceError QualityDatabase := do
  let _ ← requireProject projectId db
  let config ← found (db.configs.get? projectId)
    (.resourceConflict "quality webhook is not configured")
  if config.silencedUntil = none then
    return db
  else
    return { db with
      configs := db.configs.modify projectId fun config => { config with
        silencedUntil := none
        silencedBy := none
        silenceReason := none
        nextEvaluationAt := if config.enabled = true then some now else none } }

/-! ### Acknowledgement -/

def acknowledgeQualityAlert (now : Instant) (actorId projectId : UUID)
    (metric : QualityAlertMetric) (note : String) (db : QualityDatabase) :
    Except ServiceError QualityDatabase := do
  let _ ← requireProject projectId db
  let state ← found (db.alertStates.get? (projectId, metric))
    (.resourceNotFound "quality alert state not found")
  ensure (state.currentStatus = .active .warning ∨ state.currentStatus = .active .critical)
    (.resourceConflict "only an active quality alert can be acknowledged")
  return { db with
    alertStates := db.alertStates.modify (projectId, metric) fun state => { state with
      acknowledgedAt := some now
      acknowledgedBy := some actorId
      acknowledgementNote := some note } }

def clearQualityAlertAcknowledgement (projectId : UUID) (metric : QualityAlertMetric)
    (db : QualityDatabase) : Except ServiceError QualityDatabase := do
  let _ ← requireProject projectId db
  let state ← found (db.alertStates.get? (projectId, metric))
    (.resourceNotFound "quality alert state not found")
  if state.acknowledgedAt = none then
    return db
  else
    return { db with
      alertStates := db.alertStates.modify (projectId, metric)
        QualityAlertStateRecord.unacknowledged }

/-! ### Tests and replays -/

/-- The configuration of a project that may send. -/
def enabledConfig (projectId : UUID) (message : String) (db : QualityDatabase) :
    Except ServiceError QualityWebhookConfigRecord := do
  let config ← found (db.configs.get? projectId) (.resourceConflict message)
  ensure (config.enabled = true) (.resourceConflict message)
  return config

def enqueueQualityWebhookTest (now : Instant) (newDeliveryId projectId : UUID)
    (db : QualityDatabase) : Except ServiceError QualityDatabase := do
  let project ← requireProject projectId db
  let config ← enabledConfig projectId
    "quality webhook must be configured and enabled before testing" db
  insertDelivery {
    id := newDeliveryId
    projectId := projectId
    webhookConfigId := config.id
    eventType := .test
    dedupeKey := .test newDeliveryId
    payload := ⟨newDeliveryId, .test, now, (project.id, project.key, project.name), none⟩
    status := .pending
    attempts := 0
    availableAt := now
    responseStatus := none
    lastError := none
    replayOfId := none
    replayedBy := none
    replayReason := none
    createdAt := now
    deliveredAt := none } db

def replayFailedQualityWebhookDelivery (now : Instant) (newDeliveryId actorId projectId : UUID)
    (deliveryId : UUID) (reason : String) (db : QualityDatabase) :
    Except ServiceError QualityDatabase := do
  let _ ← requireProject projectId db
  let source ← found (db.deliveries.get? deliveryId)
    (.resourceNotFound "quality webhook delivery not found")
  ensure (source.projectId = projectId) (.resourceNotFound "quality webhook delivery not found")
  ensure (source.status = .failed)
    (.resourceConflict "only a failed quality webhook delivery can be replayed")
  ensure (∀ other ∈ db.deliveries.rows, other.replayOfId ≠ some source.id)
    (.resourceConflict "quality webhook delivery has already been replayed")
  let config ← enabledConfig projectId
    "quality webhook must be configured and enabled before replaying" db
  insertDelivery {
    id := newDeliveryId
    projectId := projectId
    webhookConfigId := config.id
    eventType := source.eventType
    dedupeKey := .replay source.id
    payload := source.payload
    status := .pending
    attempts := 0
    availableAt := now
    responseStatus := none
    lastError := none
    replayOfId := some source.id
    replayedBy := some actorId
    replayReason := some reason
    createdAt := now
    deliveredAt := none } db

/-! ### Dispatching -/

/-- What comes of sending a delivery. -/
inductive SenderOutcome where
  | response (status : Nat)
  | permanentError (message : String)
  | deliveryError (message : String)
  | unexpected (exceptionName : String)
  /-- The process is told to stop while it sends. -/
  | interrupted
  deriving DecidableEq

def isRetryableStatus (statusCode : Nat) : Bool :=
  statusCode = 408 ∨ statusCode = 425 ∨ statusCode = 429 ∨ 500 ≤ statusCode

def retryAt (moment : Instant) (attempts : Nat) : Instant :=
  moment + min 300 (2 ^ min attempts 8) * 1000000

def errorText (message : String) : String := String.ofList (message.toList.take 500)

def QualityWebhookDeliveryRecord.fail (lastError : String)
    (delivery : QualityWebhookDeliveryRecord) : QualityWebhookDeliveryRecord :=
  { delivery with status := .failed, lastError := some lastError }

/-- Try again later, or give up after the last attempt. -/
def QualityWebhookDeliveryRecord.retry (maxAttempts : Nat) (moment : Instant) (lastError : String)
    (delivery : QualityWebhookDeliveryRecord) : QualityWebhookDeliveryRecord :=
  if maxAttempts ≤ delivery.attempts then
    delivery.fail lastError
  else
    { delivery with lastError := some lastError, availableAt := retryAt moment delivery.attempts }

/-- The row of a delivery whose attempt has been counted, after its sending; `none` when the
    exception is not one the dispatcher handles. -/
def QualityWebhookDeliveryRecord.settle (maxAttempts : Nat) (moment : Instant)
    (delivery : QualityWebhookDeliveryRecord) :
    SenderOutcome → Option QualityWebhookDeliveryRecord
  | .permanentError message => some (delivery.fail (errorText message))
  | .deliveryError message => some (delivery.retry maxAttempts moment (errorText message))
  | .unexpected exceptionName => some
      (delivery.retry maxAttempts moment s!"Unexpected Webhook sender error ({exceptionName})")
  | .response status =>
    let answered := { delivery with responseStatus := some status }
    let lastError := s!"Webhook endpoint returned HTTP {status}"
    some (if 200 ≤ status ∧ status < 300 then
        { answered with status := .delivered, deliveredAt := some moment, lastError := none }
      else if isRetryableStatus status = true then
        answered.retry maxAttempts moment lastError
      else answered.fail lastError)
  | .interrupted => none

/-- One dispatch, with what comes of sending each delivery. -/
structure DispatchBatch where
  limit : Nat
  maxAttempts : Nat
  moment : Instant
  outcomes : UUID → SenderOutcome

def selectedDeliveries (batch : DispatchBatch) (db : QualityDatabase) :
    List QualityWebhookDeliveryRecord :=
  ((db.deliveries.rows.filter fun delivery =>
      delivery.status = .pending ∧ delivery.availableAt ≤ batch.moment).insertionSort
    fun delivery other => delivery.createdAt ≤ other.createdAt).take batch.limit

/-- The configuration a delivery is sent with. -/
def sendingConfig (delivery : QualityWebhookDeliveryRecord) (db : QualityDatabase) :
    Option QualityWebhookConfigRecord :=
  (db.configs.first? fun config => config.id = delivery.webhookConfigId).filter
    QualityWebhookConfigRecord.enabled

/-- One attempt at a delivery. -/
def attempt (batch : DispatchBatch) (db : QualityDatabase)
    (delivery : QualityWebhookDeliveryRecord) : Option QualityWebhookDeliveryRecord :=
  let counted := { delivery with attempts := delivery.attempts + 1 }
  match sendingConfig delivery db with
  | none => some (counted.fail "Webhook configuration is missing or disabled")
  | some _ => counted.settle batch.maxAttempts batch.moment (batch.outcomes delivery.id)

/-- `response_status_range` -/
def QualityWebhookDeliveryRecord.isStorable (delivery : QualityWebhookDeliveryRecord) : Bool :=
  decide (∀ status ∈ delivery.responseStatus, 100 ≤ status ∧ status ≤ 599)

/-- Attempt a delivery and write its row. -/
def dispatchDelivery (batch : DispatchBatch) (db : QualityDatabase)
    (delivery : QualityWebhookDeliveryRecord) : Except ServiceError QualityDatabase := do
  let settled ← found (attempt batch db delivery) (.valueError "interrupted")
  ensure (settled.isStorable = true) (.integrityError true)
  return { db with
    deliveries := db.deliveries.modify delivery.id fun stored => { settled with id := stored.id } }

def dispatchQualityWebhookBatch (batch : DispatchBatch) (db : QualityDatabase) :
    Except ServiceError QualityDatabase := do
  ensure (1 ≤ batch.limit ∧ batch.limit ≤ 500)
    (.valueError "Webhook dispatch limit must be between 1 and 500")
  ensure (1 ≤ batch.maxAttempts ∧ batch.maxAttempts ≤ 20)
    (.valueError "Webhook maximum attempts must be between 1 and 20")
  (selectedDeliveries batch db).foldlM (dispatchDelivery batch) db

/-! ### The system -/

inductive QualityAction where
  | updateConfig (now : Instant) (newConfigId projectId : UUID)
      (payload : QualityWebhookConfigUpdate)
  | setSilence (now : Instant) (actorId projectId : UUID) (payload : QualityAlertSilenceUpdate)
  | clearSilence (now : Instant) (projectId : UUID)
  | acknowledge (now : Instant) (actorId projectId : UUID) (metric : QualityAlertMetric)
      (note : String)
  | clearAcknowledgement (projectId : UUID) (metric : QualityAlertMetric)
  | test (now : Instant) (newDeliveryId projectId : UUID)
  | replay (now : Instant) (newDeliveryId actorId projectId deliveryId : UUID) (reason : String)
  | evaluate (batch : EvaluationBatch)
  | dispatch (batch : DispatchBatch)

def qualityStep (sha256 : SignalDocument → Digest) (db : QualityDatabase) :
    QualityAction → Except ServiceError QualityDatabase
  | .updateConfig now newConfigId projectId payload =>
    updateQualityWebhookConfig now newConfigId projectId payload db
  | .setSilence now actorId projectId payload =>
    setQualityAlertSilence now actorId projectId payload db
  | .clearSilence now projectId => clearQualityAlertSilence now projectId db
  | .acknowledge now actorId projectId metric note =>
    acknowledgeQualityAlert now actorId projectId metric note db
  | .clearAcknowledgement projectId metric =>
    clearQualityAlertAcknowledgement projectId metric db
  | .test now newDeliveryId projectId => enqueueQualityWebhookTest now newDeliveryId projectId db
  | .replay now newDeliveryId actorId projectId deliveryId reason =>
    replayFailedQualityWebhookDelivery now newDeliveryId actorId projectId deliveryId reason db
  | .evaluate batch => evaluateQualityAlertBatch sha256 batch db
  | .dispatch batch => dispatchQualityWebhookBatch batch db

/-- No webhook has been configured yet. -/
def QualityDatabase.IsInitial (db : QualityDatabase) : Prop :=
  db.configs = .empty ∧ db.deliveries = .empty ∧ db.alertStates = .empty

/-- Quality alerts and their webhooks. -/
def quality (sha256 : SignalDocument → Digest) : System QualityDatabase QualityAction :=
  machine QualityDatabase.IsInitial (qualityStep sha256)

end TestOps

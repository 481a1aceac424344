import TestOps.ControlPlane.RunEvents

/-! Email notifications about finished runs. A user keeps a preference: whether notifications are
    enabled, which of the configured addresses are selected, and which statuses are of interest.
    A run that ends inside a command enqueues one delivery per selected recipient, in the same
    transaction; the dedupe key of a delivery is unique over the whole table. -/

namespace TestOps

open Checked Relational

variable {P : Primitives} {db db' : Database}

/-- Split at the last `@`, as `rpartition` does. -/
def rpartitionAt (text : List Char) : List Char × List Char :=
  let reversed := text.reverse
  match reversed.dropWhile (· ≠ '@') with
  | [] => ([], text)
  | _ :: local' => (local'.reverse, (reversed.takeWhile (· ≠ '@')).reverse)

def maskedEmail (email : String) : String :=
  let (local', domain) := rpartitionAt email.toList
  let visible := if local' = [] then ['*'] else local'.take 1
  String.ofList (visible ++ ['*', '*', '*', '@'] ++ domain)

def preferenceEmails : Option RunEmailPreferenceRecord → List String
  | none => []
  | some preference =>
    if preference.emails ≠ [] then preference.emails else preference.email.toList

/-- The selected addresses that are still configured. -/
def selectedPreferenceEmails (P : Primitives) : Option RunEmailPreferenceRecord → List String
  | none => []
  | some preference =>
    let configuredKeys := (preferenceEmails (some preference)).map P.casefold
    preference.selectedEmails.filter fun item => P.casefold item ∈ configuredKeys

/-! ### Preferences -/

def updateRunEmailPreference (P : Primitives) (userId : UUID) (payload : RunEmailPreferenceUpdate)
    (smtpConfigured : Bool) (db : Database) : Except ServiceError Database := do
  ensure (payload.enabled → smtpConfigured)
    (.resourceConflict "SMTP email delivery is not configured")
  let previous := db.emailPreferences.get? userId
  let preference : RunEmailPreferenceRecord := ⟨userId, payload.emails.head?, payload.emails,
    payload.selectedEmails, payload.enabled, payload.statuses⟩
  let emailPreferences := (db.emailPreferences.insert? preference).getD
    (db.emailPreferences.modify userId fun record =>
      { record with
        email := payload.emails.head?
        emails := payload.emails
        selectedEmails := payload.selectedEmails
        enabled := payload.enabled
        statuses := payload.statuses })
  let changed := payload.enabled = false ∨ preferenceEmails previous ≠ payload.emails ∨
    selectedPreferenceEmails P previous ≠ payload.selectedEmails
  return { db with
    emailPreferences := emailPreferences
    emailDeliveries :=
      if changed then
        db.emailDeliveries.modifyWhere
          (fun delivery => delivery.userId = userId ∧ delivery.status = .pending)
          fun delivery => { delivery with
            status := .canceled
            lastError := some "Notification preference changed before delivery" }
      else db.emailDeliveries }

/-- Queue a test notification; `nonce` draws the fresh identifier in each dedupe key. -/
def enqueueRunEmailTest (P : Primitives) (now : Instant) (nonce : Nat → UUID) (userId : UUID)
    (smtpConfigured : Bool) (db : Database) : Except ServiceError Database := do
  ensure (smtpConfigured = true) (.resourceConflict "SMTP email delivery is not configured")
  let recipients := selectedPreferenceEmails P (db.emailPreferences.get? userId)
  ensure (recipients ≠ []) (.resourceConflict
    "select at least one configured email before sending a test notification")
  let deliveries := recipients.zipIdx.map fun (recipient, i) =>
    ({ userId := userId, projectId := none, runId := none, dedupeKey := .runEmailTest (nonce i),
       recipientEmail := recipient, destinationDisplay := maskedEmail recipient,
       payload := .test now, status := .pending, attempts := 0, availableAt := now,
       lastError := none } : RunEmailDeliveryRecord)
  let emailDeliveries ← found (db.emailDeliveries.insertAll? deliveries) (.integrityError true)
  return { db with emailDeliveries := emailDeliveries }

/-! ### Run results -/

/-- How many case results carry each status, by the text of the status. -/
def statusCounts (run : TestRunRecord) : List (CaseResultStatus × Nat) :=
  let statuses := (run.resultDocument.map RunResult.caseResults |>.getD []).map CaseResult.status
  ([.failed, .infraError, .passed, .skipped].map fun status =>
    (status, statuses.count status)).filter fun entry => entry.2 ≠ 0

def runResultEmail (project : ProjectRecord) (run : TestRunRecord) : RunResultEmail where
  projectId := project.id
  projectKey := project.key
  projectName := project.name
  runId := run.id
  status := run.status
  caseCount := run.caseCount
  statusCounts := statusCounts run
  durationMs := run.startedAt.bind fun startedAt =>
    run.finishedAt.map fun finishedAt => ((finishedAt - startedAt).tdiv 1000).toNat
  finishedAt := run.finishedAt
  baselineVersion := run.snapshot.caseBaseline.version
  packageVersion := run.snapshot.automationPackage.version

def resultDeliveryKey (P : Primitives) (run : TestRunRecord) (recipient : String) : DeliveryKey :=
  .runResult run.id run.createdBy (P.sha256Prefix (P.casefold recipient))

def resultDelivery (P : Primitives) (now : Instant) (project : ProjectRecord)
    (run : TestRunRecord) (recipient : String) : RunEmailDeliveryRecord where
  userId := run.createdBy
  projectId := some run.projectId
  runId := some run.id
  dedupeKey := resultDeliveryKey P run recipient
  recipientEmail := recipient
  destinationDisplay := maskedEmail recipient
  payload := .runResult (runResultEmail project run)
  status := .pending
  attempts := 0
  availableAt := now
  lastError := none

/-- The recipients a run that ended has to be announced to. -/
def subscribers (P : Primitives) (db : Database) (run : TestRunRecord) : List String :=
  match db.emailPreferences.get? run.createdBy with
  | none => []
  | some preference =>
    if preference.enabled ∧ run.status ∈ preference.statuses then
      selectedPreferenceEmails P (some preference)
    else []

/-- The deliveries of a run that ended: one per selected recipient of a subscribed creator. -/
def runResultDeliveries (P : Primitives) (now : Instant) (db : Database) (run : TestRunRecord) :
    List RunEmailDeliveryRecord :=
  match db.projects.get? run.projectId with
  | none => []
  | some project => (subscribers P db run).map (resultDelivery P now project run)

def enqueueRunResultEmail (P : Primitives) (now : Instant) (db : Database) (run : TestRunRecord)
    (error : ServiceError) : Except ServiceError DeliveryTable :=
  found (db.emailDeliveries.insertAll? (runResultDeliveries P now db run)) error

@[simp] theorem enqueueRunResultEmail_eq_ok {now : Instant} {run : TestRunRecord}
    {error : ServiceError} {deliveries : DeliveryTable} :
    enqueueRunResultEmail P now db run error = .ok deliveries ↔
      db.emailDeliveries.insertAll? (runResultDeliveries P now db run) = some deliveries :=
  found_eq_ok

/-- A preference update leaves every delivery in place and rewrites pending ones only. -/
theorem updateRunEmailPreference_ok {userId : UUID} {payload : RunEmailPreferenceUpdate}
    {smtpConfigured : Bool}
    (h : updateRunEmailPreference P userId payload smtpConfigured db = .ok db') :
    ∃ emailPreferences emailDeliveries,
      db' = { db with emailPreferences := emailPreferences, emailDeliveries := emailDeliveries } ∧
      (emailDeliveries = db.emailDeliveries ∨
        emailDeliveries = db.emailDeliveries.modifyWhere
          (fun delivery => delivery.userId = userId ∧ delivery.status = .pending)
          fun delivery => { delivery with
            status := .canceled
            lastError := some "Notification preference changed before delivery" }) := by
  simp only [updateRunEmailPreference, bind_eq_ok, ensure_eq_ok, pure_eq_ok] at h
  obtain ⟨-, -, rfl⟩ := h
  refine ⟨_, _, rfl, ?_⟩
  split
  · exact .inr rfl
  · exact .inl rfl

theorem enqueueRunEmailTest_ok {now : Instant} {nonce : Nat → UUID} {userId : UUID}
    {smtpConfigured : Bool}
    (h : enqueueRunEmailTest P now nonce userId smtpConfigured db = .ok db') :
    ∃ deliveries emailDeliveries, db' = { db with emailDeliveries := emailDeliveries } ∧
      db.emailDeliveries.insertAll? deliveries = some emailDeliveries ∧
      ∀ delivery ∈ deliveries, delivery.runId = none := by
  simp only [enqueueRunEmailTest, bind_eq_ok, ensure_eq_ok, found_eq_ok, pure_eq_ok] at h
  obtain ⟨-, -, -, -, emailDeliveries, hinsert, rfl⟩ := h
  refine ⟨_, emailDeliveries, rfl, hinsert, fun delivery hd => ?_⟩
  obtain ⟨pair, -, rfl⟩ := List.mem_map.mp hd
  rfl

end TestOps

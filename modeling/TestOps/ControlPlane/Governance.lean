import TestOps.ControlPlane.Baselines

/-! Governed case changes. A change request carries a candidate baseline from its draft to its
    release:

      DRAFT ──submit──▸ IN_REVIEW ──approve──▸ CANDIDATE ──publish──▸ PUBLISHED
        ▴                   │
        └──edit── CHANGES_REQUESTED ◂── request changes

    Editing replaces the candidate by a fresh one. Validation runs execute the affected cases of a
    draft; `createValidationRun` commits the run in a first transaction and links it to the request
    in a second one. -/

namespace TestOps

open Checked Relational

variable {P : Primitives} {db db' : Database}

/-! ### Lookups -/

def releasedBase (db : Database) (projectId baselineId : UUID) :
    Except ServiceError CaseBaselineRecord := do
  let missing := ServiceError.resourceNotFound "released base baseline not found in project"
  let record ← found (db.baselines.get? baselineId) missing
  ensure (record.projectId = projectId ∧ record.status = .released) missing
  return record

def versionTaken : ServiceError :=
  .resourceConflict "candidate baseline version already exists in this project"

def ensureCandidateVersionAvailable (db : Database) (projectId : UUID) (candidateVersion : String)
    (excludeRequestId excludeBaselineId : Option UUID) : Except ServiceError Unit := do
  ensure (∀ row ∈ db.baselines.rows, row.projectId = projectId →
    row.version = candidateVersion → some row.baselineId = excludeBaselineId) versionTaken
  ensure (∀ row ∈ db.changeRequests.rows, row.projectId = projectId →
    row.candidateVersion = candidateVersion → some row.id = excludeRequestId) versionTaken

def getChangeRequest (db : Database) (projectId requestId : UUID) :
    Except ServiceError ChangeRequestRecord := do
  let missing := ServiceError.resourceNotFound "Change Request not found in project"
  let record ← found (db.changeRequests.get? requestId) missing
  ensure (record.projectId = projectId) missing
  return record

@[simp] theorem getChangeRequest_eq_ok {projectId requestId : UUID}
    {record : ChangeRequestRecord} :
    getChangeRequest db projectId requestId = .ok record ↔
      db.changeRequests.get? requestId = some record ∧ record.projectId = projectId := by
  simp only [getChangeRequest, bind_eq_ok, found_eq_ok, ensure_eq_ok, pure_eq_ok]
  constructor
  · rintro ⟨_, h, _, hp, rfl⟩
    exact ⟨h, hp⟩
  · rintro ⟨h, hp⟩
    exact ⟨record, h, (), hp, rfl⟩

def changeRequestItems (db : Database) (requestId : UUID) : List ChangeItemRecord :=
  (db.changeItems.filter fun item => item.changeRequestId = requestId).insertionSort
    fun a b => a.sequence ≤ b.sequence

def ChangeRequestStatus.editable : ChangeRequestStatus → Bool
  | .draft | .changesRequested => true
  | .inReview | .candidate | .published => false

/-- The validation status of a fresh candidate. -/
def initialValidation (items : List ChangeItemRecord) : ValidationStatus :=
  if items.any ChangeItemRecord.requiresValidation then .pendingExecution else .notRequired

/-! ### Drafting -/

def newChangeRequest (P : Primitives) (requestId projectId : UUID) (payload : ChangeRequestCreate)
    (actorId baseBaselineId : UUID) (candidate : CaseBaseline) (items : List ChangeItemRecord) :
    ChangeRequestRecord where
  id := requestId
  projectId := projectId
  baseBaselineId := baseBaselineId
  candidateBaselineId := candidate.baselineId
  candidateVersion := candidate.version
  candidateDigest := P.canonicalSha256 (.baseline candidate)
  candidateDocument := candidate
  title := payload.title
  reason := payload.reason
  status := .draft
  validationStatus := initialValidation items
  createdBy := actorId
  submittedAt := none
  reviewedAt := none
  publishedAt := none
  publishedBaselineId := none
  validationRunId := none

def createChangeRequest (P : Primitives) (requestId candidateBaselineId projectId : UUID)
    (payload : ChangeRequestCreate) (actorId : UUID) (db : Database) :
    Except ServiceError Database := do
  ensure (db.projects.get? projectId).isSome (.resourceNotFound "project not found")
  let base ← releasedBase db projectId payload.baseBaselineId
  ensureCandidateVersionAvailable db projectId payload.candidateVersion none none
  let (candidate, items) ← composeCandidate P base.document candidateBaselineId
    payload.candidateVersion requestId payload.changes
  let taken := ServiceError.resourceConflict "candidate baseline version already exists"
  let record := newChangeRequest P requestId projectId payload actorId base.baselineId candidate
    items
  let changeRequests ← found (db.changeRequests.insert? record) taken
  let baselines ← insertBaseline
    (baselineRecord projectId record.candidateDigest .draft candidate) db.baselines taken
  return { db with
    changeRequests := changeRequests
    changeItems := db.changeItems ++ items
    baselines := baselines }

/-- The first eight hexadecimal digits of an identifier. -/
def hexPrefix (id : UUID) : String :=
  let digits := Nat.toDigits 16 (id / 2 ^ 96)
  String.ofList (List.replicate (8 - digits.length) '0' ++ digits)

def supersede (baseline : CaseBaselineRecord) : CaseBaselineRecord :=
  { baseline with
    status := .superseded
    version := baseline.version ++ "~" ++ hexPrefix baseline.baselineId }

/-- A request that has been edited: a fresh candidate, nothing submitted, nothing validated. -/
def editedRequest (P : Primitives) (payload : ChangeRequestUpdate) (candidate : CaseBaseline)
    (items : List ChangeItemRecord) (request : ChangeRequestRecord) : ChangeRequestRecord :=
  { request with
    candidateVersion := candidate.version
    candidateBaselineId := candidate.baselineId
    candidateDigest := P.canonicalSha256 (.baseline candidate)
    candidateDocument := candidate
    title := payload.title
    reason := payload.reason
    status := .draft
    submittedAt := none
    reviewedAt := none
    validationRunId := none
    validationStatus := initialValidation items }

def updateChangeRequest (P : Primitives) (newCandidateBaselineId projectId requestId : UUID)
    (payload : ChangeRequestUpdate) (actorId : UUID) (actorIsProjectAdmin : Bool)
    (db : Database) : Except ServiceError Database := do
  let record ← getChangeRequest db projectId requestId
  ensure (record.status.editable = true)
    (.resourceConflict "only a draft or changes-requested item can be edited")
  ensure (record.createdBy = actorId ∨ actorIsProjectAdmin = true)
    (.resourceConflict "only the submitter or Project Admin can edit this draft")
  ensureCandidateVersionAvailable db projectId payload.candidateVersion (some requestId)
    (some record.candidateBaselineId)
  let base ← releasedBase db projectId record.baseBaselineId
  let missing := ServiceError.resourceConflict "editable draft baseline is missing"
  let oldBaseline ← found (db.baselines.get? record.candidateBaselineId) missing
  ensure (oldBaseline.status = .draft) missing
  let (candidate, items) ← composeCandidate P base.document newCandidateBaselineId
    payload.candidateVersion requestId payload.changes
  ensure (∀ row ∈ db.baselines.rows, row.projectId = oldBaseline.projectId →
    row.version ≠ (supersede oldBaseline).version) (.integrityError false)
  let baselines ← insertBaseline
    (baselineRecord projectId (P.canonicalSha256 (.baseline candidate)) .draft candidate)
    (db.baselines.modify record.candidateBaselineId supersede) (.integrityError true)
  return { db with
    changeRequests := db.changeRequests.modify requestId (editedRequest P payload candidate items)
    changeItems := (db.changeItems.filter fun item => item.changeRequestId ≠ requestId) ++ items
    baselines := baselines }

/-! ### Review -/

def submitChangeRequest (now : Instant) (projectId requestId actorId : UUID) (db : Database) :
    Except ServiceError Database := do
  let record ← getChangeRequest db projectId requestId
  ensure (record.createdBy = actorId)
    (.resourceConflict "only the Change Request submitter can submit it")
  ensure (record.status = .draft)
    (.resourceConflict "only a DRAFT Change Request can be submitted")
  ensure (record.validationStatus = .run .passed ∨ record.validationStatus = .notRequired)
    (.resourceConflict "affected cases must pass draft validation before submission")
  return { db with
    changeRequests := db.changeRequests.modify requestId fun request =>
      { request with status := .inReview, submittedAt := some now } }

def reviewChangeRequest (now : Instant) (approvalId projectId requestId : UUID)
    (payload : ReviewDecisionRequest) (reviewerId : UUID) (db : Database) :
    Except ServiceError Database := do
  let record ← getChangeRequest db projectId requestId
  ensure (record.status = .inReview)
    (.resourceConflict "Change Request is not awaiting review")
  ensure (record.createdBy ≠ reviewerId)
    (.resourceConflict "the submitter cannot review their own Change Request")
  let approvals := db.approvals ++
    [⟨approvalId, requestId, reviewerId, payload.decision, payload.comment, now⟩]
  match payload.decision with
  | .requestChanges =>
    return { db with
      approvals := approvals
      changeRequests := db.changeRequests.modify requestId fun request =>
        { request with status := .changesRequested, reviewedAt := some now } }
  | .approve =>
    let missing := ServiceError.resourceConflict "approved draft baseline is missing"
    let candidate ← found (db.baselines.get? record.candidateBaselineId) missing
    ensure (candidate.status = .draft) missing
    return { db with
      approvals := approvals
      changeRequests := db.changeRequests.modify requestId fun request =>
        { request with status := .candidate, reviewedAt := some now }
      baselines := db.baselines.modify record.candidateBaselineId fun baseline =>
        { baseline with status := .candidate } }

/-! ### Runs of a candidate -/

def createCandidateRun (P : Primitives) (now : Instant) (runId outboxId projectId requestId : UUID)
    (payload : CandidateRunCreate) (idempotencyKey : String) (actorId : UUID) (db : Database) :
    Except ServiceError (Database × TestRunRecord × Bool) := do
  let record ← getChangeRequest db projectId requestId
  ensure (record.status = .candidate)
    (.resourceConflict "only an approved CANDIDATE can run full regression")
  createRun P now runId outboxId
    ⟨projectId, payload.targetId, payload.environmentId, record.candidateBaselineId,
      payload.automationPackageId, [], none⟩
    idempotencyKey actorId [.candidate] [.active, .draft] none none db

/-- The second transaction of `createValidationRun`. Its session still holds the copy of the
    request it loaded in the first one, so a column is written only where it differs from that
    copy. -/
def linkValidationRun (loaded : ChangeRequestRecord) (runId : UUID) (db : Database) :
    Except ServiceError Database := do
  let _ ← getChangeRequest db loaded.projectId loaded.id
  return { db with
    changeRequests := db.changeRequests.modify loaded.id fun request =>
      { request with
        validationRunId :=
          if loaded.validationRunId = some runId then request.validationRunId else some runId
        validationStatus :=
          if loaded.validationStatus = .run .queued then request.validationStatus
          else .run .queued } }

/-- What is left to do after the first transaction of `createValidationRun`. -/
structure PendingValidation where
  loaded : ChangeRequestRecord
  runId : UUID
  deriving DecidableEq

/-- The codes of the affected cases of a change request. -/
def validationCodes (db : Database) (requestId : UUID) : List String :=
  validationCaseCodes (changeRequestItems db requestId)

def validationPayload (projectId : UUID) (payload : CandidateRunCreate)
    (record : ChangeRequestRecord) (codes : List String) : RunCreate :=
  ⟨projectId, payload.targetId, payload.environmentId, record.candidateBaselineId,
    payload.automationPackageId, codes, none⟩

/-- The run a request is linked to, when it answers this call or still has to end. -/
def currentValidation (db : Database) (record : ChangeRequestRecord) (idempotencyKey : String) :
    Except ServiceError (Option TestRunRecord) :=
  match record.validationRunId.bind db.runs.get? with
  | none => return none
  | some existing =>
    if existing.idempotencyKey = idempotencyKey then return some existing
    else do
      ensure (existing.status.isTerminal = true)
        (.resourceConflict "draft validation is already running")
      return none

/-- The first transaction of `createValidationRun`. A request without affected cases is settled at
    once, and a run found under the idempotency key has committed before, so it is linked in this
    same transaction. -/
def createValidationRun (P : Primitives) (now : Instant)
    (runId outboxId projectId requestId : UUID) (payload : CandidateRunCreate)
    (idempotencyKey : String) (actorId : UUID) (db : Database) :
    Except ServiceError (Database × Option PendingValidation) := do
  let record ← getChangeRequest db projectId requestId
  ensure (record.status.editable = true)
    (.resourceConflict "only an editable draft can run affected-case validation")
  let codes := validationCodes db requestId
  if codes = [] then
    return ({ db with
      changeRequests := db.changeRequests.modify requestId fun request =>
        { request with validationStatus := .notRequired, validationRunId := none } }, none)
  else do
    match ← currentValidation db record idempotencyKey with
    | some _ => return (db, none)
    | none =>
      let (db, run, created) ← createRun P now runId outboxId
        (validationPayload projectId payload record codes) idempotencyKey actorId
        [.draft] [.active, .draft] none none db
      if created = true then
        return (db, some ⟨record, run.id⟩)
      else
        let db ← linkValidationRun record run.id db
        return (db, none)

/-! ### Publication -/

def publishedRequest (now : Instant) (request : ChangeRequestRecord) : ChangeRequestRecord :=
  { request with
    status := .published
    publishedAt := some now
    publishedBaselineId := some request.candidateBaselineId }

def publishChangeRequest (now : Instant) (projectId requestId regressionRunId : UUID)
    (db : Database) : Except ServiceError Database := do
  let record ← getChangeRequest db projectId requestId
  ensure (record.status = .candidate)
    (.resourceConflict "only a CANDIDATE Change Request can be published")
  let foreign := ServiceError.invalidRequest
    "regression Run does not execute this candidate baseline"
  let run ← found (db.runs.get? regressionRunId) foreign
  ensure (run.projectId = projectId ∧ run.baselineId = record.candidateBaselineId) foreign
  ensure (run.status = .passed ∧ run.resultDigest.isSome)
    (.resourceConflict "candidate full regression must finish PASSED before publishing")
  let gone := ServiceError.resourceConflict
    "candidate baseline is missing or already published"
  let baseline ← found (db.baselines.get? record.candidateBaselineId) gone
  ensure (baseline.status = .candidate) gone
  ensure (run.caseCount = baseline.enabledCaseCount)
    (.invalidRequest "publishing requires a full regression of every enabled case")
  return { db with
    changeRequests := db.changeRequests.modify requestId (publishedRequest now)
    baselines := db.baselines.modify record.candidateBaselineId fun baseline =>
      { baseline with status := .released } }

end TestOps

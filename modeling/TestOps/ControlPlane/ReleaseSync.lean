import TestOps.ControlPlane.Service

/-! Releases of a repository, staged as governed drafts. A release carries a candidate baseline and an
    automation package; both are compared with what the project has at that moment:

      preview   latest RELEASED baseline ── differences ──▸ shown, nothing is written
      apply     latest RELEASED baseline ── differences ──▸ change request, candidate, package

    An apply repeats the comparison. What it takes over from the preview are three expected values:
    the revision of the tag, the digest of the baseline and the digest of the package. -/

namespace TestOps

open Checked Relational Transition

variable {P : Primitives} {db : Database}

/-! ### Releases -/

structure GitReleaseSource where
  repositoryUrl : String
  tag : String
  revision : String
  deriving DecidableEq

deriving instance DecidableEq for AutomationPackageCreate

structure GitReleaseManifest where
  source : GitReleaseSource
  baseline : CaseBaseline
  baselineDigest : Digest
  automationPackage : AutomationPackageCreate
  deriving DecidableEq

/-- A manifest, with the repository, the tag and the revision it was fetched from. -/
structure FetchedGitRelease where
  repositoryUrl : String
  tag : String
  revision : String
  manifest : GitReleaseManifest
  deriving DecidableEq

/-- The expected values of an apply; where the release is fetched from is left to the fetcher. -/
structure GitReleaseApplyRequest where
  expectedRevision : String
  expectedBaselineDigest : Digest
  expectedPackageDigest : Digest

structure GitReleaseCaseChange where
  changeType : ChangeType
  caseId : UUID
  caseCode : String
  changedFields : List String
  deriving DecidableEq

structure GitReleasePreviewResponse where
  repositoryUrl : String
  tag : String
  revision : String
  baseBaselineId : UUID
  baseBaselineVersion : String
  baseBaselineDigest : Digest
  candidateBaselineId : UUID
  candidateBaselineVersion : String
  candidateBaselineDigest : Digest
  caseCount : Nat
  enabledCaseCount : Nat
  addedCount : Nat
  modifiedCount : Nat
  deletedCount : Nat
  unchangedCount : Nat
  baselineChanged : Bool
  changes : List GitReleaseCaseChange
  automationPackage : AutomationPackageCreate
  supersedesId : Option UUID

structure GitReleaseApplyResponse where
  repositoryUrl : String
  tag : String
  revision : String
  baselineChanged : Bool
  baselineId : UUID
  changeRequestId : Option UUID
  automationPackage : AutomationPackageRecord

/-! ### Stored columns -/

/-- When baselines and packages were stored, and which package a package supersedes. -/
structure ReleaseColumns where
  baselineCreatedAt : UUID → Instant
  packageCreatedAt : UUID → Instant
  supersedesId : UUID → Option UUID

/-- The row stored last. -/
def latestRow {ρ : Type} (createdAt : ρ → Instant) (rows : List ρ) : Option ρ :=
  (rows.insertionSort fun a b => createdAt b ≤ createdAt a).head?

/-- The database with the columns that a release is compared by. -/
structure ReleaseStore where
  db : Database
  columns : ReleaseColumns

def ReleaseStore.latestReleased (store : ReleaseStore) (projectId : UUID) :
    Option CaseBaselineRecord :=
  latestRow (fun row => store.columns.baselineCreatedAt row.baselineId)
    (store.db.baselines.rows.filter fun row =>
      row.projectId = projectId ∧ row.status = .released)

/-- The package that a new version of a package supersedes. -/
def ReleaseStore.superseded (store : ReleaseStore) (projectId targetId : UUID)
    (package : AutomationPackageCreate) : Option AutomationPackageRecord :=
  latestRow (fun row => store.columns.packageCreatedAt row.id)
    (store.db.packages.rows.filter fun row =>
      row.projectId = projectId ∧ row.targetId = targetId ∧ row.name = package.name ∧
        row.version ≠ package.version ∧ row.status ≠ .revoked)

/-! ### Differences -/

/-- A case without its place in the workbook. -/
def comparableCaseDocument (case : CaseDefinition) : CaseDefinition :=
  { case with sourceTrace := none }

/-- A change item that does not belong to a request yet. -/
structure ItemDocument where
  sequence : Nat
  changeType : ChangeType
  caseId : UUID
  caseCode : String
  beforeDocument : Option CaseDefinition
  afterDocument : Option CaseDefinition
  changedFields : List String
  deriving DecidableEq

def ItemDocument.record (item : ItemDocument) (changeRequestId : UUID) : ChangeItemRecord :=
  ⟨changeRequestId, item.sequence, item.changeType, item.caseId, item.caseCode,
    item.beforeDocument, item.afterDocument, item.changedFields⟩

def ItemDocument.change (item : ItemDocument) : GitReleaseCaseChange :=
  ⟨item.changeType, item.caseId, item.caseCode, item.changedFields⟩

structure CaseDiff where
  documents : List ItemDocument
  unchangedCount : Nat
  deriving DecidableEq

/-- The differences found so far, and one more. -/
def CaseDiff.add (diff : CaseDiff) (changeType : ChangeType) (case : CaseDefinition)
    (before after : Option CaseDefinition) : CaseDiff :=
  { diff with
    documents := diff.documents ++ [⟨diff.documents.length + 1, changeType, case.caseId,
      case.caseCode, before, after, changedFields before after⟩] }

def caseByCode (cases : List CaseDefinition) (caseCode : String) : Option CaseDefinition :=
  cases.find? fun case => case.caseCode = caseCode

/-- Compare a case of the candidate with the case of the same code. -/
def diffCandidateCase (base : CaseBaseline) (diff : CaseDiff) (case : CaseDefinition) :
    Except ServiceError CaseDiff :=
  let after := comparableCaseDocument case
  match caseByCode base.cases case.caseCode with
  | none => return diff.add .add case none (some after)
  | some beforeCase => do
    ensure (beforeCase.caseId = case.caseId)
      (.invalidRequest ("stable case_id changed for existing case_code: " ++ case.caseCode))
    let before := comparableCaseDocument beforeCase
    if before.comparable = after.comparable then
      return { diff with unchangedCount := diff.unchangedCount + 1 }
    else
      return diff.add .modify case (some before) (some after)

/-- A case of the base whose code is gone. -/
def diffBaseCase (candidate : CaseBaseline) (diff : CaseDiff) (case : CaseDefinition) : CaseDiff :=
  if (caseByCode candidate.cases case.caseCode).isSome then diff
  else diff.add .delete case (some (comparableCaseDocument case)) none

def diffCases (base candidate : CaseBaseline) : Except ServiceError CaseDiff := do
  let diff ← candidate.cases.foldlM (diffCandidateCase base) ⟨[], 0⟩
  let diff := base.cases.foldl (diffBaseCase candidate) diff
  ensure (diff.documents.length ≤ 500)
    (.invalidRequest "a Git release may stage at most 500 case changes")
  return diff

/-! ### Preview -/

/-- What a release is compared with, and how it differs. -/
structure ReleaseContext where
  base : CaseBaselineRecord
  diff : CaseDiff
  supersedes : Option AutomationPackageRecord

def releaseContext (P : Primitives) (projectId targetId : UUID) (fetched : FetchedGitRelease)
    (store : ReleaseStore) : Except ServiceError ReleaseContext := do
  let project ← found (store.db.projects.get? projectId) (.resourceNotFound "project not found")
  let notFound := ServiceError.resourceNotFound "target not found in project"
  let target ← found (store.db.targets.get? targetId) notFound
  ensure (target.projectId = projectId) notFound
  ensure (target.targetType = .web)
    (.invalidRequest "Git Web release sync requires a WEB target")
  let candidate := fetched.manifest.baseline
  ensure (candidate.projectKey = project.key)
    (.invalidRequest "release baseline project_key does not match the selected project")
  ensure (P.canonicalSha256 (.baseline candidate) = fetched.manifest.baselineDigest)
    (.invalidRequest "release baseline digest does not match its canonical document")
  let base ← found (store.latestReleased projectId) (.resourceConflict
    "Git release sync requires an initial RELEASED baseline for comparison")
  let diff ← diffCases base.document candidate
  ensure (diff.documents ≠ [] → candidate.version ≠ base.document.version)
    (.resourceConflict "a changed release baseline must use a new case baseline version")
  ensure (diff.documents ≠ [] → candidate.baselineId ≠ base.document.baselineId)
    (.resourceConflict "a changed release baseline must use a new baseline_id")
  return ⟨base, diff, store.superseded projectId targetId fetched.manifest.automationPackage⟩

def CaseDiff.count (diff : CaseDiff) (changeType : ChangeType) : Nat :=
  diff.documents.countP fun item => item.changeType = changeType

def previewGitRelease (P : Primitives) (projectId targetId : UUID) (fetched : FetchedGitRelease)
    (store : ReleaseStore) : Except ServiceError GitReleasePreviewResponse := do
  let context ← releaseContext P projectId targetId fetched store
  let candidate := fetched.manifest.baseline
  return {
    repositoryUrl := fetched.repositoryUrl
    tag := fetched.tag
    revision := fetched.revision
    baseBaselineId := context.base.baselineId
    baseBaselineVersion := context.base.version
    baseBaselineDigest := context.base.digest
    candidateBaselineId := candidate.baselineId
    candidateBaselineVersion := candidate.version
    candidateBaselineDigest := fetched.manifest.baselineDigest
    caseCount := candidate.cases.length
    enabledCaseCount := candidate.enabledCases.length
    addedCount := context.diff.count .add
    modifiedCount := context.diff.count .modify
    deletedCount := context.diff.count .delete
    unchangedCount := context.diff.unchangedCount
    baselineChanged := context.diff.documents ≠ []
    changes := context.diff.documents.map ItemDocument.change
    automationPackage := fetched.manifest.automationPackage
    supersedesId := context.supersedes.map AutomationPackageRecord.id }

/-! ### Apply -/

/-- Two baseline documents that compare as equal. -/
def CaseBaseline.SameContent (a b : CaseBaseline) : Prop :=
  a.baselineId = b.baselineId ∧ a.projectKey = b.projectKey ∧ a.version = b.version ∧
    a.source = b.source ∧
    a.cases.map CaseDefinition.comparable = b.cases.map CaseDefinition.comparable

instance (a b : CaseBaseline) : Decidable (a.SameContent b) :=
  inferInstanceAs (Decidable (_ ∧ _ ∧ _ ∧ _ ∧ _))

/-- The request that stages the candidate of a release. -/
def importedRequest (requestId projectId baseBaselineId actorId : UUID)
    (fetched : FetchedGitRelease) (items : List ChangeItemRecord) : ChangeRequestRecord where
  id := requestId
  projectId := projectId
  baseBaselineId := baseBaselineId
  candidateBaselineId := fetched.manifest.baseline.baselineId
  candidateVersion := fetched.manifest.baseline.version
  candidateDigest := fetched.manifest.baselineDigest
  candidateDocument := fetched.manifest.baseline
  title := String.ofList
    (("Sync " ++ fetched.repositoryUrl ++ "@" ++ fetched.tag).toList.take 200)
  reason := "Imported from an immutable GitHub Release manifest. repository="
    ++ fetched.repositoryUrl ++ "; tag=" ++ fetched.tag ++ "; revision=" ++ fetched.revision
  status := .draft
  validationStatus := initialValidation items
  createdBy := actorId
  submittedAt := none
  reviewedAt := none
  publishedAt := none
  publishedBaselineId := none
  validationRunId := none

/-- The request that holds a candidate version. -/
def requestByVersion (db : Database) (projectId : UUID) (candidateVersion : String) :
    Option ChangeRequestRecord :=
  db.changeRequests.first? fun row =>
    row.projectId = projectId ∧ row.candidateVersion = candidateVersion

/-- The request carries the candidate of the release. -/
def ChangeRequestRecord.carries (request : ChangeRequestRecord) (manifest : GitReleaseManifest) :
    Prop :=
  request.candidateBaselineId = manifest.baseline.baselineId ∧
    request.candidateDigest = manifest.baselineDigest ∧
    request.candidateDocument.SameContent manifest.baseline

instance (request : ChangeRequestRecord) (manifest : GitReleaseManifest) :
    Decidable (request.carries manifest) :=
  inferInstanceAs (Decidable (_ ∧ _ ∧ _))

/-- Store the candidate with a request of its own. The request is flushed at once; the candidate
    is flushed by the next query, whose integrity error nobody catches. -/
def importCandidate (requestId projectId actorId : UUID) (fetched : FetchedGitRelease)
    (context : ReleaseContext) (db : Database) : Except ServiceError Database := do
  let candidate := fetched.manifest.baseline
  ensure ((db.baselines.get? candidate.baselineId).isNone = true)
    (.resourceConflict "candidate baseline_id already exists")
  let items := context.diff.documents.map fun item => item.record requestId
  let changeRequests ← found
    (db.changeRequests.insert?
      (importedRequest requestId projectId context.base.baselineId actorId fetched items))
    (.resourceConflict "candidate baseline version already exists")
  let baselines ← insertBaseline
    (baselineRecord projectId fetched.manifest.baselineDigest .draft candidate) db.baselines
    (.integrityError false)
  return { db with
    changeRequests := changeRequests
    changeItems := db.changeItems ++ items
    baselines := baselines }

/-- The change request of a candidate that differs from its base: one that is stored already, or a
    new one. -/
def stageCandidate (requestId projectId actorId : UUID) (fetched : FetchedGitRelease)
    (context : ReleaseContext) (db : Database) :
    Except ServiceError (Database × Option UUID) :=
  if context.diff.documents = [] then
    return (db, none)
  else
    match requestByVersion db projectId fetched.manifest.baseline.version with
    | some existing => do
      ensure (existing.carries fetched.manifest)
        (.resourceConflict "candidate baseline version already exists with other content")
      return (db, some existing.id)
    | none => do
      let db ← importCandidate requestId projectId actorId fetched context db
      return (db, some requestId)

/-- The package that holds a version. -/
def packageByVersion (db : Database) (targetId : UUID) (package : AutomationPackageCreate) :
    Option AutomationPackageRecord :=
  db.packages.first? fun row =>
    row.targetId = targetId ∧ row.name = package.name ∧ row.version = package.version

def samePackage (record : AutomationPackageRecord) (package : AutomationPackageCreate) : Prop :=
  record.digest = package.digest ∧ record.runnerType = package.runnerType ∧
    record.imageRepository = package.imageRepository

instance (record : AutomationPackageRecord) (package : AutomationPackageCreate) :
    Decidable (samePackage record package) :=
  inferInstanceAs (Decidable (_ ∧ _ ∧ _))

/-- The draft of a package: one of the same content that is stored already, or a new one. -/
def stagePackage (packageId projectId targetId : UUID) (package : AutomationPackageCreate)
    (db : Database) : Except ServiceError (Database × AutomationPackageRecord) :=
  match packageByVersion db targetId package with
  | some existing => do
    ensure (samePackage existing package)
      (.resourceConflict "automation package version already exists with other content")
    return (db, existing)
  | none => do
    let record := newPackage packageId projectId targetId package true
    let packages ← found (db.packages.insert? record)
      (.resourceConflict "Git release has already been imported with other content")
    return ({ db with packages := packages }, record)

/-- The columns of rows that have come in. -/
def ReleaseColumns.stamp (columns : ReleaseColumns) (now : Instant) (supersedesId : Option UUID)
    (before after : Database) : ReleaseColumns where
  baselineCreatedAt id :=
    if (before.baselines.get? id).isNone && (after.baselines.get? id).isSome then now
    else columns.baselineCreatedAt id
  packageCreatedAt id :=
    if (before.packages.get? id).isNone && (after.packages.get? id).isSome then now
    else columns.packageCreatedAt id
  supersedesId id :=
    if (before.packages.get? id).isNone && (after.packages.get? id).isSome then supersedesId
    else columns.supersedesId id

def checkExpected (fetched : FetchedGitRelease) (payload : GitReleaseApplyRequest) :
    Except ServiceError Unit := do
  ensure (fetched.revision = payload.expectedRevision) (.resourceConflict
    "Git tag revision changed after preview; preview the release again")
  ensure (fetched.manifest.baselineDigest = payload.expectedBaselineDigest) (.resourceConflict
    "baseline digest changed after preview; preview the release again")
  ensure (fetched.manifest.automationPackage.digest = payload.expectedPackageDigest)
    (.resourceConflict "automation package digest changed after preview; preview again")

def applyGitRelease (P : Primitives) (now : Instant) (requestId packageId projectId targetId : UUID)
    (fetched : FetchedGitRelease) (payload : GitReleaseApplyRequest) (actorId : UUID)
    (store : ReleaseStore) : Except ServiceError (ReleaseStore × GitReleaseApplyResponse) := do
  checkExpected fetched payload
  let context ← releaseContext P projectId targetId fetched store
  let (db, changeRequestId) ← stageCandidate requestId projectId actorId fetched context store.db
  let (db, package) ←
    stagePackage packageId projectId targetId fetched.manifest.automationPackage db
  let supersedesId := context.supersedes.map AutomationPackageRecord.id
  return (⟨db, store.columns.stamp now supersedesId store.db db⟩, {
    repositoryUrl := fetched.repositoryUrl
    tag := fetched.tag
    revision := fetched.revision
    baselineChanged := context.diff.documents ≠ []
    baselineId := if context.diff.documents ≠ [] then fetched.manifest.baseline.baselineId
      else context.base.baselineId
    changeRequestId := changeRequestId
    automationPackage := package })

/-! ### The service with releases -/

structure Releases where
  service : Service
  columns : ReleaseColumns

abbrev Releases.store (s : Releases) : ReleaseStore := ⟨s.service.db, s.columns⟩

def Releases.init : Releases := ⟨.init, fun _ => 0, fun _ => 0, fun _ => none⟩

inductive ReleaseAction where
  | service (now : Instant) (action : ServiceAction)
  | applyGitRelease (now : Instant) (requestId packageId projectId targetId : UUID)
      (fetched : FetchedGitRelease) (payload : GitReleaseApplyRequest) (actorId : UUID)

/-- The package that a new package is said to supersede. -/
def ServiceAction.supersedesId : ServiceAction → Option UUID
  | .createPackage _ _ _ _ _ supersedesId => supersedesId
  | _ => none

/-- The service, with another database. -/
def Service.withDatabase (s : Service) (db : Database) : Service :=
  { s with sessions := { s.sessions with core := { s.sessions.core with db := db } } }

def releaseStep (P : Primitives) (lib : CronLibrary) (s : Releases) :
    ReleaseAction → Except ServiceError Releases
  | .service now action => do
    let service ← serviceStep P lib s.service action
    return ⟨service, s.columns.stamp now action.supersedesId s.service.db service.db⟩
  | .applyGitRelease now requestId packageId projectId targetId fetched payload actorId => do
    let (store, _) ← TestOps.applyGitRelease P now requestId packageId projectId targetId fetched
      payload actorId s.store
    return ⟨s.service.withDatabase store.db, store.columns⟩

def releases (P : Primitives) (lib : CronLibrary) : System Releases ReleaseAction :=
  machine (· = Releases.init) (releaseStep P lib)

end TestOps

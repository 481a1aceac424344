import TestOps.ControlPlane.ReleaseSync

/-! Applies of releases that commit between each other's statements. An apply reads twice before it
    writes, and every read may be answered by another state of the database:

      compare   the expected values, the base baseline and the differences
      stage     the request that holds the candidate version, or the candidate is still missing
      commit    candidate, request, items and package, under the unique constraints

    The three without a break are one apply. An apply that raises at any point is rolled back: it
    leaves nothing behind. -/

namespace TestOps

open Checked Relational Transition

variable {P : Primitives} {lib : CronLibrary}

/-! ### The parts of an apply -/

/-- What an apply has found of its candidate. -/
inductive Staging where
  | unchanged
  | stored (changeRequestId : UUID)
  | missing
  deriving DecidableEq

/-- An apply that has compared its release. -/
structure PendingApply where
  requestId : UUID
  packageId : UUID
  projectId : UUID
  targetId : UUID
  actorId : UUID
  fetched : FetchedGitRelease
  context : ReleaseContext
  staging : Option Staging

namespace PendingApply

/-- The version, in the project, that the candidate takes. -/
def request (apply : PendingApply) (db : Database) : Option ChangeRequestRecord :=
  requestByVersion db apply.projectId apply.fetched.manifest.baseline.version

/-- Look for the request of the candidate, when there is a difference to stage. -/
def find (apply : PendingApply) (db : Database) : Except ServiceError Staging :=
  if apply.context.diff.documents = [] then
    return .unchanged
  else
    match apply.request db with
    | some existing => do
      ensure (existing.carries apply.fetched.manifest)
        (.resourceConflict "candidate baseline version already exists with other content")
      return .stored existing.id
    | none => do
      ensure ((db.baselines.get? apply.fetched.manifest.baseline.baselineId).isNone = true)
        (.resourceConflict "candidate baseline_id already exists")
      return .missing

/-- Write what is missing. -/
def write (apply : PendingApply) (db : Database) :
    Staging → Except ServiceError (Database × Option UUID)
  | .unchanged => return (db, none)
  | .stored changeRequestId => return (db, some changeRequestId)
  | .missing => do
    ensure ((apply.request db).isNone = true)
      (.resourceConflict "candidate baseline version already exists")
    let db ← importCandidate apply.requestId apply.projectId apply.actorId apply.fetched
      apply.context db
    return (db, some apply.requestId)

def response (apply : PendingApply) (changeRequestId : Option UUID)
    (package : AutomationPackageRecord) : GitReleaseApplyResponse where
  repositoryUrl := apply.fetched.repositoryUrl
  tag := apply.fetched.tag
  revision := apply.fetched.revision
  baselineChanged := apply.context.diff.documents ≠ []
  baselineId := if apply.context.diff.documents ≠ [] then apply.fetched.manifest.baseline.baselineId
    else apply.context.base.baselineId
  changeRequestId := changeRequestId
  automationPackage := package

def commit (apply : PendingApply) (staging : Staging) (now : Instant) (store : ReleaseStore) :
    Except ServiceError (ReleaseStore × GitReleaseApplyResponse) := do
  let (db, changeRequestId) ← apply.write store.db staging
  let (db, package) ← stagePackage apply.packageId apply.projectId apply.targetId
    apply.fetched.manifest.automationPackage db
  let supersedesId := apply.context.supersedes.map AutomationPackageRecord.id
  return (⟨db, store.columns.stamp now supersedesId store.db db⟩,
    apply.response changeRequestId package)

end PendingApply

def compareRelease (P : Primitives) (requestId packageId projectId targetId : UUID)
    (fetched : FetchedGitRelease) (payload : GitReleaseApplyRequest) (actorId : UUID)
    (store : ReleaseStore) : Except ServiceError PendingApply := do
  checkExpected fetched payload
  let context ← releaseContext P projectId targetId fetched store
  return ⟨requestId, packageId, projectId, targetId, actorId, fetched, context, none⟩

/-- Finding the request and writing what is missing stage a candidate. -/
theorem stageCandidate_eq (apply : PendingApply) (db : Database) :
    stageCandidate apply.requestId apply.projectId apply.actorId apply.fetched apply.context db =
      (do
        let staging ← apply.find db
        apply.write db staging) := by
  rw [stageCandidate, PendingApply.find, PendingApply.request]
  by_cases hdiff : apply.context.diff.documents = []
  · rw [if_pos hdiff, if_pos hdiff]
    rfl
  · rw [if_neg hdiff, if_neg hdiff]
    cases hrequest : requestByVersion db apply.projectId apply.fetched.manifest.baseline.version with
    | some existing =>
      by_cases hcarries : existing.carries apply.fetched.manifest
      · simp only [ensure_true hcarries, ok_bind]
        rfl
      · simp only [ensure_false hcarries, error_bind]
    | none =>
      by_cases hfree : (db.baselines.get? apply.fetched.manifest.baseline.baselineId).isNone = true
      · simp only [ensure_true hfree, ok_bind, pure_bind, PendingApply.write, PendingApply.request,
          hrequest, ensure_true (show (none : Option ChangeRequestRecord).isNone = true from rfl)]
      · simp only [importCandidate, ensure_false hfree, error_bind]

/-- An apply is its three parts without a break. -/
theorem applyGitRelease_eq (now : Instant) (requestId packageId projectId targetId : UUID)
    (fetched : FetchedGitRelease) (payload : GitReleaseApplyRequest) (actorId : UUID)
    (store : ReleaseStore) :
    applyGitRelease P now requestId packageId projectId targetId fetched payload actorId store =
      (do
        let apply ← compareRelease P requestId packageId projectId targetId fetched payload actorId
          store
        let staging ← apply.find store.db
        apply.commit staging now store) := by
  rw [applyGitRelease, compareRelease]
  cases checkExpected fetched payload with
  | error error => rfl
  | ok _ =>
    cases releaseContext P projectId targetId fetched store with
    | error error => rfl
    | ok context =>
      have hstage := stageCandidate_eq
        ⟨requestId, packageId, projectId, targetId, actorId, fetched, context, none⟩ store.db
      simp only at hstage
      simp only [ok_bind, pure_bind, hstage, bind_assoc]
      rfl

/-! ### The service with applies -/

structure ReleaseSessions where
  releases : Releases
  applies : List PendingApply

abbrev ReleaseSessions.db (s : ReleaseSessions) : Database := s.releases.service.db

def ReleaseSessions.init : ReleaseSessions := ⟨.init, []⟩

inductive ReleaseSessionAction where
  | service (now : Instant) (action : ServiceAction)
  | compare (requestId packageId projectId targetId : UUID) (fetched : FetchedGitRelease)
      (payload : GitReleaseApplyRequest) (actorId : UUID)
  | stage (index : Nat)
  | commit (index : Nat) (now : Instant)
  | abandon (index : Nat)

def releaseSessionStep (P : Primitives) (lib : CronLibrary) (s : ReleaseSessions) :
    ReleaseSessionAction → Except ServiceError ReleaseSessions
  | .service now action => do
    let releases ← releaseStep P lib s.releases (.service now action)
    return { s with releases := releases }
  | .compare requestId packageId projectId targetId fetched payload actorId => do
    let apply ← compareRelease P requestId packageId projectId targetId fetched payload actorId
      s.releases.store
    return { s with applies := s.applies ++ [apply] }
  | .stage index => do
    let apply ← found s.applies[index]? noSession
    ensure (apply.staging = none) noSession
    let staging ← apply.find s.db
    return { s with applies := s.applies.set index { apply with staging := some staging } }
  | .commit index now => do
    let apply ← found s.applies[index]? noSession
    let staging ← found apply.staging noSession
    let (store, _) ← apply.commit staging now s.releases.store
    return ⟨⟨s.releases.service.withDatabase store.db, store.columns⟩, s.applies.eraseIdx index⟩
  | .abandon index => do
    let _ ← found s.applies[index]? noSession
    return { s with applies := s.applies.eraseIdx index }

def releaseSessions (P : Primitives) (lib : CronLibrary) :
    System ReleaseSessions ReleaseSessionAction :=
  machine (· = ReleaseSessions.init) (releaseSessionStep P lib)

/-! ### Releases of the small installation -/

namespace Installation

/-- The first case alone, as another baseline. -/
def shortened (baselineId : UUID) (version : String) : CaseBaseline where
  baselineId := baselineId
  projectKey := "shop"
  version := version
  source := .legacyExcel "cases.xlsx" 0 "Sheet1"
  cases := [caseA]
  casesNonempty := List.cons_ne_nil _ _
  caseIdsNodup := List.nodup_singleton _
  caseCodesNodup := List.nodup_singleton _

/-- A release that drops the second case, with package version 3. -/
def fetchedRelease : FetchedGitRelease where
  repositoryUrl := "https://github.com/shop/tests"
  tag := "v2"
  revision := "revision"
  manifest := {
    source := ⟨"https://github.com/shop/tests", "v2", "revision"⟩
    baseline := shortened 41 "v2"
    baselineDigest := primitives.canonicalSha256 (.baseline (shortened 41 "v2"))
    automationPackage := ⟨"shop-web", "3", 6, .webPlaywright, "registry/shop-web"⟩ }

def compareFetched (requestId packageId : UUID) : ReleaseSessionAction :=
  .compare requestId packageId 1 2 fetchedRelease
    ⟨"revision", fetchedRelease.manifest.baselineDigest, 6⟩ 100

/-- The release, applied without a break when no other apply is pending. -/
def applyFetched (now : Instant) (requestId packageId : UUID) : List ReleaseSessionAction :=
  [compareFetched requestId packageId, .stage 0, .commit 0 now]

def releaseSetUp : List ReleaseSessionAction := serviceSetUp.map (.service 0)

/-- The cases of the release are published as a baseline of another version. -/
def publishShortened : ReleaseSessionAction :=
  .service 2 (.session (.other (.publishBaseline 1
    (primitives.canonicalSha256 (.baseline (shortened 42 "v3"))) (shortened 42 "v3"))))

end Installation

end TestOps

import TestOps.ControlPlane.RunCreation
import TestOps.ControlPlane.CaseChanges

/-! Baselines and automation packages: publishing a baseline document, and activating a draft package
    whose validation run has passed. -/

namespace TestOps

open Checked Relational

variable {P : Primitives} {db db' : Database}

abbrev BaselineTable := Table CaseBaselineRecord.baselineId

/-- Add a baseline; neither its version nor its digest may occur twice in a project. -/
def insertBaseline (record : CaseBaselineRecord) (baselines : BaselineTable)
    (error : ServiceError) : Except ServiceError BaselineTable := do
  ensure (∀ row ∈ baselines.rows, row.projectId = record.projectId →
    row.version ≠ record.version ∧ row.digest ≠ record.digest) error
  found (baselines.insert? record) error

theorem insertBaseline_ok {record : CaseBaselineRecord} {baselines baselines' : BaselineTable}
    {error : ServiceError} (h : insertBaseline record baselines error = .ok baselines') :
    baselines.insert? record = some baselines' := by
  simp only [insertBaseline, bind_eq_ok, found_eq_ok] at h
  obtain ⟨-, -, h⟩ := h
  exact h

/-- The row of a baseline document. -/
def baselineRecord (projectId : UUID) (digest : Digest) (status : BaselineStatus)
    (baseline : CaseBaseline) : CaseBaselineRecord where
  baselineId := baseline.baselineId
  projectId := projectId
  version := baseline.version
  digest := digest
  caseCount := baseline.cases.length
  enabledCaseCount := baseline.enabledCases.length
  sourceKind := baseline.source.kind
  status := status
  document := baseline

def publishBaseline (P : Primitives) (projectId : UUID) (digest : Digest)
    (baseline : CaseBaseline) (db : Database) : Except ServiceError Database := do
  let project ← found (db.projects.get? projectId) (.resourceNotFound "project not found")
  ensure (baseline.projectKey = project.key)
    (.invalidRequest "baseline project_key does not match project")
  ensure (P.canonicalSha256 (.baseline baseline) = digest)
    (.invalidRequest "baseline digest does not match canonical document")
  match db.baselines.first? fun row =>
      row.projectId = projectId ∧ row.version = baseline.version with
  | some existing =>
    ensure (existing.baselineId = baseline.baselineId ∧ existing.digest = digest ∧
      existing.document = baseline)
      (.resourceConflict "baseline version is immutable and already published")
    return db
  | none =>
    let baselines ← insertBaseline (baselineRecord projectId digest .released baseline)
      db.baselines (.resourceConflict "baseline ID, version or digest already exists")
    return { db with baselines := baselines }

def activatedPackage (now : Instant) (validationRunId actorId : UUID)
    (package : AutomationPackageRecord) : AutomationPackageRecord :=
  { package with
    status := .active
    validatedRunId := some validationRunId
    activatedBy := some actorId
    activatedAt := some now
    statusReason := none }

/-- Activate a draft package, or confirm that it was activated with the same run. -/
def activateAutomationPackage (now : Instant) (projectId targetId packageId
    validationRunId actorId : UUID) (db : Database) : Except ServiceError Database := do
  let notFound := ServiceError.resourceNotFound "automation package not found for target"
  let package ← found (db.packages.get? packageId) notFound
  ensure (package.projectId = projectId ∧ package.targetId = targetId) notFound
  if package.status = .active ∧ package.validatedRunId = some validationRunId then
    return db
  else
    ensure (package.status = .draft)
      (.resourceConflict "only a DRAFT automation package can be activated")
    ensure (package.supplyChainStatus = .verified) (.resourceConflict
      "automation package must pass supply-chain verification before activation")
    let foreign := ServiceError.invalidRequest
      "validation_run_id does not validate this automation package"
    let run ← found (db.runs.get? validationRunId) foreign
    ensure (run.projectId = projectId ∧ run.targetId = targetId ∧
      run.automationPackageId = package.id) foreign
    ensure (run.status = .passed ∧ run.resultDigest.isSome)
      (.resourceConflict "automation package validation Run must finish PASSED")
    let unreleased := ServiceError.resourceConflict
      "automation package validation requires a RELEASED baseline"
    let baselineRecord ← found (db.baselines.get? run.baselineId) unreleased
    ensure (baselineRecord.status = .released) unreleased
    ensure (run.caseCount = baselineRecord.document.enabledCases.length) (.resourceConflict
      "automation package activation requires a full enabled-case regression")
    return { db with
      packages := db.packages.modify packageId (activatedPackage now validationRunId actorId) }

/-- What publishing a baseline writes: at most one new row, released. -/
theorem publishBaseline_ok {projectId : UUID} {digest : Digest} {baseline : CaseBaseline}
    (h : publishBaseline P projectId digest baseline db = .ok db') :
    db' = db ∨ ∃ baselines, db' = { db with baselines := baselines } ∧
      P.canonicalSha256 (.baseline baseline) = digest ∧
      db.baselines.insert? (baselineRecord projectId digest .released baseline) =
        some baselines := by
  simp only [publishBaseline, bind_eq_ok, ensure_eq_ok, found_eq_ok] at h
  obtain ⟨project, -, -, -, -, hdigest, h⟩ := h
  split at h
  · simp only [bind_eq_ok, ensure_eq_ok, pure_eq_ok] at h
    obtain ⟨-, -, rfl⟩ := h
    exact .inl rfl
  · simp only [bind_eq_ok, pure_eq_ok] at h
    obtain ⟨baselines, hinsert, rfl⟩ := h
    exact .inr ⟨baselines, rfl, hdigest, insertBaseline_ok hinsert⟩

/-- The gate a package passes when it is activated. -/
structure PackageGate (db : Database) (packageId validationRunId : UUID) (run : TestRunRecord)
    (baseline : CaseBaselineRecord) : Prop where
  runStored : db.runs.get? validationRunId = some run
  package : run.automationPackageId = packageId
  passed : run.status = .passed
  recorded : run.resultDigest.isSome
  baselineStored : db.baselines.get? run.baselineId = some baseline
  released : baseline.status = .released
  full : run.caseCount = baseline.document.enabledCases.length

/-- A package is activated through its gate, or was activated with the same run before. -/
theorem activateAutomationPackage_ok {now : Instant}
    {projectId targetId packageId validationRunId actorId : UUID}
    (h : activateAutomationPackage now projectId targetId packageId validationRunId actorId db =
      .ok db') :
    (db' = db ∧ ∃ package, db.packages.get? packageId = some package ∧
      package.status = .active ∧ package.validatedRunId = some validationRunId) ∨
    ∃ run baseline, PackageGate db packageId validationRunId run baseline ∧
      db' = { db with
        packages := db.packages.modify packageId (activatedPackage now validationRunId actorId) } := by
  simp only [activateAutomationPackage, bind_eq_ok, ensure_eq_ok, found_eq_ok] at h
  obtain ⟨package, hpackage, -, -, h⟩ := h
  have hid := Table.key_of_get? hpackage
  split at h
  · rename_i hactive
    simp only [pure_eq_ok] at h
    exact .inl ⟨h.symm, package, hpackage, hactive⟩
  · simp only [bind_eq_ok, ensure_eq_ok, found_eq_ok, pure_eq_ok] at h
    obtain ⟨-, -, -, -, run, hrun, -, ⟨-, -, hpkg⟩, -, ⟨hpassed, hrecorded⟩, baseline, hbaseline, -,
      hreleased, -, hfull, rfl⟩ := h
    exact .inr ⟨run, baseline, ⟨hrun, hpkg.trans hid, hpassed, hrecorded, hbaseline, hreleased,
      hfull⟩, rfl⟩

end TestOps

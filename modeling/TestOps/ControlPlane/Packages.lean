import TestOps.ControlPlane.Schedules

/-! Automation packages: how they are registered, admitted by the supply chain, and taken out of use.

      DRAFT  ──▸  ACTIVE  ──▸  DEPRECATED            PENDING  ──▸  VERIFIED  ◂──▸  REJECTED
        └───────────┴──────────────┴──▸  REVOKED

    A verification report decides about a package the first time it is recorded; the nonce of the
    envelope it came in is used up every time. -/

namespace TestOps

open Checked Relational

variable {P : Primitives} {db db' : Database}

/-! ### Registration -/

def RunnerType.text : RunnerType → String
  | .webPlaywright => "WEB_PLAYWRIGHT"
  | .androidAppium => "ANDROID_APPIUM"

def TargetType.text : TargetType → String
  | .web => "WEB"
  | .app => "APP"
  | .api => "API"

def newPackage (packageId projectId targetId : UUID) (payload : AutomationPackageCreate)
    (draft : Bool) : AutomationPackageRecord where
  id := packageId
  projectId := projectId
  targetId := targetId
  name := payload.name
  version := payload.version
  digest := payload.digest
  runnerType := payload.runnerType
  imageRepository := payload.imageRepository
  status := if draft = true then .draft else .active
  validatedRunId := none
  activatedBy := none
  activatedAt := none
  statusReason := none
  supplyChainStatus := if draft = true then .pending else .legacy
  supplyChainVerificationId := none

/-- Only a draft says which package it supersedes. -/
def checkSuperseded (projectId targetId : UUID) (payload : AutomationPackageCreate)
    (supersedesId : Option UUID) (db : Database) : Except ServiceError Unit :=
  match supersedesId with
  | some supersededId => do
    let invalid :=
      ServiceError.invalidRequest "supersedes_id must reference the same target and package name"
    let superseded ← found (db.packages.get? supersededId) invalid
    ensure (superseded.projectId = projectId ∧ superseded.targetId = targetId ∧
      superseded.name = payload.name) invalid
    ensure (superseded.status ≠ .revoked)
      (.resourceConflict "a revoked automation package cannot be superseded")
  | none => return

def createAutomationPackage (packageId projectId targetId : UUID)
    (payload : AutomationPackageCreate) (draft : Bool) (supersedesId : Option UUID)
    (db : Database) : Except ServiceError (Table AutomationPackageRecord.id) := do
  let _ ← found (db.projects.get? projectId) (.resourceNotFound "project not found")
  let target ← found (db.targets.get? targetId) (.resourceNotFound "target not found in project")
  ensure (target.projectId = projectId) (.resourceNotFound "target not found in project")
  ensure (expectedRunner target.targetType = some payload.runnerType) (.invalidRequest
    (target.targetType.text ++ " targets require a "
      ++ ((expectedRunner target.targetType).map RunnerType.text).getD "supported" ++ " package"))
  checkSuperseded projectId targetId payload supersedesId db
  let conflict :=
    ServiceError.resourceConflict "automation package version already exists for target"
  ensure (∀ other ∈ db.packages.rows, other.targetId = targetId → other.name = payload.name →
    other.version ≠ payload.version) conflict
  found (db.packages.insert? (newPackage packageId projectId targetId payload draft)) conflict

def getAutomationPackage (projectId targetId packageId : UUID) (db : Database) :
    Except ServiceError AutomationPackageRecord := do
  let notFound := ServiceError.resourceNotFound "automation package not found for target"
  let package ← found (db.packages.get? packageId) notFound
  ensure (package.projectId = projectId ∧ package.targetId = targetId) notFound
  return package

/-! ### Verification reports -/

structure SupplyChainPolicy where
  policyVersion : String
  allowedVerifiers : List String
  allowedCertificateIssuers : List String
  allowedCertificateIdentities : List String
  allowedBuilderIds : List String
  allowedSourceRepositories : List String

/-- The service identity that has signed the envelope of a report. -/
structure SupplyChainVerifierPrincipal where
  verifier : String
  credentialId : String
  nonce : String

structure AutomationPackageSupplyChainEnvelopeRecord where
  credentialId : String
  nonce : String
  automationPackageId : UUID
  verificationId : UUID
  verifier : String
  receivedAt : Instant
  deriving DecidableEq

/-- An envelope is accepted once. -/
def AutomationPackageSupplyChainEnvelopeRecord.use
    (envelope : AutomationPackageSupplyChainEnvelopeRecord) : String × String :=
  (envelope.credentialId, envelope.nonce)

abbrev EnvelopeTable := Table AutomationPackageSupplyChainEnvelopeRecord.use

/-- The values of a report that the policy has to allow, by name. -/
def policyValues (policy : SupplyChainPolicy)
    (payload : AutomationPackageSupplyChainVerificationCreate) :
    List (String × String × List String) :=
  [("verifier", payload.verifier, policy.allowedVerifiers),
    ("certificate_issuer", payload.certificateIssuer, policy.allowedCertificateIssuers),
    ("certificate_identity", payload.certificateIdentity, policy.allowedCertificateIdentities),
    ("builder_id", payload.builderId, policy.allowedBuilderIds),
    ("source_repository", payload.sourceRepository, policy.allowedSourceRepositories)]

/-- A report that verifies a package has to satisfy the policy. -/
def checkPolicy (policy : SupplyChainPolicy)
    (payload : AutomationPackageSupplyChainVerificationCreate) : Except ServiceError Unit :=
  if payload.outcome = .verified then do
    let values := policyValues policy payload
    let missingPolicy := values.filter fun value => value.2.2 = []
    ensure (missingPolicy = []) (.resourceConflict
      ("supply-chain admission policy is not configured for "
        ++ ", ".intercalate (missingPolicy.map Prod.fst)))
    let rejectedValues := values.filter fun value => value.2.1 ∉ value.2.2
    ensure (rejectedValues = []) (.invalidRequest
      ("supply-chain report is not allowed by policy for "
        ++ ", ".intercalate (rejectedValues.map Prod.fst)))
  else
    return

def verificationRecord (recordId packageId : UUID) (reportDigest : Digest)
    (payload : AutomationPackageSupplyChainVerificationCreate) :
    AutomationPackageSupplyChainVerificationRecord where
  id := recordId
  automationPackageId := packageId
  outcome := payload.outcome
  policyVersion := payload.policyVersion
  verifier := payload.verifier
  imageDigest := payload.imageDigest
  signatureBundleDigest := payload.signatureBundleDigest
  provenanceDigest := payload.provenanceDigest
  sbomDigest := payload.sbomDigest
  certificateIssuer := payload.certificateIssuer
  certificateIdentity := payload.certificateIdentity
  builderId := payload.builderId
  sourceRepository := payload.sourceRepository
  sourceRevision := payload.sourceRevision
  reportDigest := reportDigest

/-- What a report writes. -/
structure RecordedTables where
  packages : Table AutomationPackageRecord.id
  verifications : Table AutomationPackageSupplyChainVerificationRecord.id
  envelopes : EnvelopeTable

/-- The report a package has already recorded under a digest. -/
def recordedReport (db : Database) (packageId : UUID) (reportDigest : Digest) :
    Option AutomationPackageSupplyChainVerificationRecord :=
  db.verifications.first? fun record =>
    record.automationPackageId = packageId ∧ record.reportDigest = reportDigest

/-- The package row is locked throughout; a report that was recorded before only uses its nonce. -/
def recordAutomationPackageSupplyChainVerification (P : Primitives) (moment : Instant)
    (recordId projectId targetId packageId : UUID)
    (payload : AutomationPackageSupplyChainVerificationCreate)
    (principal : SupplyChainVerifierPrincipal) (policy : SupplyChainPolicy) (db : Database)
    (envelopes : EnvelopeTable) : Except ServiceError RecordedTables := do
  let package ← getAutomationPackage projectId targetId packageId db
  ensure (payload.verifier = principal.verifier) (.invalidRequest
    "supply-chain report verifier does not match the authenticated service identity")
  ensure (envelopes.get? (principal.credentialId, principal.nonce) = none)
    (.resourceConflict "supply-chain verifier envelope nonce was already used")
  ensure (payload.imageDigest = package.digest)
    (.invalidRequest "supply-chain report image_digest does not match the package")
  ensure (payload.policyVersion = policy.policyVersion)
    (.invalidRequest "supply-chain report policy_version is not current")
  checkPolicy policy payload
  let reportDigest := P.canonicalSha256 (.supplyChainReport packageId payload)
  let used := ServiceError.resourceConflict "supply-chain verifier envelope was already used"
  match recordedReport db packageId reportDigest with
  | some existing => do
    let envelopes ← found (envelopes.insert? ⟨principal.credentialId, principal.nonce, packageId,
      existing.id, principal.verifier, moment⟩) used
    return ⟨db.packages, db.verifications, envelopes⟩
  | none => do
    let verifications ← found
      (db.verifications.insert? (verificationRecord recordId packageId reportDigest payload))
      (.integrityError false)
    let envelopes ← found (envelopes.insert? ⟨principal.credentialId, principal.nonce, packageId,
      recordId, principal.verifier, moment⟩) used
    let packages := db.packages.modify packageId fun package =>
      { package with
        supplyChainStatus := payload.outcome.status
        supplyChainVerificationId := some recordId }
    return ⟨packages, verifications, envelopes⟩

/-! ### Taking a package out of use -/

def setPackageStatus (packageId : UUID) (status : PackageStatus) (reason : String)
    (packages : Table AutomationPackageRecord.id) : Table AutomationPackageRecord.id :=
  packages.modify packageId fun package =>
    { package with status := status, statusReason := some reason }

/-- A deprecation that has checked its package and holds the lock of its row. -/
structure Deprecation where
  packageId : UUID
  reason : String
  deriving DecidableEq

/-- What `deprecateAutomationPackage` checks; a repeated request is not a deprecation any more. -/
def beginDeprecation (projectId targetId packageId : UUID) (reason : String) (db : Database)
    (schedules : ScheduleTable) : Except ServiceError (Option Deprecation) := do
  let package ← getAutomationPackage projectId targetId packageId db
  if package.status = .deprecated ∧ package.statusReason = some reason then
    return none
  else
    ensure (package.status = .active)
      (.resourceConflict "only an ACTIVE automation package can be deprecated")
    ensure (∀ schedule ∈ schedules.rows,
        schedule.automationPackageId = packageId → schedule.status ≠ .active)
      (.resourceConflict "automation package is still used by an ACTIVE regression schedule")
    return some ⟨packageId, reason⟩

def revokeAutomationPackage (projectId targetId packageId : UUID) (reason : String)
    (db : Database) : Except ServiceError (Table AutomationPackageRecord.id) := do
  let package ← getAutomationPackage projectId targetId packageId db
  if package.status = .revoked ∧ package.statusReason = some reason then
    return db.packages
  else
    ensure (package.status ≠ .revoked)
      (.resourceConflict "automation package is already revoked")
    return setPackageStatus packageId .revoked reason db.packages

/-! ### What the commands write -/

theorem getAutomationPackage_ok {projectId targetId packageId : UUID}
    {package : AutomationPackageRecord}
    (h : getAutomationPackage projectId targetId packageId db = .ok package) :
    db.packages.get? packageId = some package := by
  simp only [getAutomationPackage, bind_eq_ok, found_eq_ok, ensure_eq_ok, pure_eq_ok] at h
  obtain ⟨package', hpackage, -, -, rfl⟩ := h
  exact hpackage

/-- A registered package is a draft that waits for a report, or an active one without any. -/
theorem createAutomationPackage_ok {packageId projectId targetId : UUID}
    {payload : AutomationPackageCreate} {draft : Bool} {supersedesId : Option UUID}
    {packages : Table AutomationPackageRecord.id}
    (h : createAutomationPackage packageId projectId targetId payload draft supersedesId db =
      .ok packages) :
    db.packages.insert? (newPackage packageId projectId targetId payload draft) =
      some packages := by
  simp only [createAutomationPackage, bind_eq_ok, found_eq_ok, ensure_eq_ok] at h
  obtain ⟨-, -, -, -, -, -, -, -, -, -, -, -, h⟩ := h
  exact h

/-- What a report that was accepted has written: it used up its envelope, and unless it was recorded
    before, it decided about its package. -/
inductive RecordedAs (P : Primitives) (db : Database) (envelopes : EnvelopeTable)
    (recordId packageId : UUID) (payload : AutomationPackageSupplyChainVerificationCreate)
    (package : AutomationPackageRecord) (recorded : RecordedTables) : Prop
  | again (existing : AutomationPackageSupplyChainVerificationRecord) :
      recordedReport db packageId (P.canonicalSha256 (.supplyChainReport packageId payload)) =
        some existing →
      recorded.packages = db.packages → recorded.verifications = db.verifications →
      RecordedAs P db envelopes recordId packageId payload package recorded
  | first : recordedReport db packageId
        (P.canonicalSha256 (.supplyChainReport packageId payload)) = none →
      payload.imageDigest = package.digest →
      db.verifications.insert? (verificationRecord recordId packageId
        (P.canonicalSha256 (.supplyChainReport packageId payload)) payload) =
          some recorded.verifications →
      recorded.packages = (db.packages.modify packageId fun package =>
        { package with
          supplyChainStatus := payload.outcome.status
          supplyChainVerificationId := some recordId }) →
      RecordedAs P db envelopes recordId packageId payload package recorded

theorem recordVerification_ok {moment : Instant} {recordId projectId targetId packageId : UUID}
    {payload : AutomationPackageSupplyChainVerificationCreate}
    {principal : SupplyChainVerifierPrincipal} {policy : SupplyChainPolicy}
    {envelopes : EnvelopeTable} {recorded : RecordedTables}
    (h : recordAutomationPackageSupplyChainVerification P moment recordId projectId targetId
      packageId payload principal policy db envelopes = .ok recorded) :
    ∃ package envelope, db.packages.get? packageId = some package ∧
      envelope.use = (principal.credentialId, principal.nonce) ∧
      envelopes.insert? envelope = some recorded.envelopes ∧
      RecordedAs P db envelopes recordId packageId payload package recorded := by
  simp only [recordAutomationPackageSupplyChainVerification, bind_eq_ok, ensure_eq_ok] at h
  obtain ⟨package, hpackage, -, -, -, -, -, hdigest, -, -, -, -, h⟩ := h
  have hstored := getAutomationPackage_ok hpackage
  split at h
  · rename_i existing hexisting
    simp only [bind_eq_ok, found_eq_ok, pure_eq_ok] at h
    obtain ⟨envelopes', hinsert, rfl⟩ := h
    exact ⟨package, _, hstored, rfl, hinsert, .again existing hexisting rfl rfl⟩
  · rename_i hnew
    simp only [bind_eq_ok, found_eq_ok, pure_eq_ok] at h
    obtain ⟨verifications, hverifications, envelopes', hinsert, rfl⟩ := h
    exact ⟨package, _, hstored, rfl, hinsert, .first hnew hdigest hverifications rfl⟩

theorem beginDeprecation_ok {projectId targetId packageId : UUID} {reason : String}
    {schedules : ScheduleTable} {deprecation : Deprecation}
    (h : beginDeprecation projectId targetId packageId reason db schedules =
      .ok (some deprecation)) :
    deprecation.packageId = packageId ∧
      (∃ package, db.packages.get? packageId = some package ∧ package.status = .active) ∧
      ∀ schedule ∈ schedules, schedule.automationPackageId = packageId →
        schedule.status ≠ .active := by
  simp only [beginDeprecation, bind_eq_ok] at h
  obtain ⟨package, hpackage, h⟩ := h
  split at h
  · simp only [pure_eq_ok, reduceCtorEq] at h
  · simp only [bind_eq_ok, ensure_eq_ok, pure_eq_ok, Option.some.injEq] at h
    obtain ⟨-, hactive, -, hunused, rfl⟩ := h
    exact ⟨rfl, ⟨package, getAutomationPackage_ok hpackage, hactive⟩, hunused⟩

theorem revokeAutomationPackage_ok {projectId targetId packageId : UUID} {reason : String}
    {packages : Table AutomationPackageRecord.id}
    (h : revokeAutomationPackage projectId targetId packageId reason db = .ok packages) :
    packages = db.packages ∨ packages = setPackageStatus packageId .revoked reason db.packages := by
  simp only [revokeAutomationPackage, bind_eq_ok] at h
  obtain ⟨package, -, h⟩ := h
  split at h
  · simp only [pure_eq_ok] at h
    exact .inl h.symm
  · simp only [bind_eq_ok, ensure_eq_ok, pure_eq_ok] at h
    obtain ⟨-, -, h⟩ := h
    exact .inr h.symm

end TestOps

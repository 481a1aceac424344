import TestOps.Lib.Checked

/-! The versioned contracts between the control plane and its runners: case baselines, the immutable
    snapshot a run executes, and the structured result it reports. A contract object that a
    validator has accepted is a structure whose fields hold the proofs of what was checked. -/

namespace TestOps

/-- Identifiers; `uuid4` draws them, so a command receives its fresh ones as arguments. -/
abbrev UUID := Nat

/-- Timezone-aware instants, in microseconds. -/
abbrev Instant := Int

/-- What happens in one moment is in order. -/
theorem Instant.ordered {moment : Instant} : moment ≤ moment := le_rfl

/-- SHA-256 digests, as the number their hexadecimal text writes. -/
abbrev Digest := Nat

inductive CasePriority where | p0 | p1 | p2 | p3
  deriving DecidableEq

inductive TargetType where | web | app | api
  deriving DecidableEq

inductive RunStatus where
  | queued | preparing | running | passed | failed | canceled | timedOut | infraError
  deriving DecidableEq

inductive CaseResultStatus where | passed | failed | skipped | infraError
  deriving DecidableEq

inductive ArtifactKind where | log | screenshot | video | trace | allure | other
  deriving DecidableEq

inductive RunnerType where | webPlaywright | androidAppium
  deriving DecidableEq

/-! ### Cases -/

/-- The input of a step: a string, a number, a flag, a list, a table, or nothing. -/
inductive StepInput where
  | text (value : String)
  | int (value : Int)
  | float (value : ℚ)
  | bool (value : Bool)
  | list (values : List String)
  | dict (entries : List (String × String))
  | none
  deriving DecidableEq

/-- Python compares `True`, `1` and `1.0` as equal, and dictionaries without their order. -/
def StepInput.comparable : StepInput → StepInput
  | .int value => .float value
  | .bool value => .float (if value then 1 else 0)
  | .dict entries => .dict (entries.insertionSort fun a b => a.1 ≤ b.1)
  | input => input

structure StepDefinition where
  operation : String
  locator : Option String
  input : StepInput
  timeoutSeconds : Option ℚ
  deriving DecidableEq

structure AssertionDefinition where
  type : String
  expected : StepInput
  locator : Option String
  timeoutSeconds : Option ℚ
  deriving DecidableEq

structure CaseSourceTrace where
  worksheet : String
  rowNumber : Nat
  deriving DecidableEq

inductive ExecutionGroup where | a | b | serial | auto
  deriving DecidableEq

def isUpperAlnum (c : Char) : Bool := ('A' ≤ c && c ≤ 'Z') || ('0' ≤ c && c ≤ '9')

/-- The text after the `TC-` that opens a case code. -/
def caseCodeBody (code : String) : Option (List Char) :=
  match code.toList with
  | 'T' :: 'C' :: '-' :: body => some body
  | _ => none

/-- The pattern `TC-[A-Z0-9]+-[A-Z0-9-]+` of a stored case code. -/
def caseCodePattern (code : String) : Bool :=
  (caseCodeBody code).any fun body =>
    match body.dropWhile isUpperAlnum with
    | '-' :: tail =>
      body.takeWhile isUpperAlnum ≠ [] && tail ≠ [] && tail.all fun c => isUpperAlnum c || c == '-'
    | _ => false

/-- The looser pattern `TC-[A-Z0-9-]+` that requests and events are checked against. -/
def looseCaseCodePattern (code : String) : Bool :=
  (caseCodeBody code).any fun body =>
    body ≠ [] && body.all fun c => isUpperAlnum c || c == '-'

theorem looseCaseCodePattern_of_caseCodePattern {code : String} (h : caseCodePattern code = true) :
    looseCaseCodePattern code = true := by
  rw [caseCodePattern, Option.any_eq_true] at h
  obtain ⟨body, hbody, h⟩ := h
  rw [looseCaseCodePattern, hbody, Option.any_some]
  cases htail : body.dropWhile isUpperAlnum with
  | nil => rw [htail] at h; cases h
  | cons c tail =>
    rw [htail] at h
    split at h
    · rename_i heq
      obtain ⟨rfl, rfl⟩ := List.cons.inj heq
      simp only [Bool.and_eq_true, decide_eq_true_eq] at h
      obtain ⟨⟨-, -⟩, hall⟩ := h
      rw [← List.takeWhile_append_dropWhile (p := isUpperAlnum) (l := body), htail]
      simp only [Bool.and_eq_true, decide_eq_true_eq, List.all_append, List.all_cons, hall,
        Bool.and_true]
      refine ⟨by simp, List.all_eq_true.mpr fun c hc => ?_, by simp⟩
      rw [List.mem_takeWhile_imp hc, Bool.true_or]
    · cases h

structure CaseDefinition where
  caseId : UUID
  caseCode : String
  moduleKey : String
  moduleName : String
  title : String
  testPoint : String
  priority : CasePriority
  preconditions : List String
  steps : List StepDefinition
  assertion : AssertionDefinition
  tags : List String
  enabled : Bool
  sourceInstructions : Option String
  dataType : Option String
  expectedResult : Option String
  timeoutSeconds : Option ℚ
  sourceTrace : Option CaseSourceTrace
  notes : Option String
  executionGroup : Option ExecutionGroup
  caseCodeFormed : caseCodePattern caseCode = true
  deriving DecidableEq

def StepDefinition.comparable (step : StepDefinition) : StepDefinition :=
  { step with input := step.input.comparable }

def AssertionDefinition.comparable (assertion : AssertionDefinition) : AssertionDefinition :=
  { assertion with expected := assertion.expected.comparable }

/-- The form in which two cases are compared with `==`. -/
def CaseDefinition.comparable (case : CaseDefinition) : CaseDefinition :=
  { case with
    steps := case.steps.map StepDefinition.comparable
    assertion := case.assertion.comparable }

/-! ### Baselines -/

inductive CaseBaselineSource where
  | legacyExcel (fileName : String) (fileDigest : Digest) (worksheet : String)
  | derivedBaseline (parentBaselineId : UUID) (parentVersion : String) (parentDigest : Digest)
      (changeSet : String)
  deriving DecidableEq

inductive SourceKind where | legacyExcel | derivedBaseline
  deriving DecidableEq

def CaseBaselineSource.kind : CaseBaselineSource → SourceKind
  | .legacyExcel .. => .legacyExcel
  | .derivedBaseline .. => .derivedBaseline

/-- A baseline has at least one case, and neither an id nor a code occurs twice. -/
structure CaseBaseline where
  baselineId : UUID
  projectKey : String
  version : String
  source : CaseBaselineSource
  cases : List CaseDefinition
  casesNonempty : cases ≠ []
  caseIdsNodup : (cases.map CaseDefinition.caseId).Nodup
  caseCodesNodup : (cases.map CaseDefinition.caseCode).Nodup
  deriving DecidableEq

/-- The enabled cases of a baseline, in the order of the baseline. -/
def CaseBaseline.enabledCases (baseline : CaseBaseline) : List CaseDefinition :=
  baseline.cases.filter CaseDefinition.enabled

structure CaseBaselineRef where
  baselineId : UUID
  version : String
  digest : Digest
  caseCount : Nat
  deriving DecidableEq

/-! ### Run snapshots -/

structure RuntimeVariable where
  name : String
  value : String
  deriving DecidableEq

structure SecretBinding where
  name : String
  ref : String
  deriving DecidableEq

structure WebRunConfig where
  baseUrl : String
  headless : Bool
  viewportWidth : Nat
  viewportHeight : Nat
  actionTimeoutSeconds : ℚ
  navigationTimeoutSeconds : ℚ
  ignoreHttpsErrors : Bool
  captureTrace : Bool
  deriving DecidableEq

structure AutomationPackageSupplyChainRef where
  verificationId : UUID
  reportDigest : Digest
  policyVersion : String
  verifier : String
  signatureBundleDigest : Digest
  provenanceDigest : Digest
  sbomDigest : Digest
  certificateIssuer : String
  certificateIdentity : String
  builderId : String
  sourceRepository : String
  sourceRevision : String
  deriving DecidableEq

structure AutomationPackageRef where
  name : String
  version : String
  digest : Digest
  runnerType : RunnerType
  imageRepository : String
  supplyChain : Option AutomationPackageSupplyChainRef
  deriving DecidableEq

structure RunSnapshot where
  runId : UUID
  projectId : UUID
  targetId : UUID
  targetType : TargetType
  environmentId : UUID
  caseBaseline : CaseBaselineRef
  automationPackage : AutomationPackageRef
  cases : List CaseDefinition
  browser : Option String
  webConfig : Option WebRunConfig
  configHash : Digest
  runtimeVariables : List RuntimeVariable
  secretBindings : List SecretBinding
  createdBy : UUID
  createdAt : Instant
  deriving DecidableEq

/-- The runner type a target type needs. -/
def expectedRunner : TargetType → Option RunnerType
  | .web => some .webPlaywright
  | .app => some .androidAppium
  | .api => none

/-- What the model validator of a snapshot demands; a copy of a snapshot is not validated again. -/
structure RunSnapshot.Valid (snapshot : RunSnapshot) : Prop where
  casesNonempty : snapshot.cases ≠ []
  browser : snapshot.targetType = .web → snapshot.browser.any (· ≠ "")
  webConfig : snapshot.webConfig.isSome ↔ snapshot.targetType = .web
  runner : expectedRunner snapshot.targetType = none ∨
    expectedRunner snapshot.targetType = some snapshot.automationPackage.runnerType
  caseIdsNodup : (snapshot.cases.map CaseDefinition.caseId).Nodup
  caseCount : snapshot.cases.length ≤ snapshot.caseBaseline.caseCount
  bindingsNodup : (snapshot.runtimeVariables.map RuntimeVariable.name ++
    snapshot.secretBindings.map SecretBinding.name).Nodup

instance (snapshot : RunSnapshot) : Decidable snapshot.Valid :=
  decidable_of_iff
    (snapshot.cases ≠ [] ∧
      (snapshot.targetType = .web → snapshot.browser.any (· ≠ "")) ∧
      (snapshot.webConfig.isSome ↔ snapshot.targetType = .web) ∧
      (expectedRunner snapshot.targetType = none ∨
        expectedRunner snapshot.targetType = some snapshot.automationPackage.runnerType) ∧
      (snapshot.cases.map CaseDefinition.caseId).Nodup ∧
      snapshot.cases.length ≤ snapshot.caseBaseline.caseCount ∧
      (snapshot.runtimeVariables.map RuntimeVariable.name ++
        snapshot.secretBindings.map SecretBinding.name).Nodup)
    ⟨fun ⟨h₁, h₂, h₃, h₄, h₅, h₆, h₇⟩ => ⟨h₁, h₂, h₃, h₄, h₅, h₆, h₇⟩,
      fun ⟨h₁, h₂, h₃, h₄, h₅, h₆, h₇⟩ => ⟨h₁, h₂, h₃, h₄, h₅, h₆, h₇⟩⟩

/-! ### Results -/

/-- The statuses a result may carry. -/
def RunStatus.isTerminal : RunStatus → Bool
  | .queued | .preparing | .running => false
  | .passed | .failed | .canceled | .timedOut | .infraError => true

structure Artifact where
  artifactId : UUID
  kind : ArtifactKind
  name : String
  uri : String
  digest : Digest
  sizeBytes : Nat
  deriving DecidableEq

/-- The result of one case; a failed one carries a message. -/
structure CaseResult where
  caseId : UUID
  caseCode : String
  status : CaseResultStatus
  startedAt : Instant
  finishedAt : Instant
  durationMs : Nat
  failureCategory : Option String
  errorMessage : Option String
  artifactIds : List UUID
  timesOrdered : startedAt ≤ finishedAt
  failureExplained : status = .failed ∨ status = .infraError → errorMessage.any (· ≠ "")
  deriving DecidableEq

inductive IsolationMode where | inProcess | subprocess | container | kubernetes
  deriving DecidableEq

inductive CredentialScope where | worker | runSecretsOnly
  deriving DecidableEq

inductive NetworkPolicy where | workerDefault | denyAll | allowlist
  deriving DecidableEq

structure RunExecutionIsolationEvidence where
  mode : IsolationMode
  executorVersion : String
  dedicatedProcess : Bool
  credentialScope : CredentialScope
  readOnlyRootFilesystem : Bool
  networkPolicy : NetworkPolicy
  resourceLimitsEnforced : Bool
  runtimeImageId : Option Digest
  memoryLimitBytes : Option Nat
  cpuLimitMillis : Option Nat
  pidsLimit : Option Nat
  ephemeralStorageLimitBytes : Option Nat
  orchestratorNamespace : Option String
  serviceAccountName : Option String
  serviceAccountTokenAutomounted : Option Bool
  deriving DecidableEq

/-- The result of a run: its status is terminal and it does not end before it starts. -/
structure RunResult where
  runId : UUID
  status : RunStatus
  startedAt : Instant
  finishedAt : Instant
  runnerVersion : String
  caseResults : List CaseResult
  artifacts : List Artifact
  executionIsolation : Option RunExecutionIsolationEvidence
  terminal : status.isTerminal = true
  timesOrdered : startedAt ≤ finishedAt
  deriving DecidableEq

end TestOps

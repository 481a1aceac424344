import TestOps.ControlPlane.Schemas

/-! Composing the candidate baseline of a change request: the operations are applied to the base one
    after the other, each leaves a change item behind, and the items decide whether the candidate
    has to be executed before it can be reviewed. -/

namespace TestOps

open Checked Relational

variable {P : Primitives}

/-! ### Change policy -/

def executionRelevantFields : List String :=
  ["$case", "module_key", "module_name", "preconditions", "steps", "assertion", "enabled",
    "timeout_seconds", "execution_group"]

/-- The fields in which two versions of a case differ, in the order of their names. -/
def caseDifferences (before after : CaseDefinition) : List String :=
  ([("assertion", decide (before.assertion ≠ after.assertion)),
    ("case_code", decide (before.caseCode ≠ after.caseCode)),
    ("case_id", decide (before.caseId ≠ after.caseId)),
    ("data_type", decide (before.dataType ≠ after.dataType)),
    ("enabled", decide (before.enabled ≠ after.enabled)),
    ("execution_group", decide (before.executionGroup ≠ after.executionGroup)),
    ("expected_result", decide (before.expectedResult ≠ after.expectedResult)),
    ("module_key", decide (before.moduleKey ≠ after.moduleKey)),
    ("module_name", decide (before.moduleName ≠ after.moduleName)),
    ("notes", decide (before.notes ≠ after.notes)),
    ("preconditions", decide (before.preconditions ≠ after.preconditions)),
    ("priority", decide (before.priority ≠ after.priority)),
    ("source_instructions", decide (before.sourceInstructions ≠ after.sourceInstructions)),
    ("source_trace", decide (before.sourceTrace ≠ after.sourceTrace)),
    ("steps", decide (before.steps ≠ after.steps)),
    ("tags", decide (before.tags ≠ after.tags)),
    ("test_point", decide (before.testPoint ≠ after.testPoint)),
    ("timeout_seconds", decide (before.timeoutSeconds ≠ after.timeoutSeconds)),
    ("title", decide (before.title ≠ after.title))].filter Prod.snd).map Prod.fst

def changedFields : Option CaseDefinition → Option CaseDefinition → List String
  | some before, some after => caseDifferences before.comparable after.comparable
  | _, _ => ["$case"]

def requiresExecutionValidation (changeType : ChangeType) (afterDocument : Option CaseDefinition)
    (fields : List String) : Bool :=
  changeType ≠ .delete && afterDocument.any CaseDefinition.enabled &&
    fields.any (· ∈ executionRelevantFields)

def ChangeItemRecord.requiresValidation (item : ChangeItemRecord) : Bool :=
  requiresExecutionValidation item.changeType item.afterDocument item.changedFields

/-- The case codes the validation run of a change request has to execute. -/
def validationCaseCodes (items : List ChangeItemRecord) : List String :=
  (items.filter ChangeItemRecord.requiresValidation).map ChangeItemRecord.caseCode

/-! ### Composition -/

def operationCaseId : ChangeOperation → UUID
  | .add case => case.caseId
  | .modify case => case.caseId
  | .delete caseId => caseId

def caseById (cases : List CaseDefinition) (caseId : UUID) : Option CaseDefinition :=
  cases.find? fun case => case.caseId = caseId

/-- The cases so far, those added, and the items of the operations applied. -/
structure Composition where
  resultById : List CaseDefinition
  additions : List CaseDefinition
  items : List ChangeItemRecord

def applyOperation (base : CaseBaseline) (changeRequestId : UUID) (composition : Composition)
    (operation : ChangeOperation) : Except ServiceError Composition := do
  let beforeCase := caseById base.cases (operationCaseId operation)
  let sequence := composition.items.length + 1
  match operation with
  | .add afterCase =>
    ensure (beforeCase = none)
      (.invalidRequest ("ADD case_id already exists: " ++ toString afterCase.caseId))
    ensure (∀ case ∈ composition.resultById, case.caseCode ≠ afterCase.caseCode)
      (.invalidRequest ("ADD case_code already exists: " ++ afterCase.caseCode))
    return {
      resultById := composition.resultById ++ [afterCase]
      additions := composition.additions ++ [afterCase]
      items := composition.items ++ [⟨changeRequestId, sequence, .add, afterCase.caseId,
        afterCase.caseCode, none, some afterCase, changedFields none (some afterCase)⟩] }
  | .modify afterCase =>
    let beforeCase ← found beforeCase
      (.invalidRequest ("MODIFY case_id does not exist: " ++ toString afterCase.caseId))
    ensure (beforeCase.caseCode = afterCase.caseCode)
      (.invalidRequest "MODIFY cannot change the stable case_code")
    ensure (beforeCase.comparable ≠ afterCase.comparable)
      (.invalidRequest ("MODIFY has no field changes: " ++ beforeCase.caseCode))
    return { composition with
      resultById := composition.resultById.map fun case =>
        if case.caseId = afterCase.caseId then afterCase else case
      items := composition.items ++ [⟨changeRequestId, sequence, .modify, afterCase.caseId,
        afterCase.caseCode, some beforeCase, some afterCase,
        changedFields (some beforeCase) (some afterCase)⟩] }
  | .delete caseId =>
    let beforeCase ← found beforeCase
      (.invalidRequest ("DELETE case_id does not exist: " ++ toString caseId))
    return { composition with
      resultById := composition.resultById.filter fun case => case.caseId ≠ caseId
      items := composition.items ++ [⟨changeRequestId, sequence, .delete, caseId,
        beforeCase.caseCode, some beforeCase, none, changedFields (some beforeCase) none⟩] }

/-- A baseline from its parts, when they satisfy the validators of the contract. -/
def makeBaseline (baselineId : UUID) (projectKey version : String) (source : CaseBaselineSource)
    (cases : List CaseDefinition) : Except ServiceError CaseBaseline :=
  if h : cases ≠ [] ∧ (cases.map CaseDefinition.caseId).Nodup ∧
      (cases.map CaseDefinition.caseCode).Nodup then
    .ok ⟨baselineId, projectKey, version, source, cases, h.1, h.2.1, h.2.2⟩
  else .error .validationError

/-- The candidate baseline of a change request, with its change items. -/
def composeCandidate (P : Primitives) (base : CaseBaseline) (candidateBaselineId : UUID)
    (candidateVersion : String) (changeRequestId : UUID) (operations : List ChangeOperation) :
    Except ServiceError (CaseBaseline × List ChangeItemRecord) := do
  ensure (operations.map operationCaseId).Nodup
    (.invalidRequest "a case may only appear once in a Change Request")
  let composition ← operations.foldlM (applyOperation base changeRequestId) ⟨base.cases, [], []⟩
  let orderedCases := (base.cases.filterMap fun case =>
    caseById composition.resultById case.caseId) ++ composition.additions
  ensure (orderedCases ≠ [])
    (.invalidRequest "a candidate baseline must retain at least one case")
  let candidate ← makeBaseline candidateBaselineId base.projectKey candidateVersion
    (.derivedBaseline base.baselineId base.version (P.canonicalSha256 (.baseline base))
      ("change-request:" ++ toString changeRequestId)) orderedCases
  return (candidate, composition.items)

theorem makeBaseline_id {baselineId : UUID} {projectKey version : String}
    {source : CaseBaselineSource} {cases : List CaseDefinition} {baseline : CaseBaseline}
    (h : makeBaseline baselineId projectKey version source cases = .ok baseline) :
    baseline.baselineId = baselineId := by
  rw [makeBaseline] at h
  split at h
  · exact Except.ok.inj h ▸ rfl
  · cases h

/-- The candidate carries the identifier drawn for it. -/
theorem composeCandidate_id {base candidate : CaseBaseline} {candidateBaselineId : UUID}
    {candidateVersion : String} {changeRequestId : UUID} {operations : List ChangeOperation}
    {items : List ChangeItemRecord}
    (h : composeCandidate P base candidateBaselineId candidateVersion changeRequestId operations =
      .ok (candidate, items)) : candidate.baselineId = candidateBaselineId := by
  simp only [composeCandidate, bind_eq_ok, ensure_eq_ok, pure_eq_ok, Prod.mk.injEq] at h
  obtain ⟨-, -, composition, -, -, -, baseline, hbaseline, rfl, -⟩ := h
  exact makeBaseline_id hbaseline

/-- An operation adds items of its own change request only. -/
theorem applyOperation_items {base : CaseBaseline} {changeRequestId : UUID}
    {composition composition' : Composition} {operation : ChangeOperation}
    (h : applyOperation base changeRequestId composition operation = .ok composition')
    (hi : ∀ item ∈ composition.items, item.changeRequestId = changeRequestId) :
    ∀ item ∈ composition'.items, item.changeRequestId = changeRequestId := by
  have hadd : ∀ added : ChangeItemRecord, added.changeRequestId = changeRequestId →
      ∀ item ∈ composition.items ++ [added], item.changeRequestId = changeRequestId := by
    intro added hadded item hitem
    rcases List.mem_append.mp hitem with hitem | hitem
    · exact hi item hitem
    · exact List.mem_singleton.mp hitem ▸ hadded
  cases operation with
  | add afterCase =>
    simp only [applyOperation, bind_eq_ok, ensure_eq_ok, pure_eq_ok] at h
    obtain ⟨-, -, -, -, rfl⟩ := h
    exact hadd _ rfl
  | modify afterCase =>
    simp only [applyOperation, bind_eq_ok, ensure_eq_ok, found_eq_ok, pure_eq_ok] at h
    obtain ⟨before, -, -, -, -, -, rfl⟩ := h
    exact hadd _ rfl
  | delete caseId =>
    simp only [applyOperation, bind_eq_ok, found_eq_ok, pure_eq_ok] at h
    obtain ⟨before, -, rfl⟩ := h
    exact hadd _ rfl

theorem composeCandidate_items {base candidate : CaseBaseline} {candidateBaselineId : UUID}
    {candidateVersion : String} {changeRequestId : UUID} {operations : List ChangeOperation}
    {items : List ChangeItemRecord}
    (h : composeCandidate P base candidateBaselineId candidateVersion changeRequestId operations =
      .ok (candidate, items)) : ∀ item ∈ items, item.changeRequestId = changeRequestId := by
  simp only [composeCandidate, bind_eq_ok, ensure_eq_ok, pure_eq_ok, Prod.mk.injEq] at h
  obtain ⟨-, -, composition, hfold, -, -, baseline, -, -, rfl⟩ := h
  exact foldlM_invariant
    (fun composition => ∀ item ∈ composition.items, item.changeRequestId = changeRequestId)
    (fun _ _ _ _ hround => applyOperation_items hround) hfold
    (fun _ hitem => absurd hitem List.not_mem_nil)

end TestOps

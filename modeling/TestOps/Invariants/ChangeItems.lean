import TestOps.Lib.Edits
import TestOps.ControlPlane.ReleaseSessions

/-! Change items as the difference between a base and its candidate. The two constructions read the
    cases of a baseline as a map from their identifiers:

      operations   base ──(one operation per case)──▸ candidate    always a difference
      release      base ◂──(cases of equal codes)──▸ candidate     when codes keep their identifier

    A release is compared by case codes. A renamed case that keeps its identifier is an addition and
    a deletion of one identifier, and the deletion comes last. -/

namespace TestOps

open Checked Relational Edits

variable {P : Primitives} {base candidate : CaseBaseline} {case : CaseDefinition}

/-! ### Canonical documents -/

/-- Canonical JSON orders the keys of a table, and tells numbers, floats and flags apart. -/
def StepInput.canonical : StepInput → StepInput
  | .dict entries => .dict (entries.insertionSort fun a b => a.1 ≤ b.1)
  | input => input

def StepDefinition.canonical (step : StepDefinition) : StepDefinition :=
  { step with input := step.input.canonical }

def AssertionDefinition.canonical (assertion : AssertionDefinition) : AssertionDefinition :=
  { assertion with expected := assertion.expected.canonical }

/-- The form in which two cases are equal exactly when their canonical JSON is. -/
def CaseDefinition.canonical (case : CaseDefinition) : CaseDefinition :=
  { case with
    steps := case.steps.map StepDefinition.canonical
    assertion := case.assertion.canonical }

theorem StepInput.comparable_canonical (input : StepInput) :
    input.canonical.comparable = input.comparable := by
  cases input with
  | dict entries =>
    have htotal : Std.Total fun a b : String × String => a.1 ≤ b.1 := ⟨fun a b => le_total a.1 b.1⟩
    have htrans : IsTrans (String × String) fun a b => a.1 ≤ b.1 := ⟨fun _ _ _ => le_trans⟩
    simp only [canonical, comparable, StepInput.dict.injEq]
    exact (List.pairwise_insertionSort _ entries).insertionSort_eq
  | _ => rfl

/-- What canonical JSON does not tell apart compares as equal. -/
theorem CaseDefinition.comparable_canonical (case : CaseDefinition) :
    case.canonical.comparable = case.comparable := by
  simp [comparable, canonical, StepDefinition.comparable, StepDefinition.canonical,
    AssertionDefinition.comparable, AssertionDefinition.canonical,
    StepInput.comparable_canonical, Function.comp_def]

theorem comparable_of_canonical {case case' : CaseDefinition}
    (h : case.canonical = case'.canonical) : case.comparable = case'.comparable := by
  rw [← case.comparable_canonical, h, case'.comparable_canonical]

/-! ### Operations -/

theorem caseById_eq (cases : List CaseDefinition) :
    caseById cases = lookup CaseDefinition.caseId cases := rfl

theorem caseByCode_eq (cases : List CaseDefinition) :
    caseByCode cases = lookup CaseDefinition.caseCode cases := rfl

/-- The documents of a baseline, by the identifiers of the cases. -/
def documents (f : CaseDefinition → CaseDefinition) (cases : List CaseDefinition) (caseId : UUID) :
    Option CaseDefinition :=
  (caseById cases caseId).map f

def ChangeItemRecord.edit (item : ChangeItemRecord) : Edit UUID CaseDefinition :=
  ⟨item.caseId, item.beforeDocument, item.afterDocument⟩

/-- The case that an item adds. -/
def ChangeItemRecord.addition (item : ChangeItemRecord) : Option CaseDefinition :=
  if item.changeType = .add then item.afterDocument else none

/-- What an item of an operation says about the base. -/
inductive ItemFits (base : CaseBaseline) : ChangeItemRecord → Prop
  | add (requestId : UUID) (sequence : Nat) (fields : List String) (case : CaseDefinition) :
      caseById base.cases case.caseId = none →
      ItemFits base ⟨requestId, sequence, .add, case.caseId, case.caseCode, none, some case, fields⟩
  | modify (requestId : UUID) (sequence : Nat) (fields : List String)
      (before after : CaseDefinition) : caseById base.cases after.caseId = some before →
      before.caseCode = after.caseCode → before.comparable ≠ after.comparable →
      ItemFits base ⟨requestId, sequence, .modify, after.caseId, after.caseCode, some before,
        some after, fields⟩
  | delete (requestId : UUID) (sequence : Nat) (fields : List String) (before : CaseDefinition) :
      caseById base.cases before.caseId = some before →
      ItemFits base ⟨requestId, sequence, .delete, before.caseId, before.caseCode, some before, none,
        fields⟩

/-- The cases so far are the base with the items so far replayed. -/
structure Composes (base : CaseBaseline) (composition : Composition) : Prop where
  result : caseById composition.resultById =
    replay (caseById base.cases) (composition.items.map ChangeItemRecord.edit)
  additions : composition.additions = composition.items.filterMap ChangeItemRecord.addition
  fits : ∀ item ∈ composition.items, ItemFits base item

theorem Composes.item {composition : Composition} (h : Composes base composition)
    {item : ChangeItemRecord} (hitem : ItemFits base item) {result : List CaseDefinition}
    (hresult : caseById result =
      Function.update (caseById composition.resultById) item.caseId item.afterDocument) :
    Composes base ⟨result, composition.additions ++ item.addition.toList,
      composition.items ++ [item]⟩ where
  result := by
    rw [hresult, h.result, List.map_append, replay_append]
    rfl
  additions := by
    rw [h.additions, List.filterMap_append]
    cases haddition : item.addition <;> simp [haddition]
  fits other hother := by
    rcases List.mem_append.mp hother with hold | hnew
    · exact h.fits other hold
    · exact List.mem_singleton.mp hnew ▸ hitem

/-- A case without an item is as in the base. -/
theorem Composes.unchanged {composition : Composition} (h : Composes base composition)
    {caseId : UUID} (hnew : caseId ∉ composition.items.map ChangeItemRecord.caseId) :
    caseById composition.resultById caseId = caseById base.cases caseId := by
  rw [h.result]
  refine replay_of_not_mem ?_
  rw [List.map_map]
  exact hnew

theorem composes_operation {composition composition' : Composition} {requestId : UUID}
    {operation : ChangeOperation} (h : Composes base composition)
    (hnew : operationCaseId operation ∉ composition.items.map ChangeItemRecord.caseId)
    (hstep : applyOperation base requestId composition operation = .ok composition') :
    Composes base composition' ∧ composition'.items.map ChangeItemRecord.caseId =
      composition.items.map ChangeItemRecord.caseId ++ [operationCaseId operation] := by
  have hbase := h.unchanged hnew
  cases operation with
  | add case =>
    simp only [applyOperation, bind_eq_ok, ensure_eq_ok, pure_eq_ok] at hstep
    rcases hstep with ⟨-, hnone, -, -, rfl⟩
    refine ⟨h.item (.add _ _ _ case hnone) ?_, by simp [operationCaseId]⟩
    exact lookup_insert (hbase.trans hnone)
  | modify case =>
    simp only [applyOperation, bind_eq_ok, ensure_eq_ok, found_eq_ok, pure_eq_ok] at hstep
    rcases hstep with ⟨before, hbefore, -, hcode, -, hchanged, rfl⟩
    refine ⟨?_, by simp [operationCaseId]⟩
    have hitem := h.item (.modify requestId (composition.items.length + 1)
      (changedFields (some before) (some case)) before case hbefore hcode hchanged)
      (lookup_replace (Option.isSome_of_mem (hbase.trans hbefore)))
    simpa [ChangeItemRecord.addition] using hitem
  | delete caseId =>
    simp only [applyOperation, bind_eq_ok, found_eq_ok, pure_eq_ok] at hstep
    rcases hstep with ⟨before, hbefore, rfl⟩
    obtain rfl : before.caseId = caseId := key_of_lookup hbefore
    refine ⟨?_, by simp [operationCaseId]⟩
    have hitem := h.item (.delete requestId (composition.items.length + 1)
      (changedFields (some before) none) before hbefore) lookup_remove
    simpa [ChangeItemRecord.addition] using hitem

theorem composes_operations {composition composition' : Composition} {requestId : UUID}
    {operations : List ChangeOperation} (h : Composes base composition)
    (hnodup : (composition.items.map ChangeItemRecord.caseId ++
      operations.map operationCaseId).Nodup)
    (hsteps : operations.foldlM (applyOperation base requestId) composition = .ok composition') :
    Composes base composition' ∧ (composition'.items.map ChangeItemRecord.caseId).Nodup := by
  induction operations generalizing composition with
  | nil =>
    obtain rfl := Except.ok.inj hsteps
    simpa [h] using hnodup
  | cons operation operations ih =>
    simp only [List.foldlM_cons, bind_eq_ok] at hsteps
    rcases hsteps with ⟨next, hstep, hsteps⟩
    rw [List.map_cons] at hnodup
    have hnew : operationCaseId operation ∉ composition.items.map ChangeItemRecord.caseId := by
      intro hmem
      exact (List.nodup_append.mp hnodup).2.2 _ hmem _ List.mem_cons_self rfl
    rcases composes_operation h hnew hstep with ⟨hnext, hids⟩
    refine ih hnext ?_ hsteps
    rw [hids, List.append_assoc]
    exact hnodup

/-- What a composed candidate consists of. -/
structure Composed (base candidate : CaseBaseline) (items : List ChangeItemRecord) : Prop where
  nodup : (items.map ChangeItemRecord.caseId).Nodup
  fits : ∀ item ∈ items, ItemFits base item
  cases : candidate.cases = (base.cases.filterMap fun case =>
    replay (caseById base.cases) (items.map ChangeItemRecord.edit) case.caseId) ++
      items.filterMap ChangeItemRecord.addition

theorem composeCandidate_composed {candidateBaselineId requestId : UUID} {version : String}
    {operations : List ChangeOperation} {items : List ChangeItemRecord}
    (h : composeCandidate P base candidateBaselineId version requestId operations =
      .ok (candidate, items)) : Composed base candidate items := by
  simp only [composeCandidate, bind_eq_ok, ensure_eq_ok, pure_eq_ok, Prod.mk.injEq] at h
  rcases h with ⟨-, hnodup, composition, hsteps, -, -, baseline, hbaseline, rfl, rfl⟩
  have hempty : Composes base ⟨base.cases, [], []⟩ :=
    ⟨rfl, rfl, fun _ hitem => absurd hitem List.not_mem_nil⟩
  rcases composes_operations hempty (by simpa using hnodup) hsteps with ⟨hcomposes, hitems⟩
  refine ⟨hitems, hcomposes.fits, ?_⟩
  rw [makeBaseline] at hbaseline
  split at hbaseline
  · obtain rfl := Except.ok.inj hbaseline
    rw [← hcomposes.result, ← hcomposes.additions]
  · cases hbaseline

theorem ItemFits.before {item : ChangeItemRecord} (h : ItemFits base item) :
    item.beforeDocument = caseById base.cases item.caseId := by
  cases h with
  | add _ _ _ case hnone => exact hnone.symm
  | modify _ _ _ before after hbefore => exact hbefore.symm
  | delete _ _ _ before hbefore => exact hbefore.symm

/-- What comes after an item has its identifier. -/
theorem ItemFits.after_id {item : ChangeItemRecord} (h : ItemFits base item)
    (hafter : item.afterDocument = some case) : case.caseId = item.caseId := by
  cases h with
  | delete => cases hafter
  | add | modify =>
    obtain rfl := Option.some.inj hafter
    rfl

/-- A case that comes in where the base has none has been added. -/
theorem ItemFits.addition_eq {item : ChangeItemRecord} (h : ItemFits base item)
    (hnew : caseById base.cases item.caseId = none) : item.addition = item.afterDocument := by
  cases h with
  | add => rfl
  | modify _ _ _ before after hbefore => cases hbefore.symm.trans hnew
  | delete _ _ _ before hbefore => cases hbefore.symm.trans hnew

theorem ItemFits.of_addition {item : ChangeItemRecord} (h : ItemFits base item)
    (haddition : item.addition = some case) : item.afterDocument = some case := by
  cases h with
  | add => exact haddition
  | modify | delete => cases haddition

namespace Composed

variable {items : List ChangeItemRecord}

theorem keys (items : List ChangeItemRecord) :
    (items.map ChangeItemRecord.edit).map Edit.key = items.map ChangeItemRecord.caseId := by
  simp [ChangeItemRecord.edit, Function.comp_def]

theorem replay_item (h : Composed base candidate items) {item : ChangeItemRecord}
    (hitem : item ∈ items) : replay (caseById base.cases) (items.map ChangeItemRecord.edit)
      item.caseId = item.afterDocument := by
  have hnodup : ((items.map ChangeItemRecord.edit).map Edit.key).Nodup := by
    rw [keys]
    exact h.nodup
  exact replay_of_nodup hnodup (List.mem_map_of_mem hitem)

/-- Every replayed case is where its identifier is. -/
theorem replay_id (h : Composed base candidate items) {caseId : UUID}
    (hcase : replay (caseById base.cases) (items.map ChangeItemRecord.edit) caseId = some case) :
    case.caseId = caseId := by
  by_cases hlisted : caseId ∈ items.map ChangeItemRecord.caseId
  · rcases List.mem_map.mp hlisted with ⟨item, hitem, rfl⟩
    rw [h.replay_item hitem] at hcase
    exact (h.fits item hitem).after_id hcase
  · rw [replay_of_not_mem (by rwa [keys])] at hcase
    exact key_of_lookup hcase

/-- The cases of the candidate are the replayed ones. -/
theorem mem_cases (h : Composed base candidate items) :
    case ∈ candidate.cases ↔ replay (caseById base.cases) (items.map ChangeItemRecord.edit)
      case.caseId = some case := by
  rw [h.cases, List.mem_append, List.mem_filterMap, List.mem_filterMap]
  constructor
  · rintro (⟨before, -, hcase⟩ | ⟨item, hitem, haddition⟩)
    · rwa [h.replay_id hcase]
    · have hfits := h.fits item hitem
      have hafter := hfits.of_addition haddition
      rw [hfits.after_id hafter, h.replay_item hitem, hafter]
  · intro hcase
    cases hbefore : caseById base.cases case.caseId with
    | some before =>
      have hid : before.caseId = case.caseId := key_of_lookup hbefore
      exact .inl ⟨before, mem_of_lookup hbefore, hid ▸ hcase⟩
    | none =>
      have hlisted : case.caseId ∈ items.map ChangeItemRecord.caseId := by
        by_contra hnot
        rw [replay_of_not_mem (by rwa [keys]), hbefore] at hcase
        cases hcase
      rcases List.mem_map.mp hlisted with ⟨item, hitem, hid⟩
      rw [← hid, h.replay_item hitem] at hcase
      refine .inr ⟨item, hitem, ?_⟩
      rw [(h.fits item hitem).addition_eq (hid ▸ hbefore), hcase]

theorem caseById_cases (h : Composed base candidate items) : caseById candidate.cases =
    replay (caseById base.cases) (items.map ChangeItemRecord.edit) := by
  funext caseId
  refine Option.ext fun case => ?_
  rw [caseById_eq, lookup_eq_some candidate.caseIdsNodup, h.mem_cases]
  constructor
  · rintro ⟨hcase, rfl⟩
    exact hcase
  · intro hcase
    obtain rfl := h.replay_id hcase
    exact ⟨hcase, rfl⟩

/-- The items are the difference of the canonical documents. -/
theorem difference (h : Composed base candidate items) :
    Difference (documents CaseDefinition.canonical base.cases)
      (documents CaseDefinition.canonical candidate.cases)
      (items.map fun item => item.edit.map CaseDefinition.canonical) := by
  have hkeys : (items.map fun item => item.edit.map CaseDefinition.canonical).map Edit.key =
      items.map ChangeItemRecord.caseId := by
    simp [ChangeItemRecord.edit, Edit.map, Function.comp_def]
  refine Describes.difference ⟨?_, ?_, ?_, ?_, ?_⟩
  · rw [hkeys]
    exact h.nodup
  · intro e he
    rcases List.mem_map.mp he with ⟨item, hitem, rfl⟩
    exact congrArg (Option.map CaseDefinition.canonical) (h.fits item hitem).before
  · intro e he
    rcases List.mem_map.mp he with ⟨item, hitem, rfl⟩
    refine congrArg (Option.map CaseDefinition.canonical) ?_
    rw [h.caseById_cases]
    exact (h.replay_item hitem).symm
  · intro e he
    rcases List.mem_map.mp he with ⟨item, hitem, rfl⟩
    cases h.fits item hitem with
    | add | delete => simp [ChangeItemRecord.edit, Edit.map]
    | modify _ _ _ before after _ _ hchanged =>
      intro hsame
      exact hchanged (comparable_of_canonical (Option.some.inj hsame))
  · intro caseId hother
    rw [hkeys] at hother
    rw [documents, documents, h.caseById_cases, replay_of_not_mem (by rwa [keys])]

end Composed

/-! ### Releases -/

def ItemDocument.edit (item : ItemDocument) : Edit UUID CaseDefinition :=
  ⟨item.caseId, item.beforeDocument, item.afterDocument⟩

/-- The canonical document of a case, without its place in the workbook. -/
def releaseDocument (case : CaseDefinition) : CaseDefinition :=
  (comparableCaseDocument case).canonical

/-- The edit that a case of the candidate stands for. -/
def candidateEdit (base : CaseBaseline) (case : CaseDefinition) :
    Option (Edit UUID CaseDefinition) :=
  let after := comparableCaseDocument case
  match caseByCode base.cases case.caseCode with
  | none => some ⟨case.caseId, none, some after⟩
  | some beforeCase =>
    let before := comparableCaseDocument beforeCase
    if before.comparable = after.comparable then none
    else some ⟨case.caseId, some before, some after⟩

/-- The edit that a case of the base stands for. -/
def deletedEdit (candidate : CaseBaseline) (case : CaseDefinition) :
    Option (Edit UUID CaseDefinition) :=
  if (caseByCode candidate.cases case.caseCode).isSome then none
  else some ⟨case.caseId, some (comparableCaseDocument case), none⟩

theorem candidateEdit_eq_some {e : Edit UUID CaseDefinition}
    (h : candidateEdit base case = some e) :
    (caseByCode base.cases case.caseCode = none ∧
      e = ⟨case.caseId, none, some (comparableCaseDocument case)⟩) ∨
    ∃ before, caseByCode base.cases case.caseCode = some before ∧
      (comparableCaseDocument before).comparable ≠ (comparableCaseDocument case).comparable ∧
      e = ⟨case.caseId, some (comparableCaseDocument before),
        some (comparableCaseDocument case)⟩ := by
  rw [candidateEdit] at h
  split at h
  · rename_i hnone
    exact .inl ⟨hnone, (Option.some.inj h).symm⟩
  · rename_i before hbefore
    by_cases hsame :
        (comparableCaseDocument before).comparable = (comparableCaseDocument case).comparable
    · simp [hsame] at h
    · simp only [hsame, if_false, Option.some.injEq] at h
      exact .inr ⟨before, hbefore, hsame, h.symm⟩

theorem deletedEdit_eq_some {e : Edit UUID CaseDefinition} :
    deletedEdit candidate case = some e ↔ (∀ other ∈ candidate.cases,
      other.caseCode ≠ case.caseCode) ∧
      e = ⟨case.caseId, some (comparableCaseDocument case), none⟩ := by
  rw [deletedEdit]
  cases hfound : caseByCode candidate.cases case.caseCode with
  | some other =>
    have hmem : other ∈ candidate.cases := mem_of_lookup hfound
    have hcode : other.caseCode = case.caseCode := key_of_lookup hfound
    simp only [Option.isSome_some, if_true, reduceCtorEq, false_iff, not_and]
    intro hgone
    exact absurd hcode (hgone other hmem)
  | none =>
    simp only [Option.isSome_none, Bool.false_eq_true, if_false, Option.some.injEq]
    constructor
    · rintro rfl
      exact ⟨lookup_eq_none.mp hfound, rfl⟩
    · rintro ⟨-, rfl⟩
      rfl

theorem candidateEdit_key {e : Edit UUID CaseDefinition}
    (h : candidateEdit base case = some e) : e.key = case.caseId := by
  rcases candidateEdit_eq_some h with ⟨-, rfl⟩ | ⟨before, -, -, rfl⟩ <;> rfl

theorem deletedEdit_key {e : Edit UUID CaseDefinition}
    (h : deletedEdit candidate case = some e) : e.key = case.caseId := by
  rcases deletedEdit_eq_some.mp h with ⟨-, rfl⟩
  rfl

/-- The edits of an accepted release: cases of equal codes have equal identifiers. -/
structure Matched (base candidate : CaseBaseline) (edits : List (Edit UUID CaseDefinition)) :
    Prop where
  edits_eq : edits = candidate.cases.filterMap (candidateEdit base) ++
    base.cases.filterMap (deletedEdit candidate)
  ids : ∀ case ∈ candidate.cases, ∀ before ∈ caseByCode base.cases case.caseCode,
    before.caseId = case.caseId

theorem edits_add {diff : CaseDiff} {changeType : ChangeType} {before after : Option CaseDefinition} :
    (diff.add changeType case before after).documents.map ItemDocument.edit =
      diff.documents.map ItemDocument.edit ++ [⟨case.caseId, before, after⟩] := by
  simp [CaseDiff.add, ItemDocument.edit]

theorem candidateCase_edits {diff next : CaseDiff}
    (h : diffCandidateCase base diff case = .ok next) :
    next.documents.map ItemDocument.edit =
      diff.documents.map ItemDocument.edit ++ (candidateEdit base case).toList ∧
    ∀ before ∈ caseByCode base.cases case.caseCode, before.caseId = case.caseId := by
  rw [diffCandidateCase] at h
  rw [candidateEdit]
  cases hbefore : caseByCode base.cases case.caseCode with
  | none =>
    rw [hbefore] at h
    obtain rfl := Except.ok.inj h
    simp [edits_add]
  | some before =>
    rw [hbefore] at h
    simp only [bind_eq_ok, ensure_eq_ok] at h
    rcases h with ⟨-, hid, h⟩
    split at h
    · rename_i hsame
      obtain rfl := Except.ok.inj h
      simp [hsame, hid]
    · rename_i hsame
      obtain rfl := Except.ok.inj h
      simp [hsame, hid, edits_add]

theorem candidateCases_edits {cases : List CaseDefinition} {diff next : CaseDiff}
    (h : cases.foldlM (diffCandidateCase base) diff = .ok next) :
    next.documents.map ItemDocument.edit =
      diff.documents.map ItemDocument.edit ++ cases.filterMap (candidateEdit base) ∧
    ∀ case ∈ cases, ∀ before ∈ caseByCode base.cases case.caseCode,
      before.caseId = case.caseId := by
  induction cases generalizing diff with
  | nil =>
    obtain rfl := Except.ok.inj h
    simp
  | cons case cases ih =>
    simp only [List.foldlM_cons, bind_eq_ok] at h
    rcases h with ⟨middle, hcase, hrest⟩
    rcases candidateCase_edits hcase with ⟨hfirst, hid⟩
    rcases ih hrest with ⟨hlater, hids⟩
    refine ⟨?_, List.forall_mem_cons.mpr ⟨hid, hids⟩⟩
    rw [hlater, hfirst, List.append_assoc]
    cases hedit : candidateEdit base case <;> simp [hedit]

theorem baseCases_edits {cases : List CaseDefinition} {diff : CaseDiff} :
    (cases.foldl (diffBaseCase candidate) diff).documents.map ItemDocument.edit =
      diff.documents.map ItemDocument.edit ++ cases.filterMap (deletedEdit candidate) := by
  induction cases generalizing diff with
  | nil => simp
  | cons case cases ih =>
    rw [List.foldl_cons, ih, diffBaseCase]
    by_cases hkept : (caseByCode candidate.cases case.caseCode).isSome = true
    · simp [hkept, deletedEdit]
    · simp [hkept, deletedEdit, edits_add]

theorem diffCases_matched {diff : CaseDiff} (h : diffCases base candidate = .ok diff) :
    Matched base candidate (diff.documents.map ItemDocument.edit) := by
  simp only [diffCases, bind_eq_ok, ensure_eq_ok, pure_eq_ok] at h
  rcases h with ⟨found, hfound, -, -, rfl⟩
  rcases candidateCases_edits hfound with ⟨hedits, hids⟩
  refine ⟨?_, hids⟩
  rw [baseCases_edits, hedits]
  simp

/-! The two ways in which a release goes unnoticed by its items. -/

/-- A case with a new code has a new identifier. -/
def KeepsIds (base candidate : CaseBaseline) : Prop :=
  ∀ case ∈ candidate.cases, caseByCode base.cases case.caseCode = none →
    caseById base.cases case.caseId = none

/-- Cases that compare as equal have equal canonical documents. -/
def TellsApart (base candidate : CaseBaseline) : Prop :=
  ∀ case ∈ candidate.cases, ∀ before ∈ caseByCode base.cases case.caseCode,
    (comparableCaseDocument before).comparable = (comparableCaseDocument case).comparable →
      releaseDocument before = releaseDocument case

instance : Decidable (KeepsIds base candidate) :=
  inferInstanceAs (Decidable (∀ case ∈ candidate.cases, _ → _))

instance : Decidable (TellsApart base candidate) :=
  inferInstanceAs (Decidable (∀ case ∈ candidate.cases, ∀ before ∈ caseByCode _ _, _ → _))

namespace Matched

variable {edits : List (Edit UUID CaseDefinition)} {before : CaseDefinition}

/-- Cases of one code are cases of one identifier. -/
theorem same_id (h : Matched base candidate edits) (hbefore : before ∈ base.cases)
    (hcase : case ∈ candidate.cases) (hcode : before.caseCode = case.caseCode) :
    before.caseId = case.caseId :=
  h.ids case hcase before ((lookup_eq_some base.caseCodesNodup).mpr ⟨hbefore, hcode⟩)

/-- Where codes keep their identifier, cases of one identifier are cases of one code. -/
theorem same_code (h : Matched base candidate edits) (hkeeps : KeepsIds base candidate)
    (hbefore : before ∈ base.cases) (hcase : case ∈ candidate.cases)
    (hid : before.caseId = case.caseId) : before.caseCode = case.caseCode := by
  cases hfound : caseByCode base.cases case.caseCode with
  | none => exact absurd hid (lookup_eq_none.mp (hkeeps case hcase hfound) before hbefore)
  | some other =>
    have hother : other ∈ base.cases := mem_of_lookup hfound
    have hcode : other.caseCode = case.caseCode := key_of_lookup hfound
    have hsame : other.caseId = before.caseId := (h.ids case hcase other hfound).trans hid.symm
    rwa [List.inj_on_of_nodup_map base.caseIdsNodup hother hbefore hsame] at hcode

theorem nodup (h : Matched base candidate edits) (hkeeps : KeepsIds base candidate) :
    (edits.map Edit.key).Nodup := by
  rw [h.edits_eq, List.map_append, List.nodup_append]
  refine ⟨candidate.caseIdsNodup.sublist (keys_filterMap fun _ _ => candidateEdit_key),
    base.caseIdsNodup.sublist (keys_filterMap fun _ _ => deletedEdit_key), ?_⟩
  rintro key hkey key' hkey' rfl
  rcases List.mem_map.mp hkey with ⟨e, he, rfl⟩
  rcases List.mem_map.mp hkey' with ⟨e', he', hsame⟩
  rcases List.mem_filterMap.mp he with ⟨case, hcase, hedit⟩
  rcases List.mem_filterMap.mp he' with ⟨before, hbefore, hdeleted⟩
  rw [candidateEdit_key hedit, deletedEdit_key hdeleted] at hsame
  exact (deletedEdit_eq_some.mp hdeleted).1 case hcase
    (h.same_code hkeeps hbefore hcase hsame).symm

/-- The edits are the difference, when codes keep their identifier and equal cases have equal
    documents. -/
theorem difference (h : Matched base candidate edits) (hkeeps : KeepsIds base candidate)
    (happart : TellsApart base candidate) :
    Difference (documents releaseDocument base.cases) (documents releaseDocument candidate.cases)
      (edits.map (Edit.map CaseDefinition.canonical)) := by
  have hkeys : (edits.map (Edit.map CaseDefinition.canonical)).map Edit.key =
      edits.map Edit.key := by
    simp [Edit.map, Function.comp_def]
  have hat : ∀ {cases : List CaseDefinition} {case : CaseDefinition},
      (cases.map CaseDefinition.caseId).Nodup → case ∈ cases →
        documents releaseDocument cases case.caseId = some (releaseDocument case) := by
    intro cases case hnodup hcase
    rw [documents, caseById_eq, (lookup_eq_some hnodup).mpr ⟨hcase, rfl⟩, Option.map_some]
  have hmem : ∀ e ∈ edits, (∃ case ∈ candidate.cases, candidateEdit base case = some e) ∨
      ∃ before ∈ base.cases, deletedEdit candidate before = some e := by
    intro e he
    rw [h.edits_eq] at he
    simpa [List.mem_filterMap] using he
  have hnone : ∀ before ∈ base.cases, (∀ other ∈ candidate.cases,
      other.caseCode ≠ before.caseCode) →
        documents releaseDocument candidate.cases before.caseId = none := by
    intro before hbefore hgone
    rw [documents, caseById_eq, lookup_eq_none.mpr, Option.map_none]
    intro case hcase hid
    exact hgone case hcase (h.same_code hkeeps hbefore hcase hid.symm).symm
  refine Describes.difference ⟨?_, ?_, ?_, ?_, ?_⟩
  · rw [hkeys]
    exact h.nodup hkeeps
  · intro e he
    rcases List.mem_map.mp he with ⟨e₀, he₀, rfl⟩
    rcases hmem e₀ he₀ with ⟨case, hcase, hedit⟩ | ⟨before, hbefore, hdeleted⟩
    · rcases candidateEdit_eq_some hedit with ⟨hnew, rfl⟩ | ⟨before, hbefore, -, rfl⟩
      · simp [Edit.map, documents, hkeeps case hcase hnew]
      · have hid := h.ids case hcase before hbefore
        simp only [Edit.map, ← hid]
        rw [hat base.caseIdsNodup (mem_of_lookup hbefore)]
        rfl
    · rcases deletedEdit_eq_some.mp hdeleted with ⟨-, rfl⟩
      simp only [Edit.map]
      rw [hat base.caseIdsNodup hbefore]
      rfl
  · intro e he
    rcases List.mem_map.mp he with ⟨e₀, he₀, rfl⟩
    rcases hmem e₀ he₀ with ⟨case, hcase, hedit⟩ | ⟨before, hbefore, hdeleted⟩
    · rcases candidateEdit_eq_some hedit with ⟨-, rfl⟩ | ⟨before, -, -, rfl⟩ <;>
      · simp only [Edit.map]
        rw [hat candidate.caseIdsNodup hcase]
        rfl
    · rcases deletedEdit_eq_some.mp hdeleted with ⟨hgone, rfl⟩
      simp only [Edit.map]
      rw [hnone before hbefore hgone]
      rfl
  · intro e he
    rcases List.mem_map.mp he with ⟨e₀, he₀, rfl⟩
    rcases hmem e₀ he₀ with ⟨case, hcase, hedit⟩ | ⟨before, hbefore, hdeleted⟩
    · rcases candidateEdit_eq_some hedit with ⟨-, rfl⟩ | ⟨before, -, hchanged, rfl⟩
      · simp [Edit.map]
      · intro hsame
        exact hchanged (comparable_of_canonical (Option.some.inj hsame))
    · rcases deletedEdit_eq_some.mp hdeleted with ⟨-, rfl⟩
      simp [Edit.map]
  · intro caseId hother
    rw [hkeys] at hother
    have hnot : ∀ e ∈ edits, e.key ≠ caseId := by
      rintro e he rfl
      exact hother (List.mem_map_of_mem he)
    cases hcase : caseById candidate.cases caseId with
    | some case =>
      obtain rfl : case.caseId = caseId := key_of_lookup hcase
      have hmemCase : case ∈ candidate.cases := mem_of_lookup hcase
      have hunlisted : candidateEdit base case = none := by
        refine Option.eq_none_iff_forall_ne_some.mpr fun e hedit => ?_
        refine hnot e ?_ (candidateEdit_key hedit)
        rw [h.edits_eq]
        exact List.mem_append_left _ (List.mem_filterMap.mpr ⟨case, hmemCase, hedit⟩)
      rw [candidateEdit] at hunlisted
      split at hunlisted
      · cases hunlisted
      · rename_i before hbefore
        by_cases hsame :
            (comparableCaseDocument before).comparable = (comparableCaseDocument case).comparable
        · rw [hat candidate.caseIdsNodup hmemCase, ← happart case hmemCase before hbefore hsame,
            ← h.ids case hmemCase before hbefore, hat base.caseIdsNodup (mem_of_lookup hbefore)]
        · simp [hsame] at hunlisted
    | none =>
      rw [documents, documents, hcase]
      cases hbefore : caseById base.cases caseId with
      | none => rfl
      | some before =>
        obtain rfl : before.caseId = caseId := key_of_lookup hbefore
        have hmemBefore : before ∈ base.cases := mem_of_lookup hbefore
        have hkept : ∃ other ∈ candidate.cases, other.caseCode = before.caseCode := by
          by_contra hgone
          refine hnot ⟨before.caseId, some (comparableCaseDocument before), none⟩ ?_ rfl
          rw [h.edits_eq]
          exact List.mem_append_right _ (List.mem_filterMap.mpr ⟨before, hmemBefore,
            deletedEdit_eq_some.mpr ⟨fun other hother hcode => hgone ⟨other, hother, hcode⟩, rfl⟩⟩)
        rcases hkept with ⟨other, hother, hcode⟩
        exact absurd (h.same_id hmemBefore hother hcode.symm).symm
          (lookup_eq_none.mp hcase other hother)

/-- A renamed case that keeps its identifier is added and then deleted. -/
theorem keepsIds (h : Matched base candidate edits)
    (hdifference : Difference (documents releaseDocument base.cases)
      (documents releaseDocument candidate.cases)
      (edits.map (Edit.map CaseDefinition.canonical))) : KeepsIds base candidate := by
  intro case hcase hnew
  by_contra hold
  rcases Option.ne_none_iff_exists'.mp hold with ⟨before, hbefore⟩
  have hmem : before ∈ base.cases := mem_of_lookup hbefore
  have hid : before.caseId = case.caseId := key_of_lookup hbefore
  have hgone : ∀ other ∈ candidate.cases, other.caseCode ≠ before.caseCode := by
    intro other hother hcode
    have hsame : other.caseId = case.caseId := (h.same_id hmem hother hcode.symm).symm.trans hid
    rw [List.inj_on_of_nodup_map candidate.caseIdsNodup hother hcase hsame] at hcode
    exact lookup_eq_none.mp hnew before hmem hcode.symm
  have hdeleted : (⟨before.caseId, some (comparableCaseDocument before), none⟩ :
      Edit UUID CaseDefinition) ∈ base.cases.filterMap (deletedEdit candidate) :=
    List.mem_filterMap.mpr ⟨before, hmem, deletedEdit_eq_some.mpr ⟨hgone, rfl⟩⟩
  have hnodup : ((base.cases.filterMap (deletedEdit candidate)).map Edit.key).Nodup :=
    base.caseIdsNodup.sublist (keys_filterMap fun _ _ => deletedEdit_key)
  have hlast := replay_append_of_nodup (m := documents releaseDocument base.cases)
    ((candidate.cases.filterMap (candidateEdit base)).map (Edit.map CaseDefinition.canonical))
    (by simpa [Edit.map, Function.comp_def] using hnodup)
    (List.mem_map_of_mem (f := Edit.map CaseDefinition.canonical) hdeleted)
  rw [← List.map_append, ← h.edits_eq, hdifference.replayed] at hlast
  simp only [Edit.map, Option.map_none, hid] at hlast
  rw [documents, caseById_eq, (lookup_eq_some candidate.caseIdsNodup).mpr ⟨hcase, rfl⟩] at hlast
  cases hlast

/-- A case whose document has changed is listed, so it does not compare as equal. -/
theorem tellsApart (h : Matched base candidate edits)
    (hdifference : Difference (documents releaseDocument base.cases)
      (documents releaseDocument candidate.cases)
      (edits.map (Edit.map CaseDefinition.canonical))) : TellsApart base candidate := by
  intro case hcase before hbefore hsame
  by_contra hchanged
  have hmem : before ∈ base.cases := mem_of_lookup hbefore
  have hcode : before.caseCode = case.caseCode := key_of_lookup hbefore
  have hid := h.ids case hcase before hbefore
  have hlisted : case.caseId ∈ (edits.map (Edit.map CaseDefinition.canonical)).map Edit.key := by
    rw [hdifference.listed, documents, documents, caseById_eq, caseById_eq,
      (lookup_eq_some base.caseIdsNodup).mpr ⟨hmem, hid⟩,
      (lookup_eq_some candidate.caseIdsNodup).mpr ⟨hcase, rfl⟩]
    intro hequal
    exact hchanged (Option.some.inj hequal)
  rw [h.edits_eq] at hlisted
  simp only [List.map_map, List.map_append, List.mem_append, List.mem_map, List.mem_filterMap,
    Function.comp_apply, Edit.map] at hlisted
  rcases hlisted with ⟨e, ⟨other, hother, hedit⟩, hkey⟩ | ⟨e, ⟨other, hother, hdeleted⟩, hkey⟩
  · rw [candidateEdit_key hedit] at hkey
    obtain rfl := List.inj_on_of_nodup_map candidate.caseIdsNodup hother hcase hkey
    rcases candidateEdit_eq_some hedit with ⟨hnew, -⟩ | ⟨before', hbefore', hne, -⟩
    · cases hnew.symm.trans hbefore
    · obtain rfl := Option.some.inj (hbefore'.symm.trans hbefore)
      exact hne hsame
  · rw [deletedEdit_key hdeleted] at hkey
    obtain rfl := List.inj_on_of_nodup_map base.caseIdsNodup hother hmem (hkey.trans hid.symm)
    exact (deletedEdit_eq_some.mp hdeleted).1 case hcase hcode.symm

theorem difference_iff (h : Matched base candidate edits) :
    Difference (documents releaseDocument base.cases) (documents releaseDocument candidate.cases)
      (edits.map (Edit.map CaseDefinition.canonical)) ↔
    KeepsIds base candidate ∧ TellsApart base candidate := by
  constructor
  · intro hdifference
    exact ⟨h.keepsIds hdifference, h.tellsApart hdifference⟩
  · rintro ⟨hkeeps, happart⟩
    exact h.difference hkeeps happart

end Matched

/-! ### The recorded items -/

/-- The items of composed candidates are the difference of base and candidate, which has the cases in
    the order of the base and then the additions. The items of an accepted release are the difference
    exactly when no renamed case keeps its identifier and no changed case compares as equal. -/
theorem change_items_exact (P : Primitives) (base candidate : CaseBaseline) :
    (∀ candidateBaselineId version requestId operations items,
      composeCandidate P base candidateBaselineId version requestId operations =
        .ok (candidate, items) →
      Difference (documents CaseDefinition.canonical base.cases)
        (documents CaseDefinition.canonical candidate.cases)
        (items.map fun item => item.edit.map CaseDefinition.canonical) ∧
      candidate.cases = (base.cases.filterMap fun case =>
        caseById candidate.cases case.caseId) ++ items.filterMap ChangeItemRecord.addition) ∧
    ∀ diff, diffCases base candidate = .ok diff →
      (Difference (documents releaseDocument base.cases)
        (documents releaseDocument candidate.cases)
        (diff.documents.map fun item => item.edit.map CaseDefinition.canonical) ↔
      KeepsIds base candidate ∧ TellsApart base candidate) := by
  constructor
  · intro candidateBaselineId version requestId operations items hcompose
    have hcomposed := composeCandidate_composed hcompose
    refine ⟨hcomposed.difference, ?_⟩
    rw [hcomposed.caseById_cases]
    exact hcomposed.cases
  · intro diff hdiff
    have hiff := (diffCases_matched hdiff).difference_iff
    rwa [List.map_map] at hiff

open Installation in
/-- The second case is dropped, by an operation and by a release. -/
theorem change_items_exact_dropped :
    (∃ candidate items, composeCandidate primitives baseline 41 "v2" 40 [.delete 2] =
        .ok (candidate, items) ∧
      Difference (documents CaseDefinition.canonical baseline.cases)
        (documents CaseDefinition.canonical candidate.cases)
        (items.map fun item => item.edit.map CaseDefinition.canonical)) ∧
    ∃ diff, diffCases baseline (shortened 41 "v2") = .ok diff ∧
      Difference (documents releaseDocument baseline.cases)
        (documents releaseDocument (shortened 41 "v2").cases)
        (diff.documents.map fun item => item.edit.map CaseDefinition.canonical) := by
  have hcomposes :
      (composeCandidate primitives baseline 41 "v2" 40 [.delete 2]).toOption.isSome = true := by
    decide +kernel
  have hdiffers : (diffCases baseline (shortened 41 "v2")).toOption.isSome = true := by
    decide +kernel
  rcases ok_of_isSome hcomposes with ⟨⟨candidate, items⟩, hcompose⟩
  rcases ok_of_isSome hdiffers with ⟨diff, hdiff⟩
  have hdropped := (change_items_exact primitives baseline candidate).1 _ _ _ _ _ hcompose
  have hreleased := (change_items_exact primitives baseline (shortened 41 "v2")).2 diff hdiff
  exact ⟨⟨candidate, items, hcompose, hdropped.1⟩, diff, hdiff,
    hreleased.mpr ⟨by decide +kernel, by decide +kernel⟩⟩

namespace Installation

/-- The second case has another code, and its identifier. -/
def renamed : CaseBaseline where
  baselineId := 41
  projectKey := "shop"
  version := "v2"
  source := .legacyExcel "cases.xlsx" 0 "Sheet1"
  cases := [caseA, Installation.case 2 "TC-A-9" (by decide)]
  casesNonempty := List.cons_ne_nil _ _
  caseIdsNodup := by decide
  caseCodesNodup := by decide

end Installation

open Installation in
/-- The renamed case is added and then deleted: its items do not lead to the candidate. -/
theorem renamed_case_deleted : ∃ diff, diffCases baseline renamed = .ok diff ∧
    ¬Difference (documents releaseDocument baseline.cases)
      (documents releaseDocument renamed.cases)
      (diff.documents.map fun item => item.edit.map CaseDefinition.canonical) := by
  have hdiffers : (diffCases baseline renamed).toOption.isSome = true := by
    decide +kernel
  have hrenamed : ¬KeepsIds baseline renamed := by
    decide +kernel
  rcases ok_of_isSome hdiffers with ⟨diff, hdiff⟩
  refine ⟨diff, hdiff, fun hdifference => hrenamed ?_⟩
  refine (diffCases_matched hdiff).keepsIds ?_
  rw [List.map_map]
  exact hdifference

end TestOps

import TestOps.Contracts.Models
import TestOps.Contracts.Text

/-! The registry of operations and assertions, and the validators of steps and assertions that look
    their names up in it. A validated step carries the key of its operation, never an alias. -/

namespace TestOps

open Checked

structure CapabilitySpec where
  key : String
  requiresLocator : Bool := false
  consumesInput : Bool := false
  requiresInput : Bool := false
  aliases : List String := []
  deriving DecidableEq

/-! ### The registry -/

/-- An operation that works on an element and does nothing with an input. -/
def elementOperation (key : String) : CapabilitySpec := { key, requiresLocator := true }

/-- An operation that enters something into an element. -/
def enteringOperation (key : String) (aliases : List String := []) : CapabilitySpec :=
  { key, requiresLocator := true, consumesInput := true, requiresInput := true, aliases }

def operations : List CapabilitySpec := [
  { key := "execute_excel_case", consumesInput := true, requiresInput := true },
  enteringOperation "input",
  enteringOperation "input_enter",
  elementOperation "click",
  enteringOperation "select",
  elementOperation "verify",
  elementOperation "hover",
  { key := "scroll" },
  { key := "wait" },
  { key := "nav", consumesInput := true },
  elementOperation "find_click",
  enteringOperation "upload",
  enteringOperation "daterange" ["date_range"],
  { key := "switch_tab" },
  elementOperation "retry_report",
  elementOperation "set_viewport",
  elementOperation "wait_hidden",
  enteringOperation "vision_compare_step"]

def assertions : List CapabilitySpec := [
  { key := "excel_case_passed" },
  { key := "text_equals" },
  { key := "text_contains" },
  { key := "text_visible", aliases := ["visible_text"] },
  { key := "text_hidden" },
  { key := "text_not_empty", requiresLocator := true },
  { key := "value_equals", requiresLocator := true },
  { key := "element_visible", requiresLocator := true },
  { key := "element_disabled", requiresLocator := true },
  { key := "element_count", requiresLocator := true },
  { key := "attr_equals", requiresLocator := true },
  { key := "url_contains" },
  { key := "url_not_contains" },
  { key := "url_matches" },
  { key := "empty_list", requiresLocator := true },
  { key := "list_contains", requiresLocator := true },
  { key := "date_in_range", requiresLocator := true },
  { key := "value_in_range", requiresLocator := true },
  { key := "file_verify" },
  { key := "age_in_range" },
  { key := "date_format", requiresLocator := true },
  { key := "text_optional", requiresLocator := true },
  { key := "vision_contains", requiresLocator := true },
  { key := "vision_count", requiresLocator := true },
  { key := "vision_page_state", requiresLocator := true },
  { key := "vision_canvas_ready", requiresLocator := true },
  { key := "vision_compare_reference", requiresLocator := true },
  { key := "vision_step_sequence" }]

/-- Look a name up among the keys and the aliases; names may have white space around them. -/
def findSpec (specs : List CapabilitySpec) (name : String) : Option CapabilitySpec :=
  specs.find? fun spec =>
    strip isSpace name.toList ∈ (spec.key :: spec.aliases).map String.toList

def getOperationSpec (key : String) : Except ValidationError CapabilitySpec :=
  found (findSpec operations key) s!"unsupported operation: {key}"

def getAssertionSpec (key : String) : Except ValidationError CapabilitySpec :=
  found (findSpec assertions key) s!"unsupported assertion: {key}"

/-! ### Validators -/

/-- `self.locator and self.locator.strip()` -/
def hasLocator (locator : Option String) : Bool :=
  locator.any fun text => strip isSpace text.toList ≠ []

/-- `Annotated[float, Field(gt=0, le=600)] | None` -/
def validateTimeout (timeoutSeconds : Option ℚ) : Except ValidationError Unit :=
  ensure (∀ seconds ∈ timeoutSeconds, 0 < seconds ∧ seconds ≤ 600)
    "Input should be greater than 0 and less than or equal to 600"

def StepDefinition.validate (step : StepDefinition) : Except ValidationError StepDefinition := do
  let operation ← nonEmptyStr step.operation
  validateTimeout step.timeoutSeconds
  let spec ← getOperationSpec operation
  ensure (spec.requiresLocator = true → hasLocator step.locator = true)
    s!"operation '{spec.key}' requires locator"
  ensure (spec.requiresInput = true → step.input ≠ .none)
    s!"operation '{spec.key}' requires input"
  ensure (spec.key = "nav" ∧ (step.input = .none ∨ step.input = .text "") →
    hasLocator step.locator = true) "operation 'nav' requires URL in locator or input"
  return { step with operation := spec.key }

def AssertionDefinition.validate (assertion : AssertionDefinition) :
    Except ValidationError AssertionDefinition := do
  let type ← nonEmptyStr assertion.type
  validateTimeout assertion.timeoutSeconds
  let spec ← getAssertionSpec type
  ensure (spec.requiresLocator = true → hasLocator assertion.locator = true)
    s!"assertion '{spec.key}' requires locator"
  return { assertion with type := spec.key }

/-- A case whose steps and assertion have been validated. -/
structure CaseDefinition.Validated (case : CaseDefinition) : Prop where
  steps_ne_nil : case.steps ≠ []
  steps : ∀ step ∈ case.steps, step.validate = .ok step
  assertion : case.assertion.validate = .ok case.assertion

/-! ### Keys -/

/-- A name without white space and commas. -/
def isKey (name : String) : Bool :=
  name ≠ "" ∧ name.toList.all fun c => isSpace c = false ∧ c ≠ ','

theorem isKey_iff {name : String} :
    isKey name = true ↔ name ≠ "" ∧ ∀ c ∈ name.toList, isSpace c = false ∧ c ≠ ',' := by
  simp [isKey]

theorem strip_key {name : String} {p : Char → Bool} (h : isKey name = true)
    (hp : ∀ c, isSpace c = false → p c = false) : strip p name.toList = name.toList := by
  rw [strip_eq_trim, Delimited.trim_eq_self fun c hc => hp c ((isKey_iff.mp h).2 c hc).1]

theorem nonEmptyStr_key {name : String} (h : isKey name = true) : nonEmptyStr name = .ok name := by
  have hstrip : strip isWhiteSpace name.toList = name.toList :=
    strip_key h fun c hc => by rw [isWhiteSpace, hc]; rfl
  simp only [nonEmptyStr, bind_eq_ok, ensure_eq_ok, pure_eq_ok, hstrip]
  exact ⟨(), fun hnil => (isKey_iff.mp h).1 (String.toList_eq_nil_iff.mp hnil),
    String.ofList_toList⟩

/-- The spec that goes by a name as it is written. -/
def specNamed (specs : List CapabilitySpec) (name : String) : Option CapabilitySpec :=
  specs.find? fun spec => name.toList ∈ (spec.key :: spec.aliases).map String.toList

theorem findSpec_key {name : String} (h : isKey name = true) (specs : List CapabilitySpec) :
    findSpec specs name = specNamed specs name := by
  rw [findSpec, specNamed, strip_key h fun c hc => hc]

/-- Every operation is found under its own key, and consumes the input that it requires. -/
theorem operations_named {spec : CapabilitySpec} (h : spec ∈ operations) :
    isKey spec.key = true ∧ specNamed operations spec.key = some spec ∧
      (spec.requiresInput = true → spec.consumesInput = true) := by
  have hall : (operations.all fun spec => isKey spec.key ∧
      specNamed operations spec.key = some spec ∧
        (spec.requiresInput = true → spec.consumesInput = true)) = true := by
    decide
  exact of_decide_eq_true (List.all_eq_true.mp hall spec h)

theorem assertions_named {spec : CapabilitySpec} (h : spec ∈ assertions) :
    isKey spec.key = true ∧ specNamed assertions spec.key = some spec := by
  have hall : (assertions.all fun spec => isKey spec.key ∧
      specNamed assertions spec.key = some spec) = true := by
    decide
  exact of_decide_eq_true (List.all_eq_true.mp hall spec h)

theorem getOperationSpec_key {spec : CapabilitySpec} (h : spec ∈ operations) :
    getOperationSpec spec.key = .ok spec := by
  obtain ⟨hkey, hnamed, -⟩ := operations_named h
  rw [getOperationSpec, found_eq_ok, findSpec_key hkey, hnamed]

theorem getAssertionSpec_key {spec : CapabilitySpec} (h : spec ∈ assertions) :
    getAssertionSpec spec.key = .ok spec := by
  obtain ⟨hkey, hnamed⟩ := assertions_named h
  rw [getAssertionSpec, found_eq_ok, findSpec_key hkey, hnamed]

theorem mem_of_getOperationSpec {key : String} {spec : CapabilitySpec}
    (h : getOperationSpec key = .ok spec) : spec ∈ operations :=
  List.mem_of_find?_eq_some (found_eq_ok.mp h)

theorem mem_of_getAssertionSpec {key : String} {spec : CapabilitySpec}
    (h : getAssertionSpec key = .ok spec) : spec ∈ assertions :=
  List.mem_of_find?_eq_some (found_eq_ok.mp h)

/-- Validation replaces the name of the operation only. -/
theorem StepDefinition.validate_fields {step validated : StepDefinition}
    (h : step.validate = .ok validated) :
    validated.locator = step.locator ∧ validated.input = step.input ∧
      ∃ operation spec, nonEmptyStr step.operation = .ok operation ∧
        getOperationSpec operation = .ok spec ∧ validated.operation = spec.key := by
  simp only [StepDefinition.validate, validateTimeout, bind_eq_ok, ensure_eq_ok, pure_eq_ok] at h
  obtain ⟨operation, hname, -, -, spec, hspec, -, -, -, -, -, -, rfl⟩ := h
  exact ⟨rfl, rfl, operation, spec, hname, hspec, rfl⟩

theorem AssertionDefinition.validate_fields {assertion validated : AssertionDefinition}
    (h : assertion.validate = .ok validated) :
    validated.locator = assertion.locator ∧ validated.expected = assertion.expected := by
  simp only [AssertionDefinition.validate, validateTimeout, bind_eq_ok, ensure_eq_ok, pure_eq_ok]
    at h
  obtain ⟨type, -, -, -, spec, -, -, -, rfl⟩ := h
  exact ⟨rfl, rfl⟩

/-- What a validated step satisfies: it carries the key of its operation. -/
theorem StepDefinition.validate_eq_self {step : StepDefinition} :
    step.validate = .ok step ↔ ∃ spec ∈ operations, step.operation = spec.key ∧
      (∀ seconds ∈ step.timeoutSeconds, 0 < seconds ∧ seconds ≤ 600) ∧
      (spec.requiresLocator = true → hasLocator step.locator = true) ∧
      (spec.requiresInput = true → step.input ≠ .none) ∧
      (spec.key = "nav" ∧ (step.input = .none ∨ step.input = .text "") →
        hasLocator step.locator = true) := by
  simp only [StepDefinition.validate, validateTimeout, bind_eq_ok, ensure_eq_ok, pure_eq_ok]
  constructor
  · rintro ⟨operation, hname, -, htimeout, spec, hspec, -, hlocator, -, hinput, -, hnav, hsame⟩
    have hkey : spec.key = step.operation := congrArg StepDefinition.operation hsame
    exact ⟨spec, mem_of_getOperationSpec hspec, hkey.symm, htimeout, hlocator, hinput, hnav⟩
  · rintro ⟨spec, hmem, hkey, htimeout, hlocator, hinput, hnav⟩
    refine ⟨step.operation, ?_, (), htimeout, spec, ?_, (), hlocator, (), hinput, (), hnav, ?_⟩
    · rw [hkey, nonEmptyStr_key (operations_named hmem).1]
    · rw [hkey, getOperationSpec_key hmem]
    · rw [← hkey]

theorem AssertionDefinition.validate_eq_self {assertion : AssertionDefinition} :
    assertion.validate = .ok assertion ↔ ∃ spec ∈ assertions, assertion.type = spec.key ∧
      (∀ seconds ∈ assertion.timeoutSeconds, 0 < seconds ∧ seconds ≤ 600) ∧
      (spec.requiresLocator = true → hasLocator assertion.locator = true) := by
  simp only [AssertionDefinition.validate, validateTimeout, bind_eq_ok, ensure_eq_ok, pure_eq_ok]
  constructor
  · rintro ⟨type, hname, -, htimeout, spec, hspec, -, hlocator, hsame⟩
    have hkey : spec.key = assertion.type := congrArg AssertionDefinition.type hsame
    exact ⟨spec, mem_of_getAssertionSpec hspec, hkey.symm, htimeout, hlocator⟩
  · rintro ⟨spec, hmem, hkey, htimeout, hlocator⟩
    refine ⟨assertion.type, ?_, (), htimeout, spec, ?_, (), hlocator, ?_⟩
    · rw [hkey, nonEmptyStr_key (assertions_named hmem).1]
    · rw [hkey, getAssertionSpec_key hmem]
    · rw [← hkey]

end TestOps

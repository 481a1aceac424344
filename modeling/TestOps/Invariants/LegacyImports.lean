import TestOps.Invariants.WorkbookRows
import TestOps.Migrations.LegacyImport

/-! What the import of a legacy worksheet takes over. A step has the locator in its own place and an input
    in the order of those who take one; what is left of the inputs is reported. A locator too many is
    that of the assertion:

      locators   l₁ , l₂ , l₃          assertion column   blank:   l₃ goes to the assertion
                 │    │    │                              a:       a goes there, and l₃ is lost
               step step   ╰──▸ ?

    A baseline has the cases of all rows, in their order. -/

namespace TestOps.LegacyImport

open Checked

variable {interpreter : Interpreter} {sheet : Worksheet} {row : LegacyRow} {rowNumber : Nat}
  {caseCode : Text} {case : CaseDefinition} {warnings : List UnusedInputSegments}
  {names locators inputs : List Text} {steps : List StepDefinition} {origin : BaselineOrigin}
  {rows : List (Nat × LegacyRow)} {seenCodes : List Text}

/-! ### What a row says -/

/-- The text of a cell, if it has one. -/
def rowText (interpreter : Interpreter) (row : LegacyRow) (column : String) : Option Text :=
  (cellText interpreter.toFloatFormats (row column)).toOption.join

def rowOperations (interpreter : Interpreter) (row : LegacyRow) : List Text :=
  commaPieces ((rowText interpreter row "操作类型").getD [])

def rowLocators (interpreter : Interpreter) (row : LegacyRow) : List Text :=
  splitLocators (rowText interpreter row "元素定位器")

def rowInputs (interpreter : Interpreter) (row : LegacyRow) : List Text :=
  splitLegacyData ((row "输入数据").rawText interpreter.toFloatFormats).toOption.join

/-- `slot or None` -/
def slotLocator (slot : Text) : Option String :=
  if slot = [] then none else some (String.ofList slot)

/-- The operations of a row with the steps that they have become. -/
structure Reads (names locators inputs : List Text) (steps : List StepDefinition) : Prop where
  operations : List.Forall₂ (fun name step => ∃ spec,
    getOperationSpec (String.ofList name) = .ok spec ∧ step.operation = spec.key) names steps
  locators : ∀ (i : Nat) step, steps[i]? = some step →
    step.locator = slotLocator (locators.getD i [])
  /-- The steps that take an input take the first ones in order, and then blank ones. -/
  inputs : ∀ (k : Nat) step, (steps.filter StepDefinition.consumesInput)[k]? = some step →
    step.input = .text (String.ofList (inputs.getD k []))
  others : ∀ step ∈ steps, step.consumesInput = false → step.input = .none

/-- Nothing of the row is lost, or it is reported. -/
structure Retained (interpreter : Interpreter) (row : LegacyRow) (rowNumber : Nat)
    (caseCode : Text) (case : CaseDefinition) (warnings : List UnusedInputSegments) : Prop where
  reads : Reads (rowOperations interpreter row) (rowLocators interpreter row)
    (rowInputs interpreter row) case.steps
  locators : ∀ slot ∈ rowLocators interpreter row, slot ≠ [] →
    (∃ step ∈ case.steps, step.locator = some (String.ofList slot)) ∨
      case.assertion.locator = some (String.ofList slot)
  inputs : ∀ unused,
    (rowInputs interpreter row).drop (case.steps.filter StepDefinition.consumesInput).length = unused →
      unused ≠ [] → ⟨rowNumber, caseCode, unused.length, "sha256:".toList ++
        interpreter.sha256 ((['|'].intercalate unused).flatMap String.utf8EncodeChar)⟩ ∈ warnings

/-- A locator after those of the steps, in a row whose assertion has a column of its own. -/
def Drops (interpreter : Interpreter) (row : LegacyRow) : Prop :=
  ∃ trailing ∈ (rowLocators interpreter row)[(rowOperations interpreter row).length]?,
    ∃ explicit ∈ rowText interpreter row assertionLocatorColumn,
      trailing ≠ [] ∧ explicit ≠ [] ∧ explicit ≠ trailing ∧
        trailing ∉ (rowLocators interpreter row).take (rowOperations interpreter row).length

/-! ### Rows of a runtime workbook -/

/-- What a cell that has been written holds. -/
def ofCell : Cell → CellValue
  | .empty => .empty
  | .text value => .text value
  | .number value => .float (some value)

def ofRow (written : Row) : LegacyRow := fun column => ofCell (written.get column)

theorem rawText_ofCell {formats : FloatFormats} (cell : Cell) :
    (ofCell cell).rawText formats = .ok (cell.rawText formats) := by
  cases cell <;> rfl

theorem cellText_ofRow {formats : FloatFormats} {written : Row} {column : String} :
    cellText formats (ofRow written column) = .ok (written.text formats column) := by
  rw [cellText, ofRow, rawText_ofCell]
  rfl

theorem requiredText_ofRow {formats : FloatFormats} {written : Row} {column : String} :
    requiredText formats (ofRow written column) column =
      TestOps.requiredText formats written column := by
  rw [requiredText, cellText_ofRow]
  rfl

/-- A row of a runtime workbook is read in the same way. -/
theorem convertOperations_ofRow {written : Row} :
    (fun converted => (converted.1, converted.2.1)) <$>
        convertOperations interpreter rowNumber caseCode (ofRow written) =
      TestOps.convertCase interpreter.toFloatFormats written := by
  have hinputs : (ofRow written "输入数据").rawText interpreter.toFloatFormats =
      .ok ((written.get "输入数据").rawText interpreter.toFloatFormats) := rawText_ofCell _
  simp only [convertOperations, TestOps.convertCase, requiredText_ofRow, cellText_ofRow, hinputs,
    ok_bind, map_bind]
  rfl

/-! ### Steps -/

/-- The step that an operation has become. -/
theorem readStep_validated {spec : CapabilitySpec} {locator input : Text} {step : StepDefinition}
    (hspec : spec ∈ operations) (h : (readStep spec locator input).validate = .ok step) :
    step.operation = spec.key ∧ step.consumesInput = spec.consumesInput ∧
      step.locator = slotLocator locator ∧
      step.input = if spec.consumesInput then .text (String.ofList input) else .none := by
  obtain ⟨hlocator, hinput, operation, spec', hname, hspec', hoperation⟩ :=
    StepDefinition.validate_fields h
  obtain ⟨hkey, -⟩ := operations_named hspec
  have hsame : operation = spec.key := Except.ok.inj (hname.symm.trans (nonEmptyStr_key hkey))
  rw [hsame, getOperationSpec_key hspec] at hspec'
  obtain rfl := Except.ok.inj hspec'
  refine ⟨hoperation, ?_, hlocator, hinput⟩
  rw [StepDefinition.consumesInput, hoperation, found_eq_ok.mp (getOperationSpec_key hspec),
    Option.any_some]

theorem convertSteps_reads (hlength : locators.length = names.length)
    (h : convertSteps (names.zip locators) inputs = .ok steps) :
    Reads names locators inputs steps := by
  induction names generalizing locators inputs steps with
  | nil =>
    rw [List.zip_nil_left, convertSteps, pure_eq_ok] at h
    subst h
    exact ⟨.nil, by simp, by simp, by simp⟩
  | cons name names ih =>
    obtain ⟨locator, locators, rfl⟩ := List.exists_cons_of_length_eq_add_one hlength
    rw [List.zip_cons_cons] at h
    simp only [convertSteps, bind_eq_ok, ensure_eq_ok, pure_eq_ok, validated_eq_ok] at h
    obtain ⟨spec, hspec, -, -, step, hstep, steps, hsteps, rfl⟩ := h
    have hrest := ih (Nat.succ.inj hlength) hsteps
    obtain ⟨hoperation, hconsumes, hlocator, hinput⟩ :=
      readStep_validated (mem_of_getOperationSpec hspec) hstep
    refine ⟨.cons ⟨spec, hspec, hoperation⟩ hrest.operations, ?_, ?_, ?_⟩
    · intro i other hother
      cases i with
      | zero =>
        obtain rfl : step = other := by simpa using hother
        exact hlocator
      | succ i => exact hrest.locators i other (by simpa using hother)
    · intro k other hother
      rw [List.filter_cons, hconsumes] at hother
      cases htakes : spec.consumesInput with
      | false =>
        rw [htakes] at hother
        have hthere := hrest.inputs k other (by simpa using hother)
        rwa [htakes] at hthere
      | true =>
        rw [htakes] at hother
        cases k with
        | zero =>
          obtain rfl : step = other := by simpa using hother
          rw [hinput, if_pos htakes]
          cases inputs <;> rfl
        | succ k =>
          have hthere := hrest.inputs k other (by simpa using hother)
          rw [htakes] at hthere
          rw [hthere]
          cases inputs <;> rfl
    · intro other hother hleaves
      rcases List.mem_cons.mp hother with rfl | hother
      · rw [hinput, if_neg]
        rw [← hconsumes, hleaves]
        exact Bool.false_ne_true
      · exact hrest.others other hother hleaves

/-- As many inputs are taken as there are steps that take one. -/
theorem inputIndex_eq (h : List.Forall₂ (fun name step => ∃ spec,
    getOperationSpec (String.ofList name) = .ok spec ∧ step.operation = spec.key) names steps) :
    inputIndex names = (steps.filter StepDefinition.consumesInput).length := by
  induction h with
  | nil => rfl
  | @cons name step names steps hstep _ ih =>
    obtain ⟨spec, hspec, hoperation⟩ := hstep
    have hkey := found_eq_ok.mp (getOperationSpec_key (mem_of_getOperationSpec hspec))
    have hconsumes : step.consumesInput = spec.consumesInput := by
      rw [StepDefinition.consumesInput, hoperation, hkey, Option.any_some]
    rw [inputIndex] at ih
    rw [inputIndex, List.filter_cons, List.filter_cons, found_eq_ok.mp hspec, Option.any_some,
      hconsumes]
    cases spec.consumesInput with
    | false => exact ih
    | true => exact congrArg (· + 1) ih

/-! ### Rows -/

theorem rowText_eq {column : String} {text : Option Text}
    (h : cellText interpreter.toFloatFormats (row column) = .ok text) :
    rowText interpreter row column = text := by
  rw [rowText, h]
  rfl

theorem requiredText_ok {value : CellValue} {column : String} {text : Text}
    (h : requiredText interpreter.toFloatFormats value column = .ok text) :
    cellText interpreter.toFloatFormats value = .ok (some text) := by
  simp only [requiredText, bind_eq_ok, found_eq_ok] at h
  obtain ⟨found, hfound, hfilter⟩ := h
  rw [hfound, (Option.filter_eq_some_iff.mp hfilter).1]

/-- The last locator that is not blank is the one after those of the steps. -/
theorem find_trailing {trailing : Text} (hlength : locators.length ≤ names.length + 1)
    (hget : locators[names.length]? = some trailing) (hne : trailing ≠ []) :
    locators.reverse.find? (· ≠ []) = some trailing := by
  obtain ⟨hlt, hlast⟩ := List.getElem?_eq_some_iff.mp hget
  have hlocators : locators = locators.take names.length ++ [trailing] := by
    rw [← hlast, List.take_append_getElem hlt, List.take_of_length_le hlength]
  rw [hlocators, List.reverse_append, List.reverse_singleton, List.singleton_append,
    List.find?_cons_of_pos (by simpa using hne)]

/-- What a row has become, as far as it is read by position. -/
structure Converted (interpreter : Interpreter) (row : LegacyRow) (rowNumber : Nat)
    (caseCode : Text) (steps : List StepDefinition) (assertion : AssertionDefinition)
    (warnings : List UnusedInputSegments) : Prop where
  reads : Reads (rowOperations interpreter row) (rowLocators interpreter row)
    (rowInputs interpreter row) steps
  few : (rowLocators interpreter row).length ≤ (rowOperations interpreter row).length + 1
  assertion : assertion.locator = (orText (rowText interpreter row assertionLocatorColumn)
    ((rowLocators interpreter row).reverse.find? (· ≠ []))).map String.ofList
  warnings : warnings = unusedWarning interpreter rowNumber caseCode
    ((rowInputs interpreter row).drop (steps.filter StepDefinition.consumesInput).length)

/-- Filling up with blank locators does not change what is at a place. -/
theorem Reads.of_padded {n : Nat}
    (h : Reads names (locators.take n ++ List.replicate (n - locators.length) []) inputs steps)
    (hlength : names.length = n) : Reads names locators inputs steps := by
  refine ⟨h.operations, fun i step hstep => ?_, h.inputs, h.others⟩
  have hi : i < n := by
    rw [← hlength, h.operations.length_eq]
    exact (List.getElem?_eq_some_iff.mp hstep).1
  rw [h.locators i step hstep, List.getD_eq_getElem?_getD, List.getD_eq_getElem?_getD]
  rcases Nat.lt_or_ge i locators.length with hthere | hblank
  · rw [List.getElem?_append_left (by rw [List.length_take]; omega), List.getElem?_take_of_lt hi]
  · rw [List.getElem?_append_right (by rw [List.length_take]; omega),
      List.getElem?_eq_none hblank, List.getElem?_replicate]
    split <;> rfl

theorem convertOperations_ok {assertion : AssertionDefinition}
    (h : convertOperations interpreter rowNumber caseCode row = .ok (steps, assertion, warnings)) :
    Converted interpreter row rowNumber caseCode steps assertion warnings := by
  simp only [convertOperations, bind_eq_ok, ensure_eq_ok, pure_eq_ok, validated_eq_ok,
    Prod.mk.injEq] at h
  obtain ⟨raw, hraw, -, -, locatorCell, hlocators, -, hfew, inputCell, hinputs, read, hread,
    assertionName, -, spec, -, explicit, hexplicit, _, -, _, -, valid, hvalid, rfl, rfl, rfl⟩ := h
  have hoperations : rowOperations interpreter row = commaPieces raw := by
    rw [rowOperations, rowText_eq (requiredText_ok hraw), Option.getD_some]
  have hslots : rowLocators interpreter row = splitLocators locatorCell := by
    rw [rowLocators, rowText_eq hlocators]
  have hparts : rowInputs interpreter row = splitLegacyData inputCell := by
    rw [rowInputs, hinputs]
    rfl
  rw [← hoperations, ← hslots] at hfew
  rw [← hoperations, ← hslots, ← hparts] at hread
  have hpadded := convertSteps_reads (by
    rw [List.length_append, List.length_take, List.length_replicate]
    omega) hread
  have hreads := hpadded.of_padded rfl
  refine ⟨hreads, hfew, ?_, ?_⟩
  · rw [(AssertionDefinition.validate_fields hvalid).1, rowText_eq hexplicit, hslots]
  · rw [← hoperations, ← hparts, inputIndex_eq hreads.operations]

theorem convertCase_ok
    (h : convertCase interpreter sheet rowNumber caseCode row = .ok (case, warnings)) :
    Converted interpreter row rowNumber caseCode case.steps case.assertion warnings ∧
      case.caseCode = String.ofList caseCode ∧
      case.caseId = caseId interpreter sheet.projectKey caseCode ∧
      ∃ worksheet, nonEmptyStr sheet.worksheet = .ok worksheet ∧
        case.sourceTrace = some ⟨worksheet, rowNumber⟩ := by
  simp only [convertCase, bind_eq_ok] at h
  obtain ⟨_, -, _, -, ⟨steps, assertion, reported⟩, hconverted, _, -, _, -, _, -, _, -, _, -, _, -,
    _, -, _, -, _, -, worksheet, hworksheet, _, -, _, -, _, -, h⟩ := h
  split at h
  · simp only [bind_eq_ok, pure_eq_ok, Prod.mk.injEq] at h
    obtain ⟨_, -, _, -, _, -, _, -, _, -, rfl, rfl⟩ := h
    exact ⟨convertOperations_ok hconverted, rfl, rfl, worksheet, validated_eq_ok.mp hworksheet,
      rfl⟩
  · cases h

/-- The step in the place of a slot has its locator. -/
theorem Reads.locator_mem {slot : Text} (h : Reads names locators inputs steps)
    (hmem : slot ∈ locators.take names.length) (hne : slot ≠ []) :
    ∃ step ∈ steps, step.locator = some (String.ofList slot) := by
  obtain ⟨i, hi, rfl⟩ := List.getElem_of_mem hmem
  rw [List.length_take] at hi
  rw [List.getElem_take] at hne ⊢
  have hstep : i < steps.length := by
    rw [← h.operations.length_eq]
    omega
  refine ⟨steps[i], List.getElem_mem hstep, ?_⟩
  rw [h.locators i _ (List.getElem?_eq_getElem hstep),
    List.getD_eq_getElem _ _ (by omega), slotLocator, if_neg hne]

theorem Reads.mem_of_locator {slot : Text} (h : Reads names locators inputs steps)
    {step : StepDefinition} (hstep : step ∈ steps) (hslot : step.locator = some (String.ofList slot)) :
    slot ∈ locators.take names.length := by
  obtain ⟨i, hi, rfl⟩ := List.getElem_of_mem hstep
  rw [h.locators i _ (List.getElem?_eq_getElem hi), slotLocator] at hslot
  split at hslot
  · cases hslot
  · rename_i hne
    have hlocator := String.ofList_injective (Option.some.inj hslot)
    have hthere : i < locators.length := by
      by_contra hout
      rw [List.getD_eq_default _ _ (Nat.le_of_not_lt hout)] at hne
      exact hne rfl
    rw [List.getD_eq_getElem _ _ hthere] at hlocator
    subst hlocator
    rw [List.mem_take_iff_getElem]
    refine ⟨i, ?_, rfl⟩
    rw [← h.operations.length_eq] at hi
    omega

/-- A row that has been converted keeps everything but a locator that the column takes the place
    of. -/
theorem Converted.retained_iff (h : Converted interpreter row rowNumber caseCode case.steps
    case.assertion warnings) :
    Retained interpreter row rowNumber caseCode case warnings ↔ ¬Drops interpreter row := by
  constructor
  · rintro hretained ⟨trailing, htrailing, explicit, hexplicit, hne, hwritten, hother, hnowhere⟩
    have hmem := List.mem_of_getElem? htrailing
    rcases hretained.locators trailing hmem hne with ⟨step, hstep, hlocator⟩ | hassertion
    · exact hnowhere (h.reads.mem_of_locator hstep hlocator)
    · rw [h.assertion, Option.mem_def.mp hexplicit, orText, if_pos (by simpa using hwritten),
        Option.map_some, Option.some_inj] at hassertion
      exact hother (String.ofList_injective hassertion)
  · intro hkept
    refine ⟨h.reads, fun slot hslot hne => ?_, fun unused hunused hne => ?_⟩
    · by_cases hplace : slot ∈ (rowLocators interpreter row).take
        (rowOperations interpreter row).length
      · exact .inl (h.reads.locator_mem hplace hne)
      · right
        have htrailing : (rowLocators interpreter row)[(rowOperations interpreter row).length]? =
            some slot := by
          obtain ⟨i, hi, rfl⟩ := List.getElem_of_mem hslot
          have hlast : ¬i < (rowOperations interpreter row).length := fun hlt =>
            hplace (List.mem_take_iff_getElem.mpr ⟨i, by omega, rfl⟩)
          have hfew := h.few
          obtain rfl : i = (rowOperations interpreter row).length := by omega
          exact List.getElem?_eq_getElem hi
        rw [h.assertion, find_trailing h.few htrailing hne, orText]
        split
        · rename_i hwritten
          rw [Option.any_eq_true] at hwritten
          obtain ⟨explicit, hexplicit, hwritten⟩ := hwritten
          rw [hexplicit, Option.map_some, Option.some_inj]
          by_contra hother
          exact hkept ⟨slot, htrailing, explicit, hexplicit, hne, by simpa using hwritten,
            fun hsame => hother (congrArg String.ofList hsame), hplace⟩
        · rfl
    · rw [h.warnings, unusedWarning, hunused, if_neg hne]
      exact List.mem_singleton_self _

/-! ### The baseline -/

abbrev Conversion := CaseDefinition × List UnusedInputSegments

/-- What becomes of the rows, one after the other. -/
def outcomes (interpreter : Interpreter) (sheet : Worksheet) :
    List Text → List (Nat × LegacyRow) → List (Except MigrationError Conversion)
  | _, [] => []
  | seenCodes, row :: rows =>
    (convertRow interpreter sheet seenCodes row.1 row.2).1 ::
      outcomes interpreter sheet (convertRow interpreter sheet seenCodes row.1 row.2).2 rows

/-- Every row is accepted. -/
def AllAccepted (interpreter : Interpreter) (sheet : Worksheet) (rows : List (Nat × LegacyRow)) :
    Prop :=
  ∀ outcome ∈ outcomes interpreter sheet [] rows, ∃ conversion, outcome = .ok conversion

/-- The code of a row. -/
def rowCode (interpreter : Interpreter) (row : LegacyRow) : Text :=
  interpreter.upper ((rowText interpreter row "用例ID").getD [])

/-- What a baseline needs besides cases that are accepted. -/
structure Publishable (interpreter : Interpreter) (origin : BaselineOrigin)
    (rows : List (Nat × LegacyRow)) : Prop where
  nonempty : rows ≠ []
  projectKey : slugPattern origin.projectKey = true
  version : baselineVersionPattern origin.version = true
  sourceName : strip isWhiteSpace origin.sourceName.toList ≠ []
  caseIds : (rows.map fun row =>
    caseId interpreter origin.projectKey (rowCode interpreter row.2)).Nodup

/-- The rows with the cases that they have become, in order. -/
def InRowOrder (interpreter : Interpreter) (rows : List (Nat × LegacyRow))
    (cases : List CaseDefinition) : Prop :=
  List.Forall₂ (fun row case => case.caseCode = String.ofList (rowCode interpreter row.2) ∧
    case.sourceTrace.map CaseSourceTrace.rowNumber = some row.1) rows cases

theorem convertRow_ok {outcome : Conversion}
    (h : (convertRow interpreter sheet seenCodes rowNumber row).1 = .ok outcome) :
    convertCase interpreter sheet rowNumber (rowCode interpreter row) row = .ok outcome ∧
      rowCode interpreter row ∉ seenCodes ∧
      (convertRow interpreter sheet seenCodes rowNumber row).2 =
        rowCode interpreter row :: seenCodes := by
  cases hraw : requiredText interpreter.toFloatFormats (row "用例ID") "用例ID" with
  | error e =>
    rw [convertRow, hraw] at h
    cases h
  | ok raw =>
    have hcode : rowCode interpreter row = interpreter.upper raw := by
      rw [rowCode, rowText_eq (requiredText_ok hraw), Option.getD_some]
    rw [convertRow, hraw] at h ⊢
    rw [hcode]
    by_cases hseen : interpreter.upper raw ∈ seenCodes
    · simp only [if_pos hseen] at h
      cases h
    · simp only [if_neg hseen] at h ⊢
      exact ⟨h, hseen, trivial⟩

/-- Cases that are accepted one after the other have different codes. -/
theorem outcomes_codes {conversions : List Conversion}
    (h : outcomes interpreter sheet seenCodes rows = conversions.map .ok) :
    InRowOrder interpreter rows (conversions.map Prod.fst) ∧
      (rows.map fun row => rowCode interpreter row.2).Nodup ∧
      ∀ row ∈ rows, rowCode interpreter row.2 ∉ seenCodes := by
  induction rows generalizing seenCodes conversions with
  | nil =>
    obtain rfl := List.map_eq_nil_iff.mp h.symm
    exact ⟨.nil, List.nodup_nil, nofun⟩
  | cons row rows ih =>
    obtain ⟨conversion, conversions, rfl⟩ : ∃ conversion rest, conversions = conversion :: rest := by
      cases conversions with
      | nil => cases h
      | cons conversion rest => exact ⟨conversion, rest, rfl⟩
    rw [outcomes, List.map_cons] at h
    obtain ⟨hfirst, hrest⟩ := List.cons.inj h
    obtain ⟨hcase, hnew, hseen⟩ := convertRow_ok hfirst
    obtain ⟨-, hcode, -, worksheet, -, htrace⟩ := convertCase_ok hcase
    rw [hseen] at hrest
    obtain ⟨horder, hnodup, hlater⟩ := ih hrest
    refine ⟨.cons ⟨hcode, by rw [htrace]; rfl⟩ horder, ?_, ?_⟩
    · rw [List.map_cons, List.nodup_cons]
      refine ⟨fun hmem => ?_, hnodup⟩
      obtain ⟨other, hother, hsame⟩ := List.mem_map.mp hmem
      exact hlater other hother (hsame ▸ List.mem_cons_self)
    · intro other hother
      rcases List.mem_cons.mp hother with rfl | hother
      · exact hnew
      · exact fun hmem => hlater other hother (List.mem_cons_of_mem _ hmem)

theorem importRow_ok {progress : Progress} {conversion : Conversion} {row : Nat × LegacyRow}
    (h : (convertRow interpreter sheet progress.seenCodes row.1 row.2).1 = .ok conversion) :
    importRow interpreter sheet progress row =
      .ok ⟨(convertRow interpreter sheet progress.seenCodes row.1 row.2).2,
        progress.cases ++ [conversion.1], progress.warnings ++ conversion.2, progress.errors⟩ := by
  rw [importRow]
  generalize convertRow interpreter sheet progress.seenCodes row.1 row.2 = converted at h
  obtain ⟨outcome, seenCodes⟩ := converted
  obtain rfl : outcome = .ok conversion := h
  rfl

/-- A row that is not accepted leaves an error, unless the loop stops there. -/
theorem importRow_error {progress progress' : Progress} {row : Nat × LegacyRow} {e : MigrationError}
    (h : (convertRow interpreter sheet progress.seenCodes row.1 row.2).1 = .error e)
    (hstep : importRow interpreter sheet progress row = .ok progress') : progress'.errors ≠ [] := by
  rw [importRow] at hstep
  generalize convertRow interpreter sheet progress.seenCodes row.1 row.2 = converted at h hstep
  obtain ⟨outcome, seenCodes⟩ := converted
  obtain rfl : outcome = .error e := h
  simp only [bind_eq_ok, pure_eq_ok] at hstep
  obtain ⟨_, -, rfl⟩ := hstep
  exact List.append_ne_nil_of_right_ne_nil _ (List.cons_ne_nil _ _)

/-- Rows that are all accepted leave their cases and warnings. -/
theorem importRows_ok (progress : Progress) {conversions : List Conversion}
    (h : outcomes interpreter sheet progress.seenCodes rows = conversions.map .ok) :
    ∃ seen, rows.foldlM (importRow interpreter sheet) progress =
      .ok ⟨seen, progress.cases ++ conversions.map Prod.fst,
        progress.warnings ++ conversions.flatMap Prod.snd, progress.errors⟩ := by
  induction rows generalizing progress conversions with
  | nil =>
    obtain rfl := List.map_eq_nil_iff.mp h.symm
    exact ⟨progress.seenCodes, by simp⟩
  | cons row rows ih =>
    cases conversions with
    | nil => cases h
    | cons conversion conversions =>
      rw [outcomes, List.map_cons] at h
      obtain ⟨hfirst, hrest⟩ := List.cons.inj h
      obtain ⟨seen, hseen⟩ := ih ⟨_, progress.cases ++ [conversion.1],
        progress.warnings ++ conversion.2, progress.errors⟩ hrest
      refine ⟨seen, ?_⟩
      rw [List.foldlM_cons, importRow_ok hfirst, ok_bind, hseen]
      simp

/-- Without an error at the end of the loop, every row has been accepted. -/
theorem importRows_accepted {progress progress' : Progress}
    (h : rows.foldlM (importRow interpreter sheet) progress = .ok progress')
    (hclean : progress'.errors = []) :
    progress.errors = [] ∧ ∃ conversions : List Conversion,
      outcomes interpreter sheet progress.seenCodes rows = conversions.map .ok := by
  induction rows generalizing progress with
  | nil =>
    rw [List.foldlM_nil, pure_eq_ok] at h
    exact ⟨h ▸ hclean, [], rfl⟩
  | cons row rows ih =>
    rw [List.foldlM_cons, bind_eq_ok] at h
    obtain ⟨middle, hfirst, hrest⟩ := h
    obtain ⟨hmiddle, conversions, hconversions⟩ := ih hrest
    cases houtcome : (convertRow interpreter sheet progress.seenCodes row.1 row.2).1 with
    | error e => exact absurd hmiddle (importRow_error houtcome hfirst)
    | ok conversion =>
      rw [importRow_ok houtcome] at hfirst
      obtain rfl := Except.ok.inj hfirst
      refine ⟨hmiddle, conversion :: conversions, ?_⟩
      rw [outcomes, houtcome, List.map_cons, hconversions]

theorem allAccepted_iff : AllAccepted interpreter sheet rows ↔
    ∃ conversions : List Conversion, outcomes interpreter sheet [] rows = conversions.map .ok := by
  constructor
  · intro h
    rw [AllAccepted] at h
    generalize outcomes interpreter sheet [] rows = all at h
    induction all with
    | nil => exact ⟨[], rfl⟩
    | cons outcome all ih =>
      obtain ⟨⟨conversion, rfl⟩, hrest⟩ := List.forall_mem_cons.mp h
      obtain ⟨conversions, rfl⟩ := ih hrest
      exact ⟨conversion :: conversions, rfl⟩
  · rintro ⟨conversions, h⟩ outcome hmem
    rw [h] at hmem
    obtain ⟨conversion, -, rfl⟩ := List.mem_map.mp hmem
    exact ⟨conversion, rfl⟩

/-- The baseline is that of the cases of all rows. -/
theorem buildResult_eq_ok {result : MigrationResult} :
    buildResult interpreter origin rows = .ok result ↔ ∃ conversions : List Conversion,
      outcomes interpreter origin.toWorksheet [] rows = conversions.map .ok ∧
        validateBaseline interpreter origin (conversions.map Prod.fst) = .ok result.baseline ∧
          result.warnings = conversions.flatMap Prod.snd := by
  simp only [buildResult, bind_eq_ok, ensure_eq_ok, pure_eq_ok, validated_eq_ok]
  constructor
  · rintro ⟨progress, hloop, -, hclean, baseline, hbaseline, rfl⟩
    obtain ⟨-, conversions, hconversions⟩ := importRows_accepted hloop hclean
    obtain ⟨seen, hseen⟩ := importRows_ok ⟨[], [], [], []⟩ hconversions
    obtain rfl := Except.ok.inj (hloop.symm.trans hseen)
    exact ⟨conversions, hconversions, hbaseline, rfl⟩
  · rintro ⟨conversions, hconversions, hbaseline, hwarnings⟩
    obtain ⟨seen, hseen⟩ := importRows_ok ⟨[], [], [], []⟩ hconversions
    refine ⟨_, hseen, (), rfl, result.baseline, hbaseline, ?_⟩
    cases result
    cases hwarnings
    rfl

theorem nonEmptyStr_ok {value : String} :
    (∃ stripped, nonEmptyStr value = .ok stripped) ↔ strip isWhiteSpace value.toList ≠ [] := by
  simp only [nonEmptyStr, bind_eq_ok, ensure_eq_ok, pure_eq_ok]
  constructor
  · rintro ⟨_, -, hne, -⟩
    exact hne
  · intro hne
    exact ⟨_, (), hne, rfl⟩

theorem validateBaseline_cases {cases : List CaseDefinition} {baseline : CaseBaseline}
    (h : validateBaseline interpreter origin cases = .ok baseline) : baseline.cases = cases := by
  simp only [validateBaseline, bind_eq_ok] at h
  obtain ⟨_, -, _, -, _, -, _, -, h⟩ := h
  split at h
  · rw [pure_eq_ok] at h
    rw [← h]
  · cases h

theorem validateBaseline_ok {cases : List CaseDefinition} :
    (∃ baseline, validateBaseline interpreter origin cases = .ok baseline) ↔
      slugPattern origin.projectKey = true ∧ baselineVersionPattern origin.version = true ∧
        (∃ fileName, nonEmptyStr origin.sourceName = .ok fileName) ∧
        (∃ worksheet, nonEmptyStr origin.worksheet = .ok worksheet) ∧
        cases ≠ [] ∧ (cases.map CaseDefinition.caseId).Nodup ∧
        (cases.map CaseDefinition.caseCode).Nodup := by
  simp only [validateBaseline, bind_eq_ok, ensure_eq_ok]
  constructor
  · rintro ⟨baseline, _, hkey, _, hversion, fileName, hfileName, worksheet, hworksheet, h⟩
    split at h
    · rename_i valid
      exact ⟨hkey, hversion, ⟨fileName, hfileName⟩, ⟨worksheet, hworksheet⟩, valid⟩
    · cases h
  · rintro ⟨hkey, hversion, ⟨fileName, hfileName⟩, ⟨worksheet, hworksheet⟩, valid⟩
    exact ⟨_, (), hkey, (), hversion, fileName, hfileName, worksheet, hworksheet, dif_pos valid⟩

/-- Rows that are accepted have cases with their codes and identifiers, in a worksheet with a name. -/
theorem outcomes_cases {conversions : List Conversion}
    (h : outcomes interpreter sheet seenCodes rows = conversions.map .ok) :
    (conversions.map Prod.fst).map CaseDefinition.caseCode =
        (rows.map fun row => rowCode interpreter row.2).map String.ofList ∧
      (conversions.map Prod.fst).map CaseDefinition.caseId =
        rows.map (fun row => caseId interpreter sheet.projectKey (rowCode interpreter row.2)) ∧
      (rows ≠ [] → ∃ worksheet, nonEmptyStr sheet.worksheet = .ok worksheet) := by
  induction rows generalizing seenCodes conversions with
  | nil =>
    obtain rfl := List.map_eq_nil_iff.mp h.symm
    exact ⟨rfl, rfl, fun hne => absurd rfl hne⟩
  | cons row rows ih =>
    cases conversions with
    | nil => cases h
    | cons conversion conversions =>
      rw [outcomes, List.map_cons] at h
      obtain ⟨hfirst, hrest⟩ := List.cons.inj h
      obtain ⟨-, hcode, hid, worksheet, hworksheet, -⟩ := convertCase_ok (convertRow_ok hfirst).1
      obtain ⟨hcodes, hids, -⟩ := ih hrest
      refine ⟨?_, ?_, fun _ => ⟨worksheet, hworksheet⟩⟩
      · rw [List.map_cons, List.map_cons, List.map_cons, List.map_cons, hcodes, hcode]
      · rw [List.map_cons, List.map_cons, List.map_cons, hids, hid]

/-- A baseline is built exactly if every row is accepted and the baseline has what it needs. -/
theorem exists_buildResult_iff : (∃ result, buildResult interpreter origin rows = .ok result) ↔
    AllAccepted interpreter origin.toWorksheet rows ∧ Publishable interpreter origin rows := by
  simp only [buildResult_eq_ok, allAccepted_iff]
  constructor
  · rintro ⟨result, conversions, h, hbaseline, -⟩
    obtain ⟨hcodes, hids, -⟩ := outcomes_cases h
    obtain ⟨hkey, hversion, hname, -, hsome, hnodup, -⟩ :=
      validateBaseline_ok.mp ⟨_, hbaseline⟩
    refine ⟨⟨conversions, h⟩, ?_, hkey, hversion, nonEmptyStr_ok.mp hname, hids ▸ hnodup⟩
    rintro rfl
    obtain rfl := List.map_eq_nil_iff.mp h.symm
    exact hsome rfl
  · rintro ⟨⟨conversions, h⟩, hpublishable⟩
    obtain ⟨hcodes, hids, hworksheet⟩ := outcomes_cases h
    obtain ⟨-, hnodup, -⟩ := outcomes_codes h
    have hsome : conversions.map Prod.fst ≠ [] := by
      intro hnil
      have hlength := congrArg List.length hcodes
      rw [hnil, List.map_nil, List.length_nil, List.length_map, List.length_map] at hlength
      exact hpublishable.nonempty (List.eq_nil_of_length_eq_zero hlength.symm)
    have hdistinct : ((conversions.map Prod.fst).map CaseDefinition.caseCode).Nodup := by
      rw [hcodes]
      exact hnodup.map fun _ _ => String.ofList_injective
    obtain ⟨baseline, hbaseline⟩ := validateBaseline_ok.mpr ⟨hpublishable.projectKey,
      hpublishable.version, nonEmptyStr_ok.mpr hpublishable.sourceName,
      hworksheet hpublishable.nonempty, hsome, hids ▸ hpublishable.caseIds, hdistinct⟩
    exact ⟨⟨baseline, _⟩, conversions, h, hbaseline, rfl⟩

/-! ### The whole import -/

/-- Some run of the loop accepts the row. -/
def Accepts (interpreter : Interpreter) (sheet : Worksheet) (row : Nat × LegacyRow)
    (case : CaseDefinition) (warnings : List UnusedInputSegments) : Prop :=
  ∃ seenCodes, (convertRow interpreter sheet seenCodes row.1 row.2).1 = .ok (case, warnings)

/-- Nothing is lost of a row that is accepted, and the baseline is that of all rows. -/
structure LosesNothing (interpreter : Interpreter) (origin : BaselineOrigin)
    (rows : List (Nat × LegacyRow)) : Prop where
  retained : ∀ row ∈ rows, ∀ case warnings,
    Accepts interpreter origin.toWorksheet row case warnings →
      Retained interpreter row.2 row.1 (rowCode interpreter row.2) case warnings
  built : (∃ result, buildResult interpreter origin rows = .ok result) ↔
    AllAccepted interpreter origin.toWorksheet rows
  ordered : ∀ result, buildResult interpreter origin rows = .ok result →
    InRowOrder interpreter rows result.baseline.cases
  distinct : ∀ result, buildResult interpreter origin rows = .ok result →
    (result.baseline.cases.map CaseDefinition.caseCode).Nodup
  /-- The warnings of all rows are in the audit. -/
  reported : ∀ result, buildResult interpreter origin rows = .ok result →
    ∃ conversions : List Conversion,
      outcomes interpreter origin.toWorksheet [] rows = conversions.map .ok ∧
        result.baseline.cases = conversions.map Prod.fst ∧
        result.warnings = conversions.flatMap Prod.snd

theorem retained_iff {numbered : Nat × LegacyRow}
    (h : Accepts interpreter sheet numbered case warnings) :
    Retained interpreter numbered.2 numbered.1 (rowCode interpreter numbered.2) case warnings ↔
      ¬Drops interpreter numbered.2 := by
  obtain ⟨seenCodes, h⟩ := h
  exact (convertCase_ok (convertRow_ok h).1).1.retained_iff

/-- The import of a worksheet loses nothing exactly if no row that is accepted has a locator too many
    beside a column for its assertion, and rows that are all accepted can be published. -/
theorem losesNothing_iff (interpreter : Interpreter) (origin : BaselineOrigin)
    (rows : List (Nat × LegacyRow)) :
    LosesNothing interpreter origin rows ↔
      (∀ row ∈ rows, (∃ case warnings,
        Accepts interpreter origin.toWorksheet row case warnings) → ¬Drops interpreter row.2) ∧
      (AllAccepted interpreter origin.toWorksheet rows → Publishable interpreter origin rows) := by
  constructor
  · intro h
    refine ⟨?_, fun haccepted => ?_⟩
    · rintro row hrow ⟨case, warnings, haccepts⟩
      exact (retained_iff haccepts).mp (h.retained row hrow case warnings haccepts)
    · exact (exists_buildResult_iff.mp (h.built.mpr haccepted)).2
  · rintro ⟨hkept, hpublishable⟩
    refine ⟨fun row hrow case warnings haccepts => ?_, ?_, ?_, ?_, ?_⟩
    · exact (retained_iff haccepts).mpr (hkept row hrow ⟨case, warnings, haccepts⟩)
    · rw [exists_buildResult_iff]
      exact ⟨And.left, fun haccepted => ⟨haccepted, hpublishable haccepted⟩⟩
    · intro result hresult
      obtain ⟨conversions, h, hbaseline, -⟩ := buildResult_eq_ok.mp hresult
      rw [validateBaseline_cases hbaseline]
      exact (outcomes_codes h).1
    · exact fun result _ => result.baseline.caseCodesNodup
    · intro result hresult
      obtain ⟨conversions, h, hbaseline, hwarnings⟩ := buildResult_eq_ok.mp hresult
      exact ⟨conversions, h, validateBaseline_cases hbaseline, hwarnings⟩

namespace LegacySheet

/-- An interpreter for texts of ASCII characters, whose identifiers are the texts themselves. -/
def asciiInterpreter : Interpreter where
  toFloatFormats := LegacyWorkbook.wholeFormats
  upper text := text.map Char.toUpper
  parseFloat _ := none
  uuid5 text := Encodable.encode (text.map Char.toNat)
  sha256 _ := []

/-- One click, a locator after that of the click, and one in the column of the assertion. -/
def checkout : LegacyRow
  | "用例ID" => .text "tc-home-1".toList
  | "模块" => .text "首页".toList
  | "测试场景" => .text "Check out".toList
  | "测试点" => .text "The receipt is shown".toList
  | "优先级" => .text "P0".toList
  | "元素定位器" => .text "#pay, #receipt".toList
  | "操作类型" => .text "click".toList
  | "断言类型" => .text "element_visible".toList
  | "断言定位器" => .text "#page".toList
  | "是否执行" => .int 1
  | _ => .empty

def shopOrigin : BaselineOrigin := ⟨⟨"cases", "shop"⟩, "case-v1.0.0", "cases.xlsx", 0⟩

end LegacySheet

open LegacySheet

/-- The row is accepted without a warning, and its second locator is lost. -/
theorem checkout_loses : ¬LosesNothing asciiInterpreter shopOrigin [(2, checkout)] := by
  intro h
  have haccepts : ((convertRow asciiInterpreter shopOrigin.toWorksheet [] 2
      checkout).1.toOption.map fun conversion => conversion.2) = some [] := by
    decide
  obtain ⟨⟨case, warnings⟩, hcase, -⟩ := exists_of_toOption haccepts
  have hdrops : Drops asciiInterpreter checkout := by
    refine ⟨"#receipt".toList, ?_, "#page".toList, ?_, ?_⟩
    · decide
    · decide
    · decide
  have hretained := h.retained _ List.mem_cons_self case warnings ⟨[], hcase⟩
  exact (retained_iff ⟨[], hcase⟩).mp hretained hdrops

end TestOps.LegacyImport

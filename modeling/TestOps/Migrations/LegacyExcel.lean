import TestOps.Runners.RuntimeWorkbook

/-! Reading a row of a legacy workbook by position. The cells of operations and locators are split at
    commas, the cell of inputs at bars, and the operations that consume an input take the next one:

      operations   input , click , select          locators   l₁ , l₂ , l₃ [ , assertion ]
                     │               │
      inputs        "a"     |       "b"                                                          -/

namespace TestOps

open Checked

inductive MigrationError where
  | legacyExcelMigrationError (message : String)
  | valueError (message : String)
  deriving DecidableEq

/-! ### Cells -/

/-- The text of a cell, as it stands there. -/
def Cell.rawText (formats : FloatFormats) : Cell → Option Text
  | .empty => none
  | .text value => some value
  | .number value => some (if value.den = 1 then (toString value.num).toList
      else formats.general value)

def Row.text (formats : FloatFormats) (row : Row) (column : String) : Option Text :=
  ((row.get column).rawText formats).map (strip isSpace)

def requiredText (formats : FloatFormats) (row : Row) (column : String) :
    Except MigrationError Text :=
  found ((row.text formats column).filter (· ≠ [])) (.legacyExcelMigrationError s!"{column}为空")

/-- Python's `a or b` -/
def orText (a b : Option Text) : Option Text := if a.any (· ≠ []) then a else b

/-- A piece of the inputs is trimmed, unless it is blank. -/
def tidy (piece : Text) : Text :=
  if strip isSpace piece ≠ [] then strip isSpace piece else piece

def splitLegacyData (raw : Option Text) : List Text :=
  match raw with
  | none | some [] => []
  | some text => (text.splitOn '|').map tidy

/-- The pieces of a list that is separated by commas. -/
def commaPieces (text : Text) : List Text := (text.splitOn ',').map (strip isSpace)

def splitLocators (text : Option Text) : List Text :=
  match text with
  | none | some [] => []
  | some text => commaPieces text

/-! ### A case -/

/-- Accept what a validator of the contract accepts. -/
def validated {α : Type} (result : Except ValidationError α) : Except MigrationError α :=
  result.mapError .valueError

@[simp] theorem validated_eq_ok {α : Type} {result : Except ValidationError α} {value : α} :
    validated result = .ok value ↔ result = .ok value := by
  cases result <;> simp [validated, Except.mapError]

/-- The step that an operation with a locator and an input makes. -/
def readStep (spec : CapabilitySpec) (locator input : Text) : StepDefinition where
  operation := spec.key
  locator := if locator = [] then none else some (String.ofList locator)
  input := if spec.consumesInput then .text (String.ofList input) else .none
  timeoutSeconds := none

/-- The operations in order, each with its locator; those that consume an input take the next one. -/
def convertSteps : List (Text × Text) → List Text → Except MigrationError (List StepDefinition)
  | [], _ => return []
  | (operationName, locator) :: operations, inputs => do
    let spec ← validated (getOperationSpec (String.ofList operationName))
    ensure (spec.key ∈ ["upload", "daterange"] → spec.consumesInput = true ∧
        strip isSpace (inputs.headD []) ≠ [])
      (.legacyExcelMigrationError s!"操作「{spec.key}」缺少输入数据")
    let step ← validated (readStep spec locator (inputs.headD [])).validate
    let steps ← convertSteps operations (if spec.consumesInput then inputs.tail else inputs)
    return step :: steps

/-- The part of `_convert_case` that reads by position: the steps and the assertion. -/
def convertCase (formats : FloatFormats) (row : Row) :
    Except MigrationError (List StepDefinition × AssertionDefinition) := do
  let rawOperations ← requiredText formats row "操作类型"
  let operationNames := commaPieces rawOperations
  ensure (∀ name ∈ operationNames, name ≠ [])
    (.legacyExcelMigrationError "操作类型中存在空操作")
  let locators := splitLocators (row.text formats "元素定位器")
  ensure (locators.length ≤ operationNames.length + 1) (.legacyExcelMigrationError
    s!"定位器数量({locators.length})超过操作数量({operationNames.length})太多")
  let stepLocators := locators.take operationNames.length ++
    List.replicate (operationNames.length - locators.length) []
  let steps ← convertSteps (operationNames.zip stepLocators)
    (splitLegacyData ((row.get "输入数据").rawText formats))
  let assertionName ← requiredText formats row "断言类型"
  let spec ← validated (getAssertionSpec (String.ofList assertionName))
  let locator := orText (row.text formats assertionLocatorColumn)
    (locators.reverse.find? (· ≠ []))
  let expected := orText (row.text formats "验证点") (row.text formats "期望结果")
  let assertion ← validated (AssertionDefinition.validate {
    type := spec.key
    expected := match expected with
      | none => .none
      | some text => .text (String.ofList text)
    locator := locator.map String.ofList
    timeoutSeconds := none })
  return (steps, assertion)

end TestOps

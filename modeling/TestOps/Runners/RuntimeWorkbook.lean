import TestOps.Contracts.Capabilities

/-! The cases of a snapshot, written into the rows of a legacy workbook. A case becomes one row, and
    its steps share three cells:

      locators   l₁, l₂, .., lₙ        one per step, blank where a step has none
      operations o₁,o₂,..,oₙ
      inputs     i₁|i₂|..              one per step that has an input

    The legacy executor finds its way through the cells by position. -/

namespace TestOps

open Checked

/-- How Python writes a float: `str(value)`, which is never empty, and `format(value, ".15g")`. -/
structure FloatFormats where
  str : ℚ → Text
  general : ℚ → Text
  str_ne_nil : ∀ value, str value ≠ []

/-! ### Cells -/

inductive Cell where
  | empty
  | text (value : Text)
  | number (value : ℚ)
  deriving DecidableEq

/-- The cells of a row by the headers of their columns. -/
abbrev Row := List (String × Cell)

def Row.get (row : Row) (column : String) : Cell := (row.lookup column).getD .empty

/-! ### JSON texts -/

def quotationMark : Char := Char.ofNat 0x22

def backslash : Char := Char.ofNat 0x5C

def hexDigit (n : Nat) : Char := if n < 10 then Char.ofNat (0x30 + n) else Char.ofNat (0x57 + n)

/-- A character inside of a JSON string that may hold any but ASCII's controls. -/
def jsonChar (c : Char) : Text :=
  if c = quotationMark ∨ c = backslash then [backslash, c]
  else match c.toNat with
    | 0x08 => [backslash, 'b']
    | 0x09 => [backslash, 't']
    | 0x0A => [backslash, 'n']
    | 0x0C => [backslash, 'f']
    | 0x0D => [backslash, 'r']
    | n => if n < 0x20 then
        [backslash, 'u', '0', '0', hexDigit (n / 16), hexDigit (n % 16)]
      else [c]

def jsonString (value : String) : Text :=
  quotationMark :: value.toList.flatMap jsonChar ++ [quotationMark]

def jsonList (values : List String) : Text :=
  '[' :: [','].intercalate (values.map jsonString) ++ [']']

/-- Keys are sorted. -/
def jsonDict (entries : List (String × String)) : Text :=
  Char.ofNat 0x7B :: [','].intercalate
    ((entries.insertionSort fun a b => a.1 ≤ b.1).map fun entry =>
      jsonString entry.1 ++ ':' :: jsonString entry.2) ++ [Char.ofNat 0x7D]

/-! ### Values -/

def cellText (formats : FloatFormats) : StepInput → Text
  | .none => []
  | .bool value => if value then "true".toList else "false".toList
  | .list values => jsonList values
  | .dict entries => jsonDict entries
  | .text value => value.toList
  | .int value => (toString value).toList
  | .float value => formats.str value

/-- The inputs of the steps that have one. -/
def CaseDefinition.inputTexts (formats : FloatFormats) (case : CaseDefinition) : List Text :=
  (case.steps.filter fun step => step.input ≠ .none).map fun step => cellText formats step.input

def inputData (formats : FloatFormats) (case : CaseDefinition) : Text :=
  ['|'].intercalate (case.inputTexts formats)

/-- `locator or ""` -/
def locatorText (locator : Option String) : Text := (locator.getD "").toList

def CaseDefinition.stepLocators (case : CaseDefinition) : List Text :=
  case.steps.map fun step => locatorText step.locator

/-- The last locator that is not empty. -/
def lastLocator (locators : List Text) : Text := (locators.reverse.find? (· ≠ [])).getD []

/-- The assertion's locator comes last, unless it has a column or is the last one anyway. -/
def slots (explicitAssertionColumn : Bool) (case : CaseDefinition) : List Text :=
  let locators := case.stepLocators
  let assertionLocator := locatorText case.assertion.locator
  if assertionLocator ≠ [] ∧ explicitAssertionColumn = false ∧
      assertionLocator ≠ lastLocator locators then
    locators ++ [assertionLocator]
  else locators

def locatorSlots (explicitAssertionColumn : Bool) (case : CaseDefinition) : Text :=
  [',', ' '].intercalate (slots explicitAssertionColumn case)

def CasePriority.value : CasePriority → String
  | .p0 => "P0" | .p1 => "P1" | .p2 => "P2" | .p3 => "P3"

def ExecutionGroup.value : ExecutionGroup → String
  | .a => "A" | .b => "B" | .serial => "SERIAL" | .auto => "AUTO"

def assertionLocatorColumn : String := "断言定位器"

/-- The values of a case by the headers of the columns they belong to. -/
def runtimeValues (formats : FloatFormats) (explicitAssertionColumn : Bool)
    (fallbackExecutionGroup : Text) (case : CaseDefinition) : Row :=
  [("用例ID", .text case.caseCode.toList),
    ("模块", .text case.moduleName.toList),
    ("测试场景", .text case.title.toList),
    ("测试点", .text case.testPoint.toList),
    ("优先级", .text case.priority.value.toList),
    ("前置条件", .text (['\n'].intercalate (case.preconditions.map String.toList))),
    ("操作步骤", .text (case.sourceInstructions.getD "").toList),
    ("元素定位器", .text (locatorSlots explicitAssertionColumn case)),
    ("操作类型", .text ([','].intercalate (case.steps.map fun step => step.operation.toList))),
    ("输入数据", .text (inputData formats case)),
    ("数据类型", .text (case.dataType.getD "").toList),
    ("期望结果", .text (case.expectedResult.getD "").toList),
    ("验证点", .text (cellText formats case.assertion.expected)),
    ("断言类型", .text case.assertion.type.toList),
    ("超时(秒)", match case.timeoutSeconds with
      | none => .empty
      | some seconds => .number seconds),
    ("备注", .text (case.notes.getD "").toList),
    ("实际结果", .text []),
    ("是否执行", .text (if case.enabled then ['是'] else ['否'])),
    ("执行分组", .text (match case.executionGroup with
      | some group => group.value.toList
      | none => if fallbackExecutionGroup ≠ [] then fallbackExecutionGroup else "AUTO".toList))] ++
  if explicitAssertionColumn then
    [(assertionLocatorColumn, .text (locatorText case.assertion.locator))]
  else []

/-! ### Workbooks -/

/-- The worksheet of a package: the headers of its columns, and of each row the texts in the columns
    of the case code and of the execution group. -/
structure RuntimeTemplate where
  headers : List String
  rows : List (Text × Text)

def requiredRuntimeColumns : List String :=
  ["用例ID", "模块", "测试场景", "测试点", "优先级", "前置条件", "操作步骤", "元素定位器", "操作类型",
    "输入数据", "数据类型", "期望结果", "验证点", "断言类型", "超时(秒)", "备注", "是否执行"]

/-- The execution group that the template gives a case; a later row overrides an earlier one. -/
def RuntimeTemplate.group (template : RuntimeTemplate) (caseCode : Text) : Text :=
  if "执行分组" ∈ template.headers then
    ((template.rows.reverse.find? fun row => row.1 ≠ [] ∧ strip isSpace row.1 = caseCode).map
      fun row => strip isSpace row.2).getD []
  else []

/-- The row of a case has the values whose columns the worksheet has. -/
def writtenRow (headers : List String) (values : Row) : Row :=
  headers.filterMap fun header => (values.lookup header).map fun value => (header, value)

def caseRow (formats : FloatFormats) (template : RuntimeTemplate) (case : CaseDefinition) : Row :=
  writtenRow template.headers (runtimeValues formats (assertionLocatorColumn ∈ template.headers)
    (template.group case.caseCode.toList) case)

structure RuntimeEvidence where
  baselineVersion : String
  baselineDigest : Digest
  caseCount : Nat
  caseCodes : List String

/-- The codes that a written worksheet shows. -/
def actualCodes (rows : List Row) : List Text :=
  rows.filterMap fun row =>
    match row.get "用例ID" with
    | .text code => if code ≠ [] then some (strip isSpace code) else none
    | _ => none

/-- Replace the rows of the template by the cases of a snapshot; an error is a
    `RuntimeWorkbookError`. -/
def materializeRuntimeWorkbook (formats : FloatFormats) (template : RuntimeTemplate)
    (cases : List CaseDefinition) (baseline : CaseBaselineRef) :
    Except String (List Row × RuntimeEvidence) := do
  let missing := requiredRuntimeColumns.filter (· ∉ template.headers)
  ensure (missing = []) ("legacy package workbook is missing runtime columns: " ++
    ", ".intercalate (missing.insertionSort (· ≤ ·)))
  let rows := cases.map (caseRow formats template)
  ensure (actualCodes rows = cases.map fun case => case.caseCode.toList)
    "runtime workbook case order does not match RunSnapshot"
  return (rows, ⟨baseline.version, baseline.digest, cases.length,
    cases.map CaseDefinition.caseCode⟩)

/-! ### Reading a written row -/

theorem lookup_writtenRow {headers : List String} {values : Row} {column : String} :
    (writtenRow headers values).lookup column =
      if column ∈ headers then values.lookup column else none := by
  rw [writtenRow]
  induction headers with
  | nil => rfl
  | cons header headers ih =>
    rw [List.filterMap_cons]
    by_cases hsame : column = header
    · subst hsame
      rw [if_pos List.mem_cons_self]
      cases hvalue : values.lookup column with
      | none =>
        simp only [Option.map_none, ih, hvalue, ite_self]
      | some value => simp
    · have hmem : column ∈ header :: headers ↔ column ∈ headers := by simp [hsame]
      simp only [hmem, ← ih]
      cases hvalue : values.lookup header with
      | none => rfl
      | some value => simp [List.lookup_cons, beq_false_of_ne hsame]

theorem Row.get_writtenRow {headers : List String} {values : Row} {column : String}
    (h : column ∈ headers) : Row.get (writtenRow headers values) column = values.get column := by
  rw [Row.get, Row.get, lookup_writtenRow, if_pos h]

end TestOps

import TestOps.Lib.Utf8
import TestOps.Migrations.LegacyExcel

/-! The import of a legacy worksheet: every row becomes a case, with a warning where a part of it is not
    taken over, and the cases become a baseline if no row is rejected.

      rows   1 ──▸ case            ╮
             2 ──▸ case, warning   ├──▸ baseline, warnings
             3 ──▸ case            ╯
             4 ──▸ error           ───▸ no baseline, all errors -/

namespace TestOps.LegacyImport

open Checked

/-! ### Cells -/

/-- A value of a cell; a float that is not finite has no number. -/
inductive CellValue where
  | empty
  | bool (value : Bool)
  | int (value : Int)
  | float (value : Option ℚ)
  | date (isoformat : Text)
  | text (value : Text)

/-- The values of a row by the headers of their columns, empty where there is no such column. -/
abbrev LegacyRow := String → CellValue

/-- How an interpreter writes and reads texts: `float` of a text may be not finite, and `uuid5` is
    taken in the namespace of baselines. -/
structure Interpreter extends FloatFormats where
  upper : Text → Text
  parseFloat : Text → Option (Option ℚ)
  uuid5 : Text → UUID
  sha256 : Bytes → Text

def CellValue.rawText (formats : FloatFormats) : CellValue → Except MigrationError (Option Text)
  | .empty => return none
  | .bool value => return some (if value then "true".toList else "false".toList)
  | .int value => return some (toString value).toList
  | .float none =>
    throw (.legacyExcelMigrationError "Excel contains a non-finite numeric value")
  | .float (some value) => return some (if value.den = 1 then (toString value.num).toList
      else formats.general value)
  | .date isoformat => return some isoformat
  | .text value => return some value

/-- `_cell_text` -/
def cellText (formats : FloatFormats) (value : CellValue) : Except MigrationError (Option Text) := do
  let text ← value.rawText formats
  return text.map (strip isSpace)

/-- `_required_text`, of a value in a column -/
def requiredText (formats : FloatFormats) (value : CellValue) (column : String) :
    Except MigrationError Text := do
  let text ← cellText formats value
  found (text.filter (· ≠ [])) (.legacyExcelMigrationError s!"{column}为空")

/-! ### Values with a meaning -/

def moduleKeys : List (String × String) :=
  [("账号登录", "login"), ("首页", "home"), ("首页搜索", "home-search"),
    ("首页跳转", "home-navigation"), ("顾客列表", "customer-list"), ("顾客详情", "customer-detail"),
    ("影像阅览", "image-viewer"), ("案例库", "case-library"), ("个人中心", "profile")]

def priorityAliases : List (String × CasePriority) :=
  [("P0", .p0), ("P1", .p1), ("P2", .p2), ("P3", .p3), ("中", .p2)]

def executionGroupAliases : List (String × String) :=
  [("自动", "AUTO"), ("串行", "SERIAL"), ("WORKER_A", "A"), ("WORKER_B", "B")]

def executionGroups : List (String × ExecutionGroup) :=
  [("A", .a), ("B", .b), ("SERIAL", .serial), ("AUTO", .auto)]

def priority (interpreter : Interpreter) (value : CellValue) : Except MigrationError CasePriority := do
  let raw ← requiredText interpreter.toFloatFormats value "priority"
  let key := String.ofList (if raw ≠ ['中'] then interpreter.upper raw else raw)
  found (priorityAliases.lookup key)
    (.legacyExcelMigrationError s!"不支持的优先级「{String.ofList raw}」")

def enabled (interpreter : Interpreter) (value : CellValue) : Except MigrationError Bool := do
  let raw ← requiredText interpreter.toFloatFormats value "enabled"
  let normalized := String.ofList (interpreter.upper raw)
  if normalized ∈ ["是", "1", "Y", "TRUE"] then return true
  else do
    ensure (normalized ∈ ["否", "0", "N", "FALSE"])
      (.legacyExcelMigrationError s!"不支持的是否执行值「{String.ofList raw}」")
    return false

def timeout (interpreter : Interpreter) (value : CellValue) : Except MigrationError (Option ℚ) := do
  match ← cellText interpreter.toFloatFormats value with
  | none | some [] => return none
  | some raw => do
    let parsed ← found (interpreter.parseFloat raw)
      (.legacyExcelMigrationError s!"超时(秒)不是数字「{String.ofList raw}」")
    let seconds ← found (parsed.filter fun seconds => 0 < seconds ∧ seconds ≤ 600)
      (.legacyExcelMigrationError s!"超时(秒)超出范围「{String.ofList raw}」")
    return some seconds

def executionGroup (interpreter : Interpreter) (value : CellValue) :
    Except MigrationError (Option ExecutionGroup) := do
  match ← cellText interpreter.toFloatFormats value with
  | none | some [] => return none
  | some raw => do
    let upper := String.ofList (interpreter.upper raw)
    let group ← found (executionGroups.lookup ((executionGroupAliases.lookup upper).getD upper))
      (.legacyExcelMigrationError s!"不支持的执行分组「{String.ofList raw}」")
    return some group

/-! ### A case -/

/-- A warning of the audit: these many inputs of the row are not taken over. -/
structure UnusedInputSegments where
  row : Nat
  caseCode : Text
  segmentCount : Nat
  contentDigest : Text
  deriving DecidableEq

/-- Where a row comes from, and what it is imported for. -/
structure Worksheet where
  worksheet : String
  projectKey : String

/-- How many inputs the operations take. -/
def inputIndex (operationNames : List Text) : Nat :=
  (operationNames.filter fun name =>
    (findSpec operations (String.ofList name)).any CapabilitySpec.consumesInput).length

def unusedWarning (interpreter : Interpreter) (rowNumber : Nat) (caseCode : Text)
    (unused : List Text) : List UnusedInputSegments :=
  if unused = [] then []
  else [⟨rowNumber, caseCode, unused.length,
    "sha256:".toList ++ interpreter.sha256 ((['|'].intercalate unused).flatMap String.utf8EncodeChar)⟩]

/-- The pattern `[a-z0-9][a-z0-9_-]*` -/
def slugPattern (text : String) : Bool :=
  let isLowerAlnum (c : Char) : Bool := ('a' ≤ c ∧ c ≤ 'z') ∨ ('0' ≤ c ∧ c ≤ '9')
  match text.toList with
  | [] => false
  | first :: rest => isLowerAlnum first ∧ rest.all fun c => isLowerAlnum c ∨ c = '_' ∨ c = '-'

def caseId (interpreter : Interpreter) (projectKey : String) (caseCode : Text) : UUID :=
  interpreter.uuid5 (s!"case:{projectKey}:".toList ++ caseCode)

/-- The steps, the assertion and the warning of a row. -/
def convertOperations (interpreter : Interpreter) (rowNumber : Nat) (caseCode : Text)
    (row : LegacyRow) :
    Except MigrationError (List StepDefinition × AssertionDefinition × List UnusedInputSegments) := do
  let formats := interpreter.toFloatFormats
  let rawOperations ← requiredText formats (row "操作类型") "操作类型"
  let operationNames := commaPieces rawOperations
  ensure (∀ name ∈ operationNames, name ≠ [])
    (.legacyExcelMigrationError "操作类型中存在空操作")
  let locators := splitLocators (← cellText formats (row "元素定位器"))
  ensure (locators.length ≤ operationNames.length + 1) (.legacyExcelMigrationError
    s!"定位器数量({locators.length})超过操作数量({operationNames.length})太多")
  let stepLocators := locators.take operationNames.length ++
    List.replicate (operationNames.length - locators.length) []
  let dataParts := splitLegacyData (← (row "输入数据").rawText formats)
  let steps ← convertSteps (operationNames.zip stepLocators) dataParts
  let assertionName ← requiredText formats (row "断言类型") "断言类型"
  let spec ← validated (getAssertionSpec (String.ofList assertionName))
  let explicitLocator ← cellText formats (row assertionLocatorColumn)
  let verifyPoint ← cellText formats (row "验证点")
  let expectedResult ← cellText formats (row "期望结果")
  let assertion ← validated (AssertionDefinition.validate {
    type := spec.key
    expected := match orText verifyPoint expectedResult with
      | none => .none
      | some text => .text (String.ofList text)
    locator := (orText explicitLocator (locators.reverse.find? (· ≠ []))).map String.ofList
    timeoutSeconds := none })
  return (steps, assertion, unusedWarning interpreter rowNumber caseCode
    (dataParts.drop (inputIndex operationNames)))

/-- `_convert_case` of a row whose code is new -/
def convertCase (interpreter : Interpreter) (sheet : Worksheet) (rowNumber : Nat)
    (caseCode : Text) (row : LegacyRow) :
    Except MigrationError (CaseDefinition × List UnusedInputSegments) := do
  let formats := interpreter.toFloatFormats
  let moduleName ← requiredText formats (row "模块") "模块"
  let moduleKey ← found (moduleKeys.lookup (String.ofList moduleName))
    (.legacyExcelMigrationError s!"模块未配置稳定键「{String.ofList moduleName}」")
  let (steps, assertion, warnings) ← convertOperations interpreter rowNumber caseCode row
  let precondition ← cellText formats (row "前置条件")
  let title ← requiredText formats (row "测试场景") "测试场景"
  let testPoint ← requiredText formats (row "测试点") "测试点"
  let priority ← priority interpreter (row "优先级")
  let enabled ← enabled interpreter (row "是否执行")
  let sourceInstructions ← cellText formats (row "操作步骤")
  let dataType ← cellText formats (row "数据类型")
  let expectedResult ← cellText formats (row "期望结果")
  let timeoutSeconds ← timeout interpreter (row "超时(秒)")
  let worksheet ← validated (nonEmptyStr sheet.worksheet)
  ensure (2 ≤ rowNumber) (.valueError "Input should be greater than or equal to 2")
  let notes ← cellText formats (row "备注")
  let executionGroup ← executionGroup interpreter (row "执行分组")
  if formed : caseCodePattern (String.ofList caseCode) = true then do
    ensure (slugPattern moduleKey = true) (.valueError "String should match pattern")
    let moduleName ← validated (nonEmptyStr (String.ofList moduleName))
    let title ← validated (nonEmptyStr (String.ofList title))
    let testPoint ← validated (nonEmptyStr (String.ofList testPoint))
    let preconditions ← (precondition.filter (· ≠ [])).toList.mapM fun text =>
      validated (nonEmptyStr (String.ofList text))
    return ({
      caseId := caseId interpreter sheet.projectKey caseCode
      caseCode := String.ofList caseCode
      moduleKey := moduleKey
      moduleName := moduleName
      title := title
      testPoint := testPoint
      priority := priority
      preconditions := preconditions
      steps := steps
      assertion := assertion
      tags := ["legacy-excel", s!"module:{moduleKey}"]
      enabled := enabled
      sourceInstructions := sourceInstructions.map String.ofList
      dataType := dataType.map String.ofList
      expectedResult := expectedResult.map String.ofList
      timeoutSeconds := timeoutSeconds
      sourceTrace := some ⟨worksheet, rowNumber⟩
      notes := notes.map String.ofList
      executionGroup := executionGroup
      caseCodeFormed := formed }, warnings)
  else throw (.valueError "String should match pattern")

/-- `_convert_case`, and the codes that have been seen after it: a code is seen even if its row is
    rejected later on. -/
def convertRow (interpreter : Interpreter) (sheet : Worksheet) (seenCodes : List Text)
    (rowNumber : Nat) (row : LegacyRow) :
    Except MigrationError (CaseDefinition × List UnusedInputSegments) × List Text :=
  match requiredText interpreter.toFloatFormats (row "用例ID") "用例ID" with
  | .error e => (.error e, seenCodes)
  | .ok rawCaseCode =>
    let caseCode := interpreter.upper rawCaseCode
    if caseCode ∈ seenCodes then
      (.error (.legacyExcelMigrationError s!"用例ID重复「{String.ofList caseCode}」"), seenCodes)
    else (convertCase interpreter sheet rowNumber caseCode row, caseCode :: seenCodes)

/-! ### The baseline -/

def errorMessage : MigrationError → String
  | .legacyExcelMigrationError message => message
  | .valueError message => message

structure RowError where
  row : Nat
  caseCode : String
  message : String

def RowError.line (entry : RowError) : String :=
  s!"- 第{entry.row}行[{entry.caseCode}]: {entry.message}"

/-- What the loop over the rows has collected. -/
structure Progress where
  seenCodes : List Text
  cases : List CaseDefinition
  warnings : List UnusedInputSegments
  errors : List RowError

def importRow (interpreter : Interpreter) (sheet : Worksheet) (progress : Progress)
    (row : Nat × LegacyRow) : Except MigrationError Progress :=
  match convertRow interpreter sheet progress.seenCodes row.1 row.2 with
  | (.ok (case, warnings), seenCodes) => return ⟨seenCodes, progress.cases ++ [case],
      progress.warnings ++ warnings, progress.errors⟩
  | (.error e, seenCodes) => do
    let caseCode ← cellText interpreter.toFloatFormats (row.2 "用例ID")
    let entry : RowError :=
      ⟨row.1, String.ofList ((caseCode.filter (· ≠ [])).getD "<missing>".toList), errorMessage e⟩
    return ⟨seenCodes, progress.cases, progress.warnings, progress.errors ++ [entry]⟩

/-- The pattern `case-v[0-9]+\.[0-9]+\.[0-9]+` -/
def baselineVersionPattern (version : String) : Bool :=
  "case-v".toList.isPrefixOf version.toList ∧
    let parts := (version.toList.drop 6).splitOn '.'
    parts.length = 3 ∧ parts.all fun part => part ≠ [] ∧ part.all Char.isDigit

structure MigrationResult where
  baseline : CaseBaseline
  warnings : List UnusedInputSegments

/-- What a baseline is built from, besides its cases. -/
structure BaselineOrigin extends Worksheet where
  version : String
  sourceName : String
  sourceDigest : Digest

/-- What `CaseBaseline` demands of its cases. -/
abbrev ValidCases (cases : List CaseDefinition) : Prop :=
  cases ≠ [] ∧ (cases.map CaseDefinition.caseId).Nodup ∧
    (cases.map CaseDefinition.caseCode).Nodup

namespace ValidCases

variable {cases : List CaseDefinition}

theorem nonempty (h : ValidCases cases) : cases ≠ [] := h.1

theorem caseIds (h : ValidCases cases) : (cases.map CaseDefinition.caseId).Nodup := h.2.1

theorem caseCodes (h : ValidCases cases) : (cases.map CaseDefinition.caseCode).Nodup := h.2.2

end ValidCases

/-- `CaseBaseline(..)` -/
def validateBaseline (interpreter : Interpreter) (origin : BaselineOrigin)
    (cases : List CaseDefinition) : Except ValidationError CaseBaseline := do
  ensure (slugPattern origin.projectKey = true) "String should match pattern"
  ensure (baselineVersionPattern origin.version = true) "String should match pattern"
  let fileName ← nonEmptyStr origin.sourceName
  let worksheet ← nonEmptyStr origin.worksheet
  if valid : cases ≠ [] ∧ (cases.map CaseDefinition.caseId).Nodup ∧
      (cases.map CaseDefinition.caseCode).Nodup then
    return {
      baselineId := interpreter.uuid5 s!"baseline:{origin.projectKey}:{origin.version}".toList
      projectKey := origin.projectKey
      version := origin.version
      source := .legacyExcel fileName origin.sourceDigest worksheet
      cases := cases
      casesNonempty := ValidCases.nonempty valid
      caseIdsNodup := ValidCases.caseIds valid
      caseCodesNodup := ValidCases.caseCodes valid }
  else throw "case baseline contains no case or duplicates"

/-- `_build_result` -/
def buildResult (interpreter : Interpreter) (origin : BaselineOrigin)
    (rows : List (Nat × LegacyRow)) : Except MigrationError MigrationResult := do
  let progress ← rows.foldlM (importRow interpreter origin.toWorksheet) ⟨[], [], [], []⟩
  ensure (progress.errors = []) (.legacyExcelMigrationError
    (s!"旧 Excel 迁移失败，共 {progress.errors.length} 项；未生成基线：\n" ++
      "\n".intercalate (progress.errors.map RowError.line)))
  let baseline ← validated (validateBaseline interpreter origin progress.cases)
  return ⟨baseline, progress.warnings⟩

end TestOps.LegacyImport

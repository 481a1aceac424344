import TestOps.Lib.Traced
import TestOps.Runners.AdapterResults
import TestOps.Worker.OutboxDispatch

/-! The Android adapter. A run is at most three calls of the Excel launcher, and whatever is raised on
    the way ends in one handler, which writes a new result for every enabled case:

      preflight ▸ round 1 ▸ wait ▸ round 2 ──┬── ok      results of round 1, updated by round 2
                                             └── raised  INFRA_ERROR, or SKIPPED if canceled

    What a run does is its list of actions: the events it emits and the commands it calls. -/

namespace TestOps.Android

open Checked

/-- The package and the machine an adapter is built for. -/
structure Setup where
  powershellExecutable : String
  projectPath : String → String
  workspacePath : String → String
  isFile : String → Bool
  manifest : Except String Json
  sourceDigest : Except String Digest
  parentEnvironment : String → Option String

/-! ### Commands and actions -/

inductive Invocation where
  | preflight
  | round (number : Nat)
  deriving DecidableEq

/-- The suffix of the run's name -/
def Invocation.suffix : Invocation → String
  | .preflight => "preflight"
  | .round number => "round-" ++ toString number

/-- A command ends with its flags; the cases are those of its `-CaseId`. -/
structure Command where
  invocation : Invocation
  caseCodes : List String
  words : List String
  flags : List String
  environment : List (String × String)
  timeoutSeconds : Nat
  deriving DecidableEq

structure CommandResult where
  returncode : Int
  output : String

inductive Action where
  | event (event : AdapterEvent)
  | command (command : Command)
  deriving DecidableEq

abbrev Run := Traced Action String

/-! ### The world of a run -/

/-- A file the launcher has left as `*-result.json`. -/
inductive AllureFile where
  | failing (text : String)
  | oversized
  | invalid
  | document (payload : Json)

/-- Where the clock is read -/
inductive Occasion where
  | started | finished
  | disabled (caseCode : String)
  | record (invocation : Invocation) (caseCode : String)
  | canceledRound (number : Nat) (caseCode : String)
  | handled (caseCode : String)

/-- Where a cancellation is looked for -/
inductive CancelCheck where
  | preflight
  | round (number : Nat)
  | retry
  | handler
  | terminal

/-- What a run meets: its clock, cancellations, secrets, the launcher and what it leaves behind. -/
structure World where
  clock : Occasion → Instant
  canceled : CancelCheck → Bool
  resolve : SecretBinding → Except String String
  run : Command → Except String CommandResult
  writeLog : Invocation → String → Except String Unit
  allure : Invocation → List AllureFile
  sleep : Nat → Except String Unit
  artifacts : List Artifact

variable (py : PythonLibrary) (setup : Setup) (world : World) (job : RunSnapshot)

/-! ### Tags and variables -/

/-- A tag in any letter case; the tag itself is in lower case. -/
def tagged (tag : String) (case : CaseDefinition) : Bool := tag ∈ case.tags.map py.lower

/-- `_has_tag` -/
def hasTag (cases : List CaseDefinition) (tag : String) : Bool :=
  cases.any (tagged py (py.lower tag))

/-- The tags of cases that change the data of a customer. -/
def mutationTags : List String := ["mutating", "destructive", "persistent"]

/-- `_requires_preflight` -/
def requiresPreflight (cases : List CaseDefinition) : Bool := mutationTags.any (hasTag py cases)

/-- `_is_retryable` -/
def isRetryable (case : CaseDefinition) : Bool :=
  tagged py "readonly" case ∧ ∀ tag ∈ mutationTags ++ ["no_retry"], tagged py tag case = false

/-- `variables.get(name, "")` -/
def variableValue (name : String) : String :=
  (job.runtimeVariables.reverse.find? fun entry => entry.name = name).elim ""
    RuntimeVariable.value

/-- Whether a variable of the job is `true`, in any letter case. -/
def allows (name : String) : Bool := py.lower (variableValue job name) = "true"

/-! ### Validation -/

def requiredProjectPaths : List String :=
  [".venv/Scripts/python.exe", "scripts/run-excel.ps1", "test_case.xlsx", "testops-package.json"]

def allowedRuntimeVariables : List String :=
  ["ANDROID_UDID", "APPIUM_SERVER_URL", "APPIUM_STARTUP_TIMEOUT_SECONDS", "YANJIA_APP_PACKAGE",
    "YANJIA_ALLOW_MUTATION", "YANJIA_ALLOW_DESTRUCTIVE"]

def allowedSecretBindings : List String :=
  ["YANJIA_USERNAME", "YANJIA_PASSWORD", "SEEDED_CUSTOMER_PHONE", "YANJIA_MUTATION_CUSTOMER_QUERY"]

/-- `sorted` of a set of names -/
def sortedNames (names : List String) : List String := names.dedup.insertionSort (· ≤ ·)

/-- The fields of the manifest and what they must be. -/
def manifestFields (packageVersion : String) : List (String × String) :=
  [("name", "yanjia-android-appium"), ("version", packageVersion),
    ("runner_type", "ANDROID_APPIUM"), ("target_type", "APP"),
    ("entrypoint", "scripts/run-excel.ps1"), ("workbook", "test_case.xlsx")]

/-- The name of the type of a decoded value, as the interpreter's messages quote it -/
def typeName : Json → String
  | .null => "'NoneType'"
  | .bool _ => "'bool'"
  | .number number =>
    if number.literal.any fun c => c ∈ ['.', 'e', 'E'] then "'float'" else "'int'"
  | .string _ => "'str'"
  | .array _ => "'list'"
  | .object _ => "'dict'"

/-- Whether a member of an object is the text. -/
def memberIs (name value : String) (payload : Json) : Bool :=
  match member? name payload with
  | some (.string text) => text = value
  | _ => false

/-- `_validate_manifest` -/
def validateManifest (packageVersion : String) : Except String Unit := do
  let payload ← setup.manifest
  ensure (isObject payload) (typeName payload ++ " object has no attribute 'get'")
  (manifestFields packageVersion).forM fun (field, value) =>
    ensure (memberIs field value payload)
      ("Android package manifest field " ++ field ++ " must be " ++ py.repr value)

/-- `_validate_case_contract` -/
def validateCaseContract (case : CaseDefinition) : Except String Unit := do
  match case.steps with
  | [step] =>
    ensure (step.operation = "execute_excel_case" ∧ step.input = .text case.caseCode)
      (case.caseCode ++ " does not match the managed Excel operation contract")
    ensure (case.assertion.type = "excel_case_passed")
      (case.caseCode ++ " does not use the managed Excel assertion")
  | _ => .error (case.caseCode ++ " must contain exactly one managed Excel operation")

/-- The bindings and variables of a job -/
def validateBindings : Except String Unit := do
  let names := job.secretBindings.map SecretBinding.name
  let missingAuth := ["YANJIA_PASSWORD", "YANJIA_USERNAME"].filter (· ∉ names)
  ensure (missingAuth = [])
    ("Android package requires secret bindings: " ++ ", ".intercalate missingAuth)
  let unsupportedBindings := (sortedNames names).filter (· ∉ allowedSecretBindings)
  ensure (unsupportedBindings = []) ("Android package received unsupported secret bindings: " ++
    ", ".intercalate unsupportedBindings)
  let unsupportedVariables := (sortedNames (job.runtimeVariables.map RuntimeVariable.name)).filter
    (· ∉ allowedRuntimeVariables)
  ensure (unsupportedVariables = []) ("Android package received unsupported runtime variables: " ++
    ", ".intercalate unsupportedVariables)

/-- What the enabled cases of a job ask for -/
def validateCases : Except String Unit := do
  let cases := job.enabledCases
  let names := job.secretBindings.map SecretBinding.name
  ensure (cases ≠ []) "Android job requires an enabled case"
  cases.forM validateCaseContract
  let mutates := cases.any fun case => mutationTags.any (tagged py · case)
  ensure (mutates → allows py job "YANJIA_ALLOW_MUTATION")
    "mutating Android cases require YANJIA_ALLOW_MUTATION=true"
  let missing := ["SEEDED_CUSTOMER_PHONE", "YANJIA_MUTATION_CUSTOMER_QUERY"].filter (· ∉ names)
  ensure (mutates → missing = [])
    ("mutating Android cases require secret bindings: " ++ ", ".intercalate missing)
  ensure (cases.any (tagged py "destructive") → allows py job "YANJIA_ALLOW_DESTRUCTIVE")
    "destructive Android cases require YANJIA_ALLOW_DESTRUCTIVE=true"
  ensure ("TC-HOME-007" ∈ caseCodes cases → "SEEDED_CUSTOMER_PHONE" ∈ names)
    "TC-HOME-007 requires SEEDED_CUSTOMER_PHONE as a secret binding"

def validate : Except String Unit := do
  ensure (job.targetType = .app ∧ job.webConfig = none ∧ job.browser = none)
    "AndroidAppiumAdapter only accepts APP jobs"
  let package := job.automationPackage
  ensure (package.runnerType = .androidAppium ∧ package.name = "yanjia-android-appium")
    "Android jobs require the 'yanjia-android-appium' ANDROID_APPIUM package"
  let missingPaths := requiredProjectPaths.filter (setup.isFile · = false)
  ensure (missingPaths = []) ("Android package is incomplete: " ++ ", ".intercalate missingPaths)
  validateManifest py setup package.version
  let actualDigest ← setup.sourceDigest
  ensure (actualDigest = package.digest)
    "Android package digest does not match the mounted source"
  validateBindings job
  validateCases py job

/-! ### Results the adapter writes itself -/

/-- `_infra_result` -/
def infraResult (moment : Instant) (case : CaseDefinition) (message : String) : CaseResult :=
  infraResultWith "ANDROID_APPIUM_INFRASTRUCTURE" "Android Appium infrastructure error" (by decide)
    moment case message

/-! ### Allure records -/

/-- The items a decoded `labels` is iterated over; no text and no key of an object is an object. -/
def labelItems : Json → Except String (List Json)
  | .array items => .ok items
  | .object _ | .string _ => .ok []
  | value => .error (typeName value ++ " object is not iterable")

/-- The code of the first label that names a case, or nothing. -/
def labeledCode (payload : Json) : Except String String := do
  ensure (isObject payload) (typeName payload ++ " object has no attribute 'get'")
  let items ← labelItems ((member? "labels" payload).getD (.array []))
  let label := items.find? fun item => isObject item ∧ memberIs "name" "case_id" item
  return label.elim "" fun item => py.upper ((member? "value" item).elim "" py.str)

/-- The payload of a file -/
def AllureFile.payload : AllureFile → Except String Json
  | .failing text => .error text
  | .oversized => .error "Android Allure result exceeds the size limit"
  | .invalid => .error "Android runner produced invalid Allure JSON"
  | .document payload => .ok payload

def allureStatus : String → Option CaseResultStatus
  | "passed" => some .passed
  | "failed" => some .failed
  | "broken" => some .infraError
  | "skipped" => some .skipped
  | _ => none

/-- `_integer_timestamp` -/
def integerTimestamp (value : Json) : Except String (Option Int) := do
  return (← py.int value).filter (0 < ·)

/-- The instant of a timestamp, or another one without it. -/
def timestampOr (default : Instant) : Option Int → Except String Instant
  | some millis => py.fromTimestamp millis
  | none => .ok default

/-- `details.get("message") or details.get("trace") or ""` -/
def allureMessage (payload : Json) : String :=
  match member? "statusDetails" payload with
  | some details =>
    match ([member? "message" details, member? "trace" details].reduceOption).find? py.truthy with
    | some text => py.str text
    | none => ""
  | none => ""

/-- The category and the message of a record, by its status. -/
def failureOf (message : String) : CaseResultStatus → Option String × Option String
  | .failed => (some "ANDROID_ASSERTION_FAILURE",
      some (textOr message "Android case assertion failed"))
  | .infraError => (some "ANDROID_APPIUM_INFRASTRUCTURE",
      some (textOr message "Android Appium infrastructure failed"))
  | .skipped => (some (textOr message "Android case skipped"), none)
  | .passed => (none, none)

theorem failureOf_explained {message : String} {status : CaseResultStatus}
    (h : status = .failed ∨ status = .infraError) :
    (failureOf message status).2.any (· ≠ "") := by
  rcases h with rfl | rfl
  · simpa [failureOf] using textOr_ne (by decide)
  · simpa [failureOf] using textOr_ne (by decide)

/-- `_allure_case_result` -/
def allureCaseResult (invocation : Invocation) (secrets : List String) (payload : Json)
    (caseCode : String) (caseId : UUID) : Except String CaseResult := do
  let rawStatus := py.lower ((member? "status" payload).elim "" py.str)
  let status ← found (allureStatus rawStatus) (caseCode ++ " has an unknown Allure status")
  let startMs ← integerTimestamp py ((member? "start" payload).getD .null)
  let stopMs ← integerTimestamp py ((member? "stop" payload).getD .null)
  let startedAt ← timestampOr py (world.clock (.record invocation caseCode)) startMs
  let finishedAt ← timestampOr py startedAt stopMs
  let message := shortened (py.redact (allureMessage py payload) secrets)
  return {
    caseId := caseId
    caseCode := caseCode
    status := status
    startedAt := startedAt
    finishedAt := max startedAt finishedAt
    durationMs := py.roundMillis (max startedAt finishedAt - startedAt)
    failureCategory := (failureOf message status).1
    errorMessage := (failureOf message status).2
    artifactIds := []
    timesOrdered := le_max_left _ _
    failureExplained := failureOf_explained }

/-- The id of an expected case; of two cases of one code, the later one. -/
def expectedId (expected : List (String × UUID)) (caseCode : String) : Option UUID :=
  expected.reverse.lookup caseCode

/-- One file: of another case, or the record of an expected one. -/
def readAllureFile (invocation : Invocation) (expected : List (String × UUID))
    (secrets : List String) (records : List CaseResult) (file : AllureFile) :
    Except String (List CaseResult) := do
  let payload ← file.payload
  let caseCode ← labeledCode py payload
  match expectedId expected caseCode with
  | none => return records
  | some caseId =>
    ensure (caseCode ∉ records.map CaseResult.caseCode)
      ("Android runner produced duplicate results for " ++ caseCode)
    let record ← allureCaseResult py world invocation secrets payload caseCode caseId
    return records ++ [record]

/-- `_read_allure_records` -/
def readAllureRecords (invocation : Invocation) (expected : List (String × UUID))
    (secrets : List String) : Except String (List CaseResult) := do
  let files := world.allure invocation
  ensure (files ≠ []) "Android runner produced no Allure result files"
  let records ← files.foldlM (readAllureFile py world invocation expected secrets) []
  let missing := sortedNames ((expected.map Prod.fst).filter
    (· ∉ records.map CaseResult.caseCode))
  ensure (missing = [])
    ("Android runner result does not match requested cases; missing: " ++
      ", ".intercalate missing)
  return records

/-! ### Commands -/

/-- `_child_environment`, as the assignments it makes one after the other, with the secrets -/
def childEnvironment : Except String (List (String × String) × List String) := do
  let parent := ["ANDROID_HOME", "ANDROID_SDK_ROOT", "COMSPEC", "JAVA_HOME", "LANG", "LC_ALL",
    "LOCALAPPDATA", "PATH", "PATHEXT", "PROGRAMDATA", "PROGRAMFILES", "PROGRAMFILES(X86)",
    "SYSTEMDRIVE", "SYSTEMROOT", "TEMP", "TMP", "USERPROFILE", "WINDIR"].filterMap fun name =>
      (setup.parentEnvironment name).map fun value => (name, value)
  let fixed := [("ALLURE_NO_ANALYTICS", "1"), ("PYTHONIOENCODING", "utf-8"),
    ("PYTHONUNBUFFERED", "1"), ("PYTHONUTF8", "1"), ("YANJIA_IGNORE_DOTENV", "true")]
  let given := (job.runtimeVariables.filter fun entry =>
    entry.name ∉ ["YANJIA_ALLOW_MUTATION", "YANJIA_ALLOW_DESTRUCTIVE"]).map fun entry =>
      (entry.name, entry.value)
  let secrets ← job.secretBindings.mapM world.resolve
  return (parent ++ fixed ++ given ++
    (job.secretBindings.map SecretBinding.name).zip secrets, secrets)

/-- A flag, if it is asked for -/
def flag (name : String) (given : Bool) : List String := if given then [name] else []

/-- `_command` -/
def command (invocation : Invocation) (codes : List String) (environment : List (String × String))
    (timeoutSeconds : Nat) (mutation destructive preflightVerified readOnlyRetry : Bool) :
    Command where
  invocation := invocation
  caseCodes := codes
  words := [setup.powershellExecutable, "-NoLogo", "-NoProfile", "-NonInteractive",
    "-ExecutionPolicy", "Bypass", "-File", setup.projectPath "scripts/run-excel.ps1",
    "-ExcelFile", setup.projectPath "test_case.xlsx",
    "-ReportsRoot", setup.workspacePath "android-reports",
    "-RunId", toString job.runId ++ "-" ++ invocation.suffix,
    "-CaseId", ",".intercalate codes,
    "-RunSeeded", "-NoWriteBack", "-SkipExcelValidation", "-VerboseProgress", "-IgnoreDotEnv",
    "-AppiumProcessIdFile", setup.workspacePath "appium.pid"]
  flags := flag "-AllowMutation" mutation ++ flag "-AllowDestructive" destructive ++
    flag "-CustomerPreflightVerified" preflightVerified ++ flag "-ReadOnlyRetry" readOnlyRetry
  environment := environment
  timeoutSeconds := timeoutSeconds

/-- `math.ceil(case.timeout_seconds or 600)` -/
def caseBudget (case : CaseDefinition) : Nat :=
  match case.timeoutSeconds with
  | some seconds => if seconds = 0 then 600 else ⌈seconds⌉.toNat
  | none => 600

/-- `_execution_timeout` -/
def executionTimeout (cases : List CaseDefinition) : Nat :=
  max 900 (min ((cases.map caseBudget).sum + cases.length * 300 + 300) (24 * 60 * 60))

/-! ### The preflight and the rounds -/

def preflightCommand (environment : List (String × String)) : Command :=
  command setup job .preflight ["TC-HOME-007"] environment 900 false false false false

/-- The launcher, and what it has left behind -/
def invoke (cmd : Command) (expected : List (String × UUID)) (secrets : List String) :
    Run (Int × List CaseResult) := do
  Traced.emit (.command cmd)
  let result ← Traced.lift (world.run cmd)
  Traced.lift (world.writeLog cmd.invocation (py.redact result.output secrets))
  let records ← Traced.lift (readAllureRecords py world cmd.invocation expected secrets)
  return (result.returncode, records)

/-- What the records and the exit code of the preflight must be. -/
def preflightVerdict (returncode : Int) (records : List CaseResult) : Except String Unit := do
  let result ← resultOf records "TC-HOME-007"
  ensure (returncode = 0 ∧ result.status = .passed)
    "dedicated customer uniqueness preflight failed"

/-- `_run_preflight` -/
def runPreflight (environment : List (String × String)) (secrets : List String) : Run Unit := do
  Traced.lift (ensure (world.canceled .preflight = false) "run canceled before customer preflight")
  Traced.emit (.event .preflightStarted)
  let (returncode, records) ← invoke py world (preflightCommand setup job environment)
    [("TC-HOME-007", 0)] secrets
  Traced.lift (preflightVerdict returncode records)
  Traced.emit (.event .preflightPassed)

def roundCommand (cases : List CaseDefinition) (environment : List (String × String))
    (number : Nat) (readOnlyRetry : Bool) : Command :=
  command setup job (.round number) (caseCodes cases) environment (executionTimeout cases)
    (requiresPreflight py cases) (hasTag py cases "destructive") (requiresPreflight py cases)
    readOnlyRetry

/-- The results of a round, unless its exit code contradicts them. -/
def roundVerdict (cases : List CaseDefinition) (returncode : Int) (records : List CaseResult) :
    Except String (List CaseResult) := do
  let results ← (caseCodes cases).mapM (resultOf records)
  ensure (¬(returncode ≠ 0 ∧ ∀ result ∈ results, result.status = .passed ∨ result.status = .skipped))
    ("Android Excel runner exited with code " ++ toString returncode)
  return results

/-- `_run_round` -/
def runRound (cases : List CaseDefinition) (environment : List (String × String))
    (secrets : List String) (number : Nat) (readOnlyRetry : Bool) : Run (List CaseResult) :=
  if world.canceled (.round number) then
    pure (cases.map fun case =>
      skippedResult (world.clock (.canceledRound number case.caseCode)) case "run canceled")
  else do
    Traced.emitAll (cases.map fun case => .event (.caseStarted case.caseCode (some number)))
    let (returncode, records) ← invoke py world
      (roundCommand py setup job cases environment number readOnlyRetry)
      (cases.map fun case => (case.caseCode, case.caseId)) secrets
    Traced.lift (roundVerdict cases returncode records)

/-- The preflight, if a case asks for it, and the first round -/
def firstRound (environment : List (String × String)) (secrets : List String) :
    Run (List CaseResult) := do
  if requiresPreflight py job.enabledCases then
    runPreflight py setup world job environment secrets
  runRound py setup world job job.enabledCases environment secrets 1 false

/-- The cases of the second round. The first one has a result for every enabled case. -/
def retryCases (first : List CaseResult) : List CaseDefinition :=
  job.enabledCases.filter fun case => isRetryable py case ∧
    (first.find? fun result => result.caseCode = case.caseCode).any fun result =>
      result.status = .failed ∨ result.status = .infraError

def retryWaitSeconds : Nat := 30

/-- The second round, if there is one -/
def secondRound (environment : List (String × String)) (secrets : List String)
    (first : List CaseResult) : Run (List CaseResult) :=
  let cases := retryCases py job first
  if cases ≠ [] ∧ world.canceled .retry = false then do
    Traced.emit (.event (.retryScheduled retryWaitSeconds (caseCodes cases)))
    Traced.lift (world.sleep retryWaitSeconds)
    runRound py setup world job cases environment secrets 2 true
  else pure []

/-- Both rounds; the second one updates the results of the first one. -/
def rounds (environment : List (String × String)) (secrets : List String) :
    Run (List CaseResult) := do
  let first ← firstRound py setup world job environment secrets
  let retried ← secondRound py setup world job environment secrets first
  Traced.lift ((caseCodes job.enabledCases).mapM (resultOf (first ++ retried)))

/-! ### A run -/

/-- What the handler has to hide: nothing before the secrets are resolved. -/
def handlerSecrets : List String :=
  match childEnvironment setup world job with
  | .ok (_, secrets) => secrets
  | .error _ => []

/-- The result the handler writes for a case -/
def handledResult (error : String) (case : CaseDefinition) : CaseResult :=
  let moment := world.clock (.handled case.caseCode)
  if world.canceled .handler then skippedResult moment case "run canceled"
  else infraResult moment case
    (shortened (py.redact error (handlerSecrets setup world job)))

/-- The results of the enabled cases, whatever is raised. -/
def enabledResults : Run (List CaseResult) :=
  Traced.handle (do
      let (environment, secrets) ← Traced.lift (childEnvironment setup world job)
      rounds py setup world job environment secrets)
    fun error => pure (job.enabledCases.map (handledResult py setup world job error))

def disabledResults : List CaseResult :=
  (job.cases.filter fun case => !case.enabled).map fun case =>
    skippedResult (world.clock (.disabled case.caseCode)) case "case disabled"

def runResult (results : List CaseResult) : Except String RunResult :=
  runResultOf job.runId "1.0.0" (world.clock .started) (world.clock .finished)
    ⟨terminalStatus (world.canceled .terminal) results, terminalStatus_terminal⟩ results
    world.artifacts

def execute : Run RunResult := do
  Traced.lift (validate py setup job)
  Traced.emit (.event .runStarted)
  let results ← enabledResults py setup world job
  let ordered ← Traced.lift
    ((caseCodes job.cases).mapM (resultOf (results ++ disabledResults world job)))
  Traced.emitAll (ordered.map fun result =>
    .event (.caseFinished result.caseCode result.status))
  Traced.lift (runResult world job ordered)

end TestOps.Android

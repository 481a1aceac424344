import TestOps.Contracts.Models
import TestOps.ControlPlane.AiAnalysis
import TestOps.Lib.Requests
import TestOps.Lib.Rounding
import TestOps.Lib.Url

/-! A web case, checked before the run and executed against a page. What the page answers to each
    request is its own affair, exceptions included:

      validate_case      operations ── assertion ── preconditions
      execute_case       preconditions ──▸ step ──▸ step ──▸ … ──▸ assertion
                               ╰────────────┴───────┴──────────────────┴──▸ page

    Both read the texts of a case on their own: the preconditions by the phrases in them, what is
    expected by the quotes in it. -/

namespace TestOps.WebEngine

open Checked Regex Remote Program Rounding

/-! ### Pages -/

/-- What is asked of a page. A locator means the first element that it finds. -/
inductive PageRequest
  | goto (url : Text) (timeout : Int)
  | url
  | count (locator : Text)
  | waitVisible (locator : Text) (timeout : Int)
  | fill (locator : Text) (value : Text) (timeout : Int)
  | click (locator : Text) (force : Bool) (timeout : Int)
  | innerText (locator : Text) (timeout : Int)
  | bodyText
  | press (key : Text)
  | waitForTimeout (timeout : Nat)
  | waitForLoadState (timeout : Int)

abbrev Value : PageRequest → Type
  | .url | .innerText _ _ | .bodyText => Text
  | .count _ => Nat
  | _ => Unit

/-- A page answers, or raises an exception with a message. -/
abbrev Reply (r : PageRequest) := Except Text (Value r)

inductive RunError
  | page (message : Text)
  /-- `ValueError`, for an address that cannot be split -/
  | badUrl
  /-- `SecretResolutionError` -/
  | unbound (name : Text)
  /-- `StepExecutionError` -/
  | noLocator (operation : String)
  | stepFailed (operation : String) (locator : Text) (lastError : RunError)
  | stillOnLogin
  | unsupportedOperation (operation : String)
  /-- `AssertionExecutionError` -/
  | noExpected (type : String)
  | missingText (missing : List Text)
  | missingKeyword (keyword : Text)
  | forbiddenUrl (present : List Text)
  | missingUrl (missing : List Text)
  | unsupportedAssertion (type : String)

abbrev Web := Program Reply RunError

/-- A request whose exception is not caught. -/
def ask (r : PageRequest) : Web (Value r) := request r >>= fun reply => lift (reply.mapError .page)

/-! ### Texts -/

/-- How an interpreter prints numbers with a fraction, lists and dictionaries. -/
structure Printing where
  float : ℚ → Text
  list : List String → Text
  dict : List (String × String) → Text

/-- `str(value)` -/
def str (printing : Printing) : StepInput → Text
  | .text value => value.toList
  | .int value => (toString value).toList
  | .float value => printing.float value
  | .bool value => (if value then "True" else "False").toList
  | .list values => printing.list values
  | .dict entries => printing.dict entries
  | .none => "None".toList

/-- `str(exc)` -/
def RunError.message (printing : Printing) : RunError → Text
  | .page message => message
  | .badUrl => "Invalid IPv6 URL".toList
  | .unbound name => "runtime variable '".toList ++ name ++ "' is not bound".toList
  | .noLocator operation => operation.toList ++ " requires locator".toList
  | .stepFailed operation locator lastError =>
    operation.toList ++ " failed for locator ".toList ++ locator ++ ": ".toList ++
      lastError.message printing
  | .stillOnLogin => "authenticated precondition failed: URL is still on /login".toList
  | .unsupportedOperation operation =>
    "unsupported operation at execution: ".toList ++ operation.toList
  | .noExpected type =>
    if type = "text_visible" ∨ type = "text_contains" then
      type.toList ++ " has no expected text".toList
    else "URL assertion has no parseable expected value".toList
  | .missingText missing =>
    "page is missing expected text: ".toList ++ printing.list (missing.map String.ofList)
  | .missingKeyword keyword =>
    "page text does not contain expected keyword: ".toList ++ keyword
  | .forbiddenUrl present =>
    "URL still contains forbidden values: ".toList ++ printing.list (present.map String.ofList)
  | .missingUrl missing =>
    "URL does not contain expected values: ".toList ++ printing.list (missing.map String.ofList)
  | .unsupportedAssertion type => "unsupported assertion: ".toList ++ type.toList

/-- `bool(value)` -/
def isTruthy : StepInput → Bool
  | .text value => value ≠ ""
  | .int value => value ≠ 0
  | .float value => value ≠ 0
  | .bool value => value
  | .list values => values ≠ []
  | .dict entries => entries ≠ []
  | .none => false

/-- `str(assertion.expected or "")` -/
def expectedText (printing : Printing) (expected : StepInput) : Text :=
  if isTruthy expected then str printing expected else []

/-- `str(step.input if step.input is not None else "")` -/
def inputText (printing : Printing) (input : StepInput) : Text :=
  if input = .none then [] else str printing input

def isQuote (c : Char) : Bool := c.toNat = 39 ∨ c = '"'

/-- `['"]([^'"]*)['"]`, with at least so many characters between the quotes -/
def quotedPattern (least : Nat) : Pattern Char :=
  .seq (.set isQuote) (.seq (.group 1 (.many (fun c => ¬isQuote c) least true)) (.set isQuote))

def singleKeyword (text : Text) : Text :=
  if text = [] then []
  else match findall (quotedPattern 0) 1 (strip isSpace text) with
    | keyword :: _ => strip isSpace keyword
    | [] => strip isSpace (text.take 40)

def multiKeywords (text : Text) : List Text :=
  if text = [] then []
  else
    let keywords := findall (quotedPattern 1) 1 text
    if keywords ≠ [] then keywords
    else ((text.splitOnP (· ∈ "、，,".toList)).map (strip isSpace)).filter (· ≠ [])

/-- `(/[\w-]+)` -/
def urlPattern (u : CharClasses) : Pattern Char :=
  .group 1 (.seq (.set (· = '/')) (.many (fun c => u.isWord c ∨ c = '-') 1 true))

def urlKeywords (u : CharClasses) (text : Text) : List Text :=
  if strip isSpace text = ['/'] then [['/']]
  else
    let keywords := findall (quotedPattern 1) 1 text
    if keywords ≠ [] then keywords else findall (urlPattern u) 1 text

/-! ### Validation -/

def supportedOperations : List String := ["input", "click"]

def supportedAssertions : List String :=
  ["text_contains", "text_visible", "url_contains", "url_not_contains"]

def isLoginPagePrecondition (precondition : String) : Bool :=
  "打开登录".toList <:+: precondition.toList ∨ "未登录".toList <:+: precondition.toList

def isAuthenticatedPrecondition (precondition : String) : Bool :=
  "已登录".toList <:+: precondition.toList ∨ "登录成功".toList <:+: precondition.toList

/-- An error is the text of `RunnerJobValidationError`. -/
def validatePreconditions (c : CaseDefinition) : Except Text Unit :=
  c.preconditions.forM fun precondition =>
    if c.moduleKey = "login" ∧ isLoginPagePrecondition precondition then pure ()
    else if c.moduleKey = "home-search" ∧ isAuthenticatedPrecondition precondition then pure ()
    else .error (s!"case {c.caseCode} uses unsupported precondition").toList

def unsupportedOperations (c : CaseDefinition) : List String :=
  ((c.steps.map (·.operation)).dedup.filter (· ∉ supportedOperations)).insertionSort (· ≤ ·)

def validateCase (u : CharClasses) (printing : Printing) (c : CaseDefinition) :
    Except Text Unit := do
  ensure (unsupportedOperations c = [])
    ((s!"case {c.caseCode} uses unsupported operations: ").toList ++
      (", ".intercalate (unsupportedOperations c)).toList)
  ensure (c.assertion.type ∈ supportedAssertions)
    (s!"case {c.caseCode} uses unsupported assertion: {c.assertion.type}").toList
  validatePreconditions c
  ensure (c.assertion.type = "url_contains" →
      urlKeywords u (expectedText printing c.assertion.expected) ≠ [['/']])
    (s!"case {c.caseCode} has weak URL assertion '/' that also matches /login").toList

/-! ### Execution -/

/-- `VariableResolver._values` -/
abbrev Variables := List (Text × Text)

/-- `\$\{([A-Z][A-Z0-9_]*)\}` -/
def variablePattern : Pattern Char :=
  .seq (.set (· = '$')) (.seq (.set (· = '{')) (.seq
    (.group 1 (.seq (.set Char.isUpper)
      (.many (fun c => c.isUpper ∨ c.isDigit ∨ c = '_') 0 true)))
    (.set (· = '}'))))

def resolveText (values : Variables) (value : Text) : Except RunError Text :=
  match (findall variablePattern 1 value).find? fun name => (values.lookup name).isNone with
  | some name => .error (.unbound name)
  | none => .ok (sub variablePattern (fun c => (values.lookup (c.group 1)).getD []) value)

/-- `round(seconds * 1000)` -/
def milliseconds (seconds : ℚ) : Int := halfEven (binary64 (seconds * 1000))

/-- `range(max(1, math.ceil(timeout_ms / 250)))` -/
def attempts (timeoutMs : Int) : Nat := (max 1 ⌈binary64 (timeoutMs / 250)⌉).toNat

def loginUrl (locations : Url.Locations) (baseUrl : Text) : Except RunError Text := do
  let parts ← found (Url.urlsplit locations baseUrl) .badUrl
  let path := rstrip (· = '/') parts.path
  return if "/login".toList <:+ path then baseUrl
    else Url.urlunsplit ⟨parts.scheme, parts.netloc, path ++ "/login".toList, [], []⟩

def openLogin (locations : Url.Locations) (config : WebRunConfig) : Web Unit := do
  let url ← lift (loginUrl locations config.baseUrl.toList)
  ask (.goto url (milliseconds config.navigationTimeoutSeconds))

def fillOnce (locator value : Text) (timeoutMs : Int) : Web Unit := do
  ask (.waitVisible locator timeoutMs)
  ask (.fill locator value timeoutMs)

def input (printing : Printing) (step : StepDefinition) (values : Variables)
    (timeoutMs : Int) : Web Unit :=
  match (step.locator.getD "").toList with
  | [] => raise (.noLocator "input")
  | c :: cs => do
    let value ← lift (resolveText values (inputText printing step.input))
    match ← (fillOnce (c :: cs) value timeoutMs).attempt with
    | .ok _ => pure ()
    | .error _ => do
      ask (.waitForTimeout 500)
      match ← (fillOnce (c :: cs) value timeoutMs).attempt with
      | .ok _ => pure ()
      | .error lastError => raise (.stepFailed "input" (c :: cs) lastError)

/-- A list of the store's options has opened: take the first one. -/
def chooseOption (timeoutMs : Int) : Web Unit := do
  ask (.waitForTimeout 300)
  let options ← ask (.count ".ant-select-item-option".toList)
  if 0 < options then ask (.click ".ant-select-item-option".toList false timeoutMs)
  else do
    ask (.press "ArrowDown".toList)
    ask (.press "Enter".toList)
  ask (.press "Escape".toList)

def afterClick (locator : Text) (timeoutMs : Int) : Web Unit := do
  ask (.waitForTimeout 300)
  let _ ← (ask (.waitForLoadState timeoutMs)).attempt
  if "store".toList <:+: locator.map Char.toLower then chooseOption timeoutMs else pure ()

def clickOnce (locator : Text) (timeoutMs : Int) : Web Unit := do
  ask (.waitVisible locator timeoutMs)
  ask (.click locator false timeoutMs)
  afterClick locator timeoutMs

def clickForced (locator : Text) (timeoutMs : Int) : Web Unit := do
  ask (.click locator true timeoutMs)
  afterClick locator timeoutMs

/-- Between two tries. -/
def escapeAndWait : Web Unit := do
  let _ ← (ask (.press "Escape".toList)).attempt
  ask (.waitForTimeout 300)

def click (step : StepDefinition) (timeoutMs : Int) : Web Unit :=
  match (step.locator.getD "").toList with
  | [] => raise (.noLocator "click")
  | c :: cs => do
    match ← (clickOnce (c :: cs) timeoutMs).attempt with
    | .ok _ => pure ()
    | .error _ => do
      escapeAndWait
      match ← (clickOnce (c :: cs) timeoutMs).attempt with
      | .ok _ => pure ()
      | .error _ => do
        match ← (clickForced (c :: cs) timeoutMs).attempt with
        | .ok _ => pure ()
        | .error lastError => raise (.stepFailed "click" (c :: cs) lastError)

def closeModal (timeoutMs : Int) : Web Unit := do
  ask (.click "text=知道了".toList false (min timeoutMs 3000))
  ask (.waitForTimeout 300)

def dismissOptionalModal (timeoutMs : Int) : Web Unit := do
  let buttons ← ask (.count "text=知道了".toList)
  if buttons = 0 then pure ()
  else do
    let _ ← (closeModal timeoutMs).attempt
    pure ()

/-- The last part of a login: wait until the page has left it. -/
def awaitLogin (timeoutMs : Int) : Nat → Web Unit
  | 0 => raise .stillOnLogin
  | n + 1 => do
    let url ← ask .url
    if "/login".toList <:+: url then do
      ask (.waitForTimeout 250)
      awaitLogin timeoutMs n
    else dismissOptionalModal timeoutMs

def chooseStore (timeoutMs : Int) : Web Unit := do
  let stores ← ask (.count "#store".toList)
  if 0 < stores then click ⟨"click", some "#store", .none, none⟩ timeoutMs else pure ()

def authenticate (locations : Url.Locations) (printing : Printing) (config : WebRunConfig)
    (values : Variables) (timeoutMs : Int) : Web Unit := do
  openLogin locations config
  input printing ⟨"input", some "#username", .text "${TEST_USERNAME}", none⟩ values timeoutMs
  input printing ⟨"input", some "#password", .text "${TEST_PASSWORD}", none⟩ values timeoutMs
  chooseStore timeoutMs
  click ⟨"click", some "button[type='submit']", .none, none⟩ timeoutMs
  awaitLogin timeoutMs (attempts timeoutMs)

def applyPrecondition (locations : Url.Locations) (printing : Printing) (config : WebRunConfig)
    (values : Variables) (timeoutMs : Int) (url : Text) (precondition : String) : Web Unit :=
  if isLoginPagePrecondition precondition then
    ask (.goto url (milliseconds config.navigationTimeoutSeconds))
  else if isAuthenticatedPrecondition precondition then
    authenticate locations printing config values timeoutMs
  else pure ()

def applyPreconditions (locations : Url.Locations) (printing : Printing) (c : CaseDefinition)
    (config : WebRunConfig) (values : Variables) (timeoutMs : Int) : Web Unit :=
  match c.preconditions with
  | [] => pure ()
  | precondition :: rest => do
    let url ← lift (loginUrl locations config.baseUrl.toList)
    (precondition :: rest).forM
      (applyPrecondition locations printing config values timeoutMs url)

def executeStep (printing : Printing) (values : Variables) (timeoutMs : Int)
    (step : StepDefinition) : Web Unit :=
  if step.operation = "input" then input printing step values timeoutMs
  else if step.operation = "click" then click step timeoutMs
  else raise (.unsupportedOperation step.operation)

/-- Read the page until it shows all keywords; `body` is what it showed last. -/
def awaitText (keywords : List Text) : Nat → (body : Text) → Web Unit
  | 0, body => raise (.missingText (keywords.filter fun keyword => ¬keyword <:+: body))
  | n + 1, _ => do
    let body ← ask .bodyText
    if ∀ keyword ∈ keywords, keyword <:+: body then pure ()
    else do
      ask (.waitForTimeout 250)
      awaitText keywords n body

def assertTextVisible (expected : Text) (timeoutMs : Int) : Web Unit :=
  let keywords := multiKeywords expected
  if keywords = [] then raise (.noExpected "text_visible")
  else awaitText keywords (attempts timeoutMs) []

def assertBody (keyword : Text) : Web Unit := do
  let body ← ask .bodyText
  if keyword <:+: body then pure () else raise (.missingKeyword keyword)

def assertTextContains (expected : Text) (locator : Option String) (timeoutMs : Int) : Web Unit :=
  let keyword := singleKeyword expected
  if keyword = [] then raise (.noExpected "text_contains")
  else match (locator.getD "").toList with
    | [] => assertBody keyword
    | c :: cs => do
      match ← (ask (.innerText (c :: cs) (min timeoutMs 2000))).attempt with
      | .ok actual => if keyword <:+: actual then pure () else assertBody keyword
      | .error _ => assertBody keyword

def assertUrl (u : CharClasses) (type : String) (expected : Text) : Web Unit :=
  let keywords := urlKeywords u expected
  if keywords = [] then raise (.noExpected type)
  else do
    let url ← ask .url
    if type = "url_not_contains" then
      let present := keywords.filter (· <:+: url)
      if present ≠ [] then raise (.forbiddenUrl present) else pure ()
    else
      let missing := keywords.filter fun keyword => ¬keyword <:+: url
      if missing ≠ [] then raise (.missingUrl missing) else pure ()

def assertCase (u : CharClasses) (printing : Printing) (assertion : AssertionDefinition)
    (timeoutMs : Int) : Web Unit :=
  let expected := expectedText printing assertion.expected
  if assertion.type = "text_visible" then assertTextVisible expected timeoutMs
  else if assertion.type = "text_contains" then
    assertTextContains expected assertion.locator timeoutMs
  else if assertion.type ∈ ["url_contains", "url_not_contains"] then
    assertUrl u assertion.type expected
  else raise (.unsupportedAssertion assertion.type)

/-- `round((case.timeout_seconds or config.action_timeout_seconds) * 1000)` -/
def caseTimeout (c : CaseDefinition) (config : WebRunConfig) : Int :=
  milliseconds ((c.timeoutSeconds.filter (· ≠ 0)).getD config.actionTimeoutSeconds)

def executeCase (u : CharClasses) (locations : Url.Locations) (printing : Printing)
    (c : CaseDefinition) (config : WebRunConfig) (values : Variables) : Web Unit := do
  let timeoutMs := caseTimeout c config
  applyPreconditions locations printing c config values timeoutMs
  c.steps.forM (executeStep printing values timeoutMs)
  assertCase u printing c.assertion timeoutMs

end TestOps.WebEngine

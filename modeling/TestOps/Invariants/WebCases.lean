import TestOps.Runners.WebEngine

/-! What a web case has been accepted as, and what is executed. Acceptance gives every precondition one
    meaning and every step an operation, so that what is left to do can be written down without a
    branch for anything unsupported:

      case      "已登录"      …  input  click  …  assertion
                   │ accepted     │      │
      accepted  authenticated …  input  click …  assertion

    Validation goes by the module of the case, execution by the first phrase that a text contains. -/

namespace TestOps.WebEngine

open Checked Regex Remote Program

variable {u : CharClasses} {locations : Url.Locations} {printing : Printing} {c : CaseDefinition}
  {config : WebRunConfig} {values : Variables} {timeoutMs : Int} {α β : Type}

/-! ### Accepted cases -/

/-- Where a session is before the first step. -/
inductive Session | loginPage | authenticated
  deriving DecidableEq

inductive Operation | input | click
  deriving DecidableEq

/-- The sense in which a precondition is accepted. -/
def session (c : CaseDefinition) (precondition : String) : Option Session :=
  if c.moduleKey = "login" ∧ isLoginPagePrecondition precondition then some .loginPage
  else if c.moduleKey = "home-search" ∧ isAuthenticatedPrecondition precondition then
    some .authenticated
  else none

def operation (step : StepDefinition) : Option (Operation × StepDefinition) :=
  if step.operation = "input" then some (.input, step)
  else if step.operation = "click" then some (.click, step)
  else none

structure AcceptedCase where
  sessions : List Session
  steps : List (Operation × StepDefinition)

def accept (c : CaseDefinition) : Option AcceptedCase := do
  let sessions ← c.preconditions.mapM (session c)
  let steps ← c.steps.mapM operation
  return ⟨sessions, steps⟩

def establish (locations : Url.Locations) (printing : Printing) (config : WebRunConfig)
    (values : Variables) (timeoutMs : Int) : Session → Web Unit
  | .loginPage => openLogin locations config
  | .authenticated => authenticate locations printing config values timeoutMs

def perform (printing : Printing) (values : Variables) (timeoutMs : Int) :
    Operation × StepDefinition → Web Unit
  | (.input, step) => input printing step values timeoutMs
  | (.click, step) => click step timeoutMs

/-- All sessions first, then the steps in order, then the assertion. -/
def AcceptedCase.run (u : CharClasses) (locations : Url.Locations) (printing : Printing)
    (accepted : AcceptedCase) (c : CaseDefinition) (config : WebRunConfig) (values : Variables) :
    Web Unit := do
  let timeoutMs := caseTimeout c config
  accepted.sessions.forM (establish locations printing config values timeoutMs)
  accepted.steps.forM (perform printing values timeoutMs)
  assertCase u printing c.assertion timeoutMs

/-- What can be looked for. -/
def keywords (u : CharClasses) (printing : Printing) (assertion : AssertionDefinition) :
    List Text :=
  let expected := expectedText printing assertion.expected
  if assertion.type = "text_visible" then multiKeywords expected
  else if assertion.type = "text_contains" then [singleKeyword expected].filter (· ≠ [])
  else urlKeywords u expected

/-- No branch for an operation or an assertion that is not supported. -/
def IsSupported : RunError → Prop
  | .unsupportedOperation _ => False
  | .unsupportedAssertion _ => False
  | _ => True

/-- A case is executed as it has been accepted: the same requests in the same order, whatever the
    page answers; nothing that is not supported is come across; and nothing passes without a
    keyword. -/
structure Agrees (u : CharClasses) (locations : Url.Locations) (printing : Printing)
    (c : CaseDefinition) : Prop where
  executed : ∃ accepted, accept c = some accepted ∧ ∀ config values,
    executeCase u locations printing c config values =
      accepted.run u locations printing c config values
  supported : ∀ config values, RaisesOnly IsSupported
    (executeCase u locations printing c config values)
  extracted : ∀ config values, (executeCase u locations printing c config values).Ends (.ok ()) →
    keywords u printing c.assertion ≠ []

/-! ### Acceptance -/

theorem forM_ok {f : α → Except Text Unit} {xs : List α} (h : xs.forM f = .ok ()) :
    ∀ x ∈ xs, f x = .ok () := by
  induction xs with
  | nil => exact fun x hx => absurd hx List.not_mem_nil
  | cons x xs ih =>
    obtain ⟨_, hx, hxs⟩ := bind_eq_ok.mp h
    intro y hy
    rcases List.mem_cons.mp hy with rfl | hy
    · exact hx
    · exact ih hxs y hy

theorem exists_mapM {f : α → Option β} {xs : List α} (h : ∀ x ∈ xs, ∃ y, f x = some y) :
    ∃ ys, xs.mapM f = some ys := by
  induction xs with
  | nil => exact ⟨[], rfl⟩
  | cons x xs ih =>
    obtain ⟨y, hy⟩ := h x List.mem_cons_self
    obtain ⟨ys, hys⟩ := ih fun x' hx' => h x' (List.mem_cons_of_mem _ hx')
    exact ⟨y :: ys, by simp [List.mapM_cons, hy, hys]⟩

theorem session_of_ok {precondition : String} {message : Text}
    (h : (if c.moduleKey = "login" ∧ isLoginPagePrecondition precondition then pure ()
      else if c.moduleKey = "home-search" ∧ isAuthenticatedPrecondition precondition then pure ()
      else .error message : Except Text Unit) = .ok ()) :
    ∃ s, session c precondition = some s := by
  rw [session]
  by_cases hlogin : c.moduleKey = "login" ∧ isLoginPagePrecondition precondition = true
  · exact ⟨.loginPage, if_pos hlogin⟩
  · rw [if_neg hlogin] at h ⊢
    by_cases hhome : c.moduleKey = "home-search" ∧ isAuthenticatedPrecondition precondition = true
    · exact ⟨.authenticated, if_pos hhome⟩
    · rw [if_neg hhome] at h
      cases h

theorem operation_of_mem {step : StepDefinition} (h : step.operation ∈ supportedOperations) :
    ∃ o, operation step = some o := by
  rw [operation]
  simp only [supportedOperations, List.mem_cons, List.not_mem_nil, or_false] at h
  rcases h with hinput | hclick
  · exact ⟨(.input, step), if_pos hinput⟩
  · have hinput : step.operation ≠ "input" := by simp [hclick]
    exact ⟨(.click, step), by rw [if_neg hinput, if_pos hclick]⟩

/-- What validation has looked at. -/
theorem validateCase_ok (h : validateCase u printing c = .ok ()) :
    (∃ accepted, accept c = some accepted) ∧ c.assertion.type ∈ supportedAssertions := by
  obtain ⟨_, hoperations, h⟩ := bind_eq_ok.mp h
  obtain ⟨_, htype, h⟩ := bind_eq_ok.mp h
  obtain ⟨_, hpreconditions, -⟩ := bind_eq_ok.mp h
  have hsteps : ∀ step ∈ c.steps, step.operation ∈ supportedOperations := by
    intro step hstep
    by_contra hno
    have hmem : step.operation ∈ unsupportedOperations c := by
      rw [unsupportedOperations, List.mem_insertionSort, List.mem_filter, List.mem_dedup]
      exact ⟨List.mem_map_of_mem hstep, decide_eq_true hno⟩
    rw [ensure_eq_ok.mp hoperations] at hmem
    cases hmem
  obtain ⟨sessions, hsessions⟩ := exists_mapM fun p hp => session_of_ok (forM_ok hpreconditions p hp)
  obtain ⟨operations, hoperations⟩ := exists_mapM fun step hstep =>
    operation_of_mem (hsteps step hstep)
  exact ⟨⟨⟨sessions, operations⟩, by simp [accept, hsessions, hoperations]⟩,
    ensure_eq_ok.mp htype⟩

/-! ### Execution of an accepted case -/

/-- Two loops whose turns do the same. -/
theorem forM_eq_of_mapM {f : α → Option β} {g : α → Web Unit} {g' : β → Web Unit} {xs : List α}
    {ys : List β} (h : xs.mapM f = some ys) (hturn : ∀ x ∈ xs, ∀ y, f x = some y → g x = g' y) :
    xs.forM g = ys.forM g' := by
  induction xs generalizing ys with
  | nil =>
    cases Option.some.inj h
    rfl
  | cons x xs ih =>
    simp only [List.mapM_cons, Option.bind_eq_bind, Option.bind_eq_some_iff, Option.pure_def,
      Option.some.injEq] at h
    obtain ⟨y, hy, ys', hys', rfl⟩ := h
    change (g x >>= fun _ => xs.forM g) = (g' y >>= fun _ => ys'.forM g')
    rw [hturn x List.mem_cons_self y hy,
      ih hys' fun x' hx' => hturn x' (List.mem_cons_of_mem _ hx')]

theorem executeStep_eq {step : StepDefinition} {o : Operation × StepDefinition}
    (h : operation step = some o) :
    executeStep printing values timeoutMs step = perform printing values timeoutMs o := by
  rw [operation] at h
  rw [executeStep]
  by_cases hinput : step.operation = "input"
  · rw [if_pos hinput] at h ⊢
    cases h
    rfl
  · rw [if_neg hinput] at h ⊢
    by_cases hclick : step.operation = "click"
    · rw [if_pos hclick] at h ⊢
      cases h
      rfl
    · rw [if_neg hclick] at h
      cases h

/-- A precondition is established as it was accepted, unless it has been taken for the other. -/
theorem applyPrecondition_eq {url : Text} {precondition : String} {s : Session}
    (hurl : loginUrl locations config.baseUrl.toList = .ok url)
    (h : session c precondition = some s)
    (hclear : c.moduleKey = "home-search" → isLoginPagePrecondition precondition = false) :
    applyPrecondition locations printing config values timeoutMs url precondition =
      establish locations printing config values timeoutMs s := by
  rw [session] at h
  rw [applyPrecondition]
  by_cases hlogin : c.moduleKey = "login" ∧ isLoginPagePrecondition precondition = true
  · rw [if_pos hlogin] at h
    cases h
    rw [if_pos hlogin.2, establish, openLogin, hurl]
    rfl
  · rw [if_neg hlogin] at h
    by_cases hhome : c.moduleKey = "home-search" ∧ isAuthenticatedPrecondition precondition = true
    · rw [if_pos hhome] at h
      cases h
      rw [if_neg (by simp [hclear hhome.1]), if_pos hhome.2, establish]
    · rw [if_neg hhome] at h
      cases h

theorem applyPreconditions_eq {sessions : List Session}
    (h : c.preconditions.mapM (session c) = some sessions)
    (hclear : c.moduleKey = "home-search" →
      ∀ precondition ∈ c.preconditions, isLoginPagePrecondition precondition = false) :
    applyPreconditions locations printing c config values timeoutMs =
      sessions.forM (establish locations printing config values timeoutMs) := by
  rw [applyPreconditions]
  revert h
  cases hall : c.preconditions with
  | nil =>
    intro h
    cases Option.some.inj h
    rfl
  | cons precondition rest =>
    intro h
    rw [hall] at hclear
    cases hurl : loginUrl locations config.baseUrl.toList with
    | ok url =>
      exact forM_eq_of_mapM h fun p hp s hs =>
        applyPrecondition_eq hurl hs fun hhome => hclear hhome p hp
    | error e =>
      -- every session begins with the address of the login page
      simp only [List.mapM_cons, Option.bind_eq_bind, Option.bind_eq_some_iff, Option.pure_def,
        Option.some.injEq] at h
      obtain ⟨s, -, sessions', -, rfl⟩ := h
      change _ = (establish locations printing config values timeoutMs s >>= fun _ =>
        sessions'.forM (establish locations printing config values timeoutMs))
      have hopen : openLogin locations config = raise e := by
        rw [openLogin, hurl]
        rfl
      cases s with
      | loginPage =>
        rw [establish, hopen]
        rfl
      | authenticated =>
        rw [establish, authenticate, hopen]
        rfl

theorem executeCase_eq {accepted : AcceptedCase} (h : accept c = some accepted) :
    executeCase u locations printing c config values =
      applyPreconditions locations printing c config values (caseTimeout c config) >>= fun _ =>
        accepted.steps.forM (perform printing values (caseTimeout c config)) >>= fun _ =>
          assertCase u printing c.assertion (caseTimeout c config) := by
  simp only [accept, Option.bind_eq_bind, Option.bind_eq_some_iff, Option.pure_def,
    Option.some.injEq] at h
  obtain ⟨sessions, -, operations, hoperations, rfl⟩ := h
  rw [executeCase, forM_eq_of_mapM hoperations fun step _ o ho => executeStep_eq ho]

/-! ### Nothing that is not supported -/

theorem supported_ask {r : PageRequest} : RaisesOnly IsSupported (ask r) :=
  raisesOnly_request.bind fun reply => raisesOnly_lift fun e h => by
    cases reply with
    | ok value => cases h
    | error message =>
      cases h
      trivial

theorem supported_loginUrl {baseUrl : Text} :
    RaisesOnly IsSupported (lift (loginUrl locations baseUrl) : Web Text) := by
  refine raisesOnly_lift fun e h => ?_
  rw [loginUrl] at h
  cases hsplit : Url.urlsplit locations baseUrl with
  | some parts =>
    rw [hsplit] at h
    cases h
  | none =>
    rw [hsplit] at h
    cases h
    trivial

theorem supported_openLogin : RaisesOnly IsSupported (openLogin locations config) :=
  supported_loginUrl.bind fun _ => supported_ask

theorem supported_resolveText {value : Text} :
    RaisesOnly IsSupported (lift (resolveText values value) : Web Text) := by
  refine raisesOnly_lift fun e h => ?_
  rw [resolveText] at h
  split at h
  · cases h
    trivial
  · cases h

theorem supported_input {step : StepDefinition} :
    RaisesOnly IsSupported (input printing step values timeoutMs) := by
  rw [input]
  cases (step.locator.getD "").toList with
  | nil => exact raisesOnly_raise trivial
  | cons a as =>
    refine supported_resolveText.bind fun value => raisesOnly_attempt.bind fun first => ?_
    cases first with
    | ok _ => exact raisesOnly_pure
    | error _ =>
      refine supported_ask.bind fun _ => raisesOnly_attempt.bind fun second => ?_
      cases second with
      | ok _ => exact raisesOnly_pure
      | error _ => exact raisesOnly_raise trivial

theorem supported_click {step : StepDefinition} :
    RaisesOnly IsSupported (click step timeoutMs) := by
  rw [click]
  cases (step.locator.getD "").toList with
  | nil => exact raisesOnly_raise trivial
  | cons a as =>
    refine raisesOnly_attempt.bind fun first => ?_
    cases first with
    | ok _ => exact raisesOnly_pure
    | error _ =>
      have hbetween : RaisesOnly IsSupported escapeAndWait :=
        raisesOnly_attempt.bind fun _ => supported_ask
      refine hbetween.bind fun _ => raisesOnly_attempt.bind fun second => ?_
      cases second with
      | ok _ => exact raisesOnly_pure
      | error _ =>
        refine raisesOnly_attempt.bind fun forced => ?_
        cases forced with
        | ok _ => exact raisesOnly_pure
        | error _ => exact raisesOnly_raise trivial

theorem supported_dismissOptionalModal :
    RaisesOnly IsSupported (dismissOptionalModal timeoutMs) := by
  refine supported_ask.bind fun buttons => .ite (fun _ => raisesOnly_pure) fun _ => ?_
  exact raisesOnly_attempt.bind fun _ => raisesOnly_pure

theorem supported_awaitLogin {n : Nat} : RaisesOnly IsSupported (awaitLogin timeoutMs n) := by
  induction n with
  | zero => exact raisesOnly_raise trivial
  | succ n ih =>
    refine supported_ask.bind fun url => .ite (fun _ => ?_) fun _ => supported_dismissOptionalModal
    exact supported_ask.bind fun _ => ih

theorem supported_chooseStore : RaisesOnly IsSupported (chooseStore timeoutMs) :=
  supported_ask.bind fun _ => .ite (fun _ => supported_click) fun _ => raisesOnly_pure

theorem supported_authenticate :
    RaisesOnly IsSupported (authenticate locations printing config values timeoutMs) :=
  supported_openLogin.bind fun _ => supported_input.bind fun _ => supported_input.bind fun _ =>
    supported_chooseStore.bind fun _ => supported_click.bind fun _ => supported_awaitLogin

theorem supported_applyPreconditions :
    RaisesOnly IsSupported (applyPreconditions locations printing c config values timeoutMs) := by
  rw [applyPreconditions]
  cases c.preconditions with
  | nil => exact raisesOnly_pure
  | cons precondition rest =>
    refine supported_loginUrl.bind fun url => RaisesOnly.forM fun p _ => ?_
    rw [applyPrecondition]
    refine .ite (fun _ => supported_ask) fun _ => ?_
    exact .ite (fun _ => supported_authenticate) fun _ => raisesOnly_pure

theorem supported_perform {o : Operation × StepDefinition} :
    RaisesOnly IsSupported (perform printing values timeoutMs o) := by
  obtain ⟨kind, step⟩ := o
  cases kind with
  | input => exact supported_input
  | click => exact supported_click

theorem supported_awaitText {texts : List Text} {n : Nat} {body : Text} :
    RaisesOnly IsSupported (awaitText texts n body) := by
  induction n generalizing body with
  | zero => exact raisesOnly_raise trivial
  | succ n ih =>
    refine supported_ask.bind fun body' => .ite (fun _ => raisesOnly_pure) fun _ => ?_
    exact supported_ask.bind fun _ => ih

theorem supported_assertBody {keyword : Text} : RaisesOnly IsSupported (assertBody keyword) :=
  supported_ask.bind fun _ => .ite (fun _ => raisesOnly_pure) fun _ => raisesOnly_raise trivial

theorem supported_assertTextVisible {expected : Text} :
    RaisesOnly IsSupported (assertTextVisible expected timeoutMs) :=
  .ite (fun _ => raisesOnly_raise trivial) fun _ => supported_awaitText

theorem supported_assertTextContains {expected : Text} {locator : Option String} :
    RaisesOnly IsSupported (assertTextContains expected locator timeoutMs) := by
  rw [assertTextContains]
  refine .ite (fun _ => raisesOnly_raise trivial) fun _ => ?_
  cases (locator.getD "").toList with
  | nil => exact supported_assertBody
  | cons a as =>
    refine raisesOnly_attempt.bind fun found => ?_
    cases found with
    | error _ => exact supported_assertBody
    | ok actual => exact .ite (fun _ => raisesOnly_pure) fun _ => supported_assertBody

theorem supported_assertUrl {type : String} {expected : Text} :
    RaisesOnly IsSupported (assertUrl u type expected) := by
  rw [assertUrl]
  refine .ite (fun _ => raisesOnly_raise trivial) fun _ => supported_ask.bind fun url => ?_
  refine .ite (fun _ => ?_) fun _ => ?_
  · exact .ite (fun _ => raisesOnly_raise trivial) fun _ => raisesOnly_pure
  · exact .ite (fun _ => raisesOnly_raise trivial) fun _ => raisesOnly_pure

theorem supported_assertCase {assertion : AssertionDefinition}
    (h : assertion.type ∈ supportedAssertions) :
    RaisesOnly IsSupported (assertCase u printing assertion timeoutMs) := by
  rw [assertCase]
  refine .ite (fun _ => supported_assertTextVisible) fun hvisible => ?_
  refine .ite (fun _ => supported_assertTextContains) fun hcontains => ?_
  refine .ite (fun _ => supported_assertUrl) fun hurl => ?_
  simp only [supportedAssertions, List.mem_cons, hcontains, hvisible, false_or] at h
  exact absurd (List.mem_cons.mpr (h.imp_right List.mem_cons.mpr)) hurl

theorem supported_executeCase {accepted : AcceptedCase} (h : accept c = some accepted)
    (htype : c.assertion.type ∈ supportedAssertions) :
    RaisesOnly IsSupported (executeCase u locations printing c config values) := by
  rw [executeCase_eq h]
  exact supported_applyPreconditions.bind fun _ =>
    (RaisesOnly.forM fun o _ => supported_perform).bind fun _ => supported_assertCase htype

/-! ### Nothing passes without a keyword -/

theorem keywords_of_ends {assertion : AssertionDefinition}
    (h : (assertCase u printing assertion timeoutMs).Ends (.ok ())) :
    keywords u printing assertion ≠ [] := by
  intro hnone
  rw [assertCase] at h
  rw [keywords] at hnone
  by_cases hvisible : assertion.type = "text_visible"
  · rw [if_pos hvisible] at h hnone
    rw [assertTextVisible, if_pos hnone] at h
    cases h
  · rw [if_neg hvisible] at h hnone
    by_cases hcontains : assertion.type = "text_contains"
    · rw [if_pos hcontains] at h hnone
      have hempty : singleKeyword (expectedText printing assertion.expected) = [] := by
        simpa using hnone
      rw [assertTextContains, if_pos hempty] at h
      cases h
    · rw [if_neg hcontains] at h hnone
      by_cases hurl : assertion.type ∈ ["url_contains", "url_not_contains"]
      · rw [if_pos hurl, assertUrl, if_pos hnone] at h
        cases h
      · rw [if_neg hurl] at h
        cases h

theorem keywords_of_executed
    (h : (executeCase u locations printing c config values).Ends (.ok ())) :
    keywords u printing c.assertion ≠ [] := by
  obtain ⟨_, -, h⟩ | ⟨e, -, h⟩ := ends_bind.mp h
  · obtain ⟨_, -, h⟩ | ⟨e, -, h⟩ := ends_bind.mp h
    · exact keywords_of_ends h
    · cases h
  · cases h

/-! ### A willing page -/

/-- A page that does everything at once, and whose address is never that of the login page. -/
def willing : (r : PageRequest) → Reply r
  | .url | .innerText _ _ | .bodyText => .ok []
  | .count _ => .ok (0 : Nat)
  | .goto _ _ | .waitVisible _ _ | .fill _ _ _ | .click _ _ _ | .press _ | .waitForTimeout _
  | .waitForLoadState _ => .ok ()

def isFill : PageRequest → Bool
  | .fill _ _ _ => true
  | _ => false

/-- How often a field is filled in. -/
def fills (p : Web Unit) : Nat := (p.trace willing).countP isFill

theorem fills_bind {p : Web Unit} {f : Unit → Web Unit} (h : p.run willing = .ok ()) :
    fills (p >>= f) = fills p + fills (f ()) := by
  rw [fills, trace_bind h, List.countP_append]
  rfl

theorem run_seq {p : Web Unit} {f : Unit → Web Unit} (h : p.run willing = .ok ()) :
    (p >>= f).run willing = (f ()).run willing := by
  rw [run_bind, h]
  rfl

/-- Credentials are bound, and the address of the login page can be found. -/
structure Ready (locations : Url.Locations) (config : WebRunConfig) (values : Variables) : Prop where
  url : ∃ url, loginUrl locations config.baseUrl.toList = .ok url
  username : ∃ text, resolveText values "${TEST_USERNAME}".toList = .ok text
  password : ∃ text, resolveText values "${TEST_PASSWORD}".toList = .ok text

theorem openLogin_willing (h : Ready locations config values) :
    (openLogin locations config).run willing = .ok () ∧ fills (openLogin locations config) = 0 := by
  obtain ⟨url, hurl⟩ := h.url
  rw [openLogin, hurl]
  exact ⟨rfl, rfl⟩

theorem input_willing {locator text : String} {value : Text} (hlocator : locator.toList ≠ [])
    (hvalue : resolveText values text.toList = .ok value) :
    (input printing ⟨"input", some locator, .text text, none⟩ values timeoutMs).run willing =
        .ok () ∧
      fills (input printing ⟨"input", some locator, .text text, none⟩ values timeoutMs) = 1 := by
  have htext : inputText printing (.text text) = text.toList := rfl
  rw [input]
  simp only [Option.getD_some]
  cases hchars : locator.toList with
  | nil => exact absurd hchars hlocator
  | cons a as =>
    simp only [htext, hvalue]
    exact ⟨rfl, rfl⟩

/-- A locator that is not about a store. -/
theorem click_willing {locator : String} (hlocator : locator.toList ≠ [])
    (hstore : ¬"store".toList <:+: locator.toList.map Char.toLower) :
    (click ⟨"click", some locator, .none, none⟩ timeoutMs).run willing = .ok () ∧
      fills (click ⟨"click", some locator, .none, none⟩ timeoutMs) = 0 := by
  rw [click]
  simp only [Option.getD_some]
  cases hchars : locator.toList with
  | nil => exact absurd hchars hlocator
  | cons a as =>
    rw [hchars] at hstore
    have hafter : afterClick (a :: as) timeoutMs = (do
        ask (.waitForTimeout 300)
        let _ ← (ask (.waitForLoadState timeoutMs)).attempt
        pure ()) := by
      simp only [afterClick, if_neg hstore]
    simp only [clickOnce, hafter]
    exact ⟨rfl, rfl⟩

theorem awaitLogin_willing :
    (awaitLogin timeoutMs (attempts timeoutMs)).run willing = .ok () ∧
      fills (awaitLogin timeoutMs (attempts timeoutMs)) = 0 := by
  have hpos : 0 < attempts timeoutMs := by
    have hone : (1 : Int) ≤ max 1 ⌈Rounding.binary64 (timeoutMs / 250)⌉ := le_max_left _ _
    rw [attempts]
    omega
  obtain ⟨n, hn⟩ := Nat.exists_eq_succ_of_ne_zero hpos.ne'
  rw [hn]
  exact ⟨rfl, rfl⟩

theorem authenticate_willing (h : Ready locations config values) :
    (authenticate locations printing config values timeoutMs).run willing = .ok () ∧
      fills (authenticate locations printing config values timeoutMs) = 2 := by
  obtain ⟨hopen, hopenFills⟩ := openLogin_willing h
  obtain ⟨username, husername⟩ := h.username
  obtain ⟨password, hpassword⟩ := h.password
  obtain ⟨hname, hnameFills⟩ := @input_willing printing values timeoutMs "#username" _ _
    (by decide) husername
  obtain ⟨hpass, hpassFills⟩ := @input_willing printing values timeoutMs "#password" _ _
    (by decide) hpassword
  have hstore : (chooseStore timeoutMs).run willing = .ok () ∧ fills (chooseStore timeoutMs) = 0 :=
    ⟨rfl, rfl⟩
  obtain ⟨hclick, hclickFills⟩ := @click_willing timeoutMs "button[type='submit']" (by decide)
    (by decide)
  obtain ⟨hawait, hawaitFills⟩ := @awaitLogin_willing timeoutMs
  rw [authenticate]
  constructor
  · rw [run_seq hopen, run_seq hname, run_seq hpass, run_seq hstore.1, run_seq hclick, hawait]
  · rw [fills_bind hopen, fills_bind hname, fills_bind hpass, fills_bind hstore.1,
      fills_bind hclick, hopenFills, hnameFills, hpassFills, hstore.2, hclickFills, hawaitFills]

/-- A loop whose turns come to an end, each after so many fields. -/
theorem forM_willing {f : α → Web Unit} {n : α → Nat} {xs : List α}
    (h : ∀ x ∈ xs, (f x).run willing = .ok () ∧ fills (f x) = n x) :
    (xs.forM f).run willing = .ok () ∧ fills (xs.forM f) = (xs.map n).sum := by
  induction xs with
  | nil => exact ⟨rfl, rfl⟩
  | cons x xs ih =>
    obtain ⟨hx, hxFills⟩ := h x List.mem_cons_self
    obtain ⟨hxs, hxsFills⟩ := ih fun y hy => h y (List.mem_cons_of_mem _ hy)
    change (f x >>= fun _ => xs.forM f).run willing = _ ∧
      fills (f x >>= fun _ => xs.forM f) = _
    rw [run_seq hx, fills_bind hx, hxFills, hxsFills, List.map_cons, List.sum_cons]
    exact ⟨hxs, rfl⟩

/-! ### Agreement -/

/-- The page of a shop, with its login page at `/login`. -/
def shopConfig : WebRunConfig := ⟨"http://shop.example/login", true, 1440, 900, 15, 30, false, true⟩

def credentials : Variables :=
  [("TEST_USERNAME".toList, "tester".toList), ("TEST_PASSWORD".toList, "letmein".toList)]

theorem ready_shop : Ready locations shopConfig credentials where
  url := ⟨"http://shop.example/login".toList, rfl⟩
  username := ⟨"tester".toList, ok_of_toOption (by decide)⟩
  password := ⟨"letmein".toList, ok_of_toOption (by decide)⟩

theorem some_of_mapM {f : α → Option β} {xs : List α} {ys : List β} (h : xs.mapM f = some ys) :
    ∀ x ∈ xs, ∃ y, f x = some y := by
  induction xs generalizing ys with
  | nil => exact fun x hx => absurd hx List.not_mem_nil
  | cons x xs ih =>
    simp only [List.mapM_cons, Option.bind_eq_bind, Option.bind_eq_some_iff, Option.pure_def,
      Option.some.injEq] at h
    obtain ⟨y, hy, ys', hys', -⟩ := h
    intro x' hx'
    rcases List.mem_cons.mp hx' with rfl | hx'
    · exact ⟨y, hy⟩
    · exact ih hys' x' hx'

/-- All that a home-search case is accepted for is a login. -/
theorem session_homeSearch (hhome : c.moduleKey = "home-search") {precondition : String}
    {s : Session} (h : session c precondition = some s) :
    s = .authenticated ∧ isAuthenticatedPrecondition precondition = true := by
  have hlogin : ¬(c.moduleKey = "login" ∧ isLoginPagePrecondition precondition = true) := by
    simp [hhome]
  rw [session, if_neg hlogin] at h
  by_cases hauth : isAuthenticatedPrecondition precondition = true
  · rw [if_pos ⟨hhome, hauth⟩] at h
    exact ⟨(Option.some.inj h).symm, hauth⟩
  · rw [if_neg fun hboth => hauth hboth.2] at h
    cases h

/-- Two fields for every precondition, if it is established as it was accepted. -/
theorem establish_fills (hhome : c.moduleKey = "home-search") {sessions : List Session}
    (h : c.preconditions.mapM (session c) = some sessions) :
    (sessions.forM (establish locations printing shopConfig credentials timeoutMs)).run willing =
        .ok () ∧
      fills (sessions.forM (establish locations printing shopConfig credentials timeoutMs)) =
        (c.preconditions.map fun _ => 2).sum := by
  have heq : (c.preconditions.forM fun _ =>
      authenticate locations printing shopConfig credentials timeoutMs) =
        sessions.forM (establish locations printing shopConfig credentials timeoutMs) := by
    refine forM_eq_of_mapM h fun p _ s hs => ?_
    rw [(session_homeSearch hhome hs).1, establish]
  rw [← heq]
  exact forM_willing fun p _ => authenticate_willing ready_shop

/-- None for a precondition that reads like one for the login page. -/
theorem applyPreconditions_fills
    (hauth : ∀ p ∈ c.preconditions, isAuthenticatedPrecondition p = true) :
    (applyPreconditions locations printing c shopConfig credentials timeoutMs).run willing =
        .ok () ∧
      fills (applyPreconditions locations printing c shopConfig credentials timeoutMs) =
        (c.preconditions.map fun p => if isLoginPagePrecondition p then 0 else 2).sum := by
  rw [applyPreconditions]
  cases hall : c.preconditions with
  | nil => exact ⟨rfl, rfl⟩
  | cons precondition rest =>
    obtain ⟨url, hurl⟩ := (@ready_shop locations).url
    simp only [hurl]
    refine forM_willing (n := fun p => if isLoginPagePrecondition p then 0 else 2) fun p hp => ?_
    rw [applyPrecondition]
    by_cases hlogin : isLoginPagePrecondition p = true
    · rw [if_pos hlogin, if_pos hlogin]
      exact ⟨rfl, rfl⟩
    · rw [if_neg hlogin, if_neg hlogin, if_pos (hauth p (hall ▸ hp))]
      exact authenticate_willing ready_shop

/-- A home-search case with such a precondition starts with fewer fields filled in than it has been
    accepted for. -/
theorem clear_of_agrees (hhome : c.moduleKey = "home-search")
    (h : Agrees u locations printing c) :
    ∀ precondition ∈ c.preconditions, isLoginPagePrecondition precondition = false := by
  obtain ⟨accepted, haccept, hrun⟩ := h.executed
  have hsame := hrun shopConfig credentials
  rw [executeCase_eq haccept] at hsame
  have haccepted := haccept
  simp only [accept, Option.bind_eq_bind, Option.bind_eq_some_iff, Option.pure_def,
    Option.some.injEq] at haccepted
  obtain ⟨sessions, hsessions, operations, -, rfl⟩ := haccepted
  have hauth : ∀ p ∈ c.preconditions, isAuthenticatedPrecondition p = true := by
    intro p hp
    obtain ⟨s, hs⟩ := some_of_mapM hsessions p hp
    exact (session_homeSearch hhome hs).2
  obtain ⟨hasked, hfills⟩ := @applyPreconditions_fills locations printing c
    (caseTimeout c shopConfig) hauth
  obtain ⟨hasked', hfills'⟩ := @establish_fills locations printing c (caseTimeout c shopConfig)
    hhome sessions hsessions
  have hcount := congrArg fills hsame
  rw [AcceptedCase.run, fills_bind hasked, fills_bind hasked', hfills, hfills',
    Nat.add_right_cancel_iff] at hcount
  intro p hp
  by_contra hlogin
  rw [Bool.not_eq_false] at hlogin
  have hlt : (c.preconditions.map fun p => if isLoginPagePrecondition p then 0 else 2).sum <
      (c.preconditions.map fun _ => 2).sum := by
    refine List.sum_lt_sum _ _ (fun q _ => ?_) ⟨p, hp, ?_⟩
    · by_cases hq : isLoginPagePrecondition q = true <;> simp [hq]
    · simp [hlogin]
  exact absurd hcount hlt.ne

/-- A case that has been validated is executed as it was accepted if and only if it is not a
    home-search case one of whose preconditions also reads like one for the login page. -/
theorem agrees_iff (h : validateCase u printing c = .ok ()) :
    Agrees u locations printing c ↔ (c.moduleKey = "home-search" →
      ∀ precondition ∈ c.preconditions, isLoginPagePrecondition precondition = false) := by
  constructor
  · exact fun hagrees hhome => clear_of_agrees hhome hagrees
  · intro hclear
    obtain ⟨⟨accepted, haccept⟩, htype⟩ := validateCase_ok h
    refine ⟨⟨accepted, haccept, fun config values => ?_⟩,
      fun config values => supported_executeCase haccept htype,
      fun config values => keywords_of_executed⟩
    have haccepted := haccept
    simp only [accept, Option.bind_eq_bind, Option.bind_eq_some_iff, Option.pure_def,
      Option.some.injEq] at haccepted
    obtain ⟨sessions, hsessions, operations, -, rfl⟩ := haccepted
    rw [executeCase_eq haccept, applyPreconditions_eq hsessions hclear]
    rfl

/-- A search from the home page, after what its precondition says. -/
def searchCase (precondition : String) : CaseDefinition where
  caseId := 1
  caseCode := "TC-HOME-001"
  moduleKey := "home-search"
  moduleName := "Home search"
  title := "Search for a customer"
  testPoint := "Search"
  priority := .p0
  preconditions := [precondition]
  steps := [⟨"click", some "#search", .none, none⟩]
  assertion := ⟨"url_contains", .text "/customers", none, none⟩
  tags := []
  enabled := true
  sourceInstructions := none
  dataType := none
  expectedResult := none
  timeoutSeconds := none
  sourceTrace := none
  notes := none
  executionGroup := none
  caseCodeFormed := by decide

/-- Letters and digits of ASCII only. -/
def asciiClasses : CharClasses := ⟨fun c => c.isAlphanum ∨ c = '_', Char.isDigit⟩

def plainPrinting : Printing := ⟨fun _ => [], fun _ => [], fun _ => []⟩

theorem searchCase_agrees :
    validateCase asciiClasses plainPrinting (searchCase "用户已登录") = .ok () ∧
      Agrees asciiClasses (fun _ => false) plainPrinting (searchCase "用户已登录") := by
  have h : validateCase asciiClasses plainPrinting (searchCase "用户已登录") = .ok () :=
    ok_of_toOption (by decide)
  exact ⟨h, (agrees_iff h).mpr fun _ => by decide⟩

/-- A precondition that the user was not logged in and then has been: it is accepted as a login, and
    only the login page is opened. -/
theorem ambiguous_disagrees :
    validateCase asciiClasses plainPrinting (searchCase "未登录用户登录成功") = .ok () ∧
      ¬Agrees asciiClasses (fun _ => false) plainPrinting (searchCase "未登录用户登录成功") := by
  refine ⟨ok_of_toOption (by decide), fun h => ?_⟩
  have hclear := clear_of_agrees rfl h "未登录用户登录成功" List.mem_cons_self
  exact absurd hclear (by decide)

end TestOps.WebEngine

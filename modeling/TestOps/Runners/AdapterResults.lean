import TestOps.Contracts.Models
import TestOps.Lib.Json

/-! What the adapters of the Android, the legacy Pytest and the web package share: the events of a
    run, the results they write themselves, and the dictionaries that hold one result for each code.

      results_by_code    {TC-A: r₁, TC-B: r₂}  updated by  {TC-B: r₃}    ↦    {TC-A: r₁, TC-B: r₃} -/

namespace TestOps

open Checked

/-! ### Events -/

/-- The counters of a progress event -/
structure RunProgress where
  currentRound : Nat
  totalRounds : Nat
  roundCompleted : Nat
  roundTotal : Nat
  completed : Nat
  total : Nat
  passed : Nat
  failed : Nat
  skipped : Nat
  currentCaseCode : Option String
  deriving DecidableEq

inductive AdapterEvent where
  | runStarted
  | preflightStarted
  | preflightPassed
  | caseStarted (caseCode : String) (round : Option Nat)
  | retryScheduled (waitSeconds : Nat) (caseCodes : List String)
  | progressUpdated (progress : RunProgress)
  | caseFinished (caseCode : String) (status : CaseResultStatus)
  | runFinished (status : RunStatus)
  deriving DecidableEq

/-! ### Texts -/

/-- What the adapters take from the language: `str` and `int` of a decoded value, `repr`, letter
    cases, truth, dates, and the order in which secrets are looked for. -/
structure PythonLibrary where
  str : Json → String
  repr : String → String
  lower : String → String
  upper : String → String
  truthy : Json → Bool
  /-- Nothing where `int` raises a `TypeError` or a `ValueError` -/
  int : Json → Except String (Option Int)
  /-- `datetime.fromtimestamp`, of milliseconds -/
  fromTimestamp : Int → Except String Instant
  roundMillis : Int → Nat
  /-- `str.replace` -/
  replace : String → String → String → String
  /-- `sorted(set(secrets), key=len, reverse=True)` -/
  longestFirst : List String → List String
  lower_lowercase : ∀ text, (∀ c ∈ text.toList, c.isLower ∨ c = '_') → lower text = text

/-- `_redact` -/
def PythonLibrary.redact (py : PythonLibrary) (value : String) (secrets : List String) : String :=
  (py.longestFirst secrets).foldl
    (fun text secret => if secret = "" then text else py.replace text secret "***") value

/-! ### Cases and results -/

def caseCodes (cases : List CaseDefinition) : List String := cases.map CaseDefinition.caseCode

/-- The enabled cases of a job -/
def RunSnapshot.enabledCases (job : RunSnapshot) : List CaseDefinition :=
  job.cases.filter CaseDefinition.enabled

/-- `text[:2000]` -/
def shortened (text : String) : String := String.ofList (text.toList.take 2000)

/-- `text or fallback` -/
def textOr (text fallback : String) : String := if text = "" then fallback else text

theorem textOr_ne {text fallback : String} (h : fallback ≠ "") : textOr text fallback ≠ "" := by
  rw [textOr]
  split
  · exact h
  · assumption

/-- `_skipped_result` -/
def skippedResult (moment : Instant) (case : CaseDefinition) (reason : String) : CaseResult where
  caseId := case.caseId
  caseCode := case.caseCode
  status := .skipped
  startedAt := moment
  finishedAt := moment
  durationMs := 0
  failureCategory := some reason
  errorMessage := none
  artifactIds := []
  timesOrdered := Instant.ordered
  failureExplained := nofun

/-- `_infra_result`, of an adapter that has a category and a message of its own -/
def infraResultWith (category fallback : String) (hfallback : fallback ≠ "") (moment : Instant)
    (case : CaseDefinition) (message : String) : CaseResult where
  caseId := case.caseId
  caseCode := case.caseCode
  status := .infraError
  startedAt := moment
  finishedAt := moment
  durationMs := 0
  failureCategory := some category
  errorMessage := some (textOr message fallback)
  artifactIds := []
  timesOrdered := Instant.ordered
  failureExplained := fun _ => by simpa using textOr_ne hfallback

/-- `_terminal_status` -/
def terminalStatus (canceled : Bool) (results : List CaseResult) : RunStatus :=
  if canceled then .canceled
  else if ∃ result ∈ results, result.status = .infraError then .infraError
  else if ∃ result ∈ results, result.status = .failed then .failed
  else .passed

theorem terminalStatus_terminal {canceled : Bool} {results : List CaseResult} :
    (terminalStatus canceled results).isTerminal = true := by
  rw [terminalStatus]
  split
  · rfl
  · split
    · rfl
    · split <;> rfl

/-- The result of a run, from what the adapter knows at its end. -/
def runResultOf (runId : UUID) (runnerVersion : String) (startedAt finishedAt : Instant)
    (status : { status : RunStatus // status.isTerminal = true }) (results : List CaseResult)
    (artifacts : List Artifact) : Except String RunResult :=
  if h : startedAt ≤ finishedAt then
    .ok {
      runId := runId
      status := status
      startedAt := startedAt
      finishedAt := finishedAt
      runnerVersion := runnerVersion
      caseResults := results
      artifacts := artifacts
      executionIsolation := none
      terminal := status.2
      timesOrdered := h }
  else .error "finished_at must not be earlier than started_at"

theorem runResultOf_caseResults {runId : UUID} {runnerVersion : String}
    {startedAt finishedAt : Instant} {status : { status : RunStatus // status.isTerminal = true }}
    {results : List CaseResult} {artifacts : List Artifact} {result : RunResult}
    (h : runResultOf runId runnerVersion startedAt finishedAt status results artifacts =
      .ok result) : result.caseResults = results := by
  rw [runResultOf] at h
  split at h
  · cases h
    rfl
  · cases h

/-! ### Dictionaries of results -/

/-- The entry of a dictionary of results: the last one that was put under the code. -/
def resultOf (results : List CaseResult) (caseCode : String) : Except String CaseResult :=
  found (results.reverse.find? fun result => result.caseCode = caseCode) ("'" ++ caseCode ++ "'")

variable {results results' : List CaseResult} {result : CaseResult} {code : String}
  {codes : List String}

theorem resultOf_ok (h : resultOf results code = .ok result) :
    result ∈ results ∧ result.caseCode = code := by
  rw [resultOf, found_eq_ok] at h
  exact ⟨List.mem_reverse.mp (List.mem_of_find?_eq_some h), by simpa using List.find?_some h⟩

/-- A code that has been put under has an entry. -/
theorem exists_resultOf (h : code ∈ results.map CaseResult.caseCode) :
    ∃ result, resultOf results code = .ok result := by
  obtain ⟨result, hresult, hcode⟩ := List.mem_map.mp h
  cases hfind : results.reverse.find? fun other => other.caseCode = code with
  | none =>
    rw [List.find?_eq_none] at hfind
    exact absurd (decide_eq_true hcode) (hfind result (List.mem_reverse.mpr hresult))
  | some other => exact ⟨other, found_eq_ok.mpr hfind⟩

/-- Of results of different codes, each one is its entry. -/
theorem resultOf_mem (hcodes : (results.map CaseResult.caseCode).Nodup) (h : result ∈ results) :
    resultOf results result.caseCode = .ok result := by
  rw [resultOf, found_eq_ok]
  cases hfind : results.reverse.find? fun other => other.caseCode = result.caseCode with
  | none =>
    rw [List.find?_eq_none] at hfind
    exact absurd (decide_eq_true rfl) (hfind result (List.mem_reverse.mpr h))
  | some other =>
    have hcode : other.caseCode = result.caseCode := by simpa using List.find?_some hfind
    have hother := List.mem_reverse.mp (List.mem_of_find?_eq_some hfind)
    rw [List.inj_on_of_nodup_map hcodes hother h hcode]

/-- An update leaves the entries of other codes alone. -/
theorem resultOf_append_left (h : code ∉ results'.map CaseResult.caseCode) :
    resultOf (results ++ results') code = resultOf results code := by
  have hnone : (results'.reverse.find? fun result => result.caseCode = code) = none := by
    rw [List.find?_eq_none]
    intro result hresult hcode
    exact h (List.mem_map.mpr ⟨result, List.mem_reverse.mp hresult, of_decide_eq_true hcode⟩)
  rw [resultOf, List.reverse_append, List.find?_append, hnone, Option.none_or, resultOf]

/-- What is collected for a list of codes has these codes. -/
theorem codes_of_mapM (h : codes.mapM (resultOf results) = .ok results') :
    results'.map CaseResult.caseCode = codes := by
  induction codes generalizing results' with
  | nil =>
    simp only [List.mapM_nil, pure_eq_ok] at h
    rw [← h, List.map_nil]
  | cons code codes ih =>
    simp only [List.mapM_cons, bind_eq_ok, pure_eq_ok] at h
    obtain ⟨result, hresult, rest, hrest, rfl⟩ := h
    rw [List.map_cons, ih hrest, (resultOf_ok hresult).2]

/-- What is collected for different codes is the dictionary, as far as these codes go. -/
theorem resultOf_mapM (h : codes.mapM (resultOf results) = .ok results') (hcodes : codes.Nodup)
    (hcode : code ∈ codes) : resultOf results' code = resultOf results code := by
  have hmap := codes_of_mapM h
  obtain ⟨result, hresult, rfl⟩ := List.mem_map.mp (hmap.symm ▸ hcode)
  rw [resultOf_mem (hmap.symm ▸ hcodes) hresult]
  obtain ⟨code, -, hentry⟩ := (mem_of_mapM_ok h).mp hresult
  rw [(resultOf_ok hentry).2, hentry]

/-- The one result of a code among results of different codes. -/
theorem filter_code (hcodes : (results.map CaseResult.caseCode).Nodup)
    (h : resultOf results code = .ok result) :
    results.filter (fun other => other.caseCode = code) = [result] := by
  obtain ⟨hmem, hcode⟩ := resultOf_ok h
  induction results with
  | nil => cases hmem
  | cons other results ih =>
    obtain ⟨hnot, hrest⟩ := List.nodup_cons.mp hcodes
    rcases List.mem_cons.mp hmem with rfl | hmem
    · rw [List.filter_cons_of_pos (by simpa using hcode), List.filter_eq_nil_iff.mpr]
      intro other hother hsame
      refine hnot (List.mem_map.mpr ⟨other, hother, ?_⟩)
      rw [hcode, of_decide_eq_true hsame]
    · have hne : other.caseCode ≠ code := by
        intro hsame
        exact hnot (List.mem_map.mpr ⟨result, hmem, hcode.trans hsame.symm⟩)
      rw [List.filter_cons_of_neg (by simpa using hne)]
      refine ih hrest ?_ hmem
      rw [← hcode]
      exact resultOf_mem hrest hmem

theorem filter_code_iff (hcodes : (results.map CaseResult.caseCode).Nodup) :
    results.filter (fun other => other.caseCode = code) = [result] ↔
      resultOf results code = .ok result := by
  refine ⟨fun h => ?_, filter_code hcodes⟩
  have hmem : result ∈ results.filter fun other => other.caseCode = code :=
    h ▸ List.mem_singleton_self result
  obtain ⟨hresult, hcode⟩ := List.mem_filter.mp hmem
  rw [← of_decide_eq_true hcode]
  exact resultOf_mem hcodes hresult

end TestOps

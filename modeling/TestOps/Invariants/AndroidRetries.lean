import TestOps.Invariants.AndroidRuns

/-! What a second round does to the results of the first one. A round that ends is put over the
    results of the first one, code by code; a round that raises takes all of them with it:

      round 1        TC-A FAILED   TC-B PASSED            TC-A FAILED        TC-B PASSED
      round 2        TC-A PASSED                          raises
      run            TC-A PASSED   TC-B PASSED            TC-A INFRA_ERROR   TC-B INFRA_ERROR -/

namespace TestOps.Android

open Checked Traced

variable {py : PythonLibrary} {setup : Setup} {world : World} {job : RunSnapshot}
  {cases : List CaseDefinition} {environment : List (String × String)} {secrets : List String}
  {invocation : Invocation} {expected : List (String × UUID)} {records : List CaseResult}
  {number : Nat} {retry : Bool}

/-! ### What is read from the files -/

theorem sortedNames_eq_nil {names : List String} : sortedNames names = [] ↔ names = [] := by
  rw [sortedNames]
  constructor
  · intro h
    have hperm := List.perm_insertionSort (· ≤ ·) names.dedup
    rw [h] at hperm
    exact List.subset_nil.mp (hperm.symm.eq_nil ▸ List.subset_dedup names)
  · rintro rfl
    rfl

theorem allureCaseResult_code {payload : Json} {code : String} {caseId : UUID}
    {record : CaseResult}
    (h : allureCaseResult py world invocation secrets payload code caseId = .ok record) :
    record.caseCode = code := by
  simp only [allureCaseResult, bind_eq_ok, pure_eq_ok] at h
  obtain ⟨_, -, _, -, _, -, _, -, _, -, rfl⟩ := h
  rfl

theorem mem_of_expectedId {code : String} {caseId : UUID}
    (h : expectedId expected code = some caseId) : code ∈ expected.map Prod.fst := by
  rw [expectedId, List.lookup_eq_some_iff] at h
  obtain ⟨before, after, hsplit, -⟩ := h
  refine List.mem_map.mpr ⟨(code, caseId), List.mem_reverse.mp ?_, rfl⟩
  rw [hsplit]
  exact List.mem_append_right before List.mem_cons_self

/-- The records are those of the expected cases, each once. -/
theorem readAllureRecords_ok
    (h : readAllureRecords py world invocation expected secrets = .ok records) :
    (records.map CaseResult.caseCode).Nodup ∧
      ∀ code, code ∈ records.map CaseResult.caseCode ↔ code ∈ expected.map Prod.fst := by
  simp only [readAllureRecords, bind_eq_ok, ensure_eq_ok, pure_eq_ok, sortedNames_eq_nil,
    List.filter_eq_nil_iff, decide_eq_true_eq, not_not] at h
  obtain ⟨_, -, read, hread, _, hmissing, rfl⟩ := h
  have hinvariant := foldlM_invariant (fun records => (records.map CaseResult.caseCode).Nodup ∧
    ∀ code ∈ records.map CaseResult.caseCode, code ∈ expected.map Prod.fst) ?_ hread
    ⟨List.nodup_nil, by simp⟩
  · exact ⟨hinvariant.1, fun code => ⟨hinvariant.2 code, hmissing code⟩⟩
  · rintro records file records' _ hfile ⟨hnodup, hsub⟩
    simp only [readAllureFile, bind_eq_ok] at hfile
    obtain ⟨payload, -, code, -, hfile⟩ := hfile
    split at hfile
    · cases hfile
      exact ⟨hnodup, hsub⟩
    · rename_i caseId hid
      simp only [bind_eq_ok, ensure_eq_ok, pure_eq_ok] at hfile
      obtain ⟨_, hnew, record, hrecord, rfl⟩ := hfile
      rw [List.map_append, List.map_singleton, allureCaseResult_code hrecord]
      refine ⟨List.nodup_append.mpr ⟨hnodup, List.nodup_singleton _, ?_⟩, ?_⟩
      · intro other hother code' hcode' hsame
        rw [List.mem_singleton.mp hcode'] at hsame
        exact hnew (hsame ▸ hother)
      · intro other hother
        rcases List.mem_append.mp hother with hother | hother
        · exact hsub other hother
        · rw [List.mem_singleton.mp hother]
          exact mem_of_expectedId hid

/-! ### When a round ends -/

/-- The cases of a round, as its records are looked for. -/
def expectedCases (cases : List CaseDefinition) : List (String × UUID) :=
  cases.map fun case => (case.caseCode, case.caseId)

theorem expectedCases_codes : (expectedCases cases).map Prod.fst = caseCodes cases := by
  rw [expectedCases, List.map_map]
  rfl

/-- The launcher is called, its log is written, its records are read, and its exit code is 0 or
    explained by a record. -/
def RoundEnds (py : PythonLibrary) (setup : Setup) (world : World) (job : RunSnapshot)
    (cases : List CaseDefinition) (environment : List (String × String)) (secrets : List String)
    (number : Nat) (retry : Bool) : Prop :=
  ∃ result, world.run (roundCommand py setup job cases environment number retry) = .ok result ∧
    world.writeLog (.round number) (py.redact result.output secrets) = .ok () ∧
    ∃ records, readAllureRecords py world (.round number) (expectedCases cases) secrets =
        .ok records ∧
      (result.returncode = 0 ∨
        ∃ record ∈ records, record.status = .failed ∨ record.status = .infraError)

theorem unexplained_iff {results : List CaseResult} :
    (∀ result ∈ results, result.status = .passed ∨ result.status = .skipped) ↔
      ¬∃ result ∈ results, result.status = .failed ∨ result.status = .infraError := by
  have hstatus : ∀ status : CaseResultStatus, (status = .passed ∨ status = .skipped) ↔
      ¬(status = .failed ∨ status = .infraError) := by
    intro status
    cases status <;> simp
  simp only [hstatus, not_exists, not_and]

/-- A verdict is passed on the records of the cases, whatever their order. -/
theorem roundVerdict_ok_iff {returncode : Int}
    (hread : readAllureRecords py world invocation (expectedCases cases) secrets = .ok records) :
    (∃ results, roundVerdict cases returncode records = .ok results) ↔ returncode = 0 ∨
      ∃ record ∈ records, record.status = .failed ∨ record.status = .infraError := by
  obtain ⟨hnodup, hcodes⟩ := readAllureRecords_ok hread
  simp only [expectedCases_codes] at hcodes
  have hfound : ∃ results, (caseCodes cases).mapM (resultOf records) = .ok results := by
    rw [exists_mapM_ok]
    intro code hcode
    obtain ⟨record, hrecord, rfl⟩ := List.mem_map.mp ((hcodes code).mpr hcode)
    exact ⟨record, resultOf_mem hnodup hrecord⟩
  obtain ⟨results, hresults⟩ := hfound
  have hsame : ∀ record, record ∈ results ↔ record ∈ records := by
    intro record
    rw [mem_of_mapM_ok hresults]
    constructor
    · rintro ⟨code, -, hentry⟩
      exact (resultOf_ok hentry).1
    · intro hrecord
      exact ⟨record.caseCode, (hcodes _).mp (List.mem_map.mpr ⟨record, hrecord, rfl⟩),
        resultOf_mem hnodup hrecord⟩
  simp only [roundVerdict, hresults, ok_bind, bind_eq_ok, ensure_eq_ok, pure_eq_ok,
    unexplained_iff, hsame]
  constructor
  · rintro ⟨_, _, hverdict, -⟩
    by_cases hzero : returncode = 0
    · exact Or.inl hzero
    · exact Or.inr (not_not.mp fun hnone => hverdict ⟨hzero, hnone⟩)
  · intro hends
    refine ⟨results, (), ?_, rfl⟩
    rintro ⟨hcode, hnone⟩
    exact hends.elim hcode hnone

theorem runRound_ok_iff (hcanceled : world.canceled (.round number) = false) :
    (∃ results, (runRound py setup world job cases environment secrets number retry).outcome =
      .ok results) ↔ RoundEnds py setup world job cases environment secrets number retry := by
  have hround : (runRound py setup world job cases environment secrets number retry).outcome =
      (invoke py world (roundCommand py setup job cases environment number retry)
        (expectedCases cases) secrets).outcome >>=
          fun answer => roundVerdict cases answer.1 answer.2 := by
    rw [runRound, if_neg (Bool.eq_false_iff.mp hcanceled)]
    simp only [bind_outcome, emitAll_outcome, ok_bind]
    rfl
  simp only [hround, bind_eq_ok, RoundEnds, Prod.exists]
  constructor
  · rintro ⟨results, returncode, records, hinvoke, hverdict⟩
    obtain ⟨-, result, hrun, rfl, hlog, hread⟩ := invoke_ok hinvoke
    exact ⟨result, hrun, hlog, records, hread, (roundVerdict_ok_iff hread).mp ⟨results, hverdict⟩⟩
  · rintro ⟨result, hrun, hlog, records, hread, hends⟩
    obtain ⟨results, hverdict⟩ := (roundVerdict_ok_iff hread).mpr hends
    refine ⟨results, result.returncode, records, ?_, hverdict⟩
    simp only [invoke, bind_outcome, emit_outcome, lift_outcome, ok_bind, hrun]
    rw [show (roundCommand py setup job cases environment number retry).invocation =
      .round number from rfl, hlog, ok_bind, hread, ok_bind]
    rfl

/-- There is no second round, or it ends. -/
def SecondRoundEnds (py : PythonLibrary) (setup : Setup) (world : World) (job : RunSnapshot)
    (environment : List (String × String)) (secrets : List String) (first : List CaseResult) :
    Prop :=
  retryCases py job first ≠ [] → world.sleep retryWaitSeconds = .ok () ∧
    RoundEnds py setup world job (retryCases py job first) environment secrets 2 true

theorem secondRound_ok_iff {first : List CaseResult}
    (hcanceled : ∀ check, world.canceled check = false) :
    (∃ retried, (secondRound py setup world job environment secrets first).outcome =
      .ok retried) ↔ SecondRoundEnds py setup world job environment secrets first := by
  rw [SecondRoundEnds, ← runRound_ok_iff (hcanceled (.round 2))]
  by_cases hretry : retryCases py job first = []
  · have hnone : secondRound py setup world job environment secrets first = pure [] :=
      if_neg fun h => h.1 hretry
    simp [hnone, hretry]
  · have hsecond : (secondRound py setup world job environment secrets first).outcome =
        world.sleep retryWaitSeconds >>= fun _ => (runRound py setup world job
          (retryCases py job first) environment secrets 2 true).outcome := by
      rw [secondRound, if_pos ⟨hretry, hcanceled .retry⟩]
      simp only [bind_outcome, emit_outcome, ok_bind, lift_outcome]
    simp only [hsecond, bind_eq_ok, hretry, ne_eq, not_false_eq_true, true_imp_iff]
    constructor
    · rintro ⟨retried, _, hsleep, hround⟩
      exact ⟨hsleep, retried, hround⟩
    · rintro ⟨hsleep, retried, hround⟩
      exact ⟨retried, (), hsleep, hround⟩

/-! ### The results of a run -/

variable {first results : List CaseResult} {result : RunResult} {r : CaseResult}

theorem runRound_codes
    (h : (runRound py setup world job cases environment secrets number retry).outcome =
      .ok results) : results.map CaseResult.caseCode = caseCodes cases := by
  rw [runRound] at h
  split at h
  · cases h
    rw [List.map_map]
    rfl
  · simp only [bind_outcome, bind_eq_ok] at h
    obtain ⟨_, -, ⟨returncode, records⟩, -, hverdict⟩ := h
    simp only [lift_outcome, roundVerdict, bind_eq_ok, pure_eq_ok] at hverdict
    obtain ⟨collected, hcollected, _, -, rfl⟩ := hverdict
    exact codes_of_mapM hcollected

theorem firstRound_codes
    (h : (firstRound py setup world job environment secrets).outcome = .ok first) :
    first.map CaseResult.caseCode = caseCodes job.enabledCases := by
  rw [firstRound] at h
  split at h
  · simp only [bind_outcome, bind_eq_ok] at h
    obtain ⟨_, -, hround⟩ := h
    exact runRound_codes hround
  · exact runRound_codes h

theorem secondRound_codes {retried : List CaseResult}
    (h : (secondRound py setup world job environment secrets first).outcome = .ok retried) :
    ∀ code ∈ retried.map CaseResult.caseCode, code ∈ caseCodes (retryCases py job first) := by
  rw [secondRound] at h
  split at h
  · simp only [bind_outcome, bind_eq_ok] at h
    obtain ⟨_, -, _, -, hround⟩ := h
    intro code hcode
    exact runRound_codes hround ▸ hcode
  · cases h
    nofun

/-- A run returns the entries of its dictionary, in the order of the job. -/
theorem execute_ok (h : (execute py setup world job).outcome = .ok result) :
    ∃ results, (enabledResults py setup world job).outcome = .ok results ∧
      (caseCodes job.cases).mapM (resultOf (results ++ disabledResults world job)) =
        .ok result.caseResults ∧
      (execute py setup world job).emitted = .event .runStarted ::
        (enabledResults py setup world job).emitted ++
          result.caseResults.map fun r => .event (.caseFinished r.caseCode r.status) := by
  obtain ⟨_, _, h, h₁⟩ := bind_ok h
  obtain ⟨_, _, h, h₂⟩ := bind_ok h
  obtain ⟨results, hresults, h, h₃⟩ := bind_ok h
  obtain ⟨ordered, hordered, h, h₄⟩ := bind_ok h
  obtain ⟨_, _, h, h₅⟩ := bind_ok h
  obtain rfl : result.caseResults = ordered := runResultOf_caseResults h
  refine ⟨results, hresults, hordered, ?_⟩
  rw [execute, h₁, h₂, h₃, h₄, h₅]
  simp

theorem disabled_codes (hcodes : (caseCodes job.cases).Nodup) {code : String}
    (hcode : code ∈ caseCodes job.enabledCases) :
    code ∉ (disabledResults world job).map CaseResult.caseCode := by
  intro hdisabled
  obtain ⟨case, hcase, rfl⟩ := List.mem_map.mp hcode
  rw [disabledResults, List.map_map] at hdisabled
  obtain ⟨other, hother, hsame⟩ := List.mem_map.mp hdisabled
  obtain ⟨hmem, henabled⟩ := List.mem_filter.mp hcase
  obtain ⟨hmem', hdisabled⟩ := List.mem_filter.mp hother
  rw [List.inj_on_of_nodup_map hcodes hmem' hmem hsame, henabled] at hdisabled
  cases hdisabled

/-- The result of an enabled case is the one that its rounds, or the handler, have left. -/
theorem result_of_enabled (hcodes : (caseCodes job.cases).Nodup)
    (hresult : (execute py setup world job).outcome = .ok result) {code : String}
    (hcode : code ∈ caseCodes job.enabledCases) :
    ∃ results, (enabledResults py setup world job).outcome = .ok results ∧
      (result.caseResults.filter (fun other => other.caseCode = code) = [r] ↔
        resultOf results code = .ok r) := by
  obtain ⟨results, hresults, hordered, -⟩ := execute_ok hresult
  have hmem : code ∈ caseCodes job.cases := List.map_subset _ enabledCases_subset hcode
  refine ⟨results, hresults, ?_⟩
  rw [filter_code_iff (codes_of_mapM hordered ▸ hcodes), resultOf_mapM hordered hcodes hmem,
    resultOf_append_left (disabled_codes hcodes hcode)]

/-- Both rounds, where the first one returns. -/
theorem rounds_outcome
    (hfirst : (firstRound py setup world job environment secrets).outcome = .ok first) :
    (rounds py setup world job environment secrets).outcome =
      (secondRound py setup world job environment secrets first).outcome >>= fun retried =>
        (caseCodes job.enabledCases).mapM (resultOf (first ++ retried)) := by
  rw [rounds]
  simp only [bind_outcome, hfirst, ok_bind, lift_outcome]

/-- A second round that ends is put over the first one. -/
theorem enabledResults_merged {retried : List CaseResult}
    (henvironment : childEnvironment setup world job = .ok (environment, secrets))
    (hfirst : (firstRound py setup world job environment secrets).outcome = .ok first)
    (hsecond : (secondRound py setup world job environment secrets first).outcome =
      .ok retried) : ∃ merged, (enabledResults py setup world job).outcome = .ok merged ∧
        (caseCodes job.enabledCases).mapM (resultOf (first ++ retried)) = .ok merged := by
  have hmerged : ∃ merged,
      (caseCodes job.enabledCases).mapM (resultOf (first ++ retried)) = .ok merged := by
    rw [exists_mapM_ok]
    intro code hcode
    refine exists_resultOf ?_
    rw [List.map_append, firstRound_codes hfirst]
    exact List.mem_append_left _ hcode
  obtain ⟨merged, hmerged⟩ := hmerged
  refine ⟨merged, ?_, hmerged⟩
  rw [enabledResults, handle_of_ok]
  simp only [bind_outcome, lift_outcome, henvironment, ok_bind, rounds_outcome hfirst, hsecond,
    hmerged]

/-- One that raises leaves the results to the handler. -/
theorem enabledResults_handled {error : String}
    (henvironment : childEnvironment setup world job = .ok (environment, secrets))
    (hfirst : (firstRound py setup world job environment secrets).outcome = .ok first)
    (hsecond : (secondRound py setup world job environment secrets first).outcome =
      .error error) : (enabledResults py setup world job).outcome =
        .ok (job.enabledCases.map (handledResult py setup world job error)) := by
  rw [enabledResults, handle_of_error (e := error), pure_outcome]
  simp only [bind_outcome, lift_outcome, henvironment, ok_bind, rounds_outcome hfirst, hsecond,
    error_bind]

theorem handledResult_code {error : String} {case : CaseDefinition} :
    (handledResult py setup world job error case).caseCode = case.caseCode := by
  rw [handledResult]
  split <;> rfl

/-- The handler has written the result once more, to the letter. -/
def RewrittenAlike (py : PythonLibrary) (setup : Setup) (world : World) (job : RunSnapshot)
    (environment : List (String × String)) (secrets : List String) (first : List CaseResult)
    (r : CaseResult) : Prop :=
  ∃ error, (secondRound py setup world job environment secrets first).outcome = .error error ∧
    ∃ case ∈ job.enabledCases, r = handledResult py setup world job error case

/-- A result of the first round outside of the second one is kept if and only if the second one ends,
    or the handler happens to write just this result. -/
theorem first_result_kept_iff (hcodes : (caseCodes job.cases).Nodup)
    (hcanceled : ∀ check, world.canceled check = false)
    (henvironment : childEnvironment setup world job = .ok (environment, secrets))
    (hfirst : (firstRound py setup world job environment secrets).outcome = .ok first)
    (hresult : (execute py setup world job).outcome = .ok result) (hr : r ∈ first)
    (hunretried : r.caseCode ∉ caseCodes (retryCases py job first)) :
    result.caseResults.filter (fun other => other.caseCode = r.caseCode) = [r] ↔
      SecondRoundEnds py setup world job environment secrets first ∨
        RewrittenAlike py setup world job environment secrets first r := by
  have henabled : (caseCodes job.enabledCases).Nodup := hcodes.sublist (List.filter_sublist.map _)
  have hcode : r.caseCode ∈ caseCodes job.enabledCases :=
    firstRound_codes hfirst ▸ List.mem_map.mpr ⟨r, hr, rfl⟩
  obtain ⟨results, hresults, hkept⟩ := result_of_enabled (r := r) hcodes hresult hcode
  rw [hkept, ← secondRound_ok_iff hcanceled]
  cases hsecond : (secondRound py setup world job environment secrets first).outcome with
  | ok retried =>
    -- the second round leaves the codes of other cases alone
    obtain ⟨merged, hmerged, hmap⟩ := enabledResults_merged henvironment hfirst hsecond
    obtain rfl := Except.ok.inj (hresults.symm.trans hmerged)
    rw [resultOf_mapM hmap henabled hcode,
      resultOf_append_left fun h => hunretried (secondRound_codes hsecond _ h),
      resultOf_mem (firstRound_codes hfirst ▸ henabled) hr]
    exact iff_of_true rfl (Or.inl ⟨retried, rfl⟩)
  | error error =>
    have hhandled := enabledResults_handled henvironment hfirst hsecond
    obtain rfl := Except.ok.inj (hresults.symm.trans hhandled)
    have hcodes' : (job.enabledCases.map (handledResult py setup world job error)).map
        CaseResult.caseCode = caseCodes job.enabledCases := by
      rw [List.map_map]
      exact List.map_congr_left fun case _ => handledResult_code
    constructor
    · intro hentry
      obtain ⟨case, hcase, rfl⟩ := List.mem_map.mp (resultOf_ok hentry).1
      exact Or.inr ⟨error, hsecond, case, hcase, rfl⟩
    · rintro (⟨retried, hretried⟩ | ⟨error', herror, case, hcase, rfl⟩)
      · cases hretried
      · obtain rfl := Except.error.inj (hsecond.symm.trans herror)
        exact resultOf_mem (hcodes' ▸ henabled) (List.mem_map.mpr ⟨case, hcase, rfl⟩)

/-! ### A case that has passed and is reported as failed -/

def deviceEnvironment : List (String × String) :=
  [("ALLURE_NO_ANALYTICS", "1"), ("PYTHONIOENCODING", "utf-8"), ("PYTHONUNBUFFERED", "1"),
    ("PYTHONUTF8", "1"), ("YANJIA_IGNORE_DOTENV", "true"), ("YANJIA_USERNAME", "vault://a"),
    ("YANJIA_PASSWORD", "vault://b"), ("SEEDED_CUSTOMER_PHONE", "vault://c"),
    ("YANJIA_MUTATION_CUSTOMER_QUERY", "vault://d")]

def deviceSecrets : List String := ["vault://a", "vault://b", "vault://c", "vault://d"]

theorem deviceWorld_environment : childEnvironment deviceSetup deviceWorld deviceJob =
    .ok (deviceEnvironment, deviceSecrets) := by
  rfl

/-- The status of each case -/
def reported (results : List CaseResult) : List (String × CaseResultStatus) :=
  results.map fun r => (r.caseCode, r.status)

theorem deviceFirst_statuses :
    (firstRound plainPython deviceSetup deviceWorld deviceJob deviceEnvironment
      deviceSecrets).outcome.toOption.map reported =
        some [("TC-HOME-001", .failed), ("TC-HOME-002", .passed)] := by
  decide

theorem deviceRun_statuses :
    (execute plainPython deviceSetup deviceWorld deviceJob).outcome.toOption.map
      (fun result => reported result.caseResults) =
        some [("TC-HOME-001", .infraError), ("TC-HOME-002", .infraError)] := by
  decide

/-- The first round has read that the writing case has passed, and the run returns otherwise. -/
theorem deviceRun_loses : ∃ first result r,
    (firstRound plainPython deviceSetup deviceWorld deviceJob deviceEnvironment
      deviceSecrets).outcome = .ok first ∧
    (execute plainPython deviceSetup deviceWorld deviceJob).outcome = .ok result ∧ r ∈ first ∧
    r.caseCode ∉ caseCodes (retryCases plainPython deviceJob first) ∧
    result.caseResults.filter (fun other => other.caseCode = r.caseCode) ≠ [r] := by
  obtain ⟨first, hfirst, hcodes⟩ := exists_of_toOption deviceFirst_statuses
  obtain ⟨result, hresult, hreported⟩ := exists_of_toOption deviceRun_statuses
  have hmem : ("TC-HOME-002", CaseResultStatus.passed) ∈ reported first := by
    rw [hcodes]
    decide
  obtain ⟨r, hr, hpair⟩ := List.mem_map.mp hmem
  obtain ⟨hcode, hstatus⟩ := Prod.mk.inj hpair
  refine ⟨first, result, r, hfirst, hresult, hr, fun hretried => ?_, fun hkept => ?_⟩
  · obtain ⟨case, hcase, hsame⟩ := List.mem_map.mp hretried
    have hwriting : case = writingCase :=
      List.inj_on_of_nodup_map deviceJob_codes (enabledCases_subset (retryCases_subset hcase))
        (by decide) (hsame.trans hcode)
    exact retry_not_neverRepeated hcase ⟨"mutating", by decide, by rw [hwriting]; decide⟩
  · -- the run has no passed case
    have hkeeps : r ∈ result.caseResults.filter fun other => other.caseCode = r.caseCode :=
      hkept ▸ List.mem_singleton_self r
    have hpassed : (r.caseCode, r.status) ∈ reported result.caseResults :=
      List.mem_map.mpr ⟨r, (List.mem_filter.mp hkeeps).1, rfl⟩
    rw [hreported, hstatus] at hpassed
    simp at hpassed

/-- In this run the second round neither ends nor rewrites the result alike. -/
theorem deviceRun_not_kept : ∃ first r, r ∈ first ∧
    ¬(SecondRoundEnds plainPython deviceSetup deviceWorld deviceJob deviceEnvironment deviceSecrets
        first ∨ RewrittenAlike plainPython deviceSetup deviceWorld deviceJob deviceEnvironment
          deviceSecrets first r) := by
  obtain ⟨first, result, r, hfirst, hresult, hr, hunretried, hlost⟩ := deviceRun_loses
  exact ⟨first, r, hr, fun hends => hlost ((first_result_kept_iff deviceJob_codes (fun _ => rfl)
    deviceWorld_environment hfirst hresult hr hunretried).mpr hends)⟩

/-- So a second round does not leave the results of other cases alone. -/
theorem first_results_overwritten :
    ¬∀ (py : PythonLibrary) (setup : Setup) (world : World) (job : RunSnapshot)
      (environment : List (String × String)) (secrets : List String) (first : List CaseResult)
      (result : RunResult) (r : CaseResult), (caseCodes job.cases).Nodup →
      (∀ check, world.canceled check = false) →
      childEnvironment setup world job = .ok (environment, secrets) →
      (firstRound py setup world job environment secrets).outcome = .ok first →
      (execute py setup world job).outcome = .ok result → r ∈ first →
      r.caseCode ∉ caseCodes (retryCases py job first) →
      result.caseResults.filter (fun other => other.caseCode = r.caseCode) = [r] := by
  intro hclaim
  obtain ⟨first, result, r, hfirst, hresult, hr, hunretried, hlost⟩ := deviceRun_loses
  exact hlost (hclaim plainPython deviceSetup deviceWorld deviceJob deviceEnvironment deviceSecrets
    first result r deviceJob_codes (fun _ => rfl) deviceWorld_environment hfirst hresult hr
    hunretried)

end TestOps.Android

import TestOps.ControlPlane.ResultRows
import TestOps.Invariants.AiContext
import TestOps.Invariants.RunState

/-! A result that the contract accepts is stored and shown exactly when it stays within the columns and
    writes its digests in lowercase. The contract bounds neither names nor numbers, and admits digits
    in uppercase:

      name         contract  1 ..            column  .. 255
      size_bytes   contract  0 ..            column  .. 2³¹ - 1
      digest       contract  [0-9a-fA-F]     response  [0-9a-f] -/

namespace TestOps

open Checked Transition

variable {P : Primitives} {reported result : ReportedResult} {sha256 : ResultDigest}

/-! ### Validating again -/

theorem ReportedArtifact.validate_again {artifact stored : ReportedArtifact}
    (h : artifact.validate = .ok stored) : stored.validate = .ok stored := by
  simp only [ReportedArtifact.validate, bind_eq_ok, ensure_eq_ok, pure_eq_ok] at h ⊢
  obtain ⟨name, hname, uri, huri, checked, hdigest, -, hsize, rfl⟩ := h
  exact ⟨name, nonEmptyStr_again hname, uri, nonEmptyStr_again huri, checked, hdigest, (), hsize, rfl⟩

theorem ReportedCaseResult.validate_again {item stored : ReportedCaseResult}
    (h : item.validate = .ok stored) : stored.validate = .ok stored := by
  simp only [ReportedCaseResult.validate, bind_eq_ok, ensure_eq_ok, pure_eq_ok] at h ⊢
  obtain ⟨caseCode, hcode, -, hduration, times, hperiod, -, hexplained, rfl⟩ := h
  exact ⟨caseCode, nonEmptyStr_again hcode, (), hduration, times, hperiod, (), hexplained, rfl⟩

theorem ReportedIsolation.validate_again {isolation stored : ReportedIsolation}
    (h : isolation.validate = .ok stored) : stored.validate = .ok stored := by
  have hsame : ∀ version, { isolation with executorVersion := version }.complete =
      isolation.complete := fun _ => rfl
  simp only [ReportedIsolation.validate, bind_eq_ok, ensure_eq_ok, pure_eq_ok] at h ⊢
  obtain ⟨version, hversion, -, h₁, -, h₂, -, h₃, -, h₄, -, h₅, -, h₆, -, h₇, checked,
    hcomplete, rfl⟩ := h
  exact ⟨version, nonEmptyStr_again hversion, (), h₁, (), h₂, (), h₃, (), h₄, (), h₅, (), h₆, (),
    h₇, checked, (hsame version).trans hcomplete, rfl⟩

/-- A pass whose values pass unchanged passes them unchanged. -/
theorem mapM_again {α : Type} {f : α → Except ValidationError α} {xs ys : List α}
    (hagain : ∀ x y, f x = .ok y → f y = .ok y) (h : xs.mapM f = .ok ys) : ys.mapM f = .ok ys := by
  induction xs generalizing ys with
  | nil =>
    simp only [List.mapM_nil, pure_eq_ok] at h
    subst h
    rfl
  | cons x xs ih =>
    simp only [List.mapM_cons, bind_eq_ok, pure_eq_ok] at h
    obtain ⟨y, hy, ys, hys, rfl⟩ := h
    simp only [List.mapM_cons, bind_eq_ok, pure_eq_ok]
    exact ⟨y, hagain x y hy, ys, ih hys, rfl⟩

/-- What a model has validated it validates again, unchanged. -/
theorem ReportedResult.validate_again (h : reported.validate = .ok result) :
    result.validate = .ok result := by
  simp only [ReportedResult.validate, bind_eq_ok, ensure_eq_ok, pure_eq_ok] at h ⊢
  obtain ⟨version, hversion, items, hitems, artifacts, hartifacts, isolation, hisolation, -,
    hterminal, times, hperiod, rfl⟩ := h
  refine ⟨version, nonEmptyStr_again hversion, items,
    mapM_again (fun _ _ => ReportedCaseResult.validate_again) hitems, artifacts,
    mapM_again (fun _ _ => ReportedArtifact.validate_again) hartifacts, isolation, ?_, (), hterminal,
    times, hperiod, rfl⟩
  cases hreported : reported.executionIsolation with
  | none =>
    simp only [hreported, validateIsolation, pure_eq_ok] at hisolation
    rw [← hisolation]
    rfl
  | some stored =>
    simp only [hreported, validateIsolation, map_eq_ok] at hisolation
    obtain ⟨evidence, hevidence, rfl⟩ := hisolation
    simp only [validateIsolation, map_eq_ok]
    exact ⟨evidence, ReportedIsolation.validate_again hevidence, rfl⟩

/-! ### What the contract guarantees -/

theorem digestPattern_text {p : Char → Bool} {text : String} (h : digestPattern p text = true)
    (hp : p '\x00' = false) : text.length = 71 ∧ isText text = true := by
  obtain ⟨hhead, hlength, hall⟩ := of_decide_eq_true h
  rw [List.isPrefixOf_iff_prefix] at hhead
  obtain ⟨digits, hdigits⟩ := hhead
  rw [← hdigits] at hlength hall
  have hdrop : ("sha256:".toList ++ digits).drop 7 = digits := rfl
  rw [hdrop] at hlength hall
  constructor
  · rw [← String.length_toList, ← hdigits, List.length_append, hlength]
    rfl
  · refine decide_eq_true fun hnul => ?_
    rw [← hdigits] at hnul
    rcases List.mem_append.mp hnul with hleft | hright
    · revert hleft
      decide
    · rw [List.all_eq_true] at hall
      rw [hall _ hright] at hp
      cases hp

/-- A validated artifact has a digest and no negative size. -/
theorem ReportedArtifact.validate_ok {artifact stored : ReportedArtifact}
    (h : artifact.validate = .ok stored) :
    digestPattern isHexDigit stored.digest = true ∧ 0 ≤ stored.sizeBytes := by
  simp only [ReportedArtifact.validate, sha256Digest, bind_eq_ok, ensure_eq_ok, pure_eq_ok] at h
  obtain ⟨name, -, uri, -, -, hdigest, -, hsize, rfl⟩ := h
  exact ⟨hdigest, hsize⟩

theorem ReportedCaseResult.validate_ok {item stored : ReportedCaseResult}
    (h : item.validate = .ok stored) :
    0 ≤ stored.durationMs ∧ ∃ caseResult, stored.caseResult? = some caseResult := by
  simp only [ReportedCaseResult.validate, period, bind_eq_ok, ensure_eq_ok, found_eq_ok,
    pure_eq_ok] at h
  obtain ⟨caseCode, -, -, hduration, -, ⟨started, hstarted, finished, hfinished, -, hordered, -⟩, -,
    hexplained, rfl⟩ := h
  refine ⟨hduration, ?_⟩
  obtain ⟨caseId, code, status, startedAt, finishedAt, durationMs, category, message, ids⟩ := item
  cases startedAt with
  | naive => cases hstarted
  | aware =>
    cases finishedAt with
    | naive => cases hfinished
    | aware =>
      cases hstarted
      cases hfinished
      refine Option.isSome_iff_exists.mp ?_
      rw [ReportedCaseResult.caseResult?]
      simp only
      rw [dif_pos hordered, dif_pos hexplained]
      rfl

theorem ReportedResult.validate_ok (h : reported.validate = .ok result) :
    (∀ item ∈ result.caseResults, ∃ item', ReportedCaseResult.validate item' = .ok item) ∧
      (∀ artifact ∈ result.artifacts, ∃ artifact', ReportedArtifact.validate artifact' = .ok artifact) ∧
      result.status.isTerminal = true ∧ ∃ started finished, result.startedAt = .aware started ∧
        result.finishedAt = .aware finished ∧ started ≤ finished := by
  simp only [ReportedResult.validate, period, bind_eq_ok, ensure_eq_ok, found_eq_ok, pure_eq_ok] at h
  obtain ⟨version, -, items, hitems, artifacts, hartifacts, isolation, -, -, hterminal, -,
    ⟨started, hstarted, finished, hfinished, -, hordered, -⟩, rfl⟩ := h
  refine ⟨fun item hitem => ?_, fun artifact hartifact => ?_, hterminal, started, finished, ?_, ?_,
    hordered⟩
  · obtain ⟨item', -, hitem'⟩ := (mem_of_mapM_ok hitems).mp hitem
    exact ⟨item', hitem'⟩
  · obtain ⟨artifact', -, hartifact'⟩ := (mem_of_mapM_ok hartifacts).mp hartifact
    exact ⟨artifact', hartifact'⟩
  · cases hat : reported.startedAt with
    | naive => rw [hat] at hstarted; cases hstarted
    | aware => rw [hat] at hstarted; cases hstarted; rfl
  · cases hat : reported.finishedAt with
    | naive => rw [hat] at hfinished; cases hfinished
    | aware => rw [hat] at hfinished; cases hfinished; rfl

/-- A validated result is a result of the contract, and its artifacts are stored as they stand. -/
theorem ReportedResult.runResult_of_validate (h : reported.validate = .ok result) :
    ∃ runResult, result.runResult? = some runResult ∧ runResult.runId = result.runId ∧
      runResult.artifacts.map (Artifact.record runResult.runId) =
        (result.rows sha256).artifacts.map ArtifactRow.record := by
  obtain ⟨hitems, -, hterminal, started, finished, hstarted, hfinished, hordered⟩ :=
    ReportedResult.validate_ok h
  have hmap : ∀ items : List ReportedCaseResult,
      (∀ item ∈ items, ∃ item', ReportedCaseResult.validate item' = .ok item) →
        ∃ caseResults, items.mapM ReportedCaseResult.caseResult? = some caseResults := by
    intro items
    induction items with
    | nil => exact fun _ => ⟨[], rfl⟩
    | cons item items ih =>
      intro hall
      obtain ⟨⟨item', hitem'⟩, hrest⟩ := List.forall_mem_cons.mp hall
      obtain ⟨caseResult, hcase⟩ := (ReportedCaseResult.validate_ok hitem').2
      obtain ⟨caseResults, hcases⟩ := ih hrest
      exact ⟨caseResult :: caseResults, by simp [List.mapM_cons, hcase, hcases]⟩
  obtain ⟨caseResults, hcases⟩ := hmap result.caseResults hitems
  refine ⟨⟨result.runId, result.status, started, finished, result.runnerVersion, caseResults,
    result.artifacts.map ReportedArtifact.artifact,
    result.executionIsolation.map ReportedIsolation.evidence, hterminal, hordered⟩, ?_, rfl, ?_⟩
  · rw [ReportedResult.runResult?, hstarted, hfinished]
    simp only
    rw [dif_pos hordered, dif_pos hterminal, hcases, Option.map_some]
  · simp only [ReportedResult.rows, List.map_map]
    rfl

/-! ### What the columns and the responses demand -/

/-- The result stays within the columns, and writes its digests in lowercase. -/
structure ReportedResult.Representable (result : ReportedResult) : Prop where
  artifacts : ∀ artifact ∈ result.artifacts, artifact.name.length ≤ 255 ∧
    artifact.sizeBytes < 2 ^ 31 ∧ digestPattern isLowerHexDigit artifact.digest = true
  caseResults : ∀ item ∈ result.caseResults, item.durationMs < 2 ^ 31 ∧
    ∀ category ∈ item.failureCategory, category.length ≤ 64
  texts : ∀ text ∈ result.texts, isText text = true

theorem artifactRow_fits {artifact : ReportedArtifact} {runId : UUID}
    (hdigest : digestPattern isHexDigit artifact.digest = true) (hsize : 0 ≤ artifact.sizeBytes)
    (hname : isText artifact.name = true) (huri : isText artifact.uri = true) :
    (artifact.row runId).fits = true ↔
      artifact.name.length ≤ 255 ∧ artifact.sizeBytes < 2 ^ 31 := by
  obtain ⟨hlength, htext⟩ := digestPattern_text hdigest (by decide)
  have hkind : fitsString 32 artifact.kind.text = true := by
    cases artifact.kind <;> decide
  have hfits : fitsString 71 artifact.digest = true := decide_eq_true ⟨hlength.le, htext⟩
  rw [ArtifactRow.fits, decide_eq_true_eq]
  constructor
  · rintro ⟨-, hshort, -, -, hsmall⟩
    exact ⟨(of_decide_eq_true hshort).1, (of_decide_eq_true hsmall).2⟩
  · rintro ⟨hshort, hsmall⟩
    refine ⟨hkind, decide_eq_true ⟨hshort, hname⟩, huri, hfits, decide_eq_true ⟨?_, hsmall⟩⟩
    have hrow : (artifact.row runId).sizeBytes = artifact.sizeBytes := rfl
    omega

theorem caseRow_fits {item : ReportedCaseResult} (hduration : 0 ≤ item.durationMs)
    (hcategory : ∀ category ∈ item.failureCategory, isText category = true)
    (hmessage : ∀ message ∈ item.errorMessage, isText message = true) :
    item.row.fits = true ↔ item.durationMs < 2 ^ 31 ∧
      ∀ category ∈ item.failureCategory, category.length ≤ 64 := by
  have hstatus : fitsString 32 item.status.value.text = true := by
    cases item.status <;> decide
  rw [CaseRow.fits, decide_eq_true_eq]
  constructor
  · rintro ⟨-, hsmall, hshort, -⟩
    rw [Option.all_eq_true] at hshort
    exact ⟨(of_decide_eq_true hsmall).2,
      fun category h => (of_decide_eq_true (hshort category h)).1⟩
  · rintro ⟨hsmall, hshort⟩
    refine ⟨hstatus, decide_eq_true ⟨?_, hsmall⟩, ?_, ?_⟩
    · have hrow : item.row.durationMs = item.durationMs := rfl
      omega
    · exact (Option.all_eq_true _ _).mpr fun category h =>
        decide_eq_true ⟨hshort category h, hcategory category h⟩
    · exact (Option.all_eq_true _ _).mpr hmessage

theorem mapM_artifactResponse {rows : List ArtifactRow} :
    (∃ responses, rows.mapM artifactResponse = .ok responses) ↔
      ∀ row ∈ rows, digestPattern isLowerHexDigit row.digest = true := by
  rw [exists_mapM_ok]
  refine forall₂_congr fun row _ => ?_
  simp only [artifactResponse, responseDigest, bind_eq_ok, ensure_eq_ok, pure_eq_ok]
  constructor
  · rintro ⟨response, digest, ⟨-, hlower, -⟩, -⟩
    exact hlower
  · intro hlower
    exact ⟨row, row.digest, ⟨(), hlower, rfl⟩, rfl⟩

/-- The run page can be built exactly when the digests are lowercase. -/
theorem exists_runDetailResponse (h : reported.validate = .ok result) :
    (∃ response, runDetailResponse (result.rows sha256) = .ok response) ↔
      ∀ artifact ∈ result.artifacts, digestPattern isLowerHexDigit artifact.digest = true := by
  have hrows : (∀ row ∈ (result.rows sha256).artifacts,
      digestPattern isLowerHexDigit row.digest = true) ↔
        ∀ artifact ∈ result.artifacts, digestPattern isLowerHexDigit artifact.digest = true :=
    List.forall_mem_map
  rw [← hrows, ← mapM_artifactResponse]
  simp only [runDetailResponse, responseDigest, bind_eq_ok, ensure_eq_ok, pure_eq_ok]
  constructor
  · rintro ⟨response, digest, -, stored, -, artifacts, hartifacts, -⟩
    exact ⟨artifacts, hartifacts⟩
  · rintro ⟨artifacts, hartifacts⟩
    exact ⟨_, _, ⟨(), sha256.formed result, rfl⟩, result, ReportedResult.validate_again h, artifacts,
      hartifacts, rfl⟩

/-- The texts of the document include those of the rows. -/
theorem ReportedResult.artifact_texts {artifact : ReportedArtifact}
    (hmem : artifact ∈ result.artifacts) (hall : ∀ text ∈ result.texts, isText text = true) :
    isText artifact.name = true ∧ isText artifact.uri = true := by
  have hin : ∀ text ∈ [artifact.name, artifact.uri, artifact.digest], text ∈ result.texts := by
    intro text htext
    refine List.mem_append_left _ (List.mem_append_right _ ?_)
    exact List.mem_flatMap.mpr ⟨artifact, hmem, htext⟩
  exact ⟨hall _ (hin _ (by simp)), hall _ (hin _ (by simp))⟩

theorem ReportedResult.case_texts {item : ReportedCaseResult} (hmem : item ∈ result.caseResults)
    (hall : ∀ text ∈ result.texts, isText text = true) :
    (∀ category ∈ item.failureCategory, isText category = true) ∧
      ∀ message ∈ item.errorMessage, isText message = true := by
  have hin : ∀ text ∈ item.failureCategory.toList ++ item.errorMessage.toList,
      text ∈ result.texts := by
    intro text htext
    refine List.mem_append_left _ (List.mem_append_left _ (List.mem_cons_of_mem _ ?_))
    exact List.mem_flatMap.mpr ⟨item, hmem, List.mem_cons_of_mem _ htext⟩
  refine ⟨fun category hcategory => hall _ (hin _ ?_), fun message hmessage => hall _ (hin _ ?_)⟩
  · exact List.mem_append_left _ (Option.mem_toList.mpr hcategory)
  · exact List.mem_append_right _ (Option.mem_toList.mpr hmessage)

/-- The row of the run and the event fit when the document has texts only. -/
theorem runRow_fits (hall : ∀ text ∈ result.texts, isText text = true) :
    (result.rows sha256).run.fits = true ∧ (result.rows sha256).event.fits = true := by
  obtain ⟨hlength, htext⟩ := digestPattern_text (sha256.formed result) (by decide)
  have hstatus : fitsString 32 result.status.value.text = true := by
    cases result.status <;> decide
  have hsource : fitsString 16 "SYSTEM" = true := by decide
  have htype : fitsString 64 "result_recorded" = true := by decide
  have hmessage : ∀ message ∈ result.firstFailure, isText message = true := by
    intro message hfirst
    obtain ⟨item, hfind, hsome⟩ := Option.bind_eq_some_iff.mp hfirst
    exact (ReportedResult.case_texts (List.mem_of_find?_eq_some hfind) hall).2 message hsome
  constructor
  · exact decide_eq_true ⟨hstatus, decide_eq_true ⟨hlength.le, htext⟩, List.all_eq_true.mpr hall,
      (Option.all_eq_true _ _).mpr hmessage⟩
  · refine decide_eq_true ⟨decide_eq_true ⟨?_, decide_eq_true fun hnul => ?_⟩, hsource, htype,
      hstatus⟩
    · have hdedupe : ("system:result:" ++ sha256.text result).length = 14 + 71 := by
        rw [String.length_append, hlength]
        rfl
      exact le_of_eq_of_le hdedupe (by norm_num)
    · have hnul' : '\x00' ∈ ("system:result:" ++ sha256.text result).toList := hnul
      rw [String.toList_append] at hnul'
      rcases List.mem_append.mp hnul' with hleft | hright
      · revert hleft
        decide
      · exact of_decide_eq_true htext hright

/-- A validated result is one of the contract, with the rows that are stored of it; all of them fit
    their columns and the run page can be built from them exactly when it is representable. -/
theorem reported_result_stored (h : reported.validate = .ok result) :
    (∃ runResult, result.runResult? = some runResult ∧ runResult.runId = result.runId ∧
      runResult.artifacts.map (Artifact.record runResult.runId) =
        (result.rows sha256).artifacts.map ArtifactRow.record) ∧
    ((result.rows sha256).fit = true ∧
      (∃ response, runDetailResponse (result.rows sha256) = .ok response) ↔
        result.Representable) := by
  refine ⟨ReportedResult.runResult_of_validate h, ?_⟩
  obtain ⟨hitems, hartifacts, -⟩ := ReportedResult.validate_ok h
  rw [exists_runDetailResponse h, ResultRows.fit, decide_eq_true_eq]
  constructor
  · rintro ⟨⟨hrun, hcases, hrows, -⟩, hlower⟩
    have htexts : ∀ text ∈ result.texts, isText text = true :=
      List.all_eq_true.mp (of_decide_eq_true hrun).2.2.1
    refine ⟨fun artifact hmem => ?_, fun item hmem => ?_, htexts⟩
    · obtain ⟨artifact', hartifact'⟩ := hartifacts artifact hmem
      obtain ⟨hdigest, hsize⟩ := ReportedArtifact.validate_ok hartifact'
      obtain ⟨hname, huri⟩ := ReportedResult.artifact_texts hmem htexts
      obtain ⟨hshort, hsmall⟩ := (artifactRow_fits hdigest hsize hname huri).mp
        (List.all_eq_true.mp hrows _ (List.mem_map_of_mem hmem))
      exact ⟨hshort, hsmall, hlower artifact hmem⟩
    · obtain ⟨item', hitem'⟩ := hitems item hmem
      obtain ⟨hcategory, hmessage⟩ := ReportedResult.case_texts hmem htexts
      exact (caseRow_fits (ReportedCaseResult.validate_ok hitem').1 hcategory hmessage).mp
        (List.all_eq_true.mp hcases _ (List.mem_map_of_mem hmem))
  · rintro ⟨hartifactsFit, hcasesFit, htexts⟩
    obtain ⟨hrun, hevent⟩ := runRow_fits htexts
    refine ⟨⟨hrun, List.all_eq_true.mpr ?_, List.all_eq_true.mpr ?_, hevent⟩,
      fun artifact hmem => (hartifactsFit artifact hmem).2.2⟩
    · rintro row hrow
      obtain ⟨item, hmem, rfl⟩ := List.mem_map.mp hrow
      obtain ⟨item', hitem'⟩ := hitems item hmem
      obtain ⟨hcategory, hmessage⟩ := ReportedResult.case_texts hmem htexts
      exact (caseRow_fits (ReportedCaseResult.validate_ok hitem').1 hcategory hmessage).mpr
        (hcasesFit item hmem)
    · rintro row hrow
      obtain ⟨artifact, hmem, rfl⟩ := List.mem_map.mp hrow
      obtain ⟨artifact', hartifact'⟩ := hartifacts artifact hmem
      obtain ⟨hdigest, hsize⟩ := ReportedArtifact.validate_ok hartifact'
      obtain ⟨hname, huri⟩ := ReportedResult.artifact_texts hmem htexts
      obtain ⟨hshort, hsmall, -⟩ := hartifactsFit artifact hmem
      exact (artifactRow_fits hdigest hsize hname huri).mpr ⟨hshort, hsmall⟩

/-! ### A digest in uppercase -/

namespace Installation

def reportedCase (case : CaseDefinition) : ReportedCaseResult :=
  ⟨case.caseId, case.caseCode, .passed, .aware 0, .aware 1, 1, none, none, []⟩

def digestOf (digit : Char) : String := "sha256:" ++ String.ofList (List.replicate 64 digit)

/-- Run 20 passes and reports its log. -/
def reportedLog (digit : Char) : ReportedResult where
  runId := 20
  status := .passed
  startedAt := .aware 0
  finishedAt := .aware 1
  runnerVersion := "1"
  caseResults := [reportedCase caseA, reportedCase caseB]
  artifacts := [⟨30, .log, "run.log", "runs/20/run.log", digestOf digit, 10⟩]
  executionIsolation := none

def resultDigest : ResultDigest := ⟨fun _ => digestOf 'a', fun _ => by decide⟩

/-- Run 20 is running. -/
def startRun : List Action :=
  [queueRun, dispatchBatch, .updateRunStatus 0 20 .preparing (some "worker"),
    .updateRunStatus 0 20 .running none]

end Installation

open Installation in
/-- A result with a digest in lowercase is stored and shown. -/
theorem reported_result_stored_lowercase :
    ((reportedLog 'a').rows resultDigest).fit = true ∧
      ∃ response, runDetailResponse ((reportedLog 'a').rows resultDigest) = .ok response := by
  have hvalid : (reportedLog 'a').validate = .ok (reportedLog 'a') := by decide
  refine (reported_result_stored hvalid).2.mpr ⟨?_, ?_, ?_⟩ <;> decide

open Installation in
/-- A result with a digest in uppercase is accepted for a running run, and its page cannot be
    built. -/
theorem reported_result_hidden : ∃ s, (controlPlane primitives).Reachable s ∧
    (reportedLog 'A').validate = .ok (reportedLog 'A') ∧
    (∃ runResult ∈ (reportedLog 'A').runResult?,
      (recordRunResult primitives 1 20 runResult s.db).toOption.isSome = true) ∧
    ¬∃ response, runDetailResponse ((reportedLog 'A').rows resultDigest) = .ok response := by
  have hvalid : (reportedLog 'A').validate = .ok (reportedLog 'A') := by decide
  have hrun : Leads startRun fun s => ∃ runResult ∈ (reportedLog 'A').runResult?,
      (recordRunResult primitives 1 20 runResult s.db).toOption.isSome = true := by
    decide +kernel
  obtain ⟨s, hs, haccepted⟩ := hrun.exists_reachable
  refine ⟨s, hs, hvalid, haccepted, fun hresponse => ?_⟩
  have hlower := (exists_runDetailResponse hvalid).mp hresponse _ List.mem_cons_self
  revert hlower
  decide

end TestOps

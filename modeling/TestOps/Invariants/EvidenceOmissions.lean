import TestOps.Invariants.EvidencePacks
import TestOps.Invariants.EventLog

/-! What the evidence about a failed run leaves out. Rows are cut where they are read, where they are
    selected, and where the document is too large:

      events      first 500 ──▸ last 30 ──▸ oldest dropped first
      cases       abnormal, first 40 ─────▸ last dropped first
                  none abnormal: last 10 not passed
      artifacts   first 20 ───────────────▸ last dropped first

    The last two cuts set the flag, but for the ten cases; the first one keeps the wrong end of a long
    log. -/

namespace TestOps.Evidence

open Checked Shrinking NumberedLog

variable {source : Source} {db : Database} {identity : IdentityDatabase}
variable {request : AnalysisRequest} {maxChars : Int} {rows : RunRows} {run : TestRunRecord}
variable {runId : UUID}

/-! ### What a pack should hold -/

/-- A row of the run that the claim of completeness is about is not in the document. -/
def Omits (db : Database) (runId : UUID) (document : RunDocument) : Prop :=
  (∃ event ∈ runLog db.runEvents runId, event ∉ document.recentEvents.map (·.row)) ∨
  (∃ artifact ∈ db.artifacts.rows, artifact.runId = runId ∧
    artifact ∉ document.artifactMetadata.map (·.row)) ∨
  (∃ item ∈ db.runCases.rows, item.runId = runId ∧ isAbnormal item = true ∧
    item ∉ document.abnormalCases.map (·.row)) ∨
  ((∀ item ∈ db.runCases.rows, item.runId = runId → isAbnormal item = false) ∧
    ∃ item ∈ db.runCases.rows, item.runId = runId ∧ item.status ≠ .passed ∧
      item ∉ document.abnormalCases.map (·.row))

/-- The newest events of the run are in the document, and whatever is missing is flagged. -/
structure Faithful (source : Source) (db : Database) (runId : UUID) (rows : RunRows)
    (maxChars : Int) (document : RunDocument) : Prop where
  newest : document.recentEvents.map (·.row) <:+ runLog db.runEvents runId
  /-- Without events there are none, or the text was too large. -/
  emptied : document.recentEvents = [] →
    runLog db.runEvents runId = [] ∨ runFits source maxChars (rows.select source) = false
  flagged : Omits db runId document → document.evidenceTruncated = true

/-! ### When it does -/

/-- The document with only the last of its events. -/
def RunDocument.keepEvents (document : RunDocument) (kept : Nat) : RunDocument :=
  { document with recentEvents := document.recentEvents.rtake kept }

/-- The cases that are neither passed nor left out of account. -/
def RunRows.unfinished (rows : RunRows) : List RunCaseRecord :=
  rows.cases.filter fun item => item.status ≠ .passed

/-- Something is cut or changed that the flag is set for, the abnormal cases apart. -/
def RunRows.Cut (source : Source) (rows : RunRows) : Prop :=
  (safeText source.classes rows.run.errorMessage 1500).2 = true ∨
  (∃ item ∈ rows.unfinished.rtake 10,
    (safeText source.classes item.errorMessage 800).2 = true) ∨
  30 < rows.events.length ∨
  (∃ event ∈ rows.events,
    (safeMapping source.classes (source.eventPayload event) eventPayloadFields 500).2 = true) ∨
  20 < rows.artifacts.length ∨
  (∃ artifact ∈ rows.artifacts,
    (safeText source.classes (some artifact.name) 255).2 = true) ∨
  (safeMapping source.classes
    (memberOrNull (membersOf (source.resultDocument rows.run)) "execution_isolation")
    isolationFields 300).2 = true

/-- All events are read, or none of those read fits; and without abnormal cases, no more than ten
    others are left, or the flag is set for another reason. -/
structure Unshortened (source : Source) (db : Database) (runId : UUID) (rows : RunRows)
    (maxChars : Int) : Prop where
  events : (runLog db.runEvents runId).length ≤ 500 ∨
    ∀ kept, 0 < kept →
      runFits source maxChars (true, (rows.select source).2.keepEvents kept) = false
  cases : (∃ item ∈ rows.cases, isAbnormal item = true) ∨ rows.unfinished.length ≤ 10 ∨
    rows.Cut source ∨ runFits source maxChars (rows.select source) = false

/-! ### The loop -/

theorem rtake_suffix {α : Type} (xs : List α) (k : Nat) : xs.rtake k <:+ xs :=
  List.drop_suffix _ _

theorem rtake_of_length_le {α : Type} {xs : List α} {k : Nat} (h : xs.length ≤ k) :
    xs.rtake k = xs := by
  rw [List.rtake, Nat.sub_eq_zero_of_le h, List.drop_zero]

theorem length_rtake {α : Type} (xs : List α) (k : Nat) :
    (xs.rtake k).length = min k xs.length := by
  rw [List.rtake, List.length_drop]
  omega

theorem rtake_tail {α : Type} {xs : List α} {k : Nat} (h : k < xs.length) :
    xs.tail.rtake k = xs.rtake k := by
  rw [List.rtake, List.rtake, List.drop_tail, List.length_tail]
  congr 1
  omega

/-- Events are dropped from the front only. -/
theorem RunTurn.suffix {document document' : RunDocument} (h : RunTurn document document') :
    document'.recentEvents <:+ document.recentEvents := by
  cases h with
  | event _ => exact List.tail_suffix _
  | artifact _ _ => exact List.suffix_rfl
  | case _ _ _ => exact List.suffix_rfl

/-- What the loop has made of a document: itself, or less of it, and flagged. -/
structure Reduced (shrunk shrunk' : Shrunk RunDocument) : Prop where
  events : shrunk'.2.recentEvents <:+ shrunk.2.recentEvents
  flag : shrunk'.2.evidenceTruncated = shrunk'.1
  touched : shrunk'.1 = true ∨ shrunk' = shrunk

theorem Reduced.step {shrunk shrunk' shrunk'' : Shrunk RunDocument} (h : Reduced shrunk shrunk')
    (hstep : runShrinker.step shrunk' = some shrunk'') : Reduced shrunk shrunk'' := by
  obtain ⟨hflag, hturn⟩ := dropFromRun_turn hstep
  exact ⟨hturn.suffix.trans h.events, by rw [hflag, hturn.flagged], .inl hflag⟩

theorem shrink_reduced {fits : Shrunk RunDocument → Bool} {shrunk shrunk' : Shrunk RunDocument}
    (hflag : shrunk.2.evidenceTruncated = shrunk.1)
    (h : runShrinker.shrink fits shrunk = some shrunk') : Reduced shrunk shrunk' :=
  have hstart : Reduced shrunk shrunk := ⟨List.suffix_rfl, hflag, .inr rfl⟩
  (Shrinker.shrink_spec (fun _ _ hreduced hstep => hreduced.step hstep) hstart h).2

/-- While there are events, the loop drops one of them. -/
theorem dropFromRun_event {document : RunDocument} (htruncated : document.evidenceTruncated = true)
    (hevents : document.recentEvents ≠ []) :
    runShrinker.step (true, document) =
      some (true, { document with recentEvents := document.recentEvents.tail }) := by
  show dropFromRun _ = _
  rw [dropFromRun, if_pos hevents, htruncated]

/-- The loop ends without events exactly if no text with any of them fits. -/
theorem shrink_emptied (fits : Shrunk RunDocument → Bool) {document : RunDocument}
    (htruncated : document.evidenceTruncated = true) (hevents : document.recentEvents ≠ []) :
    (∀ shrunk, runShrinker.shrink fits (true, document) = some shrunk →
      shrunk.2.recentEvents = []) ↔
      ∀ kept, 0 < kept → fits (true, document.keepEvents kept) = false := by
  induction hlength : document.recentEvents.length generalizing document with
  | zero => exact absurd (List.eq_nil_of_length_eq_zero hlength) hevents
  | succ n ih =>
    have hall : ∀ kept, n < kept → document.keepEvents kept = document := by
      intro kept hkept
      rw [RunDocument.keepEvents, rtake_of_length_le (by omega)]
    cases hfit : fits (true, document) with
    | true =>
      constructor
      · intro hemptied
        exact absurd (hemptied _ (Shrinker.shrink_of_fits hfit)) hevents
      · intro hlarge
        have hfalse := hlarge (n + 1) n.succ_pos
        rw [hall _ n.lt_succ_self, hfit] at hfalse
        cases hfalse
    | false =>
      rw [Shrinker.shrink_of_step hfit (dropFromRun_event htruncated hevents)]
      have hfewer : ∀ kept, kept ≤ n →
          { document with recentEvents := document.recentEvents.tail }.keepEvents kept =
            document.keepEvents kept := by
        intro kept hkept
        rw [RunDocument.keepEvents, RunDocument.keepEvents, rtake_tail (by omega)]
      by_cases hlast : document.recentEvents.tail = []
      · have hn : n = 0 := by
          have := congrArg List.length hlast
          rw [List.length_tail, hlength] at this
          simpa using this
        constructor
        · intro _ kept hkept
          rw [hall kept (by omega), hfit]
        · intro _ shrunk hshrink
          have hsuffix := (shrink_reduced htruncated hshrink).events
          rw [hlast] at hsuffix
          exact List.suffix_nil.mp hsuffix
      · have htail : document.recentEvents.tail.length = n := by
          rw [List.length_tail, hlength, Nat.add_sub_cancel]
        have hrest := @ih { document with recentEvents := document.recentEvents.tail }
          htruncated hlast htail
        rw [hrest]
        constructor
        · intro hlarge kept hkept
          rcases Nat.lt_or_ge n kept with hmany | hfew
          · rw [hall kept hmany, hfit]
          · rw [← hfewer kept hfew]
            exact hlarge kept hkept
        · intro hlarge kept hkept
          rcases Nat.lt_or_ge n kept with hmany | hfew
          · have hsame : { document with recentEvents := document.recentEvents.tail }.keepEvents
                kept = document.keepEvents n := by
              rw [← hfewer n le_rfl, RunDocument.keepEvents, RunDocument.keepEvents,
                rtake_of_length_le (htail.trans_le hmany.le), rtake_of_length_le htail.le]
            rw [hsame]
            refine hlarge n ?_
            have hpositive := List.length_pos_iff.mpr hlast
            omega
          · rw [hfewer kept hfew]
            exact hlarge kept hkept

/-! ### What is selected -/

theorem selected_events (source : Source) (rows : RunRows) :
    (rows.select source).2.recentEvents.map (·.row) = rows.events.rtake 30 := by
  rw [RunRows.select, selectEvidence]
  simp only [List.map_map]
  exact List.map_id _

theorem selected_artifacts (source : Source) (rows : RunRows) :
    (rows.select source).2.artifactMetadata.map (·.row) = rows.artifacts.take 20 := by
  rw [RunRows.select, selectEvidence]
  simp only [List.map_map]
  exact List.map_id _

theorem selected_cases (source : Source) (rows : RunRows) :
    (rows.select source).2.abnormalCases.map (·.row) = (caseCandidates rows.cases).take 40 := by
  rw [RunRows.select, selectEvidence]
  simp only [List.map_map]
  exact List.map_id _

/-- Where the flag is not set, everything that was read is there. -/
theorem whole_of_unflagged (h : (rows.select source).1 = false) :
    (caseCandidates rows.cases).length ≤ 40 ∧ rows.events.length ≤ 30 ∧
      rows.artifacts.length ≤ 20 := by
  rw [RunRows.select, selectEvidence] at h
  simp only [Bool.or_eq_false_iff, decide_eq_false_iff_not, length_rtake, List.length_take] at h
  obtain ⟨⟨⟨⟨⟨⟨⟨_, hcases⟩, _⟩, hevents⟩, _⟩, hartifacts⟩, _⟩, _⟩ := h
  omega

/-- Without abnormal cases, the last ten of the others are taken. -/
theorem caseCandidates_eq (h : ∀ item ∈ rows.cases, isAbnormal item = false) :
    caseCandidates rows.cases = rows.unfinished.rtake 10 := by
  have hnone : rows.cases.filter isAbnormal = [] := by
    rw [List.filter_eq_nil_iff]
    intro item hmem
    rw [h item hmem]
    exact Bool.false_ne_true
  rw [caseCandidates, if_neg (not_not.mpr hnone), RunRows.unfinished]

/-- What is cut or changed among the last rows, or before them. -/
theorem any_rtake {α : Type} {p : α → Bool} {xs : List α} {k : Nat} :
    (k < xs.length ∨ ∃ x ∈ xs.rtake k, p x = true) ↔ k < xs.length ∨ ∃ x ∈ xs, p x = true := by
  rcases Nat.lt_or_ge k xs.length with hlong | hshort
  · simp only [hlong, true_or]
  · rw [rtake_of_length_le hshort]

theorem any_take {α : Type} {p : α → Bool} {xs : List α} {k : Nat} :
    (k < xs.length ∨ ∃ x ∈ xs.take k, p x = true) ↔ k < xs.length ∨ ∃ x ∈ xs, p x = true := by
  rcases Nat.lt_or_ge k xs.length with hlong | hshort
  · simp only [hlong, true_or]
  · rw [List.take_of_length_le hshort]

theorem caseEvidence_changed {u : CharClasses} (item : RunCaseRecord) :
    (caseEvidence u item).2 = (safeText u item.errorMessage 800).2 := rfl

theorem eventEvidence_changed (event : RunEventRecord) : (eventEvidence source event).2 =
    (safeMapping source.classes (source.eventPayload event) eventPayloadFields 500).2 := rfl

theorem artifactEvidence_changed {u : CharClasses} (artifact : ArtifactRecord) :
    (artifactEvidence u artifact).2 = (safeText u (some artifact.name) 255).2 := rfl

/-- Without abnormal cases, the flag says what is cut or changed. -/
theorem flag_iff_cut (h : ∀ item ∈ rows.cases, isAbnormal item = false) :
    (rows.select source).1 = true ↔ rows.Cut source := by
  have hcandidates := caseCandidates_eq h
  have hfew : (rows.unfinished.rtake 10).length ≤ 10 := by
    rw [length_rtake]
    omega
  have hcases : (rows.unfinished.rtake 10).take 40 = rows.unfinished.rtake 10 :=
    List.take_of_length_le (by omega)
  have hevents := @any_rtake _ (fun event => (safeMapping source.classes
    (source.eventPayload event) eventPayloadFields 500).2) rows.events 30
  have hartifacts := @any_take _ (fun artifact : ArtifactRecord =>
    (safeText source.classes (some artifact.name) 255).2) rows.artifacts 20
  have hlong : ¬40 < (rows.unfinished.rtake 10).length := by omega
  have hread : (rows.events.rtake 30).length < rows.events.length ↔ 30 < rows.events.length := by
    rw [length_rtake]
    omega
  have htaken : (rows.artifacts.take 20).length < rows.artifacts.length ↔
      20 < rows.artifacts.length := by
    rw [List.length_take]
    omega
  rw [RunRows.select, selectEvidence, RunRows.Cut]
  simp only [hcandidates, hcases, Bool.or_eq_true, decide_eq_true_eq, List.any_map,
    List.any_eq_true, Function.comp_apply, caseEvidence_changed, eventEvidence_changed,
    artifactEvidence_changed, hlong, hread, htaken, or_false, or_assoc]
  refine or_congr_right (or_congr_right ?_)
  rw [← or_assoc, hevents, or_assoc]
  refine or_congr_right (or_congr_right ?_)
  rw [← or_assoc, hartifacts, or_assoc]

/-! ### Rows of the run -/

theorem mem_listRunCases {item : RunCaseRecord} :
    item ∈ listRunCases db runId ↔ item ∈ db.runCases.rows ∧ item.runId = runId := by
  rw [listRunCases, List.mem_insertionSort, List.mem_filter, decide_eq_true_eq]

theorem mem_listRunArtifacts {artifact : ArtifactRecord} :
    artifact ∈ listRunArtifacts source db runId ↔
      artifact ∈ db.artifacts.rows ∧ artifact.runId = runId := by
  rw [listRunArtifacts, List.mem_insertionSort, List.mem_filter, decide_eq_true_eq]

theorem listRunCases_nodup : (listRunCases db runId).Nodup := by
  have hrows : db.runCases.rows.Nodup := db.runCases.keysNodup.of_map
  exact (List.perm_insertionSort _ _).nodup_iff.mpr (hrows.filter _)

theorem read_events (hnumbered : EventsNumbered db.runEvents) :
    (readRunRows source db runId run).events = (runLog db.runEvents runId).take 500 := by
  rw [readRunRows, listRunEvents_eq, (hnumbered runId).readAfter, List.drop_zero]

/-- The end of the first records of a log, unless they are all, is not the end of the log. -/
theorem last_of_suffix {α : Type} {number : α → Nat} {log xs : List α} {n : Nat}
    (hnumbered : Numbered number log) (hxs : xs ≠ []) (htake : xs <:+ log.take n)
    (hlog : xs <:+ log) : log.length ≤ n := by
  have hsame : (log.take n).getLast (hxs ∘ fun h => List.suffix_nil.mp (h ▸ htake)) =
      log.getLast (hxs ∘ fun h => List.suffix_nil.mp (h ▸ hlog)) :=
    (htake.getLast hxs).symm.trans (hlog.getLast hxs)
  have hnumber := congrArg number hsame
  rw [List.getLast_eq_getElem, List.getLast_eq_getElem, (hnumbered.take n).number_getElem,
    hnumbered.number_getElem, List.length_take] at hnumber
  have hpositive := (List.length_pos_iff.mpr hxs).trans_le hlog.length_le
  have hpositive' := (List.length_pos_iff.mpr hxs).trans_le htake.length_le
  rw [List.length_take] at hpositive'
  omega

/-! ### Omissions -/

/-- The pack is built for this run: it is found, the principal may read it, its failure is one that is
    analysed, and there is a model to ask. -/
structure Analysed (db : Database) (identity : IdentityDatabase) (request : AnalysisRequest)
    (run : TestRunRecord) : Prop where
  found : getRun db request.runId = .ok run
  authorized : authorizeProject request.principal run.projectId "run:read" identity = .ok ()
  status : run.status ∈ analysedStatuses
  gateway : request.gateway = .ok ()

/-- Of a run that is analysed, the packs are what the loop makes of its rows. -/
theorem runFailureEvidence_eq_ok {pack : AiEvidencePack RunDocument}
    (h : Analysed db identity request run) :
    runFailureEvidence source db identity request maxChars = .ok pack ↔
      ∃ shrunk, runShrinker.shrink (runFits source maxChars)
          ((readRunRows source db request.runId run).select source) = some shrunk ∧
        pack = ⟨shrunk.2, shrunk.2.serialize source, shrunk.2.refs,
          shrunk.2.abnormalCases.length, shrunk.1⟩ := by
  have hread : runFailureEvidence source db identity request maxChars =
      (buildRunEvidence source run (readRunRows source db request.runId run).cases
        (readRunRows source db request.runId run).events
        (readRunRows source db request.runId run).artifacts maxChars).mapError .ofEvidence := by
    rw [runFailureEvidence, h.found]
    simp only [Except.mapError, ok_bind, h.authorized, h.gateway, ensure_true h.status]
    rfl
  rw [hread, mapError_eq_ok, buildRunEvidence, bind_eq_ok]
  simp only [found_eq_ok, pure_eq_ok, Prod.exists]
  constructor
  · rintro ⟨truncated, document, hshrink, rfl⟩
    exact ⟨truncated, document, hshrink, rfl⟩
  · rintro ⟨truncated, document, hshrink, rfl⟩
    exact ⟨truncated, document, hshrink, rfl⟩

/-- What a document leaves out of what was selected, if it is what was selected, unflagged. -/
theorem not_omits_of_unflagged (hnumbered : EventsNumbered db.runEvents)
    (hrows : rows = readRunRows source db runId run) (hflag : (rows.select source).1 = false)
    (hcases : (∃ item ∈ rows.cases, isAbnormal item = true) ∨ rows.unfinished.length ≤ 10) :
    ¬Omits db runId (rows.select source).2 := by
  obtain ⟨hfew, hevents, hartifacts⟩ := whole_of_unflagged hflag
  have hread : rows.events = (runLog db.runEvents runId).take 500 := by
    rw [hrows, read_events hnumbered]
  have hcandidates : (caseCandidates rows.cases).take 40 = caseCandidates rows.cases :=
    List.take_of_length_le hfew
  rw [Omits, selected_events, selected_artifacts, selected_cases, hcandidates,
    rtake_of_length_le hevents, List.take_of_length_le hartifacts]
  rintro (⟨event, hmem, hmissing⟩ | ⟨artifact, hmem, hrun, hmissing⟩ |
    ⟨item, hmem, hrun, habnormal, hmissing⟩ | ⟨hnone, item, hmem, hrun, hstatus, hmissing⟩)
  · rw [hread, List.length_take] at hevents
    rw [hread, List.take_of_length_le (by omega)] at hmissing
    exact hmissing hmem
  · subst hrows
    exact hmissing (mem_listRunArtifacts.mpr ⟨hmem, hrun⟩)
  · subst hrows
    have hlisted : item ∈ (readRunRows source db runId run).cases.filter isAbnormal :=
      List.mem_filter.mpr ⟨mem_listRunCases.mpr ⟨hmem, hrun⟩, habnormal⟩
    rw [caseCandidates, if_pos (List.ne_nil_of_mem hlisted)] at hmissing
    exact hmissing hlisted
  · subst hrows
    have hregular : ∀ item ∈ (readRunRows source db runId run).cases, isAbnormal item = false :=
      fun item hitem => hnone item (mem_listRunCases.mp hitem).1 (mem_listRunCases.mp hitem).2
    rcases hcases with ⟨other, hother, habnormal⟩ | hshort
    · rw [hregular other hother] at habnormal
      cases habnormal
    · rw [caseCandidates_eq hregular, rtake_of_length_le hshort] at hmissing
      refine hmissing (List.mem_filter.mpr ⟨mem_listRunCases.mpr ⟨hmem, hrun⟩, ?_⟩)
      rw [decide_eq_true_eq]
      exact hstatus

/-- Without abnormal cases, more than ten others and an unset flag leave one of them out. -/
theorem omits_of_many (hrows : rows = readRunRows source db runId run)
    (hregular : ∀ item ∈ rows.cases, isAbnormal item = false)
    (hmany : 10 < rows.unfinished.length) : Omits db runId (rows.select source).2 := by
  have htaken : (caseCandidates rows.cases).take 40 = rows.unfinished.rtake 10 := by
    rw [caseCandidates_eq hregular]
    refine List.take_of_length_le ?_
    rw [length_rtake]
    omega
  have hnodup : rows.unfinished.Nodup := by
    subst hrows
    exact listRunCases_nodup.filter _
  have hmissing : ∃ item ∈ rows.unfinished, item ∉ rows.unfinished.rtake 10 := by
    by_contra hall
    push Not at hall
    have hlength := (hnodup.subperm hall).length_le
    rw [length_rtake] at hlength
    omega
  obtain ⟨item, hitem, hmissing⟩ := hmissing
  obtain ⟨hlisted, hstatus⟩ := List.mem_filter.mp hitem
  subst hrows
  obtain ⟨hmem, hrun⟩ := mem_listRunCases.mp hlisted
  refine .inr (.inr (.inr ⟨fun other hother hsame =>
    hregular other (mem_listRunCases.mpr ⟨hother, hsame⟩), item, hmem, hrun, ?_, ?_⟩))
  · rwa [decide_eq_true_eq] at hstatus
  · rwa [selected_cases, htaken]

/-- With more events than are read, the flag is set from the beginning. -/
theorem flagged_of_unread (source : Source) (hread : rows.events = (runLog db.runEvents runId).take 500)
    (hlong : 500 < (runLog db.runEvents runId).length) :
    (rows.select source).1 = true ∧ (rows.select source).2.recentEvents ≠ [] := by
  have hlength : rows.events.length = 500 := by
    rw [hread, List.length_take]
    omega
  constructor
  · rw [← Bool.not_eq_false]
    intro hflag
    have hfew := (whole_of_unflagged hflag).2.1
    omega
  · intro hnil
    have hrows := selected_events source rows
    rw [hnil] at hrows
    have hrtake := congrArg List.length hrows
    rw [length_rtake, hlength] at hrtake
    cases hrtake

theorem faithful_iff (hnumbered : EventsNumbered db.runEvents)
    (hrows : rows = readRunRows source db runId run) :
    (∀ shrunk, runShrinker.shrink (runFits source maxChars) (rows.select source) = some shrunk →
      Faithful source db runId rows maxChars shrunk.2) ↔
      Unshortened source db runId rows maxChars := by
  have hread : rows.events = (runLog db.runEvents runId).take 500 := by
    rw [hrows, read_events hnumbered]
  have hstart : (rows.select source).2.evidenceTruncated = (rows.select source).1 := rfl
  constructor
  · intro hfaithful
    constructor
    · by_contra hunread
      push Not at hunread
      obtain ⟨hlong, kept, hkept, hfits⟩ := hunread
      obtain ⟨hflag, hsome⟩ := flagged_of_unread source hread hlong
      rw [hflag] at hstart
      have hemptied := (shrink_emptied (runFits source maxChars) hstart hsome).not.mpr
        fun hlarge => hfits (hlarge kept hkept)
      push Not at hemptied
      obtain ⟨shrunk, hshrink, hevents⟩ := hemptied
      have hpair : (true, (rows.select source).2) = rows.select source := by rw [← hflag]
      rw [hpair] at hshrink
      have hsuffix := (shrink_reduced (by rw [hstart, hflag]) hshrink).events.map EventEvidence.row
      rw [selected_events, hread] at hsuffix
      have hshort := last_of_suffix (hnumbered runId) (by simpa using hevents)
        (hsuffix.trans (rtake_suffix _ _)) (hfaithful shrunk hshrink).newest
      omega
    · by_contra hcases
      push Not at hcases
      obtain ⟨hregular, hmany, hcut, hfits⟩ := hcases
      have hregular : ∀ item ∈ rows.cases, isAbnormal item = false :=
        fun item hitem => Bool.eq_false_iff.mpr (hregular item hitem)
      have hselected := hfaithful _ (Shrinker.shrink_of_fits (Bool.eq_true_of_not_eq_false hfits))
      have hflag := hselected.flagged (omits_of_many hrows hregular hmany)
      exact hcut ((flag_iff_cut hregular).mp hflag)
  · intro hwhole shrunk hshrink
    have hreduced := shrink_reduced hstart hshrink
    refine ⟨?_, ?_, ?_⟩
    · rcases Nat.lt_or_ge 500 (runLog db.runEvents runId).length with hlong | hshort
      · have hlarge := hwhole.events.resolve_left (Nat.not_le_of_lt hlong)
        obtain ⟨hflag, hsome⟩ := flagged_of_unread source hread hlong
        have hpair : rows.select source = (true, (rows.select source).2) := by rw [← hflag]
        rw [hpair] at hshrink
        rw [(shrink_emptied _ (by rw [hstart, hflag]) hsome).mpr hlarge shrunk hshrink]
        exact List.nil_suffix
      · have hsuffix := hreduced.events.map EventEvidence.row
        rw [selected_events, hread, List.take_of_length_le hshort] at hsuffix
        exact hsuffix.trans (rtake_suffix _ _)
    · intro hnil
      cases hfits : runFits source maxChars (rows.select source) with
      | false => exact .inr rfl
      | true =>
        left
        rw [Shrinker.eq_of_shrink_of_fits hfits hshrink] at hnil
        have hevents := selected_events source rows
        rw [hnil, hread] at hevents
        have hlength := congrArg List.length hevents
        rw [length_rtake, List.length_take, List.map_nil, List.length_nil] at hlength
        exact List.eq_nil_of_length_eq_zero (by omega)
    · intro homits
      rw [hreduced.flag]
      rcases hreduced.touched with hflag | rfl
      · exact hflag
      · rw [← Bool.not_eq_false]
        intro hflag
        refine not_omits_of_unflagged hnumbered hrows hflag ?_ homits
        by_cases habnormal : ∃ item ∈ rows.cases, isAbnormal item = true
        · exact .inl habnormal
        · have hregular : ∀ item ∈ rows.cases, isAbnormal item = false := by
            intro item hitem
            rw [Bool.eq_false_iff]
            exact fun h => habnormal ⟨item, hitem, h⟩
          have hfits := Shrinker.fits_of_shrink hshrink
          rcases hwhole.cases with h | hfew | hcut | hlarge
          · exact .inl h
          · exact .inr hfew
          · rw [(flag_iff_cut hregular).mpr hcut] at hflag
            cases hflag
          · rw [hlarge] at hfits
            cases hfits

/-- The newest events are kept and every omission is flagged, exactly if no events stay unread while
    others are shown, and no more than ten cases are left where none is abnormal. -/
theorem evidence_faithful_iff (hnumbered : EventsNumbered db.runEvents)
    (hanalysed : Analysed db identity request run) :
    (∀ pack, runFailureEvidence source db identity request maxChars = .ok pack →
      Faithful source db request.runId (readRunRows source db request.runId run) maxChars
        pack.document) ↔
      Unshortened source db request.runId (readRunRows source db request.runId run) maxChars := by
  rw [← faithful_iff hnumbered rfl]
  constructor
  · intro h shrunk hshrink
    exact h _ ((runFailureEvidence_eq_ok hanalysed).mpr ⟨shrunk, hshrink, rfl⟩)
  · intro h pack hpack
    obtain ⟨shrunk, hshrink, rfl⟩ := (runFailureEvidence_eq_ok hanalysed).mp hpack
    exact h shrunk hshrink

open Installation

namespace EvidenceExample

/-- Texts of ASCII characters, and rows without further documents. -/
def plainSource : Source where
  classes := ⟨fun c => c.isAlphanum ∨ c = '_', Char.isDigit⟩
  isoformat _ := "2026-01-01T00:00:00+00:00"
  casefold text := text
  snapshot _ := .null
  resultDocument _ := .null
  eventPayload _ := .null
  artifactCreatedAt _ := 0

def suiteCode (i : Nat) : String := s!"TC-{i}"

def suiteCase (i : Nat) : CaseDefinition :=
  if formed : caseCodePattern (suiteCode i) = true then
    { caseA with caseId := i, caseCode := suiteCode i, caseCodeFormed := formed }
  else caseA

/-- A suite of so many cases, to be run as run 20. -/
def suite (count : Nat) : RunPlan where
  snapshot := ⟨20, 1, 2, .web, 3, ⟨10, "v1", 0, count⟩,
    ⟨"shop-web", "1", 4, .webPlaywright, "registry/shop-web", none⟩,
    (List.range count).map suiteCase, some "chromium", some webConfig, 0, [], [], 100, 0⟩
  projectId := 1
  targetId := 2
  environmentId := 3
  baselineId := 10
  automationPackageId := 4
  idempotencyKey := "nightly"
  requestHash := 0
  actorId := 100
  runnerPoolId := none
  timeoutSeconds := 3600
  sourceRunId := none
  retryMode := none
  regressionScheduleId := none
  scheduledFor := none

/-- The run of such a suite has ended, and so have its cases. -/
def endedRun (count : Nat) (status : RunStatus) : TestRunRecord :=
  { (suite count).run primitives with status := status, finishedAt := some 60 }

def endedCases (count : Nat) (status : StatusValue) : List RunCaseRecord :=
  (List.range count).map fun i : Nat => ⟨20, i, suiteCode i, i + 1, status, none, none, none⟩

theorem endedCases_nodup (count : Nat) (status : StatusValue) :
    ((endedCases count status).map fun case => (case.runId, case.caseId)).Nodup := by
  rw [endedCases, List.map_map]
  refine List.nodup_range.map ?_
  intro i j h
  exact congrArg Prod.snd h

def ended (count : Nat) (status : RunStatus) (caseStatus : StatusValue) : Database :=
  { Database.empty with
    runs := ⟨[endedRun count status], List.nodup_singleton _⟩
    runCases := ⟨endedCases count caseStatus, endedCases_nodup count caseStatus⟩ }

def askedByAdmin : AnalysisRequest where
  runId := 20
  principal := ⟨100, 1, "admin", "Admin", .systemAdmin⟩
  gateway := .ok ()

theorem ended_numbered (count : Nat) (status : RunStatus) (caseStatus : StatusValue) :
    EventsNumbered (ended count status caseStatus).runEvents := fun _ => Numbered.nil

theorem ended_analysed {count : Nat} {status : RunStatus} {caseStatus : StatusValue}
    (h : status ∈ analysedStatuses) :
    Analysed (ended count status caseStatus) .empty askedByAdmin (endedRun count status) :=
  ⟨rfl, rfl, h, rfl⟩

end EvidenceExample

open EvidenceExample

/-- What is read of a failed run with one failed case. -/
def failedRows : RunRows :=
  readRunRows plainSource (ended 1 .failed .failed) 20 (endedRun 1 .failed)

theorem failed_faithful :
    ∃ pack, runFailureEvidence plainSource (ended 1 .failed .failed) .empty askedByAdmin 24000 =
      .ok pack ∧ Faithful plainSource (ended 1 .failed .failed) 20 failedRows 24000 pack.document := by
  have hfits : runFits plainSource 24000 (failedRows.select plainSource) = true := by
    decide +kernel
  have hanalysed := @ended_analysed 1 .failed .failed (by decide)
  have hpack := (runFailureEvidence_eq_ok hanalysed).mpr ⟨_, Shrinker.shrink_of_fits hfits, rfl⟩
  refine ⟨_, hpack, (evidence_faithful_iff (ended_numbered 1 .failed .failed) hanalysed).mpr ?_ _ hpack⟩
  exact ⟨.inl (Nat.zero_le _), .inr (.inl (by decide))⟩

/-- What is read of a run of eleven cases that was canceled before its first one. -/
def canceledRows : RunRows :=
  readRunRows plainSource (ended 11 .canceled .skipped) 20 (endedRun 11 .canceled)

/-- Its first case is left out, and no flag says so. -/
theorem canceled_unfaithful :
    ∃ pack, runFailureEvidence plainSource (ended 11 .canceled .skipped) .empty askedByAdmin 24000 =
      .ok pack ∧
        ¬Faithful plainSource (ended 11 .canceled .skipped) 20 canceledRows 24000 pack.document := by
  have hfits : runFits plainSource 24000 (canceledRows.select plainSource) = true := by
    decide +kernel
  have hflag : (canceledRows.select plainSource).2.evidenceTruncated = false := by decide +kernel
  have hregular : ∀ item ∈ canceledRows.cases, isAbnormal item = false := by decide
  have hmany : 10 < canceledRows.unfinished.length := by decide
  refine ⟨_, (runFailureEvidence_eq_ok (ended_analysed (by decide))).mpr
    ⟨_, Shrinker.shrink_of_fits hfits, rfl⟩, fun hfaithful => ?_⟩
  have hflagged : (canceledRows.select plainSource).2.evidenceTruncated = true :=
    hfaithful.flagged (omits_of_many rfl hregular hmany)
  rw [hflag] at hflagged
  cases hflagged

end TestOps.Evidence

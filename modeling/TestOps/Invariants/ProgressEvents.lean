import TestOps.ControlPlane.Schemas
import TestOps.Runners.LegacyProgress

/-! Whether the control plane accepts the progress of a legacy run. Every counter of an event is bounded
    by what the tracker knows, apart from the number of cases of a rerun, which the console announces:

      第1轮复跑：共 1 条      round 2   0 of 1
      [TC-A] 第1轮复跑通过    round 2   1 of 1
      [TC-B] 第1轮复跑通过    round 2   2 of 1      rejected

    An event is rejected exactly where a case is reported in a round that is full. -/

namespace TestOps.Legacy

open Regex LegacyProgressTracker

variable {lib : ConsoleLibrary} {tracker : LegacyProgressTracker} {code : String}
  {status : CaseResultStatus} {line : Text} {event : RunProgress}

/-! ### The contract -/

/-- What is asked of the counters of an event. -/
structure Contract (event : RunProgress) : Prop where
  roundPositive : 1 ≤ event.currentRound
  round : event.currentRound ≤ event.totalRounds
  rounds : event.totalRounds ≤ 3
  roundCompleted : event.roundCompleted ≤ event.roundTotal
  completed : event.completed ≤ event.total
  counted : event.passed + event.failed + event.skipped = event.completed

/-- The fields of the event, as the API reads them. -/
def eventFields (runId : UUID) (moment : Instant) (event : RunProgress) : RunEventFields where
  runId := runId
  event := .progressUpdated
  at' := moment
  caseCode := none
  status := none
  currentRound := some event.currentRound
  totalRounds := some event.totalRounds
  roundCompleted := some event.roundCompleted
  roundTotal := some event.roundTotal
  completed := some event.completed
  total := some event.total
  passed := some event.passed
  failed := some event.failed
  skipped := some event.skipped
  currentCaseCode := event.currentCaseCode

/-- It is what the validator of `InternalRunEventCreate` asks for, with the bounds of its fields. -/
theorem contract_iff {runId : UUID} {moment : Instant} :
    Contract event ↔ (1 ≤ event.currentRound ∧ event.currentRound ≤ 3 ∧ 1 ≤ event.totalRounds ∧
      event.totalRounds ≤ 3) ∧ validateEventShape (eventFields runId moment event) = .ok () := by
  have hvalid : validateEventShape (eventFields runId moment event) = .ok () ↔
      event.currentRound ≤ event.totalRounds ∧ event.roundCompleted ≤ event.roundTotal ∧
        event.completed ≤ event.total ∧
          event.passed + event.failed + event.skipped = event.completed := by
    simp [validateEventShape, eventFields]
  rw [hvalid]
  constructor
  · rintro ⟨hpositive, hround, hrounds, hroundCompleted, hcompleted, hcounted⟩
    exact ⟨⟨hpositive, hround.trans hrounds, hpositive.trans hround, hrounds⟩, hround,
      hroundCompleted, hcompleted, hcounted⟩
  · rintro ⟨⟨hpositive, -, -, hrounds⟩, hround, hroundCompleted, hcompleted, hcounted⟩
    exact ⟨hpositive, hround, hrounds, hroundCompleted, hcompleted, hcounted⟩

/-! ### What a tracker knows -/

/-- The counters of a tracker are those of an acceptable event. -/
structure Tracks (tracker : LegacyProgressTracker) : Prop where
  known : tracker.statuses.keys ⊆ tracker.caseCodes.toList
  roundPositive : 1 ≤ tracker.currentRound
  round : tracker.currentRound ≤ totalRounds
  roundFinished : tracker.roundFinished.card ≤ tracker.roundTotal
  finished : tracker.roundFinished ⊆ tracker.caseCodes
  firstRound : tracker.currentRound = 1 → tracker.roundTotal = tracker.caseCodes.card

theorem tracks_init {codes : List String} : Tracks (LegacyProgressTracker.init codes) where
  known := List.nil_subset _
  roundPositive := le_rfl
  round := Nat.le_add_right 1 2
  roundFinished := Nat.zero_le _
  finished := Finset.empty_subset _
  firstRound := fun _ => rfl

/-- Each status counts as passed, failed or skipped. -/
theorem countStatuses_add : tracker.countStatuses (· = .passed) +
    tracker.countStatuses (fun status => status = .failed ∨ status = .infraError) +
      tracker.countStatuses (· = .skipped) = tracker.statuses.entries.length := by
  simp only [countStatuses]
  induction tracker.statuses.entries with
  | nil => rfl
  | cons entry entries ih =>
    simp only [List.countP_cons, List.length_cons, ← ih, Bool.decide_or]
    cases entry.2 <;> simp <;> omega

theorem entries_length_le {statuses : AList fun _ : String => CaseResultStatus}
    {codes : Finset String} (h : statuses.keys ⊆ codes.toList) :
    statuses.entries.length ≤ codes.card := by
  rw [← List.length_map (f := Sigma.fst), ← Finset.length_toList]
  exact (statuses.keys_nodup.subperm h).length_le

theorem Tracks.contract (h : Tracks tracker) : Contract tracker.event where
  roundPositive := h.roundPositive
  round := h.round
  rounds := le_rfl
  roundCompleted := h.roundFinished
  completed := entries_length_le h.known
  counted := countStatuses_add

/-- A case that is new in its round is recorded; there must be room for it. -/
theorem Tracks.record (h : Tracks tracker) (hcode : code ∈ tracker.caseCodes)
    (hroom : code ∉ tracker.roundFinished → tracker.roundFinished.card < tracker.roundTotal) :
    Tracks (tracker.record code status).1 := by
  rw [LegacyProgressTracker.record]
  split
  · exact h
  · rename_i hnew
    refine ⟨?_, h.roundPositive, h.round, ?_, ?_, h.firstRound⟩
    · rw [AList.keys_insert]
      refine List.cons_subset.mpr ⟨Finset.mem_toList.mpr hcode, ?_⟩
      exact List.Subset.trans List.erase_subset h.known
    · rw [Finset.card_insert_of_notMem hnew]
      exact hroom hnew
    · exact Finset.insert_subset hcode h.finished

/-- An event of a case that is new in its round is acceptable only if there was room. -/
theorem room_of_record (status : CaseResultStatus)
    (h : ∀ event, (tracker.record code status).2 = .ok (some event) → Contract event)
    (hnew : code ∉ tracker.roundFinished) : tracker.roundFinished.card < tracker.roundTotal := by
  rw [LegacyProgressTracker.record, if_neg hnew] at h
  have hcompleted := (h _ rfl).roundCompleted
  rwa [LegacyProgressTracker.event, Finset.card_insert_of_notMem hnew] at hcompleted

/-! ### Announced rounds -/

theorem literal_plain {text : Text} : (literal text).Plain := by
  induction text with
  | nil => trivial
  | cons c text ih => exact ⟨trivial, ih⟩

theorem oneOf_plain {chars : Text} : (oneOf chars).Plain := trivial

theorem spaces_plain : spaces.Plain := trivial

/-- The number of an announced round is 2 or 3. -/
theorem announced_round {text : Text} {found : Cursor Char}
    (h : search (rerunRoundPattern lib) none text = some found) :
    runnerRound (found.group 1) = 2 ∨ runnerRound (found.group 1) = 3 := by
  obtain ⟨prev, rest, hmem, -⟩ := mem_of_search h
  obtain ⟨c₁, h₁, m₁⟩ := mem_results_seq.mp hmem
  obtain ⟨c₂, h₂, m₂⟩ := mem_results_seq.mp m₁
  obtain ⟨c₃, h₃, m₃⟩ := mem_results_seq.mp m₂
  obtain ⟨c₄, h₄, m₄⟩ := mem_results_seq.mp m₃
  obtain ⟨c₅, h₅, m₅⟩ := mem_results_seq.mp m₄
  obtain ⟨c₆, h₆, m₆⟩ := mem_results_seq.mp m₅
  obtain ⟨c₇, h₇, m₇⟩ := mem_results_seq.mp m₆
  obtain ⟨c₈, h₈, m₈⟩ := mem_results_seq.mp m₇
  obtain ⟨c₉, h₉, m₉⟩ := mem_results_seq.mp m₈
  obtain ⟨digit, hdigit, rfl⟩ := mem_results_group.mp h₃
  obtain ⟨total, htotal, rfl⟩ := mem_results_group.mp h₈
  obtain ⟨c, behind, hrest, hc, rfl⟩ := mem_results_set.mp hdigit
  -- nothing but the two groups captures
  have hbefore : c₂.groups = [] := (plain_groups spaces_plain h₂).trans (plain_groups oneOf_plain h₁)
  have hgroups : found.groups =
      (2, c₇.consumed total) :: (1, c₂.consumed ⟨some c, behind, c₂.groups⟩) :: c₂.groups := by
    have htotalPlain : (Pattern.many lib.classes.isDecimal 1 true).Plain := trivial
    have hanything : anything.Plain := trivial
    rw [plain_groups oneOf_plain m₉, plain_groups spaces_plain h₉, Cursor.capture,
      plain_groups htotalPlain htotal, plain_groups hanything h₇, plain_groups oneOf_plain h₆,
      plain_groups literal_plain h₅, plain_groups spaces_plain h₄]
    rfl
  have hgroup : found.group 1 = [c] := by
    rw [Cursor.group, hgroups]
    simp only [Cursor.consumed, hrest, List.length_cons, Nat.add_sub_cancel_left]
    rfl
  rw [hgroup]
  simp only [decide_eq_true_eq, List.mem_cons, List.not_mem_nil, or_false] at hc
  rcases hc with rfl | rfl
  · exact Or.inl rfl
  · exact Or.inr rfl

theorem Tracks.startRound {found : Cursor Char} (h : Tracks tracker)
    (hround : runnerRound (found.group 1) = 2 ∨ runnerRound (found.group 1) = 3) :
    Tracks (tracker.startRound lib found).1 := by
  have hpositive : 1 ≤ runnerRound (found.group 1) := by omega
  have hle : runnerRound (found.group 1) ≤ totalRounds := by
    rw [totalRounds]
    omega
  have hlater : runnerRound (found.group 1) ≠ 1 := by omega
  rw [LegacyProgressTracker.startRound]
  cases lib.int (found.group 2) with
  | error error =>
    exact ⟨h.known, hpositive, hle, h.roundFinished, h.finished, fun hone => absurd hone hlater⟩
  | ok total =>
    exact ⟨h.known, hpositive, hle, Nat.zero_le _, Finset.empty_subset _,
      fun hone => absurd hone hlater⟩

/-! ### Lines -/

/-- The case that a line of the first round is about -/
def firstRoundReport (lib : ConsoleLibrary) (tracker : LegacyProgressTracker) (normalized : Text) :
    Option String :=
  ((search (pytestResultPattern lib) none normalized).filter fun found =>
    tracker.currentRound = 1 ∧ (rawStatus (String.ofList (lib.upper (found.group 2)))).isSome).map
      (codeOf lib)

/-- The case that a line without the result of a rerun is about -/
def errorReport (lib : ConsoleLibrary) (tracker : LegacyProgressTracker) (normalized : Text) :
    Option String :=
  match search rerunErrorPattern none normalized with
  | some found =>
    if 1 < tracker.currentRound then some (codeOf lib found)
    else firstRoundReport lib tracker normalized
  | none => firstRoundReport lib tracker normalized

/-- The case of which a line reports something, in the round the tracker is in. -/
def reported (lib : ConsoleLibrary) (tracker : LegacyProgressTracker) (line : Text) :
    Option String :=
  let normalized := sub ansiEscapePattern (fun _ => []) line
  match search (rerunRoundPattern lib) none normalized with
  | some _ => none
  | none =>
    Option.filter (· ∈ tracker.caseCodes) <| match search rerunResultPattern none normalized with
      | some found =>
        if runnerRound (found.group 2) = tracker.currentRound then some (codeOf lib found) else none
      | none => errorReport lib tracker normalized

/-- A line records the case that it reports, announces a round, or says nothing. -/
inductive Reads (lib : ConsoleLibrary) (tracker : LegacyProgressTracker) (line : Text) : Prop
  | records (code : String) (status : CaseResultStatus) (known : code ∈ tracker.caseCodes)
      (reports : reported lib tracker line = some code)
      (reply : tracker.consume lib line = tracker.record code status)
  | announces (found : Cursor Char)
      (round : runnerRound (found.group 1) = 2 ∨ runnerRound (found.group 1) = 3)
      (silent : reported lib tracker line = none)
      (reply : tracker.consume lib line = tracker.startRound lib found)
  | ignores (silent : reported lib tracker line = none)
      (same : (tracker.consume lib line).1 = tracker)
      (nothing : ∀ event, (tracker.consume lib line).2 ≠ .ok (some event))

/-- A line of the first round -/
theorem firstRoundLine_reads {normalized : Text} :
    (∃ code status, tracker.firstRoundLine lib normalized = tracker.record code status ∧
      code ∈ tracker.caseCodes ∧ firstRoundReport lib tracker normalized = some code) ∨
    (tracker.firstRoundLine lib normalized).1 = tracker ∧
      (∀ event, (tracker.firstRoundLine lib normalized).2 ≠ .ok (some event)) ∧
      (firstRoundReport lib tracker normalized).filter (· ∈ tracker.caseCodes) = none := by
  by_cases hfirst : tracker.currentRound = 1
  · cases hsearch : search (pytestResultPattern lib) none normalized with
    | none =>
      refine Or.inr ?_
      simp [firstRoundLine, firstRoundReport, hfirst, hsearch]
    | some found =>
      by_cases hknown : codeOf lib found ∈ tracker.caseCodes
      · cases hraw : rawStatus (String.ofList (lib.upper (found.group 2))) with
        | none =>
          refine Or.inr ?_
          simp [firstRoundLine, firstRoundReport, hfirst, hsearch, pytestResult, hknown, hraw]
        | some status =>
          refine Or.inl ⟨codeOf lib found, status, ?_, hknown, ?_⟩
          · simp [firstRoundLine, hfirst, hsearch, pytestResult, hknown, hraw]
          · simp [firstRoundReport, hfirst, hsearch, hraw]
      · refine Or.inr ?_
        simp only [firstRoundLine, hfirst, hsearch, pytestResult, hknown, ne_eq, not_true_eq_false,
          if_false, not_false_eq_true, if_true]
        refine ⟨trivial, nofun, ?_⟩
        rw [Option.filter_eq_none_iff]
        intro code hcode
        rw [firstRoundReport, hsearch] at hcode
        obtain ⟨found', hfound', rfl⟩ := Option.map_eq_some_iff.mp hcode
        obtain rfl := Option.some.inj (Option.filter_eq_some_iff.mp hfound').1
        simpa using hknown
  · refine Or.inr ?_
    have hnone : ∀ o : Option (Cursor Char), o.filter (fun found => tracker.currentRound = 1 ∧
        (rawStatus (String.ofList (lib.upper (found.group 2)))).isSome) = none := by
      intro o
      simp [hfirst]
    rw [firstRoundLine, if_pos hfirst, firstRoundReport, hnone]
    exact ⟨rfl, nofun, rfl⟩

/-- A line without the result of a rerun -/
theorem errorLine_reads (lib : ConsoleLibrary) (tracker : LegacyProgressTracker)
    (normalized : Text) :
    (∃ code status, tracker.errorLine lib normalized = tracker.record code status ∧
      code ∈ tracker.caseCodes ∧ errorReport lib tracker normalized = some code) ∨
    (tracker.errorLine lib normalized).1 = tracker ∧
      (∀ event, (tracker.errorLine lib normalized).2 ≠ .ok (some event)) ∧
      (errorReport lib tracker normalized).filter (· ∈ tracker.caseCodes) = none := by
  rw [errorLine, errorReport]
  cases search rerunErrorPattern none normalized with
  | none => exact firstRoundLine_reads
  | some found =>
    by_cases hround : 1 < tracker.currentRound
    · simp only [hround, if_true, rerunError]
      by_cases hknown : codeOf lib found ∈ tracker.caseCodes
      · exact Or.inl ⟨_, _, if_pos hknown, hknown, rfl⟩
      · rw [if_neg hknown]
        exact Or.inr ⟨rfl, nofun, by simpa using hknown⟩
    · simp only [hround, if_false]
      exact firstRoundLine_reads

theorem reads (lib : ConsoleLibrary) (tracker : LegacyProgressTracker) (line : Text) :
    Reads lib tracker line := by
  cases hround : search (rerunRoundPattern lib) none (sub ansiEscapePattern (fun _ => []) line) with
  | some found =>
    refine .announces found (announced_round hround) ?_ ?_
    · simp only [reported, hround]
    · simp only [consume, hround]
  | none =>
    cases hresult : search rerunResultPattern none (sub ansiEscapePattern (fun _ => []) line) with
    | some found =>
      have hreply : tracker.consume lib line = tracker.rerunResult lib found := by
        simp only [consume, hround, hresult]
      by_cases hsame : runnerRound (found.group 2) = tracker.currentRound
      · by_cases hknown : codeOf lib found ∈ tracker.caseCodes
        · refine .records (codeOf lib found) _ hknown ?_ (hreply.trans (if_neg ?_))
          · simp [reported, hround, hresult, hsame, hknown]
          · simp [hsame, hknown]
        · have hignored : tracker.rerunResult lib found = (tracker, .ok none) :=
            if_pos (Or.inr hknown)
          rw [hignored] at hreply
          refine .ignores ?_ (by rw [hreply]) (by rw [hreply]; nofun)
          simp [reported, hround, hresult, hsame, hknown]
      · have hignored : tracker.rerunResult lib found = (tracker, .ok none) :=
          if_pos (Or.inl hsame)
        rw [hignored] at hreply
        refine .ignores ?_ (by rw [hreply]) (by rw [hreply]; nofun)
        simp [reported, hround, hresult, hsame]
    | none =>
      have hreply : tracker.consume lib line =
          tracker.errorLine lib (sub ansiEscapePattern (fun _ => []) line) := by
        simp only [consume, hround, hresult]
      have hreported : reported lib tracker line =
          (errorReport lib tracker (sub ansiEscapePattern (fun _ => []) line)).filter
            (· ∈ tracker.caseCodes) := by
        simp only [reported, hround, hresult]
      rcases errorLine_reads lib tracker (sub ansiEscapePattern (fun _ => []) line) with
        ⟨code, status, hrecord, hknown, hreport⟩ | ⟨hsame, hnothing, hsilent⟩
      · refine .records code status hknown ?_ (hreply.trans hrecord)
        rw [hreported, hreport]
        simpa using hknown
      · exact .ignores (hreported.trans hsilent) (hreply ▸ hsame) (hreply ▸ hnothing)

/-! ### Runs -/

/-- A case that is new in its round is reported only while there are fewer than announced. -/
def HasRoom (lib : ConsoleLibrary) (tracker : LegacyProgressTracker) (line : Text) : Prop :=
  ∀ code ∈ reported lib tracker line, code ∉ tracker.roundFinished →
    tracker.roundFinished.card < tracker.roundTotal

/-- The event that a call returns, if it returns one. -/
def returned (reply : Reply) : Option RunProgress :=
  match reply.2 with
  | .ok event => event
  | .error _ => none

/-- Only a known case is reported. -/
theorem reported_known (h : reported lib tracker line = some code) : code ∈ tracker.caseCodes := by
  rcases reads lib tracker line with
    ⟨code', status, hknown, hreports, -⟩ | ⟨found, -, hsilent, -⟩ | ⟨hsilent, -, -⟩
  · obtain rfl := Option.some.inj (h.symm.trans hreports)
    exact hknown
  · rw [hsilent] at h
    cases h
  · rw [hsilent] at h
    cases h

/-- In the first round there always is. -/
theorem Tracks.hasRoom (h : Tracks tracker) (hfirst : tracker.currentRound = 1) :
    HasRoom lib tracker line := by
  intro code hcode hnew
  rw [h.firstRound hfirst]
  refine Finset.card_lt_card (Finset.ssubset_iff_subset_ne.mpr ⟨h.finished, fun hall => ?_⟩)
  exact hnew (hall ▸ reported_known hcode)

theorem Tracks.consume (h : Tracks tracker) (hroom : HasRoom lib tracker line) :
    Tracks (tracker.consume lib line).1 := by
  rcases reads lib tracker line with
    ⟨code, status, hknown, hreports, hreply⟩ | ⟨found, hround, -, hreply⟩ | ⟨-, hsame, -⟩
  · rw [hreply]
    exact h.record hknown (hroom code hreports)
  · rw [hreply]
    exact h.startRound hround
  · rwa [hsame]

/-- An event shows the counters of the tracker it leaves. -/
theorem event_of_returned (h : returned (tracker.consume lib line) = some event) :
    event = (tracker.consume lib line).1.event := by
  rcases reads lib tracker line with
    ⟨code, status, -, -, hreply⟩ | ⟨found, -, -, hreply⟩ | ⟨-, -, hnothing⟩
  · rw [hreply, LegacyProgressTracker.record] at h ⊢
    split at h
    · cases h
    · rename_i hnew
      rw [if_neg hnew]
      exact (Option.some.inj h).symm
  · rw [hreply, LegacyProgressTracker.startRound] at h ⊢
    cases hint : lib.int (found.group 2) with
    | error error =>
      rw [hint] at h
      cases h
    | ok total =>
      rw [hint] at h
      exact (Option.some.inj h).symm
  · rw [returned] at h
    split at h
    · rename_i hreply
      exact absurd (hreply.trans (by rw [h])) (hnothing event)
    · cases h

theorem Tracks.returned (h : Tracks tracker) (hroom : HasRoom lib tracker line) :
    ∀ event ∈ returned (tracker.consume lib line), Contract event := by
  intro event hevent
  rw [event_of_returned hevent]
  exact (h.consume hroom).contract

/-- Without room the event is rejected. -/
theorem hasRoom_of_returned (h : ∀ event ∈ returned (tracker.consume lib line), Contract event) :
    HasRoom lib tracker line := by
  intro code hcode hnew
  rcases reads lib tracker line with
    ⟨code', status, -, hreports, hreply⟩ | ⟨found, -, hsilent, -⟩ | ⟨hsilent, -, -⟩
  · obtain rfl := Option.some.inj (hreports.symm.trans hcode)
    rw [hreply] at h
    refine room_of_record status (fun event hevent => h event ?_) hnew
    rw [Legacy.returned, hevent]
    rfl
  · rw [hsilent] at hcode
    cases hcode
  · rw [hsilent] at hcode
    cases hcode

/-- The tracker behind some lines -/
def after (lib : ConsoleLibrary) (tracker : LegacyProgressTracker) (lines : List Text) :
    LegacyProgressTracker :=
  lines.foldl (fun tracker line => (tracker.consume lib line).1) tracker

/-- The events of a console -/
def events (lib : ConsoleLibrary) : LegacyProgressTracker → List Text → List RunProgress
  | _, [] => []
  | tracker, line :: lines =>
    (returned (tracker.consume lib line)).toList ++ events lib (tracker.consume lib line).1 lines

variable {lines : List Text} {results : List CaseResult}

/-- There is room at each of the lines. -/
def RoomThroughout (lib : ConsoleLibrary) (tracker : LegacyProgressTracker) (lines : List Text) :
    Prop :=
  ∀ before line later, lines = before ++ line :: later → HasRoom lib (after lib tracker before) line

theorem roomThroughout_cons : RoomThroughout lib tracker (line :: lines) ↔
    HasRoom lib tracker line ∧ RoomThroughout lib (tracker.consume lib line).1 lines := by
  constructor
  · intro h
    refine ⟨h [] line lines rfl, fun before line' later hsplit => ?_⟩
    exact h (line :: before) line' later (by rw [hsplit]; rfl)
  · rintro ⟨hroom, hrest⟩ before line' later hsplit
    cases before with
    | nil =>
      obtain ⟨rfl, -⟩ := List.cons.inj hsplit
      exact hroom
    | cons line'' before =>
      obtain ⟨rfl, hlines⟩ := List.cons.inj hsplit
      exact hrest before line' later hlines

/-- The events of a console are accepted if and only if there is room at each of its lines. -/
theorem events_accepted_iff (h : Tracks tracker) :
    (∀ event ∈ events lib tracker lines, Contract event) ↔ RoomThroughout lib tracker lines := by
  induction lines generalizing tracker with
  | nil =>
    refine iff_of_true nofun fun before line later hsplit => ?_
    exact absurd hsplit.symm (List.append_ne_nil_of_right_ne_nil before (List.cons_ne_nil line later))
  | cons line lines ih =>
    rw [roomThroughout_cons, events, List.forall_mem_append]
    simp only [Option.mem_toList]
    constructor
    · rintro ⟨hfirst, hrest⟩
      have hroom := hasRoom_of_returned hfirst
      exact ⟨hroom, (ih (h.consume hroom)).mp hrest⟩
    · rintro ⟨hroom, hrest⟩
      exact ⟨h.returned hroom, (ih (h.consume hroom)).mpr hrest⟩

theorem Tracks.after (h : Tracks tracker) (hroom : RoomThroughout lib tracker lines) :
    Tracks (after lib tracker lines) := by
  induction lines generalizing tracker with
  | nil => exact h
  | cons line lines ih =>
    obtain ⟨hline, hlines⟩ := roomThroughout_cons.mp hroom
    exact ih (h.consume hline) hlines

/-! ### The end of a run -/

theorem mem_finalStatuses : code ∈ finalStatuses results ↔ code ∈ results.map CaseResult.caseCode := by
  induction results using List.reverseRecOn with
  | nil => simp [finalStatuses]
  | append_singleton results result ih =>
    have hlast : finalStatuses (results ++ [result]) =
        (finalStatuses results).insert result.caseCode result.status := by
      rw [finalStatuses, List.foldl_append]
      rfl
    rw [hlast, AList.mem_insert, ih, List.map_append, List.mem_append, or_comm]
    simp

/-- There is one status for each code. -/
theorem finalStatuses_length :
    (finalStatuses results).entries.length = (results.map CaseResult.caseCode).toFinset.card := by
  have hkeys : (finalStatuses results).keys.toFinset =
      (results.map CaseResult.caseCode).toFinset := by
    ext code
    rw [List.mem_toFinset, List.mem_toFinset, ← AList.mem_keys, mem_finalStatuses]
  rw [← hkeys, List.toFinset_card_of_nodup (finalStatuses results).keys_nodup, AList.keys, List.keys,
    List.length_map]

/-- Equal sets of entries are equally large. -/
theorem length_of_toFinset {statuses statuses' : AList fun _ : String => CaseResultStatus}
    (h : statuses.entries.toFinset = statuses'.entries.toFinset) :
    statuses.entries.length = statuses'.entries.length := by
  rw [← List.toFinset_card_of_nodup statuses.nodupKeys.nodup, h,
    List.toFinset_card_of_nodup statuses'.nodupKeys.nodup]

/-- The last event is accepted if and only if there are no more results than cases. -/
theorem finalize_accepted_iff (h : Tracks tracker) :
    (∀ event ∈ tracker.finalize results, Contract event) ↔
      (results.map CaseResult.caseCode).toFinset.card ≤ tracker.caseCodes.card := by
  rw [← finalStatuses_length, finalize]
  split
  · rename_i hsame
    refine iff_of_true nofun ?_
    exact (length_of_toFinset hsame.2.2.2.1).trans_le (entries_length_le h.known)
  · constructor
    · exact fun haccepted => (haccepted _ rfl).completed
    · intro hle event hevent
      obtain rfl := Option.some.inj hevent
      refine ⟨h.roundPositive, h.round, le_rfl, ?_, hle, countStatuses_add⟩
      simp only [LegacyProgressTracker.event, finalized]
      split
      · rwa [List.toFinset_card_of_nodup (finalStatuses results).keys_nodup, AList.keys, List.keys,
          List.length_map]
      · exact (Finset.card_filter_le _ _).trans h.roundFinished

theorem consume_caseCodes : (tracker.consume lib line).1.caseCodes = tracker.caseCodes := by
  rcases reads lib tracker line with
    ⟨code, status, -, -, hreply⟩ | ⟨found, -, -, hreply⟩ | ⟨-, hsame, -⟩
  · rw [hreply, LegacyProgressTracker.record]
    split <;> rfl
  · rw [hreply, LegacyProgressTracker.startRound]
    cases lib.int (found.group 2) <;> rfl
  · rw [hsame]

theorem after_caseCodes : (after lib tracker lines).caseCodes = tracker.caseCodes := by
  induction lines generalizing tracker with
  | nil => rfl
  | cons line lines ih => exact ih.trans consume_caseCodes

/-- The events of a run are accepted if and only if no round reports more new cases than it announces,
    and no more cases have results than are tracked. -/
theorem progress_accepted_iff (codes : List String) :
    ((∀ event ∈ events lib (init codes) lines, Contract event) ∧
      ∀ event ∈ (after lib (init codes) lines).finalize results, Contract event) ↔
    RoomThroughout lib (init codes) lines ∧
      (results.map CaseResult.caseCode).toFinset.card ≤ codes.toFinset.card := by
  rw [events_accepted_iff tracks_init]
  refine and_congr_right fun hroom => ?_
  rw [finalize_accepted_iff (tracks_init.after hroom), after_caseCodes]
  rfl

/-! ### A rerun that reports more than it announces -/

/-- A console of ASCII text -/
def plainConsole : ConsoleLibrary where
  classes := ⟨fun c => c.isAlphanum ∨ c = '_', Char.isDigit⟩
  upper := List.map Char.toUpper
  int := fun digits => .ok (digits.foldl (fun n c => 10 * n + (c.toNat - '0'.toNat)) 0)

/-- A rerun of no case, and a case of it -/
def overfullLines : List Text :=
  ["第1轮复跑：共 0 条".toList, "[TC-HOME-001] 第1轮复跑通过".toList]

theorem overfull_event : ((events plainConsole (init ["TC-HOME-001"]) overfullLines).map
    fun event => (event.roundCompleted, event.roundTotal)) = [(0, 0), (1, 0)] := by
  decide

/-- So there are lines whose events are not all accepted. -/
theorem progress_rejected :
    ¬∀ (lib : ConsoleLibrary) (codes : List String) (lines : List Text) (results : List CaseResult),
      (results.map CaseResult.caseCode).toFinset ⊆ codes.toFinset →
      (∀ event ∈ events lib (init codes) lines, Contract event) ∧
        ∀ event ∈ (after lib (init codes) lines).finalize results, Contract event := by
  intro hclaim
  obtain ⟨haccepted, -⟩ := hclaim plainConsole ["TC-HOME-001"] overfullLines [] (by simp)
  have hmem : ((1, 0) : Nat × Nat) ∈
      (events plainConsole (init ["TC-HOME-001"]) overfullLines).map
        fun event => (event.roundCompleted, event.roundTotal) := by
    rw [overfull_event]
    decide
  obtain ⟨event, hevent, hcounters⟩ := List.mem_map.mp hmem
  obtain ⟨hcompleted, htotal⟩ := Prod.mk.inj hcounters
  have hle := (haccepted event hevent).roundCompleted
  rw [hcompleted, htotal] at hle
  exact absurd hle (by decide)

end TestOps.Legacy

import TestOps.ControlPlane.QualityAnalytics

/-! Which cases are flaky, whatever the order of the rows. Each case has one history, since two of its
    executions are of different runs:

      rows      b₂ a₃ a₁ b₁ a₂ …         any order
      history   a₁ a₂ a₃ …               by time, and then by run
      result    cases with three executions and two changes, by one total order -/

namespace TestOps.Analytics

open Grouping

variable {rows rows' : List FlakyRow} {caseId : UUID} {ordered : List Observation}

/-! ### Histories -/

/-- What has been observed of a case. -/
def observations (rows : List FlakyRow) (caseId : UUID) : List Observation :=
  ((rows.filter FlakyRow.isConclusive).filter fun row => row.caseId = caseId).map
    FlakyRow.observation

/-- No case is there twice for a run. -/
def OncePerRun (rows : List FlakyRow) : Prop :=
  (rows.map fun row => (row.caseId, row.runId)).Nodup

/-- The observations of a case, by time and then by run. -/
structure IsHistory (rows : List FlakyRow) (caseId : UUID) (ordered : List Observation) : Prop where
  perm : ordered.Perm (observations rows caseId)
  sorted : ordered.Pairwise fun a b =>
    a.occurredAt < b.occurredAt ∨ a.occurredAt = b.occurredAt ∧ a.runText < b.runText

theorem uuidText_injective : Function.Injective uuidText := by
  intro id id' h
  have hparse := parseUuid_uuidText id
  rw [h, parseUuid_uuidText, Option.some.injEq] at hparse
  exact hparse.symm

theorem key_lt_iff {a b : Observation} : a.key < b.key ↔
    a.occurredAt < b.occurredAt ∨ a.occurredAt = b.occurredAt ∧ a.runText < b.runText :=
  Prod.Lex.toLex_lt_toLex

theorem observations_runTexts (h : OncePerRun rows) :
    ((observations rows caseId).map Observation.runText).Nodup := by
  rw [observations, List.map_map]
  have hsublist : ((rows.filter FlakyRow.isConclusive).filter fun row => row.caseId = caseId).Sublist
      rows := List.filter_sublist.trans List.filter_sublist
  have hpairs := List.Nodup.sublist (hsublist.map fun row : FlakyRow => (row.caseId, row.runId)) h
  refine (List.nodup_map_iff_inj_on hpairs.of_map).mpr fun row hrow row' hrow' heq => ?_
  have hrun : row.runId = row'.runId := uuidText_injective heq
  have hcase := of_decide_eq_true (List.mem_filter.mp hrow).2
  have hcase' := of_decide_eq_true (List.mem_filter.mp hrow').2
  exact List.inj_on_of_nodup_map hpairs hrow hrow' (by rw [hcase, hcase', hrun])

theorem observations_key_inj (h : OncePerRun rows) :
    ∀ a ∈ observations rows caseId, ∀ b ∈ observations rows caseId, a.key = b.key → a = b := by
  intro a ha b hb heq
  have htext : a.runText = b.runText := congrArg (fun key => (ofLex key).2) heq
  exact List.inj_on_of_nodup_map (observations_runTexts h) ha hb htext

/-- A case has one history, and sorting finds it. -/
theorem isHistory_iff (h : OncePerRun rows) : IsHistory rows caseId ordered ↔
    ordered = sortBy Observation.key (observations rows caseId) := by
  constructor
  · rintro ⟨hperm, hsorted⟩
    have hinj : ∀ a ∈ ordered, ∀ b ∈ ordered, a.key = b.key → a = b :=
      fun a ha b hb => observations_key_inj h a (hperm.subset ha) b (hperm.subset hb)
    exact eq_of_sorted hinj (hperm.trans sortBy_perm.symm)
      (hsorted.imp fun hlt => (key_lt_iff.mpr hlt).le) sortBy_sorted
  · rintro rfl
    refine ⟨sortBy_perm, ?_⟩
    exact (sortBy_strict (observations_runTexts h).of_map (observations_key_inj h)).imp
      fun hlt => key_lt_iff.mp hlt

theorem observations_perm (h : rows.Perm rows') :
    (observations rows caseId).Perm (observations rows' caseId) :=
  ((h.filter _).filter _).map _

theorem mem_histories {history : UUID × List Observation} : history ∈ histories rows ↔
    history.2 = observations rows history.1 ∧ observations rows history.1 ≠ [] := by
  obtain ⟨caseId, found⟩ := history
  simp only [histories, List.mem_map, List.mem_reverse, List.mem_dedup, Prod.mk.injEq]
  constructor
  · rintro ⟨_, ⟨row, hrow, rfl⟩, rfl, rfl⟩
    refine ⟨rfl, List.ne_nil_of_mem (a := row.observation) ?_⟩
    exact List.mem_map_of_mem (List.mem_filter.mpr ⟨hrow, decide_eq_true rfl⟩)
  · rintro ⟨rfl, hne⟩
    obtain ⟨o, ho⟩ := List.exists_mem_of_ne_nil _ hne
    obtain ⟨row, hrow, -⟩ := List.mem_map.mp ho
    obtain ⟨hmem, hcase⟩ := List.mem_filter.mp hrow
    exact ⟨caseId, ⟨row, hmem, of_decide_eq_true hcase⟩, rfl, rfl⟩

theorem histories_nodup : ((histories rows).map Prod.fst).Nodup := by
  rw [histories, List.map_map]
  have hmap : (Prod.fst ∘ fun caseId : UUID => (caseId, ((rows.filter FlakyRow.isConclusive).filter
      fun row => row.caseId = caseId).map FlakyRow.observation)) = id := rfl
  rw [hmap, List.map_id]
  exact List.nodup_reverse.mpr (List.nodup_dedup _)

/-! ### Changes -/

theorem transitions_cons {s t : String} {statuses : List String} :
    transitions (s :: t :: statuses) = transitions (t :: statuses) + if s ≠ t then 1 else 0 := by
  simp only [transitions, List.tail_cons, List.zip_cons_cons, List.countP_cons, decide_eq_true_eq]

/-- Statuses that are all the same do not change. -/
theorem transitions_eq_zero {s : String} {statuses : List String} (h : ∀ t ∈ statuses, t = s) :
    transitions statuses = 0 := by
  induction statuses with
  | nil => rfl
  | cons t statuses ih =>
    cases statuses with
    | nil => rfl
    | cons u statuses =>
      rw [transitions_cons, ih fun v hv => h v (List.mem_cons_of_mem _ hv),
        h t List.mem_cons_self, h u (List.mem_cons_of_mem _ List.mem_cons_self)]
      rw [if_neg (not_not_intro rfl)]

/-- Two changes need executions of both kinds. -/
theorem counts_of_transitions {statuses : List String}
    (hstatuses : ∀ s ∈ statuses, s = "PASSED" ∨ s = "FAILED") (h : 2 ≤ transitions statuses) :
    statuses.count "PASSED" ≠ 0 ∧ statuses.count "FAILED" ≠ 0 := by
  constructor
  · intro hnone
    have hall : ∀ s ∈ statuses, s = "FAILED" := fun s hs => (hstatuses s hs).resolve_left
      fun heq => List.count_eq_zero.mp hnone (heq ▸ hs)
    rw [transitions_eq_zero hall] at h
    omega
  · intro hnone
    have hall : ∀ s ∈ statuses, s = "PASSED" := fun s hs => (hstatuses s hs).resolve_right
      fun heq => List.count_eq_zero.mp hnone (heq ▸ hs)
    rw [transitions_eq_zero hall] at h
    omega

theorem observations_status {o : Observation} (ho : o ∈ observations rows caseId) :
    o.status = "PASSED" ∨ o.status = "FAILED" := by
  obtain ⟨row, hrow, rfl⟩ := List.mem_map.mp ho
  have hconclusive := (List.mem_filter.mp (List.mem_filter.mp hrow).1).2
  rw [FlakyRow.isConclusive, Bool.or_eq_true] at hconclusive
  exact hconclusive.imp of_decide_eq_true of_decide_eq_true

/-! ### Flaky cases -/

/-- What is reported of a case with this history, if it is flaky. -/
def IsFlaky (rows : List FlakyRow) (item : FlakyCaseResponse) : Prop :=
  ∃ ordered latest, IsHistory rows item.caseId ordered ∧ 3 ≤ ordered.length ∧
    2 ≤ transitions (ordered.map Observation.status) ∧ ordered.getLast? = some latest ∧
    item = flakyCase item.caseId ordered latest

theorem detectFlakyCase_eq_some (h : OncePerRun rows) {item : FlakyCaseResponse} :
    detectFlakyCase (caseId, observations rows caseId) = some item ↔
      item.caseId = caseId ∧ IsFlaky rows item := by
  have hstatuses : ∀ s ∈ (sortBy Observation.key (observations rows caseId)).map
      Observation.status, s = "PASSED" ∨ s = "FAILED" := by
    intro s hs
    obtain ⟨o, ho, rfl⟩ := List.mem_map.mp hs
    exact observations_status (mem_sortBy.mp ho)
  have hround : detectFlakyCase (caseId, observations rows caseId) =
      if (sortBy Observation.key (observations rows caseId)).length < 3 then none
      else if ((sortBy Observation.key (observations rows caseId)).map
          Observation.status).count "PASSED" = 0 ∨
        ((sortBy Observation.key (observations rows caseId)).map
          Observation.status).count "FAILED" = 0 ∨
        transitions ((sortBy Observation.key (observations rows caseId)).map
          Observation.status) < 2 then none
      else (sortBy Observation.key (observations rows caseId)).getLast?.map
        (flakyCase caseId (sortBy Observation.key (observations rows caseId))) := rfl
  rw [hround]
  clear hround
  constructor
  · intro hdetected
    split at hdetected
    · cases hdetected
    · rename_i hlength
      split at hdetected
      · cases hdetected
      · rename_i hchanges
        rw [not_or, not_or] at hchanges
        obtain ⟨latest, hlatest, rfl⟩ := Option.map_eq_some_iff.mp hdetected
        exact ⟨rfl, _, latest, (isHistory_iff h).mpr rfl, not_lt.mp hlength,
          not_lt.mp hchanges.2.2, hlatest, rfl⟩
  · rintro ⟨rfl, ordered, latest, hhistory, hlength, hchanges, hlatest, hitem⟩
    obtain rfl := (isHistory_iff h).mp hhistory
    obtain ⟨hpassed, hfailed⟩ := counts_of_transitions hstatuses hchanges
    rw [if_neg (not_lt.mpr hlength), if_neg, hlatest, Option.map_some, ← hitem]
    rintro (hnone | hnone | hless)
    · exact hpassed hnone
    · exact hfailed hnone
    · exact absurd hchanges (not_le_of_gt hless)

theorem mem_detected (h : OncePerRun rows) {item : FlakyCaseResponse} :
    item ∈ (histories rows).filterMap detectFlakyCase ↔ IsFlaky rows item := by
  rw [List.mem_filterMap]
  constructor
  · rintro ⟨⟨caseId, found⟩, hmem, hdetected⟩
    obtain ⟨hfound, -⟩ := mem_histories.mp hmem
    simp only at hfound
    rw [hfound] at hdetected
    exact ((detectFlakyCase_eq_some h).mp hdetected).2
  · intro hflaky
    refine ⟨(item.caseId, observations rows item.caseId), mem_histories.mpr ⟨rfl, ?_⟩,
      (detectFlakyCase_eq_some h).mpr ⟨rfl, hflaky⟩⟩
    obtain ⟨ordered, _, hhistory, hlength, -⟩ := hflaky
    intro hnil
    have hperm := hhistory.perm
    rw [show observations rows item.caseId = [] from hnil, List.perm_nil] at hperm
    rw [hperm, List.length_nil] at hlength
    omega

theorem detectFlakyCase_caseId {history : UUID × List Observation} {item : FlakyCaseResponse}
    (h : detectFlakyCase history = some item) : item.caseId = history.1 := by
  unfold detectFlakyCase at h
  simp only at h
  split at h
  · cases h
  · split at h
    · cases h
    · obtain ⟨latest, -, rfl⟩ := Option.map_eq_some_iff.mp h
      rfl

/-- No case is reported twice. -/
theorem detected_caseIds : (((histories rows).filterMap detectFlakyCase).map
    FlakyCaseResponse.caseId).Nodup := by
  have hsublist : ∀ found : List (UUID × List Observation),
      ((found.filterMap detectFlakyCase).map FlakyCaseResponse.caseId).Sublist
        (found.map Prod.fst) := by
    intro found
    induction found with
    | nil => exact List.Sublist.slnil
    | cons history found ih =>
      rw [List.map_cons]
      cases hdetected : detectFlakyCase history with
      | none =>
        rw [List.filterMap_cons_none hdetected]
        exact ih.cons _
      | some item =>
        rw [List.filterMap_cons_some hdetected, List.map_cons, detectFlakyCase_caseId hdetected]
        exact ih.cons_cons _
  exact histories_nodup.sublist (hsublist _)

/-- Different cases have different places. -/
theorem detected_key_inj : ∀ a ∈ (histories rows).filterMap detectFlakyCase,
    ∀ b ∈ (histories rows).filterMap detectFlakyCase, a.key = b.key → a = b := by
  intro a ha b hb heq
  have htext : uuidText a.caseId = uuidText b.caseId :=
    congrArg (fun key => (ofLex (ofLex (ofLex (ofLex (ofLex key).2).2).2).2).2) heq
  exact List.inj_on_of_nodup_map detected_caseIds ha hb (uuidText_injective htext)

theorem isFlaky_perm {item : FlakyCaseResponse} (hperm : rows.Perm rows') :
    IsFlaky rows item ↔ IsFlaky rows' item := by
  have hhistory : ∀ ordered, IsHistory rows item.caseId ordered ↔
      IsHistory rows' item.caseId ordered := fun ordered =>
    ⟨fun h => ⟨h.perm.trans (observations_perm hperm), h.sorted⟩,
      fun h => ⟨h.perm.trans (observations_perm hperm.symm), h.sorted⟩⟩
  simp only [IsFlaky, hhistory]

/-- The flaky cases are those with three executions and two changes, in one total order and without
    repetition, and the first twenty of them are returned; the order of the rows does not matter. -/
theorem detectFlakyCases_spec (h : OncePerRun rows) :
    (∀ rows', rows.Perm rows' → detectFlakyCases rows' = detectFlakyCases rows) ∧
    ∃ detected : List FlakyCaseResponse, detectFlakyCases rows = (detected.take 20, detected.length) ∧
      (∀ item, item ∈ detected ↔ IsFlaky rows item) ∧
      (detected.map FlakyCaseResponse.caseId).Nodup ∧
      detected.Pairwise fun a b => a.key < b.key := by
  constructor
  · intro rows' hperm
    have h' : OncePerRun rows' := (hperm.map _).nodup_iff.mp h
    have hsame : ((histories rows').filterMap detectFlakyCase).Perm
        ((histories rows).filterMap detectFlakyCase) := by
      refine (List.perm_ext_iff_of_nodup detected_caseIds.of_map detected_caseIds.of_map).mpr ?_
      intro item
      rw [mem_detected h', mem_detected h, isFlaky_perm hperm]
    rw [detectFlakyCases, detectFlakyCases, sortBy_eq_of_perm detected_key_inj hsame]
  · refine ⟨_, rfl, fun item => ?_, ?_, ?_⟩
    · rw [mem_sortBy, mem_detected h]
    · exact (sortBy_perm.map _).nodup_iff.mpr detected_caseIds
    · exact sortBy_strict detected_caseIds.of_map detected_key_inj

/-! ### Ties -/

/-- One case with three runs, the last two of which ended at the same time. -/
def tiedRows : List FlakyRow :=
  [⟨1, "TC-1", "PASSED", .aware 20, 7⟩, ⟨1, "TC-1", "FAILED", .aware 20, 6⟩,
    ⟨1, "TC-1", "PASSED", .aware 10, 9⟩, ⟨2, "TC-2", "SKIPPED", .naive 10, 9⟩]

theorem tiedRows_flaky : OncePerRun tiedRows ∧
    detectFlakyCases tiedRows.reverse = detectFlakyCases tiedRows := by
  have h : OncePerRun tiedRows := by
    rw [OncePerRun]
    decide
  exact ⟨h, (detectFlakyCases_spec h).1 _ (List.reverse_perm _).symm⟩

example : (detectFlakyCases tiedRows).2 = 1 := by decide

end TestOps.Analytics

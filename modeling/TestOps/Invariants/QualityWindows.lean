import TestOps.ControlPlane.QualityAnalytics

/-! Every run that ends is counted once: in the window that ends now, in the one before it, or in
    neither.

      previous   [ start − length , start )
      current    [ start          , moment ]     start at 00:00 in UTC

    The days of the current window have one point each, and every run of the window is counted in the
    point of its day. -/

namespace TestOps.Analytics

open Checked Grouping

variable {db : Database} {policy : QualityPolicy} {dimensions : Dimensions} {window : Window}
  {windowDays : Option Int} {now : Timestamp} {snapshot : Snapshot} {run : RunRow} {status : RunStatus}

/-! ### Runs of a window -/

/-- The run has ended, and the report is about it. -/
def Dimensions.Covers (dimensions : Dimensions) (run : RunRow) : Prop :=
  run.projectId = dimensions.projectId ∧ run.status ∈ terminalRunStatuses ∧
    (∀ targetId ∈ dimensions.targetId, run.targetId = targetId) ∧
    (∀ environmentId ∈ dimensions.environmentId, run.environmentId = environmentId) ∧
    ∀ baselineId ∈ dimensions.baselineId, run.baselineId = baselineId

instance : Decidable (dimensions.Covers run) := inferInstanceAs (Decidable (_ ∧ _))

theorem qualityRunFilter_iff : qualityRunFilter dimensions window run = true ↔
    dimensions.Covers run ∧ window.startedAt ≤ run.completedAt ∧
      (if window.includeEnd then run.completedAt ≤ window.endedAt
        else run.completedAt < window.endedAt) := by
  have hall : ∀ {α : Type} [DecidableEq α] (a : α) (o : Option α),
      (o.all (a = ·)) = true ↔ ∀ b ∈ o, a = b := by
    intro α _ a o
    cases o <;> simp
  have hend : (if window.includeEnd then decide (run.completedAt ≤ window.endedAt)
      else decide (run.completedAt < window.endedAt)) = true ↔
        (if window.includeEnd then run.completedAt ≤ window.endedAt
          else run.completedAt < window.endedAt) := by
    cases window.includeEnd <;> simp
  simp only [qualityRunFilter, Bool.and_eq_true, decide_eq_true_eq, hall, hend, Dimensions.Covers]
  tauto

/-! ### Summaries by status -/

/-- How many runs of a status a summary shows. -/
def QualityRunSummary.of (summary : QualityRunSummary) : RunStatus → Nat
  | .passed => summary.passedRuns
  | .failed => summary.failedRuns
  | .canceled => summary.canceledRuns
  | .timedOut => summary.timedOutRuns
  | .infraError => summary.infraErrorRuns
  | _ => 0

/-- How many runs of a status a point of the trend shows. -/
def QualityTrendPoint.of (point : QualityTrendPoint) : RunStatus → Nat
  | .passed => point.passedRuns
  | .failed => point.failedRuns
  | .canceled => point.canceledRuns
  | .timedOut => point.timedOutRuns
  | .infraError => point.infraErrorRuns
  | _ => 0

theorem runSummary_of (counts : List (RunStatus × Nat)) (h : status ∈ terminalRunStatuses) :
    (runSummary counts).of status = get counts status := by
  simp only [terminalRunStatuses, List.mem_cons, List.not_mem_nil, or_false] at h
  rcases h with rfl | rfl | rfl | rfl | rfl
  · rfl
  · rfl
  · rfl
  · rfl
  · rfl

theorem trendPoint_of (trendCounts : List ((Int × RunStatus) × Nat)) (bucket : Int)
    (h : status ∈ terminalRunStatuses) :
    (trendPoint trendCounts bucket).of status = get (bucketCounts trendCounts bucket) status := by
  simp only [terminalRunStatuses, List.mem_cons, List.not_mem_nil, or_false] at h
  rcases h with rfl | rfl | rfl | rfl | rfl
  · rfl
  · rfl
  · rfl
  · rfl
  · rfl

/-- How many runs of a list have ended with a status. -/
def ended (status : RunStatus) (runs : List RunRow) : Nat :=
  runs.countP fun run => decide (run.status = status)

theorem get_runCounts : get (db.runCounts dimensions window) status =
    ended status (db.windowRuns dimensions window) := by
  rw [Database.runCounts, get_counts, List.countP_map]
  rfl

theorem total_runCounts : total (db.runCounts dimensions window) =
    (db.windowRuns dimensions window).length := by
  rw [Database.runCounts, total_counts, List.length_map]

/-! ### The buckets of the trend -/

variable {pairs : List (Int × RunStatus)} {bucket : Int}

theorem bucketCounts_counts : bucketCounts (counts pairs) bucket =
    ((pairs.dedup.filter fun pair => decide (pair.1 = bucket)).map Prod.snd).map
      fun status => (status, pairs.countP fun pair => decide (pair = (bucket, status))) := by
  rw [bucketCounts, counts]
  generalize hcount : (fun k => pairs.countP fun pair => decide (pair = k)) = count
  have hpair : ∀ k, pairs.countP (fun pair => decide (pair = k)) = count k := fun k =>
    congrFun hcount k
  simp only [hpair]
  clear hpair hcount
  induction pairs.dedup with
  | nil => rfl
  | cons pair rest ih =>
    obtain ⟨day, status⟩ := pair
    rw [List.map_cons, List.filterMap_cons, List.filter_cons]
    by_cases hday : day = bucket
    · simp only [hday, if_true, decide_true, List.map_cons, ih]
    · simp only [hday, if_false, decide_false, Bool.false_eq_true, ih]

theorem get_bucketCounts : get (bucketCounts (counts pairs) bucket) status =
    pairs.countP fun pair => decide (pair = (bucket, status)) := by
  rw [bucketCounts_counts]
  refine get_map fun hmem => List.countP_eq_zero.mpr fun pair hpair heq => hmem ?_
  obtain rfl := of_decide_eq_true heq
  refine List.mem_map.mpr ⟨(bucket, status), List.mem_filter.mpr ⟨?_, ?_⟩, rfl⟩
  · exact List.mem_dedup.mpr hpair
  · exact decide_eq_true rfl

theorem total_bucketCounts : total (bucketCounts (counts pairs) bucket) =
    pairs.countP fun pair => decide (pair.1 = bucket) := by
  rw [bucketCounts_counts, total, List.map_map, List.map_map, ← sum_counts]
  refine congrArg List.sum (List.map_congr_left fun pair hpair => ?_)
  have hday := of_decide_eq_true (List.mem_filter.mp hpair).2
  change pairs.countP (fun other => decide (other = (bucket, pair.2))) = _
  rw [← hday]

/-! ### The two windows -/

/-- The window that ends now, and the one before it. -/
def Snapshot.current (snapshot : Snapshot) : Window :=
  ⟨snapshot.windowStartedAt, snapshot.windowEndedAt, true⟩

def Snapshot.previous (snapshot : Snapshot) : Window :=
  ⟨snapshot.comparison.previousWindowStartedAt, snapshot.comparison.previousWindowEndedAt, false⟩

/-- The first moment of a window of some days that ends at a moment. -/
def firstMoment (days : Int) (moment : Instant) : Instant :=
  startOfDay (dayOf moment - (days - 1))

/-- A comparison is made for 1 to 90 days, unless it would begin before the first date there is. -/
theorem calculate_ok : calculateQualityComparison db policy dimensions windowDays now =
      .ok snapshot →
    (1 ≤ windowLength policy windowDays ∧ windowLength policy windowDays ≤ 90) ∧
    snapshot.windowStartedAt = firstMoment (windowLength policy windowDays) (aware now) ∧
    snapshot.windowEndedAt = aware now ∧
    snapshot.comparison.previousWindowStartedAt =
      snapshot.windowStartedAt - (snapshot.windowEndedAt - snapshot.windowStartedAt) ∧
    snapshot.comparison.previousWindowEndedAt = snapshot.windowStartedAt ∧
    snapshot.runs = runSummary (db.runCounts dimensions snapshot.current) ∧
    snapshot.previousRuns = runSummary (db.runCounts dimensions snapshot.previous) := by
  intro h
  simp only [calculateQualityComparison, bind_eq_ok, ensure_eq_ok, pure_eq_ok, exists_const] at h
  obtain ⟨hdays, -, -, rfl⟩ := h
  exact ⟨hdays, rfl, rfl, rfl, rfl, rfl, rfl⟩

theorem exists_calculate_ok : (∃ snapshot,
    calculateQualityComparison db policy dimensions windowDays now = .ok snapshot) ↔
    (1 ≤ windowLength policy windowDays ∧ windowLength policy windowDays ≤ 90) ∧
    minInstant ≤ firstMoment (windowLength policy windowDays) (aware now) ∧
    minInstant ≤ firstMoment (windowLength policy windowDays) (aware now) -
      (aware now - firstMoment (windowLength policy windowDays) (aware now)) := by
  simp only [calculateQualityComparison, bind_eq_ok, ensure_eq_ok, pure_eq_ok, exists_const,
    exists_and_left, exists_eq', and_true]
  rfl

theorem dayOf_startOfDay {day : Int} : dayOf (startOfDay day) = day := by
  rw [dayOf, startOfDay, Int.mul_ediv_cancel _ (by decide)]

theorem startOfDay_le {day : Int} {instant : Instant} :
    startOfDay day ≤ instant ↔ day ≤ dayOf instant := by
  rw [startOfDay, dayOf, Int.le_ediv_iff_mul_le (by decide)]

theorem dayOf_mono {a b : Instant} (h : a ≤ b) : dayOf a ≤ dayOf b :=
  Int.ediv_le_ediv (by decide) h

/-! ### Counting -/

/-- A run counts in one of two adjacent windows, if it lies in one of them. -/
theorem filter_adjacent {first second third : Instant} (hfirst : first ≤ second)
    (hsecond : second ≤ third) :
    (qualityRunFilter dimensions ⟨first, second, false⟩ run = true ∧
        qualityRunFilter dimensions ⟨second, third, true⟩ run = false) ∨
      (qualityRunFilter dimensions ⟨first, second, false⟩ run = false ∧
        qualityRunFilter dimensions ⟨second, third, true⟩ run = true) ↔
    dimensions.Covers run ∧ first ≤ run.completedAt ∧ run.completedAt ≤ third := by
  simp only [← Bool.not_eq_true, qualityRunFilter_iff, Bool.false_eq_true, if_false, if_true]
  constructor
  · rintro (⟨⟨hcovers, hlow, hhigh⟩, -⟩ | ⟨-, hcovers, hlow, hhigh⟩)
    · exact ⟨hcovers, hlow, hhigh.le.trans hsecond⟩
    · exact ⟨hcovers, hfirst.trans hlow, hhigh⟩
  · rintro ⟨hcovers, hlow, hhigh⟩
    rcases lt_or_ge run.completedAt second with hbefore | hafter
    · exact .inl ⟨⟨hcovers, hlow, hbefore⟩, fun h => absurd h.2.1 (not_le_of_gt hbefore)⟩
    · exact .inr ⟨fun h => absurd h.2.2 (not_lt_of_ge hafter), hcovers, hafter, hhigh⟩

/-- The points of a trend, added up, are the summary of its window. -/
theorem trend_sum (h : calculateQualityComparison db policy dimensions windowDays now =
      .ok snapshot) (hstatus : status ∈ terminalRunStatuses) :
    ((qualityTrend db policy dimensions windowDays snapshot).map fun point => point.of status).sum =
      snapshot.runs.of status := by
  obtain ⟨⟨hmin, -⟩, hstart, hend, -, -, hruns, -⟩ := calculate_ok h
  have hday : dayOf snapshot.windowStartedAt =
      dayOf snapshot.windowEndedAt - (windowLength policy windowDays - 1) := by
    rw [hstart, hend, firstMoment, dayOf_startOfDay]
  rw [hruns, runSummary_of _ hstatus, get_runCounts, qualityTrend, List.map_map, ended]
  have hbins := sum_bins (fun run : RunRow => decide (run.status = status))
    (fun run : RunRow => dayOf run.completedAt) (dayOf snapshot.windowStartedAt)
    (n := (windowLength policy windowDays).toNat) (db.windowRuns dimensions snapshot.current) ?_
  · rw [← hbins]
    refine congrArg List.sum (List.map_congr_left fun i _ => ?_)
    rw [Function.comp_apply, trendPoint_of _ _ hstatus, get_bucketCounts, List.countP_map]
    refine List.countP_congr fun run _ => ?_
    simp only [Function.comp_apply, Prod.mk.injEq, decide_eq_true_eq, Bool.and_eq_true]
    exact and_comm
  · intro run hrun
    obtain ⟨-, hlow, hhigh⟩ := qualityRunFilter_iff.mp (List.mem_filter.mp hrun).2
    have hlow := dayOf_mono hlow
    have hhigh := dayOf_mono hhigh
    change dayOf snapshot.windowStartedAt ≤ _ at hlow
    change _ ≤ dayOf snapshot.windowEndedAt at hhigh
    omega

/-- Two adjacent windows of equal length; every run that ended in them, and that the report is about,
    is counted in one of the summaries; the trend has one point for each day of the current window, and
    its points add up to the summary. -/
theorem windows_count_once :
    ((∃ snapshot, calculateQualityComparison db policy dimensions windowDays now = .ok snapshot) ↔
      (1 ≤ windowLength policy windowDays ∧ windowLength policy windowDays ≤ 90) ∧
      minInstant ≤ firstMoment (windowLength policy windowDays) (aware now) ∧
      minInstant ≤ firstMoment (windowLength policy windowDays) (aware now) -
        (aware now - firstMoment (windowLength policy windowDays) (aware now))) ∧
    ∀ snapshot, calculateQualityComparison db policy dimensions windowDays now = .ok snapshot →
      (snapshot.previous.endedAt = snapshot.current.startedAt ∧
        snapshot.current.endedAt = aware now ∧
        snapshot.current.endedAt - snapshot.current.startedAt =
          snapshot.previous.endedAt - snapshot.previous.startedAt) ∧
      (∀ run, (qualityRunFilter dimensions snapshot.previous run = true ∧
            qualityRunFilter dimensions snapshot.current run = false) ∨
          (qualityRunFilter dimensions snapshot.previous run = false ∧
            qualityRunFilter dimensions snapshot.current run = true) ↔
        dimensions.Covers run ∧ snapshot.previous.startedAt ≤ run.completedAt ∧
          run.completedAt ≤ snapshot.current.endedAt) ∧
      (∀ status ∈ terminalRunStatuses,
        snapshot.runs.of status = ended status (db.windowRuns dimensions snapshot.current) ∧
        snapshot.previousRuns.of status =
          ended status (db.windowRuns dimensions snapshot.previous)) ∧
      (qualityTrend db policy dimensions windowDays snapshot).map
          QualityTrendPoint.bucketStartedAt =
        ((List.range (windowLength policy windowDays).toNat).map fun i : Nat =>
          startOfDay (dayOf snapshot.current.startedAt + i)) ∧
      dayOf snapshot.current.endedAt =
        dayOf snapshot.current.startedAt + windowLength policy windowDays - 1 ∧
      ∀ status ∈ terminalRunStatuses,
        ((qualityTrend db policy dimensions windowDays snapshot).map fun point =>
          point.of status).sum = snapshot.runs.of status := by
  refine ⟨exists_calculate_ok, fun snapshot h => ?_⟩
  obtain ⟨⟨hmin, -⟩, hstart, hend, hprevious, hprevious', hruns, hpreviousRuns⟩ := calculate_ok h
  have hday : dayOf snapshot.windowStartedAt =
      dayOf snapshot.windowEndedAt - (windowLength policy windowDays - 1) := by
    rw [hstart, hend, firstMoment, dayOf_startOfDay]
  have horder : snapshot.windowStartedAt ≤ snapshot.windowEndedAt := by
    rw [hstart, hend, firstMoment, startOfDay_le]
    omega
  refine ⟨⟨hprevious', hend, ?_⟩, fun run => ?_, fun status hstatus => ⟨?_, ?_⟩, ?_, ?_,
    fun status hstatus => trend_sum h hstatus⟩
  · change snapshot.windowEndedAt - snapshot.windowStartedAt =
      snapshot.comparison.previousWindowEndedAt - snapshot.comparison.previousWindowStartedAt
    rw [hprevious', hprevious, sub_sub_cancel]
  · have hbefore : snapshot.comparison.previousWindowStartedAt ≤ snapshot.windowStartedAt := by
      rw [hprevious]
      exact sub_le_self _ (sub_nonneg.mpr horder)
    rw [Snapshot.previous, hprevious']
    exact filter_adjacent hbefore horder
  · rw [hruns, runSummary_of _ hstatus, get_runCounts]
  · rw [hpreviousRuns, runSummary_of _ hstatus, get_runCounts]
  · rw [qualityTrend, List.map_map]
    rfl
  · change dayOf snapshot.windowEndedAt = dayOf snapshot.windowStartedAt + _ - 1
    omega

end TestOps.Analytics

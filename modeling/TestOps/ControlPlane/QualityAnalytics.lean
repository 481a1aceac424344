import TestOps.Contracts.Uuids
import TestOps.ControlPlane.QualityAlerts
import TestOps.ControlPlane.ResultRows
import TestOps.Lib.Grouping
import TestOps.Lib.Rounding

/-! The quality of a project in two adjacent windows:

      previous window           current window
      ├──────────────────────┤├──────────────────────┤
                               00:00   days in UTC    moment
                               ╰┴┴┴┴┴┴┴─ one trend point a day

    and the cases whose results change too often. -/

namespace TestOps.Analytics

open Checked Grouping Rounding

/-! ### Moments and days -/

/-- `_aware`: a time without an offset is one in UTC. -/
def aware : Timestamp → Instant
  | .naive written => written
  | .aware instant => instant

def microsPerDay : Int := 86400 * 1000000

/-- The day of an instant in UTC. -/
def dayOf (instant : Instant) : Int := instant / microsPerDay

/-- `datetime.combine(day, time.min, tzinfo=UTC)` -/
def startOfDay (day : Int) : Instant := day * microsPerDay

/-- `datetime.min`, before which no date can be computed -/
def minInstant : Instant := startOfDay (-719162)

/-! ### Summaries -/

/-- `_percentage` -/
def percentage (numerator denominator : Nat) : Option ℚ :=
  if denominator = 0 then none
  else some (roundTwo (binary64 ((numerator * 100 : Nat) / (denominator : ℚ))))

structure QualityRunSummary where
  totalTerminalRuns : Nat
  conclusiveRuns : Nat
  passedRuns : Nat
  failedRuns : Nat
  canceledRuns : Nat
  timedOutRuns : Nat
  infraErrorRuns : Nat
  passRatePercent : Option ℚ
  executionReliabilityPercent : Option ℚ
  deriving DecidableEq

structure QualityCaseSummary where
  totalTerminalCases : Nat
  conclusiveCases : Nat
  passedCases : Nat
  failedCases : Nat
  skippedCases : Nat
  canceledCases : Nat
  timedOutCases : Nat
  infraErrorCases : Nat
  passRatePercent : Option ℚ
  deriving DecidableEq

/-- `_run_summary` -/
def runSummary (counts : List (RunStatus × Nat)) : QualityRunSummary :=
  let passed := get counts .passed
  let failed := get counts .failed
  let timedOut := get counts .timedOut
  let infraError := get counts .infraError
  let conclusive := passed + failed
  { totalTerminalRuns := total counts
    conclusiveRuns := conclusive
    passedRuns := passed
    failedRuns := failed
    canceledRuns := get counts .canceled
    timedOutRuns := timedOut
    infraErrorRuns := infraError
    passRatePercent := percentage passed conclusive
    executionReliabilityPercent := percentage conclusive (conclusive + timedOut + infraError) }

/-- `_case_summary` -/
def caseSummary (counts : List (StatusValue × Nat)) : QualityCaseSummary :=
  let passed := get counts .passed
  let failed := get counts .failed
  let conclusive := passed + failed
  { totalTerminalCases := total counts
    conclusiveCases := conclusive
    passedCases := passed
    failedCases := failed
    skippedCases := get counts .skipped
    canceledCases := get counts .canceled
    timedOutCases := get counts .timedOut
    infraErrorCases := get counts .infraError
    passRatePercent := percentage passed conclusive }

/-! ### Windows -/

/-- A run, as the queries read it. -/
structure RunRow where
  id : UUID
  projectId : UUID
  targetId : UUID
  environmentId : UUID
  baselineId : UUID
  status : RunStatus
  finishedAt : Option Instant
  updatedAt : Instant
  deriving DecidableEq

/-- A case of a run, as the queries read it. -/
structure CaseRow where
  runId : UUID
  caseId : UUID
  caseCode : String
  status : StatusValue
  deriving DecidableEq

structure Database where
  runs : List RunRow
  cases : List CaseRow

def RunRow.completedAt (run : RunRow) : Instant := run.finishedAt.getD run.updatedAt

def terminalRunStatuses : List RunStatus := [.passed, .failed, .canceled, .timedOut, .infraError]

def terminalCaseStatuses : List StatusValue :=
  [.passed, .failed, .skipped, .canceled, .timedOut, .infraError]

/-- Which runs a report is about. -/
structure Dimensions where
  projectId : UUID
  targetId : Option UUID
  environmentId : Option UUID
  baselineId : Option UUID

structure Window where
  startedAt : Instant
  endedAt : Instant
  includeEnd : Bool

/-- `_quality_run_filter` -/
def qualityRunFilter (dimensions : Dimensions) (window : Window) (run : RunRow) : Bool :=
  run.projectId = dimensions.projectId && run.status ∈ terminalRunStatuses &&
    window.startedAt ≤ run.completedAt &&
    (if window.includeEnd then decide (run.completedAt ≤ window.endedAt)
      else decide (run.completedAt < window.endedAt)) &&
    dimensions.targetId.all (run.targetId = ·) &&
    dimensions.environmentId.all (run.environmentId = ·) &&
    dimensions.baselineId.all (run.baselineId = ·)

def Database.windowRuns (db : Database) (dimensions : Dimensions) (window : Window) : List RunRow :=
  db.runs.filter (qualityRunFilter dimensions window)

/-- The cases of the runs in a window, each with its run. -/
def Database.windowCases (db : Database) (dimensions : Dimensions) (window : Window) :
    List (CaseRow × RunRow) :=
  db.cases.flatMap fun case => (db.windowRuns dimensions window).filterMap fun run =>
    if run.id = case.runId then some (case, run) else none

def Database.runCounts (db : Database) (dimensions : Dimensions) (window : Window) :
    List (RunStatus × Nat) :=
  counts ((db.windowRuns dimensions window).map RunRow.status)

def Database.caseCounts (db : Database) (dimensions : Dimensions) (window : Window) :
    List (StatusValue × Nat) :=
  counts (((db.windowCases dimensions window).map (·.1.status)).filter (· ∈ terminalCaseStatuses))

/-- What a project says about its quality. -/
structure QualityPolicy where
  sloWindowDays : Int
  alertWarningDropPoints : Nat
  alertCriticalDropPoints : Nat

/-- `_quality_change_signal` -/
def qualityChangeSignal (policy : QualityPolicy) (metric : QualityAlertMetric)
    (currentPercent previousPercent : Option ℚ) : QualityChangeSignal :=
  match currentPercent, previousPercent with
  | some current, some previous =>
    let delta := roundTwo (current - previous)
    let drop := -delta
    { metric, currentPercent, previousPercent
      deltaPercentagePoints := some delta
      alertStatus :=
        if (policy.alertCriticalDropPoints : ℚ) ≤ drop then .active .critical
        else if (policy.alertWarningDropPoints : ℚ) ≤ drop then .active .warning
        else .stable }
  | _, _ =>
    { metric, currentPercent, previousPercent
      deltaPercentagePoints := none
      alertStatus := .noData }

/-- `QualityComparisonSnapshot` -/
structure Snapshot where
  windowStartedAt : Instant
  windowEndedAt : Instant
  runs : QualityRunSummary
  previousRuns : QualityRunSummary
  cases : QualityCaseSummary
  previousCases : QualityCaseSummary
  comparison : QualityWindowComparison
  latestCompletedAt : Option Instant
  deriving DecidableEq

/-- The days of a window; no days are the days of the project. -/
def windowLength (policy : QualityPolicy) (windowDays : Option Int) : Int :=
  match windowDays with
  | some 0 => policy.sloWindowDays
  | some days => days
  | none => policy.sloWindowDays

/-- `calculate_quality_comparison` -/
def calculateQualityComparison (db : Database) (policy : QualityPolicy) (dimensions : Dimensions)
    (windowDays : Option Int) (now : Timestamp) : Except ServiceError Snapshot := do
  let days := windowLength policy windowDays
  ensure (1 ≤ days ∧ days ≤ 90) (.invalidRequest "quality window days must be between 1 and 90")
  let moment := aware now
  let windowStartedAt := startOfDay (dayOf moment - (days - 1))
  ensure (minInstant ≤ windowStartedAt) (.valueError "date value out of range")
  let current : Window := ⟨windowStartedAt, moment, true⟩
  let runs := runSummary (db.runCounts dimensions current)
  let cases := caseSummary (db.caseCounts dimensions current)
  let comparisonDuration := moment - windowStartedAt
  let previousWindowStartedAt := windowStartedAt - comparisonDuration
  ensure (minInstant ≤ previousWindowStartedAt) (.valueError "date value out of range")
  let previous : Window := ⟨previousWindowStartedAt, windowStartedAt, false⟩
  let previousRuns := runSummary (db.runCounts dimensions previous)
  let previousCases := caseSummary (db.caseCounts dimensions previous)
  let signals :=
    [qualityChangeSignal policy .runPassRate runs.passRatePercent previousRuns.passRatePercent,
      qualityChangeSignal policy .casePassRate cases.passRatePercent previousCases.passRatePercent,
      qualityChangeSignal policy .executionReliability runs.executionReliabilityPercent
        previousRuns.executionReliabilityPercent]
  return {
    windowStartedAt := windowStartedAt
    windowEndedAt := moment
    runs := runs
    previousRuns := previousRuns
    cases := cases
    previousCases := previousCases
    comparison := ⟨previousWindowStartedAt, windowStartedAt, policy.alertWarningDropPoints,
      policy.alertCriticalDropPoints, signals⟩
    latestCompletedAt := ((db.windowRuns dimensions current).map RunRow.completedAt).max? }

/-! ### The trend -/

structure QualityTrendPoint where
  bucketStartedAt : Instant
  totalTerminalRuns : Nat
  passedRuns : Nat
  failedRuns : Nat
  canceledRuns : Nat
  timedOutRuns : Nat
  infraErrorRuns : Nat
  passRatePercent : Option ℚ
  deriving DecidableEq

/-- The statuses of a day, as they have been grouped by day and status. -/
def bucketCounts (trendCounts : List ((Int × RunStatus) × Nat)) (bucket : Int) :
    List (RunStatus × Nat) :=
  trendCounts.filterMap fun row => if row.1.1 = bucket then some (row.1.2, row.2) else none

def trendPoint (trendCounts : List ((Int × RunStatus) × Nat)) (bucket : Int) : QualityTrendPoint :=
  let counts := bucketCounts trendCounts bucket
  let bucketPassed := get counts .passed
  let bucketFailed := get counts .failed
  { bucketStartedAt := startOfDay bucket
    totalTerminalRuns := total counts
    passedRuns := bucketPassed
    failedRuns := bucketFailed
    canceledRuns := get counts .canceled
    timedOutRuns := get counts .timedOut
    infraErrorRuns := get counts .infraError
    passRatePercent := percentage bucketPassed (bucketPassed + bucketFailed) }

/-- The trend of `get_quality_analytics`. The database counts by its own days, which are those of
    UTC. -/
def qualityTrend (db : Database) (policy : QualityPolicy) (dimensions : Dimensions)
    (windowDays : Option Int) (snapshot : Snapshot) : List QualityTrendPoint :=
  let days := windowLength policy windowDays
  let window : Window := ⟨snapshot.windowStartedAt, snapshot.windowEndedAt, true⟩
  let trendCounts := counts ((db.windowRuns dimensions window).map fun run =>
    (dayOf run.completedAt, run.status))
  (List.range days.toNat).map fun index : Nat =>
    trendPoint trendCounts (dayOf snapshot.windowStartedAt + index)

/-! ### Cases that change -/

/-- A case result, as the query for flaky cases returns it. -/
structure FlakyRow where
  caseId : UUID
  caseCode : String
  status : String
  occurredAt : Timestamp
  runId : UUID
  deriving DecidableEq

structure Observation where
  occurredAt : Instant
  runText : String
  caseCode : String
  status : String
  deriving DecidableEq

structure FlakyCaseResponse where
  caseId : UUID
  caseCode : String
  conclusiveExecutions : Nat
  passedExecutions : Nat
  failedExecutions : Nat
  passRatePercent : ℚ
  statusTransitions : Nat
  transitionRatePercent : ℚ
  latestStatus : String
  latestCompletedAt : Instant
  deriving DecidableEq

def maxFlakyCases : Nat := 20

def flakyMinConclusiveExecutions : Nat := 3

def flakyMinStatusTransitions : Nat := 2

def FlakyRow.isConclusive (row : FlakyRow) : Bool := row.status = "PASSED" || row.status = "FAILED"

def FlakyRow.observation (row : FlakyRow) : Observation :=
  ⟨aware row.occurredAt, uuidText row.runId, row.caseCode, row.status⟩

/-- What has been observed of each case, the cases in the order of their first rows. -/
def histories (rows : List FlakyRow) : List (UUID × List Observation) :=
  let conclusive := rows.filter FlakyRow.isConclusive
  (conclusive.map FlakyRow.caseId).reverse.dedup.reverse.map fun caseId =>
    (caseId, (conclusive.filter fun row => row.caseId = caseId).map FlakyRow.observation)

/-- Observations go by time, and then by run. -/
def Observation.key (o : Observation) : Instant ×ₗ String := toLex (o.occurredAt, o.runText)

def transitions (statuses : List String) : Nat :=
  (statuses.zip statuses.tail).countP fun pair => decide (pair.1 ≠ pair.2)

def flakyCase (caseId : UUID) (ordered : List Observation) (latest : Observation) :
    FlakyCaseResponse :=
  let statuses := ordered.map Observation.status
  let passed := statuses.count "PASSED"
  { caseId := caseId
    caseCode := latest.caseCode
    conclusiveExecutions := ordered.length
    passedExecutions := passed
    failedExecutions := statuses.count "FAILED"
    passRatePercent := (percentage passed ordered.length).getD 0
    statusTransitions := transitions statuses
    transitionRatePercent := (percentage (transitions statuses) (ordered.length - 1)).getD 0
    latestStatus := latest.status
    latestCompletedAt := latest.occurredAt }

/-- One round of the loop over the histories. -/
def detectFlakyCase (history : UUID × List Observation) : Option FlakyCaseResponse :=
  let ordered := sortBy Observation.key history.2
  let statuses := ordered.map Observation.status
  if ordered.length < flakyMinConclusiveExecutions then none
  else if statuses.count "PASSED" = 0 ∨ statuses.count "FAILED" = 0 ∨
      transitions statuses < flakyMinStatusTransitions then none
  else ordered.getLast?.map (flakyCase history.1 ordered)

/-- `datetime.timestamp` -/
def timestamp (instant : Instant) : ℚ := binary64 (instant / 1000000)

/-- By what the flaky cases are sorted. -/
def FlakyCaseResponse.key (item : FlakyCaseResponse) :
    ℚ ×ₗ Int ×ₗ Int ×ₗ ℚ ×ₗ String ×ₗ String :=
  toLex (-item.transitionRatePercent, toLex (-(item.statusTransitions : Int),
    toLex (-(item.conclusiveExecutions : Int), toLex (-timestamp item.latestCompletedAt,
      toLex (item.caseCode, uuidText item.caseId)))))

/-- `_detect_flaky_cases` -/
def detectFlakyCases (rows : List FlakyRow) : List FlakyCaseResponse × Nat :=
  let detected := sortBy FlakyCaseResponse.key ((histories rows).filterMap detectFlakyCase)
  (detected.take maxFlakyCases, detected.length)

end TestOps.Analytics

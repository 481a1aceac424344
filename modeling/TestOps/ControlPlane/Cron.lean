import TestOps.ControlPlane.Persistence
import TestOps.Lib.Checked

/-! Cron expressions of five fields, and the instants at which they fire.

      minute  hour  day of month  month  day of week

    An expression is read against the wall clock of a time zone: a wall time that the zone skips never
    fires, and one that it repeats fires once per fold. -/

namespace TestOps

open Checked

/-! ### Reading fields -/

/-- A time zone: the wall time and fold of an instant, and the instant of a wall time and fold. Wall
    times count microseconds like instants do, as if the wall clock showed UTC. -/
structure ZoneInfo where
  toLocal : Instant → Int × Bool
  toUtc : Int → Bool → Instant

/-- What the evaluator takes from its platform. -/
structure CronLibrary where
  /-- The IANA time zone database. -/
  zoneInfo : String → Option ZoneInfo
  /-- The value of a decimal digit of any script. -/
  decimal : Char → Option Nat
  /-- The characters at which a text without separator splits. -/
  isSpace : Char → Bool
  /-- The digits that `int` reads at most, leading zeros included. -/
  maxStrDigits : Nat

def cronValidationError (message : String) : ServiceError := .valueError message

/-- Digits, of which single underscores may separate two. -/
def CronLibrary.digits (lib : CronLibrary) : Option Nat → List Char → Option Nat
  | value, [] => value
  | some value, '_' :: c :: cs => do
    let digit ← lib.decimal c
    lib.digits (some (value * 10 + digit)) cs
  | value, c :: cs => do
    let digit ← lib.decimal c
    lib.digits (some (value.getD 0 * 10 + digit)) cs

/-- The number that the digits after a sign spell, unless there are too many. -/
def CronLibrary.magnitude (lib : CronLibrary) (cs : List Char) : Option Nat :=
  if (cs.filter (· ≠ '_')).length ≤ lib.maxStrDigits then lib.digits none cs else none

/-- The integer a text spells, with an optional sign. -/
def CronLibrary.int (lib : CronLibrary) : List Char → Option Int
  | '+' :: cs => (lib.magnitude cs).map Int.ofNat
  | '-' :: cs => (lib.magnitude cs).map fun n => -(n : Int)
  | cs => (lib.magnitude cs).map Int.ofNat

structure CronField where
  values : List Nat
  wildcard : Bool
  deriving DecidableEq

def parseNumber (lib : CronLibrary) (value : List Char) (minimum maximum : Nat) (name : String) :
    Except ServiceError Nat := do
  let parsed ← found (lib.int value)
    (cronValidationError (name ++ " contains a non-numeric value: " ++ String.ofList value))
  ensure (minimum ≤ parsed ∧ parsed ≤ maximum) (cronValidationError
    (name ++ " must be between " ++ toString minimum ++ " and " ++ toString maximum))
  return parsed.toNat

/-- The step of a segment, after its slash. -/
def parseStep (lib : CronLibrary) (rawStep : Option (List Char)) (name : String) :
    Except ServiceError Nat :=
  match rawStep with
  | none => return 1
  | some raw => do
    let step ← found (lib.int raw) (cronValidationError (name ++ " step must be numeric"))
    ensure (0 < step) (cronValidationError (name ++ " step must be greater than zero"))
    return step.toNat

/-- The first and the last value of a segment. -/
def parseRange (lib : CronLibrary) (base : List Char) (stepped : Bool) (minimum maximum : Nat)
    (name : String) : Except ServiceError (Nat × Nat) :=
  if base = ['*'] then
    return (minimum, maximum)
  else if '-' ∈ base then do
    let start ← parseNumber lib (base.takeWhile (· ≠ '-')) minimum maximum name
    let stop ← parseNumber lib ((base.dropWhile (· ≠ '-')).drop 1) minimum maximum name
    ensure (start ≤ stop) (cronValidationError (name ++ " range start must not exceed its end"))
    return (start, stop)
  else do
    let start ← parseNumber lib base minimum maximum name
    return (start, if stepped then maximum else start)

/-- The values of one segment of a field. -/
def parseSegment (lib : CronLibrary) (raw item : List Char) (minimum maximum : Nat)
    (name : String) : Except ServiceError (List Nat) := do
  ensure (item ≠ [] ∧ item.count '/' ≤ 1) (cronValidationError
    ("invalid " ++ name ++ " segment: " ++ String.ofList (if item = [] then raw else item)))
  let base := item.takeWhile (· ≠ '/')
  let rawStep := if '/' ∈ item then some ((item.dropWhile (· ≠ '/')).drop 1) else none
  let step ← parseStep lib rawStep name
  let (start, stop) ← parseRange lib base rawStep.isSome minimum maximum name
  return (List.range (stop + 1)).filter fun value => start ≤ value ∧ (value - start) % step = 0

/-- A field: a list of segments, separated by commas. -/
def parseField (lib : CronLibrary) (raw : List Char) (minimum maximum : Nat) (name : String) :
    Except ServiceError CronField := do
  ensure (raw ≠ []) (cronValidationError (name ++ " cannot be empty"))
  let segments ← (raw.splitOn ',').mapM fun item => parseSegment lib raw item minimum maximum name
  let values := segments.flatten.dedup
  ensure (values ≠ []) (cronValidationError (name ++ " selects no values"))
  return ⟨values, raw = ['*']⟩

structure CronExpression where
  expression : String
  minute : CronField
  hour : CronField
  dayOfMonth : CronField
  month : CronField
  dayOfWeek : CronField
  deriving DecidableEq

/-- The parts of an expression; blanks around and between them do not matter. -/
def cronParts (lib : CronLibrary) (expression : String) : List (List Char) :=
  (expression.toList.splitOnP lib.isSpace).filter (· ≠ [])

def CronExpression.parse (lib : CronLibrary) (expression : String) :
    Except ServiceError CronExpression :=
  match cronParts lib expression with
  | [rawMinute, rawHour, rawDayOfMonth, rawMonth, rawDayOfWeek] => do
    let minute ← parseField lib rawMinute 0 59 "minute"
    let hour ← parseField lib rawHour 0 23 "hour"
    let dayOfMonth ← parseField lib rawDayOfMonth 1 31 "day of month"
    let month ← parseField lib rawMonth 1 12 "month"
    let weekday ← parseField lib rawDayOfWeek 0 7 "day of week"
    return {
      expression := " ".intercalate ((cronParts lib expression).map String.ofList)
      minute := minute
      hour := hour
      dayOfMonth := dayOfMonth
      month := month
      dayOfWeek :=
        ⟨(weekday.values.map fun value => if value = 7 then 0 else value).dedup,
          weekday.wildcard⟩ }
  | _ => .error (cronValidationError "Cron expression must contain exactly five fields")

def normalizeCronExpression (lib : CronLibrary) (expression : String) :
    Except ServiceError String :=
  CronExpression.expression <$> CronExpression.parse lib expression

/-! ### Dates -/

/-- Days are counted from the first of January 1970. -/
abbrev Day := Int

/-- The last day of the year 9999. -/
def maxDay : Day := 2932896

/-- The day within its era of 400 years; eras begin on the first of March. -/
def dayOfEra (day : Day) : Nat := ((day + 719468) % 146097).toNat

/-- The year of the era; years are taken to begin in March. -/
def yearOfEra (day : Day) : Nat :=
  (dayOfEra day - dayOfEra day / 1460 + dayOfEra day / 36524 - dayOfEra day / 146096) / 365

/-- The month and the day of the month. -/
def monthAndDay (day : Day) : Nat × Nat :=
  let dayOfYear := dayOfEra day - (365 * yearOfEra day + yearOfEra day / 4 - yearOfEra day / 100)
  let marchMonth := (5 * dayOfYear + 2) / 153
  (if marchMonth < 10 then marchMonth + 3 else marchMonth - 9,
    dayOfYear - (153 * marchMonth + 2) / 5 + 1)

/-- The year of the calendar. -/
def yearOf (day : Day) : Int :=
  (day + 719468) / 146097 * 400 + yearOfEra day + if (monthAndDay day).1 ≤ 2 then 1 else 0

/-- The day of the week; Sunday is 0. -/
def cronWeekday (day : Day) : Nat := ((day + 4) % 7).toNat

def CronExpression.dateMatches (cron : CronExpression) (candidate : Day) : Bool :=
  if (monthAndDay candidate).1 ∈ cron.month.values then
    let dayMatch := decide ((monthAndDay candidate).2 ∈ cron.dayOfMonth.values)
    let weekdayMatch := decide (cronWeekday candidate ∈ cron.dayOfWeek.values)
    if cron.dayOfMonth.wildcard && cron.dayOfWeek.wildcard then true
    else if cron.dayOfMonth.wildcard then weekdayMatch
    else if cron.dayOfWeek.wildcard then dayMatch
    else dayMatch || weekdayMatch
  else false

/-! ### The next occurrence -/

def microsPerMinute : Int := 60 * 1000000

def cronMicrosPerDay : Int := 86400 * 1000000

/-- The instants of a local date at which the expression fires after an instant. -/
def CronExpression.candidates (cron : CronExpression) (zone : ZoneInfo) (instant : Instant)
    (localDate : Day) : List Instant :=
  cron.hour.values.flatMap fun hour => cron.minute.values.flatMap fun minute =>
    [false, true].filterMap fun fold =>
      let localNaive := localDate * cronMicrosPerDay + (hour * 60 + minute) * microsPerMinute
      let candidate := zone.toUtc localNaive fold
      if zone.toLocal candidate = (localNaive, fold) ∧ instant < candidate then some candidate
      else none

/-- Search the given number of dates, from a local date on. -/
def CronExpression.searchFrom (cron : CronExpression) (zone : ZoneInfo) (instant : Instant) :
    Nat → Day → Except ServiceError Instant
  | 0, _ =>
    .error (cronValidationError "Cron expression has no occurrence within eight years")
  | days + 1, localDate => do
    ensure (localDate ≤ maxDay) (.valueError "date value out of range")
    if cron.dateMatches localDate = true then
      match (cron.candidates zone instant localDate).min? with
      | some candidate => return candidate
      | none => cron.searchFrom zone instant days (localDate + 1)
    else cron.searchFrom zone instant days (localDate + 1)

def maxDays : Nat := 366 * 8 + 2

/-- The first matching instant strictly after `instant`. -/
def CronExpression.nextAfter (lib : CronLibrary) (cron : CronExpression) (instant : Instant)
    (timezoneName : String) : Except ServiceError Instant := do
  let zone ← found (lib.zoneInfo timezoneName)
    (cronValidationError ("unknown IANA timezone: " ++ timezoneName))
  cron.searchFrom zone instant maxDays ((zone.toLocal instant).1 / cronMicrosPerDay)

/-! ### What the search finds -/

variable {lib : CronLibrary} {cron : CronExpression} {zone : ZoneInfo} {instant found : Instant}

theorem candidates_after {localDate : Day} (h : found ∈ cron.candidates zone instant localDate) :
    instant < found := by
  simp only [CronExpression.candidates, List.mem_flatMap, List.mem_filterMap] at h
  obtain ⟨hour, -, minute, -, fold, -, h⟩ := h
  split at h
  · rename_i hmatch
    cases h
    exact hmatch.2
  · cases h

/-- Whatever the search returns comes after the instant it starts from. -/
theorem searchFrom_after {days : Nat} {localDate : Day}
    (h : cron.searchFrom zone instant days localDate = .ok found) : instant < found := by
  induction days generalizing localDate with
  | zero => cases h
  | succ days ih =>
    simp only [CronExpression.searchFrom, bind_eq_ok, ensure_eq_ok] at h
    obtain ⟨-, -, h⟩ := h
    split at h
    · split at h
      · rename_i candidate hmin
        simp only [pure_eq_ok] at h
        subst h
        exact candidates_after (List.min?_mem hmin)
      · exact ih h
    · exact ih h

theorem nextAfter_after {timezoneName : String}
    (h : cron.nextAfter lib instant timezoneName = .ok found) : instant < found := by
  simp only [CronExpression.nextAfter, bind_eq_ok] at h
  obtain ⟨zone, -, h⟩ := h
  exact searchFrom_after h

end TestOps

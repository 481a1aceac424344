import TestOps.Invariants.CronSearch

/-! How long it takes until a date of the calendar comes round again.

      29 February 2096 ──── 2921 days, 2100 has none ────▶ 29 February 2104

    Years are taken to begin in March, so that the leap day is the last day of its year and the months
    before it keep their places. The search looks at 2930 dates, the date of the instant included. -/

namespace TestOps

open Checked

variable {lib : CronLibrary} {cron : CronExpression} {instant : Instant} {day after : Int}
  {expression timezoneName : String}

/-! ### Years that begin in March -/

/-- The days before a year, from the first of March of the year 0. -/
def daysBefore (year : Int) : Int := 365 * year + year / 4 - year / 100 + year / 400

theorem daysBefore_succ (year : Int) :
    daysBefore year + 365 ≤ daysBefore (year + 1) ∧
      daysBefore (year + 1) ≤ daysBefore year + 366 := by
  simp only [daysBefore]
  omega

theorem daysBefore_strictMono : StrictMono daysBefore :=
  strictMono_int_of_lt_succ fun year => by
    have := (daysBefore_succ year).1
    omega

/-- The month and the day of the month on a day of the year. -/
def monthAndDayOf (dayOfYear : Nat) : Nat × Nat :=
  let marchMonth := (5 * dayOfYear + 2) / 153
  (if marchMonth < 10 then marchMonth + 3 else marchMonth - 9,
    dayOfYear - (153 * marchMonth + 2) / 5 + 1)

/-- A day of an era of 400 years, by centuries, spans of four years, years and days of the year. -/
structure InEra (era century leaps year rest : Nat) : Prop where
  eq : era = 36524 * century + 1461 * leaps + 365 * year + rest
  century_le : century ≤ 3
  leaps_le : leaps ≤ 24
  year_le : year ≤ 3
  rest_le : rest ≤ 365
  leapDay : rest = 365 → year = 3 ∧ (leaps < 24 ∨ century = 3)

theorem exists_inEra {era : Nat} (h : era < 146097) :
    ∃ century leaps year rest, InEra era century leaps year rest := by
  by_cases hlast : era = 146096
  · exact ⟨3, 24, 3, 365, by omega, by omega, by omega, by omega, by omega, by omega⟩
  · have hspan := Nat.div_add_mod era 36524
    refine ⟨era / 36524, era % 36524 / 1461, min (era % 36524 % 1461 / 365) 3,
      era % 36524 % 1461 - 365 * min (era % 36524 % 1461 / 365) 3, ?_, ?_, ?_, ?_, ?_, ?_⟩ <;>
      omega

section Era

variable {era century leaps year rest : Nat} (h : InEra era century leaps year rest)

include h

/-- The source's formula for the year of the era. -/
theorem InEra.yearOfEra :
    (era - era / 1460 + era / 36524 - era / 146096) / 365 = 100 * century + 4 * leaps + year := by
  obtain ⟨rfl, hcentury, hleaps, hyear, hrest, hleap⟩ := h
  generalize hera : 36524 * century + 1461 * leaps + 365 * year + rest = era
  have hspans : era / 1460 =
      25 * century + leaps + if 1460 ≤ 24 * century + leaps + 365 * year + rest then 1 else 0 := by
    split <;> omega
  have hcenturies : era / 36524 = century + era / 146096 := by
    by_cases hlast : era = 146096
    · subst hlast
      omega
    · have hcentury : era / 36524 = century := by omega
      omega
  rw [hspans, hcenturies]
  split <;> omega

theorem InEra.daysBefore (eras : Int) :
    daysBefore (400 * eras + (100 * century + 4 * leaps + year)) + rest = 146097 * eras + era ∧
      daysBefore (400 * eras + (100 * century + 4 * leaps + year)) + rest <
        daysBefore (400 * eras + (100 * century + 4 * leaps + year) + 1) := by
  obtain ⟨rfl, hcentury, hleaps, hyear, hrest, hleap⟩ := h
  generalize hyears : (400 * eras + (100 * century + 4 * leaps + year) : Int) = years
  have h4 : years / 4 = 100 * eras + 25 * century + leaps := by omega
  have h100 : years / 100 = 4 * eras + century := by omega
  have h400 : years / 400 = eras := by omega
  have h4' : (years + 1) / 4 = 100 * eras + 25 * century + leaps + if year = 3 then 1 else 0 := by
    split <;> omega
  have h100' : (years + 1) / 100 =
      4 * eras + century + if leaps = 24 ∧ year = 3 then 1 else 0 := by
    split <;> omega
  have h400' : (years + 1) / 400 =
      eras + if century = 3 ∧ leaps = 24 ∧ year = 3 then 1 else 0 := by
    split <;> omega
  simp only [TestOps.daysBefore, h4, h100, h400, h4', h100', h400']
  constructor
  · push_cast
    omega
  · split_ifs <;> omega

end Era

/-- A day of a year. -/
structure OnDay (day year : Int) (dayOfYear : Nat) : Prop where
  eq : day + 719468 = daysBefore year + dayOfYear
  within : day + 719468 < daysBefore (year + 1)

/-- Every day is a day of the year that the source finds, and so are its month and day of the
    month. -/
theorem onDay_yearOfEra (day : Int) :
    ∃ dayOfYear, OnDay day (400 * ((day + 719468) / 146097) + yearOfEra day) dayOfYear ∧
      monthAndDay day = monthAndDayOf dayOfYear := by
  obtain ⟨century, leaps, year, rest, h⟩ := exists_inEra (dayOfEra_lt : dayOfEra day < 146097)
  obtain ⟨hdays, hwithin⟩ := h.daysBefore ((day + 719468) / 146097)
  have hera : ((dayOfEra day : Nat) : Int) = (day + 719468) % 146097 := by
    rw [dayOfEra]
    omega
  have hyear : yearOfEra day = 100 * century + 4 * leaps + year := h.yearOfEra
  have hyear' : (yearOfEra day : Int) = 100 * century + 4 * leaps + year := by
    rw [hyear]
    push_cast
    rfl
  refine ⟨rest, ⟨?_, ?_⟩, ?_⟩
  · rw [hyear']
    omega
  · rw [hyear']
    omega
  have hrest : dayOfEra day -
      (365 * yearOfEra day + yearOfEra day / 4 - yearOfEra day / 100) = rest := by
    obtain ⟨heq, -, hleaps, hyear_le, -, -⟩ := h
    have h4 : (100 * century + 4 * leaps + year) / 4 = 25 * century + leaps := by omega
    have h100 : (100 * century + 4 * leaps + year) / 100 = century := by omega
    rw [hyear, h4, h100]
    omega
  simp only [monthAndDay, hrest, monthAndDayOf]

theorem exists_onDay (day : Int) :
    ∃ year dayOfYear, OnDay day year dayOfYear ∧ monthAndDay day = monthAndDayOf dayOfYear :=
  ⟨_, onDay_yearOfEra day⟩

/-- A day belongs to one year only. -/
theorem OnDay.unique {year year' : Int} {dayOfYear dayOfYear' : Nat} (h : OnDay day year dayOfYear)
    (h' : OnDay day year' dayOfYear') : year = year' ∧ dayOfYear = dayOfYear' := by
  have hle : ∀ {a b : Int} {m n : Nat}, OnDay day a m → OnDay day b n → a ≤ b := by
    intro a b m n ha hb
    have hlt : daysBefore a < daysBefore (b + 1) := by
      have := ha.eq
      have := hb.within
      omega
    have := daysBefore_strictMono.lt_iff_lt.mp hlt
    omega
  obtain rfl := le_antisymm (hle h h') (hle h' h)
  have := h.eq
  have := h'.eq
  exact ⟨rfl, by omega⟩

theorem monthAndDay_onDay {year : Int} {dayOfYear : Nat} (h : OnDay day year dayOfYear) :
    monthAndDay day = monthAndDayOf dayOfYear := by
  obtain ⟨year', dayOfYear', h', hmonth⟩ := exists_onDay day
  obtain ⟨-, rfl⟩ := h.unique h'
  exact hmonth

/-! ### The date comes round again -/

/-- Every day of an ordinary year comes round within a year. -/
theorem exists_onDay_after (after : Int) {dayOfYear : Nat} (h : dayOfYear ≤ 364) :
    ∃ day year, OnDay day year dayOfYear ∧ after < day ∧ day ≤ after + 366 := by
  obtain ⟨year, today, ⟨heq, hwithin⟩, -⟩ := exists_onDay after
  obtain ⟨hmin, hmax⟩ := daysBefore_succ year
  obtain ⟨hmin', -⟩ := daysBefore_succ (year + 1)
  by_cases hlater : today < dayOfYear
  · exact ⟨daysBefore year + dayOfYear - 719468, year, ⟨by omega, by omega⟩, by omega, by omega⟩
  · exact ⟨daysBefore (year + 1) + dayOfYear - 719468, year + 1, ⟨by omega, by omega⟩, by omega,
      by omega⟩

/-- A year that begins in March is a leap year when its last day is the 29th of February. -/
def IsLeap (year : Int) : Prop :=
  (year + 1) % 4 = 0 ∧ ((year + 1) % 100 ≠ 0 ∨ (year + 1) % 400 = 0)

theorem daysBefore_leap {year : Int} :
    daysBefore (year + 1) = daysBefore year + 366 ↔ IsLeap year := by
  simp only [daysBefore, IsLeap]
  omega

/-- The next leap year is at most eight years away, and that far only from a leap year. -/
theorem exists_leap_after (year : Int) : ∃ next, IsLeap next ∧ year < next ∧
    daysBefore next ≤ daysBefore year + 2921 ∧
    (¬IsLeap year → daysBefore next ≤ daysBefore year + 2555) := by
  simp only [daysBefore, IsLeap]
  by_cases hcentury : (year + 4 - (year + 1) % 4 + 1) % 100 ≠ 0 ∨
      (year + 4 - (year + 1) % 4 + 1) % 400 = 0
  · exact ⟨year + 4 - (year + 1) % 4, by omega, by omega, by omega, by omega⟩
  · exact ⟨year + 8 - (year + 1) % 4, by omega, by omega, by omega, by omega⟩

/-- A leap day comes round within eight years. -/
theorem exists_leapDay_after (after : Int) :
    ∃ day year, OnDay day year 365 ∧ after < day ∧ day ≤ after + 2921 := by
  obtain ⟨year, today, ⟨heq, hwithin⟩, -⟩ := exists_onDay after
  have onLeapDay {leap : Int} (hleap : IsLeap leap) :
      OnDay (daysBefore leap + 365 - 719468) leap 365 := by
    have := daysBefore_leap.mpr hleap
    exact ⟨by omega, by omega⟩
  obtain ⟨next, hnext, hlt, hmax, hmax'⟩ := exists_leap_after year
  have hle : daysBefore (year + 1) ≤ daysBefore next := daysBefore_strictMono.monotone hlt
  by_cases hleap : IsLeap year
  · by_cases hlast : today < 365
    · exact ⟨_, year, onLeapDay hleap, by omega, by omega⟩
    · have := (daysBefore_succ year).2
      exact ⟨_, next, onLeapDay hnext, by omega, by omega⟩
  · have := hmax' hleap
    exact ⟨_, next, onLeapDay hnext, by omega, by omega⟩

/-- Every month and day of the month that exist come round within eight years. -/
theorem exists_monthAndDay_after (after day : Int) :
    ∃ later, after < later ∧ later ≤ after + 2921 ∧ monthAndDay later = monthAndDay day := by
  obtain ⟨year, dayOfYear, hon, hmonth⟩ := exists_onDay day
  by_cases hleap : dayOfYear ≤ 364
  · obtain ⟨later, year', hlater, hlt, hle⟩ := exists_onDay_after after hleap
    exact ⟨later, hlt, by omega, by rw [monthAndDay_onDay hlater, hmonth]⟩
  · have hlast : dayOfYear = 365 := by
      have := hon.eq
      have := hon.within
      have := (daysBefore_succ year).2
      omega
    obtain ⟨later, year', hlater, hlt, hle⟩ := exists_leapDay_after after
    exact ⟨later, hlt, hle, by rw [monthAndDay_onDay hlater, hmonth, hlast]⟩

theorem month_of_firstWeek {marchMonth days : Nat} (hdays : days ≤ 6) :
    (5 * ((153 * marchMonth + 2) / 5 + days) + 2) / 153 = marchMonth := by
  omega

/-- Every weekday of a month comes round with the month. -/
theorem exists_monthAndWeekday_after (after day : Int) :
    ∃ later, after < later ∧ later ≤ after + 372 ∧
      (monthAndDay later).1 = (monthAndDay day).1 ∧ cronWeekday later = cronWeekday day := by
  obtain ⟨year, dayOfYear, hon, hmonth⟩ := exists_onDay day
  have hmarch : (5 * dayOfYear + 2) / 153 ≤ 11 := by
    have := hon.eq
    have := hon.within
    have := (daysBefore_succ year).2
    omega
  -- the weekday is found in the first week of the month
  have hfirst_le : (153 * ((5 * dayOfYear + 2) / 153) + 2) / 5 ≤ 337 := by omega
  obtain ⟨first, year', hfirst, hlt, hle⟩ := exists_onDay_after after (hfirst_le.trans (by omega))
  have hweek : OnDay (first + (day - first) % 7) year'
      ((153 * ((5 * dayOfYear + 2) / 153) + 2) / 5 + ((day - first) % 7).toNat) := by
    have := hfirst.eq
    have := (daysBefore_succ year').1
    exact ⟨by omega, by omega⟩
  refine ⟨first + (day - first) % 7, by omega, by omega, ?_, ?_⟩
  · rw [monthAndDay_onDay hweek, hmonth, monthAndDayOf, monthAndDayOf,
      month_of_firstWeek (by omega)]
  · simp only [cronWeekday]
    omega

/-- A date that matches at all matches again within the dates the search looks at. -/
theorem exists_match_after (h : cron.dateMatches day = true) (after : Int) :
    ∃ later, after < later ∧ later < after + maxDays ∧ cron.dateMatches later = true := by
  obtain ⟨sameDay, hlt, hle, hmonthDay⟩ := exists_monthAndDay_after after day
  obtain ⟨sameWeekday, hlt', hle', hmonth, hweekday⟩ := exists_monthAndWeekday_after after day
  have hdays : (maxDays : Int) = 2930 := rfl
  by_cases hdom : cron.dateMatches sameDay = true
  · exact ⟨sameDay, hlt, by omega, hdom⟩
  · refine ⟨sameWeekday, hlt', by omega, ?_⟩
    rw [CronExpression.dateMatches, hmonthDay] at hdom
    rw [CronExpression.dateMatches] at h
    rw [CronExpression.dateMatches, hmonth, hweekday]
    cases hd : cron.dayOfMonth.wildcard <;> cases hw : cron.dayOfWeek.wildcard <;> simp_all

/-! ### The search under a fixed offset -/

/-- A zone whose clock is never set. -/
def fixedOffset (offset : Int) : ZoneInfo where
  toLocal t := (t + offset, false)
  toUtc wall _ := wall - offset

/-- A matching date after the date of the instant has a firing after the instant. -/
theorem candidates_ne_nil (h : WellFormed cron) {offset : Int}
    (hdate : cron.dateMatches day = true) (hlt : localDate (fixedOffset offset) instant < day) :
    cron.candidates (fixedOffset offset) instant day ≠ [] := by
  obtain ⟨hour, hhour⟩ := List.exists_mem_of_ne_nil _ h.hour_ne
  obtain ⟨minute, hminute⟩ := List.exists_mem_of_ne_nil _ h.minute_ne
  have hmin := h.minute_le minute hminute
  obtain ⟨hday, hfull, hshown⟩ := wall_shows day (h.hour_le hour hhour) hmin
  generalize hwall :
    day * cronMicrosPerDay + ((hour : Int) * 60 + minute) * microsPerMinute = wall at hday hfull hshown
  have hlocal : (fixedOffset offset).toLocal (wall - offset) = (wall, false) := by
    simp [fixedOffset]
  have hfires : FiresAt cron (fixedOffset offset) (wall - offset) := by
    constructor
    · rw [hlocal]
      exact hfull
    · rw [hlocal, hshown, show (hour * 60 + minute) % 60 = minute by omega]
      exact hminute
    · rw [hlocal, hshown, show (hour * 60 + minute) / 60 = hour by omega]
      exact hhour
    · rw [localDate, hlocal, hday]
      exact (dateMatches_iff h).mp hdate
  apply List.ne_nil_of_mem
  rw [mem_candidates h hdate]
  refine ⟨hfires, ?_, ?_, ?_⟩
  · rw [LeadsBack, hlocal]
    rfl
  · simp only [localDate, fixedOffset, cronMicrosPerDay] at hlt hday
    have hafter : ∀ i : Int, (i + offset) / (86400 * 1000000) < day → i < wall - offset := by
      intro i hi
      omega
    exact hafter instant hlt
  · rw [localDate, hlocal, hday]

/-- The search finds something when one of its dates has a firing. -/
theorem searchFrom_finds {zone : ZoneInfo} {days : Nat} {first : Int}
    (hrange : first + days ≤ maxDay + 1) (hfirst : first ≤ day) (hlast : day < first + days)
    (hdate : cron.dateMatches day = true) (hne : cron.candidates zone instant day ≠ []) :
    ∃ result, cron.searchFrom zone instant days first = .ok result := by
  induction days generalizing first with
  | zero => omega
  | succ days ih =>
    have hsucc : ((days + 1 : Nat) : Int) = days + 1 := rfl
    have later (hlt : first < day) :
        ∃ result, cron.searchFrom zone instant days (first + 1) = .ok result :=
      ih (by omega) (by omega) (by omega)
    have hday : first ≤ maxDay := by omega
    rw [CronExpression.searchFrom, ensure_true hday, ok_bind]
    split
    · split
      · exact ⟨_, rfl⟩
      · rename_i hnone
        refine later (lt_of_le_of_ne hfirst ?_)
        rintro rfl
        exact hne (List.min?_eq_none_iff.mp hnone)
    · rename_i hmatch
      refine later (lt_of_le_of_ne hfirst ?_)
      rintro rfl
      exact hmatch hdate

/-- Under a fixed offset the search succeeds exactly when some date matches. -/
theorem nextAfter_fixedOffset_iff {offset : Int}
    (hparse : CronExpression.parse lib expression = .ok cron)
    (hzone : lib.zoneInfo timezoneName = some (fixedOffset offset))
    (hrange : localDate (fixedOffset offset) instant + maxDays ≤ maxDay) :
    (∃ result, cron.nextAfter lib instant timezoneName = .ok result) ↔
      ∃ day, MatchesDate cron day := by
  have hformed := parse_wellFormed hparse
  constructor
  · rintro ⟨result, hresult⟩
    obtain ⟨hfirst, -⟩ := nextAfter_onFirstDate hformed hzone hresult
    exact ⟨_, hfirst.1.fires.date⟩
  · rintro ⟨day, hday⟩
    obtain ⟨later, hlt, hlast, hmatch⟩ :=
      exists_match_after ((dateMatches_iff hformed).mpr hday) (localDate (fixedOffset offset) instant)
    obtain ⟨result, hresult⟩ := searchFrom_finds (by omega) hlt.le hlast hmatch
      (candidates_ne_nil hformed hmatch hlt)
    exact ⟨result, bind_eq_ok.mpr ⟨_, found_eq_ok.mpr hzone, hresult⟩⟩

/-- A yearly expression on the leap day is found from the day after it, eight years ahead. -/
theorem leapDay_found : ∃ result, CronExpression.nextAfter
    { Installation.cronLibrary with zoneInfo := fun _ => some (fixedOffset 0) }
    ⟨"0 0 29 2 *", ⟨[0], false⟩, ⟨[0], false⟩, ⟨[29], false⟩, ⟨[2], false⟩,
      ⟨List.range' 1 6 ++ [0], true⟩⟩ (46080 * cronMicrosPerDay) "UTC" = .ok result := by
  refine (@nextAfter_fixedOffset_iff _ _ _ "0 0 29 2 *" "UTC" 0 rfl rfl (by decide)).mpr
    ⟨46080, ?_⟩
  rw [MatchesDate]
  decide

end TestOps

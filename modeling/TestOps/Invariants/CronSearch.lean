import TestOps.Invariants.CronGrammar

/-! The order in which the next occurrence of a cron expression is searched: date by date of the local
    calendar, and by the clock within one date.

      dates     d₀          d₀ + 1        d₀ + 2
      firings   { } ──────▶ { } ────────▶ { t₁, t₂, .. } ──▶ min

    Where the local clock is set back over midnight, calendar and clock disagree: a firing of the date
    that comes back is passed over, or one of the next date that came before it. -/

namespace TestOps

open Checked

variable {lib : CronLibrary} {cron : CronExpression} {zone : ZoneInfo} {instant result t : Instant}
  {day first : Int} {expression timezoneName : String}

/-! ### When an expression fires -/

/-- Day of month and day of week are alternatives where both are restricted. -/
def MatchesDate (cron : CronExpression) (day : Day) : Prop :=
  (monthAndDay day).1 ∈ cron.month.values ∧
    if cron.dayOfMonth.wildcard = false ∧ cron.dayOfWeek.wildcard = false then
      (monthAndDay day).2 ∈ cron.dayOfMonth.values ∨ cronWeekday day ∈ cron.dayOfWeek.values
    else (monthAndDay day).2 ∈ cron.dayOfMonth.values ∧ cronWeekday day ∈ cron.dayOfWeek.values

/-- The local date of an instant. -/
def localDate (zone : ZoneInfo) (t : Instant) : Int := (zone.toLocal t).1 / cronMicrosPerDay

/-- The minute of the day on the wall clock. -/
def minuteOfDay (wall : Int) : Nat := (wall / microsPerMinute % 1440).toNat

/-- An expression fires when the wall clock shows a full minute that matches its five fields. -/
structure FiresAt (cron : CronExpression) (zone : ZoneInfo) (t : Instant) : Prop where
  fullMinute : (zone.toLocal t).1 % microsPerMinute = 0
  minute : minuteOfDay (zone.toLocal t).1 % 60 ∈ cron.minute.values
  hour : minuteOfDay (zone.toLocal t).1 / 60 ∈ cron.hour.values
  date : MatchesDate cron (localDate zone t)

/-- The wall time and the fold of an instant lead back to it. -/
def LeadsBack (zone : ZoneInfo) (t : Instant) : Prop :=
  zone.toUtc (zone.toLocal t).1 (zone.toLocal t).2 = t

/-! ### Dates -/

theorem dayOfEra_lt : dayOfEra day < 146097 := by
  rw [dayOfEra]
  omega

theorem monthAndDay_bounds : 1 ≤ (monthAndDay day).2 ∧ (monthAndDay day).2 ≤ 31 := by
  have hera : dayOfEra day < 146097 := dayOfEra_lt
  simp only [monthAndDay, yearOfEra]
  omega

theorem cronWeekday_le : cronWeekday day ≤ 6 := by
  rw [cronWeekday]
  omega

/-- For a parsed expression the source's test of a date is the specification. -/
theorem dateMatches_iff (h : WellFormed cron) :
    cron.dateMatches day = true ↔ MatchesDate cron day := by
  have hday (hwildcard : cron.dayOfMonth.wildcard = true) :
      (monthAndDay day).2 ∈ cron.dayOfMonth.values :=
    h.anyDay hwildcard _ monthAndDay_bounds.1 monthAndDay_bounds.2
  have hweekday (hwildcard : cron.dayOfWeek.wildcard = true) :
      cronWeekday day ∈ cron.dayOfWeek.values := h.anyWeekday hwildcard _ cronWeekday_le
  rw [CronExpression.dateMatches, MatchesDate]
  cases hd : cron.dayOfMonth.wildcard <;> cases hw : cron.dayOfWeek.wildcard <;>
    simp_all

/-! ### The firings of one date -/

/-- A date, an hour and a minute make a wall time that shows them. -/
theorem wall_shows (day : Int) {hour minute : Nat} (hhour : hour ≤ 23) (hminute : minute ≤ 59) :
    (day * cronMicrosPerDay + ((hour : Int) * 60 + minute) * microsPerMinute) / cronMicrosPerDay =
        day ∧
      (day * cronMicrosPerDay + (hour * 60 + minute) * microsPerMinute) % microsPerMinute = 0 ∧
      minuteOfDay (day * cronMicrosPerDay + (hour * 60 + minute) * microsPerMinute) =
        hour * 60 + minute := by
  simp only [minuteOfDay, cronMicrosPerDay, microsPerMinute]
  omega

/-- A full minute is put together from what the wall clock shows. -/
theorem wall_of_fullMinute {wall : Int} (h : wall % microsPerMinute = 0) :
    wall / cronMicrosPerDay * cronMicrosPerDay +
      (((minuteOfDay wall / 60 : Nat) : Int) * 60 + (minuteOfDay wall % 60 : Nat)) *
        microsPerMinute = wall := by
  simp only [minuteOfDay, cronMicrosPerDay, microsPerMinute] at h ⊢
  omega

theorem mem_cast {values : List Nat} {n : Int} :
    (n ∈ do let value ← values; pure (value : Int)) ↔ ∃ value ∈ values, (value : Int) = n := by
  simp [eq_comm]

/-- The candidates of a date are the firings after the instant to which their wall time leads back. -/
theorem mem_candidates (h : WellFormed cron) (hdate : cron.dateMatches day = true) :
    t ∈ cron.candidates zone instant day ↔
      FiresAt cron zone t ∧ LeadsBack zone t ∧ instant < t ∧ localDate zone t = day := by
  simp only [CronExpression.candidates, List.mem_flatMap, List.mem_filterMap]
  constructor
  · rintro ⟨_, hhour, _, hminute, fold, -, ht⟩
    obtain ⟨hour, hour_mem, rfl⟩ := mem_cast.mp hhour
    obtain ⟨minute, minute_mem, rfl⟩ := mem_cast.mp hminute
    have hmin := h.minute_le minute minute_mem
    obtain ⟨hday, hfull, hshown⟩ := wall_shows day (h.hour_le hour hour_mem) hmin
    split at ht
    · rename_i hround
      obtain ⟨hlocal, hafter⟩ := hround
      cases ht
      refine ⟨⟨?_, ?_, ?_, ?_⟩, ?_, hafter, ?_⟩
      · rw [hlocal]
        exact hfull
      · rw [hlocal, hshown, show (hour * 60 + minute) % 60 = minute by omega]
        exact minute_mem
      · rw [hlocal, hshown, show (hour * 60 + minute) / 60 = hour by omega]
        exact hour_mem
      · rw [localDate, hlocal, hday]
        exact (dateMatches_iff h).mp hdate
      · rw [LeadsBack, hlocal]
      · rw [localDate, hlocal, hday]
    · cases ht
  · rintro ⟨hfires, hback, hafter, rfl⟩
    refine ⟨_, mem_cast.mpr ⟨_, hfires.hour, rfl⟩, _, mem_cast.mpr ⟨_, hfires.minute, rfl⟩,
      (zone.toLocal t).2, ?_, ?_⟩
    · cases (zone.toLocal t).2 <;> simp
    · rw [localDate, wall_of_fullMinute hfires.fullMinute, hback, if_pos ⟨rfl, hafter⟩]

/-- The search returns the first firing of the first date that has one. -/
theorem searchFrom_ok {days : Nat} (h : cron.searchFrom zone instant days first = .ok result) :
    ∃ day, first ≤ day ∧ cron.dateMatches day = true ∧
      (cron.candidates zone instant day).min? = some result ∧
      ∀ earlier, first ≤ earlier → earlier < day → cron.dateMatches earlier = true →
        cron.candidates zone instant earlier = [] := by
  induction days generalizing first with
  | zero => cases h
  | succ days ih =>
    simp only [CronExpression.searchFrom, bind_eq_ok, ensure_eq_ok] at h
    obtain ⟨-, -, h⟩ := h
    have later (hrest : cron.searchFrom zone instant days (first + 1) = .ok result)
        (hempty : cron.dateMatches first = true → cron.candidates zone instant first = []) :
        ∃ day, first ≤ day ∧ cron.dateMatches day = true ∧
          (cron.candidates zone instant day).min? = some result ∧
          ∀ earlier, first ≤ earlier → earlier < day → cron.dateMatches earlier = true →
            cron.candidates zone instant earlier = [] := by
      obtain ⟨day, hle, hmatch, hmin, hbefore⟩ := ih hrest
      refine ⟨day, by omega, hmatch, hmin, fun earlier hfirst hlt hearlier => ?_⟩
      rcases eq_or_lt_of_le hfirst with rfl | hfirst
      · exact hempty hearlier
      · exact hbefore earlier (by omega) hlt hearlier
    split at h
    · rename_i hmatch
      split at h
      · rename_i candidate hmin
        simp only [pure_eq_ok] at h
        subst h
        exact ⟨first, le_rfl, hmatch, hmin, fun earlier hle hlt => by omega⟩
      · rename_i hnone
        exact later h fun _ => List.min?_eq_none_iff.mp hnone
    · rename_i hmatch
      exact later h fun hmatch' => absurd hmatch' hmatch

/-! ### The first firing -/

/-- A firing the search looks at: its wall time leads back to it, and its local date is that of the
    instant or a later one. -/
structure Searched (cron : CronExpression) (zone : ZoneInfo) (instant t : Instant) : Prop where
  fires : FiresAt cron zone t
  leadsBack : LeadsBack zone t
  after : instant < t
  date : localDate zone instant ≤ localDate zone t

/-- A firing on the first date of the calendar that has one. -/
def OnFirstDate (cron : CronExpression) (zone : ZoneInfo) (instant t : Instant) : Prop :=
  Searched cron zone instant t ∧
    ∀ u, Searched cron zone instant u → localDate zone t ≤ localDate zone u

/-- After the instant, nothing fires before the firings of the first date. -/
def ClockFollowsCalendar (cron : CronExpression) (zone : ZoneInfo) (instant : Instant) : Prop :=
  ∀ t, FiresAt cron zone t → instant < t → ∃ t' ≤ t, OnFirstDate cron zone instant t'

/-- The result is the first firing of the first date. -/
theorem nextAfter_onFirstDate (h : WellFormed cron) (hzone : lib.zoneInfo timezoneName = some zone)
    (hresult : cron.nextAfter lib instant timezoneName = .ok result) :
    OnFirstDate cron zone instant result ∧
      ∀ t, OnFirstDate cron zone instant t → result ≤ t := by
  simp only [CronExpression.nextAfter, bind_eq_ok, found_eq_ok] at hresult
  obtain ⟨zone', hzone', hsearch⟩ := hresult
  obtain rfl : zone = zone' := Option.some.inj (hzone.symm.trans hzone')
  obtain ⟨day, hfirst, hmatch, hmin, hbefore⟩ := searchFrom_ok hsearch
  obtain ⟨hmem, hle⟩ := List.min?_eq_some_iff.mp hmin
  obtain ⟨hfires, hback, hafter, hday⟩ := (mem_candidates h hmatch).mp hmem
  have hsearched : Searched cron zone instant result := ⟨hfires, hback, hafter, hday ▸ hfirst⟩
  have hdates : ∀ u, Searched cron zone instant u → day ≤ localDate zone u := by
    intro u hu
    by_contra hlt
    have hdate := (dateMatches_iff h).mpr hu.fires.date
    have hempty := hbefore _ hu.date (not_le.mp hlt) hdate
    exact List.ne_nil_of_mem ((mem_candidates h hdate).mpr ⟨hu.fires, hu.leadsBack, hu.after, rfl⟩)
      hempty
  refine ⟨⟨hsearched, fun u hu => hday ▸ hdates u hu⟩, ?_⟩
  rintro t ⟨ht, htfirst⟩
  have hsame : localDate zone t = day :=
    le_antisymm (hday ▸ htfirst result hsearched) (hdates t ht)
  exact hle t ((mem_candidates h hmatch).mpr ⟨ht.fires, ht.leadsBack, ht.after, hsame⟩)

/-- The result is the earliest firing exactly when the clock follows the calendar. -/
theorem nextAfter_isLeast_iff (hparse : CronExpression.parse lib expression = .ok cron)
    (hzone : lib.zoneInfo timezoneName = some zone)
    (hresult : cron.nextAfter lib instant timezoneName = .ok result) :
    IsLeast {t | FiresAt cron zone t ∧ instant < t} result ↔
      ClockFollowsCalendar cron zone instant := by
  obtain ⟨hfirst, hleast⟩ := nextAfter_onFirstDate (parse_wellFormed hparse) hzone hresult
  constructor
  · rintro ⟨-, hle⟩ t hfires hafter
    exact ⟨result, hle ⟨hfires, hafter⟩, hfirst⟩
  · intro hfollows
    refine ⟨⟨hfirst.1.fires, hfirst.1.after⟩, fun t ⟨hfires, hafter⟩ => ?_⟩
    obtain ⟨t', hle, hfirst'⟩ := hfollows t hfires hafter
    exact (hleast t' hfirst').trans hle

/-- The clock follows the calendar in a zone whose local date never goes back and whose wall times
    lead back. -/
theorem clockFollowsCalendar_of_monotone (hback : ∀ t, LeadsBack zone t)
    (hdates : Monotone (localDate zone)) : ClockFollowsCalendar cron zone instant := by
  intro t hfires hafter
  have ht : Searched cron zone instant t := ⟨hfires, hback t, hafter, hdates hafter.le⟩
  obtain ⟨_, ⟨u, hu, rfl⟩, hleast⟩ := Int.exists_least_of_bdd
    (P := fun date => ∃ u, Searched cron zone instant u ∧ localDate zone u = date)
    ⟨localDate zone instant, by rintro _ ⟨u, hu, rfl⟩; exact hu.date⟩ ⟨_, t, ht, rfl⟩
  have hfirst : ∀ v, Searched cron zone instant v → localDate zone u ≤ localDate zone v :=
    fun v hv => hleast _ ⟨v, hv, rfl⟩
  rcases le_total u t with hle | hle
  · exact ⟨u, hle, hu, hfirst⟩
  · -- the firing itself is on the first date
    exact ⟨t, le_rfl, ht, fun v hv => (hdates hle).trans (hfirst v hv)⟩

/-! ### A clock that is set back over midnight -/

/-- A local clock shows UTC until a minute past midnight, and is then set back by an hour. -/
def setBack : ZoneInfo where
  toLocal t :=
    if t < microsPerMinute then (t, false)
    else (t - 60 * microsPerMinute, decide (t - 60 * microsPerMinute < microsPerMinute))
  toUtc wall fold :=
    if wall < -59 * microsPerMinute ∨ (wall < microsPerMinute ∧ fold = false) then wall
    else wall + 60 * microsPerMinute

def setBackLibrary : CronLibrary := { Installation.cronLibrary with zoneInfo := fun _ => some setBack }

def lateEvening : CronExpression :=
  ⟨"30 23 * * *", ⟨[30], false⟩, ⟨[23], false⟩, ⟨List.range' 1 31, true⟩, ⟨List.range' 1 12, true⟩,
    ⟨List.range' 1 6 ++ [0], true⟩⟩

/-- Half a minute past midnight the next firing at 23:30 is half an hour away, on the date that comes
    back; the search finds the one of the day after. -/
theorem date_passed_over : ∃ cron result,
    CronExpression.parse setBackLibrary "30 23 * * *" = .ok cron ∧
    cron.nextAfter setBackLibrary 30000000 "America/St_Johns" = .ok result ∧
    ¬IsLeast {t | FiresAt cron setBack t ∧ (30000000 : Instant) < t} result := by
  refine ⟨lateEvening, 88200000000, rfl, by decide, fun h => ?_⟩
  have hfires : FiresAt lateEvening setBack 1800000000 := by
    refine ⟨by decide, by decide, by decide, ?_⟩
    rw [MatchesDate]
    decide
  exact absurd (h.2 ⟨hfires, by decide⟩) (by decide)

/-- Where the local clock shows UTC, the same search finds the same evening. -/
theorem lateEvening_found :
    IsLeast {t | FiresAt lateEvening ⟨fun t => (t, false), fun wall _ => wall⟩ t ∧
      (30000000 : Instant) < t} 84600000000 := by
  refine (@nextAfter_isLeast_iff Installation.cronLibrary lateEvening _ 30000000 84600000000
    "30 23 * * *" "UTC" rfl rfl (by decide)).mpr ?_
  exact clockFollowsCalendar_of_monotone (fun _ => rfl) fun t u hle =>
    Int.ediv_le_ediv (by decide) hle

end TestOps

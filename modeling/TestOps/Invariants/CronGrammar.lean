import TestOps.ControlPlane.Service
import TestOps.Lib.Delimited

/-! Which texts are cron expressions, and what they denote.

      field  ::=  item , item , ..
      item   ::=  base  |  base / S
      base   ::=  *  |  N  |  N - M

    The grammar is stated over a reader of numbers. The parser follows it with `int`, which reads more
    than digits: a sign, single underscores, and the digits of every script. So it accepts what the
    grammar over plain digits does not have, such as `+5` or `1_0`. -/

namespace TestOps

open Checked Delimited

variable {lib : CronLibrary} {reads : List Char → Option Int} {minimum maximum : Nat}
  {text item raw base step : List Char} {start stop stride : Nat} {expression name : String}

/-! ### Cutting a text in two -/

/-- A text up to a character that is in it, and the text behind it. -/
theorem cut_eq {c : Char} (h : c ∈ text) :
    text = text.takeWhile (· ≠ c) ++ c :: (text.dropWhile (· ≠ c)).drop 1 := by
  induction text with
  | nil => cases h
  | cons d text ih =>
    by_cases hd : d = c
    · subst hd
      simp
    · have hmem : c ∈ text := (List.mem_cons.mp h).resolve_left fun heq => hd heq.symm
      simpa [hd] using ih hmem

theorem not_mem_takeWhile {c : Char} : c ∉ text.takeWhile (· ≠ c) := by
  intro hmem
  simpa using List.mem_takeWhile_imp hmem

/-- The first part of a text that is put together around a character is cut off again. -/
theorem cut_append {c : Char} {before : List Char} (after : List Char) (h : c ∉ before) :
    (before ++ c :: after).takeWhile (· ≠ c) = before ∧
      ((before ++ c :: after).dropWhile (· ≠ c)).drop 1 = after := by
  induction before with
  | nil => simp
  | cons d before ih =>
    obtain ⟨hd, hbefore⟩ := not_or.mp (List.mem_cons.not.mp h)
    obtain ⟨htake, hdrop⟩ := ih hbefore
    have hne : d ≠ c := fun heq => hd heq.symm
    simp only [List.cons_append, ne_eq, hne, not_false_eq_true, decide_true,
      List.takeWhile_cons_of_pos, List.dropWhile_cons_of_pos]
    exact ⟨by rw [htake], hdrop⟩

theorem takeWhile_eq_self {c : Char} (h : c ∉ text) : text.takeWhile (· ≠ c) = text := by
  rw [List.takeWhile_eq_self_iff]
  intro d hd
  exact decide_eq_true fun heq => h (heq ▸ hd)

theorem range_ne_star {first last : List Char} : first ++ '-' :: last ≠ ['*'] := by
  intro heq
  have hmem : '-' ∈ ['*'] := heq ▸ List.mem_append_right _ List.mem_cons_self
  simp at hmem

/-! ### The grammar -/

/-- What stands before the step of an item, with the first and the last value it runs over. -/
inductive BaseForm (reads : List Char → Option Int) (minimum maximum : Nat) (stepped : Bool) :
    List Char → Nat → Nat → Prop
  | star : BaseForm reads minimum maximum stepped ['*'] minimum maximum
  | single {text : List Char} {n : Nat} : text ≠ ['*'] → '-' ∉ text → reads text = some (n : Int) →
      minimum ≤ n → n ≤ maximum →
      BaseForm reads minimum maximum stepped text n (if stepped then maximum else n)
  | range {first last : List Char} {n m : Nat} : '-' ∉ first → reads first = some (n : Int) →
      reads last = some (m : Int) → minimum ≤ n → n ≤ m → m ≤ maximum →
      BaseForm reads minimum maximum stepped (first ++ '-' :: last) n m

/-- An item of a field, with its first value, its last value and its stride. -/
inductive ItemForm (reads : List Char → Option Int) (minimum maximum : Nat) :
    List Char → Nat → Nat → Nat → Prop
  | plain {base : List Char} {start stop : Nat} : '/' ∉ base →
      BaseForm reads minimum maximum false base start stop →
      ItemForm reads minimum maximum base start stop 1
  | stepped {base step : List Char} {start stop stride : Nat} : '/' ∉ base → '/' ∉ step →
      BaseForm reads minimum maximum true base start stop → reads step = some (stride : Int) →
      0 < stride → ItemForm reads minimum maximum (base ++ '/' :: step) start stop stride

/-- A field is a list of items, separated by commas. -/
def FieldForm (reads : List Char → Option Int) (minimum maximum : Nat) (raw : List Char) : Prop :=
  ∀ item ∈ raw.splitOn ',', ∃ start stop stride,
    ItemForm reads minimum maximum item start stop stride

/-- The values of an arithmetic progression up to its end. -/
def InProgression (start stop stride value : Nat) : Prop :=
  ∃ i, value = start + i * stride ∧ value ≤ stop

/-- A field denotes the values of all its items. -/
def FieldDenotes (reads : List Char → Option Int) (minimum maximum : Nat) (raw : List Char)
    (value : Nat) : Prop :=
  ∃ item ∈ raw.splitOn ',', ∃ start stop stride,
    ItemForm reads minimum maximum item start stop stride ∧ InProgression start stop stride value

/-! ### Fields as the parser reads them -/

theorem parseNumber_ok {n : Nat} :
    parseNumber lib text minimum maximum name = .ok n ↔
      lib.int text = some (n : Int) ∧ minimum ≤ n ∧ n ≤ maximum := by
  simp only [parseNumber, bind_eq_ok, found_eq_ok, ensure_eq_ok, pure_eq_ok]
  constructor
  · rintro ⟨parsed, hparsed, -, ⟨hmin, hmax⟩, rfl⟩
    have hnat : (parsed.toNat : Int) = parsed := Int.toNat_of_nonneg (by omega)
    exact ⟨hnat ▸ hparsed, by omega, by omega⟩
  · rintro ⟨hparsed, hmin, hmax⟩
    exact ⟨n, hparsed, (), by omega, Int.toNat_natCast n⟩

theorem parseRange_ok {stepped : Bool} :
    parseRange lib base stepped minimum maximum name = .ok (start, stop) ↔
      BaseForm lib.int minimum maximum stepped base start stop := by
  rw [parseRange]
  constructor
  · intro h
    split at h
    · rename_i hstar
      obtain ⟨rfl, rfl⟩ := Prod.mk.inj (pure_eq_ok.mp h)
      exact hstar ▸ .star
    · rename_i hstar
      split at h
      · rename_i hdash
        simp only [bind_eq_ok, ensure_eq_ok, pure_eq_ok, Prod.mk.injEq, parseNumber_ok] at h
        obtain ⟨n, ⟨hn, hmin, -⟩, m, ⟨hm, -, hmax⟩, -, hle, rfl, rfl⟩ := h
        rw [cut_eq hdash]
        exact .range not_mem_takeWhile hn hm hmin hle hmax
      · rename_i hdash
        simp only [bind_eq_ok, pure_eq_ok, Prod.mk.injEq, parseNumber_ok] at h
        obtain ⟨n, ⟨hn, hmin, hmax⟩, rfl, rfl⟩ := h
        exact .single hstar hdash hn hmin hmax
  · intro h
    cases h with
    | star => rw [if_pos rfl]; rfl
    | single hstar hdash hn hmin hmax =>
      rw [if_neg hstar, if_neg hdash, parseNumber_ok.mpr ⟨hn, hmin, hmax⟩]
      rfl
    | @range first last _ _ hdash hn hm hmin hle hmax =>
      have hmem : '-' ∈ first ++ '-' :: last := List.mem_append_right _ List.mem_cons_self
      obtain ⟨hfirst, hlast⟩ := cut_append last hdash
      rw [if_neg range_ne_star, if_pos hmem, hfirst, hlast,
        parseNumber_ok.mpr ⟨hn, hmin, hle.trans hmax⟩, ok_bind,
        parseNumber_ok.mpr ⟨hm, hmin.trans hle, hmax⟩, ok_bind, ensure_true hle]
      rfl

theorem int_nil : lib.int [] = none := by
  simp [CronLibrary.int, CronLibrary.magnitude, CronLibrary.digits]

theorem baseForm_ne_nil {stepped : Bool}
    (h : BaseForm lib.int minimum maximum stepped base start stop) : base ≠ [] := by
  cases h with
  | star => exact List.cons_ne_nil _ _
  | single hstar hdash hn hmin hmax =>
    rintro rfl
    rw [int_nil] at hn
    cases hn
  | range => simp

/-- An item stands for its progression. -/
theorem parseSegment_ok {values : List Nat} :
    parseSegment lib raw item minimum maximum name = .ok values ↔ ∃ start stop stride,
      ItemForm lib.int minimum maximum item start stop stride ∧
      values = (List.range (stop + 1)).filter fun value =>
        start ≤ value ∧ (value - start) % stride = 0 := by
  simp only [parseSegment, bind_eq_ok, ensure_eq_ok, pure_eq_ok]
  constructor
  · rintro ⟨-, ⟨hne, hcount⟩, stride, hstep, ⟨start, stop⟩, hrange, hvalues⟩
    refine ⟨start, stop, stride, ?_, hvalues.symm⟩
    by_cases hslash : '/' ∈ item
    · simp only [hslash, if_true, Option.isSome_some, parseStep, bind_eq_ok, found_eq_ok,
        ensure_eq_ok, pure_eq_ok] at hstep hrange
      obtain ⟨parsed, hparsed, -, hpos, rfl⟩ := hstep
      have hnat : (parsed.toNat : Int) = parsed := Int.toNat_of_nonneg (by omega)
      have hcut := cut_eq hslash
      have hrest : '/' ∉ (item.dropWhile (· ≠ '/')).drop 1 := by
        intro hmem
        rw [hcut, List.count_append, List.count_cons_self] at hcount
        have := List.count_pos_iff.mpr hmem
        omega
      rw [hcut]
      exact .stepped not_mem_takeWhile hrest (parseRange_ok.mp hrange) (hnat ▸ hparsed)
        (by omega)
    · simp only [hslash, if_false, Option.isSome_none, parseStep, pure_eq_ok] at hstep hrange
      rw [takeWhile_eq_self hslash] at hrange
      subst hstep
      exact .plain hslash (parseRange_ok.mp hrange)
  · rintro ⟨start, stop, stride, hform, rfl⟩
    cases hform with
    | plain hslash hbase =>
      have hcount : item.count '/' = 0 := List.count_eq_zero.mpr hslash
      simp only [hslash, if_false, Option.isSome_none, parseStep, takeWhile_eq_self hslash]
      exact ⟨(), ⟨baseForm_ne_nil hbase, by omega⟩, 1, rfl, (start, stop),
        parseRange_ok.mpr hbase, rfl⟩
    | @stepped base step _ _ _ hslash hrest hbase hstride hpos =>
      have hmem : '/' ∈ base ++ '/' :: step := List.mem_append_right _ List.mem_cons_self
      have hcount : (base ++ '/' :: step).count '/' = 1 := by
        rw [List.count_append, List.count_cons_self, List.count_eq_zero.mpr hslash,
          List.count_eq_zero.mpr hrest]
      obtain ⟨hbefore, hafter⟩ := cut_append step hslash
      simp only [hmem, if_true, Option.isSome_some, parseStep, hbefore, hafter, hstride, found,
        ok_bind]
      refine ⟨(), ⟨by simp, by omega⟩, stride, ?_, (start, stop), parseRange_ok.mpr hbase, rfl⟩
      rw [ensure_true (by omega), ok_bind, Int.toNat_natCast]
      rfl

/-- A value is in a progression exactly when the parser lists it. -/
theorem mem_progression {value : Nat} :
    (value ∈ (List.range (stop + 1)).filter fun value =>
      start ≤ value ∧ (value - start) % stride = 0) ↔ InProgression start stop stride value := by
  simp only [List.mem_filter, List.mem_range, decide_eq_true_eq, InProgression]
  constructor
  · rintro ⟨hstop, hstart, hmod⟩
    refine ⟨(value - start) / stride, ?_, by omega⟩
    have := Nat.div_add_mod (value - start) stride
    rw [hmod, Nat.mul_comm] at this
    omega
  · rintro ⟨i, rfl, hstop⟩
    refine ⟨by omega, Nat.le_add_right _ _, ?_⟩
    rw [Nat.add_sub_cancel_left, Nat.mul_mod_left]

/-- An item has values, and they lie in the range of its field. -/
theorem ItemForm.bounds (hrange : minimum ≤ maximum)
    (h : ItemForm reads minimum maximum item start stop stride) :
    minimum ≤ start ∧ start ≤ stop ∧ stop ≤ maximum := by
  have hbase : ∀ {stepped base}, BaseForm reads minimum maximum stepped base start stop →
      minimum ≤ start ∧ start ≤ stop ∧ stop ≤ maximum := by
    intro stepped base hbase
    cases hbase with
    | star => omega
    | single _ _ _ hmin hmax =>
      refine ⟨hmin, ?_, ?_⟩ <;> split <;> omega
    | range _ _ _ hmin hle hmax => omega
  cases h with
  | plain _ hform => exact hbase hform
  | stepped _ _ hform _ _ => exact hbase hform

/-- The parser accepts a field that follows the grammar. -/
theorem parseField_accepts (name : String) (hrange : minimum ≤ maximum) :
    (∃ field, parseField lib raw minimum maximum name = .ok field) ↔
      FieldForm lib.int minimum maximum raw := by
  simp only [parseField, bind_eq_ok, ensure_eq_ok, pure_eq_ok]
  constructor
  · rintro ⟨-, -, -, segments, hsegments, -⟩
    intro item hitem
    obtain ⟨values, hvalues⟩ := exists_mapM_ok.mp ⟨segments, hsegments⟩ item hitem
    obtain ⟨start, stop, stride, hform, -⟩ := parseSegment_ok.mp hvalues
    exact ⟨start, stop, stride, hform⟩
  · intro h
    have hne : raw ≠ [] := by
      rintro rfl
      obtain ⟨start, stop, stride, hform⟩ := h [] (by simp)
      generalize hnil : ([] : List Char) = item at hform
      cases hform with
      | plain _ hbase => exact baseForm_ne_nil hbase hnil.symm
      | stepped => simp at hnil
    obtain ⟨segments, hsegments⟩ := exists_mapM_ok.mpr fun item hitem => by
      obtain ⟨start, stop, stride, hform⟩ := h item hitem
      exact ⟨_, (parseSegment_ok.mpr ⟨start, stop, stride, hform, rfl⟩ :
        parseSegment lib raw item minimum maximum name = .ok _)⟩
    refine ⟨_, (), hne, segments, hsegments, (), ?_, rfl⟩
    -- the first value of the first item
    obtain ⟨first, rest, hsplit⟩ := List.exists_cons_of_ne_nil (List.splitOn_ne_nil ',' raw)
    have hfirst : first ∈ raw.splitOn ',' := hsplit ▸ List.mem_cons_self
    obtain ⟨start, stop, stride, hform⟩ := h first hfirst
    obtain ⟨-, hle, -⟩ := hform.bounds hrange
    apply List.ne_nil_of_mem (a := start)
    rw [List.mem_dedup, List.mem_flatten]
    refine ⟨_, (mem_of_mapM_ok hsegments).mpr
      ⟨first, hfirst, parseSegment_ok.mpr ⟨start, stop, stride, hform, rfl⟩⟩, ?_⟩
    exact mem_progression.mpr ⟨0, by simp, hle⟩

/-- An accepted field holds what it denotes, and is a wildcard only as a lone star. -/
theorem parseField_denotes {field : CronField}
    (h : parseField lib raw minimum maximum name = .ok field) :
    (∀ value, value ∈ field.values ↔ FieldDenotes lib.int minimum maximum raw value) ∧
      (field.wildcard = true ↔ raw = ['*']) := by
  simp only [parseField, bind_eq_ok, ensure_eq_ok, pure_eq_ok] at h
  obtain ⟨-, -, segments, hsegments, -, -, rfl⟩ := h
  refine ⟨fun value => ?_, by simp⟩
  simp only [List.mem_dedup, List.mem_flatten, mem_of_mapM_ok hsegments, FieldDenotes]
  constructor
  · rintro ⟨values, ⟨item, hitem, hparse⟩, hvalue⟩
    obtain ⟨start, stop, stride, hform, rfl⟩ := parseSegment_ok.mp hparse
    exact ⟨item, hitem, start, stop, stride, hform, mem_progression.mp hvalue⟩
  · rintro ⟨item, hitem, start, stop, stride, hform, hvalue⟩
    exact ⟨_, ⟨item, hitem, parseSegment_ok.mpr ⟨start, stop, stride, hform, rfl⟩⟩,
      mem_progression.mpr hvalue⟩

/-! ### Expressions -/

/-- The five fields with the range of each. -/
def fieldRanges : List (Nat × Nat) := [(0, 59), (0, 23), (1, 31), (1, 12), (0, 7)]

/-- An expression is five fields between blanks. -/
def ExpressionForm (lib : CronLibrary) (reads : List Char → Option Int) (expression : String) :
    Prop :=
  List.Forall₂ (fun raw range => FieldForm reads range.1 range.2 raw) (cronParts lib expression)
    fieldRanges

/-- A parsed field holds the values its text denotes, and knows whether it is a lone star. -/
def HoldsField (reads : List Char → Option Int) (minimum maximum : Nat) (raw : List Char)
    (field : CronField) : Prop :=
  (∀ value, value ∈ field.values ↔ FieldDenotes reads minimum maximum raw value) ∧
    (field.wildcard = true ↔ raw = ['*'])

/-- The weekday field writes Sunday as 0 or as 7. -/
def HoldsWeekday (reads : List Char → Option Int) (raw : List Char) (field : CronField) : Prop :=
  (∀ weekday, weekday ∈ field.values ↔
      ∃ value, FieldDenotes reads 0 7 raw value ∧ weekday = if value = 7 then 0 else value) ∧
    (field.wildcard = true ↔ raw = ['*'])

/-- What a parsed expression holds. -/
def ExpressionDenotes (lib : CronLibrary) (reads : List Char → Option Int) (expression : String)
    (cron : CronExpression) : Prop :=
  ∃ minute hour dayOfMonth month dayOfWeek,
    cronParts lib expression = [minute, hour, dayOfMonth, month, dayOfWeek] ∧
    HoldsField reads 0 59 minute cron.minute ∧ HoldsField reads 0 23 hour cron.hour ∧
    HoldsField reads 1 31 dayOfMonth cron.dayOfMonth ∧ HoldsField reads 1 12 month cron.month ∧
    HoldsWeekday reads dayOfWeek cron.dayOfWeek

/-- Five texts in the form of their fields. -/
theorem forall₂_fieldRanges {parts : List (List Char)} :
    List.Forall₂ (fun raw range => FieldForm reads range.1 range.2 raw) parts fieldRanges ↔
      ∃ minute hour dayOfMonth month dayOfWeek,
        parts = [minute, hour, dayOfMonth, month, dayOfWeek] ∧ FieldForm reads 0 59 minute ∧
        FieldForm reads 0 23 hour ∧ FieldForm reads 1 31 dayOfMonth ∧
        FieldForm reads 1 12 month ∧ FieldForm reads 0 7 dayOfWeek := by
  constructor
  · intro h
    rcases h with _ | ⟨h₁, _ | ⟨h₂, _ | ⟨h₃, _ | ⟨h₄, _ | ⟨h₅, _ | _⟩⟩⟩⟩⟩
    exact ⟨_, _, _, _, _, rfl, h₁, h₂, h₃, h₄, h₅⟩
  · rintro ⟨_, _, _, _, _, rfl, h₁, h₂, h₃, h₄, h₅⟩
    exact .cons h₁ (.cons h₂ (.cons h₃ (.cons h₄ (.cons h₅ .nil))))

/-- What the parser does when it succeeds. -/
theorem parse_ok {cron : CronExpression} (h : CronExpression.parse lib expression = .ok cron) :
    ∃ rawMinute rawHour rawDayOfMonth rawMonth rawDayOfWeek weekday,
      cronParts lib expression = [rawMinute, rawHour, rawDayOfMonth, rawMonth, rawDayOfWeek] ∧
      parseField lib rawMinute 0 59 "minute" = .ok cron.minute ∧
      parseField lib rawHour 0 23 "hour" = .ok cron.hour ∧
      parseField lib rawDayOfMonth 1 31 "day of month" = .ok cron.dayOfMonth ∧
      parseField lib rawMonth 1 12 "month" = .ok cron.month ∧
      parseField lib rawDayOfWeek 0 7 "day of week" = .ok weekday ∧
      cron.dayOfWeek = ⟨(weekday.values.map fun value => if value = 7 then 0 else value).dedup,
        weekday.wildcard⟩ ∧
      cron.expression = " ".intercalate ((cronParts lib expression).map String.ofList) := by
  rw [CronExpression.parse] at h
  split at h
  · rename_i rawMinute rawHour rawDayOfMonth rawMonth rawDayOfWeek hparts
    simp only [bind_eq_ok, pure_eq_ok] at h
    obtain ⟨minute, h₁, hour, h₂, dayOfMonth, h₃, month, h₄, weekday, h₅, rfl⟩ := h
    exact ⟨rawMinute, rawHour, rawDayOfMonth, rawMonth, rawDayOfWeek, weekday, hparts, h₁, h₂, h₃,
      h₄, h₅, rfl, rfl⟩
  · cases h

/-- The parser accepts the expressions whose numbers `int` reads, and no others. -/
theorem parse_accepts :
    (∃ cron, CronExpression.parse lib expression = .ok cron) ↔
      ExpressionForm lib lib.int expression := by
  rw [ExpressionForm, forall₂_fieldRanges]
  constructor
  · rintro ⟨cron, h⟩
    obtain ⟨_, _, _, _, _, _, hparts, h₁, h₂, h₃, h₄, h₅, -, -⟩ := parse_ok h
    exact ⟨_, _, _, _, _, hparts, (parseField_accepts _ (by omega)).mp ⟨_, h₁⟩,
      (parseField_accepts _ (by omega)).mp ⟨_, h₂⟩, (parseField_accepts _ (by omega)).mp ⟨_, h₃⟩,
      (parseField_accepts _ (by omega)).mp ⟨_, h₄⟩, (parseField_accepts _ (by omega)).mp ⟨_, h₅⟩⟩
  · rintro ⟨_, _, _, _, _, hparts, h₁, h₂, h₃, h₄, h₅⟩
    obtain ⟨minute, h₁⟩ := (parseField_accepts "minute" (by omega)).mpr h₁
    obtain ⟨hour, h₂⟩ := (parseField_accepts "hour" (by omega)).mpr h₂
    obtain ⟨dayOfMonth, h₃⟩ := (parseField_accepts "day of month" (by omega)).mpr h₃
    obtain ⟨month, h₄⟩ := (parseField_accepts "month" (by omega)).mpr h₄
    obtain ⟨weekday, h₅⟩ := (parseField_accepts "day of week" (by omega)).mpr h₅
    rw [CronExpression.parse, hparts]
    simp only [h₁, h₂, h₃, h₄, h₅, ok_bind]
    exact ⟨_, rfl⟩

theorem parse_denotes {cron : CronExpression}
    (h : CronExpression.parse lib expression = .ok cron) :
    ExpressionDenotes lib lib.int expression cron := by
  obtain ⟨_, _, _, _, _, weekday, hparts, h₁, h₂, h₃, h₄, h₅, hweekday, -⟩ := parse_ok h
  obtain ⟨hvalues, hwildcard⟩ := parseField_denotes h₅
  refine ⟨_, _, _, _, _, hparts, parseField_denotes h₁, parseField_denotes h₂,
    parseField_denotes h₃, parseField_denotes h₄, fun value => ?_, hweekday ▸ hwildcard⟩
  rw [hweekday]
  simp only [List.mem_dedup, List.mem_map, hvalues, eq_comm]

/-- The parts of the normalized text are the parts of the text. -/
theorem cronParts_normalized (hspace : lib.isSpace ' ' = true)
    (hne : cronParts lib expression ≠ []) :
    cronParts lib (" ".intercalate ((cronParts lib expression).map String.ofList)) =
      cronParts lib expression := by
  have hplain : ∀ part ∈ cronParts lib expression, ∀ c ∈ part, lib.isSpace c = false := by
    intro part hpart
    exact eq_false_of_mem_splitOnP (List.mem_of_mem_filter hpart)
  have htext : (" ".intercalate ((cronParts lib expression).map String.ofList)).toList =
      [' '].intercalate (cronParts lib expression) := by
    rw [String.toList_intercalate, List.map_map]
    simp
  rw [cronParts, htext, splitOnP_intercalate hspace hne hplain, List.filter_eq_self]
  intro part hpart
  exact (List.mem_filter.mp hpart).2

/-- An expression and its normalized text parse alike. -/
theorem parse_normalized {cron : CronExpression} (hspace : lib.isSpace ' ' = true)
    (h : CronExpression.parse lib expression = .ok cron) :
    CronExpression.parse lib cron.expression = CronExpression.parse lib expression := by
  obtain ⟨_, _, _, _, _, _, hparts, -, -, -, -, -, -, htext⟩ := parse_ok h
  have hsame : cronParts lib cron.expression = cronParts lib expression := by
    rw [htext]
    exact cronParts_normalized hspace (by rw [hparts]; exact List.cons_ne_nil _ _)
  rw [CronExpression.parse, CronExpression.parse, hsame]

/-! ### What every parsed expression satisfies -/

theorem FieldDenotes.bounds {value : Nat} (hrange : minimum ≤ maximum)
    (h : FieldDenotes reads minimum maximum raw value) : minimum ≤ value ∧ value ≤ maximum := by
  obtain ⟨item, -, start, stop, stride, hform, i, hvalue, hstop⟩ := h
  obtain ⟨hmin, -, hmax⟩ := hform.bounds hrange
  have hstart : start ≤ value := hvalue ▸ Nat.le_add_right _ _
  omega

/-- A lone star denotes the whole range. -/
theorem fieldDenotes_star {value : Nat} (hmin : minimum ≤ value) (hmax : value ≤ maximum) :
    FieldDenotes reads minimum maximum ['*'] value := by
  refine ⟨['*'], by decide, minimum, maximum, 1, .plain (by decide) .star, value - minimum, ?_,
    hmax⟩
  omega

/-- The fields of an expression lie in their ranges, are not empty, and hold their whole range where
    they are wildcards. -/
structure WellFormed (cron : CronExpression) : Prop where
  minute_ne : cron.minute.values ≠ []
  minute_le : ∀ minute ∈ cron.minute.values, minute ≤ 59
  hour_ne : cron.hour.values ≠ []
  hour_le : ∀ hour ∈ cron.hour.values, hour ≤ 23
  anyDay : cron.dayOfMonth.wildcard = true → ∀ day, 1 ≤ day → day ≤ 31 → day ∈ cron.dayOfMonth.values
  anyWeekday : cron.dayOfWeek.wildcard = true → ∀ weekday ≤ 6, weekday ∈ cron.dayOfWeek.values

theorem parseField_ne {field : CronField}
    (h : parseField lib raw minimum maximum name = .ok field) : field.values ≠ [] := by
  simp only [parseField, bind_eq_ok, ensure_eq_ok, pure_eq_ok] at h
  obtain ⟨-, -, segments, -, -, hne, rfl⟩ := h
  exact hne

theorem parse_wellFormed {cron : CronExpression}
    (h : CronExpression.parse lib expression = .ok cron) : WellFormed cron := by
  obtain ⟨_, _, _, _, _, _, -, hminute, hhour, -, -, -, -, -⟩ := parse_ok h
  obtain ⟨_, _, _, _, _, -, h₁, h₂, h₃, -, h₅⟩ := parse_denotes h
  refine ⟨parseField_ne hminute, ?_, parseField_ne hhour, ?_, ?_, ?_⟩
  · intro minute hmem
    exact (((h₁.1 minute).mp hmem).bounds (by omega)).2
  · intro hour hmem
    exact (((h₂.1 hour).mp hmem).bounds (by omega)).2
  · intro hwildcard day hmin hmax
    rw [h₃.1, h₃.2.mp hwildcard]
    exact fieldDenotes_star hmin hmax
  · intro hwildcard weekday hmax
    rw [h₅.1, h₅.2.mp hwildcard]
    exact ⟨weekday, fieldDenotes_star (by omega) (by omega), by rw [if_neg (by omega)]⟩

/-! ### Numbers of plain digits -/

/-- The number that ASCII digits spell. -/
def asciiValue (text : List Char) : Nat :=
  text.foldl (fun value c => value * 10 + (c.toNat - '0'.toNat)) 0

/-- A number is one ASCII digit or more. -/
def asciiNumber (text : List Char) : Option Int :=
  if text ≠ [] ∧ text.all Char.isDigit = true then some (asciiValue text : Int) else none

/-- What `int` reads as the digits that are meant. -/
def PlainNumber (lib : CronLibrary) (text : List Char) : Prop :=
  text ≠ [] ∧ text.all Char.isDigit = true ∧ text.length ≤ lib.maxStrDigits

instance : Decidable (PlainNumber lib text) := inferInstanceAs (Decidable (_ ∧ _ ∧ _))

/-- The texts of a base that stand in a number's place. -/
def baseNumbers (base : List Char) : List (List Char) :=
  if base = ['*'] then []
  else if '-' ∈ base then [base.takeWhile (· ≠ '-'), (base.dropWhile (· ≠ '-')).drop 1]
  else [base]

/-- The texts of an item that stand in a number's place. -/
def itemNumbers (item : List Char) : List (List Char) :=
  baseNumbers (item.takeWhile (· ≠ '/')) ++
    if '/' ∈ item then [(item.dropWhile (· ≠ '/')).drop 1] else []

def fieldNumbers (raw : List Char) : List (List Char) := (raw.splitOn ',').flatMap itemNumbers

def expressionNumbers (lib : CronLibrary) (expression : String) : List (List Char) :=
  (cronParts lib expression).flatMap fieldNumbers

theorem asciiNumber_isSome :
    (asciiNumber text).isSome = true ↔ text ≠ [] ∧ text.all Char.isDigit = true := by
  rw [asciiNumber]
  split <;> simp_all

theorem digits_ascii (hdecimal : ∀ c, c.isDigit = true → lib.decimal c = some (c.toNat - '0'.toNat))
    {value : Nat} (h : text.all Char.isDigit = true) :
    lib.digits (some value) text =
      some (text.foldl (fun value c => value * 10 + (c.toNat - '0'.toNat)) value) := by
  induction text generalizing value with
  | nil => rfl
  | cons c text ih =>
    rw [List.all_cons, Bool.and_eq_true] at h
    obtain ⟨hc, htext⟩ := h
    have hne : c ≠ '_' := by
      rintro rfl
      exact absurd hc (by decide)
    rw [List.foldl_cons, ← ih htext, CronLibrary.digits, hdecimal c hc]
    · rfl
    · intros
      contradiction

/-- ASCII digits have no sign in front, so `int` reads their magnitude. -/
theorem int_ascii (hdecimal : ∀ c, c.isDigit = true → lib.decimal c = some (c.toNat - '0'.toNat))
    (hne : text ≠ []) (h : text.all Char.isDigit = true) :
    lib.int text = if text.length ≤ lib.maxStrDigits then some (asciiValue text : Int) else none := by
  obtain ⟨c, cs, rfl⟩ := List.exists_cons_of_ne_nil hne
  have ⟨hc, hcs⟩ := Bool.and_eq_true_iff.mp (List.all_cons ▸ h)
  have hunder : (c :: cs).filter (· ≠ '_') = c :: cs := by
    rw [List.filter_eq_self]
    intro d hd
    apply decide_eq_true
    rintro rfl
    exact absurd (List.all_eq_true.mp h _ hd) (by decide)
  have hdigits : lib.digits none (c :: cs) = some (asciiValue (c :: cs)) := by
    rw [CronLibrary.digits, hdecimal c hc]
    · exact digits_ascii hdecimal hcs
    · intros
      contradiction
  rw [CronLibrary.int]
  · rw [CronLibrary.magnitude, hunder, hdigits]
    split <;> rfl
  · rintro cs' heq
    rw [List.cons.inj heq |>.1] at hc
    exact absurd hc (by decide)
  · rintro cs' heq
    rw [List.cons.inj heq |>.1] at hc
    exact absurd hc (by decide)

/-- Where `int` reads a plain text it reads the digits, and where both read, the text is plain. -/
theorem int_of_plain
    (hdecimal : ∀ c, c.isDigit = true → lib.decimal c = some (c.toNat - '0'.toNat))
    (h : PlainNumber lib text) : lib.int text = asciiNumber text := by
  obtain ⟨hne, hdigits, hlength⟩ := h
  rw [int_ascii hdecimal hne hdigits, if_pos hlength, asciiNumber, if_pos ⟨hne, hdigits⟩]

theorem plain_of_both
    (hdecimal : ∀ c, c.isDigit = true → lib.decimal c = some (c.toNat - '0'.toNat))
    (hint : (lib.int text).isSome = true) (hascii : (asciiNumber text).isSome = true) :
    PlainNumber lib text := by
  obtain ⟨hne, hdigits⟩ := asciiNumber_isSome.mp hascii
  refine ⟨hne, hdigits, ?_⟩
  rw [int_ascii hdecimal hne hdigits] at hint
  split at hint
  · assumption
  · cases hint

/-! ### Reading numbers differently -/

variable {reads' : List Char → Option Int} {stepped : Bool}

theorem baseNumbers_range {first last : List Char} (h : '-' ∉ first) :
    baseNumbers (first ++ '-' :: last) = [first, last] := by
  obtain ⟨hfirst, hlast⟩ := cut_append last h
  rw [baseNumbers, if_neg range_ne_star, if_pos (List.mem_append_right _ List.mem_cons_self),
    hfirst, hlast]

theorem itemNumbers_plain (h : '/' ∉ base) : itemNumbers base = baseNumbers base := by
  rw [itemNumbers, if_neg h, takeWhile_eq_self h, List.append_nil]

theorem itemNumbers_stepped (h : '/' ∉ base) :
    itemNumbers (base ++ '/' :: step) = baseNumbers base ++ [step] := by
  obtain ⟨hbase, hstep⟩ := cut_append step h
  rw [itemNumbers, if_pos (List.mem_append_right _ List.mem_cons_self), hbase, hstep]

/-- The reader is asked about the texts in a number's place only. -/
theorem BaseForm.congr (h : BaseForm reads minimum maximum stepped base start stop)
    (hagree : ∀ text ∈ baseNumbers base, reads text = reads' text) :
    BaseForm reads' minimum maximum stepped base start stop := by
  cases h with
  | star => exact .star
  | single hstar hdash hn hmin hmax =>
    have hread := hagree base (by simp [baseNumbers, hstar, hdash])
    exact .single hstar hdash (hread ▸ hn) hmin hmax
  | @range first last n m hdash hn hm hmin hle hmax =>
    rw [baseNumbers_range hdash] at hagree
    exact .range hdash (hagree first (by simp) ▸ hn) (hagree last (by simp) ▸ hm) hmin hle hmax

theorem BaseForm.reads_some (h : BaseForm reads minimum maximum stepped base start stop) :
    ∀ text ∈ baseNumbers base, (reads text).isSome = true := by
  intro text htext
  cases h with
  | star => simp [baseNumbers] at htext
  | single hstar hdash hn =>
    simp only [baseNumbers, hstar, hdash, if_false, List.mem_singleton] at htext
    rw [htext, hn]
    rfl
  | range hdash hn hm =>
    rw [baseNumbers_range hdash] at htext
    rcases List.mem_pair.mp htext with rfl | rfl
    · rw [hn]
      rfl
    · rw [hm]
      rfl

theorem ItemForm.congr (h : ItemForm reads minimum maximum item start stop stride)
    (hagree : ∀ text ∈ itemNumbers item, reads text = reads' text) :
    ItemForm reads' minimum maximum item start stop stride := by
  cases h with
  | plain hslash hbase =>
    rw [itemNumbers_plain hslash] at hagree
    exact .plain hslash (hbase.congr hagree)
  | @stepped base step _ _ _ hslash hrest hbase hstride hpos =>
    rw [itemNumbers_stepped hslash] at hagree
    refine .stepped hslash hrest (hbase.congr fun text htext => ?_) ?_ hpos
    · exact hagree text (List.mem_append_left _ htext)
    · exact hagree step (List.mem_append_right _ List.mem_cons_self) ▸ hstride

theorem ItemForm.reads_some (h : ItemForm reads minimum maximum item start stop stride) :
    ∀ text ∈ itemNumbers item, (reads text).isSome = true := by
  intro text htext
  cases h with
  | plain hslash hbase =>
    rw [itemNumbers_plain hslash] at htext
    exact hbase.reads_some text htext
  | stepped hslash hrest hbase hstride hpos =>
    rw [itemNumbers_stepped hslash] at htext
    rcases List.mem_append.mp htext with htext | htext
    · exact hbase.reads_some text htext
    · rw [List.mem_singleton.mp htext, hstride]
      rfl

/-- Two readers that agree on the numbers of a field give it the same form and values. -/
theorem fieldForm_congr (hagree : ∀ text ∈ fieldNumbers raw, reads text = reads' text)
    (h : FieldForm reads minimum maximum raw) : FieldForm reads' minimum maximum raw := by
  intro item hitem
  obtain ⟨start, stop, stride, hform⟩ := h item hitem
  exact ⟨start, stop, stride, hform.congr fun text htext =>
    hagree text (List.mem_flatMap.mpr ⟨item, hitem, htext⟩)⟩

theorem fieldDenotes_congr (hagree : ∀ text ∈ fieldNumbers raw, reads text = reads' text)
    {value : Nat} (h : FieldDenotes reads minimum maximum raw value) :
    FieldDenotes reads' minimum maximum raw value := by
  obtain ⟨item, hitem, start, stop, stride, hform, hvalue⟩ := h
  exact ⟨item, hitem, start, stop, stride, hform.congr fun text htext =>
    hagree text (List.mem_flatMap.mpr ⟨item, hitem, htext⟩), hvalue⟩

theorem fieldForm_reads_some (h : FieldForm reads minimum maximum raw) :
    ∀ text ∈ fieldNumbers raw, (reads text).isSome = true := by
  intro text htext
  obtain ⟨item, hitem, htext⟩ := List.mem_flatMap.mp htext
  obtain ⟨start, stop, stride, hform⟩ := h item hitem
  exact hform.reads_some text htext

theorem expressionForm_congr
    (hagree : ∀ text ∈ expressionNumbers lib expression, reads text = reads' text)
    (h : ExpressionForm lib reads expression) : ExpressionForm lib reads' expression := by
  have hparts : ∀ raw ∈ cronParts lib expression, ∀ text ∈ fieldNumbers raw,
      reads text = reads' text := fun raw hraw text htext =>
    hagree text (List.mem_flatMap.mpr ⟨raw, hraw, htext⟩)
  rw [ExpressionForm] at h ⊢
  generalize cronParts lib expression = parts at h hparts ⊢
  generalize fieldRanges = ranges at h ⊢
  induction h with
  | nil => exact .nil
  | cons hfield _ ih =>
    obtain ⟨hfirst, hrest⟩ := List.forall_mem_cons.mp hparts
    exact .cons (fieldForm_congr hfirst hfield) (ih hrest)

theorem expressionForm_reads_some (h : ExpressionForm lib reads expression) :
    ∀ text ∈ expressionNumbers lib expression, (reads text).isSome = true := by
  intro text htext
  obtain ⟨raw, hraw, htext⟩ := List.mem_flatMap.mp htext
  rw [ExpressionForm] at h
  generalize cronParts lib expression = parts at h hraw
  generalize fieldRanges = ranges at h
  induction h with
  | nil => exact absurd hraw List.not_mem_nil
  | cons hfield _ ih =>
    rcases List.mem_cons.mp hraw with rfl | hraw
    · exact fieldForm_reads_some hfield text htext
    · exact ih hraw

theorem expressionDenotes_congr {cron : CronExpression}
    (hagree : ∀ text ∈ expressionNumbers lib expression, reads text = reads' text)
    (h : ExpressionDenotes lib reads expression cron) :
    ExpressionDenotes lib reads' expression cron := by
  obtain ⟨minute, hour, dayOfMonth, month, dayOfWeek, hparts, h₁, h₂, h₃, h₄, h₅⟩ := h
  have hfield : ∀ {minimum maximum raw}, raw ∈ cronParts lib expression → ∀ value,
      FieldDenotes reads minimum maximum raw value ↔
        FieldDenotes reads' minimum maximum raw value := by
    intro minimum maximum raw hraw value
    have hsame : ∀ text ∈ fieldNumbers raw, reads text = reads' text := fun text htext =>
      hagree text (List.mem_flatMap.mpr ⟨raw, hraw, htext⟩)
    exact ⟨fieldDenotes_congr hsame, fieldDenotes_congr fun text htext => (hsame text htext).symm⟩
  have hholds : ∀ {minimum maximum raw field}, raw ∈ cronParts lib expression →
      HoldsField reads minimum maximum raw field → HoldsField reads' minimum maximum raw field :=
    fun hraw hheld => ⟨fun value => (hheld.1 value).trans (hfield hraw value), hheld.2⟩
  refine ⟨minute, hour, dayOfMonth, month, dayOfWeek, hparts, hholds ?_ h₁, hholds ?_ h₂,
    hholds ?_ h₃, hholds ?_ h₄, fun weekday => (h₅.1 weekday).trans ?_, h₅.2⟩
  all_goals try simp [hparts]
  refine exists_congr fun value => and_congr_left fun _ => hfield ?_ value
  simp [hparts]

/-! ### Exactly the grammar -/

/-- What the five-field grammar over plain digits promises for an expression. -/
structure FollowsGrammar (lib : CronLibrary) (expression : String) : Prop where
  accepts : (∃ cron, CronExpression.parse lib expression = .ok cron) ↔
    ExpressionForm lib asciiNumber expression
  denotes : ∀ cron, CronExpression.parse lib expression = .ok cron →
    ExpressionDenotes lib asciiNumber expression cron
  normalizes : ∀ normalized, normalizeCronExpression lib expression = .ok normalized →
    normalizeCronExpression lib normalized = .ok normalized ∧
      CronExpression.parse lib normalized = CronExpression.parse lib expression

/-- The parser follows the grammar exactly on the expressions whose numbers are plain. -/
theorem followsGrammar_iff
    (hdecimal : ∀ c, c.isDigit = true → lib.decimal c = some (c.toNat - '0'.toNat))
    (hspace : lib.isSpace ' ' = true) (expression : String) :
    FollowsGrammar lib expression ↔
      (ExpressionForm lib lib.int expression ∨ ExpressionForm lib asciiNumber expression →
        ∀ text ∈ expressionNumbers lib expression, PlainNumber lib text) := by
  constructor
  · intro h hform text htext
    have hsame : ExpressionForm lib lib.int expression ↔
        ExpressionForm lib asciiNumber expression := parse_accepts.symm.trans h.accepts
    have hint : ExpressionForm lib lib.int expression := hform.elim id hsame.mpr
    exact plain_of_both hdecimal (expressionForm_reads_some hint text htext)
      (expressionForm_reads_some (hsame.mp hint) text htext)
  · intro h
    have hagree (hform : ExpressionForm lib lib.int expression ∨
        ExpressionForm lib asciiNumber expression) :
        ∀ text ∈ expressionNumbers lib expression, lib.int text = asciiNumber text :=
      fun text htext => int_of_plain hdecimal (h hform text htext)
    refine ⟨?_, ?_, ?_⟩
    · rw [parse_accepts]
      exact ⟨fun hint => expressionForm_congr (hagree (.inl hint)) hint, fun hascii =>
        expressionForm_congr (fun text htext => (hagree (.inr hascii) text htext).symm) hascii⟩
    · intro cron hparse
      exact expressionDenotes_congr (hagree (.inl (parse_accepts.mp ⟨cron, hparse⟩)))
        (parse_denotes hparse)
    · intro normalized hnormalized
      obtain ⟨cron, hparse, rfl⟩ := map_eq_ok.mp hnormalized
      have hsame := parse_normalized hspace hparse
      rw [normalizeCronExpression, hsame]
      exact ⟨map_eq_ok.mpr ⟨cron, hparse, rfl⟩, rfl⟩

/-- A plain expression is parsed as the grammar says. -/
theorem plain_followsGrammar : FollowsGrammar Installation.cronLibrary "*/15 9-17 * * 1,7" :=
  (followsGrammar_iff (by simp +contextual [Installation.cronLibrary]) rfl _).mpr fun _ => by
    have hall : (expressionNumbers Installation.cronLibrary "*/15 9-17 * * 1,7").all
        (fun text => decide (PlainNumber Installation.cronLibrary text)) = true := by
      decide
    exact fun text htext => of_decide_eq_true (List.all_eq_true.mp hall text htext)

/-- A sign is no digit, but the parser takes `+5` for five. -/
theorem signed_accepted : ¬FollowsGrammar Installation.cronLibrary "+5 * * * *" := by
  intro h
  have hparse : (CronExpression.parse Installation.cronLibrary "+5 * * * *").toBool = true := by
    decide
  have hform : ExpressionForm Installation.cronLibrary asciiNumber "+5 * * * *" := by
    apply h.accepts.mp
    cases hcron : CronExpression.parse Installation.cronLibrary "+5 * * * *" with
    | error e => rw [hcron] at hparse; cases hparse
    | ok cron => exact ⟨cron, rfl⟩
  have hread := expressionForm_reads_some hform ['+', '5'] (by decide)
  exact absurd hread (by decide)

end TestOps

import TestOps.Contracts.Text

/-! `int` and `str` of integers, in texts whose digits are those of ASCII. Neither goes beyond a fixed
    number of digits. -/

namespace TestOps

open Checked

/-- `sys.get_int_max_str_digits()` -/
def maxStrDigits : Nat := 4300

/-- Digits, of which single underscores may separate two. -/
def spelled : Option Nat → Text → Option Nat
  | value, [] => value
  | some value, '_' :: c :: cs =>
    if c.isDigit then spelled (some (10 * value + (c.toNat - '0'.toNat))) cs else none
  | value, c :: cs =>
    if c.isDigit then spelled (some (10 * value.getD 0 + (c.toNat - '0'.toNat))) cs else none

/-- The number that the digits after a sign spell, unless there are too many. -/
def magnitude (cs : Text) : Option Nat :=
  if (cs.filter (· ≠ '_')).length ≤ maxStrDigits then spelled none cs else none

/-- `int(text)`, without a value where it raises `ValueError`. -/
def intOf (text : String) : Option Int :=
  match strip isSpace text.toList with
  | '+' :: cs => (magnitude cs).map Int.ofNat
  | '-' :: cs => (magnitude cs).map fun n => -(n : Int)
  | cs => (magnitude cs).map Int.ofNat

/-- `str(n)`, without a value where it raises `ValueError`. -/
def strOf (n : Nat) : Option String :=
  if (Nat.toDigits 10 n).length ≤ maxStrDigits then some (String.ofList (Nat.toDigits 10 n)) else none

/-! ### A number reads back as itself -/

theorem spelled_digits {cs : Text} {value : Nat} (h : ∀ c ∈ cs, c.isDigit = true) :
    spelled (some value) cs = some (Nat.ofDigitChars 10 cs value) := by
  induction cs generalizing value with
  | nil => rfl
  | cons c cs ih =>
    obtain ⟨hc, hcs⟩ := List.forall_mem_cons.mp h
    rw [Nat.ofDigitChars_cons, ← ih hcs, spelled, if_pos hc]
    · rfl
    · rintro value' c' cs' - rfl
      exact absurd hc (by decide)

theorem spelled_cons {c : Char} {cs : Text} (h : ∀ d ∈ c :: cs, d.isDigit = true) :
    spelled none (c :: cs) = some (Nat.ofDigitChars 10 (c :: cs) 0) := by
  obtain ⟨hc, hcs⟩ := List.forall_mem_cons.mp h
  rw [spelled, if_pos hc]
  · exact spelled_digits hcs
  · rintro value' c' cs' hnone
    cases hnone

theorem isSpace_of_isDigit {c : Char} (h : c.isDigit = true) : isSpace c = false := by
  have hrange : 48 ≤ c.toNat ∧ c.toNat ≤ 57 := Char.isDigit_iff_toNat.mp h
  simp only [isSpace, decide_eq_false_iff_not]
  omega

/-- A text of digits alone reads as their number. -/
theorem intOf_digits {cs : Text} (hne : cs ≠ []) (hdigits : ∀ c ∈ cs, c.isDigit = true)
    (hlength : cs.length ≤ maxStrDigits) :
    intOf (String.ofList cs) = some (Nat.ofDigitChars 10 cs 0 : Int) := by
  obtain ⟨c, rest, rfl⟩ := List.exists_cons_of_ne_nil hne
  have hc := hdigits c List.mem_cons_self
  have htight : Tight isSpace (c :: rest) :=
    ⟨⟨c, rfl, isSpace_of_isDigit hc⟩, _, List.getLast?_eq_some_getLast hne,
      isSpace_of_isDigit (hdigits _ (List.getLast_mem hne))⟩
  have hunder : (c :: rest).filter (· ≠ '_') = c :: rest := by
    rw [List.filter_eq_self]
    intro d hd
    apply decide_eq_true
    rintro rfl
    exact absurd (hdigits _ hd) (by decide)
  have hmagnitude : magnitude (c :: rest) = some (Nat.ofDigitChars 10 (c :: rest) 0) := by
    rw [magnitude, hunder, if_pos hlength, spelled_cons hdigits]
  rw [intOf, String.toList_ofList, htight.strip_eq]
  split
  · rename_i heq
    rw [(List.cons.inj heq).1] at hc
    exact absurd hc (by decide)
  · rename_i heq
    rw [(List.cons.inj heq).1] at hc
    exact absurd hc (by decide)
  · rw [hmagnitude]
    rfl

theorem intOf_strOf {n : Nat} {text : String} (h : strOf n = some text) :
    intOf text = some (n : Int) := by
  rw [strOf] at h
  split at h
  · rename_i hlength
    obtain rfl := Option.some.inj h
    rw [intOf_digits Nat.toDigits_ne_nil
      (fun c hc => Nat.isDigit_of_mem_toDigits (by decide) (by decide) hc) hlength,
      Nat.ofDigitChars_toDigits (by decide) (by decide)]
  · cases h

end TestOps

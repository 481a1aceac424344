import TestOps.Lib.Checked
import TestOps.Lib.Delimited

/-! Texts, and the methods of `str` that cut something off them. A validator strips what Unicode calls
    white space, which is a little less than what `str.strip` removes. -/

namespace TestOps

open Checked

/-- A text, as the sequence of its characters. -/
abbrev Text := List Char

instance : LawfulBEq Text := inferInstance

abbrev Bytes := List UInt8

/-- `str.isspace` -/
def isSpace (c : Char) : Bool :=
  let n := c.toNat
  (0x9 ≤ n ∧ n ≤ 0xD) ∨ (0x1C ≤ n ∧ n ≤ 0x20) ∨ n = 0x85 ∨ n = 0xA0 ∨ n = 0x1680 ∨
    (0x2000 ≤ n ∧ n ≤ 0x200A) ∨ n = 0x2028 ∨ n = 0x2029 ∨ n = 0x202F ∨ n = 0x205F ∨ n = 0x3000

/-- `str.rstrip` of the characters in a set -/
def rstrip (p : Char → Bool) (text : Text) : Text := text.rdropWhile p

/-- Without the characters of a set at both ends. -/
def strip (p : Char → Bool) (text : Text) : Text := rstrip p (text.dropWhile p)

/-- Unicode's white space; `str.isspace` has four separators more. -/
def isWhiteSpace (c : Char) : Bool := isSpace c ∧ ¬(0x1C ≤ c.toNat ∧ c.toNat ≤ 0x1F)

/-- Texts that a model has not accepted. -/
abbrev ValidationError := String

/-- `NonEmptyStr` -/
def nonEmptyStr (value : String) : Except ValidationError String := do
  let stripped := strip isWhiteSpace value.toList
  ensure (stripped ≠ []) "String should have at least 1 character"
  return String.ofList stripped

/-! ### Stripping -/

variable {text : Text}

theorem strip_eq_trim {p : Char → Bool} : strip p text = Delimited.trim p text := rfl

/-- The text begins and ends with a character outside of the set. -/
def Tight (p : Char → Bool) (text : Text) : Prop :=
  (∃ a ∈ text.head?, p a = false) ∧ ∃ a ∈ text.getLast?, p a = false

theorem Tight.strip_eq {p : Char → Bool} (h : Tight p text) : strip p text = text := by
  obtain ⟨⟨a, ha, hfirst⟩, b, hb, hlast⟩ := h
  cases text with
  | nil => cases ha
  | cons d rest =>
    obtain rfl : d = a := by simpa using ha
    rw [strip, List.dropWhile_cons_of_neg (by simp [hfirst]), rstrip, List.rdropWhile_eq_self_iff]
    intro hne
    rw [List.getLast?_eq_getLast_of_ne_nil hne] at hb
    rw [Option.mem_some_iff.mp hb]
    simp [hlast]

theorem mem_strip {p : Char → Bool} {a : Char} (h : a ∈ text) (ha : p a = false) :
    a ∈ strip p text := by
  have hleft : a ∈ text.dropWhile p := by
    rw [← List.takeWhile_append_dropWhile (p := p) (l := text)] at h
    rcases List.mem_append.mp h with h | h
    · have := List.mem_takeWhile_imp h
      rw [ha] at this
      cases this
    · exact h
  rw [strip, rstrip, List.rdropWhile, List.mem_reverse]
  rw [← List.mem_reverse, ← List.takeWhile_append_dropWhile (p := p)
    (l := (text.dropWhile p).reverse)] at hleft
  rcases List.mem_append.mp hleft with h | h
  · have := List.mem_takeWhile_imp h
    rw [ha] at this
    cases this
  · exact h

theorem strip_length {p : Char → Bool} : (strip p text).length ≤ text.length :=
  (List.rdropWhile_prefix p (text.dropWhile p)).length_le.trans
    (List.dropWhile_sublist p).length_le

/-- What is left of a text after stripping begins and ends with something else. -/
theorem tight_strip {p : Char → Bool} (h : strip p text ≠ []) : Tight p (strip p text) := by
  rw [strip, rstrip] at h ⊢
  have hfront : (text.dropWhile p).rdropWhile p <+: text.dropWhile p := List.rdropWhile_prefix p _
  constructor
  · obtain ⟨behind, hbehind⟩ := hfront
    have hne : text.dropWhile p ≠ [] := by
      intro hnil
      rw [hnil] at h
      exact h rfl
    have hhead : (text.dropWhile p).head? = ((text.dropWhile p).rdropWhile p).head? := by
      rw [← hbehind, List.head?_append_of_ne_nil _ h]
      rw [hbehind]
    rw [← hhead]
    exact ⟨_, List.head?_eq_some_head hne, List.head_dropWhile_not p hne⟩
  · refine ⟨_, List.getLast?_eq_some_getLast h, ?_⟩
    simpa using List.rdropWhile_last_not p _ h

theorem nonEmptyStr_again {value stored : String} (h : nonEmptyStr value = .ok stored) :
    nonEmptyStr stored = .ok stored := by
  simp only [nonEmptyStr, bind_eq_ok, ensure_eq_ok, pure_eq_ok] at h ⊢
  obtain ⟨-, hne, rfl⟩ := h
  rw [String.toList_ofList, (tight_strip hne).strip_eq]
  exact ⟨(), hne, rfl⟩

end TestOps

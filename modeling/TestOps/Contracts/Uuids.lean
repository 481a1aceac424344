import TestOps.Contracts.Models
import TestOps.Lib.Json

/-! The texts of identifiers: 32 hexadecimal digits, with or without hyphens.

      123e4567-e89b-12d3-a456-426614174000      `str`
      123e4567e89b12d3a456426614174000          `hex` -/

namespace TestOps

/-- Hyphens after the 8th, 12th, 16th and 20th digit. -/
def hyphenate (digits : List Char) : List Char :=
  digits.take 8 ++ '-' :: ((digits.drop 8).take 4 ++ '-' :: ((digits.drop 12).take 4 ++
    '-' :: ((digits.drop 16).take 4 ++ '-' :: digits.drop 20)))

def uuidText (id : UUID) : String :=
  let digits := Nat.toDigits 16 id
  String.ofList (hyphenate (List.replicate (32 - digits.length) '0' ++ digits))

/-- `UUID.hex` -/
def uuidHex (id : UUID) : String :=
  let digits := Nat.toDigits 16 id
  String.ofList (List.replicate (32 - digits.length) '0' ++ digits)

def hexNumber (n : Nat) (digits : List Char) : Option Nat :=
  digits.foldlM (fun n c => (Json.hexValue c).map (n * 16 + ·)) n

def parseUuid (text : String) : Option UUID := hexNumber 0 (text.toList.filter (· ≠ '-'))

theorem hexValue_digitChar : ∀ n < 16, Json.hexValue n.digitChar = some n := by
  decide

theorem filter_hyphenate {digits : List Char} (h : '-' ∉ digits) :
    (hyphenate digits).filter (· ≠ '-') = digits := by
  have hkeep : ∀ part : List Char, part.Sublist digits → part.filter (· ≠ '-') = part :=
    fun part hpart => List.filter_eq_self.mpr fun c hc => by
      rw [decide_eq_true_eq]
      rintro rfl
      exact h (hpart.subset hc)
  have htake : ∀ k n, ((digits.drop k).take n).Sublist digits := fun k n =>
    (List.take_sublist _ _).trans (List.drop_sublist _ _)
  have hhyphen : ∀ part : List Char,
      ('-' :: part).filter (· ≠ '-') = part.filter (· ≠ '-') := fun part =>
    List.filter_cons_of_neg (by decide)
  have hjoin : ∀ k n, (digits.drop k).take n ++ digits.drop (k + n) = digits.drop k := fun k n => by
    rw [← List.drop_drop, List.take_append_drop]
  simp only [hyphenate, List.filter_append, hhyphen, hkeep _ (htake _ _),
    hkeep _ (List.take_sublist _ _), hkeep _ (List.drop_sublist _ _), hjoin 16 4, hjoin 12 4,
    hjoin 8 4, List.take_append_drop]

theorem hexNumber_toDigits (n : Nat) : hexNumber 0 (Nat.toDigits 16 n) = some n := by
  induction n using Nat.strong_induction_on with
  | h n ih =>
    rw [Nat.toDigits_eq_if (by decide)]
    split
    · rename_i hlt
      simp [hexNumber, hexValue_digitChar n hlt]
    · rename_i hle
      have hdigit := hexValue_digitChar (n % 16) (Nat.mod_lt _ (by decide))
      have hquotient := ih (n / 16) (by omega)
      rw [hexNumber] at hquotient ⊢
      rw [List.foldlM_append, hquotient]
      simp only [List.foldlM_cons, List.foldlM_nil, hdigit, Option.map_some, Option.bind_eq_bind,
        Option.bind_some]
      exact congrArg some (by omega)

theorem hexNumber_zeros (k : Nat) (digits : List Char) :
    hexNumber 0 (List.replicate k '0' ++ digits) = hexNumber 0 digits := by
  induction k with
  | zero => rfl
  | succ k ih =>
    rw [List.replicate_succ, List.cons_append, hexNumber, List.foldlM_cons]
    exact ih

theorem mem_toDigits {n : Nat} {c : Char} (h : c ∈ Nat.toDigits 16 n) :
    ∃ d < 16, c = Nat.digitChar d := by
  induction n using Nat.strong_induction_on with
  | h n ih =>
    rw [Nat.toDigits_eq_if (by decide)] at h
    split at h
    · rename_i hlt
      exact ⟨n, hlt, List.mem_singleton.mp h⟩
    · rcases List.mem_append.mp h with hmem | hmem
      · exact ih (n / 16) (by omega) hmem
      · exact ⟨n % 16, Nat.mod_lt _ (by decide), List.mem_singleton.mp hmem⟩

theorem hyphen_not_mem_toDigits (n : Nat) : '-' ∉ Nat.toDigits 16 n := by
  have hdigit : ∀ d < 16, Nat.digitChar d ≠ '-' := by decide
  intro hmem
  obtain ⟨d, hlt, heq⟩ := mem_toDigits hmem
  exact hdigit d hlt heq.symm

theorem hyphenate_subset {digits : List Char} {c : Char} (h : c ∈ hyphenate digits) :
    c = '-' ∨ c ∈ digits := by
  have hpart : ∀ k n, c ∈ (digits.drop k).take n → c ∈ digits := fun k n hmem =>
    List.mem_of_mem_drop (List.mem_of_mem_take hmem)
  simp only [hyphenate, List.mem_append, List.mem_cons] at h
  rcases h with h | h | h | h | h | h | h | h | h
  · exact .inr (List.mem_of_mem_take h)
  · exact .inl h
  · exact .inr (hpart _ _ h)
  · exact .inl h
  · exact .inr (hpart _ _ h)
  · exact .inl h
  · exact .inr (hpart _ _ h)
  · exact .inl h
  · exact .inr (List.mem_of_mem_drop h)

/-- An identifier is written with digits and hyphens. -/
theorem mem_uuidText {id : UUID} {c : Char} (h : c ∈ (uuidText id).toList) :
    c = '-' ∨ ∃ d < 16, c = Nat.digitChar d := by
  rw [uuidText, String.toList_ofList] at h
  rcases hyphenate_subset h with rfl | h
  · exact .inl rfl
  · rcases List.mem_append.mp h with h | h
    · exact .inr ⟨0, by decide, List.eq_of_mem_replicate h⟩
    · exact .inr (mem_toDigits h)

theorem parseUuid_uuidText (id : UUID) : parseUuid (uuidText id) = some id := by
  have hhyphen : '-' ∉ List.replicate (32 - (Nat.toDigits 16 id).length) '0' ++
      Nat.toDigits 16 id := by
    intro hmem
    rcases List.mem_append.mp hmem with hmem | hmem
    · exact absurd (List.eq_of_mem_replicate hmem) (by decide)
    · exact hyphen_not_mem_toDigits id hmem
  rw [parseUuid, uuidText, String.toList_ofList, filter_hyphenate hhyphen, hexNumber_zeros,
    hexNumber_toDigits]

end TestOps

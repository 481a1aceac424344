import TestOps.Lib.Json

/-! The canonical text of a document, whose objects are written with their members in the order of
    their names, and what occurs in a document:

      {"b":[{"ref":"x"}],"a":1}     canonical  {"a":1,"b":[{"ref":"x"}]}

    Nothing is lost: what occurs in a document occurs in what its canonical text is read as. -/

namespace Json

/-! ### Numbers -/

theorem toDigits_opens {n : Nat} (hn : 0 < n) :
    ∃ c cs, Nat.toDigits 10 n = c :: cs ∧ c ≠ '0' := by
  induction n using Nat.strong_induction_on with
  | _ n ih =>
    by_cases hsmall : n < 10
    · rw [Nat.toDigits_of_lt_base hsmall]
      refine ⟨n.digitChar, [], rfl, ?_⟩
      interval_cases n <;> decide
    · obtain ⟨c, cs, hdigits, hc⟩ := ih (n / 10) (by omega) (by omega)
      refine ⟨c, cs ++ [(n % 10).digitChar], ?_, hc⟩
      rw [Nat.toDigits_of_base_le (by decide) (by omega), hdigits]
      rfl

theorem natural_toDigits (n : Nat) : natural (Nat.toDigits 10 n) = some [] := by
  have hdigit : ∀ c ∈ Nat.toDigits 10 n, c.isDigit = true :=
    fun c hc => Nat.isDigit_of_mem_toDigits (by decide) (by decide) hc
  by_cases hn : n = 0
  · rw [hn]
    rfl
  · obtain ⟨c, cs, hdigits, hc⟩ := toDigits_opens (Nat.pos_of_ne_zero hn)
    rw [hdigits, List.forall_mem_cons] at hdigit
    rw [hdigits, natural, if_neg hc, if_pos hdigit.1,
      List.dropWhile_eq_nil_iff.mpr hdigit.2]

def intLiteral : Int → List Char
  | .ofNat n => Nat.toDigits 10 n
  | .negSucc n => '-' :: Nat.toDigits 10 (n + 1)

theorem isNumber_intLiteral (n : Int) : IsNumber (intLiteral n) := by
  have hinteger : integer (intLiteral n) = some [] := by
    cases n with
    | ofNat n =>
      rw [intLiteral, ← natural_toDigits n]
      cases hdigits : Nat.toDigits 10 n with
      | nil => rfl
      | cons c cs =>
        have hc : c.isDigit = true := Nat.isDigit_of_mem_toDigits (by decide) (by decide)
          (hdigits ▸ List.mem_cons_self)
        have hminus : c ≠ '-' := by
          rintro rfl
          exact absurd hc (by decide)
        rw [integer, if_neg hminus]
    | negSucc n =>
      rw [intLiteral, integer, if_pos rfl, natural_toDigits]
  rw [IsNumber, hinteger]
  rfl

def ofInt (n : Int) : Json := .number ⟨intLiteral n, isNumber_intLiteral n⟩

/-! ### Canonical texts -/

mutual

/-- The document with the members of every object in the order of their names. -/
def sortKeys : Json → Json
  | null => null
  | bool b => bool b
  | number n => number n
  | string s => string s
  | array items => array (sortItems items)
  | object members => object ((sortMembers members).insertionSort fun a b => a.1 ≤ b.1)

def sortItems : List Json → List Json
  | [] => []
  | item :: items => sortKeys item :: sortItems items

def sortMembers : List (String × Json) → List (String × Json)
  | [] => []
  | (name, value) :: members => (name, sortKeys value) :: sortMembers members

end

def canonical (v : Json) : List Char := render (sortKeys v)

theorem parse_canonical (v : Json) : parse (canonical v) = some (sortKeys v) :=
  parse_render (sortKeys v)

theorem mem_sortItems {item : Json} {items : List Json} (h : item ∈ items) :
    sortKeys item ∈ sortItems items := by
  induction items with
  | nil => cases h
  | cons first items ih =>
    rw [sortItems]
    rcases List.mem_cons.mp h with rfl | h
    · exact List.mem_cons_self
    · exact List.mem_cons_of_mem _ (ih h)

theorem mem_sortMembers {name : String} {value : Json} {members : List (String × Json)}
    (h : (name, value) ∈ members) : (name, sortKeys value) ∈ sortMembers members := by
  induction members with
  | nil => cases h
  | cons first members ih =>
    obtain ⟨name', value'⟩ := first
    rw [sortMembers]
    rcases List.mem_cons.mp h with heq | h
    · cases heq
      exact List.mem_cons_self
    · exact List.mem_cons_of_mem _ (ih h)

/-! ### What occurs in a document -/

/-- A document is part of another one. -/
inductive Occurs (v : Json) : Json → Prop
  | here : Occurs v v
  | item {items : List Json} {w : Json} : w ∈ items → Occurs v w → Occurs v (.array items)
  | member {members : List (String × Json)} {name : String} {w : Json} :
      (name, w) ∈ members → Occurs v w → Occurs v (.object members)

theorem Occurs.sortKeys {v w : Json} (h : Occurs v w) :
    Occurs (Json.sortKeys v) (Json.sortKeys w) := by
  induction h with
  | here => exact .here
  | item hmem _ ih => exact .item (mem_sortItems hmem) ih
  | member hmem _ ih =>
    exact .member ((List.mem_insertionSort _).mpr (mem_sortMembers hmem)) ih

/-- An object in the document has a member of this name and text. -/
def Labelled (name text : String) (v : Json) : Prop :=
  ∃ members, (name, string text) ∈ members ∧ Occurs (.object members) v

theorem Labelled.sortKeys {name text : String} {v : Json} (h : Labelled name text v) :
    Labelled name text (Json.sortKeys v) := by
  obtain ⟨members, hmem, hoccurs⟩ := h
  exact ⟨_, (List.mem_insertionSort _).mpr (mem_sortMembers hmem), hoccurs.sortKeys⟩

theorem Labelled.item {name text : String} {w : Json} {items : List Json} (hmem : w ∈ items)
    (h : Labelled name text w) : Labelled name text (.array items) := by
  obtain ⟨members, hname, hoccurs⟩ := h
  exact ⟨members, hname, .item hmem hoccurs⟩

theorem Labelled.member {name text : String} {w : Json} {members : List (String × Json)}
    (key : String) (hmem : (key, w) ∈ members) (h : Labelled name text w) :
    Labelled name text (.object members) := by
  obtain ⟨members', hname, hoccurs⟩ := h
  exact ⟨members', hname, .member hmem hoccurs⟩

end Json

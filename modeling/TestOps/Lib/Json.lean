import Mathlib

/-! JSON documents: the text a document is written as without any space, and the parser that reads it
    back. A number is kept as the literal it is written as, an object as the list of its members.

      document    {"id":7,"name":"a\n"}
      parsed      object [("id", 7), ("name", string)]

    The parser takes fuel, one unit for every value and every member or item; a document that was
    written by `render` is read within its own length. -/

namespace Json

/-! ### Numbers -/

/-- What is left after at least one digit. -/
def digits : List Char → Option (List Char)
  | [] => none
  | c :: cs => if c.isDigit then some (cs.dropWhile Char.isDigit) else none

/-- What is left after a number without leading zeros. -/
def natural : List Char → Option (List Char)
  | [] => none
  | c :: cs =>
    if c = '0' then some cs else if c.isDigit then some (cs.dropWhile Char.isDigit) else none

def integer : List Char → Option (List Char)
  | [] => none
  | c :: cs => if c = '-' then natural cs else natural (c :: cs)

def fraction : List Char → Option (List Char)
  | [] => some []
  | c :: cs => if c = '.' then digits cs else some (c :: cs)

def unsigned : List Char → List Char
  | [] => []
  | c :: cs => if c = '+' ∨ c = '-' then cs else c :: cs

def exponent : List Char → Option (List Char)
  | [] => some []
  | c :: cs => if c = 'e' ∨ c = 'E' then digits (unsigned cs) else some (c :: cs)

/-- The literal is a number from its first to its last character. -/
def IsNumber (literal : List Char) : Prop :=
  ((integer literal).bind fraction).bind exponent = some []

instance (literal : List Char) : Decidable (IsNumber literal) :=
  inferInstanceAs (Decidable (_ = _))

/-- The literal of a number. -/
structure Number where
  literal : List Char
  isNumber : IsNumber literal
  deriving DecidableEq

def isNumberChar (c : Char) : Bool :=
  c.isDigit || c == '-' || c == '+' || c == '.' || c == 'e' || c == 'E'

/-- A number begins here. -/
def opensNumber (c : Char) : Bool := c.isDigit || c == '-'

end Json

inductive Json where
  | null
  | bool (b : Bool)
  | number (n : Json.Number)
  | string (s : String)
  | array (items : List Json)
  | object (members : List (String × Json))

namespace Json

/-! ### Writing -/

def hexDigits : List Char := "0123456789abcdef".toList

def hexDigit (n : Nat) : Char := hexDigits.getD n '0'

/-- The characters that are written after a backslash, each with the one that stands for it. -/
def shortEscapes : List (Char × Char) :=
  [('"', '"'), ('\\', '\\'), ('\n', 'n'), ('\r', 'r'), ('\t', 't'), ('\x0c', 'f'), ('\x08', 'b')]

/-- A character inside a string. -/
def escape (c : Char) : List Char :=
  match shortEscapes.lookup c with
  | some short => ['\\', short]
  | none =>
    if c.toNat < 0x20 then ['\\', 'u', '0', '0', hexDigit (c.toNat / 16), hexDigit (c.toNat % 16)]
    else [c]

def renderString (s : String) : List Char := '"' :: (s.toList.flatMap escape ++ ['"'])

mutual

/-- A document without spaces. -/
def render : Json → List Char
  | null => ['n', 'u', 'l', 'l']
  | bool true => ['t', 'r', 'u', 'e']
  | bool false => ['f', 'a', 'l', 's', 'e']
  | number n => n.literal
  | string s => renderString s
  | array [] => ['[', ']']
  | array (item :: items) => '[' :: (render item ++ renderItems items)
  | object [] => ['{', '}']
  | object (member :: members) => '{' :: (renderMember member ++ renderMembers members)

/-- The items after the first one, and the end of the array. -/
def renderItems : List Json → List Char
  | [] => [']']
  | item :: items => ',' :: (render item ++ renderItems items)

def renderMember : String × Json → List Char
  | (name, value) => renderString name ++ ':' :: render value

/-- The members after the first one, and the end of the object. -/
def renderMembers : List (String × Json) → List Char
  | [] => ['}']
  | member :: members => ',' :: (renderMember member ++ renderMembers members)

end

/-! ### Reading -/

def isSpace (c : Char) : Bool := c == ' ' || c == '\t' || c == '\n' || c == '\r'

def skipSpaces (cs : List Char) : List Char := cs.dropWhile isSpace

def hexValue (c : Char) : Option Nat :=
  if c.isDigit then some (c.toNat - 48)
  else if 'a' ≤ c ∧ c ≤ 'f' then some (c.toNat - 87)
  else if 'A' ≤ c ∧ c ≤ 'F' then some (c.toNat - 55)
  else none

def hex4 : List Char → Option (Nat × List Char)
  | a :: b :: c :: d :: cs => do
    let a ← hexValue a
    let b ← hexValue b
    let c ← hexValue c
    let d ← hexValue d
    return (((a * 16 + b) * 16 + c) * 16 + d, cs)
  | _ => none

/-- The second half of a character above 0xFFFF. -/
def lowSurrogate : List Char → Option (Nat × List Char)
  | '\\' :: 'u' :: cs => (hex4 cs).filter fun half => 0xDC00 ≤ half.1 ∧ half.1 ≤ 0xDFFF
  | _ => none

/-- A character by its number; half a character alone is none. -/
def numbered (code : Nat) (cs : List Char) : Option (Char × List Char) :=
  if 0xD800 ≤ code ∧ code ≤ 0xDBFF then
    (lowSurrogate cs).map fun half =>
      (Char.ofNat (0x10000 + (code - 0xD800) * 1024 + (half.1 - 0xDC00)), half.2)
  else if 0xDC00 ≤ code ∧ code ≤ 0xDFFF then none
  else some (Char.ofNat code, cs)

/-- What a character after a backslash stands for. -/
def longEscapes : List (Char × Char) :=
  [('"', '"'), ('\\', '\\'), ('/', '/'), ('n', '\n'), ('r', '\r'), ('t', '\t'), ('f', '\x0c'),
    ('b', '\x08')]

/-- The character behind a backslash. -/
def unescape : List Char → Option (Char × List Char)
  | [] => none
  | c :: cs =>
    if c = 'u' then (hex4 cs).bind fun code => numbered code.1 code.2
    else (longEscapes.lookup c).map fun long => (long, cs)

/-- The characters of a string up to its closing quote. -/
def parseChars : Nat → List Char → Option (List Char × List Char)
  | 0, _ | _, [] => none
  | fuel + 1, c :: cs =>
    if c = '"' then some ([], cs)
    else if c.toNat < 0x20 then none
    else do
      let (c, cs) ← if c = '\\' then unescape cs else some (c, cs)
      let (text, cs) ← parseChars fuel cs
      return (c :: text, cs)

/-- A string, its opening quote included. -/
def parseString : List Char → Option (String × List Char)
  | [] => none
  | c :: cs =>
    if c = '"' then
      (parseChars (cs.length + 1) cs).map fun found => (String.ofList found.1, found.2)
    else none

/-- The longest literal that could be a number. -/
def parseNumber (cs : List Char) : Option (Json × List Char) :=
  if h : IsNumber (cs.takeWhile isNumberChar) then
    some (number ⟨cs.takeWhile isNumberChar, h⟩, cs.dropWhile isNumberChar)
  else none

def parseKeyword : List Char → Option (Json × List Char)
  | 'n' :: 'u' :: 'l' :: 'l' :: cs => some (null, cs)
  | 't' :: 'r' :: 'u' :: 'e' :: cs => some (bool true, cs)
  | 'f' :: 'a' :: 'l' :: 's' :: 'e' :: cs => some (bool false, cs)
  | _ => none

/-- The text after a punctuation character and the spaces before it. -/
def punctuation (c : Char) (cs : List Char) : Option (List Char) :=
  match skipSpaces cs with
  | [] => none
  | c' :: cs => if c' = c then some cs else none

mutual

def parseValue : Nat → List Char → Option (Json × List Char)
  | 0, _ => none
  | fuel + 1, cs =>
    match skipSpaces cs with
    | [] => none
    | c :: cs =>
      if c = '"' then (parseString (c :: cs)).map fun found => (string found.1, found.2)
      else if c = '[' then
        match punctuation ']' cs with
        | some cs => some (array [], cs)
        | none => do
          let (item, cs) ← parseValue fuel cs
          let (items, cs) ← parseItems fuel cs
          return (array (item :: items), cs)
      else if c = '{' then
        match punctuation '}' cs with
        | some cs => some (object [], cs)
        | none => do
          let (member, cs) ← parseMember fuel cs
          let (members, cs) ← parseMembers fuel cs
          return (object (member :: members), cs)
      else if opensNumber c then parseNumber (c :: cs)
      else parseKeyword (c :: cs)

def parseItems : Nat → List Char → Option (List Json × List Char)
  | 0, _ => none
  | fuel + 1, cs =>
    match punctuation ']' cs with
    | some cs => some ([], cs)
    | none => do
      let cs ← punctuation ',' cs
      let (item, cs) ← parseValue fuel cs
      let (items, cs) ← parseItems fuel cs
      return (item :: items, cs)

def parseMember : Nat → List Char → Option ((String × Json) × List Char)
  | 0, _ => none
  | fuel + 1, cs => do
    let (name, cs) ← parseString (skipSpaces cs)
    let cs ← punctuation ':' cs
    let (value, cs) ← parseValue fuel cs
    return ((name, value), cs)

def parseMembers : Nat → List Char → Option (List (String × Json) × List Char)
  | 0, _ => none
  | fuel + 1, cs =>
    match punctuation '}' cs with
    | some cs => some ([], cs)
    | none => do
      let cs ← punctuation ',' cs
      let (member, cs) ← parseMember fuel cs
      let (members, cs) ← parseMembers fuel cs
      return (member :: members, cs)

end

/-- The document a text is, spaces around it apart. -/
def parse (text : List Char) : Option Json :=
  (parseValue (text.length + 1) text).bind fun found =>
    if skipSpaces found.2 = [] then some found.1 else none

variable {c : Char} {cs rest : List Char} {fuel : Nat}

/-! ### Numbers are read back -/

/-- Whatever is not left of a text consists of characters of numbers. -/
def ReadsNumber (read : List Char → Option (List Char)) : Prop :=
  ∀ cs rest, read cs = some rest → ∀ c ∈ cs, c ∈ rest ∨ isNumberChar c = true

theorem isNumberChar_of_isDigit (h : c.isDigit = true) : isNumberChar c = true := by
  simp [isNumberChar, h]

theorem dropWhile_isDigit (hmem : c ∈ cs) :
    c ∈ cs.dropWhile Char.isDigit ∨ isNumberChar c = true := by
  rw [← List.takeWhile_append_dropWhile (p := Char.isDigit) (l := cs), List.mem_append] at hmem
  rcases hmem with hmem | hmem
  · exact .inr (isNumberChar_of_isDigit (List.mem_takeWhile_imp hmem))
  · exact .inl hmem

theorem digits_reads : ReadsNumber digits := by
  intro cs rest h
  cases cs with
  | nil => cases h
  | cons c cs =>
    rw [digits] at h
    split at h
    · rename_i hdigit
      cases h
      exact List.forall_mem_cons.mpr
        ⟨.inr (isNumberChar_of_isDigit hdigit), fun _ => dropWhile_isDigit⟩
    · cases h

theorem natural_reads : ReadsNumber natural := by
  intro cs rest h
  cases cs with
  | nil => cases h
  | cons c cs =>
    rw [natural] at h
    split at h
    · rename_i hzero
      cases h
      exact List.forall_mem_cons.mpr ⟨.inr (hzero ▸ by decide), fun _ => .inl⟩
    · split at h
      · rename_i hdigit
        cases h
        exact List.forall_mem_cons.mpr
          ⟨.inr (isNumberChar_of_isDigit hdigit), fun _ => dropWhile_isDigit⟩
      · cases h

theorem integer_reads : ReadsNumber integer := by
  intro cs rest h
  cases cs with
  | nil => cases h
  | cons c cs =>
    rw [integer] at h
    split at h
    · rename_i hminus
      exact List.forall_mem_cons.mpr ⟨.inr (hminus ▸ by decide), natural_reads cs rest h⟩
    · exact natural_reads _ rest h

theorem fraction_reads : ReadsNumber fraction := by
  intro cs rest h
  cases cs with
  | nil => exact List.forall_mem_nil _
  | cons c cs =>
    rw [fraction] at h
    split at h
    · rename_i hpoint
      exact List.forall_mem_cons.mpr ⟨.inr (hpoint ▸ by decide), digits_reads cs rest h⟩
    · cases h
      exact fun _ => .inl

theorem unsigned_reads (hmem : c ∈ cs) : c ∈ unsigned cs ∨ isNumberChar c = true := by
  cases cs with
  | nil => cases hmem
  | cons sign cs =>
    rw [unsigned]
    split
    · rename_i hsign
      rcases List.mem_cons.mp hmem with rfl | hmem
      · rcases hsign with rfl | rfl <;> exact .inr (by decide)
      · exact .inl hmem
    · exact .inl hmem

theorem exponent_reads : ReadsNumber exponent := by
  intro cs rest h
  cases cs with
  | nil => exact List.forall_mem_nil _
  | cons c cs =>
    rw [exponent] at h
    split at h
    · rename_i hmark
      refine List.forall_mem_cons.mpr ⟨?_, fun c' hmem => ?_⟩
      · rcases hmark with rfl | rfl <;> exact .inr (by decide)
      · rcases unsigned_reads hmem with hmem | hnumber
        · exact digits_reads _ rest h c' hmem
        · exact .inr hnumber
    · cases h
      exact fun _ => .inl

theorem Number.isNumberChar (n : Number) : ∀ c ∈ n.literal, isNumberChar c = true := by
  have h : ((integer n.literal).bind fraction).bind exponent = some [] := n.isNumber
  obtain ⟨afterFraction, h, hexponent⟩ := Option.bind_eq_some_iff.mp h
  obtain ⟨afterInteger, hinteger, hfraction⟩ := Option.bind_eq_some_iff.mp h
  intro c hmem
  rcases integer_reads _ _ hinteger c hmem with hmem | hnumber
  · rcases fraction_reads _ _ hfraction c hmem with hmem | hnumber
    · rcases exponent_reads _ _ hexponent c hmem with hmem | hnumber
      · cases hmem
      · exact hnumber
    · exact hnumber
  · exact hnumber

theorem natural_opens (h : (natural cs).isSome) : ∃ c cs', cs = c :: cs' ∧ opensNumber c = true := by
  cases cs with
  | nil => cases h
  | cons c cs =>
    refine ⟨c, cs, rfl, ?_⟩
    rw [natural] at h
    split at h
    · rename_i hzero
      exact hzero ▸ by decide
    · split at h
      · rename_i hdigit
        simp [opensNumber, hdigit]
      · cases h

theorem Number.opens (n : Number) : ∃ c cs, n.literal = c :: cs ∧ opensNumber c = true := by
  have h : ((integer n.literal).bind fraction).bind exponent = some [] := n.isNumber
  obtain ⟨_, hfraction, _⟩ := Option.bind_eq_some_iff.mp h
  obtain ⟨left, h, _⟩ := Option.bind_eq_some_iff.mp hfraction
  cases hliteral : n.literal with
  | nil =>
    rw [hliteral] at h
    cases h
  | cons c cs =>
    refine ⟨c, cs, rfl, ?_⟩
    rw [hliteral, integer] at h
    split at h
    · rename_i hminus
      exact hminus ▸ by decide
    · obtain ⟨c', cs', heq, hopens⟩ := natural_opens (Option.isSome_of_eq_some h)
      obtain ⟨rfl, -⟩ := List.cons.inj heq
      exact hopens

/-- The text does not go on with a character of a number. -/
def EndsNumber (rest : List Char) : Prop := ∀ c ∈ rest.head?, isNumberChar c = false

theorem parseNumber_literal (n : Number) (hrest : EndsNumber rest) :
    parseNumber (n.literal ++ rest) = some (number n, rest) := by
  have hstop : rest.takeWhile isNumberChar = [] ∧ rest.dropWhile isNumberChar = rest := by
    cases rest with
    | nil => exact ⟨rfl, rfl⟩
    | cons c rest =>
      have hc := hrest c rfl
      exact ⟨List.takeWhile_cons_of_neg (by simp [hc]), List.dropWhile_cons_of_neg (by simp [hc])⟩
  have htake : (n.literal ++ rest).takeWhile Json.isNumberChar = n.literal := by
    rw [List.takeWhile_append_of_pos n.isNumberChar, hstop.1, List.append_nil]
  have hdrop : (n.literal ++ rest).dropWhile Json.isNumberChar = rest := by
    rw [List.dropWhile_append_of_pos n.isNumberChar, hstop.2]
  unfold parseNumber
  simp only [htake, hdrop, dif_pos n.isNumber]

/-! ### Strings are read back -/

theorem shortEscapes_unescape : ∀ pair ∈ shortEscapes, pair.2 ≠ 'u' ∧
    longEscapes.lookup pair.2 = some pair.1 := by
  decide

theorem shortEscapes_of_lookup {short : Char} (h : shortEscapes.lookup c = some short) :
    (c, short) ∈ shortEscapes := by
  obtain ⟨before, after, heq, -⟩ := List.lookup_eq_some_iff.mp h
  rw [heq]
  exact List.mem_append_right _ List.mem_cons_self

theorem hexValue_hexDigit : ∀ n < 16, hexValue (hexDigit n) = some n := by
  decide

/-- An escaped character is read back. -/
theorem parseChars_escape :
    parseChars (fuel + 1) (escape c ++ cs) =
      (parseChars fuel cs).map fun found => (c :: found.1, found.2) := by
  have hbind : ∀ found : Option (List Char × List Char),
      (found.bind fun x => some (c :: x.1, x.2)) = found.map fun x => (c :: x.1, x.2) := by
    intro found
    cases found <;> rfl
  cases hlookup : shortEscapes.lookup c with
  | some short =>
    obtain ⟨hu, hback⟩ := shortEscapes_unescape _ (shortEscapes_of_lookup hlookup)
    have hescape : escape c = ['\\', short] := by rw [escape, hlookup]
    have hunescape : unescape (short :: cs) = some (c, cs) := by
      rw [unescape, if_neg hu, hback]
      rfl
    rw [hescape, List.cons_append, parseChars, if_neg (by decide), if_neg (by decide), if_pos rfl]
    change (unescape (short :: cs)).bind _ = _
    rw [hunescape]
    exact hbind _
  | none =>
    have hne : ∀ pair ∈ shortEscapes, c ≠ pair.1 := by
      intro pair hmem
      have := List.lookup_eq_none_iff.mp hlookup pair hmem
      simpa using this
    have hquote : c ≠ '"' := hne ('"', '"') (by decide)
    have hslash : c ≠ '\\' := hne ('\\', '\\') (by decide)
    by_cases hcontrol : c.toNat < 0x20
    · have hescape : escape c =
          ['\\', 'u', '0', '0', hexDigit (c.toNat / 16), hexDigit (c.toNat % 16)] := by
        rw [escape, hlookup]
        exact if_pos hcontrol
      have hvalue : ((0 * 16 + 0) * 16 + c.toNat / 16) * 16 + c.toNat % 16 = c.toNat := by omega
      have hhex : hex4 ('0' :: '0' :: hexDigit (c.toNat / 16) :: hexDigit (c.toNat % 16) :: cs) =
          some (c.toNat, cs) := by
        rw [hex4, hexValue_hexDigit _ (by omega), hexValue_hexDigit _ (by omega),
          show hexValue '0' = some 0 by decide]
        exact congrArg (fun n => some (n, cs)) hvalue
      have hunescape : unescape ('u' :: '0' :: '0' :: hexDigit (c.toNat / 16) ::
          hexDigit (c.toNat % 16) :: cs) = some (c, cs) := by
        rw [unescape, if_pos rfl, hhex, Option.bind_some, numbered, if_neg (by omega),
          if_neg (by omega), Char.ofNat_toNat]
      rw [hescape, List.cons_append, parseChars, if_neg (by decide), if_neg (by decide),
        if_pos rfl]
      change (unescape ('u' :: '0' :: '0' :: hexDigit (c.toNat / 16) ::
          hexDigit (c.toNat % 16) :: cs)).bind _ = _
      rw [hunescape]
      exact hbind _
    · have hescape : escape c = [c] := by
        rw [escape, hlookup]
        exact if_neg hcontrol
      rw [hescape, List.singleton_append, parseChars, if_neg hquote, if_neg hcontrol,
        if_neg hslash]
      exact hbind _

theorem parseChars_escapes {text : List Char} (hfuel : text.length < fuel) :
    parseChars fuel (text.flatMap escape ++ '"' :: rest) = some (text, rest) := by
  induction text generalizing fuel with
  | nil =>
    obtain ⟨fuel, rfl⟩ := Nat.exists_eq_succ_of_ne_zero (Nat.ne_zero_of_lt hfuel)
    rfl
  | cons c text ih =>
    obtain ⟨fuel, rfl⟩ := Nat.exists_eq_succ_of_ne_zero (Nat.ne_zero_of_lt hfuel)
    rw [List.flatMap_cons, List.append_assoc, Nat.succ_eq_add_one, parseChars_escape,
      ih (by simpa using hfuel)]
    rfl

theorem escape_ne_nil : escape c ≠ [] := by
  rw [escape]
  split
  · exact List.cons_ne_nil _ _
  · split <;> exact List.cons_ne_nil _ _

theorem length_le_escapes (text : List Char) : text.length ≤ (text.flatMap escape).length := by
  induction text with
  | nil => exact Nat.le_refl _
  | cons c text ih =>
    have := List.length_pos_of_ne_nil (escape_ne_nil (c := c))
    rw [List.flatMap_cons, List.length_append, List.length_cons]
    omega

theorem parseString_render (s : String) :
    parseString (renderString s ++ rest) = some (s, rest) := by
  have hlength := length_le_escapes s.toList
  rw [renderString, List.cons_append, List.append_assoc, List.singleton_append, parseString,
    if_pos rfl, parseChars_escapes]
  · rw [Option.map_some, String.ofList_toList]
  · rw [List.length_append]
    omega

/-! ### Documents are read back -/

theorem skipSpaces_cons (h : isSpace c = false) : skipSpaces (c :: cs) = c :: cs :=
  List.dropWhile_cons_of_neg (by simp [h])

theorem punctuation_cons (h : isSpace c = false) : punctuation c (c :: cs) = some cs := by
  rw [punctuation, skipSpaces_cons h]
  exact if_pos rfl

theorem punctuation_ne {c' : Char} (h : isSpace c' = false) (hne : c' ≠ c) :
    punctuation c (c' :: cs) = none := by
  rw [punctuation, skipSpaces_cons h]
  exact if_neg hne

/-- No space and no end of an array or object. -/
def Opens (c : Char) : Prop := isSpace c = false ∧ c ≠ ']' ∧ c ≠ '}'

instance (c : Char) : Decidable (Opens c) := inferInstanceAs (Decidable (_ ∧ _))

theorem opensNumber_opens (h : opensNumber c = true) :
    Opens c ∧ c ≠ '"' ∧ c ≠ '[' ∧ c ≠ '{' := by
  refine ⟨⟨?_, ?_, ?_⟩, ?_, ?_, ?_⟩
  · by_contra hspace
    simp only [isSpace, Bool.not_eq_false, Bool.or_eq_true, beq_iff_eq] at hspace
    rcases hspace with ((rfl | rfl) | rfl) | rfl <;> exact absurd h (by decide)
  all_goals
    rintro rfl
    exact absurd h (by decide)

theorem render_opens (v : Json) : ∃ c cs, render v = c :: cs ∧ Opens c := by
  cases v with
  | null => exact ⟨_, _, rfl, by decide⟩
  | bool b => cases b <;> exact ⟨_, _, rfl, by decide⟩
  | number n =>
    obtain ⟨c, cs, heq, hopens⟩ := n.opens
    exact ⟨c, cs, heq, (opensNumber_opens hopens).1⟩
  | string s => exact ⟨_, _, rfl, by decide⟩
  | array items => cases items <;> exact ⟨_, _, rfl, by decide⟩
  | object members => cases members <;> exact ⟨_, _, rfl, by decide⟩

theorem punctuation_render {end' : Char} (hend : end' = ']' ∨ end' = '}') (v : Json) :
    punctuation end' (render v ++ rest) = none := by
  obtain ⟨c, cs, heq, hspace, hbracket, hbrace⟩ := render_opens v
  rw [heq, List.cons_append]
  refine punctuation_ne hspace ?_
  rcases hend with rfl | rfl
  · exact hbracket
  · exact hbrace

theorem punctuation_renderMember (member : String × Json) :
    punctuation '}' (renderMember member ++ rest) = none := by
  obtain ⟨name, value⟩ := member
  rw [renderMember, renderString, List.cons_append, List.cons_append]
  exact punctuation_ne (by decide) (by decide)

theorem endsNumber_cons (h : isNumberChar c = false) : EndsNumber (c :: cs) := by
  intro c' hmem
  rwa [← Option.some.inj hmem]

theorem renderItems_ends (items : List Json) : EndsNumber (renderItems items ++ rest) := by
  cases items <;> exact endsNumber_cons (by decide)

theorem renderMembers_ends (members : List (String × Json)) :
    EndsNumber (renderMembers members ++ rest) := by
  cases members <;> exact endsNumber_cons (by decide)

mutual

/-- A document is read back from the beginning of a text. -/
theorem parseValue_render (v : Json) (fuel : Nat) (rest : List Char)
    (hfuel : (render v ++ rest).length < fuel) (hrest : EndsNumber rest) :
    parseValue fuel (render v ++ rest) = some (v, rest) := by
  obtain ⟨fuel, rfl⟩ := Nat.exists_eq_succ_of_ne_zero (Nat.ne_zero_of_lt hfuel)
  match v with
  | null => rfl
  | bool true => rfl
  | bool false => rfl
  | number n =>
    obtain ⟨c, cs, heq, hopens⟩ := n.opens
    obtain ⟨⟨hspace, -⟩, hquote, hbracket, hbrace⟩ := opensNumber_opens hopens
    have hparse := parseNumber_literal n hrest
    rw [heq, List.cons_append] at hparse
    simp only [render, heq, List.cons_append, parseValue, skipSpaces_cons hspace, hquote, hbracket,
      hbrace, if_false, hopens, if_true, hparse]
  | string s =>
    have hparse : parseString (renderString s ++ rest) = some (s, rest) := parseString_render s
    have heq : renderString s ++ rest = '"' :: (s.toList.flatMap escape ++ ['"'] ++ rest) := rfl
    rw [heq] at hparse
    simp only [render, heq, parseValue, skipSpaces_cons (show isSpace '"' = false by decide),
      if_true, hparse, Option.map_some]
  | array [] => rfl
  | array (item :: items) =>
    have htext : render (array (item :: items)) ++ rest =
        '[' :: (render item ++ (renderItems items ++ rest)) := by
      rw [render, List.cons_append, List.append_assoc]
    rw [htext, List.length_cons] at hfuel
    have hlength : (render item ++ (renderItems items ++ rest)).length =
        (render item).length + (renderItems items ++ rest).length := List.length_append
    have hitem := parseValue_render item fuel (renderItems items ++ rest) (by omega)
      (renderItems_ends items)
    have hitems := parseItems_render items fuel rest (by omega)
    rw [htext]
    simp only [parseValue, skipSpaces_cons (show isSpace '[' = false by decide),
      show '[' ≠ '"' by decide, if_false, if_true, punctuation_render (.inl rfl), hitem, hitems,
      Option.bind_eq_bind, Option.bind_some, Option.pure_def]
  | object [] => rfl
  | object (member :: members) =>
    have htext : render (object (member :: members)) ++ rest =
        '{' :: (renderMember member ++ (renderMembers members ++ rest)) := by
      rw [render, List.cons_append, List.append_assoc]
    rw [htext, List.length_cons] at hfuel
    have hlength : (renderMember member ++ (renderMembers members ++ rest)).length =
        (renderMember member).length + (renderMembers members ++ rest).length :=
      List.length_append
    have hmember := parseMember_render member fuel (renderMembers members ++ rest) (by omega)
      (renderMembers_ends members)
    have hmembers := parseMembers_render members fuel rest (by omega)
    rw [htext]
    simp only [parseValue, skipSpaces_cons (show isSpace '{' = false by decide),
      show '{' ≠ '"' by decide, show '{' ≠ '[' by decide, if_false, if_true,
      punctuation_renderMember, hmember, hmembers, Option.bind_eq_bind, Option.bind_some,
      Option.pure_def]

theorem parseItems_render (items : List Json) (fuel : Nat) (rest : List Char)
    (hfuel : (renderItems items ++ rest).length < fuel) :
    parseItems fuel (renderItems items ++ rest) = some (items, rest) := by
  obtain ⟨fuel, rfl⟩ := Nat.exists_eq_succ_of_ne_zero (Nat.ne_zero_of_lt hfuel)
  match items with
  | [] => rfl
  | item :: items =>
    have htext : renderItems (item :: items) ++ rest =
        ',' :: (render item ++ (renderItems items ++ rest)) := by
      rw [renderItems, List.cons_append, List.append_assoc]
    rw [htext, List.length_cons] at hfuel
    have hlength : (render item ++ (renderItems items ++ rest)).length =
        (render item).length + (renderItems items ++ rest).length := List.length_append
    have hitem := parseValue_render item fuel (renderItems items ++ rest) (by omega)
      (renderItems_ends items)
    have hitems := parseItems_render items fuel rest (by omega)
    rw [htext]
    simp only [parseItems, punctuation_ne (c := ']') (show isSpace ',' = false by decide)
      (by decide), punctuation_cons (show isSpace ',' = false by decide), hitem, hitems,
      Option.bind_eq_bind, Option.bind_some, Option.pure_def]

theorem parseMember_render (member : String × Json) (fuel : Nat) (rest : List Char)
    (hfuel : (renderMember member ++ rest).length < fuel) (hrest : EndsNumber rest) :
    parseMember fuel (renderMember member ++ rest) = some (member, rest) := by
  obtain ⟨fuel, rfl⟩ := Nat.exists_eq_succ_of_ne_zero (Nat.ne_zero_of_lt hfuel)
  match member with
  | (name, value) =>
    have htext : renderMember (name, value) ++ rest =
        renderString name ++ (':' :: (render value ++ rest)) := by
      rw [renderMember, List.append_assoc, List.cons_append]
    rw [htext, List.length_append, List.length_cons] at hfuel
    have hvalue := parseValue_render value fuel rest (by omega) hrest
    have hspaces : skipSpaces (renderString name ++ (':' :: (render value ++ rest))) =
        renderString name ++ (':' :: (render value ++ rest)) :=
      skipSpaces_cons (show isSpace '"' = false by decide)
    rw [htext]
    simp only [parseMember, hspaces, parseString_render,
      punctuation_cons (show isSpace ':' = false by decide), hvalue, Option.bind_eq_bind,
      Option.bind_some, Option.pure_def]

theorem parseMembers_render (members : List (String × Json)) (fuel : Nat) (rest : List Char)
    (hfuel : (renderMembers members ++ rest).length < fuel) :
    parseMembers fuel (renderMembers members ++ rest) = some (members, rest) := by
  obtain ⟨fuel, rfl⟩ := Nat.exists_eq_succ_of_ne_zero (Nat.ne_zero_of_lt hfuel)
  match members with
  | [] => rfl
  | member :: members =>
    have htext : renderMembers (member :: members) ++ rest =
        ',' :: (renderMember member ++ (renderMembers members ++ rest)) := by
      rw [renderMembers, List.cons_append, List.append_assoc]
    rw [htext, List.length_cons] at hfuel
    have hlength : (renderMember member ++ (renderMembers members ++ rest)).length =
        (renderMember member).length + (renderMembers members ++ rest).length :=
      List.length_append
    have hmember := parseMember_render member fuel (renderMembers members ++ rest) (by omega)
      (renderMembers_ends members)
    have hmembers := parseMembers_render members fuel rest (by omega)
    rw [htext]
    simp only [parseMembers, punctuation_ne (c := '}') (show isSpace ',' = false by decide)
      (by decide), punctuation_cons (show isSpace ',' = false by decide), hmember, hmembers,
      Option.bind_eq_bind, Option.bind_some, Option.pure_def]

end

/-- A document is read back from the text it is written as. -/
theorem parse_render (v : Json) : parse (render v) = some v := by
  have h := parseValue_render v ((render v).length + 1) [] (by simp) (fun _ hmem => by cases hmem)
  rw [List.append_nil] at h
  rw [parse, h]
  rfl

theorem render_injective {v v' : Json} (h : render v = render v') : v = v' := by
  have hparse := parse_render v
  rw [h, parse_render] at hparse
  exact (Option.some.inj hparse).symm

/-! ### No control character is written -/

/-- Not a control character. -/
def Printable (c : Char) : Prop := 0x20 ≤ c.toNat

instance (c : Char) : Decidable (Printable c) := inferInstanceAs (Decidable (_ ≤ _))

theorem printable_of_all (h : cs.all (fun c => decide (Printable c)) = true) :
    ∀ c ∈ cs, Printable c := by
  simpa using h

theorem isNumberChar_printable (h : isNumberChar c = true) : Printable c := by
  simp only [isNumberChar, Bool.or_eq_true, beq_iff_eq] at h
  rcases h with ((((h | rfl) | rfl) | rfl) | rfl) | rfl
  · have hdigit : 48 ≤ c.toNat ∧ c.toNat ≤ 57 := by
      simpa [Char.isDigit, UInt32.le_iff_toNat_le] using h
    rw [Printable]
    omega
  all_goals decide

theorem escape_printable : ∀ c' ∈ escape c, Printable c' := by
  have hhex : ∀ n < 16, Printable (hexDigit n) := by decide
  rw [escape]
  split
  · rename_i short hlookup
    have hshort : ∀ pair ∈ shortEscapes, Printable pair.2 := by decide
    simpa using ⟨by decide, hshort _ (shortEscapes_of_lookup hlookup)⟩
  · split
    · simp only [List.forall_mem_cons]
      exact ⟨by decide, by decide, by decide, by decide, hhex _ (by omega), hhex _ (by omega),
        List.forall_mem_nil _⟩
    · rename_i hcontrol
      exact List.forall_mem_singleton.mpr (Nat.le_of_not_lt hcontrol)

theorem renderString_printable (s : String) : ∀ c ∈ renderString s, Printable c := by
  refine List.forall_mem_cons.mpr ⟨by decide, List.forall_mem_append.mpr ⟨?_, ?_⟩⟩
  · intro c hmem
    obtain ⟨c', -, hmem⟩ := List.mem_flatMap.mp hmem
    exact escape_printable c hmem
  · exact List.forall_mem_singleton.mpr (by decide)

mutual

theorem render_printable : ∀ v : Json, ∀ c ∈ render v, Printable c
  | null | bool true | bool false | array [] | object [] => printable_of_all (by decide)
  | number n => fun c hmem => isNumberChar_printable (n.isNumberChar c hmem)
  | string s => renderString_printable s
  | array (item :: items) => List.forall_mem_cons.mpr ⟨by decide,
      List.forall_mem_append.mpr ⟨render_printable item, renderItems_printable items⟩⟩
  | object (member :: members) => List.forall_mem_cons.mpr ⟨by decide,
      List.forall_mem_append.mpr ⟨renderMember_printable member, renderMembers_printable members⟩⟩

theorem renderItems_printable : ∀ items : List Json, ∀ c ∈ renderItems items, Printable c
  | [] => printable_of_all (by decide)
  | item :: items => List.forall_mem_cons.mpr ⟨by decide,
      List.forall_mem_append.mpr ⟨render_printable item, renderItems_printable items⟩⟩

theorem renderMember_printable : ∀ member : String × Json, ∀ c ∈ renderMember member, Printable c
  | (name, value) => List.forall_mem_append.mpr ⟨renderString_printable name,
      List.forall_mem_cons.mpr ⟨by decide, render_printable value⟩⟩

theorem renderMembers_printable :
    ∀ members : List (String × Json), ∀ c ∈ renderMembers members, Printable c
  | [] => printable_of_all (by decide)
  | member :: members => List.forall_mem_cons.mpr ⟨by decide,
      List.forall_mem_append.mpr ⟨renderMember_printable member, renderMembers_printable members⟩⟩

end

end Json

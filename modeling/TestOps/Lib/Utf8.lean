import Mathlib

/-! Decoding a stream of UTF-8 bytes that arrives in pieces. The decoder takes one byte at a time and
    remembers what it has read of a character, so it does not matter where the stream is cut:

      bytes      E2 82 AC   24   C3 A9
      chunks     E2 | 82 AC 24 C3 | A9
      decoded         €  $         é

    A byte that cannot continue the character before it, or begin one, is replaced. -/

namespace Utf8

/-- What has been read of the character at hand: its bits so far, how many bytes are missing, and
    the range of the next one. -/
structure Decoder where
  codePoint : Nat
  needed : Nat
  lower : Nat
  upper : Nat
  deriving DecidableEq

namespace Decoder

/-- Between two characters. -/
def start : Decoder := ⟨0, 0, 0x80, 0xBF⟩

def replacement : Char := '\uFFFD'

/-- The first byte of a character. -/
def lead (b : Nat) : Decoder × List Char :=
  if b ≤ 0x7F then (start, [Char.ofNat b])
  else if 0xC2 ≤ b ∧ b ≤ 0xDF then (⟨b - 0xC0, 1, 0x80, 0xBF⟩, [])
  else if 0xE0 ≤ b ∧ b ≤ 0xEF then
    (⟨b - 0xE0, 2, if b = 0xE0 then 0xA0 else 0x80, if b = 0xED then 0x9F else 0xBF⟩, [])
  else if 0xF0 ≤ b ∧ b ≤ 0xF4 then
    (⟨b - 0xF0, 3, if b = 0xF0 then 0x90 else 0x80, if b = 0xF4 then 0x8F else 0xBF⟩, [])
  else (start, [replacement])

/-- One more byte. -/
def byte (d : Decoder) (b : Nat) : Decoder × List Char :=
  if d.needed = 0 then lead b
  else if d.lower ≤ b ∧ b ≤ d.upper then
    if d.needed = 1 then (start, [Char.ofNat (d.codePoint * 64 + (b - 0x80))])
    else (⟨d.codePoint * 64 + (b - 0x80), d.needed - 1, 0x80, 0xBF⟩, [])
  else ((lead b).1, replacement :: (lead b).2)

/-- The characters that a piece of the stream completes. -/
def bytes : Decoder → List UInt8 → Decoder × List Char
  | d, [] => (d, [])
  | d, b :: bs =>
    (bytes (d.byte b.toNat).1 bs).map id fun chars => (d.byte b.toNat).2 ++ chars

/-- The end of the stream cuts a character off. -/
def flush (d : Decoder) : List Char := if d.needed = 0 then [] else [replacement]

/-! ### Pieces -/

variable {d : Decoder} {bs bs' : List UInt8}

/-- Two pieces are decoded like the whole. -/
theorem bytes_append :
    d.bytes (bs ++ bs') = ((d.bytes bs).1.bytes bs').map id fun chars => (d.bytes bs).2 ++ chars := by
  induction bs generalizing d with
  | nil => rfl
  | cons b bs ih =>
    rw [List.cons_append, bytes, bytes, ih]
    simp only [Prod.map, id_eq, List.append_assoc]

theorem toNat_ofNat {n : Nat} (h : n < 256) : (UInt8.ofNat n).toNat = n := by
  rw [UInt8.toNat_ofNat']
  exact Nat.mod_eq_of_lt h

/-! ### Characters -/

variable {n : Nat}

theorem byte_start (b : Nat) : start.byte b = lead b := if_pos rfl

theorem byte_last {codePoint lower upper b : Nat} (hrange : lower ≤ b ∧ b ≤ upper)
    (hpoint : codePoint * 64 + (b - 0x80) = n) :
    byte ⟨codePoint, 1, lower, upper⟩ b = (start, [Char.ofNat n]) := by
  rw [byte, if_neg Nat.one_ne_zero, if_pos hrange, if_pos rfl, hpoint]

theorem byte_middle {codePoint needed lower upper b : Nat} (hrange : lower ≤ b ∧ b ≤ upper)
    (hpoint : codePoint * 64 + (b - 0x80) = n) :
    byte ⟨codePoint, needed + 2, lower, upper⟩ b = (⟨n, needed + 1, 0x80, 0xBF⟩, []) := by
  rw [byte, if_neg (Nat.succ_ne_zero _), if_pos hrange, if_neg (by simp), hpoint]
  rfl

theorem bytes_one (h : n ≤ 0x7F) : start.bytes [UInt8.ofNat n] = (start, [Char.ofNat n]) := by
  have hlead : start.byte n = (start, [Char.ofNat n]) := by
    rw [byte_start, lead, if_pos h]
  simp only [bytes, toNat_ofNat (show n < 256 by omega), hlead, Prod.map, id_eq, List.append_nil]

theorem bytes_two (hlow : 0x7F < n) (hhigh : n ≤ 0x7FF) :
    start.bytes [UInt8.ofNat (n / 64 % 0x20 + 0xC0), UInt8.ofNat (n % 0x40 + 0x80)] =
      (start, [Char.ofNat n]) := by
  have hlead : start.byte (n / 64 % 0x20 + 0xC0) = (⟨n / 64, 1, 0x80, 0xBF⟩, []) := by
    rw [byte_start, lead, if_neg (by omega), if_pos (by omega),
      show n / 64 % 0x20 + 0xC0 - 0xC0 = n / 64 by omega]
  have hlast : byte ⟨n / 64, 1, 0x80, 0xBF⟩ (n % 0x40 + 0x80) = (start, [Char.ofNat n]) :=
    byte_last (by omega) (by omega)
  simp only [bytes, toNat_ofNat (show n / 64 % 0x20 + 0xC0 < 256 by omega),
    toNat_ofNat (show n % 0x40 + 0x80 < 256 by omega), hlead, hlast, Prod.map, id_eq,
    List.append_nil, List.nil_append]

theorem bytes_three (hlow : 0x7FF < n) (hhigh : n ≤ 0xFFFF) (hvalid : n < 0xD800 ∨ 0xDFFF < n) :
    start.bytes [UInt8.ofNat (n / 4096 % 0x10 + 0xE0), UInt8.ofNat (n / 64 % 0x40 + 0x80),
      UInt8.ofNat (n % 0x40 + 0x80)] = (start, [Char.ofNat n]) := by
  have hlead : ∃ lower upper, start.byte (n / 4096 % 0x10 + 0xE0) =
      (⟨n / 4096, 2, lower, upper⟩, []) ∧
      lower ≤ n / 64 % 0x40 + 0x80 ∧ n / 64 % 0x40 + 0x80 ≤ upper := by
    refine ⟨if n / 4096 % 0x10 + 0xE0 = 0xE0 then 0xA0 else 0x80,
      if n / 4096 % 0x10 + 0xE0 = 0xED then 0x9F else 0xBF, ?_, ?_, ?_⟩
    · rw [byte_start, lead, if_neg (by omega), if_neg (by omega), if_pos (by omega),
        show n / 4096 % 0x10 + 0xE0 - 0xE0 = n / 4096 by omega]
    · split <;> omega
    · split <;> omega
  obtain ⟨lower, upper, hlead, hlower, hupper⟩ := hlead
  have hmiddle : byte ⟨n / 4096, 2, lower, upper⟩ (n / 64 % 0x40 + 0x80) =
      (⟨n / 64, 1, 0x80, 0xBF⟩, []) :=
    byte_middle ⟨hlower, hupper⟩ (by omega)
  have hlast : byte ⟨n / 64, 1, 0x80, 0xBF⟩ (n % 0x40 + 0x80) = (start, [Char.ofNat n]) :=
    byte_last (by omega) (by omega)
  simp only [bytes, toNat_ofNat (show n / 4096 % 0x10 + 0xE0 < 256 by omega),
    toNat_ofNat (show n / 64 % 0x40 + 0x80 < 256 by omega),
    toNat_ofNat (show n % 0x40 + 0x80 < 256 by omega), hlead, hmiddle, hlast, Prod.map, id_eq,
    List.append_nil, List.nil_append]

theorem bytes_four (hlow : 0xFFFF < n) (hhigh : n < 0x110000) :
    start.bytes [UInt8.ofNat (n / 262144 % 0x08 + 0xF0), UInt8.ofNat (n / 4096 % 0x40 + 0x80),
      UInt8.ofNat (n / 64 % 0x40 + 0x80), UInt8.ofNat (n % 0x40 + 0x80)] =
      (start, [Char.ofNat n]) := by
  have hlead : ∃ lower upper, start.byte (n / 262144 % 0x08 + 0xF0) =
      (⟨n / 262144, 3, lower, upper⟩, []) ∧
      lower ≤ n / 4096 % 0x40 + 0x80 ∧ n / 4096 % 0x40 + 0x80 ≤ upper := by
    refine ⟨if n / 262144 % 0x08 + 0xF0 = 0xF0 then 0x90 else 0x80,
      if n / 262144 % 0x08 + 0xF0 = 0xF4 then 0x8F else 0xBF, ?_, ?_, ?_⟩
    · rw [byte_start, lead, if_neg (by omega), if_neg (by omega), if_neg (by omega),
        if_pos (by omega), show n / 262144 % 0x08 + 0xF0 - 0xF0 = n / 262144 by omega]
    · split <;> omega
    · split <;> omega
  obtain ⟨lower, upper, hlead, hlower, hupper⟩ := hlead
  have hsecond : byte ⟨n / 262144, 3, lower, upper⟩ (n / 4096 % 0x40 + 0x80) =
      (⟨n / 4096, 2, 0x80, 0xBF⟩, []) :=
    byte_middle ⟨hlower, hupper⟩ (by omega)
  have hthird : byte ⟨n / 4096, 2, 0x80, 0xBF⟩ (n / 64 % 0x40 + 0x80) =
      (⟨n / 64, 1, 0x80, 0xBF⟩, []) :=
    byte_middle (by omega) (by omega)
  have hlast : byte ⟨n / 64, 1, 0x80, 0xBF⟩ (n % 0x40 + 0x80) = (start, [Char.ofNat n]) :=
    byte_last (by omega) (by omega)
  simp only [bytes, toNat_ofNat (show n / 262144 % 0x08 + 0xF0 < 256 by omega),
    toNat_ofNat (show n / 4096 % 0x40 + 0x80 < 256 by omega),
    toNat_ofNat (show n / 64 % 0x40 + 0x80 < 256 by omega),
    toNat_ofNat (show n % 0x40 + 0x80 < 256 by omega), hlead, hsecond, hthird, hlast, Prod.map,
    id_eq, List.append_nil, List.nil_append]

/-- A character is decoded from its own bytes. -/
theorem bytes_utf8EncodeChar (c : Char) : start.bytes (String.utf8EncodeChar c) = (start, [c]) := by
  have hvalid : c.toNat < 0xD800 ∨ 0xDFFF < c.toNat ∧ c.toNat < 0x110000 := c.valid
  have hback : Char.ofNat c.toNat = c := Char.ofNat_toNat c
  have hval : c.val.toNat = c.toNat := rfl
  simp only [String.utf8EncodeChar, hval]
  generalize c.toNat = n at hvalid hback
  subst hback
  split
  · exact bytes_one ‹_›
  · split
    · exact bytes_two (by omega) ‹_›
    · split
      · exact bytes_three (by omega) ‹_› (by omega)
      · exact bytes_four (by omega) (by omega)

/-- A text is decoded from its own bytes. -/
theorem bytes_utf8 (text : List Char) :
    start.bytes (text.flatMap String.utf8EncodeChar) = (start, text) := by
  induction text with
  | nil => rfl
  | cons c text ih =>
    rw [List.flatMap_cons, bytes_append, bytes_utf8EncodeChar, ih]
    rfl

end Decoder

/-- Different texts have different bytes. -/
theorem encode_injective :
    Function.Injective fun text : List Char => text.flatMap String.utf8EncodeChar := by
  intro text text' h
  have hdecode := Decoder.bytes_utf8 text
  have hbytes : text.flatMap String.utf8EncodeChar = text'.flatMap String.utf8EncodeChar := h
  rw [hbytes, Decoder.bytes_utf8] at hdecode
  exact (Prod.mk.inj hdecode).2.symm

/-! ### Bytes of ASCII characters -/

/-- A byte below `0x80` stands for itself. -/
theorem ascii_mem_utf8EncodeChar {c : Char} {b : UInt8} (h : b ∈ String.utf8EncodeChar c)
    (hb : b.toNat < 0x80) : c.toNat = b.toNat := by
  have hval : c.val.toNat = c.toNat := rfl
  have hmod : ∀ n : Nat, b = UInt8.ofNat n → n % 256 = b.toNat := by
    rintro n rfl
    exact (UInt8.toNat_ofNat' ).symm
  simp only [String.utf8EncodeChar, hval] at h
  split at h
  · have := hmod _ (List.mem_singleton.mp h)
    omega
  · split at h
    · simp only [List.mem_cons, List.not_mem_nil, or_false] at h
      rcases h with h | h
      all_goals have := hmod _ h; omega
    · split at h
      · simp only [List.mem_cons, List.not_mem_nil, or_false] at h
        rcases h with h | h | h
        all_goals have := hmod _ h; omega
      · simp only [List.mem_cons, List.not_mem_nil, or_false] at h
        rcases h with h | h | h | h
        all_goals have := hmod _ h; omega

theorem utf8EncodeChar_ne_nil (c : Char) : String.utf8EncodeChar c ≠ [] := by
  intro h
  have hlength := String.length_utf8EncodeChar c
  have hpos := c.utf8Size_pos
  rw [h, List.length_nil] at hlength
  omega

/-! ### Whole texts -/

/-- Strict decoding: the bytes are those of a text. -/
theorem utf8Decode?_eq_some {content : List UInt8} {text : List Char} :
    (ByteArray.mk content.toArray).utf8Decode?.map Array.toList = some text ↔
      content = text.flatMap String.utf8EncodeChar := by
  have hencode : text.utf8Encode.data.toList = text.flatMap String.utf8EncodeChar := by
    simp [List.utf8Encode]
  constructor
  · intro h
    obtain ⟨chars, hchars, rfl⟩ := Option.map_eq_some_iff.mp h
    have hback := ByteArray.utf8Encode_get_utf8Decode? (h := Option.isSome_of_eq_some hchars)
    have hget := Option.get_of_eq_some (Option.isSome_of_eq_some hchars) hchars
    rw [hget] at hback
    rw [← hencode, hback]
  · intro h
    have hbytes : ByteArray.mk content.toArray = text.utf8Encode := by
      rw [h, ← hencode]
    rw [hbytes, List.utf8Decode?_utf8Encode]
    rfl

end Utf8

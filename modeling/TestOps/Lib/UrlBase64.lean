import Mathlib

/-! Base64: every three bytes are written as four characters of an alphabet of 64. What is left over
    at the end is filled up with zero bits, and the characters that are missing then are pads:

      bytes        01001101   01100001   01101110
      digits       010011   010110   000101   101110
      encoded      T        W        F        u

    Decoding is generous: it skips what is no character of the alphabet, does not look at the bits that
    were filled up, and ends at the last pad that it needs. So several texts decode to the same bytes,
    but only one of them is their encoding. -/

namespace Base64

def alphabet : List Char :=
  "ABCDEFGHIJKLMNOPQRSTUVWXYZabcdefghijklmnopqrstuvwxyz0123456789+/".toList

def digit (n : Nat) : Char := alphabet.getD n 'A'

/-- Which digit a character is. -/
def value (c : Char) : Option Nat := alphabet.idxOf? c

/-- What the bytes say, without pads. -/
def body : List UInt8 → List Char
  | [] => []
  | [x] => [digit (x.toNat / 4), digit (x.toNat % 4 * 16)]
  | [x, y] =>
    [digit (x.toNat / 4), digit (x.toNat % 4 * 16 + y.toNat / 16), digit (y.toNat % 16 * 4)]
  | x :: y :: z :: bs =>
    digit (x.toNat / 4) :: digit (x.toNat % 4 * 16 + y.toNat / 16) ::
      digit (y.toNat % 16 * 4 + z.toNat / 64) :: digit (z.toNat % 64) :: body bs

/-- How many pads there are after so many characters. -/
def pads (length : Nat) : Nat := (-(length : Int) % 4).toNat

/-- A text that is filled up with pads. -/
def withPads (cs : List Char) : List Char := cs ++ List.replicate (pads cs.length) '='

/-- `binascii.b2a_base64` -/
def b2a (bs : List UInt8) : List Char := withPads (body bs)

/-- `binascii.a2b_base64`, at a place in its four characters, with the bits that are left of the last
    one. -/
def a2b (quadPos leftChar pads : Nat) : List Char → Option (List UInt8)
  | [] => if quadPos = 0 then some [] else none
  | c :: cs =>
    if c = '=' then
      if quadPos < 2 then a2b quadPos leftChar pads cs
      else if 4 ≤ quadPos + (pads + 1) then some []
      else a2b quadPos leftChar (pads + 1) cs
    else match value c with
      | none => a2b quadPos leftChar pads cs
      | some d => match quadPos with
        | 0 => a2b 1 d 0 cs
        | 1 => (a2b 2 (d % 16) 0 cs).map (UInt8.ofNat (leftChar * 4 + d / 16) :: ·)
        | 2 => (a2b 3 (d % 4) 0 cs).map (UInt8.ofNat (leftChar * 16 + d / 4) :: ·)
        | _ => (a2b 0 0 0 cs).map (UInt8.ofNat (leftChar * 64 + d) :: ·)

/-! ### Digits -/

/-- A digit has its value, and none is the pad. -/
theorem digit_spec : ∀ n < 64, value (digit n) = some n ∧ digit n ≠ '=' := by decide

variable {bs : List UInt8} {cs : List Char}

/-- Every character of the text is a digit. -/
theorem mem_body (bs : List UInt8) : ∀ c ∈ body bs, ∃ n < 64, digit n = c := by
  fun_induction body bs with
  | case1 => simp
  | case2 x =>
    have hx := x.toNat_lt
    simp only [List.mem_cons, List.not_mem_nil, or_false]
    rintro c (rfl | rfl) <;> exact ⟨_, by omega, rfl⟩
  | case3 x y =>
    have hx := x.toNat_lt
    have hy := y.toNat_lt
    simp only [List.mem_cons, List.not_mem_nil, or_false]
    rintro c (rfl | rfl | rfl) <;> exact ⟨_, by omega, rfl⟩
  | case4 x y z bs ih =>
    have hx := x.toNat_lt
    have hy := y.toNat_lt
    have hz := z.toNat_lt
    simp only [List.mem_cons]
    rintro c (rfl | rfl | rfl | rfl | hc)
    · exact ⟨_, by omega, rfl⟩
    · exact ⟨_, by omega, rfl⟩
    · exact ⟨_, by omega, rfl⟩
    · exact ⟨_, by omega, rfl⟩
    · exact ih c hc

theorem body_eq_nil (bs : List UInt8) : body bs = [] ↔ bs = [] := by
  fun_cases body bs <;> simp

/-! ### Pads -/

@[simp] theorem pads_add_four (n : Nat) : pads (n + 4) = pads n := by
  simp only [pads, Nat.cast_add, Nat.cast_ofNat]
  omega

/-- The pads at the end come off again. -/
theorem rstrip_withPads (h : '=' ∉ cs) : (withPads cs).rdropWhile (· = '=') = cs := by
  rw [withPads]
  induction pads cs.length with
  | zero =>
    rw [List.replicate_zero, List.append_nil, List.rdropWhile_eq_self_iff]
    intro hne hlast
    apply h
    rw [← of_decide_eq_true hlast]
    exact List.getLast_mem hne
  | succ k ih =>
    rw [List.replicate_succ', ← List.append_assoc, List.rdropWhile_concat_pos _ _ _ (by simp), ih]

/-! ### Decoding what was encoded -/

/-! A digit completes a byte unless it is the first one of its four. -/

section
variable {n : Nat} (h : n < 64) (leftChar pads : Nat) {x : UInt8}

include h

theorem a2b_first : a2b 0 leftChar pads (digit n :: cs) = a2b 1 n 0 cs := by
  rw [a2b, if_neg (digit_spec n h).2, (digit_spec n h).1]
  rfl

theorem a2b_second (hx : leftChar * 4 + n / 16 = x.toNat) :
    a2b 1 leftChar pads (digit n :: cs) = (a2b 2 (n % 16) 0 cs).map (x :: ·) := by
  rw [a2b, if_neg (digit_spec n h).2, (digit_spec n h).1]
  simp only [hx, UInt8.ofNat_toNat]

theorem a2b_third (hx : leftChar * 16 + n / 4 = x.toNat) :
    a2b 2 leftChar pads (digit n :: cs) = (a2b 3 (n % 4) 0 cs).map (x :: ·) := by
  rw [a2b, if_neg (digit_spec n h).2, (digit_spec n h).1]
  simp only [hx, UInt8.ofNat_toNat]

theorem a2b_fourth (hx : leftChar * 64 + n = x.toNat) :
    a2b 3 leftChar pads (digit n :: cs) = (a2b 0 0 0 cs).map (x :: ·) := by
  rw [a2b, if_neg (digit_spec n h).2, (digit_spec n h).1]
  simp only [hx, UInt8.ofNat_toNat]

end

theorem b2a_cons (x y z : UInt8) (bs : List UInt8) :
    b2a (x :: y :: z :: bs) =
      digit (x.toNat / 4) :: digit (x.toNat % 4 * 16 + y.toNat / 16) ::
        digit (y.toNat % 16 * 4 + z.toNat / 64) :: digit (z.toNat % 64) :: b2a bs := by
  simp [b2a, withPads, body]

theorem a2b_b2a (bs : List UInt8) : a2b 0 0 0 (b2a bs) = some bs := by
  induction bs using body.induct with
  | case1 => rfl
  | case2 x =>
    have hx := x.toNat_lt
    have htext : b2a [x] = [digit (x.toNat / 4), digit (x.toNat % 4 * 16), '=', '='] := rfl
    rw [htext, a2b_first (by omega), a2b_second (x := x) (by omega) _ _ (by omega)]
    rfl
  | case3 x y =>
    have hx := x.toNat_lt
    have hy := y.toNat_lt
    have htext : b2a [x, y] = [digit (x.toNat / 4), digit (x.toNat % 4 * 16 + y.toNat / 16),
      digit (y.toNat % 16 * 4), '='] := rfl
    rw [htext, a2b_first (by omega), a2b_second (x := x) (by omega) _ _ (by omega),
      a2b_third (x := y) (by omega) _ _ (by omega)]
    rfl
  | case4 x y z bs ih =>
    have hx := x.toNat_lt
    have hy := y.toNat_lt
    have hz := z.toNat_lt
    rw [b2a_cons, a2b_first (by omega), a2b_second (x := x) (by omega) _ _ (by omega),
      a2b_third (x := y) (by omega) _ _ (by omega), a2b_fourth (x := z) (by omega) _ _ (by omega), ih]
    rfl

/-! ### Texts for URLs -/

/-- `_urlsafe_encode_translation` -/
def toUrl (c : Char) : Char := if c = '+' then '-' else if c = '/' then '_' else c

/-- `_urlsafe_decode_translation` -/
def ofUrl (c : Char) : Char := if c = '-' then '+' else if c = '_' then '/' else c

/-- `base64.urlsafe_b64encode` -/
def urlsafeB64encode (bs : List UInt8) : List Char := (b2a bs).map toUrl

/-- `base64.urlsafe_b64decode` -/
def urlsafeB64decode (cs : List Char) : Option (List UInt8) := a2b 0 0 0 (cs.map ofUrl)

/-- A digit comes back from a URL, and none is the pad there. -/
theorem toUrl_digit_spec : ∀ n < 64, ofUrl (toUrl (digit n)) = digit n ∧ toUrl (digit n) ≠ '=' := by
  decide +kernel

/-- What the bytes say in a URL, without pads. -/
def urlBody (bs : List UInt8) : List Char := (body bs).map toUrl

theorem pad_notMem_urlBody (bs : List UInt8) : '=' ∉ urlBody bs := by
  intro hpad
  obtain ⟨c, hc, hcpad⟩ := List.mem_map.mp hpad
  obtain ⟨n, hn, rfl⟩ := mem_body bs c hc
  exact (toUrl_digit_spec n hn).2 hcpad

theorem urlsafeB64encode_eq (bs : List UInt8) : urlsafeB64encode bs = withPads (urlBody bs) := by
  simp [urlsafeB64encode, b2a, withPads, urlBody, toUrl]

theorem rstrip_urlsafeB64encode (bs : List UInt8) :
    (urlsafeB64encode bs).rdropWhile (· = '=') = urlBody bs := by
  rw [urlsafeB64encode_eq, rstrip_withPads (pad_notMem_urlBody bs)]

theorem urlsafeB64decode_encode (bs : List UInt8) :
    urlsafeB64decode (urlsafeB64encode bs) = some bs := by
  have hmap : ((b2a bs).map toUrl).map ofUrl = b2a bs := by
    rw [List.map_map]
    refine (List.map_congr_left fun c hc => ?_).trans (List.map_id _)
    rcases List.mem_append.mp hc with hc | hc
    · obtain ⟨n, hn, rfl⟩ := mem_body bs c hc
      exact (toUrl_digit_spec n hn).1
    · rw [List.eq_of_mem_replicate hc]
      rfl
  rw [urlsafeB64decode, urlsafeB64encode, hmap, a2b_b2a]

end Base64

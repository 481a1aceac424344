import TestOps.ControlPlane.SupplyChainEnvelopes

/-! A decoder of base64url that encodes again what it has decoded accepts nothing but encodings:

      bytes ── encode ─▸ text ── pad, decode ─▸ bytes ── encode ─▸ the same text

    What it returns says what the text was, so no other text says the same bytes. -/

namespace TestOps.SupplyChainEnvelopes

open Checked Base64

variable {value value' : Text} {b : Bytes}

theorem base64urlEncode_eq (b : Bytes) : base64urlEncode b = urlBody b := by
  unfold base64urlEncode rstrip
  exact rstrip_urlsafeB64encode b

theorem isBase64urlChar_digit : ∀ n < 64, isBase64urlChar (toUrl (digit n)) := by decide +kernel

/-- An encoding passes the test of its characters. -/
theorem base64urlEncode_all (b : Bytes) : (base64urlEncode b).all isBase64urlChar := by
  rw [base64urlEncode_eq, List.all_eq_true]
  intro c hc
  obtain ⟨d, hd, rfl⟩ := List.mem_map.mp hc
  obtain ⟨n, hn, rfl⟩ := mem_body b d hd
  exact isBase64urlChar_digit n hn

theorem base64urlEncode_ne_nil (hb : b ≠ []) : base64urlEncode b ≠ [] := by
  rw [base64urlEncode_eq, urlBody, Ne, List.map_eq_nil_iff, body_eq_nil]
  exact hb

/-- With the pads put back an encoding is decoded to its bytes. -/
theorem decode_withPads (b : Bytes) : urlsafeB64decode (withPads (base64urlEncode b)) = some b := by
  rw [base64urlEncode_eq, ← urlsafeB64encode_eq, urlsafeB64decode_encode]

/-- The decoders are the inverse of the encoder, whatever their errors are. -/
theorem decodeCanonical_eq_ok {unpadded valid canonical : String} :
    decodeCanonical unpadded valid canonical value = .ok b ↔ b ≠ [] ∧ base64urlEncode b = value := by
  simp only [decodeCanonical, bind_eq_ok, ensure_eq_ok, found_eq_ok, pure_eq_ok]
  constructor
  · rintro ⟨_, ⟨hne, _, _⟩, decoded, _, _, hcanonical, rfl⟩
    refine ⟨?_, hcanonical⟩
    rintro rfl
    exact hne hcanonical.symm
  · rintro ⟨hb, rfl⟩
    have hpad : '=' ∉ base64urlEncode b := base64urlEncode_eq b ▸ pad_notMem_urlBody b
    exact ⟨(), ⟨base64urlEncode_ne_nil hb, hpad, base64urlEncode_all b⟩, b, decode_withPads b, (), rfl,
      rfl⟩

theorem base64urlEncode_injective : Function.Injective base64urlEncode := by
  intro b b' h
  have hdecode := congrArg (fun text => urlsafeB64decode (withPads text)) h
  simpa only [decode_withPads, Option.some.injEq] using hdecode

/-- What a decoder of canonical base64url does. -/
structure Canonical (decode : Text → Except String Bytes) : Prop where
  accepts : ∀ value, (∃ b, decode value = .ok b) ↔ ∃ b, b ≠ [] ∧ base64urlEncode b = value
  returns : ∀ b value, b ≠ [] → base64urlEncode b = value → decode value = .ok b
  spelling : ∀ b, b ≠ [] → ∃! value, decode value = .ok b

theorem canonical_of_eq_ok {decode : Text → Except String Bytes}
    (h : ∀ value b, decode value = .ok b ↔ b ≠ [] ∧ base64urlEncode b = value) : Canonical decode where
  accepts value := exists_congr (h value)
  returns b value hb hvalue := (h value b).mpr ⟨hb, hvalue⟩
  spelling b hb := by
    refine ⟨base64urlEncode b, (h _ b).mpr ⟨hb, rfl⟩, ?_⟩
    intro value hvalue
    exact ((h value b).mp hvalue).2.symm

/-- Both decoders accept the encodings of bytes, and nothing else, and they return these bytes; no
    bytes have a second spelling, neither for one decoder nor for the other. -/
theorem base64url_canonical (name : String) :
    Canonical Auth.base64urlDecode ∧ Canonical (Config.base64urlDecode name) ∧
      ∀ value value' b, Auth.base64urlDecode value = .ok b →
        (Config.base64urlDecode name value' = .ok b ↔ value' = value) := by
  refine ⟨canonical_of_eq_ok fun _ _ => decodeCanonical_eq_ok,
    canonical_of_eq_ok fun _ _ => decodeCanonical_eq_ok, ?_⟩
  intro value value' b h
  obtain ⟨hb, rfl⟩ := decodeCanonical_eq_ok.mp h
  refine decodeCanonical_eq_ok.trans ⟨fun h' => h'.2.symm, ?_⟩
  rintro rfl
  exact ⟨hb, rfl⟩

/-- The two bits that are left over must be zero. -/
example : Auth.base64urlDecode "TQ".toList = .ok [77] ∧
    Auth.base64urlDecode "TR".toList = .error "" := by decide

end TestOps.SupplyChainEnvelopes

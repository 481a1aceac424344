import TestOps.Contracts.Text
import TestOps.Lib.UrlBase64

/-! The texts of a supply-chain envelope. Keys and signatures travel as base64url without pads. Two
    modules of the control plane read it, each with a decoder of its own: the settings, where the keys
    are, and the verification, where the signatures are. Both refuse what the encoder would have
    written differently, so the bits that nobody looks at must be zero:

      "TQ"   01001101 0000        ▸ "M"
      "TR"   01001101 0001        refused, though it says "M" too -/

namespace TestOps.SupplyChainEnvelopes

open Checked Base64

/-- `base64url_encode` -/
def base64urlEncode (value : Bytes) : Text := rstrip (· = '=') (urlsafeB64encode value)

/-- `[A-Za-z0-9_-]` -/
def isBase64urlChar (c : Char) : Bool := c.isAlphanum || c = '_' || c = '-'

/-- What both decoders do, with the errors for a text that is no unpadded base64url, for one that
    cannot be decoded and for one that has another spelling. -/
def decodeCanonical (unpadded valid canonical : String) (value : Text) : Except String Bytes := do
  ensure (value ≠ [] ∧ '=' ∉ value ∧ value.all isBase64urlChar) unpadded
  let decoded ← found
    (urlsafeB64decode (value ++ List.replicate (-(value.length : Int) % 4).toNat '=')) valid
  ensure (base64urlEncode decoded = value) canonical
  return decoded

/-- `_base64url_decode` of `supply_chain_auth`, which does not say what is wrong -/
def Auth.base64urlDecode (value : Text) : Except String Bytes := decodeCanonical "" "" "" value

/-- `_base64url_decode` of `config` -/
def Config.base64urlDecode (name : String) (value : Text) : Except String Bytes :=
  decodeCanonical (name ++ " must use unpadded base64url")
    (name ++ " must use valid unpadded base64url")
    (name ++ " must use canonical unpadded base64url") value

end TestOps.SupplyChainEnvelopes

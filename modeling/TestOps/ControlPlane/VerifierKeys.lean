import TestOps.Contracts.Text
import TestOps.ControlPlane.Cron
import TestOps.Lib.Grouping
import TestOps.Lib.Json
import TestOps.Lib.Url

/-! The keys of supply-chain verifiers: which of them a settings value may hold, when each of them
    accepts an envelope, and what is reported of them.

      ─────────────┼──────────────────────┼───────────────┼─────────▸
       NOT_YET_     │ ACTIVE               │ EXPIRING_SOON │ EXPIRED
       ACTIVE       not_before                             not_after

    From `revoked_at` on a key is REVOKED, whatever else it would be. -/

namespace TestOps.VerifierKeys

open Checked Grouping

/-! ### Times -/

/-- The last microsecond of the year 9999. -/
def maxInstant : Instant := (maxDay + 1) * cronMicrosPerDay - 1

def minInstant : Instant := -719162 * cronMicrosPerDay

/-- A `datetime` with the offset of its time zone, if it has one. -/
structure Datetime where
  written : Int
  offset : Option Int
  inRange : minInstant ≤ written ∧ written ≤ maxInstant

/-- A time in UTC, in whole seconds. -/
def IsWhole (t : Instant) : Prop := minInstant ≤ t ∧ t ≤ maxInstant ∧ t % 1000000 = 0

/-- What `__post_init__` asks of a time of a key. -/
def wholeSecond (fieldName : String) (value : Datetime) :
    Except String { t : Instant // IsWhole t } :=
  if value.offset = some 0 then
    if h : value.written % 1000000 = 0 then
      .ok ⟨value.written, value.inRange.1, value.inRange.2, h⟩
    else .error ("supply-chain verifier " ++ fieldName ++ " must have whole-second precision")
  else .error ("supply-chain verifier " ++ fieldName ++ " must be a timezone-aware UTC timestamp")

def wholeSecond? (fieldName : String) : Option Datetime →
    Except String (Option { t : Instant // IsWhole t })
  | none => .ok none
  | some value => some <$> wholeSecond fieldName value

/-! ### Credentials -/

def isVerifierChar (c : Char) : Bool :=
  c.isLower || c.isDigit || c = '.' || c = '_' || c = '-'

def isKeyChar (c : Char) : Bool := c.isAlphanum || c = '.' || c = '_' || c = '-'

/-- `[a-z0-9][a-z0-9._-]{2,63}` -/
def isVerifierName (name : Text) : Bool :=
  name.head?.any (fun c => c.isLower || c.isDigit) && name.all isVerifierChar &&
    decide (3 ≤ name.length ∧ name.length ≤ 64)

/-- `[A-Za-z0-9][A-Za-z0-9._-]{0,63}` -/
def isKeyId (name : Text) : Bool :=
  name.head?.any Char.isAlphanum && name.all isKeyChar && decide (name.length ≤ 64)

/-- `VERIFIER_CREDENTIAL_ID_PATTERN`, with the verifier that it captures -/
def credentialVerifier (credentialId : String) : Option Text :=
  match credentialId.toList.splitOn '/' with
  | [verifier, keyId] => if isVerifierName verifier && isKeyId keyId then some verifier else none
  | _ => none

def credentialIdError : String :=
  "supply-chain verifier credential_id must be '<verifier>/<key-id>'"

structure SupplyChainVerifierCredential where
  credentialId : String
  verifier : String
  secret : String
  named : credentialVerifier credentialId = some verifier.toList
  long : 32 ≤ (secret.toList.flatMap String.utf8EncodeChar).length

/-- `SupplyChainVerifierCredential.__post_init__` -/
def SupplyChainVerifierCredential.init (credentialId verifier secret : String) :
    Except String SupplyChainVerifierCredential :=
  if hnamed : credentialVerifier credentialId = some verifier.toList then
    if hlong : 32 ≤ (secret.toList.flatMap String.utf8EncodeChar).length then
      .ok ⟨credentialId, verifier, secret, hnamed, hlong⟩
    else .error "supply-chain verifier HMAC secrets must be at least 32 bytes"
  else .error credentialIdError

/-- The window of a key is not empty. -/
def Ordered (notBefore notAfter : Option { t : Instant // IsWhole t }) : Prop :=
  ∀ start ∈ notBefore, ∀ stop ∈ notAfter, start.val < stop.val

instance (notBefore notAfter : Option { t : Instant // IsWhole t }) :
    Decidable (Ordered notBefore notAfter) :=
  inferInstanceAs (Decidable (∀ start ∈ notBefore, ∀ stop ∈ notAfter, start.val < stop.val))

structure SupplyChainVerifierPublicKey where
  credentialId : String
  verifier : String
  workloadIdentity : String
  publicKey : Bytes
  notBefore : Option { t : Instant // IsWhole t }
  notAfter : Option { t : Instant // IsWhole t }
  revokedAt : Option { t : Instant // IsWhole t }
  named : credentialVerifier credentialId = some verifier.toList
  ordered : Ordered notBefore notAfter
  deriving DecidableEq

/-- `SupplyChainVerifierPublicKey.__post_init__` -/
def SupplyChainVerifierPublicKey.init (locations : Url.Locations)
    (credentialId verifier workloadIdentity : String) (publicKey : Bytes)
    (notBefore notAfter revokedAt : Option Datetime) :
    Except String SupplyChainVerifierPublicKey :=
  if hnamed : credentialVerifier credentialId = some verifier.toList then do
    let parsedIdentity ← found (Url.urlsplit locations workloadIdentity.toList) "Invalid IPv6 URL"
    ensure (parsedIdentity.scheme ∈ ["https".toList, "spiffe".toList] ∧ parsedIdentity.netloc ≠ [])
      "supply-chain verifier workload_identity must be an HTTPS or SPIFFE URI"
    ensure (workloadIdentity.length ≤ 512)
      "supply-chain verifier workload_identity cannot exceed 512 characters"
    ensure (publicKey.length = 32)
      "supply-chain verifier Ed25519 public keys must be exactly 32 bytes"
    let notBefore ← wholeSecond? "not_before" notBefore
    let notAfter ← wholeSecond? "not_after" notAfter
    let revokedAt ← wholeSecond? "revoked_at" revokedAt
    if hordered : Ordered notBefore notAfter then
      return ⟨credentialId, verifier, workloadIdentity, publicKey, notBefore, notAfter, revokedAt,
        hnamed, hordered⟩
    else .error "supply-chain verifier not_before must be earlier than not_after"
  else .error credentialIdError

/-- `SupplyChainVerifierPublicKey.accepts` -/
def SupplyChainVerifierPublicKey.accepts (key : SupplyChainVerifierPublicKey)
    (issuedAt verifiedAt : Instant) : Bool :=
  if key.notBefore.any fun start => issuedAt < start.val || verifiedAt < start.val then false
  else if key.notAfter.any fun stop => stop.val ≤ issuedAt || stop.val ≤ verifiedAt then false
  else if key.revokedAt.any fun moment => moment.val ≤ issuedAt || moment.val ≤ verifiedAt then false
  else true

/-- `key_fingerprint`, by the hexadecimal digits of the digest -/
def SupplyChainVerifierPublicKey.keyFingerprint (sha256 : Bytes → Text)
    (key : SupplyChainVerifierPublicKey) : Text := "sha256:".toList ++ sha256 key.publicKey

/-! ### Settings -/

/-- What the settings say about verifiers. -/
structure Settings (sha256 : Bytes → Text) where
  publicKeys : List SupplyChainVerifierPublicKey
  credentials : List SupplyChainVerifierCredential
  allowLegacyHmac : Bool
  keyExpiryWarningDays : Nat
  warningDays : 1 ≤ keyExpiryWarningDays ∧ keyExpiryWarningDays ≤ 365
  credentialIds : (publicKeys.map (·.credentialId) ++ credentials.map (·.credentialId)).Nodup
  few : (publicKeys.map (·.credentialId) ++ credentials.map (·.credentialId)).length ≤ 16
  fingerprints : (publicKeys.map (·.keyFingerprint sha256)).Nodup

/-- `Settings.__post_init__`, as far as it is about verifiers -/
def Settings.init (sha256 : Bytes → Text) (publicKeys : List SupplyChainVerifierPublicKey)
    (credentials : List SupplyChainVerifierCredential) (allowLegacyHmac : Bool)
    (keyExpiryWarningDays : Int) : Except String (Settings sha256) :=
  if hdays : 1 ≤ keyExpiryWarningDays.toNat ∧ keyExpiryWarningDays.toNat ≤ 365 then
    if hids : (publicKeys.map (·.credentialId) ++ credentials.map (·.credentialId)).Nodup then
      if hfew : (publicKeys.map (·.credentialId) ++ credentials.map (·.credentialId)).length ≤ 16 then
        if hkeys : (publicKeys.map (·.keyFingerprint sha256)).Nodup then
          .ok ⟨publicKeys, credentials, allowLegacyHmac, keyExpiryWarningDays.toNat, hdays, hids,
            hfew, hkeys⟩
        else .error "supply-chain verifier Ed25519 public keys must be unique"
      else .error "supply-chain verifier keyrings cannot contain more than 16 credentials"
    else .error "supply-chain verifier credential ids must be unique across keyrings"
  else .error "supply-chain key expiry warning days must be between 1 and 365"

/-! ### The digest of the configuration -/

/-- A number with at least so many digits. -/
def pad (width n : Nat) : Text :=
  List.replicate (width - (Nat.toDigits 10 n).length) '0' ++ Nat.toDigits 10 n

/-- `%Y-%m-%dT%H:%M:%SZ` -/
def formatTimestamp (t : Instant) : Text :=
  let day := t / cronMicrosPerDay
  let second := (t % cronMicrosPerDay / 1000000).toNat
  pad 4 (yearOf day).toNat ++ '-' :: (pad 2 (monthAndDay day).1 ++
    '-' :: (pad 2 (monthAndDay day).2 ++ 'T' :: (pad 2 (second / 3600) ++
      ':' :: (pad 2 (second / 60 % 60) ++ ':' :: (pad 2 (second % 60) ++ ['Z'])))))

/-- `_canonical_timestamp` -/
def canonicalTimestamp : Option { t : Instant // IsWhole t } → Json
  | none => .null
  | some t => .string (String.ofList (formatTimestamp t.val))

/-- Keys go by their verifier, and then by their credential. -/
def SupplyChainVerifierPublicKey.place (key : SupplyChainVerifierPublicKey) : String ×ₗ String :=
  toLex (key.verifier, key.credentialId)

def keyDocument (sha256 : Bytes → Text) (key : SupplyChainVerifierPublicKey) : Json :=
  .object [
    ("credential_id", .string key.credentialId),
    ("key_fingerprint", .string (String.ofList (key.keyFingerprint sha256))),
    ("not_after", canonicalTimestamp key.notAfter),
    ("not_before", canonicalTimestamp key.notBefore),
    ("revoked_at", canonicalTimestamp key.revokedAt),
    ("verifier", .string key.verifier),
    ("workload_identity", .string key.workloadIdentity)]

theorem isNumber_days : ∀ n ≤ 365, Json.IsNumber (Nat.toDigits 10 n) := by decide +kernel

variable {sha256 : Bytes → Text}

/-- The document of a configuration, its members by their names. -/
def Settings.document (settings : Settings sha256) : Json :=
  .object [
    ("ed25519_keys", .array ((sortBy SupplyChainVerifierPublicKey.place settings.publicKeys).map
      (keyDocument sha256))),
    ("expiry_warning_days", .number ⟨Nat.toDigits 10 settings.keyExpiryWarningDays,
      isNumber_days _ settings.warningDays.2⟩),
    ("hmac_credential_ids", .array ((sortBy id (settings.credentials.map
      SupplyChainVerifierCredential.credentialId)).map .string)),
    ("legacy_hmac_enabled", .bool settings.allowLegacyHmac),
    ("profile", .string "testops-supply-chain-keyring-v1")]

/-- `supply_chain_keyring_configuration_digest` -/
def Settings.configurationDigest (settings : Settings sha256) : Text :=
  "sha256:".toList ++ sha256 (settings.document.render.flatMap String.utf8EncodeChar)

/-! ### Readiness -/

inductive VerifierKeyStatus where | active | expiringSoon | notYetActive | expired | revoked
  deriving DecidableEq

inductive VerifierKeyReadinessStatus where | ready | warning | blocked
  deriving DecidableEq

inductive VerifierKeyWarning where
  | noEd25519Keys | noAcceptingKeys | noOverlappingActiveKeys | activeKeyExpiringSoon
  | legacyHmacEnabled
  deriving DecidableEq

structure VerifierKeyReadinessItem where
  credentialId : String
  verifier : String
  workloadIdentity : String
  keyFingerprint : Text
  status : VerifierKeyStatus
  acceptsNow : Bool
  notBefore : Option { t : Instant // IsWhole t }
  notAfter : Option { t : Instant // IsWhole t }
  revokedAt : Option { t : Instant // IsWhole t }
  deriving DecidableEq

structure SupplyChainKeyReadinessSnapshot where
  status : VerifierKeyReadinessStatus
  configurationDigest : Text
  generatedAt : Instant
  expiryWarningDays : Nat
  configuredKeyCount : Nat
  acceptingKeyCount : Nat
  futureKeyCount : Nat
  expiringSoonKeyCount : Nat
  expiredKeyCount : Nat
  revokedKeyCount : Nat
  overlapReady : Bool
  legacyHmacEnabled : Bool
  warnings : List VerifierKeyWarning
  keys : List VerifierKeyReadinessItem
  deriving DecidableEq

/-- `_key_status` -/
def keyStatus (key : SupplyChainVerifierPublicKey) (generatedAt warningUntil : Instant) :
    VerifierKeyStatus :=
  if key.revokedAt.any (·.val ≤ generatedAt) then .revoked
  else if key.notAfter.any (·.val ≤ generatedAt) then .expired
  else if key.notBefore.any (generatedAt < ·.val) then .notYetActive
  else if key.notAfter.any (·.val ≤ warningUntil) then .expiringSoon
  else .active

/-- `status in {"ACTIVE", "EXPIRING_SOON"}` -/
def VerifierKeyStatus.accepting : VerifierKeyStatus → Bool
  | .active | .expiringSoon => true
  | .notYetActive | .expired | .revoked => false

def readinessItem (sha256 : Bytes → Text) (key : SupplyChainVerifierPublicKey)
    (status : VerifierKeyStatus) : VerifierKeyReadinessItem where
  credentialId := key.credentialId
  verifier := key.verifier
  workloadIdentity := key.workloadIdentity
  keyFingerprint := key.keyFingerprint sha256
  status := status
  acceptsNow := status.accepting
  notBefore := key.notBefore
  notAfter := key.notAfter
  revokedAt := key.revokedAt

/-- Who a key is rotated for. -/
def SupplyChainVerifierPublicKey.group (key : SupplyChainVerifierPublicKey) : String × String :=
  (key.verifier, key.workloadIdentity)

/-- The warnings of a snapshot, in the order in which they are made. -/
def readinessWarnings (configured accepting expiringSoon : Nat) (overlapReady legacyHmac : Bool) :
    List VerifierKeyWarning :=
  (if configured = 0 then [.noEd25519Keys]
    else if accepting = 0 then [.noAcceptingKeys]
    else if overlapReady then [] else [.noOverlappingActiveKeys]) ++
  (if expiringSoon = 0 then [] else [.activeKeyExpiringSoon]) ++
  if legacyHmac then [.legacyHmacEnabled] else []

/-- `collect_supply_chain_key_readiness`. Warnings may not reach beyond the last date there is. -/
def collectKeyReadiness (settings : Settings sha256) (generatedAt : Instant) :
    Except String SupplyChainKeyReadinessSnapshot := do
  let warningUntil := generatedAt + settings.keyExpiryWarningDays * cronMicrosPerDay
  ensure (warningUntil ≤ maxInstant) "date value out of range"
  let keys := sortBy SupplyChainVerifierPublicKey.place settings.publicKeys
  let statuses := keys.map fun key => keyStatus key generatedAt warningUntil
  let acceptingKeyCount := statuses.countP VerifierKeyStatus.accepting
  let expiringSoonKeyCount := statuses.count .expiringSoon
  let rotationGroups := (keys.map SupplyChainVerifierPublicKey.group).dedup
  let acceptingByGroup := counts (((keys.zip statuses).filter fun pair => pair.2.accepting).map
    fun pair => pair.1.group)
  let overlapReady := !rotationGroups.isEmpty &&
    rotationGroups.all fun group => decide (2 ≤ get acceptingByGroup group)
  let warnings := readinessWarnings keys.length acceptingKeyCount expiringSoonKeyCount overlapReady
    settings.allowLegacyHmac
  return {
    status :=
      if acceptingKeyCount = 0 then .blocked else if warnings = [] then .ready else .warning
    configurationDigest := settings.configurationDigest
    generatedAt := generatedAt
    expiryWarningDays := settings.keyExpiryWarningDays
    configuredKeyCount := keys.length
    acceptingKeyCount := acceptingKeyCount
    futureKeyCount := statuses.count .notYetActive
    expiringSoonKeyCount := expiringSoonKeyCount
    expiredKeyCount := statuses.count .expired
    revokedKeyCount := statuses.count .revoked
    overlapReady := overlapReady
    legacyHmacEnabled := settings.allowLegacyHmac
    warnings := warnings
    keys := (keys.zip statuses).map fun pair => readinessItem sha256 pair.1 pair.2 }

end TestOps.VerifierKeys

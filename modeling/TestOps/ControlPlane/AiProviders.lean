import TestOps.Contracts.Text
import TestOps.ControlPlane.Persistence
import TestOps.Lib.Memo
import TestOps.Lib.Transition
import TestOps.Lib.Url

/-! The models that the assistant may ask, and how a process comes to a gateway for one of them. A row
    that a transaction has read for update, or has updated, is locked until the transaction ends:

      create   (clear all defaults)                         ──▸  commit the new row
      update   read for update  ──▸  (clear the others)     ──▸  commit the row
      delete   commit

    A gateway is made of a row and kept in the process, with a fingerprint of all that it was made of. -/

namespace TestOps.AiProviders

open Checked Relational Transition

inductive ProviderStatus where | active | disabled
  deriving DecidableEq

structure AiModelProviderRecord where
  id : UUID
  name : Text
  baseUrl : Text
  model : Text
  apiKeyCiphertext : Option Text
  status : ProviderStatus
  isDefault : Bool
  createdBy : UUID
  updatedBy : UUID
  deriving DecidableEq

abbrev ProviderTable := Table AiModelProviderRecord.id

structure AiGatewayError where
  message : String
  deriving DecidableEq

/-- What a request stops with, besides the errors of the service. -/
inductive ProviderError where
  | service (error : ServiceError)
  | integrityError
  /-- The database stores no text with a zero character. -/
  | dataError
  /-- Another transaction holds the lock of a row. -/
  | locked
  | noTransaction
  deriving DecidableEq

/-! ### Settings and credentials -/

/-- Authenticated encryption. A token is made with the time and a random vector. -/
structure Fernet where
  Key : Type
  key : Bytes → Key
  encrypt : Nat → Key → Text → Text
  decrypt : Key → Text → Option Text
  decrypt_encrypt : ∀ seed key secret, decrypt key (encrypt seed key secret) = some secret

/-- What the processes of the platform are configured with, and what they compute with. -/
structure Settings where
  aiProviderEncryptionKey : Option Text
  aiApiKey : Option Text
  /-- The numbers are needed as they are printed only. -/
  aiTimeoutSeconds : Text
  aiAnalysisMaxTokens : Text
  aiThinkingBudget : Text
  aiMaxConcurrency : Text
  aiAllowInsecureHttp : Bool
  fernet : Fernet
  sha256 : Bytes → Bytes
  locations : Url.Locations
  lower : Text → Text

/-- An empty text counts as none. -/
def given (text : Option Text) : Option Text := text.filter (· ≠ [])

/-- The material of `AiProviderSecretBox.from_settings` -/
def secretMaterial (settings : Settings) : Option Text :=
  given (given settings.aiProviderEncryptionKey <|> settings.aiApiKey)

def wrappingKey (settings : Settings) (material : Text) : settings.fernet.Key :=
  settings.fernet.key (settings.sha256
    (("testops-ai-provider-v1\u0000".toList ++ material).flatMap String.utf8EncodeChar))

def ciphertextPrefix : Text := "fernet:v1:".toList

def encrypt (settings : Settings) (seed : Nat) (material secret : Text) : Text :=
  ciphertextPrefix ++ settings.fernet.encrypt seed (wrappingKey settings material) secret

def decrypt (settings : Settings) (material ciphertext : Text) : Except AiGatewayError Text := do
  ensure (ciphertextPrefix <+: ciphertext)
    ⟨"AI model credential uses an unsupported encrypted format"⟩
  found (settings.fernet.decrypt (wrappingKey settings material)
      (ciphertext.drop ciphertextPrefix.length))
    ⟨"AI model credential cannot be decrypted"⟩

/-! ### Gateways -/

structure AiGatewayConnection where
  baseUrl : Text
  model : Text
  apiKey : Option Text
  timeoutSeconds : Text
  analysisMaxTokens : Text
  thinkingBudget : Text
  maxConcurrency : Text
  allowInsecureHttp : Bool

def localHosts : List Text :=
  ["localhost".toList, "127.0.0.1".toList, "::1".toList, "host.docker.internal".toList]

/-- `AiGatewayConnection.__post_init__` -/
def AiGatewayConnection.check (settings : Settings) (connection : AiGatewayConnection) :
    Except String Unit := do
  let parsed ← found (Url.urlsplit settings.locations connection.baseUrl) "Invalid URL"
  let hostname := parsed.hostname settings.lower
  ensure ((parsed.scheme = "http".toList ∨ parsed.scheme = "https".toList) ∧ hostname ≠ none ∧
      given parsed.username = none ∧ given parsed.password = none ∧ parsed.query = [] ∧
      parsed.fragment = [])
    "AI model Base URL must be HTTP(S) without credentials, query or fragment"
  ensure (¬(parsed.scheme = "http".toList ∧ (∀ host ∈ hostname, host ∉ localHosts) ∧
      connection.allowInsecureHttp = false))
    "AI model Base URL uses non-local HTTP; enable the trusted HTTP option first"
  ensure (strip isSpace connection.model ≠ []) "AI model name cannot be empty"

def connectionOf (settings : Settings) (baseUrl model : Text) (apiKey : Option Text) :
    AiGatewayConnection where
  baseUrl := baseUrl
  model := model
  apiKey := apiKey
  timeoutSeconds := settings.aiTimeoutSeconds
  analysisMaxTokens := settings.aiAnalysisMaxTokens
  thinkingBudget := settings.aiThinkingBudget
  maxConcurrency := settings.aiMaxConcurrency
  allowInsecureHttp := settings.aiAllowInsecureHttp

structure OpenAiCompatibleGateway where
  url : Text
  apiKey : Option Text
  model : Text
  timeoutSeconds : Text
  analysisMaxTokens : Text
  thinkingBudget : Text
  maxConcurrency : Text
  deriving DecidableEq

def chatCompletions : Text := "/chat/completions".toList

/-- `OpenAiCompatibleGateway.__init__` -/
def AiGatewayConnection.gateway (connection : AiGatewayConnection) : OpenAiCompatibleGateway :=
  let normalizedUrl := rstrip (· = '/') connection.baseUrl
  { url := if chatCompletions <:+ normalizedUrl then normalizedUrl
      else normalizedUrl ++ chatCompletions
    apiKey := connection.apiKey
    model := connection.model
    timeoutSeconds := connection.timeoutSeconds
    analysisMaxTokens := connection.analysisMaxTokens
    thinkingBudget := connection.thinkingBudget
    maxConcurrency := connection.maxConcurrency }

def validateProviderConnection (settings : Settings) (baseUrl model : Text)
    (apiKey : Option Text) : Except ProviderError Unit :=
  ((connectionOf settings baseUrl model apiKey).check settings).mapError fun message =>
    .service (.invalidRequest message)

/-! ### Requests -/

/-- A request that its model has accepted. -/
structure AiModelProviderCreate where
  name : Text
  baseUrl : Text
  model : Text
  apiKey : Option Text
  status : ProviderStatus
  isDefault : Bool
  apiKey_ne_nil : apiKey ≠ some []
  default_active : isDefault = true → status = .active

structure AiModelProviderUpdate where
  name : Option Text
  baseUrl : Option Text
  model : Option Text
  apiKey : Option Text
  clearApiKey : Bool
  status : Option ProviderStatus
  isDefault : Option Bool
  apiKey_ne_nil : apiKey ≠ some []
  not_both : apiKey ≠ none → clearApiKey = false
  default_active : isDefault = some true → status ≠ some .disabled

def encryptionUnavailable : ProviderError := .service (.invalidRequest
  "AI credential encryption is unavailable; configure AI_PROVIDER_ENCRYPTION_KEY")

/-- The credential of a request as it is stored. -/
def sealApiKey (settings : Settings) (seed : Nat) : Option Text → Except ProviderError (Option Text)
  | none => .ok none
  | some apiKey => do
    let material ← found (secretMaterial settings) encryptionUnavailable
    return some (encrypt settings seed material apiKey)

/-- Postgres stores no zero character. -/
def AiModelProviderRecord.storable (record : AiModelProviderRecord) : Prop :=
  ∀ text ∈ [record.name, record.baseUrl, record.model, record.apiKeyCiphertext.getD []],
    '\u0000' ∉ text

instance (record : AiModelProviderRecord) : Decidable record.storable :=
  inferInstanceAs (Decidable (∀ text ∈ [_, _, _, _], _))

def nameTaken : ProviderError :=
  .service (.resourceConflict "AI model provider name already exists")

/-- The unique columns: no two rows have one name, and no two are the default. -/
def AiModelProviderRecord.Fits (record : AiModelProviderRecord) (providers : ProviderTable) : Prop :=
  ∀ other ∈ providers.rows, other.id ≠ record.id →
    other.name ≠ record.name ∧ ¬(other.isDefault = true ∧ record.isDefault = true)

instance (record : AiModelProviderRecord) (providers : ProviderTable) :
    Decidable (record.Fits providers) :=
  inferInstanceAs (Decidable (∀ other ∈ providers.rows, _))

/-- `update(AiModelProviderRecord).values(is_default=False)`, for the rows it has found -/
def clearDefaults (cleared : List UUID) (providers : ProviderTable) : ProviderTable :=
  providers.modifyWhere (fun row => row.id ∈ cleared) fun row => { row with isDefault := false }

/-- The new row of a request. -/
def AiModelProviderCreate.record (payload : AiModelProviderCreate) (id actorId : UUID)
    (ciphertext : Option Text) : AiModelProviderRecord where
  id := id
  name := payload.name
  baseUrl := payload.baseUrl
  model := payload.model
  apiKeyCiphertext := ciphertext
  status := payload.status
  isDefault := payload.isDefault
  createdBy := actorId
  updatedBy := actorId

def AiModelProviderUpdate.nextStatus (payload : AiModelProviderUpdate)
    (record : AiModelProviderRecord) : ProviderStatus := payload.status.getD record.status

def AiModelProviderUpdate.nextDefault (payload : AiModelProviderUpdate)
    (record : AiModelProviderRecord) : Bool :=
  if payload.nextStatus record = .active then payload.isDefault.getD record.isDefault else false

/-- The credential of a row after an update; `sealed` is the new one. -/
def AiModelProviderUpdate.nextCiphertext (payload : AiModelProviderUpdate)
    (record : AiModelProviderRecord) (sealed : Option Text) : Option Text :=
  if payload.apiKey ≠ none then sealed
  else if payload.clearApiKey = true then none
  else record.apiKeyCiphertext

def AiModelProviderUpdate.record (payload : AiModelProviderUpdate) (actorId : UUID)
    (record : AiModelProviderRecord) (sealed : Option Text) : AiModelProviderRecord :=
  { record with
    name := payload.name.getD record.name
    baseUrl := payload.baseUrl.getD record.baseUrl
    model := payload.model.getD record.model
    apiKeyCiphertext := payload.nextCiphertext record sealed
    status := payload.nextStatus record
    isDefault := payload.nextDefault record
    updatedBy := actorId }

/-! ### Transactions -/

inductive ProviderTransaction where
  | creating (payload : AiModelProviderCreate) (record : AiModelProviderRecord)
      (cleared : List UUID)
  | updating (payload : AiModelProviderUpdate) (actorId : UUID) (loaded : AiModelProviderRecord)
  | saving (payload : AiModelProviderUpdate) (record : AiModelProviderRecord)
      (cleared : List UUID)

/-- The rows whose locks a transaction holds. -/
def ProviderTransaction.locks : ProviderTransaction → List UUID
  | .creating _ _ cleared => cleared
  | .updating _ _ loaded => [loaded.id]
  | .saving _ record cleared => record.id :: cleared

/-- `create_ai_model_provider`, up to its commit -/
def beginCreate (settings : Settings) (payload : AiModelProviderCreate) (id actorId : UUID)
    (seed : Nat) (providers : ProviderTable) : Except ProviderError ProviderTransaction := do
  validateProviderConnection settings payload.baseUrl payload.model payload.apiKey
  let ciphertext ← sealApiKey settings seed payload.apiKey
  let cleared := if payload.isDefault = true then providers.rows.map (·.id) else []
  return .creating payload (payload.record id actorId ciphertext) cleared

def providerNotFound : ProviderError := .service (.resourceNotFound "AI model provider not found")

/-- The row that `update_ai_model_provider` reads for update -/
def beginUpdate (payload : AiModelProviderUpdate) (providerId actorId : UUID)
    (providers : ProviderTable) : Except ProviderError ProviderTransaction := do
  let record ← found (providers.get? providerId) providerNotFound
  return .updating payload actorId record

/-- The rest of `update_ai_model_provider`, up to its commit. Clearing the other defaults flushes
    what has been changed of the row. -/
def continueUpdate (settings : Settings) (seed : Nat) (providers : ProviderTable) :
    ProviderTransaction → Except ProviderError ProviderTransaction
  | .updating payload actorId loaded => do
    ensure (¬(payload.isDefault = some true ∧ payload.nextStatus loaded ≠ .active))
      (.service (.invalidRequest "the default AI model provider must be active"))
    validateProviderConnection settings (payload.baseUrl.getD loaded.baseUrl)
      (payload.model.getD loaded.model) payload.apiKey
    let ciphertext ← sealApiKey settings seed payload.apiKey
    let record := payload.record actorId loaded ciphertext
    if record.isDefault = true then
      ensure record.storable .dataError
      ensure (∀ other ∈ providers.rows, other.id ≠ record.id → other.name ≠ record.name)
        .integrityError
      return .saving payload record ((providers.rows.map (·.id)).filter (· ≠ record.id))
    else return .saving payload record []
  | _ => .error .noTransaction

/-- What a transaction commits. -/
def ProviderTransaction.commit (providers : ProviderTable) :
    ProviderTransaction → Except ProviderError ProviderTable
  | .creating _ record cleared => do
    let providers := clearDefaults cleared providers
    ensure record.storable .dataError
    ensure (record.Fits providers) nameTaken
    found (providers.insert? record) nameTaken
  | .saving _ record cleared => do
    let providers := clearDefaults cleared providers
    ensure record.storable .dataError
    ensure (record.Fits providers) nameTaken
    return providers.modify record.id fun row => { record with id := row.id }
  | .updating .. => .error .noTransaction

/-! ### Processes -/

/-- A gateway that a process has made, with the fingerprint of what it was made of. -/
abbrev GatewayCache := Memo.Cache UUID Bytes OpenAiCompatibleGateway

/-- What the fingerprint of a gateway is the digest of. -/
def fingerprintText (settings : Settings) (record : AiModelProviderRecord) : Text :=
  List.intercalate ['\u0000'] [record.baseUrl, record.model, record.apiKeyCiphertext.getD [],
    settings.aiTimeoutSeconds, settings.aiAnalysisMaxTokens, settings.aiThinkingBudget,
    settings.aiMaxConcurrency]

def fingerprint (settings : Settings) (record : AiModelProviderRecord) : Bytes :=
  settings.sha256 ((fingerprintText settings record).flatMap String.utf8EncodeChar)

/-- The credential of a row. -/
def credential (settings : Settings) (record : AiModelProviderRecord) :
    Except AiGatewayError (Option Text) :=
  match given record.apiKeyCiphertext with
  | none => .ok none
  | some ciphertext => do
    let material ← found (secretMaterial settings)
      ⟨"AI model credential encryption is not configured"⟩
    let apiKey ← decrypt settings material ciphertext
    return some apiKey

/-- The gateway of a row, when none is kept. -/
def makeGateway (settings : Settings) (record : AiModelProviderRecord) :
    Except AiGatewayError OpenAiCompatibleGateway := do
  let apiKey ← credential settings record
  let connection := connectionOf settings record.baseUrl record.model apiKey
  (connection.check settings).mapError AiGatewayError.mk
  return connection.gateway

/-- `AiGatewayManager._gateway_for` -/
def gatewayFor (settings : Settings) (record : AiModelProviderRecord) (cache : GatewayCache) :
    Except AiGatewayError (OpenAiCompatibleGateway × GatewayCache) :=
  Memo.fetch (fingerprint settings) (makeGateway settings) record.id record cache

def environmentProviderKey : Text := "environment".toList

/-- `AiGatewayManager.resolve`. Its statements are committed one after the other: `first` is what the
    first one sees, `second` what the second one sees. `byName` is the order of the database. -/
def resolve (settings : Settings) (environmentGateway : Option OpenAiCompatibleGateway)
    (parseUuid : Text → Option UUID) (byName : Text → Text → Bool)
    (providerKey : Option Text) (first second : ProviderTable) (cache : GatewayCache) :
    Except AiGatewayError (OpenAiCompatibleGateway × GatewayCache) :=
  if providerKey = some environmentProviderKey then
    match environmentGateway with
    | none => .error ⟨"The environment AI model is not configured"⟩
    | some gateway => .ok (gateway, cache)
  else
    match given providerKey with
    | some key => do
      let providerId ← found (parseUuid key) ⟨"Unknown AI model provider"⟩
      let record ← found (first.first? fun row => row.id = providerId ∧ row.status = .active)
        ⟨"AI model provider is unavailable"⟩
      gatewayFor settings record cache
    | none =>
      match first.first? fun row => row.status = .active ∧ row.isDefault = true, environmentGateway with
      | some record, _ => gatewayFor settings record cache
      | none, some gateway => .ok (gateway, cache)
      | none, none => do
        let active := second.rows.filter fun row => row.status = .active
        let record ← found (active.insertionSort fun row other => byName row.name other.name).head?
          ⟨"AI integration is not configured"⟩
        gatewayFor settings record cache

/-! ### The system -/

structure ProviderState where
  providers : ProviderTable
  transactions : List ProviderTransaction
  /-- One cache for each process. -/
  caches : Nat → GatewayCache

def ProviderState.init : ProviderState := ⟨.empty, [], fun _ => Memo.empty⟩

/-- Nobody holds a lock of one of the rows. -/
def ProviderState.Unlocked (s : ProviderState) (ids : List UUID) : Prop :=
  ∀ transaction ∈ s.transactions, ∀ id ∈ ids, id ∉ transaction.locks

instance (s : ProviderState) (ids : List UUID) : Decidable (s.Unlocked ids) :=
  inferInstanceAs (Decidable (∀ transaction ∈ s.transactions, _))

inductive ProviderAction where
  | create (payload : AiModelProviderCreate) (id actorId : UUID) (seed : Nat)
  | update (payload : AiModelProviderUpdate) (providerId actorId : UUID)
  | continueUpdate (index : Nat) (seed : Nat)
  | commit (index : Nat)
  | abandon (index : Nat)
  | delete (providerId : UUID)
  /-- A process asks for the gateway of a row as some statement has read it. -/
  | gatewayFor (process : Nat) (record : AiModelProviderRecord)

def ProviderState.add (s : ProviderState) (transaction : ProviderTransaction) :
    Except ProviderError ProviderState := do
  ensure (s.Unlocked transaction.locks) .locked
  return { s with transactions := s.transactions ++ [transaction] }

def providerStep (settings : Settings) (s : ProviderState) :
    ProviderAction → Except ProviderError ProviderState
  | .create payload id actorId seed => do
    let transaction ← beginCreate settings payload id actorId seed s.providers
    s.add transaction
  | .update payload providerId actorId => do
    let transaction ← beginUpdate payload providerId actorId s.providers
    s.add transaction
  | .continueUpdate index seed => do
    let transaction ← found s.transactions[index]? .noTransaction
    let transaction ← AiProviders.continueUpdate settings seed s.providers transaction
    -- the lock of the row itself is held already
    { s with transactions := s.transactions.eraseIdx index }.add transaction
  | .commit index => do
    let transaction ← found s.transactions[index]? .noTransaction
    let providers ← transaction.commit s.providers
    return { s with providers := providers, transactions := s.transactions.eraseIdx index }
  | .abandon index => do
    let _ ← found s.transactions[index]? .noTransaction
    return { s with transactions := s.transactions.eraseIdx index }
  | .delete providerId => do
    let _ ← found (s.providers.get? providerId) providerNotFound
    ensure (s.Unlocked [providerId]) .locked
    return { s with providers := s.providers.erase providerId }
  | .gatewayFor process record => do
    ensure record.storable .dataError
    let (_, cache) ← (AiProviders.gatewayFor settings record (s.caches process)).mapError fun _ =>
      .noTransaction
    return { s with caches := Function.update s.caches process cache }

/-- The providers under concurrent requests, with the processes that use them. -/
def providerSystem (settings : Settings) : System ProviderState ProviderAction :=
  machine (· = ProviderState.init) (providerStep settings)

end TestOps.AiProviders

import TestOps.ControlPlane.RunEmails
import TestOps.Lib.Transition

/-! The transactions around the email deliveries, statement by statement. Three kinds of them meet at
    the rows of a user:

      end a run   read the preference  ─────────────────────────────▸  commit the deliveries
      opt out     lock the preference  ──▸  see and lock what is pending  ──▸  commit
      dispatch    select and lock  ──▸  send one by one  ──▸  commit the outcomes

    A statement sees what has been committed by then. A row lock is held until the end of its
    transaction; the dispatcher skips locked rows, the other statements wait for them. -/

namespace TestOps

open Checked Relational Transition

/-! ### Sending -/

/-- What comes of sending a delivery. -/
inductive SendOutcome where
  | sent
  | deliveryError (message : String)
  | unexpected (exceptionName : String)
  deriving DecidableEq

def runEmailRetryAt (moment : Instant) (attempts : Nat) : Instant :=
  moment + min 300 (2 ^ min attempts 8) * 1000000

/-- Try again later, or give up after the last attempt. -/
def RunEmailDeliveryRecord.retry (maxAttempts : Nat) (moment : Instant) (lastError : String)
    (delivery : RunEmailDeliveryRecord) : RunEmailDeliveryRecord :=
  if maxAttempts ≤ delivery.attempts then
    { delivery with status := .failed, lastError := some lastError }
  else
    { delivery with
      lastError := some lastError
      availableAt := runEmailRetryAt moment delivery.attempts }

/-- The copy of a delivery that the dispatcher writes back after its attempt. -/
def RunEmailDeliveryRecord.attempted (maxAttempts : Nat) (moment : Instant)
    (delivery : RunEmailDeliveryRecord) (outcome : SendOutcome) : RunEmailDeliveryRecord :=
  let counted := { delivery with attempts := delivery.attempts + 1 }
  match outcome with
  | .sent => { counted with status := .delivered, lastError := none }
  | .deliveryError message =>
    counted.retry maxAttempts moment (String.ofList (message.toList.take 500))
  | .unexpected exceptionName =>
    counted.retry maxAttempts moment s!"Unexpected email sender error ({exceptionName})"

/-! ### Open transactions -/

/-- An update that has read the preference of its user. -/
structure PreferenceUpdate where
  userId : UUID
  payload : RunEmailPreferenceUpdate
  previous : Option RunEmailPreferenceRecord

inductive EmailWork where
  | ending (deliveries : List RunEmailDeliveryRecord)
  | updating (update : PreferenceUpdate)
  /-- The statement that cancels deliveries has locked `taken` and has not come to `waiting`. -/
  | canceling (update : PreferenceUpdate) (waiting taken : List DeliveryKey)
  | dispatching (moment : Instant) (maxAttempts : Nat)
      (unsent attempted : List RunEmailDeliveryRecord)

structure EmailTransaction where
  id : UUID
  work : EmailWork

structure EmailState where
  db : Database
  transactions : Table EmailTransaction.id

inductive EmailError where
  | resourceConflict (message : String)
  | valueError (message : String)
  | integrityError
  | locked
  | notThere
  deriving DecidableEq

/-- The deliveries whose rows a transaction has locked. -/
def EmailWork.held : EmailWork → List DeliveryKey
  | .ending _ | .updating _ => []
  | .canceling _ _ taken => taken
  | .dispatching _ _ unsent attempted =>
    (unsent ++ attempted).map RunEmailDeliveryRecord.dedupeKey

def EmailState.isLocked (s : EmailState) (key : DeliveryKey) : Bool :=
  s.transactions.rows.any fun transaction => key ∈ transaction.work.held

/-- Whether a transaction has locked the row of a user's preference. -/
def EmailWork.locksPreference (userId : UUID) : EmailWork → Bool
  | .updating update | .canceling update _ _ => update.userId = userId ∧ update.previous.isSome
  | _ => false

def EmailState.begin (id : UUID) (work : EmailWork) (s : EmailState) :
    Except EmailError EmailState := do
  let transactions ← found (s.transactions.insert? ⟨id, work⟩) .notThere
  return { s with transactions := transactions }

/-- A transaction goes on with its next statement. -/
def EmailState.resume (id : UUID) (work : EmailWork) (s : EmailState) : EmailState :=
  { s with
    transactions := s.transactions.modify id fun transaction => { transaction with work := work } }

/-! ### Updating the preference -/

def PreferenceUpdate.preference (update : PreferenceUpdate) : RunEmailPreferenceRecord where
  userId := update.userId
  email := update.payload.emails.head?
  emails := update.payload.emails
  selectedEmails := update.payload.selectedEmails
  enabled := update.payload.enabled
  statuses := update.payload.statuses

/-- Whether an update has to cancel what is pending. -/
def PreferenceUpdate.changes (P : Primitives) (update : PreferenceUpdate) : Bool :=
  update.payload.enabled = false ∨ preferenceEmails update.previous ≠ update.payload.emails ∨
    selectedPreferenceEmails P update.previous ≠ update.payload.selectedEmails

def beginPreferenceUpdate (id userId : UUID) (payload : RunEmailPreferenceUpdate)
    (smtpConfigured : Bool) (s : EmailState) : Except EmailError EmailState := do
  ensure (payload.enabled → smtpConfigured)
    (.resourceConflict "SMTP email delivery is not configured")
  ensure (∀ transaction ∈ s.transactions.rows, transaction.work.locksPreference userId = false)
    .locked
  s.begin id (.updating ⟨userId, payload, s.db.emailPreferences.get? userId⟩)

/-- The statement that cancels deliveries sees the pending ones of its user. -/
def pendingKeys (userId : UUID) (db : Database) : List DeliveryKey :=
  (db.emailDeliveries.rows.filter fun delivery =>
    delivery.userId = userId ∧ delivery.status = .pending).map RunEmailDeliveryRecord.dedupeKey

def cancelPending (P : Primitives) (id : UUID) (s : EmailState) :
    EmailWork → Except EmailError EmailState
  | .updating update => do
    ensure (update.changes P = true) .notThere
    return s.resume id (.canceling update (pendingKeys update.userId s.db) [])
  | _ => .error .notThere

/-- The statement comes to its next row; it takes the row if it is still pending by then. -/
def takeNext (id : UUID) (s : EmailState) : EmailWork → Except EmailError EmailState
  | .canceling update (key :: waiting) taken => do
    ensure (s.isLocked key = false) .locked
    return s.resume id (.canceling update waiting
      (if key ∈ pendingKeys update.userId s.db then taken ++ [key] else taken))
  | _ => .error .notThere

/-- The preferences with the new one: a row that was not there when it was read may not be there by
    now, and one that was still has to be. -/
def PreferenceUpdate.stored (update : PreferenceUpdate)
    (preferences : Table RunEmailPreferenceRecord.userId) :
    Option (Table RunEmailPreferenceRecord.userId) :=
  match update.previous with
  | none => preferences.insert? update.preference
  | some _ => (preferences.get? update.userId).map fun _ =>
    preferences.modify update.userId fun record =>
      { update.preference with userId := record.userId }

def PreferenceUpdate.write (update : PreferenceUpdate) (db : Database) :
    Except EmailError Database := do
  let emailPreferences ← found (update.stored db.emailPreferences) .integrityError
  return { db with emailPreferences := emailPreferences }

def cancelTaken (taken : List DeliveryKey) (db : Database) : Database :=
  { db with
    emailDeliveries := db.emailDeliveries.modifyWhere
      (fun delivery => delivery.dedupeKey ∈ taken)
      fun delivery => { delivery with
        status := .canceled
        lastError := some "Notification preference changed before delivery" } }

/-! ### Dispatching -/

/-- A delivery that a batch may select. -/
def EmailState.selectable (moment : Instant) (s : EmailState) (key : DeliveryKey) :
    Option RunEmailDeliveryRecord :=
  (s.db.emailDeliveries.get? key).filter fun delivery =>
    delivery.status = .pending ∧ delivery.availableAt ≤ moment ∧ s.isLocked key = false

/-- A batch selects `keys`; which of the rows that are due come first is left open. -/
def selectDeliveries (id : UUID) (moment : Instant) (limit maxAttempts : Nat)
    (keys : List DeliveryKey) (s : EmailState) : Except EmailError EmailState := do
  ensure (1 ≤ limit ∧ limit ≤ 500)
    (.valueError "Run email dispatch limit must be between 1 and 500")
  ensure (1 ≤ maxAttempts ∧ maxAttempts ≤ 20)
    (.valueError "Run email maximum attempts must be between 1 and 20")
  ensure (keys.length ≤ limit ∧ keys.Nodup) .notThere
  let deliveries ← keys.mapM fun key => found (s.selectable moment key) .locked
  s.begin id (.dispatching moment maxAttempts deliveries [])

/-- Send the next delivery of the batch. -/
def sendNext (id : UUID) (outcome : SendOutcome) (s : EmailState) :
    EmailWork → Except EmailError EmailState
  | .dispatching moment maxAttempts (delivery :: unsent) attempted =>
    return s.resume id (.dispatching moment maxAttempts unsent
      (attempted ++ [delivery.attempted maxAttempts moment outcome]))
  | _ => .error .notThere

/-- The columns of an attempted delivery are written back. -/
def writeAttempted (db : Database) (delivery : RunEmailDeliveryRecord) : Database :=
  { db with
    emailDeliveries := db.emailDeliveries.modify delivery.dedupeKey fun stored =>
      { stored with
        status := delivery.status
        attempts := delivery.attempts
        availableAt := delivery.availableAt
        lastError := delivery.lastError } }

/-! ### Committing -/

def EmailWork.commit (P : Primitives) (db : Database) : EmailWork → Except EmailError Database
  | .ending deliveries => do
    let emailDeliveries ← found (db.emailDeliveries.insertAll? deliveries) .integrityError
    return { db with emailDeliveries := emailDeliveries }
  | .updating update => do
    ensure (update.changes P = false) .notThere
    update.write db
  | .canceling update waiting taken => do
    ensure (waiting = []) .notThere
    let db ← update.write db
    return cancelTaken taken db
  | .dispatching _ _ unsent attempted => do
    ensure (unsent = []) .notThere
    return attempted.foldl writeAttempted db

/-! ### The system -/

inductive EmailAction where
  | endRun (id : UUID) (now : Instant) (run : TestRunRecord)
  | beginUpdate (id userId : UUID) (payload : RunEmailPreferenceUpdate) (smtpConfigured : Bool)
  | cancelPending (id : UUID)
  | takeNext (id : UUID)
  | select (id : UUID) (moment : Instant) (limit maxAttempts : Nat) (keys : List DeliveryKey)
  | send (id : UUID) (outcome : SendOutcome)
  | commit (id : UUID)
  | abandon (id : UUID)

/-- What an open transaction has to do next. -/
def EmailState.work (id : UUID) (s : EmailState) : Except EmailError EmailWork := do
  let transaction ← found (s.transactions.get? id) .notThere
  return transaction.work

def emailStep (P : Primitives) (s : EmailState) : EmailAction → Except EmailError EmailState
  | .endRun id now run => s.begin id (.ending (runResultDeliveries P now s.db run))
  | .beginUpdate id userId payload smtpConfigured =>
    beginPreferenceUpdate id userId payload smtpConfigured s
  | .cancelPending id => do
    let work ← s.work id
    cancelPending P id s work
  | .takeNext id => do
    let work ← s.work id
    takeNext id s work
  | .select id moment limit maxAttempts keys =>
    selectDeliveries id moment limit maxAttempts keys s
  | .send id outcome => do
    let work ← s.work id
    sendNext id outcome s work
  | .commit id => do
    let work ← s.work id
    let db ← work.commit P s.db
    return ⟨db, s.transactions.erase id⟩
  | .abandon id => do
    let _ ← s.work id
    return { s with transactions := s.transactions.erase id }

/-- Any stored preferences and deliveries, and no transaction open. -/
def EmailState.IsInitial (s : EmailState) : Prop := s.transactions = .empty

/-- Notifications about runs. -/
def emails (P : Primitives) : System EmailState EmailAction :=
  machine EmailState.IsInitial (emailStep P)

end TestOps

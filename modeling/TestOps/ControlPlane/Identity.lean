import TestOps.ControlPlane.Persistence
import TestOps.Lib.Checked
import TestOps.Lib.Transition

/-! Users, their sessions, and the members of projects. A request is one transaction, and each of its
    statements reads what has been committed by then:

      log in          read the user  ──▸  commit the session
      update a user   read the user  ──▸  count administrators  ──▸  revoke sessions  ──▸  commit
      reset           read the user  ──▸  revoke sessions  ──▸  commit
      change a member authorize  ──▸  read the user  ──▸  read the member  ──▸  count  ──▸  commit

    None of them holds a lock between what it has read and its commit, and what is written are the
    columns that differ from what has been loaded. -/

namespace TestOps

open Checked Relational Transition

inductive SystemRole where | user | systemAdmin
  deriving DecidableEq

inductive UserStatus where | active | disabled
  deriving DecidableEq

inductive ProjectRole where | viewer | tester | reviewer | projectAdmin
  deriving DecidableEq

structure UserRecord where
  id : UUID
  username : String
  displayName : String
  passwordHash : String
  systemRole : SystemRole
  status : UserStatus
  deriving DecidableEq

structure AuthSessionRecord where
  id : UUID
  userId : UUID
  tokenHash : String
  expiresAt : Instant
  revokedAt : Option Instant
  deriving DecidableEq

structure SystemSettingRecord where
  key : String
  completedBy : UUID
  username : String
  deriving DecidableEq

structure ProjectMemberRecord where
  id : UUID
  projectId : UUID
  userId : UUID
  role : ProjectRole
  createdBy : UUID
  deriving DecidableEq

inductive IdentityError where
  | authenticationRequired (message : String)
  | permissionDenied (message : String)
  | bootstrapUnavailable (message : String)
  | invalidRequest (message : String)
  | resourceConflict (message : String)
  | resourceNotFound (message : String)
  | integrityError
  | staleDataError
  | noTransaction
  deriving DecidableEq

structure IdentityDatabase where
  users : Table UserRecord.id
  authSessions : Table AuthSessionRecord.tokenHash
  systemSettings : Table SystemSettingRecord.key
  projects : Table ProjectRecord.id
  projectMembers : Table ProjectMemberRecord.id

def IdentityDatabase.empty : IdentityDatabase := ⟨.empty, .empty, .empty, .empty, .empty⟩

/-- Whether somebody may administer the system. -/
def UserRecord.isActiveAdmin (user : UserRecord) : Bool :=
  user.systemRole = .systemAdmin ∧ user.status = .active

/-! ### Requests -/

structure BootstrapAdminRequest where
  username : String
  displayName : String

structure UserCreate where
  username : String
  displayName : String
  systemRole : SystemRole

structure UserUpdate where
  displayName : Option String
  systemRole : Option SystemRole
  status : Option UserStatus

structure UserPasswordReset where
  password : String

structure ProjectCreate where
  key : String
  name : String

structure Principal where
  userId : UUID
  sessionId : UUID
  username : String
  displayName : String
  systemRole : SystemRole

/-- The caller of a request, with the row that the transaction keeps of it. -/
def currentPrincipal (now : Instant) (tokenHash : String) (db : IdentityDatabase) :
    Except IdentityError (Principal × UserRecord) := do
  let invalid := IdentityError.authenticationRequired "invalid or expired session"
  let authSession ← found (db.authSessions.get? tokenHash) invalid
  let user ← found (db.users.get? authSession.userId) invalid
  ensure (authSession.revokedAt = none ∧ now < authSession.expiresAt ∧ user.status = .active)
    invalid
  return (⟨user.id, authSession.id, user.username, user.displayName, user.systemRole⟩, user)

/-- `session.get` of a user: the row of the caller may still be there from authentication. -/
def sessionGet (cached : Bool) (caller : UserRecord) (userId : UUID) (db : IdentityDatabase) :
    Option UserRecord :=
  if cached = true ∧ userId = caller.id then some caller else db.users.get? userId

def requireSystemAdmin (principal : Principal) : Except IdentityError Unit :=
  ensure (principal.systemRole = .systemAdmin)
    (.permissionDenied "system administrator permission is required")

/-- Add a user whose name is free. -/
def insertUser (user : UserRecord) (message : String) (db : IdentityDatabase) :
    Except IdentityError IdentityDatabase := do
  ensure (∀ other ∈ db.users.rows, other.username ≠ user.username) (.resourceConflict message)
  let users ← found (db.users.insert? user) (.resourceConflict message)
  return { db with users := users }

/-! ### Logging in and setting up -/

/-- A login whose password has been verified against the row it has read. -/
structure LoggingIn where
  user : UserRecord
  sessionId : UUID
  tokenHash : String
  expiresAt : Instant
  deriving DecidableEq

def authenticate (now : Instant) (sessionId : UUID) (tokenHash username : String)
    (passwordIsValid : Bool) (sessionTtlHours : Nat) (db : IdentityDatabase) :
    Except IdentityError LoggingIn := do
  let invalid := IdentityError.authenticationRequired "invalid username or password"
  let user ← found (db.users.first? fun user => user.username = username) invalid
  ensure (user.status = .active ∧ passwordIsValid = true) invalid
  return ⟨user, sessionId, tokenHash, now + sessionTtlHours * 3600 * 1000000⟩

def LoggingIn.commit (login : LoggingIn) (db : IdentityDatabase) :
    Except IdentityError IdentityDatabase := do
  let authSessions ← found
    (db.authSessions.insert? ⟨login.sessionId, login.user.id, login.tokenHash, login.expiresAt, none⟩)
    .integrityError
  return { db with authSessions := authSessions }

/-- What `bootstrapAdmin` checks before it writes. -/
def beginBootstrapAdmin (providedToken configuredToken : Option String) (db : IdentityDatabase) :
    Except IdentityError Unit := do
  ensure (configuredToken.getD "" ≠ "")
    (.bootstrapUnavailable "administrator bootstrap is not configured")
  ensure (providedToken = configuredToken)
    (.authenticationRequired "invalid bootstrap token")
  ensure (db.users.rows = [])
    (.resourceConflict "administrator bootstrap is already complete")

def bootstrappedKey : String := "identity.bootstrapped"

def commitBootstrapAdmin (userId : UUID) (passwordHash : String) (payload : BootstrapAdminRequest)
    (db : IdentityDatabase) : Except IdentityError IdentityDatabase := do
  let message := "administrator bootstrap is already complete"
  let systemSettings ← found (db.systemSettings.insert? ⟨bootstrappedKey, userId, payload.username⟩)
    (.resourceConflict message)
  insertUser ⟨userId, payload.username, payload.displayName, passwordHash, .systemAdmin, .active⟩
    message
    { db with systemSettings := systemSettings }

def commitCreateUser (userId : UUID) (passwordHash : String) (payload : UserCreate)
    (db : IdentityDatabase) : Except IdentityError IdentityDatabase :=
  insertUser
    ⟨userId, payload.username, payload.displayName, passwordHash, payload.systemRole, .active⟩
    "username already exists" db

/-! ### Revoking sessions -/

/-- The sessions that a revocation has taken, to be written when its transaction commits. -/
structure Revocation where
  revokedAt : Instant
  tokenHashes : List String
  deriving DecidableEq

def revokeUserSessions (now : Instant) (userId : UUID) (db : IdentityDatabase) : Revocation :=
  ⟨now, (db.authSessions.rows.filter fun authSession =>
    authSession.userId = userId ∧ authSession.revokedAt = none).map AuthSessionRecord.tokenHash⟩

def Revocation.apply (revocation : Revocation) (db : IdentityDatabase) : IdentityDatabase :=
  { db with
    authSessions := db.authSessions.modifyWhere
      (fun authSession => authSession.tokenHash ∈ revocation.tokenHashes ∧
        authSession.revokedAt = none)
      fun authSession => { authSession with revokedAt := some revocation.revokedAt } }

/-! ### Updating a user -/

/-- How far an update has come, and what it has read. -/
inductive UpdateProgress where
  | authenticated
  | loaded (user : UserRecord)
  | counted (user : UserRecord) (administrators : List UUID)
  | revoked (user : UserRecord) (administrators : List UUID) (revocation : Revocation)

/-- The user and the administrators, once they have been read. -/
def UpdateProgress.reads? : UpdateProgress → Option (UserRecord × List UUID)
  | counted user administrators | revoked user administrators _ => some (user, administrators)
  | _ => none

structure UserUpdating where
  principal : Principal
  /-- The row of the caller, as authentication has read it. -/
  caller : UserRecord
  userId : UUID
  payload : UserUpdate
  progress : UpdateProgress

def UserUpdating.nextRole (update : UserUpdating) (user : UserRecord) : SystemRole :=
  update.payload.systemRole.getD user.systemRole

def UserUpdating.nextStatus (update : UserUpdating) (user : UserRecord) : UserStatus :=
  update.payload.status.getD user.status

/-- Whether the update leaves an active administrator behind. -/
def UserUpdating.remainsActiveAdmin (update : UserUpdating) (user : UserRecord) : Bool :=
  update.nextRole user = .systemAdmin ∧ update.nextStatus user = .active

def UserUpdating.load (cached : Bool) (update : UserUpdating) (db : IdentityDatabase) :
    Except IdentityError UserRecord := do
  requireSystemAdmin update.principal
  let user ← found (sessionGet cached update.caller update.userId db)
    (.resourceNotFound "user not found")
  ensure (update.userId ≠ update.principal.userId ∨ update.remainsActiveAdmin user = true)
    (.resourceConflict "current administrator cannot demote or disable itself")
  return user

def activeAdmins (db : IdentityDatabase) : List UUID :=
  (db.users.rows.filter UserRecord.isActiveAdmin).map UserRecord.id

/-- The administrators that were counted; none, when the update takes no administrator away. -/
def ensureAdminRemains (update : UserUpdating) (user : UserRecord) (db : IdentityDatabase) :
    Except IdentityError (List UUID) :=
  if user.isActiveAdmin = false ∨ update.remainsActiveAdmin user = true then
    return []
  else do
    ensure (1 < (activeAdmins db).length)
      (.resourceConflict "system must keep at least one active system administrator")
    return activeAdmins db

/-- The stored value of a column that was loaded and then assigned. -/
def writeColumn {α : Type} [DecidableEq α] (loaded assigned stored : α) : α :=
  if assigned = loaded then stored else assigned

def UserUpdating.written (update : UserUpdating) (user stored : UserRecord) : UserRecord :=
  { stored with
    displayName :=
      writeColumn user.displayName (update.payload.displayName.getD user.displayName)
        stored.displayName
    systemRole := writeColumn user.systemRole (update.nextRole user) stored.systemRole
    status := writeColumn user.status (update.nextStatus user) stored.status }

def UserUpdating.commit (update : UserUpdating) (user : UserRecord)
    (revocation : Option Revocation) (db : IdentityDatabase) : IdentityDatabase :=
  let db := { db with
    users := db.users.modify update.userId (update.written user) }
  match revocation with
  | some revocation => revocation.apply db
  | none => db

/-! ### Resetting a password -/

inductive ResetProgress where
  | authenticated
  | loaded (user : UserRecord)
  | revoked (user : UserRecord) (passwordHash : String) (revocation : Revocation)

structure PasswordResetting where
  principal : Principal
  caller : UserRecord
  userId : UUID
  payload : UserPasswordReset
  progress : ResetProgress

def PasswordResetting.load (cached : Bool) (reset : PasswordResetting) (db : IdentityDatabase) :
    Except IdentityError UserRecord := do
  requireSystemAdmin reset.principal
  let user ← found (sessionGet cached reset.caller reset.userId db)
    (.resourceNotFound "user not found")
  ensure (user.systemRole = .systemAdmin → 12 ≤ reset.payload.password.length)
    (.invalidRequest "System Admin password must contain at least 12 characters")
  return user

def PasswordResetting.commit (reset : PasswordResetting) (user : UserRecord)
    (passwordHash : String) (revocation : Revocation) (db : IdentityDatabase) :
    IdentityDatabase :=
  revocation.apply { db with
    users := db.users.modify reset.userId fun stored => { stored with
      passwordHash := writeColumn user.passwordHash passwordHash stored.passwordHash } }

/-! ### Projects and their members -/

def projectPermissions : ProjectRole → List String
  | .viewer => ["project:read", "baseline:read", "run:read"]
  | .tester => ["project:read", "baseline:read", "run:read", "run:create", "run:cancel",
    "change:read", "change:create", "change:edit", "change:submit"]
  | .reviewer => ["project:read", "baseline:read", "run:read", "change:read", "change:review"]
  | .projectAdmin => ["*"]

/-- The member of a project that a user is. -/
def IdentityDatabase.member? (db : IdentityDatabase) (projectId userId : UUID) :
    Option ProjectMemberRecord :=
  db.projectMembers.first? fun member => member.projectId = projectId ∧ member.userId = userId

def authorizeProject (principal : Principal) (projectId : UUID) (permission : String)
    (db : IdentityDatabase) : Except IdentityError Unit :=
  if principal.systemRole = .systemAdmin then
    return ()
  else do
    let member ← found (db.member? projectId principal.userId)
      (.permissionDenied "project membership is required")
    let permissions := projectPermissions member.role
    ensure ("*" ∈ permissions ∨ permission ∈ permissions)
      (.permissionDenied s!"project permission is required: {permission}")

/-- Add a member; a user is one member of a project. -/
def insertMember (member : ProjectMemberRecord) (db : IdentityDatabase) :
    Except IdentityError IdentityDatabase := do
  ensure (db.member? member.projectId member.userId = none) .integrityError
  let projectMembers ← found (db.projectMembers.insert? member) .integrityError
  return { db with projectMembers := projectMembers }

def commitCreateProject (projectId memberId : UUID) (payload : ProjectCreate) (actorId : UUID)
    (db : IdentityDatabase) : Except IdentityError IdentityDatabase := do
  let conflict := IdentityError.resourceConflict "project key already exists"
  ensure (∀ other ∈ db.projects.rows, other.key ≠ payload.key) conflict
  let projects ← found
    (db.projects.insert? ⟨projectId, payload.key, payload.name, 20, 500, 3600, "ACTIVE"⟩) conflict
  insertMember ⟨memberId, projectId, actorId, .projectAdmin, actorId⟩
    { db with projects := projects }

inductive MemberChange where
  | upsert (role : ProjectRole)
  | remove
  deriving DecidableEq

/-- How far a change of a member has come, and what it has read. -/
inductive MemberProgress where
  | authenticated
  | authorized
  | admitted
  | loaded (member : Option ProjectMemberRecord)
  | counted (member : Option ProjectMemberRecord)

structure MemberChanging where
  principal : Principal
  caller : UserRecord
  projectId : UUID
  userId : UUID
  change : MemberChange
  progress : MemberProgress

/-- An upsert needs its project and an active user; a removal needs neither. -/
def MemberChanging.qualify (cached : Bool) (changing : MemberChanging) (db : IdentityDatabase) :
    Except IdentityError Unit :=
  match changing.change with
  | .remove => return ()
  | .upsert _ => do
    let _ ← found (db.projects.get? changing.projectId) (.resourceNotFound "project not found")
    let user ← found (sessionGet cached changing.caller changing.userId db)
      (.resourceNotFound "active user not found")
    ensure (user.status = .active) (.resourceNotFound "active user not found")

def MemberChanging.load (changing : MemberChanging) (db : IdentityDatabase) :
    Except IdentityError (Option ProjectMemberRecord) := do
  let member := db.member? changing.projectId changing.userId
  ensure (changing.change = .remove → member ≠ none)
    (.resourceNotFound "project member not found")
  return member

/-- Whether the change takes the role of an administrator away. -/
def MemberChange.demotes : MemberChange → Bool
  | .upsert role => role ≠ .projectAdmin
  | .remove => true

/-- The administrators of a project, whatever the status of their users. -/
def projectAdmins (projectId : UUID) (db : IdentityDatabase) : List ProjectMemberRecord :=
  db.projectMembers.rows.filter fun member =>
    member.projectId = projectId ∧ member.role = .projectAdmin

def MemberChanging.count (changing : MemberChanging) (member : Option ProjectMemberRecord)
    (db : IdentityDatabase) : Except IdentityError Unit :=
  ensure ((∃ loaded ∈ member, loaded.role = .projectAdmin) → changing.change.demotes = true →
      1 < (projectAdmins changing.projectId db).length)
    (.resourceConflict "project must keep at least one project administrator")

def MemberChanging.commit (newMemberId : UUID) (changing : MemberChanging)
    (db : IdentityDatabase) : Option ProjectMemberRecord → Except IdentityError IdentityDatabase
  | none =>
    match changing.change with
    | .upsert role => insertMember
        ⟨newMemberId, changing.projectId, changing.userId, role, changing.principal.userId⟩ db
    | .remove => .error .noTransaction
  | some member =>
    match changing.change with
    | .upsert role =>
      if role = member.role then
        return db
      else do
        let _ ← found (db.projectMembers.get? member.id) .staleDataError
        return { db with
          projectMembers := db.projectMembers.modify member.id fun stored =>
            { stored with role := role } }
    | .remove => return { db with projectMembers := db.projectMembers.erase member.id }

/-! ### The system -/

inductive IdentityTransaction where
  | login (login : LoggingIn)
  | bootstrapAdmin (payload : BootstrapAdminRequest)
  | createUser (payload : UserCreate)
  | updateUser (update : UserUpdating)
  | resetPassword (reset : PasswordResetting)
  | createProject (payload : ProjectCreate) (actorId : UUID)
  | changeMember (changing : MemberChanging)

/-- The database, the transactions that have not committed, and the tokens issued so far. -/
structure IdentityState where
  db : IdentityDatabase
  transactions : List IdentityTransaction
  issued : List String

def IdentityState.init : IdentityState := ⟨.empty, [], []⟩

inductive IdentityAction where
  | authenticate (now : Instant) (sessionId : UUID) (tokenHash username : String)
      (passwordIsValid : Bool) (sessionTtlHours : Nat)
  | beginBootstrap (payload : BootstrapAdminRequest)
      (providedToken configuredToken : Option String)
  | beginCreate (now : Instant) (tokenHash : String) (payload : UserCreate)
  | beginUpdate (now : Instant) (tokenHash : String) (userId : UUID) (payload : UserUpdate)
  | beginReset (now : Instant) (tokenHash : String) (userId : UUID) (payload : UserPasswordReset)
  | beginProject (now : Instant) (tokenHash : String) (payload : ProjectCreate)
  | beginMember (now : Instant) (tokenHash : String) (projectId userId : UUID)
      (change : MemberChange)
  | authorize (index : Nat)
  | qualify (index : Nat) (cached : Bool)
  | load (index : Nat) (cached : Bool)
  | count (index : Nat)
  | revoke (index : Nat) (now : Instant) (passwordHash : String)
  | commit (index : Nat) (newId newMemberId : UUID) (passwordHash : String)
  | abandon (index : Nat)

/-- The update at an index. -/
def IdentityState.update? (s : IdentityState) (index : Nat) : Option UserUpdating :=
  match s.transactions[index]? with
  | some (.updateUser update) => some update
  | _ => none

def IdentityState.add (s : IdentityState) (transaction : IdentityTransaction) : IdentityState :=
  { s with transactions := s.transactions ++ [transaction] }

def IdentityState.advance (s : IdentityState) (index : Nat) (transaction : IdentityTransaction) :
    IdentityState :=
  { s with transactions := s.transactions.set index transaction }

/-! #### The statements of a transaction -/

def IdentityTransaction.authorize (db : IdentityDatabase) :
    IdentityTransaction → Except IdentityError IdentityTransaction
  | .changeMember changing =>
    match changing.progress with
    | .authenticated => do
      authorizeProject changing.principal changing.projectId "member:manage" db
      return .changeMember { changing with progress := .authorized }
    | _ => .error .noTransaction
  | _ => .error .noTransaction

def IdentityTransaction.qualify (cached : Bool) (db : IdentityDatabase) :
    IdentityTransaction → Except IdentityError IdentityTransaction
  | .changeMember changing =>
    match changing.progress with
    | .authorized => do
      changing.qualify cached db
      return .changeMember { changing with progress := .admitted }
    | _ => .error .noTransaction
  | _ => .error .noTransaction

def IdentityTransaction.load (cached : Bool) (db : IdentityDatabase) :
    IdentityTransaction → Except IdentityError IdentityTransaction
  | .updateUser update =>
    match update.progress with
    | .authenticated => do
      let user ← update.load cached db
      return .updateUser { update with progress := .loaded user }
    | _ => .error .noTransaction
  | .resetPassword reset =>
    match reset.progress with
    | .authenticated => do
      let user ← reset.load cached db
      return .resetPassword { reset with progress := .loaded user }
    | _ => .error .noTransaction
  | .changeMember changing =>
    match changing.progress with
    | .admitted => do
      let member ← changing.load db
      return .changeMember { changing with progress := .loaded member }
    | _ => .error .noTransaction
  | _ => .error .noTransaction

def IdentityTransaction.count (db : IdentityDatabase) :
    IdentityTransaction → Except IdentityError IdentityTransaction
  | .updateUser update =>
    match update.progress with
    | .loaded user => do
      let administrators ← ensureAdminRemains update user db
      return .updateUser { update with progress := .counted user administrators }
    | _ => .error .noTransaction
  | .changeMember changing =>
    match changing.progress with
    | .loaded member => do
      changing.count member db
      return .changeMember { changing with progress := .counted member }
    | _ => .error .noTransaction
  | _ => .error .noTransaction

/-- A disabling and a reset revoke the sessions of their user. -/
def IdentityTransaction.revoke (now : Instant) (passwordHash : String) (db : IdentityDatabase) :
    IdentityTransaction → Except IdentityError IdentityTransaction
  | .updateUser update =>
    match update.progress with
    | .counted user administrators =>
      if update.nextStatus user = .disabled then
        return .updateUser { update with
          progress := .revoked user administrators (revokeUserSessions now update.userId db) }
      else .error .noTransaction
    | _ => .error .noTransaction
  | .resetPassword reset =>
    match reset.progress with
    | .loaded user => return .resetPassword { reset with
        progress := .revoked user passwordHash (revokeUserSessions now reset.userId db) }
    | _ => .error .noTransaction
  | _ => .error .noTransaction

/-- What a transaction commits, once all of its statements have run. -/
def IdentityTransaction.commit (newId newMemberId : UUID) (passwordHash : String)
    (db : IdentityDatabase) : IdentityTransaction → Except IdentityError IdentityDatabase
  | .login loggingIn => loggingIn.commit db
  | .bootstrapAdmin payload => commitBootstrapAdmin newId passwordHash payload db
  | .createUser payload => commitCreateUser newId passwordHash payload db
  | .updateUser update =>
    match update.progress with
    | .counted user _ =>
      if update.nextStatus user = .disabled then .error .noTransaction
      else return update.commit user none db
    | .revoked user _ revocation => return update.commit user (some revocation) db
    | _ => .error .noTransaction
  | .resetPassword reset =>
    match reset.progress with
    | .revoked user passwordHash revocation => return reset.commit user passwordHash revocation db
    | _ => .error .noTransaction
  | .createProject payload actorId => commitCreateProject newId newMemberId payload actorId db
  | .changeMember changing =>
    match changing.progress with
    | .counted member => changing.commit newMemberId db member
    | _ => .error .noTransaction

/-- Run the next statement of the transaction at an index. -/
def IdentityState.proceed (s : IdentityState) (index : Nat)
    (statement : IdentityTransaction → Except IdentityError IdentityTransaction) :
    Except IdentityError IdentityState := do
  let transaction ← found s.transactions[index]? .noTransaction
  let transaction ← statement transaction
  return s.advance index transaction

def identityStep (s : IdentityState) : IdentityAction → Except IdentityError IdentityState
  | .authenticate now sessionId tokenHash username passwordIsValid sessionTtlHours => do
    let login ← TestOps.authenticate now sessionId tokenHash username passwordIsValid
      sessionTtlHours s.db
    -- a token is random: none is issued twice
    ensure (tokenHash ∉ s.issued) .integrityError
    return { s.add (.login login) with issued := tokenHash :: s.issued }
  | .beginBootstrap payload providedToken configuredToken => do
    beginBootstrapAdmin providedToken configuredToken s.db
    return s.add (.bootstrapAdmin payload)
  | .beginCreate now tokenHash payload => do
    let (principal, _) ← currentPrincipal now tokenHash s.db
    requireSystemAdmin principal
    return s.add (.createUser payload)
  | .beginUpdate now tokenHash userId payload => do
    let (principal, caller) ← currentPrincipal now tokenHash s.db
    return s.add (.updateUser ⟨principal, caller, userId, payload, .authenticated⟩)
  | .beginReset now tokenHash userId payload => do
    let (principal, caller) ← currentPrincipal now tokenHash s.db
    return s.add (.resetPassword ⟨principal, caller, userId, payload, .authenticated⟩)
  | .beginProject now tokenHash payload => do
    let (principal, _) ← currentPrincipal now tokenHash s.db
    requireSystemAdmin principal
    return s.add (.createProject payload principal.userId)
  | .beginMember now tokenHash projectId userId change => do
    let (principal, caller) ← currentPrincipal now tokenHash s.db
    return s.add (.changeMember ⟨principal, caller, projectId, userId, change, .authenticated⟩)
  | .authorize index => s.proceed index (IdentityTransaction.authorize s.db)
  | .qualify index cached => s.proceed index (IdentityTransaction.qualify cached s.db)
  | .load index cached => s.proceed index (IdentityTransaction.load cached s.db)
  | .count index => s.proceed index (IdentityTransaction.count s.db)
  | .revoke index now passwordHash => 
    s.proceed index (IdentityTransaction.revoke now passwordHash s.db)
  | .commit index newId newMemberId passwordHash => do
    let transaction ← found s.transactions[index]? .noTransaction
    let db ← transaction.commit newId newMemberId passwordHash s.db
    return { s with db := db, transactions := s.transactions.eraseIdx index }
  | .abandon index => do
    let _ ← found s.transactions[index]? .noTransaction
    return { s with transactions := s.transactions.eraseIdx index }

/-- Users under concurrent requests. -/
def identity : System IdentityState IdentityAction :=
  machine (· = IdentityState.init) identityStep

/-- The set-up of the first administrator has succeeded. -/
def IdentityState.Bootstrapped (s : IdentityState) : Prop :=
  (s.db.systemSettings.get? bootstrappedKey).isSome = true

instance (s : IdentityState) : Decidable s.Bootstrapped :=
  inferInstanceAs (Decidable (_ = true))

end TestOps

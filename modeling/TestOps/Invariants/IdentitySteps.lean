import TestOps.ControlPlane.Identity

/-! What one step of a request on users does. A request begins, runs its statements one after the
    other, and commits or gives up; only a commit changes the database:

      begun  ──▸  advanced  ──▸  ..  ──▸  advanced  ──▸  committed
                                             └────────▸  abandoned -/

namespace TestOps

open Checked Relational Transition

variable {db db' : IdentityDatabase} {s s' : IdentityState} {a : IdentityAction}

/-! ### Counting administrators -/

theorem activeAdmins_nodup : (activeAdmins db).Nodup :=
  db.users.keysNodup.sublist (List.filter_sublist.map UserRecord.id)

/-- What an update has counted, when it takes an administrator away. -/
theorem ensureAdminRemains_ok {update : UserUpdating} {user : UserRecord}
    {administrators : List UUID} (h : ensureAdminRemains update user db = .ok administrators) :
    administrators.Nodup ∧ (user.isActiveAdmin = true → update.remainsActiveAdmin user = false →
      1 < administrators.length) := by
  rw [ensureAdminRemains] at h
  split at h
  · rename_i hkeeps
    simp only [pure_eq_ok] at h
    subst h
    refine ⟨List.nodup_nil, fun hactive hremoved => ?_⟩
    rcases hkeeps with hnot | hremains
    · rw [hactive] at hnot
      cases hnot
    · rw [hremoved] at hremains
      cases hremains
  · simp only [bind_eq_ok, ensure_eq_ok, pure_eq_ok] at h
    obtain ⟨-, hcount, rfl⟩ := h
    exact ⟨activeAdmins_nodup, fun _ _ => hcount⟩

/-- What an update holds that has counted. -/
def CountedMany (update : UserUpdating) : Prop :=
  ∀ user administrators, update.progress.reads? = some (user, administrators) →
    administrators.Nodup ∧ (user.isActiveAdmin = true → update.remainsActiveAdmin user = false →
      1 < administrators.length)

/-! ### Transactions -/

/-- What a transaction holds: an update what it has counted. -/
def IdentityTransaction.Holds (transaction : IdentityTransaction) : Prop :=
  ∀ update, transaction = .updateUser update → CountedMany update

/-- A statement makes no login, and a transaction holds what it has read. -/
structure Advances (transaction transaction' : IdentityTransaction) : Prop where
  login : ∀ loggingIn, transaction' ≠ .login loggingIn
  holds : transaction.Holds → transaction'.Holds

theorem authorize_advances {transaction transaction' : IdentityTransaction}
    (h : transaction.authorize db = .ok transaction') : Advances transaction transaction' := by
  cases transaction <;> simp only [IdentityTransaction.authorize] at h
  case changeMember changing =>
    split at h
    · simp only [bind_eq_ok, pure_eq_ok] at h
      obtain ⟨-, -, rfl⟩ := h
      exact ⟨fun _ heq => (by cases heq), fun _ _ heq => by cases heq⟩
    · cases h
  all_goals cases h

theorem qualify_advances {cached : Bool} {transaction transaction' : IdentityTransaction}
    (h : transaction.qualify cached db = .ok transaction') : Advances transaction transaction' := by
  cases transaction <;> simp only [IdentityTransaction.qualify] at h
  case changeMember changing =>
    split at h
    · simp only [bind_eq_ok, pure_eq_ok] at h
      obtain ⟨-, -, rfl⟩ := h
      exact ⟨fun _ heq => (by cases heq), fun _ _ heq => by cases heq⟩
    · cases h
  all_goals cases h

theorem load_advances {cached : Bool} {transaction transaction' : IdentityTransaction}
    (h : transaction.load cached db = .ok transaction') : Advances transaction transaction' := by
  cases transaction <;> simp only [IdentityTransaction.load] at h
  case updateUser update =>
    split at h
    · simp only [bind_eq_ok, pure_eq_ok] at h
      obtain ⟨user, -, rfl⟩ := h
      refine ⟨fun _ heq => (by cases heq), fun _ update' heq => ?_⟩
      cases heq
      exact fun _ _ hreads => by cases hreads
    · cases h
  case resetPassword reset =>
    split at h
    · simp only [bind_eq_ok, pure_eq_ok] at h
      obtain ⟨user, -, rfl⟩ := h
      exact ⟨fun _ heq => (by cases heq), fun _ _ heq => by cases heq⟩
    · cases h
  case changeMember changing =>
    split at h
    · simp only [bind_eq_ok, pure_eq_ok] at h
      obtain ⟨member, -, rfl⟩ := h
      exact ⟨fun _ heq => (by cases heq), fun _ _ heq => by cases heq⟩
    · cases h
  all_goals cases h

theorem count_advances {transaction transaction' : IdentityTransaction}
    (h : transaction.count db = .ok transaction') : Advances transaction transaction' := by
  cases transaction <;> simp only [IdentityTransaction.count] at h
  case updateUser update =>
    split at h
    · simp only [bind_eq_ok, pure_eq_ok] at h
      obtain ⟨administrators, hcount, rfl⟩ := h
      refine ⟨fun _ heq => (by cases heq), fun _ update' heq => ?_⟩
      cases heq
      intro user' administrators' hreads
      cases hreads
      exact ensureAdminRemains_ok hcount
    · cases h
  case changeMember changing =>
    split at h
    · simp only [bind_eq_ok, pure_eq_ok] at h
      obtain ⟨-, -, rfl⟩ := h
      exact ⟨fun _ heq => (by cases heq), fun _ _ heq => by cases heq⟩
    · cases h
  all_goals cases h

theorem revoke_advances {now : Instant} {passwordHash : String}
    {transaction transaction' : IdentityTransaction}
    (h : transaction.revoke now passwordHash db = .ok transaction') :
    Advances transaction transaction' := by
  cases transaction <;> simp only [IdentityTransaction.revoke] at h
  case updateUser update =>
    split at h
    · rename_i user administrators hprogress
      split at h
      · simp only [pure_eq_ok] at h
        subst h
        refine ⟨fun _ heq => (by cases heq), fun hholds update' heq => ?_⟩
        cases heq
        intro user' administrators' hreads
        cases hreads
        exact hholds update rfl user administrators (by rw [hprogress]; rfl)
      · cases h
    · cases h
  case resetPassword reset =>
    split at h
    · simp only [pure_eq_ok] at h
      subst h
      exact ⟨fun _ heq => (by cases heq), fun _ _ heq => by cases heq⟩
    · cases h
  all_goals cases h

/-! ### Steps -/

/-- The steps: a login has verified, a request begins, reads on, commits, or gives up. -/
inductive IdentityMove (s : IdentityState) : IdentityAction → IdentityState → Prop
  | authenticated (now : Instant) (sessionId : UUID) (tokenHash username : String)
      (passwordIsValid : Bool) (sessionTtlHours : Nat) (loggingIn : LoggingIn) :
      authenticate now sessionId tokenHash username passwordIsValid sessionTtlHours s.db =
        .ok loggingIn →
      tokenHash ∉ s.issued →
      IdentityMove s (.authenticate now sessionId tokenHash username passwordIsValid sessionTtlHours)
        { s.add (.login loggingIn) with issued := tokenHash :: s.issued }
  | begun (a : IdentityAction) (transaction : IdentityTransaction) :
      (∀ loggingIn, transaction ≠ .login loggingIn) → transaction.Holds →
      IdentityMove s a (s.add transaction)
  | advanced (a : IdentityAction) (index : Nat) (transaction transaction' : IdentityTransaction) :
      s.transactions[index]? = some transaction → Advances transaction transaction' →
      IdentityMove s a (s.advance index transaction')
  | committed (index : Nat) (newId newMemberId : UUID) (passwordHash : String)
      (transaction : IdentityTransaction) (db : IdentityDatabase) :
      s.transactions[index]? = some transaction →
      transaction.commit newId newMemberId passwordHash s.db = .ok db →
      IdentityMove s (.commit index newId newMemberId passwordHash)
        { s with db := db, transactions := s.transactions.eraseIdx index }
  | abandoned (index : Nat) :
      IdentityMove s (.abandon index) { s with transactions := s.transactions.eraseIdx index }

theorem proceed_ok {index : Nat}
    {statement : IdentityTransaction → Except IdentityError IdentityTransaction}
    (h : s.proceed index statement = .ok s')
    (hadvances : ∀ transaction transaction', statement transaction = .ok transaction' →
      Advances transaction transaction') : IdentityMove s a s' := by
  simp only [IdentityState.proceed, bind_eq_ok, found_eq_ok, pure_eq_ok] at h
  obtain ⟨transaction, hget, transaction', hstatement, rfl⟩ := h
  exact .advanced a index transaction transaction' hget (hadvances _ _ hstatement)

theorem identityStep_move (h : identityStep s a = .ok s') : IdentityMove s a s' := by
  cases a with
  | authenticate now sessionId tokenHash username passwordIsValid sessionTtlHours =>
    simp only [identityStep, bind_eq_ok, ensure_eq_ok, pure_eq_ok] at h
    obtain ⟨loggingIn, hlogin, -, hfresh, rfl⟩ := h
    exact .authenticated _ _ _ _ _ _ loggingIn hlogin hfresh
  | beginBootstrap payload =>
    simp only [identityStep, bind_eq_ok, pure_eq_ok] at h
    obtain ⟨-, -, rfl⟩ := h
    exact .begun _ _ (fun _ heq => by cases heq) fun _ heq => by cases heq
  | beginCreate now tokenHash payload =>
    simp only [identityStep, bind_eq_ok, pure_eq_ok, Prod.exists] at h
    obtain ⟨-, -, -, -, -, rfl⟩ := h
    exact .begun _ _ (fun _ heq => by cases heq) fun _ heq => by cases heq
  | beginUpdate now tokenHash userId payload =>
    simp only [identityStep, bind_eq_ok, pure_eq_ok, Prod.exists] at h
    obtain ⟨principal, caller, -, rfl⟩ := h
    refine .begun _ _ (fun _ heq => by cases heq) fun update heq => ?_
    cases heq
    exact fun _ _ hreads => by cases hreads
  | beginReset now tokenHash userId payload =>
    simp only [identityStep, bind_eq_ok, pure_eq_ok, Prod.exists] at h
    obtain ⟨principal, caller, -, rfl⟩ := h
    exact .begun _ _ (fun _ heq => by cases heq) fun _ heq => by cases heq
  | beginProject now tokenHash payload =>
    simp only [identityStep, bind_eq_ok, pure_eq_ok, Prod.exists] at h
    obtain ⟨principal, -, -, -, -, rfl⟩ := h
    exact .begun _ _ (fun _ heq => by cases heq) fun _ heq => by cases heq
  | beginMember now tokenHash projectId userId change =>
    simp only [identityStep, bind_eq_ok, pure_eq_ok, Prod.exists] at h
    obtain ⟨principal, caller, -, rfl⟩ := h
    exact .begun _ _ (fun _ heq => by cases heq) fun _ heq => by cases heq
  | authorize index => exact proceed_ok h fun _ _ => authorize_advances
  | qualify index cached => exact proceed_ok h fun _ _ => qualify_advances
  | load index cached => exact proceed_ok h fun _ _ => load_advances
  | count index => exact proceed_ok h fun _ _ => count_advances
  | revoke index now passwordHash => exact proceed_ok h fun _ _ => revoke_advances
  | commit index newId newMemberId passwordHash =>
    simp only [identityStep, bind_eq_ok, found_eq_ok, pure_eq_ok] at h
    obtain ⟨transaction, hget, db, hcommit, rfl⟩ := h
    exact .committed index newId newMemberId passwordHash transaction db hget hcommit
  | abandon index =>
    simp only [identityStep, bind_eq_ok, found_eq_ok, pure_eq_ok] at h
    obtain ⟨-, -, rfl⟩ := h
    exact .abandoned index

theorem commit_ok {index : Nat} {newId newMemberId : UUID} {passwordHash : String}
    (h : identityStep s (.commit index newId newMemberId passwordHash) = .ok s') :
    ∃ transaction db, s.transactions[index]? = some transaction ∧
      transaction.commit newId newMemberId passwordHash s.db = .ok db ∧
      s' = { s with db := db, transactions := s.transactions.eraseIdx index } := by
  simp only [identityStep, bind_eq_ok, found_eq_ok, pure_eq_ok] at h
  obtain ⟨transaction, hget, db, hcommit, rfl⟩ := h
  exact ⟨transaction, db, hget, hcommit, rfl⟩

/-- Only a commit changes the database. -/
theorem identityStep_db (h : identityStep s a = .ok s')
    (hother : ∀ index newId newMemberId passwordHash,
      a ≠ .commit index newId newMemberId passwordHash) : s'.db = s.db := by
  cases identityStep_move h with
  | authenticated | begun | advanced | abandoned => rfl
  | committed index newId newMemberId passwordHash => exact absurd rfl (hother _ _ _ _)

/-! ### Commits -/

/-- The new user is there, and so are the others. -/
theorem insertUser_ok {user : UserRecord} {message : String}
    (h : insertUser user message db = .ok db') :
    ∃ users, db.users.insert? user = some users ∧ db' = { db with users := users } := by
  simp only [insertUser, bind_eq_ok, ensure_eq_ok, found_eq_ok, pure_eq_ok] at h
  obtain ⟨-, -, users, hinsert, rfl⟩ := h
  exact ⟨users, hinsert, rfl⟩

theorem insertMember_ok {member : ProjectMemberRecord} (h : insertMember member db = .ok db') :
    ∃ projectMembers, db.projectMembers.insert? member = some projectMembers ∧
      db' = { db with projectMembers := projectMembers } := by
  simp only [insertMember, bind_eq_ok, ensure_eq_ok, found_eq_ok, pure_eq_ok] at h
  obtain ⟨-, -, projectMembers, hinsert, rfl⟩ := h
  exact ⟨projectMembers, hinsert, rfl⟩

theorem LoggingIn.commit_ok {loggingIn : LoggingIn} (h : loggingIn.commit db = .ok db') :
    ∃ authSessions, db.authSessions.insert?
        ⟨loggingIn.sessionId, loggingIn.user.id, loggingIn.tokenHash, loggingIn.expiresAt, none⟩ =
          some authSessions ∧
      db' = { db with authSessions := authSessions } := by
  simp only [LoggingIn.commit, bind_eq_ok, found_eq_ok, pure_eq_ok] at h
  obtain ⟨authSessions, hinsert, rfl⟩ := h
  exact ⟨authSessions, hinsert, rfl⟩

/-- What a change of a member writes: nothing, a new member, another role, or a removal. -/
theorem MemberChanging.commit_ok {newMemberId : UUID} {changing : MemberChanging}
    {member : Option ProjectMemberRecord} (h : changing.commit newMemberId db member = .ok db') :
    (∃ role, member = none ∧ insertMember ⟨newMemberId, changing.projectId, changing.userId, role,
      changing.principal.userId⟩ db = .ok db') ∨
    (∃ loaded role, member = some loaded ∧ changing.change = .upsert role ∧
      (role = loaded.role ∧ db' = db ∨ role ≠ loaded.role ∧ db' = { db with
        projectMembers := db.projectMembers.modify loaded.id fun stored =>
          { stored with role := role } })) ∨
    ∃ loaded, member = some loaded ∧ changing.change = .remove ∧
      db' = { db with projectMembers := db.projectMembers.erase loaded.id } := by
  cases member with
  | none =>
    simp only [MemberChanging.commit] at h
    split at h
    · rename_i role _
      exact .inl ⟨role, rfl, h⟩
    · cases h
  | some loaded =>
    simp only [MemberChanging.commit] at h
    split at h
    · rename_i role hchange
      refine .inr (.inl ⟨loaded, role, rfl, hchange, ?_⟩)
      split at h
      · rename_i hsame
        simp only [pure_eq_ok] at h
        exact .inl ⟨hsame, h.symm⟩
      · rename_i hother
        simp only [bind_eq_ok, pure_eq_ok] at h
        obtain ⟨-, -, rfl⟩ := h
        exact .inr ⟨hother, rfl⟩
    · rename_i hchange
      simp only [pure_eq_ok] at h
      exact .inr (.inr ⟨loaded, rfl, hchange, h.symm⟩)

/-- A change of a member leaves the other tables as they are. -/
theorem MemberChanging.commit_frame {newMemberId : UUID} {changing : MemberChanging}
    {member : Option ProjectMemberRecord} (h : changing.commit newMemberId db member = .ok db') :
    db'.users = db.users ∧ db'.authSessions = db.authSessions ∧
      db'.systemSettings = db.systemSettings := by
  rcases MemberChanging.commit_ok h with ⟨role, -, hinsert⟩ |
    ⟨loaded, role, -, -, ⟨-, rfl⟩ | ⟨-, rfl⟩⟩ | ⟨loaded, -, -, rfl⟩
  · obtain ⟨projectMembers, -, rfl⟩ := insertMember_ok hinsert
    exact ⟨rfl, rfl, rfl⟩
  all_goals exact ⟨rfl, rfl, rfl⟩

theorem UserUpdating.commit_users {update : UserUpdating} {user : UserRecord}
    {revocation : Option Revocation} :
    (update.commit user revocation db).users =
      db.users.modify update.userId (update.written user) := by
  cases revocation with
  | none => rfl
  | some revocation => rfl

theorem UserUpdating.commit_frame {update : UserUpdating} {user : UserRecord}
    {revocation : Option Revocation} :
    (update.commit user revocation db).projectMembers = db.projectMembers ∧
      (update.commit user revocation db).systemSettings = db.systemSettings := by
  cases revocation with
  | none => exact ⟨rfl, rfl⟩
  | some revocation => exact ⟨rfl, rfl⟩

/-- A reset changes the password of its user only. -/
theorem PasswordResetting.commit_keeps (reset : PasswordResetting) (user : UserRecord)
    (passwordHash : String) (revocation : Revocation) {stored : UserRecord}
    (hmem : stored ∈ db.users) :
    ∃ stored' ∈ (reset.commit user passwordHash revocation db).users, stored'.id = stored.id ∧
      stored'.systemRole = stored.systemRole ∧ stored'.status = stored.status := by
  refine ⟨_, Table.mem_modify_image hmem, ?_⟩
  split <;> exact ⟨rfl, rfl, rfl⟩

/-- Whether the commit of an update turns its user from active to disabled. -/
def UserUpdating.disables (update : UserUpdating) (db : IdentityDatabase) : Bool :=
  update.progress.reads?.any fun reads => (db.users.get? update.userId).any fun stored =>
    stored.status = .active ∧ (update.written reads.1 stored).status = .disabled

theorem UserUpdating.disables_eq_true {update : UserUpdating} {user : UserRecord}
    {administrators : List UUID} (hreads : update.progress.reads? = some (user, administrators)) :
    update.disables db = true ↔ ∃ stored, db.users.get? update.userId = some stored ∧
      stored.status = .active ∧ (update.written user stored).status = .disabled := by
  rw [UserUpdating.disables, hreads]
  cases hget : db.users.get? update.userId with
  | none => simp
  | some stored => simp

/-- What a commit writes: sessions, users, members, or a project with its first member. -/
inductive Commits (db : IdentityDatabase) : IdentityTransaction → IdentityDatabase → Prop
  | login (loggingIn : LoggingIn) (authSessions : Table AuthSessionRecord.tokenHash) :
      db.authSessions.insert?
        ⟨loggingIn.sessionId, loggingIn.user.id, loggingIn.tokenHash, loggingIn.expiresAt, none⟩ =
          some authSessions →
      Commits db (.login loggingIn) { db with authSessions := authSessions }
  | bootstrap (payload : BootstrapAdminRequest) (user : UserRecord)
      (systemSettings : Table SystemSettingRecord.key) (users : Table UserRecord.id) :
      user.isActiveAdmin = true → db.users.insert? user = some users →
      Commits db (.bootstrapAdmin payload)
        { db with systemSettings := systemSettings, users := users }
  | create (payload : UserCreate) (user : UserRecord) (users : Table UserRecord.id) :
      db.users.insert? user = some users →
      Commits db (.createUser payload) { db with users := users }
  | update (updating : UserUpdating) (user : UserRecord) (administrators : List UUID)
      (revocation : Option Revocation) :
      updating.progress.reads? = some (user, administrators) →
      (∀ taken, revocation = some taken ↔
        updating.progress = .revoked user administrators taken) →
      (revocation = none → updating.nextStatus user ≠ .disabled) →
      Commits db (.updateUser updating) (updating.commit user revocation db)
  | reset (resetting : PasswordResetting) (user : UserRecord) (passwordHash : String)
      (revocation : Revocation) : resetting.progress = .revoked user passwordHash revocation →
      Commits db (.resetPassword resetting) (resetting.commit user passwordHash revocation db)
  | project (payload : ProjectCreate) (actorId : UUID) (project : ProjectRecord)
      (member : ProjectMemberRecord) (projects : Table ProjectRecord.id)
      (projectMembers : Table ProjectMemberRecord.id) :
      db.projectMembers.insert? member = some projectMembers →
      Commits db (.createProject payload actorId)
        { db with projects := projects, projectMembers := projectMembers }
  | member (newMemberId : UUID) (changing : MemberChanging) (loaded : Option ProjectMemberRecord)
      (db' : IdentityDatabase) : changing.progress = .counted loaded →
      changing.commit newMemberId db loaded = .ok db' → Commits db (.changeMember changing) db'

theorem commit_commits {transaction : IdentityTransaction} {newId newMemberId : UUID}
    {passwordHash : String}
    (h : transaction.commit newId newMemberId passwordHash db = .ok db') :
    Commits db transaction db' := by
  cases transaction with
  | login loggingIn =>
    obtain ⟨authSessions, hinsert, rfl⟩ := LoggingIn.commit_ok h
    exact .login loggingIn authSessions hinsert
  | bootstrapAdmin payload =>
    simp only [IdentityTransaction.commit, commitBootstrapAdmin, bind_eq_ok, found_eq_ok] at h
    obtain ⟨settings, -, h⟩ := h
    obtain ⟨users, hinsert, rfl⟩ := insertUser_ok h
    exact .bootstrap payload _ settings users rfl hinsert
  | createUser payload =>
    obtain ⟨users, hinsert, rfl⟩ := insertUser_ok h
    exact .create payload _ users hinsert
  | updateUser updating =>
    simp only [IdentityTransaction.commit] at h
    split at h
    · rename_i user administrators hprogress
      split at h
      · cases h
      · rename_i hstays
        simp only [pure_eq_ok] at h
        subst h
        refine .update updating user administrators none (by rw [hprogress]; rfl) ?_
          fun _ => hstays
        intro taken
        rw [hprogress]
        exact ⟨fun heq => (by cases heq), fun heq => by cases heq⟩
    · rename_i user administrators revocation hprogress
      simp only [pure_eq_ok] at h
      subst h
      refine .update updating user administrators (some revocation) (by rw [hprogress]; rfl) ?_
        fun heq => by cases heq
      intro taken
      rw [hprogress]
      constructor
      · rintro ⟨⟩
        rfl
      · rintro ⟨⟩
        rfl
    · cases h
  | resetPassword resetting =>
    simp only [IdentityTransaction.commit] at h
    split at h
    · rename_i user hash revocation hprogress
      simp only [pure_eq_ok] at h
      subst h
      exact .reset resetting user hash revocation hprogress
    · cases h
  | createProject payload actorId =>
    simp only [IdentityTransaction.commit, commitCreateProject, bind_eq_ok, ensure_eq_ok,
      found_eq_ok] at h
    obtain ⟨-, -, projects, hproject, h⟩ := h
    obtain ⟨projectMembers, hmember, rfl⟩ := insertMember_ok h
    exact .project payload actorId ⟨newId, payload.key, payload.name, 20, 500, 3600, "ACTIVE"⟩ _
      projects projectMembers hmember
  | changeMember changing =>
    simp only [IdentityTransaction.commit] at h
    split at h
    · rename_i loaded hprogress
      exact .member newMemberId changing loaded db' hprogress h
    · cases h

end TestOps

import TestOps.Invariants.IdentitySteps

/-! Revoked credentials stay out. A reset and a disabling revoke the sessions that have been committed
    when their statement runs, and a login commits its session some time after it has verified the
    password:

      log in    verify  ─────────────────────────────▸  commit the session
      reset               revoke  ──▸  commit

    A session gets past the revocation exactly when it is committed after the statement that revokes
    the sessions of its user. -/

namespace TestOps

open Checked Relational Transition System

variable {db db' : IdentityDatabase} {s s' : IdentityState} {a : IdentityAction}
  {h : List (Event IdentityState IdentityAction)} {tokenHash : String}

/-! ### Logins and revocations of a run -/

/-- The login that a step has verified. -/
def startedLogin? (e : Event IdentityState IdentityAction) : Option LoggingIn :=
  match e.action with
  | .authenticate now sessionId tokenHash username passwordIsValid sessionTtlHours =>
    (authenticate now sessionId tokenHash username passwordIsValid sessionTtlHours
      e.before.db).toOption
  | _ => none

/-- The transaction that an action commits. -/
def IdentityState.committing? (s : IdentityState) : IdentityAction → Option IdentityTransaction
  | .commit index _ _ _ => s.transactions[index]?
  | _ => none

/-- The user whose password a commit resets, or that it disables, and the sessions it revokes. -/
def IdentityTransaction.revokes? (db : IdentityDatabase) :
    IdentityTransaction → Option (UUID × Revocation)
  | .updateUser update =>
    match update.progress with
    | .revoked _ _ revocation =>
      if update.disables db = true then some (update.userId, revocation) else none
    | _ => none
  | .resetPassword reset =>
    match reset.progress with
    | .revoked _ _ revocation => some (reset.userId, revocation)
    | _ => none
  | _ => none

def revoked? (e : Event IdentityState IdentityAction) : Option (UUID × Revocation) :=
  (e.before.committing? e.action).bind (IdentityTransaction.revokes? e.before.db)

/-- A login with the token has read its user before a reset or a disabling of the user has
    committed. -/
def Outdated : List (Event IdentityState IdentityAction) → String → Prop
  | [], _ => False
  | e :: h, tokenHash => Outdated h tokenHash ∨ ∃ revoked ∈ revoked? e, ∃ e' ∈ h,
    ∃ login ∈ startedLogin? e', login.tokenHash = tokenHash ∧ login.user.id = revoked.1

/-- No login commits its session after the revocation of a reset or a disabling that has committed
    since it has read its user, or that is about to commit. -/
def IdentityTransaction.Punctual (h : List (Event IdentityState IdentityAction))
    (db : IdentityDatabase) : IdentityTransaction → Prop
  | .login loggingIn => ¬Outdated h loggingIn.tokenHash
  | transaction => ∀ revoked ∈ transaction.revokes? db, ∀ session ∈ db.authSessions.rows,
    session.userId = revoked.1 → session.revokedAt = none →
      session.tokenHash ∈ revoked.2.tokenHashes

def Punctual : List (Event IdentityState IdentityAction) → Prop
  | [] => True
  | e :: h => (∀ transaction ∈ e.before.committing? e.action, transaction.Punctual h e.before.db) ∧
    Punctual h

/-! ### Sessions after a commit -/

/-- A session that is open after a revocation was open before, and has not been taken. -/
theorem Revocation.mem_apply {revocation : Revocation} {session : AuthSessionRecord}
    (hmem : session ∈ (revocation.apply db).authSessions) :
    ∃ before ∈ db.authSessions, before.tokenHash = session.tokenHash ∧
      before.userId = session.userId ∧ (session.revokedAt = none →
        before.revokedAt = none ∧ before.tokenHash ∉ revocation.tokenHashes) := by
  obtain ⟨before, hbefore, rfl⟩ := Table.mem_modifyWhere.mp hmem
  refine ⟨before, hbefore, ?_⟩
  by_cases htaken : before.tokenHash ∈ revocation.tokenHashes ∧ before.revokedAt = none
  · rw [if_pos (decide_eq_true htaken)]
    exact ⟨rfl, rfl, fun hopen => by cases hopen⟩
  · rw [if_neg (by rwa [decide_eq_true_eq])]
    exact ⟨rfl, rfl, fun hopen => ⟨hopen, fun hin => htaken ⟨hin, hopen⟩⟩⟩

/-- An open session that a revocation has not taken stays. -/
theorem Revocation.apply_keeps {revocation : Revocation} {session : AuthSessionRecord}
    (hmem : session ∈ db.authSessions) (hnot : session.tokenHash ∉ revocation.tokenHashes) :
    session ∈ (revocation.apply db).authSessions := by
  refine Table.mem_modifyWhere.mpr ⟨session, hmem, if_neg ?_⟩
  rw [decide_eq_true_eq]
  exact fun htaken => hnot htaken.1

/-- A session after a commit is the new one of a login, or was there before; it is open only if it
    was, and if no revocation of the commit has taken it. -/
theorem Commits.session {transaction : IdentityTransaction} {session : AuthSessionRecord}
    (hcommit : Commits db transaction db') (hmem : session ∈ db'.authSessions) :
    (∃ login, transaction = .login login ∧ session.tokenHash = login.tokenHash ∧
      session.userId = login.user.id) ∨
    ∃ before ∈ db.authSessions, before.tokenHash = session.tokenHash ∧
      before.userId = session.userId ∧ (session.revokedAt = none → before.revokedAt = none ∧
        ∀ revoked ∈ transaction.revokes? db, before.tokenHash ∉ revoked.2.tokenHashes) := by
  have hsame : session ∈ db.authSessions → transaction.revokes? db = none → ∃ before ∈
      db.authSessions, before.tokenHash = session.tokenHash ∧ before.userId = session.userId ∧
        (session.revokedAt = none → before.revokedAt = none ∧
          ∀ revoked ∈ transaction.revokes? db, before.tokenHash ∉ revoked.2.tokenHashes) := by
    intro hmem hnone
    refine ⟨session, hmem, rfl, rfl, fun hopen => ⟨hopen, fun revoked hrevoked => ?_⟩⟩
    rw [hnone] at hrevoked
    cases hrevoked
  cases hcommit with
  | login loggingIn authSessions hinsert =>
    rcases (Table.mem_insert? hinsert).mp hmem with hold | rfl
    · exact .inr (hsame hold rfl)
    · exact .inl ⟨loggingIn, rfl, rfl, rfl⟩
  | bootstrap | create | project => exact .inr (hsame hmem rfl)
  | member newMemberId changing loaded _ _ hchange =>
    rw [(MemberChanging.commit_frame hchange).2.1] at hmem
    exact .inr (hsame hmem rfl)
  | update updating user administrators revocation hreads hrevoked =>
    cases revocation with
    | none =>
      refine .inr (hsame hmem ?_)
      simp only [IdentityTransaction.revokes?]
      split
      · rename_i revoked hprogress
        rw [hprogress, UpdateProgress.reads?, Option.some_inj] at hreads
        cases hreads
        cases (hrevoked revoked).mpr hprogress
      · rfl
    | some revocation =>
      have hprogress := (hrevoked revocation).mp rfl
      obtain ⟨before, hbefore, htoken, huser, hopen⟩ := Revocation.mem_apply hmem
      refine .inr ⟨before, hbefore, htoken, huser, fun hnone => ⟨(hopen hnone).1, ?_⟩⟩
      simp only [IdentityTransaction.revokes?, hprogress]
      intro revoked hsome
      split at hsome
      · cases hsome
        exact (hopen hnone).2
      · cases hsome
  | reset resetting user hash revocation hprogress =>
    obtain ⟨before, hbefore, htoken, huser, hopen⟩ := Revocation.mem_apply hmem
    refine .inr ⟨before, hbefore, htoken, huser, fun hnone => ⟨(hopen hnone).1, ?_⟩⟩
    simp only [IdentityTransaction.revokes?, hprogress]
    intro revoked hsome
    cases hsome
    exact (hopen hnone).2

/-- What a commit leaves out stays open. -/
theorem Commits.session_stays {transaction : IdentityTransaction} {session : AuthSessionRecord}
    {revoked : UUID × Revocation} (hcommit : Commits db transaction db')
    (hrevoked : transaction.revokes? db = some revoked) (hmem : session ∈ db.authSessions)
    (hnot : session.tokenHash ∉ revoked.2.tokenHashes) : session ∈ db'.authSessions := by
  cases hcommit with
  | login | bootstrap | create | project | member => cases hrevoked
  | update updating user administrators revocation hreads hsome =>
    simp only [IdentityTransaction.revokes?] at hrevoked
    split at hrevoked
    · rename_i user' administrators' revocation' hprogress
      rw [hprogress, UpdateProgress.reads?, Option.some_inj] at hreads
      cases hreads
      cases (hsome revocation').mpr hprogress
      split at hrevoked
      · cases hrevoked
        exact Revocation.apply_keeps hmem hnot
      · cases hrevoked
    · cases hrevoked
  | reset resetting user hash revocation hprogress =>
    simp only [IdentityTransaction.revokes?, hprogress] at hrevoked
    cases hrevoked
    exact Revocation.apply_keeps hmem hnot

/-! ### The invariant -/

/-- Every session, and every login that has not committed, was verified by one login of the run. -/
structure LoginsLogged (h : List (Event IdentityState IdentityAction)) (s : IdentityState) :
    Prop where
  sessions : ∀ session ∈ s.db.authSessions, ∃ e ∈ h, ∃ login ∈ startedLogin? e,
    login.tokenHash = session.tokenHash ∧ login.user.id = session.userId
  logins : ∀ login, .login login ∈ s.transactions → ∃ e ∈ h, login ∈ startedLogin? e
  issued : ∀ e ∈ h, ∀ login ∈ startedLogin? e, login.tokenHash ∈ s.issued
  unique : ∀ e ∈ h, ∀ e' ∈ h, ∀ login ∈ startedLogin? e, ∀ login' ∈ startedLogin? e',
    login.tokenHash = login'.tokenHash → login = login'

theorem authenticate_tokenHash {now : Instant} {sessionId : UUID} {username : String}
    {passwordIsValid : Bool} {sessionTtlHours : Nat} {login : LoggingIn}
    (h : authenticate now sessionId tokenHash username passwordIsValid sessionTtlHours db =
      .ok login) : login.tokenHash = tokenHash := by
  simp only [authenticate, bind_eq_ok, pure_eq_ok] at h
  obtain ⟨user, -, -, -, rfl⟩ := h
  rfl

/-- A step verifies one login, with a fresh token, or none. -/
theorem identityStep_logins (h : identityStep s a = .ok s') :
    (∃ login, startedLogin? ⟨s, a, s'⟩ = some login ∧ login.tokenHash ∉ s.issued ∧
      s' = { s.add (.login login) with issued := login.tokenHash :: s.issued }) ∨
    (startedLogin? ⟨s, a, s'⟩ = none ∧ s'.issued = s.issued ∧
      ∀ login, .login login ∈ s'.transactions → .login login ∈ s.transactions) := by
  have hmoved : (∀ now sessionId tokenHash username passwordIsValid sessionTtlHours,
      a ≠ .authenticate now sessionId tokenHash username passwordIsValid sessionTtlHours) →
      s'.issued = s.issued ∧
        ∀ login, .login login ∈ s'.transactions → .login login ∈ s.transactions := by
    intro hother
    cases identityStep_move h with
    | authenticated => exact absurd rfl (hother _ _ _ _ _ _)
    | begun _ transaction hnone =>
      refine ⟨rfl, fun login hmem => ?_⟩
      rcases List.mem_append.mp hmem with hold | heq
      · exact hold
      · exact absurd (List.mem_singleton.mp heq).symm (hnone login)
    | advanced _ index transaction transaction' _ hadvances =>
      refine ⟨rfl, fun login hmem => ?_⟩
      rcases List.mem_or_eq_of_mem_set hmem with hold | heq
      · exact hold
      · exact absurd heq.symm (hadvances.login login)
    | committed index | abandoned index =>
      exact ⟨rfl, fun login hmem => (List.eraseIdx_sublist _ _).subset hmem⟩
  cases a with
  | authenticate now sessionId tokenHash username passwordIsValid sessionTtlHours =>
    simp only [identityStep, bind_eq_ok, ensure_eq_ok, pure_eq_ok] at h
    obtain ⟨login, hlogin, -, hfresh, rfl⟩ := h
    have htoken := authenticate_tokenHash hlogin
    refine .inl ⟨login, ?_, by rwa [htoken], by rw [htoken]⟩
    simp only [startedLogin?, hlogin]
    rfl
  | _ => exact .inr ⟨rfl, hmoved fun _ _ _ _ _ _ heq => by cases heq⟩

theorem loginsLogged_step (hstep : identityStep s a = .ok s') (hl : LoginsLogged h s) :
    LoginsLogged (⟨s, a, s'⟩ :: h) s' := by
  have hsessions : ∀ session ∈ s'.db.authSessions, ∃ e ∈ h, ∃ login ∈ startedLogin? e,
      login.tokenHash = session.tokenHash ∧ login.user.id = session.userId := by
    intro session hmem
    cases a with
    | commit index newId newMemberId passwordHash =>
      obtain ⟨transaction, db, hget, hcommit, rfl⟩ := commit_ok hstep
      rcases (commit_commits hcommit).session hmem with ⟨login, rfl, htoken, huser⟩ |
        ⟨before, hbefore, htoken, huser, -⟩
      · obtain ⟨e, he, hlogin⟩ := hl.logins login (List.mem_of_getElem? hget)
        exact ⟨e, he, login, hlogin, htoken.symm, huser.symm⟩
      · rw [← htoken, ← huser]
        exact hl.sessions before hbefore
    | _ =>
      rw [identityStep_db hstep fun _ _ _ _ heq => by cases heq] at hmem
      exact hl.sessions session hmem
  have hsessions' : ∀ session ∈ s'.db.authSessions, ∃ e ∈ (⟨s, a, s'⟩ : Event _ _) :: h,
      ∃ login ∈ startedLogin? e,
        login.tokenHash = session.tokenHash ∧ login.user.id = session.userId := by
    intro session hmem
    obtain ⟨e, he, hlogin⟩ := hsessions session hmem
    exact ⟨e, List.mem_cons_of_mem _ he, hlogin⟩
  rcases identityStep_logins hstep with ⟨login, hstarted, hfresh, heq⟩ |
    ⟨hnone, hissued, htransactions⟩
  · refine ⟨hsessions', fun login' hmem => ?_, ?_, ?_⟩
    · rw [heq] at hmem
      rcases List.mem_append.mp hmem with hold | hnew
      · obtain ⟨e, he, hlogin⟩ := hl.logins login' hold
        exact ⟨e, List.mem_cons_of_mem _ he, hlogin⟩
      · cases List.mem_singleton.mp hnew
        exact ⟨_, List.mem_cons_self, hstarted⟩
    · rw [List.forall_mem_cons, hstarted, heq]
      refine ⟨fun login' hsome => ?_, fun e he login' hlogin => ?_⟩
      · cases hsome
        exact List.mem_cons_self
      · exact List.mem_cons_of_mem _ (hl.issued e he login' hlogin)
    · have hother : ∀ e ∈ h, ∀ login' ∈ startedLogin? e, login.tokenHash ≠ login'.tokenHash :=
        fun e he login' hlogin heq => hfresh (heq ▸ hl.issued e he login' hlogin)
      intro e he e' he' login₁ h₁ login₂ h₂ htoken
      rcases List.mem_cons.mp he with rfl | he <;> rcases List.mem_cons.mp he' with rfl | he'
      · exact Option.some.inj (h₁.symm.trans h₂)
      · cases hstarted.symm.trans h₁
        exact absurd htoken (hother e' he' login₂ h₂)
      · cases hstarted.symm.trans h₂
        exact absurd htoken.symm (hother e he login₁ h₁)
      · exact hl.unique e he e' he' login₁ h₁ login₂ h₂ htoken
  · refine ⟨hsessions', fun login hmem => ?_, ?_, ?_⟩
    · obtain ⟨e, he, hlogin⟩ := hl.logins login (htransactions login hmem)
      exact ⟨e, List.mem_cons_of_mem _ he, hlogin⟩
    · rw [List.forall_mem_cons, hnone, hissued]
      exact ⟨fun _ hsome => (by cases hsome), hl.issued⟩
    · intro e he e' he' login₁ h₁ login₂ h₂ htoken
      rcases List.mem_cons.mp he with rfl | he
      · cases hnone.symm.trans h₁
      · rcases List.mem_cons.mp he' with rfl | he'
        · cases hnone.symm.trans h₂
        · exact hl.unique e he e' he' login₁ h₁ login₂ h₂ htoken

theorem loginsLogged_of_history (hh : identity.History h s) : LoginsLogged h s := by
  refine hh.invariant (p := LoginsLogged) ?_ fun h s a s' _ hstep hl => loginsLogged_step hstep hl
  rintro s rfl
  exact ⟨fun _ hmem => absurd hmem List.not_mem_nil, fun _ hmem => absurd hmem List.not_mem_nil,
    fun _ he => absurd he List.not_mem_nil, fun _ he => absurd he List.not_mem_nil⟩

/-- An outdated token has been issued. -/
theorem Outdated.issued (hl : LoginsLogged h s) (hout : Outdated h tokenHash) :
    tokenHash ∈ s.issued := by
  have hstarted : ∀ h', Outdated h' tokenHash → (∀ e ∈ h', e ∈ h) → tokenHash ∈ s.issued := by
    intro h' hout hsub
    induction h' with
    | nil => exact hout.elim
    | cons e h' ih =>
      obtain ⟨he, hsub⟩ := List.forall_mem_cons.mp hsub
      rcases hout with hout | ⟨revoked, -, e', he', login, hlogin, rfl, -⟩
      · exact ih hout hsub
      · exact hl.issued e' (hsub e' he') login hlogin
  exact hstarted h hout fun _ he => he

/-- No session of an outdated token is open. -/
def OutdatedRevoked (h : List (Event IdentityState IdentityAction)) (s : IdentityState) : Prop :=
  ∀ session ∈ s.db.authSessions, Outdated h session.tokenHash → session.revokedAt ≠ none

theorem outdatedRevoked_step (hstep : identityStep s a = .ok s') (hl : LoginsLogged h s)
    (hpunctual : Punctual (⟨s, a, s'⟩ :: h)) (hi : OutdatedRevoked h s) :
    OutdatedRevoked (⟨s, a, s'⟩ :: h) s' := by
  intro session hmem hout hopen
  cases a with
  | commit index newId newMemberId passwordHash =>
    obtain ⟨transaction, db, hget, hcommit, rfl⟩ := commit_ok hstep
    have hguard := hpunctual.1 transaction hget
    rcases (commit_commits hcommit).session hmem with ⟨login, rfl, htoken, -⟩ |
      ⟨before, hbefore, htoken, huser, hbeforeOpen⟩
    · rcases hout with hout | ⟨revoked, hrevoked, -⟩
      · exact hguard (htoken ▸ hout)
      · simp [revoked?, IdentityState.committing?, hget, IdentityTransaction.revokes?] at hrevoked
    · obtain ⟨hunrevoked, hnot⟩ := hbeforeOpen hopen
      rcases hout with hout | ⟨revoked, hrevoked, e, he, login, hlogin, htoken', huser'⟩
      · exact hi before hbefore (htoken ▸ hout) hunrevoked
      · -- the session is one of the user whose sessions are revoked
        have htakes : transaction.revokes? s.db = some revoked := by
          simpa [revoked?, IdentityState.committing?, hget] using hrevoked
        obtain ⟨e', he', login', hlogin', htoken'', huser''⟩ := hl.sessions before hbefore
        have hsame : login = login' := hl.unique e he e' he' login hlogin login' hlogin'
          (htoken'.trans (htoken.symm.trans htoken''.symm))
        subst hsame
        refine hnot revoked htakes ?_
        have htaken : ∀ revoked ∈ transaction.revokes? s.db, ∀ session ∈ s.db.authSessions.rows,
            session.userId = revoked.1 → session.revokedAt = none →
              session.tokenHash ∈ revoked.2.tokenHashes := by
          cases transaction with
          | login => cases htakes
          | _ => exact hguard
        exact htaken revoked htakes before hbefore (huser''.symm.trans huser') hunrevoked
  | _ =>
    rw [identityStep_db hstep fun _ _ _ _ heq => by cases heq] at hmem
    rcases hout with hout | ⟨revoked, hrevoked, -⟩
    · exact hi session hmem hout hopen
    · cases hrevoked

theorem outdatedRevoked_of_history (hh : identity.History h s) (hpunctual : Punctual h) :
    OutdatedRevoked h s := by
  refine hh.invariant (p := fun h s => Punctual h → OutdatedRevoked h s) ?_ ?_ hpunctual
  · rintro s rfl -
    exact fun _ hmem => absurd hmem List.not_mem_nil
  · intro h s a s' hh hstep ih hpunctual
    exact outdatedRevoked_step hstep (loginsLogged_of_history hh) hpunctual (ih hpunctual.2)

/-- A step that is not punctual leaves a session of an outdated token open. -/
theorem punctual_of_outdatedRevoked (hstep : identityStep s a = .ok s') (hl : LoginsLogged h s)
    (hrevoked : OutdatedRevoked (⟨s, a, s'⟩ :: h) s') :
    ∀ transaction ∈ s.committing? a, transaction.Punctual h s.db := by
  intro transaction hcommitting
  cases a with
  | commit index newId newMemberId passwordHash =>
    obtain ⟨transaction', db, hget, hcommit, rfl⟩ := commit_ok hstep
    cases hget.symm.trans hcommitting
    have hcommits := commit_commits hcommit
    have htaken : ∀ revoked ∈ transaction.revokes? s.db, ∀ session ∈ s.db.authSessions.rows,
        session.userId = revoked.1 → session.revokedAt = none →
          session.tokenHash ∈ revoked.2.tokenHashes := by
      intro revoked hsome session hmem huser hopen
      by_contra hnot
      obtain ⟨e, he, login, hlogin, htoken, huser'⟩ := hl.sessions session hmem
      refine hrevoked session (hcommits.session_stays hsome hmem hnot) (.inr ⟨revoked, ?_, e, he,
        login, hlogin, htoken, huser'.trans huser⟩) hopen
      simpa [revoked?, IdentityState.committing?, hget] using hsome
    cases hcommits with
    | login loggingIn authSessions hinsert =>
      exact fun hout => hrevoked _ ((Table.mem_insert? hinsert).mpr (.inr rfl)) (.inl hout) rfl
    | _ => exact htaken
  | _ => cases hcommitting

/-- While logins are punctual, and only then, no session of an outdated token is open in any state
    of a run, and none is ever accepted. -/
theorem revocation_complete (hh : identity.History h s) :
    (Punctual h ↔ ∀ later e earlier, h = later ++ e :: earlier →
      OutdatedRevoked (e :: earlier) e.after) ∧
    (Punctual h → ∀ tokenHash, Outdated h tokenHash → ∀ now principal,
      currentPrincipal now tokenHash s.db ≠ .ok principal) := by
  refine ⟨⟨fun hpunctual => ?_, fun hrevoked => ?_⟩, fun hpunctual tokenHash hout now principal => ?_⟩
  · induction hh with
    | init => exact fun later e earlier heq => absurd heq (by simp)
    | @step s s' a h hh hstep ih =>
      intro later e earlier heq
      cases later with
      | nil =>
        obtain ⟨rfl, rfl⟩ := List.cons.inj heq
        exact outdatedRevoked_of_history (hh.step hstep) hpunctual
      | cons x later =>
        obtain ⟨rfl, rfl⟩ := List.cons.inj heq
        exact ih hpunctual.2 later e earlier rfl
  · induction hh with
    | init => trivial
    | @step s s' a h hh hstep ih =>
      refine ⟨punctual_of_outdatedRevoked hstep (loginsLogged_of_history hh)
        (hrevoked [] _ _ rfl), ih fun later e earlier heq => ?_⟩
      exact hrevoked (⟨s, a, s'⟩ :: later) e earlier (by rw [heq]; rfl)
  · intro haccepted
    simp only [currentPrincipal, bind_eq_ok, found_eq_ok, ensure_eq_ok] at haccepted
    obtain ⟨session, hget, -, -, -, ⟨hopen, -⟩, -⟩ := haccepted
    have htoken := Table.key_of_get? hget
    exact outdatedRevoked_of_history hh hpunctual session (Table.mem_of_get? hget)
      (htoken ▸ hout) hopen

/-! ### A reset during a login -/

instance decidableOutdated (tokenHash : String) :
    ∀ h : List (Event IdentityState IdentityAction), Decidable (Outdated h tokenHash)
  | [] => inferInstanceAs (Decidable False)
  | _ :: h =>
    have := decidableOutdated tokenHash h
    inferInstanceAs (Decidable (_ ∨ _))

instance {transaction : IdentityTransaction} : Decidable (transaction.Punctual h db) := by
  cases transaction <;> unfold IdentityTransaction.Punctual <;> infer_instance

instance decidablePunctual : ∀ h : List (Event IdentityState IdentityAction), Decidable (Punctual h)
  | [] => inferInstanceAs (Decidable True)
  | _ :: h =>
    have := decidablePunctual h
    inferInstanceAs (Decidable (_ ∧ _))

namespace Credentials

/-- Ada sets the system up and creates Bob. -/
def bobs : List IdentityAction :=
  [.beginBootstrap ⟨"ada", "Ada"⟩ (some "token") (some "token"), .commit 0 1 0 "ada's hash",
    .authenticate 0 11 "ada's token" "ada" true 1, .commit 0 0 0 "",
    .beginCreate 1 "ada's token" ⟨"bob", "Bob", .user⟩, .commit 0 2 0 "bob's hash"]

def bobVerifies : IdentityAction := .authenticate 2 12 "bob's token" "bob" true 1

/-- Bob's session is committed before Ada resets his password. -/
def resetAfterLogin : List IdentityAction :=
  bobs ++ [bobVerifies, .commit 0 0 0 "", .beginReset 3 "ada's token" 2 ⟨"new password"⟩,
    .load 0 false, .revoke 0 3 "bob's new hash", .commit 0 0 0 ""]

/-- Bob's session is committed between the revocation and the commit of the reset. -/
def resetDuringLogin : List IdentityAction :=
  bobs ++ [bobVerifies, .beginReset 3 "ada's token" 2 ⟨"new password"⟩, .load 1 false,
    .revoke 1 3 "bob's new hash", .commit 0 0 0 "", .commit 0 0 0 ""]

end Credentials

open Credentials in
/-- The session that Bob has opened with his old password is not accepted. -/
theorem revocation_complete_bob : ∃ h s, identity.History h s ∧ Outdated h "bob's token" ∧
    (s.db.authSessions.get? "bob's token").isSome = true ∧
    ∀ now principal, currentPrincipal now "bob's token" s.db ≠ .ok principal := by
  have hrun : Traces identityStep IdentityState.init resetAfterLogin fun h s =>
      Punctual h ∧ Outdated h "bob's token" ∧
        (s.db.authSessions.get? "bob's token").isSome = true := by
    decide +kernel
  obtain ⟨h, s, hh, hpunctual, hout, hsession⟩ : ∃ h s, identity.History h s ∧ _ :=
    hrun.exists_history rfl
  exact ⟨h, s, hh, hout, hsession, (revocation_complete hh).2 hpunctual _ hout⟩

open Credentials in
/-- A session opened with the old password is accepted after the reset. -/
theorem revocation_missed : ∃ h s, identity.History h s ∧ Outdated h "bob's token" ∧
    (s.db.users.get? 2).map UserRecord.passwordHash = some "bob's new hash" ∧
    ∃ now, (currentPrincipal now "bob's token" s.db).toOption.isSome = true := by
  have hrun : Traces identityStep IdentityState.init resetDuringLogin fun h s =>
      Outdated h "bob's token" ∧
      (s.db.users.get? 2).map UserRecord.passwordHash = some "bob's new hash" ∧
        (currentPrincipal 4 "bob's token" s.db).toOption.isSome = true := by
    decide +kernel
  obtain ⟨h, s, hh, hout, hhash, haccepted⟩ : ∃ h s, identity.History h s ∧ _ :=
    hrun.exists_history rfl
  exact ⟨h, s, hh, hout, hhash, 4, haccepted⟩

end TestOps

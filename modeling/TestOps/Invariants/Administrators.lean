import TestOps.Invariants.IdentitySteps

/-! The system keeps an administrator. An update that demotes or disables an active administrator has
    counted the others, but nothing keeps them from going before it commits:

      count 2  ──────────────▸  commit    one left
        count 2  ──────────────────▸  commit    none left

    As long as what such an update has read still holds when it commits, somebody is left. -/

namespace TestOps

open Checked Relational Transition

variable {db db' : IdentityDatabase} {s s' : IdentityState} {a : IdentityAction}

/-! ### Counting administrators -/

/-- The user is an active administrator. -/
def ActiveAdmin (db : IdentityDatabase) (userId : UUID) : Prop :=
  ∃ user ∈ db.users.rows, user.id = userId ∧ user.isActiveAdmin = true

instance {userId : UUID} : Decidable (ActiveAdmin db userId) :=
  inferInstanceAs (Decidable (∃ user ∈ db.users.rows, user.id = userId ∧ _))

theorem mem_activeAdmins {userId : UUID} : userId ∈ activeAdmins db ↔ ActiveAdmin db userId := by
  simp only [activeAdmins, List.mem_map, List.mem_filter, ActiveAdmin]
  constructor
  · rintro ⟨user, ⟨hmem, hactive⟩, rfl⟩
    exact ⟨user, hmem, rfl, hactive⟩
  · rintro ⟨user, hmem, rfl, hactive⟩
    exact ⟨user, ⟨hmem, hactive⟩, rfl⟩

/-! ### Writing a user -/

/-- The commit takes the active administrator `stored` away. -/
def UserUpdating.Removes (update : UserUpdating) (user stored : UserRecord) : Prop :=
  stored.isActiveAdmin = true ∧ (update.written user stored).isActiveAdmin = false

instance {update : UserUpdating} {user stored : UserRecord} :
    Decidable (update.Removes user stored) :=
  inferInstanceAs (Decidable (_ ∧ _))

/-- Where the role and the status are as they were loaded, the next ones are written. -/
theorem UserUpdating.written_current {update : UserUpdating} {user stored : UserRecord}
    (hrole : stored.systemRole = user.systemRole) (hstatus : stored.status = user.status) :
    (update.written user stored).isActiveAdmin = update.remainsActiveAdmin user := by
  have hnextRole : (update.written user stored).systemRole = update.nextRole user := by
    simp only [UserUpdating.written, writeColumn]
    split <;> simp_all
  have hnextStatus : (update.written user stored).status = update.nextStatus user := by
    simp only [UserUpdating.written, writeColumn]
    split <;> simp_all
  rw [UserRecord.isActiveAdmin, UserUpdating.remainsActiveAdmin, hnextRole, hnextStatus]

/-- A commit leaves the other users as they are. -/
theorem ActiveAdmin.commit_of_ne {update : UserUpdating} {user : UserRecord}
    {revocation : Option Revocation} {userId : UUID} (h : ActiveAdmin db userId)
    (hne : userId ≠ update.userId) : ActiveAdmin (update.commit user revocation db) userId := by
  obtain ⟨other, hmem, rfl, hactive⟩ := h
  refine ⟨other, ?_, rfl, hactive⟩
  rw [UserUpdating.commit_users]
  exact Table.mem_modify_of_ne hmem hne

/-! ### The invariant -/

structure AdministratorState (s : IdentityState) : Prop where
  remains : s.Bootstrapped → ∃ userId, ActiveAdmin s.db userId
  holds : ∀ transaction ∈ s.transactions, transaction.Holds

/-- A commit that takes an active administrator away finds what it has read unchanged: the user as
    it was loaded, and every administrator that was counted. -/
def ReadsHold (s : IdentityState) : IdentityAction → Prop
  | .commit index _ _ _ => ∀ update ∈ s.update? index, ∀ reads ∈ update.progress.reads?,
    ∀ stored ∈ s.db.users.get? update.userId, update.Removes reads.1 stored →
      stored.systemRole = reads.1.systemRole ∧ stored.status = reads.1.status ∧
        ∀ userId ∈ reads.2, ActiveAdmin s.db userId
  | _ => True

theorem update?_eq_some {index : Nat} {update : UserUpdating} :
    s.update? index = some update ↔ s.transactions[index]? = some (.updateUser update) := by
  rw [IdentityState.update?]
  constructor
  · intro h
    split at h
    · rename_i hget
      cases h
      exact hget
    · cases h
  · intro h
    rw [h]

/-- Somebody is left after a commit that takes an administrator away. -/
theorem UserUpdating.commit_remains {update : UserUpdating} {user : UserRecord}
    {administrators : List UUID} {revocation : Option Revocation}
    (hcounted : administrators.Nodup ∧ (user.isActiveAdmin = true →
      update.remainsActiveAdmin user = false → 1 < administrators.length))
    (hreads : ∀ stored ∈ db.users.get? update.userId, update.Removes user stored →
      stored.systemRole = user.systemRole ∧ stored.status = user.status ∧
        ∀ userId ∈ administrators, ActiveAdmin db userId)
    (h : ∃ userId, ActiveAdmin db userId) :
    ∃ userId, ActiveAdmin (update.commit user revocation db) userId := by
  obtain ⟨userId, hactive⟩ := h
  by_cases hother : userId = update.userId
  · subst hother
    obtain ⟨stored, hmem, hid, hadmin⟩ := hactive
    have hget : db.users.get? update.userId = some stored := Table.get?_eq_some.mpr ⟨hmem, hid⟩
    cases hwritten : (update.written user stored).isActiveAdmin with
    | true =>
      refine ⟨update.userId, update.written user stored, ?_, hid, hwritten⟩
      rw [UserUpdating.commit_users]
      exact Table.mem_of_get? (Table.get?_modify_self hget)
    | false =>
      -- the administrators that were counted are still there, and only one of them goes
      obtain ⟨hrole, hstatus, hall⟩ := hreads stored hget ⟨hadmin, hwritten⟩
      obtain ⟨hnodup, hmany⟩ := hcounted
      have hloaded : user.isActiveAdmin = true := by
        rw [UserRecord.isActiveAdmin, ← hrole, ← hstatus]
        exact hadmin
      have hlength := hmany hloaded
        (by rw [← UserUpdating.written_current hrole hstatus, hwritten])
      obtain ⟨other, hmem, hne⟩ : ∃ other ∈ administrators, other ≠ update.userId := by
        by_contra hnone
        push Not at hnone
        have hsubset : administrators ⊆ [update.userId] :=
          fun other hmem => List.mem_singleton.mpr (hnone other hmem)
        have hle := hnodup.length_le_of_subset hsubset
        rw [List.length_singleton] at hle
        omega
      exact ⟨other, (hall other hmem).commit_of_ne hne⟩
  · exact ⟨userId, hactive.commit_of_ne hother⟩

/-! ### Steps -/

theorem administratorState_commit {index : Nat} {newId newMemberId : UUID} {passwordHash : String}
    {transaction : IdentityTransaction}
    (hguard : ReadsHold s (.commit index newId newMemberId passwordHash))
    (hi : AdministratorState s) (hget : s.transactions[index]? = some transaction)
    (hcommit : Commits s.db transaction db)
    (hset : (db.systemSettings.get? bootstrappedKey).isSome = true) :
    ∃ userId, ActiveAdmin db userId := by
  cases hcommit with
  | login loggingIn authSessions hinsert => exact hi.remains hset
  | bootstrap payload user systemSettings users hactive hinsert =>
    exact ⟨user.id, user, (Table.mem_insert? hinsert).mpr (.inr rfl), rfl, hactive⟩
  | create payload user users hinsert =>
    obtain ⟨userId, other, hmem, hactive⟩ := hi.remains hset
    exact ⟨userId, other, (Table.mem_insert? hinsert).mpr (.inl hmem), hactive⟩
  | update updating user administrators revocation hreads =>
    have hstill := hguard updating (update?_eq_some.mpr hget) (user, administrators) hreads
    have hcounted := hi.holds _ (List.mem_of_getElem? hget) updating rfl user administrators hreads
    rw [UserUpdating.commit_frame.2] at hset
    exact UserUpdating.commit_remains hcounted hstill (hi.remains hset)
  | reset resetting user hash revocation =>
    obtain ⟨userId, stored, hmem, hid, hactive⟩ := hi.remains hset
    obtain ⟨stored', hmem', hid', hrole, hstatus⟩ :=
      PasswordResetting.commit_keeps resetting user hash revocation hmem
    refine ⟨userId, stored', hmem', hid'.trans hid, ?_⟩
    rw [UserRecord.isActiveAdmin, hrole, hstatus]
    exact hactive
  | project payload actorId project member projects projectMembers hinsert => exact hi.remains hset
  | member newMemberId changing loaded _ _ hchange =>
    obtain ⟨husers, -, hsettings⟩ := MemberChanging.commit_frame hchange
    rw [hsettings] at hset
    obtain ⟨userId, hactive⟩ := hi.remains hset
    refine ⟨userId, ?_⟩
    rw [ActiveAdmin, husers]
    exact hactive

theorem administratorState_step (hguard : ReadsHold s a) (h : identityStep s a = .ok s')
    (hi : AdministratorState s) : AdministratorState s' := by
  have hleft : ∀ index, ∀ transaction ∈ s.transactions.eraseIdx index, transaction.Holds :=
    fun index transaction hmem => hi.holds transaction ((List.eraseIdx_sublist _ _).subset hmem)
  cases identityStep_move h with
  | authenticated _ _ _ _ _ _ loggingIn =>
    refine ⟨hi.remains, fun transaction hmem => ?_⟩
    rcases List.mem_append.mp hmem with hold | heq
    · exact hi.holds transaction hold
    · rw [List.mem_singleton.mp heq]
      exact fun _ heq => by cases heq
  | begun _ transaction _ hnew =>
    refine ⟨hi.remains, fun transaction' hmem => ?_⟩
    rcases List.mem_append.mp hmem with hold | heq
    · exact hi.holds transaction' hold
    · rw [List.mem_singleton.mp heq]
      exact hnew
  | advanced _ index transaction transaction' hget hadvances =>
    refine ⟨hi.remains, fun other hmem => ?_⟩
    rcases List.mem_or_eq_of_mem_set hmem with hold | heq
    · exact hi.holds other hold
    · rw [heq]
      exact hadvances.holds (hi.holds transaction (List.mem_of_getElem? hget))
  | committed index newId newMemberId passwordHash transaction db hget hcommit =>
    exact ⟨administratorState_commit hguard hi hget (commit_commits hcommit), hleft index⟩
  | abandoned index => exact ⟨hi.remains, hleft index⟩

/-- While the reads of every commit that takes an administrator away still hold, an administrator
    remains. -/
theorem administrator_remains (hs : (identity.restrict ReadsHold).Reachable s)
    (hset : s.Bootstrapped) :
    ∃ user ∈ s.db.users, user.systemRole = .systemAdmin ∧ user.status = .active := by
  have hi : AdministratorState s := by
    refine hs.invariant (p := AdministratorState) ?_ ?_
    · rintro s rfl
      refine ⟨fun hset => ?_, fun _ hmem => absurd hmem List.not_mem_nil⟩
      cases hset
    · intro t a t' hstep hi
      exact administratorState_step hstep.1 hstep.2 hi
  obtain ⟨-, user, hmem, -, hactive⟩ := hi.remains hset
  exact ⟨user, hmem, of_decide_eq_true hactive⟩

/-! ### Two administrators -/

instance (s : IdentityState) (a : IdentityAction) : Decidable (ReadsHold s a) := by
  cases a <;> unfold ReadsHold <;> infer_instance

namespace Installation

def demote : UserUpdate := ⟨none, some .user, none⟩

/-- Ada sets the system up and makes Bob an administrator; both log in. -/
def twoAdmins : List IdentityAction :=
  [.beginBootstrap ⟨"ada", "Ada"⟩ (some "token") (some "token"), .commit 0 1 0 "ada's hash",
    .authenticate 0 11 "ada's token" "ada" true 1, .commit 0 0 0 "",
    .beginCreate 1 "ada's token" ⟨"bob", "Bob", .systemAdmin⟩, .commit 0 2 0 "bob's hash",
    .authenticate 2 12 "bob's token" "bob" true 1, .commit 0 0 0 ""]

/-- Bob is demoted before Ada's demotion is counted. -/
def demoteInTurn : List IdentityAction :=
  twoAdmins ++ [.beginUpdate 3 "ada's token" 2 demote, .load 0 false,
    .beginUpdate 3 "bob's token" 1 demote, .load 1 false, .count 0, .commit 0 0 0 ""]

/-- They demote each other at the same time. -/
def demoteEachOther : List IdentityAction :=
  twoAdmins ++ [.beginUpdate 3 "ada's token" 2 demote, .beginUpdate 3 "bob's token" 1 demote,
    .load 0 false, .load 1 false, .count 0, .count 1, .commit 0 0 0 "", .commit 0 0 0 ""]

end Installation

open Installation in
/-- One at a time, Ada demotes Bob and is the one that remains. -/
theorem administrator_remains_inTurn : ∃ s, (identity.restrict ReadsHold).Reachable s ∧
    s.Bootstrapped ∧ activeAdmins s.db = [1] ∧
    ∃ user ∈ s.db.users, user.systemRole = .systemAdmin ∧ user.status = .active := by
  have hrun : Ends (guarded identityStep ReadsHold .noTransaction) IdentityState.init demoteInTurn
      fun s => s.Bootstrapped ∧ activeAdmins s.db = [1] := by
    decide +kernel
  obtain ⟨s, hs, hset, hcount⟩ := hrun.exists_guarded
  exact ⟨s, hs, hset, hcount, administrator_remains hs hset⟩

open Installation in
/-- Each of the two has counted the other. -/
theorem administrators_demote_each_other : ∃ s, identity.Reachable s ∧ s.Bootstrapped ∧
    ∀ user ∈ s.db.users, ¬(user.systemRole = .systemAdmin ∧ user.status = .active) := by
  have hrun : Ends identityStep IdentityState.init demoteEachOther fun s => s.Bootstrapped ∧
      ∀ user ∈ s.db.users.rows, ¬(user.systemRole = .systemAdmin ∧ user.status = .active) := by
    decide +kernel
  exact hrun.exists_reachable (S := identity) (fun _ _ _ _ hstep => hstep) rfl

end TestOps

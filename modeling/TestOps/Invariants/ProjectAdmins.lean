import TestOps.Invariants.IdentitySteps

/-! A project keeps an administrator. A change of a member counts the administrators of its project,
    whatever the status of their users, and the disabling of a user counts none of them:

      members          ada   PROJECT_ADMIN   ACTIVE  ──▸  removed, 2 were counted
                       bob   PROJECT_ADMIN   DISABLED

    A run keeps an effective administrator in every project that has had one exactly when each commit
    that takes one away leaves another. -/

namespace TestOps

open Checked Relational Transition System

variable {db db' : IdentityDatabase} {s s' : IdentityState} {a : IdentityAction}

/-! ### Effective administrators -/

def ActiveUser (db : IdentityDatabase) (userId : UUID) : Prop :=
  ∃ user ∈ db.users.rows, user.id = userId ∧ user.status = .active

/-- The member is an administrator of its project, and its user is active. -/
def Administers (db : IdentityDatabase) (member : ProjectMemberRecord) : Prop :=
  member.role = .projectAdmin ∧ ActiveUser db member.userId

def EffectiveAdmin (db : IdentityDatabase) (projectId : UUID) : Prop :=
  ∃ member ∈ db.projectMembers.rows, member.projectId = projectId ∧ Administers db member

instance {userId : UUID} : Decidable (ActiveUser db userId) :=
  inferInstanceAs (Decidable (∃ user ∈ db.users.rows, _ ∧ _))

instance {member : ProjectMemberRecord} : Decidable (Administers db member) :=
  inferInstanceAs (Decidable (_ ∧ _))

instance {projectId : UUID} : Decidable (EffectiveAdmin db projectId) :=
  inferInstanceAs (Decidable (∃ member ∈ db.projectMembers.rows, _ ∧ _))

/-! ### What a commit takes -/

/-- Whether the commit of a change removes the member, or gives it a lesser role. -/
def MemberChanging.takes (changing : MemberChanging) (member : ProjectMemberRecord) : Bool :=
  match changing.progress with
  | .counted (some loaded) => member.id = loaded.id ∧ changing.change.demotes = true ∧
      changing.change ≠ .upsert loaded.role
  | _ => false

/-- Whether the commit of a transaction takes an administrator away from the project of the
    member. -/
def IdentityTransaction.takes (db : IdentityDatabase) (member : ProjectMemberRecord) :
    IdentityTransaction → Bool
  | .updateUser update => member.userId = update.userId ∧ update.disables db = true
  | .changeMember changing => changing.takes member
  | _ => false

/-- A commit that takes an effective administrator away leaves another one in the project. -/
def LeavesAdministrator (s : IdentityState) : IdentityAction → Prop
  | .commit index _ _ _ => ∀ transaction ∈ s.transactions[index]?,
    ∀ member ∈ s.db.projectMembers.rows, Administers s.db member →
      transaction.takes s.db member = true →
        ∃ other ∈ s.db.projectMembers.rows, other.projectId = member.projectId ∧
          Administers s.db other ∧ transaction.takes s.db other = false
  | _ => True

instance : Decidable (LeavesAdministrator s a) :=
  match a with
  | .commit index _ _ _ => inferInstanceAs (Decidable (∀ transaction ∈ s.transactions[index]?, _))
  | .authenticate .. | .beginBootstrap .. | .beginCreate .. | .beginUpdate .. | .beginReset ..
  | .beginProject .. | .beginMember .. | .authorize .. | .qualify .. | .load .. | .count ..
  | .revoke .. | .abandon .. => .isTrue trivial

/-- An active user stays active, unless the commit disables it. -/
theorem ActiveUser.commit {transaction : IdentityTransaction} {member : ProjectMemberRecord}
    (hcommit : Commits db transaction db') (h : ActiveUser db member.userId)
    (hkept : transaction.takes db member = false ∨
      ∃ changing, transaction = .changeMember changing) : ActiveUser db' member.userId := by
  obtain ⟨stored, hmem, hid, hactive⟩ := h
  cases hcommit with
  | login | project => exact ⟨stored, hmem, hid, hactive⟩
  | bootstrap _ _ _ _ _ hinsert | create _ _ _ hinsert =>
    exact ⟨stored, (Table.mem_insert? hinsert).mpr (.inl hmem), hid, hactive⟩
  | update updating user administrators revocation hreads =>
    have hnot : ¬(member.userId = updating.userId ∧ updating.disables db = true) := by
      rcases hkept with hkept | ⟨changing, heq⟩
      · exact of_decide_eq_false hkept
      · cases heq
    rw [ActiveUser, UserUpdating.commit_users]
    by_cases hself : stored.id = updating.userId
    · refine ⟨_, Table.mem_modify_image hmem, ?_⟩
      rw [if_pos hself]
      refine ⟨hid, ?_⟩
      cases hstatus : (updating.written user stored).status with
      | active => rfl
      | disabled =>
        have hget : db.users.get? updating.userId = some stored :=
          Table.get?_eq_some.mpr ⟨hmem, hself⟩
        exact absurd ⟨hid.symm.trans hself,
          (UserUpdating.disables_eq_true hreads).mpr ⟨stored, hget, hactive, hstatus⟩⟩ hnot
    · exact ⟨stored, Table.mem_modify_of_ne hmem hself, hid, hactive⟩
  | reset resetting user hash revocation =>
    obtain ⟨stored', hmem', hid', -, hstatus⟩ :=
      PasswordResetting.commit_keeps resetting user hash revocation hmem
    exact ⟨stored', hmem', hid'.trans hid, hstatus.trans hactive⟩
  | member newMemberId changing loaded _ _ hchange =>
    rw [ActiveUser, (MemberChanging.commit_frame hchange).1]
    exact ⟨stored, hmem, hid, hactive⟩

/-- An administrator that the commit does not take stays one. -/
theorem Administers.commit {transaction : IdentityTransaction} {member : ProjectMemberRecord}
    (hcommit : Commits db transaction db') (hmem : member ∈ db.projectMembers.rows)
    (h : Administers db member) (hkept : transaction.takes db member = false) :
    ∃ member' ∈ db'.projectMembers.rows, member'.projectId = member.projectId ∧
      Administers db' member' := by
  obtain ⟨hrole, huser⟩ := h
  have huser' := huser.commit hcommit (.inl hkept)
  cases hcommit with
  | login | bootstrap | create | reset => exact ⟨member, hmem, rfl, hrole, huser'⟩
  | update =>
    refine ⟨member, ?_, rfl, hrole, huser'⟩
    rw [UserUpdating.commit_frame.1]
    exact hmem
  | project _ _ _ _ _ _ hinsert =>
    exact ⟨member, (Table.mem_insert? hinsert).mpr (.inl hmem), rfl, hrole, huser'⟩
  | member newMemberId changing loaded _ hprogress hchange =>
    rcases MemberChanging.commit_ok hchange with ⟨role, -, hinsert⟩ |
      ⟨loaded, role, rfl, hupsert, ⟨-, rfl⟩ | ⟨hother, rfl⟩⟩ | ⟨loaded, rfl, hremove, rfl⟩
    · obtain ⟨projectMembers, hmembers, rfl⟩ := insertMember_ok hinsert
      exact ⟨member, (Table.mem_insert? hmembers).mpr (.inl hmem), rfl, hrole, huser'⟩
    · exact ⟨member, hmem, rfl, hrole, huser'⟩
    · simp only [IdentityTransaction.takes, MemberChanging.takes, hprogress, hupsert,
        MemberChange.demotes, decide_eq_false_iff_not, decide_eq_true_eq] at hkept
      by_cases hself : member.id = loaded.id
      · have hadmin : role = .projectAdmin := by
          by_contra hlesser
          exact hkept ⟨hself, hlesser, fun heq => hother (MemberChange.upsert.inj heq)⟩
        refine ⟨_, Table.mem_modify_image hmem, ?_⟩
        rw [if_pos hself]
        exact ⟨rfl, hadmin, huser'⟩
      · exact ⟨member, Table.mem_modify_of_ne hmem hself, rfl, hrole, huser'⟩
    · simp only [IdentityTransaction.takes, MemberChanging.takes, hprogress, hremove,
        MemberChange.demotes, decide_eq_false_iff_not] at hkept
      have hother : member.id ≠ loaded.id := fun hself => hkept ⟨hself, trivial, by simp⟩
      exact ⟨member, Table.mem_erase.mpr ⟨hmem, hother⟩, rfl, hrole, huser'⟩

/-- A commit that takes an administrator brings none in. -/
theorem Administers.of_commit {transaction : IdentityTransaction}
    {member taken : ProjectMemberRecord} (hcommit : Commits db transaction db')
    (htaken : transaction.takes db taken = true) (hmem : member ∈ db'.projectMembers.rows)
    (h : Administers db' member) :
    member ∈ db.projectMembers.rows ∧ Administers db member ∧
      transaction.takes db member = false := by
  obtain ⟨hrole, user, huser, hid, hactive⟩ := h
  cases hcommit with
  | login | bootstrap | create | reset | project => cases htaken
  | update updating loaded administrators revocation hreads =>
    rw [UserUpdating.commit_frame.1] at hmem
    rw [UserUpdating.commit_users] at huser
    obtain ⟨-, hdisables⟩ := of_decide_eq_true htaken
    obtain ⟨stored, hget, -, hdisabled⟩ := (UserUpdating.disables_eq_true hreads).mp hdisables
    obtain ⟨before, hbefore, rfl⟩ := Table.mem_modify.mp huser
    by_cases hself : before.id = updating.userId
    · rw [if_pos hself] at hactive
      rw [← hself, Table.get?_key hbefore, Option.some_inj] at hget
      rw [hget, hdisabled] at hactive
      cases hactive
    · rw [if_neg hself] at hid hactive
      refine ⟨hmem, ⟨hrole, before, hbefore, hid, hactive⟩, decide_eq_false ?_⟩
      exact fun hown => hself (hid.trans hown.1)
  | member newMemberId changing loaded _ hprogress hchange =>
    rw [(MemberChanging.commit_frame hchange).1] at huser
    rcases MemberChanging.commit_ok hchange with ⟨role, rfl, -⟩ |
      ⟨loaded, role, rfl, hupsert, ⟨hsame, rfl⟩ | ⟨-, rfl⟩⟩ | ⟨loaded, rfl, hremove, rfl⟩
    · simp [IdentityTransaction.takes, MemberChanging.takes, hprogress] at htaken
    · simp [IdentityTransaction.takes, MemberChanging.takes, hprogress, hupsert, hsame] at htaken
    · obtain ⟨before, hbefore, rfl⟩ := Table.mem_modify.mp hmem
      simp only [IdentityTransaction.takes, MemberChanging.takes, hprogress, hupsert,
        MemberChange.demotes, decide_eq_true_eq] at htaken
      by_cases hself : before.id = loaded.id
      · rw [if_pos hself] at hrole
        exact absurd hrole htaken.2.1
      · rw [if_neg hself] at hrole hid ⊢
        refine ⟨hbefore, ⟨hrole, user, huser, hid, hactive⟩, ?_⟩
        simp [IdentityTransaction.takes, MemberChanging.takes, hprogress, hself]
    · obtain ⟨hbefore, hother⟩ := Table.mem_erase.mp hmem
      refine ⟨hbefore, ⟨hrole, user, huser, hid, hactive⟩, ?_⟩
      simp [IdentityTransaction.takes, MemberChanging.takes, hprogress, hother]

/-! ### Runs -/

/-- A step keeps the administrators of every project exactly when it leaves one where it takes
    one. -/
theorem leavesAdministrator_iff (h : identityStep s a = .ok s') :
    LeavesAdministrator s a ↔
      ∀ projectId, EffectiveAdmin s.db projectId → EffectiveAdmin s'.db projectId := by
  cases a with
  | commit index newId newMemberId passwordHash =>
    obtain ⟨transaction, db, hget, hcommit, rfl⟩ := commit_ok h
    have hcommits := commit_commits hcommit
    simp only [LeavesAdministrator, hget, Option.mem_some_iff, forall_eq']
    constructor
    · rintro hguard projectId ⟨member, hmem, rfl, hadmin⟩
      cases htakes : transaction.takes s.db member with
      | false => exact hadmin.commit hcommits hmem htakes
      | true =>
        obtain ⟨other, hother, hproject, hadmin', hleft⟩ := hguard member hmem hadmin htakes
        rw [← hproject]
        exact hadmin'.commit hcommits hother hleft
    · intro hkeeps member hmem hadmin htakes
      obtain ⟨other, hother, hproject, hadmin'⟩ := hkeeps _ ⟨member, hmem, rfl, hadmin⟩
      obtain ⟨hbefore, hadmin'', hleft⟩ := hadmin'.of_commit hcommits htakes hother
      exact ⟨other, hbefore, hproject, hadmin'', hleft⟩
  | _ =>
    rw [identityStep_db h fun _ _ _ _ heq => by cases heq]
    exact ⟨fun _ _ hadmin => hadmin, fun _ => trivial⟩

namespace Projects

/-- Ada sets the system up, creates a project, and makes Bob its second administrator. -/
def shared : List IdentityAction :=
  [.beginBootstrap ⟨"ada", "Ada"⟩ (some "token") (some "token"), .commit 0 1 0 "ada's hash",
    .authenticate 0 11 "ada's token" "ada" true 1, .commit 0 0 0 "",
    .beginCreate 1 "ada's token" ⟨"bob", "Bob", .user⟩, .commit 0 2 0 "bob's hash",
    .beginProject 1 "ada's token" ⟨"shop", "Shop"⟩, .commit 0 7 71 "",
    .beginMember 1 "ada's token" 7 2 (.upsert .projectAdmin), .authorize 0, .qualify 0 false,
    .load 0 false, .count 0, .commit 0 0 72 ""]

/-- Ada leaves the project to Bob. -/
def removeAda : List IdentityAction :=
  [.beginMember 2 "ada's token" 7 1 .remove, .authorize 0, .qualify 0 false, .load 0 false,
    .count 0, .commit 0 0 0 ""]

/-- Ada disables Bob. -/
def disableBob : List IdentityAction :=
  [.beginUpdate 2 "ada's token" 2 ⟨none, none, some .disabled⟩, .load 0 false, .count 0,
    .revoke 0 2 "", .commit 0 0 0 ""]

end Projects

end TestOps

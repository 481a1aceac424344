import TestOps.ControlPlane.RunEmailDispatch
import TestOps.ControlPlane.System

/-! Opting out of emails. An update cancels the deliveries that its statement can see, and the
    transaction that ends a run commits its deliveries some time after it has read the preference:

      end a run   read the preference  ─────────────────────────▸  commit the deliveries
      opt out               see what is pending  ──▸  commit

    A withdrawn address is written to exactly when a delivery to it is committed after the statement
    that cancels the deliveries of its user. -/

namespace TestOps

open Checked Relational Transition System

variable {P : Primitives} {db db' : Database} {s s' : EmailState} {a : EmailAction}
  {work work' : EmailWork} {update : PreferenceUpdate} {delivery : RunEmailDeliveryRecord}
  {h : List (Event EmailState EmailAction)} {e : Event EmailState EmailAction}
  {userId : UUID} {recipient : String} {key : DeliveryKey}

/-! ### What a step does -/

/-- The transactions that an action may begin. -/
inductive Begins (P : Primitives) (s : EmailState) : EmailAction → UUID → EmailWork → Prop
  | ending (id : UUID) (now : Instant) (run : TestRunRecord) :
    Begins P s (.endRun id now run) id (.ending (runResultDeliveries P now s.db run))
  | updating (id userId : UUID) (payload : RunEmailPreferenceUpdate) (smtpConfigured : Bool) :
    Begins P s (.beginUpdate id userId payload smtpConfigured) id
      (.updating ⟨userId, payload, s.db.emailPreferences.get? userId⟩)
  | dispatching (id : UUID) (moment : Instant) (limit maxAttempts : Nat) (keys : List DeliveryKey)
    (deliveries : List RunEmailDeliveryRecord) :
    (∀ delivery ∈ deliveries, delivery ∈ s.db.emailDeliveries ∧ delivery.status = .pending ∧
      delivery.dedupeKey ∈ keys ∧ s.isLocked delivery.dedupeKey = false) →
    Begins P s (.select id moment limit maxAttempts keys) id
      (.dispatching moment maxAttempts deliveries [])

/-- The statements that an open transaction may take. -/
inductive Resumes (P : Primitives) (s : EmailState) :
    EmailAction → UUID → EmailWork → EmailWork → Prop
  | cancel (id : UUID) (update : PreferenceUpdate) :
    Resumes P s (.cancelPending id) id (.updating update)
      (.canceling update (pendingKeys update.userId s.db) [])
  | take (id : UUID) (update : PreferenceUpdate) (key : DeliveryKey)
    (waiting taken : List DeliveryKey) :
    s.isLocked key = false →
    Resumes P s (.takeNext id) id (.canceling update (key :: waiting) taken)
      (.canceling update waiting
        (if key ∈ pendingKeys update.userId s.db then taken ++ [key] else taken))
  | send (id : UUID) (outcome : SendOutcome) (moment : Instant) (maxAttempts : Nat)
    (delivery : RunEmailDeliveryRecord) (unsent attempted : List RunEmailDeliveryRecord) :
    Resumes P s (.send id outcome) id
      (.dispatching moment maxAttempts (delivery :: unsent) attempted)
      (.dispatching moment maxAttempts unsent
        (attempted ++ [delivery.attempted maxAttempts moment outcome]))

/-- The transactions that may commit, and the database afterwards. -/
inductive EmailWork.Commits (db : Database) : EmailWork → Database → Prop
  | ending (deliveries : List RunEmailDeliveryRecord) (emailDeliveries : DeliveryTable) :
    db.emailDeliveries.insertAll? deliveries = some emailDeliveries →
    Commits db (.ending deliveries) { db with emailDeliveries := emailDeliveries }
  | updating (update : PreferenceUpdate)
    (emailPreferences : Table RunEmailPreferenceRecord.userId) :
    update.stored db.emailPreferences = some emailPreferences →
    Commits db (.updating update) { db with emailPreferences := emailPreferences }
  | canceling (update : PreferenceUpdate) (taken : List DeliveryKey)
    (emailPreferences : Table RunEmailPreferenceRecord.userId) :
    update.stored db.emailPreferences = some emailPreferences →
    Commits db (.canceling update [] taken)
      (cancelTaken taken { db with emailPreferences := emailPreferences })
  | dispatching (moment : Instant) (maxAttempts : Nat)
    (attempted : List RunEmailDeliveryRecord) :
    Commits db (.dispatching moment maxAttempts [] attempted) (attempted.foldl writeAttempted db)

/-- A transaction begins, goes on, commits or is given up. -/
inductive EmailMove (P : Primitives) (s : EmailState) : EmailAction → EmailState → Prop
  | begins {a : EmailAction} {id : UUID} {work : EmailWork}
    {transactions : Table EmailTransaction.id} :
    Begins P s a id work → s.transactions.insert? ⟨id, work⟩ = some transactions →
    EmailMove P s a ⟨s.db, transactions⟩
  | resumes {a : EmailAction} {id : UUID} {work work' : EmailWork} :
    s.transactions.get? id = some ⟨id, work⟩ → Resumes P s a id work work' →
    EmailMove P s a (s.resume id work')
  | commits {id : UUID} {work : EmailWork} {db : Database} :
    s.transactions.get? id = some ⟨id, work⟩ → work.Commits s.db db →
    EmailMove P s (.commit id) ⟨db, s.transactions.erase id⟩
  | abandons {id : UUID} {work : EmailWork} :
    s.transactions.get? id = some ⟨id, work⟩ →
    EmailMove P s (.abandon id) ⟨s.db, s.transactions.erase id⟩

theorem begin_eq_ok {id : UUID} :
    s.begin id work = .ok s' ↔
      ∃ transactions, s.transactions.insert? ⟨id, work⟩ = some transactions ∧
        s' = ⟨s.db, transactions⟩ := by
  simp only [EmailState.begin, bind_eq_ok, found_eq_ok, pure_eq_ok]
  constructor
  · rintro ⟨transactions, hinsert, rfl⟩
    exact ⟨transactions, hinsert, rfl⟩
  · rintro ⟨transactions, hinsert, rfl⟩
    exact ⟨transactions, hinsert, rfl⟩

theorem work_eq_ok {id : UUID} :
    s.work id = .ok work ↔ s.transactions.get? id = some ⟨id, work⟩ := by
  simp only [EmailState.work, bind_eq_ok, found_eq_ok, pure_eq_ok]
  constructor
  · rintro ⟨transaction, hget, rfl⟩
    have hid := Table.key_of_get? hget
    subst hid
    exact hget
  · exact fun hget => ⟨_, hget, rfl⟩

theorem selectable_eq_some {moment : Instant} (h : s.selectable moment key = some delivery) :
    delivery ∈ s.db.emailDeliveries ∧ delivery.dedupeKey = key ∧ delivery.status = .pending ∧
      s.isLocked key = false := by
  obtain ⟨hget, hfilter⟩ := Option.filter_eq_some_iff.mp h
  simp only [decide_eq_true_eq] at hfilter
  exact ⟨Table.mem_of_get? hget, Table.key_of_get? hget, hfilter.1, hfilter.2.2⟩

theorem selectDeliveries_ok {id : UUID} {moment : Instant} {limit maxAttempts : Nat}
    {keys : List DeliveryKey} (h : selectDeliveries id moment limit maxAttempts keys s = .ok s') :
    EmailMove P s (.select id moment limit maxAttempts keys) s' := by
  simp only [selectDeliveries, bind_eq_ok, ensure_eq_ok] at h
  obtain ⟨-, -, -, -, -, -, deliveries, hselect, hbegin⟩ := h
  obtain ⟨transactions, hinsert, rfl⟩ := begin_eq_ok.mp hbegin
  refine .begins (.dispatching id moment limit maxAttempts keys deliveries ?_) hinsert
  intro delivery hdelivery
  obtain ⟨key, hkey, hfound⟩ := (mem_of_mapM_ok hselect).mp hdelivery
  obtain ⟨hmem, rfl, hpending, hfree⟩ := selectable_eq_some (found_eq_ok.mp hfound)
  exact ⟨hmem, hpending, hkey, hfree⟩

theorem cancelPending_ok {id : UUID} (h : cancelPending P id s work = .ok s') :
    ∃ work', Resumes P s (.cancelPending id) id work work' ∧ s' = s.resume id work' := by
  cases work with
  | updating update =>
    simp only [cancelPending, bind_eq_ok, ensure_eq_ok, pure_eq_ok] at h
    obtain ⟨-, -, rfl⟩ := h
    exact ⟨_, .cancel id update, rfl⟩
  | _ => cases h

theorem takeNext_ok {id : UUID} (h : takeNext id s work = .ok s') :
    ∃ work', Resumes P s (.takeNext id) id work work' ∧ s' = s.resume id work' := by
  cases work with
  | canceling update waiting taken =>
    cases waiting with
    | nil => cases h
    | cons key waiting =>
      simp only [takeNext, bind_eq_ok, ensure_eq_ok, pure_eq_ok] at h
      obtain ⟨-, hfree, rfl⟩ := h
      exact ⟨_, .take id update key waiting taken hfree, rfl⟩
  | _ => cases h

theorem sendNext_ok {id : UUID} {outcome : SendOutcome} (h : sendNext id outcome s work = .ok s') :
    ∃ work', Resumes P s (.send id outcome) id work work' ∧ s' = s.resume id work' := by
  cases work with
  | dispatching moment maxAttempts unsent attempted =>
    cases unsent with
    | nil => cases h
    | cons delivery unsent =>
      simp only [sendNext, pure_eq_ok] at h
      subst h
      exact ⟨_, .send id outcome moment maxAttempts delivery unsent attempted, rfl⟩
  | _ => cases h

theorem write_eq_ok :
    update.write db = .ok db' ↔ ∃ emailPreferences,
      update.stored db.emailPreferences = some emailPreferences ∧
        db' = { db with emailPreferences := emailPreferences } := by
  simp only [PreferenceUpdate.write, bind_eq_ok, found_eq_ok, pure_eq_ok]
  constructor
  · rintro ⟨emailPreferences, hstored, rfl⟩
    exact ⟨emailPreferences, hstored, rfl⟩
  · rintro ⟨emailPreferences, hstored, rfl⟩
    exact ⟨emailPreferences, hstored, rfl⟩

theorem emailCommit_ok (h : work.commit P db = .ok db') : work.Commits db db' := by
  cases work with
  | ending deliveries =>
    simp only [EmailWork.commit, bind_eq_ok, found_eq_ok, pure_eq_ok] at h
    obtain ⟨emailDeliveries, hinsert, rfl⟩ := h
    exact .ending deliveries emailDeliveries hinsert
  | updating update =>
    simp only [EmailWork.commit, bind_eq_ok, ensure_eq_ok, write_eq_ok] at h
    obtain ⟨-, -, emailPreferences, hstored, rfl⟩ := h
    exact .updating update emailPreferences hstored
  | canceling update waiting taken =>
    simp only [EmailWork.commit, bind_eq_ok, ensure_eq_ok, write_eq_ok, pure_eq_ok] at h
    obtain ⟨-, rfl, written, ⟨emailPreferences, hstored, rfl⟩, rfl⟩ := h
    exact .canceling update taken emailPreferences hstored
  | dispatching moment maxAttempts unsent attempted =>
    simp only [EmailWork.commit, bind_eq_ok, ensure_eq_ok, pure_eq_ok] at h
    obtain ⟨-, rfl, rfl⟩ := h
    exact .dispatching moment maxAttempts attempted

theorem emailStep_move (h : emailStep P s a = .ok s') : EmailMove P s a s' := by
  cases a with
  | endRun id now run =>
    obtain ⟨transactions, hinsert, rfl⟩ := begin_eq_ok.mp h
    exact .begins (.ending id now run) hinsert
  | beginUpdate id userId payload smtpConfigured =>
    simp only [emailStep, beginPreferenceUpdate, bind_eq_ok, ensure_eq_ok] at h
    obtain ⟨-, -, -, -, hbegin⟩ := h
    obtain ⟨transactions, hinsert, rfl⟩ := begin_eq_ok.mp hbegin
    exact .begins (.updating id userId payload smtpConfigured) hinsert
  | select id moment limit maxAttempts keys => exact selectDeliveries_ok h
  | cancelPending id =>
    simp only [emailStep, bind_eq_ok, work_eq_ok] at h
    obtain ⟨work, hget, hcancel⟩ := h
    obtain ⟨work', hresumes, rfl⟩ := cancelPending_ok hcancel
    exact .resumes hget hresumes
  | takeNext id =>
    simp only [emailStep, bind_eq_ok, work_eq_ok] at h
    obtain ⟨work, hget, htake⟩ := h
    obtain ⟨work', hresumes, rfl⟩ := takeNext_ok htake
    exact .resumes hget hresumes
  | send id outcome =>
    simp only [emailStep, bind_eq_ok, work_eq_ok] at h
    obtain ⟨work, hget, hsend⟩ := h
    obtain ⟨work', hresumes, rfl⟩ := sendNext_ok hsend
    exact .resumes hget hresumes
  | commit id =>
    simp only [emailStep, bind_eq_ok, work_eq_ok, pure_eq_ok] at h
    obtain ⟨work, hget, db, hcommit, rfl⟩ := h
    exact .commits hget (emailCommit_ok hcommit)
  | abandon id =>
    simp only [emailStep, bind_eq_ok, work_eq_ok, pure_eq_ok] at h
    obtain ⟨work, hget, rfl⟩ := h
    exact .abandons hget

/-! ### What a commit does -/

theorem stored_get? {preferences preferences' : Table RunEmailPreferenceRecord.userId}
    (h : update.stored preferences = some preferences') (userId : UUID) :
    preferences'.get? userId =
      if userId = update.userId then some update.preference else preferences.get? userId := by
  unfold PreferenceUpdate.stored at h
  split at h
  · exact Table.get?_insert? h
  · obtain ⟨stored, hget, rfl⟩ := Option.map_eq_some_iff.mp h
    rw [Table.get?_modify, hget]
    have hkey := Table.key_of_get? hget
    split
    · simp only [Option.map_some, hkey]
      rfl
    · rfl

/-- The update that a transaction is, if it is one. -/
def EmailWork.update? : EmailWork → Option PreferenceUpdate
  | .updating update | .canceling update _ _ => some update
  | _ => none

theorem foldl_writeAttempted_preferences (attempted : List RunEmailDeliveryRecord)
    (db : Database) : (attempted.foldl writeAttempted db).emailPreferences = db.emailPreferences := by
  induction attempted generalizing db with
  | nil => rfl
  | cons delivery attempted ih => exact (ih _).trans rfl

/-- Only updates touch preferences, and each only the one of its user. -/
theorem EmailWork.Commits.preference (h : work.Commits db db') (userId : UUID) :
    db'.emailPreferences.get? userId =
      match work.update? with
      | some update =>
        if userId = update.userId then some update.preference
        else db.emailPreferences.get? userId
      | none => db.emailPreferences.get? userId := by
  cases h with
  | ending deliveries emailDeliveries hinsert => rfl
  | updating update emailPreferences hstored => exact stored_get? hstored userId
  | canceling update taken emailPreferences hstored => exact stored_get? hstored userId
  | dispatching moment maxAttempts attempted =>
    rw [foldl_writeAttempted_preferences]
    rfl

/-- A delivery as it was queued. -/
def RunEmailDeliveryRecord.SameMail (delivery delivery' : RunEmailDeliveryRecord) : Prop :=
  delivery'.dedupeKey = delivery.dedupeKey ∧ delivery'.userId = delivery.userId ∧
    delivery'.recipientEmail = delivery.recipientEmail ∧ delivery'.payload = delivery.payload

/-- Writing attempts back changes the rows of the attempted deliveries only, and no address. -/
theorem mem_foldl_writeAttempted {attempted : List RunEmailDeliveryRecord}
    (hmem : delivery ∈ (attempted.foldl writeAttempted db).emailDeliveries) :
    ∃ before ∈ db.emailDeliveries, before.SameMail delivery ∧
      (before = delivery ∨
        before.dedupeKey ∈ attempted.map RunEmailDeliveryRecord.dedupeKey) := by
  induction attempted generalizing db with
  | nil => exact ⟨delivery, hmem, ⟨rfl, rfl, rfl, rfl⟩, .inl rfl⟩
  | cons written attempted ih =>
    obtain ⟨middle, hmiddle, hsame, hfrom⟩ := ih hmem
    obtain ⟨before, hbefore, rfl⟩ := Table.mem_modify.mp hmiddle
    by_cases hkey : before.dedupeKey = written.dedupeKey
    · rw [if_pos hkey] at hsame
      exact ⟨before, hbefore, hsame, .inr (hkey ▸ List.mem_cons_self)⟩
    · rw [if_neg hkey] at hsame hfrom
      exact ⟨before, hbefore, hsame, hfrom.imp_right (List.mem_cons_of_mem _)⟩

theorem foldl_writeAttempted_keeps {attempted : List RunEmailDeliveryRecord}
    (hmem : delivery ∈ db.emailDeliveries)
    (hnot : delivery.dedupeKey ∉ attempted.map RunEmailDeliveryRecord.dedupeKey) :
    delivery ∈ (attempted.foldl writeAttempted db).emailDeliveries := by
  induction attempted generalizing db with
  | nil => exact hmem
  | cons written attempted ih =>
    rw [List.map_cons, List.mem_cons, not_or] at hnot
    exact ih (Table.mem_modify_of_ne hmem hnot.1) hnot.2

/-- A commit leaves the rows alone that its transaction has not locked. -/
theorem EmailWork.Commits.keeps (h : work.Commits db db') (hmem : delivery ∈ db.emailDeliveries)
    (hnot : delivery.dedupeKey ∉ work.held) : delivery ∈ db'.emailDeliveries := by
  cases h with
  | ending deliveries emailDeliveries hinsert => exact (Table.mem_insertAll? hinsert).mpr (.inl hmem)
  | updating update emailPreferences hstored => exact hmem
  | canceling update taken emailPreferences hstored =>
    refine Table.mem_modifyWhere.mpr ⟨delivery, hmem, if_neg ?_⟩
    rwa [decide_eq_true_eq]
  | dispatching moment maxAttempts attempted => exact foldl_writeAttempted_keeps hmem hnot

theorem EmailWork.Commits.enqueues {deliveries : List RunEmailDeliveryRecord}
    (h : (EmailWork.ending deliveries).Commits db db') (hmem : delivery ∈ deliveries) :
    delivery ∈ db'.emailDeliveries := by
  cases h with
  | ending _ emailDeliveries hinsert => exact (Table.mem_insertAll? hinsert).mpr (.inr hmem)

/-- Where a delivery comes from that is pending after a commit. -/
theorem EmailWork.Commits.comesFrom (h : work.Commits db db')
    (hmem : delivery ∈ db'.emailDeliveries) (hpending : delivery.status = .pending) :
    (∃ deliveries, work = .ending deliveries ∧ delivery ∈ deliveries) ∨
    ∃ before ∈ db.emailDeliveries, before.SameMail delivery ∧
      (before.status = .pending ∨ before.dedupeKey ∈ work.held) ∧
      ∀ update waiting taken, work = .canceling update waiting taken →
        before.dedupeKey ∉ taken := by
  have hsame : ∀ delivery : RunEmailDeliveryRecord, delivery.SameMail delivery :=
    fun _ => ⟨rfl, rfl, rfl, rfl⟩
  cases h with
  | ending deliveries emailDeliveries hinsert =>
    rcases (Table.mem_insertAll? hinsert).mp hmem with hold | hnew
    · exact .inr ⟨delivery, hold, hsame delivery, .inl hpending, fun _ _ _ heq => by cases heq⟩
    · exact .inl ⟨deliveries, rfl, hnew⟩
  | updating update emailPreferences hstored =>
    exact .inr ⟨delivery, hmem, hsame delivery, .inl hpending, fun _ _ _ heq => by cases heq⟩
  | canceling update taken emailPreferences hstored =>
    obtain ⟨before, hbefore, rfl⟩ := Table.mem_modifyWhere.mp hmem
    by_cases htaken : before.dedupeKey ∈ taken
    · rw [if_pos (decide_eq_true htaken)] at hpending
      cases hpending
    · rw [if_neg (by rwa [decide_eq_true_eq])] at hpending ⊢
      refine .inr ⟨before, hbefore, hsame before, .inl hpending, fun _ _ _ heq => ?_⟩
      cases heq
      exact htaken
  | dispatching moment maxAttempts attempted =>
    obtain ⟨before, hbefore, hmail, hfrom⟩ := mem_foldl_writeAttempted hmem
    refine .inr ⟨before, hbefore, hmail, ?_, fun _ _ _ heq => by cases heq⟩
    rcases hfrom with rfl | hheld
    · exact .inl hpending
    · exact .inr hheld

/-! ### Row locks -/

/-- A delivery that is still to be sent. -/
def Awaiting (db : Database) (key : DeliveryKey) : Prop :=
  ∃ delivery ∈ db.emailDeliveries, delivery.dedupeKey = key ∧ delivery.status = .pending

theorem awaiting_of_mem_pendingKeys (h : key ∈ pendingKeys userId db) : Awaiting db key := by
  obtain ⟨delivery, hfilter, rfl⟩ := List.mem_map.mp h
  obtain ⟨hmem, hpending⟩ := List.mem_filter.mp hfilter
  rw [decide_eq_true_eq] at hpending
  exact ⟨delivery, hmem, rfl, hpending.2⟩

theorem isLocked_eq_false :
    s.isLocked key = false ↔ ∀ transaction ∈ s.transactions, key ∉ transaction.work.held := by
  simp [EmailState.isLocked, Table.mem_iff]

/-- Locked rows are pending, and each has one holder. -/
structure LocksHeld (s : EmailState) : Prop where
  awaiting : ∀ transaction ∈ s.transactions, ∀ key ∈ transaction.work.held, Awaiting s.db key
  single : ∀ transaction ∈ s.transactions, ∀ other ∈ s.transactions,
    ∀ key ∈ transaction.work.held, key ∈ other.work.held → transaction = other

/-- What a transaction locks as it begins is pending and free. -/
theorem Begins.held {id : UUID} (h : Begins P s a id work) :
    ∀ key ∈ work.held, Awaiting s.db key ∧ s.isLocked key = false := by
  intro key hkey
  cases h with
  | ending id now run => cases hkey
  | updating id userId payload smtpConfigured => cases hkey
  | dispatching id moment limit maxAttempts keys deliveries hselect =>
    rw [EmailWork.held, List.append_nil] at hkey
    obtain ⟨delivery, hdelivery, rfl⟩ := List.mem_map.mp hkey
    obtain ⟨hmem, hpending, -, hfree⟩ := hselect delivery hdelivery
    exact ⟨⟨delivery, hmem, rfl, hpending⟩, hfree⟩

/-- What a further statement locks is pending and free. -/
theorem Resumes.held {id : UUID} (h : Resumes P s a id work work') :
    ∀ key ∈ work'.held, key ∈ work.held ∨ Awaiting s.db key ∧ s.isLocked key = false := by
  intro key hkey
  cases h with
  | cancel id update => cases hkey
  | take id update next waiting taken hfree =>
    simp only [EmailWork.held] at hkey ⊢
    split at hkey
    · rename_i hpending
      rcases List.mem_append.mp hkey with hkey | hkey
      · exact .inl hkey
      · obtain rfl := List.mem_singleton.mp hkey
        exact .inr ⟨awaiting_of_mem_pendingKeys hpending, hfree⟩
    · exact .inl hkey
  | send id outcome moment maxAttempts delivery unsent attempted =>
    have hkept : (delivery.attempted maxAttempts moment outcome).dedupeKey = delivery.dedupeKey := by
      cases outcome <;> simp only [RunEmailDeliveryRecord.attempted, RunEmailDeliveryRecord.retry] <;>
        split <;> rfl
    left
    simp only [EmailWork.held, List.map_append, List.mem_append, List.map_cons, List.mem_cons,
      List.map_nil, List.not_mem_nil, or_false, hkept] at hkey ⊢
    tauto

theorem locksHeld_step (hmove : EmailMove P s a s') (hi : LocksHeld s) : LocksHeld s' := by
  cases hmove with
  | @begins _ id work transactions hbegins hinsert =>
    have hheld := hbegins.held
    have hmem : ∀ {transaction}, transaction ∈ transactions ↔
        transaction ∈ s.transactions ∨ transaction = ⟨id, work⟩ := Table.mem_insert? hinsert
    constructor
    · intro transaction htransaction key hkey
      rcases hmem.mp htransaction with hold | rfl
      · exact hi.awaiting transaction hold key hkey
      · exact (hheld key hkey).1
    · intro transaction htransaction other hother key hkey hkey'
      rcases hmem.mp htransaction with hold | rfl <;> rcases hmem.mp hother with hold' | rfl
      · exact hi.single transaction hold other hold' key hkey hkey'
      · exact absurd hkey (isLocked_eq_false.mp (hheld key hkey').2 transaction hold)
      · exact absurd hkey' (isLocked_eq_false.mp (hheld key hkey).2 other hold')
      · rfl
  | @resumes _ id work work' hget hresumes =>
    have hbefore : ∀ transaction ∈ (s.resume id work').transactions, ∃ before ∈ s.transactions,
        before.id = transaction.id ∧ ∀ key ∈ transaction.work.held, key ∈ before.work.held ∨
          before.id = id ∧ Awaiting s.db key ∧ s.isLocked key = false := by
      intro transaction htransaction
      obtain ⟨before, hbefore, rfl⟩ := Table.mem_modify.mp htransaction
      refine ⟨before, hbefore, ?_⟩
      by_cases hid : before.id = id
      · rw [if_pos hid]
        have hsame : before = ⟨id, work⟩ :=
          Table.eq_of_key_eq hbefore (Table.mem_of_get? hget) hid
        subst hsame
        exact ⟨rfl, fun key hkey => (hresumes.held key hkey).imp_right fun hnew => ⟨rfl, hnew⟩⟩
      · rw [if_neg hid]
        exact ⟨rfl, fun key hkey => .inl hkey⟩
    constructor
    · intro transaction htransaction key hkey
      obtain ⟨before, hmem, -, hlock⟩ := hbefore transaction htransaction
      rcases hlock key hkey with hold | ⟨-, hawaiting, -⟩
      · exact hi.awaiting before hmem key hold
      · exact hawaiting
    · intro transaction htransaction other hother key hkey hkey'
      obtain ⟨before, hmem, hid, hlock⟩ := hbefore transaction htransaction
      obtain ⟨before', hmem', hid', hlock'⟩ := hbefore other hother
      have hsame : before.id = before'.id := by
        rcases hlock key hkey with hold | ⟨hid, -, hfree⟩ <;>
          rcases hlock' key hkey' with hold' | ⟨hid', -, hfree'⟩
        · rw [hi.single before hmem before' hmem' key hold hold']
        · exact absurd hold (isLocked_eq_false.mp hfree' before hmem)
        · exact absurd hold' (isLocked_eq_false.mp hfree before' hmem')
        · exact hid.trans hid'.symm
      exact Table.eq_of_key_eq htransaction hother (hid.symm.trans (hsame.trans hid'))
  | @commits id work db hget hcommits =>
    constructor
    · intro transaction htransaction key hkey
      obtain ⟨hmem, hne⟩ := Table.mem_erase.mp htransaction
      obtain ⟨delivery, hdelivery, rfl, hpending⟩ := hi.awaiting transaction hmem key hkey
      refine ⟨delivery, hcommits.keeps hdelivery fun hheld => hne ?_, rfl, hpending⟩
      rw [hi.single transaction hmem _ (Table.mem_of_get? hget) _ hkey hheld]
    · intro transaction htransaction other hother
      exact hi.single transaction (Table.mem_erase.mp htransaction).1 other
        (Table.mem_erase.mp hother).1
  | @abandons id work hget =>
    constructor
    · exact fun transaction htransaction =>
        hi.awaiting transaction (Table.mem_erase.mp htransaction).1
    · intro transaction htransaction other hother
      exact hi.single transaction (Table.mem_erase.mp htransaction).1 other
        (Table.mem_erase.mp hother).1

theorem locksHeld (hs : (emails P).Reachable s) : LocksHeld s := by
  refine hs.invariant (p := LocksHeld) ?_ ?_
  · intro s hinit
    constructor
    · intro transaction htransaction
      rw [hinit] at htransaction
      exact absurd htransaction Table.not_mem_empty
    · intro transaction htransaction
      rw [hinit] at htransaction
      exact absurd htransaction Table.not_mem_empty
  · exact fun s a s' hstep hi => locksHeld_step (emailStep_move hstep) hi

/-- A delivery that is no longer pending stays as it is. -/
theorem settled_stays (hs : (emails P).Reachable s) (hstep : emailStep P s a = .ok s')
    (hmem : delivery ∈ s.db.emailDeliveries) (hsettled : delivery.status ≠ .pending) :
    delivery ∈ s'.db.emailDeliveries := by
  cases emailStep_move hstep with
  | begins => exact hmem
  | resumes => exact hmem
  | abandons => exact hmem
  | @commits id work db hget hcommits =>
    refine hcommits.keeps hmem fun hheld => hsettled ?_
    obtain ⟨other, hother, hkey, hpending⟩ :=
      (locksHeld hs).awaiting _ (Table.mem_of_get? hget) _ hheld
    rwa [Table.eq_of_key_eq hmem hother hkey.symm]

/-! ### Opting out -/

/-- Whether emails to an address are wanted under a preference. -/
def RunEmailPreferenceRecord.wants (P : Primitives) (preference : RunEmailPreferenceRecord)
    (recipient : String) : Bool :=
  preference.enabled = true ∧ recipient ∈ selectedPreferenceEmails P (some preference)

/-- The user's preference, as it has been committed, asks for emails to the address. -/
def Wanted (P : Primitives) (db : Database) (userId : UUID) (recipient : String) : Prop :=
  ∃ preference ∈ db.emailPreferences.get? userId, preference.wants P recipient = true

/-- The update that a step commits. -/
def committedUpdate? (e : Event EmailState EmailAction) : Option PreferenceUpdate :=
  match e.action with
  | .commit id => (e.before.transactions.get? id).bind fun transaction => transaction.work.update?
  | _ => none

/-- An update of the user has committed that disables notifications or does not select the
    recipient, and no later one has selected it again. -/
def OptedOut (P : Primitives) (userId : UUID) (recipient : String) :
    List (Event EmailState EmailAction) → Prop :=
  Since
    (fun e => ∀ update ∈ committedUpdate? e, update.userId = userId →
      update.preference.wants P recipient = false)
    fun e _ => ∃ update ∈ committedUpdate? e, update.userId = userId ∧
      update.preference.wants P recipient = false

theorem optedOut_cons_of_update (hupdate : committedUpdate? e = some update)
    (huser : update.userId = userId) :
    OptedOut P userId recipient (e :: h) ↔ update.preference.wants P recipient = false := by
  rw [OptedOut, Since, hupdate]
  constructor
  · rintro (⟨update', hsome, -, hnot⟩ | ⟨hall, -⟩)
    · cases hsome
      exact hnot
    · exact hall update rfl huser
  · exact fun hnot => .inl ⟨update, rfl, huser, hnot⟩

theorem optedOut_cons_of_ne (hother : ∀ update ∈ committedUpdate? e, update.userId ≠ userId) :
    OptedOut P userId recipient (e :: h) ↔ OptedOut P userId recipient h := by
  rw [OptedOut, Since]
  constructor
  · rintro (⟨update, hsome, huser, -⟩ | ⟨-, hout⟩)
    · exact absurd huser (hother update hsome)
    · exact hout
  · exact fun hout => .inr ⟨fun update hsome huser => absurd huser (hother update hsome), hout⟩

/-- A step commits a transaction, or leaves the database as it is. -/
theorem emailStep_db (hstep : emailStep P s a = .ok s') :
    ((∀ id, a ≠ .commit id) ∧ s'.db = s.db ∧ committedUpdate? ⟨s, a, s'⟩ = none) ∨
    ∃ id work, a = .commit id ∧ s.transactions.get? id = some ⟨id, work⟩ ∧
      work.Commits s.db s'.db ∧ committedUpdate? ⟨s, a, s'⟩ = work.update? := by
  cases emailStep_move hstep with
  | begins hbegins hinsert => cases hbegins <;> exact .inl ⟨nofun, rfl, rfl⟩
  | resumes hget hresumes => cases hresumes <;> exact .inl ⟨nofun, rfl, rfl⟩
  | abandons hget => exact .inl ⟨nofun, rfl, rfl⟩
  | @commits id work db hget hcommits =>
    exact .inr ⟨id, work, rfl, hget, hcommits, by simp only [committedUpdate?, hget,
      Option.bind_some]⟩

/-- A step changes what a user wants only if it commits an update of the user. -/
theorem emailStep_wanted (userId : UUID) (hstep : emailStep P s a = .ok s') :
    s'.db.emailPreferences.get? userId =
      match committedUpdate? ⟨s, a, s'⟩ with
      | some update =>
        if userId = update.userId then some update.preference
        else s.db.emailPreferences.get? userId
      | none => s.db.emailPreferences.get? userId := by
  rcases emailStep_db hstep with ⟨-, hdb, hnone⟩ | ⟨id, work, -, -, hcommits, hupdate⟩
  · rw [hdb, hnone]
  · rw [hcommits.preference userId, hupdate]

/-- A step decides anew what a user who opts out or in wants, and leaves the others as they are. -/
theorem emailStep_optedOut (h : List (Event EmailState EmailAction)) (userId : UUID)
    (recipient : String) (hstep : emailStep P s a = .ok s') :
    (OptedOut P userId recipient (⟨s, a, s'⟩ :: h) ↔ ¬Wanted P s'.db userId recipient) ∨
    (OptedOut P userId recipient (⟨s, a, s'⟩ :: h) ↔ OptedOut P userId recipient h) ∧
      (Wanted P s'.db userId recipient ↔ Wanted P s.db userId recipient) := by
  have hpreference := emailStep_wanted userId hstep
  cases hupdate : committedUpdate? ⟨s, a, s'⟩ with
  | none =>
    rw [hupdate] at hpreference
    right
    refine ⟨optedOut_cons_of_ne fun update hsome => ?_, by rw [Wanted, Wanted, hpreference]⟩
    rw [hupdate] at hsome
    cases hsome
  | some update =>
    simp only [hupdate] at hpreference
    split at hpreference
    · rename_i huser
      left
      rw [optedOut_cons_of_update hupdate huser.symm, Wanted, hpreference]
      simp
    · rename_i huser
      right
      refine ⟨optedOut_cons_of_ne fun update' hsome huser' => huser ?_, by
        rw [Wanted, Wanted, hpreference]⟩
      rw [hupdate] at hsome
      cases hsome
      exact huser'.symm

/-- Who has opted out wants no emails. -/
theorem not_wanted_of_optedOut (hh : (emails P).History h s)
    (hout : OptedOut P userId recipient h) : ¬Wanted P s.db userId recipient := by
  refine hh.invariant
    (p := fun h s => OptedOut P userId recipient h → ¬Wanted P s.db userId recipient) ?_ ?_ hout
  · exact fun s hinit hout => hout.elim
  · intro h s a s' hh hstep ih hout
    rcases emailStep_optedOut h userId recipient hstep with
      hiff | ⟨hiff, hwanted⟩
    · exact hiff.mp hout
    · rw [hwanted]
      exact ih (hiff.mp hout)

/-! ### Deliveries on their way -/

def RunEmailDeliveryRecord.isRunResult (delivery : RunEmailDeliveryRecord) : Bool :=
  match delivery.payload with
  | .runResult _ => true
  | .test _ => false

/-- What a run that has ended enqueues is pending, about a run, and wanted. -/
theorem runResultDeliveries_wanted {now : Instant} {run : TestRunRecord}
    (h : delivery ∈ runResultDeliveries P now db run) :
    delivery.status = .pending ∧ delivery.isRunResult = true ∧
      Wanted P db delivery.userId delivery.recipientEmail := by
  unfold runResultDeliveries at h
  split at h
  · cases h
  · obtain ⟨recipient, hrecipient, rfl⟩ := List.mem_map.mp h
    refine ⟨rfl, rfl, ?_⟩
    unfold subscribers at hrecipient
    split at hrecipient
    · cases hrecipient
    · rename_i preference hpreference
      split at hrecipient
      · rename_i henabled
        refine ⟨preference, hpreference, ?_⟩
        rw [RunEmailPreferenceRecord.wants, decide_eq_true_eq]
        exact ⟨henabled.1, hrecipient⟩
      · cases hrecipient

/-- The transactions of the runs that are ending hold pending deliveries about runs, to recipients
    who want them or who have opted out by now. -/
def EndingDeliveries (P : Primitives) (h : List (Event EmailState EmailAction)) (s : EmailState) :
    Prop :=
  ∀ transaction ∈ s.transactions, ∀ deliveries, transaction.work = .ending deliveries →
    ∀ delivery ∈ deliveries, delivery.status = .pending ∧ delivery.isRunResult = true ∧
      (Wanted P s.db delivery.userId delivery.recipientEmail ∨
        OptedOut P delivery.userId delivery.recipientEmail h)

/-- A transaction that is open after a step was open before it, or has just begun, or has taken a
    statement. -/
theorem emailStep_transaction (hmove : EmailMove P s a s') {transaction : EmailTransaction}
    (hmem : transaction ∈ s'.transactions) :
    transaction ∈ s.transactions ∨ Begins P s a transaction.id transaction.work ∨
      ∃ before ∈ s.transactions, before.id = transaction.id ∧
        Resumes P s a transaction.id before.work transaction.work := by
  cases hmove with
  | begins hbegins hinsert =>
    rcases (Table.mem_insert? hinsert).mp hmem with hold | rfl
    · exact .inl hold
    · exact .inr (.inl hbegins)
  | @resumes _ id work work' hget hresumes =>
    obtain ⟨before, hbefore, rfl⟩ := Table.mem_modify.mp hmem
    by_cases hid : before.id = id
    · rw [if_pos hid]
      have hsame : before = ⟨id, work⟩ := Table.eq_of_key_eq hbefore (Table.mem_of_get? hget) hid
      subst hsame
      exact .inr (.inr ⟨_, hbefore, rfl, hresumes⟩)
    · rw [if_neg hid]
      exact .inl hbefore
  | commits hget hcommits => exact .inl (Table.mem_erase.mp hmem).1
  | abandons hget => exact .inl (Table.mem_erase.mp hmem).1

theorem endingDeliveries_of_history (hh : (emails P).History h s) : EndingDeliveries P h s := by
  refine hh.invariant (p := EndingDeliveries P) ?_ ?_
  · intro s hinit transaction htransaction
    rw [hinit] at htransaction
    exact absurd htransaction Table.not_mem_empty
  · intro h s a s' hh hstep ih transaction htransaction deliveries hwork delivery hdelivery
    have hbefore : delivery.status = .pending ∧ delivery.isRunResult = true ∧
        (Wanted P s.db delivery.userId delivery.recipientEmail ∨
          OptedOut P delivery.userId delivery.recipientEmail h) := by
      rcases emailStep_transaction (emailStep_move hstep) htransaction with
        hold | hbegins | ⟨before, -, -, hresumes⟩
      · exact ih transaction hold deliveries hwork delivery hdelivery
      · rw [hwork] at hbegins
        cases hbegins with
        | ending id now run =>
          obtain ⟨hpending, hresult, hwanted⟩ := runResultDeliveries_wanted hdelivery
          exact ⟨hpending, hresult, .inl hwanted⟩
      · rw [hwork] at hresumes
        generalize before.work = work at hresumes
        cases hresumes
    obtain ⟨hpending, hresult, hfate⟩ := hbefore
    refine ⟨hpending, hresult, ?_⟩
    rcases emailStep_optedOut h delivery.userId delivery.recipientEmail hstep with hiff | ⟨hiff, hwanted⟩
    · rw [hiff]
      exact em _
    · rwa [hiff, hwanted]

/-! ### Commits in time -/

/-- The deliveries about runs that a user no longer wants are among the canceled ones. -/
def PreferenceUpdate.CancelsAll (P : Primitives) (taken : List DeliveryKey) (db : Database)
    (update : PreferenceUpdate) : Prop :=
  ∀ delivery ∈ db.emailDeliveries.rows, delivery.userId = update.userId →
    delivery.isRunResult = true → delivery.status = .pending →
      update.preference.wants P delivery.recipientEmail = false → delivery.dedupeKey ∈ taken

/-- The deliveries of a run that ends are still wanted as they are committed, and an update commits
    when its statement has seen every delivery that the user no longer wants. -/
def EmailWork.Timely (P : Primitives) (db : Database) : EmailWork → Prop
  | .ending deliveries =>
    ∀ delivery ∈ deliveries, Wanted P db delivery.userId delivery.recipientEmail
  | .updating update => update.CancelsAll P [] db
  | .canceling update _ taken => update.CancelsAll P taken db
  | .dispatching _ _ _ _ => True

def EmailAction.Timely (P : Primitives) (s : EmailState) : EmailAction → Prop
  | .commit id => ∀ transaction ∈ s.transactions.get? id, transaction.work.Timely P s.db
  | _ => True

/-- No delivery about a run waits to be sent to somebody who has opted out. -/
def NoneAwaits (P : Primitives) (h : List (Event EmailState EmailAction)) (s : EmailState) : Prop :=
  ∀ delivery ∈ s.db.emailDeliveries, delivery.isRunResult = true → delivery.status = .pending →
    ¬OptedOut P delivery.userId delivery.recipientEmail h

/-- Commits of other users' updates, and of no updates, opt nobody in or out. -/
theorem optedOut_commit (hupdate : committedUpdate? e = work.update?)
    (hother : ∀ update, work.update? = some update → update.userId ≠ userId) :
    OptedOut P userId recipient (e :: h) ↔ OptedOut P userId recipient h :=
  optedOut_cons_of_ne fun update hsome => hother update (hupdate.symm.trans hsome)

theorem noneAwaits_step (hh : (emails P).History h s) (hstep : emailStep P s a = .ok s')
    (htimely : a.Timely P s) (hi : NoneAwaits P h s) : NoneAwaits P (⟨s, a, s'⟩ :: h) s' := by
  intro delivery hmem hresult hpending
  rcases emailStep_db hstep with ⟨-, hdb, hnone⟩ | ⟨id, work, rfl, hget, hcommits, hupdate⟩
  · rw [hdb] at hmem
    rw [optedOut_cons_of_ne fun update hsome => by rw [hnone] at hsome; cases hsome]
    exact hi delivery hmem hresult hpending
  · have hguard : work.Timely P s.db := htimely _ hget
    rcases hcommits.comesFrom hmem hpending with
      ⟨deliveries, rfl, hnew⟩ | ⟨before, hbefore, ⟨hkey, huser, haddress, hpayload⟩, hfrom, hleft⟩
    · rw [optedOut_commit hupdate fun update hsome => by cases hsome]
      exact fun hout => not_wanted_of_optedOut hh hout (hguard delivery hnew)
    · have hwaited : before.status = .pending := by
        rcases hfrom with hwaited | hheld
        · exact hwaited
        · obtain ⟨other, hother, hsame, hwaited⟩ :=
            (locksHeld hh.reachable).awaiting _ (Table.mem_of_get? hget) _ hheld
          rwa [Table.eq_of_key_eq hbefore hother hsame.symm]
      have habout : before.isRunResult = true := by
        rwa [RunEmailDeliveryRecord.isRunResult, ← hpayload]
      by_cases hmine : ∃ update, work.update? = some update ∧ update.userId = delivery.userId
      · obtain ⟨update, hsome, huser'⟩ := hmine
        rw [optedOut_cons_of_update (hupdate.trans hsome) huser', haddress]
        intro hunwanted
        have hcancels : ∀ taken, update.CancelsAll P taken s.db → before.dedupeKey ∈ taken :=
          fun taken hall => hall before hbefore (huser.symm.trans huser'.symm) habout hwaited
            hunwanted
        cases work with
        | updating update' =>
          cases hsome
          exact absurd (hcancels [] hguard) List.not_mem_nil
        | canceling update' waiting taken =>
          cases hsome
          exact hleft _ _ _ rfl (hcancels taken hguard)
        | _ => cases hsome
      · rw [optedOut_commit hupdate fun update hsome huser' => hmine ⟨update, hsome, huser'⟩, huser,
          haddress]
        exact hi before hbefore habout hwaited

theorem noneAwaits_of_history (hh : (emails P).History h s)
    (htimely : ∀ e ∈ h, e.action.Timely P e.before) : NoneAwaits P h s := by
  refine hh.invariant (p := fun h s => (∀ e ∈ h, e.action.Timely P e.before) → NoneAwaits P h s)
    ?_ ?_ htimely
  · exact fun s hinit htimely delivery hmem hresult hpending hout => hout.elim
  · intro h s a s' hh hstep ih htimely
    obtain ⟨hlast, htimely⟩ := List.forall_mem_cons.mp htimely
    exact noneAwaits_step hh hstep hlast (ih htimely)

/-- A commit that is not in time leaves a delivery to somebody who has opted out. -/
theorem timely_of_noneAwaits (hh : (emails P).History h s) (hstep : emailStep P s a = .ok s')
    (hi : NoneAwaits P (⟨s, a, s'⟩ :: h) s') : a.Timely P s := by
  rcases emailStep_db hstep with ⟨hnot, -, -⟩ | ⟨id, work, rfl, hget, hcommits, hupdate⟩
  · cases a with
    | commit id => exact absurd rfl (hnot id)
    | _ => trivial
  · intro transaction htransaction
    cases hget.symm.trans htransaction
    have hcancels : ∀ update, work.update? = some update → update.CancelsAll P work.held s.db := by
      intro update hsome delivery hmem huser hresult hpending hunwanted
      by_contra hnot
      refine hi delivery (hcommits.keeps hmem hnot) hresult hpending ?_
      rwa [optedOut_cons_of_update (hupdate.trans hsome) huser.symm]
    cases work with
    | ending deliveries =>
      intro delivery hdelivery
      obtain ⟨hpending, hresult, hfate⟩ := endingDeliveries_of_history hh _
        (Table.mem_of_get? hget) deliveries rfl delivery hdelivery
      refine hfate.resolve_right fun hout => ?_
      refine hi delivery (hcommits.enqueues hdelivery) hresult hpending ?_
      rwa [optedOut_commit hupdate fun update hsome => by cases hsome]
    | updating update => exact hcancels update rfl
    | canceling update waiting taken => exact hcancels update rfl
    | dispatching moment maxAttempts unsent attempted => trivial

/-! ### Sending -/

/-- The batch that a step sends a delivery of. -/
def sending? (e : Event EmailState EmailAction) : Option (UUID × RunEmailDeliveryRecord) :=
  match e.action with
  | .send id _ => (e.before.transactions.get? id).bind fun transaction =>
    match transaction.work with
    | .dispatching _ _ (delivery :: _) _ => some (id, delivery)
    | _ => none
  | _ => none

def EmailAction.Selects (id : UUID) (key : DeliveryKey) : EmailAction → Prop
  | .select id' _ _ _ keys => id' = id ∧ key ∈ keys
  | _ => False

def EmailAction.Ends (id : UUID) : EmailAction → Prop
  | .commit id' | .abandon id' => id' = id
  | _ => False

/-- The open batch has selected the delivery, which was not one about a run to somebody who had
    opted out by then. -/
def SelectedInTime (P : Primitives) (id : UUID) (delivery : RunEmailDeliveryRecord) :
    List (Event EmailState EmailAction) → Prop :=
  Since (fun e => ¬e.action.Ends id) fun e h => e.action.Selects id delivery.dedupeKey ∧
    (delivery.isRunResult = true → ¬OptedOut P delivery.userId delivery.recipientEmail h)

/-- Nothing about a run is sent to anybody who has opted out when the batch selects its rows. -/
def RespectsOptOut (P : Primitives) : List (Event EmailState EmailAction) → Prop
  | [] => True
  | e :: h => (∀ sent ∈ sending? e, SelectedInTime P sent.1 sent.2 h) ∧ RespectsOptOut P h

/-- What the open batches have not sent yet they have selected in time. -/
def BatchesSelected (P : Primitives) (h : List (Event EmailState EmailAction)) (s : EmailState) :
    Prop :=
  ∀ transaction ∈ s.transactions, ∀ moment maxAttempts unsent attempted,
    transaction.work = .dispatching moment maxAttempts unsent attempted →
      ∀ delivery ∈ unsent, SelectedInTime P transaction.id delivery h

/-- A transaction that is open after a step has not been ended by it. -/
theorem emailStep_not_ends (hmove : EmailMove P s a s') {transaction : EmailTransaction}
    (hmem : transaction ∈ s'.transactions) : ¬a.Ends transaction.id := by
  cases hmove with
  | begins hbegins hinsert => cases hbegins <;> exact not_false
  | resumes hget hresumes => cases hresumes <;> exact not_false
  | commits hget hcommits => exact Ne.symm (Table.mem_erase.mp hmem).2
  | abandons hget => exact Ne.symm (Table.mem_erase.mp hmem).2

theorem batchesSelected_step (hstep : emailStep P s a = .ok s') (hnone : NoneAwaits P h s)
    (hi : BatchesSelected P h s) : BatchesSelected P (⟨s, a, s'⟩ :: h) s' := by
  intro transaction htransaction moment maxAttempts unsent attempted hwork delivery hdelivery
  have hmove := emailStep_move hstep
  have hopen : ¬a.Ends transaction.id := emailStep_not_ends hmove htransaction
  rcases emailStep_transaction hmove htransaction with hold | hbegins | ⟨before, hbefore, hid, hres⟩
  · exact .inr ⟨hopen, hi transaction hold _ _ _ _ hwork delivery hdelivery⟩
  · rw [hwork] at hbegins
    cases hbegins with
    | dispatching id moment limit maxAttempts keys deliveries hselect =>
      obtain ⟨hmem, hpending, hkey, -⟩ := hselect delivery hdelivery
      exact .inl ⟨⟨rfl, hkey⟩, fun hresult => hnone delivery hmem hresult hpending⟩
  · rw [hwork, ← hid] at hres
    generalize hbeforeWork : before.work = work at hres
    cases hres with
    | send id outcome moment maxAttempts sent unsent attempted =>
      rw [← hid] at hopen ⊢
      exact .inr ⟨hopen, hi before hbefore _ _ _ _ hbeforeWork delivery
        (List.mem_cons_of_mem _ hdelivery)⟩

theorem batchesSelected_of_history (hh : (emails P).History h s)
    (htimely : ∀ e ∈ h, e.action.Timely P e.before) : BatchesSelected P h s := by
  refine hh.invariant
    (p := fun h s => (∀ e ∈ h, e.action.Timely P e.before) → BatchesSelected P h s) ?_ ?_ htimely
  · intro s hinit htimely transaction htransaction
    rw [hinit] at htransaction
    exact absurd htransaction Table.not_mem_empty
  · intro h s a s' hh hstep ih htimely
    obtain ⟨-, htimely⟩ := List.forall_mem_cons.mp htimely
    exact batchesSelected_step hstep (noneAwaits_of_history hh htimely) (ih htimely)

/-- What is sent is the next delivery of an open batch. -/
theorem sending_ok {sent : UUID × RunEmailDeliveryRecord} (h : sending? e = some sent) :
    ∃ transaction ∈ e.before.transactions, transaction.id = sent.1 ∧
      ∃ moment maxAttempts unsent attempted,
        transaction.work = .dispatching moment maxAttempts (sent.2 :: unsent) attempted := by
  unfold sending? at h
  split at h
  · obtain ⟨transaction, hget, hsome⟩ := Option.bind_eq_some_iff.mp h
    split at hsome
    · rename_i hwork
      cases hsome
      exact ⟨transaction, Table.mem_of_get? hget, Table.key_of_get? hget, _, _, _, _, hwork⟩
    · cases hsome
  · cases h

theorem respectsOptOut_of_history (hh : (emails P).History h s)
    (htimely : ∀ e ∈ h, e.action.Timely P e.before) : RespectsOptOut P h := by
  induction hh with
  | init => trivial
  | @step s s' a h hh hstep ih =>
    obtain ⟨-, htimely⟩ := List.forall_mem_cons.mp htimely
    refine ⟨fun sent hsent => ?_, ih htimely⟩
    obtain ⟨transaction, hmem, hid, moment, maxAttempts, unsent, attempted, hwork⟩ :=
      sending_ok hsent
    rw [← hid]
    exact batchesSelected_of_history hh htimely transaction hmem _ _ _ _ hwork sent.2
      List.mem_cons_self

/-- While commits are in time, and only then, no delivery about a run ever waits for somebody who
    has opted out, and none is sent by a batch that selects its rows afterwards; a delivery that is
    no longer pending never changes. -/
theorem optOut_final (hh : (emails P).History h s) :
    ((∀ e ∈ h, e.action.Timely P e.before) ↔ ∀ later e earlier, h = later ++ e :: earlier →
      NoneAwaits P (e :: earlier) e.after) ∧
    ((∀ e ∈ h, e.action.Timely P e.before) → RespectsOptOut P h) ∧
    ∀ e ∈ h, ∀ delivery ∈ e.before.db.emailDeliveries, delivery.status ≠ .pending →
      delivery ∈ e.after.db.emailDeliveries := by
  refine ⟨⟨fun htimely => ?_, fun hnone => ?_⟩, respectsOptOut_of_history hh, ?_⟩
  · induction hh with
    | init => exact fun later e earlier heq => absurd heq (by simp)
    | @step s s' a h hh hstep ih =>
      intro later e earlier heq
      cases later with
      | nil =>
        obtain ⟨rfl, rfl⟩ := List.cons.inj heq
        exact noneAwaits_of_history (hh.step hstep) htimely
      | cons x later =>
        obtain ⟨rfl, rfl⟩ := List.cons.inj heq
        exact ih (List.forall_mem_cons.mp htimely).2 later e earlier rfl
  · induction hh with
    | init => exact fun e he => absurd he List.not_mem_nil
    | @step s s' a h hh hstep ih =>
      refine List.forall_mem_cons.mpr ⟨timely_of_noneAwaits hh hstep (hnone [] _ _ rfl), ih ?_⟩
      intro later e earlier heq
      exact hnone (⟨s, a, s'⟩ :: later) e earlier (by rw [heq]; rfl)
  · induction hh with
    | init => exact fun e he => absurd he List.not_mem_nil
    | step hh hstep ih =>
      exact List.forall_mem_cons.mpr
        ⟨fun delivery hmem => settled_stays hh.reachable hstep hmem, ih⟩

/-! ### Opting out while a run ends -/

instance : Decidable (OptedOut P userId recipient h) := by
  unfold OptedOut
  infer_instance

instance {id : UUID} : Decidable (a.Ends id) := by
  cases a <;> unfold EmailAction.Ends <;> infer_instance

instance {id : UUID} : Decidable (a.Selects id key) := by
  cases a <;> unfold EmailAction.Selects <;> infer_instance

instance {id : UUID} : Decidable (SelectedInTime P id delivery h) := by
  unfold SelectedInTime
  infer_instance

instance decidableRespectsOptOut : ∀ h, Decidable (RespectsOptOut P h)
  | [] => inferInstanceAs (Decidable True)
  | _ :: h =>
    have := decidableRespectsOptOut h
    inferInstanceAs (Decidable (_ ∧ _))

instance : Decidable (Wanted P db userId recipient) := by
  unfold Wanted
  infer_instance

instance {taken : List DeliveryKey} : Decidable (update.CancelsAll P taken db) := by
  unfold PreferenceUpdate.CancelsAll
  infer_instance

instance : Decidable (work.Timely P db) := by
  cases work <;> unfold EmailWork.Timely <;> infer_instance

instance : Decidable (a.Timely P s) := by
  cases a <;> unfold EmailAction.Timely <;> infer_instance

namespace Installation

/-- The installation with run 20 on its way. -/
def installed : Database :=
  match runActions (step primitives) State.init (setUp ++ [queueRun]) with
  | .ok s => s.db
  | .error _ => .empty

/-- Run 20 passes, in transaction `id`. -/
def endRun20 (id : UUID) : List EmailAction :=
  (installed.runs.get? 20).toList.map fun run => .endRun id 10 { run with status := .passed }

/-- The owner turns notifications off. -/
def turnedOff : RunEmailPreferenceUpdate where
  emails := ["owner@shop.example"]
  selectedEmails := ["owner@shop.example"]
  enabled := false
  statuses := []
  statusesTerminal := by decide
  statusesNodup := by decide
  enabledComplete := by decide

def deliveryKeys : List DeliveryKey :=
  (installed.runs.get? 20).toList.map fun run =>
    resultDeliveryKey primitives run "owner@shop.example"

/-- The owner turns notifications off after the delivery has been committed. -/
def optOutAfterEnd : List EmailAction :=
  endRun20 2 ++ [.commit 2, .beginUpdate 1 100 turnedOff true, .cancelPending 1, .takeNext 1,
    .commit 1]

/-- The owner turns notifications off between the reading of the preference and the commit of the
    delivery. -/
def optOutDuringEnd : List EmailAction :=
  endRun20 2 ++ [.beginUpdate 1 100 turnedOff true, .cancelPending 1, .commit 1, .commit 2,
    .select 3 20 20 5 deliveryKeys, .send 3 .sent]

end Installation

open Installation in
/-- The delivery that the owner has opted out of is canceled, and stays so. -/
theorem optOut_final_canceled : ∃ h s, (emails primitives).History h s ∧
    OptedOut primitives 100 "owner@shop.example" h ∧ s.db.emailDeliveries.rows ≠ [] ∧
    NoneAwaits primitives h s ∧ RespectsOptOut primitives h := by
  have hrun : Traces (emailStep primitives) ⟨installed, .empty⟩ optOutAfterEnd fun h s =>
      (∀ e ∈ h, e.action.Timely primitives e.before) ∧
      OptedOut primitives 100 "owner@shop.example" h ∧ s.db.emailDeliveries.rows ≠ [] := by
    decide +kernel
  obtain ⟨h, s, hh, htimely, hout, hrows⟩ : ∃ h s, (emails primitives).History h s ∧ _ :=
    hrun.exists_history rfl
  exact ⟨h, s, hh, hout, hrows, noneAwaits_of_history hh htimely, (optOut_final hh).2.1 htimely⟩

open Installation in
/-- The owner has opted out when the batch selects the delivery about run 20, and it is sent. -/
theorem optOut_missed : ∃ h s, (emails primitives).History h s ∧
    OptedOut primitives 100 "owner@shop.example" h ∧ ¬RespectsOptOut primitives h := by
  have hrun : Traces (emailStep primitives) ⟨installed, .empty⟩ optOutDuringEnd fun h s =>
      OptedOut primitives 100 "owner@shop.example" h ∧ ¬RespectsOptOut primitives h := by
    decide +kernel
  obtain ⟨h, s, hh, hout, hsent⟩ : ∃ h s, (emails primitives).History h s ∧ _ :=
    hrun.exists_history rfl
  exact ⟨h, s, hh, hout, hsent⟩

end TestOps

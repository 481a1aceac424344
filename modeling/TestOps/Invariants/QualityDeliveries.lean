import TestOps.ControlPlane.QualityWebhooks

/-! Webhook deliveries. A row is queued once, attempted until it is settled, and replayed at most once:

      queued ──▸ PENDING ──▸ .. ──▸ PENDING ──▸ DELIVERED
                     attempts < max        └──▸ FAILED ◂── replayed by at most one later row

    A batch settles its deliveries one by one but commits them together: what keeps the row of one
    delivery from being stored undoes the others. -/

namespace TestOps

open Checked Relational Transition

variable {sha256 : SignalDocument → Digest} {db db' : QualityDatabase} {a : QualityAction}
  {batch : DispatchBatch} {maxAttempts : Nat} {delivery settled : QualityWebhookDeliveryRecord}

/-! ### Queueing -/

/-- A further delivery, and nothing else. -/
theorem insertDelivery_ok {delivery : QualityWebhookDeliveryRecord}
    (h : insertDelivery delivery db = .ok db') :
    db'.projects = db.projects ∧ db'.configs = db.configs ∧ db'.alertStates = db.alertStates ∧
      db'.deliveries.rows = db.deliveries.rows ++ [delivery] ∧
      ∀ other ∈ db.deliveries, other.id ≠ delivery.id ∧
        (delivery.replayOfId = none ∨ other.replayOfId ≠ delivery.replayOfId) := by
  simp only [insertDelivery, bind_eq_ok, ensure_eq_ok, found_eq_ok, pure_eq_ok] at h
  obtain ⟨-, hfree, deliveries, hinsert, rfl⟩ := h
  obtain ⟨hfresh, hrows⟩ := Table.insert?_eq_some.mp hinsert
  exact ⟨rfl, rfl, rfl, hrows, fun other hother => ⟨hfresh other hother, (hfree other hother).2⟩⟩

/-- The columns that no dispatch writes, with the others as they were when the row was queued. -/
def QualityWebhookDeliveryRecord.asQueued (delivery : QualityWebhookDeliveryRecord) :
    QualityWebhookDeliveryRecord :=
  { delivery with
    status := .pending
    attempts := 0
    availableAt := delivery.createdAt
    responseStatus := none
    lastError := none
    deliveredAt := none }

/-! ### One attempt -/

/-- What comes of a retry: another attempt is left, or the row fails. -/
theorem retry_cases (delivery : QualityWebhookDeliveryRecord) (maxAttempts : Nat)
    (moment : Instant) (lastError : String) :
    let retried := delivery.retry maxAttempts moment lastError
    retried.asQueued = delivery.asQueued ∧ retried.attempts = delivery.attempts ∧
      retried.responseStatus = delivery.responseStatus ∧
      (retried.status = .failed ∨
        retried.status = delivery.status ∧ delivery.attempts < maxAttempts) := by
  simp only [QualityWebhookDeliveryRecord.retry]
  split
  · exact ⟨rfl, rfl, rfl, .inl rfl⟩
  · rename_i hleft
    exact ⟨rfl, rfl, rfl, .inr ⟨rfl, by omega⟩⟩

/-- Where the response of a row comes from: the row had it, or the receiver sent it. -/
def ResponseFrom (outcome : SenderOutcome) (delivery settled : QualityWebhookDeliveryRecord) :
    Prop :=
  settled.responseStatus = match outcome with
    | .response status => some status
    | _ => delivery.responseStatus

/-- An attempt is counted, and the row is settled unless another attempt is left. -/
theorem settleAttempt_ok {moment : Instant} {outcome : SenderOutcome}
    (h : delivery.settle maxAttempts moment outcome = some settled) :
    settled.asQueued = delivery.asQueued ∧ settled.attempts = delivery.attempts ∧
      ResponseFrom outcome delivery settled ∧
      (settled.status = .failed ∨ settled.status = .delivered ∨
        settled.status = delivery.status ∧ delivery.attempts < maxAttempts) := by
  cases outcome with
  | response status =>
    simp only [QualityWebhookDeliveryRecord.settle, Option.some_inj] at h
    subst h
    split
    · exact ⟨rfl, rfl, rfl, .inr (.inl rfl)⟩
    · split
      · obtain ⟨hqueued, hattempts, hresponse, hstatus⟩ := retry_cases
          { delivery with responseStatus := some status } maxAttempts moment
          s!"Webhook endpoint returned HTTP {status}"
        exact ⟨hqueued, hattempts, hresponse, hstatus.imp_right .inr⟩
      · exact ⟨rfl, rfl, rfl, .inl rfl⟩
  | permanentError message =>
    cases h
    exact ⟨rfl, rfl, rfl, .inl rfl⟩
  | deliveryError message =>
    cases h
    obtain ⟨hqueued, hattempts, hresponse, hstatus⟩ := retry_cases delivery maxAttempts moment
      (errorText message)
    exact ⟨hqueued, hattempts, hresponse, hstatus.imp_right .inr⟩
  | unexpected exceptionName =>
    cases h
    obtain ⟨hqueued, hattempts, hresponse, hstatus⟩ := retry_cases delivery maxAttempts moment
      s!"Unexpected Webhook sender error ({exceptionName})"
    exact ⟨hqueued, hattempts, hresponse, hstatus.imp_right .inr⟩
  | interrupted => cases h

/-- One attempt at a pending delivery. -/
structure Attempted (maxAttempts : Nat) (delivery settled : QualityWebhookDeliveryRecord) :
    Prop where
  asQueued : settled.asQueued = delivery.asQueued
  attempts : settled.attempts = delivery.attempts + 1
  status : settled.status = .failed ∨ settled.status = .delivered ∨
    settled.status = delivery.status ∧ settled.attempts < maxAttempts

theorem attempt_ok (h : attempt batch db delivery = some settled) :
    Attempted batch.maxAttempts delivery settled := by
  simp only [attempt] at h
  split at h
  · cases h
    exact ⟨rfl, rfl, .inl rfl⟩
  · obtain ⟨hqueued, hattempts, -, hstatus⟩ := settleAttempt_ok h
    exact ⟨hqueued, hattempts, by rwa [hattempts]⟩

/-- The outcome of a delivery, if it is sent, can be written down. -/
def Recordable (batch : DispatchBatch) (db : QualityDatabase)
    (delivery : QualityWebhookDeliveryRecord) : Prop :=
  sendingConfig delivery db ≠ none →
    match batch.outcomes delivery.id with
    | .response status => 100 ≤ status ∧ status ≤ 599
    | .interrupted => False
    | _ => True

instance : Decidable (Recordable batch db delivery) := by
  unfold Recordable
  split <;> infer_instance

/-- The row of a delivery is stored exactly when its outcome can be. -/
theorem recordable_iff (hstored : delivery.isStorable = true) :
    Recordable batch db delivery ↔
      ∃ settled, attempt batch db delivery = some settled ∧ settled.isStorable = true := by
  have hcounted : ∀ settled : QualityWebhookDeliveryRecord,
      settled.responseStatus = delivery.responseStatus → settled.isStorable = true :=
    fun settled heq => by rw [QualityWebhookDeliveryRecord.isStorable, heq]; exact hstored
  rw [Recordable, attempt]
  cases hconfig : sendingConfig delivery db with
  | none => exact ⟨fun _ => ⟨_, rfl, hcounted _ rfl⟩, fun _ hsend => absurd rfl hsend⟩
  | some config =>
    simp only [ne_eq, reduceCtorEq, not_false_eq_true, true_implies]
    cases houtcome : batch.outcomes delivery.id with
    | interrupted => simp [QualityWebhookDeliveryRecord.settle]
    | response status =>
      obtain ⟨settled, hsettled⟩ : ∃ settled, { delivery with attempts := delivery.attempts + 1
          }.settle batch.maxAttempts batch.moment (.response status) = some settled := ⟨_, rfl⟩
      obtain ⟨-, -, hresponse, -⟩ := settleAttempt_ok hsettled
      have hiff : settled.isStorable = true ↔ 100 ≤ status ∧ status ≤ 599 := by
        rw [QualityWebhookDeliveryRecord.isStorable, hresponse]
        simp
      rw [hsettled]
      simp only [Option.some_inj, exists_eq_left', hiff]
    | permanentError message =>
      exact ⟨fun _ => ⟨_, rfl, hcounted _ rfl⟩, fun _ => trivial⟩
    | deliveryError message =>
      obtain ⟨-, -, hresponse, -⟩ := retry_cases
        { delivery with attempts := delivery.attempts + 1 } batch.maxAttempts batch.moment
        (errorText message)
      exact ⟨fun _ => ⟨_, rfl, hcounted _ hresponse⟩, fun _ => trivial⟩
    | unexpected exceptionName =>
      obtain ⟨-, -, hresponse, -⟩ := retry_cases
        { delivery with attempts := delivery.attempts + 1 } batch.maxAttempts batch.moment
        s!"Unexpected Webhook sender error ({exceptionName})"
      exact ⟨fun _ => ⟨_, rfl, hcounted _ hresponse⟩, fun _ => trivial⟩

theorem Attempted.id (h : Attempted maxAttempts delivery settled) : settled.id = delivery.id := by
  have hid : settled.asQueued.id = delivery.asQueued.id := by rw [h.asQueued]
  exact hid

/-! ### One batch -/

/-- The database with the row of a delivery settled. -/
def settleWebhookDelivery (delivery settled : QualityWebhookDeliveryRecord) (db : QualityDatabase) :
    QualityDatabase :=
  { db with
    deliveries := db.deliveries.modify delivery.id fun stored => { settled with id := stored.id } }

theorem dispatchDelivery_ok : dispatchDelivery batch db delivery = .ok db' ↔
    ∃ settled, attempt batch db delivery = some settled ∧ settled.isStorable = true ∧
      db' = settleWebhookDelivery delivery settled db := by
  simp only [dispatchDelivery, bind_eq_ok, found_eq_ok, ensure_eq_ok, pure_eq_ok]
  constructor
  · rintro ⟨settled, hattempt, -, hstorable, rfl⟩
    exact ⟨settled, hattempt, hstorable, rfl⟩
  · rintro ⟨settled, hattempt, hstorable, rfl⟩
    exact ⟨settled, hattempt, (), hstorable, rfl⟩

/-- The row of the delivery is the settled one, and the others stay. -/
theorem get?_settleDelivery {deliveryId : UUID}
    (hstored : db.deliveries.get? delivery.id = some delivery)
    (hid : settled.id = delivery.id) :
    (settleWebhookDelivery delivery settled db).deliveries.get? deliveryId =
      if deliveryId = delivery.id then some settled else db.deliveries.get? deliveryId := by
  simp only [settleWebhookDelivery, Table.get?_modify, hstored, Option.map_some]
  split
  · cases settled
    simp only at hid
    simp only [hid]
  · rfl

/-- The rows, in their order, with the one of the delivery replaced. -/
theorem settleDelivery_rows (hstored : db.deliveries.get? delivery.id = some delivery)
    (hid : settled.id = delivery.id) :
    (settleWebhookDelivery delivery settled db).deliveries.rows =
      db.deliveries.rows.map fun row => if row = delivery then settled else row := by
  have hunfold : (settleWebhookDelivery delivery settled db).deliveries.rows =
      db.deliveries.rows.map fun row =>
        if decide (row.id = delivery.id) then { settled with id := row.id } else row := by
    simp only [settleWebhookDelivery, Table.modify_def]
    exact Table.modifyWhere_rows
  rw [hunfold]
  refine List.map_congr_left fun row hrow => ?_
  by_cases heq : row.id = delivery.id
  · have hrow : row = delivery := Table.eq_of_key_eq (Table.mem_iff.mpr hrow)
      (Table.mem_of_get? hstored) heq
    subst hrow
    rw [if_pos (decide_eq_true rfl), if_pos rfl, ← hid]
  · rw [if_neg (by simpa using heq), if_neg (fun h => heq (congrArg _ h))]

/-- What every attempt at a pending row keeps, a batch keeps. -/
theorem dispatch_invariant {deliveries : List QualityWebhookDeliveryRecord}
    (inv : QualityDatabase → Prop)
    (round : ∀ db delivery settled, inv db → delivery ∈ deliveries →
      db.deliveries.get? delivery.id = some delivery → attempt batch db delivery = some settled →
      settled.isStorable = true → inv (settleWebhookDelivery delivery settled db))
    (hstored : ∀ delivery ∈ deliveries, db.deliveries.get? delivery.id = some delivery)
    (hnodup : (deliveries.map QualityWebhookDeliveryRecord.id).Nodup)
    (h : deliveries.foldlM (dispatchDelivery batch) db = .ok db') (hdb : inv db) : inv db' := by
  induction deliveries generalizing db with
  | nil =>
    simp only [List.foldlM_nil, pure_eq_ok] at h
    exact h ▸ hdb
  | cons delivery deliveries ih =>
    simp only [List.foldlM_cons, bind_eq_ok] at h
    obtain ⟨db₁, hround, hrest⟩ := h
    obtain ⟨settled, hattempt, hstorable, rfl⟩ := dispatchDelivery_ok.mp hround
    rw [List.map_cons, List.nodup_cons] at hnodup
    have hfirst := hstored delivery List.mem_cons_self
    refine ih (fun db delivery settled hinv hmem => round db delivery settled hinv
      (List.mem_cons_of_mem _ hmem)) (fun other hother => ?_) hnodup.2 hrest
      (round db delivery settled hdb List.mem_cons_self hfirst hattempt hstorable)
    rw [get?_settleDelivery hfirst (attempt_ok hattempt).id, if_neg]
    · exact hstored other (List.mem_cons_of_mem _ hother)
    · exact fun heq => hnodup.1 (heq ▸ List.mem_map_of_mem hother)

theorem attempt_congr (h : db'.configs = db.configs) :
    attempt batch db' delivery = attempt batch db delivery := by
  simp only [attempt, sendingConfig, h]

/-- A batch that succeeds has stored the outcome of each of its deliveries. -/
theorem dispatch_settles {deliveries : List QualityWebhookDeliveryRecord}
    (hstored : ∀ delivery ∈ deliveries, db.deliveries.get? delivery.id = some delivery)
    (hnodup : (deliveries.map QualityWebhookDeliveryRecord.id).Nodup)
    (h : deliveries.foldlM (dispatchDelivery batch) db = .ok db') :
    ∀ delivery ∈ deliveries, ∃ settled, attempt batch db delivery = some settled ∧
      settled.isStorable = true ∧ db'.deliveries.get? delivery.id = some settled := by
  induction deliveries generalizing db with
  | nil => exact fun _ hmem => absurd hmem List.not_mem_nil
  | cons delivery deliveries ih =>
    simp only [List.foldlM_cons, bind_eq_ok] at h
    obtain ⟨db₁, hround, hrest⟩ := h
    obtain ⟨settled, hattempt, hstorable, rfl⟩ := dispatchDelivery_ok.mp hround
    rw [List.map_cons, List.nodup_cons] at hnodup
    have hfirst := hstored delivery List.mem_cons_self
    have hget : ∀ deliveryId,
        (settleWebhookDelivery delivery settled db).deliveries.get? deliveryId =
        if deliveryId = delivery.id then some settled else db.deliveries.get? deliveryId :=
      fun deliveryId => get?_settleDelivery hfirst (attempt_ok hattempt).id
    have hne : ∀ other ∈ deliveries, other.id ≠ delivery.id :=
      fun other hother heq => hnodup.1 (heq ▸ List.mem_map_of_mem hother)
    have hrows : ∀ other ∈ deliveries,
        (settleWebhookDelivery delivery settled db).deliveries.get? other.id = some other :=
      fun other hother => by
        rw [hget, if_neg (hne other hother)]
        exact hstored other (List.mem_cons_of_mem _ hother)
    have hlater := ih hrows hnodup.2 hrest
    refine List.forall_mem_cons.mpr ⟨⟨settled, hattempt, hstorable, ?_⟩, fun other hother => ?_⟩
    · -- no later attempt touches the row
      refine dispatch_invariant (fun db => db.deliveries.get? delivery.id = some settled) ?_ hrows
        hnodup.2 hrest (by rw [hget, if_pos rfl])
      intro db₂ other settled' hkept hother hget₂ hattempt₂ _
      rw [get?_settleDelivery hget₂ (attempt_ok hattempt₂).id,
        if_neg (Ne.symm (hne other hother))]
      exact hkept
    · obtain ⟨settled', hattempt', hrest'⟩ := hlater other hother
      exact ⟨settled', hattempt', hrest'⟩

/-- A batch succeeds when each of its outcomes can be stored. -/
theorem dispatch_succeeds {deliveries : List QualityWebhookDeliveryRecord}
    (hall : ∀ delivery ∈ deliveries, ∃ settled, attempt batch db delivery = some settled ∧
      settled.isStorable = true) :
    ∃ db', deliveries.foldlM (dispatchDelivery batch) db = .ok db' := by
  induction deliveries generalizing db with
  | nil => exact ⟨db, rfl⟩
  | cons delivery deliveries ih =>
    obtain ⟨⟨settled, hattempt, hstorable⟩, hrest⟩ := List.forall_mem_cons.mp hall
    obtain ⟨db', hrun⟩ := @ih (settleWebhookDelivery delivery settled db) hrest
    refine ⟨db', ?_⟩
    rw [List.foldlM_cons, dispatchDelivery_ok.mpr ⟨settled, hattempt, hstorable, rfl⟩]
    exact hrun

/-- The deliveries of a batch are stored pending rows, each selected once. -/
theorem mem_selectedDeliveries (h : delivery ∈ selectedDeliveries batch db) :
    db.deliveries.get? delivery.id = some delivery ∧ delivery.status = .pending := by
  have hmem := List.mem_of_mem_take h
  rw [List.mem_insertionSort] at hmem
  obtain ⟨hrow, hdue⟩ := List.mem_filter.mp hmem
  exact ⟨Table.get?_key hrow, (of_decide_eq_true hdue).1⟩

theorem selectedDeliveries_nodup :
    ((selectedDeliveries batch db).map QualityWebhookDeliveryRecord.id).Nodup := by
  have hfilter := db.deliveries.keysNodup.sublist
    ((List.filter_sublist (p := fun delivery => delivery.status = .pending ∧
      delivery.availableAt ≤ batch.moment) (l := db.deliveries.rows)).map
        QualityWebhookDeliveryRecord.id)
  have hsort := ((List.perm_insertionSort
    (fun delivery other : QualityWebhookDeliveryRecord => delivery.createdAt ≤ other.createdAt)
    (db.deliveries.rows.filter fun delivery => delivery.status = .pending ∧
      delivery.availableAt ≤ batch.moment)).map
        QualityWebhookDeliveryRecord.id).nodup_iff.mpr hfilter
  exact hsort.sublist ((List.take_sublist _ _).map _)

/-! ### What a step does to the rows -/

/-- A row as it is queued: for the first time, or again for one that has failed. -/
structure Queueable (deliveries : Table QualityWebhookDeliveryRecord.id)
    (delivery : QualityWebhookDeliveryRecord) : Prop where
  status : delivery.status = .pending
  attempts : delivery.attempts = 0
  responseStatus : delivery.responseStatus = none
  source : ∀ sourceId ∈ delivery.replayOfId, ∃ source ∈ deliveries, source.id = sourceId ∧
    source.status = .failed ∧ source.eventType = delivery.eventType ∧
    source.payload = delivery.payload

section Rows

variable (inv : Table QualityWebhookDeliveryRecord.id → Prop)
  (queued : ∀ db db' delivery, inv db.deliveries → Queueable db.deliveries delivery →
    insertDelivery delivery db = .ok db' → inv db'.deliveries)

include queued in
theorem evaluateSignal_rows {evaluation : ProjectEvaluation} {signal : QualityChangeSignal}
    (h : evaluateSignal sha256 evaluation signal db = .ok db') (hdb : inv db.deliveries) :
    inv db'.deliveries := by
  simp only [evaluateSignal, bind_eq_ok, Prod.exists] at h
  obtain ⟨state, db₁, hobserve, h⟩ := h
  have hsame : db₁.deliveries = db.deliveries := by
    rw [observeSignal] at hobserve
    split at hobserve
    · simp only [pure_eq_ok, Prod.mk.injEq] at hobserve
      obtain ⟨-, rfl⟩ := hobserve
      rfl
    · simp only [bind_eq_ok, pure_eq_ok, Prod.mk.injEq] at hobserve
      obtain ⟨-, -, -, rfl⟩ := hobserve
      rfl
  rw [← hsame] at hdb
  split at h
  · simp only [pure_eq_ok] at h
    exact h ▸ hdb
  · split at h
    · simp only [pure_eq_ok] at h
      exact h ▸ hdb
    · simp only [bind_eq_ok, pure_eq_ok] at h
      obtain ⟨db₂, hinsert, rfl⟩ := h
      exact queued db₁ db₂ _ hdb ⟨rfl, rfl, rfl, fun _ hsource => by cases hsource⟩ hinsert

include queued in
theorem evaluateBatch_rows {batch : EvaluationBatch}
    (h : evaluateQualityAlertBatch sha256 batch db = .ok db') (hdb : inv db.deliveries) :
    inv db'.deliveries := by
  simp only [evaluateQualityAlertBatch, bind_eq_ok, ensure_eq_ok] at h
  obtain ⟨-, -, -, -, h⟩ := h
  refine foldlM_invariant (fun db => inv db.deliveries) ?_ h hdb
  intro db₁ config db₂ _ hround hinv
  rw [EvaluationBatch.evaluate] at hround
  split at hround
  · simp only [pure_eq_ok] at hround
    exact hround ▸ hinv
  · simp only [bind_eq_ok, pure_eq_ok] at hround
    obtain ⟨db₃, hevaluate, rfl⟩ := hround
    exact foldlM_invariant (fun db => inv db.deliveries)
      (fun _ _ _ _ hsignal hinv => evaluateSignal_rows inv queued hsignal hinv) hevaluate hinv

include queued in
/-- What holds of the rows after a step: a property that queueing and attempting a row keep. -/
theorem qualityStep_rows
    (attempted : ∀ db batch delivery settled, a = .dispatch batch → inv db.deliveries →
      db.deliveries.get? delivery.id = some delivery → delivery.status = .pending →
      Attempted batch.maxAttempts delivery settled → settled.isStorable = true →
      inv (settleWebhookDelivery delivery settled db).deliveries)
    (h : qualityStep sha256 db a = .ok db') (hdb : inv db.deliveries) : inv db'.deliveries := by
  cases a with
  | updateConfig now newConfigId projectId payload =>
    simp only [qualityStep, updateQualityWebhookConfig, bind_eq_ok] at h
    obtain ⟨-, -, db₁, hconfig, h⟩ := h
    have hsame : db₁.deliveries = db.deliveries := by
      rw [configToUpdate] at hconfig
      split at hconfig
      · simp only [pure_eq_ok] at hconfig
        rw [hconfig]
      · simp only [bind_eq_ok, pure_eq_ok] at hconfig
        obtain ⟨-, -, -, -, -, -, rfl⟩ := hconfig
        rfl
    rw [← hsame] at hdb
    split at h <;> (simp only [pure_eq_ok] at h; subst h; exact hdb)
  | setSilence now actorId projectId payload =>
    simp only [qualityStep, setQualityAlertSilence, bind_eq_ok, pure_eq_ok] at h
    obtain ⟨-, -, -, -, -, -, -, -, -, -, rfl⟩ := h
    exact hdb
  | clearSilence now projectId =>
    simp only [qualityStep, clearQualityAlertSilence, bind_eq_ok] at h
    obtain ⟨_, -, _, -, h⟩ := h
    split at h <;> (simp only [pure_eq_ok] at h; subst h; exact hdb)
  | acknowledge now actorId projectId metric note =>
    simp only [qualityStep, acknowledgeQualityAlert, bind_eq_ok, pure_eq_ok] at h
    obtain ⟨-, -, -, -, -, -, rfl⟩ := h
    exact hdb
  | clearAcknowledgement projectId metric =>
    simp only [qualityStep, clearQualityAlertAcknowledgement, bind_eq_ok] at h
    obtain ⟨_, -, _, -, h⟩ := h
    split at h <;> (simp only [pure_eq_ok] at h; subst h; exact hdb)
  | test now newDeliveryId projectId =>
    simp only [qualityStep, enqueueQualityWebhookTest, bind_eq_ok] at h
    obtain ⟨_, -, _, -, hinsert⟩ := h
    exact queued _ _ _ hdb ⟨rfl, rfl, rfl, fun _ hsource => by cases hsource⟩ hinsert
  | replay now newDeliveryId actorId projectId deliveryId reason =>
    simp only [qualityStep, replayFailedQualityWebhookDelivery, bind_eq_ok, ensure_eq_ok,
      found_eq_ok] at h
    obtain ⟨-, -, source, hsource, -, -, -, hfailed, -, -, _, -, hinsert⟩ := h
    refine queued _ _ _ hdb ⟨rfl, rfl, rfl, fun sourceId hid => ?_⟩ hinsert
    cases hid
    exact ⟨source, Table.mem_of_get? hsource, rfl, hfailed, rfl, rfl⟩
  | evaluate batch => exact evaluateBatch_rows inv queued h hdb
  | dispatch batch =>
    simp only [qualityStep, dispatchQualityWebhookBatch, bind_eq_ok, ensure_eq_ok] at h
    obtain ⟨-, -, -, -, h⟩ := h
    refine dispatch_invariant (fun db => inv db.deliveries) ?_
      (fun delivery hmem => (mem_selectedDeliveries hmem).1) selectedDeliveries_nodup h hdb
    intro db₁ delivery settled hinv hmem hget hattempt hstorable
    exact attempted db₁ batch delivery settled rfl hinv hget (mem_selectedDeliveries hmem).2
      (attempt_ok hattempt) hstorable

end Rows

/-! ### The invariant -/

variable {deliveries : Table QualityWebhookDeliveryRecord.id}

structure WebhookQueue (maxAttempts : Nat)
    (deliveries : Table QualityWebhookDeliveryRecord.id) : Prop where
  attempts : ∀ delivery ∈ deliveries, delivery.attempts ≤ maxAttempts ∧
    (delivery.status = .pending → delivery.attempts < maxAttempts)
  storable : ∀ delivery ∈ deliveries, delivery.isStorable = true
  sources : ∀ delivery ∈ deliveries, ∀ sourceId ∈ delivery.replayOfId,
    ∃ source ∈ deliveries, source.id = sourceId ∧ source.status = .failed ∧
      source.eventType = delivery.eventType ∧ source.payload = delivery.payload
  once : ∀ delivery ∈ deliveries, ∀ other ∈ deliveries, delivery.replayOfId ≠ none →
    delivery.replayOfId = other.replayOfId → delivery = other
  irreflexive : ∀ delivery ∈ deliveries, delivery.replayOfId ≠ some delivery.id
  ordered : deliveries.rows.Pairwise fun earlier later => earlier.replayOfId ≠ some later.id

theorem webhookQueue_empty : WebhookQueue maxAttempts .empty where
  attempts _ hmem := absurd hmem Table.not_mem_empty
  storable _ hmem := absurd hmem Table.not_mem_empty
  sources _ hmem := absurd hmem Table.not_mem_empty
  once _ hmem := absurd hmem Table.not_mem_empty
  irreflexive _ hmem := absurd hmem Table.not_mem_empty
  ordered := List.Pairwise.nil

theorem WebhookQueue.queue (hi : WebhookQueue maxAttempts db.deliveries)
    (hpositive : 1 ≤ maxAttempts) (hqueue : Queueable db.deliveries delivery)
    (h : insertDelivery delivery db = .ok db') : WebhookQueue maxAttempts db'.deliveries := by
  obtain ⟨-, -, -, hrows, hfresh⟩ := insertDelivery_ok h
  have hmem : ∀ row, row ∈ db'.deliveries ↔ row ∈ db.deliveries ∨ row = delivery := fun row => by
    rw [Table.mem_iff, hrows, List.mem_append, List.mem_singleton, Table.mem_iff]
  have hnew : ∀ row ∈ db.deliveries, ∀ sourceId ∈ row.replayOfId, sourceId ≠ delivery.id := by
    rintro row hrow sourceId hsource rfl
    obtain ⟨source, hstored, hid, -⟩ := hi.sources row hrow _ hsource
    exact (hfresh source hstored).1 hid
  have hsource : ∀ sourceId ∈ delivery.replayOfId, sourceId ≠ delivery.id := by
    rintro sourceId hsource rfl
    obtain ⟨source, hstored, hid, -⟩ := hqueue.source _ hsource
    exact (hfresh source hstored).1 hid
  constructor
  · intro row hrow
    rcases (hmem row).mp hrow with hrow | rfl
    · exact hi.attempts row hrow
    · rw [hqueue.attempts]
      exact ⟨by omega, fun _ => by omega⟩
  · intro row hrow
    rcases (hmem row).mp hrow with hrow | rfl
    · exact hi.storable row hrow
    · rw [QualityWebhookDeliveryRecord.isStorable, hqueue.responseStatus]
      simp
  · intro row hrow sourceId hid
    rcases (hmem row).mp hrow with hrow | rfl
    · obtain ⟨source, hstored, hsource⟩ := hi.sources row hrow sourceId hid
      exact ⟨source, (hmem source).mpr (.inl hstored), hsource⟩
    · obtain ⟨source, hstored, hsource⟩ := hqueue.source sourceId hid
      exact ⟨source, (hmem source).mpr (.inl hstored), hsource⟩
  · intro row hrow other hother hsome heq
    rcases (hmem row).mp hrow with hrow | rfl <;> rcases (hmem other).mp hother with hother | rfl
    · exact hi.once row hrow other hother hsome heq
    · exact absurd heq ((hfresh row hrow).2.resolve_left (heq ▸ hsome))
    · exact absurd heq.symm ((hfresh other hother).2.resolve_left hsome)
    · rfl
  · intro row hrow heq
    rcases (hmem row).mp hrow with hrow | rfl
    · exact hi.irreflexive row hrow heq
    · exact hsource _ heq rfl
  · rw [hrows, List.pairwise_append]
    refine ⟨hi.ordered, List.pairwise_singleton _ _, fun row hrow other hother heq => ?_⟩
    rw [List.mem_singleton] at hother
    subst hother
    exact hnew row hrow _ heq rfl

theorem WebhookQueue.attempt (hi : WebhookQueue maxAttempts db.deliveries)
    (hget : db.deliveries.get? delivery.id = some delivery) (hpending : delivery.status = .pending)
    (hattempt : Attempted maxAttempts delivery settled) (hstorable : settled.isStorable = true) :
    WebhookQueue maxAttempts (settleWebhookDelivery delivery settled db).deliveries := by
  have hrows := settleDelivery_rows hget hattempt.id
  have hdelivery := Table.mem_of_get? hget
  have hmem : ∀ row, row ∈ (settleWebhookDelivery delivery settled db).deliveries ↔
      ∃ old ∈ db.deliveries, (if old = delivery then settled else old) = row := fun row => by
    rw [Table.mem_iff, hrows, List.mem_map]
    rfl
  have hcolumns : ∀ old : QualityWebhookDeliveryRecord,
      (if old = delivery then settled else old).asQueued = old.asQueued := fun old => by
    split
    · rename_i heq
      rw [heq, hattempt.asQueued]
    · rfl
  have hsame : ∀ old : QualityWebhookDeliveryRecord,
      (if old = delivery then settled else old).id = old.id ∧
      (if old = delivery then settled else old).replayOfId = old.replayOfId ∧
      (if old = delivery then settled else old).eventType = old.eventType ∧
      (if old = delivery then settled else old).payload = old.payload := fun old => by
    have heq := hcolumns old
    simp only [QualityWebhookDeliveryRecord.asQueued,
      QualityWebhookDeliveryRecord.mk.injEq] at heq
    obtain ⟨hid, -, -, hevent, -, hpayload, -, -, -, -, -, hreplay, -⟩ := heq
    exact ⟨hid, hreplay, hevent, hpayload⟩
  constructor
  · intro row hrow
    obtain ⟨old, hold, rfl⟩ := (hmem row).mp hrow
    split
    · rename_i heq
      have hleft := (hi.attempts old hold).2 (heq ▸ hpending)
      rw [hattempt.attempts, ← heq]
      refine ⟨by omega, fun hstatus => ?_⟩
      rcases hattempt.status with hfailed | hdelivered | ⟨-, hless⟩
      · rw [hfailed] at hstatus
        cases hstatus
      · rw [hdelivered] at hstatus
        cases hstatus
      · rw [hattempt.attempts, ← heq] at hless
        exact hless
    · exact hi.attempts old hold
  · intro row hrow
    obtain ⟨old, hold, rfl⟩ := (hmem row).mp hrow
    split
    · exact hstorable
    · exact hi.storable old hold
  · intro row hrow sourceId hid
    obtain ⟨old, hold, rfl⟩ := (hmem row).mp hrow
    obtain ⟨-, hreplay, hevent, hpayload⟩ := hsame old
    rw [hreplay] at hid
    obtain ⟨source, hstored, hsource, hfailed, hevents, hpayloads⟩ :=
      hi.sources old hold sourceId hid
    -- a source has failed, so that it is not the one that is attempted
    have hother : source ≠ delivery := by
      rintro rfl
      rw [hpending] at hfailed
      cases hfailed
    exact ⟨source, (hmem source).mpr ⟨source, hstored, if_neg hother⟩, hsource, hfailed,
      hevents.trans hevent.symm, hpayloads.trans hpayload.symm⟩
  · intro row hrow other hother hsome heq
    obtain ⟨old, hold, rfl⟩ := (hmem row).mp hrow
    obtain ⟨old', hold', rfl⟩ := (hmem other).mp hother
    rw [(hsame old).2.1] at hsome heq
    rw [(hsame old').2.1] at heq
    rw [hi.once old hold old' hold' hsome heq]
  · intro row hrow heq
    obtain ⟨old, hold, rfl⟩ := (hmem row).mp hrow
    rw [(hsame old).1, (hsame old).2.1] at heq
    exact hi.irreflexive old hold heq
  · rw [hrows, List.pairwise_map]
    refine hi.ordered.imp fun {earlier later} hne => ?_
    rw [(hsame earlier).2.1, (hsame later).1]
    exact hne

/-! ### Replays -/

/-- `replay` is a replay of `source`. -/
def ReplayedAs (db : QualityDatabase) (source replay : QualityWebhookDeliveryRecord) : Prop :=
  source ∈ db.deliveries ∧ replay ∈ db.deliveries ∧ replay.replayOfId = some source.id

/-- A replay stands behind the row it repeats. -/
theorem ReplayedAs.index_lt {source replay : QualityWebhookDeliveryRecord}
    (hi : WebhookQueue maxAttempts db.deliveries)
    (h : Relation.TransGen (ReplayedAs db) source replay)
    {i j : Nat} (hsource : db.deliveries.rows[i]? = some source)
    (hreplay : db.deliveries.rows[j]? = some replay) : i < j := by
  have hstep : ∀ {source replay : QualityWebhookDeliveryRecord} {i j : Nat},
      ReplayedAs db source replay → db.deliveries.rows[i]? = some source →
      db.deliveries.rows[j]? = some replay → i < j := by
    intro source replay i j hreplays hsource hreplay
    obtain ⟨hi', hget⟩ := List.getElem?_eq_some_iff.mp hsource
    obtain ⟨hj, hget'⟩ := List.getElem?_eq_some_iff.mp hreplay
    rcases lt_trichotomy i j with hlt | rfl | hgt
    · exact hlt
    · rw [hget] at hget'
      subst hget'
      exact absurd hreplays.2.2 (hi.irreflexive source hreplays.1)
    · have hne := List.pairwise_iff_getElem.mp hi.ordered j i hj hi' hgt
      rw [hget, hget'] at hne
      exact absurd hreplays.2.2 hne
  induction h generalizing j with
  | single h => exact hstep h hsource hreplay
  | tail _ h ih =>
    obtain ⟨k, hk⟩ := List.mem_iff_getElem?.mp (Table.mem_iff.mp h.1)
    exact (ih hk).trans (hstep h hk hreplay)

/-! ### Isolation -/

/-- The database after a batch; nothing is stored when it fails. -/
def afterDispatch (batch : DispatchBatch) (db : QualityDatabase) : QualityDatabase :=
  match dispatchQualityWebhookBatch batch db with
  | .ok db' => db'
  | .error _ => db

/-- Whatever comes of the other deliveries, a delivery is settled by its own outcome. -/
def SettlesEach (batch : DispatchBatch) (db : QualityDatabase) : Prop :=
  ∀ delivery ∈ selectedDeliveries batch db, Recordable batch db delivery →
    (afterDispatch batch db).deliveries.get? delivery.id = attempt batch db delivery

/-- The limits a dispatcher accepts. -/
def DispatchBatch.IsValid (batch : DispatchBatch) : Prop :=
  (1 ≤ batch.limit ∧ batch.limit ≤ 500) ∧ 1 ≤ batch.maxAttempts ∧ batch.maxAttempts ≤ 20

theorem dispatchQualityWebhookBatch_eq (hvalid : batch.IsValid) :
    dispatchQualityWebhookBatch batch db =
      (selectedDeliveries batch db).foldlM (dispatchDelivery batch) db := by
  rw [dispatchQualityWebhookBatch, ensure_true hvalid.1, ensure_true hvalid.2]
  rfl

/-- A batch with an outcome that cannot be stored leaves every row as it was. -/
theorem afterDispatch_of_not_recordable (hvalid : batch.IsValid)
    (hi : WebhookQueue maxAttempts db.deliveries) (hmem : delivery ∈ selectedDeliveries batch db)
    (hbad : ¬Recordable batch db delivery) : afterDispatch batch db = db := by
  rw [afterDispatch, dispatchQualityWebhookBatch_eq hvalid]
  split
  · rename_i db' hrun
    obtain ⟨settled, hattempt, hstorable, -⟩ := dispatch_settles
      (fun other hother => (mem_selectedDeliveries hother).1) selectedDeliveries_nodup hrun
      delivery hmem
    have hstored := hi.storable delivery (Table.mem_of_get? (mem_selectedDeliveries hmem).1)
    exact absurd ((recordable_iff hstored).mpr ⟨settled, hattempt, hstorable⟩) hbad
  · rfl

/-- The deliveries of a batch are settled one by one exactly when all of their outcomes can be
    stored, or none of them. -/
theorem settlesEach_iff (hvalid : batch.IsValid) (hi : WebhookQueue maxAttempts db.deliveries) :
    SettlesEach batch db ↔
      (∀ delivery ∈ selectedDeliveries batch db, Recordable batch db delivery) ∨
        ∀ delivery ∈ selectedDeliveries batch db, ¬Recordable batch db delivery := by
  have hstored : ∀ delivery ∈ selectedDeliveries batch db, delivery.isStorable = true :=
    fun delivery hmem => hi.storable delivery (Table.mem_of_get? (mem_selectedDeliveries hmem).1)
  constructor
  · intro hsettles
    by_contra hmixed
    push Not at hmixed
    obtain ⟨⟨bad, hbadMem, hbad⟩, delivery, hmem, hgood⟩ := hmixed
    have hkept := afterDispatch_of_not_recordable hvalid hi hbadMem hbad
    obtain ⟨settled, hattempt, -⟩ := (recordable_iff (hstored delivery hmem)).mp hgood
    have hget := hsettles delivery hmem hgood
    rw [hkept, hattempt, (mem_selectedDeliveries hmem).1, Option.some_inj] at hget
    have hcounted := (attempt_ok hattempt).attempts
    rw [← hget] at hcounted
    omega
  · rintro (hall | hnone) delivery hmem hgood
    · obtain ⟨db', hrun⟩ := dispatch_succeeds fun other hother =>
        (recordable_iff (hstored other hother)).mp (hall other hother)
      obtain ⟨settled, hattempt, -, hget⟩ := dispatch_settles
        (fun other hother => (mem_selectedDeliveries hother).1) selectedDeliveries_nodup hrun
        delivery hmem
      rw [afterDispatch, dispatchQualityWebhookBatch_eq hvalid, hrun, hattempt]
      exact hget
    · exact absurd hgood (hnone delivery hmem)

/-! ### Runs -/

/-- Every dispatch gives up after the same number of attempts. -/
def DispatchesWith (maxAttempts : Nat) (_ : QualityDatabase) : QualityAction → Prop
  | .dispatch batch => batch.maxAttempts = maxAttempts
  | _ => True

instance {maxAttempts : Nat} {db : QualityDatabase} {a : QualityAction} :
    Decidable (DispatchesWith maxAttempts db a) := by
  cases a <;> unfold DispatchesWith <;> infer_instance

theorem webhookQueue_step (hpositive : 1 ≤ maxAttempts) (hguard : DispatchesWith maxAttempts db a)
    (h : qualityStep sha256 db a = .ok db') (hi : WebhookQueue maxAttempts db.deliveries) :
    WebhookQueue maxAttempts db'.deliveries := by
  refine qualityStep_rows (WebhookQueue maxAttempts) ?_ ?_ h hi
  · intro db₁ db₂ delivery hi hqueue hinsert
    exact hi.queue hpositive hqueue hinsert
  · rintro db₁ batch delivery settled rfl hi hget hpending hattempt hstorable
    rw [DispatchesWith] at hguard
    rw [hguard] at hattempt
    exact hi.attempt hget hpending hattempt hstorable

/-- A row that is settled stays as it is. -/
theorem settled_step (h : qualityStep sha256 db a = .ok db')
    (hsettled : delivery.status ≠ .pending) (hmem : delivery ∈ db.deliveries) :
    delivery ∈ db'.deliveries := by
  refine qualityStep_rows (fun deliveries => delivery ∈ deliveries) ?_ ?_ h hmem
  · intro db₁ db₂ other hmem _ hinsert
    obtain ⟨-, -, -, hrows, -⟩ := insertDelivery_ok hinsert
    rw [Table.mem_iff, hrows]
    exact List.mem_append_left _ hmem
  · intro db₁ batch other settled _ hmem hget hpending hattempt _
    rw [Table.mem_iff, settleDelivery_rows hget hattempt.id]
    refine List.mem_map.mpr ⟨delivery, hmem, if_neg ?_⟩
    rintro rfl
    exact hsettled hpending

theorem webhookQueue (hpositive : 1 ≤ maxAttempts)
    (hr : ((quality sha256).restrict (DispatchesWith maxAttempts)).Reachable db) :
    WebhookQueue maxAttempts db.deliveries := by
  refine hr.invariant (p := fun db => WebhookQueue maxAttempts db.deliveries) ?_ ?_
  · rintro db ⟨-, hdeliveries, -⟩
    rw [hdeliveries]
    exact webhookQueue_empty
  · intro db a db' hstep hi
    exact webhookQueue_step hpositive hstep.1 hstep.2 hi

/-- Deliveries are attempted a bounded number of times, settled for good, and replayed in chains; a
    batch settles each by its own outcome as long as all of the outcomes can be stored. -/
theorem webhook_delivery (hpositive : 1 ≤ maxAttempts)
    (hr : ((quality sha256).restrict (DispatchesWith maxAttempts)).Reachable db) :
    (∀ delivery ∈ db.deliveries, delivery.attempts ≤ maxAttempts ∧
      (delivery.status = .pending → delivery.attempts < maxAttempts)) ∧
    (∀ db', ((quality sha256).restrict (DispatchesWith maxAttempts)).Steps db db' →
      ∀ delivery ∈ db.deliveries, delivery.status ≠ .pending → delivery ∈ db'.deliveries) ∧
    (∀ source replay, ReplayedAs db source replay → source.status = .failed) ∧
    (∀ source replay replay', ReplayedAs db source replay → ReplayedAs db source replay' →
      replay = replay') ∧
    (∀ source source' replay, ReplayedAs db source replay → ReplayedAs db source' replay →
      source = source') ∧
    (∀ delivery, ¬Relation.TransGen (ReplayedAs db) delivery delivery) ∧
    (∀ delivery later, Relation.ReflTransGen (ReplayedAs db) delivery later →
      later.eventType = delivery.eventType ∧ later.payload = delivery.payload) ∧
    ∀ batch : DispatchBatch, batch.IsValid → batch.maxAttempts = maxAttempts →
      (SettlesEach batch db ↔
        (∀ delivery ∈ selectedDeliveries batch db, Recordable batch db delivery) ∨
          ∀ delivery ∈ selectedDeliveries batch db, ¬Recordable batch db delivery) := by
  have hi := webhookQueue hpositive hr
  refine ⟨hi.attempts, ?_, ?_, ?_, ?_, ?_, ?_, fun batch hvalid _ => settlesEach_iff hvalid hi⟩
  · intro db' hsteps delivery hmem hsettled
    exact System.Steps.preserves (p := fun db => delivery ∈ db.deliveries) hr hsteps
      (fun _ _ _ _ hstep hmem => settled_step hstep.2 hsettled hmem) hmem
  · rintro source replay ⟨hsource, hreplay, hid⟩
    obtain ⟨source', hstored, hsource', hfailed, -⟩ := hi.sources replay hreplay _ hid
    rwa [← Table.eq_of_key_eq hstored hsource hsource']
  · rintro source replay replay' ⟨-, hreplay, hid⟩ ⟨-, hreplay', hid'⟩
    exact hi.once replay hreplay replay' hreplay' (by rw [hid]; simp) (hid.trans hid'.symm)
  · rintro source source' replay ⟨hsource, -, hid⟩ ⟨hsource', -, hid'⟩
    exact Table.eq_of_key_eq hsource hsource' (Option.some.inj (hid.symm.trans hid'))
  · intro delivery hcycle
    obtain ⟨_, hfirst, -⟩ := Relation.TransGen.head'_iff.mp hcycle
    obtain ⟨i, hget⟩ := List.mem_iff_getElem?.mp (Table.mem_iff.mp hfirst.1)
    exact absurd (ReplayedAs.index_lt hi hcycle hget hget) (lt_irrefl i)
  · intro delivery later hchain
    induction hchain with
    | refl => exact ⟨rfl, rfl⟩
    | tail _ hreplays ih =>
      obtain ⟨hsource, hreplay, hid⟩ := hreplays
      obtain ⟨source, hstored, hsource', -, hevent, hpayload⟩ := hi.sources _ hreplay _ hid
      rw [Table.eq_of_key_eq hstored hsource hsource'] at hevent hpayload
      exact ⟨hevent.symm.trans ih.1, hpayload.symm.trans ih.2⟩

/-! ### A receiver that answers with 700 -/

namespace Installation

/-- One project, without a webhook. -/
def qualitySetUp : QualityDatabase :=
  ⟨⟨[⟨1, "web", "Web", 5, 50, 3600, "ACTIVE"⟩], by decide⟩, .empty, .empty, .empty⟩

def enableWebhook : QualityAction :=
  .updateConfig 0 9 1 ⟨some true, some "https://hooks.example/top", none, none⟩

/-- Two tests that are due, the first attempt of which has failed. -/
def twoTests : List QualityAction :=
  [enableWebhook, .test 1 21 1, .test 2 22 1,
    .dispatch ⟨20, 2, 3, fun _ => .deliveryError "Webhook transport failed"⟩]

/-- Their last attempt; the second test is answered with a status. -/
def lastAttempt (status : Nat) : DispatchBatch :=
  ⟨20, 2, 10000000, fun deliveryId => .response (if deliveryId = 22 then status else 200)⟩

/-- Both tests are settled, and the second one, which has failed, is repeated. -/
def replayedTest : List QualityAction :=
  twoTests ++ [.dispatch (lastAttempt 404), .replay 10000001 23 5 1 22 "fixed"]

end Installation

open Installation in
/-- The test that failed has one replay, with its payload. -/
theorem webhook_delivery_replayed : ∃ db,
    ((quality fun document => document.projectId).restrict (DispatchesWith 2)).Reachable db ∧
    (∃ source replay, ReplayedAs db source replay) ∧
    ∀ source replay, ReplayedAs db source replay → source.status = .failed ∧
      replay.payload = source.payload := by
  have hrun : Ends (guarded (qualityStep fun document => document.projectId) (DispatchesWith 2)
      .validationError) qualitySetUp replayedTest fun db =>
      ∃ source ∈ db.deliveries.rows, ∃ replay ∈ db.deliveries.rows,
        replay.replayOfId = some source.id := by
    decide +kernel
  obtain ⟨db, hr, source, hsource, replay, hreplay, hid⟩ :=
    hrun.exists_restricted (show qualitySetUp.IsInitial from ⟨rfl, rfl, rfl⟩)
  obtain ⟨-, -, hfailed, -, -, -, hchain, -⟩ := webhook_delivery (by decide) hr
  exact ⟨db, hr, ⟨source, replay, hsource, hreplay, hid⟩, fun source replay hreplays =>
    ⟨hfailed source replay hreplays, (hchain source replay (.single hreplays)).2⟩⟩

open Installation in
/-- The first test is delivered when the second is answered with 200, and stays pending when it is
    answered with 700. -/
theorem webhook_answer_undoes_delivery : ∃ db,
    ((quality fun document => document.projectId).restrict (DispatchesWith 2)).Reachable db ∧
    ∃ delivery ∈ selectedDeliveries (lastAttempt 200) db, ∃ other ∈ selectedDeliveries
      (lastAttempt 200) db, delivery.id ≠ other.id ∧
      (lastAttempt 200).outcomes delivery.id = (lastAttempt 700).outcomes delivery.id ∧
      ((afterDispatch (lastAttempt 200) db).deliveries.get? delivery.id).map (·.status) =
        some .delivered ∧
      (afterDispatch (lastAttempt 700) db).deliveries.get? delivery.id = some delivery ∧
      delivery.status = .pending := by
  have hrun : Ends (guarded (qualityStep fun document => document.projectId) (DispatchesWith 2)
      .validationError) qualitySetUp twoTests fun db =>
      ∃ delivery ∈ selectedDeliveries (lastAttempt 200) db, ∃ other ∈ selectedDeliveries
        (lastAttempt 200) db, delivery.id ≠ other.id ∧
        (lastAttempt 200).outcomes delivery.id = (lastAttempt 700).outcomes delivery.id ∧
        ((afterDispatch (lastAttempt 200) db).deliveries.get? delivery.id).map (·.status) =
          some .delivered ∧
        (afterDispatch (lastAttempt 700) db).deliveries.get? delivery.id = some delivery ∧
        delivery.status = .pending := by
    decide +kernel
  exact hrun.exists_restricted (show qualitySetUp.IsInitial from ⟨rfl, rfl, rfl⟩)

end TestOps

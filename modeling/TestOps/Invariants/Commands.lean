import TestOps.Invariants.Writes

/-! The specification of every command: the writes it consists of. The last section collects them into
    `step_writes`, which says for any action of the control plane which labels its writes carry. -/

namespace TestOps

open Checked Relational Transition

variable {P : Primitives} {db db' : Database} {permits : Effect → Prop}

/-! ### Status, events and results -/

/-- Binding a slot writes at most the worker of the run's active lease. -/
theorem bindRunnerSlot_writes {now : Instant} {run : TestRunRecord} {workerKey : Option String}
    {leases : LeaseTable} {workers : Table RunnerWorkerRecord.id} (hp : permits .slotBound)
    (h : bindRunnerSlot now run workerKey db = .ok (leases, workers)) :
    Writes P permits db { db with leases := leases, workers := workers } := by
  cases workerKey with
  | none =>
    simp only [bindRunnerSlot, pure_eq_ok, Prod.mk.injEq] at h
    obtain ⟨rfl, rfl⟩ := h
    exact .refl db
  | some workerKey =>
    rw [bindRunnerSlot] at h
    split at h
    · simp only [pure_eq_ok, Prod.mk.injEq] at h
      obtain ⟨rfl, rfl⟩ := h
      exact .refl db
    · simp only [bind_eq_ok, ensure_eq_ok, found_eq_ok, pure_eq_ok, Prod.mk.injEq] at h
      obtain ⟨lease, hlease, worker, -, -, -, -, -, -, -, rfl, rfl⟩ := h
      exact .single hp (.slotBound lease worker.id _ (Table.mem_of_first? hlease))

/-- A status callback binds the slot, and moves the run unless it is already there. -/
theorem updateRunStatus_ok {now : Instant} {runId : UUID} {target : RunStatus}
    {workerKey : Option String} (h : updateRunStatus now runId target workerKey db = .ok db') :
    ∃ run leases workers, db.runs.get? runId = some run ∧
      bindRunnerSlot now run workerKey db = .ok (leases, workers) ∧
      (db' = { db with leases := leases, workers := workers } ∨
        (target = .preparing ∨ target = .running) ∧ target ∈ allowedRunTransitions run.status ∧
        ∃ runEvents, Logged runId db.runEvents runEvents ∧ db' = { db with
          leases := leases
          workers := workers
          runs := db.runs.modify runId (startedRun now target)
          runEvents := runEvents }) := by
  simp only [updateRunStatus, bind_eq_ok, ensure_eq_ok, lockedRun_eq_ok, Prod.exists] at h
  obtain ⟨-, htarget, run, hrun, leases, workers, hbind, h⟩ := h
  refine ⟨run, leases, workers, hrun, hbind, ?_⟩
  split at h
  · simp only [pure_eq_ok] at h
    exact .inl h.symm
  · simp only [bind_eq_ok, requireRunTransition_eq_ok, pure_eq_ok] at h
    obtain ⟨-, hallowed, rfl⟩ := h
    exact .inr ⟨htarget, hallowed, _, appendRunEvent_logged (by decide), rfl⟩

theorem updateRunStatus_writes {now : Instant} {runId : UUID} {target : RunStatus}
    {workerKey : Option String} (hb : permits .slotBound) (hs : permits (.runStarted runId))
    (h : updateRunStatus now runId target workerKey db = .ok db') : Writes P permits db db' := by
  obtain ⟨run, leases, workers, hrun, hbind, rfl | ⟨htarget, hallowed, runEvents, hlogged, rfl⟩⟩ :=
    updateRunStatus_ok h
  · exact bindRunnerSlot_writes hb hbind
  · exact (bindRunnerSlot_writes (P := P) hb hbind).tail hs
      (.runStarted now runId target run runEvents hrun htarget hallowed hlogged)

theorem recordRunEvent_writes {runId : UUID} {payload : InternalRunEventCreate}
    (hp : permits (.eventRecorded runId)) (h : recordRunEvent P runId payload db = .ok db') :
    Writes P permits db db' := by
  obtain ⟨runEvents, runCases, rfl, hlogged,
    rfl | ⟨run, runCase, status, hrun, hlive, hmem, hcase, rfl⟩⟩ := recordRunEvent_ok h
  · exact .single hp (.eventLogged runId runEvents hlogged)
  · exact .single hp
      (.eventRecorded runId run runEvents runCase status hrun hlive hmem hcase hlogged)

/-- A result is either the one already stored, or the first one the run gets. -/
theorem recordRunResult_ok {now : Instant} {runId : UUID} {result : RunResult}
    (h : recordRunResult P now runId result db = .ok db') :
    ∃ run, db.runs.get? runId = some run ∧
      ((db' = db ∧ run.resultDigest = some (P.canonicalSha256 (.result result)) ∧
        run.resultDocument = some result) ∨
      (run.resultDigest = none ∧ Write P (.resultRecorded runId result) db db')) := by
  simp only [recordRunResult, bind_eq_ok, ensure_eq_ok, lockedRun_eq_ok] at h
  obtain ⟨-, hid, run, hrun, h⟩ := h
  refine ⟨run, hrun, ?_⟩
  cases hdigest : run.resultDigest with
  | some digest =>
    simp only [hdigest, bind_eq_ok, ensure_eq_ok, pure_eq_ok] at h
    obtain ⟨-, ⟨hd, hdoc⟩, rfl⟩ := h
    exact .inl ⟨rfl, by rw [hd], hdoc⟩
  | none =>
    simp only [hdigest, storeResult, bind_eq_ok, requireRunTransition_eq_ok, found_eq_ok,
      enqueueRunResultEmail_eq_ok, pure_eq_ok] at h
    obtain ⟨-, hallowed, matched, hcases, -, -, artifacts, -, emailDeliveries, hemails, rfl⟩ := h
    exact .inr ⟨rfl, .resultRecorded now runId result run artifacts emailDeliveries _ hid hrun
      hdigest hallowed hcases hemails (appendRunEvent_logged (by decide))⟩

theorem recordRunResult_writes {now : Instant} {runId : UUID} {result : RunResult}
    (hp : permits (.resultRecorded runId result))
    (h : recordRunResult P now runId result db = .ok db') : Writes P permits db db' := by
  obtain ⟨run, -, ⟨rfl, -⟩ | ⟨-, hw⟩⟩ := recordRunResult_ok h
  · exact .refl db'
  · exact .single hp hw

/-! ### Cancellation and recovery -/

/-- A cancellation is refused without a change, or it is one write. -/
theorem requestCancel_ok {now : Instant} {outboxId : UUID} {run : TestRunRecord} {changed : Bool}
    (hrun : db.runs.get? run.id = some run)
    (h : requestCancel P now outboxId run db = .ok (db', changed)) :
    (db' = db ∧ (run.status.isTerminal = true ∨ run.cancelRequested = true)) ∨
    Write P (.runCanceled run.id) db db' := by
  rw [requestCancel] at h
  split at h
  · rename_i hended
    simp only [pure_eq_ok, Prod.mk.injEq] at h
    exact .inl ⟨h.1.symm, hended⟩
  · rename_i hlive
    simp only [not_or, Bool.not_eq_true] at hlive
    simp only [bind_eq_ok, found_eq_ok, pure_eq_ok, Prod.mk.injEq] at h
    obtain ⟨emailDeliveries, hemails, outbox, houtbox, rfl, -⟩ := h
    have hkept := OutboxKept.insert? rfl houtbox
    right
    rw [cancelDeliveries] at hemails
    by_cases hqueued : run.status = .queued
    · simp only [if_pos hqueued, enqueueRunResultEmail_eq_ok] at hemails ⊢
      exact .runCanceled now run.id run emailDeliveries outbox _ hrun hlive.1 hlive.2 hqueued
        hemails hkept (appendRunEvent_logged (by decide))
    · simp only [if_neg hqueued, pure_eq_ok] at hemails ⊢
      subst hemails
      exact .cancelRequested now run.id run outbox _ hrun hlive.1 hlive.2 hqueued hkept
        (appendRunEvent_logged (by decide))

theorem requestCancel_writes {now : Instant} {outboxId : UUID} {run : TestRunRecord}
    {changed : Bool} (hrun : db.runs.get? run.id = some run) (hp : permits (.runCanceled run.id))
    (h : requestCancel P now outboxId run db = .ok (db', changed)) : Writes P permits db db' := by
  obtain ⟨rfl, -⟩ | hw := requestCancel_ok hrun h
  · exact .refl db'
  · exact .single hp hw

theorem cancelRun_writes {now : Instant} {outboxId runId : UUID} (hp : permits (.runCanceled runId))
    (h : cancelRun P now outboxId runId db = .ok db') : Writes P permits db db' := by
  simp only [cancelRun, bind_eq_ok, lockedRun_eq_ok] at h
  obtain ⟨run, hrun, h⟩ := h
  obtain rfl := Table.key_of_get? hrun
  split at h
  · rename_i canceled changed hcancel
    simp only [pure_eq_ok] at h
    exact h ▸ requestCancel_writes hrun hp hcancel
  · simp only [pure_eq_ok] at h
    exact h ▸ .refl db
  · cases h

theorem cancelRuns_writes {now : Instant} {outboxId : UUID → UUID} {projectId : UUID}
    {runIds : List UUID} (hp : ∀ runId ∈ runIds, permits (.runCanceled runId))
    (h : cancelRuns P now outboxId projectId runIds db = .ok db') : Writes P permits db db' := by
  simp only [cancelRuns, bind_eq_ok, ensure_eq_ok] at h
  obtain ⟨-, -, -, -, h⟩ := h
  refine foldlM_rel (Writes P permits) .refl (fun _ _ _ => Writes.trans) ?_ h
  intro db₁ runId db₂ hmem hround
  simp only [bind_eq_ok, lockedRun_eq_ok, pure_eq_ok, Prod.exists] at hround
  obtain ⟨run, hrun, canceled, changed, hcancel, rfl⟩ := hround
  obtain rfl := Table.key_of_get? hrun
  exact requestCancel_writes hrun (hp _ hmem) hcancel

theorem recoverRun_writes {moment : Instant} {outboxId : UUID} {run : TestRunRecord}
    {reason : ReasonCode} {message : String} {hadLease : Bool}
    (hrun : run ∈ db.runs) (hp : permits (.runRecovered run.id))
    (h : recoverRun moment outboxId run reason message db = .ok (db', hadLease)) :
    Writes P permits db db' := by
  rw [recoverRun] at h
  split at h
  · simp only [pure_eq_ok, Prod.mk.injEq] at h
    exact h.1 ▸ .refl db
  · simp only [bind_eq_ok, requireRunTransition_eq_ok, found_eq_ok, pure_eq_ok,
      Prod.mk.injEq] at h
    obtain ⟨-, hallowed, runEvents, hevents, outbox, houtbox, rfl, -⟩ := h
    exact .single hp (.runRecovered moment run reason message runEvents outbox hrun hallowed
      (.appended _ rfl rfl (show IsLine "run_recovered" by decide) hevents) (OutboxKept.insert? rfl houtbox))

theorem recoverAll_writes {moment : Instant} {outboxId : UUID → UUID} {reason : ReasonCode}
    {rows : List Recovery} {released : Nat} (hp : ∀ runId, permits (.runRecovered runId))
    (h : recoverAll moment outboxId reason rows db = .ok (db', released)) :
    Writes P permits db db' := by
  refine foldlM_rel (fun a b => Writes P permits a.1 b.1) (fun _ => .refl _)
    (fun _ _ _ => Writes.trans) ?_ h
  rintro ⟨db₁, n₁⟩ row ⟨db₂, n₂⟩ - hround
  simp only [bind_eq_ok, lockedRun_eq_ok, pure_eq_ok, Prod.exists, Prod.mk.injEq] at hround
  obtain ⟨run, hrun, recovered, hadLease, hrecover, rfl, -⟩ := hround
  exact recoverRun_writes (Table.mem_of_get? hrun) (hp _) hrecover

theorem releaseOrphans_writes {moment : Instant} {orphans : List RunnerSlotLeaseRecord}
    (hp : ∀ leaseId, permits (.leaseReleased leaseId)) :
    Writes P permits db
      { db with leases := orphans.foldl (releaseOrphan moment) db.leases } := by
  induction orphans generalizing db with
  | nil => exact .refl db
  | cons lease orphans ih =>
    rw [List.foldl_cons]
    exact (Writes.single (hp lease.id) (.leaseReleased lease.id moment)).trans ih

theorem processRunReliability_writes {moment : Instant}
    {batchSize heartbeatTtlSeconds dispatchStartTimeoutSeconds : Nat} {locks : RowLocks}
    {outboxId : UUID → UUID} {summary : ReliabilitySweepSummary}
    (hr : ∀ runId, permits (.runRecovered runId)) (hl : ∀ leaseId, permits (.leaseReleased leaseId))
    (h : processRunReliability moment batchSize heartbeatTtlSeconds dispatchStartTimeoutSeconds
      locks outboxId db = .ok (db', summary)) : Writes P permits db db' := by
  simp only [processRunReliability, bind_eq_ok, ensure_eq_ok, pure_eq_ok, Prod.exists,
    Prod.mk.injEq] at h
  obtain ⟨-, -, -, -, -, -, db₁, n₁, h₁, db₂, n₂, h₂, db₃, n₃, h₃, rfl, -⟩ := h
  exact (((recoverAll_writes hr h₁).trans (recoverAll_writes hr h₂)).trans
    (recoverAll_writes hr h₃)).trans (releaseOrphans_writes hl)

/-! ### Dispatch -/

theorem servingPool_ok {poolId : UUID} {pool : RunnerPoolRecord}
    (h : servingPool poolId db = .ok pool) : db.pools.get? poolId = some pool := by
  simp only [servingPool, bind_eq_ok, ensure_eq_ok, found_eq_ok, pure_eq_ok] at h
  obtain ⟨_, hpool, -, -, -, -, rfl⟩ := h
  exact hpool

/-- What preparing a record comes to. -/
inductive Preparation (dispatchTime : Instant) (heartbeatTtlSeconds : Nat)
    (record : DispatchOutboxRecord) (db : Database) : Database → PreparedDispatch → Prop
  /-- A cancellation, a run without a pool, or one that holds a lease already. -/
  | ready (prepared : PreparedDispatch) :
      Preparation dispatchTime heartbeatTtlSeconds record db db prepared
  /-- A run that has ended. -/
  | ended (run : TestRunRecord) : Preparation dispatchTime heartbeatTtlSeconds record db
      { db with runs := db.runs.modify run.id (markDispatched dispatchTime) }
      ⟨none, some run, none, true⟩
  | acquired {lease : RunnerSlotLeaseRecord} {run : TestRunRecord} {pool : RunnerPoolRecord}
      {snapshot : RunSnapshot} {eligible : List RunnerWorkerRecord} (poolId : Option UUID)
      (leases : LeaseTable) : record.message = .runQueued snapshot poolId →
      run.id = record.aggregateId →
      Acquisition dispatchTime heartbeatTtlSeconds db lease run pool snapshot eligible →
      db.leases.insert? lease = some leases →
      Preparation dispatchTime heartbeatTtlSeconds record db { db with leases := leases }
        ⟨some pool.queueName, some run, some lease, false⟩

theorem prepareRunDispatch_ok {dispatchTime : Instant} {heartbeatTtlSeconds : Nat} {leaseId : UUID}
    {record : DispatchOutboxRecord} {prepared : PreparedDispatch}
    (h : prepareRunDispatch dispatchTime heartbeatTtlSeconds leaseId record db =
      .ok (db', prepared)) : Preparation dispatchTime heartbeatTtlSeconds record db db' prepared := by
  rw [prepareRunDispatch] at h
  split at h
  · simp only [pure_eq_ok, Prod.mk.injEq] at h
    exact h.1 ▸ .ready _
  · rename_i snapshot poolId' hmessage
    simp only [bind_eq_ok, found_eq_ok] at h
    obtain ⟨run, hrun, h⟩ := h
    split at h
    · simp only [pure_eq_ok, Prod.mk.injEq] at h
      obtain ⟨rfl, rfl⟩ := h
      exact .ended run
    · rename_i hlive
      split at h
      · simp only [pure_eq_ok, Prod.mk.injEq] at h
        exact h.1 ▸ .ready _
      · rename_i poolId hpoolId
        simp only [bind_eq_ok, mapError_eq_ok] at h
        obtain ⟨pool, hpool, eligible, heligible, h⟩ := h
        have hpool := servingPool_ok hpool
        split at h
        · simp only [pure_eq_ok, Prod.mk.injEq] at h
          exact h.1 ▸ .ready _
        · rename_i hnone
          simp only [acquireLease, bind_eq_ok, ensure_eq_ok, found_eq_ok, pure_eq_ok,
            Prod.exists, Prod.mk.injEq] at h
          obtain ⟨_, lease, ⟨-, hcount, leases, hinsert, rfl, rfl⟩, rfl, rfl⟩ := h
          exact .acquired _ leases hmessage (Table.key_of_get? hrun) {
            runStored := Table.mem_of_get? hrun
            live := by simpa using hlive
            bound := by rw [hpoolId, Table.key_of_get? hpool]
            poolStored := Table.mem_of_get? hpool
            workers := heligible
            free := hnone
            capacity := hcount
            lease := rfl } hinsert

theorem prepareRunDispatch_writes {dispatchTime : Instant} {heartbeatTtlSeconds : Nat}
    {leaseId : UUID} {record : DispatchOutboxRecord} {prepared : PreparedDispatch}
    (hm : ∀ runId, permits (.dispatchMarked runId))
    (ha : ∀ poolId runId, permits (.leaseAcquired poolId runId))
    (h : prepareRunDispatch dispatchTime heartbeatTtlSeconds leaseId record db =
      .ok (db', prepared)) : Writes P permits db db' := by
  cases prepareRunDispatch_ok h with
  | ready => exact .refl db
  | ended run =>
    exact .single (hm run.id) (.dispatchMarked run.id _ (.dispatched dispatchTime))
  | acquired _ leases _ _ hacquired hinsert =>
    exact .single (ha _ _) (.leaseAcquired _ _ _ _ _ _ _ leases hacquired hinsert)

theorem failDispatch_writes {dispatchTime : Instant} {error : String}
    {prepared : PreparedDispatch} {record : DispatchOutboxRecord}
    (hm : ∀ runId, permits (.dispatchMarked runId))
    (hl : ∀ leaseId, permits (.leaseReleased leaseId)) (ho : permits .outboxChanged) :
    Writes P permits db (failDispatch dispatchTime error prepared record db) := by
  have hruns : Writes P permits db { db with
      runs := (failDispatch dispatchTime error prepared record db).runs } := by
    rw [failDispatch]
    cases prepared.run with
    | none => exact .refl db
    | some run => exact .single (hm run.id) (.dispatchMarked run.id _ (.waiting _))
  refine Writes.tail (?_ : Writes P permits db { db with
    runs := (failDispatch dispatchTime error prepared record db).runs
    leases := (failDispatch dispatchTime error prepared record db).leases }) ho (.outboxChanged _ (.modify fun _ => ⟨rfl, rfl⟩))
  refine hruns.trans ?_
  rw [failDispatch]
  cases prepared.lease with
  | none => exact .refl _
  | some lease => exact .single (hl lease.id) (.leaseReleased lease.id dispatchTime)

theorem completeDispatch_writes {dispatchTime : Instant} {prepared : PreparedDispatch}
    {record : DispatchOutboxRecord} (hm : ∀ runId, permits (.dispatchMarked runId))
    (ho : permits .outboxChanged) :
    Writes P permits db (completeDispatch dispatchTime prepared record db) := by
  refine Writes.tail (?_ : Writes P permits db { db with
    runs := (completeDispatch dispatchTime prepared record db).runs }) ho (.outboxChanged _ (.modify fun _ => ⟨rfl, rfl⟩))
  rw [completeDispatch]
  cases prepared.run with
  | none => exact .refl db
  | some run => exact .single (hm run.id) (.dispatchMarked run.id _ (.dispatched _))

theorem deferDispatch_writes {dispatchTime : Instant} {pollMicros : Int} {reason : WaitReason}
    {record : DispatchOutboxRecord} (hm : ∀ runId, permits (.dispatchMarked runId))
    (ho : permits .outboxChanged) :
    Writes P permits db (deferDispatch dispatchTime pollMicros reason record db) :=
  (Writes.single (hm record.aggregateId)
    (.dispatchMarked record.aggregateId _ (.waiting reason))).tail ho (.outboxChanged _ (.modify fun _ => ⟨rfl, rfl⟩))

theorem dispatchRecord_writes {ctx : DispatchContext} {record : DispatchOutboxRecord}
    {summary summary' : DispatchSummary} (hm : ∀ runId, permits (.dispatchMarked runId))
    (hl : ∀ leaseId, permits (.leaseReleased leaseId))
    (ha : ∀ poolId runId, permits (.leaseAcquired poolId runId)) (ho : permits .outboxChanged)
    (h : dispatchRecord ctx record db summary = .ok (db', summary')) :
    Writes P permits db db' := by
  rw [dispatchRecord] at h
  split at h
  · simp only [pure_eq_ok, Prod.mk.injEq] at h
    exact h.1 ▸ deferDispatch_writes hm ho
  · cases h
  · rename_i db₁ prepared hprepare
    have hprepared := prepareRunDispatch_writes (P := P) hm ha hprepare
    split at h
    · simp only [pure_eq_ok, Prod.mk.injEq] at h
      exact h.1 ▸ hprepared.tail ho (.outboxChanged _ (.modify fun _ => ⟨rfl, rfl⟩))
    · split at h
      · simp only [pure_eq_ok, Prod.mk.injEq] at h
        exact h.1 ▸ hprepared.trans (failDispatch_writes hm hl ho)
      · simp only [pure_eq_ok, Prod.mk.injEq] at h
        exact h.1 ▸ hprepared.trans (completeDispatch_writes hm ho)

theorem dispatchOutboxBatch_writes {ctx : DispatchContext} {summary : DispatchSummary}
    (hm : ∀ runId, permits (.dispatchMarked runId))
    (hl : ∀ leaseId, permits (.leaseReleased leaseId))
    (ha : ∀ poolId runId, permits (.leaseAcquired poolId runId)) (ho : permits .outboxChanged)
    (h : dispatchOutboxBatch ctx db = .ok (db', summary)) : Writes P permits db db' := by
  simp only [dispatchOutboxBatch, bind_eq_ok, ensure_eq_ok] at h
  obtain ⟨-, -, -, -, -, -, h⟩ := h
  refine foldlM_rel (fun a b => Writes P permits a.1 b.1) (fun _ => .refl _)
    (fun _ _ _ => Writes.trans) ?_ h
  rintro ⟨db₁, s₁⟩ record ⟨db₂, s₂⟩ - hround
  exact dispatchRecord_writes hm hl ha ho hround

end TestOps

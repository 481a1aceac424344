import TestOps.Invariants.RunState

/-! The capacity of a runner pool. Only a dispatch batch makes leases active, one record at a time, and
    a record acquires a lease only while the pool, with the leases of the records before it, is below
    its effective capacity. So the active leases of a pool stay within its concurrency limit for as
    long as nobody lowers the limit. -/

namespace TestOps

open Checked Relational Transition

variable {P : Primitives} {db db' : Database}

/-! ### Active leases -/

/-- The lease `leaseId` is active, and it is a lease of the pool `poolId`. -/
def LeaseActive (leaseId poolId : UUID) (leases : LeaseTable) : Prop :=
  ∃ lease ∈ leases, lease.id = leaseId ∧ lease.poolId = poolId ∧ lease.status = .active

variable {leaseId poolId : UUID} {leases leases' : LeaseTable}

/-- A rewrite that activates no lease and moves none to another pool. -/
theorem LeaseActive.of_modify {key : UUID} {f : RunnerSlotLeaseRecord → RunnerSlotLeaseRecord}
    {hf : KeepsKey RunnerSlotLeaseRecord.id f}
    (h : LeaseActive leaseId poolId (leases.modify key f hf))
    (hpool : ∀ lease, (f lease).poolId = lease.poolId)
    (hactive : ∀ lease, (f lease).status = .active → lease.status = .active) :
    LeaseActive leaseId poolId leases := by
  obtain ⟨lease', hmem, hid, hlease, hstatus⟩ := h
  obtain ⟨lease, hold, rfl⟩ := Table.mem_modify.mp hmem
  by_cases hkey : lease.id = key
  · rw [if_pos hkey] at hid hlease hstatus
    exact ⟨lease, hold, (hf.eq lease).symm.trans hid, (hpool lease).symm.trans hlease,
      hactive lease hstatus⟩
  · rw [if_neg hkey] at hid hlease hstatus
    exact ⟨lease, hold, hid, hlease, hstatus⟩

theorem LeaseActive.of_endLease {runId : UUID} {status : LeaseStatus} {now : Instant}
    (h : LeaseActive leaseId poolId (endLease leases runId status now))
    (hstatus : status ≠ .active) : LeaseActive leaseId poolId leases := by
  rw [endLease] at h
  split at h
  · exact h
  · exact h.of_modify (fun _ => rfl) fun _ hactive => absurd hactive hstatus

/-- A write that acquires no lease makes none active. -/
theorem leaseActive_write {effect : Effect} (hw : Write P effect db db')
    (heffect : ∀ poolId runId, effect ≠ .leaseAcquired poolId runId)
    (h : LeaseActive leaseId poolId db'.leases) : LeaseActive leaseId poolId db.leases := by
  cases hw with
  | configured | poolCreated | poolUpdated | workersChanged | preferencesChanged
  | deliveriesRewritten | testDeliveriesAdded | outboxChanged | runQueued | runStarted
  | eventRecorded | eventLogged | cancelRequested | dispatchMarked | baselinePublished
  | packageActivated | requestCreated | requestEdited | requestSubmitted | requestReviewed
  | validationSkipped | validationLinked | requestPublished => exact h
  | slotBound => exact h.of_modify (fun _ => rfl) fun _ => id
  | resultRecorded | runCanceled | runRecovered => exact h.of_endLease (by decide)
  | leaseReleased => exact h.of_modify (fun _ => rfl) fun _ hactive => nomatch hactive
  | leaseAcquired => exact absurd rfl (heffect _ _)

/-! ### Dispatching one record -/

/-- A record that makes a lease active has acquired it. -/
theorem dispatchRecord_acquires {ctx : DispatchContext} {record : DispatchOutboxRecord}
    {summary summary' : DispatchSummary}
    (h : dispatchRecord ctx record db summary = .ok (db', summary'))
    (hbefore : ¬LeaseActive leaseId poolId db.leases)
    (hafter : LeaseActive leaseId poolId db'.leases) :
    ∃ lease run pool snapshot eligible queuePool,
      record.message = .runQueued snapshot queuePool ∧ pool.id = poolId ∧
      Acquisition ctx.dispatchTime ctx.heartbeatTtlSeconds db lease run pool snapshot eligible := by
  rw [dispatchRecord] at h
  split at h
  · simp only [pure_eq_ok, Prod.mk.injEq] at h
    rw [← h.1] at hafter
    exact absurd hafter hbefore
  · cases h
  · rename_i db₁ prepared hprepare
    have hprepared : LeaseActive leaseId poolId db₁.leases := by
      split at h
      · simp only [pure_eq_ok, Prod.mk.injEq] at h
        rwa [← h.1] at hafter
      · split at h
        · simp only [pure_eq_ok, Prod.mk.injEq] at h
          rw [← h.1, failDispatch] at hafter
          split at hafter
          · exact hafter.of_modify (fun _ => rfl) fun _ hactive => by cases hactive
          · exact hafter
        · simp only [pure_eq_ok, Prod.mk.injEq] at h
          rwa [← h.1] at hafter
    cases prepareRunDispatch_ok hprepare with
    | ready => exact absurd hprepared hbefore
    | ended => exact absurd hprepared hbefore
    | @acquired lease run pool snapshot eligible queuePool leases hmessage _ hacquired hinsert =>
      obtain ⟨lease', hmem, hid, hpool, hactive⟩ := hprepared
      rcases (Table.mem_insert? hinsert).mp hmem with hold | rfl
      · exact absurd ⟨lease', hold, hid, hpool, hactive⟩ hbefore
      · rw [hacquired.lease] at hpool
        exact ⟨_, _, _, _, _, _, hmessage, hpool, hacquired⟩

/-! ### The concurrency limit -/

/-- Updates of the pool `poolId` do not lower its concurrency limit. -/
def KeepsLimit (poolId : UUID) (s : State) : Action → Prop
  | .updateRunnerPool updated payload => updated = poolId →
      ∀ pool, s.db.pools.get? poolId = some pool →
      ∀ limit ∈ payload.maxConcurrency, pool.maxConcurrency ≤ limit
  | _ => True

/-- The active leases of a pool stay within its limit, and every lease belongs to a known pool. -/
structure WithinLimit (poolId : UUID) (pools : Table RunnerPoolRecord.id) (leases : LeaseTable) :
    Prop where
  known : ∀ lease ∈ leases, (pools.get? lease.poolId).isSome
  limit : ∀ pool, pools.get? poolId = some pool →
    activeLeases leases poolId ≤ pool.maxConcurrency

namespace WithinLimit

variable {pools pools' : Table RunnerPoolRecord.id}

/-- A rewrite that activates no lease and moves none to another pool. -/
theorem modify_lease {key : UUID} {f : RunnerSlotLeaseRecord → RunnerSlotLeaseRecord}
    {hf : KeepsKey RunnerSlotLeaseRecord.id f} (h : WithinLimit poolId pools leases)
    (hpool : ∀ lease, (f lease).poolId = lease.poolId)
    (hactive : ∀ lease, (f lease).status = .active → lease.status = .active) :
    WithinLimit poolId pools (leases.modify key f hf) where
  known := by
    refine Table.forall_modify h.known fun lease _ hknown => ?_
    rwa [hpool]
  limit := by
    refine fun pool hget => le_trans (Table.count_modify_le fun lease _ _ hholds => ?_)
      (h.limit pool hget)
    simp only [decide_eq_true_eq, hpool] at hholds ⊢
    exact ⟨hholds.1, hactive lease hholds.2⟩

theorem end_lease {runId : UUID} {status : LeaseStatus} {now : Instant}
    (h : WithinLimit poolId pools leases) (hstatus : status ≠ .active) :
    WithinLimit poolId pools (endLease leases runId status now) := by
  rw [endLease]
  split
  · exact h
  · exact h.modify_lease (fun _ => rfl) fun _ hactive => absurd hactive hstatus

/-- A lease is acquired below the limit of its pool. -/
theorem acquire {dispatchTime : Instant} {heartbeatTtlSeconds : Nat}
    {lease : RunnerSlotLeaseRecord} {run : TestRunRecord} {pool : RunnerPoolRecord}
    {snapshot : RunSnapshot} {eligible : List RunnerWorkerRecord}
    (h : WithinLimit poolId db.pools db.leases)
    (hacquired : Acquisition dispatchTime heartbeatTtlSeconds db lease run pool snapshot eligible)
    (hinsert : db.leases.insert? lease = some leases) : WithinLimit poolId db.pools leases where
  known := by
    refine Table.forall_insert? hinsert h.known ?_
    rw [hacquired.lease, Table.get?_key hacquired.poolStored]
    rfl
  limit := by
    intro pool' hpool'
    have hcount : activeLeases leases poolId = activeLeases db.leases poolId +
        if pool.id = poolId then 1 else 0 := by
      rw [activeLeases, Table.count_insert? hinsert, hacquired.lease]
      simp [activeLeases]
    rw [hcount]
    split
    · rename_i hid
      rw [← hid, Table.get?_key hacquired.poolStored] at hpool'
      obtain rfl := Option.some.inj hpool'
      have hcapacity := hacquired.capacity
      rw [effectiveCapacity, hid] at hcapacity
      omega
    · exact h.limit pool' hpool'

/-- A pool that is new has no leases yet. -/
theorem add_pool {pool : RunnerPoolRecord} (h : WithinLimit poolId pools leases)
    (hinsert : pools.insert? pool = some pools') : WithinLimit poolId pools' leases where
  known := by
    intro lease hlease
    rw [Table.get?_insert? hinsert]
    split
    · rfl
    · exact h.known lease hlease
  limit := by
    intro pool' hpool'
    rw [Table.get?_insert? hinsert] at hpool'
    split at hpool'
    · rename_i hid
      have hnone : activeLeases leases poolId = 0 := by
        refine Table.count_eq_zero.mpr fun lease hlease hholds => ?_
        have hknown := h.known lease hlease
        simp only [decide_eq_true_eq] at hholds
        rw [hholds.1, hid, Table.get?_of_insert? hinsert] at hknown
        cases hknown
      exact hnone ▸ Nat.zero_le _
    · exact h.limit pool' hpool'

/-- A pool is updated, and its limit is not lowered. -/
theorem update_pool {updated : UUID} {payload : RunnerPoolUpdate}
    (h : WithinLimit poolId pools leases)
    (hkeeps : updated = poolId → ∀ pool, pools.get? poolId = some pool →
      ∀ limit ∈ payload.maxConcurrency, pool.maxConcurrency ≤ limit) :
    WithinLimit poolId (pools.modify updated (updatedPool payload)) leases where
  known := by
    intro lease hlease
    rw [Table.get?_modify]
    split
    · rename_i hid
      rw [Option.isSome_map, ← hid]
      exact h.known lease hlease
    · exact h.known lease hlease
  limit := by
    intro pool' hpool'
    rw [Table.get?_modify] at hpool'
    split at hpool'
    · rename_i hid
      obtain ⟨pool, hpool, rfl⟩ := Option.map_eq_some_iff.mp hpool'
      rw [← hid] at hpool
      refine (h.limit pool hpool).trans ?_
      rw [updatedPool]
      cases hlimit : payload.maxConcurrency with
      | none => exact le_rfl
      | some limit => exact hkeeps hid.symm pool hpool limit hlimit
    · exact h.limit pool' hpool'

end WithinLimit

/-- Every write keeps the limit, unless it lowers it. -/
theorem withinLimit_write {effect : Effect} (hw : Write P effect db db')
    (hkeeps : ∀ updated payload, effect = .poolUpdated updated payload → updated = poolId →
      ∀ pool, db.pools.get? poolId = some pool →
      ∀ limit ∈ payload.maxConcurrency, pool.maxConcurrency ≤ limit)
    (hi : WithinLimit poolId db.pools db.leases) : WithinLimit poolId db'.pools db'.leases := by
  cases hw with
  | configured | workersChanged | preferencesChanged | deliveriesRewritten | testDeliveriesAdded
  | outboxChanged | runQueued | runStarted | eventRecorded | eventLogged | cancelRequested
  | dispatchMarked | baselinePublished | packageActivated | requestCreated | requestEdited
  | requestSubmitted | requestReviewed | validationSkipped | validationLinked
  | requestPublished => exact hi
  | poolCreated pool pools hinsert => exact hi.add_pool hinsert
  | poolUpdated updated payload => exact hi.update_pool (hkeeps updated payload rfl)
  | slotBound => exact hi.modify_lease (fun _ => rfl) fun _ => id
  | resultRecorded => exact hi.end_lease (by decide)
  | runCanceled => exact hi.end_lease (by decide)
  | runRecovered => exact hi.end_lease (by decide)
  | leaseReleased =>
    refine hi.modify_lease (fun _ => rfl) fun _ hactive => ?_
    cases hactive
  | leaseAcquired _ _ _ _ _ _ _ leases hacquired hinsert => exact hi.acquire hacquired hinsert

/-! ### Dispatch within capacity -/

theorem Action.allows_poolUpdated {a : Action} {updated : UUID} {payload : RunnerPoolUpdate} :
    a.allows (.poolUpdated updated payload) ↔ a = .updateRunnerPool updated payload := by
  cases a <;> simp [Action.allows, eq_comm]

theorem Action.allows_leaseAcquired {a : Action} {poolId runId : UUID} :
    a.allows (.leaseAcquired poolId runId) ↔ ∃ ctx, a = .dispatchOutboxBatch ctx := by
  cases a <;> simp [Action.allows]

/-- A lease that a step makes active was acquired by a record of a dispatch batch, at a moment when
    the active leases of its pool, those of the records before it included, were below the
    effective capacity. -/
theorem step_acquires {s s' : State} {a : Action} (h : step P s a = .ok s')
    (hbefore : ¬LeaseActive leaseId poolId s.db.leases)
    (hafter : LeaseActive leaseId poolId s'.db.leases) :
    ∃ ctx earlier record later db summary snapshot queuePool pool eligible,
      a = .dispatchOutboxBatch ctx ∧ dueRecords ctx s.db = earlier ++ record :: later ∧
      dispatchRecords ctx earlier (s.db, ⟨0, 0, 0⟩) = .ok (db, summary) ∧
      record.message = .runQueued snapshot queuePool ∧ db.pools.get? poolId = some pool ∧
      eligibleWorkers ctx.dispatchTime ctx.heartbeatTtlSeconds poolId snapshot db =
        .ok eligible ∧
      activeLeases db.leases poolId <
        min pool.maxConcurrency (eligible.map RunnerWorkerRecord.maxSlots).sum := by
  by_cases hdispatch : ∃ ctx, a = .dispatchOutboxBatch ctx
  · obtain ⟨ctx, rfl⟩ := hdispatch
    simp only [step, Action.commit, dispatchOutboxBatch, bind_eq_ok, map_eq_ok, ensure_eq_ok,
      pure_eq_ok] at h
    obtain ⟨_, ⟨⟨db', summary'⟩, ⟨-, -, -, -, -, -, hbatch⟩, rfl⟩, rfl⟩ := h
    obtain ⟨earlier, record, later, ⟨db₁, summary₁⟩, ⟨db₂, summary₂⟩, hrecords, hearlier, hround,
      hnot, hactive⟩ := foldlM_establishes (p := fun x => LeaseActive leaseId poolId x.1.leases)
        hbatch hbefore hafter
    obtain ⟨lease, run, pool, snapshot, eligible, queuePool, hmessage, rfl, hacquired⟩ :=
      dispatchRecord_acquires hround hnot hactive
    exact ⟨ctx, earlier, record, later, db₁, summary₁, snapshot, queuePool, pool, eligible, rfl,
      hrecords, hearlier, hmessage, Table.get?_key hacquired.poolStored, hacquired.workers,
      hacquired.capacity⟩
  · refine absurd ?_ hbefore
    refine (step_writes h).rel
      (r := fun db db' => LeaseActive leaseId poolId db'.leases →
        LeaseActive leaseId poolId db.leases)
      (fun _ => id) (fun _ _ _ hab hbc hc => hab (hbc hc)) (fun effect _ _ hp hw => ?_) hafter
    refine leaseActive_write hw ?_
    rintro poolId runId rfl
    exact hdispatch (Action.allows_leaseAcquired.mp hp)

/-- A step that does not lower the limit of a pool keeps it. -/
theorem withinLimit_step {s s' : State} {a : Action} (h : step P s a = .ok s')
    (hkeeps : KeepsLimit poolId s a) (hi : WithinLimit poolId s.db.pools s.db.leases) :
    WithinLimit poolId s'.db.pools s'.db.leases := by
  by_cases hupdate : ∃ updated payload, a = .updateRunnerPool updated payload
  · obtain ⟨updated, payload, rfl⟩ := hupdate
    simp only [step, Action.commit, updateRunnerPool, bind_eq_ok, found_eq_ok, ensure_eq_ok,
      pure_eq_ok] at h
    obtain ⟨_, ⟨-, -, -, -, rfl⟩, rfl⟩ := h
    exact hi.update_pool hkeeps
  · refine (step_writes h).invariant (p := fun db => WithinLimit poolId db.pools db.leases)
      (fun effect _ _ hp hw => withinLimit_write hw ?_) hi
    rintro updated payload rfl
    exact absurd ⟨updated, payload, Action.allows_poolUpdated.mp hp⟩ hupdate

end TestOps

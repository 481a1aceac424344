import TestOps.Invariants.Capacity
import TestOps.Invariants.Outbox

/-! Where a run of a pool ends up. The dispatcher acquires a lease because some workers of the pool are
    eligible, and publishes to a queue that every worker of the pool reads; the worker that calls back
    first is bound to the lease:

      dispatch   lease ◂── required: what the eligible workers have in common
      callback   lease ◂── boundTo: the worker as it was registered then

    A tracked run of the control plane keeps both beside the state. -/

namespace TestOps

open Checked Relational Transition

variable {P : Primitives} {db db' : Database}

/-! ### Requirements -/

/-- What a dispatch asks of the workers it counts as eligible for a run. -/
structure Requirement where
  snapshot : RunSnapshot
  isolationRank : Nat
  deriving DecidableEq

/-- The worker passes every filter of the dispatcher. -/
def Requirement.MetBy (requirement : Requirement) (worker : RunnerWorkerRecord) : Prop :=
  workerMatches requirement.snapshot.targetType requirement.snapshot.browser worker = true ∧
  workerSupportsExecutionIsolation (requirement.snapshot.targetType = .app ∧
    requirement.snapshot.automationPackage.runnerType = .androidAppium) worker = true ∧
  workerHostsPackage requirement.snapshot.automationPackage worker = true ∧
  workerIsolationRank worker = requirement.isolationRank

instance {requirement : Requirement} {worker : RunnerWorkerRecord} :
    Decidable (requirement.MetBy worker) :=
  inferInstanceAs (Decidable (_ ∧ _ ∧ _ ∧ _))

/-- The greatest rank is the rank of some worker. -/
theorem foldl_max_mem {ranks : List Nat} (hne : ranks ≠ []) : ranks.foldl max 0 ∈ ranks := by
  rw [List.foldl_max_eq_max hne, Nat.zero_max]
  exact List.max_mem hne

/-- The greatest rank of a list of workers. -/
def strongestRank (workers : List RunnerWorkerRecord) : Nat :=
  (workers.map workerIsolationRank).foldl max 0

/-- Of the workers with the greatest rank, that rank is again the greatest. -/
theorem strongestRank_filter {hosting : List RunnerWorkerRecord} (hne : hosting ≠ []) :
    strongestRank (hosting.filter fun worker =>
      workerIsolationRank worker = strongestRank hosting) = strongestRank hosting := by
  have hattained : strongestRank hosting ∈ hosting.map workerIsolationRank :=
    foldl_max_mem (mt List.map_eq_nil_iff.mp hne)
  obtain ⟨best, hbest, hrank⟩ := List.mem_map.mp hattained
  have hkept : best ∈ hosting.filter fun worker =>
      workerIsolationRank worker = strongestRank hosting :=
    List.mem_filter.mpr ⟨hbest, decide_eq_true hrank⟩
  obtain ⟨other, hother, hotherRank⟩ := List.mem_map.mp
    (foldl_max_mem (List.ne_nil_of_mem (List.mem_map_of_mem (f := workerIsolationRank) hkept)))
  rw [strongestRank, ← hotherRank]
  exact of_decide_eq_true (List.mem_filter.mp hother).2

/-- The requirement that the eligible workers of a run meet. -/
def eligibleRequirement (snapshot : RunSnapshot) (eligible : List RunnerWorkerRecord) :
    Requirement :=
  ⟨snapshot, strongestRank eligible⟩

/-- The eligible workers are the strongest of those that pass the filters before the last one. -/
theorem eligibleWorkers_ok {dispatchTime : Instant} {heartbeatTtlSeconds : Nat} {poolId : UUID}
    {snapshot : RunSnapshot} {eligible : List RunnerWorkerRecord}
    (h : eligibleWorkers dispatchTime heartbeatTtlSeconds poolId snapshot db = .ok eligible) :
    ∃ hosting, hosting ≠ [] ∧
      (∀ worker, worker ∈ hosting ↔
        worker ∈ healthyWorkers dispatchTime heartbeatTtlSeconds poolId db ∧
        workerMatches snapshot.targetType snapshot.browser worker = true ∧
        workerSupportsExecutionIsolation (snapshot.targetType = .app ∧
          snapshot.automationPackage.runnerType = .androidAppium) worker = true ∧
        workerHostsPackage snapshot.automationPackage worker = true) ∧
      eligible = hosting.filter fun worker =>
        workerIsolationRank worker = strongestRank hosting := by
  simp only [eligibleWorkers, bind_eq_ok, ensure_eq_ok, pure_eq_ok] at h
  obtain ⟨-, -, -, -, -, -, -, hhosting, rfl⟩ := h
  refine ⟨_, hhosting, fun worker => ?_, rfl⟩
  simp only [List.mem_filter, and_assoc]

/-- The eligible workers are the healthy ones that meet their common requirement. -/
theorem mem_eligibleWorkers {dispatchTime : Instant} {heartbeatTtlSeconds : Nat} {poolId : UUID}
    {snapshot : RunSnapshot} {eligible : List RunnerWorkerRecord}
    (h : eligibleWorkers dispatchTime heartbeatTtlSeconds poolId snapshot db = .ok eligible)
    {worker : RunnerWorkerRecord} :
    worker ∈ eligible ↔ worker ∈ healthyWorkers dispatchTime heartbeatTtlSeconds poolId db ∧
      (eligibleRequirement snapshot eligible).MetBy worker := by
  obtain ⟨hosting, hne, hhosting, rfl⟩ := eligibleWorkers_ok h
  rw [Requirement.MetBy, eligibleRequirement, strongestRank_filter hne, List.mem_filter,
    decide_eq_true_eq, hhosting]
  tauto

/-! ### Tracked runs -/

/-- A state with two facts about each lease: the requirement the dispatcher acquired it with, and the
    worker, as it was registered, that was bound to it first. -/
structure Tracked where
  state : State
  required : UUID → Option Requirement
  boundTo : UUID → Option RunnerWorkerRecord

def Tracked.init : Tracked := ⟨.init, fun _ => none, fun _ => none⟩

/-- The requirement a dispatch batch acquires a lease with. -/
def dispatchRequirement (ctx : DispatchContext) (db : Database) (lease : RunnerSlotLeaseRecord) :
    Option Requirement :=
  (db.runs.get? lease.runId).bind fun run =>
    match eligibleWorkers ctx.dispatchTime ctx.heartbeatTtlSeconds lease.poolId run.snapshot db with
    | .ok eligible => some (eligibleRequirement run.snapshot eligible)
    | .error _ => none

def newRequirement (before after : Database) (leaseId : UUID) : Action → Option Requirement
  | .dispatchOutboxBatch ctx => (after.leases.get? leaseId).bind (dispatchRequirement ctx before)
  | _ => none

def newBinding (before after : Database) (leaseId : UUID) : Option RunnerWorkerRecord :=
  ((after.leases.get? leaseId).bind RunnerSlotLeaseRecord.workerId).bind before.workers.get?

/-- A step of the control plane; what is known about a lease already stays. -/
def trackedStep (P : Primitives) (t : Tracked) (a : Action) : Except ServiceError Tracked := do
  let s ← step P t.state a
  return ⟨s, fun leaseId => t.required leaseId <|> newRequirement t.state.db s.db leaseId a,
    fun leaseId => t.boundTo leaseId <|> newBinding t.state.db s.db leaseId⟩

def tracked (P : Primitives) : System Tracked Action :=
  machine (· = Tracked.init) (trackedStep P)

/-- Every worker bound to a lease met what the dispatcher asked for, for the run of the lease. -/
def SoundlyPlaced (t : Tracked) : Prop :=
  ∀ lease ∈ t.state.db.leases, ∀ workerId, lease.workerId = some workerId →
    ∃ worker requirement run, t.boundTo lease.id = some worker ∧ worker.id = workerId ∧
      t.required lease.id = some requirement ∧ run ∈ t.state.db.runs ∧ run.id = lease.runId ∧
      requirement.snapshot = run.snapshot ∧ requirement.MetBy worker

/-- A worker that is the first to call back for a run meets the requirement of its lease. -/
def CallerQualified (t : Tracked) : Action → Prop
  | .updateRunStatus _ runId _ (some workerKey) =>
    ∀ lease ∈ activeLease t.state.db.leases runId, lease.workerId = none →
    ∀ worker ∈ t.state.db.workers.first? fun worker => worker.workerKey = workerKey,
    ∀ requirement ∈ t.required lease.id, requirement.MetBy worker
  | _ => True

theorem trackedStep_ok {t t' : Tracked} {a : Action} (h : trackedStep P t a = .ok t') :
    step P t.state a = .ok t'.state ∧
    (∀ leaseId, t'.required leaseId =
      (t.required leaseId <|> newRequirement t.state.db t'.state.db leaseId a)) ∧
    ∀ leaseId, t'.boundTo leaseId =
      (t.boundTo leaseId <|> newBinding t.state.db t'.state.db leaseId) := by
  simp only [trackedStep, bind_eq_ok, pure_eq_ok] at h
  obtain ⟨s, hs, rfl⟩ := h
  exact ⟨hs, fun _ => rfl, fun _ => rfl⟩

theorem tracked_reachable {t : Tracked} (h : (tracked P).Reachable t) :
    (controlPlane P).Reachable t.state := by
  induction h with
  | init h => cases h; exact .init rfl
  | step _ hstep ih => exact ih.step (trackedStep_ok hstep).1

/-! ### Where a lease comes from -/

/-- The same lease, with the same worker. -/
structure SameLease (lease lease' : RunnerSlotLeaseRecord) : Prop where
  id : lease'.id = lease.id
  poolId : lease'.poolId = lease.poolId
  runId : lease'.runId = lease.runId
  workerId : lease'.workerId = lease.workerId

theorem SameLease.refl (lease : RunnerSlotLeaseRecord) : SameLease lease lease :=
  ⟨rfl, rfl, rfl, rfl⟩

theorem SameLease.trans {a b c : RunnerSlotLeaseRecord} (h : SameLease a b) (h' : SameLease b c) :
    SameLease a c :=
  ⟨h'.id.trans h.id, h'.poolId.trans h.poolId, h'.runId.trans h.runId,
    h'.workerId.trans h.workerId⟩

/-- No lease is new, and none is bound. -/
def LeasesKept (leases leases' : LeaseTable) : Prop :=
  ∀ lease' ∈ leases', ∃ lease ∈ leases, SameLease lease lease'

theorem LeasesKept.refl (leases : LeaseTable) : LeasesKept leases leases :=
  fun lease hlease => ⟨lease, hlease, .refl lease⟩

theorem LeasesKept.trans {a b c : LeaseTable} (h : LeasesKept a b) (h' : LeasesKept b c) :
    LeasesKept a c := by
  intro lease'' hlease''
  obtain ⟨lease', hlease', hsame'⟩ := h' lease'' hlease''
  obtain ⟨lease, hlease, hsame⟩ := h lease' hlease'
  exact ⟨lease, hlease, hsame.trans hsame'⟩

theorem LeasesKept.modify {leases : LeaseTable} {leaseId : UUID}
    {f : RunnerSlotLeaseRecord → RunnerSlotLeaseRecord} {hf : KeepsKey RunnerSlotLeaseRecord.id f}
    (hsame : ∀ lease, SameLease lease (f lease)) : LeasesKept leases (leases.modify leaseId f hf) := by
  intro lease' hlease'
  obtain ⟨lease, hlease, rfl⟩ := Table.mem_modify.mp hlease'
  refine ⟨lease, hlease, ?_⟩
  split
  · exact hsame lease
  · exact .refl lease

theorem LeasesKept.endLease {leases : LeaseTable} {runId : UUID} {status : LeaseStatus}
    {now : Instant} : LeasesKept leases (endLease leases runId status now) := by
  rw [TestOps.endLease]
  split
  · exact .refl leases
  · exact .modify fun _ => ⟨rfl, rfl, rfl, rfl⟩

theorem Action.allows_slotBound {a : Action} : a.allows .slotBound ↔
    ∃ now runId target workerKey, a = .updateRunStatus now runId target workerKey := by
  cases a <;> simp [Action.allows]

theorem leasesKept_write {effect : Effect} (hw : Write P effect db db')
    (hbound : effect ≠ .slotBound) (hacquired : ∀ poolId runId, effect ≠ .leaseAcquired poolId runId) :
    LeasesKept db.leases db'.leases := by
  cases hw with
  | slotBound => exact absurd rfl hbound
  | leaseAcquired => exact absurd rfl (hacquired _ _)
  | resultRecorded => exact .endLease
  | runCanceled => exact .endLease
  | runRecovered => exact .endLease
  | leaseReleased => exact .modify fun _ => ⟨rfl, rfl, rfl, rfl⟩
  | _ => exact .refl _

/-! ### Leases of a dispatch batch -/

/-- What the records of a batch leave to the records after them: the same workers, the same runs up
    to their dispatch columns, and no lease less. -/
structure BatchFrame (db db' : Database) : Prop where
  workers : db'.workers = db.workers
  runs : ∀ run' ∈ db'.runs, ∃ run ∈ db.runs, run.id = run'.id ∧ run.snapshot = run'.snapshot
  leases : ∀ lease ∈ db.leases, ∃ lease' ∈ db'.leases, lease'.id = lease.id

theorem BatchFrame.refl (db : Database) : BatchFrame db db :=
  ⟨rfl, fun run hrun => ⟨run, hrun, rfl, rfl⟩, fun lease hlease => ⟨lease, hlease, rfl⟩⟩

theorem BatchFrame.trans {a b c : Database} (h : BatchFrame a b) (h' : BatchFrame b c) :
    BatchFrame a c where
  workers := h'.workers.trans h.workers
  runs := by
    intro run'' hrun''
    obtain ⟨run', hrun', hid', hsnapshot'⟩ := h'.runs run'' hrun''
    obtain ⟨run, hrun, hid, hsnapshot⟩ := h.runs run' hrun'
    exact ⟨run, hrun, hid.trans hid', hsnapshot.trans hsnapshot'⟩
  leases := by
    intro lease hlease
    obtain ⟨lease', hlease', hid⟩ := h.leases lease hlease
    obtain ⟨lease'', hlease'', hid'⟩ := h'.leases lease' hlease'
    exact ⟨lease'', hlease'', hid'.trans hid⟩

theorem batchFrame_write {ctx : DispatchContext} {effect : Effect} (hw : Write P effect db db')
    (heffect : (Action.dispatchOutboxBatch ctx).allows effect) : BatchFrame db db' := by
  have hrefl := BatchFrame.refl db
  obtain ⟨poolId, runId, rfl⟩ | ⟨leaseId, rfl⟩ | ⟨runId, rfl⟩ | rfl := heffect
  · cases hw with
    | leaseAcquired _ _ _ _ _ _ _ leases _ hinsert =>
      exact ⟨rfl, hrefl.runs, fun lease hlease =>
        ⟨lease, (Table.mem_insert? hinsert).mpr (.inl hlease), rfl⟩⟩
  · cases hw with
    | leaseReleased leaseId moment =>
      refine ⟨rfl, hrefl.runs, fun lease hlease => ⟨_, Table.mem_modify_image hlease, ?_⟩⟩
      split <;> rfl
  · cases hw with
    | dispatchMarked _ mark hm =>
      refine ⟨rfl, fun run' hrun' => ?_, hrefl.leases⟩
      obtain ⟨run, hrun, rfl⟩ := Table.mem_modify.mp hrun'
      refine ⟨run, hrun, ?_⟩
      split
      · cases hm <;> exact ⟨rfl, rfl⟩
      · exact ⟨rfl, rfl⟩
  · cases hw
    exact ⟨rfl, hrefl.runs, hrefl.leases⟩

/-- A lease after a record was there before, or the record acquired it. -/
theorem dispatchRecord_leases {ctx : DispatchContext} {record : DispatchOutboxRecord}
    {summary summary' : DispatchSummary}
    (h : dispatchRecord ctx record db summary = .ok (db', summary')) :
    ∀ lease' ∈ db'.leases, (∃ lease ∈ db.leases, SameLease lease lease') ∨
      ∃ lease run pool snapshot eligible queuePool, SameLease lease lease' ∧
        record.message = .runQueued snapshot queuePool ∧ run.id = record.aggregateId ∧
        db.leases.get? lease.id = none ∧
        Acquisition ctx.dispatchTime ctx.heartbeatTtlSeconds db lease run pool snapshot
          eligible := by
  rw [dispatchRecord] at h
  split at h
  · simp only [pure_eq_ok, Prod.mk.injEq] at h
    obtain ⟨rfl, -⟩ := h
    exact fun lease hlease => .inl ⟨lease, hlease, .refl lease⟩
  · cases h
  · rename_i db₁ prepared hprepare
    have hkept : LeasesKept db₁.leases db'.leases := by
      split at h
      · simp only [pure_eq_ok, Prod.mk.injEq] at h
        exact h.1 ▸ .refl _
      · split at h
        · simp only [pure_eq_ok, Prod.mk.injEq] at h
          rw [← h.1, failDispatch]
          cases prepared.lease with
          | none => exact .refl _
          | some lease => exact .modify fun _ => ⟨rfl, rfl, rfl, rfl⟩
        · simp only [pure_eq_ok, Prod.mk.injEq] at h
          exact h.1 ▸ .refl _
    intro lease' hlease'
    obtain ⟨lease, hlease, hsame⟩ := hkept lease' hlease'
    cases prepareRunDispatch_ok hprepare with
    | ready => exact .inl ⟨lease, hlease, hsame⟩
    | ended => exact .inl ⟨lease, hlease, hsame⟩
    | @acquired new run pool snapshot eligible queuePool leases hmessage hrun hacquired hinsert =>
      rcases (Table.mem_insert? hinsert).mp hlease with hold | rfl
      · exact .inl ⟨lease, hold, hsame⟩
      · exact .inr ⟨_, _, _, _, _, _, hsame, hmessage, hrun, Table.get?_of_insert? hinsert,
          hacquired⟩

/-- A dispatch batch that starts from `db` acquires the lease. -/
structure Acquired (ctx : DispatchContext) (db : Database) (lease : RunnerSlotLeaseRecord) :
    Prop where
  fresh : db.leases.get? lease.id = none
  unbound : lease.workerId = none
  eligible : ∃ run ∈ db.runs, run.id = lease.runId ∧ ∃ eligible, eligibleWorkers ctx.dispatchTime
    ctx.heartbeatTtlSeconds lease.poolId run.snapshot db = .ok eligible

theorem Acquired.same {ctx : DispatchContext} {lease lease' : RunnerSlotLeaseRecord}
    (h : Acquired ctx db lease) (hsame : SameLease lease lease') : Acquired ctx db lease' where
  fresh := by rw [hsame.id]; exact h.fresh
  unbound := hsame.workerId.trans h.unbound
  eligible := by rw [hsame.runId, hsame.poolId]; exact h.eligible

/-- Eligibility depends on the workers alone. -/
theorem eligibleWorkers_congr {dispatchTime : Instant} {heartbeatTtlSeconds : Nat} {poolId : UUID}
    {snapshot : RunSnapshot} (h : db'.workers = db.workers) :
    eligibleWorkers dispatchTime heartbeatTtlSeconds poolId snapshot db' =
      eligibleWorkers dispatchTime heartbeatTtlSeconds poolId snapshot db := by
  have hhealthy : healthyWorkers dispatchTime heartbeatTtlSeconds poolId db' =
      healthyWorkers dispatchTime heartbeatTtlSeconds poolId db := by
    rw [healthyWorkers, healthyWorkers, h]
  rw [eligibleWorkers, eligibleWorkers, hhealthy]

/-- The leases of a batch: those from before, and those its records acquire with the workers and the
    snapshots from before. -/
theorem dispatchOutboxBatch_leases (P : Primitives) {ctx : DispatchContext} {summary : DispatchSummary}
    (hi : OutboxState db.runs db.outbox)
    (h : dispatchOutboxBatch ctx db = .ok (db', summary)) :
    ∀ lease' ∈ db'.leases, (∃ lease ∈ db.leases, SameLease lease lease') ∨
      Acquired ctx db lease' := by
  simp only [dispatchOutboxBatch, bind_eq_ok, ensure_eq_ok] at h
  obtain ⟨-, -, -, -, -, -, h⟩ := h
  refine (foldlM_invariant (fun x : Database × DispatchSummary => BatchFrame db x.1 ∧
    ∀ lease' ∈ x.1.leases, (∃ lease ∈ db.leases, SameLease lease lease') ∨
      Acquired ctx db lease') ?_ h
    ⟨.refl db, fun lease hlease => .inl ⟨lease, hlease, .refl lease⟩⟩).2
  rintro ⟨db₁, summary₁⟩ record ⟨db₂, summary₂⟩ hrecord hround ⟨hframe, hleases⟩
  have hwrites : Writes P (Action.dispatchOutboxBatch ctx).allows db₁ db₂ :=
    dispatchRecord_writes (fun runId => .inr (.inr (.inl ⟨runId, rfl⟩)))
      (fun leaseId => .inr (.inl ⟨leaseId, rfl⟩)) (fun poolId runId => .inl ⟨poolId, runId, rfl⟩)
      (.inr (.inr (.inr rfl))) hround
  refine ⟨hframe.trans (hwrites.rel .refl (fun _ _ _ => .trans) fun _ _ _ hp hw =>
    batchFrame_write hw hp), fun lease' hlease' => ?_⟩
  rcases dispatchRecord_leases hround lease' hlease' with ⟨lease, hlease, hsame⟩ |
    ⟨lease, run₁, pool, snapshot, eligible, queuePool, hsame, hmessage, hrun, hfree, hacquired⟩
  · rcases hleases lease hlease with ⟨old, hold, hsame'⟩ | hacquired
    · exact .inl ⟨old, hold, hsame'.trans hsame⟩
    · exact .inr (hacquired.same hsame)
  · refine .inr (Acquired.same ?_ hsame)
    have hstored : record ∈ db.outbox := by
      simp only [dueRecords] at hrecord
      exact (List.mem_filter.mp ((List.perm_insertionSort _ _).mem_iff.mp
        (List.mem_of_mem_take hrecord))).1
    obtain ⟨run, hmem, hdispatches⟩ := hi.queued record hstored snapshot queuePool hmessage
    obtain ⟨queuePool', hmessage'⟩ := hdispatches.message
    rw [hmessage, OutboxMessage.runQueued.injEq] at hmessage'
    have heligible := hacquired.workers
    rw [eligibleWorkers_congr hframe.workers, hmessage'.1] at heligible
    rw [hacquired.lease]
    refine ⟨?_, rfl, run, hmem, ?_, eligible, heligible⟩
    · refine Table.get?_eq_none.mpr fun old hold hid => ?_
      obtain ⟨old', hold', hid'⟩ := hframe.leases old hold
      exact Table.get?_eq_none.mp hfree old' hold' (hid'.trans hid)
    · exact (hdispatches.aggregateId.symm.trans hrun.symm)

/-! ### Leases of a step -/

/-- Where a lease after a step comes from. -/
inductive LeaseOrigin (s : State) (a : Action) (lease' : RunnerSlotLeaseRecord) : Prop
  | kept (lease : RunnerSlotLeaseRecord) : lease ∈ s.db.leases → SameLease lease lease' →
      LeaseOrigin s a lease'
  /-- The first callback binds the worker that makes it. -/
  | bound (now : Instant) (runId : UUID) (target : RunStatus) (workerKey : String)
      (lease : RunnerSlotLeaseRecord) (worker : RunnerWorkerRecord) :
      a = .updateRunStatus now runId target (some workerKey) →
      activeLease s.db.leases runId = some lease → lease.workerId = none →
      (s.db.workers.first? fun worker => worker.workerKey = workerKey) = some worker →
      SameLease { lease with workerId := some worker.id } lease' → LeaseOrigin s a lease'
  | acquired (ctx : DispatchContext) : a = .dispatchOutboxBatch ctx → Acquired ctx s.db lease' →
      LeaseOrigin s a lease'

theorem bindRunnerSlot_leases {now : Instant} {run : TestRunRecord} {workerKey : Option String}
    {leases : LeaseTable} {workers : Table RunnerWorkerRecord.id}
    (h : bindRunnerSlot now run workerKey db = .ok (leases, workers)) :
    LeasesKept db.leases leases ∨ ∃ key lease worker, workerKey = some key ∧
      activeLease db.leases run.id = some lease ∧ lease.workerId = none ∧
      (db.workers.first? fun worker => worker.workerKey = key) = some worker ∧
      leases = db.leases.modify lease.id fun lease => { lease with workerId := some worker.id } := by
  cases workerKey with
  | none =>
    simp only [bindRunnerSlot, pure_eq_ok, Prod.mk.injEq] at h
    exact .inl (h.1 ▸ .refl _)
  | some key =>
    rw [bindRunnerSlot] at h
    split at h
    · simp only [pure_eq_ok, Prod.mk.injEq] at h
      exact .inl (h.1 ▸ .refl _)
    · simp only [bind_eq_ok, ensure_eq_ok, found_eq_ok, pure_eq_ok, Prod.mk.injEq] at h
      obtain ⟨lease, hlease, worker, hworker, -, -, -, -, -, hunbound, rfl, -⟩ := h
      cases hbound : lease.workerId with
      | none => exact .inr ⟨key, lease, worker, rfl, hlease, hbound, hworker, rfl⟩
      | some workerId =>
        left
        intro lease' hlease'
        obtain ⟨old, hold, rfl⟩ := Table.mem_modify.mp hlease'
        refine ⟨old, hold, ?_⟩
        split
        · rename_i hid
          obtain rfl := Table.eq_of_key_eq hold (Table.mem_of_first? hlease) hid
          have hsame : workerId = worker.id := hunbound workerId hbound
          exact ⟨rfl, rfl, rfl, by rw [hbound, hsame]⟩
        · exact .refl old

theorem step_leases {s s' : State} {a : Action} (hs : (controlPlane P).Reachable s)
    (h : step P s a = .ok s') : ∀ lease' ∈ s'.db.leases, LeaseOrigin s a lease' := by
  by_cases hdispatch : ∃ ctx, a = .dispatchOutboxBatch ctx
  · obtain ⟨ctx, rfl⟩ := hdispatch
    simp only [step, Action.commit, bind_eq_ok, map_eq_ok, pure_eq_ok, Prod.exists,
      exists_and_right, exists_eq_right] at h
    obtain ⟨db, ⟨summary, hbatch⟩, rfl⟩ := h
    intro lease' hlease'
    rcases dispatchOutboxBatch_leases P (outboxState_reachable hs) hbatch lease' hlease' with
      ⟨lease, hlease, hsame⟩ | hacquired
    · exact .kept lease hlease hsame
    · exact .acquired ctx rfl hacquired
  by_cases hstatus : ∃ now runId target workerKey, a = .updateRunStatus now runId target workerKey
  · obtain ⟨now, runId, target, workerKey, rfl⟩ := hstatus
    simp only [step, Action.commit, bind_eq_ok, pure_eq_ok] at h
    obtain ⟨db, hupdate, rfl⟩ := h
    obtain ⟨run, leases, workers, hrun, hbind, hdb⟩ := updateRunStatus_ok hupdate
    have hleases : db.leases = leases := by
      rcases hdb with rfl | ⟨-, -, -, -, rfl⟩ <;> rfl
    obtain rfl := Table.key_of_get? hrun
    intro lease' hlease'
    rw [hleases] at hlease'
    rcases bindRunnerSlot_leases hbind with hkept | ⟨key, lease, worker, rfl, hlease, hnone,
      hworker, rfl⟩
    · obtain ⟨lease, hlease, hsame⟩ := hkept lease' hlease'
      exact .kept lease hlease hsame
    · obtain ⟨old, hold, rfl⟩ := Table.mem_modify.mp hlease'
      split
      · rename_i hid
        obtain rfl := Table.eq_of_key_eq hold (Table.mem_of_first? hlease) hid
        exact .bound now run.id target key old worker rfl hlease hnone hworker (.refl _)
      · exact .kept old hold (.refl old)
  · have hkept : LeasesKept s.db.leases s'.db.leases := by
      refine (step_writes h).rel (r := fun db db' => LeasesKept db.leases db'.leases)
        (fun _ => .refl _) (fun _ _ _ => .trans) fun effect _ _ hp hw => leasesKept_write hw ?_ ?_
      · rintro rfl
        exact hstatus (Action.allows_slotBound.mp hp)
      · rintro poolId runId rfl
        exact hdispatch (Action.allows_leaseAcquired.mp hp)
    intro lease' hlease'
    obtain ⟨lease, hlease, hsame⟩ := hkept lease' hlease'
    exact .kept lease hlease hsame

/-- No step deletes a lease. -/
theorem leases_write {effect : Effect} (hw : Write P effect db db') :
    db.leases.Evolves (fun _ _ => True) db'.leases := by
  have hrefl : db.leases.Evolves (fun _ _ => True) db.leases := .refl fun _ => trivial
  have hend : ∀ runId status now, db.leases.Evolves (fun _ _ => True)
      (endLease db.leases runId status now) := by
    intro runId status now
    rw [endLease]
    split
    · exact hrefl
    · exact .modify (fun _ => trivial) fun _ _ => trivial
  cases hw with
  | slotBound => exact .modify (fun _ => trivial) fun _ _ => trivial
  | leaseReleased => exact .modify (fun _ => trivial) fun _ _ => trivial
  | leaseAcquired _ _ _ _ _ _ _ _ _ hinsert => exact .insert? (fun _ => trivial) hinsert
  | resultRecorded => exact hend _ _ _
  | runCanceled => exact hend _ _ _
  | runRecovered => exact hend _ _ _
  | _ => exact hrefl

theorem leases_step {s s' : State} {a : Action} (h : step P s a = .ok s') {leaseId : UUID}
    (hnone : s'.db.leases.get? leaseId = none) : s.db.leases.get? leaseId = none := by
  have hevolves := (step_writes h).rel
    (r := fun db db' => db.leases.Evolves (fun _ _ => True) db'.leases)
    (fun _ => .refl fun _ => trivial) (fun _ _ _ => .trans fun _ _ _ _ _ => trivial)
    fun _ _ _ _ hw => leases_write hw
  cases hlease : s.db.leases.get? leaseId with
  | none => rfl
  | some lease =>
    obtain ⟨lease', hlease', -⟩ := hevolves.get? hlease
    rw [hnone] at hlease'
    cases hlease'

/-! ### Sound placement -/

/-- What is known about a stored lease. -/
structure Placed (t : Tracked) (lease : RunnerSlotLeaseRecord) : Prop where
  bound : lease.workerId = (t.boundTo lease.id).map RunnerWorkerRecord.id
  required : ∃ requirement run, t.required lease.id = some requirement ∧ run ∈ t.state.db.runs ∧
    run.id = lease.runId ∧ requirement.snapshot = run.snapshot ∧
    ∀ worker, t.boundTo lease.id = some worker → requirement.MetBy worker

/-- Everything known is about stored leases, and every stored lease is accounted for. -/
structure PlacementState (t : Tracked) : Prop where
  placed : ∀ lease ∈ t.state.db.leases, Placed t lease
  unknown : ∀ leaseId, t.state.db.leases.get? leaseId = none →
    t.required leaseId = none ∧ t.boundTo leaseId = none

/-- A run is still there after a step, with the same snapshot. -/
theorem run_persists {s s' : State} {a : Action} (h : step P s a = .ok s') {run : TestRunRecord}
    (hrun : run ∈ s.db.runs) : ∃ run' ∈ s'.db.runs, run'.id = run.id ∧ run'.snapshot = run.snapshot := by
  obtain ⟨run', hrun', hid, hfollow⟩ := follows_step h run hrun
  exact ⟨run', hrun', hid, hfollow.snapshot⟩

theorem placementState_step {t t' : Tracked} {a : Action}
    (hs : (controlPlane P).Reachable t.state) (hguard : CallerQualified t a)
    (h : trackedStep P t a = .ok t') (hi : PlacementState t) : PlacementState t' := by
  obtain ⟨hstep, hrequired, hbound⟩ := trackedStep_ok h
  constructor
  case unknown =>
    intro leaseId hnone
    obtain ⟨hreq, hbind⟩ := hi.unknown leaseId (leases_step hstep hnone)
    rw [hrequired, hbound, hreq, hbind]
    constructor
    · cases a <;> simp [newRequirement, hnone]
    · simp [newBinding, hnone]
  case placed =>
    intro lease' hlease'
    have hget : t'.state.db.leases.get? lease'.id = some lease' := Table.get?_key hlease'
    cases step_leases hs hstep lease' hlease' with
    | kept lease hlease hsame =>
      obtain ⟨hworker, requirement, run, hreq, hrun, hid, hsnapshot, hmet⟩ := hi.placed lease hlease
      obtain ⟨run', hrun', hid', hsnapshot'⟩ := run_persists hstep hrun
      have hkept : t'.boundTo lease'.id = t.boundTo lease.id := by
        rw [hbound, newBinding, hget, Option.bind_some, hsame.workerId, hsame.id, hworker]
        cases t.boundTo lease.id <;> rfl
      refine ⟨by rw [hkept, hsame.workerId, hworker], requirement, run', ?_, hrun',
        by rw [hid', hid, hsame.runId], by rw [hsnapshot, hsnapshot'], by rwa [hkept]⟩
      rw [hrequired, hsame.id, hreq]
      rfl
    | bound now runId target workerKey lease worker ha hlease hunbound hworker hsame =>
      subst ha
      obtain ⟨hnone, requirement, run, hreq, hrun, hid, hsnapshot, -⟩ :=
        hi.placed lease (Table.mem_of_first? hlease)
      obtain ⟨run', hrun', hid', hsnapshot'⟩ := run_persists hstep hrun
      have hfirst : t'.boundTo lease'.id = some worker := by
        rw [hunbound, eq_comm, Option.map_eq_none_iff] at hnone
        rw [hbound, newBinding, hget, Option.bind_some, hsame.workerId, hsame.id, hnone]
        exact Table.get?_key (Table.mem_of_first? hworker)
      refine ⟨by rw [hfirst, hsame.workerId]; rfl, requirement, run', ?_, hrun',
        by rw [hid', hid, hsame.runId], by rw [hsnapshot, hsnapshot'], fun other hother => ?_⟩
      · rw [hrequired, hsame.id, hreq]
        rfl
      · rw [hfirst] at hother
        cases hother
        exact hguard lease hlease hunbound worker hworker requirement hreq
    | acquired ctx ha hacquired =>
      subst ha
      obtain ⟨hreq, hbind⟩ := hi.unknown lease'.id hacquired.fresh
      obtain ⟨run, hrun, hid, eligible, heligible⟩ := hacquired.eligible
      obtain ⟨run', hrun', hid', hsnapshot'⟩ := run_persists hstep hrun
      have hnone : t'.boundTo lease'.id = none := by
        rw [hbound, newBinding, hget, Option.bind_some, hacquired.unbound, hbind]
        rfl
      refine ⟨by rw [hnone, hacquired.unbound]; rfl, eligibleRequirement run.snapshot eligible, run',
        ?_, hrun', by rw [hid', hid], by rw [hsnapshot']; rfl, by simp [hnone]⟩
      rw [hrequired, hreq, newRequirement, hget, Option.bind_some, dispatchRequirement, ← hid,
        Table.get?_key hrun, Option.bind_some, heligible]
      rfl

/-- In every run whose first callbacks all come from workers that meet the requirement of their lease,
    every bound worker meets what the dispatcher filtered the eligible workers by. -/
theorem placement_sound {t : Tracked}
    (h : ((tracked P).restrict CallerQualified).Reachable t) : SoundlyPlaced t := by
  have hi : PlacementState t := by
    refine h.invariant_of (k := fun t => (controlPlane P).Reachable t.state)
      (fun _ hr => tracked_reachable hr.of_restrict) ?_ ?_
    · rintro t rfl
      exact ⟨fun _ hlease => absurd hlease Table.not_mem_empty, fun _ _ => ⟨rfl, rfl⟩⟩
    · exact fun t a t' hstep hr _ hi => placementState_step hr hstep.1 hstep.2 hi
  intro lease hlease workerId hworker
  obtain ⟨hbound, requirement, run, hrequired, hrun, hid, hsnapshot, hmet⟩ := hi.placed lease hlease
  rw [hworker, eq_comm, Option.map_eq_some_iff] at hbound
  obtain ⟨worker, hworkerBound, rfl⟩ := hbound
  exact ⟨worker, requirement, run, hworkerBound, rfl, hrequired, hrun, hid, hsnapshot,
    hmet worker hworkerBound⟩

namespace Installation

theorem oneSlot : 1 ≤ 1 ∧ 1 ≤ 100 := by decide

/-- A second worker of pool 7, which hosts no package. -/
def registerOther : Action :=
  .heartbeatRunnerWorker 0 9 "other"
    ⟨"web", "Other", "1", 1, { capabilities with automationPackages := [] }, oneSlot⟩

/-- Run 20 is dispatched for the sake of the first worker. -/
def dispatchMixed : List Action := setUp ++ [registerOther, queueRun, dispatchBatch]

end Installation

open Installation in
/-- The second worker takes the task of run 20 from the queue of the pool, and gets the slot. -/
theorem foreign_worker_gets_slot :
    ∃ t, (tracked primitives).Reachable t ∧ ¬SoundlyPlaced t := by
  have hrun : Ends (trackedStep primitives) Tracked.init
      (dispatchMixed ++ [.updateRunStatus 0 20 .preparing (some "other")]) fun t =>
      ∃ lease ∈ t.state.db.leases.rows, lease.workerId = some 9 ∧
        ∃ worker ∈ t.boundTo lease.id, ∃ requirement ∈ t.required lease.id,
          ¬requirement.MetBy worker := by
    decide +kernel
  obtain ⟨t, ht, lease, hlease, hworker, worker, hbound, requirement, hrequired, hnot⟩ :=
    hrun.exists_reachable (S := tracked primitives) (fun _ _ _ _ hstep => hstep) rfl
  refine ⟨t, ht, fun hsound => ?_⟩
  obtain ⟨worker', requirement', -, hbound', -, hrequired', -, -, -, hmet⟩ :=
    hsound lease hlease 9 hworker
  rw [Option.mem_def.mp hbound, Option.some.injEq] at hbound'
  rw [Option.mem_def.mp hrequired, Option.some.injEq] at hrequired'
  exact hnot (hbound' ▸ hrequired' ▸ hmet)

open Installation in
/-- When the eligible worker takes the task, the run is placed soundly. -/
theorem placement_sound_eligible :
    ∃ t, ((tracked primitives).restrict CallerQualified).Reachable t ∧
      (∃ lease ∈ t.state.db.leases.rows, lease.workerId = some 8) ∧ SoundlyPlaced t := by
  have hdispatched : Ends (trackedStep primitives) Tracked.init dispatchMixed fun t =>
        (∀ lease ∈ activeLease t.state.db.leases 20, lease.workerId = none →
          ∀ worker ∈ t.state.db.workers.first? fun worker => worker.workerKey = "worker",
          ∀ requirement ∈ t.required lease.id, requirement.MetBy worker) ∧
        Ends (trackedStep primitives) t [.updateRunStatus 0 20 .preparing (some "worker")]
          fun t => ∃ lease ∈ t.state.db.leases.rows, lease.workerId = some 8 := by
    decide +kernel
  have hothers : ∀ a ∈ dispatchMixed, ∀ t, CallerQualified t a := by
    simp [CallerQualified, dispatchMixed, setUp, registerOther, queueRun, dispatchBatch]
  obtain ⟨t, ht, hcaller, hbound⟩ := hdispatched.exists_reachable
    (S := (tracked primitives).restrict CallerQualified)
    (fun a ha t _ hstep => ⟨hothers a ha t, hstep⟩) rfl
  have hqualified : CallerQualified t (.updateRunStatus 0 20 .preparing (some "worker")) := hcaller
  obtain ⟨t', hstep, hlease⟩ := ends_singleton.mp hbound
  have ht' : ((tracked primitives).restrict CallerQualified).Reachable t' :=
    ht.step ⟨hqualified, hstep⟩
  exact ⟨t', ht', hlease, placement_sound ht'⟩

end TestOps

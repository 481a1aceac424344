import TestOps.ControlPlane.RunLifecycle

/-! The transactional outbox. A batch takes the oldest pending records and publishes each as a
    task; a run of a pool needs a slot lease first, which it gets only while the pool has capacity
    left on its healthy, capable, isolated workers that host the run's package. All records of a
    batch share one transaction, so a record sees the leases of the records before it. -/

namespace TestOps

open Checked Relational

variable {db db' : Database}

/-! ### Eligible workers -/

def workerMatches (targetType : TargetType) (browser : Option String)
    (worker : RunnerWorkerRecord) : Bool :=
  targetType ∈ worker.capabilities.targetTypes ∧
    ∀ name ∈ browser, name ∈ worker.capabilities.browsers

def workerHostsPackage (package : AutomationPackageRef) (worker : RunnerWorkerRecord) : Bool :=
  worker.capabilities.automationPackages.any fun advertised =>
    advertised.runnerType = package.runnerType ∧
      advertised.imageRepository = package.imageRepository ∧ advertised.digest = package.digest

/-- The isolation modes a worker may run a job in, with the evidence each one needs. -/
def workerSupportsExecutionIsolation (allowInProcessDeviceWorker : Bool)
    (worker : RunnerWorkerRecord) : Bool :=
  match worker.capabilities.executionIsolation with
  | none => false
  | some isolation =>
    let hardIsolation := isolation.dedicatedProcess = true ∧
      isolation.credentialScope = .runSecretsOnly ∧ isolation.readOnlyRootFilesystem = true ∧
      (isolation.networkPolicy = .denyAll ∨ isolation.networkPolicy = .allowlist) ∧
      isolation.resourceLimitsEnforced = true ∧ isolation.memoryLimitBytes.isSome ∧
      isolation.cpuLimitMillis.isSome
    match isolation.mode with
    | .inProcess => allowInProcessDeviceWorker = true ∧ isolation.dedicatedProcess = false ∧
        isolation.credentialScope = .worker
    | .subprocess => isolation.dedicatedProcess = true ∧
        isolation.credentialScope = .runSecretsOnly
    | .container => hardIsolation ∧ isolation.pidsLimit.isSome
    | .kubernetes => hardIsolation ∧ isolation.ephemeralStorageLimitBytes.isSome ∧
        isolation.orchestratorNamespace.isSome ∧
        isolation.serviceAccountName.any (fun name => name ≠ "" ∧ name ≠ "default") ∧
        isolation.serviceAccountTokenAutomounted = some false

def workerIsolationRank (worker : RunnerWorkerRecord) : Nat :=
  match worker.capabilities.executionIsolation with
  | none => 0
  | some isolation =>
    match isolation.mode with
    | .inProcess => 1
    | .subprocess => 2
    | .container => 3
    | .kubernetes => 4

/-- The active workers of a pool that have been heard from within the time to live. -/
def healthyWorkers (dispatchTime : Instant) (heartbeatTtlSeconds : Nat) (poolId : UUID)
    (db : Database) : List RunnerWorkerRecord :=
  db.workers.rows.filter fun worker => worker.poolId = poolId ∧ worker.status = .active ∧
    dispatchTime - heartbeatTtlSeconds * 1000000 ≤ worker.lastHeartbeatAt

/-- The workers of a pool that may run a job, or the reason why there is none. -/
def eligibleWorkers (dispatchTime : Instant) (heartbeatTtlSeconds : Nat) (poolId : UUID)
    (snapshot : RunSnapshot) (db : Database) : Except WaitReason (List RunnerWorkerRecord) := do
  let healthy := healthyWorkers dispatchTime heartbeatTtlSeconds poolId db
  ensure (healthy ≠ []) .noHealthyRunner
  let capable := healthy.filter (workerMatches snapshot.targetType snapshot.browser)
  ensure (capable ≠ []) .runnerCapabilityMismatch
  let isolated := capable.filter (workerSupportsExecutionIsolation
    (snapshot.targetType = .app ∧ snapshot.automationPackage.runnerType = .androidAppium))
  ensure (isolated ≠ []) .runnerIsolationUnavailable
  let hosting := isolated.filter (workerHostsPackage snapshot.automationPackage)
  ensure (hosting ≠ []) .automationPackageUnavailable
  let strongest := (hosting.map workerIsolationRank).foldl max 0
  return hosting.filter fun worker => workerIsolationRank worker = strongest

/-! ### Preparing one record -/

/-- The number of active leases of a pool. -/
def activeLeases (leases : LeaseTable) (poolId : UUID) : Nat :=
  leases.count fun lease => lease.poolId = poolId ∧ lease.status = .active

def effectiveCapacity (pool : RunnerPoolRecord) (eligible : List RunnerWorkerRecord) : Nat :=
  min pool.maxConcurrency (eligible.map RunnerWorkerRecord.maxSlots).sum

structure PreparedDispatch where
  queue : Option String
  run : Option TestRunRecord
  lease : Option RunnerSlotLeaseRecord
  skipPublish : Bool
  deriving DecidableEq

/-- Why a record is not published now: it has to wait, or the whole batch fails. -/
inductive DispatchStop where
  | capacityWait (reason : WaitReason)
  | abort (error : ServiceError)
  deriving DecidableEq

def markDispatched (dispatchTime : Instant) (run : TestRunRecord) : TestRunRecord :=
  { run with
    dispatchState := .dispatched
    dispatchWaitReason := none
    dispatchedAt := some dispatchTime }

def markWaiting (reason : WaitReason) (run : TestRunRecord) : TestRunRecord :=
  { run with dispatchState := .waiting, dispatchWaitReason := some reason }

/-- A lease for a run of a pool, as long as the pool has capacity left for it. -/
def acquireLease (dispatchTime : Instant) (leaseId : UUID) (run : TestRunRecord)
    (pool : RunnerPoolRecord) (eligible : List RunnerWorkerRecord) (db : Database) :
    Except DispatchStop (Database × RunnerSlotLeaseRecord) := do
  ensure (activeLeases db.leases pool.id < effectiveCapacity pool eligible)
    (.capacityWait .runnerPoolCapacityExhausted)
  let lease : RunnerSlotLeaseRecord :=
    ⟨leaseId, pool.id, run.id, none, .active, dispatchTime, none⟩
  let leases ← found (db.leases.insert? lease) (.abort (.integrityError false))
  return ({ db with leases := leases }, lease)

/-- The pool of a run, when it may dispatch. -/
def servingPool (poolId : UUID) (db : Database) : Except WaitReason RunnerPoolRecord := do
  let pool ← found (db.pools.get? poolId) .runnerPoolNotFound
  ensure (pool.status ≠ .draining) .runnerPoolDraining
  ensure (pool.status = .active) .runnerPoolDisabled
  return pool

def prepareRunDispatch (dispatchTime : Instant) (heartbeatTtlSeconds : Nat) (leaseId : UUID)
    (record : DispatchOutboxRecord) (db : Database) :
    Except DispatchStop (Database × PreparedDispatch) :=
  match record.message with
  | .runCancelRequested _ => return (db, ⟨none, none, none, false⟩)
  | .runQueued snapshot _ => do
    let run ← found (db.runs.get? record.aggregateId)
      (.abort (.valueError "Outbox Run no longer exists"))
    if run.status.isTerminal = true then
      return ({ db with runs := db.runs.modify run.id (markDispatched dispatchTime) },
        ⟨none, some run, none, true⟩)
    else
      match run.runnerPoolId with
      | none => return (db, ⟨none, some run, none, false⟩)
      | some poolId => do
        let pool ← (servingPool poolId db).mapError .capacityWait
        let eligible ← (eligibleWorkers dispatchTime heartbeatTtlSeconds pool.id snapshot
          db).mapError .capacityWait
        match activeLease db.leases run.id with
        | some lease => return (db, ⟨some pool.queueName, some run, some lease, false⟩)
        | none => do
          let (db, lease) ← acquireLease dispatchTime leaseId run pool eligible db
          return (db, ⟨some pool.queueName, some run, some lease, false⟩)

/-! ### Settling one record -/

def deferRecord (dispatchTime : Instant) (capacityPollMicros : Int) (reason : WaitReason)
    (record : DispatchOutboxRecord) : DispatchOutboxRecord :=
  { record with lastError := some reason.text, availableAt := dispatchTime + capacityPollMicros }

def publishedRecord (dispatchTime : Instant) (attempts : Nat) (record : DispatchOutboxRecord) :
    DispatchOutboxRecord :=
  { record with
    attempts := attempts
    status := .published
    processedAt := some dispatchTime
    lastError := none }

def backoffSeconds (attempts : Nat) : Nat := min 300 (2 ^ min attempts 8)

def failedRecord (dispatchTime : Instant) (error : String) (record : DispatchOutboxRecord) :
    DispatchOutboxRecord :=
  { record with
    attempts := record.attempts + 1
    lastError := some (String.ofList (error.toList.take 2000))
    availableAt := dispatchTime + backoffSeconds (record.attempts + 1) * 1000000 }

/-- Put a record off until the pool may have capacity. -/
def deferDispatch (dispatchTime : Instant) (capacityPollMicros : Int) (reason : WaitReason)
    (record : DispatchOutboxRecord) (db : Database) : Database :=
  { db with
    runs := db.runs.modify record.aggregateId (markWaiting reason)
    outbox := db.outbox.modify record.dedupeKey
      (deferRecord dispatchTime capacityPollMicros reason) }

/-- The broker has not taken the task: try again later, and give the lease back. -/
def failDispatch (dispatchTime : Instant) (error : String) (prepared : PreparedDispatch)
    (record : DispatchOutboxRecord) (db : Database) : Database :=
  { db with
    runs := match prepared.run with
      | some run => db.runs.modify run.id (markWaiting .brokerPublishFailed)
      | none => db.runs
    leases := match prepared.lease with
      | some lease => db.leases.modify lease.id fun lease =>
          { lease with status := .released, releasedAt := some dispatchTime }
      | none => db.leases
    outbox := db.outbox.modify record.dedupeKey (failedRecord dispatchTime error) }

/-- The broker has taken the task. -/
def completeDispatch (dispatchTime : Instant) (prepared : PreparedDispatch)
    (record : DispatchOutboxRecord) (db : Database) : Database :=
  { db with
    runs := match prepared.run with
      | some run => db.runs.modify run.id (markDispatched dispatchTime)
      | none => db.runs
    outbox := db.outbox.modify record.dedupeKey
      (publishedRecord dispatchTime (record.attempts + 1)) }

structure DispatchSummary where
  published : Nat
  failed : Nat
  waiting : Nat
  deriving DecidableEq

def DispatchSummary.selected (summary : DispatchSummary) : Nat :=
  summary.published + summary.failed + summary.waiting

/-- What a batch is given from outside: its clock and limits, the answer of the broker for each
    record, the fresh identifiers of its leases, and the rows other transactions hold. -/
structure DispatchContext where
  dispatchTime : Instant
  limit : Nat
  heartbeatTtlSeconds : Nat
  capacityPollMicros : Int
  sendTask : DispatchOutboxRecord → Option String → Except String Unit
  leaseId : UUID → UUID
  locks : UUID → Bool

/-- Dispatch one record of a batch. -/
def dispatchRecord (ctx : DispatchContext) (record : DispatchOutboxRecord)
    (db : Database) (summary : DispatchSummary) :
    Except ServiceError (Database × DispatchSummary) :=
  match prepareRunDispatch ctx.dispatchTime ctx.heartbeatTtlSeconds (ctx.leaseId record.id)
    record db with
  | .error (.capacityWait reason) =>
    return (deferDispatch ctx.dispatchTime ctx.capacityPollMicros reason record db,
      { summary with waiting := summary.waiting + 1 })
  | .error (.abort error) => .error error
  | .ok (db, prepared) =>
    if prepared.skipPublish = true then
      return ({ db with
        outbox := db.outbox.modify record.dedupeKey
          (publishedRecord ctx.dispatchTime record.attempts) },
        { summary with published := summary.published + 1 })
    else
      match ctx.sendTask record prepared.queue with
      | .error error =>
        return (failDispatch ctx.dispatchTime error prepared record db,
          { summary with failed := summary.failed + 1 })
      | .ok () =>
        return (completeDispatch ctx.dispatchTime prepared record db,
          { summary with published := summary.published + 1 })

/-- The pending records a batch takes, the oldest first. -/
def dueRecords (ctx : DispatchContext) (db : Database) : List DispatchOutboxRecord :=
  ((db.outbox.rows.filter fun record => record.status = .pending ∧
      record.availableAt ≤ ctx.dispatchTime ∧ ctx.locks record.id = false).insertionSort
    fun a b => a.createdAt ≤ b.createdAt).take ctx.limit

/-- Dispatch records one after the other, in one transaction. -/
def dispatchRecords (ctx : DispatchContext) (records : List DispatchOutboxRecord)
    (start : Database × DispatchSummary) : Except ServiceError (Database × DispatchSummary) :=
  records.foldlM (fun (db, summary) record => dispatchRecord ctx record db summary) start

def dispatchOutboxBatch (ctx : DispatchContext) (db : Database) :
    Except ServiceError (Database × DispatchSummary) := do
  ensure (1 ≤ ctx.limit ∧ ctx.limit ≤ 500)
    (.valueError "Outbox dispatch limit must be between 1 and 500")
  ensure (15 ≤ ctx.heartbeatTtlSeconds ∧ ctx.heartbeatTtlSeconds ≤ 600)
    (.valueError "Runner heartbeat TTL must be between 15 and 600 seconds")
  ensure (100000 ≤ ctx.capacityPollMicros ∧ ctx.capacityPollMicros ≤ 60000000)
    (.valueError "capacity poll interval must be between 0.1 and 60 seconds")
  dispatchRecords ctx (dueRecords ctx db) (db, ⟨0, 0, 0⟩)

end TestOps

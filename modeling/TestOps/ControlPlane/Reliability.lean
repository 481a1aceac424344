import TestOps.ControlPlane.RunLifecycle

/-! The reliability sweep. One transaction ends the runs nothing else will end, at most
    `batchSize` rows of them, in four passes:

      timed out          PREPARING or RUNNING past its deadline       TIMED_OUT
      runner lost        its worker has stopped its heartbeat         INFRA_ERROR
      dispatch stalled   published, but no worker has claimed it      INFRA_ERROR
      orphaned leases    active leases of terminal runs               released

    Rows that other transactions have locked are skipped. An ended run that has no edge to its
    target status aborts the whole transaction. -/

namespace TestOps

open Checked Relational

variable {db db' : Database}

def ReasonCode.target : ReasonCode → RunStatus
  | .timedOut => .timedOut
  | .runnerLost | .dispatchStalled => .infraError

/-- A run the sweep has ended. -/
def recoveredRun (moment : Instant) (target : RunStatus) (message : String)
    (run : TestRunRecord) : TestRunRecord :=
  { run with
    status := target
    cancelRequested := true
    timeoutAt := none
    finishedAt := some moment
    errorMessage := some message
    dispatchWaitReason := none }

def StatusValue.inFlight : StatusValue → Bool
  | .queued | .preparing | .running => true
  | .passed | .failed | .canceled | .timedOut | .infraError | .skipped => false

/-- The case rows of a run after it was ended: what was still in flight takes its status. -/
def recoverRunCases (runId : UUID) (target : RunStatus) (message : String)
    (cases : RunCaseTable) : RunCaseTable :=
  cases.modifyWhere (fun case => case.runId = runId ∧ case.status.inFlight = true) fun case =>
    { case with status := target.value, errorMessage := some message }

/-- End a run; also say whether it held a lease. -/
def recoverRun (moment : Instant) (outboxId : UUID) (run : TestRunRecord) (reason : ReasonCode)
    (message : String) (db : Database) : Except ServiceError (Database × Bool) := do
  if run.status.isTerminal = true then
    return (db, false)
  else
    let target := reason.target
    requireRunTransition run.status target (.invalidRunTransition run.status target)
    let runEvents ← found (db.runEvents.insert?
      ⟨run.id, nextSequence db.runEvents run.id, .reliability reason, .system, "run_recovered",
        none, some target.value, moment⟩) (.integrityError true)
    let outbox ← found (db.outbox.insert? (cancelOutboxRecord moment outboxId run.id
      (.runReliabilityCancel reason run.id) (some reason))) (.integrityError true)
    return ({ db with
      runs := db.runs.modify run.id (recoveredRun moment target message)
      leases := endLease db.leases run.id .expired moment
      runCases := recoverRunCases run.id target message db.runCases
      changeRequests := pushValidationStatus db.changeRequests run.id target
      runEvents := runEvents
      outbox := outbox }, (activeLease db.leases run.id).isSome)

/-- The rows another transaction holds a lock on. -/
structure RowLocks where
  run : UUID → Bool
  lease : UUID → Bool
  worker : UUID → Bool
  outbox : UUID → Bool

/-- A row to recover: the run, and the message it ends with. -/
structure Recovery where
  runId : UUID
  message : String

def microsPerSecond : Int := 1000000

/-- Runs past their deadline, the earliest deadline first. -/
def timeoutRuns (moment : Instant) (locks : RowLocks) (db : Database) : List Recovery :=
  let due := db.runs.rows.filter fun run =>
    (run.status = .preparing ∨ run.status = .running) ∧
      run.timeoutAt.any (· ≤ moment) ∧ locks.run run.id = false
  (due.insertionSort fun a b => toLex (a.timeoutAt.getD 0, a.id) ≤ toLex (b.timeoutAt.getD 0, b.id)
    ).map fun run => ⟨run.id, "Run exceeded its " ++ toString run.timeoutSeconds
      ++ "-second execution timeout"⟩

/-- Runs whose bound worker has stopped its heartbeat, the longest silent first. -/
def staleRuns (moment : Instant) (heartbeatTtlSeconds : Nat) (locks : RowLocks)
    (db : Database) : List Recovery :=
  let rows := db.leases.rows.filterMap fun lease => do
    let run ← db.runs.get? lease.runId
    let worker ← lease.workerId.bind db.workers.get?
    guard (lease.status = .active ∧ (run.status = .preparing ∨ run.status = .running) ∧
      worker.lastHeartbeatAt < moment - heartbeatTtlSeconds * microsPerSecond ∧
      locks.lease lease.id = false ∧ locks.run run.id = false ∧ locks.worker worker.id = false)
    return (lease, worker)
  (rows.insertionSort fun a b => toLex (a.2.lastHeartbeatAt, a.1.acquiredAt)
      ≤ toLex (b.2.lastHeartbeatAt, b.1.acquiredAt)).map fun (lease, worker) =>
    ⟨lease.runId, "Runner worker " ++ worker.workerKey ++ " heartbeat expired"⟩

/-- Dispatched runs no worker has claimed, the earliest dispatched first. -/
def stalledRuns (moment : Instant) (dispatchStartTimeoutSeconds : Nat) (locks : RowLocks)
    (db : Database) : List Recovery :=
  let rows := db.leases.rows.filterMap fun lease => do
    let run ← db.runs.get? lease.runId
    guard (lease.status = .active ∧ lease.workerId = none ∧ run.status = .queued ∧
      run.dispatchedAt.any (· ≤ moment - dispatchStartTimeoutSeconds * microsPerSecond) ∧
      locks.lease lease.id = false ∧ locks.run run.id = false)
    return run
  (rows.insertionSort fun a b =>
    toLex (a.dispatchedAt.getD 0, a.id) ≤ toLex (b.dispatchedAt.getD 0, b.id)).map fun run =>
    ⟨run.id, "Dispatched Run was not claimed by a Runner before the start timeout"⟩

/-- Active leases of terminal runs, the oldest first. -/
def orphanedLeases (locks : RowLocks) (db : Database) : List RunnerSlotLeaseRecord :=
  (db.leases.rows.filter fun lease =>
    lease.status = .active ∧ (db.runs.get? lease.runId).any (·.status.isTerminal) ∧
      locks.lease lease.id = false ∧ locks.run lease.runId = false).insertionSort
    fun a b => a.acquiredAt ≤ b.acquiredAt

/-- Recover the given rows one after the other; also count the leases that were given back. -/
def recoverAll (moment : Instant) (outboxId : UUID → UUID) (reason : ReasonCode)
    (rows : List Recovery) (db : Database) : Except ServiceError (Database × Nat) :=
  rows.foldlM (fun (db, released) row => do
    let run ← lockedRun db row.runId
    let (db, hadLease) ← recoverRun moment (outboxId row.runId) run reason row.message db
    return (db, released + if hadLease then 1 else 0)) (db, 0)

def releaseOrphan (moment : Instant) (leases : LeaseTable) (lease : RunnerSlotLeaseRecord) :
    LeaseTable :=
  leases.modify lease.id fun lease => { lease with status := .released, releasedAt := some moment }

structure ReliabilitySweepSummary where
  selected : Nat
  timedOut : Nat
  runnerLost : Nat
  dispatchStalled : Nat
  leasesReleased : Nat
  deriving DecidableEq

def processRunReliability (moment : Instant) (batchSize heartbeatTtlSeconds
    dispatchStartTimeoutSeconds : Nat) (locks : RowLocks) (outboxId : UUID → UUID)
    (db : Database) : Except ServiceError (Database × ReliabilitySweepSummary) := do
  ensure (1 ≤ batchSize ∧ batchSize ≤ 1000)
    (.valueError "reliability batch size must be between 1 and 1000")
  ensure (15 ≤ heartbeatTtlSeconds ∧ heartbeatTtlSeconds ≤ 600)
    (.valueError "Runner heartbeat TTL must be between 15 and 600 seconds")
  ensure (30 ≤ dispatchStartTimeoutSeconds ∧ dispatchStartTimeoutSeconds ≤ 3600)
    (.valueError "dispatch start timeout must be between 30 and 3600 seconds")
  let timedOut := (timeoutRuns moment locks db).take batchSize
  let (db, releasedTimedOut) ← recoverAll moment outboxId .timedOut timedOut db
  let remaining := batchSize - timedOut.length
  let lost := (staleRuns moment heartbeatTtlSeconds locks db).take remaining
  let (db, releasedLost) ← recoverAll moment outboxId .runnerLost lost db
  let remaining := remaining - lost.length
  let stalled := (stalledRuns moment dispatchStartTimeoutSeconds locks db).take remaining
  let (db, releasedStalled) ← recoverAll moment outboxId .dispatchStalled stalled db
  let remaining := remaining - stalled.length
  let orphans := (orphanedLeases locks db).take remaining
  return ({ db with leases := orphans.foldl (releaseOrphan moment) db.leases },
    { selected := timedOut.length + lost.length + stalled.length + orphans.length
      timedOut := timedOut.length
      runnerLost := lost.length
      dispatchStalled := stalled.length
      leasesReleased := releasedTimedOut + releasedLost + releasedStalled + orphans.length })

end TestOps

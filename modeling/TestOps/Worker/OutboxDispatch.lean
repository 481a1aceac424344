import TestOps.ControlPlane.Dispatch
import TestOps.ControlPlane.Packages
import TestOps.Lib.Batch
import TestOps.Lib.Json

/-! The outbox dispatcher over rows as they are stored, whose event type is any text and whose payload
    is any document.

      _prepare_run_dispatch   CapacityWait          ▸ the row waits
                              any other exception   ▸ leaves the batch, and its transaction
      _task_for, send_task    any exception         ▸ the row is tried again later

    The transaction commits behind the last row; a task has left the system when it is sent. -/

namespace TestOps

open Checked Relational

/-! ### Rows and exceptions -/

structure OutboxRow where
  id : UUID
  aggregateId : UUID
  eventType : String
  payload : Json
  status : OutboxStatus
  attempts : Nat
  availableAt : Instant
  createdAt : Instant
  processedAt : Option Instant
  lastError : Option String

/-- The rows, and the tables of the control plane the dispatcher works on. -/
structure OutboxWorld where
  db : Database
  rows : Table OutboxRow.id

/-- An exception that is no `CapacityWait`. -/
inductive Raised where
  | keyError (key : String)
  | typeError (text : String)
  | valueError (text : String)
  | integrityError

/-- `str` of the exception -/
def Raised.text : Raised → String
  | .keyError key => "'" ++ key ++ "'"
  | .typeError text | .valueError text => text
  | .integrityError => "IntegrityError"

inductive PrepareStop where
  | capacityWait (reason : WaitReason)
  | raised (error : Raised)

/-! ### Reading a payload -/

/-- How values are written as texts: `str` of a decoded value, `str.lower`, and a digest. -/
structure Texts where
  str : Json → String
  lower : String → String
  digest : Digest → String

/-- The member of a decoded object -/
def member? (name : String) : Json → Option Json
  | .object members => members.lookup name
  | _ => none

/-- `value[name]` of a decoded value -/
def subscript (name : String) (value : Json) : Except Raised Json :=
  match value with
  | .object members => found (members.lookup name) (.keyError name)
  | .null => .error (.typeError "'NoneType' object is not subscriptable")
  | .bool _ => .error (.typeError "'bool' object is not subscriptable")
  | .number number => .error (.typeError (if number.literal.any fun c => c ∈ ['.', 'e', 'E']
      then "'float' object is not subscriptable" else "'int' object is not subscriptable"))
  | .string _ => .error (.typeError "string indices must be integers, not 'str'")
  | .array _ => .error (.typeError "list indices must be integers or slices, not str")

def isObject : Json → Bool
  | .object _ => true
  | _ => false

/-- `str(value.get(name, ""))` of a decoded object -/
def Texts.field (texts : Texts) (name : String) (value : Json) : String :=
  (member? name value).elim "" texts.str

/-- `_worker_matches` -/
def workerMatchesText (targetType : String) (browser : Option String)
    (worker : RunnerWorkerRecord) : Bool :=
  targetType ∈ worker.capabilities.targetTypes.map TargetType.text ∧
    ∀ name ∈ browser, name ∈ worker.capabilities.browsers

/-- `_worker_hosts_package` -/
def workerHostsPackageText (texts : Texts) (runnerType imageRepository digest : String)
    (worker : RunnerWorkerRecord) : Bool :=
  worker.capabilities.automationPackages.any fun advertised =>
    advertised.runnerType.text = runnerType ∧ advertised.imageRepository = imageRepository ∧
      texts.lower (texts.digest advertised.digest) = texts.lower digest

/-- The browser a snapshot asks for; a null counts as none. -/
def snapshotBrowser (texts : Texts) (snapshot : Json) : Option String :=
  match member? "browser" snapshot with
  | none | some .null => none
  | some browser => some (texts.str browser)

/-- The healthy workers that match the snapshot of a payload, with the snapshot and its target. -/
def capableWorkers (texts : Texts) (healthy : List RunnerWorkerRecord) (payload : Json) :
    Except Raised (Json × String × List RunnerWorkerRecord) := do
  let snapshot ← subscript "run_snapshot" payload
  let targetType ← subscript "target_type" snapshot
  return (snapshot, texts.str targetType, healthy.filter
    (workerMatchesText (texts.str targetType) (snapshotBrowser texts snapshot)))

/-- Those of them that are isolated as the package needs it and host it, on the strongest
    isolation. -/
def hostingWorkers (texts : Texts) (targetType : String) (automationPackage : Json)
    (capable : List RunnerWorkerRecord) : Except PrepareStop (List RunnerWorkerRecord) := do
  let runnerType := texts.field "runner_type" automationPackage
  let isolated := capable.filter (workerSupportsExecutionIsolation
    (targetType = "APP" ∧ runnerType = "ANDROID_APPIUM"))
  ensure (isolated ≠ []) (.capacityWait .runnerIsolationUnavailable)
  let hosting := isolated.filter (workerHostsPackageText texts runnerType
    (texts.field "image_repository" automationPackage) (texts.field "digest" automationPackage))
  ensure (hosting ≠ []) (.capacityWait .automationPackageUnavailable)
  let strongest := (hosting.map workerIsolationRank).foldl max 0
  return hosting.filter fun worker => workerIsolationRank worker = strongest

/-- The workers of a pool that may run the job of a payload. -/
def eligibleWorkersFor (texts : Texts) (healthy : List RunnerWorkerRecord) (payload : Json) :
    Except PrepareStop (List RunnerWorkerRecord) := do
  let (snapshot, targetType, capable) ←
    (capableWorkers texts healthy payload).mapError .raised
  ensure (capable ≠ []) (.capacityWait .runnerCapabilityMismatch)
  let automationPackage ← found ((member? "automation_package" snapshot).filter isObject)
    (.raised (.valueError "Outbox Run Snapshot has no automation package runtime"))
  hostingWorkers texts targetType automationPackage capable

/-! ### Preparing one row -/

/-- What a batch is given from outside: its clock and limits, the answer of the broker to each row,
    the fresh identifiers of its leases, and the rows other transactions hold. -/
structure OutboxContext where
  texts : Texts
  dispatchTime : Instant
  limit : Nat
  heartbeatTtlSeconds : Nat
  capacityPollMicros : Int
  publish : UUID → Except String Unit
  leaseId : UUID → UUID
  locks : UUID → Bool

def DispatchStop.prepareStop : DispatchStop → PrepareStop
  | .capacityWait reason => .capacityWait reason
  | .abort _ => .raised .integrityError

/-- A slot of the pool for a live run. -/
def prepareSlot (ctx : OutboxContext) (row : OutboxRow) (run : TestRunRecord) (poolId : UUID)
    (db : Database) : Except PrepareStop (Database × PreparedDispatch) := do
  let pool ← (servingPool poolId db).mapError .capacityWait
  let healthy := healthyWorkers ctx.dispatchTime ctx.heartbeatTtlSeconds pool.id db
  ensure (healthy ≠ []) (.capacityWait .noHealthyRunner)
  let eligible ← eligibleWorkersFor ctx.texts healthy row.payload
  match activeLease db.leases run.id with
  | some lease => return (db, ⟨some pool.queueName, some run, some lease, false⟩)
  | none => do
    let (db, lease) ← (acquireLease ctx.dispatchTime (ctx.leaseId row.id) run pool eligible
      db).mapError DispatchStop.prepareStop
    return (db, ⟨some pool.queueName, some run, some lease, false⟩)

/-- `_prepare_run_dispatch` -/
def prepareRow (ctx : OutboxContext) (row : OutboxRow) (db : Database) :
    Except PrepareStop (Database × PreparedDispatch) :=
  if row.eventType ≠ "run.queued" then .ok (db, ⟨none, none, none, false⟩)
  else
    match db.runs.get? row.aggregateId with
    | none => .error (.raised (.valueError "Outbox Run no longer exists"))
    | some run =>
      if run.status.isTerminal = true then
        .ok ({ db with runs := db.runs.modify run.id (markDispatched ctx.dispatchTime) },
          ⟨none, some run, none, true⟩)
      else
        match run.runnerPoolId with
        | none => .ok (db, ⟨none, some run, none, false⟩)
        | some poolId => prepareSlot ctx row run poolId db

/-! ### Tasks -/

inductive TaskArgument where
  | document (value : Json)
  | aggregate (id : UUID)

inductive TaskId where
  | run (aggregateId : UUID)
  | cancel (rowId : UUID)

structure DispatchTask where
  name : String
  argument : TaskArgument
  taskId : TaskId
  queue : Option String

/-- A task that has been sent, with the row it was sent for. -/
structure Message where
  rowId : UUID
  task : DispatchTask

/-- `_task_for`, for a queue -/
def taskFor (row : OutboxRow) (queue : Option String) : Except Raised DispatchTask :=
  if row.eventType = "run.queued" then do
    let snapshot ← subscript "run_snapshot" row.payload
    return ⟨"testops.execute_run", .document snapshot, .run row.aggregateId, queue⟩
  else if row.eventType = "run.cancel_requested" then
    .ok ⟨"testops.cancel_run", .aggregate row.aggregateId, .cancel row.id, queue⟩
  else .error (.valueError ("unsupported Outbox event: " ++ row.eventType))

/-- Make the task of a row and send it. -/
def sendRow (ctx : OutboxContext) (row : OutboxRow) (queue : Option String) :
    Except String DispatchTask := do
  let task ← (taskFor row queue).mapError Raised.text
  ctx.publish row.id
  return task

/-! ### Settling one row -/

def OutboxRow.wait (ctx : OutboxContext) (reason : WaitReason) (row : OutboxRow) : OutboxRow :=
  { row with
    lastError := some reason.text
    availableAt := ctx.dispatchTime + ctx.capacityPollMicros }

def OutboxRow.publish (ctx : OutboxContext) (attempts : Nat) (row : OutboxRow) : OutboxRow :=
  { row with
    attempts := attempts
    status := .published
    processedAt := some ctx.dispatchTime
    lastError := none }

def OutboxRow.fail (ctx : OutboxContext) (error : String) (row : OutboxRow) : OutboxRow :=
  { row with
    attempts := row.attempts + 1
    lastError := some (String.ofList (error.toList.take 2000))
    availableAt := ctx.dispatchTime + backoffSeconds (row.attempts + 1) * 1000000 }

/-- Mark the run that a row was prepared for. -/
def markPrepared (prepared : PreparedDispatch) (mark : TestRunRecord → TestRunRecord)
    (hmark : KeepsKey TestRunRecord.id mark) (db : Database) : RunTable :=
  match prepared.run with
  | some run => db.runs.modify run.id mark hmark
  | none => db.runs

/-- Give the lease back that a row was prepared with. -/
def releasePrepared (ctx : OutboxContext) (prepared : PreparedDispatch) (db : Database) :
    LeaseTable :=
  match prepared.lease with
  | some lease => db.leases.modify lease.id fun lease =>
      { lease with status := .released, releasedAt := some ctx.dispatchTime }
  | none => db.leases

/-- One row of a batch. -/
def dispatchRow (ctx : OutboxContext) :
    Batch.Step OutboxRow (OutboxWorld × DispatchSummary) Message Raised :=
  fun row (world, summary) =>
    match prepareRow ctx row world.db with
    | .error (.raised error) => .error error
    | .error (.capacityWait reason) => .ok (({
        db := { world.db with
          runs := world.db.runs.modify row.aggregateId (markWaiting reason) }
        rows := world.rows.modify row.id (OutboxRow.wait ctx reason) },
        { summary with waiting := summary.waiting + 1 }), [])
    | .ok (db, prepared) =>
      if prepared.skipPublish = true then
        .ok (({ db := db, rows := world.rows.modify row.id (OutboxRow.publish ctx row.attempts) },
          { summary with published := summary.published + 1 }), [])
      else
        match sendRow ctx row prepared.queue with
        | .error error => .ok (({
            db := { db with
              runs := markPrepared prepared (markWaiting .brokerPublishFailed) ⟨.refl _⟩ db
              leases := releasePrepared ctx prepared db }
            rows := world.rows.modify row.id (OutboxRow.fail ctx error) },
            { summary with failed := summary.failed + 1 }), [])
        | .ok task => .ok (({
            db := { db with
              runs := markPrepared prepared (markDispatched ctx.dispatchTime) ⟨.refl _⟩ db }
            rows := world.rows.modify row.id (OutboxRow.publish ctx (row.attempts + 1)) },
            { summary with published := summary.published + 1 }), [⟨row.id, task⟩])

/-! ### A batch -/

/-- The pending rows a batch takes, the oldest first. -/
def dueRows (ctx : OutboxContext) (world : OutboxWorld) : List OutboxRow :=
  ((world.rows.rows.filter fun row => row.status = .pending ∧
      row.availableAt ≤ ctx.dispatchTime ∧ ctx.locks row.id = false).insertionSort
    fun a b => a.createdAt ≤ b.createdAt).take ctx.limit

/-- The limits a batch accepts. -/
structure OutboxContext.Valid (ctx : OutboxContext) : Prop where
  limit : 1 ≤ ctx.limit ∧ ctx.limit ≤ 500
  heartbeat : 15 ≤ ctx.heartbeatTtlSeconds ∧ ctx.heartbeatTtlSeconds ≤ 600
  poll : 100000 ≤ ctx.capacityPollMicros ∧ ctx.capacityPollMicros ≤ 60000000

/-- The first complaint about the limits of a batch. -/
def OutboxContext.validate (ctx : OutboxContext) : Except Raised Unit := do
  ensure (1 ≤ ctx.limit ∧ ctx.limit ≤ 500)
    (.valueError "Outbox dispatch limit must be between 1 and 500")
  ensure (15 ≤ ctx.heartbeatTtlSeconds ∧ ctx.heartbeatTtlSeconds ≤ 600)
    (.valueError "Runner heartbeat TTL must be between 15 and 600 seconds")
  ensure (100000 ≤ ctx.capacityPollMicros ∧ ctx.capacityPollMicros ≤ 60000000)
    (.valueError "capacity poll interval must be between 0.1 and 60 seconds")

/-- How a batch ends: what it returns or raises, what is committed, and what has been sent. -/
structure BatchOutcome where
  returned : Except Raised DispatchSummary
  world : OutboxWorld
  messages : List Message

/-- `dispatch_outbox_batch` -/
def dispatchOutboxRows (ctx : OutboxContext) (world : OutboxWorld) : BatchOutcome :=
  match ctx.validate with
  | .error error => ⟨.error error, world, []⟩
  | .ok () =>
    match Batch.upTo (dispatchRow ctx) (dueRows ctx world) (world, ⟨0, 0, 0⟩) with
    | ((world', summary), messages, none) => ⟨.ok summary, world', messages⟩
    | (_, messages, some error) => ⟨.error error, world, messages⟩

end TestOps

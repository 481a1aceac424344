import TestOps.ControlPlane.Schemas
import TestOps.ControlPlane.StateMachine

/-! The event log of a run. An event is stored once per dedupe key, with the next sequence number
    of its run; events of a runner also move the row of the case they are about, as long as the run
    is not terminal. -/

namespace TestOps

open Checked Relational

variable {P : Primitives} {db db' : Database}

/-! ### Lookups shared by the run commands -/

def getRun (db : Database) (runId : UUID) : Except ServiceError TestRunRecord :=
  found (db.runs.get? runId) (.resourceNotFound "Run not found")

/-- The run row, locked until the command commits. -/
def lockedRun (db : Database) (runId : UUID) : Except ServiceError TestRunRecord :=
  found (db.runs.get? runId) (.resourceNotFound "Run not found")

@[simp] theorem lockedRun_eq_ok {runId : UUID} {run : TestRunRecord} :
    lockedRun db runId = .ok run ↔ db.runs.get? runId = some run := found_eq_ok

@[simp] theorem getRun_eq_ok {runId : UUID} {run : TestRunRecord} :
    getRun db runId = .ok run ↔ db.runs.get? runId = some run := found_eq_ok

/-! ### Appending -/

/-- One more than the highest sequence number of the run's events. -/
def nextSequence (events : RunEventTable) (runId : UUID) : Nat :=
  ((events.rows.filter fun event => event.runId = runId).map RunEventRecord.sequence).foldl max 0 + 1

/-- Store an event unless its dedupe key is taken; also say whether it was stored. -/
def appendRunEvent (events : RunEventTable) (runId : UUID) (dedupeKey : EventKey)
    (source : EventSource) (eventType : String) (occurredAt : Instant)
    (caseCode : Option String) (status : Option StatusValue) : RunEventTable × Bool :=
  match events.insert? ⟨runId, nextSequence events runId, dedupeKey, source, eventType, caseCode,
    status, occurredAt⟩ with
  | some events => (events, true)
  | none => (events, false)

/-- A text that does not break a line. -/
def IsLine (text : String) : Prop := '\n' ∉ text.toList ∧ '\r' ∉ text.toList

instance (text : String) : Decidable (IsLine text) := inferInstanceAs (Decidable (_ ∧ _))

theorem RunnerEventType.isLine_text (event : RunnerEventType) : IsLine event.text := by
  cases event <;> decide

/-- The log after at most one event of a run has been appended to it. -/
inductive Logged (runId : UUID) (events : RunEventTable) : RunEventTable → Prop
  | kept : Logged runId events events
  | appended (event : RunEventRecord) {events' : RunEventTable} : event.runId = runId →
      event.sequence = nextSequence events runId → IsLine event.eventType →
      events.insert? event = some events' →
      Logged runId events events'

theorem appendRunEvent_logged {events : RunEventTable} {runId : UUID} {dedupeKey : EventKey}
    {source : EventSource} {eventType : String} {occurredAt : Instant} {caseCode : Option String}
    {status : Option StatusValue} (hline : IsLine eventType) :
    Logged runId events (appendRunEvent events runId dedupeKey source eventType occurredAt caseCode
      status).1 := by
  rw [appendRunEvent]
  split
  · rename_i events' hinsert
    exact .appended _ rfl rfl hline hinsert
  · exact .kept

/-! ### Reading -/

/-- The events of a run, in the order in which they were stored. -/
def runLog (events : RunEventTable) (runId : UUID) : List RunEventRecord :=
  events.rows.filter fun event => event.runId = runId

/-- The events of a run after a sequence number, in order, at most `limit` of them. -/
def listRunEvents (events : RunEventTable) (runId : UUID) (afterSequence limit : Nat) :
    List RunEventRecord :=
  ((events.rows.filter fun event => event.runId = runId ∧ afterSequence < event.sequence).insertionSort
    fun a b => a.sequence ≤ b.sequence).take limit

/-! ### Runner events -/

/-- The row of a case of a run, by its code. -/
def runCaseByCode (cases : RunCaseTable) (runId : UUID) (caseCode : String) :
    Option RunCaseRecord :=
  cases.first? fun case => case.runId = runId ∧ case.caseCode = caseCode

/-- The status a runner event gives the row of its case. -/
def caseStatusOf (payload : InternalRunEventCreate) : Option StatusValue :=
  match payload.event with
  | .caseStarted => some .running
  | .caseFinished => payload.status
  | _ => none

/-- Give the row of a case the status its event reports. -/
def moveRunCase (cases : RunCaseTable) (runCase : Option RunCaseRecord)
    (status : Option StatusValue) : RunCaseTable :=
  match runCase, status with
  | some runCase, some status =>
    cases.modify (runCase.runId, runCase.caseId) fun case => { case with status := status }
  | _, _ => cases

def recordRunEvent (P : Primitives) (runId : UUID) (payload : InternalRunEventCreate)
    (db : Database) : Except ServiceError Database := do
  ensure (payload.runId = runId) (.invalidRequest "Run event run_id does not match URL")
  let run ← lockedRun db runId
  let dedupeKey := EventKey.runner (P.canonicalSha256 (.runEvent payload.toRunEventFields))
  if (db.runEvents.get? (runId, dedupeKey)).isSome then
    return db
  let runCase := payload.caseCode.bind (runCaseByCode db.runCases runId)
  ensure (payload.caseCode.isSome → runCase.isSome)
    (.invalidRequest "Run event case_code is not in the immutable Run Snapshot")
  ensure (∀ code ∈ payload.currentCaseCode, (runCaseByCode db.runCases runId code).isSome)
    (.invalidRequest "Run progress current_case_code is not in the immutable Run Snapshot")
  let (runEvents, created) := appendRunEvent db.runEvents runId dedupeKey .runner
    payload.event.text payload.at' payload.caseCode payload.status
  return { db with
    runEvents := runEvents
    runCases :=
      if created ∧ run.status.isTerminal = false then
        moveRunCase db.runCases runCase (caseStatusOf payload)
      else db.runCases }

/-- What a recorded runner event writes: the log, and the status of one case of a live run. -/
theorem recordRunEvent_ok {runId : UUID} {payload : InternalRunEventCreate}
    (h : recordRunEvent P runId payload db = .ok db') :
    ∃ runEvents runCases, db' = { db with runEvents := runEvents, runCases := runCases } ∧
      Logged runId db.runEvents runEvents ∧ (runCases = db.runCases ∨ ∃ run runCase status, db.runs.get? runId = some run ∧
        run.status.isTerminal = false ∧ runCase ∈ db.runCases ∧ runCase.runId = runId ∧
        runCases = db.runCases.modify (runId, runCase.caseId)
          fun case => { case with status := status }) := by
  simp only [recordRunEvent, bind_eq_ok, ensure_eq_ok, lockedRun_eq_ok] at h
  obtain ⟨-, -, run, hrun, h⟩ := h
  split at h
  · simp only [pure_eq_ok] at h
    subst h
    exact ⟨db.runEvents, db.runCases, rfl, .kept, .inl rfl⟩
  · simp only [bind_eq_ok, ensure_eq_ok, pure_eq_ok] at h
    obtain ⟨-, hknown, -, -, rfl⟩ := h
    refine ⟨_, _, rfl, appendRunEvent_logged payload.event.isLine_text, ?_⟩
    split
    · rename_i hlive
      cases hcase : payload.caseCode.bind (runCaseByCode db.runCases runId) with
      | none => exact .inl rfl
      | some runCase =>
        cases hstatus : caseStatusOf payload with
        | none => exact .inl rfl
        | some status =>
          obtain ⟨code, -, hcode⟩ := Option.bind_eq_some_iff.mp hcase
          have hmatch := Table.first?_some hcode
          simp only [decide_eq_true_eq] at hmatch
          exact .inr ⟨run, runCase, status, hrun, hlive.2, Table.mem_of_first? hcode, hmatch.1,
            by simp only [moveRunCase, hmatch.1]⟩
    · exact .inl rfl

end TestOps

import TestOps.ControlPlane.System
import TestOps.Frontend.EventStream

/-! The live event stream of a run. A round of the stream reads the next events and then the run, two
    queries that each see what is committed when they run; it sends the events, and it ends when there
    were none and the run was terminal:

      readEvents   batch of events after the cursor
         ⋮         other transactions may commit here
      readStatus   send the batch, end or go on

    The answer is a text of blocks, one for each event, and a comment now and then. -/

namespace TestOps

open Checked Relational Transition

/-! ### The text of the stream -/

/-- The lines of an event; `eventResponse` is the response model of the event. -/
def sseLines (eventResponse : RunEventRecord → List (String × Json)) (record : RunEventRecord) :
    List (List Char) :=
  ["id: ".toList ++ (toString record.sequence).toList,
    "event: ".toList ++ record.eventType.toList,
    "data: ".toList ++ Json.render (.object (eventResponse record))]

/-- The lines of a text without the empty line that closes it. -/
def sseBlock (lines : List (List Char)) : List Char := ['\n'].intercalate lines

def sseEvent (eventResponse : RunEventRecord → List (String × Json)) (record : RunEventRecord) :
    List Char :=
  sseBlock (sseLines eventResponse record) ++ ['\n', '\n']

def keepAlive : List Char := ": keep-alive".toList ++ ['\n', '\n']

/-! ### The stream as a system -/

/-- One open stream. `closing` is no part of the program: it is the log of the run right after the
    transaction that made the run terminal, or at the opening of the stream if that is later. -/
structure EventStream where
  runId : UUID
  initialSequence : Nat
  follow : Bool
  currentSequence : Nat
  batch : Option (List RunEventRecord)
  yielded : List RunEventRecord
  text : List Char
  ended : Bool
  closing : Option (List RunEventRecord)

structure StreamState where
  service : State
  stream : Option EventStream

def StreamState.init : StreamState := ⟨State.init, none⟩

inductive StreamAction where
  | act (action : Action)
  /-- `GET /runs/{run_id}/events/stream`. -/
  | openStream (runId : UUID) (afterSequence : Nat) (lastEventId : Option Nat) (follow : Bool)
  | readEvents
  /-- The rest of a round; the heartbeat is due or not. -/
  | readStatus (heartbeat : Bool)

/-- The run is stored and terminal. -/
def RunTerminal (db : Database) (runId : UUID) : Prop :=
  ∃ run ∈ db.runs.get? runId, run.status.isTerminal = true

instance (db : Database) (runId : UUID) : Decidable (RunTerminal db runId) :=
  inferInstanceAs (Decidable (∃ run ∈ db.runs.get? runId, run.status.isTerminal = true))

/-- The log of a run that is terminal. -/
def closedLog (db : Database) (runId : UUID) : Option (List RunEventRecord) :=
  if RunTerminal db runId then some (runLog db.runEvents runId) else none

/-- A transaction of the control plane does nothing to a stream. -/
def EventStream.observe (stream : EventStream) (db : Database) : EventStream :=
  { stream with closing := stream.closing.or (closedLog db stream.runId) }

/-- The end of a round: the batch is sent and the stream goes on or not. -/
def EventStream.finishRound (eventResponse : RunEventRecord → List (String × Json))
    (stream : EventStream) (batch : List RunEventRecord) (terminal heartbeat : Bool) :
    EventStream :=
  let ended := !stream.follow || (batch.isEmpty && terminal)
  { stream with
    currentSequence := (batch.getLast?.map RunEventRecord.sequence).getD stream.currentSequence
    batch := none
    yielded := stream.yielded ++ batch
    text := stream.text ++ batch.flatMap (sseEvent eventResponse) ++
      if !ended && heartbeat then keepAlive else []
    ended := ended }

def streamStep (P : Primitives) (eventResponse : RunEventRecord → List (String × Json))
    (s : StreamState) : StreamAction → Except ServiceError StreamState
  | .act action => do
    let service ← step P s.service action
    return ⟨service, s.stream.map fun stream => stream.observe service.db⟩
  | .openStream runId afterSequence lastEventId follow => do
    ensure s.stream.isNone .validationError
    let _ ← getRun s.service.db runId
    let initialSequence := max afterSequence (lastEventId.getD 0)
    return { s with
      stream := some ⟨runId, initialSequence, follow, initialSequence, none, [], [], false,
        closedLog s.service.db runId⟩ }
  | .readEvents => do
    let stream ← found s.stream .validationError
    ensure (stream.ended = false ∧ stream.batch = none) .validationError
    return { s with
      stream := some { stream with
        batch := some (listRunEvents s.service.db.runEvents stream.runId stream.currentSequence
          200) } }
  | .readStatus heartbeat => do
    let stream ← found s.stream .validationError
    let batch ← found stream.batch .validationError
    let run ← getRun s.service.db stream.runId
    return { s with
      stream := some (stream.finishRound eventResponse batch run.status.isTerminal heartbeat) }

/-- The runs of the control plane with one live stream. -/
def eventStream (P : Primitives) (eventResponse : RunEventRecord → List (String × Json)) :
    System StreamState StreamAction :=
  machine (· = StreamState.init) (streamStep P eventResponse)

end TestOps

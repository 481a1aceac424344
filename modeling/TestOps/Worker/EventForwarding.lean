import TestOps.Worker.Execution
import TestOps.Lib.Lines

/-! The readers of a run's `events.jsonl`: three forwarders while the runner still writes it, and one
    more at the end of the run.

      runner      write ▸ write ▸ write ▸ ..                cuts lines and characters anywhere
      forwarders  poll ▸ poll ▸ ..      offset ▸ offset     bytes behind the offset, up to a newline
      the task    _reconcile_events     before the result   text, to its end

    What a report does is a parameter: a control plane is whatever a call of `report_event` changes. -/

namespace TestOps.EventForwarding

open Checked

variable {Plane : Type}

/-- `report_event` of some control plane -/
abbrev ReportEvent (Plane : Type) := RunnerEvent → Plane → Except TransportError Unit × Plane

/-! ### Forwarding -/

section

variable (decode : Bytes → Option RunnerEvent) (reportEvent : ReportEvent Plane)

/-- Report one line; a line that is no JSON object is left out, a report that fails is given up. -/
def forwardLine (plane : Plane) (line : Bytes) : Plane :=
  match decode line with
  | none => plane
  | some event => (reportEvent event plane).2

/-- `forward_new_events`; there may be no file yet. -/
def forwardNewEvents (file : Option Bytes) (offset : Nat) (plane : Plane) : Nat × Plane :=
  match file with
  | none => (offset, plane)
  | some content =>
    let payload := content.drop offset
    if completeSize payload = 0 then (offset, plane)
    else (offset + completeSize payload,
      (splitlines (payload.take (completeSize payload))).foldl (forwardLine decode reportEvent)
        plane)

/-- `forward_container_events`, with the file as `_container_event_bytes` reads it -/
def forwardContainerEvents (file : Option Bytes) (offset : Nat) (plane : Plane) : Nat × Plane :=
  match file with
  | none => (offset, plane)
  | some payload =>
    if payload.length ≤ offset then (offset, plane)
    else
      let pending := payload.drop offset
      if completeSize pending = 0 then (offset, plane)
      else (offset + completeSize pending,
        (splitlines (pending.take (completeSize pending))).foldl (forwardLine decode reportEvent)
          plane)

/-- `_forward_kubernetes_events`, where the pod prints the size of the file, 0 without one, and then
    its bytes -/
def forwardKubernetesEvents (file : Option Bytes) (offset : Nat) (plane : Plane) :
    Except WorkerError (Nat × Plane) := do
  let size := (file.getD []).length
  ensure (size ≤ maxEventArchiveBytes)
    (isolatedError "Kubernetes event stream exceeded its size limit")
  if size ≤ offset then return (offset, plane)
  else do
    let payload := file.getD []
    ensure (payload.length ≤ maxEventArchiveBytes)
      (isolatedError "Kubernetes event stream exceeded its size limit")
    let pending := payload.drop offset
    if completeSize pending = 0 then return (offset, plane)
    else return (offset + completeSize pending,
      (splitlines (pending.take (completeSize pending))).foldl (forwardLine decode reportEvent)
        plane)

end

/-! ### A run that is forwarded while it writes -/

/-- What happens to the file of a run. -/
inductive Activity where
  | write (chunk : Bytes)
  | poll

/-- The file, where the next lines start in it, and what the reports have made of the control
    plane. -/
structure Forwarding (Plane : Type) where
  file : Option Bytes
  offset : Nat
  plane : Plane

/-- One of the three forwarders. -/
abbrev Forwarder (Plane : Type) :=
  Option Bytes → Nat → Plane → Except WorkerError (Nat × Plane)

def Forwarding.step (forward : Forwarder Plane) (state : Forwarding Plane) :
    Activity → Except WorkerError (Forwarding Plane)
  | .write chunk => return { state with file := some (state.file.getD [] ++ chunk) }
  | .poll => do
    let (offset, plane) ← forward state.file state.offset state.plane
    return { state with offset := offset, plane := plane }

/-- Any order of writes and polls; a poll starts where the one before has ended. -/
def forwarded (forward : Forwarder Plane) (plane : Plane) (activities : List Activity) :
    Except WorkerError (Forwarding Plane) :=
  activities.foldlM (Forwarding.step forward) ⟨none, 0, plane⟩

/-! ### Reconciliation -/

/-- Strict UTF-8. -/
def decodeUtf8 (content : Bytes) : Option (List Char) :=
  (ByteArray.mk content.toArray).utf8Decode?.map Array.toList

/-- What iterating a text file yields: every line with its end, a newline whatever it is in the
    file. -/
def textLines (text : List Char) : List (List Char) :=
  Lines.kept '\n' (Lines.universal '\n' '\r' text)

/-- One round of the loop of `_reconcile_events`. -/
def reconcileLine (loads : List Char → Option RunnerEvent) (reportEvent : ReportEvent Plane)
    (plane : Plane) (line : List Char × Nat) : Except WorkerError Plane := do
  let event ← found (loads line.1)
    (.other ("invalid Runner event at line " ++ toString line.2))
  raised (reportEvent event plane).1
  return (reportEvent event plane).2

/-- `_reconcile_events`; what has been reported before an exception is lost with it. -/
def reconcileEvents (loads : List Char → Option RunnerEvent) (reportEvent : ReportEvent Plane)
    (file : Option Bytes) (plane : Plane) : Except WorkerError Plane :=
  match file with
  | none => return plane
  | some content => do
    let text ← found (decodeUtf8 content) (.other "invalid utf-8")
    ((textLines text).zipIdx 1).foldlM (reconcileLine loads reportEvent) plane

/-- `json.loads` of texts and of bytes, as far as it finds objects: white space at the end says
    nothing, and UTF-8 is read like its text. -/
structure JsonLoads where
  ofText : List Char → Option RunnerEvent
  ofBytes : Bytes → Option RunnerEvent
  trailing : ∀ line, ofText (line ++ ['\n']) = ofText line
  utf8 : ∀ line event, ofText line = some event →
    ofBytes (line.flatMap String.utf8EncodeChar) = some event

/-- A control plane that remembers which events it has been sent. -/
structure SentEvents where
  sent : List RunnerEvent
  answers : List (Except TransportError Unit)

/-- The answers of the control plane are used up one by one; after the last every call succeeds. -/
def SentEvents.reportEvent : ReportEvent SentEvents := fun event plane =>
  (plane.answers.headD (.ok ()), ⟨plane.sent ++ [event], plane.answers.tail⟩)

end TestOps.EventForwarding

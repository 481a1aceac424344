import TestOps.Contracts.Models
import TestOps.Contracts.Text
import TestOps.Lib.Checked

/-! How a worker executes one run and which result it persists.

    execute_run
      ├─ IN_PROCESS   adapter.execute(job, reporter)                 `_emit` guards the reporter
      ├─ SUBPROCESS   look ▸ forward events ▸ poll ▸ deadline ▸ …    until the process has exited
      ├─ CONTAINER    look ▸ forward events ▸ poll ▸ deadline ▸ …    until the container has stopped
      └─ KUBERNETES   look ▸ verify ▸ forward events ▸ poll ▸ deadline ▸ …   until it has finished
      then          persist run-result.json ▸ replay the events ▸ upload ▸ result callback

    The world outside the worker is data: what each look at the runner finds, what the clock then
    reads, and what the control plane answers to the event reports and to the polls of the run
    state, call after call. -/

namespace TestOps

open Checked

/-! ### The control plane as the worker sees it -/

/-- An exception of a call to the control plane, with its text. -/
structure TransportError where
  text : String
  deriving DecidableEq

/-- What `run_state` reads of a run. -/
structure RunStateView where
  status : RunStatus
  cancelRequested : Bool
  deriving DecidableEq

/-- One line of `events.jsonl`: the value of its `event` field and the whole document. -/
structure RunnerEvent where
  event : Option String
  document : String
  deriving DecidableEq

/-- The answers of the control plane to come; every call after the last of them succeeds, and finds
    a run that nobody asked to cancel. -/
structure ControlPlaneAnswers where
  reports : List (Except TransportError Unit)
  polls : List (Except TransportError RunStateView)

namespace ControlPlaneAnswers

/-- No call fails. -/
def unfailing : ControlPlaneAnswers := ⟨[], []⟩

/-- `report_event` -/
def reportEvent (_event : RunnerEvent) (plane : ControlPlaneAnswers) :
    Except TransportError Unit × ControlPlaneAnswers :=
  (plane.reports.headD (.ok ()), { plane with reports := plane.reports.tail })

/-- `run_state` -/
def runState (plane : ControlPlaneAnswers) :
    Except TransportError RunStateView × ControlPlaneAnswers :=
  (plane.polls.headD (.ok ⟨.running, false⟩), { plane with polls := plane.polls.tail })

end ControlPlaneAnswers

def RunStateView.canceled (view : RunStateView) : Bool :=
  view.cancelRequested || view.status = .canceled

namespace ControlPlaneAnswers

/-- `cancel_requested` -/
def cancelRequested (plane : ControlPlaneAnswers) :
    Except TransportError Bool × ControlPlaneAnswers :=
  (plane.runState.1.map RunStateView.canceled, plane.runState.2)

end ControlPlaneAnswers

/-! ### Exceptions of a worker -/

inductive IsolationFailure where
  /-- `IsolatedExecutionError` -/
  | failed
  /-- `IsolatedExecutionCanceled` -/
  | canceled
  /-- `IsolatedExecutionTimedOut` -/
  | timedOut
  deriving DecidableEq

inductive WorkerError where
  | packageRuntimeUnavailable (text : String)
  | isolated (kind : IsolationFailure) (text : String)
      (executionIsolation : Option RunExecutionIsolationEvidence)
  | other (text : String)
  deriving DecidableEq

/-- The failure of an isolated executor, without evidence. -/
def isolatedError (text : String) : WorkerError := .isolated .failed text none

/-- The two last handlers of an executor: an isolation failure leaves with the evidence that has
    been verified, any other exception is wrapped and leaves without. -/
def failedClosed (executor phase : String) (verified : Option RunExecutionIsolationEvidence) :
    WorkerError → WorkerError
  | .isolated kind text executionIsolation =>
    .isolated kind text (verified.or executionIsolation)
  | .packageRuntimeUnavailable _ | .other _ =>
    isolatedError (executor ++ " executor failed closed during " ++ phase)

/-! ### Events of a run -/

def newline : UInt8 := 10

def carriageReturn : UInt8 := 13

/-- The length up to the last newline: `payload.rfind(b"\n") + 1` -/
def completeSize (payload : Bytes) : Nat :=
  (payload.reverse.dropWhile (· ≠ newline)).length

/-- `bytes.splitlines` -/
def splitlines : Bytes → List Bytes
  | [] => []
  | [byte] => if byte = newline ∨ byte = carriageReturn then [[]] else [[byte]]
  | first :: second :: rest =>
    if first = carriageReturn ∧ second = newline then [] :: splitlines rest
    else if first = newline ∨ first = carriageReturn then [] :: splitlines (second :: rest)
    else
      match splitlines (second :: rest) with
      | [] => [[first]]
      | line :: lines => (first :: line) :: lines

/-- Report one line; a line that is no JSON object is left out, a report that fails is given up. -/
def forwardLine (decode : Bytes → Option RunnerEvent) (plane : ControlPlaneAnswers)
    (line : Bytes) : ControlPlaneAnswers :=
  match decode line with
  | none => plane
  | some event => (plane.reportEvent event).2

/-- Report the lines that are complete since `offset`, and where the next ones start. -/
def forwardPending (decode : Bytes → Option RunnerEvent) (content : Bytes) (offset : Nat)
    (plane : ControlPlaneAnswers) : Nat × ControlPlaneAnswers :=
  let pending := content.drop offset
  if completeSize pending = 0 then (offset, plane)
  else (offset + completeSize pending,
    (splitlines (pending.take (completeSize pending))).foldl (forwardLine decode) plane)

/-- `forward_new_events`; there may be no file yet. -/
def forwardNewEvents (decode : Bytes → Option RunnerEvent) (file : Option Bytes) (offset : Nat)
    (plane : ControlPlaneAnswers) : Nat × ControlPlaneAnswers :=
  match file with
  | none => (offset, plane)
  | some content => forwardPending decode content offset plane

/-- `forward_container_events`, with the file as `_container_event_bytes` reads it -/
def forwardContainerEvents (decode : Bytes → Option RunnerEvent)
    (file : Except WorkerError (Option Bytes)) (offset : Nat) (plane : ControlPlaneAnswers) :
    Except WorkerError (Nat × ControlPlaneAnswers) := do
  return forwardNewEvents decode (← file) offset plane

def maxEventArchiveBytes : Nat := 16 * 1024 * 1024

/-- `_forward_kubernetes_events`; the size is none where the pod prints no number. -/
def forwardKubernetesEvents (decode : Bytes → Option RunnerEvent)
    (size : Except WorkerError (Option Int)) (content : Except WorkerError Bytes) (offset : Nat)
    (plane : ControlPlaneAnswers) : Except WorkerError (Nat × ControlPlaneAnswers) := do
  let size ← found (← size) (isolatedError "Kubernetes event size is invalid")
  ensure (size ≤ maxEventArchiveBytes)
    (isolatedError "Kubernetes event stream exceeded its size limit")
  if size ≤ offset then return (offset, plane)
  else do
    let payload ← content
    ensure (payload.length ≤ maxEventArchiveBytes)
      (isolatedError "Kubernetes event stream exceeded its size limit")
    return forwardPending decode payload offset plane

/-! ### Watching a runner -/

/-- The end of each look at a runner that has not finished: was the run canceled, and is there time
    left when the clock is read? -/
def checkpoint (canceledText timedOutText : String) (deadline checkedAt : Instant)
    (plane : ControlPlaneAnswers) : Except WorkerError ControlPlaneAnswers :=
  match plane.cancelRequested with
  | (.error error, _) => .error (.other error.text)
  | (.ok true, _) => .error (.isolated .canceled canceledText none)
  | (.ok false, plane) =>
    if deadline ≤ checkedAt then .error (.isolated .timedOut timedOutText none) else .ok plane

/-- The loop of an executor over the looks that find the runner unfinished. -/
def supervise {Look State : Type} (canceledText timedOutText : String)
    (close : State → WorkerError → WorkerError)
    (observe : Look → State → ControlPlaneAnswers →
      Except WorkerError (State × ControlPlaneAnswers))
    (checkedAt : Look → Instant) (deadline : Instant) :
    List Look → State → ControlPlaneAnswers → Except WorkerError (State × ControlPlaneAnswers)
  | [], state, plane => .ok (state, plane)
  | look :: looks, state, plane => do
    let (state, plane) ← observe look state plane
    let plane ← (checkpoint canceledText timedOutText deadline (checkedAt look) plane).mapError
      (close state)
    supervise canceledText timedOutText close observe checkedAt deadline looks state plane

/-! ### Results of runs that no runner finished -/

/-- A case of a run without a runner's result, at one moment. -/
def unfinishedCase (moment : Instant) (case : CaseDefinition) (status : CaseResultStatus)
    (failureCategory : String) (errorMessage : Option String) : Except WorkerError CaseResult :=
  if failureExplained :
      status = .failed ∨ status = .infraError → errorMessage.any (· ≠ "") then
    .ok {
      caseId := case.caseId
      caseCode := case.caseCode
      status := status
      startedAt := moment
      finishedAt := moment
      durationMs := 0
      failureCategory := some failureCategory
      errorMessage := errorMessage
      artifactIds := []
      timesOrdered := Instant.ordered
      failureExplained := failureExplained }
  else .error (.other "failed result requires error_message")

/-- The result of a run whose enabled cases all failed for one reason. -/
def abortedCase (moment : Instant) (failureCategory errorMessage : String)
    (case : CaseDefinition) : Except WorkerError CaseResult :=
  if case.enabled then
    unfinishedCase moment case .infraError failureCategory (some errorMessage)
  else unfinishedCase moment case .skipped "case disabled" none

def WorkerError.text : WorkerError → String
  | .packageRuntimeUnavailable text | .isolated _ text _ | .other text => text

def WorkerError.failureCategory : WorkerError → String
  | .packageRuntimeUnavailable _ => "AUTOMATION_PACKAGE_UNAVAILABLE"
  | .isolated .. => "EXECUTOR_ISOLATION"
  | .other _ => "WORKER_INFRASTRUCTURE"

/-- `_recovery_result` -/
def recoveryResult (moment : Instant) (job : RunSnapshot) (error : WorkerError)
    (runnerVersion : String) (executionIsolation : Option RunExecutionIsolationEvidence) :
    Except WorkerError RunResult := do
  let safeError := String.ofList (error.text.toList.take 2000)
  let caseResults ← job.cases.mapM (abortedCase moment error.failureCategory safeError)
  return {
    runId := job.runId
    status := .infraError
    startedAt := moment
    finishedAt := moment
    runnerVersion := runnerVersion
    caseResults := caseResults
    artifacts := []
    executionIsolation := executionIsolation
    terminal := rfl
    timesOrdered := Instant.ordered }

/-- `_canceled_result` -/
def canceledResult (moment : Instant) (job : RunSnapshot) (runnerVersion : String)
    (executionIsolation : Option RunExecutionIsolationEvidence) : Except WorkerError RunResult := do
  let caseResults ← job.cases.mapM fun case =>
    unfinishedCase moment case .skipped "run canceled" none
  return {
    runId := job.runId
    status := .canceled
    startedAt := moment
    finishedAt := moment
    runnerVersion := runnerVersion
    caseResults := caseResults
    artifacts := []
    executionIsolation := executionIsolation
    terminal := rfl
    timesOrdered := Instant.ordered }

/-- `_timed_out_result` -/
def timedOutResult (moment : Instant) (job : RunSnapshot) (runnerVersion : String)
    (executionIsolation : RunExecutionIsolationEvidence) : Except WorkerError RunResult := do
  let caseResults ← job.cases.mapM
    (abortedCase moment "EXECUTOR_TIMEOUT" "isolated Run exceeded executor timeout")
  return {
    runId := job.runId
    status := .timedOut
    startedAt := moment
    finishedAt := moment
    runnerVersion := runnerVersion
    caseResults := caseResults
    artifacts := []
    executionIsolation := some executionIsolation
    terminal := rfl
    timesOrdered := Instant.ordered }

/-- `_in_process_isolation_evidence` -/
def inProcessIsolationEvidence (runnerVersion : String) : RunExecutionIsolationEvidence where
  mode := .inProcess
  executorVersion := runnerVersion
  dedicatedProcess := false
  credentialScope := .worker
  readOnlyRootFilesystem := false
  networkPolicy := .workerDefault
  resourceLimitsEnforced := false
  runtimeImageId := none
  memoryLimitBytes := none
  cpuLimitMillis := none
  pidsLimit := none
  ephemeralStorageLimitBytes := none
  orchestratorNamespace := none
  serviceAccountName := none
  serviceAccountTokenAutomounted := none

/-- `subprocess_isolation_evidence` -/
def subprocessIsolationEvidence (executorVersion : String) : RunExecutionIsolationEvidence :=
  { inProcessIsolationEvidence executorVersion with
    mode := .subprocess
    dedicatedProcess := true
    credentialScope := .runSecretsOnly }

/-- `_failed_isolation_evidence`, of an exception that carries this evidence -/
def failedIsolationEvidence (mode : IsolationMode) (runnerVersion : String)
    (executionIsolation : Option RunExecutionIsolationEvidence) :
    Option RunExecutionIsolationEvidence :=
  match executionIsolation with
  | some evidence => some evidence
  | none => if mode = .subprocess then some (subprocessIsolationEvidence runnerVersion) else none

/-! ### Executors -/

/-- What an adapter returns: no adapter times a run out. -/
abbrev RunnerResult := { result : RunResult // result.status ≠ .timedOut }

/-- An adapter that executes a run, as far as the worker takes part in it: it emits events, looks
    whether it has been told to cancel, and returns or raises in the end. -/
inductive Adapter where
  | emit (event : RunnerEvent) (next : Adapter)
  | isCanceled (next : Bool → Adapter)
  | finish (outcome : Except WorkerError RunnerResult)

/-- The `reporter` of `execute_run`: is the adapter told to cancel? A poll that fails is raised, to
    `_emit`, which swallows it. -/
def reporter (event : RunnerEvent) (canceled : Bool) (plane : ControlPlaneAnswers) :
    Bool × ControlPlaneAnswers :=
  let plane := (plane.reportEvent event).2
  if event.event = some "case_started" then
    (canceled || plane.cancelRequested.1.toOption.getD false, plane.cancelRequested.2)
  else (canceled, plane)

def Adapter.execute : Adapter → Bool → ControlPlaneAnswers →
    Except WorkerError RunnerResult × ControlPlaneAnswers
  | .emit event next, canceled, plane =>
    next.execute (reporter event canceled plane).1 (reporter event canceled plane).2
  | .isCanceled next, canceled, plane => (next canceled).execute canceled plane
  | .finish outcome, _, plane => (outcome, plane)

def executeInProcess (runnerVersion : String) (prepared : Except WorkerError Unit)
    (adapter : Adapter) (plane : ControlPlaneAnswers) : Except WorkerError RunResult := do
  prepared
  let result ← (adapter.execute false plane).1
  return { result.val with
    executionIsolation := some (inProcessIsolationEvidence runnerVersion) }

inductive ResultFile where
  | missing
  | invalid
  | written (result : RunnerResult)

/-- `_read_result` -/
def readResult (job : RunSnapshot) : ResultFile → Except WorkerError RunResult
  | .missing => .error (isolatedError "isolated executor did not produce an immutable result")
  | .invalid => .error (isolatedError "isolated executor produced an invalid result")
  | .written result => do
    ensure (result.val.runId = job.runId ∧ result.val.executionIsolation ≠ none)
      (isolatedError "isolated executor result evidence is inconsistent")
    return result.val

/-- A look at a process that has not exited. -/
structure ProcessLook where
  seenAt : Instant
  events : Option Bytes
  checkedAt : Instant

structure SubprocessWorld where
  /-- the sandbox, the payload and the start of the process -/
  prepared : Except WorkerError Unit
  deadline : Instant
  looks : List ProcessLook
  lastEvents : Option Bytes
  returncode : Int
  file : ResultFile

/-- `SubprocessRunExecutor.execute` -/
def executeSubprocess (decode : Bytes → Option RunnerEvent) (job : RunSnapshot)
    (world : SubprocessWorld) (plane : ControlPlaneAnswers) : Except WorkerError RunResult := do
  world.prepared
  let (offset, plane) ← supervise "isolated Run was canceled"
    "isolated Run exceeded executor timeout" (fun _ error => error)
    (fun look offset plane => .ok (forwardNewEvents decode look.events offset plane))
    ProcessLook.checkedAt world.deadline world.looks 0 plane
  let _ := forwardNewEvents decode world.lastEvents offset plane
  ensure (world.returncode = 0) (isolatedError
    ("isolated executor exited without a result (code " ++ toString world.returncode ++ ")"))
  readResult job world.file

/-- The phases of an executor up to the first look at the runner; nothing is verified yet when one
    of them fails. -/
def startUp (executor : String) (phases : List (String × Except WorkerError Unit)) :
    Except WorkerError Unit :=
  phases.forM fun (phase, outcome) => outcome.mapError (failedClosed executor phase none)

/-- A look at a container that is running. -/
structure ContainerLook where
  seenAt : Instant
  reload : Except WorkerError Unit
  events : Except WorkerError (Option Bytes)
  checkedAt : Instant

structure ContainerWorld where
  /-- the client, the image and its evidence: outside every handler -/
  expectedEvidence : Except WorkerError RunExecutionIsolationEvidence
  startup : List (String × Except WorkerError Unit)
  liveView : Option RunnerEvent
  deadline : Instant
  looks : List ContainerLook
  lastReload : Except WorkerError Unit
  lastEvents : Except WorkerError (Option Bytes)
  exitCode : Int
  archive : Except WorkerError Unit
  file : ResultFile

def observeContainer (decode : Bytes → Option RunnerEvent) (close : WorkerError → WorkerError)
    (look : ContainerLook) (offset : Nat) (plane : ControlPlaneAnswers) :
    Except WorkerError (Nat × ControlPlaneAnswers) := do
  look.reload.mapError close
  (forwardContainerEvents decode look.events offset plane).mapError close

/-- The result that an archive of the run directory brings, if its evidence is the expected one. -/
def exportResult (job : RunSnapshot) (archive : Except WorkerError Unit) (file : ResultFile)
    (expected : Option RunExecutionIsolationEvidence) (inconsistent : String) :
    Except WorkerError RunResult := do
  archive
  let result ← readResult job file
  ensure (result.executionIsolation = expected) (isolatedError inconsistent)
  return result

/-- `ContainerRunExecutor.execute` -/
def executeContainer (decode : Bytes → Option RunnerEvent) (job : RunSnapshot)
    (world : ContainerWorld) (plane : ControlPlaneAnswers) : Except WorkerError RunResult := do
  let expected ← world.expectedEvidence
  startUp "container" world.startup
  let polling := failedClosed "container" "container-poll" (some expected)
  let plane := world.liveView.elim plane fun event => (plane.reportEvent event).2
  let (offset, plane) ← supervise "isolated Run was canceled"
    "isolated Run exceeded executor timeout" (fun _ => polling) (observeContainer decode polling)
    ContainerLook.checkedAt world.deadline world.looks 0 plane
  world.lastReload.mapError polling
  let _ ← (forwardContainerEvents decode world.lastEvents offset plane).mapError polling
  (ensure (world.exitCode = 0) (isolatedError
    ("container executor exited without a result (code " ++ toString world.exitCode ++
      ")"))).mapError polling
  (exportResult job world.archive world.file (some expected)
    "container executor isolation evidence is inconsistent").mapError
      (failedClosed "container" "result-export" (some expected))

structure PodView where
  name : String
  phase : String

/-- A look that finds no pod, a pod that does not run, or one whose finished marker is pending. -/
structure PodLook where
  seenAt : Instant
  pods : Except WorkerError (List PodView)
  verification : Except WorkerError RunExecutionIsolationEvidence
  eventSize : Except WorkerError (Option Int)
  eventContent : Except WorkerError Bytes
  pending : Except WorkerError Unit
  checkedAt : Instant

/-- What the executor knows of its pod. -/
structure PodWatch where
  verified : Option RunExecutionIsolationEvidence
  phase : String
  offset : Nat

def PodWatch.close (watch : PodWatch) : WorkerError → WorkerError :=
  failedClosed "Kubernetes" watch.phase watch.verified

structure KubernetesWorld where
  /-- the clients and the resources: outside every handler -/
  prepared : Except WorkerError Unit
  startup : List (String × Except WorkerError Unit)
  deadline : Instant
  looks : List PodLook
  /-- the look that finds the pod finished -/
  verification : Except WorkerError RunExecutionIsolationEvidence
  eventSize : Except WorkerError (Option Int)
  eventContent : Except WorkerError Bytes
  marker : String
  archive : Except WorkerError Unit
  file : ResultFile

/-- The isolation of a pod is verified once, when it is first seen running. -/
def verifyPod (verification : Except WorkerError RunExecutionIsolationEvidence)
    (watch : PodWatch) : Except WorkerError PodWatch :=
  match watch.verified with
  | some _ => .ok watch
  | none => do
    let evidence ← verification.mapError
      (failedClosed "Kubernetes" "isolation-verification" none)
    return { watch with verified := some evidence, phase := "isolation-verification" }

def observeRunningPod (decode : Bytes → Option RunnerEvent)
    (verification : Except WorkerError RunExecutionIsolationEvidence)
    (eventSize : Except WorkerError (Option Int)) (eventContent : Except WorkerError Bytes)
    (watch : PodWatch) (plane : ControlPlaneAnswers) :
    Except WorkerError (PodWatch × ControlPlaneAnswers) := do
  let watch ← verifyPod verification watch
  let (offset, plane) ← (forwardKubernetesEvents decode eventSize eventContent watch.offset
    plane).mapError watch.close
  return ({ watch with offset := offset }, plane)

def observePod (decode : Bytes → Option RunnerEvent) (look : PodLook) (watch : PodWatch)
    (plane : ControlPlaneAnswers) : Except WorkerError (PodWatch × ControlPlaneAnswers) := do
  let watch := { watch with phase := "job-poll" }
  let pods ← look.pods.mapError watch.close
  (ensure (pods.length ≤ 1)
    (isolatedError "Kubernetes Job created multiple Run Pods")).mapError watch.close
  match pods with
  | [] => return (watch, plane)
  | pod :: _ =>
    ensure (¬(pod.phase ∈ ["Failed", "Succeeded"] ∧ watch.verified = none))
      (isolatedError ("Kubernetes Run Pod terminated before verification (" ++ pod.phase ++ ")"))
    if pod.phase = "Running" then do
      let (watch, plane) ← observeRunningPod decode look.verification look.eventSize
        look.eventContent watch plane
      look.pending.mapError watch.close
      return (watch, plane)
    else return (watch, plane)

/-- `KubernetesRunExecutor.execute` -/
def executeKubernetes (decode : Bytes → Option RunnerEvent) (job : RunSnapshot)
    (world : KubernetesWorld) (plane : ControlPlaneAnswers) : Except WorkerError RunResult := do
  world.prepared
  startUp "Kubernetes" world.startup
  let (watch, plane) ← supervise "isolated Kubernetes Run was canceled"
    "isolated Kubernetes Run exceeded executor timeout" PodWatch.close (observePod decode)
    PodLook.checkedAt world.deadline world.looks ⟨none, "job-poll", 0⟩ plane
  let (watch, _) ← observeRunningPod decode world.verification world.eventSize
    world.eventContent { watch with phase := "job-poll" } plane
  (ensure (world.marker = "0") (isolatedError
    ("Kubernetes executor exited without a result (code " ++ world.marker ++ ")"))).mapError
      watch.close
  (exportResult job world.archive world.file watch.verified
    "Kubernetes executor isolation evidence is inconsistent").mapError
      (failedClosed "Kubernetes" "result-export" watch.verified)

inductive Execution where
  | inProcess (prepared : Except WorkerError Unit) (adapter : Adapter)
  | subprocess (world : SubprocessWorld)
  | container (world : ContainerWorld)
  | kubernetes (world : KubernetesWorld)

def Execution.mode : Execution → IsolationMode
  | .inProcess .. => .inProcess
  | .subprocess _ => .subprocess
  | .container _ => .container
  | .kubernetes _ => .kubernetes

def Execution.execute (decode : Bytes → Option RunnerEvent) (job : RunSnapshot)
    (runnerVersion : String) (execution : Execution) (plane : ControlPlaneAnswers) :
    Except WorkerError RunResult :=
  match execution with
  | .inProcess prepared adapter => executeInProcess runnerVersion prepared adapter plane
  | .subprocess world => executeSubprocess decode job world plane
  | .container world => executeContainer decode job world plane
  | .kubernetes world => executeKubernetes decode job world plane

/-! ### The task -/

/-- One delivery of the task, and what the calls before and after the execution answer. -/
structure RunTask where
  job : RunSnapshot
  runnerVersion : String
  initialState : Except TransportError RunStateView
  existing : Except WorkerError (Option RunResult)
  preparing : Except TransportError Unit
  runtime : Except WorkerError RunnerType
  running : Except TransportError Unit
  execution : Execution
  moment : Instant
  replayed : Except WorkerError Unit
  upload : RunResult → Except WorkerError RunResult
  callback : RunResult → Except TransportError Unit

inductive TaskReply where
  | ignored (status : RunStatus)
  | recovered (status : RunStatus)
  | executed (status : RunStatus)

structure TaskOutcome where
  persisted : Option RunResult
  reply : Except WorkerError TaskReply

def raised {α : Type} (answer : Except TransportError α) : Except WorkerError α :=
  answer.mapError fun error => .other error.text

/-- What `execute_run` tries: from the PREPARING callback to the result of the executor. -/
def RunTask.attempt (decode : Bytes → Option RunnerEvent) (task : RunTask)
    (plane : ControlPlaneAnswers) : Except WorkerError RunResult := do
  raised task.preparing
  let runnerType ← task.runtime
  ensure (¬(runnerType = .androidAppium ∧ task.execution.mode ≠ .inProcess))
    (.packageRuntimeUnavailable "ANDROID_APPIUM requires an IN_PROCESS Windows device Worker")
  raised task.running
  task.execution.execute decode task.job task.runnerVersion plane

/-- The handlers of `execute_run` -/
def RunTask.recover (task : RunTask) : WorkerError → Except WorkerError RunResult
  | .isolated .canceled _ executionIsolation =>
    canceledResult task.moment task.job task.runnerVersion
      (failedIsolationEvidence task.execution.mode task.runnerVersion executionIsolation)
  | .isolated .timedOut text executionIsolation =>
    match failedIsolationEvidence task.execution.mode task.runnerVersion executionIsolation with
    | none =>
      recoveryResult task.moment task.job (.isolated .timedOut text executionIsolation)
        task.runnerVersion none
    | some evidence => timedOutResult task.moment task.job task.runnerVersion evidence
  | .isolated .failed text executionIsolation =>
    recoveryResult task.moment task.job (.isolated .failed text executionIsolation)
      task.runnerVersion
      (failedIsolationEvidence task.execution.mode task.runnerVersion executionIsolation)
  | .packageRuntimeUnavailable text =>
    recoveryResult task.moment task.job (.packageRuntimeUnavailable text) task.runnerVersion none
  | .other text => recoveryResult task.moment task.job (.other text) task.runnerVersion none

/-- The events again, the artifacts and the result callback. -/
def RunTask.reportBack (task : RunTask) (result : RunResult) : Except WorkerError Unit := do
  task.replayed
  let uploaded ← task.upload result
  raised (task.callback uploaded)

def RunTask.conclude (task : RunTask) : Except WorkerError RunResult → TaskOutcome
  | .error error => ⟨none, .error error⟩
  | .ok result => ⟨some result, (fun _ => .executed result.status) <$> task.reportBack result⟩

/-- `execute_run` -/
def executeRun (decode : Bytes → Option RunnerEvent) (task : RunTask)
    (plane : ControlPlaneAnswers) : TaskOutcome :=
  match task.initialState, task.existing with
  | .error error, _ => ⟨none, .error (.other error.text)⟩
  | .ok view, existing =>
    if view.status.isTerminal then ⟨none, .ok (.ignored view.status)⟩
    else
      match existing with
      | .error error => ⟨none, .error error⟩
      | .ok (some result) =>
        ⟨none, (fun _ => .recovered result.status) <$> task.reportBack result⟩
      | .ok none =>
        if view.cancelRequested then
          ⟨none, do
            let result ← canceledResult task.moment task.job task.runnerVersion none
            raised (task.callback result)
            return .executed result.status⟩
        else
          match task.attempt decode plane with
          | .ok result => task.conclude (.ok result)
          | .error error => task.conclude (task.recover error)

end TestOps

import TestOps.Worker.Execution

/-! The polling loop of the Kubernetes executor, look by look.

      watching ── no pod, a pod that does not run, or one that is still busy ─────▶ watching
         │
         ├─ several pods · terminated unverified · a call fails ───▶ IsolatedExecutionError
         ├─ the marker of a running, verified pod ─────────────────▶ its result, or an error
         ├─ cancel_requested ──────────────────────────────────────▶ IsolatedExecutionCanceled
         └─ time.monotonic() ≥ deadline ───────────────────────────▶ IsolatedExecutionTimedOut

    Every look has its own pod list, marker and clock reading; the answers of the control plane are
    used up call by call. -/

namespace TestOps

open Checked

/-- An exception of the cluster client or of what reads its answers: an `IsolatedExecutionError`, or
    any other. -/
inductive ClusterError where
  | isolated (text : String)
  | other (text : String)

def ClusterError.worker : ClusterError → WorkerError
  | .isolated text => isolatedError text
  | .other text => .other text

/-- What one look would find, as far as it gets. -/
structure PodObservation where
  pods : Except ClusterError (List PodView)
  verification : Except ClusterError RunExecutionIsolationEvidence
  eventSize : Except ClusterError (Option Int)
  eventContent : Except ClusterError Bytes
  marker : Except ClusterError String
  archive : Except ClusterError Unit
  file : ResultFile
  checkedAt : Instant

inductive PodProgress where
  | watching (watch : PodWatch) (plane : ControlPlaneAnswers)
  | finished (outcome : Except WorkerError RunResult)

/-- The result of a verified pod whose marker is not pending. -/
def readFinishedPod (job : RunSnapshot) (look : PodObservation) (marker : String)
    (watch : PodWatch) : Except WorkerError RunResult := do
  (ensure (marker = "0") (isolatedError
    ("Kubernetes executor exited without a result (code " ++ marker ++ ")"))).mapError watch.close
  (exportResult job (look.archive.mapError ClusterError.worker) look.file watch.verified
    "Kubernetes executor isolation evidence is inconsistent").mapError
      (failedClosed "Kubernetes" "result-export" watch.verified)

/-- A look at a pod in phase Running. -/
def pollRunningPod (decode : Bytes → Option RunnerEvent) (job : RunSnapshot)
    (look : PodObservation) (watch : PodWatch) (plane : ControlPlaneAnswers) :
    Except WorkerError (Option RunResult × PodWatch × ControlPlaneAnswers) := do
  let (watch, plane) ← observeRunningPod decode (look.verification.mapError ClusterError.worker)
    (look.eventSize.mapError ClusterError.worker) (look.eventContent.mapError ClusterError.worker)
    watch plane
  let marker ← (look.marker.mapError ClusterError.worker).mapError watch.close
  if marker = "pending" then return (none, watch, plane)
  else do
    let result ← readFinishedPod job look marker watch
    return (some result, watch, plane)

/-- One round of the loop, up to the poll of the cancellation. -/
def pollPod (decode : Bytes → Option RunnerEvent) (job : RunSnapshot) (look : PodObservation)
    (watch : PodWatch) (plane : ControlPlaneAnswers) :
    Except WorkerError (Option RunResult × PodWatch × ControlPlaneAnswers) := do
  let watch := { watch with phase := "job-poll" }
  let pods ← (look.pods.mapError ClusterError.worker).mapError watch.close
  (ensure (pods.length ≤ 1)
    (isolatedError "Kubernetes Job created multiple Run Pods")).mapError watch.close
  match pods with
  | [] => return (none, watch, plane)
  | pod :: _ =>
    ensure (¬(pod.phase ∈ ["Failed", "Succeeded"] ∧ watch.verified = none))
      (isolatedError ("Kubernetes Run Pod terminated before verification (" ++ pod.phase ++ ")"))
    if pod.phase = "Running" then pollRunningPod decode job look watch plane
    else return (none, watch, plane)

/-- The end of a round that has found no result. -/
def PodProgress.check (deadline checkedAt : Instant) (watch : PodWatch)
    (plane : ControlPlaneAnswers) : PodProgress :=
  match (checkpoint "isolated Kubernetes Run was canceled"
    "isolated Kubernetes Run exceeded executor timeout" deadline checkedAt plane).mapError
      watch.close with
  | .error error => .finished (.error error)
  | .ok plane => .watching watch plane

def PodProgress.look (decode : Bytes → Option RunnerEvent) (job : RunSnapshot)
    (deadline : Instant) (progress : PodProgress) (look : PodObservation) : PodProgress :=
  match progress with
  | .finished outcome => .finished outcome
  | .watching watch plane =>
    match pollPod decode job look watch plane with
    | .error error => .finished (.error error)
    | .ok (some result, _, _) => .finished (.ok result)
    | .ok (none, watch, plane) => .check deadline look.checkedAt watch plane

/-- The loop over any number of looks. -/
def watchPods (decode : Bytes → Option RunnerEvent) (job : RunSnapshot) (deadline : Instant)
    (looks : List PodObservation) (plane : ControlPlaneAnswers) : PodProgress :=
  looks.foldl (PodProgress.look decode job deadline) (.watching ⟨none, "job-poll", 0⟩ plane)

end TestOps

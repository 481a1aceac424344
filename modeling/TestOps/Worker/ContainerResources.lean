import TestOps.Contracts.Uuids
import TestOps.Lib.Attempt
import TestOps.Lib.Value
import TestOps.Worker.Execution

/-! The containers and volumes a run leaves in the Docker daemon, and how the next execution of the
    run takes them away.

      testops-run-<id>           the run's container          its workspace volume
      testops-run-<id>-input     the staging container        its input volume

      execute
        reclaim  testops-run-<id>         container ▸ volume
        reclaim  testops-run-<id>-input   container ▸ volume
        create   workspace volume ▸ input volume ▸ staging container ▸ container ▸ …
        finally  remove what has been created -/

namespace TestOps.Containers

open Checked

/-! ### The daemon -/

abbrev Labels := List (String × String)

structure DockerContainer where
  labels : Labels
  /-- The volumes it mounts. -/
  volumes : List String
  deriving DecidableEq

structure DockerVolume where
  labels : Labels
  deriving DecidableEq

/-- An error of a call that the daemon has refused or lost, though it may have carried it out. That
    nothing has the name is an answer of the daemon and never such an error. -/
structure DockerFault where
  statusCode : Option Nat
  carriedOut : Bool
  found : statusCode ≠ some 404
  deriving DecidableEq

structure Daemon where
  containers : Finmap fun _ : String => DockerContainer
  volumes : Finmap fun _ : String => DockerVolume
  /-- What befalls the calls to come; those behind the last entry are carried out. -/
  faults : List (Option DockerFault)

/-- An exception of the client: the status code the daemon has answered with, if any. -/
structure ApiError where
  statusCode : Option Nat
  deriving DecidableEq

/-- `_not_found` -/
def ApiError.notFound (e : ApiError) : Bool := e.statusCode = some 404

/-- The documents the daemon shows of its containers and volumes: the labels of a container stand in
    its configuration, those of a volume in the document itself. -/
structure Inspection where
  containerDocument : String → DockerContainer → Dict
  volumeDocument : String → DockerVolume → Dict
  containerConfig : ∀ name c, (containerDocument name c).get "Config" =
    .dict [("Labels", .dict (c.labels.map fun l => (l.1, .str l.2)))]
  containerLabels : ∀ name c, (containerDocument name c).get "Labels" = .null
  volumeLabels : ∀ name v, (volumeDocument name v).get "Labels" =
    .dict (v.labels.map fun l => (l.1, .str l.2))

namespace Daemon

/-- Some container mounts the volume. -/
def inUse (daemon : Daemon) (volume : String) : Prop :=
  ∃ name ∈ daemon.containers.keys, ∃ c, daemon.containers.lookup name = some c ∧ volume ∈ c.volumes

instance (daemon : Daemon) (volume : String) : Decidable (daemon.inUse volume) :=
  decidable_of_iff (∃ name ∈ daemon.containers.keys,
      (daemon.containers.lookup name).any (volume ∈ ·.volumes))
    (by simp only [Option.any_eq_true, decide_eq_true_eq]; rfl)

/-- The daemon with a volume of that name; one that exists stays as it is. -/
def withVolume (daemon : Daemon) (name : String) (labels : Labels) : Daemon :=
  if name ∈ daemon.volumes then daemon
  else { daemon with volumes := daemon.volumes.insert name ⟨labels⟩ }

/-- The daemon behind the fate of its next call. -/
def next (daemon : Daemon) : Daemon := { daemon with faults := daemon.faults.tail }

end Daemon

/-- A call: what it does and answers, unless a fault befalls it. -/
def dockerCall {α : Type} (answer : Daemon → Except ApiError (α × Daemon)) :
    Attempt Daemon ApiError α := fun daemon =>
  match daemon.faults.head?.join, answer daemon.next with
  | none, .ok (a, after) => (.ok a, after)
  | none, .error e => (.error e, daemon.next)
  | some fault, .ok (_, after) =>
    (.error ⟨fault.statusCode⟩, if fault.carriedOut then after else daemon.next)
  | some fault, .error _ => (.error ⟨fault.statusCode⟩, daemon.next)

/-- `containers.get` -/
def getContainer (name : String) : Attempt Daemon ApiError DockerContainer :=
  dockerCall fun daemon => do
    let container ← found (daemon.containers.lookup name) ⟨some 404⟩
    return (container, daemon)

/-- `container.remove(force=True)` -/
def removeContainer (name : String) : Attempt Daemon ApiError Unit :=
  dockerCall fun daemon => do
    ensure (name ∈ daemon.containers) ⟨some 404⟩
    return ((), { daemon with containers := daemon.containers.erase name })

/-- `containers.create`: a name is given once, and a mounted volume is created where none is. -/
def createContainer (name : String) (container : DockerContainer) : Attempt Daemon ApiError Unit :=
  dockerCall fun daemon => do
    ensure (name ∉ daemon.containers) ⟨some 409⟩
    let mounted := container.volumes.foldl (fun daemon volume => daemon.withVolume volume []) daemon
    return ((), { mounted with containers := mounted.containers.insert name container })

/-- `put_archive` -/
def putArchive (name : String) : Attempt Daemon ApiError Bool :=
  dockerCall fun daemon => do
    ensure (name ∈ daemon.containers) ⟨some 404⟩
    return (true, daemon)

/-- `volumes.get` -/
def getVolume (name : String) : Attempt Daemon ApiError DockerVolume :=
  dockerCall fun daemon => do
    let volume ← found (daemon.volumes.lookup name) ⟨some 404⟩
    return (volume, daemon)

/-- `volume.remove(force=True)`: a volume that is in use stays. -/
def removeVolume (name : String) : Attempt Daemon ApiError Unit :=
  dockerCall fun daemon => do
    ensure (name ∈ daemon.volumes) ⟨some 404⟩
    ensure (¬daemon.inUse name) ⟨some 409⟩
    return ((), { daemon with volumes := daemon.volumes.erase name })

/-- `volumes.create` -/
def createVolume (name : String) (labels : Labels) : Attempt Daemon ApiError Unit :=
  dockerCall fun daemon => .ok ((), daemon.withVolume name labels)

/-! ### Stale resources -/

/-- The labels of what belongs to a run. -/
def runLabels (runId : UUID) : Labels :=
  [("io.testops.managed", "true"), ("io.testops.run-id", uuidText runId)]

/-- `_managed_for_run` -/
def managedForRun (attrs : Dict) (runId : UUID) : Except WorkerError Bool := do
  let labels ← found ((attrs.get "Labels").orElse (.dict [])).dict?
    (.other "the labels have no attribute 'get'")
  return (labels.get "io.testops.managed").str? = some "true" ∧
    (labels.get "io.testops.run-id").str? = some (uuidText runId)

section Executor

variable (docker : Inspection) (runId : UUID)

/-- The first half of `_reclaim_stale_resources` -/
def reclaimStaleContainer (name : String) : Attempt Daemon WorkerError Unit := do
  match ← (getContainer name).result with
  | .error e => Attempt.lift (ensure (e.notFound = true)
      (isolatedError "container executor cannot inspect stale resources"))
  | .ok container =>
    let managed ← Attempt.lift (managedForRun (docker.containerDocument name container) runId)
    Attempt.lift (ensure (managed = true)
      (isolatedError "container executor resource name is already reserved"))
    (removeContainer name).mapError fun _ =>
      isolatedError "container executor cannot reclaim a stale Run"

/-- The second half of `_reclaim_stale_resources` -/
def reclaimStaleVolume (name : String) : Attempt Daemon WorkerError Unit := do
  match ← (getVolume name).result with
  | .error e => Attempt.lift (ensure (e.notFound = true)
      (isolatedError "container executor cannot inspect stale volumes"))
  | .ok volume =>
    let managed ← Attempt.lift (managedForRun (docker.volumeDocument name volume) runId)
    Attempt.lift (ensure (managed = true)
      (isolatedError "container executor volume name is already reserved"))
    (removeVolume name).mapError fun _ =>
      isolatedError "container executor cannot reclaim a stale volume"

/-- `_reclaim_stale_resources` -/
def reclaimStaleResources (name : String) : Attempt Daemon WorkerError Unit := do
  reclaimStaleContainer docker runId name
  reclaimStaleVolume docker runId name

/-! ### An execution -/

def volumeName : String := "testops-run-" ++ uuidHex runId

def inputVolumeName : String := volumeName runId ++ "-input"

/-- The recovery phase of `execute` -/
def recoverStaleResources : Attempt Daemon WorkerError Unit := do
  reclaimStaleResources docker runId (volumeName runId)
  reclaimStaleResources docker runId (inputVolumeName runId)

end Executor

/-- Any exception of the client, as one of the worker. -/
def ApiError.worker (_ : ApiError) : WorkerError := .other "docker.errors.APIError"

section Staging

variable (runId : UUID)

/-- The staging container, with the run's labels and its purpose. -/
def stagingContainer : DockerContainer where
  labels := runLabels runId ++ [("io.testops.purpose", "snapshot-staging")]
  volumes := [inputVolumeName runId]

/-- `_stage_snapshot`, for the archive that `_snapshot_archive` makes -/
def stageSnapshot (archive : Except WorkerError Unit) : Attempt Daemon WorkerError Unit := do
  (createContainer (inputVolumeName runId) (stagingContainer runId)).mapError ApiError.worker
  Attempt.lastly
    (do
      Attempt.lift archive
      let accepted ← (putArchive (inputVolumeName runId)).mapError ApiError.worker
      Attempt.lift (ensure (accepted = true)
        (isolatedError "container executor rejected the Run Snapshot")))
    (removeContainer (inputVolumeName runId))

/-- The container of the run, with its labels and volumes. -/
def runContainer : DockerContainer where
  labels := runLabels runId
  volumes := [volumeName runId, inputVolumeName runId]

end Staging

/-- What an execution does besides its resources: the archive of the snapshot, whether there are
    options for a container, and what comes of the container from its start to the export of the
    result. -/
structure ContainerWork where
  archive : Except WorkerError Unit
  options : Except WorkerError Unit
  run : Except WorkerError RunResult

/-- The daemon, and what `execute` holds in its variables. -/
structure Execution where
  daemon : Daemon
  container : Bool
  volume : Bool
  inputVolume : Bool

/-- A phase of `execute`: what is raised leaves with the name of the phase. -/
def containerPhase {α : Type} (phase : String) (x : Attempt Daemon WorkerError α) :
    Attempt Execution WorkerError α := fun s =>
  (((x s.daemon).1).mapError (failedClosed "container" phase none),
    { s with daemon := (x s.daemon).2 })

section Execute

variable (docker : Inspection) (work : ContainerWork) (runId : UUID)

/-- `execute`, up to the container of the run. -/
def createRun : Attempt Execution WorkerError Unit := do
  containerPhase "stale-resource-recovery" (recoverStaleResources docker runId)
  containerPhase "workspace-volume"
    ((createVolume (volumeName runId) (runLabels runId)).mapError ApiError.worker)
  Attempt.modify fun s => { s with volume := true }
  containerPhase "workspace-volume" ((createVolume (inputVolumeName runId)
    (runLabels runId ++ [("io.testops.purpose", "snapshot-input")])).mapError ApiError.worker)
  Attempt.modify fun s => { s with inputVolume := true }
  containerPhase "snapshot-import" (stageSnapshot runId work.archive)
  containerPhase "snapshot-import" (Attempt.lift work.options)
  containerPhase "container-create"
    ((createContainer (volumeName runId) (runContainer runId)).mapError ApiError.worker)
  Attempt.modify fun s => { s with container := true }

/-- A removal of the last block of `execute`, of what is held. -/
def release (held : Execution → Bool) (remove : Attempt Daemon ApiError Unit) :
    Attempt Execution ApiError Unit := fun s =>
  (.ok (), if held s then { s with daemon := (remove s.daemon).2 } else s)

/-- The last block of `execute` -/
def releaseAll : Attempt Execution ApiError Unit := do
  release Execution.container (removeContainer (volumeName runId))
  release Execution.volume (removeVolume (volumeName runId))
  release Execution.inputVolume (removeVolume (inputVolumeName runId))

/-- `execute` -/
def execute : Attempt Daemon WorkerError RunResult := fun daemon =>
  let body := createRun docker work runId >>= fun _ => Attempt.lift work.run
  let done := body.lastly (releaseAll runId) ⟨daemon, false, false, false⟩
  (done.1, done.2.daemon)

end Execute

end TestOps.Containers

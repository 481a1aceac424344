import TestOps.ControlPlane.RunCreation

/-! Runner pools and their workers, and the administrative writes that the run commands only read:
    projects, targets, environments, packages and their verifications. -/

namespace TestOps

open Checked Relational

variable {db db' : Database}

/-! ### Pools -/

def createRunnerPool (poolId : UUID) (payload : RunnerPoolCreate) (db : Database) :
    Except ServiceError Database := do
  let conflict := ServiceError.resourceConflict "Runner Pool key already exists"
  ensure (∀ pool ∈ db.pools.rows, pool.key ≠ payload.key) conflict
  let pools ← found (db.pools.insert? ⟨poolId, payload.key, payload.name, payload.description,
    payload.targetTypes, "testops.pool." ++ payload.key, payload.maxConcurrency, .active⟩) conflict
  return { db with pools := pools }

/-- The target types that targets and environments bound to a pool use. -/
def boundTargetTypes (db : Database) (poolId : UUID) : List TargetType :=
  (db.targets.rows.filter fun target =>
    target.runnerPoolId = some poolId ∨ db.environments.rows.any fun environment =>
      environment.targetId = target.id ∧ environment.runnerPoolId = some poolId).map
    TestTargetRecord.targetType

def updatedPool (payload : RunnerPoolUpdate) (pool : RunnerPoolRecord) : RunnerPoolRecord :=
  { pool with
    name := payload.name.getD pool.name
    description := payload.description.getD pool.description
    targetTypes := payload.targetTypes.getD pool.targetTypes
    maxConcurrency := payload.maxConcurrency.getD pool.maxConcurrency
    status := payload.status.getD pool.status }

def updateRunnerPool (poolId : UUID) (payload : RunnerPoolUpdate) (db : Database) :
    Except ServiceError Database := do
  let _ ← found (db.pools.get? poolId) (.resourceNotFound "Runner Pool not found")
  ensure (∀ targetTypes ∈ payload.targetTypes, boundTargetTypes db poolId ⊆ targetTypes)
    (.resourceConflict "Runner Pool target types are still used by project bindings")
  return { db with pools := db.pools.modify poolId (updatedPool payload) }

/-! ### Workers -/

/-- Register a worker, or store what its heartbeat says about it. -/
def heartbeatRunnerWorker (now : Instant) (workerId : UUID) (workerKey : String)
    (payload : RunnerWorkerHeartbeat) (db : Database) : Except ServiceError Database := do
  let pool ← found (db.pools.first? fun pool => pool.key = payload.poolKey)
    (.resourceNotFound "Runner Pool not found for worker heartbeat")
  ensure (∃ targetType ∈ payload.capabilities.targetTypes, targetType ∈ pool.targetTypes)
    (.invalidRequest "Runner capabilities do not match the Runner Pool target types")
  match db.workers.first? fun worker => worker.workerKey = workerKey with
  | none =>
    let workers ← found (db.workers.insert? ⟨workerId, pool.id, workerKey, payload.displayName,
      payload.runnerVersion, payload.capabilities, payload.maxSlots, .active, now⟩)
      (.integrityError true)
    return { db with workers := workers }
  | some record =>
    ensure (record.poolId = pool.id)
      (.resourceConflict "Runner worker key is already registered in another pool")
    return { db with workers := db.workers.modify record.id fun worker =>
      { worker with
        displayName := payload.displayName
        runnerVersion := payload.runnerVersion
        capabilities := payload.capabilities
        maxSlots := payload.maxSlots
        lastHeartbeatAt := now } }

def updateRunnerWorker (workerId : UUID) (status : ServingStatus) (db : Database) :
    Except ServiceError Database := do
  let _ ← found (db.workers.get? workerId) (.resourceNotFound "Runner worker not found")
  return { db with workers := db.workers.modify workerId fun worker =>
    { worker with status := status } }

/-! ### Configuration -/

/-- The tables that administrators maintain through endpoints of their own. -/
structure Configuration where
  projects : Table ProjectRecord.id
  targets : Table TestTargetRecord.id
  environments : Table EnvironmentRecord.id
  packages : Table AutomationPackageRecord.id
  verifications : Table AutomationPackageSupplyChainVerificationRecord.id

/-- Any administrative write: it may change every column, but it deletes no row. -/
def configure (configuration : Configuration) (db : Database) : Except ServiceError Database := do
  ensure ((∀ row ∈ db.projects.rows, (configuration.projects.get? row.id).isSome) ∧
    (∀ row ∈ db.targets.rows, (configuration.targets.get? row.id).isSome) ∧
    (∀ row ∈ db.environments.rows, (configuration.environments.get? row.id).isSome) ∧
    (∀ row ∈ db.packages.rows, (configuration.packages.get? row.id).isSome) ∧
    (∀ row ∈ db.verifications.rows, (configuration.verifications.get? row.id).isSome))
    (.integrityError true)
  return { db with
    projects := configuration.projects
    targets := configuration.targets
    environments := configuration.environments
    packages := configuration.packages
    verifications := configuration.verifications }

end TestOps

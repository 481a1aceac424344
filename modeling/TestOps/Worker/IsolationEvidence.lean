import TestOps.Contracts.Integers
import TestOps.Worker.ContainerIsolation
import TestOps.Worker.KubernetesIsolation

/-! The evidence of an isolated execution, which the worker expects and the child reports. Both state
    the same facts; the child reads them from the environment that the worker has given it.

      settings ──▸ TESTOPS_… variables ──▸ child ──▸ evidence of the result
          └──────▸ expected evidence          ──────────────┘  compared

    In a cluster, the worker expects the digest of the image that was observed, and hands over the
    digest that the snapshot names. -/

namespace TestOps.Evidence

open Checked

/-- The texts of a network policy. -/
def policyText : NetworkPolicy → String
  | .workerDefault => "WORKER_DEFAULT"
  | .denyAll => "DENY_ALL"
  | .allowlist => "ALLOWLIST"

/-- `RunExecutionIsolationEvidence`, as it is written: policies and digests are texts. -/
structure IsolationEvidence where
  mode : IsolationMode
  executorVersion : String
  dedicatedProcess : Bool
  credentialScope : CredentialScope
  readOnlyRootFilesystem : Bool
  networkPolicy : String
  resourceLimitsEnforced : Bool
  runtimeImageId : Option String
  memoryLimitBytes : Option Int
  cpuLimitMillis : Option Int
  pidsLimit : Option Int
  ephemeralStorageLimitBytes : Option Int
  orchestratorNamespace : Option String
  serviceAccountName : Option String
  serviceAccountTokenAutomounted : Option Bool
  deriving DecidableEq

/-! ### What the model accepts -/

def isHexDigit (c : Char) : Bool := c.isDigit || ('a' ≤ c && c ≤ 'f') || ('A' ≤ c && c ≤ 'F')

/-- `Sha256Digest` -/
def isSha256Digest (text : String) : Bool :=
  text.toList.take 7 = "sha256:".toList && (text.toList.drop 7).length = 64 &&
    (text.toList.drop 7).all isHexDigit

def isLabelChar (c : Char) : Bool := c.isDigit || ('a' ≤ c && c ≤ 'z')

/-- `^[a-z0-9](?:[-a-z0-9]{0,61}[a-z0-9])?$` -/
def isDnsLabel (text : String) : Bool :=
  text.length ≤ 63 && text.toList.head?.any isLabelChar && text.toList.getLast?.any isLabelChar &&
    text.toList.all fun c => c = '-' || isLabelChar c

/-- The bounds and patterns of the optional fields. -/
def fieldErrors (evidence : IsolationEvidence) : List String :=
  (if evidence.networkPolicy ∈ ["WORKER_DEFAULT", "DENY_ALL", "ALLOWLIST"] then []
    else ["network_policy"]) ++
  (if evidence.runtimeImageId.all isSha256Digest then [] else ["runtime_image_id"]) ++
  (if evidence.memoryLimitBytes.all (134217728 ≤ ·) then [] else ["memory_limit_bytes"]) ++
  (if evidence.cpuLimitMillis.all fun n => 100 ≤ n ∧ n ≤ 32000 then [] else ["cpu_limit_millis"]) ++
  (if evidence.pidsLimit.all fun n => 16 ≤ n ∧ n ≤ 4096 then [] else ["pids_limit"]) ++
  (if evidence.ephemeralStorageLimitBytes.all (67108864 ≤ ·) then []
    else ["ephemeral_storage_limit_bytes"]) ++
  (if evidence.orchestratorNamespace.all isDnsLabel then [] else ["orchestrator_namespace"]) ++
  if evidence.serviceAccountName.all isDnsLabel then [] else ["service_account_name"]

/-- `hard_isolation_evidence_is_complete` -/
def requireComplete (evidence : IsolationEvidence) : Except ValidationError Unit := do
  if evidence.mode = .container ∨ evidence.mode = .kubernetes then
    ensure (evidence.dedicatedProcess = true ∧ evidence.credentialScope = .runSecretsOnly)
      "hard isolation requires a dedicated process and Run credentials"
    ensure (evidence.readOnlyRootFilesystem = true ∧ evidence.networkPolicy ≠ "WORKER_DEFAULT")
      "hard isolation requires filesystem and network enforcement"
    ensure (evidence.resourceLimitsEnforced = true) "hard isolation requires resource enforcement"
    ensure (evidence.runtimeImageId.isSome ∧ evidence.memoryLimitBytes.isSome ∧
        evidence.cpuLimitMillis.isSome)
      "hard isolation requires an immutable image and exact limits"
    ensure (evidence.mode = .container → evidence.pidsLimit.isSome)
      "container isolation requires immutable image and exact limits"
    if evidence.mode = .kubernetes then
      ensure (evidence.ephemeralStorageLimitBytes.isSome)
        "Kubernetes isolation requires an ephemeral storage limit"
      ensure (evidence.orchestratorNamespace.any (· ≠ "") ∧ evidence.serviceAccountName.any (· ≠ ""))
        "Kubernetes isolation requires namespace and ServiceAccount evidence"
      ensure (evidence.serviceAccountName ≠ some "default")
        "Kubernetes isolation cannot use the default ServiceAccount"
      ensure (evidence.serviceAccountTokenAutomounted = some false)
        "Kubernetes isolation must disable ServiceAccount token automount"

/-- The model, from the arguments it is called with: the version is stripped, everything else is kept
    as it is, or refused. -/
def IsolationEvidence.validate (arguments : IsolationEvidence) :
    Except ValidationError IsolationEvidence := do
  let version ← nonEmptyStr arguments.executorVersion
  let evidence := { arguments with executorVersion := version }
  ensure (fieldErrors evidence = []) (String.intercalate ", " (fieldErrors evidence))
  requireComplete evidence
  return evidence

/-! ### What the worker expects -/

/-- `container_isolation_evidence` -/
def containerIsolationEvidence (runnerVersion : String) (settings : Containers.IsolationSettings)
    (runtimeImageId : String) : Except ValidationError IsolationEvidence :=
  IsolationEvidence.validate
    { mode := .container
      executorVersion := runnerVersion
      dedicatedProcess := true
      credentialScope := .runSecretsOnly
      readOnlyRootFilesystem := true
      networkPolicy := policyText settings.networkPolicy
      resourceLimitsEnforced := true
      runtimeImageId := some runtimeImageId
      memoryLimitBytes := some settings.memoryBytes
      cpuLimitMillis := some settings.cpuMillis
      pidsLimit := some settings.pidsLimit
      ephemeralStorageLimitBytes := none
      orchestratorNamespace := none
      serviceAccountName := none
      serviceAccountTokenAutomounted := none }

/-- `kubernetes_isolation_evidence` -/
def kubernetesIsolationEvidence (settings : Kubernetes.IsolationSettings)
    (runtimeImageId : String) : Except ValidationError IsolationEvidence :=
  IsolationEvidence.validate
    { mode := .kubernetes
      executorVersion := settings.runnerVersion
      dedicatedProcess := true
      credentialScope := .runSecretsOnly
      readOnlyRootFilesystem := true
      networkPolicy := policyText settings.networkPolicy
      resourceLimitsEnforced := true
      runtimeImageId := some runtimeImageId
      memoryLimitBytes := some settings.memoryBytes
      cpuLimitMillis := some settings.cpuMillis
      pidsLimit := none
      ephemeralStorageLimitBytes := some settings.ephemeralStorageBytes
      orchestratorNamespace := some settings.namespaceName
      serviceAccountName := some settings.serviceAccount
      serviceAccountTokenAutomounted := some false }

/-! ### What the child is given -/

/-- Variables by their name, each name once. -/
abbrev Environment := List (String × String)

/-- A number in the environment: `str(n)`. -/
def numberText (n : Nat) : Except WorkerError String :=
  found (strOf n) (.other "Exceeds the limit for integer string conversion")

/-- What the environment takes from a snapshot: the secrets it binds, and its package, as the texts
    that the models of the package accept. -/
structure IsolatedJob where
  secretBindings : List SecretBinding
  imageRepository : String
  digest : String
  withoutDigest : '@' ∉ imageRepository.toList
  isDigest : isSha256Digest digest = true
  deriving DecidableEq

/-- `_runtime_image` -/
def IsolatedJob.runtimeImage (job : IsolatedJob) : String :=
  job.imageRepository ++ "@" ++ job.digest

/-- The variable of a secret binding, if the worker has a value for it. -/
def secretVariable (environ : Environment) (binding : SecretBinding) : Option (String × String) :=
  let name := "TESTOPS_SECRET_" ++ binding.name
  (environ.lookup name).bind fun secret => if secret = "" then none else some (name, secret)

/-- `container_environment` -/
def containerEnvironment (job : IsolatedJob) (runnerVersion : String)
    (settings : Containers.IsolationSettings) (runtimeImageId : String) (environ : Environment)
    (liveViewPassword : Option String) : Except WorkerError Environment := do
  let memory ← numberText settings.memoryBytes
  let cpu ← numberText settings.cpuMillis
  let pids ← numberText settings.pidsLimit
  return [("TESTOPS_EXECUTOR_MODE", "CONTAINER"),
      ("TESTOPS_EXECUTOR_VERSION", runnerVersion),
      ("TESTOPS_RUNTIME_IMAGE_ID", runtimeImageId),
      ("TESTOPS_NETWORK_POLICY", policyText settings.networkPolicy),
      ("TESTOPS_MEMORY_LIMIT_BYTES", memory),
      ("TESTOPS_CPU_LIMIT_MILLIS", cpu),
      ("TESTOPS_PIDS_LIMIT", pids)] ++
    job.secretBindings.filterMap (secretVariable environ) ++
    (liveViewPassword.map fun password => ("TESTOPS_LIVE_VIEW_PASSWORD", password)).toList

/-- `_fixed_environment`, and the secrets that the container reads beside it. -/
def kubernetesEnvironment (job : IsolatedJob) (settings : Kubernetes.IsolationSettings)
    (environ : Environment) : Except WorkerError Environment := do
  let memory ← numberText settings.memoryBytes
  let cpu ← numberText settings.cpuMillis
  let storage ← numberText settings.ephemeralStorageBytes
  return [("TESTOPS_EXECUTOR_MODE", "KUBERNETES"),
      ("TESTOPS_EXECUTOR_VERSION", settings.runnerVersion),
      ("TESTOPS_RUNTIME_IMAGE_ID", job.digest),
      ("TESTOPS_NETWORK_POLICY", policyText settings.networkPolicy),
      ("TESTOPS_MEMORY_LIMIT_BYTES", memory),
      ("TESTOPS_CPU_LIMIT_MILLIS", cpu),
      ("TESTOPS_EPHEMERAL_STORAGE_LIMIT_BYTES", storage),
      ("TESTOPS_ORCHESTRATOR_NAMESPACE", settings.namespaceName),
      ("TESTOPS_SERVICE_ACCOUNT_NAME", settings.serviceAccount),
      ("TESTOPS_SERVICE_ACCOUNT_TOKEN_AUTOMOUNTED", "false")] ++
    job.secretBindings.filterMap (secretVariable environ)

/-! ### What the child reports -/

/-- `int(source.get(name, "0"))` -/
def numberVariable (source : Environment) (name : String) : Except ValidationError Int :=
  found (intOf ((source.lookup name).getD "0")) "invalid literal for int()"

/-- `subprocess_isolation_evidence` -/
def subprocessIsolationEvidence (executorVersion : String) :
    Except ValidationError IsolationEvidence :=
  IsolationEvidence.validate
    { mode := .subprocess
      executorVersion := executorVersion
      dedicatedProcess := true
      credentialScope := .runSecretsOnly
      readOnlyRootFilesystem := false
      networkPolicy := "WORKER_DEFAULT"
      resourceLimitsEnforced := false
      runtimeImageId := none
      memoryLimitBytes := none
      cpuLimitMillis := none
      pidsLimit := none
      ephemeralStorageLimitBytes := none
      orchestratorNamespace := none
      serviceAccountName := none
      serviceAccountTokenAutomounted := none }

/-- The evidence of a child that runs in a cluster. -/
def kubernetesEvidenceFromEnvironment (source : Environment) :
    Except ValidationError IsolationEvidence := do
  let memory ← numberVariable source "TESTOPS_MEMORY_LIMIT_BYTES"
  let cpu ← numberVariable source "TESTOPS_CPU_LIMIT_MILLIS"
  let storage ← numberVariable source "TESTOPS_EPHEMERAL_STORAGE_LIMIT_BYTES"
  IsolationEvidence.validate
    { mode := .kubernetes
      executorVersion := (source.lookup "TESTOPS_EXECUTOR_VERSION").getD "unknown"
      dedicatedProcess := true
      credentialScope := .runSecretsOnly
      readOnlyRootFilesystem := true
      networkPolicy := (source.lookup "TESTOPS_NETWORK_POLICY").getD "WORKER_DEFAULT"
      resourceLimitsEnforced := true
      runtimeImageId := source.lookup "TESTOPS_RUNTIME_IMAGE_ID"
      memoryLimitBytes := some memory
      cpuLimitMillis := some cpu
      pidsLimit := none
      ephemeralStorageLimitBytes := some storage
      orchestratorNamespace := source.lookup "TESTOPS_ORCHESTRATOR_NAMESPACE"
      serviceAccountName := source.lookup "TESTOPS_SERVICE_ACCOUNT_NAME"
      serviceAccountTokenAutomounted := some (((source.lookup
        "TESTOPS_SERVICE_ACCOUNT_TOKEN_AUTOMOUNTED").getD "true").toLower = "true") }

/-- The evidence of a child that runs in a container. -/
def containerEvidenceFromEnvironment (source : Environment) :
    Except ValidationError IsolationEvidence := do
  let memory ← numberVariable source "TESTOPS_MEMORY_LIMIT_BYTES"
  let cpu ← numberVariable source "TESTOPS_CPU_LIMIT_MILLIS"
  let pids ← numberVariable source "TESTOPS_PIDS_LIMIT"
  IsolationEvidence.validate
    { mode := .container
      executorVersion := (source.lookup "TESTOPS_EXECUTOR_VERSION").getD "unknown"
      dedicatedProcess := true
      credentialScope := .runSecretsOnly
      readOnlyRootFilesystem := true
      networkPolicy := (source.lookup "TESTOPS_NETWORK_POLICY").getD "WORKER_DEFAULT"
      resourceLimitsEnforced := true
      runtimeImageId := source.lookup "TESTOPS_RUNTIME_IMAGE_ID"
      memoryLimitBytes := some memory
      cpuLimitMillis := some cpu
      pidsLimit := some pids
      ephemeralStorageLimitBytes := none
      orchestratorNamespace := none
      serviceAccountName := none
      serviceAccountTokenAutomounted := none }

/-- `isolation_evidence_from_environment` -/
def isolationEvidenceFromEnvironment (source : Environment) :
    Except ValidationError IsolationEvidence :=
  let mode := (source.lookup "TESTOPS_EXECUTOR_MODE").getD "SUBPROCESS"
  if mode = "SUBPROCESS" then
    subprocessIsolationEvidence ((source.lookup "TESTOPS_EXECUTOR_VERSION").getD "unknown")
  else if mode = "KUBERNETES" then kubernetesEvidenceFromEnvironment source
  else if mode = "CONTAINER" then containerEvidenceFromEnvironment source
  else .error "unsupported isolated executor mode"

end TestOps.Evidence

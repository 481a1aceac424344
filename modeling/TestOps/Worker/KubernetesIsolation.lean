import TestOps.Lib.Value
import TestOps.Worker.Execution

/-! How the worker checks that the pod of a run is isolated as declared. It reads three documents, in
    which a field stands under either of two names:

      Job             spec        limits in time           template  the declared pod
      Pod             spec        the observed pod         status    the image it runs
      NetworkPolicy   metadata    labels                   spec      selector, egress

    The declared and the observed pod pass the same checks. What differs is named, each name once,
    and the digest of the observed image is returned. -/

namespace TestOps.Kubernetes

open Checked

/-- `KubernetesIsolationSettings`, as far as a pod and its evidence depend on it. -/
structure IsolationSettings where
  runnerVersion : String
  executorTimeoutSeconds : Nat
  namespaceName : String
  serviceAccount : String
  networkPolicy : NetworkPolicy
  allowCidrs : List String
  memoryBytes : Nat
  cpuMillis : Nat
  ephemeralStorageBytes : Nat
  cleanupTtlSeconds : Nat
  deriving DecidableEq

/-- The text of a value: a text is its own. -/
structure TextOf where
  str : Value → String
  str_text : ∀ s, str (.str s) = s

def workspaceRoot : String := "/var/lib/testops/runs"

def inputRoot : String := "/run/testops-input"

/-- The user and the group of the runtime. -/
def runtimeId : Value := .int 1001

/-! ### Reading documents -/

/-- `_as_mapping` -/
def asMapping (resource : Value) : Except WorkerError Dict :=
  found resource.dict? (isolatedError "Kubernetes API returned an unreadable resource")

/-- `_value` -/
def value (document : Dict) (camel snake : String) : Value :=
  match document.lookup camel with
  | some v => v
  | none => document.get snake

/-- `_nested` -/
def nested (document : Dict) (camel snake : String) : Dict :=
  (value document camel snake).dict?.getD []

/-- `_sequence` -/
def sequence (document : Dict) (camel snake : String) : List Value :=
  (value document camel snake).list?.getD []

/-- The entries of a dictionary that is filled in this order: the last one of each key. -/
def lastOfEach {β : Type} : List (String × β) → List (String × β)
  | [] => []
  | entry :: entries =>
    if entries.any (·.1 = entry.1) then lastOfEach entries else entry :: lastOfEach entries

/-- The flag itself, not a number that is equal to it. -/
def isFlag (v : Value) (flag : Bool) : Bool :=
  match v with
  | .bool b => b == flag
  | _ => false

/-! ### Digests of images -/

def isLowerHex (c : Char) : Bool := c.isDigit || ('a' ≤ c && c ≤ 'f')

/-- The text begins with a digest: `sha256:` and 64 digits. -/
def beginsWithDigest (text : List Char) : Bool :=
  text.take 7 = "sha256:".toList && ((text.drop 7).take 64).length = 64 &&
    ((text.drop 7).take 64).all isLowerHex

/-- `IMAGE_DIGEST_PATTERN.search`: the first digest in the text. -/
def firstDigest : List Char → Option (List Char)
  | [] => none
  | c :: cs => if beginsWithDigest (c :: cs) then some ((c :: cs).take 71) else firstDigest cs

/-- `_image_digest`. Among the letters that are lowered, only those of ASCII become digits. -/
def imageDigest (texts : TextOf) (v : Value) : Option String :=
  (firstDigest ((texts.str v).toList.map Char.toLower)).map String.ofList

/-! ### The checks -/

section Verify

variable (texts : TextOf) (settings : IsolationSettings) (expectedImage : String)

/-- The name of a check, unless it passes. -/
def mismatch (name : String) (passes : Bool) : List String := if passes then [] else [name]

/-- The fields of a pod that concern its host and its service account. -/
def podMismatches (candidate : Dict) : List String :=
  let security := nested candidate "securityContext" "security_context"
  mismatch "ServiceAccountToken" (isFlag
    (value candidate "automountServiceAccountToken" "automount_service_account_token") false) ++
  mismatch "ServiceAccount" ((value candidate "serviceAccountName" "service_account_name").eq
    (.str settings.serviceAccount)) ++
  mismatch "hostNetwork" (isFlag (value candidate "hostNetwork" "host_network") false) ++
  mismatch "hostPID" (isFlag (value candidate "hostPID" "host_pid") false) ++
  mismatch "hostIPC" (isFlag (value candidate "hostIPC" "host_ipc") false) ++
  mismatch "PodRunAsNonRoot" (isFlag (value security "runAsNonRoot" "run_as_non_root") true) ++
  mismatch "PodRunAsUser" ((value security "runAsUser" "run_as_user").eq runtimeId) ++
  mismatch "PodRunAsGroup" ((value security "runAsGroup" "run_as_group").eq runtimeId) ++
  mismatch "PodFsGroup" ((value security "fsGroup" "fs_group").eq runtimeId) ++
  mismatch "PodSeccomp" ((value (nested security "seccompProfile" "seccomp_profile") "type" "type").eq
    (.str "RuntimeDefault"))

/-- The only container of a pod, and none of several. -/
def runnerOf (candidate : Dict) : Except WorkerError Dict :=
  match sequence candidate "containers" "containers" with
  | [container] => asMapping container
  | _ => return []

/-- `expected_resources` -/
def expectedResources : Value :=
  .dict [("memory", .str (toString settings.memoryBytes)),
    ("cpu", .str (toString settings.cpuMillis ++ "m")),
    ("ephemeral-storage", .str (toString settings.ephemeralStorageBytes))]

/-- The fields of the container that concern its image, its user and its resources. -/
def runnerMismatches (runner : Dict) : List String :=
  let security := nested runner "securityContext" "security_context"
  let resources := nested runner "resources" "resources"
  mismatch "Image" ((runner.get "image").eq (.str expectedImage)) ++
  mismatch "ReadOnlyRootFilesystem" (isFlag
    (value security "readOnlyRootFilesystem" "read_only_root_filesystem") true) ++
  mismatch "PrivilegeEscalation" (isFlag
    (value security "allowPrivilegeEscalation" "allow_privilege_escalation") false) ++
  mismatch "RunAsNonRoot" (isFlag (value security "runAsNonRoot" "run_as_non_root") true) ++
  mismatch "RunAsUser" ((value security "runAsUser" "run_as_user").eq runtimeId) ++
  mismatch "RunAsGroup" ((value security "runAsGroup" "run_as_group").eq runtimeId) ++
  mismatch "Capabilities" ((Value.list (sequence (nested security "capabilities" "capabilities")
    "drop" "drop")).eq (.list [.str "ALL"])) ++
  mismatch "Seccomp" ((value (nested security "seccompProfile" "seccomp_profile") "type" "type").eq
    (.str "RuntimeDefault")) ++
  mismatch "ResourceLimits" ((Value.dict (nested resources "limits" "limits")).eq
    (expectedResources settings)) ++
  mismatch "ResourceRequests" ((Value.dict (nested resources "requests" "requests")).eq
    (expectedResources settings))

/-- `mounts`: the mounts of the container by their path. -/
def mountsOf (runner : Dict) : Except WorkerError (List (String × Dict)) := do
  let mounts ← (sequence runner "volumeMounts" "volume_mounts").mapM asMapping
  return lastOfEach (mounts.map fun mount => (texts.str (value mount "mountPath" "mount_path"), mount))

/-- `volumes`: the volumes of the pod by their name. -/
def volumesOf (candidate : Dict) : Except WorkerError (List (String × Dict)) := do
  let volumes ← (sequence candidate "volumes" "volumes").mapM asMapping
  return lastOfEach (volumes.map fun volume => (texts.str (value volume "name" "name"), volume))

def mountMismatches (mounts : List (String × Dict)) : List String :=
  mismatch "WorkspaceMount" (mounts.any (·.1 = workspaceRoot)) ++
  mismatch "InputMount" (isFlag
    (value ((mounts.lookup inputRoot).getD []) "readOnly" "read_only") true) ++
  mismatch "ServiceAccountTokenMount"
    (!mounts.any (·.1 = "/var/run/secrets/kubernetes.io/serviceaccount"))

def volumeNames : List String := ["workspace", "input", "tmp", "home"]

def volumeMismatches (volumes : List (String × Dict)) : List String :=
  mismatch "Volumes" (volumes.all (·.1 ∈ volumeNames) &&
    volumeNames.all fun name => volumes.any (·.1 = name)) ++
  mismatch "WorkspaceSize" ((value (nested ((volumes.lookup "workspace").getD []) "emptyDir"
    "empty_dir") "sizeLimit" "size_limit").eq (.str (toString settings.ephemeralStorageBytes))) ++
  mismatch "InputConfigMap"
    (!(nested ((volumes.lookup "input").getD []) "configMap" "config_map").isEmpty) ++
  volumes.flatMap fun volume =>
    mismatch "HostPath" ((value volume.2 "hostPath" "host_path").eq .null) ++
    mismatch "ProjectedToken" ((value volume.2 "projected" "projected").eq .null)

/-- `allowed_environment` -/
def allowedEnvironment : List String :=
  ["TESTOPS_EXECUTOR_MODE", "TESTOPS_EXECUTOR_VERSION", "TESTOPS_RUNTIME_IMAGE_ID",
    "TESTOPS_NETWORK_POLICY", "TESTOPS_MEMORY_LIMIT_BYTES", "TESTOPS_CPU_LIMIT_MILLIS",
    "TESTOPS_EPHEMERAL_STORAGE_LIMIT_BYTES", "TESTOPS_ORCHESTRATOR_NAMESPACE",
    "TESTOPS_SERVICE_ACCOUNT_NAME", "TESTOPS_SERVICE_ACCOUNT_TOKEN_AUTOMOUNTED"]

def environmentMismatches (runner : Dict) : Except WorkerError (List String) := do
  let entries ← (sequence runner "env" "env").mapM asMapping
  return mismatch "EnvironmentFrom" (!(value runner "envFrom" "env_from").truthy) ++
    entries.flatMap fun entry =>
      let name := texts.str (value entry "name" "name")
      mismatch "Environment" (name ∈ allowedEnvironment ∨ "TESTOPS_SECRET_".toList <+: name.toList)

/-- What the loop body of `verify_kubernetes_isolation` finds in a pod. -/
def candidateMismatches (candidate : Dict) : Except WorkerError (List String) := do
  let runner ← runnerOf candidate
  let mounts ← mountsOf texts runner
  let volumes ← volumesOf texts candidate
  let environment ← environmentMismatches texts runner
  return podMismatches settings candidate ++ runnerMismatches settings expectedImage runner ++
    mountMismatches mounts ++ volumeMismatches settings volumes ++ environment

/-- `actual_cidrs` -/
def actualCidrs (egress : List Value) : Except WorkerError (List String) := do
  let rules ← egress.mapM asMapping
  let peers ← (rules.flatMap fun rule => sequence rule "to" "to").mapM asMapping
  return peers.filterMap fun peer =>
    let cidr := (nested peer "ipBlock" "ip_block").get "cidr"
    if cidr.truthy then some (texts.str cidr) else none

def policyMismatches (policy : Dict) : Except WorkerError (List String) := do
  let spec := nested policy "spec" "spec"
  let egress := sequence spec "egress" "egress"
  let labels := nested (nested policy "metadata" "metadata") "labels" "labels"
  let selector := nested (nested spec "podSelector" "pod_selector") "matchLabels" "match_labels"
  let cidrs ← actualCidrs texts egress
  return mismatch "NetworkPolicyType"
      ((sequence spec "policyTypes" "policy_types").any (·.eq (.str "Egress"))) ++
    mismatch "DenyAllEgress" (settings.networkPolicy ≠ .denyAll ∨ egress.isEmpty) ++
    mismatch "AllowlistEgress" (settings.networkPolicy ≠ .allowlist ∨ ¬egress.isEmpty) ++
    mismatch "NetworkPolicySelector"
      ((selector.get "io.testops.run-id").eq (labels.get "io.testops.run-id")) ++
    mismatch "AllowlistCIDRs" (settings.networkPolicy ≠ .allowlist ∨
      ((∀ cidr ∈ cidrs, cidr ∈ settings.allowCidrs) ∧ ∀ cidr ∈ settings.allowCidrs, cidr ∈ cidrs))

def jobMismatches (spec : Dict) : List String :=
  mismatch "BackoffLimit" ((value spec "backoffLimit" "backoff_limit").eq (.int 0)) ++
  mismatch "ActiveDeadline" ((value spec "activeDeadlineSeconds" "active_deadline_seconds").eq
    (.int (settings.executorTimeoutSeconds + 60))) ++
  mismatch "CleanupTTL" ((value spec "ttlSecondsAfterFinished" "ttl_seconds_after_finished").eq
    (.int settings.cleanupTtlSeconds))

/-- The status of the only container. -/
def statusOf (pod : Dict) : Except WorkerError Dict :=
  match sequence (nested pod "status" "status") "containerStatuses" "container_statuses" with
  | [status] => asMapping status
  | _ => return []

/-- `verify_kubernetes_isolation` -/
def verifyKubernetesIsolation (jobResource podResource networkPolicyResource : Value) :
    Except WorkerError String := do
  let job ← asMapping jobResource
  let pod ← asMapping podResource
  let policy ← asMapping networkPolicyResource
  let jobSpec := nested job "spec" "spec"
  let declared ← candidateMismatches texts settings expectedImage
    (nested (nested jobSpec "template" "template") "spec" "spec")
  let actual ← candidateMismatches texts settings expectedImage (nested pod "spec" "spec")
  let network ← policyMismatches texts settings policy
  let status ← statusOf pod
  let actualDigest := imageDigest texts (value status "imageID" "image_id")
  let mismatches := jobMismatches settings jobSpec ++ declared ++ actual ++ network ++
    mismatch "RuntimeImageID"
      (actualDigest.isSome ∧ actualDigest = imageDigest texts (.str expectedImage))
  ensure (mismatches = []) (isolatedError
    ("Kubernetes runtime does not match declared isolation: " ++
      String.intercalate ", " (mismatches.dedup.insertionSort (· ≤ ·))))
  return actualDigest.getD ""

end Verify

end TestOps.Kubernetes

import TestOps.Lib.Value
import TestOps.Worker.Execution

/-! How the worker checks that a started container is isolated as declared. The daemon shows the
    container as one document; its fields are compared one by one, and all that differ are named.

      Image                                     the admitted image
      Config        User                        pwuser
      HostConfig    ReadonlyRootfs … ShmSize    the settings
                    CapDrop SecurityOpt         ALL, no-new-privileges
                    Ulimits Tmpfs
      Mounts        workspace  input            volumes
                    /var/run/docker.sock        none -/

namespace TestOps.Containers

open Checked

/-- `ContainerIsolationSettings`, as far as the check reads it. -/
structure IsolationSettings where
  networkPolicy : NetworkPolicy
  network : Option String
  memoryBytes : Nat
  cpuMillis : Nat
  pidsLimit : Nat
  shmBytes : Nat
  deriving DecidableEq

def containerWorkspaceRoot : String := "/var/lib/testops/runs"

def containerInputRoot : String := "/run/testops-input"

/-- `CORE_DUMP_ULIMIT` -/
def coreDumpUlimit : Value := .dict [("Name", .str "core"), ("Soft", .int 0), ("Hard", .int 0)]

/-- `expected_network` -/
def IsolationSettings.expectedNetwork (settings : IsolationSettings) : Option String :=
  if settings.networkPolicy = .allowlist then settings.network else some "none"

/-- A text, or `None`. -/
def ofText? : Option String → Value
  | some s => .str s
  | none => .null

section Verify

variable (settings : IsolationSettings) (runtimeImageId : String) (attributes : Dict)

/-- `exact_values`: each field with what it is and what it should be. -/
def exactValues (host config : Dict) : List (String × Value × Value) :=
  [("Image", attributes.get "Image", .str runtimeImageId),
    ("User", config.get "User", .str "pwuser"),
    ("ReadonlyRootfs", host.get "ReadonlyRootfs", .bool true),
    ("Privileged", host.get "Privileged", .bool false),
    ("NetworkMode", host.get "NetworkMode", ofText? settings.expectedNetwork),
    ("Memory", host.get "Memory", .int settings.memoryBytes),
    ("NanoCpus", host.get "NanoCpus", .int (settings.cpuMillis * 1000000)),
    ("PidsLimit", host.get "PidsLimit", .int settings.pidsLimit),
    ("ShmSize", host.get "ShmSize", .int settings.shmBytes)]

/-- The name of a field, unless the field is as it should be. -/
def mismatch (field : String) (matched : Bool) : List String := if matched then [] else [field]

/-- Only a text has capitals that spell a capability. -/
def isAll (v : Value) : Bool := v.str?.any fun s => s.toUpper = "ALL"

/-- The first resource limit for core dumps. -/
def coreUlimit (ulimits : List Value) : Value :=
  (ulimits.find? fun v => (v.dict?.map fun d => (d.get "Name").eq (.str "core")) = some true).getD
    .null

/-- The mount at a path; a path that is mounted twice shows its last mount. Only a text begins with
    the slash of a path. -/
def mountAt (mounts : List Dict) (path : String) : Dict :=
  (mounts.reverse.find? fun mount => (mount.get "Destination").str? = some path).getD []

def isMounted (mounts : List Dict) (path : String) : Bool :=
  mounts.any fun mount => (mount.get "Destination").str? = some path

/-- A named volume that is mounted with the access. -/
def isVolume (mount : Dict) (writable : Bool) : Bool :=
  (mount.get "Type").eq (.str "volume") &&
    match mount.get "RW" with
    | .bool rw => rw == writable
    | _ => false

/-- An operation on a value of another type. -/
def typeError : WorkerError := .other "unexpected type"

/-- `verify_container_isolation` -/
def verifyContainerIsolation : Except WorkerError Unit := do
  let host ← found (attributes.getD "HostConfig" (.dict [])).dict? typeError
  let config ← found (attributes.getD "Config" (.dict [])).dict? typeError
  let exact := (exactValues settings runtimeImageId attributes host config).flatMap fun entry =>
    mismatch entry.1 (entry.2.1.eq entry.2.2)
  let capDrop ← found ((host.get "CapDrop").orElse (.list [])).iterate? typeError
  let privileges ← found
    (((host.get "SecurityOpt").orElse (.list [])).contains? "no-new-privileges:true") typeError
  let ulimits ← found ((host.get "Ulimits").orElse (.list [])).iterate? typeError
  let tmpfs ← found ((host.get "Tmpfs").orElse (.dict [])).iterate? typeError
  ensure (tmpfs.all Value.hashable) typeError
  let mounted ← found (attributes.getD "Mounts" (.list [])).iterate? typeError
  let mounts := mounted.filterMap Value.dict?
  let mismatches := exact ++ mismatch "CapDrop" (capDrop.any isAll) ++
    mismatch "SecurityOpt" privileges ++
    mismatch "CoreUlimit" ((coreUlimit ulimits).eq coreDumpUlimit) ++
    mismatch "Tmpfs" (["/tmp", "/home/pwuser"].all fun path => tmpfs.any (·.str? = some path)) ++
    mismatch "WorkspaceMount" (isVolume (mountAt mounts containerWorkspaceRoot) true) ++
    mismatch "InputMount" (isVolume (mountAt mounts containerInputRoot) false) ++
    mismatch "DockerSocket" (!isMounted mounts "/var/run/docker.sock")
  ensure (mismatches = []) (isolatedError
    ("container runtime does not match declared isolation: " ++
      String.intercalate ", " (mismatches.insertionSort (· ≤ ·))))

end Verify

end TestOps.Containers

import TestOps.Worker.ContainerIsolation

/-! What a passed check of a container says. The check reads the fields that the worker has set when
    it created the container, and each of them is as declared. It reads nothing that could have been
    added beside them:

      compared                                 never read
      CapDrop                                  CapAdd
      NetworkMode                              NetworkSettings.Networks
      Mounts at three destinations             Mounts anywhere else
      Privileged                               PidMode IpcMode UTSMode … Devices …

    So it is sound for exactly those documents that fail it, or in which nothing has been added. -/

namespace TestOps.Containers

open Checked

section Documents

variable (attributes : Dict)

def hostConfig : Dict := (attributes.getD "HostConfig" (.dict [])).dict?.getD []

def config : Dict := (attributes.getD "Config" (.dict [])).dict?.getD []

def mountsOf : List Dict :=
  ((attributes.getD "Mounts" (.list [])).iterate?.getD []).filterMap Value.dict?

/-- The members of an object, none of another value. -/
def membersOf (v : Value) : Dict := v.dict?.getD []

/-- The networks the container is attached to, by name. -/
def networksOf : List String :=
  (membersOf ((membersOf (attributes.get "NetworkSettings")).get "Networks")).map Prod.fst

end Documents

/-- The mount shows a path, a pipe or a socket of the host. -/
def sharesHostPath (mount : Dict) : Prop :=
  (mount.get "Type").str? = some "bind" ∨ (mount.get "Type").str? = some "npipe"

/-- The fields that say which namespaces the container has. -/
def namespaceModes : List String :=
  ["NetworkMode", "PidMode", "IpcMode", "UTSMode", "UsernsMode", "CgroupnsMode"]

/-- The fields that hand devices of the host over to the container. -/
def deviceFields : List String := ["Devices", "DeviceRequests", "DeviceCgroupRules"]

section Properties

variable (settings : IsolationSettings) (runtimeImageId : String) (attributes : Dict)

/-- Nothing stands in the document beside what the worker has asked for. -/
structure NothingAdded : Prop where
  capabilities : ((hostConfig attributes).get "CapAdd").truthy = false
  networks : ∀ network ∈ networksOf attributes, settings.expectedNetwork = some network
  paths : ∀ mount ∈ mountsOf attributes, ¬sharesHostPath mount
  namespaces : ∀ mode ∈ namespaceModes, ((hostConfig attributes).get mode).str? ≠ some "host"
  devices : ∀ field ∈ deviceFields, ((hostConfig attributes).get field).truthy = false

/-- The container that the document shows is isolated. -/
structure Isolated : Prop where
  image : (attributes.get "Image").eq (.str runtimeImageId) = true
  user : ((config attributes).get "User").eq (.str "pwuser") = true
  unprivileged : ((hostConfig attributes).get "Privileged").eq (.bool false) = true
  dropped : ∃ items, (((hostConfig attributes).get "CapDrop").orElse (.list [])).iterate? =
    some items ∧ items.any isAll = true
  readOnly : ((hostConfig attributes).get "ReadonlyRootfs").eq (.bool true) = true
  memory : ((hostConfig attributes).get "Memory").eq (.int settings.memoryBytes) = true
  cpus : ((hostConfig attributes).get "NanoCpus").eq (.int (settings.cpuMillis * 1000000)) = true
  pids : ((hostConfig attributes).get "PidsLimit").eq (.int settings.pidsLimit) = true
  sharedMemory : ((hostConfig attributes).get "ShmSize").eq (.int settings.shmBytes) = true
  networkMode : ((hostConfig attributes).get "NetworkMode").eq
    (ofText? settings.expectedNetwork) = true
  nothingAdded : NothingAdded settings attributes

/-- The document shows everything the worker has asked for. -/
structure Declared : Prop where
  host : (attributes.getD "HostConfig" (.dict [])).dict?.isSome
  config : (attributes.getD "Config" (.dict [])).dict?.isSome
  exact : ∀ entry ∈ exactValues settings runtimeImageId attributes (hostConfig attributes)
    (Containers.config attributes), entry.2.1.eq entry.2.2 = true
  dropped : ∃ items, (((hostConfig attributes).get "CapDrop").orElse (.list [])).iterate? =
    some items ∧ items.any isAll = true
  privileges : (((hostConfig attributes).get "SecurityOpt").orElse (.list [])).contains?
    "no-new-privileges:true" = some true
  coreDumps : ∃ ulimits, (((hostConfig attributes).get "Ulimits").orElse (.list [])).iterate? =
    some ulimits ∧ (coreUlimit ulimits).eq coreDumpUlimit = true
  tmpfs : ∃ paths, (((hostConfig attributes).get "Tmpfs").orElse (.dict [])).iterate? =
    some paths ∧ paths.all Value.hashable = true ∧
      (["/tmp", "/home/pwuser"].all fun path => paths.any (·.str? = some path)) = true
  mounts : (attributes.getD "Mounts" (.list [])).iterate?.isSome
  workspace : isVolume (mountAt (mountsOf attributes) containerWorkspaceRoot) true = true
  input : isVolume (mountAt (mountsOf attributes) containerInputRoot) false = true
  socket : isMounted (mountsOf attributes) "/var/run/docker.sock" = false

end Properties

variable {settings : IsolationSettings} {runtimeImageId : String} {attributes : Dict}

theorem mismatch_eq_nil {field : String} {matched : Bool} :
    mismatch field matched = [] ↔ matched = true := by
  cases matched <;> simp [mismatch]

theorem hostConfig_eq {host : Dict}
    (h : (attributes.getD "HostConfig" (.dict [])).dict? = some host) :
    hostConfig attributes = host := by
  rw [hostConfig, h]
  rfl

theorem config_eq {members : Dict} (h : (attributes.getD "Config" (.dict [])).dict? = some members) :
    config attributes = members := by
  rw [config, h]
  rfl

theorem mountsOf_eq {mounted : List Value}
    (h : (attributes.getD "Mounts" (.list [])).iterate? = some mounted) :
    mountsOf attributes = mounted.filterMap Value.dict? := by
  rw [mountsOf, h]
  rfl

/-- The check passes exactly the documents that show everything the worker has asked for. -/
theorem verify_eq_ok : verifyContainerIsolation settings runtimeImageId attributes = .ok () ↔
    Declared settings runtimeImageId attributes := by
  simp only [verifyContainerIsolation, bind_eq_ok, found_eq_ok, ensure_eq_ok,
    List.append_eq_nil_iff, mismatch_eq_nil, List.flatMap_eq_nil_iff]
  constructor
  · rintro ⟨host, hhost, config, hconfig, capDrop, hcapDrop, privileges, hprivileges, ulimits,
      hulimits, tmpfs, htmpfs, -, hhashable, mounted, hmounted, hfields⟩
    obtain ⟨⟨⟨⟨⟨⟨⟨hexact, hall⟩, hprivilege⟩, hcore⟩, hpaths⟩, hworkspace⟩, hinput⟩, hsocket⟩ :=
      hfields
    rw [← hostConfig_eq hhost] at hexact hcapDrop hprivileges hulimits htmpfs
    rw [← config_eq hconfig] at hexact
    rw [← mountsOf_eq hmounted] at hworkspace hinput hsocket
    exact ⟨by rw [hhost]; rfl, by rw [hconfig]; rfl, hexact, ⟨capDrop, hcapDrop, hall⟩,
      hprivileges.trans (congrArg some hprivilege), ⟨ulimits, hulimits, hcore⟩,
      ⟨tmpfs, htmpfs, hhashable, hpaths⟩, by rw [hmounted]; rfl, hworkspace, hinput,
      by simpa using hsocket⟩
  · intro h
    obtain ⟨host, hhost⟩ := Option.isSome_iff_exists.mp h.host
    obtain ⟨config, hconfig⟩ := Option.isSome_iff_exists.mp h.config
    obtain ⟨mounted, hmounted⟩ := Option.isSome_iff_exists.mp h.mounts
    obtain ⟨capDrop, hcapDrop, hall⟩ := h.dropped
    obtain ⟨ulimits, hulimits, hcore⟩ := h.coreDumps
    obtain ⟨tmpfs, htmpfs, hhashable, hpaths⟩ := h.tmpfs
    have hexact := h.exact
    have hprivileges := h.privileges
    have hworkspace := h.workspace
    have hinput := h.input
    have hsocket := h.socket
    rw [hostConfig_eq hhost] at hexact hprivileges hcapDrop hulimits htmpfs
    rw [config_eq hconfig] at hexact
    rw [mountsOf_eq hmounted] at hworkspace hinput hsocket
    exact ⟨host, hhost, config, hconfig, capDrop, hcapDrop, true, hprivileges, ulimits, hulimits,
      tmpfs, htmpfs, (), hhashable, mounted, hmounted, ⟨⟨⟨⟨⟨⟨⟨hexact, hall⟩, rfl⟩, hcore⟩, hpaths⟩,
      hworkspace⟩, hinput⟩, by simpa using hsocket⟩⟩

/-- What is declared and has nothing beside it is isolated. -/
theorem Declared.isolated (h : Declared settings runtimeImageId attributes)
    (hadded : NothingAdded settings attributes) : Isolated settings runtimeImageId attributes := by
  have hexact := h.exact
  simp only [exactValues, List.forall_mem_cons] at hexact
  obtain ⟨himage, huser, hreadOnly, hprivileged, hnetwork, hmemory, hcpus, hpids, hshm, -⟩ := hexact
  exact ⟨himage, huser, hprivileged, h.dropped, hreadOnly, hmemory, hcpus, hpids, hshm, hnetwork,
    hadded⟩

def denyAll : IsolationSettings where
  networkPolicy := .denyAll
  network := none
  memoryBytes := 1073741824
  cpuMillis := 1000
  pidsLimit := 256
  shmBytes := 536870912

/-- A container as the worker creates it, with further members of the host's configuration and
    further mounts. -/
def containerDocument (added : Dict) (mounts : List Value) : Dict :=
  [("Image", .str "sha256:0f"), ("Config", .dict [("User", .str "pwuser")]),
    ("HostConfig", .dict ([("ReadonlyRootfs", .bool true), ("Privileged", .bool false),
      ("NetworkMode", .str "none"), ("Memory", .int 1073741824), ("NanoCpus", .int 1000000000),
      ("PidsLimit", .int 256), ("ShmSize", .int 536870912), ("CapDrop", .list [.str "ALL"]),
      ("SecurityOpt", .list [.str "no-new-privileges:true"]),
      ("Ulimits", .list [coreDumpUlimit]),
      ("Tmpfs", .dict [("/tmp", .str "rw"), ("/home/pwuser", .str "rw")])] ++ added)),
    ("Mounts", .list ([.dict [("Type", .str "volume"), ("RW", .bool true),
        ("Destination", .str "/var/lib/testops/runs")],
      .dict [("Type", .str "volume"), ("RW", .bool false),
        ("Destination", .str "/run/testops-input")]] ++ mounts))]

/-- The Docker socket of the host, at another path than the one that is looked at. -/
def socketMount : Value :=
  .dict [("Type", .str "bind"), ("Source", .str "/var/run/docker.sock"), ("RW", .bool true),
    ("Destination", .str "/run/docker.sock")]

end TestOps.Containers

import TestOps.Invariants.EvidenceRoundTrips

/-! What a passed check of a pod says. The check reads one container, the last volume of each name, the
    labels of the policy and the CIDRs in its rules:

      compared                       never read
      containers                     initContainers  ephemeralContainers
      allowPrivilegeEscalation       privileged
      capabilities.drop              capabilities.add
      labels of the policy           labels of the pod
      cidr of a peer                 peers without one, rules without peers

    So it is sound for exactly those documents in which the parts it never reads are as declared. -/

namespace TestOps.Kubernetes

open Checked

/-! ### Documents -/

/-- The members of an object, none of another value. -/
def membersOf (v : Value) : Dict := v.dict?.getD []

section Documents

variable (texts : TextOf) (settings : IsolationSettings) (expectedImage : String)

def securityOf (container : Dict) : Dict := nested container "securityContext" "security_context"

/-- What the check reads of a container. -/
structure RunsAsDeclared (container : Dict) : Prop where
  image : (container.get "image").eq (.str expectedImage) = true
  escalation : isFlag (value (securityOf container) "allowPrivilegeEscalation"
    "allow_privilege_escalation") false = true
  nonRoot : isFlag (value (securityOf container) "runAsNonRoot" "run_as_non_root") true = true
  user : (value (securityOf container) "runAsUser" "run_as_user").eq runtimeId = true
  readOnly : isFlag (value (securityOf container) "readOnlyRootFilesystem"
    "read_only_root_filesystem") true = true
  limits : (Value.dict (nested (nested container "resources" "resources") "limits" "limits")).eq
    (expectedResources settings) = true
  tokenMount : ∀ mount ∈ sequence container "volumeMounts" "volume_mounts",
    texts.str (value (membersOf mount) "mountPath" "mount_path") ≠
      "/var/run/secrets/kubernetes.io/serviceaccount"

/-- Nothing raises what the container may do. -/
structure Unprivileged (container : Dict) : Prop where
  privileged : (value (securityOf container) "privileged" "privileged").truthy = false
  added : sequence (nested (securityOf container) "capabilities" "capabilities") "add" "add" = []

/-- The container is confined to what the worker has declared. -/
def Confined (container : Dict) : Prop :=
  RunsAsDeclared texts settings expectedImage container ∧ Unprivileged container

/-- The volume shows a token or a secret. -/
def carriesToken (volume : Dict) : Prop :=
  (value volume "projected" "projected").eq .null = false ∨
    (value volume "secret" "secret").eq .null = false

instance (volume : Dict) : Decidable (carriesToken volume) :=
  inferInstanceAs (Decidable (_ ∨ _))

/-- A requirement of a label selector. -/
def expressionHolds (labels expression : Dict) : Bool :=
  let label := labels.lookup ((expression.get "key").str?.getD "")
  let values := sequence expression "values" "values"
  match (expression.get "operator").str? with
  | some "Exists" => label.isSome
  | some "DoesNotExist" => label.isNone
  | some "In" => label.any fun v => values.any (·.eq v)
  | some "NotIn" => !label.any fun v => values.any (·.eq v)
  | _ => false

/-- A label selector selects what has these labels. -/
def Selects (selector labels : Dict) : Prop :=
  (∀ label ∈ nested selector "matchLabels" "match_labels", ∃ v,
    labels.lookup label.1 = some v ∧ v.eq label.2 = true) ∧
  ∀ expression ∈ sequence selector "matchExpressions" "match_expressions",
    expressionHolds labels (membersOf expression) = true

/-- The CIDR of a peer. -/
def cidrOf (peer : Dict) : Value := (nested peer "ipBlock" "ip_block").get "cidr"

/-- The peer is the resolver of the cluster. -/
def isResolver (peer : Dict) : Bool :=
  ((nested (nested peer "namespaceSelector" "namespace_selector") "matchLabels" "match_labels").get
    "kubernetes.io/metadata.name").eq (.str "kube-system") &&
  ((nested (nested peer "podSelector" "pod_selector") "matchLabels" "match_labels").get
    "k8s-app").eq (.str "kube-dns")

/-- The one port on which names are resolved. -/
def isDnsPort (port : Dict) : Bool :=
  (port.get "port").eq (.int 53) && (value port "endPort" "end_port").eq .null

/-- The rule opens name resolution alone to this peer. -/
def OpensDns (rule peer : Dict) : Prop :=
  isResolver peer = true ∧ sequence rule "ports" "ports" ≠ [] ∧
    ∀ port ∈ sequence rule "ports" "ports", isDnsPort (membersOf port) = true

/-- The rule opens only destinations that are named, and of these only such as `opens` admits. A rule
    without peers opens every destination. -/
def RuleOpens (opens : Dict → Prop) (rule : Dict) : Prop :=
  sequence rule "to" "to" ≠ [] ∧ ∀ peer ∈ sequence rule "to" "to",
    ((cidrOf (membersOf peer)).truthy = true ∧ opens (membersOf peer)) ∨
      OpensDns rule (membersOf peer)

/-- The peer is a configured network. -/
def Configured (peer : Dict) : Prop := texts.str (cidrOf peer) ∈ settings.allowCidrs

variable (podResource networkPolicyResource : Value)

def podSpecOf : Dict := nested (membersOf podResource) "spec" "spec"

def podLabelsOf : Dict :=
  nested (nested (membersOf podResource) "metadata" "metadata") "labels" "labels"

def policySpecOf : Dict := nested (membersOf networkPolicyResource) "spec" "spec"

def selectorOf : Dict := nested (policySpecOf networkPolicyResource) "podSelector" "pod_selector"

def egressOf : List Value := sequence (policySpecOf networkPolicyResource) "egress" "egress"

/-- The containers that run before and beside the declared ones. -/
def furtherContainers : List Value :=
  sequence (podSpecOf podResource) "initContainers" "init_containers" ++
    sequence (podSpecOf podResource) "ephemeralContainers" "ephemeral_containers"

/-- Every container that runs in the pod. -/
def containersOf : List Value :=
  sequence (podSpecOf podResource) "containers" "containers" ++ furtherContainers podResource

/-- The pod that the documents show is isolated, and so is its network. -/
structure Isolated : Prop where
  containers : ∀ container ∈ containersOf podResource,
    Confined texts settings expectedImage (membersOf container)
  automount : isFlag (value (podSpecOf podResource) "automountServiceAccountToken"
    "automount_service_account_token") false = true
  volumes : ∀ volume ∈ sequence (podSpecOf podResource) "volumes" "volumes",
    ¬carriesToken (membersOf volume)
  selected : Selects (selectorOf networkPolicyResource) (podLabelsOf podResource)
  restricts : (sequence (policySpecOf networkPolicyResource) "policyTypes" "policy_types").any
    (·.eq (.str "Egress")) = true
  denied : settings.networkPolicy = .denyAll → egressOf networkPolicyResource = []
  egress : ∀ rule ∈ egressOf networkPolicyResource,
    RuleOpens (Configured texts settings) (membersOf rule)

/-- What the check reads of the documents. -/
structure Checks : Prop where
  containers : ∀ container ∈ sequence (podSpecOf podResource) "containers" "containers",
    RunsAsDeclared texts settings expectedImage (membersOf container)
  automount : isFlag (value (podSpecOf podResource) "automountServiceAccountToken"
    "automount_service_account_token") false = true
  restricts : (sequence (policySpecOf networkPolicyResource) "policyTypes" "policy_types").any
    (·.eq (.str "Egress")) = true
  denied : settings.networkPolicy = .denyAll → egressOf networkPolicyResource = []
  configured : settings.networkPolicy = .allowlist → ∀ rule ∈ egressOf networkPolicyResource,
    ∀ peer ∈ sequence (membersOf rule) "to" "to", (cidrOf (membersOf peer)).truthy = true →
      Configured texts settings (membersOf peer)

/-- What the check never reads is as declared. -/
structure UnreadConfined : Prop where
  further : ∀ container ∈ furtherContainers podResource,
    Confined texts settings expectedImage (membersOf container)
  unprivileged : ∀ container ∈ sequence (podSpecOf podResource) "containers" "containers",
    Unprivileged (membersOf container)
  volumes : ∀ volume ∈ sequence (podSpecOf podResource) "volumes" "volumes",
    ¬carriesToken (membersOf volume)
  selected : Selects (selectorOf networkPolicyResource) (podLabelsOf podResource)
  egress : ∀ rule ∈ egressOf networkPolicyResource, RuleOpens (fun _ => True) (membersOf rule)

end Documents

variable {texts : TextOf} {settings : IsolationSettings} {expectedImage digest : String}
  {jobResource podResource networkPolicyResource : Value}

/-! ### What is read -/

theorem mismatch_eq_nil {name : String} {passes : Bool} :
    mismatch name passes = [] ↔ passes = true := by
  cases passes <;> simp [mismatch]

theorem asMapping_eq_ok {v : Value} {document : Dict} (h : asMapping v = .ok document) :
    membersOf v = document := by
  rw [asMapping, found_eq_ok] at h
  rw [membersOf, h]
  rfl

theorem mapM_asMapping {items : List Value} {documents : List Dict}
    (h : items.mapM asMapping = .ok documents) : items.map membersOf = documents := by
  induction items generalizing documents with
  | nil =>
    simp only [List.mapM_nil, pure_eq_ok] at h
    exact h
  | cons item items ih =>
    simp only [List.mapM_cons, bind_eq_ok, pure_eq_ok] at h
    rcases h with ⟨document, hitem, rest, hrest, rfl⟩
    rw [List.map_cons, asMapping_eq_ok hitem, ih hrest]

/-- A dictionary has every key it has been filled with. -/
theorem key_mem_lastOfEach {β : Type} {entries : List (String × β)} {entry : String × β}
    (h : entry ∈ entries) : ∃ last ∈ lastOfEach entries, last.1 = entry.1 := by
  induction entries generalizing entry with
  | nil => cases h
  | cons first entries ih =>
    rw [lastOfEach]
    split
    · rename_i hagain
      rcases List.mem_cons.mp h with rfl | hrest
      · rcases List.any_eq_true.mp hagain with ⟨again, hmem, hkey⟩
        rcases ih hmem with ⟨last, hlast, hsame⟩
        exact ⟨last, hlast, hsame.trans (of_decide_eq_true hkey)⟩
      · exact ih hrest
    · rcases List.mem_cons.mp h with rfl | hrest
      · exact ⟨entry, List.mem_cons_self, rfl⟩
      · rcases ih hrest with ⟨last, hlast, hsame⟩
        exact ⟨last, List.mem_cons_of_mem _ hlast, hsame⟩

theorem runnerOf_ok {candidate runner : Dict} (h : runnerOf candidate = .ok runner) :
    (∃ container, sequence candidate "containers" "containers" = [container] ∧
      membersOf container = runner) ∨ runner = [] := by
  rw [runnerOf] at h
  split at h
  · rename_i container hcontainer
    exact .inl ⟨container, hcontainer, asMapping_eq_ok h⟩
  · exact .inr (Except.ok.inj h).symm

theorem mountsOf_ok {runner : Dict} {mounts : List (String × Dict)}
    (h : mountsOf texts runner = .ok mounts)
    (hpath : ∀ mount ∈ mounts, mount.1 ≠ "/var/run/secrets/kubernetes.io/serviceaccount") :
    ∀ mount ∈ sequence runner "volumeMounts" "volume_mounts",
      texts.str (value (membersOf mount) "mountPath" "mount_path") ≠
        "/var/run/secrets/kubernetes.io/serviceaccount" := by
  simp only [mountsOf, bind_eq_ok, pure_eq_ok] at h
  rcases h with ⟨documents, hdocuments, rfl⟩
  obtain rfl := mapM_asMapping hdocuments
  intro mount hmount
  have hentry : (texts.str (value (membersOf mount) "mountPath" "mount_path"), membersOf mount) ∈
      ((sequence runner "volumeMounts" "volume_mounts").map membersOf).map fun mount =>
        (texts.str (value mount "mountPath" "mount_path"), mount) := by
    exact List.mem_map_of_mem (List.mem_map_of_mem hmount)
  rcases key_mem_lastOfEach hentry with ⟨last, hlast, hkey⟩
  have hother := hpath last hlast
  rwa [hkey] at hother

/-- A pod without findings has containers that run as declared, and no automounted token. -/
theorem candidate_ok {candidate : Dict}
    (h : candidateMismatches texts settings expectedImage candidate = .ok []) :
    (∀ container ∈ sequence candidate "containers" "containers",
      RunsAsDeclared texts settings expectedImage (membersOf container)) ∧
    isFlag (value candidate "automountServiceAccountToken" "automount_service_account_token")
      false = true := by
  simp only [candidateMismatches, bind_eq_ok, pure_eq_ok, List.append_eq_nil_iff] at h
  rcases h with ⟨runner, hrunner, mounts, hmounts, volumes, -, environment, -,
    ⟨⟨⟨hpod, hcontainer⟩, hmount⟩, -⟩, -⟩
  simp only [podMismatches, List.append_eq_nil_iff, mismatch_eq_nil, and_assoc] at hpod
  simp only [runnerMismatches, List.append_eq_nil_iff, mismatch_eq_nil, and_assoc] at hcontainer
  simp only [mountMismatches, List.append_eq_nil_iff, mismatch_eq_nil, Bool.not_eq_true',
    List.any_eq_false, decide_eq_true_eq] at hmount
  rcases hcontainer with ⟨himage, hreadOnly, hescalation, hnonRoot, huser, -, -, -, hlimits, -⟩
  refine ⟨fun container hmem => ?_, hpod.1⟩
  rcases runnerOf_ok hrunner with ⟨only, honly, rfl⟩ | rfl
  · rw [honly] at hmem
    obtain rfl := List.mem_singleton.mp hmem
    exact ⟨himage, hescalation, hnonRoot, huser, hreadOnly, hlimits, mountsOf_ok hmounts hmount.2⟩
  · simp [Dict.get, Value.eq] at himage

/-- A policy without findings restricts egress to CIDRs that are configured. -/
theorem policy_ok {policy : Dict} (h : policyMismatches texts settings policy = .ok []) :
    (sequence (nested policy "spec" "spec") "policyTypes" "policy_types").any
      (·.eq (.str "Egress")) = true ∧
    (settings.networkPolicy = .denyAll →
      sequence (nested policy "spec" "spec") "egress" "egress" = []) ∧
    (settings.networkPolicy = .allowlist →
      ∀ rule ∈ sequence (nested policy "spec" "spec") "egress" "egress",
      ∀ peer ∈ sequence (membersOf rule) "to" "to", (cidrOf (membersOf peer)).truthy = true →
        Configured texts settings (membersOf peer)) := by
  simp only [policyMismatches, bind_eq_ok, pure_eq_ok, List.append_eq_nil_iff, mismatch_eq_nil,
    decide_eq_true_eq, and_assoc] at h
  rcases h with ⟨cidrs, hcidrs, htypes, hdenied, -, -, hconfigured⟩
  refine ⟨htypes, fun hdeny => ?_, fun hallow rule hrule peer hpeer hcidr => ?_⟩
  · rcases hdenied with hother | hempty
    · exact absurd hdeny hother
    · exact List.isEmpty_iff.mp hempty
  · rcases hconfigured with hother | ⟨hsubset, -⟩
    · exact absurd hallow hother
    · refine hsubset _ ?_
      simp only [actualCidrs, bind_eq_ok, pure_eq_ok] at hcidrs
      rcases hcidrs with ⟨rules, hrules, peers, hpeers, rfl⟩
      obtain rfl := mapM_asMapping hrules
      obtain rfl := mapM_asMapping hpeers
      refine List.mem_filterMap.mpr ⟨membersOf peer, ?_, if_pos hcidr⟩
      exact List.mem_map_of_mem
        (List.mem_flatMap.mpr ⟨membersOf rule, List.mem_map_of_mem hrule, hpeer⟩)

/-- What a passed check has read. -/
theorem verify_checks (h : verifyKubernetesIsolation texts settings expectedImage jobResource
      podResource networkPolicyResource = .ok digest) :
    Checks texts settings expectedImage podResource networkPolicyResource := by
  simp only [verifyKubernetesIsolation, bind_eq_ok, ensure_eq_ok, pure_eq_ok,
    List.append_eq_nil_iff] at h
  rcases h with ⟨job, -, pod, hpod, policy, hpolicy, declared, -, actual, hactual, network,
    hnetwork, status, -, -, ⟨⟨⟨⟨-, -⟩, rfl⟩, rfl⟩, -⟩, -⟩
  obtain rfl := asMapping_eq_ok hpod
  obtain rfl := asMapping_eq_ok hpolicy
  rcases candidate_ok hactual with ⟨hcontainers, hautomount⟩
  rcases policy_ok hnetwork with ⟨htypes, hdenied, hconfigured⟩
  exact ⟨hcontainers, hautomount, htypes, hdenied, hconfigured⟩

/-! ### Soundness -/

theorem RuleOpens.mono {opens opens' : Dict → Prop} {rule : Dict} (h : RuleOpens opens rule)
    (hopens : ∀ peer ∈ sequence rule "to" "to", (cidrOf (membersOf peer)).truthy = true →
      opens (membersOf peer) → opens' (membersOf peer)) : RuleOpens opens' rule := by
  refine ⟨h.1, fun peer hpeer => ?_⟩
  rcases h.2 peer hpeer with ⟨hcidr, hpasses⟩ | hdns
  · exact .inl ⟨hcidr, hopens peer hpeer hcidr hpasses⟩
  · exact .inr hdns

/-- A passed check proves isolation exactly for the documents in which the parts it never reads are
    as declared. The worker is configured for no egress or for a list of networks. -/
theorem pod_isolated_iff
    (hpolicy : settings.networkPolicy = .denyAll ∨ settings.networkPolicy = .allowlist)
    (h : verifyKubernetesIsolation texts settings expectedImage jobResource podResource
      networkPolicyResource = .ok digest) :
    Isolated texts settings expectedImage podResource networkPolicyResource ↔
      UnreadConfined texts settings expectedImage podResource networkPolicyResource := by
  have hchecks := verify_checks h
  constructor
  · intro hisolated
    have hcontainers := hisolated.containers
    rw [containersOf, List.forall_mem_append] at hcontainers
    exact ⟨hcontainers.2, fun container hmem => (hcontainers.1 container hmem).2,
      hisolated.volumes, hisolated.selected,
      fun rule hrule => (hisolated.egress rule hrule).mono fun _ _ _ _ => trivial⟩
  · intro hunread
    refine ⟨?_, hchecks.automount, hunread.volumes, hunread.selected, hchecks.restricts,
      hchecks.denied, fun rule hrule => (hunread.egress rule hrule).mono ?_⟩
    · rw [containersOf, List.forall_mem_append]
      exact ⟨fun container hmem => ⟨hchecks.containers container hmem,
        hunread.unprivileged container hmem⟩, hunread.further⟩
    · intro peer hpeer hcidr _
      rcases hpolicy with hdeny | hallow
      · rw [hchecks.denied hdeny] at hrule
        cases hrule
      · exact hchecks.configured hallow rule hrule peer hpeer hcidr

/-! ### A pod with a further container -/

open Evidence

/-- The pod of a run as the worker declares it, with its labels and further members. -/
def labelledPod (added : Dict) : Value :=
  .dict [("metadata", .dict [("labels", .dict [("io.testops.run-id", .str "7")])]),
    ("spec", .dict (added ++ membersOf (podSpec smallJob.runtimeImage))),
    ("status", (membersOf (podDocument smallJob.runtimeImage)).get "status")]

/-- Without further members it is isolated. -/
theorem labelledPod_isolated :
    Isolated plainTexts clusterSettings smallJob.runtimeImage (labelledPod []) policyDocument := by
  have hpassed : verifyKubernetesIsolation plainTexts clusterSettings smallJob.runtimeImage
      (jobDocument smallJob.runtimeImage) (labelledPod []) policyDocument =
        .ok (digestFrom 'a') := ok_of_toOption (by decide +kernel)
  refine (pod_isolated_iff (.inl rfl) hpassed).mpr ⟨?_, ?_, ?_, ⟨?_, ?_⟩, ?_⟩
  · intro container hmem
    cases hmem
  · intro container hmem
    obtain rfl : container = runnerContainer smallJob.runtimeImage := List.mem_singleton.mp hmem
    exact ⟨rfl, rfl⟩
  · decide +kernel
  · intro label hlabel
    obtain rfl : label = ("io.testops.run-id", .str "7") := List.mem_singleton.mp hlabel
    exact ⟨.str "7", rfl, by decide⟩
  · intro expression hmem
    cases hmem
  · intro rule hrule
    cases hrule

/-- A privileged container of another image. -/
def privilegedContainer : Value :=
  .dict [("name", .str "setup"), ("image", .str "registry/other"),
    ("securityContext", .dict [("privileged", .bool true), ("runAsUser", .int 0)])]

/-- A privileged container of another image that runs before the declared one passes the check. -/
theorem init_container_unread :
    verifyKubernetesIsolation plainTexts clusterSettings smallJob.runtimeImage
      (jobDocument smallJob.runtimeImage)
      (labelledPod [("initContainers", .list [privilegedContainer])]) policyDocument =
        .ok (digestFrom 'a') ∧
    ¬Isolated plainTexts clusterSettings smallJob.runtimeImage
      (labelledPod [("initContainers", .list [privilegedContainer])]) policyDocument := by
  refine ⟨ok_of_toOption (by decide +kernel), fun h => ?_⟩
  have hmem : privilegedContainer ∈
      containersOf (labelledPod [("initContainers", .list [privilegedContainer])]) :=
    List.mem_append_right _ (List.mem_singleton_self _)
  exact absurd (h.containers _ hmem).2.privileged (by decide +kernel)

end TestOps.Kubernetes

import TestOps.Worker.IsolationEvidence

/-! The evidence that a child reads from its environment is the evidence the worker expects. In a
    container, both have the identifier of the same image, in lower case. In a cluster, the child is
    handed the digest as the snapshot writes it, and the worker expects the digest it has observed:

      snapshot            sha256:0F…   ──▸ TESTOPS_RUNTIME_IMAGE_ID ──▸ sha256:0F…   reported
      observed imageID    …@sha256:0f… ──▸ _image_digest            ──▸ sha256:0f…   expected

    So a digest with a capital letter, which every model accepts, discards each of its results. -/

namespace TestOps.Evidence

open Checked Kubernetes

/-! ### Digests -/

theorem beginsWithDigest_iff {text : List Char} : beginsWithDigest text = true ↔
    ∃ digits rest, text = "sha256:".toList ++ digits ++ rest ∧ digits.length = 64 ∧
      digits.all isLowerHex = true := by
  simp only [beginsWithDigest, Bool.and_eq_true, decide_eq_true_eq]
  constructor
  · rintro ⟨⟨hscheme, hlength⟩, hdigits⟩
    refine ⟨(text.drop 7).take 64, (text.drop 7).drop 64, ?_, hlength, hdigits⟩
    rw [List.append_assoc, List.take_append_drop, ← hscheme, List.take_append_drop]
  · rintro ⟨digits, rest, rfl, hlength, hdigits⟩
    have hscheme : "sha256:".toList.length = 7 := by decide
    rw [List.append_assoc, List.take_left' hscheme, List.drop_left' hscheme,
      List.take_left' hlength]
    exact ⟨⟨rfl, hlength⟩, hdigits⟩

/-- No digest goes across a sign that is in none. -/
theorem beginsWithDigest_append {front back : List Char} :
    beginsWithDigest (front ++ '@' :: back) = beginsWithDigest front ∧
      (beginsWithDigest front = true → (front ++ '@' :: back).take 71 = front.take 71) := by
  have hsign : ∀ digits : List Char, digits.all isLowerHex = true →
      '@' ∉ "sha256:".toList ++ digits := by
    intro digits hdigits hmem
    rcases List.mem_append.mp hmem with hmem | hmem
    · exact absurd hmem (by decide)
    · exact absurd (List.all_eq_true.mp hdigits _ hmem) (by decide)
  have hlengths : ∀ digits : List Char, digits.length = 64 →
      ("sha256:".toList ++ digits).length = 71 := by
    intro digits hlength
    rw [List.length_append, hlength]
    decide
  constructor
  · rw [Bool.eq_iff_iff, beginsWithDigest_iff, beginsWithDigest_iff]
    constructor
    · rintro ⟨digits, rest, hsplit, hlength, hdigits⟩
      rcases List.append_eq_append_iff.mp hsplit with ⟨middle, hfront, hback⟩ | ⟨middle, hfront, -⟩
      · cases middle with
        | nil =>
          rw [List.append_nil] at hfront
          exact ⟨digits, [], by rw [List.append_nil, hfront], hlength, hdigits⟩
        | cons c middle =>
          obtain ⟨rfl, -⟩ := List.cons.inj hback
          refine absurd ?_ (hsign digits hdigits)
          rw [hfront]
          exact List.mem_append_right _ List.mem_cons_self
      · exact ⟨digits, middle, hfront, hlength, hdigits⟩
    · rintro ⟨digits, rest, rfl, hlength, hdigits⟩
      exact ⟨digits, rest ++ '@' :: back, List.append_assoc _ _ _, hlength, hdigits⟩
  · intro hfront
    obtain ⟨digits, rest, rfl, hlength, -⟩ := beginsWithDigest_iff.mp hfront
    rw [List.append_assoc _ rest, List.take_left' (hlengths digits hlength),
      List.take_left' (hlengths digits hlength)]

theorem firstDigest_cons {c : Char} {cs : List Char} : firstDigest (c :: cs) =
    if beginsWithDigest (c :: cs) then some ((c :: cs).take 71) else firstDigest cs := rfl

/-- The first digest of a text stands in front of a sign, or behind it. -/
theorem firstDigest_append {front back : List Char} : firstDigest (front ++ '@' :: back) =
    (firstDigest front).or (firstDigest back) := by
  induction front with
  | nil =>
    rw [List.nil_append, firstDigest_cons, if_neg]
    · rfl
    · rw [beginsWithDigest_iff]
      rintro ⟨digits, rest, hsplit, -⟩
      cases hsplit
  | cons c front ih =>
    obtain ⟨hsame, htake⟩ := @beginsWithDigest_append (c :: front) back
    rw [List.cons_append] at hsame htake ⊢
    rw [firstDigest_cons, firstDigest_cons, hsame]
    split
    · rename_i hbegins
      rw [htake hbegins]
      rfl
    · exact ih

/-- A capital digit becomes a small one, and every other digit stays. -/
theorem isLowerHex_toLower {c : Char} (h : isHexDigit c = true) : isLowerHex c.toLower = true := by
  have hcapital : ∀ n, 65 ≤ n → n ≤ 70 → isLowerHex (Char.ofNat n).toLower = true := by
    intro n hmin hmax
    interval_cases n <;> decide
  have hsmall : ∀ n, 97 ≤ n → n ≤ 102 → isLowerHex (Char.ofNat n).toLower = true := by
    intro n hmin hmax
    interval_cases n <;> decide
  have hdigit : ∀ n, 48 ≤ n → n ≤ 57 → isLowerHex (Char.ofNat n).toLower = true := by
    intro n hmin hmax
    interval_cases n <;> decide
  simp only [isHexDigit, Bool.or_eq_true, Bool.and_eq_true, decide_eq_true_eq,
    Char.isDigit_iff_toNat, Char.le_def, UInt32.le_iff_toNat_le] at h
  rw [← Char.ofNat_toNat c]
  rcases h with (⟨hmin, hmax⟩ | ⟨hmin, hmax⟩) | ⟨hmin, hmax⟩
  · exact hdigit _ hmin hmax
  · exact hsmall _ hmin hmax
  · exact hcapital _ hmin hmax

/-- A digest is the first digest of its text, in lower case. -/
theorem firstDigest_digest {digest : String} (h : isSha256Digest digest = true) :
    firstDigest (digest.toList.map Char.toLower) = some (digest.toList.map Char.toLower) := by
  simp only [isSha256Digest, Bool.and_eq_true, decide_eq_true_eq] at h
  obtain ⟨⟨hscheme, hlength⟩, hdigits⟩ := h
  have hsplit : digest.toList.map Char.toLower =
      "sha256:".toList ++ (digest.toList.drop 7).map Char.toLower := by
    rw [← List.take_append_drop 7 digest.toList, List.map_append, hscheme,
      List.drop_left' (by decide)]
    rfl
  have hbegins : beginsWithDigest (digest.toList.map Char.toLower) = true := by
    rw [beginsWithDigest_iff]
    refine ⟨_, [], hsplit.trans (List.append_nil _).symm, ?_, ?_⟩
    · rw [List.length_map, hlength]
    · rw [List.all_map, List.all_eq_true]
      intro c hc
      exact isLowerHex_toLower (List.all_eq_true.mp hdigits c hc)
  have hwhole : (digest.toList.map Char.toLower).length = 71 := by
    rw [hsplit, List.length_append, List.length_map, hlength]
    decide
  cases htext : digest.toList.map Char.toLower with
  | nil =>
    rw [htext] at hwhole
    cases hwhole
  | cons c cs =>
    rw [htext] at hbegins hwhole
    rw [firstDigest_cons, if_pos hbegins, List.take_of_length_le hwhole.le]

/-- The first digest of a job's image: one in the name of its repository, or its own. -/
theorem imageDigest_job {texts : TextOf} {job : IsolatedJob} :
    imageDigest texts (.str job.runtimeImage) = some (String.ofList
      ((firstDigest (job.imageRepository.toList.map Char.toLower)).getD
        (job.digest.toList.map Char.toLower))) := by
  rw [imageDigest, texts.str_text, IsolatedJob.runtimeImage]
  have hsign : (job.imageRepository ++ "@" ++ job.digest).toList.map Char.toLower =
      job.imageRepository.toList.map Char.toLower ++
        '@' :: job.digest.toList.map Char.toLower := by
    rw [String.toList_append, String.toList_append, List.map_append, List.map_append,
      List.append_assoc]
    rfl
  rw [hsign, firstDigest_append, firstDigest_digest job.isDigest]
  cases firstDigest (job.imageRepository.toList.map Char.toLower) <;> rfl

/-- The digest is written as the worker will observe it. -/
def WrittenAsObserved (job : IsolatedJob) : Prop :=
  (firstDigest (job.imageRepository.toList.map Char.toLower)).getD
    (job.digest.toList.map Char.toLower) = job.digest.toList

/-- A pod that passes has the first digest of its declared image. -/
theorem verified_digest {texts : TextOf} {settings : Kubernetes.IsolationSettings}
    {expectedImage digest : String} {jobResource podResource networkPolicyResource : Value}
    (h : verifyKubernetesIsolation texts settings expectedImage jobResource podResource
      networkPolicyResource = .ok digest) :
    imageDigest texts (.str expectedImage) = some digest := by
  simp only [verifyKubernetesIsolation, bind_eq_ok, ensure_eq_ok, pure_eq_ok,
    List.append_eq_nil_iff] at h
  obtain ⟨job, -, pod, -, policy, -, declared, -, actual, -, network, -, status, -, -,
    ⟨-, hmatch⟩, rfl⟩ := h
  have hdigest : (imageDigest texts (value status "imageID" "image_id")).isSome = true ∧
      imageDigest texts (value status "imageID" "image_id") =
        imageDigest texts (.str expectedImage) := by
    by_contra hno
    rw [Kubernetes.mismatch, decide_eq_false hno] at hmatch
    cases hmatch
  obtain ⟨found, hfound⟩ := Option.isSome_iff_exists.mp hdigest.1
  rw [← hdigest.2, hfound]
  rfl

/-! ### What the child reads -/

variable {given : Environment}

theorem numberVariable_of_text {name text : String} {n : Nat} (hname : given.lookup name = some text)
    (h : numberText n = .ok text) : numberVariable given name = .ok n := by
  rw [numberVariable, hname, Option.getD_some, intOf_strOf (found_eq_ok.mp h)]
  rfl

theorem evidence_of_container (hmode : given.lookup "TESTOPS_EXECUTOR_MODE" = some "CONTAINER") :
    isolationEvidenceFromEnvironment given = containerEvidenceFromEnvironment given := by
  simp only [isolationEvidenceFromEnvironment, hmode, Option.getD_some]
  rw [if_neg (by decide), if_neg (by decide)]
  exact if_pos trivial

theorem evidence_of_kubernetes (hmode : given.lookup "TESTOPS_EXECUTOR_MODE" = some "KUBERNETES") :
    isolationEvidenceFromEnvironment given = kubernetesEvidenceFromEnvironment given := by
  simp only [isolationEvidenceFromEnvironment, hmode, Option.getD_some]
  rw [if_neg (by decide)]
  exact if_pos trivial

theorem not_automounted
    (h : given.lookup "TESTOPS_SERVICE_ACCOUNT_TOKEN_AUTOMOUNTED" = some "false") :
    decide (((given.lookup "TESTOPS_SERVICE_ACCOUNT_TOKEN_AUTOMOUNTED").getD "true").toLower =
      "true") = false := by
  rw [h]
  decide +kernel

/-- In a container, the child reads what the worker expects. -/
theorem container_evidence {job : IsolatedJob} {runnerVersion : String}
    {settings : Containers.IsolationSettings} {runtimeImageId : String} {environ : Environment}
    {liveViewPassword : Option String}
    (h : containerEnvironment job runnerVersion settings runtimeImageId environ liveViewPassword =
      .ok given) :
    isolationEvidenceFromEnvironment given =
      containerIsolationEvidence runnerVersion settings runtimeImageId := by
  simp only [containerEnvironment, bind_eq_ok, pure_eq_ok] at h
  obtain ⟨memory, hmemory, cpu, hcpu, pids, hpids, rfl⟩ := h
  rw [evidence_of_container rfl, containerEvidenceFromEnvironment,
    numberVariable_of_text rfl hmemory, ok_bind, numberVariable_of_text rfl hcpu, ok_bind,
    numberVariable_of_text rfl hpids, ok_bind]
  rfl

/-- In a cluster, the child reads what the worker expects of the digest that the snapshot names. -/
theorem kubernetes_evidence {job : IsolatedJob}
    {settings : Kubernetes.IsolationSettings} {environ : Environment}
    (h : kubernetesEnvironment job settings environ = .ok given) :
    isolationEvidenceFromEnvironment given =
      kubernetesIsolationEvidence settings job.digest := by
  simp only [kubernetesEnvironment, bind_eq_ok, pure_eq_ok] at h
  obtain ⟨memory, hmemory, cpu, hcpu, storage, hstorage, rfl⟩ := h
  rw [evidence_of_kubernetes rfl, kubernetesEvidenceFromEnvironment,
    numberVariable_of_text rfl hmemory, ok_bind, numberVariable_of_text rfl hcpu, ok_bind,
    numberVariable_of_text rfl hstorage, ok_bind, not_automounted rfl]
  rfl

/-! ### What the worker expects -/

/-- The model keeps the image it is given. -/
theorem validate_image {arguments evidence : IsolationEvidence}
    (h : arguments.validate = .ok evidence) :
    evidence.runtimeImageId = arguments.runtimeImageId := by
  simp only [IsolationEvidence.validate, bind_eq_ok, pure_eq_ok] at h
  obtain ⟨version, -, _, -, _, -, rfl⟩ := h
  rfl

/-- The evidence round trip holds exactly for digests that are written as they will be observed. -/
theorem evidence_roundTrip_iff {texts : TextOf} {job : IsolatedJob}
    {settings : Kubernetes.IsolationSettings} {environ : Environment} {digest : String}
    {jobResource podResource networkPolicyResource : Value} {expected : IsolationEvidence}
    (hverify : verifyKubernetesIsolation texts settings job.runtimeImage jobResource podResource
      networkPolicyResource = .ok digest)
    (hgiven : kubernetesEnvironment job settings environ = .ok given)
    (hexpected : kubernetesIsolationEvidence settings digest = .ok expected) :
    ((∀ runnerVersion containerSettings runtimeImageId liveViewPassword containerGiven,
        containerEnvironment job runnerVersion containerSettings runtimeImageId environ
          liveViewPassword = .ok containerGiven →
        isolationEvidenceFromEnvironment containerGiven =
          containerIsolationEvidence runnerVersion containerSettings runtimeImageId) ∧
      isolationEvidenceFromEnvironment given = .ok expected) ↔ WrittenAsObserved job := by
  have hdigest := verified_digest hverify
  rw [imageDigest_job, Option.some.injEq] at hdigest
  have hwritten : WrittenAsObserved job ↔ digest = job.digest := by
    rw [WrittenAsObserved, ← hdigest]
    constructor
    · intro h
      rw [h, String.ofList_toList]
    · intro h
      have htext := congrArg String.toList h
      rwa [String.toList_ofList] at htext
  rw [hwritten, kubernetes_evidence hgiven]
  constructor
  · rintro ⟨-, hreported⟩
    exact Option.some.inj ((validate_image hexpected).symm.trans (validate_image hreported))
  · rintro rfl
    exact ⟨fun _ _ _ _ _ => container_evidence, hexpected⟩

/-! ### A pod in a cluster -/

/-- A digest that begins with this digit. -/
def digestFrom (first : Char) : String :=
  "sha256:" ++ String.ofList (first :: List.replicate 63 '0')

/-- The package of a web run; its digest is written with a small or a capital digit. -/
def smallJob : IsolatedJob where
  secretBindings := []
  imageRepository := "testops/web"
  digest := digestFrom 'a'
  withoutDigest := by decide
  isDigest := by decide

def capitalJob : IsolatedJob where
  secretBindings := []
  imageRepository := "testops/web"
  digest := digestFrom 'A'
  withoutDigest := by decide
  isDigest := by decide

def clusterSettings : Kubernetes.IsolationSettings where
  runnerVersion := "0.35.0"
  executorTimeoutSeconds := 3600
  namespaceName := "testops-runs"
  serviceAccount := "testops-runner"
  networkPolicy := .denyAll
  allowCidrs := []
  memoryBytes := 1073741824
  cpuMillis := 1000
  ephemeralStorageBytes := 2147483648
  cleanupTtlSeconds := 300

/-- The texts of texts. -/
def plainTexts : TextOf where
  str v := v.str?.getD ""
  str_text _ := rfl

def runtimeResources : Value :=
  .dict [("memory", .str "1073741824"), ("cpu", .str "1000m"),
    ("ephemeral-storage", .str "2147483648")]

/-- The container of the run, as the worker declares it. -/
def runnerContainer (image : String) : Value :=
  .dict [("name", .str "runner"), ("image", .str image),
    ("env", .list [.dict [("name", .str "TESTOPS_EXECUTOR_MODE"), ("value", .str "KUBERNETES")]]),
    ("resources", .dict [("requests", runtimeResources), ("limits", runtimeResources)]),
    ("securityContext", .dict [("allowPrivilegeEscalation", .bool false),
      ("readOnlyRootFilesystem", .bool true), ("runAsNonRoot", .bool true),
      ("runAsUser", .int 1001), ("runAsGroup", .int 1001),
      ("capabilities", .dict [("drop", .list [.str "ALL"])]),
      ("seccompProfile", .dict [("type", .str "RuntimeDefault")])]),
    ("volumeMounts", .list [
      .dict [("name", .str "workspace"), ("mountPath", .str "/var/lib/testops/runs")],
      .dict [("name", .str "input"), ("mountPath", .str "/run/testops-input"),
        ("readOnly", .bool true)],
      .dict [("name", .str "tmp"), ("mountPath", .str "/tmp")],
      .dict [("name", .str "home"), ("mountPath", .str "/home/pwuser")]])]

def podSpec (image : String) : Value :=
  .dict [("automountServiceAccountToken", .bool false),
    ("serviceAccountName", .str "testops-runner"), ("hostNetwork", .bool false),
    ("hostPID", .bool false), ("hostIPC", .bool false),
    ("securityContext", .dict [("runAsNonRoot", .bool true), ("runAsUser", .int 1001),
      ("runAsGroup", .int 1001), ("fsGroup", .int 1001),
      ("seccompProfile", .dict [("type", .str "RuntimeDefault")])]),
    ("containers", .list [runnerContainer image]),
    ("volumes", .list [
      .dict [("name", .str "workspace"), ("emptyDir", .dict [("sizeLimit", .str "2147483648")])],
      .dict [("name", .str "input"), ("configMap", .dict [("name", .str "testops-run-input")])],
      .dict [("name", .str "tmp"), ("emptyDir", .dict [("sizeLimit", .str "268435456")])],
      .dict [("name", .str "home"), ("emptyDir", .dict [("sizeLimit", .str "67108864")])]])]

def jobDocument (image : String) : Value :=
  .dict [("spec", .dict [("backoffLimit", .int 0), ("activeDeadlineSeconds", .int 3660),
    ("ttlSecondsAfterFinished", .int 300), ("template", .dict [("spec", podSpec image)])])]

/-- The pod that runs the image with a small digest. -/
def podDocument (image : String) : Value :=
  .dict [("spec", podSpec image), ("status", .dict [("containerStatuses", .list [
    .dict [("imageID", .str ("docker.io/testops/web@" ++ digestFrom 'a'))]])])]

def policyDocument : Value :=
  .dict [("metadata", .dict [("labels", .dict [("io.testops.run-id", .str "7")])]),
    ("spec", .dict [("podSelector", .dict [("matchLabels", .dict [("io.testops.run-id", .str "7")])]),
      ("policyTypes", .list [.str "Egress"]), ("egress", .list [])])]

theorem small_verified : verifyKubernetesIsolation plainTexts clusterSettings
    smallJob.runtimeImage (jobDocument smallJob.runtimeImage) (podDocument smallJob.runtimeImage)
      policyDocument = .ok (digestFrom 'a') :=
  ok_of_toOption (by decide +kernel)

theorem capital_verified : verifyKubernetesIsolation plainTexts clusterSettings
    capitalJob.runtimeImage (jobDocument capitalJob.runtimeImage)
      (podDocument capitalJob.runtimeImage) policyDocument = .ok (digestFrom 'a') :=
  ok_of_toOption (by decide +kernel)

/-- A digest in lower case comes back. -/
theorem small_roundTrip : ∃ given expected,
    kubernetesEnvironment smallJob clusterSettings [] = .ok given ∧
      kubernetesIsolationEvidence clusterSettings (digestFrom 'a') = .ok expected ∧
      isolationEvidenceFromEnvironment given = .ok expected := by
  obtain ⟨given, hgiven⟩ := ok_of_isSome
    (show (kubernetesEnvironment smallJob clusterSettings []).toOption.isSome by decide +kernel)
  obtain ⟨expected, hexpected⟩ := ok_of_isSome
    (show (kubernetesIsolationEvidence clusterSettings (digestFrom 'a')).toOption.isSome by
      decide)
  have hboth := (evidence_roundTrip_iff small_verified hgiven hexpected).mpr (by
    unfold WrittenAsObserved
    decide)
  exact ⟨given, expected, hgiven, hexpected, hboth.2⟩

/-- A digest with a capital letter comes back as it was written, and the genuine result of the pod
    that has passed is discarded. -/
theorem capital_discarded : ∃ given expected,
    verifyKubernetesIsolation plainTexts clusterSettings capitalJob.runtimeImage
        (jobDocument capitalJob.runtimeImage) (podDocument capitalJob.runtimeImage)
        policyDocument = .ok (digestFrom 'a') ∧
      kubernetesEnvironment capitalJob clusterSettings [] = .ok given ∧
      kubernetesIsolationEvidence clusterSettings (digestFrom 'a') = .ok expected ∧
      isolationEvidenceFromEnvironment given ≠ .ok expected := by
  obtain ⟨given, hgiven⟩ := ok_of_isSome
    (show (kubernetesEnvironment capitalJob clusterSettings []).toOption.isSome by decide +kernel)
  obtain ⟨expected, hexpected⟩ := ok_of_isSome
    (show (kubernetesIsolationEvidence clusterSettings (digestFrom 'a')).toOption.isSome by
      decide)
  refine ⟨given, expected, capital_verified, hgiven, hexpected, ?_⟩
  rw [kubernetes_evidence hgiven]
  intro hreported
  have hsame := Option.some.inj ((validate_image hreported).symm.trans (validate_image hexpected))
  exact absurd hsame (by decide)

end TestOps.Evidence

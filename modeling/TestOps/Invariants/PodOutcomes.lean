import TestOps.Worker.PodWatching
import TestOps.Invariants.RunnerOutcomes

/-! How the polling loop of the Kubernetes executor ends: with the result of a verified pod, or with
    the exception that says what has happened to the run.

      observed at a look            verified    the loop
      ───────────────────────────────────────────────────────────────
      Running, marker 0             now         returns the result
      Failed, Succeeded             not yet     IsolatedExecutionError
      Failed, Succeeded             before      goes on looking
      Pending, Unknown, no pod      -           goes on looking

    A pod that goes down after its verification is seen, and then ends as a timeout or a
    cancellation. -/

namespace TestOps

open Checked

variable {decode : Bytes → Option RunnerEvent} {job : RunSnapshot} {deadline : Instant}
  {look : PodObservation} {earlier later looks : List PodObservation} {watch watch' : PodWatch}
  {plane plane' start : ControlPlaneAnswers} {result : RunResult} {error : WorkerError}

/-! ### Errors of a look -/

/-- An `IsolatedExecutionError` and neither of its two special cases. -/
def WorkerError.Failed : WorkerError → Prop
  | .isolated .failed _ _ => True
  | _ => False

/-- No cancellation and no timeout. -/
def WorkerError.Mild : WorkerError → Prop
  | .isolated .canceled _ _ | .isolated .timedOut _ _ => False
  | _ => True

theorem ClusterError.mild (error : ClusterError) : error.worker.Mild := by
  cases error <;> trivial

/-- The handlers of an executor leave only isolation errors of what is mild. -/
theorem failedClosed_failed {executor phase : String}
    {verified : Option RunExecutionIsolationEvidence} (h : error.Mild) :
    (failedClosed executor phase verified error).Failed := by
  cases error with
  | packageRuntimeUnavailable text => trivial
  | other text => trivial
  | isolated kind text evidence =>
    cases kind with
    | failed => trivial
    | canceled => exact h
    | timedOut => exact h

theorem PodWatch.close_failed (h : error.Mild) : (watch.close error).Failed :=
  failedClosed_failed h

theorem cluster_raises {α : Type} (x : Except ClusterError α) :
    RaisesOnly WorkerError.Mild (x.mapError ClusterError.worker) := by
  cases x with
  | error error => exact raisesOnly_error.mpr error.mild
  | ok a => exact raisesOnly_ok a

theorem forwardKubernetesEvents_raises {size : Except WorkerError (Option Int)}
    {content : Except WorkerError Bytes} {offset : Nat} (hsize : RaisesOnly WorkerError.Mild size)
    (hcontent : RaisesOnly WorkerError.Mild content) :
    RaisesOnly WorkerError.Mild (forwardKubernetesEvents decode size content offset plane) := by
  rw [forwardKubernetesEvents]
  refine hsize.bind fun _ _ => (raisesOnly_found trivial).bind fun _ _ =>
    (raisesOnly_ensure trivial).bind fun _ _ => ?_
  split
  · exact raisesOnly_ok _
  · exact hcontent.bind fun _ _ => (raisesOnly_ensure trivial).bind fun _ _ => raisesOnly_ok _

theorem observeRunningPod_raises
    {verification : Except WorkerError RunExecutionIsolationEvidence}
    {size : Except WorkerError (Option Int)} {content : Except WorkerError Bytes}
    (hverification : RaisesOnly WorkerError.Mild verification)
    (hsize : RaisesOnly WorkerError.Mild size) (hcontent : RaisesOnly WorkerError.Mild content) :
    RaisesOnly WorkerError.Failed
      (observeRunningPod decode verification size content watch plane) := by
  rw [observeRunningPod]
  refine RaisesOnly.bind ?_ fun watch _ => RaisesOnly.bind ?_ fun _ _ => raisesOnly_ok _
  · rw [verifyPod]
    split
    · exact raisesOnly_ok _
    · exact (hverification.mapError fun _ h => failedClosed_failed h).bind
        fun _ _ => raisesOnly_ok _
  · exact (forwardKubernetesEvents_raises hsize hcontent).mapError
      fun _ h => PodWatch.close_failed h

theorem readFinishedPod_raises {marker : String} :
    RaisesOnly WorkerError.Failed (readFinishedPod job look marker watch) := by
  rw [readFinishedPod]
  refine ((raisesOnly_ensure trivial).mapError
    fun _ h => PodWatch.close_failed h).bind fun _ _ => ?_
  refine RaisesOnly.mapError ?_ fun _ h => failedClosed_failed h
  rw [exportResult]
  refine (cluster_raises look.archive).bind fun _ _ => RaisesOnly.bind ?_ fun _ _ =>
    (raisesOnly_ensure trivial).bind fun _ _ => raisesOnly_ok _
  cases look.file with
  | missing => exact raisesOnly_error.mpr trivial
  | invalid => exact raisesOnly_error.mpr trivial
  | written result => exact (raisesOnly_ensure trivial).bind fun _ _ => raisesOnly_ok _

theorem pollRunningPod_raises :
    RaisesOnly WorkerError.Failed (pollRunningPod decode job look watch plane) := by
  rw [pollRunningPod]
  refine (observeRunningPod_raises (cluster_raises _) (cluster_raises _) (cluster_raises _)).bind
    fun _ _ => ((cluster_raises look.marker).mapError
      fun _ h => PodWatch.close_failed h).bind fun _ _ => ?_
  split
  · exact raisesOnly_ok _
  · exact readFinishedPod_raises.bind fun _ _ => raisesOnly_ok _

/-- A look raises nothing but isolation errors. -/
theorem pollPod_raises : RaisesOnly WorkerError.Failed (pollPod decode job look watch plane) := by
  rw [pollPod]
  refine ((cluster_raises look.pods).mapError fun _ h => PodWatch.close_failed h).bind
    fun pods _ => ((raisesOnly_ensure trivial).mapError
      fun _ h => PodWatch.close_failed h).bind fun _ _ => ?_
  cases pods with
  | nil => exact raisesOnly_ok _
  | cons pod pods =>
    refine (raisesOnly_ensure trivial).bind fun _ _ => ?_
    split
    · exact pollRunningPod_raises
    · exact raisesOnly_ok _

/-! ### What a look lists -/

/-- The pod of a look that lists one. -/
def PodObservation.listed (look : PodObservation) : Option PodView :=
  match look.pods with
  | .ok [pod] => some pod
  | _ => none

/-- The look lists a pod that has gone down. -/
def PodObservation.Terminated (look : PodObservation) : Prop :=
  ∃ pod, look.listed = some pod ∧ pod.phase ∈ ["Failed", "Succeeded"]

/-- The look gets as far as to a pod, or finds that there is none. -/
def PodObservation.Listable (look : PodObservation) : Prop :=
  look.pods = .ok [] ∨ ∃ pod, look.pods = .ok [pod]

/-- The pod that was listed last. -/
def lastListed (looks : List PodObservation) : Option PodView :=
  looks.reverse.findSome? PodObservation.listed

theorem listed_of_pods {pod : PodView} (h : look.pods = .ok [pod]) : look.listed = some pod := by
  rw [PodObservation.listed, h]

theorem pods_of_listed {pod : PodView} (h : look.listed = some pod) : look.pods = .ok [pod] := by
  rw [PodObservation.listed] at h
  split at h
  · rename_i pod' hpods
    rw [hpods, Option.some.inj h]
  · cases h

theorem pollPod_empty (h : look.pods = .ok []) : pollPod decode job look watch plane =
    .ok (none, { watch with phase := "job-poll" }, plane) := by
  rw [pollPod, h]
  rfl

theorem pollPod_listed {pod : PodView} (h : look.pods = .ok [pod]) :
    pollPod decode job look watch plane = (do
      ensure (¬(pod.phase ∈ ["Failed", "Succeeded"] ∧ watch.verified = none))
        (isolatedError ("Kubernetes Run Pod terminated before verification (" ++ pod.phase ++ ")"))
      if pod.phase = "Running" then
        pollRunningPod decode job look { watch with phase := "job-poll" } plane
      else return (none, { watch with phase := "job-poll" }, plane)) := by
  rw [pollPod, h]
  rfl

/-- A pod that is down is an error before its verification and passed over afterwards. -/
theorem pollPod_terminated (h : look.Terminated) :
    (watch.verified = none →
      ∃ error, pollPod decode job look watch plane = .error error ∧ error.Failed) ∧
    (watch.verified ≠ none → pollPod decode job look watch plane =
      .ok (none, { watch with phase := "job-poll" }, plane)) := by
  obtain ⟨pod, hlisted, hphase⟩ := h
  have hrunning : pod.phase ≠ "Running" := by
    intro heq
    rw [heq] at hphase
    exact absurd hphase (by decide)
  rw [pollPod_listed (pods_of_listed hlisted)]
  constructor
  · intro hverified
    refine ⟨isolatedError ("Kubernetes Run Pod terminated before verification (" ++ pod.phase ++
      ")"), ?_, trivial⟩
    rw [ensure_false (not_not.mpr ⟨hphase, hverified⟩), error_bind]
  · intro hverified
    have hpasses : ¬(pod.phase ∈ ["Failed", "Succeeded"] ∧ watch.verified = none) :=
      fun hboth => hverified hboth.2
    rw [ensure_true hpasses, ok_bind, if_neg hrunning]
    rfl

/-- Any other pod that does not run is passed over. -/
theorem pollPod_idle {pod : PodView} (h : look.pods = .ok [pod]) (hrunning : pod.phase ≠ "Running")
    (hphase : pod.phase ∉ ["Failed", "Succeeded"]) : pollPod decode job look watch plane =
      .ok (none, { watch with phase := "job-poll" }, plane) := by
  have hpasses : ¬(pod.phase ∈ ["Failed", "Succeeded"] ∧ watch.verified = none) :=
    fun hboth => hphase hboth.1
  rw [pollPod_listed h, ensure_true hpasses, ok_bind, if_neg hrunning]
  rfl

theorem pollPod_listable {found : Option RunResult}
    (h : pollPod decode job look watch plane = .ok (found, watch', plane')) : look.Listable := by
  simp only [pollPod, bind_eq_ok, mapError_eq_ok, ensure_eq_ok] at h
  obtain ⟨pods, hpods, -, hcount, -⟩ := h
  rcases pods with _ | ⟨pod, _ | ⟨pod', pods⟩⟩
  · exact Or.inl hpods
  · exact Or.inr ⟨pod, hpods⟩
  · simp at hcount

/-! ### Results of a look -/

/-- The look finds a running pod that is verified, then or before, finished with the marker 0, and
    exports a result with the evidence of this verification. -/
structure PodObservation.Exports (look : PodObservation) (job : RunSnapshot) (watch : PodWatch)
    (result : RunResult) : Prop where
  running : ∃ pod, look.pods = .ok [pod] ∧ pod.phase = "Running"
  verified : ∃ evidence, result.executionIsolation = some evidence ∧
    (watch.verified = some evidence ∨ watch.verified = none ∧ look.verification = .ok evidence)
  marker : look.marker = .ok "0"
  exported : ∃ written, look.file = .written written ∧ written.val = result
  ofRun : result.runId = job.runId

theorem observeRunningPod_ok {size : Except WorkerError (Option Int)}
    {content : Except WorkerError Bytes}
    (h : observeRunningPod decode (look.verification.mapError ClusterError.worker) size content
      watch plane = .ok (watch', plane')) :
    (∃ evidence, watch'.verified = some evidence ∧
      (watch.verified = some evidence ∨
        watch.verified = none ∧ look.verification = .ok evidence)) ∧
    plane'.polls = plane.polls := by
  have hpolls := (@observeRunningPod_same decode plane plane _ _ _ _).2 _ h
  refine ⟨?_, hpolls⟩
  simp only [observeRunningPod, bind_eq_ok, mapError_eq_ok, pure_eq_ok] at h
  obtain ⟨verified, hverify, ⟨offset, after⟩, -, hout⟩ := h
  obtain rfl : { verified with offset := offset } = watch' := congrArg Prod.fst hout
  rw [verifyPod] at hverify
  split at hverify
  · rename_i evidence hevidence
    obtain rfl : watch = verified := Except.ok.inj hverify
    exact ⟨evidence, hevidence, Or.inl hevidence⟩
  · rename_i hnone
    simp only [bind_eq_ok, mapError_eq_ok, pure_eq_ok] at hverify
    obtain ⟨evidence, hevidence, rfl⟩ := hverify
    exact ⟨evidence, rfl, Or.inr ⟨hnone, hevidence⟩⟩

/-- What is exported is what the runner has written, with the expected evidence. -/
theorem exportResult_written {archive : Except WorkerError Unit} {file : ResultFile}
    {expected : Option RunExecutionIsolationEvidence} {inconsistent : String}
    (h : exportResult job archive file expected inconsistent = .ok result) :
    (∃ written, file = .written written ∧ written.val = result) ∧
      result.runId = job.runId ∧ result.executionIsolation = expected := by
  simp only [exportResult, bind_eq_ok, ensure_eq_ok, pure_eq_ok] at h
  obtain ⟨-, -, read, hread, -, hexpected, rfl⟩ := h
  refine ⟨?_, (readResult_ok hread).1, hexpected⟩
  cases file with
  | missing => cases hread
  | invalid => cases hread
  | written written =>
    simp only [readResult, bind_eq_ok, ensure_eq_ok, pure_eq_ok] at hread
    obtain ⟨-, -, hvalue⟩ := hread
    exact ⟨written, rfl, hvalue⟩

theorem pollRunningPod_result
    (h : pollRunningPod decode job look watch plane = .ok (some result, watch', plane')) :
    (∃ evidence, result.executionIsolation = some evidence ∧
      (watch.verified = some evidence ∨
        watch.verified = none ∧ look.verification = .ok evidence)) ∧
    look.marker = .ok "0" ∧ (∃ written, look.file = .written written ∧ written.val = result) ∧
    result.runId = job.runId := by
  simp only [pollRunningPod, bind_eq_ok, mapError_eq_ok] at h
  obtain ⟨⟨verified, after⟩, hobserve, marker, hmarker, h⟩ := h
  obtain ⟨⟨evidence, hevidence, hsource⟩, -⟩ := observeRunningPod_ok hobserve
  split at h
  · cases h
  · simp only [readFinishedPod, bind_eq_ok, mapError_eq_ok, ensure_eq_ok, pure_eq_ok] at h
    obtain ⟨read, ⟨-, rfl, hexport⟩, hout⟩ := h
    obtain rfl : read = result := Option.some.inj (congrArg Prod.fst hout)
    obtain ⟨hfile, hrun, hisolation⟩ := exportResult_written hexport
    exact ⟨⟨evidence, hisolation.trans hevidence, hsource⟩, hmarker, hfile, hrun⟩

theorem pollPod_exports
    (h : pollPod decode job look watch plane = .ok (some result, watch', plane')) :
    look.Exports job watch result := by
  rcases pollPod_listable h with hpods | ⟨pod, hpods⟩
  · rw [pollPod_empty hpods] at h
    cases h
  · rw [pollPod_listed hpods] at h
    obtain ⟨-, -, h⟩ := bind_eq_ok.mp h
    split at h
    · rename_i hrunning
      obtain ⟨hverified, hmarker, hexported, hrun⟩ := pollRunningPod_result h
      exact ⟨⟨pod, hpods, hrunning⟩, hverified, hmarker, hexported, hrun⟩
    · cases h

/-- A look without a result leaves the polls to the checkpoint. -/
theorem pollPod_polls {found : Option RunResult}
    (h : pollPod decode job look watch plane = .ok (found, watch', plane')) :
    plane'.polls = plane.polls := by
  rcases pollPod_listable h with hpods | ⟨pod, hpods⟩
  · rw [pollPod_empty hpods] at h
    cases h
    rfl
  · rw [pollPod_listed hpods] at h
    obtain ⟨-, -, h⟩ := bind_eq_ok.mp h
    split at h
    · simp only [pollRunningPod, bind_eq_ok, mapError_eq_ok] at h
      obtain ⟨⟨verified, after⟩, hobserve, marker, -, h⟩ := h
      have hafter := (observeRunningPod_ok hobserve).2
      split at h
      · cases h
        exact hafter
      · simp only [bind_eq_ok, pure_eq_ok] at h
        obtain ⟨read, -, hout⟩ := h
        obtain rfl : after = plane' := congrArg (fun out => out.2.2) hout
        exact hafter
    · cases h
      rfl

/-! ### The end of a round -/

theorem cancelRequested_polls (h : plane'.polls = plane.polls) :
    plane'.cancelRequested.1 = plane.cancelRequested.1 := by
  simp only [ControlPlaneAnswers.cancelRequested, ControlPlaneAnswers.runState, h]

/-- What the checkpoint makes of the answer to its poll. -/
theorem check_spec (deadline checkedAt : Instant) (watch : PodWatch)
    (plane : ControlPlaneAnswers) :
    match plane.cancelRequested.1 with
    | .error _ => ∃ error, PodProgress.check deadline checkedAt watch plane =
        .finished (.error error) ∧ error.Failed
    | .ok true => ∃ text evidence, PodProgress.check deadline checkedAt watch plane =
        .finished (.error (.isolated .canceled text evidence))
    | .ok false =>
      if deadline ≤ checkedAt then
        ∃ text evidence, PodProgress.check deadline checkedAt watch plane =
          .finished (.error (.isolated .timedOut text evidence))
      else PodProgress.check deadline checkedAt watch plane =
        .watching watch plane.cancelRequested.2 := by
  rcases hpoll : plane.cancelRequested with ⟨answer, after⟩
  rw [PodProgress.check, checkpoint, hpoll]
  rcases answer with failure | ⟨_ | _⟩
  · exact ⟨_, rfl, PodWatch.close_failed trivial⟩
  · by_cases hlate : deadline ≤ checkedAt
    · simp only [if_pos hlate]
      exact ⟨_, _, rfl⟩
    · simp only [if_neg hlate]
      rfl
  · exact ⟨_, _, rfl⟩

/-! ### The loop -/

theorem watchPods_append (earlier : List PodObservation) (look : PodObservation) :
    watchPods decode job deadline (earlier ++ [look]) start =
      (watchPods decode job deadline earlier start).look decode job deadline look := by
  rw [watchPods, List.foldl_append]
  rfl

/-- The loop comes to this look, in this state. -/
structure Reached (decode : Bytes → Option RunnerEvent) (job : RunSnapshot) (deadline : Instant)
    (start : ControlPlaneAnswers) (looks earlier : List PodObservation) (look : PodObservation)
    (watch : PodWatch) (plane : ControlPlaneAnswers) : Prop where
  among : ∃ later, looks = earlier ++ look :: later
  state : watchPods decode job deadline earlier start = .watching watch plane

/-- The loop ends at this look. -/
structure EndsAt (decode : Bytes → Option RunnerEvent) (job : RunSnapshot) (deadline : Instant)
    (start : ControlPlaneAnswers) (looks earlier : List PodObservation) (look : PodObservation)
    (watch : PodWatch) (plane : ControlPlaneAnswers) (outcome : Except WorkerError RunResult) : Prop
    extends Reached decode job deadline start looks earlier look watch plane where
  ends : (PodProgress.watching watch plane).look decode job deadline look = .finished outcome

variable {outcome outcome' : Except WorkerError RunResult}

/-- A loop that has ended has ended at some look. -/
theorem exists_endsAt (h : watchPods decode job deadline looks start = .finished outcome) :
    ∃ earlier look watch plane,
      EndsAt decode job deadline start looks earlier look watch plane outcome := by
  induction looks using List.reverseRecOn with
  | nil => cases h
  | append_singleton looks last ih =>
    rw [watchPods_append] at h
    cases hbefore : watchPods decode job deadline looks start with
    | watching watch plane =>
      rw [hbefore] at h
      exact ⟨looks, last, watch, plane, ⟨⟨[], rfl⟩, hbefore⟩, h⟩
    | finished outcome' =>
      rw [hbefore] at h
      have hsame : PodProgress.finished outcome' = .finished outcome := h
      obtain ⟨earlier, look, watch, plane, ⟨⟨⟨later, hlater⟩, hstate⟩, hends⟩⟩ :=
        ih (hbefore.trans hsame)
      exact ⟨earlier, look, watch, plane, ⟨⟨later ++ [last], by rw [hlater]; simp⟩, hstate⟩, hends⟩

/-- A loop that goes on has gone on at every look before. -/
theorem watching_prefix (h : watchPods decode job deadline (earlier ++ later) start =
    .watching watch plane) : ∃ watch' plane',
      watchPods decode job deadline earlier start = .watching watch' plane' := by
  induction later using List.reverseRecOn generalizing watch plane with
  | nil => exact ⟨watch, plane, by rwa [List.append_nil] at h⟩
  | append_singleton later last ih =>
    rw [← List.append_assoc, watchPods_append] at h
    cases hbefore : watchPods decode job deadline (earlier ++ later) start with
    | watching watch' plane' => exact ih hbefore
    | finished outcome =>
      rw [hbefore] at h
      cases h

/-- Nothing happens after the end. -/
theorem watchPods_finished (h : watchPods decode job deadline earlier start = .finished outcome)
    (later : List PodObservation) :
    watchPods decode job deadline (earlier ++ later) start = .finished outcome := by
  induction later using List.reverseRecOn with
  | nil => rwa [List.append_nil]
  | append_singleton later last ih =>
    rw [← List.append_assoc, watchPods_append, ih]
    rfl

theorem EndsAt.finished
    (h : EndsAt decode job deadline start looks earlier look watch plane outcome) :
    watchPods decode job deadline looks start = .finished outcome := by
  obtain ⟨later, hlooks⟩ := h.among
  have hround : watchPods decode job deadline (earlier ++ [look]) start = .finished outcome := by
    rw [watchPods_append, h.state, h.ends]
  have hall := watchPods_finished hround later
  rwa [List.append_assoc, List.singleton_append, ← hlooks] at hall

/-- No look is reached behind the one that ends the loop. -/
theorem EndsAt.length_le {earlier' : List PodObservation} {look' : PodObservation}
    (h : EndsAt decode job deadline start looks earlier look watch plane outcome)
    (h' : Reached decode job deadline start looks earlier' look' watch' plane') :
    earlier'.length ≤ earlier.length := by
  obtain ⟨later, hlooks⟩ := h.among
  obtain ⟨later', hlooks'⟩ := h'.among
  by_contra hlonger
  have hround : watchPods decode job deadline (earlier ++ [look]) start = .finished outcome := by
    rw [watchPods_append, h.state, h.ends]
  have hprefix : earlier ++ [look] <+: earlier' := by
    have hshort : (earlier ++ [look]) <+: looks := ⟨later, by rw [hlooks]; simp⟩
    refine List.prefix_of_prefix_length_le hshort ⟨look' :: later', hlooks'.symm⟩ ?_
    rw [List.length_append, List.length_singleton]
    omega
  obtain ⟨between, hbetween⟩ := hprefix
  have hstate := h'.state
  rw [← hbetween, watchPods_finished hround between] at hstate
  cases hstate

/-- The loop ends at one look. -/
theorem EndsAt.unique {earlier' : List PodObservation} {look' : PodObservation}
    (h : EndsAt decode job deadline start looks earlier look watch plane outcome)
    (h' : EndsAt decode job deadline start looks earlier' look' watch' plane' outcome') :
    earlier ++ [look] = earlier' ++ [look'] := by
  have hlength := Nat.le_antisymm (h'.length_le h.toReached) (h.length_le h'.toReached)
  obtain ⟨later, hlooks⟩ := h.among
  obtain ⟨later', hlooks'⟩ := h'.among
  have hsame : (earlier ++ [look]) ++ later = (earlier' ++ [look']) ++ later' := by
    simpa [← hlooks] using hlooks'
  exact (List.append_inj hsame (by simp [hlength])).1

/-- Every way to end says what has been observed. -/
structure Classified (decode : Bytes → Option RunnerEvent) (job : RunSnapshot)
    (deadline : Instant) (start : ControlPlaneAnswers) (looks : List PodObservation) : Prop where
  result : ∀ result, watchPods decode job deadline looks start = .finished (.ok result) →
    ∃ earlier look watch plane,
      EndsAt decode job deadline start looks earlier look watch plane (.ok result) ∧
      look.Exports job watch result
  timedOut : ∀ text evidence, watchPods decode job deadline looks start =
      .finished (.error (.isolated .timedOut text evidence)) →
    ∃ earlier look watch plane, EndsAt decode job deadline start looks earlier look watch plane
        (.error (.isolated .timedOut text evidence)) ∧
      deadline ≤ look.checkedAt ∧
      ∀ pod, lastListed (earlier ++ [look]) = some pod → pod.phase ∈ ["Pending", "Running"]
  canceled : ∀ text evidence, watchPods decode job deadline looks start =
      .finished (.error (.isolated .canceled text evidence)) →
    ∃ earlier look watch plane, EndsAt decode job deadline start looks earlier look watch plane
        (.error (.isolated .canceled text evidence)) ∧
      plane.cancelRequested.1 = .ok true
  terminated : ∀ earlier look watch plane,
    Reached decode job deadline start looks earlier look watch plane → look.Terminated →
    ∃ error, EndsAt decode job deadline start looks earlier look watch plane (.error error) ∧
      error.Failed

/-- No look that the loop comes to lists a verified pod that has gone down, unless the poll of the
    cancellation then fails; and none finds the deadline passed, and no cancellation, with the last
    pod in a phase of its own. -/
structure Orderly (decode : Bytes → Option RunnerEvent) (job : RunSnapshot)
    (deadline : Instant) (start : ControlPlaneAnswers) (looks : List PodObservation) : Prop where
  alive : ∀ earlier look watch plane,
    Reached decode job deadline start looks earlier look watch plane → look.Terminated →
    watch.verified ≠ none → ∃ failure, plane.cancelRequested.1 = .error failure
  known : ∀ earlier look watch plane,
    Reached decode job deadline start looks earlier look watch plane → look.Listable →
    deadline ≤ look.checkedAt → plane.cancelRequested.1 = .ok false →
    ∀ pod, lastListed (earlier ++ [look]) = some pod →
      pod.phase ∈ ["Pending", "Running", "Failed", "Succeeded"]

theorem look_result (h : pollPod decode job look watch plane = .ok (some result, watch', plane')) :
    (PodProgress.watching watch plane).look decode job deadline look = .finished (.ok result) := by
  rw [PodProgress.look, h]

theorem look_none (h : pollPod decode job look watch plane = .ok (none, watch', plane')) :
    (PodProgress.watching watch plane).look decode job deadline look =
      .check deadline look.checkedAt watch' plane' := by
  rw [PodProgress.look, h]

theorem look_error (h : pollPod decode job look watch plane = .error error) :
    (PodProgress.watching watch plane).look decode job deadline look = .finished (.error error) := by
  rw [PodProgress.look, h]

/-- The step lemma: how a round ends. -/
theorem look_finished {outcome : Except WorkerError RunResult}
    (h : (PodProgress.watching watch plane).look decode job deadline look = .finished outcome) :
    match outcome with
    | .ok result => look.Exports job watch result
    | .error error => error.Failed ∨ ∃ text evidence,
      look.Listable ∧
      (error = .isolated .canceled text evidence ∧ plane.cancelRequested.1 = .ok true ∨
        error = .isolated .timedOut text evidence ∧ plane.cancelRequested.1 = .ok false ∧
          deadline ≤ look.checkedAt) := by
  cases hpoll : pollPod decode job look watch plane with
  | error error =>
    rw [look_error hpoll] at h
    cases h
    exact Or.inl (pollPod_raises error hpoll)
  | ok out =>
    obtain ⟨found, watch', plane'⟩ := out
    cases found with
    | some result =>
      rw [look_result hpoll] at h
      cases h
      exact pollPod_exports hpoll
    | none =>
      rw [look_none hpoll] at h
      have hlistable := pollPod_listable hpoll
      have hpolls := cancelRequested_polls (pollPod_polls hpoll)
      have hcheck := check_spec deadline look.checkedAt watch' plane'
      rw [hpolls] at hcheck
      rcases hanswer : plane.cancelRequested.1 with failure | ⟨_ | _⟩
      · rw [hanswer] at hcheck
        obtain ⟨error, hends, hfailed⟩ := hcheck
        cases h.symm.trans hends
        exact Or.inl hfailed
      · rw [hanswer] at hcheck
        simp only at hcheck
        split at hcheck
        · rename_i hlate
          obtain ⟨text, evidence, hends⟩ := hcheck
          cases h.symm.trans hends
          exact Or.inr ⟨text, evidence, hlistable, Or.inr ⟨rfl, rfl, hlate⟩⟩
        · cases h.symm.trans hcheck
      · rw [hanswer] at hcheck
        obtain ⟨text, evidence, hends⟩ := hcheck
        cases h.symm.trans hends
        exact Or.inr ⟨text, evidence, hlistable, Or.inl ⟨rfl, rfl⟩⟩

/-- A pod that is down ends the round, unless it has been verified and the poll succeeds. -/
theorem look_terminated (h : look.Terminated)
    (halive : watch.verified ≠ none → ∃ failure, plane.cancelRequested.1 = .error failure) :
    ∃ error, (PodProgress.watching watch plane).look decode job deadline look =
      .finished (.error error) ∧ error.Failed := by
  by_cases hverified : watch.verified = none
  · obtain ⟨error, hpoll, hfailed⟩ := (pollPod_terminated h).1 hverified
    exact ⟨error, look_error hpoll, hfailed⟩
  · have hpoll := (@pollPod_terminated decode job look watch plane h).2 hverified
    obtain ⟨failure, hanswer⟩ := halive hverified
    have hcheck := check_spec deadline look.checkedAt { watch with phase := "job-poll" } plane
    rw [hanswer] at hcheck
    rw [look_none hpoll]
    exact hcheck

/-- A round that finds no pod, or one in none of the phases that it knows. -/
theorem look_unseen (hlistable : look.Listable)
    (hphase : ∀ pod, look.pods = .ok [pod] →
      pod.phase ∉ ["Pending", "Running", "Failed", "Succeeded"]) :
    (PodProgress.watching watch plane).look decode job deadline look =
      .check deadline look.checkedAt { watch with phase := "job-poll" } plane := by
  rcases hlistable with hpods | ⟨pod, hpods⟩
  · exact look_none (pollPod_empty hpods)
  · have hunknown := hphase pod hpods
    simp only [List.mem_cons, List.not_mem_nil, or_false, not_or] at hunknown
    refine look_none (pollPod_idle hpods hunknown.2.1 ?_)
    simp only [List.mem_cons, List.not_mem_nil, or_false, not_or]
    exact hunknown.2.2

theorem lastListed_of_listed {pod : PodView} (h : look.listed = some pod) :
    lastListed (earlier ++ [look]) = some pod := by
  rw [lastListed, List.reverse_append, List.reverse_singleton, List.singleton_append,
    List.findSome?_cons, h]

/-- The last listed pod of a loop was listed by the last look, or by one that the loop has passed. -/
theorem lastListed_cases {pod : PodView} (h : lastListed (earlier ++ [look]) = some pod) :
    look.listed = some pod ∨ look.listed = none ∧ ∃ before passed after,
      earlier = before ++ passed :: after ∧ passed.listed = some pod := by
  rw [lastListed, List.reverse_append, List.reverse_singleton, List.singleton_append,
    List.findSome?_cons] at h
  cases hlook : look.listed with
  | some pod' =>
    rw [hlook] at h
    exact Or.inl h
  | none =>
    rw [hlook] at h
    obtain ⟨passed, hpassed, hlisted⟩ := List.exists_of_findSome?_eq_some h
    obtain ⟨before, after, hsplit⟩ := List.append_of_mem (List.mem_reverse.mp hpassed)
    exact Or.inr ⟨rfl, before, passed, after, hsplit, hlisted⟩

/-- A look that the loop has passed lists no pod that is down. -/
theorem Orderly.passed (h : Orderly decode job deadline start looks)
    {before after : List PodObservation} {passed : PodObservation}
    (hamong : ∃ later, looks = (before ++ passed :: after) ++ later)
    (hstate : watchPods decode job deadline (before ++ passed :: after) start =
      .watching watch plane) : ¬passed.Terminated := by
  intro hdown
  obtain ⟨later, hlooks⟩ := hamong
  obtain ⟨watch₁, plane₁, hbefore⟩ := watching_prefix hstate
  have hsplit : before ++ passed :: after = (before ++ [passed]) ++ after := by simp
  rw [hsplit] at hstate
  obtain ⟨watch₂, plane₂, hpassed⟩ := watching_prefix hstate
  have hreached : Reached decode job deadline start looks before passed watch₁ plane₁ :=
    ⟨⟨after ++ later, by rw [hlooks]; simp⟩, hbefore⟩
  obtain ⟨error, hends, -⟩ := @look_terminated decode job deadline passed watch₁ plane₁ hdown
    fun hverified => h.alive _ _ _ _ hreached hdown hverified
  rw [watchPods_append, hbefore, hends] at hpassed
  cases hpassed

/-- The phase of the last listed pod when the deadline is found passed. -/
theorem Orderly.lastListed (h : Orderly decode job deadline start looks)
    (hreached : Reached decode job deadline start looks earlier look watch plane)
    (hlistable : look.Listable) (hlate : deadline ≤ look.checkedAt)
    (hanswer : plane.cancelRequested.1 = .ok false) (hdown : ¬look.Terminated) {pod : PodView}
    (hlast : lastListed (earlier ++ [look]) = some pod) : pod.phase ∈ ["Pending", "Running"] := by
  have hknown := h.known _ _ _ _ hreached hlistable hlate hanswer pod hlast
  have hup : pod.phase ∉ ["Failed", "Succeeded"] := by
    intro hphase
    rcases lastListed_cases hlast with hlisted | ⟨-, before, passed, after, rfl, hlisted⟩
    · exact hdown ⟨pod, hlisted, hphase⟩
    · obtain ⟨later, hlooks⟩ := hreached.among
      exact h.passed ⟨look :: later, hlooks⟩ hreached.state ⟨pod, hlisted, hphase⟩
  simp only [List.mem_cons, List.not_mem_nil, or_false, not_or] at hknown hup ⊢
  tauto

/-- The loop says what it has observed exactly if its looks are orderly. -/
theorem classified_iff (decode : Bytes → Option RunnerEvent) (job : RunSnapshot)
    (deadline : Instant) (start : ControlPlaneAnswers) (looks : List PodObservation) :
    Classified decode job deadline start looks ↔ Orderly decode job deadline start looks := by
  constructor
  · intro h
    constructor
    · intro earlier look watch plane hreached hdown hverified
      obtain ⟨error, ⟨-, hends⟩, hfailed⟩ := h.terminated _ _ _ _ hreached hdown
      rw [look_none ((pollPod_terminated hdown).2 hverified)] at hends
      have hcheck := check_spec deadline look.checkedAt { watch with phase := "job-poll" } plane
      rcases hanswer : plane.cancelRequested.1 with failure | ⟨_ | _⟩
      · exact ⟨failure, rfl⟩
      · rw [hanswer] at hcheck
        simp only at hcheck
        split at hcheck
        · obtain ⟨text, evidence, hlate⟩ := hcheck
          cases hends.symm.trans hlate
          exact absurd hfailed id
        · cases hends.symm.trans hcheck
      · rw [hanswer] at hcheck
        obtain ⟨text, evidence, hcanceled⟩ := hcheck
        cases hends.symm.trans hcanceled
        exact absurd hfailed id
    · intro earlier look watch plane hreached hlistable hlate hanswer pod hlast
      by_contra hphase
      have hround : (PodProgress.watching watch plane).look decode job deadline look =
          .check deadline look.checkedAt { watch with phase := "job-poll" } plane := by
        refine look_unseen hlistable fun pod' hpods => ?_
        rw [lastListed_of_listed (listed_of_pods hpods)] at hlast
        rwa [Option.some.inj hlast]
      have hcheck := check_spec deadline look.checkedAt { watch with phase := "job-poll" } plane
      rw [hanswer] at hcheck
      simp only [if_pos hlate] at hcheck
      obtain ⟨text, evidence, hends⟩ := hcheck
      have hend : EndsAt decode job deadline start looks earlier look watch plane
          (.error (.isolated .timedOut text evidence)) := ⟨hreached, hround.trans hends⟩
      obtain ⟨earlier', look', watch', plane', hend', -, hknown⟩ :=
        h.timedOut text evidence hend.finished
      rw [← hend.unique hend'] at hknown
      have hrunning := hknown pod hlast
      simp only [List.mem_cons, List.not_mem_nil, or_false, not_or] at hrunning hphase
      tauto
  · intro h
    constructor
    · intro result hfinished
      obtain ⟨earlier, look, watch, plane, hend⟩ := exists_endsAt hfinished
      exact ⟨earlier, look, watch, plane, hend, look_finished hend.ends⟩
    · intro text evidence hfinished
      obtain ⟨earlier, look, watch, plane, hend⟩ := exists_endsAt hfinished
      rcases look_finished hend.ends with hfailed | ⟨text', evidence', hlistable, hcase⟩
      · exact absurd hfailed id
      · rcases hcase with ⟨hcanceled, -⟩ | ⟨-, hanswer, hlate⟩
        · cases hcanceled
        · refine ⟨earlier, look, watch, plane, hend, hlate, fun pod hlast => ?_⟩
          refine h.lastListed hend.toReached hlistable hlate hanswer (fun hdown => ?_) hlast
          obtain ⟨error, hdownEnds, hfailed⟩ := @look_terminated decode job deadline look watch
            plane hdown fun hverified => h.alive _ _ _ _ hend.toReached hdown hverified
          cases hend.ends.symm.trans hdownEnds
          exact hfailed
    · intro text evidence hfinished
      obtain ⟨earlier, look, watch, plane, hend⟩ := exists_endsAt hfinished
      rcases look_finished hend.ends with hfailed | ⟨text', evidence', hlistable, hcase⟩
      · exact absurd hfailed id
      · rcases hcase with ⟨-, hanswer⟩ | ⟨htimedOut, -⟩
        · exact ⟨earlier, look, watch, plane, hend, hanswer⟩
        · cases htimedOut
    · intro earlier look watch plane hreached hdown
      obtain ⟨error, hends, hfailed⟩ := @look_terminated decode job deadline look watch plane
        hdown fun hverified => h.alive _ _ _ _ hreached hdown hverified
      exact ⟨error, ⟨hreached, hends⟩, hfailed⟩

namespace Installation

def podEvidence : RunExecutionIsolationEvidence :=
  { inProcessIsolationEvidence "1" with
    mode := .kubernetes
    dedicatedProcess := true }

/-- The pod of run 20 runs, and no more than that. -/
def busyPod : PodObservation where
  pods := .ok [⟨"testops-run-20", "Running"⟩]
  verification := .ok podEvidence
  eventSize := .ok (some 0)
  eventContent := .ok []
  marker := .ok "pending"
  archive := .ok ()
  file := .missing
  checkedAt := 5

/-- It has crashed by the last look before the deadline. -/
def crashedPod : PodObservation :=
  { busyPod with
    pods := .ok [⟨"testops-run-20", "Failed"⟩]
    checkedAt := 3600 }

end Installation

open Installation in
/-- A pod that crashes after its verification is reported as a timeout. -/
theorem crash_times_out :
    (∃ text evidence, watchPods (fun _ => none) runSnapshot 3600 [busyPod, crashedPod]
      .unfailing = .finished (.error (.isolated .timedOut text evidence))) ∧
    ¬Classified (fun _ => none) runSnapshot 3600 .unfailing [busyPod, crashedPod] := by
  have hreached : Reached (fun _ => none) runSnapshot 3600 .unfailing [busyPod, crashedPod]
      [busyPod] crashedPod ⟨some podEvidence, "isolation-verification", 0⟩ .unfailing :=
    ⟨⟨[], rfl⟩, rfl⟩
  refine ⟨⟨_, _, rfl⟩, fun h => ?_⟩
  obtain ⟨error, ⟨-, hends⟩, hfailed⟩ := h.terminated _ _ _ _ hreached
    ⟨⟨"testops-run-20", "Failed"⟩, rfl, by decide⟩
  cases hends
  exact hfailed

/-! ### The loop and the executor -/

/-- A look as the executor sees it that has not found the marker. -/
def PodObservation.podLook (look : PodObservation) : PodLook where
  seenAt := look.checkedAt
  pods := look.pods.mapError ClusterError.worker
  verification := look.verification.mapError ClusterError.worker
  eventSize := look.eventSize.mapError ClusterError.worker
  eventContent := look.eventContent.mapError ClusterError.worker
  pending := (look.marker.mapError ClusterError.worker).map fun _ => ()
  checkedAt := look.checkedAt

/-- A run whose looks find a marker only in the end. -/
def kubernetesWorld (deadline : Instant) (looks : List PodObservation) (last : PodObservation)
    (marker : String) : KubernetesWorld where
  prepared := .ok ()
  startup := []
  deadline := deadline
  looks := looks.map PodObservation.podLook
  verification := last.verification.mapError ClusterError.worker
  eventSize := last.eventSize.mapError ClusterError.worker
  eventContent := last.eventContent.mapError ClusterError.worker
  marker := marker
  archive := last.archive.mapError ClusterError.worker
  file := last.file

theorem pollRunningPod_pending (h : ∀ marker, look.marker = .ok marker → marker = "pending") :
    pollRunningPod decode job look watch plane = (fun out => (none, out.1, out.2)) <$> (do
      let (watch, plane) ← observeRunningPod decode look.podLook.verification
        look.podLook.eventSize look.podLook.eventContent watch plane
      look.podLook.pending.mapError watch.close
      return (watch, plane)) := by
  rw [pollRunningPod]
  change (observeRunningPod decode look.podLook.verification look.podLook.eventSize
    look.podLook.eventContent watch plane >>= _) = _
  cases observeRunningPod decode look.podLook.verification look.podLook.eventSize
      look.podLook.eventContent watch plane with
  | error failure => rfl
  | ok out =>
    rw [PodObservation.podLook]
    cases hmarker : look.marker with
    | error failure => rfl
    | ok marker =>
      rw [h marker hmarker]
      rfl

theorem pollPod_pending (h : ∀ marker, look.marker = .ok marker → marker = "pending") :
    pollPod decode job look watch plane =
      (fun out => (none, out.1, out.2)) <$> observePod decode look.podLook watch plane := by
  have hpods : look.podLook.pods = look.pods.mapError ClusterError.worker := rfl
  rw [pollPod, observePod, hpods]
  cases look.pods with
  | error failure => rfl
  | ok pods =>
    simp only [Except.mapError, ok_bind]
    by_cases hcount : pods.length ≤ 1
    · simp only [ensure_true hcount, ok_bind]
      rcases pods with _ | ⟨pod, pods⟩
      · rfl
      · by_cases hphase : ¬(pod.phase ∈ ["Failed", "Succeeded"] ∧ watch.verified = none)
        · simp only [ensure_true hphase, ok_bind]
          split
          · exact pollRunningPod_pending h
          · rfl
        · simp only [ensure_false hphase, error_bind]
          rfl
    · simp only [ensure_false hcount, error_bind]
      rfl

/-- As long as no marker is found, the loop is the executor's. -/
theorem foldl_look_eq
    (h : ∀ look ∈ looks, ∀ marker, look.marker = .ok marker → marker = "pending") :
    looks.foldl (PodProgress.look decode job deadline) (.watching watch plane) =
      match supervise "isolated Kubernetes Run was canceled"
        "isolated Kubernetes Run exceeded executor timeout" PodWatch.close (observePod decode)
        PodLook.checkedAt deadline (looks.map PodObservation.podLook) watch plane with
      | .error error => .finished (.error error)
      | .ok (watch, plane) => .watching watch plane := by
  induction looks generalizing watch plane with
  | nil => rfl
  | cons look looks ih =>
    have hstop : ∀ outcome, looks.foldl (PodProgress.look decode job deadline)
        (.finished outcome) = .finished outcome := by
      intro outcome
      clear ih h
      induction looks with
      | nil => rfl
      | cons look looks ih => exact ih
    rw [List.foldl_cons, List.map_cons, supervise]
    have hpoll := @pollPod_pending decode job look watch plane (h look List.mem_cons_self)
    have hrest := fun watch plane => @ih watch plane fun look hlook =>
      h look (List.mem_cons_of_mem _ hlook)
    cases hobserve : observePod decode look.podLook watch plane with
    | error failure =>
      rw [hobserve] at hpoll
      rw [look_error hpoll, hstop]
      rfl
    | ok out =>
      obtain ⟨watch', plane'⟩ := out
      rw [hobserve] at hpoll
      rw [look_none hpoll, PodProgress.check]
      simp only [ok_bind]
      have hchecked : look.podLook.checkedAt = look.checkedAt := rfl
      rw [hchecked]
      cases (checkpoint "isolated Kubernetes Run was canceled"
          "isolated Kubernetes Run exceeded executor timeout" deadline look.checkedAt
          plane').mapError watch'.close with
      | error failure =>
        simp only [hstop]
        rfl
      | ok after =>
        simp only [hrest]
        rfl

/-- The look that finds the marker ends the loop like the executor. -/
theorem look_marker {last : PodObservation} {pod : PodView} {marker : String}
    (hpods : last.pods = .ok [pod]) (hrunning : pod.phase = "Running")
    (hmarker : last.marker = .ok marker) (hfinished : marker ≠ "pending") :
    (PodProgress.watching watch plane).look decode job deadline last = .finished (do
      let (watch, _) ← observeRunningPod decode (last.verification.mapError ClusterError.worker)
        (last.eventSize.mapError ClusterError.worker)
        (last.eventContent.mapError ClusterError.worker) { watch with phase := "job-poll" } plane
      readFinishedPod job last marker watch) := by
  have hpasses : ¬(pod.phase ∈ ["Failed", "Succeeded"] ∧ watch.verified = none) := by
    rw [hrunning]
    exact fun hboth => absurd hboth.1 (by decide)
  rw [PodProgress.look, pollPod_listed hpods, ensure_true hpasses, ok_bind, if_pos hrunning,
    pollRunningPod]
  cases observeRunningPod decode (last.verification.mapError ClusterError.worker)
      (last.eventSize.mapError ClusterError.worker)
      (last.eventContent.mapError ClusterError.worker) { watch with phase := "job-poll" } plane with
  | error failure => rfl
  | ok out =>
    simp only [ok_bind, hmarker, Except.mapError, if_neg hfinished]
    cases readFinishedPod job last marker out.1 with
    | error failure => rfl
    | ok result => rfl

/-- The loop over a run that finds its marker is the executor of that run. -/
theorem watchPods_executeKubernetes {last : PodObservation} {pod : PodView} {marker : String}
    (hpending : ∀ look ∈ looks, ∀ marker, look.marker = .ok marker → marker = "pending")
    (hpods : last.pods = .ok [pod]) (hrunning : pod.phase = "Running")
    (hmarker : last.marker = .ok marker) (hfinished : marker ≠ "pending") :
    watchPods decode job deadline (looks ++ [last]) start =
      .finished (executeKubernetes decode job (kubernetesWorld deadline looks last marker)
        start) := by
  rw [watchPods_append, watchPods, foldl_look_eq hpending, executeKubernetes]
  simp only [kubernetesWorld, startUp, ok_bind]
  cases supervise "isolated Kubernetes Run was canceled"
      "isolated Kubernetes Run exceeded executor timeout" PodWatch.close (observePod decode)
      PodLook.checkedAt deadline (looks.map PodObservation.podLook) ⟨none, "job-poll", 0⟩
      start with
  | error failure => rfl
  | ok out =>
    simp only [look_marker hpods hrunning hmarker hfinished]
    rfl

end TestOps

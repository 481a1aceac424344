import TestOps.ControlPlane.System
import TestOps.Worker.Execution

/-! What a control plane that does not answer does to the result of a run.

    A report that fails is swallowed in every mode, and so is a poll of the run state that fails
    while an adapter reports in-process. The three executors that watch a runner from outside do not
    guard their polls: the first that fails, while the runner has not finished, ends the execution
    with an infrastructure error. They also read the clock after the calls, so that calls which
    take long enough end it with a timeout although the runner has finished meanwhile. -/

namespace TestOps

open Checked

variable {Look State : Type} {decode : Bytes → Option RunnerEvent} {job : RunSnapshot}
  {plane plane' quiet quiet' : ControlPlaneAnswers} {error : WorkerError} {r : RunResult}
  {task : RunTask} {canceledText timedOutText : String} {deadline checkedAt : Instant}

/-! ### Answers -/

/-- No answer tells that the run was asked to cancel. -/
def ControlPlaneAnswers.NeverCanceled (plane : ControlPlaneAnswers) : Prop :=
  ∀ view, .ok view ∈ plane.polls → view.canceled = false

theorem unfailing_neverCanceled : ControlPlaneAnswers.unfailing.NeverCanceled := by
  intro view hmem
  cases hmem

theorem ControlPlaneAnswers.NeverCanceled.of_polls (h : plane.NeverCanceled)
    (hpolls : plane'.polls = plane.polls) : plane'.NeverCanceled := by
  intro view hmem
  exact h view (hpolls ▸ hmem)

theorem ControlPlaneAnswers.NeverCanceled.cancelRequested (h : plane.NeverCanceled) :
    plane.cancelRequested.1.toOption.getD false = false ∧
      plane.cancelRequested.2.NeverCanceled := by
  rcases hpolls : plane.polls with _ | ⟨poll, polls⟩
  · refine ⟨?_, fun view hmem => ?_⟩
    · simp only [ControlPlaneAnswers.cancelRequested, ControlPlaneAnswers.runState, hpolls,
        List.headD_nil]
      decide
    · simp only [ControlPlaneAnswers.cancelRequested, ControlPlaneAnswers.runState, hpolls,
        List.tail_nil, List.not_mem_nil] at hmem
  · refine ⟨?_, fun view hmem => ?_⟩
    · simp only [ControlPlaneAnswers.cancelRequested, ControlPlaneAnswers.runState, hpolls,
        List.headD_cons]
      cases poll with
      | error failure => rfl
      | ok view =>
        have hview := h view (by rw [hpolls]; exact List.mem_cons_self)
        rw [Except.map, Except.toOption, Option.getD_some, hview]
    · simp only [ControlPlaneAnswers.cancelRequested, ControlPlaneAnswers.runState, hpolls,
        List.tail_cons] at hmem
      exact h view (by rw [hpolls]; exact List.mem_cons_of_mem _ hmem)

/-! ### Looks at a runner -/

/-- How an execution ends that the control plane disturbs: with the poll that failed, or late. -/
inductive Disturbance (timedOutText : String) : WorkerError → Prop
  | failing (text : String) : Disturbance timedOutText (.other text)
  | late : Disturbance timedOutText (.isolated .timedOut timedOutText none)

theorem checkpoint_run (canceledText timedOutText : String) (deadline checkedAt : Instant)
    (h : plane.NeverCanceled) :
    ((∀ poll ∈ plane.polls.take 1, poll.isOk) ∧ checkedAt < deadline →
      checkpoint canceledText timedOutText deadline checkedAt plane =
        .ok { plane with polls := plane.polls.tail }) ∧
    (¬((∀ poll ∈ plane.polls.take 1, poll.isOk) ∧ checkedAt < deadline) →
      ∃ error, checkpoint canceledText timedOutText deadline checkedAt plane = .error error ∧
        Disturbance timedOutText error) := by
  have hclock : ∀ after : ControlPlaneAnswers,
      plane.cancelRequested = (.ok false, after) →
      checkpoint canceledText timedOutText deadline checkedAt plane =
        if deadline ≤ checkedAt then .error (.isolated .timedOut timedOutText none)
        else .ok after := by
    intro after hafter
    rw [checkpoint, hafter]
  rcases hpolls : plane.polls with _ | ⟨poll, polls⟩
  · have hfalse : plane.cancelRequested = (.ok false, { plane with polls := [] }) := by
      simp only [ControlPlaneAnswers.cancelRequested, ControlPlaneAnswers.runState, hpolls,
        List.headD_nil, List.tail_nil]
      rfl
    rw [hclock _ hfalse]
    simp only [List.take_nil, List.not_mem_nil, false_implies, implies_true, true_and, not_lt,
      List.tail_nil]
    refine ⟨fun htime => if_neg (not_le.mpr htime), fun htime => ⟨_, if_pos htime, .late⟩⟩
  · cases poll with
    | error failure =>
      refine ⟨fun hgood => ?_, fun _ => ⟨.other failure.text, ?_, .failing _⟩⟩
      · have := hgood.1 (.error failure) (by simp)
        cases this
      · simp only [checkpoint, ControlPlaneAnswers.cancelRequested,
          ControlPlaneAnswers.runState, hpolls, List.headD_cons, Except.map]
    | ok view =>
      have hview := h view (by rw [hpolls]; exact List.mem_cons_self)
      have hfalse : plane.cancelRequested = (.ok false, { plane with polls := polls }) := by
        simp only [ControlPlaneAnswers.cancelRequested, ControlPlaneAnswers.runState, hpolls,
          List.headD_cons, List.tail_cons, Except.map, hview]
      rw [hclock _ hfalse]
      have hgood : ∀ poll ∈ (Except.ok view :: polls).take 1, poll.isOk := by simp [Except.isOk,
        Except.toBool]
      refine ⟨fun htime => if_neg (not_le.mpr htime.2), fun hnot => ⟨_, if_pos ?_, .late⟩⟩
      exact not_lt.mp fun htime => hnot ⟨hgood, htime⟩

/-- What a look finds does not depend on the answers, and it polls nothing. -/
structure Indifferent (observe : Look → State → ControlPlaneAnswers →
    Except WorkerError (State × ControlPlaneAnswers)) : Prop where
  same : ∀ look state plane plane',
    Prod.fst <$> observe look state plane = Prod.fst <$> observe look state plane'
  polls : ∀ look state plane out, observe look state plane = .ok out → out.2.polls = plane.polls

/-- Every poll of the looks is answered, and the clock is read before the deadline after each. -/
def AnsweredInTime (checkedAt : Look → Instant) (deadline : Instant) (looks : List Look)
    (polls : List (Except TransportError RunStateView)) : Prop :=
  (∀ poll ∈ polls.take looks.length, poll.isOk) ∧ ∀ look ∈ looks, checkedAt look < deadline

theorem answeredInTime_cons {checkedAt : Look → Instant} {look : Look} {looks : List Look}
    {polls : List (Except TransportError RunStateView)} :
    AnsweredInTime checkedAt deadline (look :: looks) polls ↔
      ((∀ poll ∈ polls.take 1, poll.isOk) ∧ checkedAt look < deadline) ∧
        AnsweredInTime checkedAt deadline looks polls.tail := by
  simp only [AnsweredInTime, List.length_cons, List.forall_mem_cons]
  cases polls with
  | nil =>
    simp only [List.take_nil, List.tail_nil, List.not_mem_nil, false_implies, implies_true,
      true_and]
  | cons poll polls =>
    simp only [List.take_succ_cons, List.tail_cons, List.take_zero, List.forall_mem_cons,
      List.not_mem_nil, false_implies, implies_true, and_true]
    tauto

theorem Indifferent.of_ok {observe : Look → State → ControlPlaneAnswers →
    Except WorkerError (State × ControlPlaneAnswers)} (hobserve : Indifferent observe)
    {look : Look} {state state' : State}
    (hquiet : observe look state quiet = .ok (state', quiet')) (plane : ControlPlaneAnswers) :
    ∃ plane', observe look state plane = .ok (state', plane') ∧ plane'.polls = plane.polls := by
  have hsame := hobserve.same look state quiet plane
  rw [hquiet] at hsame
  obtain ⟨⟨found, plane'⟩, hlook, hfound⟩ := map_eq_ok.mp hsame.symm
  obtain rfl : found = state' := hfound
  exact ⟨plane', hlook, hobserve.polls _ _ _ _ hlook⟩

/-- Where the looks succeed with one control plane, only a disturbance stops them with another. -/
theorem supervise_run {observe : Look → State → ControlPlaneAnswers →
    Except WorkerError (State × ControlPlaneAnswers)} (hobserve : Indifferent observe)
    {close : State → WorkerError → WorkerError} {seenAt checkedAt : Look → Instant}
    {looks : List Look} {state state' : State} (hcancel : plane.NeverCanceled)
    (hquiet : supervise canceledText timedOutText close observe seenAt deadline looks state quiet =
      .ok (state', quiet')) :
    (AnsweredInTime checkedAt deadline looks plane.polls → ∃ plane',
      supervise canceledText timedOutText close observe checkedAt deadline looks state plane =
        .ok (state', plane')) ∧
    (¬AnsweredInTime checkedAt deadline looks plane.polls → ∃ watched error,
      supervise canceledText timedOutText close observe checkedAt deadline looks state plane =
        .error (close watched error) ∧ Disturbance timedOutText error) := by
  induction looks generalizing state plane quiet with
  | nil =>
    obtain ⟨rfl, -⟩ := Prod.mk.inj (Except.ok.inj hquiet)
    refine ⟨fun _ => ⟨plane, rfl⟩, fun hnot => absurd ?_ hnot⟩
    exact ⟨fun poll hpoll => by simp at hpoll, fun look hlook => by cases hlook⟩
  | cons look looks ih =>
    simp only [supervise, bind_eq_ok, mapError_eq_ok] at hquiet
    obtain ⟨⟨state₁, quiet₁⟩, hlook, quiet₂, -, hrest⟩ := hquiet
    obtain ⟨plane₁, hlook', hpolls⟩ := hobserve.of_ok hlook plane
    obtain ⟨hpass, hstop⟩ := checkpoint_run canceledText timedOutText deadline (checkedAt look)
      (hcancel.of_polls hpolls)
    rw [hpolls] at hpass hstop
    rw [answeredInTime_cons]
    by_cases hgood : (∀ poll ∈ plane.polls.take 1, poll.isOk) ∧ checkedAt look < deadline
    · have htail : ControlPlaneAnswers.NeverCanceled
          { plane₁ with polls := plane.polls.tail } :=
        fun view hmem => hcancel view (List.mem_of_mem_tail hmem)
      obtain ⟨hon, hoff⟩ := ih htail hrest
      have hstep : supervise canceledText timedOutText close observe checkedAt deadline
          (look :: looks) state plane =
          supervise canceledText timedOutText close observe checkedAt deadline looks state₁
            { plane₁ with polls := plane.polls.tail } := by
        simp only [supervise, hlook', ok_bind, hpass hgood, Except.mapError]
      rw [hstep]
      exact ⟨fun hall => hon hall.2, fun hnot => hoff fun hrest => hnot ⟨hgood, hrest⟩⟩
    · obtain ⟨error, herror, hdisturbance⟩ := hstop hgood
      refine ⟨fun hall => absurd hall.1 hgood, fun _ => ⟨state₁, error, ?_, hdisturbance⟩⟩
      simp only [supervise, hlook', ok_bind, herror, Except.mapError, error_bind]

/-- Looks may be changed in what an observation does not read. -/
theorem supervise_map {observe : Look → State → ControlPlaneAnswers →
    Except WorkerError (State × ControlPlaneAnswers)} {close : State → WorkerError → WorkerError}
    {checkedAt : Look → Instant} {f : Look → Look} (hobserve : ∀ look, observe (f look) = observe look)
    {looks : List Look} {state : State} :
    supervise canceledText timedOutText close observe checkedAt deadline (looks.map f) state plane =
      supervise canceledText timedOutText close observe (fun look => checkedAt (f look)) deadline
        looks state plane := by
  induction looks generalizing state plane with
  | nil => rfl
  | cons look looks ih => simp only [List.map_cons, supervise, hobserve, ih]

/-! ### What a look reads -/

theorem forwardLines_polls {lines : List Bytes} :
    (lines.foldl (forwardLine decode) plane).polls = plane.polls := by
  induction lines generalizing plane with
  | nil => rfl
  | cons line lines ih =>
    rw [List.foldl_cons, ih, forwardLine]
    cases decode line <;> rfl

theorem forwardPending_same {content : Bytes} {offset : Nat} :
    (forwardPending decode content offset plane).1 =
      (forwardPending decode content offset plane').1 ∧
    (forwardPending decode content offset plane).2.polls = plane.polls := by
  simp only [forwardPending]
  split
  · exact ⟨rfl, rfl⟩
  · exact ⟨rfl, forwardLines_polls⟩

theorem forwardNewEvents_same {file : Option Bytes} {offset : Nat} :
    (forwardNewEvents decode file offset plane).1 =
      (forwardNewEvents decode file offset plane').1 ∧
    (forwardNewEvents decode file offset plane).2.polls = plane.polls := by
  cases file with
  | none => exact ⟨rfl, rfl⟩
  | some content => exact forwardPending_same

theorem process_indifferent : Indifferent fun (look : ProcessLook) offset plane =>
    .ok (forwardNewEvents decode look.events offset plane) where
  same look offset plane plane' := congrArg Except.ok forwardNewEvents_same.1
  polls look offset plane out h := by
    rw [← Except.ok.inj h]
    exact (@forwardNewEvents_same _ plane plane _ _).2

theorem container_indifferent {close : WorkerError → WorkerError} :
    Indifferent (observeContainer decode close) where
  same look offset plane plane' := by
    simp only [observeContainer, forwardContainerEvents]
    rcases look.reload with failure | ⟨⟩
    · rfl
    · rcases look.events with failure | file
      · rfl
      · exact congrArg Except.ok forwardNewEvents_same.1
  polls look offset plane out h := by
    simp only [observeContainer, forwardContainerEvents, bind_eq_ok, mapError_eq_ok,
      pure_eq_ok] at h
    obtain ⟨-, -, file, -, rfl⟩ := h
    exact (@forwardNewEvents_same _ plane plane _ _).2

theorem forwardKubernetesEvents_same {size : Except WorkerError (Option Int)}
    {content : Except WorkerError Bytes} {offset : Nat} :
    Prod.fst <$> forwardKubernetesEvents decode size content offset plane =
      Prod.fst <$> forwardKubernetesEvents decode size content offset plane' ∧
    ∀ out, forwardKubernetesEvents decode size content offset plane = .ok out →
      out.2.polls = plane.polls := by
  constructor
  · simp only [forwardKubernetesEvents]
    rcases size with failure | ⟨_ | size⟩
    · rfl
    · rfl
    · simp only [found, ok_bind]
      by_cases hlimit : size ≤ maxEventArchiveBytes
      · simp only [ensure_true hlimit, ok_bind]
        split
        · rfl
        · rcases content with failure | payload
          · rfl
          · simp only [ok_bind]
            by_cases hpayload : payload.length ≤ maxEventArchiveBytes
            · simp only [ensure_true hpayload, ok_bind]
              exact congrArg Except.ok forwardPending_same.1
            · simp only [ensure_false hpayload, error_bind]
      · simp only [ensure_false hlimit, error_bind]
  · intro out h
    simp only [forwardKubernetesEvents, bind_eq_ok, found_eq_ok, ensure_eq_ok] at h
    obtain ⟨-, -, size, -, -, -, h⟩ := h
    split at h
    · rw [← pure_eq_ok.mp h]
    · simp only [bind_eq_ok, ensure_eq_ok, pure_eq_ok] at h
      obtain ⟨payload, -, -, -, rfl⟩ := h
      exact (@forwardPending_same _ plane plane _ _).2

theorem observeRunningPod_same {verification : Except WorkerError RunExecutionIsolationEvidence}
    {size : Except WorkerError (Option Int)} {content : Except WorkerError Bytes}
    {watch : PodWatch} :
    Prod.fst <$> observeRunningPod decode verification size content watch plane =
      Prod.fst <$> observeRunningPod decode verification size content watch plane' ∧
    ∀ out, observeRunningPod decode verification size content watch plane = .ok out →
      out.2.polls = plane.polls := by
  constructor
  · simp only [observeRunningPod]
    rcases verifyPod verification watch with failure | watch
    · rfl
    · have hsame : Prod.fst <$> forwardKubernetesEvents decode size content watch.offset plane =
          Prod.fst <$> forwardKubernetesEvents decode size content watch.offset plane' :=
        forwardKubernetesEvents_same.1
      simp only [ok_bind]
      revert hsame
      generalize forwardKubernetesEvents decode size content watch.offset plane = x
      generalize forwardKubernetesEvents decode size content watch.offset plane' = y
      intro hsame
      rcases x with failure | ⟨offset, after⟩ <;> rcases y with failure' | ⟨offset', after'⟩ <;>
        cases hsame <;> rfl
  · intro out h
    simp only [observeRunningPod, bind_eq_ok, mapError_eq_ok, pure_eq_ok] at h
    obtain ⟨watch, -, ⟨offset, after⟩, hforward, rfl⟩ := h
    exact (@forwardKubernetesEvents_same _ plane plane _ _ _).2 _ hforward

theorem pod_indifferent : Indifferent (observePod decode) where
  same look watch plane plane' := by
    simp only [observePod]
    rcases look.pods with failure | pods
    · rfl
    · simp only [Except.mapError, ok_bind]
      by_cases hcount : pods.length ≤ 1
      · simp only [ensure_true hcount, ok_bind]
        rcases pods with _ | ⟨pod, pods⟩
        · rfl
        · simp only
          by_cases hphase : ¬(pod.phase ∈ ["Failed", "Succeeded"] ∧ watch.verified = none)
          · simp only [ensure_true hphase, ok_bind]
            split
            · have hsame : Prod.fst <$> observeRunningPod decode look.verification look.eventSize
                    look.eventContent { watch with phase := "job-poll" } plane =
                  Prod.fst <$> observeRunningPod decode look.verification look.eventSize
                    look.eventContent { watch with phase := "job-poll" } plane' :=
                observeRunningPod_same.1
              revert hsame
              generalize observeRunningPod decode look.verification look.eventSize
                look.eventContent { watch with phase := "job-poll" } plane = x
              generalize observeRunningPod decode look.verification look.eventSize
                look.eventContent { watch with phase := "job-poll" } plane' = y
              intro hsame
              rcases x with failure | ⟨watched, after⟩ <;>
                rcases y with failure' | ⟨watched', after'⟩ <;> cases hsame
              · rfl
              · simp only [ok_bind]
                rcases look.pending with failure | ⟨⟩ <;> rfl
            · rfl
          · simp only [ensure_false hphase, error_bind]
      · simp only [ensure_false hcount, error_bind]
  polls look watch plane out h := by
    simp only [observePod, bind_eq_ok, mapError_eq_ok, ensure_eq_ok] at h
    obtain ⟨pods, -, -, -, h⟩ := h
    rcases pods with _ | ⟨pod, pods⟩
    · rw [← pure_eq_ok.mp h]
    · simp only [bind_eq_ok, ensure_eq_ok] at h
      obtain ⟨-, -, h⟩ := h
      split at h
      · simp only [bind_eq_ok, mapError_eq_ok, pure_eq_ok] at h
        obtain ⟨⟨watched, after⟩, hobserve, -, -, rfl⟩ := h
        exact (@observeRunningPod_same _ plane plane _ _ _ _).2 _ hobserve
      · rw [← pure_eq_ok.mp h]

/-! ### What a disturbed execution leaves to the handlers -/

/-- The exceptions that an execution of this mode ends with when it is disturbed. -/
inductive Spoils (mode : IsolationMode) : WorkerError → Prop
  | other (text : String) : Spoils mode (.other text)
  | timedOut (text : String) (executionIsolation : Option RunExecutionIsolationEvidence) :
    Spoils mode (.isolated .timedOut text executionIsolation)
  | failed (text : String) : mode ≠ .subprocess → Spoils mode (.isolated .failed text none)

theorem Disturbance.spoils {mode : IsolationMode} (h : Disturbance timedOutText error) :
    Spoils mode error := by
  cases h with
  | failing text => exact .other text
  | late => exact .timedOut timedOutText none

theorem Disturbance.failedClosed {mode : IsolationMode} (h : Disturbance timedOutText error)
    (hmode : mode ≠ .subprocess) (executor phase : String)
    (verified : Option RunExecutionIsolationEvidence) :
    Spoils mode (failedClosed executor phase verified error) := by
  cases h with
  | failing text => exact .failed _ hmode
  | late => exact .timedOut timedOutText _

theorem recoveryResult_isolation {moment : Instant} {runnerVersion : String}
    {executionIsolation : Option RunExecutionIsolationEvidence}
    (h : recoveryResult moment job error runnerVersion executionIsolation = .ok r) :
    r.executionIsolation = executionIsolation := by
  simp only [recoveryResult, bind_eq_ok, pure_eq_ok] at h
  obtain ⟨caseResults, -, rfl⟩ := h
  rfl

theorem timedOutResult_status {moment : Instant} {runnerVersion : String}
    {executionIsolation : RunExecutionIsolationEvidence}
    (h : timedOutResult moment job runnerVersion executionIsolation = .ok r) :
    r.status = .timedOut := by
  simp only [timedOutResult, bind_eq_ok, pure_eq_ok] at h
  obtain ⟨caseResults, -, rfl⟩ := h
  rfl

/-- No handler of such an exception makes up a result that an isolated runner can have left. -/
theorem recover_ne (h : Spoils task.execution.mode error) (hisolated : r.executionIsolation ≠ none)
    (hstatus : r.status ≠ .timedOut) : task.recover error ≠ .ok r := by
  intro hrecover
  cases h with
  | other text => exact hisolated (recoveryResult_isolation hrecover)
  | timedOut text executionIsolation =>
    rw [RunTask.recover] at hrecover
    split at hrecover
    · exact hisolated (recoveryResult_isolation hrecover)
    · exact hstatus (timedOutResult_status hrecover)
  | failed text hmode =>
    have hnone := recoveryResult_isolation hrecover
    rw [failedIsolationEvidence, if_neg hmode] at hnone
    exact hisolated hnone

/-- What the worker reads as a result is what the runner has written. -/
theorem readResult_ok {file : ResultFile} (h : readResult job file = .ok r) :
    r.runId = job.runId ∧ r.executionIsolation ≠ none ∧ r.status ≠ .timedOut := by
  cases file with
  | missing => cases h
  | invalid => cases h
  | written result =>
    simp only [readResult, bind_eq_ok, ensure_eq_ok, pure_eq_ok] at h
    obtain ⟨-, ⟨hrunId, hisolated⟩, rfl⟩ := h
    exact ⟨hrunId, hisolated, result.property⟩

theorem exportResult_ok {archive : Except WorkerError Unit} {file : ResultFile}
    {expected : Option RunExecutionIsolationEvidence} {inconsistent : String}
    (h : exportResult job archive file expected inconsistent = .ok r) :
    r.executionIsolation ≠ none ∧ r.status ≠ .timedOut := by
  simp only [exportResult, bind_eq_ok, ensure_eq_ok, pure_eq_ok] at h
  obtain ⟨-, -, result, hread, -, -, rfl⟩ := h
  exact (readResult_ok hread).2

/-! ### Executors -/

/-- A runner's result where nothing disturbs the execution, an exception that spoils it where
    something does. -/
structure Outcome (mode : IsolationMode) (undisturbed : Prop) (r : RunResult)
    (outcome : Except WorkerError RunResult) : Prop where
  kept : undisturbed → outcome = .ok r
  lost : ¬undisturbed → ∃ error, outcome = .error error ∧ Spoils mode error ∧
    r.executionIsolation ≠ none ∧ r.status ≠ .timedOut

/-- The same looks, with answers that take no time. -/
def SubprocessWorld.answeredAtOnce (world : SubprocessWorld) : SubprocessWorld :=
  { world with looks := world.looks.map fun look => { look with checkedAt := look.seenAt } }

def ContainerWorld.answeredAtOnce (world : ContainerWorld) : ContainerWorld :=
  { world with looks := world.looks.map fun look => { look with checkedAt := look.seenAt } }

def KubernetesWorld.answeredAtOnce (world : KubernetesWorld) : KubernetesWorld :=
  { world with looks := world.looks.map fun look => { look with checkedAt := look.seenAt } }

theorem executeSubprocess_run {world : SubprocessWorld} (hcancel : plane.NeverCanceled)
    (hquiet : executeSubprocess decode job world.answeredAtOnce .unfailing = .ok r) :
    Outcome .subprocess (AnsweredInTime ProcessLook.checkedAt world.deadline world.looks plane.polls)
      r (executeSubprocess decode job world plane) := by
  simp only [executeSubprocess, SubprocessWorld.answeredAtOnce, bind_eq_ok] at hquiet
  obtain ⟨⟨⟩, hprepared, ⟨offset, quiet⟩, hlooks, ⟨⟩, hexit, hread⟩ := hquiet
  have hcode : world.returncode = 0 := ensure_eq_ok.mp hexit
  rw [supervise_map (by exact fun _ => rfl)] at hlooks
  obtain ⟨hon, hoff⟩ := supervise_run process_indifferent hcancel hlooks
  constructor
  · intro hundisturbed
    obtain ⟨plane', hlooks'⟩ := hon hundisturbed
    simp only [executeSubprocess, hprepared, hlooks', ok_bind, ensure_true hcode, hread]
  · intro hnot
    obtain ⟨watched, error, hlooks', hdisturbance⟩ := hoff hnot
    refine ⟨error, ?_, hdisturbance.spoils, (readResult_ok hread).2⟩
    simp only [executeSubprocess, hprepared, hlooks', ok_bind, error_bind]

theorem executeContainer_run {world : ContainerWorld} (hcancel : plane.NeverCanceled)
    (hquiet : executeContainer decode job world.answeredAtOnce .unfailing = .ok r) :
    Outcome .container (AnsweredInTime ContainerLook.checkedAt world.deadline world.looks plane.polls)
      r (executeContainer decode job world plane) := by
  simp only [executeContainer, ContainerWorld.answeredAtOnce, bind_eq_ok, mapError_eq_ok] at hquiet
  obtain ⟨expected, hexpected, ⟨⟩, hstartup, ⟨offset, quiet⟩, hlooks, ⟨⟩, hreload, last, hlast, ⟨⟩,
    hexit, hexport⟩ := hquiet
  have hcode : world.exitCode = 0 := ensure_eq_ok.mp hexit
  rw [supervise_map (by exact fun _ => rfl)] at hlooks
  have hlive : (world.liveView.elim plane fun event => (plane.reportEvent event).2).polls =
      plane.polls := by
    cases world.liveView <;> rfl
  obtain ⟨hon, hoff⟩ := supervise_run container_indifferent (hcancel.of_polls hlive) hlooks
  rw [hlive] at hon hoff
  constructor
  · intro hundisturbed
    obtain ⟨plane', hlooks'⟩ := hon hundisturbed
    have hlast' : ∃ last', forwardContainerEvents decode world.lastEvents offset plane' =
        .ok last' := by
      simp only [forwardContainerEvents, bind_eq_ok] at hlast
      obtain ⟨file, hfile, -⟩ := hlast
      exact ⟨_, by rw [forwardContainerEvents, hfile]; rfl⟩
    obtain ⟨last', hlast'⟩ := hlast'
    simp only [executeContainer, hexpected, hstartup, hlooks', hreload, hlast', ok_bind,
      ensure_true hcode, hexport, Except.mapError]
  · intro hnot
    obtain ⟨watched, error, hlooks', hdisturbance⟩ := hoff hnot
    refine ⟨_, ?_, hdisturbance.failedClosed (by decide) "container" "container-poll"
      (some expected), exportResult_ok hexport⟩
    simp only [executeContainer, hexpected, hstartup, hlooks', ok_bind, error_bind]

theorem executeKubernetes_run {world : KubernetesWorld} (hcancel : plane.NeverCanceled)
    (hquiet : executeKubernetes decode job world.answeredAtOnce .unfailing = .ok r) :
    Outcome .kubernetes (AnsweredInTime PodLook.checkedAt world.deadline world.looks plane.polls)
      r (executeKubernetes decode job world plane) := by
  simp only [executeKubernetes, KubernetesWorld.answeredAtOnce, bind_eq_ok, mapError_eq_ok] at hquiet
  obtain ⟨⟨⟩, hprepared, ⟨⟩, hstartup, ⟨watch, quiet⟩, hlooks, ⟨watched, after⟩, hlast, ⟨⟩,
    hexit, hexport⟩ := hquiet
  have hcode : world.marker = "0" := ensure_eq_ok.mp hexit
  rw [supervise_map (by exact fun _ => rfl)] at hlooks
  obtain ⟨hon, hoff⟩ := supervise_run pod_indifferent hcancel hlooks
  constructor
  · intro hundisturbed
    obtain ⟨plane', hlooks'⟩ := hon hundisturbed
    have hsame := (@observeRunningPod_same decode quiet plane' world.verification world.eventSize
      world.eventContent { watch with phase := "job-poll" }).1
    rw [hlast] at hsame
    obtain ⟨⟨watched', after'⟩, hlast', hwatched⟩ := map_eq_ok.mp hsame.symm
    obtain rfl : watched' = watched := hwatched
    simp only [executeKubernetes, hprepared, hstartup, hlooks', hlast', ok_bind,
      ensure_true hcode, hexport, Except.mapError]
  · intro hnot
    obtain ⟨watched, error, hlooks', hdisturbance⟩ := hoff hnot
    refine ⟨_, ?_, hdisturbance.failedClosed (by decide) "Kubernetes" watched.phase
      watched.verified, exportResult_ok hexport⟩
    simp only [executeKubernetes, hprepared, hstartup, hlooks', ok_bind, error_bind,
      PodWatch.close]

/-- An adapter that is never told to cancel does not see whether its reports arrive. -/
theorem adapter_execute {adapter : Adapter} (hplane : plane.NeverCanceled)
    (hplane' : plane'.NeverCanceled) :
    (adapter.execute false plane).1 = (adapter.execute false plane').1 := by
  induction adapter generalizing plane plane' with
  | finish outcome => rfl
  | isCanceled next ih => exact ih false hplane hplane'
  | emit event next ih =>
    have hreporter : ∀ plane : ControlPlaneAnswers, plane.NeverCanceled →
        (reporter event false plane).1 = false ∧ (reporter event false plane).2.NeverCanceled := by
      intro plane hplane
      have hreport : (plane.reportEvent event).2.NeverCanceled := hplane
      simp only [reporter]
      split
      · rw [Bool.false_or]
        exact hreport.cancelRequested
      · exact ⟨rfl, hreport⟩
    simp only [Adapter.execute]
    rw [(hreporter plane hplane).1, (hreporter plane' hplane').1]
    exact ih (hreporter plane hplane).2 (hreporter plane' hplane').2

/-! ### Runs -/

def Execution.answeredAtOnce : Execution → Execution
  | .inProcess prepared adapter => .inProcess prepared adapter
  | .subprocess world => .subprocess world.answeredAtOnce
  | .container world => .container world.answeredAtOnce
  | .kubernetes world => .kubernetes world.answeredAtOnce

/-- While the runner is watched from outside and has not finished, every poll of the run state is
    answered, and before the deadline. -/
def Execution.Undisturbed (plane : ControlPlaneAnswers) : Execution → Prop
  | .inProcess .. => True
  | .subprocess world =>
    AnsweredInTime ProcessLook.checkedAt world.deadline world.looks plane.polls
  | .container world =>
    AnsweredInTime ContainerLook.checkedAt world.deadline world.looks plane.polls
  | .kubernetes world =>
    AnsweredInTime PodLook.checkedAt world.deadline world.looks plane.polls

theorem execute_outcome {execution : Execution} {runnerVersion : String}
    (hcancel : plane.NeverCanceled)
    (hquiet : execution.answeredAtOnce.execute decode job runnerVersion .unfailing = .ok r) :
    Outcome execution.mode (execution.Undisturbed plane) r
      (execution.execute decode job runnerVersion plane) := by
  cases execution with
  | inProcess prepared adapter =>
    refine ⟨fun _ => ?_, fun hnot => absurd trivial hnot⟩
    rw [← hquiet]
    simp only [Execution.execute, Execution.answeredAtOnce, executeInProcess,
      adapter_execute hcancel unfailing_neverCanceled]
  | subprocess world => exact executeSubprocess_run hcancel hquiet
  | container world => exact executeContainer_run hcancel hquiet
  | kubernetes world => exact executeKubernetes_run hcancel hquiet

/-- The delivery comes to the execution of a run that nobody asked to cancel, with a package that
    the worker hosts. -/
structure RunTask.Executes (task : RunTask) : Prop where
  initialState : ∃ view, task.initialState = .ok view ∧ view.status.isTerminal = false ∧
    view.cancelRequested = false
  existing : task.existing = .ok none
  preparing : task.preparing = .ok ()
  runtime : ∃ runnerType, task.runtime = .ok runnerType ∧
    (runnerType = .androidAppium → task.execution.mode = .inProcess)
  running : task.running = .ok ()

theorem RunTask.Executes.attempt (h : task.Executes) : task.attempt decode plane =
    task.execution.execute decode task.job task.runnerVersion plane := by
  obtain ⟨runnerType, hruntime, hmode⟩ := h.runtime
  have hhosted : ¬(runnerType = .androidAppium ∧ task.execution.mode ≠ .inProcess) :=
    fun ⟨htype, hne⟩ => hne (hmode htype)
  simp only [RunTask.attempt, raised, h.preparing, h.running, hruntime, Except.mapError, ok_bind,
    ensure_true hhosted]

theorem RunTask.Executes.executeRun (h : task.Executes) : executeRun decode task plane =
    match task.execution.execute decode task.job task.runnerVersion plane with
    | .ok result => task.conclude (.ok result)
    | .error error => task.conclude (task.recover error) := by
  obtain ⟨view, hview, hterminal, hcancel⟩ := h.initialState
  cases hresult : task.execution.execute decode task.job task.runnerVersion plane <;>
    simp only [TestOps.executeRun, hview, h.existing, hterminal, hcancel, h.attempt, hresult,
      Bool.false_eq_true, if_false]

theorem conclude_persisted {outcome : Except WorkerError RunResult} :
    (task.conclude outcome).persisted = some r ↔ outcome = .ok r := by
  cases outcome with
  | error error => simp [RunTask.conclude]
  | ok result => simp [RunTask.conclude]

/-- The worker persists what the runner has produced exactly when the run is executed in-process, or
    every poll made while the runner is unfinished is answered, and answered before the deadline. -/
theorem persisted_iff (htask : task.Executes) (hcancel : plane.NeverCanceled)
    (hruns : task.execution.answeredAtOnce.execute decode task.job task.runnerVersion .unfailing =
      .ok r) :
    (executeRun decode task plane).persisted = some r ↔ task.execution.Undisturbed plane := by
  have houtcome := execute_outcome hcancel hruns
  rw [htask.executeRun]
  by_cases hundisturbed : task.execution.Undisturbed plane
  · rw [houtcome.kept hundisturbed]
    exact ⟨fun _ => hundisturbed, fun _ => conclude_persisted.mpr rfl⟩
  · obtain ⟨error, herror, hspoils, hisolated, hstatus⟩ := houtcome.lost hundisturbed
    rw [herror]
    refine ⟨fun hpersisted => ?_, fun h => absurd h hundisturbed⟩
    exact absurd (conclude_persisted.mp hpersisted) (recover_ne hspoils hisolated hstatus)

namespace Installation

/-- The snapshot of run 20. -/
def runSnapshot : RunSnapshot where
  runId := 20
  projectId := 1
  targetId := 2
  targetType := .web
  environmentId := 3
  caseBaseline := ⟨10, "v1", 0, 2⟩
  automationPackage := ⟨"shop-web", "1", 4, .webPlaywright, "registry/shop-web", none⟩
  cases := [caseA, caseB]
  browser := some "chromium"
  webConfig := some webConfig
  configHash := 0
  runtimeVariables := []
  secretBindings := []
  createdBy := 100
  createdAt := 0

/-- What the process of run 20 writes. -/
def runnerResult : RunnerResult :=
  ⟨{ passed 20 [caseResult caseA .passed, caseResult caseB .passed] with
      executionIsolation := some (subprocessIsolationEvidence "1") }, by decide⟩

/-- The process of run 20 is seen running once. -/
def watchedOnce : SubprocessWorld where
  prepared := .ok ()
  deadline := 3600
  looks := [⟨5, none, 6⟩]
  lastEvents := none
  returncode := 0
  file := .written runnerResult

def deliveredTask : RunTask where
  job := runSnapshot
  runnerVersion := "1"
  initialState := .ok ⟨.queued, false⟩
  existing := .ok none
  preparing := .ok ()
  runtime := .ok .webPlaywright
  running := .ok ()
  execution := .subprocess watchedOnce
  moment := 10
  replayed := .ok ()
  upload := .ok
  callback := fun _ => .ok ()

theorem deliveredTask_executes : deliveredTask.Executes where
  initialState := ⟨_, rfl, rfl, rfl⟩
  existing := rfl
  preparing := rfl
  runtime := ⟨.webPlaywright, rfl, by decide⟩
  running := rfl

/-- One report fails and the poll is answered. -/
def reportFails : ControlPlaneAnswers :=
  ⟨[.error ⟨"502 Bad Gateway"⟩], [.ok ⟨.running, false⟩]⟩

/-- The first poll fails. -/
def pollFails : ControlPlaneAnswers := ⟨[], [.error ⟨"502 Bad Gateway"⟩]⟩

end Installation

open Installation in
/-- A run whose report fails and whose poll is answered keeps its result. -/
theorem persisted_of_reportFails :
    (executeRun (fun _ => none) deliveredTask reportFails).persisted = some runnerResult.val := by
  have hcancel : reportFails.NeverCanceled := by
    intro view hmem
    obtain rfl : view = ⟨.running, false⟩ := by
      simpa [reportFails] using hmem
    rfl
  refine (persisted_iff deliveredTask_executes hcancel rfl).mpr ⟨?_, ?_⟩
  · intro poll hmem
    obtain rfl : poll = .ok ⟨.running, false⟩ := by
      simpa [reportFails, watchedOnce] using hmem
    rfl
  · intro look hmem
    obtain rfl : look = ⟨5, none, 6⟩ := List.mem_singleton.mp hmem
    decide

open Installation in
/-- One poll that fails turns a run that passes into an infrastructure error. -/
theorem result_rewritten : deliveredTask.Executes ∧ pollFails.NeverCanceled ∧
    deliveredTask.execution.answeredAtOnce.execute (fun _ => none) runSnapshot "1" .unfailing =
      .ok runnerResult.val ∧
    (executeRun (fun _ => none) deliveredTask .unfailing).persisted = some runnerResult.val ∧
    ∃ result, (executeRun (fun _ => none) deliveredTask pollFails).persisted = some result ∧
      result ≠ runnerResult.val ∧ result.status = .infraError := by
  refine ⟨deliveredTask_executes, ?_, rfl, rfl, ?_⟩
  · intro view hmem
    simp [pollFails] at hmem
  · cases hpersisted : (executeRun (fun _ => none) deliveredTask pollFails).persisted with
    | none => exact absurd hpersisted (by decide)
    | some result =>
      have hstatus : ((executeRun (fun _ => none) deliveredTask pollFails).persisted.all
          fun result => result.status = .infraError) = true := by
        decide
      rw [hpersisted, Option.all_some, decide_eq_true_eq] at hstatus
      refine ⟨result, rfl, fun heq => ?_, hstatus⟩
      rw [heq] at hstatus
      cases hstatus

end TestOps

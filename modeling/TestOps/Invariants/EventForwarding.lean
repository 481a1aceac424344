import TestOps.Worker.EventForwarding
import TestOps.Lib.Framing
import TestOps.Lib.Json
import TestOps.Lib.Utf8

/-! What the readers of `events.jsonl` send: the forwarders the complete lines, each once, however
    the polls fall; the reconciliation at the end of the run the same events, unless the runner has
    left something else than complete lines with a JSON object each. -/

namespace TestOps.EventForwarding

open Checked Lines

variable {Plane : Type} {decode : Bytes → Option RunnerEvent} {reportEvent : ReportEvent Plane}
  {plane : Plane} {content seen chunk : Bytes} {offset : Nat}

/-! ### One pass over the complete lines -/

theorem newline_ne_carriageReturn : newline ≠ carriageReturn := by decide

theorem splitlines_eq (content : Bytes) :
    splitlines content = split newline carriageReturn content := by
  induction content using List.twoStepInduction with
  | nil => rfl
  | singleton byte => rfl
  | cons_cons first second rest ih ih' =>
    rw [splitlines, split, ih, ih' second]
    cases split newline carriageReturn (second :: rest) <;> rfl

/-- The events on the complete lines of a file. -/
def completeEvents (decode : Bytes → Option RunnerEvent) (content : Bytes) : List RunnerEvent :=
  (completeLines newline carriageReturn content).filterMap decode

/-- Reports of these events, in this order. -/
def reportAll (reportEvent : ReportEvent Plane) (plane : Plane) (events : List RunnerEvent) :
    Plane :=
  events.foldl (fun plane event => (reportEvent event plane).2) plane

theorem forwardLines_eq (lines : List Bytes) :
    lines.foldl (forwardLine decode reportEvent) plane =
      reportAll reportEvent plane (lines.filterMap decode) := by
  rw [reportAll, List.foldl_filterMap]
  congr 1
  funext plane line
  cases h : decode line with
  | none => simp only [forwardLine, h]
  | some event => simp only [forwardLine, h]

/-- One poll, up to where the file has grown. -/
def poll (decode : Bytes → Option RunnerEvent) (reportEvent : ReportEvent Plane) (content : Bytes)
    (offset : Nat) (plane : Plane) : Nat × Plane :=
  (offset + Lines.completeSize newline (content.drop offset),
    reportAll reportEvent plane (completeEvents decode (content.drop offset)))

theorem completeSize_zero {pending : Bytes} (h : completeSize pending = 0) :
    completeEvents decode pending = [] := by
  have hsize : Lines.completeSize newline pending = 0 := h
  rw [completeEvents, completeLines, hsize]
  rfl

theorem pending_eq (pending : Bytes) :
    (if completeSize pending = 0 then (offset, plane)
      else (offset + completeSize pending,
        (splitlines (pending.take (completeSize pending))).foldl (forwardLine decode reportEvent)
          plane)) =
      (offset + Lines.completeSize newline pending,
        reportAll reportEvent plane (completeEvents decode pending)) := by
  split
  · rename_i hzero
    rw [completeSize_zero hzero, show Lines.completeSize newline pending = 0 from hzero]
    rfl
  · rw [forwardLines_eq, splitlines_eq]
    rfl

theorem poll_of_length_le (h : content.length ≤ offset) :
    poll decode reportEvent content offset plane = (offset, plane) := by
  rw [poll, List.drop_eq_nil_of_le h]
  rfl

theorem forwardNewEvents_eq (file : Option Bytes) : forwardNewEvents decode reportEvent file offset
    plane = poll decode reportEvent (file.getD []) offset plane := by
  cases file with
  | none => exact (poll_of_length_le (Nat.zero_le _)).symm
  | some content => exact pending_eq _

theorem forwardContainerEvents_eq (file : Option Bytes) :
    forwardContainerEvents decode reportEvent file offset plane =
      poll decode reportEvent (file.getD []) offset plane := by
  cases file with
  | none => exact (poll_of_length_le (Nat.zero_le _)).symm
  | some content =>
    rw [forwardContainerEvents]
    split
    · exact (poll_of_length_le ‹_›).symm
    · exact pending_eq _

theorem forwardKubernetesEvents_eq (file : Option Bytes) :
    forwardKubernetesEvents decode reportEvent file offset plane =
      if (file.getD []).length ≤ maxEventArchiveBytes then
        .ok (poll decode reportEvent (file.getD []) offset plane)
      else .error (isolatedError "Kubernetes event stream exceeded its size limit") := by
  rw [forwardKubernetesEvents]
  by_cases hsize : (file.getD []).length ≤ maxEventArchiveBytes
  · simp only [ensure_true hsize, ok_bind, if_pos hsize]
    split
    · rw [poll_of_length_le ‹_›]
      rfl
    · rw [poll, ← pending_eq]
      split <;> rfl
  · simp only [ensure_false hsize, error_bind, if_neg hsize]

/-- A poll that starts where the one before has ended makes one poll of the two. -/
theorem poll_resume (seen chunk : Bytes) :
    poll decode reportEvent (seen ++ chunk) (Lines.completeSize newline seen)
        (reportAll reportEvent plane (completeEvents decode seen)) =
      (Lines.completeSize newline (seen ++ chunk),
        reportAll reportEvent plane (completeEvents decode (seen ++ chunk))) := by
  rw [poll, ← completeSize_resume]
  congr 1
  rw [completeEvents, completeEvents, completeEvents,
    completeLines_resume newline_ne_carriageReturn seen chunk, List.filterMap_append, reportAll,
    reportAll, reportAll, List.foldl_append]

/-! ### Any order of writes and polls -/

/-- What has been written so far, and as much of it as the last poll has seen. -/
def written (activities : List Activity) : Bytes × Bytes :=
  activities.foldl (fun (content, seen) activity =>
    match activity with
    | .write chunk => (content ++ chunk, seen)
    | .poll => (content, content)) ([], [])

variable {activities later : List Activity} {state state' : Forwarding Plane}

theorem written_append (activities : List Activity) (activity : Activity) :
    written (activities ++ [activity]) =
      match activity with
      | .write chunk => ((written activities).1 ++ chunk, (written activities).2)
      | .poll => ((written activities).1, (written activities).1) := by
  rw [written, List.foldl_append]
  rfl

theorem seen_prefix (activities : List Activity) :
    (written activities).2 <+: (written activities).1 := by
  induction activities using List.reverseRecOn with
  | nil => exact List.prefix_rfl
  | append_singleton activities activity ih =>
    rw [written_append]
    cases activity with
    | write chunk => exact ih.trans (List.prefix_append _ _)
    | poll => exact List.prefix_rfl

/-- What a poll has seen is seen by the later ones. -/
theorem seen_grows (activities later : List Activity) :
    (written activities).2 <+: (written (activities ++ later)).2 := by
  induction later using List.reverseRecOn with
  | nil => rw [List.append_nil]
  | append_singleton later activity ih =>
    rw [← List.append_assoc, written_append]
    cases activity with
    | write chunk => exact ih
    | poll => exact ih.trans ( seen_prefix _)

/-- What one pass sends over the file that the last poll has seen. -/
structure SentOnce (decode : Bytes → Option RunnerEvent) (reportEvent : ReportEvent Plane)
    (plane : Plane) (activities : List Activity) (state : Forwarding Plane) : Prop where
  file : state.file.getD [] = (written activities).1
  offset : state.offset = Lines.completeSize newline (written activities).2
  reported : state.plane = reportAll reportEvent plane (completeEvents decode (written activities).2)

/-- A forwarder that polls files up to some size and refuses larger ones. -/
structure PollsUpTo (decode : Bytes → Option RunnerEvent) (reportEvent : ReportEvent Plane)
    (accepts : Nat → Prop) (refusal : WorkerError) (forward : Forwarder Plane) : Prop where
  empty : accepts 0
  smaller : ∀ {size larger : Nat}, size ≤ larger → accepts larger → accepts size
  poll : ∀ file offset plane, accepts (file.getD []).length →
    forward file offset plane = .ok (poll decode reportEvent (file.getD []) offset plane)
  refuse : ∀ file offset plane, ¬accepts (file.getD []).length →
    forward file offset plane = .error refusal

variable {accepts : Nat → Prop} {refusal : WorkerError} {forward : Forwarder Plane}

theorem forwarded_append (activity : Activity) :
    forwarded forward plane (activities ++ [activity]) =
      forwarded forward plane activities >>= fun state => state.step forward activity := by
  rw [forwarded, List.foldlM_append]
  simp only [List.foldlM_cons, List.foldlM_nil, bind_pure]
  rfl

theorem SentOnce.write (h : SentOnce decode reportEvent plane activities state) (chunk : Bytes) :
    SentOnce decode reportEvent plane (activities ++ [.write chunk])
      { state with file := some (state.file.getD [] ++ chunk) } := by
  constructor
  · rw [written_append, ← h.file]
    rfl
  · rw [written_append]
    exact h.offset
  · rw [written_append]
    exact h.reported

theorem SentOnce.poll (h : SentOnce decode reportEvent plane activities state) :
    SentOnce decode reportEvent plane (activities ++ [.poll])
      { state with
        offset := (poll decode reportEvent (state.file.getD []) state.offset state.plane).1
        plane := (poll decode reportEvent (state.file.getD []) state.offset state.plane).2 } := by
  obtain ⟨chunk, hchunk⟩ := seen_prefix activities
  have hresume := @poll_resume _ decode reportEvent plane (written activities).2 chunk
  rw [h.file, h.offset, h.reported, ← hchunk, hresume, hchunk]
  constructor
  · rw [written_append]
    exact h.file
  · rw [written_append]
  · rw [written_append]

/-- A run of a forwarder, induction on what has happened last. -/
theorem PollsUpTo.run (h : PollsUpTo decode reportEvent accepts refusal forward)
    (activities : List Activity) :
    (accepts (written activities).2.length → ∃ state,
      forwarded forward plane activities = .ok state ∧
        SentOnce decode reportEvent plane activities state) ∧
    (¬accepts (written activities).2.length →
      forwarded forward plane activities = .error refusal) := by
  induction activities using List.reverseRecOn with
  | nil => exact ⟨fun _ => ⟨_, rfl, rfl, rfl, rfl⟩, fun hnot => absurd h.empty hnot⟩
  | append_singleton activities activity ih =>
    rw [forwarded_append]
    cases activity with
    | write chunk =>
      have hseen : (written (activities ++ [.write chunk])).2 = (written activities).2 := by
        rw [written_append]
      rw [hseen]
      constructor
      · intro haccepts
        obtain ⟨state, hstate, hsent⟩ := ih.1 haccepts
        exact ⟨_, by rw [hstate]; rfl, hsent.write chunk⟩
      · intro hnot
        rw [ih.2 hnot]
        rfl
    | poll =>
      have hseen : (written (activities ++ [.poll])).2 = (written activities).1 := by
        rw [written_append]
      have hlength := ( seen_prefix activities).length_le
      rw [hseen]
      constructor
      · intro haccepts
        obtain ⟨state, hstate, hsent⟩ := ih.1 (h.smaller hlength haccepts)
        have hpoll := h.poll state.file state.offset state.plane (by rwa [hsent.file])
        exact ⟨_, by rw [hstate, ok_bind, Forwarding.step, hpoll]; rfl, hsent.poll⟩
      · intro hnot
        by_cases hearlier : accepts (written activities).2.length
        · obtain ⟨state, hstate, hsent⟩ := ih.1 hearlier
          rw [hstate, ok_bind, Forwarding.step,
            h.refuse state.file state.offset state.plane (by rwa [hsent.file])]
          rfl
        · rw [ih.2 hearlier]
          rfl

/-! ### The three forwarders -/

/-- `forward_new_events` as it is polled -/
def localForwarder (decode : Bytes → Option RunnerEvent) (reportEvent : ReportEvent Plane) :
    Forwarder Plane :=
  fun file offset plane => .ok (forwardNewEvents decode reportEvent file offset plane)

/-- `forward_container_events` as it is polled -/
def containerForwarder (decode : Bytes → Option RunnerEvent) (reportEvent : ReportEvent Plane) :
    Forwarder Plane :=
  fun file offset plane => .ok (forwardContainerEvents decode reportEvent file offset plane)

/-- `_forward_kubernetes_events` as it is polled -/
def kubernetesForwarder (decode : Bytes → Option RunnerEvent) (reportEvent : ReportEvent Plane) :
    Forwarder Plane :=
  forwardKubernetesEvents decode reportEvent

theorem localForwarder_polls (refusal : WorkerError) : PollsUpTo decode reportEvent
    (fun _ => True) refusal (localForwarder decode reportEvent) where
  empty := trivial
  smaller := fun _ _ => trivial
  poll := fun file _ _ _ => congrArg Except.ok (forwardNewEvents_eq file)
  refuse := fun _ _ _ hnot => absurd trivial hnot

theorem containerForwarder_polls (refusal : WorkerError) : PollsUpTo decode reportEvent
    (fun _ => True) refusal (containerForwarder decode reportEvent) where
  empty := trivial
  smaller := fun _ _ => trivial
  poll := fun file _ _ _ => congrArg Except.ok (forwardContainerEvents_eq file)
  refuse := fun _ _ _ hnot => absurd trivial hnot

/-- What the Kubernetes forwarder raises on a file that is too large. -/
def sizeRefusal : WorkerError :=
  isolatedError "Kubernetes event stream exceeded its size limit"

theorem kubernetesForwarder_polls : PollsUpTo decode reportEvent (· ≤ maxEventArchiveBytes)
    sizeRefusal (kubernetesForwarder decode reportEvent) where
  empty := Nat.zero_le _
  smaller := fun hle hlarger => hle.trans hlarger
  poll := fun file _ _ hsize => (forwardKubernetesEvents_eq file).trans (if_pos hsize)
  refuse := fun file _ _ hsize => (forwardKubernetesEvents_eq file).trans (if_neg hsize)

/-- The worker's own functions are these, on the control plane that answers its calls. -/
theorem worker_forwardNewEvents (file : Option Bytes) (answers : ControlPlaneAnswers) :
    TestOps.forwardNewEvents decode file offset answers =
      forwardNewEvents decode ControlPlaneAnswers.reportEvent file offset answers := by
  cases file with
  | none => rfl
  | some content => rfl

theorem worker_forwardContainerEvents (file : Option Bytes) (answers : ControlPlaneAnswers) :
    TestOps.forwardContainerEvents decode (.ok file) offset answers =
      containerForwarder decode ControlPlaneAnswers.reportEvent file offset answers := by
  rw [containerForwarder, forwardContainerEvents_eq, ← forwardNewEvents_eq,
    ← worker_forwardNewEvents]
  rfl

theorem worker_forwardKubernetesEvents (file : Option Bytes) (answers : ControlPlaneAnswers) :
    TestOps.forwardKubernetesEvents decode (.ok (some (file.getD []).length))
        (.ok (file.getD [])) offset answers =
      kubernetesForwarder decode ControlPlaneAnswers.reportEvent file offset answers := by
  rw [kubernetesForwarder, forwardKubernetesEvents_eq, TestOps.forwardKubernetesEvents]
  by_cases hsize : (file.getD []).length ≤ maxEventArchiveBytes
  · simp only [found, ok_bind, Nat.cast_le, ensure_true hsize, if_pos hsize]
    split
    · rw [poll_of_length_le ‹_›]
      rfl
    · exact congrArg Except.ok ((worker_forwardNewEvents (some _) answers).trans
        (forwardNewEvents_eq (some _)))
  · simp only [found, ok_bind, Nat.cast_le, ensure_false hsize, error_bind, if_neg hsize]

/-! ### Once, in order, whole lines -/

/-- The run of a forwarder: what has been reported is what one pass reports, the offset is behind a
    newline, and later it is not smaller. -/
def ForwardsOnce (decode : Bytes → Option RunnerEvent) (reportEvent : ReportEvent Plane)
    (forward : Forwarder Plane) (plane : Plane) (activities : List Activity) : Prop :=
  ∃ state, forwarded forward plane activities = .ok state ∧
    SentOnce decode reportEvent plane activities state ∧
    Closed newline ((written activities).2.take state.offset) ∧
    ∀ later state', forwarded forward plane (activities ++ later) = .ok state' →
      state.offset ≤ state'.offset

theorem PollsUpTo.forwardsOnce (h : PollsUpTo decode reportEvent accepts refusal forward)
    (haccepts : accepts (written activities).2.length) :
    ForwardsOnce decode reportEvent forward plane activities := by
  obtain ⟨state, hstate, hsent⟩ := (h.run activities).1 haccepts
  refine ⟨state, hstate, hsent, ?_, ?_⟩
  · rw [hsent.offset]
    exact closed_take_completeSize newline _
  · intro later state' hlater
    by_cases haccepts' : accepts (written (activities ++ later)).2.length
    · obtain ⟨_, hstate', hsent'⟩ := (h.run (activities ++ later)).1 haccepts'
      cases hlater.symm.trans hstate'
      obtain ⟨chunk, hchunk⟩ := seen_grows activities later
      rw [hsent.offset, hsent'.offset, ← hchunk]
      exact completeSize_mono newline _ _
    · cases hlater.symm.trans ((h.run (activities ++ later)).2 haccepts')

variable {loads : JsonLoads} {lines : List (List Char)} {text : List Char}
  {events : List RunnerEvent} {answers : List (Except TransportError Unit)}
  {before after : SentEvents}

theorem decodeUtf8_eq_some :
    decodeUtf8 content = some text ↔ content = text.flatMap String.utf8EncodeChar :=
  Utf8.utf8Decode?_eq_some

theorem utf8_keepsLines :
    KeepsLines newline carriageReturn '\n' '\r' String.utf8EncodeChar where
  newline := by decide
  carriageReturn := by decide
  other := by
    intro c hlf hcr
    refine ⟨Utf8.utf8EncodeChar_ne_nil c, fun b hb => ⟨?_, ?_⟩⟩
    · rintro rfl
      exact hlf (Char.toNat_inj.mp (Utf8.ascii_mem_utf8EncodeChar hb (by decide)))
    · rintro rfl
      exact hcr (Char.toNat_inj.mp (Utf8.ascii_mem_utf8EncodeChar hb (by decide)))

/-- The lines of the file are the bytes of the lines of its text. -/
theorem split_utf8 (text : List Char) :
    split newline carriageReturn (text.flatMap String.utf8EncodeChar) =
      (split '\n' '\r' text).map (·.flatMap String.utf8EncodeChar) :=
  split_flatMap newline_ne_carriageReturn (by decide) utf8_keepsLines text

/-- The ends of the lines say nothing. -/
theorem ended_loads {pieces : List (List Char)} (h : List.Forall₂ (Ended '\n') lines pieces) :
    lines.map loads.ofText = pieces.map loads.ofText := by
  induction h with
  | nil => rfl
  | cons hline _ ih =>
    rw [List.map_cons, List.map_cons, ih]
    rcases hline with rfl | rfl
    · rw [loads.trailing]
    · rfl

theorem textLines_loads (text : List Char) :
    (textLines text).map loads.ofText = (split '\n' '\r' text).map loads.ofText :=
  ended_loads (kept_universal (by decide) text)

/-- One line is sent and accepted. -/
theorem reconcileLine_ok {line : List Char × Nat} :
    reconcileLine loads.ofText SentEvents.reportEvent before line = .ok after ↔
      ∃ event, loads.ofText line.1 = some event ∧ before.answers.headD (.ok ()) = .ok () ∧
        after = ⟨before.sent ++ [event], before.answers.tail⟩ := by
  have hreport (event : RunnerEvent) : SentEvents.reportEvent event before =
      (before.answers.headD (.ok ()), ⟨before.sent ++ [event], before.answers.tail⟩) := rfl
  rw [reconcileLine]
  cases hload : loads.ofText line.1 with
  | none => simp [found, error_bind]
  | some event =>
    simp only [found, ok_bind, hreport]
    cases before.answers.headD (.ok ()) with
    | error error => simp [raised, Except.mapError]
    | ok answer => simp [raised, Except.mapError, eq_comm]

/-- The first calls are answered without an exception. -/
def Accepted (answers : List (Except TransportError Unit)) (count : Nat) : Prop :=
  ∀ answer ∈ answers.take count, answer = .ok ()

theorem accepted_succ {count : Nat} : Accepted answers (count + 1) ↔
    answers.headD (.ok ()) = .ok () ∧ Accepted answers.tail count := by
  cases answers with
  | nil => simp [Accepted]
  | cons answer answers => simp [Accepted]

/-- All lines are sent and accepted; induction on the lines. -/
theorem reconcileLines_ok (number : Nat) :
    (lines.zipIdx number).foldlM (reconcileLine loads.ofText SentEvents.reportEvent) before =
        .ok after ↔
      ∃ events : List RunnerEvent, lines.map loads.ofText = events.map some ∧
        Accepted before.answers events.length ∧
        after = ⟨before.sent ++ events, before.answers.drop events.length⟩ := by
  induction lines generalizing number before with
  | nil =>
    constructor
    · intro h
      cases h
      exact ⟨[], rfl, by simp [Accepted], by simp⟩
    · rintro ⟨events, hevents, -, rfl⟩
      cases List.map_eq_nil_iff.mp hevents.symm
      simp [List.zipIdx, pure, Except.pure]
  | cons line lines ih =>
    rw [List.zipIdx_cons, List.foldlM_cons]
    constructor
    · intro h
      obtain ⟨next, hnext, hrest⟩ := bind_eq_ok.mp h
      obtain ⟨event, hload, hanswer, rfl⟩ := reconcileLine_ok.mp hnext
      obtain ⟨events, hevents, haccepted, rfl⟩ := (ih (number + 1)).mp hrest
      refine ⟨event :: events, by rw [List.map_cons, List.map_cons, hload, hevents],
        accepted_succ.mpr ⟨hanswer, haccepted⟩, ?_⟩
      simp
    · rintro ⟨events, hevents, haccepted, rfl⟩
      cases events with
      | nil => cases hevents
      | cons event events =>
        obtain ⟨hload, hevents⟩ := List.cons.inj hevents
        obtain ⟨hanswer, haccepted⟩ := accepted_succ.mp haccepted
        refine bind_eq_ok.mpr ⟨_, reconcileLine_ok.mpr ⟨event, hload, hanswer, rfl⟩, ?_⟩
        exact (ih (number + 1)).mpr ⟨events, hevents, haccepted, by simp⟩

/-- What live forwarding sends of a file, from its start. -/
def liveEvents (loads : JsonLoads) (content : Bytes) : List RunnerEvent :=
  (forwardNewEvents loads.ofBytes SentEvents.reportEvent (some content) 0 ⟨[], []⟩).2.sent

/-- The reconciliation returns and has sent what live forwarding sends. -/
def Reconciles (loads : JsonLoads) (content : Bytes)
    (answers : List (Except TransportError Unit)) : Prop :=
  ∃ after, reconcileEvents loads.ofText SentEvents.reportEvent (some content) ⟨[], answers⟩ =
    .ok after ∧ after.sent = liveEvents loads content

/-- A file that a runner has finished: whole lines of UTF-8, each a JSON object. -/
structure Finished (loads : JsonLoads) (content : Bytes) : Prop where
  closed : Closed newline content
  objects : ∃ text, content = text.flatMap String.utf8EncodeChar ∧
    ∀ line ∈ split '\n' '\r' text, (loads.ofText line).isSome

theorem reportAll_sent (events : List RunnerEvent) :
    (reportAll SentEvents.reportEvent before events).sent = before.sent ++ events := by
  induction events generalizing before with
  | nil => exact (List.append_nil _).symm
  | cons event events ih =>
    rw [reportAll, List.foldl_cons]
    refine ih.trans ?_
    simp [SentEvents.reportEvent]

theorem liveEvents_eq (content : Bytes) :
    liveEvents loads content = completeEvents loads.ofBytes content := by
  rw [liveEvents, forwardNewEvents_eq, poll, reportAll_sent]
  simp

theorem completeLines_closed (h : Closed newline content) :
    completeLines newline carriageReturn content = split newline carriageReturn content := by
  rw [completeLines, h.completeSize, List.take_length]

/-- An unfinished line is a line of the text, and no complete one. -/
theorem completeLines_open (h : ¬Closed newline content) :
    (completeLines newline carriageReturn content).length <
      (split newline carriageReturn content).length := by
  have hsplit := List.take_append_drop (Lines.completeSize newline content) content
  have hrest : content.drop (Lines.completeSize newline content) ≠ [] := by
    intro hnil
    rw [hnil, List.append_nil] at hsplit
    exact h (hsplit ▸ closed_take_completeSize newline content)
  have hlength := congrArg (fun xs => (split newline carriageReturn xs).length) hsplit
  rw [split_closed_append newline_ne_carriageReturn (closed_take_completeSize newline content),
    List.length_append] at hlength
  have hpos := List.length_pos_of_ne_nil (split_ne_nil newline_ne_carriageReturn hrest)
  rw [completeLines]
  omega

/-- What text and bytes of the same lines are read as. -/
theorem filterMap_ofBytes (h : lines.map loads.ofText = events.map some) :
    (lines.map (·.flatMap String.utf8EncodeChar)).filterMap loads.ofBytes = events := by
  induction lines generalizing events with
  | nil => exact (List.map_eq_nil_iff.mp h.symm).symm
  | cons line lines ih =>
    cases events with
    | nil => cases h
    | cons event events =>
      obtain ⟨hload, hrest⟩ := List.cons.inj h
      rw [List.map_cons, List.filterMap_cons_some (loads.utf8 line event hload), ih hrest]

theorem exists_events (h : ∀ line ∈ lines, (loads.ofText line).isSome) :
    ∃ events : List RunnerEvent, lines.map loads.ofText = events.map some := by
  induction lines with
  | nil => exact ⟨[], rfl⟩
  | cons line lines ih =>
    obtain ⟨event, hevent⟩ := Option.isSome_iff_exists.mp (h line List.mem_cons_self)
    obtain ⟨events, hevents⟩ := ih fun line hline => h line (List.mem_cons_of_mem _ hline)
    exact ⟨event :: events, by rw [List.map_cons, List.map_cons, hevent, hevents]⟩

/-- The reconciliation of a text. -/
theorem reconcileEvents_text (text : List Char) (before : SentEvents) :
    reconcileEvents loads.ofText SentEvents.reportEvent
        (some (text.flatMap String.utf8EncodeChar)) before =
      ((textLines text).zipIdx 1).foldlM (reconcileLine loads.ofText SentEvents.reportEvent)
        before := by
  simp only [reconcileEvents, decodeUtf8_eq_some.mpr rfl, found, ok_bind]

/-- It returns with the events of the complete lines exactly if the file is finished and the control
    plane accepts each of them. -/
theorem reconciles_iff (loads : JsonLoads) (content : Bytes)
    (answers : List (Except TransportError Unit)) :
    Reconciles loads content answers ↔ Finished loads content ∧
      Accepted answers (completeLines newline carriageReturn content).length := by
  constructor
  · rintro ⟨after, hreconcile, hsent⟩
    cases htext : decodeUtf8 content with
    | none => simp [reconcileEvents, htext, found, error_bind] at hreconcile
    | some text =>
      have hcontent := decodeUtf8_eq_some.mp htext
      rw [hcontent, reconcileEvents_text] at hreconcile
      obtain ⟨events, hevents, haccepted, rfl⟩ := (reconcileLines_ok 1).mp hreconcile
      rw [textLines_loads] at hevents
      have hcount : (split newline carriageReturn content).length = events.length := by
        rw [hcontent, split_utf8, List.length_map]
        simpa using congrArg List.length hevents
      have hclosed : Closed newline content := by
        by_contra hopen
        have hfewer := completeLines_open hopen
        have hsame : events = completeEvents loads.ofBytes content := by
          rw [← liveEvents_eq, ← hsent, List.nil_append]
        have hle := List.length_filterMap_le loads.ofBytes
          (completeLines newline carriageReturn content)
        rw [← completeEvents, ← hsame] at hle
        omega
      refine ⟨⟨hclosed, text, hcontent, fun line hline => ?_⟩, ?_⟩
      · have hmem : loads.ofText line ∈ events.map some := hevents ▸ List.mem_map_of_mem hline
        obtain ⟨event, -, hevent⟩ := List.mem_map.mp hmem
        rw [← hevent]
        rfl
      · rw [completeLines_closed hclosed, hcount]
        exact haccepted
  · rintro ⟨⟨hclosed, text, rfl, hobjects⟩, haccepted⟩
    obtain ⟨events, hevents⟩ := exists_events hobjects
    have hcount : (split '\n' '\r' text).length = events.length := by
      simpa using congrArg List.length hevents
    rw [completeLines_closed hclosed, split_utf8, List.length_map, hcount] at haccepted
    refine ⟨⟨[] ++ events, answers.drop events.length⟩, ?_, ?_⟩
    · rw [reconcileEvents_text]
      exact (reconcileLines_ok 1).mpr
        ⟨events, (textLines_loads text).trans hevents, haccepted, rfl⟩
    · rw [liveEvents_eq, completeEvents, completeLines_closed hclosed, split_utf8,
        filterMap_ofBytes hevents, List.nil_append]

/-- A file of one line. -/
theorem completeEvents_line {event : RunnerEvent}
    (hplain : text.all (fun c => c != '\n' && c != '\r') = true) (hne : text ≠ [])
    (hread : loads.ofText text = some event) :
    completeEvents loads.ofBytes ((text ++ ['\n']).flatMap String.utf8EncodeChar) = [event] := by
  have hchars (c : Char) (hc : c ∈ text) : c ≠ '\n' ∧ c ≠ '\r' := by
    simpa using List.all_eq_true.mp hplain c hc
  have hlines : split '\n' '\r' (text ++ ['\n']) = [text ++ []] := by
    rw [split_plain hchars hne, split_lf (by decide), split, glue]
  have hclosed : Closed newline ((text ++ ['\n']).flatMap String.utf8EncodeChar) := by
    rw [List.flatMap_append, Closed]
    intro byte hbyte
    simpa [utf8_keepsLines.newline, eq_comm] using hbyte
  rw [completeEvents, completeLines_closed hclosed, split_utf8, hlines, List.append_nil,
    List.map_singleton, List.filterMap_cons_some (loads.utf8 text event hread), List.filterMap_nil]

/-! ### Files a runner can leave -/

/-- The object that a text is. -/
def readObject (text : List Char) : Option RunnerEvent :=
  match Json.parse text with
  | some (.object members) =>
    some {
      event := match members.lookup "event" with
        | some (.string event) => some event
        | _ => none
      document := String.ofList (Json.render (.object members)) }
  | _ => none

/-- Documents are read without the newlines at their end. -/
def readLine (line : List Char) : Option RunnerEvent :=
  readObject (line.reverse.dropWhile (· = '\n')).reverse

def jsonLoads : JsonLoads where
  ofText := readLine
  ofBytes := fun content => (decodeUtf8 content).bind readLine
  trailing := fun line => by
    rw [readLine, List.reverse_append, List.reverse_singleton, List.singleton_append,
      List.dropWhile_cons_of_pos (by simp)]
    rfl
  utf8 := fun line event h => by
    rw [decodeUtf8_eq_some.mpr rfl]
    exact h

/-- A complete event, and what a killed runner has written of the next one. -/
def truncatedText : List Char := "\x7b\"event\":\"case_started\"\x7d\n\x7b\"event\":\"case_fin".toList

/-- The file ends with a line that the runner was killed in: the reconciliation raises. -/
theorem truncated_raises :
    ¬Reconciles jsonLoads (truncatedText.flatMap String.utf8EncodeChar) [] := by
  rintro ⟨after, hreconcile, -⟩
  rw [reconcileEvents_text] at hreconcile
  have herror : (((textLines truncatedText).zipIdx 1).foldlM
      (reconcileLine jsonLoads.ofText SentEvents.reportEvent) ⟨[], []⟩).toOption.isNone := by
    decide +kernel
  rw [hreconcile] at herror
  cases herror

def startedText : List Char := "\x7b\"event\":\"case_started\"\x7d".toList

def startedLine : List Char := startedText ++ ['\n']

/-- A complete event, what follows it, and a poll. -/
def followedBy (padding : Bytes) : List Activity :=
  [.write (startedLine.flatMap String.utf8EncodeChar), .write padding, .poll]

theorem startedLine_read : ∃ event, completeEvents jsonLoads.ofBytes
    (startedLine.flatMap String.utf8EncodeChar) = [event] := by
  have hread : (jsonLoads.ofText startedText).isSome := by decide +kernel
  have hplain : startedText.all (fun c => c != '\n' && c != '\r') = true := by decide
  obtain ⟨event, hevent⟩ := Option.isSome_iff_exists.mp hread
  exact ⟨event, completeEvents_line hplain (by decide) hevent⟩

theorem followedBy_local (padding : Bytes) : ∃ state,
    forwarded (localForwarder jsonLoads.ofBytes SentEvents.reportEvent) ⟨[], []⟩
      (followedBy padding) = .ok state ∧ state.plane.sent ≠ [] := by
  obtain ⟨state, hstate, hsent⟩ :=
    ((localForwarder_polls sizeRefusal).run (followedBy padding)).1 trivial
  obtain ⟨event, hevent⟩ := startedLine_read
  have hseen : (written (followedBy padding)).2 =
      startedLine.flatMap String.utf8EncodeChar ++ padding := rfl
  refine ⟨state, hstate, ?_⟩
  rw [completeEvents] at hevent
  rw [hsent.reported, reportAll_sent, hseen, completeEvents,
    completeLines_resume newline_ne_carriageReturn, List.filterMap_append, hevent]
  exact List.cons_ne_nil _ _

theorem followedBy_kubernetes {padding : Bytes} (h : maxEventArchiveBytes ≤ padding.length) :
    forwarded (kubernetesForwarder jsonLoads.ofBytes SentEvents.reportEvent) ⟨[], []⟩
      (followedBy padding) = .error sizeRefusal := by
  refine (kubernetesForwarder_polls.run (followedBy padding)).2 ?_
  have hseen : (written (followedBy padding)).2 =
      startedLine.flatMap String.utf8EncodeChar ++ padding := rfl
  have hpos : 0 < (startedLine.flatMap String.utf8EncodeChar).length := by decide
  rw [hseen, List.length_append]
  omega

end TestOps.EventForwarding

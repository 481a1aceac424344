import TestOps.Lib.NumberedLog
import TestOps.Invariants.RunState

/-! The event log of a run. Two functions append to it, in six commands, and each of them holds the
    lock of the run row from the numbering of its event to its commit:

      appendRunEvent       create, status, runner event, result, cancel
      recoverRun           the reliability sweep

    Every append takes the next number of its run, so the log of a run is numbered and a reader can
    follow it through the last sequence number it has seen. -/

namespace TestOps

open Checked Relational Transition NumberedLog

variable {P : Primitives} {db db' : Database} {runId : UUID} {events events' : RunEventTable}

/-! ### Appending -/

/-- The log of every run carries the sequence numbers from 1 on. -/
def EventsNumbered (events : RunEventTable) : Prop :=
  ∀ runId, Numbered RunEventRecord.sequence (runLog events runId)

theorem Logged.rows_grow (h : Logged runId events events') : events.rows <+: events'.rows := by
  cases h with
  | kept => exact List.prefix_refl _
  | appended event _ _ _ hinsert =>
    rw [(Table.insert?_eq_some.mp hinsert).2]
    exact List.prefix_append _ _

theorem Logged.length_le (h : Logged runId events events') :
    events'.rows.length ≤ events.rows.length + 1 := by
  cases h with
  | kept => exact Nat.le_succ _
  | appended event _ _ _ hinsert =>
    rw [(Table.insert?_eq_some.mp hinsert).2, List.length_append, List.length_singleton]

/-- An appended event takes the next number of its run, and touches no other log. -/
theorem Logged.numbered (h : Logged runId events events') (hi : EventsNumbered events) :
    EventsNumbered events' := by
  cases h with
  | kept => exact hi
  | appended event hrun hsequence _ hinsert =>
    intro runId'
    rw [runLog, (Table.insert?_eq_some.mp hinsert).2, List.filter_append]
    by_cases hsame : event.runId = runId'
    · rw [List.filter_singleton, decide_eq_true hsame, cond_true]
      refine (hi runId').concat ?_
      rw [hsequence, nextSequence, ← hrun, hsame]
      exact congrArg (· + 1) (hi runId').foldl_max
    · rw [List.filter_singleton, decide_eq_false hsame, cond_false, List.append_nil]
      exact hi runId'

/-- Every write appends at most one event. -/
theorem logged_write {effect : Effect} (h : Write P effect db db') :
    ∃ runId, Logged runId db.runEvents db'.runEvents := by
  cases h with
  | runQueued plan runs runEvents _ _ _ _ _ _ _ hlogged => exact ⟨_, hlogged⟩
  | runStarted now runId target run runEvents _ _ _ hlogged => exact ⟨_, hlogged⟩
  | eventRecorded runId run runEvents runCase status _ _ _ _ hlogged => exact ⟨_, hlogged⟩
  | eventLogged runId runEvents hlogged => exact ⟨_, hlogged⟩
  | resultRecorded now runId result run _ _ runEvents _ _ _ _ _ _ hlogged => exact ⟨_, hlogged⟩
  | runCanceled now runId run _ _ runEvents _ _ _ _ _ _ hlogged => exact ⟨_, hlogged⟩
  | cancelRequested now runId run _ runEvents _ _ _ _ _ hlogged => exact ⟨_, hlogged⟩
  | runRecovered moment run reason message runEvents _ _ _ hlogged => exact ⟨_, hlogged⟩
  | _ => exact ⟨0, .kept⟩

theorem eventsNumbered_step {s s' : State} {a : Action} (h : step P s a = .ok s')
    (hi : EventsNumbered s.db.runEvents) : EventsNumbered s'.db.runEvents :=
  (step_writes h).invariant (p := fun db => EventsNumbered db.runEvents)
    (fun _ _ _ _ hw => (logged_write hw).choose_spec.numbered) hi

/-- A step leaves the events that are stored where they are. -/
theorem rows_grow_step {s s' : State} {a : Action} (h : step P s a = .ok s') :
    s.db.runEvents.rows <+: s'.db.runEvents.rows :=
  (step_writes h).rel (r := fun db db' => db.runEvents.rows <+: db'.runEvents.rows)
    (fun _ => List.prefix_refl _) (fun _ _ _ => List.IsPrefix.trans)
    fun _ _ _ _ hw => (logged_write hw).choose_spec.rows_grow

theorem runLog_grows (h : events.rows <+: events'.rows) :
    runLog events runId <+: runLog events' runId := h.filter _

/-- No two events of a run share a dedupe key. -/
theorem runLog_keys_nodup : ((runLog events runId).map RunEventRecord.dedupeKey).Nodup := by
  refine List.Nodup.map_on ?_ (events.keysNodup.of_map.filter _)
  intro a ha b hb hkey
  obtain ⟨hmem, hrun⟩ := List.mem_filter.mp ha
  obtain ⟨hmem', hrun'⟩ := List.mem_filter.mp hb
  rw [decide_eq_true_eq] at hrun hrun'
  exact Table.eq_of_key_eq hmem hmem' (Prod.ext (hrun.trans hrun'.symm) hkey)

/-! ### Sending an event again -/

/-- The run and the event of a payload are stored. -/
def Recorded (P : Primitives) (runId : UUID) (payload : InternalRunEventCreate)
    (db : Database) : Prop :=
  (∃ run ∈ db.runs, run.id = runId) ∧ ∃ event ∈ db.runEvents, (event.runId, event.dedupeKey) =
    (runId, .runner (P.canonicalSha256 (.runEvent payload.toRunEventFields)))

/-- After an append some event is stored under the dedupe key. -/
theorem appendRunEvent_stored {dedupeKey : EventKey} {source : EventSource} {eventType : String}
    {occurredAt : Instant} {caseCode : Option String} {status : Option StatusValue} :
    ∃ event ∈ (appendRunEvent events runId dedupeKey source eventType occurredAt caseCode status).1,
      (event.runId, event.dedupeKey) = (runId, dedupeKey) := by
  rw [appendRunEvent]
  split
  · rename_i events' hinsert
    exact ⟨_, (Table.mem_insert? hinsert).mpr (.inr rfl), rfl⟩
  · rename_i htaken
    exact Table.insert?_eq_none.mp htaken

/-- An accepted event is stored. -/
theorem recordRunEvent_recorded {payload : InternalRunEventCreate}
    (h : recordRunEvent P runId payload db = .ok db') :
    payload.runId = runId ∧ Recorded P runId payload db' := by
  simp only [recordRunEvent, bind_eq_ok, ensure_eq_ok, lockedRun_eq_ok] at h
  obtain ⟨-, hid, run, hrun, h⟩ := h
  obtain ⟨hmem, hkey⟩ := Table.get?_eq_some.mp hrun
  refine ⟨hid, ?_⟩
  split at h
  · rename_i hstored
    simp only [pure_eq_ok] at h
    subst h
    obtain ⟨event, hevent⟩ := Option.isSome_iff_exists.mp hstored
    obtain ⟨hevent, hdedupe⟩ := Table.get?_eq_some.mp hevent
    exact ⟨⟨run, hmem, hkey⟩, event, hevent, hdedupe⟩
  · simp only [bind_eq_ok, ensure_eq_ok, pure_eq_ok] at h
    obtain ⟨-, -, -, -, rfl⟩ := h
    exact ⟨⟨run, hmem, hkey⟩, appendRunEvent_stored⟩

/-- Sending a stored event again changes nothing. -/
theorem Recorded.resend {payload : InternalRunEventCreate} (hid : payload.runId = runId)
    (h : Recorded P runId payload db) : recordRunEvent P runId payload db = .ok db := by
  obtain ⟨⟨run, hrun, hkey⟩, event, hevent, hdedupe⟩ := h
  have hstored : (db.runEvents.get? (runId, .runner (P.canonicalSha256
      (.runEvent payload.toRunEventFields)))).isSome := by
    rw [Table.get?_eq_some.mpr ⟨hevent, hdedupe⟩]
    rfl
  simp only [recordRunEvent, bind_eq_ok, ensure_eq_ok, lockedRun_eq_ok]
  refine ⟨(), hid, run, Table.get?_eq_some.mpr ⟨hrun, hkey⟩, ?_⟩
  rw [if_pos hstored]
  rfl

/-- What is recorded stays recorded. -/
theorem recorded_step {payload : InternalRunEventCreate} {s s' : State} {a : Action}
    (h : step P s a = .ok s') (hr : Recorded P runId payload s.db) :
    Recorded P runId payload s'.db := by
  obtain ⟨⟨run, hrun, hkey⟩, event, hevent, hdedupe⟩ := hr
  obtain ⟨run', hrun', hkey', -⟩ := follows_step h run hrun
  exact ⟨⟨run', hrun', hkey'.trans hkey⟩, event, (rows_grow_step h).subset hevent, hdedupe⟩

/-! ### Readers -/

/-- A client that follows the log of a run: what it has received, in how many polls. -/
structure EventReader where
  state : State
  received : List RunEventRecord
  polls : Nat

inductive ReaderAction where
  | act (action : Action)
  | poll (limit : Nat)

/-- The control plane moves on, or the client asks for what comes after the last event it has. -/
def readerStep (P : Primitives) (runId : UUID) (r : EventReader) :
    ReaderAction → Except ServiceError EventReader
  | .act action => do
    let state ← step P r.state action
    return { r with state := state }
  | .poll limit => do
    ensure (1 ≤ limit ∧ limit ≤ 500) .validationError
    let _ ← getRun r.state.db runId
    return { r with
      received := r.received ++ listRunEvents r.state.db.runEvents runId
        (cursor RunEventRecord.sequence r.received) limit
      polls := r.polls + 1 }

/-- The runs of the control plane with one client that reads along. -/
def eventReader (P : Primitives) (runId : UUID) : System EventReader ReaderAction :=
  machine (· = ⟨State.init, [], 0⟩) (readerStep P runId)

theorem listRunEvents_eq {afterSequence limit : Nat} :
    listRunEvents events runId afterSequence limit =
      readAfter RunEventRecord.sequence (runLog events runId) afterSequence limit := by
  rw [listRunEvents, readAfter, runLog, List.filter_filter]
  congr 2
  refine List.filter_congr fun event _ => ?_
  rw [Bool.decide_and, Bool.and_comm]

/-- The logs are numbered, and the client has received a beginning of the log of its run. -/
structure Following (runId : UUID) (r : EventReader) : Prop where
  numbered : EventsNumbered r.state.db.runEvents
  received : r.received <+: runLog r.state.db.runEvents runId

variable {r r' : EventReader}

/-- A step either lets the control plane move on, or brings the client forward in the log. -/
theorem readerStep_ok {a : ReaderAction} (h : readerStep P runId r a = .ok r') :
    (∃ action, step P r.state action = .ok r'.state ∧ r'.received = r.received ∧
      r'.polls = r.polls) ∨
    ∃ limit, 1 ≤ limit ∧ r'.state = r.state ∧ r'.polls = r.polls + 1 ∧
      r'.received = r.received ++ readAfter RunEventRecord.sequence
        (runLog r.state.db.runEvents runId) (cursor RunEventRecord.sequence r.received) limit := by
  cases a with
  | act action =>
    simp only [readerStep, bind_eq_ok, pure_eq_ok] at h
    obtain ⟨state, hstep, rfl⟩ := h
    exact .inl ⟨action, hstep, rfl, rfl⟩
  | poll limit =>
    simp only [readerStep, bind_eq_ok, ensure_eq_ok, pure_eq_ok] at h
    obtain ⟨-, hlimit, -, -, rfl⟩ := h
    exact .inr ⟨limit, hlimit.1, rfl, rfl, by rw [listRunEvents_eq]⟩

theorem following_step {a : ReaderAction} (h : readerStep P runId r a = .ok r')
    (hi : Following runId r) : Following runId r' := by
  rcases readerStep_ok h with ⟨action, hstep, hreceived, -⟩ | ⟨limit, -, hstate, -, hreceived⟩
  · refine ⟨eventsNumbered_step hstep hi.numbered, ?_⟩
    rw [hreceived]
    exact hi.received.trans (runLog_grows (rows_grow_step hstep))
  · refine ⟨hstate ▸ hi.numbered, ?_⟩
    rw [hreceived, (hi.numbered runId).poll hi.received, hstate]
    exact List.take_prefix _ _

theorem following_reachable (h : (eventReader P runId).Reachable r) : Following runId r := by
  refine h.invariant ?_ fun _ _ _ => following_step
  rintro r rfl
  exact ⟨fun _ => Numbered.nil, List.nil_prefix⟩

/-- After further polls the client has received as many further events of an earlier log. -/
theorem caughtUp_steps (hreach : (eventReader P runId).Reachable r)
    (hs : (eventReader P runId).Steps r r') :
    (runLog r.state.db.runEvents runId).take (r.received.length + (r'.polls - r.polls)) <+:
      r'.received := by
  have hinv : r.polls ≤ r'.polls ∧
      runLog r.state.db.runEvents runId <+: runLog r'.state.db.runEvents runId ∧
      (runLog r.state.db.runEvents runId).take (r.received.length + (r'.polls - r.polls)) <+:
        r'.received := by
    refine hs.preserves (p := fun r' => r.polls ≤ r'.polls ∧
      runLog r.state.db.runEvents runId <+: runLog r'.state.db.runEvents runId ∧
      (runLog r.state.db.runEvents runId).take (r.received.length + (r'.polls - r.polls)) <+:
        r'.received) hreach ?_ ?_
    · intro r₁ a r₂ hr₁ hstep hi
      obtain ⟨hpolls, hlog, hseen⟩ := hi
      have hfollowing := following_reachable hr₁
      rcases readerStep_ok hstep with
        ⟨action, hstep, hreceived, hsame⟩ | ⟨limit, hlimit, hstate, hone, hreceived⟩
      · rw [hsame, hreceived]
        exact ⟨hpolls, hlog.trans (runLog_grows (rows_grow_step hstep)), hseen⟩
      · rw [hreceived, (hfollowing.numbered runId).poll hfollowing.received, hone, hstate]
        refine ⟨by omega, hlog, ?_⟩
        rw [show r.received.length + (r₁.polls + 1 - r.polls) =
          r.received.length + (r₁.polls - r.polls) + 1 by omega]
        exact take_succ_grows hlog hfollowing.received hseen hlimit
    · refine ⟨le_refl _, List.prefix_refl _, ?_⟩
      rw [Nat.sub_self, Nat.add_zero, ← List.prefix_iff_eq_take.mp
        (following_reachable hreach).received]
  exact hinv.2.2

/-! ### The log of a run -/

/-- The events of a run are numbered from 1 without gap or repeat and have different dedupe keys. An
    accepted runner event adds at most one row, and sending it again, whatever happens in between,
    changes nothing. A client that polls after the last sequence number it has seen receives the
    events of the log once and in order, at least one more of them with every poll. -/
theorem run_event_log (hreach : (eventReader P runId).Reachable r) :
    (runLog r.state.db.runEvents runId).map RunEventRecord.sequence =
      List.range' 1 (runLog r.state.db.runEvents runId).length ∧
    ((runLog r.state.db.runEvents runId).map RunEventRecord.dedupeKey).Nodup ∧
    (∀ payload s', step P r.state (.recordRunEvent runId payload) = .ok s' →
      s'.db.runEvents.rows.length ≤ r.state.db.runEvents.rows.length + 1 ∧
      ∀ t, (controlPlane P).Steps s' t → step P t (.recordRunEvent runId payload) = .ok t) ∧
    r.received <+: runLog r.state.db.runEvents runId ∧
    ∀ r', (eventReader P runId).Steps r r' →
      (runLog r.state.db.runEvents runId).take (r.received.length + (r'.polls - r.polls)) <+:
        r'.received := by
  have hfollowing := following_reachable hreach
  refine ⟨hfollowing.numbered runId, runLog_keys_nodup, fun payload s' hstep => ?_,
    hfollowing.received, fun r' hs => caughtUp_steps hreach hs⟩
  simp only [step, Action.commit, bind_eq_ok, pure_eq_ok] at hstep
  obtain ⟨db, hcommit, rfl⟩ := hstep
  obtain ⟨runEvents, runCases, rfl, hlogged, -⟩ := recordRunEvent_ok hcommit
  refine ⟨hlogged.length_le, fun t hs => ?_⟩
  obtain ⟨hid, hrecorded⟩ := recordRunEvent_recorded hcommit
  have hstill : Recorded P runId payload t.db := by
    induction hs with
    | refl => exact hrecorded
    | tail _ hn ih =>
      obtain ⟨a, hn⟩ := hn
      exact recorded_step hn ih
  simp only [step, Action.commit, bind_eq_ok, pure_eq_ok]
  exact ⟨t.db, hstill.resend hid, rfl⟩

open Installation in
/-- A client of run 20 polls once while the run has logged two events. -/
theorem run_event_log_poll : ∃ r, (eventReader primitives 20).Reachable r ∧
    (runLog r.state.db.runEvents 20).map RunEventRecord.sequence = [1, 2] ∧
    r.received <+: runLog r.state.db.runEvents 20 ∧ r.received.length = 1 := by
  have hrun : Ends (readerStep primitives 20) ⟨State.init, [], 0⟩
      ((setUp ++ [queueRun, dispatchBatch, .updateRunStatus 0 20 .preparing none]).map .act ++
        [.poll 1])
      fun r => (runLog r.state.db.runEvents 20).length = 2 ∧ r.received.length = 1 := by
    decide +kernel
  obtain ⟨r, hr, hlength, hreceived⟩ := Ends.exists_reachable (S := eventReader primitives 20) hrun
    (fun _ _ _ _ hstep => hstep) rfl
  obtain ⟨hnumbers, -, -, hgrows, -⟩ := run_event_log hr
  exact ⟨r, hr, by rw [hnumbers, hlength]; rfl, hgrows, hreceived⟩

end TestOps

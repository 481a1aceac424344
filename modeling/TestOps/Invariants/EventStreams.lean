import TestOps.ControlPlane.EventStream
import TestOps.Invariants.EventLog
import TestOps.Lib.Delimited

/-! What a live stream sends. The events come in the order of the log and none is left out in between,
    and the browser calls `onEvent` once for each of them. The end is the weak point: the events and
    the run are read by two queries, and a transaction between them is not seen by the first:

      readEvents   no event after the cursor
      result       recorded with its event, the run is terminal
      readStatus   terminal: the stream ends without that event

    Where no transaction ends the run between the two queries, the stream is complete. -/

namespace TestOps

open Checked Relational Transition NumberedLog

variable {P : Primitives} {db db' : Database}
  {eventResponse : RunEventRecord → List (String × Json)} {stream : EventStream}
  {event : RunEventRecord}

/-! ### The text of an event -/

/-- A block that the browser finds again in a stream. -/
structure ReadableBlock (block : List Char) : Prop where
  closed : Blocks.Closed '\n' block
  noReturn : '\r' ∉ block
  noMark : block.head? ≠ some '\uFEFF'

theorem printable_line {line : List Char} (h : ∀ c ∈ line, Json.Printable c) :
    '\n' ∉ line ∧ '\r' ∉ line :=
  ⟨fun hmem => absurd (h _ hmem) (by decide), fun hmem => absurd (h _ hmem) (by decide)⟩

theorem toString_line (n : Nat) : '\n' ∉ (toString n).toList ∧ '\r' ∉ (toString n).toList := by
  have hdigits : ∀ c ∈ (toString n).toList, c.isDigit = true := by
    intro c hmem
    refine Nat.isDigit_of_mem_toDigits (b := 10) (n := n) (by decide) (by decide) ?_
    simpa [toString, Nat.repr] using hmem
  exact ⟨fun hmem => absurd (hdigits _ hmem) (by decide),
    fun hmem => absurd (hdigits _ hmem) (by decide)⟩

/-- A field with a value is a line. -/
theorem field_line {name value : List Char} (hname : name ≠ [] ∧ '\n' ∉ name ∧ '\r' ∉ name)
    (hvalue : '\n' ∉ value ∧ '\r' ∉ value) :
    name ++ value ≠ [] ∧ '\n' ∉ name ++ value ∧ '\r' ∉ name ++ value := by
  obtain ⟨hne, hend, hreturn⟩ := hname
  refine ⟨List.append_ne_nil_of_left_ne_nil hne _, fun hmem => ?_, fun hmem => ?_⟩
  · exact (List.mem_append.mp hmem).elim hend hvalue.1
  · exact (List.mem_append.mp hmem).elim hreturn hvalue.2

theorem sseLines_lines (hline : IsLine event.eventType) :
    ∀ line ∈ sseLines eventResponse event, line ≠ [] ∧ '\n' ∉ line ∧ '\r' ∉ line := by
  refine List.forall_mem_cons.mpr ⟨?_, List.forall_mem_cons.mpr ⟨?_,
    List.forall_mem_singleton.mpr ?_⟩⟩
  · exact field_line (by decide) (toString_line _)
  · exact field_line (by decide) hline
  · exact field_line (by decide) (printable_line (Json.render_printable _))

theorem sseLines_ne_nil : sseLines eventResponse event ≠ [] := List.cons_ne_nil _ _

theorem sseBlock_readable (hline : IsLine event.eventType) :
    ReadableBlock (sseBlock (sseLines eventResponse event)) := by
  have hlines := @sseLines_lines eventResponse _ hline
  refine ⟨?_, ?_, ?_⟩
  · rw [Blocks.Closed, sseBlock, ← Framing.close_eq_intercalate sseLines_ne_nil]
    exact Blocks.closed_lines fun line hmem => ⟨(hlines line hmem).1, (hlines line hmem).2.1⟩
  · have hclose : '\r' ∉ Framing.close '\n' (sseLines eventResponse event) := by
      intro hmem
      obtain ⟨line, hline, hmem⟩ := List.mem_flatMap.mp hmem
      rcases List.mem_append.mp hmem with hmem | hmem
      · exact (hlines line hline).2.2 hmem
      · exact absurd (List.mem_singleton.mp hmem) (by decide)
    rw [Framing.close_eq_intercalate sseLines_ne_nil] at hclose
    exact fun hmem => hclose (List.mem_append_left _ hmem)
  · exact fun h => absurd (Option.some.inj h) (by decide)

/-- The browser calls `onEvent` with the response model of the event. -/
theorem dispatch_sseBlock (hline : IsLine event.eventType) :
    dispatch (sseBlock (sseLines eventResponse event)) =
      some [.object (eventResponse event)] := by
  have hlines := @sseLines_lines eventResponse _ hline
  have hsplit : (sseBlock (sseLines eventResponse event)).splitOn '\n' =
      sseLines eventResponse event :=
    List.splitOn_intercalate '\n' (fun line hmem => (hlines line hmem).2.1) sseLines_ne_nil
  have hdata : blockData (sseBlock (sseLines eventResponse event)) =
      Json.render (.object (eventResponse event)) := by
    obtain ⟨text, htext⟩ : ∃ text, Json.render (.object (eventResponse event)) = '{' :: text := by
      cases eventResponse event <;> exact ⟨_, rfl⟩
    have hfields : "id: ".toList = ['i', 'd', ':', ' '] ∧
        "event: ".toList = ['e', 'v', 'e', 'n', 't', ':', ' '] ∧
        "data: ".toList = ['d', 'a', 't', 'a', ':', ' '] ∧
        dataField = ['d', 'a', 't', 'a', ':'] := by
      decide
    obtain ⟨hid, hevent, hfield, hdataField⟩ := hfields
    have hother : ∀ value, dataField.isPrefixOf ("id: ".toList ++ value) = false ∧
        dataField.isPrefixOf ("event: ".toList ++ value) = false := by
      intro value
      rw [hid, hevent, hdataField]
      exact ⟨rfl, rfl⟩
    have hdata : dataField.isPrefixOf ("data: ".toList ++ '{' :: text) = true := by
      rw [hfield, hdataField]
      rfl
    have htrim : (' ' :: '{' :: text).dropWhile isTrimmed = '{' :: text := by
      rw [List.dropWhile_cons_of_pos (by decide), List.dropWhile_cons_of_neg (by decide)]
    rw [blockData, hsplit, sseLines, htext, List.filter_cons_of_neg (by rw [(hother _).1]; decide),
      List.filter_cons_of_neg (by rw [(hother _).2]; decide), List.filter_cons_of_pos hdata, hfield]
    simpa using htrim
  have hne : Json.render (.object (eventResponse event)) ≠ [] := by
    cases eventResponse event <;> exact List.cons_ne_nil _ _
  rw [dispatch, hdata, if_neg hne, Json.parse_render]
  rfl

theorem keepAlive_readable : ReadableBlock ": keep-alive".toList :=
  ⟨by rw [Blocks.Closed]; decide, by decide, by decide⟩

theorem dispatch_keepAlive : dispatch ": keep-alive".toList = some [] := by
  rw [dispatch, if_pos (by decide)]

/-- Every stored event has a type that is one line. -/
def EventsAreLines (events : RunEventTable) : Prop :=
  ∀ event ∈ events.rows, IsLine event.eventType

theorem Logged.lines {runId : UUID} {events events' : RunEventTable}
    (h : Logged runId events events') (hi : EventsAreLines events) : EventsAreLines events' := by
  cases h with
  | kept => exact hi
  | appended event _ _ hline hinsert =>
    rw [EventsAreLines, (Table.insert?_eq_some.mp hinsert).2]
    exact List.forall_mem_append.mpr ⟨hi, List.forall_mem_singleton.mpr hline⟩

theorem eventsAreLines_step {s s' : State} {a : Action} (h : step P s a = .ok s')
    (hi : EventsAreLines s.db.runEvents) : EventsAreLines s'.db.runEvents :=
  (step_writes h).invariant (p := fun db => EventsAreLines db.runEvents)
    (fun _ _ _ _ hw => (logged_write hw).choose_spec.lines) hi

/-! ### What has been sent -/

/-- The text consists of readable blocks whose calls are the yielded events. -/
def Conveys (eventResponse : RunEventRecord → List (String × Json)) (text : List Char)
    (yielded : List RunEventRecord) : Prop :=
  ∃ blocks, text = Blocks.stream '\n' blocks ∧ (∀ block ∈ blocks, ReadableBlock block) ∧
    dispatchAll blocks = some (yielded.map fun event => .object (eventResponse event))

theorem Conveys.nil : Conveys eventResponse [] [] :=
  ⟨[], rfl, List.forall_mem_nil _, rfl⟩

theorem Conveys.append {text text' : List Char} {yielded yielded' : List RunEventRecord}
    (h : Conveys eventResponse text yielded) (h' : Conveys eventResponse text' yielded') :
    Conveys eventResponse (text ++ text') (yielded ++ yielded') := by
  obtain ⟨blocks, rfl, hreadable, hcalls⟩ := h
  obtain ⟨blocks', rfl, hreadable', hcalls'⟩ := h'
  refine ⟨blocks ++ blocks', List.flatMap_append.symm,
    List.forall_mem_append.mpr ⟨hreadable, hreadable'⟩, ?_⟩
  rw [dispatchAll_append, hcalls, hcalls', List.map_append]
  rfl

theorem conveys_block {block : List Char} {yielded : List RunEventRecord} (h : ReadableBlock block)
    (hcalls : dispatch block = some (yielded.map fun event => .object (eventResponse event))) :
    Conveys eventResponse (block ++ ['\n', '\n']) yielded := by
  refine ⟨[block], by simp [Blocks.stream], List.forall_mem_singleton.mpr h, ?_⟩
  rw [dispatchAll, hcalls]
  simp [dispatchAll]

theorem conveys_keepAlive : Conveys eventResponse keepAlive [] :=
  conveys_block keepAlive_readable dispatch_keepAlive

theorem Conveys.heartbeat {due : Bool} {text : List Char} {yielded : List RunEventRecord}
    (h : Conveys eventResponse text yielded) :
    Conveys eventResponse (text ++ if due then keepAlive else []) yielded := by
  cases due with
  | true => exact List.append_nil yielded ▸ h.append conveys_keepAlive
  | false => exact (List.append_nil text).symm ▸ h

theorem conveys_batch {batch : List RunEventRecord}
    (h : ∀ event ∈ batch, IsLine event.eventType) :
    Conveys eventResponse (batch.flatMap (sseEvent eventResponse)) batch := by
  induction batch with
  | nil => exact Conveys.nil
  | cons event batch ih =>
    obtain ⟨hline, hbatch⟩ := List.forall_mem_cons.mp h
    have hevent : Conveys eventResponse (sseEvent eventResponse event) [event] :=
      conveys_block (sseBlock_readable hline) (dispatch_sseBlock hline)
    exact hevent.append (ih hbatch)

/-- However the bytes of the text are cut into chunks, `onEvent` is called for the yielded events. -/
theorem Conveys.streamRunEvents {text : List Char} {yielded : List RunEventRecord}
    {chunks : List (List UInt8)} (h : Conveys eventResponse text yielded)
    (hchunks : chunks.flatten = text.flatMap String.utf8EncodeChar) :
    streamRunEvents chunks = some (yielded.map fun event => .object (eventResponse event)) := by
  obtain ⟨blocks, rfl, hreadable, hcalls⟩ := h
  rw [streamRunEvents_eq ?_ ?_ (fun block hmem => (hreadable block hmem).closed) hchunks, hcalls]
  · intro hmem
    obtain ⟨block, hblock, hmem⟩ := List.mem_flatMap.mp hmem
    rcases List.mem_append.mp hmem with hmem | hmem
    · exact (hreadable block hblock).noReturn hmem
    · exact absurd hmem (by decide)
  · cases blocks with
    | nil => exact fun h => by cases h
    | cons block blocks =>
      have hmark := (hreadable block List.mem_cons_self).noMark
      rw [Blocks.stream, List.flatMap_cons]
      cases block with
      | nil => exact fun h => absurd (Option.some.inj h) (by decide)
      | cons c block => exact hmark

/-! ### The place in the log -/

/-- The stream has read that nothing comes after its cursor, and not yet the run. -/
def EventStream.AwaitsStatus (stream : EventStream) : Prop :=
  ∃ batch ∈ stream.batch, batch.isEmpty = true

instance (stream : EventStream) : Decidable stream.AwaitsStatus :=
  inferInstanceAs (Decidable (∃ batch ∈ stream.batch, batch.isEmpty = true))

/-- All events of a closed log after the first one asked for have been sent. -/
def EventStream.Settled (stream : EventStream) : Prop :=
  ∀ log ∈ stream.closing, log.drop stream.initialSequence <+: stream.yielded

/-- What holds of a stream between any two steps. -/
structure StreamSound (eventResponse : RunEventRecord → List (String × Json)) (db : Database)
    (stream : EventStream) : Prop where
  received : stream.yielded ++ stream.batch.getD [] <+:
    (runLog db.runEvents stream.runId).drop stream.initialSequence
  cursor : stream.currentSequence = stream.initialSequence + stream.yielded.length
  text : Conveys eventResponse stream.text stream.yielded
  closing : ∀ log ∈ stream.closing, log <+: runLog db.runEvents stream.runId
  live : stream.closing = none → ¬RunTerminal db stream.runId
  settled : stream.AwaitsStatus → stream.Settled
  ended : stream.ended = true → stream.follow = true →
    stream.closing.isSome = true ∧ stream.Settled

/-- A closed log without an event after the cursor has been sent. -/
theorem StreamSound.settles {log : List RunEventRecord} (h : StreamSound eventResponse db stream)
    (hgrows : log <+: runLog db'.runEvents stream.runId)
    (hlog : runLog db.runEvents stream.runId <+: runLog db'.runEvents stream.runId)
    (hend : log.length ≤ stream.currentSequence) :
    log.drop stream.initialSequence <+: stream.yielded := by
  have hyielded : stream.yielded <+: (runLog db'.runEvents stream.runId).drop stream.initialSequence :=
    ((List.prefix_append _ _).trans h.received).trans (hlog.drop _)
  refine List.prefix_of_prefix_length_le (hgrows.drop _) hyielded ?_
  rw [List.length_drop, h.cursor] at *
  omega

/-- The control plane moves on. If that ends the run while the stream awaits its status, no event
    may be left behind. -/
theorem StreamSound.observe (h : StreamSound eventResponse db stream)
    (hlog : runLog db.runEvents stream.runId <+: runLog db'.runEvents stream.runId)
    (hguard : stream.AwaitsStatus → ¬RunTerminal db stream.runId → RunTerminal db' stream.runId →
      (runLog db'.runEvents stream.runId).length ≤ stream.currentSequence) :
    StreamSound eventResponse db' (stream.observe db') := by
  cases hclosing : stream.closing with
  | some log =>
    have hsame : stream.observe db' = stream := by
      rw [EventStream.observe, hclosing, Option.some_or, ← hclosing]
    rw [hsame]
    exact ⟨h.received.trans (hlog.drop _), h.cursor, h.text,
      fun log hmem => (h.closing log hmem).trans hlog,
      fun hnone => absurd (hclosing.symm.trans hnone) (Option.some_ne_none log), h.settled, h.ended⟩
  | none =>
    have hobserve : (stream.observe db').closing = closedLog db' stream.runId := by
      rw [EventStream.observe, hclosing, Option.none_or]
    have hterminal : ∀ log ∈ closedLog db' stream.runId, RunTerminal db' stream.runId ∧
        log = runLog db'.runEvents stream.runId := by
      intro log hmem
      rw [closedLog] at hmem
      split at hmem
      · rename_i hterminal
        exact ⟨hterminal, (Option.some.inj hmem).symm⟩
      · cases hmem
    refine ⟨h.received.trans (hlog.drop _), h.cursor, h.text, ?_, ?_, ?_, ?_⟩
    · rw [hobserve]
      intro log hmem
      rw [(hterminal log hmem).2]
      exact List.prefix_refl _
    · rw [hobserve, closedLog]
      intro hnone hended
      rw [if_pos (show RunTerminal db' stream.runId from hended)] at hnone
      cases hnone
    · intro hawaits log hmem
      rw [hobserve] at hmem
      obtain ⟨hended, rfl⟩ := hterminal log hmem
      exact h.settles (List.prefix_refl _) hlog (hguard hawaits (h.live hclosing) hended)
    · intro hended hfollow
      have hclosed := (h.ended hended hfollow).1
      rw [hclosing] at hclosed
      cases hclosed

/-- The stream reads its next events. -/
theorem StreamSound.readEvents (h : StreamSound eventResponse db stream)
    (hnumbered : EventsNumbered db.runEvents) (hrunning : stream.ended = false) :
    StreamSound eventResponse db { stream with
      batch := some (listRunEvents db.runEvents stream.runId stream.currentSequence 200) } := by
  have hread : listRunEvents db.runEvents stream.runId stream.currentSequence 200 =
      (((runLog db.runEvents stream.runId).drop stream.initialSequence).drop
        stream.yielded.length).take 200 := by
    rw [listRunEvents_eq, (hnumbered stream.runId).readAfter, List.drop_drop, h.cursor]
  have hyielded : stream.yielded <+:
      (runLog db.runEvents stream.runId).drop stream.initialSequence :=
    (List.prefix_append _ _).trans h.received
  refine ⟨?_, h.cursor, h.text, h.closing, h.live, ?_, fun hended => ?_⟩
  · rw [Option.getD_some, hread]
    conv_lhs => rw [List.prefix_iff_eq_take.mp hyielded]
    rw [List.length_take, min_eq_left hyielded.length_le, ← List.take_add]
    exact List.take_prefix _ _
  · rintro ⟨batch, hmem, hempty⟩ log hlog
    obtain rfl := Option.some.inj hmem
    have hend : (runLog db.runEvents stream.runId).length ≤ stream.currentSequence := by
      have hnil := List.isEmpty_iff.mp hempty
      rw [hread, List.take_eq_nil_iff, List.drop_drop, List.drop_eq_nil_iff, ← h.cursor] at hnil
      exact hnil.resolve_left (by decide)
    have hgrows := h.closing log hlog
    exact h.settles hgrows (List.prefix_refl _) (hgrows.length_le.trans hend)
  · rw [hrunning] at hended
    cases hended

/-- The stream ends a round. -/
theorem StreamSound.finishRound {batch : List RunEventRecord} {run : TestRunRecord}
    {heartbeat : Bool} (h : StreamSound eventResponse db stream)
    (hnumbered : EventsNumbered db.runEvents) (hlines : EventsAreLines db.runEvents)
    (hbatch : stream.batch = some batch) (hrun : db.runs.get? stream.runId = some run) :
    StreamSound eventResponse db
      (stream.finishRound eventResponse batch run.status.isTerminal heartbeat) := by
  have hreceived : stream.yielded ++ batch <+:
      (runLog db.runEvents stream.runId).drop stream.initialSequence := by
    have hreceived := h.received
    rwa [hbatch, Option.getD_some] at hreceived
  have hstored : ∀ event ∈ batch, event ∈ db.runEvents.rows := fun event hmem =>
    List.mem_of_mem_filter (List.mem_of_mem_drop
      (hreceived.subset (List.mem_append_right _ hmem)))
  refine ⟨?_, ?_, ?_, h.closing, h.live, ?_, ?_⟩
  · exact (List.append_nil (stream.yielded ++ batch)).symm ▸ hreceived
  · change (batch.getLast?.map RunEventRecord.sequence).getD stream.currentSequence =
      stream.initialSequence + (stream.yielded ++ batch).length
    rcases List.eq_nil_or_concat batch with rfl | ⟨front, last, rfl⟩
    · rw [List.append_nil]
      exact h.cursor
    · rw [List.concat_eq_append, ← List.append_assoc] at hreceived
      rw [List.concat_eq_append, List.getLast?_concat, Option.map_some, Option.getD_some,
        (hnumbered stream.runId).number_last hreceived]
      simp only [List.length_append, List.length_singleton]
      omega
  · have hsent := h.text.append (conveys_batch fun event hmem => hlines event (hstored event hmem))
    exact hsent.heartbeat
  · rintro ⟨batch, hmem, -⟩
    cases hmem
  · intro hended hfollow
    have hlast : batch.isEmpty = true ∧ run.status.isTerminal = true := by
      change (!stream.follow || (batch.isEmpty && run.status.isTerminal)) = true at hended
      rw [show stream.follow = true from hfollow] at hended
      simpa using hended
    obtain rfl := List.isEmpty_iff.mp hlast.1
    have hsettled := h.settled ⟨[], hbatch, rfl⟩
    refine ⟨?_, fun log hmem => (hsettled log hmem).trans (List.prefix_append _ _)⟩
    by_contra hopen
    exact h.live (Option.not_isSome_iff_eq_none.mp hopen) ⟨run, hrun, hlast.2⟩

/-! ### Runs -/

/-- The transaction ends the run between the two queries of a round, and an event of the run is left
    behind. -/
def ClosesInRound (P : Primitives) (s : StreamState) : StreamAction → Prop
  | .act action => ∃ stream ∈ s.stream, stream.AwaitsStatus ∧
      ¬RunTerminal s.service.db stream.runId ∧
      ∃ after ∈ (step P s.service action).toOption, RunTerminal after.db stream.runId ∧
        ∃ event ∈ runLog after.db.runEvents stream.runId,
          stream.currentSequence < event.sequence
  | _ => False

instance (s : StreamState) (a : StreamAction) : Decidable (ClosesInRound P s a) := by
  cases a <;> unfold ClosesInRound <;> infer_instance

/-- What holds between any two steps of the whole system. -/
structure StreamsSound (eventResponse : RunEventRecord → List (String × Json))
    (s : StreamState) : Prop where
  numbered : EventsNumbered s.service.db.runEvents
  lines : EventsAreLines s.service.db.runEvents
  stream : ∀ stream ∈ s.stream, StreamSound eventResponse s.service.db stream

theorem streamsSound_step {s s' : StreamState} {a : StreamAction}
    (h : streamStep P eventResponse s a = .ok s') (hguard : ¬ClosesInRound P s a)
    (hi : StreamsSound eventResponse s) : StreamsSound eventResponse s' := by
  cases a with
  | act action =>
    simp only [streamStep, bind_eq_ok, pure_eq_ok] at h
    obtain ⟨service, hstep, rfl⟩ := h
    have hnumbered := eventsNumbered_step hstep hi.numbered
    refine ⟨hnumbered, eventsAreLines_step hstep hi.lines, fun stream hmem => ?_⟩
    obtain ⟨before, hbefore, rfl⟩ := Option.map_eq_some_iff.mp hmem
    refine (hi.stream before hbefore).observe (runLog_grows (rows_grow_step hstep))
      fun hawaits hlive hended => ?_
    by_contra hle
    have hbehind : before.currentSequence < (runLog service.db.runEvents before.runId).length :=
      Nat.lt_of_not_le hle
    refine hguard ⟨before, hbefore, hawaits, hlive, service, by rw [hstep]; rfl, hended, ?_⟩
    have hlast : (runLog service.db.runEvents before.runId).length - 1 <
        (runLog service.db.runEvents before.runId).length := by omega
    refine ⟨_, List.getElem_mem hlast, ?_⟩
    rw [(hnumbered before.runId).number_getElem hlast]
    omega
  | openStream runId afterSequence lastEventId follow =>
    simp only [streamStep, bind_eq_ok, ensure_eq_ok, pure_eq_ok] at h
    obtain ⟨-, -, -, -, rfl⟩ := h
    refine ⟨hi.numbered, hi.lines, fun stream hmem => ?_⟩
    obtain rfl := Option.some.inj hmem
    refine ⟨List.nil_prefix, rfl, Conveys.nil, ?_, ?_, ?_, ?_⟩
    · intro log hmem
      rw [closedLog] at hmem
      split at hmem
      · exact Option.some.inj hmem ▸ List.prefix_refl _
      · cases hmem
    · intro hnone hended
      rw [closedLog, if_pos (show RunTerminal s.service.db runId from hended)] at hnone
      cases hnone
    · rintro ⟨batch, hmem, -⟩
      cases hmem
    · intro hended
      cases hended
  | readEvents =>
    simp only [streamStep, bind_eq_ok, found_eq_ok, ensure_eq_ok, pure_eq_ok] at h
    obtain ⟨stream, hstream, -, ⟨hrunning, -⟩, rfl⟩ := h
    refine ⟨hi.numbered, hi.lines, fun stream' hmem => ?_⟩
    obtain rfl := Option.some.inj hmem
    exact (hi.stream stream hstream).readEvents hi.numbered hrunning
  | readStatus heartbeat =>
    simp only [streamStep, bind_eq_ok, found_eq_ok, getRun_eq_ok, pure_eq_ok] at h
    obtain ⟨stream, hstream, batch, hbatch, run, hrun, rfl⟩ := h
    refine ⟨hi.numbered, hi.lines, fun stream' hmem => ?_⟩
    obtain rfl := Option.some.inj hmem
    exact (hi.stream stream hstream).finishRound hi.numbered hi.lines hbatch hrun

theorem streamsSound_reachable {s : StreamState}
    (h : ((eventStream P eventResponse).restrict fun s a => ¬ClosesInRound P s a).Reachable s) :
    StreamsSound eventResponse s := by
  refine h.invariant (p := StreamsSound eventResponse) ?_ ?_
  · rintro s rfl
    exact ⟨fun _ => Numbered.nil, List.forall_mem_nil _, fun _ hmem => by cases hmem⟩
  · exact fun _ _ _ hstep => streamsSound_step hstep.2 hstep.1

/-! ### The live stream -/

/-- As long as no transaction ends the run between the two queries of a round and leaves an event
    behind, the stream yields events of the log in strictly increasing sequence and above the cursor
    it was opened with, a stream that follows has yielded every event of the closed log above that
    cursor when it ends, and `onEvent` is called for exactly the yielded events in their order,
    however the bytes are cut into chunks. -/
theorem live_stream_complete {s : StreamState}
    (h : ((eventStream P eventResponse).restrict fun s a => ¬ClosesInRound P s a).Reachable s)
    (hstream : s.stream = some stream) :
    (stream.yielded.map RunEventRecord.sequence).Pairwise (· < ·) ∧
    (∀ event ∈ stream.yielded, stream.initialSequence < event.sequence ∧
      event ∈ runLog s.service.db.runEvents stream.runId) ∧
    (stream.ended = true → stream.follow = true → ∃ log, stream.closing = some log ∧
      ∀ event ∈ log, stream.initialSequence < event.sequence → event ∈ stream.yielded) ∧
    ∀ chunks : List (List UInt8), chunks.flatten = stream.text.flatMap String.utf8EncodeChar →
      streamRunEvents chunks =
        some (stream.yielded.map fun event => .object (eventResponse event)) := by
  have hsound := streamsSound_reachable h
  have hi := hsound.stream stream hstream
  have hnumbered := hsound.numbered stream.runId
  have hyielded : stream.yielded <+:
      (runLog s.service.db.runEvents stream.runId).drop stream.initialSequence :=
    (List.prefix_append _ _).trans hi.received
  refine ⟨?_, fun event hmem => ?_, fun hended hfollow => ?_,
    fun chunks hchunks => hi.text.streamRunEvents hchunks⟩
  · exact hnumbered.pairwise_lt.sublist
      ((hyielded.sublist.trans (List.drop_sublist _ _)).map _)
  · exact (hnumbered.mem_drop.mp (hyielded.subset hmem)).symm
  · obtain ⟨hclosed, hsettled⟩ := hi.ended hended hfollow
    obtain ⟨log, hlog⟩ := Option.isSome_iff_exists.mp hclosed
    refine ⟨log, hlog, fun event hmem hafter => (hsettled log hlog).subset ?_⟩
    have hlogged := hi.closing log hlog
    rw [List.prefix_iff_eq_take.mp hlogged] at hmem ⊢
    exact (hnumbered.take _).mem_drop.mpr ⟨hmem, hafter⟩

open Installation in
/-- A stream of run 20 that is open while the run passes. -/
theorem live_stream_complete_passed : ∃ s stream,
    ((eventStream primitives fun _ => []).restrict fun s a =>
      ¬ClosesInRound primitives s a).Reachable s ∧ s.stream = some stream ∧
    stream.ended = true ∧ stream.yielded.length = 4 ∧
    (stream.yielded.map RunEventRecord.sequence).Pairwise (· < ·) := by
  have hrun : Ends (guarded (streamStep primitives fun _ => [])
      (fun s a => ¬ClosesInRound primitives s a) .validationError) StreamState.init
      ((setUp ++ [queueRun, dispatchBatch, .updateRunStatus 0 20 .preparing (some "worker"),
        .updateRunStatus 0 20 .running none]).map .act ++
        [.openStream 20 0 none true, .readEvents, .readStatus false, .act (.recordRunResult 1 20
          (passed 20 [caseResult caseA .passed, caseResult caseB .passed])),
        .readEvents, .readStatus true, .readEvents, .readStatus false])
      fun s => ∃ stream ∈ s.stream, stream.ended = true ∧ stream.yielded.length = 4 := by
    decide +kernel
  obtain ⟨s, hs, stream, hstream, hended, hlength⟩ := hrun.exists_guarded
  exact ⟨s, stream, hs, hstream, hended, hlength, (live_stream_complete hs hstream).1⟩

open Installation in
/-- The result of run 20 is recorded between the two queries of a round: the stream ends, and its
    `result_recorded` event has not been sent. -/
theorem result_event_lost : ∃ s stream log event, (eventStream primitives fun _ => []).Reachable s ∧
    s.stream = some stream ∧ stream.follow = true ∧ stream.ended = true ∧
    stream.closing = some log ∧ event ∈ log ∧ event.eventType = "result_recorded" ∧
    stream.initialSequence < event.sequence ∧ event ∉ stream.yielded := by
  have hrun : Ends (streamStep primitives fun _ => []) StreamState.init
      ((setUp ++ [queueRun, dispatchBatch, .updateRunStatus 0 20 .preparing (some "worker"),
        .updateRunStatus 0 20 .running none]).map .act ++
        [.openStream 20 3 none true, .readEvents, .act (.recordRunResult 1 20
          (passed 20 [caseResult caseA .passed, caseResult caseB .passed])), .readStatus false])
      fun s => ∃ stream ∈ s.stream, stream.follow = true ∧ stream.ended = true ∧
        stream.yielded.length = 0 ∧ ∃ log ∈ stream.closing, ∃ event ∈ log,
          event.eventType = "result_recorded" ∧ stream.initialSequence < event.sequence := by
    decide +kernel
  obtain ⟨s, hs, stream, hstream, hfollow, hended, hlength, log, hlog, event, hmem, htype,
    hafter⟩ := Ends.exists_reachable (S := eventStream primitives fun _ => []) hrun
      (fun _ _ _ _ hstep => hstep) rfl
  refine ⟨s, stream, log, event, hs, hstream, hfollow, hended, hlog, hmem, htype, hafter, ?_⟩
  rw [List.length_eq_zero_iff.mp hlength]
  exact List.not_mem_nil

end TestOps

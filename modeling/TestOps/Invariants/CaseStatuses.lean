import TestOps.ControlPlane.System
import TestOps.Invariants.EventLog

/-! The case statuses of a live run, against the order in which the events of its runner arrive. An
    event counts when it is delivered for the first time, and the row of its case then takes the
    status it reports:

      logged      started   finished                     ──▸  PASSED
      delivered             finished   started           ──▸  RUNNING
                  (lost)               (sent again)

    So a row shows what the event of its case reports that was delivered for the first time last. -/

namespace TestOps

open Checked Relational

variable {P : Primitives} {db db' : Database} {runId : UUID} {payload : InternalRunEventCreate}
  {payloads log deliveries : List InternalRunEventCreate} {cases cases' : RunCaseTable}

/-! ### First deliveries -/

section Firsts

variable {α : Type} [DecidableEq α] {x y : α} {xs : List α}

/-- The elements in the order of their first occurrence. -/
def firsts : List α → List α
  | [] => []
  | x :: xs => x :: (firsts xs).filter (· ≠ x)

theorem mem_firsts : y ∈ firsts xs ↔ y ∈ xs := by
  induction xs with
  | nil => exact Iff.rfl
  | cons x xs ih =>
    rw [firsts, List.mem_cons, List.mem_filter, ih, List.mem_cons, decide_eq_true_eq]
    by_cases h : y = x <;> simp [h]

theorem firsts_concat : firsts (xs ++ [x]) = if x ∈ xs then firsts xs else firsts xs ++ [x] := by
  induction xs with
  | nil => simp [firsts]
  | cons y xs ih =>
    rw [List.cons_append, firsts, ih, firsts]
    by_cases hxy : x = y
    · subst hxy
      rw [if_pos List.mem_cons_self]
      split
      · rfl
      · rw [List.filter_append]
        simp
    · by_cases hx : x ∈ xs
      · rw [if_pos hx, if_pos (List.mem_cons_of_mem _ hx)]
      · rw [if_neg hx, if_neg (by simp [hxy, hx]), List.filter_append]
        simp [hxy]

end Firsts

/-! ### Deliveries -/

/-- Deliver an event; one that is rejected changes nothing. -/
def deliver (P : Primitives) (runId : UUID) (db : Database) (payload : InternalRunEventCreate) :
    Database :=
  match recordRunEvent P runId payload db with
  | .ok db' => db'
  | .error _ => db

def deliverAll (P : Primitives) (runId : UUID) (db : Database)
    (payloads : List InternalRunEventCreate) : Database :=
  payloads.foldl (deliver P runId) db

/-- The dedupe key of an event. -/
def eventKey (P : Primitives) (runId : UUID) (payload : InternalRunEventCreate) :
    UUID × EventKey :=
  (runId, .runner (P.canonicalSha256 (.runEvent payload.toRunEventFields)))

/-- Move the row of an event's case. -/
def showReport (runId : UUID) (cases : RunCaseTable) (payload : InternalRunEventCreate) :
    RunCaseTable :=
  moveRunCase cases (payload.caseCode.bind (runCaseByCode cases runId)) (caseStatusOf payload)

/-- The event is about cases of the run. -/
structure KnownCases (runId : UUID) (cases : RunCaseTable) (payload : InternalRunEventCreate) :
    Prop where
  case : payload.caseCode.isSome → (payload.caseCode.bind (runCaseByCode cases runId)).isSome
  current : ∀ code ∈ payload.currentCaseCode, (runCaseByCode cases runId code).isSome

/-- A case event names no current case. -/
theorem currentCaseCode_of_reports (h : caseStatusOf payload ≠ none) :
    payload.currentCaseCode = none := by
  have hevent : payload.event ≠ .progressUpdated := by
    intro hevent
    rw [caseStatusOf, hevent] at h
    exact h rfl
  have hshape := payload.accepted
  simp only [validateEventShape, bind_eq_ok, ensure_eq_ok, if_neg hevent] at hshape
  obtain ⟨-, -, -, -, -, -, -, -, -, hcurrent⟩ := hshape
  exact hcurrent

/-- An event about a case that the run does not have moves no row. -/
theorem showReport_unknown (h : ¬KnownCases runId cases payload) :
    showReport runId cases payload = cases := by
  rw [showReport]
  cases hcase : payload.caseCode.bind (runCaseByCode cases runId) with
  | none => rfl
  | some row =>
    cases hstatus : caseStatusOf payload with
    | none => rfl
    | some status =>
      refine absurd ⟨fun _ => by rw [hcase]; rfl, ?_⟩ h
      rw [currentCaseCode_of_reports (by rw [hstatus]; exact nofun)]
      exact nofun

/-- What one delivery does to the events and the cases of a live run. -/
structure Delivered (P : Primitives) (runId : UUID) (payload : InternalRunEventCreate)
    (db db' : Database) : Prop where
  runs : db'.runs = db.runs
  other : ∀ key, key ≠ eventKey P runId payload →
    (db'.runEvents.get? key).isSome = (db.runEvents.get? key).isSome
  stored : (db'.runEvents.get? (eventKey P runId payload)).isSome ↔
    (db.runEvents.get? (eventKey P runId payload)).isSome ∨
      KnownCases runId db.runCases payload
  runCases : db'.runCases =
    if (db.runEvents.get? (eventKey P runId payload)).isSome then db.runCases
    else showReport runId db.runCases payload

/-- The events after an append. -/
theorem appendRunEvent_isSome {events : RunEventTable} {dedupeKey : EventKey}
    {source : EventSource} {eventType : String} {occurredAt : Instant} {caseCode : Option String}
    {status : Option StatusValue} (key : UUID × EventKey) :
    ((appendRunEvent events runId dedupeKey source eventType occurredAt caseCode status).1.get?
      key).isSome = ((events.get? key).isSome || decide (key = (runId, dedupeKey))) := by
  rw [appendRunEvent]
  split
  · rename_i events' hinsert
    rw [Table.get?_insert? hinsert]
    by_cases hkey : key = (runId, dedupeKey)
    · rw [if_pos hkey, decide_eq_true hkey, Bool.or_true]
      rfl
    · rw [if_neg hkey, decide_eq_false hkey, Bool.or_false]
  · rename_i htaken
    by_cases hkey : key = (runId, dedupeKey)
    · obtain ⟨event, hevent, hdedupe⟩ := Table.insert?_eq_none.mp htaken
      rw [decide_eq_true hkey, Bool.or_true, hkey, Table.get?_eq_some.mpr ⟨hevent, hdedupe⟩]
      rfl
    · rw [decide_eq_false hkey, Bool.or_false]

/-- A new key is taken by an append. -/
theorem appendRunEvent_created {events : RunEventTable} {dedupeKey : EventKey}
    {source : EventSource} {eventType : String} {occurredAt : Instant} {caseCode : Option String}
    {status : Option StatusValue} (h : events.get? (runId, dedupeKey) = none) :
    (appendRunEvent events runId dedupeKey source eventType occurredAt caseCode status).2 = true := by
  rw [appendRunEvent]
  split
  · rfl
  · rename_i htaken
    obtain ⟨event, hevent, hkey⟩ := Table.insert?_eq_none.mp htaken
    rw [Table.get?_eq_some.mpr ⟨hevent, hkey⟩] at h
    cases h

theorem deliver_delivered {run : TestRunRecord} (hrun : db.runs.get? runId = some run)
    (hlive : run.status.isTerminal = false) (hid : payload.runId = runId) :
    Delivered P runId payload db (deliver P runId db payload) := by
  rw [deliver]
  by_cases hstored : (db.runEvents.get? (eventKey P runId payload)).isSome
  · have hsame : recordRunEvent P runId payload db = .ok db := by
      simp only [recordRunEvent, ensure_true hid, ok_bind, lockedRun_eq_ok.mpr hrun]
      exact if_pos hstored
    rw [hsame]
    refine ⟨rfl, fun _ _ => rfl, ?_, (if_pos hstored).symm⟩
    exact ⟨.inl, fun _ => hstored⟩
  · have hnew : db.runEvents.get? (eventKey P runId payload) = none := by
      simpa using hstored
    by_cases hknown : KnownCases runId db.runCases payload
    · have hrecord : recordRunEvent P runId payload db = .ok { db with
          runEvents := (appendRunEvent db.runEvents runId (.runner (P.canonicalSha256
            (.runEvent payload.toRunEventFields))) .runner payload.event.text payload.at'
            payload.caseCode payload.status).1
          runCases := showReport runId db.runCases payload } := by
        simp only [recordRunEvent, ensure_true hid, ok_bind, lockedRun_eq_ok.mpr hrun]
        refine (if_neg hstored).trans ?_
        rw [ensure_true hknown.case, ok_bind, ensure_true hknown.current, ok_bind]
        rw [appendRunEvent_created hnew, if_pos ⟨rfl, hlive⟩]
        rfl
      rw [hrecord]
      refine ⟨rfl, fun key hkey => ?_, ?_, (if_neg hstored).symm⟩
      · rw [eventKey] at hkey
        simp only [appendRunEvent_isSome]
        rw [decide_eq_false hkey, Bool.or_false]
      · simp only [appendRunEvent_isSome]
        simp [eventKey, hknown]
    · have hrejected : ∃ error, recordRunEvent P runId payload db = .error error := by
        cases hrecord : recordRunEvent P runId payload db with
        | error error => exact ⟨error, rfl⟩
        | ok db' =>
          simp only [recordRunEvent, ensure_true hid, ok_bind, lockedRun_eq_ok.mpr hrun] at hrecord
          replace hrecord := (if_neg hstored).symm.trans hrecord
          simp only [bind_eq_ok, ensure_eq_ok] at hrecord
          obtain ⟨-, hcase, -, hcurrent, -⟩ := hrecord
          exact absurd ⟨hcase, hcurrent⟩ hknown
      obtain ⟨error, hrecord⟩ := hrejected
      rw [hrecord]
      refine ⟨rfl, fun _ _ => rfl, ?_, ?_⟩
      · simp [hknown]
      · rw [if_neg hstored, showReport_unknown hknown]

/-! ### Rows -/

/-- The keys and the codes of the rows, which no event changes. -/
def caseIndex (cases : RunCaseTable) : List ((UUID × UUID) × UUID × String) :=
  cases.rows.map fun row => ((row.runId, row.caseId), row.runId, row.caseCode)

/-- The key of the row that shows a case. -/
def shownKey (runId : UUID) (index : List ((UUID × UUID) × UUID × String)) (code : String) :
    Option (UUID × UUID) :=
  (index.find? fun entry => entry.2 = (runId, code)).map Prod.fst

theorem shownKey_caseIndex {code : String} : shownKey runId (caseIndex cases) code =
    (runCaseByCode cases runId code).map fun row => (row.runId, row.caseId) := by
  rw [shownKey, caseIndex, List.find?_map, Option.map_map, runCaseByCode, Table.first?]
  have hsame : ((fun entry : (UUID × UUID) × UUID × String => decide (entry.2 = (runId, code))) ∘
      fun row : RunCaseRecord => ((row.runId, row.caseId), row.runId, row.caseCode)) =
      fun row => decide (row.runId = runId ∧ row.caseCode = code) := by
    funext row
    simp
  rw [hsame]
  rfl

theorem caseIndex_modify {key : UUID × UUID} {status : StatusValue} :
    caseIndex (cases.modify key fun row => { row with status := status }) = caseIndex cases := by
  rw [caseIndex, caseIndex, Table.modify_def, Table.modifyWhere_rows, List.map_map]
  refine List.map_congr_left fun row _ => ?_
  simp only [Function.comp_apply]
  split <;> rfl

/-- Two codes do not share a row. -/
theorem shownKey_inj {code code' : String} {key : UUID × UUID}
    (h : shownKey runId (caseIndex cases) code = some key)
    (h' : shownKey runId (caseIndex cases) code' = some key) : code = code' := by
  rw [shownKey_caseIndex, Option.map_eq_some_iff] at h h'
  obtain ⟨row, hrow, hkey⟩ := h
  obtain ⟨row', hrow', hkey'⟩ := h'
  have hsame := Table.eq_of_key_eq (Table.mem_of_first? hrow) (Table.mem_of_first? hrow')
    (hkey.trans hkey'.symm)
  have hcode := Table.first?_some hrow
  have hcode' := Table.first?_some hrow'
  simp only [decide_eq_true_eq] at hcode hcode'
  rw [← hcode.2, ← hcode'.2, hsame]

/-- What an event reports about the row with a key. -/
def reportAt (runId : UUID) (index : List ((UUID × UUID) × UUID × String)) (key : UUID × UUID)
    (payload : InternalRunEventCreate) : Option StatusValue :=
  if payload.caseCode.bind (shownKey runId index) = some key then caseStatusOf payload else none

/-- The status that the row with a key shows. -/
def statusAt (cases : RunCaseTable) (key : UUID × UUID) : Option StatusValue :=
  (cases.get? key).map RunCaseRecord.status

theorem showReport_spec : caseIndex (showReport runId cases payload) = caseIndex cases ∧
    ∀ key, statusAt (showReport runId cases payload) key = (statusAt cases key).map fun status =>
      (reportAt runId (caseIndex cases) key payload).getD status := by
  have hbind : payload.caseCode.bind (shownKey runId (caseIndex cases)) =
      (payload.caseCode.bind (runCaseByCode cases runId)).map fun row =>
        (row.runId, row.caseId) := by
    cases payload.caseCode with
    | none => rfl
    | some code => exact shownKey_caseIndex
  cases hrow : payload.caseCode.bind (runCaseByCode cases runId) with
  | none =>
    have hkept : showReport runId cases payload = cases := by
      rw [showReport, hrow, moveRunCase]
      simp
    rw [hkept]
    refine ⟨rfl, fun key => ?_⟩
    rw [reportAt, hbind, hrow]
    simp
  | some row =>
    cases hstatus : caseStatusOf payload with
    | none =>
      have hkept : showReport runId cases payload = cases := by
        rw [showReport, hstatus, moveRunCase]
        simp
      rw [hkept]
      refine ⟨rfl, fun key => ?_⟩
      rw [reportAt, hstatus]
      simp
    | some status =>
      rw [showReport, hrow, hstatus, moveRunCase]
      refine ⟨caseIndex_modify, fun key => ?_⟩
      rw [statusAt, statusAt, Table.get?_modify, reportAt, hbind, hrow, hstatus, Option.map_some]
      by_cases hkey : key = (row.runId, row.caseId)
      · subst hkey
        rw [if_pos rfl, if_pos rfl, Option.map_map, Option.map_map]
        rfl
      · rw [if_neg hkey, if_neg (fun h => hkey (Option.some.inj h).symm), Option.map_map]
        rfl

/-- The last report about the row with a key. -/
def lastReportAt (runId : UUID) (index : List ((UUID × UUID) × UUID × String))
    (key : UUID × UUID) (payloads : List InternalRunEventCreate) : Option StatusValue :=
  (payloads.filterMap (reportAt runId index key)).getLast?

theorem lastReportAt_concat {index : List ((UUID × UUID) × UUID × String)} {key : UUID × UUID} :
    lastReportAt runId index key (payloads ++ [payload]) =
      (reportAt runId index key payload).or (lastReportAt runId index key payloads) := by
  rw [lastReportAt, List.filterMap_append]
  cases hreport : reportAt runId index key payload with
  | none => simp [hreport, lastReportAt]
  | some status => simp [hreport]

/-! ### Runs of deliveries -/

/-- The events of the log can be told apart by their digests, and none of them is stored yet. -/
structure Undelivered (P : Primitives) (runId : UUID) (log : List InternalRunEventCreate)
    (db : Database) : Prop where
  run : ∀ payload ∈ log, payload.runId = runId
  distinct : ∀ a ∈ log, ∀ b ∈ log, P.canonicalSha256 (.runEvent a.toRunEventFields) =
    P.canonicalSha256 (.runEvent b.toRunEventFields) → a = b
  fresh : ∀ payload ∈ log, db.runEvents.get? (eventKey P runId payload) = none

/-- What deliveries do to the events and the cases of a live run. -/
structure DeliveredAll (P : Primitives) (runId : UUID) (log payloads : List InternalRunEventCreate)
    (db db' : Database) : Prop where
  runs : db'.runs = db.runs
  index : caseIndex db'.runCases = caseIndex db.runCases
  stored : ∀ payload ∈ log, (db'.runEvents.get? (eventKey P runId payload)).isSome ↔
    payload ∈ payloads ∧ KnownCases runId db.runCases payload
  statuses : ∀ key, statusAt db'.runCases key = (statusAt db.runCases key).map fun status =>
    (lastReportAt runId (caseIndex db.runCases) key (firsts payloads)).getD status

theorem knownCases_index (h : caseIndex cases' = caseIndex cases) :
    KnownCases runId cases' payload ↔ KnownCases runId cases payload := by
  have hsome : ∀ code, (runCaseByCode cases' runId code).isSome =
      (runCaseByCode cases runId code).isSome := by
    intro code
    have hkey := congrArg (fun index => (shownKey runId index code).isSome) h
    simpa only [shownKey_caseIndex, Option.isSome_map] using hkey
  have hbind : ∀ code : Option String, (code.bind (runCaseByCode cases' runId)).isSome =
      (code.bind (runCaseByCode cases runId)).isSome := by
    intro code
    cases code with
    | none => rfl
    | some code => exact hsome code
  constructor
  · intro hk
    exact ⟨fun hcode => hbind _ ▸ hk.case hcode, fun code hcode => hsome code ▸ hk.current code hcode⟩
  · intro hk
    exact ⟨fun hcode => (hbind _).symm ▸ hk.case hcode,
      fun code hcode => (hsome code).symm ▸ hk.current code hcode⟩

theorem deliverAll_delivered {run : TestRunRecord} (hrun : db.runs.get? runId = some run)
    (hlive : run.status.isTerminal = false) (hlog : Undelivered P runId log db)
    (hsubset : ∀ payload ∈ payloads, payload ∈ log) :
    DeliveredAll P runId log payloads db (deliverAll P runId db payloads) := by
  induction payloads using List.reverseRecOn with
  | nil =>
    refine ⟨rfl, rfl, fun payload hpayload => ?_, fun key => ?_⟩
    · simp [deliverAll, hlog.fresh payload hpayload]
    · simp [deliverAll, firsts, lastReportAt]
  | append_singleton payloads payload ih =>
    have hmem : payload ∈ log := hsubset payload (by simp)
    have hbefore := ih fun other hother => hsubset other (by simp [hother])
    have hstep : deliverAll P runId db (payloads ++ [payload]) =
        deliver P runId (deliverAll P runId db payloads) payload := by
      simp [deliverAll]
    rw [hstep]
    generalize deliverAll P runId db payloads = mid at hbefore
    have hnext : Delivered P runId payload mid (deliver P runId mid payload) :=
      deliver_delivered (hbefore.runs ▸ hrun) hlive (hlog.run payload hmem)
    generalize deliver P runId mid payload = last at hnext
    have hknown : KnownCases runId _ payload ↔ KnownCases runId _ payload :=
      knownCases_index hbefore.index
    refine ⟨hnext.runs.trans hbefore.runs, ?_, fun other hother => ?_, fun key => ?_⟩
    · rw [hnext.runCases]
      split
      · exact hbefore.index
      · exact showReport_spec.1.trans hbefore.index
    · by_cases hsame : other = payload
      · subst hsame
        rw [hnext.stored, hbefore.stored other hother, hknown]
        simp only [List.mem_append, List.mem_singleton, or_true, true_and]
        tauto
      · have hkey : eventKey P runId other ≠ eventKey P runId payload := by
          intro hkey
          simp only [eventKey, Prod.mk.injEq, EventKey.runner.injEq, true_and] at hkey
          exact hsame (hlog.distinct other hother payload hmem hkey)
        rw [hnext.other _ hkey, hbefore.stored other hother]
        simp [hsame]
    · rw [hnext.runCases, firsts_concat]
      by_cases hseen : payload ∈ payloads
      · rw [if_pos hseen]
        by_cases hcases : KnownCases runId db.runCases payload
        · rw [if_pos ((hbefore.stored payload hmem).mpr ⟨hseen, hcases⟩)]
          exact hbefore.statuses key
        · rw [if_neg fun h => hcases ((hbefore.stored payload hmem).mp h).2,
            showReport_unknown (hknown.not.mpr hcases)]
          exact hbefore.statuses key
      · rw [if_neg hseen, if_neg fun h => hseen ((hbefore.stored payload hmem).mp h).1,
          showReport_spec.2 key, hbefore.statuses key, Option.map_map, lastReportAt_concat,
          hbefore.index]
        congr 1
        funext status
        cases reportAt runId (caseIndex db.runCases) key payload <;> rfl

/-! ### The order of arrival -/

/-- What an event reports about the case with a code. -/
def reportOf (code : String) (payload : InternalRunEventCreate) : Option StatusValue :=
  if payload.caseCode = some code then caseStatusOf payload else none

/-- The last report about the case with a code. -/
def lastReport (code : String) (payloads : List InternalRunEventCreate) : Option StatusValue :=
  (payloads.filterMap (reportOf code)).getLast?

theorem lastReport_isSome {code : String} : (lastReport code payloads).isSome ↔
    ∃ payload ∈ payloads, (reportOf code payload).isSome := by
  rw [lastReport, List.getLast?_isSome, List.ne_nil_iff_exists_cons]
  constructor
  · rintro ⟨status, statuses, hstatuses⟩
    have hmem : status ∈ payloads.filterMap (reportOf code) := by
      rw [hstatuses]
      exact List.mem_cons_self
    obtain ⟨payload, hpayload, hreport⟩ := List.mem_filterMap.mp hmem
    exact ⟨payload, hpayload, by rw [hreport]; rfl⟩
  · rintro ⟨payload, hpayload, hreport⟩
    obtain ⟨status, hstatus⟩ := Option.isSome_iff_exists.mp hreport
    have hmem := List.mem_filterMap.mpr ⟨payload, hpayload, hstatus⟩
    exact List.ne_nil_iff_exists_cons.mp (List.ne_nil_of_mem hmem)

/-- The row that shows a case takes the reports about its code. -/
theorem lastReportAt_shown {code : String} {key : UUID × UUID}
    (h : shownKey runId (caseIndex cases) code = some key) :
    lastReportAt runId (caseIndex cases) key payloads = lastReport code payloads := by
  have hreport : reportAt runId (caseIndex cases) key = reportOf code := by
    funext payload
    have hiff : payload.caseCode.bind (shownKey runId (caseIndex cases)) = some key ↔
        payload.caseCode = some code := by
      constructor
      · intro hbind
        obtain ⟨code', hcode', hkey⟩ := Option.bind_eq_some_iff.mp hbind
        rw [hcode', shownKey_inj hkey h]
      · intro hcode
        rw [hcode]
        exact h
    simp only [reportAt, reportOf, hiff]
  rw [lastReportAt, lastReport, hreport]

/-- For every case of the run, the event that reports about it and is delivered for the first time
    last reports what the one logged last does. -/
def ArrivesInOrder (runId : UUID) (cases : RunCaseTable)
    (log deliveries : List InternalRunEventCreate) : Prop :=
  ∀ code, (runCaseByCode cases runId code).isSome →
    lastReport code (firsts deliveries) = lastReport code (firsts log)

/-- However often the events of a log are delivered, and in whatever order: the rows show what they
    show after the delivery in order exactly when the last first deliveries are in order. -/
theorem case_statuses_iff {run : TestRunRecord} (hrun : db.runs.get? runId = some run)
    (hlive : run.status.isTerminal = false) (hlog : Undelivered P runId log db)
    (hdelivered : ∀ payload, payload ∈ deliveries ↔ payload ∈ log) :
    (∀ key, statusAt (deliverAll P runId db deliveries).runCases key =
      statusAt (deliverAll P runId db log).runCases key) ↔
    ArrivesInOrder runId db.runCases log deliveries := by
  have hleft := (deliverAll_delivered hrun hlive hlog fun payload => (hdelivered payload).mp).statuses
  have hright := (deliverAll_delivered hrun hlive hlog fun _ => id).statuses
  constructor
  · intro hsame code hcode
    obtain ⟨row, hrow⟩ := Option.isSome_iff_exists.mp hcode
    have hshown : shownKey runId (caseIndex db.runCases) code = some (row.runId, row.caseId) := by
      rw [shownKey_caseIndex, hrow]
      rfl
    have hstored : statusAt db.runCases (row.runId, row.caseId) = some row.status := by
      rw [statusAt, Table.get?_eq_some.mpr ⟨Table.mem_of_first? hrow, rfl⟩]
      rfl
    have hstatus := hsame (row.runId, row.caseId)
    rw [hleft, hright, hstored, lastReportAt_shown hshown, lastReportAt_shown hshown] at hstatus
    have hsome : (lastReport code (firsts deliveries)).isSome ↔
        (lastReport code (firsts log)).isSome := by
      simp only [lastReport_isSome, mem_firsts, hdelivered]
    cases hone : lastReport code (firsts deliveries) with
    | none =>
      rw [hone] at hsome
      exact (by simpa using hsome : lastReport code (firsts log) = none).symm
    | some status =>
      obtain ⟨status', hother⟩ := Option.isSome_iff_exists.mp (hsome.mp (by rw [hone]; rfl))
      rw [hone, hother] at hstatus
      rw [hother]
      exact hstatus
  · intro horder key
    rw [hleft, hright]
    by_cases hshown : ∃ code, shownKey runId (caseIndex db.runCases) code = some key
    · obtain ⟨code, hshown⟩ := hshown
      have hcode : (runCaseByCode db.runCases runId code).isSome := by
        rw [shownKey_caseIndex] at hshown
        rw [← Option.isSome_map, hshown]
        rfl
      rw [lastReportAt_shown hshown, lastReportAt_shown hshown, horder code hcode]
    · have hnone : ∀ payloads, lastReportAt runId (caseIndex db.runCases) key payloads = none := by
        intro payloads
        have hreports : payloads.filterMap (reportAt runId (caseIndex db.runCases) key) = [] := by
          refine List.filterMap_eq_nil_iff.mpr fun payload _ => if_neg fun hbind => hshown ?_
          obtain ⟨code, -, hkey⟩ := Option.bind_eq_some_iff.mp hbind
          exact ⟨code, hkey⟩
        rw [lastReportAt, hreports, List.getLast?_nil]
      rw [hnone, hnone]

namespace Installation

/-- Run 20 executes both cases of the baseline. -/
def executing : List Action :=
  [queueRun, dispatchBatch, .updateRunStatus 0 20 .preparing none,
    .updateRunStatus 0 20 .running none]

def caseEvent (event : RunnerEventType) (moment : Instant) (status : Option StatusValue) :
    RunEventFields :=
  ⟨20, event, moment, some "TC-A-1", status, none, none, none, none, none, none, none, none, none,
    none⟩

def startedA : InternalRunEventCreate := ⟨caseEvent .caseStarted 1 none, by decide⟩

def finishedA : InternalRunEventCreate :=
  ⟨caseEvent .caseFinished 2 (some .passed), by decide⟩

def LiveRun (s : State) : Prop :=
  (s.db.runs.get? 20).any (fun run => !run.status.isTerminal) = true ∧
    (s.db.runEvents.get? (eventKey primitives 20 startedA)).isNone = true ∧
    (s.db.runEvents.get? (eventKey primitives 20 finishedA)).isNone = true

instance (s : State) : Decidable (LiveRun s) := inferInstanceAs (Decidable (_ ∧ _ ∧ _))

theorem LiveRun.undelivered {s : State} (h : LiveRun s) :
    (∃ run, s.db.runs.get? 20 = some run ∧ run.status.isTerminal = false) ∧
      Undelivered primitives 20 [startedA, finishedA] s.db := by
  obtain ⟨hrun, hstarted, hfinished⟩ := h
  obtain ⟨run, hget, hlive⟩ := (Option.any_eq_true _ _).mp hrun
  refine ⟨⟨run, hget, by simpa using hlive⟩, ?_, ?_, ?_⟩
  · exact List.forall_mem_cons.mpr ⟨rfl, List.forall_mem_singleton.mpr rfl⟩
  · decide
  · exact List.forall_mem_cons.mpr ⟨Option.isNone_iff_eq_none.mp hstarted,
      List.forall_mem_singleton.mpr (Option.isNone_iff_eq_none.mp hfinished)⟩

end Installation

open Installation in
/-- The started event is lost, and sent again after the case has finished. -/
theorem late_start_shown : ∃ s, (controlPlane primitives).Reachable s ∧ LiveRun s ∧
    statusAt (deliverAll primitives 20 s.db [startedA, finishedA]).runCases (20, 1) =
      some .passed ∧
    statusAt (deliverAll primitives 20 s.db [finishedA, startedA, finishedA]).runCases (20, 1) =
      some .running := by
  have h : Leads executing fun s => LiveRun s ∧
      statusAt (deliverAll primitives 20 s.db [startedA, finishedA]).runCases (20, 1) =
        some .passed ∧
      statusAt (deliverAll primitives 20 s.db [finishedA, startedA, finishedA]).runCases (20, 1) =
        some .running := by
    decide +kernel
  exact h.exists_reachable

open Installation in
theorem case_statuses_of_repeated_start : ∃ s, (controlPlane primitives).Reachable s ∧
    LiveRun s ∧
    ((∀ key, statusAt (deliverAll primitives 20 s.db [startedA, finishedA, startedA]).runCases key =
      statusAt (deliverAll primitives 20 s.db [startedA, finishedA]).runCases key) ↔
    ArrivesInOrder 20 s.db.runCases [startedA, finishedA] [startedA, finishedA, startedA]) := by
  have h : Leads executing LiveRun := by decide +kernel
  obtain ⟨s, hs, hlive⟩ := h.exists_reachable
  obtain ⟨⟨run, hrun, hstatus⟩, hundelivered⟩ := hlive.undelivered
  refine ⟨s, hs, hlive, case_statuses_iff hrun hstatus hundelivered fun payload => ?_⟩
  simp only [List.mem_cons, List.not_mem_nil, or_false]
  tauto

end TestOps

import TestOps.Invariants.RunnerOutcomes
import TestOps.Invariants.PodOutcomes
import TestOps.Invariants.Deliveries
import TestOps.Invariants.RunCases

/-! What becomes of an exception in the worker. Its handlers turn it into a result for all cases of
    the job, and the control plane stores that result:

      exception             handler              status       accepted from
      ────────────────────────────────────────────────────────────────────────────────
      canceled              _canceled_result     CANCELED     QUEUED PREPARING RUNNING
      timed out, evidence   _timed_out_result    TIMED_OUT    RUNNING
      any other             _recovery_result     INFRA_ERROR  QUEUED PREPARING RUNNING

    Only `_recovery_result` quotes the exception, and a failed case needs a message: an exception
    without a text leaves the run without a result. -/

namespace TestOps

open Checked Relational Transition

variable {P : Primitives} {db db' : Database}

/-! ### Snapshots -/

/-- The cases of a queued run are enabled cases, at least one, each once. -/
structure Executable (cases : List CaseDefinition) : Prop where
  nonempty : cases ≠ []
  enabled : ∀ case ∈ cases, case.enabled = true
  idsNodup : (cases.map CaseDefinition.caseId).Nodup

def SnapshotsExecutable (db : Database) : Prop :=
  ∀ run ∈ db.runs, Executable run.snapshot.cases

/-- Fewer cases are executable as well. -/
theorem Executable.sublist {cases cases' : List CaseDefinition} (h : Executable cases)
    (hsub : cases'.Sublist cases) (hne : cases' ≠ []) : Executable cases' where
  nonempty := hne
  enabled := fun case hcase => h.enabled case (hsub.subset hcase)
  idsNodup := h.idsNodup.sublist (hsub.map _)

theorem rerunCases_executable {source : TestRunRecord} {mode : RetryMode}
    {cases : List CaseDefinition} (hsource : Executable source.snapshot.cases)
    (h : rerunCases source mode = .ok cases) : Executable cases := by
  refine hsource.sublist (rerunCases_sublist h) ?_
  cases mode with
  | full =>
    simp only [rerunCases, pure_eq_ok] at h
    exact h ▸ hsource.nonempty
  | failedOnly =>
    simp only [rerunCases, bind_eq_ok, ensure_eq_ok, found_eq_ok, pure_eq_ok] at h
    obtain ⟨result, _, _, hne, rfl⟩ := h
    exact hne

theorem plan_executable {plan : RunPlan} (hi : SnapshotsExecutable db)
    (h : RunOrigin P db plan) : Executable plan.snapshot.cases := by
  cases h with
  | request now runId payload key actorId statuses baseline hplanned =>
    have hsub := selectCases_sublist hplanned.cases
    refine ⟨hplanned.valid.casesNonempty, fun case hcase => ?_, hplanned.valid.caseIdsNodup⟩
    exact (List.mem_filter.mp (hsub.subset hcase)).2
  | rerun now runId source mode key actorId hsource _ hplanned =>
    exact rerunCases_executable (hi source hsource) hplanned.cases

theorem snapshotsExecutable_write {effect : Effect} (hw : Write P effect db db')
    (hi : SnapshotsExecutable db) : SnapshotsExecutable db' := by
  intro run' hrun'
  rcases run_write hw hrun' with ⟨run, hrun, -, hfollows⟩ | ⟨plan, -, horigin, rfl⟩
  · rw [hfollows.snapshot]
    exact hi run hrun
  · exact plan_executable hi horigin

/-- The cases of a run come from one baseline: no code occurs twice. -/
def SnapshotCodes (db : Database) : Prop :=
  ∀ run ∈ db.runs, (run.snapshot.cases.map CaseDefinition.caseCode).Nodup

theorem plan_codesNodup {plan : RunPlan} (hi : SnapshotCodes db) (h : RunOrigin P db plan) :
    (plan.snapshot.cases.map CaseDefinition.caseCode).Nodup := by
  cases h with
  | request now runId payload key actorId statuses baseline hplanned =>
    have hsub := (selectCases_sublist hplanned.cases).trans (List.filter_sublist)
    exact baseline.document.caseCodesNodup.sublist (hsub.map _)
  | rerun now runId source mode key actorId hsource _ hplanned =>
    exact (hi source hsource).sublist ((rerunCases_sublist hplanned.cases).map _)

theorem snapshotCodes_write {effect : Effect} (hw : Write P effect db db') (hi : SnapshotCodes db) :
    SnapshotCodes db' := by
  intro run' hrun'
  rcases run_write hw hrun' with ⟨run, hrun, -, hfollows⟩ | ⟨plan, -, horigin, rfl⟩
  · rw [hfollows.snapshot]
    exact hi run hrun
  · exact plan_codesNodup hi horigin

/-- So it is in every reachable state. -/
theorem snapshotCodes_reachable {s : State} (h : (controlPlane P).Reachable s) :
    SnapshotCodes s.db :=
  reachable_invariant (p := SnapshotCodes) (fun _ hmem => absurd hmem Table.not_mem_empty)
    (fun _ _ _ hw hi => snapshotCodes_write hw hi) h

/-! ### Case rows -/

/-- The rows carry the codes of the snapshot. -/
def CodesMatch (db : Database) : Prop :=
  ∀ case ∈ db.runCases, ∀ run ∈ db.runs, run.id = case.runId →
    ∀ definition ∈ run.snapshot.cases, definition.caseId = case.caseId →
      definition.caseCode = case.caseCode

/-- A row of the same case under the same code. -/
def SameCode (case case' : RunCaseRecord) : Prop :=
  (case'.runId, case'.caseId, case'.caseCode) = (case.runId, case.caseId, case.caseCode)

theorem settle_sameCode {runId : UUID} {items : List CaseResult} {runCases : RunCaseTable}
    {case' : RunCaseRecord} (h : case' ∈ settleRunCases runId items runCases) :
    ∃ case ∈ runCases, SameCode case case' := by
  induction items generalizing runCases with
  | nil => exact ⟨case', h, rfl⟩
  | cons item items ih =>
    obtain ⟨settled, hsettled, hcode⟩ := ih h
    obtain ⟨case, hcase, rfl⟩ := Table.mem_modify.mp hsettled
    refine ⟨case, hcase, hcode.trans ?_⟩
    split <;> rfl

/-- A row was there before, under its code, or a plan brings it. -/
theorem case_write {effect : Effect} (hw : Write P effect db db') {case' : RunCaseRecord}
    (hcase' : case' ∈ db'.runCases) : (∃ case ∈ db.runCases, SameCode case case') ∨
      ∃ plan, effect = .runQueued plan ∧ case' ∈ plan.runCases := by
  cases hw with
  | configured | poolCreated | poolUpdated | workersChanged | preferencesChanged
  | deliveriesRewritten | testDeliveriesAdded | outboxChanged | slotBound | runStarted
  | eventLogged | runCanceled | cancelRequested | leaseReleased | leaseAcquired | dispatchMarked
  | baselinePublished | packageActivated | requestCreated | requestEdited | requestSubmitted
  | requestReviewed | validationSkipped | validationLinked | requestPublished =>
    exact Or.inl ⟨case', hcase', rfl⟩
  | runQueued plan runs runEvents runCases outbox horigin hkey hruns hcases =>
    rcases (Table.mem_insertAll? hcases).mp hcase' with hold | hnew
    · exact Or.inl ⟨case', hold, rfl⟩
    · exact Or.inr ⟨plan, rfl, hnew⟩
  | eventRecorded =>
    obtain ⟨case, hcase, rfl⟩ := Table.mem_modify.mp hcase'
    refine Or.inl ⟨case, hcase, ?_⟩
    split <;> rfl
  | resultRecorded => exact Or.inl (settle_sameCode hcase')
  | runRecovered =>
    obtain ⟨case, hcase, rfl⟩ := Table.mem_modifyWhere.mp hcase'
    refine Or.inl ⟨case, hcase, ?_⟩
    split <;> rfl

/-- The rows of a plan carry the codes of its snapshot. -/
theorem plan_codes {plan : RunPlan} {case : RunCaseRecord} {definition : CaseDefinition}
    (hnodup : (plan.snapshot.cases.map CaseDefinition.caseId).Nodup)
    (hcase : case ∈ plan.runCases) (hdefinition : definition ∈ plan.snapshot.cases)
    (hid : definition.caseId = case.caseId) : definition.caseCode = case.caseCode := by
  obtain ⟨⟨own, i⟩, hmem, rfl⟩ := List.mem_map.mp hcase
  have hown : own ∈ plan.snapshot.cases := (List.mem_zipIdx' hmem).2 ▸ List.getElem_mem _
  rw [List.inj_on_of_nodup_map hnodup hdefinition hown hid]

theorem codesMatch_write {effect : Effect} (hw : Write P effect db db')
    (hexecutable : SnapshotsExecutable db') (hrows : CaseRows db) (hi : CodesMatch db) :
    CodesMatch db' := by
  intro case' hcase' run' hrun' hid definition hdefinition hcaseId
  rcases case_write hw hcase' with ⟨case, hcase, hsame⟩ | ⟨plan, rfl, hnew⟩
  · obtain ⟨hrunId, hrest⟩ := Prod.mk.inj hsame
    obtain ⟨hcaseId', hcode⟩ := Prod.mk.inj hrest
    rw [hcode]
    rcases run_write hw hrun' with ⟨run, hrun, hsameId, hfollows⟩ | ⟨plan, rfl, -, rfl⟩
    · rw [hfollows.snapshot] at hdefinition
      exact hi case hcase run hrun (hsameId.trans (hid.trans hrunId)) definition hdefinition
        (hcaseId.trans hcaseId')
    · -- a row that was there belongs to a run that was there
      obtain ⟨run, hrun, hrunCase, -⟩ := hrows.known case hcase
      obtain ⟨hruns, -⟩ := queued_tables hw
      have hnone := Table.get?_eq_none.mp (Table.get?_of_insert? hruns) run hrun
      exact absurd (hrunCase.trans (hrunId.symm.trans hid.symm)) hnone
  · obtain ⟨hruns, -⟩ := queued_tables hw
    have hplanRun : plan.run P ∈ db'.runs := (Table.mem_insert? hruns).mpr (Or.inr rfl)
    have hrunId := (mem_runCases_plan hnew).1
    obtain rfl := Table.eq_of_key_eq hrun' hplanRun (hid.trans hrunId)
    exact plan_codes (hexecutable _ hplanRun).idsNodup hnew hdefinition hcaseId

/-- The rows of a run and the cases of its snapshot, in every reachable state. -/
structure CasesKept (db : Database) : Prop where
  executable : SnapshotsExecutable db
  rows : CaseRows db
  codes : CodesMatch db

theorem casesKept_reachable {s : State} (h : (controlPlane P).Reachable s) : CasesKept s.db := by
  refine reachable_invariant (p := CasesKept) ?_ ?_ h
  · exact ⟨fun _ hmem => absurd hmem Table.not_mem_empty,
      ⟨fun _ hmem => absurd hmem Table.not_mem_empty,
        fun _ hmem => absurd hmem Table.not_mem_empty⟩,
      fun _ hmem => absurd hmem Table.not_mem_empty⟩
  · intro effect db db' hw hi
    have hexecutable := snapshotsExecutable_write hw hi.executable
    exact ⟨hexecutable, caseRows_write hw hi.rows,
      codesMatch_write hw hexecutable hi.rows hi.codes⟩

/-! ### Deliveries -/

/-- A delivery whose key names a run is a delivery of that run. -/
def KeysNameRuns (db : Database) : Prop :=
  ∀ delivery ∈ db.emailDeliveries, ∀ runId userId recipientHash,
    delivery.dedupeKey = .runResult runId userId recipientHash → delivery.runId = some runId

theorem KeysNameRuns.insertAll? {deliveries : List RunEmailDeliveryRecord}
    {emailDeliveries : DeliveryTable} (hi : KeysNameRuns db)
    (h : db.emailDeliveries.insertAll? deliveries = some emailDeliveries)
    (hnew : ∀ delivery ∈ deliveries, ∀ runId userId recipientHash,
      delivery.dedupeKey = .runResult runId userId recipientHash → delivery.runId = some runId) :
    ∀ delivery ∈ emailDeliveries, ∀ runId userId recipientHash,
      delivery.dedupeKey = .runResult runId userId recipientHash →
        delivery.runId = some runId := by
  intro delivery hmem
  rcases (Table.mem_insertAll? h).mp hmem with hold | hadded
  · exact hi delivery hold
  · exact hnew delivery hadded

theorem runResultDeliveries_named {now : Instant} {run : TestRunRecord}
    {delivery : RunEmailDeliveryRecord} (h : delivery ∈ runResultDeliveries P now db run)
    (runId userId : UUID) (recipientHash : Digest)
    (hkey : delivery.dedupeKey = .runResult runId userId recipientHash) :
    delivery.runId = some runId := by
  rw [runResultDeliveries] at h
  split at h
  · cases h
  · obtain ⟨recipient, -, rfl⟩ := List.mem_map.mp h
    rw [resultDelivery] at hkey ⊢
    exact congrArg some (DeliveryKey.runResult.inj hkey).1

theorem keysNameRuns_write {effect : Effect} (hw : Write P effect db db')
    (heffect : effect ≠ .testDeliveriesAdded) (hi : KeysNameRuns db) : KeysNameRuns db' := by
  cases hw with
  | configured | poolCreated | poolUpdated | workersChanged | preferencesChanged
  | outboxChanged | runQueued | slotBound | runStarted | eventRecorded | eventLogged
  | cancelRequested | runRecovered | leaseReleased | leaseAcquired | dispatchMarked
  | baselinePublished | packageActivated | requestCreated | requestEdited | requestSubmitted
  | requestReviewed | validationSkipped | validationLinked | requestPublished => exact hi
  | testDeliveriesAdded => exact absurd rfl heffect
  | deliveriesRewritten p f hf hsame =>
    intro delivery' hmem runId userId recipientHash hkey
    obtain ⟨delivery, hdelivery, rfl⟩ := Table.mem_modifyWhere.mp hmem
    by_cases hp : p delivery
    · rw [if_pos hp] at hkey ⊢
      rw [(hsame delivery).1]
      exact hi delivery hdelivery _ _ _ ((hf.eq delivery).symm.trans hkey)
    · rw [if_neg hp] at hkey ⊢
      exact hi delivery hdelivery _ _ _ hkey
  | resultRecorded now runId result run artifacts deliveries runEvents _ _ _ _ _ hinsert =>
    exact hi.insertAll? hinsert fun delivery hmem => runResultDeliveries_named hmem
  | runCanceled now runId run deliveries outbox runEvents _ _ _ _ hinsert =>
    exact hi.insertAll? hinsert fun delivery hmem => runResultDeliveries_named hmem

/-- A test delivery has a key of its own kind. -/
theorem keysNameRuns_enqueueRunEmailTest {now : Instant} {nonce : Nat → UUID} {userId : UUID}
    {smtpConfigured : Bool} (h : enqueueRunEmailTest P now nonce userId smtpConfigured db = .ok db')
    (hi : KeysNameRuns db) : KeysNameRuns db' := by
  simp only [enqueueRunEmailTest, bind_eq_ok, ensure_eq_ok, found_eq_ok, pure_eq_ok] at h
  obtain ⟨_, _, _, _, emailDeliveries, hinsert, rfl⟩ := h
  refine hi.insertAll? hinsert fun delivery hmem runId userId recipientHash hkey => ?_
  obtain ⟨⟨recipient, i⟩, -, rfl⟩ := List.mem_map.mp hmem
  cases hkey

theorem Action.allows_testDeliveriesAdded {a : Action} (h : a.allows .testDeliveriesAdded) :
    ∃ now nonce userId smtpConfigured,
      a = .enqueueRunEmailTest now nonce userId smtpConfigured := by
  cases a with
  | enqueueRunEmailTest now nonce userId smtpConfigured => exact ⟨_, _, _, _, rfl⟩
  | _ => simp [Action.allows] at h

theorem keysNameRuns_step {s s' : State} {a : Action} (h : step P s a = .ok s')
    (hi : KeysNameRuns s.db) : KeysNameRuns s'.db := by
  by_cases htest : a.allows .testDeliveriesAdded
  · obtain ⟨now, nonce, userId, smtpConfigured, rfl⟩ := Action.allows_testDeliveriesAdded htest
    simp only [step, Action.commit, bind_eq_ok, pure_eq_ok] at h
    obtain ⟨db, h, rfl⟩ := h
    exact keysNameRuns_enqueueRunEmailTest h hi
  · exact (step_writes h).invariant (p := KeysNameRuns)
      (fun effect _ _ hallowed hw => keysNameRuns_write hw fun heq => htest (heq ▸ hallowed)) hi

theorem keysNameRuns_reachable {s : State} (h : (controlPlane P).Reachable s) :
    KeysNameRuns s.db := by
  refine h.invariant (p := fun s => KeysNameRuns s.db) ?_ fun s a s' hstep hi =>
    keysNameRuns_step hstep hi
  rintro s rfl
  exact fun _ hmem => absurd hmem Table.not_mem_empty

/-- The addresses a preference selects have different dedupe keys: `validate_selected_emails`
    refuses an address twice, and the digests of different addresses differ. -/
def DistinctRecipients (P : Primitives) (db : Database) : Prop :=
  ∀ preference ∈ db.emailPreferences,
    ((selectedPreferenceEmails P (some preference)).map fun recipient =>
      P.sha256Prefix (P.casefold recipient)).Nodup

theorem subscribers_distinct (h : DistinctRecipients P db) (run : TestRunRecord) :
    ((subscribers P db run).map fun recipient =>
      P.sha256Prefix (P.casefold recipient)).Nodup := by
  rw [subscribers]
  cases hpreference : db.emailPreferences.get? run.createdBy with
  | none => exact List.nodup_nil
  | some preference =>
    simp only
    split
    · exact h preference (Table.mem_of_get? hpreference)
    · exact List.nodup_nil

/-- Rows with new, different keys can be added. -/
theorem exists_insertAll? {ρ κ : Type} [DecidableEq κ] {key : ρ → κ} {rows : List ρ}
    {t : Table key} (hnodup : (rows.map key).Nodup) (hfresh : ∀ r ∈ rows, ∀ r' ∈ t, key r' ≠ key r) :
    ∃ t', t.insertAll? rows = some t' := by
  induction rows generalizing t with
  | nil => exact ⟨t, rfl⟩
  | cons r rows ih =>
    obtain ⟨hr, hrows⟩ := List.nodup_cons.mp hnodup
    cases hinsert : t.insert? r with
    | none =>
      obtain ⟨r', hr', hsame⟩ := Table.insert?_eq_none.mp hinsert
      exact absurd hsame (hfresh r List.mem_cons_self r' hr')
    | some t₁ =>
      rw [Table.insertAll?, hinsert, Option.bind_some]
      refine ih hrows fun r₂ hr₂ r' hr' => ?_
      rcases (Table.mem_insert? hinsert).mp hr' with hold | rfl
      · exact hfresh r₂ (List.mem_cons_of_mem _ hr₂) r' hold
      · exact fun hsame => hr (List.mem_map.mpr ⟨r₂, hr₂, hsame.symm⟩)

/-- The end of a run that is live can be announced. -/
theorem enqueue_live {s : State} (hreach : (controlPlane P).Reachable s)
    (hdistinct : DistinctRecipients P s.db) {run run' : TestRunRecord} (hrun : run ∈ s.db.runs)
    (hlive : run.status.isTerminal = false) (hid : run'.id = run.id) (now : Instant)
    (error : ServiceError) :
    ∃ deliveries, enqueueRunResultEmail P now s.db run' error = .ok deliveries := by
  simp only [enqueueRunResultEmail_eq_ok]
  have hstate := deliveryState_reachable hreach
  have hkeys := keysNameRuns_reachable hreach
  rw [runResultDeliveries]
  cases s.db.projects.get? run'.projectId with
  | none => exact ⟨_, rfl⟩
  | some project =>
    refine exists_insertAll? ?_ ?_
    · have hdifferent := subscribers_distinct hdistinct run'
      rw [List.map_map]
      refine List.Nodup.of_map (fun key => match key with
        | .runResult _ _ recipientHash => recipientHash
        | .runEmailTest _ => P.sha256Prefix "") ?_
      rwa [List.map_map]
    · intro delivery hmem delivery' hmem' hsame
      obtain ⟨recipient, -, rfl⟩ := List.mem_map.mp hmem
      obtain ⟨ended, hended, hendedId, hterminal⟩ :=
        hstate.ended delivery' hmem' run'.id (hkeys delivery' hmem' _ _ _ hsame)
      obtain rfl := Table.eq_of_key_eq hended hrun (hendedId.trans hid)
      rw [hlive] at hterminal
      cases hterminal

/-! ### Which results a live run accepts -/

/-- The cases of a result are those of the job, in its order. -/
def Covers (job : RunSnapshot) (result : RunResult) : Prop :=
  result.caseResults.map (fun item => (item.caseId, item.caseCode)) =
    job.cases.map fun case => (case.caseId, case.caseCode)

/-- A result of a handler: all cases of the job and nothing else, under a status for failures. -/
structure Handled (job : RunSnapshot) (result : RunResult) : Prop where
  runId : result.runId = job.runId
  status : result.status ∈ [.canceled, .timedOut, .infraError]
  covers : Covers job result
  noArtifacts : result.artifacts = []
  noReferences : ∀ item ∈ result.caseResults, item.artifactIds = []
  failed : result.status = .infraError → ∃ item ∈ result.caseResults, item.status = .infraError

theorem Covers.caseIds {job : RunSnapshot} {result : RunResult} (h : Covers job result) :
    result.caseResults.map CaseResult.caseId = job.cases.map CaseDefinition.caseId := by
  have hfst := congrArg (List.map Prod.fst) h
  rwa [List.map_map, List.map_map] at hfst

/-- A case of the result is a case of the job, under its code. -/
theorem Covers.exists_definition {job : RunSnapshot} {result : RunResult} (h : Covers job result)
    {item : CaseResult} (hitem : item ∈ result.caseResults) :
    ∃ definition ∈ job.cases, definition.caseId = item.caseId ∧
      definition.caseCode = item.caseCode := by
  have hmem : (item.caseId, item.caseCode) ∈
      job.cases.map fun case => (case.caseId, case.caseCode) :=
    h ▸ List.mem_map.mpr ⟨item, hitem, rfl⟩
  obtain ⟨definition, hdefinition, heq⟩ := List.mem_map.mp hmem
  exact ⟨definition, hdefinition, (Prod.mk.inj heq).1, (Prod.mk.inj heq).2⟩

/-- A handled result matches the rows of its run. -/
theorem Handled.matches {job : RunSnapshot} {result : RunResult} {run : TestRunRecord}
    (h : Handled job result) (hkept : CasesKept db) (hrun : run ∈ db.runs)
    (hid : run.id = job.runId) (hsnapshot : run.snapshot = job) :
    requireMatchingCases result (db.runCases.rows.filter fun case => case.runId = job.runId) =
      .ok () := by
  have hids := h.covers.caseIds
  have hstatus := h.status
  simp only [List.mem_cons, List.not_mem_nil, or_false] at hstatus
  simp only [requireMatchingCases, requireConsistentStatuses, bind_eq_ok, ensure_eq_ok]
  refine ⟨(), ?nodup, (), ⟨?known, ?complete⟩, (), ⟨(), ?passed, (), ?failed, h.failed⟩, ?codes⟩
  case nodup =>
    rw [hids, ← hsnapshot]
    exact (hkept.executable run hrun).idsNodup
  case known =>
    intro caseId hmem
    rw [hids, ← hsnapshot] at hmem
    obtain ⟨definition, hdefinition, rfl⟩ := List.mem_map.mp hmem
    obtain ⟨case, hcase, hrunId, hcaseId⟩ := hkept.rows.complete run hrun definition hdefinition
    exact List.mem_map.mpr
      ⟨case, List.mem_filter.mpr ⟨hcase, by simp [hrunId, hid]⟩, hcaseId⟩
  case complete =>
    intro caseId hmem
    obtain ⟨case, hstored, rfl⟩ := List.mem_map.mp hmem
    obtain ⟨hcase, hrunId⟩ := List.mem_filter.mp hstored
    obtain ⟨run', hrun', hid', definition, hdefinition, hcaseId⟩ := hkept.rows.known case hcase
    obtain rfl := Table.eq_of_key_eq hrun' hrun
      (hid'.trans ((of_decide_eq_true hrunId).trans hid.symm))
    rw [hids, ← hsnapshot]
    exact List.mem_map.mpr ⟨definition, hdefinition, hcaseId⟩
  case passed =>
    intro heq
    rcases hstatus with hstatus | hstatus | hstatus <;> rw [hstatus] at heq <;> cases heq
  case failed =>
    intro heq
    rcases hstatus with hstatus | hstatus | hstatus <;> rw [hstatus] at heq <;> cases heq
  case codes =>
    intro item hitem case hmem hcaseId
    obtain ⟨hcase, hrunId⟩ := List.mem_filter.mp hmem
    obtain ⟨definition, hdefinition, hid', hcode⟩ := h.covers.exists_definition hitem
    rw [← hcode]
    refine (hkept.codes case hcase run hrun (hid.trans (of_decide_eq_true hrunId).symm) definition
      (hsnapshot ▸ hdefinition) (hid'.trans hcaseId.symm)).symm

/-- A live run accepts a handled result whose status its own status leads to. -/
theorem Handled.accepted {job : RunSnapshot} {result : RunResult} {s : State}
    {run : TestRunRecord} (h : Handled job result) (hreach : (controlPlane P).Reachable s)
    (hdistinct : DistinctRecipients P s.db) (hrun : run ∈ s.db.runs) (hid : run.id = job.runId)
    (hsnapshot : run.snapshot = job)
    (hallowed : result.status ∈ allowedRunTransitions run.status) (now : Instant) :
    ∃ db', recordRunResult P now job.runId result s.db = .ok db' := by
  have hlive := not_terminal_of_allowed hallowed
  have hget : s.db.runs.get? job.runId = some run := Table.get?_eq_some.mpr ⟨hrun, hid⟩
  have hdigest := ((runState_reachable hreach).shape run hrun).no_digest hlive
  have hmatch := h.matches (casesKept_reachable hreach) hrun hid hsnapshot
  obtain ⟨deliveries, hdeliveries⟩ := @enqueue_live P s hreach hdistinct run
    (finishedRun P result run) hrun hlive rfl now
    (.resourceConflict "Run Result artifacts conflict with existing records")
  have hartifacts : requireKnownArtifacts result = .ok () := by
    simp only [requireKnownArtifacts, bind_eq_ok, ensure_eq_ok, h.noArtifacts, List.map_nil]
    refine ⟨(), List.nodup_nil, fun item hitem => ?_⟩
    rw [h.noReferences item hitem]
    exact List.nil_subset _
  have hinsert : s.db.artifacts.insertAll? (result.artifacts.map (Artifact.record job.runId)) =
      some s.db.artifacts := by
    rw [h.noArtifacts]
    rfl
  cases hstored : recordRunResult P now job.runId result s.db with
  | ok db' => exact ⟨db', rfl⟩
  | error error =>
    simp only [recordRunResult, storeResult, lockedRun, ensure_true h.runId, hget, found, ok_bind,
      hdigest, requireRunTransition, ensure_true hallowed, hmatch, hartifacts, hinsert,
      hdeliveries, pure, Except.pure, reduceCtorEq] at hstored

/-! ### The results of the handlers -/

/-- A case result that is not explained cannot be built. -/
theorem unfinishedCase_eq_ok {moment : Instant} {case : CaseDefinition}
    {status : CaseResultStatus} {failureCategory : String} {errorMessage : Option String}
    {item : CaseResult}
    (h : unfinishedCase moment case status failureCategory errorMessage = .ok item) :
    (item.caseId, item.caseCode) = (case.caseId, case.caseCode) ∧ item.status = status ∧
      item.artifactIds = [] := by
  rw [unfinishedCase] at h
  split at h
  · obtain rfl := Except.ok.inj h
    exact ⟨rfl, rfl, rfl⟩
  · cases h

theorem exists_unfinishedCase {moment : Instant} {case : CaseDefinition}
    {status : CaseResultStatus} {failureCategory : String} {errorMessage : Option String} :
    (∃ item, unfinishedCase moment case status failureCategory errorMessage = .ok item) ↔
      (status = .failed ∨ status = .infraError → errorMessage.any (· ≠ "")) := by
  rw [unfinishedCase]
  split
  · rename_i hexplained
    exact ⟨fun _ => hexplained, fun _ => ⟨_, rfl⟩⟩
  · rename_i hunexplained
    refine ⟨?_, fun h => absurd h hunexplained⟩
    rintro ⟨item, hitem⟩
    cases hitem

theorem abortedCase_eq_ok {moment : Instant} {failureCategory errorMessage : String}
    {case : CaseDefinition} {item : CaseResult}
    (h : abortedCase moment failureCategory errorMessage case = .ok item) :
    (item.caseId, item.caseCode) = (case.caseId, case.caseCode) ∧
      (case.enabled = true → item.status = .infraError) ∧ item.artifactIds = [] := by
  rw [abortedCase] at h
  split at h
  · obtain ⟨hcase, hstatus, hartifacts⟩ := unfinishedCase_eq_ok h
    exact ⟨hcase, fun _ => hstatus, hartifacts⟩
  · rename_i hdisabled
    obtain ⟨hcase, -, hartifacts⟩ := unfinishedCase_eq_ok h
    exact ⟨hcase, fun henabled => absurd henabled hdisabled, hartifacts⟩

theorem exists_abortedCase {moment : Instant} {failureCategory errorMessage : String}
    {case : CaseDefinition} (henabled : case.enabled = true) :
    (∃ item, abortedCase moment failureCategory errorMessage case = .ok item) ↔
      errorMessage ≠ "" := by
  rw [abortedCase, if_pos henabled, exists_unfinishedCase]
  simp only [or_true, true_implies, Option.any_some, decide_eq_true_eq]

/-- All enabled cases of a job fail for one reason exactly when there is a text for it. -/
theorem exists_abortedCases {moment : Instant} {failureCategory errorMessage : String}
    {cases : List CaseDefinition} (h : Executable cases) :
    (∃ items, cases.mapM (abortedCase moment failureCategory errorMessage) = .ok items) ↔
      errorMessage ≠ "" := by
  rw [exists_mapM_ok]
  constructor
  · intro hall
    obtain ⟨case, hcase⟩ := List.exists_mem_of_ne_nil _ h.nonempty
    exact (exists_abortedCase (h.enabled case hcase)).mp (hall case hcase)
  · intro htext case hcase
    exact (exists_abortedCase (h.enabled case hcase)).mpr htext

theorem take_ne_empty {text : String} :
    String.ofList (text.toList.take 2000) ≠ "" ↔ text ≠ "" := by
  rw [not_iff_not, ← String.toList_inj, ← String.toList_inj, String.toList_ofList]
  simp

variable {moment : Instant} {job : RunSnapshot} {runnerVersion : String} {error : WorkerError}
  {result : RunResult}

/-- An infrastructure error has the case it needs. -/
theorem handled_of_aborted {failureCategory errorMessage : String} {items : List CaseResult}
    (h : Executable job.cases)
    (hitems : job.cases.mapM (abortedCase moment failureCategory errorMessage) = .ok items)
    (hresult : result.caseResults = items) (hrunId : result.runId = job.runId)
    (hstatus : result.status ∈ [.canceled, .timedOut, .infraError])
    (hartifacts : result.artifacts = []) : Handled job result where
  runId := hrunId
  status := hstatus
  covers := by
    rw [Covers, hresult]
    exact map_of_mapM_ok (fun _ _ hitem => (abortedCase_eq_ok hitem).1) hitems
  noArtifacts := hartifacts
  noReferences item hitem := by
    obtain ⟨case, -, hcase⟩ := (mem_of_mapM_ok hitems).mp (hresult ▸ hitem)
    exact (abortedCase_eq_ok hcase).2.2
  failed := by
    intro _
    obtain ⟨case, hcase⟩ := List.exists_mem_of_ne_nil _ h.nonempty
    obtain ⟨item, hitem⟩ := exists_mapM_ok.mp ⟨items, hitems⟩ case hcase
    exact ⟨item, hresult ▸ (mem_of_mapM_ok hitems).mpr ⟨case, hcase, hitem⟩,
      (abortedCase_eq_ok hitem).2.1 (h.enabled case hcase)⟩

/-- There is a recovery result exactly when the exception has a text. -/
theorem recoveryResult_spec (h : Executable job.cases)
    (executionIsolation : Option RunExecutionIsolationEvidence) :
    ((∃ result, recoveryResult moment job error runnerVersion executionIsolation = .ok result) ↔
      error.text ≠ "") ∧
    ∀ result, recoveryResult moment job error runnerVersion executionIsolation = .ok result →
      Handled job result ∧ result.status = .infraError := by
  constructor
  · rw [← take_ne_empty, ← exists_abortedCases h]
    simp only [recoveryResult, bind_eq_ok, pure_eq_ok]
    constructor
    · rintro ⟨-, items, hitems, -⟩
      exact ⟨items, hitems⟩
    · rintro ⟨items, hitems⟩
      exact ⟨_, items, hitems, rfl⟩
  · intro result hresult
    simp only [recoveryResult, bind_eq_ok, pure_eq_ok] at hresult
    obtain ⟨items, hitems, rfl⟩ := hresult
    exact ⟨handled_of_aborted h hitems rfl rfl (by simp) rfl, rfl⟩

/-- There is always a result of a run that timed out. -/
theorem timedOutResult_spec (h : Executable job.cases)
    (executionIsolation : RunExecutionIsolationEvidence) :
    ∃ result, timedOutResult moment job runnerVersion executionIsolation = .ok result ∧
      Handled job result ∧ result.status = .timedOut := by
  obtain ⟨items, hitems⟩ := (@exists_abortedCases moment "EXECUTOR_TIMEOUT"
    "isolated Run exceeded executor timeout" _ h).mpr (by decide)
  cases hresult : timedOutResult moment job runnerVersion executionIsolation with
  | error failure =>
    simp only [timedOutResult, hitems, ok_bind, pure, Except.pure, reduceCtorEq] at hresult
  | ok result =>
    simp only [timedOutResult, hitems, ok_bind, pure_eq_ok] at hresult
    subst hresult
    exact ⟨_, rfl, handled_of_aborted h hitems rfl rfl (by simp) rfl, rfl⟩

/-- There is always a result of a run that was canceled. -/
theorem canceledResult_spec (moment : Instant) (job : RunSnapshot) (runnerVersion : String)
    (executionIsolation : Option RunExecutionIsolationEvidence) :
    ∃ result, canceledResult moment job runnerVersion executionIsolation = .ok result ∧
      Handled job result ∧ result.status = .canceled := by
  have hcases : ∀ case ∈ job.cases,
      ∃ item, unfinishedCase moment case .skipped "run canceled" none = .ok item :=
    fun case _ => exists_unfinishedCase.mpr fun hfailed => by simp at hfailed
  obtain ⟨items, hitems⟩ := exists_mapM_ok.mpr hcases
  cases hresult : canceledResult moment job runnerVersion executionIsolation with
  | error failure =>
    simp only [canceledResult, hitems, ok_bind, pure, Except.pure, reduceCtorEq] at hresult
  | ok result =>
    simp only [canceledResult, hitems, ok_bind, pure_eq_ok] at hresult
    subst hresult
    refine ⟨_, rfl, ⟨rfl, by simp, ?covers, rfl, ?noReferences, fun hfailed => by cases hfailed⟩,
      rfl⟩
    case covers => exact map_of_mapM_ok (fun _ _ hitem => (unfinishedCase_eq_ok hitem).1) hitems
    case noReferences =>
      intro item hitem
      obtain ⟨case, -, hcase⟩ := (mem_of_mapM_ok hitems).mp hitem
      exact (unfinishedCase_eq_ok hcase).2.2

/-! ### What is left of an exception -/

variable {decode : Bytes → Option RunnerEvent} {task : RunTask} {plane : ControlPlaneAnswers}
  {run : TestRunRecord} {s : State}

/-- The task gets as far as the attempt; a catalog raises nothing about the isolation of a run. -/
structure RunTask.Attempted (task : RunTask) : Prop where
  initialState : ∃ view, task.initialState = .ok view ∧ view.status.isTerminal = false ∧
    view.cancelRequested = false
  existing : task.existing = .ok none
  runtime : RaisesOnly WorkerError.Mild task.runtime

/-- The handler of the exception does not quote it, or it has a text. -/
def RunTask.Explains (task : RunTask) : WorkerError → Prop
  | .isolated .canceled _ _ => True
  | .isolated .timedOut text executionIsolation => text ≠ "" ∨
    (failedIsolationEvidence task.execution.mode task.runnerVersion executionIsolation).isSome
  | .isolated .failed text _ | .packageRuntimeUnavailable text | .other text => text ≠ ""

/-- An execution that timed out. -/
def WorkerError.TimedOut : WorkerError → Prop
  | .isolated .timedOut _ _ => True
  | _ => False

/-- A handler builds a result for what it can explain, and reports a timeout for a timeout only. -/
theorem recover_spec (h : Executable task.job.cases) :
    ((∃ result, task.recover error = .ok result) ↔ task.Explains error) ∧
    ∀ result, task.recover error = .ok result →
      Handled task.job result ∧ (result.status = .timedOut → error.TimedOut) := by
  have hrecovery : ∀ (error : WorkerError) (executionIsolation), error.text ≠ "" ↔ _ :=
    fun error executionIsolation => ((@recoveryResult_spec task.moment task.job task.runnerVersion
      error h executionIsolation).1).symm
  have hinfra : ∀ (error : WorkerError) (executionIsolation result),
      recoveryResult task.moment task.job error task.runnerVersion executionIsolation =
        .ok result →
      Handled task.job result ∧ (result.status = .timedOut → error.TimedOut) := by
    intro error executionIsolation result hresult
    obtain ⟨hhandled, hstatus⟩ := (recoveryResult_spec h executionIsolation).2 result hresult
    exact ⟨hhandled, fun htimedOut => by rw [hstatus] at htimedOut; cases htimedOut⟩
  cases error with
  | packageRuntimeUnavailable text =>
    exact ⟨(hrecovery (.packageRuntimeUnavailable text) none).symm, hinfra _ _⟩
  | other text => exact ⟨(hrecovery (.other text) none).symm, hinfra _ _⟩
  | isolated kind text executionIsolation =>
    cases kind with
    | failed => exact ⟨(hrecovery (.isolated .failed text executionIsolation) _).symm, hinfra _ _⟩
    | canceled =>
      obtain ⟨result, hresult, hhandled, hstatus⟩ := canceledResult_spec task.moment task.job
        task.runnerVersion
        (failedIsolationEvidence task.execution.mode task.runnerVersion executionIsolation)
      refine ⟨⟨fun _ => trivial, fun _ => ⟨result, hresult⟩⟩, fun result' hresult' => ?_⟩
      obtain rfl := Except.ok.inj (hresult.symm.trans hresult')
      exact ⟨hhandled, fun htimedOut => by rw [hstatus] at htimedOut; cases htimedOut⟩
    | timedOut =>
      simp only [RunTask.recover, RunTask.Explains]
      cases hevidence : failedIsolationEvidence task.execution.mode task.runnerVersion
          executionIsolation with
      | none =>
        simp only [Option.isSome_none, Bool.false_eq_true, or_false]
        exact ⟨(hrecovery (.isolated .timedOut text executionIsolation) none).symm, hinfra _ _⟩
      | some evidence =>
        obtain ⟨result, hresult, hhandled, -⟩ :=
          @timedOutResult_spec task.moment task.job task.runnerVersion h evidence
        refine ⟨⟨fun _ => .inr rfl, fun _ => ⟨result, hresult⟩⟩, fun result' hresult' => ?_⟩
        obtain rfl := Except.ok.inj (hresult.symm.trans hresult')
        exact ⟨hhandled, fun _ => trivial⟩

/-- A timeout comes from the execution, after the RUNNING callback. -/
theorem running_of_timedOut (hattempted : task.Attempted)
    (hfailed : task.attempt decode plane = .error error) (htimedOut : error.TimedOut) :
    task.running = .ok () := by
  cases hrunning : task.running with
  | ok u => rfl
  | error failure =>
    have hmild : RaisesOnly WorkerError.Mild (task.attempt decode plane) := by
      have hraised : ∀ answer : Except TransportError Unit,
          RaisesOnly WorkerError.Mild (raised answer) := by
        rintro (failure | u) e he
        · obtain rfl := Except.error.inj he
          trivial
        · cases he
      refine (hraised _).bind fun _ _ => hattempted.runtime.bind fun runnerType _ => ?_
      refine (raisesOnly_ensure trivial).bind fun _ _ => ?_
      rw [hrunning]
      exact raisesOnly_error.mpr trivial
    have := hmild error hfailed
    cases error with
    | isolated kind text executionIsolation => cases kind <;> first | exact this.elim | cases htimedOut
    | packageRuntimeUnavailable text => cases htimedOut
    | other text => cases htimedOut

/-- The control plane has a live run of the job, and has answered the RUNNING callback if anybody
    has. -/
structure ServesTask (P : Primitives) (s : State) (task : RunTask) (run : TestRunRecord) :
    Prop where
  reachable : (controlPlane P).Reachable s
  mem : run ∈ s.db.runs
  id : run.id = task.job.runId
  snapshot : run.snapshot = task.job
  live : run.status.isTerminal = false
  acknowledged : task.running = .ok () → ∃ s₁ s₂ now workerKey, (controlPlane P).Reachable s₁ ∧
    step P s₁ (.updateRunStatus now task.job.runId .running workerKey) = .ok s₂ ∧
    (controlPlane P).Steps s₂ s

/-- The run has been told to run. -/
def ToldToRun (runId : UUID) (db : Database) : Prop :=
  ∃ run ∈ db.runs, run.id = runId ∧ (run.status = .running ∨ run.status.isTerminal = true)

theorem toldToRun_updateRunStatus {now : Instant} {runId : UUID} {workerKey : Option String}
    (h : updateRunStatus now runId .running workerKey db = .ok db') : ToldToRun runId db' := by
  simp only [updateRunStatus, bind_eq_ok, ensure_eq_ok, lockedRun_eq_ok, Prod.exists] at h
  obtain ⟨-, -, run, hrun, leases, workers, -, h⟩ := h
  split at h
  · rename_i hrunning
    rw [← pure_eq_ok.mp h]
    exact ⟨run, Table.mem_of_get? hrun, Table.key_of_get? hrun, .inl hrunning⟩
  · simp only [bind_eq_ok, pure_eq_ok] at h
    obtain ⟨-, -, rfl⟩ := h
    have hid := Table.key_of_get? hrun
    refine ⟨_, Table.mem_modify_image (Table.mem_of_get? hrun), ?_⟩
    rw [if_pos hid]
    exact ⟨hid, .inl rfl⟩

theorem toldToRun_step {runId : UUID} {s s' : State} {a : Action} (h : step P s a = .ok s')
    (htold : ToldToRun runId s.db) : ToldToRun runId s'.db := by
  obtain ⟨run, hrun, hid, hstatus⟩ := htold
  obtain ⟨run', hrun', hid', hof⟩ := step_runs h run hrun
  refine ⟨run', hrun', hid'.trans hid, ?_⟩
  rcases hof.edge with hsame | hallowed
  · rwa [hsame]
  · rcases hstatus with hrunning | hended
    · rw [hrunning] at hallowed
      simp only [allowedRunTransitions, List.mem_cons, List.not_mem_nil, or_false] at hallowed
      rcases hallowed with heq | heq | heq | heq | heq <;> exact .inr (heq ▸ rfl)
    · rw [not_terminal_of_allowed hallowed] at hended
      cases hended

/-- A live run whose RUNNING callback was answered is running. -/
theorem ServesTask.running (h : ServesTask P s task run) (hrunning : task.running = .ok ()) :
    run.status = .running := by
  obtain ⟨s₁, s₂, now, workerKey, hreach, hstep, hsteps⟩ := h.acknowledged hrunning
  have htold₂ : ToldToRun task.job.runId s₂.db := by
    have hcommit := hstep
    simp only [step, Action.commit, bind_eq_ok, pure_eq_ok] at hcommit
    obtain ⟨db, hcommit, rfl⟩ := hcommit
    exact toldToRun_updateRunStatus hcommit
  have htold : ToldToRun task.job.runId s.db :=
    hsteps.preserves (hreach.step hstep) (p := fun s => ToldToRun task.job.runId s.db)
      (fun _ _ _ _ hnext => toldToRun_step hnext) htold₂
  obtain ⟨run', hrun', hid, hstatus⟩ := htold
  obtain rfl := Table.eq_of_key_eq hrun' h.mem (hid.trans h.id.symm)
  rcases hstatus with hrunning | hended
  · exact hrunning
  · rw [h.live] at hended
    cases hended

theorem executeRun_failed (hattempted : task.Attempted)
    (hfailed : task.attempt decode plane = .error error) :
    executeRun decode task plane = task.conclude (task.recover error) := by
  obtain ⟨view, hview, hterminal, hcancel⟩ := hattempted.initialState
  simp only [executeRun, hview, hattempted.existing, hterminal, hcancel, hfailed,
    Bool.false_eq_true, if_false]

/-- Whatever a live run is doing, it can be canceled, and it can end in an infrastructure error. -/
theorem allowed_of_live {current target : RunStatus} (hlive : current.isTerminal = false)
    (h : target = .canceled ∨ target = .infraError) : target ∈ allowedRunTransitions current := by
  rcases h with rfl | rfl <;> cases current <;> simp_all [allowedRunTransitions,
    RunStatus.isTerminal]

namespace Installation

/-- The snapshot that run 20 is queued with. -/
def queuedSnapshot : RunSnapshot :=
  { runSnapshot with
    caseBaseline := ⟨10, "v1", primitives.canonicalSha256 (.baseline baseline), 2⟩
    automationPackage := { runSnapshot.automationPackage with
      supplyChain := some ⟨4, 0, "1", "verifier", 0, 0, 0, "issuer", "identity", "builder",
        "repository", "revision"⟩ } }

/-- The adapter of run 20 raises an exception with this text. -/
def failingTask (text : String) : RunTask :=
  { deliveredTask with
    job := queuedSnapshot
    execution := .inProcess (.ok ()) (.finish (.error (.other text))) }

theorem failingTask_attempted (text : String) : (failingTask text).Attempted where
  initialState := ⟨_, rfl, rfl, rfl⟩
  existing := rfl
  runtime := raisesOnly_ok _

/-- Run 20 is running when its adapter raises. -/
theorem exists_servesTask (text : String) : ∃ s run,
    ServesTask primitives s (failingTask text) run ∧ DistinctRecipients primitives s.db := by
  have hrun : Leads [queueRun, dispatchBatch, .updateRunStatus 0 20 .preparing (some "worker")]
      fun s => Transition.Ends (step primitives) s [.updateRunStatus 0 20 .running none] fun s' =>
        (∃ run ∈ s'.db.runs.rows, run.id = 20 ∧ run.snapshot = queuedSnapshot ∧
          run.status = .running) ∧
        ∀ preference ∈ s'.db.emailPreferences.rows,
          ((selectedPreferenceEmails primitives (some preference)).map fun recipient =>
            primitives.sha256Prefix (primitives.casefold recipient)).Nodup := by
    decide +kernel
  obtain ⟨s₁, hreach, hlast⟩ := hrun.exists_reachable
  rw [Transition.ends_singleton] at hlast
  obtain ⟨s₂, hstep, ⟨run, hmem, hid, hsnapshot, hstatus⟩, hdistinct⟩ := hlast
  refine ⟨s₂, run, ⟨hreach.step hstep, hmem, hid, hsnapshot, by rw [hstatus]; rfl, fun _ => ?_⟩,
    hdistinct⟩
  exact ⟨s₁, s₂, 0, none, hreach, hstep, .refl⟩

end Installation

end TestOps

import TestOps.Invariants.RunState

/-! The case rows of a run: one for each case of its snapshot. Nothing central settles them: the result
    callback stores the result of each case, the reliability sweep overwrites what is still in
    flight, and a cancellation leaves them alone. A run that is running when it is cancelled ends
    later, through one of the other two, but a queued run ends at once.

    A recorded result therefore has exactly one case result for each case of the snapshot. -/

namespace TestOps

open Checked Relational Transition

variable {P : Primitives} {db db' : Database}

/-! ### Settled cases -/

/-- No case of the run is still queued, preparing or running. -/
def Settled (runCases : RunCaseTable) (runId : UUID) : Prop :=
  ∀ case ∈ runCases, case.runId = runId → case.status.inFlight = false

/-- Every terminal run has settled all of its cases. -/
def CasesSettled (db : Database) : Prop :=
  ∀ run ∈ db.runs, run.status.isTerminal = true → Settled db.runCases run.id

variable {runCases runCases' : RunCaseTable} {runId : UUID}

/-- A row after a result is stored was given a case result, or there was none for it. -/
theorem mem_settleRunCases {items : List CaseResult} {case' : RunCaseRecord}
    (h : case' ∈ settleRunCases runId items runCases) :
    (∃ item ∈ items, item.caseId = case'.caseId ∧ case'.status = item.status.value) ∨
      (case' ∈ runCases ∧ ∀ item ∈ items, (runId, item.caseId) ≠ (case'.runId, case'.caseId)) := by
  induction items generalizing runCases with
  | nil => exact .inr ⟨h, fun _ hitem => absurd hitem List.not_mem_nil⟩
  | cons item items ih =>
    rcases ih h with ⟨later, hlater, hstored⟩ | ⟨hmem, hother⟩
    · exact .inl ⟨later, List.mem_cons_of_mem _ hlater, hstored⟩
    · obtain ⟨case, hcase, rfl⟩ := Table.mem_modify.mp hmem
      by_cases hkey : (case.runId, case.caseId) = (runId, item.caseId)
      · rw [if_pos hkey]
        exact .inl ⟨item, List.mem_cons_self, (Prod.mk.inj hkey).2.symm, rfl⟩
      · rw [if_neg hkey] at hother ⊢
        refine .inr ⟨hcase, List.forall_mem_cons.mpr ⟨fun heq => hkey heq.symm, hother⟩⟩

theorem CaseResultStatus.not_inFlight (status : CaseResultStatus) :
    status.value.inFlight = false := by cases status <;> rfl

/-- A result that matches the stored cases settles them all. -/
theorem settled_settleRunCases {result : RunResult}
    (hmatch : requireMatchingCases result
      (runCases.rows.filter fun case => case.runId = runId) = .ok ()) :
    Settled (settleRunCases runId result.caseResults runCases) runId := by
  simp only [requireMatchingCases, bind_eq_ok, ensure_eq_ok] at hmatch
  obtain ⟨-, -, -, ⟨-, hstored⟩, -⟩ := hmatch
  intro case' hmem hrun
  rcases mem_settleRunCases hmem with ⟨item, -, -, hstatus⟩ | ⟨hold, hother⟩
  · rw [hstatus, item.status.not_inFlight]
  · have hcaseId : case'.caseId ∈ result.caseResults.map CaseResult.caseId :=
      hstored (List.mem_map.mpr ⟨case', List.mem_filter.mpr ⟨hold, by simpa using hrun⟩, rfl⟩)
    obtain ⟨item, hitem, hid⟩ := List.mem_map.mp hcaseId
    exact absurd (by rw [hrun, hid]) (hother item hitem)

/-- Storing a result leaves the cases of other runs as they are. -/
theorem Settled.settleRunCases {items : List CaseResult} {other : UUID}
    (h : Settled runCases other) : Settled (settleRunCases runId items runCases) other := by
  intro case' hmem hrun
  rcases mem_settleRunCases hmem with ⟨item, -, -, hstatus⟩ | ⟨hold, -⟩
  · rw [hstatus, item.status.not_inFlight]
  · exact h case' hold hrun

theorem settled_recoverRunCases {target : RunStatus} {message : String}
    (htarget : target.isTerminal = true) :
    Settled (recoverRunCases runId target message runCases) runId := by
  intro case' hmem hrun
  obtain ⟨case, hcase, rfl⟩ := Table.mem_modifyWhere.mp hmem
  split
  · revert htarget
    cases target <;> simp [RunStatus.isTerminal, RunStatus.value, StatusValue.inFlight]
  · rename_i hsettled
    simp only [if_neg hsettled] at hrun
    simpa [hrun] using hsettled

theorem Settled.recoverRunCases {target : RunStatus} {message : String} {other : UUID}
    (htarget : target.isTerminal = true) (h : Settled runCases other) :
    Settled (recoverRunCases runId target message runCases) other := by
  intro case' hmem hrun
  obtain ⟨case, hcase, rfl⟩ := Table.mem_modifyWhere.mp hmem
  split
  · revert htarget
    cases target <;> simp [RunStatus.isTerminal, RunStatus.value, StatusValue.inFlight]
  · rename_i hsettled
    rw [if_neg hsettled] at hrun
    exact h case hcase hrun

/-! ### One write -/

/-- If the run is queued, none of its cases is in flight. -/
def SettledIfQueued (runId : UUID) (db : Database) : Prop :=
  ∀ run, db.runs.get? runId = some run → run.status = .queued → Settled db.runCases runId

/-- A run row is rewritten; if that ends the run, its cases are settled. -/
theorem CasesSettled.modify_run {f : TestRunRecord → TestRunRecord}
    {hf : KeepsKey TestRunRecord.id f} (h : CasesSettled db)
    (hothers : ∀ other, Settled db.runCases other → Settled runCases other)
    (hends : ∀ run, db.runs.get? runId = some run → (f run).status.isTerminal = true →
      Settled runCases runId) :
    ∀ run ∈ db.runs.modify runId f hf, run.status.isTerminal = true →
      Settled runCases run.id := by
  intro run' hrun' hended
  obtain ⟨run, hrun, rfl⟩ := Table.mem_modify.mp hrun'
  by_cases hid : run.id = runId
  · rw [if_pos hid] at hended ⊢
    rw [hf.eq, hid]
    exact hends run (Table.get?_eq_some.mpr ⟨hrun, hid⟩) hended
  · rw [if_neg hid] at hended ⊢
    exact hothers _ (h run hrun hended)

/-- Every write keeps the cases settled, unless it cancels a queued run with cases in flight. -/
theorem casesSettled_write {effect : Effect} (hw : Write P effect db db')
    (hcancel : ∀ runId, effect = .runCanceled runId → SettledIfQueued runId db)
    (hi : CasesSettled db) : CasesSettled db' := by
  cases hw with
  | configured | poolCreated | poolUpdated | workersChanged | preferencesChanged
  | deliveriesRewritten | testDeliveriesAdded | outboxChanged | slotBound | eventLogged
  | leaseReleased | leaseAcquired | baselinePublished | packageActivated | requestCreated
  | requestEdited | requestSubmitted | requestReviewed | validationSkipped | validationLinked
  | requestPublished => exact hi
  | runQueued plan runs runEvents runCases outbox horigin hkey hruns hcases =>
    intro run hrun hended case hcase hid
    rcases (Table.mem_insert? hruns).mp hrun with hrun | rfl
    · rcases (Table.mem_insertAll? hcases).mp hcase with hcase | hcase
      · exact hi run hrun hended case hcase hid
      · obtain ⟨_, -, rfl⟩ := List.mem_map.mp hcase
        exact absurd hid.symm ((Table.insert?_eq_some.mp hruns).1 run hrun)
    · cases hended
  | runStarted now runId target run runEvents hrun htarget hallowed =>
    refine hi.modify_run (fun _ => id) fun _ _ hended => ?_
    rcases htarget with rfl | rfl <;> cases hended
  | eventRecorded runId run runEvents runCase status hrun hlive hcase hrunCase =>
    -- the run of the case is live, so the case is none of a terminal run
    intro run' hrun' hended case' hcase' hid
    obtain ⟨case, hcase, rfl⟩ := Table.mem_modify.mp hcase'
    by_cases hkey : (case.runId, case.caseId) = (runId, runCase.caseId)
    · rw [if_pos hkey] at hid
      have hsame : run'.id = runId := hid.symm.trans (Prod.mk.inj hkey).1
      rw [← hsame, Table.get?_key hrun'] at hrun
      rw [Option.some.inj hrun, hlive] at hended
      cases hended
    · rw [if_neg hkey] at hid ⊢
      exact hi run' hrun' hended case hcase hid
  | resultRecorded now runId result run artifacts deliveries runEvents _ _ _ _ hmatch =>
    exact hi.modify_run (fun _ => .settleRunCases) fun _ _ _ => settled_settleRunCases hmatch
  | runCanceled now runId run deliveries outbox runEvents hrun hlive hfirst hqueued =>
    refine hi.modify_run (fun _ => id) fun run' hrun' _ => ?_
    obtain rfl := Option.some.inj (hrun.symm.trans hrun')
    exact hcancel runId rfl run hrun hqueued
  | cancelRequested now runId run outbox runEvents hrun hlive hfirst hqueued =>
    refine hi.modify_run (fun _ => id) fun run' hrun' hended => ?_
    obtain rfl := Option.some.inj (hrun.symm.trans hrun')
    simp only [canceledRun, if_neg hqueued, hlive] at hended
    cases hended
  | runRecovered moment run reason message runEvents outbox hrun hallowed =>
    have htarget : reason.target.isTerminal = true := by cases reason <;> rfl
    exact hi.modify_run (fun _ => .recoverRunCases htarget) fun _ _ _ =>
      settled_recoverRunCases htarget
  | dispatchMarked runId mark hm =>
    refine hi.modify_run (fun _ => id) fun run hrun hended => ?_
    obtain rfl := Table.key_of_get? hrun
    refine hi run (Table.mem_of_get? hrun) ?_
    cases hm <;> exact hended

/-! ### Whole runs -/

/-- The runs an action cancels. -/
def Action.cancels : Action → List UUID
  | .cancelRun _ _ runId => [runId]
  | .cancelRuns _ _ _ runIds => runIds
  | _ => []

/-- No run the action cancels is queued with a case still in flight. -/
def CancelsSettled (s : State) (a : Action) : Prop :=
  ∀ runId ∈ a.cancels, SettledIfQueued runId s.db

theorem Action.allows_runCanceled {a : Action} :
    a.allows (.runCanceled runId) ↔ runId ∈ a.cancels := by
  cases a <;> simp [Action.allows, Action.cancels, eq_comm]

/-- An action that cancels runs does nothing else. -/
theorem Action.cancels_only {a : Action} {effect : Effect} (hcancels : a.cancels ≠ [])
    (h : a.allows effect) : ∃ runId ∈ a.cancels, effect = .runCanceled runId := by
  cases a with
  | cancelRun now outboxId runId => exact ⟨runId, List.mem_singleton_self _, h⟩
  | cancelRuns now outboxId projectId runIds => exact h
  | _ => exact absurd rfl hcancels

/-- A cancellation settles no case, and what it does to one run does not reach the others. -/
theorem cancel_write (hw : Write P (.runCanceled runId) db db') :
    db'.runCases = db.runCases ∧
      ∀ other, SettledIfQueued other db → SettledIfQueued other db' := by
  have hkeep : ∀ now other run', (db.runs.modify runId (canceledRun now)).get? other = some run' →
      run'.status = .queued → db.runs.get? other = some run' := by
    intro now other run' hrun' hqueued
    rw [Table.get?_modify] at hrun'
    split at hrun'
    · obtain ⟨run, -, rfl⟩ := Option.map_eq_some_iff.mp hrun'
      simp only [canceledRun] at hqueued
      split at hqueued
      · cases hqueued
      · contradiction
    · exact hrun'
  cases hw with
  | runCanceled now => exact ⟨rfl, fun other h run hrun hq => h run (hkeep now other run hrun hq) hq⟩
  | cancelRequested now =>
    exact ⟨rfl, fun other h run hrun hq => h run (hkeep now other run hrun hq) hq⟩

theorem casesSettled_step {s s' : State} {a : Action} (h : step P s a = .ok s')
    (hcancels : CancelsSettled s a) (hi : CasesSettled s.db) : CasesSettled s'.db := by
  by_cases hnone : a.cancels = []
  · refine (step_writes h).invariant (fun effect _ _ hp hw => casesSettled_write hw ?_) hi
    rintro runId rfl
    have hmem := Action.allows_runCanceled.mp hp
    rw [hnone] at hmem
    cases hmem
  · -- along the writes of a cancellation the runs it has still to cancel keep their rows
    have hboth := (step_writes h).invariant
      (p := fun db => CasesSettled db ∧ ∀ runId ∈ a.cancels, SettledIfQueued runId db)
      (fun effect _ _ hp hw ⟨hsettled, hqueued⟩ => by
        obtain ⟨runId, hmem, rfl⟩ := Action.cancels_only hnone hp
        refine ⟨casesSettled_write hw ?_ hsettled, fun other hother =>
          (cancel_write hw).2 other (hqueued other hother)⟩
        rintro _ ⟨⟩
        exact hqueued runId hmem) ⟨hi, hcancels⟩
    exact hboth.1

/-- In a run whose cancellations never hit a queued run with cases in flight, every terminal run
    has settled its cases. No cancellation ever settles a case itself. -/
theorem terminal_run_settled :
    (∀ s, ((controlPlane P).restrict CancelsSettled).Reachable s →
      ∀ run ∈ s.db.runs, run.status.isTerminal = true →
      ∀ case ∈ s.db.runCases, case.runId = run.id → case.status.inFlight = false) ∧
    ∀ s a s', step P s a = .ok s' → a.cancels ≠ [] → s'.db.runCases = s.db.runCases := by
  constructor
  · intro s hs
    have hi : CasesSettled s.db := by
      refine hs.invariant (p := fun s => CasesSettled s.db) ?_ ?_
      · rintro s rfl run hrun
        exact absurd hrun Table.not_mem_empty
      · exact fun s a s' hstep hi => casesSettled_step hstep.2 hstep.1 hi
    exact hi
  · intro s a s' hstep hcancels
    refine (step_writes hstep).rel (r := fun db db' => db'.runCases = db.runCases) (fun _ => rfl)
      (fun _ _ _ hab hbc => hbc.trans hab) fun effect _ _ hp hw => ?_
    obtain ⟨runId, -, rfl⟩ := Action.cancels_only hcancels hp
    exact (cancel_write hw).1

open Installation in
/-- Run 20 passes and nothing cancels it: its cases are settled. -/
theorem terminal_run_settled_passed :
    ∃ s, ((controlPlane primitives).restrict CancelsSettled).Reachable s ∧
      (∃ run ∈ s.db.runs.rows, run.id = 20 ∧ run.status = .passed) ∧
      ∀ run ∈ s.db.runs, run.status.isTerminal = true →
        ∀ case ∈ s.db.runCases, case.runId = run.id → case.status.inFlight = false := by
  have hrun : Leads [queueRun, dispatchBatch, .updateRunStatus 0 20 .preparing (some "worker"),
      .updateRunStatus 0 20 .running none,
      .recordRunResult 1 20 (passed 20 [caseResult caseA .passed, caseResult caseB .passed])]
      fun s => ∃ run ∈ s.db.runs.rows, run.id = 20 ∧ run.status = .passed := by
    decide +kernel
  obtain ⟨s, hs, hpassed⟩ := hrun.exists_restricted (g := CancelsSettled)
    (by simp [CancelsSettled, Action.cancels, setUp, queueRun, dispatchBatch])
  exact ⟨s, hs, hpassed, terminal_run_settled.1 s hs⟩

open Installation in
/-- Run 20 is cancelled right after it was queued: it has ended, and its cases still say QUEUED. -/
theorem canceled_queued_run_keeps_cases : ∃ s, (controlPlane primitives).Reachable s ∧
    ∃ run ∈ s.db.runs.rows, run.status.isTerminal = true ∧
      ∃ case ∈ s.db.runCases.rows, case.runId = run.id ∧ case.status = .queued := by
  have hrun : Leads [queueRun, .cancelRun 1 31 20] fun s =>
      ∃ run ∈ s.db.runs.rows, run.status.isTerminal = true ∧
        ∃ case ∈ s.db.runCases.rows, case.runId = run.id ∧ case.status = .queued := by
    decide +kernel
  exact hrun.exists_reachable

/-! ### Case rows and snapshots -/

/-- The case rows of a run are those of the cases in its snapshot. -/
structure CaseRows (db : Database) : Prop where
  known : ∀ case ∈ db.runCases, ∃ run ∈ db.runs, run.id = case.runId ∧
    ∃ definition ∈ run.snapshot.cases, definition.caseId = case.caseId
  complete : ∀ run ∈ db.runs, ∀ definition ∈ run.snapshot.cases,
    ∃ case ∈ db.runCases, case.runId = run.id ∧ case.caseId = definition.caseId

/-- The rows are the same up to what is stored about them. -/
structure SameCases (runCases runCases' : RunCaseTable) : Prop where
  back : ∀ case' ∈ runCases', ∃ case ∈ runCases,
    (case.runId, case.caseId) = (case'.runId, case'.caseId)
  forth : ∀ case ∈ runCases, ∃ case' ∈ runCases',
    (case'.runId, case'.caseId) = (case.runId, case.caseId)

namespace SameCases

variable {runCases'' : RunCaseTable}

theorem refl (runCases : RunCaseTable) : SameCases runCases runCases :=
  ⟨fun case hmem => ⟨case, hmem, rfl⟩, fun case hmem => ⟨case, hmem, rfl⟩⟩

theorem trans (h : SameCases runCases runCases') (h' : SameCases runCases' runCases'') :
    SameCases runCases runCases'' := by
  constructor
  · intro case'' hmem
    obtain ⟨case', hmem', hkey'⟩ := h'.back case'' hmem
    obtain ⟨case, hmem, hkey⟩ := h.back case' hmem'
    exact ⟨case, hmem, hkey.trans hkey'⟩
  · intro case hmem
    obtain ⟨case', hmem', hkey⟩ := h.forth case hmem
    obtain ⟨case'', hmem'', hkey'⟩ := h'.forth case' hmem'
    exact ⟨case'', hmem'', hkey'.trans hkey⟩

theorem modifyWhere {p : RunCaseRecord → Bool} {f : RunCaseRecord → RunCaseRecord}
    {hf : KeepsKey (fun case : RunCaseRecord => (case.runId, case.caseId)) f} :
    SameCases runCases (runCases.modifyWhere p f hf) := by
  constructor
  · intro case' hmem
    obtain ⟨case, hcase, rfl⟩ := Table.mem_modifyWhere.mp hmem
    refine ⟨case, hcase, ?_⟩
    split
    · exact (hf.eq case).symm
    · rfl
  · intro case hmem
    refine ⟨_, Table.mem_modifyWhere.mpr ⟨case, hmem, rfl⟩, ?_⟩
    split
    · exact hf.eq case
    · rfl

theorem modify {key : UUID × UUID} {f : RunCaseRecord → RunCaseRecord}
    {hf : KeepsKey (fun case : RunCaseRecord => (case.runId, case.caseId)) f} :
    SameCases runCases (runCases.modify key f hf) := by
  rw [Table.modify_def]
  exact .modifyWhere

theorem settle {items : List CaseResult} :
    SameCases runCases (settleRunCases runId items runCases) := by
  induction items generalizing runCases with
  | nil => exact .refl runCases
  | cons item items ih => exact SameCases.modify.trans ih

end SameCases

/-- Only queueing a run adds case rows. -/
theorem sameCases_write {effect : Effect} (hw : Write P effect db db')
    (heffect : ∀ plan, effect ≠ .runQueued plan) : SameCases db.runCases db'.runCases := by
  cases hw with
  | configured | poolCreated | poolUpdated | workersChanged | preferencesChanged
  | deliveriesRewritten | testDeliveriesAdded | outboxChanged | slotBound | runStarted
  | eventLogged | runCanceled | cancelRequested | leaseReleased | leaseAcquired | dispatchMarked
  | baselinePublished | packageActivated | requestCreated | requestEdited | requestSubmitted
  | requestReviewed | validationSkipped | validationLinked | requestPublished => exact .refl _
  | runQueued plan => exact absurd rfl (heffect plan)
  | eventRecorded => exact .modify
  | resultRecorded => exact .settle
  | runRecovered => exact .modifyWhere

/-- The rows of a queued run are those of its plan. -/
theorem mem_runCases_plan {plan : RunPlan} {case : RunCaseRecord} (h : case ∈ plan.runCases) :
    case.runId = plan.snapshot.runId ∧
      ∃ definition ∈ plan.snapshot.cases, definition.caseId = case.caseId := by
  obtain ⟨⟨definition, i⟩, hmem, rfl⟩ := List.mem_map.mp h
  exact ⟨rfl, definition, (List.mem_zipIdx' hmem).2 ▸ List.getElem_mem _, rfl⟩

theorem exists_runCases_plan {plan : RunPlan} {definition : CaseDefinition}
    (h : definition ∈ plan.snapshot.cases) :
    ∃ case ∈ plan.runCases, case.runId = plan.snapshot.runId ∧
      case.caseId = definition.caseId := by
  obtain ⟨i, hi, rfl⟩ := List.mem_iff_getElem.mp h
  refine ⟨_, List.mem_map.mpr ⟨(plan.snapshot.cases[i], i), ?_, rfl⟩, rfl, rfl⟩
  rw [List.mem_zipIdx_iff_getElem?]
  exact List.getElem?_eq_getElem hi

/-- The runs and the case rows after a run was queued. -/
theorem queued_tables {plan : RunPlan} (hw : Write P (.runQueued plan) db db') :
    db.runs.insert? (plan.run P) = some db'.runs ∧
      db.runCases.insertAll? plan.runCases = some db'.runCases := by
  cases hw with
  | runQueued _ runs runEvents runCases outbox horigin hkey hruns hcases => exact ⟨hruns, hcases⟩

/-- Every write keeps the rows and the snapshots together. -/
theorem caseRows_write {effect : Effect} (hw : Write P effect db db') (hi : CaseRows db) :
    CaseRows db' := by
  have hfollows := follows_write hw
  by_cases hqueued : ∃ plan, effect = .runQueued plan
  · obtain ⟨plan, rfl⟩ := hqueued
    obtain ⟨hruns, hcases⟩ := queued_tables hw
    constructor
    · intro case hmem
      rcases (Table.mem_insertAll? hcases).mp hmem with hmem | hmem
      · obtain ⟨run, hrun, hid⟩ := hi.known case hmem
        exact ⟨run, (Table.mem_insert? hruns).mpr (.inl hrun), hid⟩
      · obtain ⟨hid, hdefinition⟩ := mem_runCases_plan hmem
        exact ⟨_, (Table.mem_insert? hruns).mpr (.inr rfl), hid.symm, hdefinition⟩
    · intro run hrun definition hdefinition
      rcases (Table.mem_insert? hruns).mp hrun with hrun | rfl
      · obtain ⟨case, hcase, hkey⟩ := hi.complete run hrun definition hdefinition
        exact ⟨case, (Table.mem_insertAll? hcases).mpr (.inl hcase), hkey⟩
      · obtain ⟨case, hcase, hkey⟩ := exists_runCases_plan hdefinition
        exact ⟨case, (Table.mem_insertAll? hcases).mpr (.inr hcase), hkey⟩
  · have hsame := sameCases_write hw fun plan heq => hqueued ⟨plan, heq⟩
    constructor
    · intro case' hmem
      obtain ⟨case, hcase, hkey⟩ := hsame.back case' hmem
      obtain ⟨hrunId, hcaseId⟩ := Prod.mk.inj hkey
      obtain ⟨run, hrun, hid, hdefinition⟩ := hi.known case hcase
      obtain ⟨run', hrun', hid', hfollow⟩ := hfollows run hrun
      refine ⟨run', hrun', hid'.trans (hid.trans hrunId), ?_⟩
      rw [hfollow.snapshot, ← hcaseId]
      exact hdefinition
    · intro run' hrun' definition hdefinition
      rcases run_write hw hrun' with ⟨run, hrun, hid, hfollow⟩ | ⟨plan, heq, -⟩
      · rw [hfollow.snapshot] at hdefinition
        obtain ⟨case, hcase, hcaseRun, hcaseId⟩ := hi.complete run hrun definition hdefinition
        obtain ⟨case', hcase', hkey⟩ := hsame.forth case hcase
        obtain ⟨hrunId, hcaseId'⟩ := Prod.mk.inj hkey
        exact ⟨case', hcase', hrunId.trans (hcaseRun.trans hid), hcaseId'.trans hcaseId⟩
      · exact absurd ⟨plan, heq⟩ hqueued

/-! ### Recorded results -/

/-- A result has one case result for each case, and when it passed none of them failed. -/
structure ResultMatches (cases : List CaseDefinition) (result : RunResult) : Prop where
  nodup : (result.caseResults.map CaseResult.caseId).Nodup
  ids : ∀ caseId, caseId ∈ result.caseResults.map CaseResult.caseId ↔
    caseId ∈ cases.map CaseDefinition.caseId
  passed : result.status = .passed →
    ∀ item ∈ result.caseResults, item.status = .passed ∨ item.status = .skipped

/-- Every recorded result matches the snapshot of its run. -/
def ResultsMatch (db : Database) : Prop :=
  ∀ run ∈ db.runs, ∀ result, run.resultDocument = some result →
    ResultMatches run.snapshot.cases result

theorem CaseRows.matches {result : RunResult} {run : TestRunRecord} (h : CaseRows db)
    (hrun : db.runs.get? runId = some run)
    (hmatch : requireMatchingCases result
      (db.runCases.rows.filter fun case => case.runId = runId) = .ok ()) :
    ResultMatches run.snapshot.cases result := by
  simp only [requireMatchingCases, requireConsistentStatuses, bind_eq_ok, ensure_eq_ok] at hmatch
  obtain ⟨-, hnodup, -, ⟨hknown, hstored⟩, -, ⟨-, hpassed, -⟩, -⟩ := hmatch
  have hid := Table.key_of_get? hrun
  refine ⟨hnodup, fun caseId => ⟨fun hmem => ?_, fun hmem => ?_⟩, hpassed⟩
  · obtain ⟨case, hcase, rfl⟩ := List.mem_map.mp (hknown hmem)
    obtain ⟨hcase, hcaseRun⟩ := List.mem_filter.mp hcase
    obtain ⟨run', hrun', hid', definition, hdefinition, hcaseId⟩ := h.known case hcase
    obtain rfl := Table.eq_of_key_eq hrun' (Table.mem_of_get? hrun)
      (hid'.trans ((of_decide_eq_true hcaseRun).trans hid.symm))
    exact List.mem_map.mpr ⟨definition, hdefinition, hcaseId⟩
  · obtain ⟨definition, hdefinition, rfl⟩ := List.mem_map.mp hmem
    obtain ⟨case, hcase, hcaseRun, hcaseId⟩ :=
      h.complete run (Table.mem_of_get? hrun) definition hdefinition
    refine hstored (List.mem_map.mpr ⟨case, List.mem_filter.mpr ⟨hcase, ?_⟩, hcaseId⟩)
    simpa using hcaseRun.trans hid

theorem resultsMatch_write {effect : Effect} (hw : Write P effect db db') (hcases : CaseRows db)
    (hi : ResultsMatch db) : ResultsMatch db' := by
  cases hw with
  | configured | poolCreated | poolUpdated | workersChanged | preferencesChanged
  | deliveriesRewritten | testDeliveriesAdded | outboxChanged | slotBound | eventRecorded
  | eventLogged | leaseReleased | leaseAcquired | baselinePublished | packageActivated
  | requestCreated | requestEdited | requestSubmitted | requestReviewed | validationSkipped
  | validationLinked | requestPublished => exact hi
  | runQueued plan runs runEvents runCases outbox horigin hkey hruns =>
    refine Table.forall_insert? hruns hi fun result hdoc => ?_
    rw [RunPlan.run] at hdoc
    cases hdoc
  | resultRecorded now runId result run artifacts deliveries runEvents _ hrun _ _ hmatch =>
    refine Table.forall_modify hi fun run' hrun' _ result' hdoc => ?_
    obtain rfl := Option.some.inj (hrun.symm.trans hrun')
    obtain rfl := Option.some.inj hdoc
    have hmatches := hcases.matches hrun hmatch
    exact hmatches
  | runStarted | runCanceled | cancelRequested | runRecovered =>
    exact Table.forall_modify hi fun _ _ h => h
  | dispatchMarked runId mark hm =>
    refine Table.forall_modify hi fun _ _ h => ?_
    cases hm <;> exact h

theorem resultsMatch_reachable {s : State} (h : (controlPlane P).Reachable s) :
    ResultsMatch s.db := by
  have hboth : CaseRows s.db ∧ ResultsMatch s.db :=
    reachable_invariant (p := fun db => CaseRows db ∧ ResultsMatch db)
      ⟨⟨fun _ hmem => absurd hmem Table.not_mem_empty,
        fun _ hmem => absurd hmem Table.not_mem_empty⟩,
        fun _ hmem => absurd hmem Table.not_mem_empty⟩
      (fun _ _ _ hw hi => ⟨caseRows_write hw hi.1, resultsMatch_write hw hi.1 hi.2⟩) h
  exact hboth.2

/-- Each case of the snapshot has exactly one case result. -/
theorem ResultMatches.single {cases : List CaseDefinition} {result : RunResult}
    (h : ResultMatches cases result) {definition : CaseDefinition} (hmem : definition ∈ cases) :
    ∃ item, result.caseResults.filter (fun item => item.caseId = definition.caseId) = [item] ∧
      item ∈ result.caseResults := by
  obtain ⟨item, hitem, hid⟩ :=
    List.mem_map.mp ((h.ids definition.caseId).mpr (List.mem_map.mpr ⟨definition, hmem, rfl⟩))
  refine ⟨item, ?_, hitem⟩
  rw [← hid]
  have hnodup := h.nodup
  generalize result.caseResults = items at hitem hnodup
  induction items with
  | nil => cases hitem
  | cons first items ih =>
    obtain ⟨hfirst, hrest⟩ := List.nodup_cons.mp hnodup
    rcases List.mem_cons.mp hitem with rfl | hitem
    · rw [List.filter_cons_of_pos (by simp), List.filter_eq_nil_iff.mpr]
      intro other hother hsame
      exact hfirst (List.mem_map.mpr ⟨other, hother, of_decide_eq_true hsame⟩)
    · rw [List.filter_cons_of_neg, ih hitem hrest]
      rw [decide_eq_true_eq]
      exact fun hsame => hfirst (List.mem_map.mpr ⟨item, hitem, hsame.symm⟩)

end TestOps

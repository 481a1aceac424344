import TestOps.Invariants.RunState

/-! Reruns. A rerun copies the stored snapshot of a terminal run and replaces its cases:

      origin  ──▸  rerun  ──▸  rerun of the rerun  ──▸  ...
      references stay what they are, the cases only get fewer

    The copy is not validated, but every rule of the validator that looks at the cases still holds of
    fewer cases, so the snapshot can be loaded again by the worker and by the next rerun. -/

namespace TestOps

open Checked Relational Transition

variable {P : Primitives} {db db' : Database} {run run' source source' : TestRunRecord}

/-! ### One rerun -/

/-- The snapshots agree in what a run refers to; they may differ in their cases. -/
structure SameReferences (snapshot snapshot' : RunSnapshot) : Prop where
  caseBaseline : snapshot'.caseBaseline = snapshot.caseBaseline
  automationPackage : snapshot'.automationPackage = snapshot.automationPackage
  environmentId : snapshot'.environmentId = snapshot.environmentId
  configHash : snapshot'.configHash = snapshot.configHash
  runtimeVariables : snapshot'.runtimeVariables = snapshot.runtimeVariables
  secretBindings : snapshot'.secretBindings = snapshot.secretBindings
  browser : snapshot'.browser = snapshot.browser
  webConfig : snapshot'.webConfig = snapshot.webConfig

theorem SameReferences.refl (snapshot : RunSnapshot) : SameReferences snapshot snapshot :=
  ⟨rfl, rfl, rfl, rfl, rfl, rfl, rfl, rfl⟩

theorem SameReferences.trans {a b c : RunSnapshot} (h : SameReferences a b)
    (h' : SameReferences b c) : SameReferences a c where
  caseBaseline := h'.caseBaseline.trans h.caseBaseline
  automationPackage := h'.automationPackage.trans h.automationPackage
  environmentId := h'.environmentId.trans h.environmentId
  configHash := h'.configHash.trans h.configHash
  runtimeVariables := h'.runtimeVariables.trans h.runtimeVariables
  secretBindings := h'.secretBindings.trans h.secretBindings
  browser := h'.browser.trans h.browser
  webConfig := h'.webConfig.trans h.webConfig

/-- The result says that the case failed, or that it could not be run. -/
def FailedIn (result : RunResult) (case : CaseDefinition) : Prop :=
  ∃ item ∈ result.caseResults, item.caseId = case.caseId ∧
    (item.status = .failed ∨ item.status = .infraError)

/-- A run was made from an earlier, terminal run. -/
structure RerunOf (source run : TestRunRecord) : Prop where
  ended : source.status.isTerminal = true
  references : SameReferences source.snapshot run.snapshot
  cases : ∃ mode, run.retryMode = some mode ∧ rerunCases source mode = .ok run.snapshot.cases

/-- The cases of a failed-only rerun are the failed cases of the recorded result. -/
theorem rerunCases_failedOnly {cases : List CaseDefinition}
    (h : rerunCases source .failedOnly = .ok cases) :
    ∃ result, source.resultDocument = some result ∧
      ∀ case, case ∈ cases ↔ case ∈ source.snapshot.cases ∧ FailedIn result case := by
  simp only [rerunCases, bind_eq_ok, ensure_eq_ok, found_eq_ok, pure_eq_ok] at h
  obtain ⟨result, hresult, -, -, rfl⟩ := h
  refine ⟨result, hresult, fun case => ?_⟩
  rw [List.mem_filter, decide_eq_true_eq, List.mem_map]
  refine and_congr_right fun _ => ?_
  constructor
  · rintro ⟨item, hitem, hid⟩
    obtain ⟨hmem, hfailed⟩ := List.mem_filter.mp hitem
    exact ⟨item, hmem, hid, by simpa using hfailed⟩
  · rintro ⟨item, hmem, hid, hfailed⟩
    exact ⟨item, List.mem_filter.mpr ⟨hmem, by simpa using hfailed⟩, hid⟩

/-- A rerun has at least one case. -/
theorem rerunCases_ne_nil {mode : RetryMode} {cases : List CaseDefinition}
    (hvalid : source.snapshot.Valid) (h : rerunCases source mode = .ok cases) : cases ≠ [] := by
  cases mode with
  | full =>
    simp only [rerunCases, pure_eq_ok] at h
    exact h ▸ hvalid.casesNonempty
  | failedOnly =>
    simp only [rerunCases, bind_eq_ok, ensure_eq_ok, found_eq_ok, pure_eq_ok] at h
    obtain ⟨result, -, _, hne, rfl⟩ := h
    exact hne

/-- The rules of the validator survive a replacement of the cases by fewer, as long as one stays. -/
theorem RunSnapshot.Valid.fewer_cases {snapshot : RunSnapshot} {cases : List CaseDefinition}
    {runId createdBy : UUID} {createdAt : Instant} (h : snapshot.Valid)
    (hsub : cases.Sublist snapshot.cases) (hne : cases ≠ []) :
    ({ snapshot with
      runId := runId
      cases := cases
      createdBy := createdBy
      createdAt := createdAt } : RunSnapshot).Valid where
  casesNonempty := hne
  browser := h.browser
  webConfig := h.webConfig
  runner := h.runner
  caseIdsNodup := h.caseIdsNodup.sublist (hsub.map _)
  caseCount := hsub.length_le.trans h.caseCount
  bindingsNodup := h.bindingsNodup

/-! ### Every stored run -/

/-- The snapshot of the run passes validation, and a rerun goes back to a stored run. -/
structure Rerunnable (runs : RunTable) (run : TestRunRecord) : Prop where
  valid : run.snapshot.Valid
  source : ∀ sourceId, run.sourceRunId = some sourceId →
    ∃ source ∈ runs, source.id = sourceId ∧ RerunOf source run

def RerunState (db : Database) : Prop := ∀ run ∈ db.runs, Rerunnable db.runs run

theorem RerunOf.follows (h : RerunOf source run) (hsource : Follows source source')
    (hrun : Follows run run') : RerunOf source' run' := by
  obtain ⟨hstatus, -, hdocument⟩ := hsource.ended h.ended
  obtain ⟨mode, hmode, hcases⟩ := h.cases
  refine ⟨hstatus ▸ h.ended, ?_, mode, hrun.retryMode.trans hmode, ?_⟩
  · rw [hsource.snapshot, hrun.snapshot]
    exact h.references
  · rw [hrun.snapshot, ← hcases, rerunCases.eq_def, rerunCases.eq_def, hsource.snapshot, hdocument]

theorem rerunnable_write {effect : Effect} (hw : Write P effect db db') (hi : RerunState db) :
    RerunState db' := by
  intro run' hrun'
  have hfollows := follows_write hw
  rcases run_write hw hrun' with ⟨run, hrun, hid, hfollow⟩ | ⟨plan, rfl, horigin, rfl⟩
  · obtain ⟨hvalid, hsource⟩ := hi run hrun
    refine ⟨hfollow.snapshot ▸ hvalid, fun sourceId hsourceId => ?_⟩
    obtain ⟨source, hmem, hkey, hrerun⟩ := hsource sourceId (hfollow.sourceRunId ▸ hsourceId)
    obtain ⟨source', hmem', hkey', hfollow'⟩ := hfollows source hmem
    exact ⟨source', hmem', hkey'.trans hkey, hrerun.follows hfollow' hfollow⟩
  · cases horigin with
    | request now runId payload key actorId statuses baseline hplanned =>
      refine ⟨hplanned.valid, fun sourceId hsourceId => ?_⟩
      rw [RunPlan.run, hplanned.sourceRunId] at hsourceId
      cases hsourceId
    | rerun now runId source mode key actorId hsource hended hplanned =>
      have hvalid := hi source hsource |>.valid
      refine ⟨?_, fun sourceId hsourceId => ?_⟩
      · rw [RunPlan.run, hplanned.snapshot]
        exact hvalid.fewer_cases (rerunCases_sublist hplanned.cases)
          (rerunCases_ne_nil hvalid hplanned.cases)
      · rw [RunPlan.run, hplanned.sourceRunId] at hsourceId
        obtain rfl := Option.some.inj hsourceId
        obtain ⟨source', hmem', hkey', hfollow'⟩ := hfollows source hsource
        refine ⟨source', hmem', hkey', RerunOf.follows ⟨hended, ?_, ?_⟩ hfollow' (.refl _)⟩
        · rw [RunPlan.run, hplanned.snapshot]
          exact ⟨rfl, rfl, rfl, rfl, rfl, rfl, rfl, rfl⟩
        · exact ⟨mode, hplanned.retryMode, hplanned.cases⟩

theorem rerunState_reachable {s : State} (h : (controlPlane P).Reachable s) : RerunState s.db :=
  reachable_invariant (fun _ hrun => absurd hrun Table.not_mem_empty)
    (fun _ _ _ => rerunnable_write) h

/-! ### Chains -/

/-- `run` was made from `origin` by any number of reruns of stored runs. -/
def RerunChain (db : Database) : TestRunRecord → TestRunRecord → Prop :=
  Relation.ReflTransGen fun source run =>
    source ∈ db.runs ∧ run ∈ db.runs ∧ run.sourceRunId = some source.id

/-- A chain of any length keeps the references of its origin. -/
theorem RerunChain.references {origin : TestRunRecord} (h : RerunChain db origin run)
    (hi : RerunState db) : SameReferences origin.snapshot run.snapshot := by
  induction h with
  | refl => exact .refl _
  | tail _ hlink ih =>
    obtain ⟨hsource, hrun, hid⟩ := hlink
    obtain ⟨source, hmem, hkey, hrerun⟩ := (hi _ hrun).source _ hid
    obtain rfl := Table.eq_of_key_eq hmem hsource hkey
    exact ih.trans hrerun.references

/-- The snapshot of every stored run passes validation. The cases of a rerun are cases of its source
    in their order, for a failed-only rerun exactly those that failed in the recorded result, and
    along a chain of reruns of any length everything the snapshot refers to stays the same. -/
theorem rerun_chain {s : State} (hreach : (controlPlane P).Reachable s) (hrun : run ∈ s.db.runs) :
    run.snapshot.Valid ∧
    (∀ sourceId, run.sourceRunId = some sourceId → ∃ source ∈ s.db.runs, source.id = sourceId ∧
      run.snapshot.cases.Sublist source.snapshot.cases ∧
      (run.retryMode = some .full ∧ run.snapshot.cases = source.snapshot.cases ∨
        run.retryMode = some .failedOnly ∧ ∃ result, source.resultDocument = some result ∧
          ∀ case, case ∈ run.snapshot.cases ↔
            case ∈ source.snapshot.cases ∧ FailedIn result case)) ∧
    ∀ origin, RerunChain s.db origin run → SameReferences origin.snapshot run.snapshot := by
  have hi := rerunState_reachable hreach
  refine ⟨(hi run hrun).valid, fun sourceId hsourceId => ?_, fun origin h => h.references hi⟩
  obtain ⟨source, hmem, hkey, hrerun⟩ := (hi run hrun).source sourceId hsourceId
  obtain ⟨mode, hmode, hcases⟩ := hrerun.cases
  refine ⟨source, hmem, hkey, rerunCases_sublist hcases, ?_⟩
  cases mode with
  | full =>
    simp only [rerunCases, pure_eq_ok] at hcases
    exact .inl ⟨hmode, hcases.symm⟩
  | failedOnly => exact .inr ⟨hmode, rerunCases_failedOnly hcases⟩

open Installation in
/-- Run 20 fails in its second case; run 23 runs that case again, and run 24 is a rerun of run 23. -/
theorem rerun_chain_failedOnly : ∃ s, (controlPlane primitives).Reachable s ∧
    ∃ origin ∈ s.db.runs, ∃ run ∈ s.db.runs, origin.id = 20 ∧ run.id = 24 ∧
      run.snapshot.Valid ∧ RerunChain s.db origin run ∧
      SameReferences origin.snapshot run.snapshot := by
  have hrun : Leads (failedRun ++ rerunTwice) fun s =>
      ∃ origin, s.db.runs.get? 20 = some origin ∧ ∃ first, s.db.runs.get? 23 = some first ∧
        ∃ run, s.db.runs.get? 24 = some run ∧ first.sourceRunId = some 20 ∧
          run.sourceRunId = some 23 := by
    decide +kernel
  obtain ⟨s, hs, origin, horigin, first, hfirst, run, hrun, hlink, hlink'⟩ := hrun.exists_reachable
  obtain ⟨horigin, horiginId⟩ := Table.get?_eq_some.mp horigin
  obtain ⟨hfirst, hfirstId⟩ := Table.get?_eq_some.mp hfirst
  obtain ⟨hrun, hrunId⟩ := Table.get?_eq_some.mp hrun
  obtain ⟨hvalid, -, hreferences⟩ := rerun_chain hs hrun
  have hchain : RerunChain s.db origin run :=
    (Relation.ReflTransGen.single ⟨horigin, hfirst, horiginId ▸ hlink⟩).tail
      ⟨hfirst, hrun, hfirstId ▸ hlink'⟩
  exact ⟨s, hs, origin, horigin, run, hrun, horiginId, hrunId, hvalid, hchain,
    hreferences origin hchain⟩

end TestOps

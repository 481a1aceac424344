import TestOps.Invariants.Candidates
import TestOps.Invariants.RunCases

/-! The gates. A candidate baseline is released after an approval by somebody other than its author and
    a passed run over all of its enabled cases; a package is activated after a passed run over all
    enabled cases of a released baseline. A run counts as passed when no case failed, so a gate
    admits skipped cases. -/

namespace TestOps

open Checked Relational Transition System

variable {P : Primitives} {db db' : Database} {s s' : State} {a : Action}

/-! ### Approval and publication -/

/-- The request proposes `c`, and its candidate baseline is stored as proposed. -/
def Carries (c : Candidacy) (db : Database) : Prop :=
  (∃ request ∈ db.changeRequests, request.candidacy = c) ∧
    ∃ baseline, db.baselines.get? c.baselineId = some baseline ∧
      baseline.document = c.document ∧ baseline.digest = c.digest

/-- The event records an approval of `c` by somebody other than its author. -/
def ApprovedBy (c : Candidacy) (e : Event State Action) : Prop :=
  Carries c e.before.db ∧ Carries c e.after.db ∧
    ∃ now approvalId projectId payload reviewerId,
      e.action = .reviewChangeRequest now approvalId projectId c.requestId payload reviewerId ∧
      payload.decision = .approve ∧ reviewerId ≠ c.createdBy ∧
      ⟨approvalId, c.requestId, reviewerId, .approve, payload.comment, now⟩ ∈
        e.after.db.approvals

/-- The event publishes `c`, with a passed run over all enabled cases of its baseline. -/
def PublishedBy (c : Candidacy) (e : Event State Action) : Prop :=
  Carries c e.before.db ∧ Carries c e.after.db ∧
    ∃ now projectId runId run baseline,
      e.action = .publishChangeRequest now projectId c.requestId runId ∧
      e.before.db.runs.get? runId = some run ∧ run.status = .passed ∧
      run.baselineId = c.baselineId ∧
      e.before.db.baselines.get? c.baselineId = some baseline ∧
      run.caseCount = baseline.enabledCaseCount ∧
      run.snapshot.cases = c.document.enabledCases ∧
      (run.snapshot.cases.map CaseDefinition.caseId).Nodup

/-- `c` was approved, and has stood unchanged since. -/
def Approved (c : Candidacy) : List (Event State Action) → Prop :=
  Since (fun e => Carries c e.after.db) fun e _ => ApprovedBy c e

/-- `c` was published after it was approved, and has stood unchanged since. -/
def Published (c : Candidacy) : List (Event State Action) → Prop :=
  Since (fun e => Carries c e.after.db) fun e earlier => PublishedBy c e ∧ Approved c earlier

/-- Every stored request carries its candidacy. -/
theorem carries_of_mem (hreach : (controlPlane P).Reachable s) {request : ChangeRequestRecord}
    (hmem : request ∈ s.db.changeRequests) : Carries request.candidacy s.db := by
  obtain ⟨baseline, hbaseline, hcarried⟩ := (candidateState_reachable hreach).carried request hmem
  refine ⟨⟨request, hmem, rfl⟩, baseline, ?_, hcarried.document, hcarried.digest⟩
  exact Table.get?_eq_some.mpr ⟨hbaseline, hcarried.id⟩

theorem Action.allows_requestReviewed {a : Action} {requestId : UUID} :
    a.allows (.requestReviewed requestId) ↔ ∃ now approvalId projectId payload reviewerId,
      a = .reviewChangeRequest now approvalId projectId requestId payload reviewerId := by
  cases a <;> simp [Action.allows, eq_comm]

theorem Action.allows_requestPublished {a : Action} {requestId runId : UUID} :
    a.allows (.requestPublished requestId runId) ↔ ∃ now projectId,
      a = .publishChangeRequest now projectId requestId runId := by
  cases a <;> simp [Action.allows, eq_comm]

/-- What a step may do to an approved or published request. -/
inductive ApprovalStep (s : State) (a : Action) (s' : State) (request' : ChangeRequestRecord) :
    Prop
  | kept (request : ChangeRequestRecord) : request ∈ s.db.changeRequests →
      SameRequest request request' → ApprovalStep s a s' request'
  | approved : request'.status = .candidate → ApprovedBy request'.candidacy ⟨s, a, s'⟩ →
      ApprovalStep s a s' request'
  | published (request : ChangeRequestRecord) : request ∈ s.db.changeRequests →
      request.candidacy = request'.candidacy → request.status = .candidate →
      PublishedBy request'.candidacy ⟨s, a, s'⟩ → ApprovalStep s a s' request'

/-- The cases of the run that opens a publication gate are all enabled cases of the candidate. -/
theorem PublicationGate.executes_all {requestId runId : UUID} {request : ChangeRequestRecord}
    {run : TestRunRecord} {baseline : CaseBaselineRecord}
    (hgate : PublicationGate db requestId runId request run baseline)
    (hshape : ∀ baseline ∈ db.baselines, BaselineShape P baseline)
    (hexecutes : ∀ run ∈ db.runs, Executes db.baselines run) :
    run.snapshot.cases = baseline.document.enabledCases := by
  have hmem := Table.mem_of_get? hgate.baselineStored
  refine (hexecutes run (Table.mem_of_get? hgate.runStored)).full ?_ ?_
  · rw [hgate.executes]
    exact hgate.baselineStored
  · rw [hgate.full, (hshape baseline hmem).enabled]

/-- The identifiers of the enabled cases of a baseline are distinct. -/
theorem CaseBaseline.enabledCaseIds_nodup (baseline : CaseBaseline) :
    (baseline.enabledCases.map CaseDefinition.caseId).Nodup :=
  (List.filter_sublist.map _).nodup baseline.caseIdsNodup

/-- Every approved or published request has its approval and its publication. -/
theorem approvalStep (hreach : (controlPlane P).Reachable s) (hstep : step P s a = .ok s')
    {request' : ChangeRequestRecord} (hmem : request' ∈ s'.db.changeRequests)
    (hstatus : request'.status = .candidate ∨ request'.status = .published) :
    ApprovalStep s a s' request' := by
  have hreach' := hreach.step hstep
  have hcarries' := carries_of_mem hreach' hmem
  by_cases hreview : ∃ requestId, a.allows (.requestReviewed requestId)
  · obtain ⟨requestId, hallows⟩ := hreview
    obtain ⟨now, approvalId, projectId, payload, reviewerId, rfl⟩ :=
      Action.allows_requestReviewed.mp hallows
    simp only [step, Action.commit, bind_eq_ok, pure_eq_ok] at hstep
    obtain ⟨db, hcommit, rfl⟩ := hstep
    obtain ⟨request, requests, baselines, hrequest, hinReview, hother, hreviewed, rfl⟩ :=
      reviewChangeRequest_ok hcommit
    dsimp only at hmem hcarries' ⊢
    generalize hdecision : payload.decision = decision at hreviewed
    cases hreviewed with
    | requestChanges =>
      obtain ⟨request₀, hrequest₀, rfl⟩ := Table.mem_modify.mp hmem
      by_cases hid : request₀.id = requestId
      · rw [if_pos hid] at hstatus
        rcases hstatus with hstatus | hstatus <;> cases hstatus
      · rw [if_neg hid]
        exact .kept request₀ hrequest₀ (.refl request₀)
    | approve candidate hcandidate hdraft =>
      obtain ⟨request₀, hrequest₀, rfl⟩ := Table.mem_modify.mp hmem
      by_cases hid : request₀.id = requestId
      · obtain rfl := Option.some.inj
          (hrequest.symm.trans (Table.get?_eq_some.mpr ⟨hrequest₀, hid⟩))
        rw [if_pos hid] at hcarries' ⊢
        have hcarries := carries_of_mem hreach hrequest₀
        refine .approved rfl ⟨hcarries, hcarries', ?_⟩
        refine ⟨now, approvalId, projectId, payload, reviewerId, ?_, hdecision, hother, ?_⟩
        · rw [← hid]
          rfl
        · rw [← hid]
          exact List.mem_append_right _ (List.mem_singleton_self _)
      · rw [if_neg hid]
        exact .kept request₀ hrequest₀ (.refl request₀)
  · by_cases hpublish : ∃ requestId runId, a.allows (.requestPublished requestId runId)
    · obtain ⟨requestId, runId, hallows⟩ := hpublish
      obtain ⟨now, projectId, rfl⟩ := Action.allows_requestPublished.mp hallows
      simp only [step, Action.commit, bind_eq_ok, pure_eq_ok] at hstep
      obtain ⟨db, hcommit, rfl⟩ := hstep
      obtain ⟨request, run, baseline, hgate, rfl⟩ := publishChangeRequest_ok hcommit
      dsimp only at hmem hcarries' ⊢
      obtain ⟨request₀, hrequest₀, rfl⟩ := Table.mem_modify.mp hmem
      by_cases hid : request₀.id = requestId
      · obtain rfl := Option.some.inj
          (hgate.requestStored.symm.trans (Table.get?_eq_some.mpr ⟨hrequest₀, hid⟩))
        rw [if_pos hid] at hcarries' ⊢
        have hcarries := carries_of_mem hreach hrequest₀
        have hcases := hgate.executes_all (baselineShape_reachable hreach)
          (executes_reachable hreach)
        refine .published request hrequest₀ rfl hgate.candidate ⟨hcarries, hcarries', now, projectId,
          runId, run, baseline, ?_, hgate.runStored, hgate.passed, hgate.executes,
          hgate.baselineStored, hgate.full, ?_, ?_⟩
        · rw [← hid]
          rfl
        · obtain ⟨-, baseline', hbaseline', hdocument, -⟩ := hcarries
          obtain rfl := Option.some.inj (hgate.baselineStored.symm.trans hbaseline')
          rw [hcases, hdocument]
          rfl
        · rw [hcases]
          exact baseline.document.enabledCaseIds_nodup
      · rw [if_neg hid]
        exact .kept request₀ hrequest₀ (.refl request₀)
    · have hkept := (step_writes hstep).rel
        (r := fun db db' => ∀ request' ∈ db'.changeRequests,
          request'.status = .candidate ∨ request'.status = .published →
          ∃ request ∈ db.changeRequests, SameRequest request request')
        (fun _ request' hmem _ => ⟨request', hmem, .refl request'⟩)
        (fun db db₁ db₂ hab hbc request₂ hmem₂ hstatus₂ => ?_)
        (fun effect _ _ hp hw request' hmem hstatus => approved_write hw
          (fun requestId heq => hreview ⟨requestId, heq ▸ hp⟩)
          (fun requestId runId heq => hpublish ⟨requestId, runId, heq ▸ hp⟩) hmem hstatus)
        request' hmem hstatus
      · obtain ⟨request, hrequest, hsame⟩ := hkept
        exact .kept request hrequest hsame
      · obtain ⟨request₁, hmem₁, hsame₁⟩ := hbc request₂ hmem₂ hstatus₂
        obtain ⟨request, hrequest, hsame⟩ := hab request₁ hmem₁ (hsame₁.status ▸ hstatus₂)
        exact ⟨request, hrequest, hsame.trans _ _ _ hsame₁⟩

/-- Along every history, what is approved or published was approved or published in it. -/
theorem approved_history {h : List (Event State Action)} (hh : (controlPlane P).History h s) :
    ∀ request ∈ s.db.changeRequests,
      (request.status = .candidate → Approved request.candidacy h) ∧
      (request.status = .published → Published request.candidacy h) := by
  refine hh.invariant (p := fun h s => ∀ request ∈ s.db.changeRequests,
    (request.status = .candidate → Approved request.candidacy h) ∧
    (request.status = .published → Published request.candidacy h)) ?_ ?_
  · rintro s rfl request hmem
    exact absurd hmem Table.not_mem_empty
  · intro h s a s' hh hstep hi request' hmem
    have hreach := hh.reachable
    have hcarries := carries_of_mem (hreach.step hstep) hmem
    constructor <;> intro hstatus
    · cases approvalStep hreach hstep hmem (.inl hstatus) with
      | kept request hrequest hsame =>
        rw [hsame.candidacy] at hcarries ⊢
        exact .inr ⟨hcarries, (hi request hrequest).1 (hsame.status ▸ hstatus)⟩
      | approved _ happroved => exact .inl happroved
      | published request hrequest hcandidacy hcandidate hpublished =>
        rw [← hcandidacy] at hcarries ⊢
        exact .inr ⟨hcarries, (hi request hrequest).1 hcandidate⟩
    · cases approvalStep hreach hstep hmem (.inr hstatus) with
      | kept request hrequest hsame =>
        rw [hsame.candidacy] at hcarries ⊢
        exact .inr ⟨hcarries, (hi request hrequest).2 (hsame.status ▸ hstatus)⟩
      | approved hcandidate =>
        rw [hcandidate] at hstatus
        cases hstatus
      | published request hrequest hcandidacy hcandidate hpublished =>
        refine .inl ⟨hpublished, ?_⟩
        rw [← hcandidacy]
        exact (hi request hrequest).1 hcandidate

/-- The baseline of a published request is released as it was approved by somebody other than the
    author; between the approval and the publication nothing of the candidate changed, and the
    publication was opened by a passed run over exactly the enabled cases of the baseline. -/
theorem published_baseline_governed {h : List (Event State Action)}
    (hh : (controlPlane P).History h s) :
    ∀ request ∈ s.db.changeRequests, request.status = .published →
      (∃ baseline, s.db.baselines.get? request.candidateBaselineId = some baseline ∧
        baseline.status = .released ∧
        request.publishedBaselineId = some request.candidateBaselineId ∧
        baseline.document = request.candidateDocument ∧
        baseline.digest = request.candidateDigest) ∧
      ∃ later publication between approval earlier,
        h = later ++ publication :: (between ++ approval :: earlier) ∧
        ApprovedBy request.candidacy approval ∧
        (∀ e ∈ between, Carries request.candidacy e.after.db) ∧
        PublishedBy request.candidacy publication ∧
        ∀ e ∈ later, Carries request.candidacy e.after.db := by
  intro request hmem hstatus
  have hcandidates := candidateState_reachable hh.reachable
  constructor
  · obtain ⟨baseline, hbaseline, hcarried⟩ := hcandidates.carried request hmem
    refine ⟨baseline, Table.get?_eq_some.mpr ⟨hbaseline, hcarried.id⟩, ?_,
      hcandidates.published request hmem hstatus, hcarried.document, hcarried.digest⟩
    rw [hcarried.status, hstatus]
    rfl
  · obtain ⟨later, publication, rest, rfl, ⟨hpublication, happroved⟩, hlater⟩ :=
      since_iff.mp ((approved_history hh request hmem).2 hstatus)
    obtain ⟨between, approval, earlier, rfl, happroval, hbetween⟩ := since_iff.mp happroved
    exact ⟨later, publication, between, approval, earlier, rfl, happroval, hbetween, hpublication,
      hlater⟩

open Installation in
/-- Request 40 is approved and published: what its history must contain is there. -/
theorem published_baseline_governed_dropCaseB : ∃ h s, (controlPlane primitives).History h s ∧
    ∃ request ∈ s.db.changeRequests.rows, request.id = 40 ∧
      ∃ later publication between approval earlier,
        h = later ++ publication :: (between ++ approval :: earlier) ∧
        ApprovedBy request.candidacy approval ∧ PublishedBy request.candidacy publication := by
  have hrun : Leads publication fun s =>
      ∃ request ∈ s.db.changeRequests.rows, request.id = 40 ∧ request.status = .published := by
    decide +kernel
  obtain ⟨s, hs, request, hrequest, hid, hstatus⟩ := hrun.exists_reachable
  obtain ⟨h, hh⟩ := hs.history
  obtain ⟨-, later, publication, between, approval, earlier, hsplit, happroval, -, hpublication, -⟩ :=
    published_baseline_governed hh request hrequest hstatus
  exact ⟨h, s, hh, request, hrequest, hid, later, publication, between, approval, earlier, hsplit,
    happroval, hpublication⟩

/-! ### The evidence of a gate -/

/-- The run has a recorded result with exactly one case result for each enabled case of the
    baseline, which says that the case passed or was skipped. -/
def Evidence (run : TestRunRecord) (baseline : CaseBaseline) : Prop :=
  ∃ result, run.resultDocument = some result ∧ ∀ case ∈ baseline.enabledCases,
    ∃ item, result.caseResults.filter (fun item => item.caseId = case.caseId) = [item] ∧
      (item.status = .passed ∨ item.status = .skipped)

/-- A passed run with a digest over all enabled cases of a baseline is evidence. -/
theorem evidence_of_passed (hreach : (controlPlane P).Reachable s) {run : TestRunRecord}
    {baseline : CaseBaseline} (hrun : run ∈ s.db.runs) (hpassed : run.status = .passed)
    (hrecorded : run.resultDigest.isSome)
    (hcases : run.snapshot.cases = baseline.enabledCases) : Evidence run baseline := by
  have hshape := (runState_reachable hreach).shape run hrun
  obtain ⟨result, hdoc⟩ := Option.isSome_iff_exists.mp (hshape.recorded hrecorded)
  have hmatches := resultsMatch_reachable hreach run hrun result hdoc
  refine ⟨result, hdoc, fun case hcase => ?_⟩
  rw [hcases] at hmatches
  obtain ⟨item, hfilter, hitem⟩ := hmatches.single hcase
  exact ⟨item, hfilter, hmatches.passed ((hshape.document result hdoc).1.symm.trans hpassed) item
    hitem⟩

/-- Whatever opens a gate, the run that opened it has a recorded result with exactly one case result
    for each enabled case of the baseline, and that case passed or was skipped. -/
theorem gate_evidence (hreach : (controlPlane P).Reachable s) (hstep : step P s a = .ok s') :
    (∀ now projectId requestId runId, a = .publishChangeRequest now projectId requestId runId →
      ∃ request run baseline, s.db.changeRequests.get? requestId = some request ∧
        s.db.runs.get? runId = some run ∧
        s.db.baselines.get? request.candidateBaselineId = some baseline ∧
        run.baselineId = baseline.baselineId ∧ Evidence run baseline.document) ∧
    ∀ now projectId targetId packageId runId actorId,
      a = .activateAutomationPackage now projectId targetId packageId runId actorId →
      ∀ package, s.db.packages.get? packageId = some package → package.status ≠ .active →
      ∃ run baseline, s.db.runs.get? runId = some run ∧
        s.db.baselines.get? run.baselineId = some baseline ∧ Evidence run baseline.document := by
  constructor
  · rintro now projectId requestId runId rfl
    simp only [step, Action.commit, bind_eq_ok, pure_eq_ok] at hstep
    obtain ⟨db, hcommit, rfl⟩ := hstep
    obtain ⟨request, run, baseline, hgate, -⟩ := publishChangeRequest_ok hcommit
    refine ⟨request, run, baseline, hgate.requestStored, hgate.runStored, hgate.baselineStored, ?_, ?_⟩
    · rw [hgate.executes, Table.key_of_get? hgate.baselineStored]
    · exact evidence_of_passed hreach (Table.mem_of_get? hgate.runStored) hgate.passed
        hgate.recorded (hgate.executes_all (baselineShape_reachable hreach)
          (executes_reachable hreach))
  · rintro now projectId targetId packageId runId actorId rfl package hpackage hinactive
    simp only [step, Action.commit, bind_eq_ok, pure_eq_ok] at hstep
    obtain ⟨db, hcommit, rfl⟩ := hstep
    obtain ⟨-, package', hpackage', hactive, -⟩ | ⟨run, baseline, hgate, -⟩ :=
      activateAutomationPackage_ok hcommit
    · obtain rfl := Option.some.inj (hpackage.symm.trans hpackage')
      exact absurd hactive hinactive
    · have hrun := Table.mem_of_get? hgate.runStored
      exact ⟨run, baseline, hgate.runStored, hgate.baselineStored, evidence_of_passed hreach hrun
        hgate.passed hgate.recorded
        ((executes_reachable hreach run hrun).full hgate.baselineStored hgate.full)⟩

open Installation in
/-- Package 5 is activated with run 21, whose evidence covers both cases. -/
theorem gate_evidence_activatePackage : ∃ s s', (controlPlane primitives).Reachable s ∧
    step primitives s activatePackage = .ok s' ∧
    ∃ run, s.db.runs.get? 21 = some run ∧ Evidence run baseline := by
  have hrun : Leads validatePackage fun s => Ends (step primitives) s [activatePackage] fun _ =>
      (∃ package, s.db.packages.get? 5 = some package ∧ package.status = .draft) ∧
      (∃ run, s.db.runs.get? 21 = some run ∧ run.baselineId = 10) ∧
      ∃ row, s.db.baselines.get? 10 = some row ∧ row.document = baseline := by
    decide +kernel
  obtain ⟨s, hs, hend⟩ := hrun.exists_reachable
  obtain ⟨s', hstep, ⟨package, hpackage, hdraft⟩, ⟨run, hrun, hbaselineId⟩, row, hrow, hdocument⟩ :=
    ends_singleton.mp hend
  obtain ⟨run', row', hrun', hrow', hevidence⟩ := (gate_evidence hs hstep).2 2 1 2 5 21 100 rfl
    package hpackage (by rw [hdraft]; decide)
  obtain rfl := Option.some.inj (hrun.symm.trans hrun')
  rw [hbaselineId, hrow] at hrow'
  obtain rfl := Option.some.inj hrow'
  exact ⟨s, s', hs, hstep, run, hrun, hdocument ▸ hevidence⟩

/-- Some case of the list has no result of the run that says it passed. -/
def Unpassed (run : TestRunRecord) (cases : List CaseDefinition) : Prop :=
  ∃ result, run.resultDocument = some result ∧ ∃ case ∈ cases,
    ∀ item ∈ result.caseResults, item.caseId = case.caseId → item.status ≠ .passed

instance (run : TestRunRecord) (cases : List CaseDefinition) : Decidable (Unpassed run cases) :=
  inferInstanceAs (Decidable (∃ result, run.resultDocument = some result ∧ ∃ case ∈ cases,
    ∀ item ∈ result.caseResults, item.caseId = case.caseId → item.status ≠ .passed))

open Installation in
/-- The run that opens the gate of package 5 has skipped an enabled case of the baseline. -/
theorem skipped_case_opens_gate : ∃ s s', (controlPlane primitives).Reachable s ∧
    step primitives s activatePackage = .ok s' ∧
    (∃ package, s.db.packages.get? 5 = some package ∧ package.status = .draft) ∧
    (∃ package, s'.db.packages.get? 5 = some package ∧ package.status = .active) ∧
    ∃ run, s.db.runs.get? 21 = some run ∧ run.baselineId = 10 ∧
      ∃ row, s.db.baselines.get? 10 = some row ∧ Unpassed run row.document.enabledCases := by
  have hrun : Leads validatePackage fun s => Ends (step primitives) s [activatePackage] fun s' =>
      (∃ package, s.db.packages.get? 5 = some package ∧ package.status = .draft) ∧
      (∃ package, s'.db.packages.get? 5 = some package ∧ package.status = .active) ∧
      ∃ run, s.db.runs.get? 21 = some run ∧ run.baselineId = 10 ∧
        ∃ row, s.db.baselines.get? 10 = some row ∧ Unpassed run row.document.enabledCases := by
    decide +kernel
  obtain ⟨s, hs, hend⟩ := hrun.exists_reachable
  obtain ⟨s', hstep, hclaims⟩ := ends_singleton.mp hend
  exact ⟨s, s', hs, hstep, hclaims⟩

end TestOps

import TestOps.Invariants.RunState

/-! Change requests, their candidate baselines, and the runs that execute a baseline:

      request ──carries──▸ candidate baseline ◂──executes── run

    A stored document never changes. Each request carries a baseline of its own, whose status
    follows the status of the request, and the cases of a run are enabled cases of the baseline it
    executes. -/

namespace TestOps

open Checked Relational Transition

variable {P : Primitives} {db db' : Database}

/-! ### Baselines -/

/-- What holds of every baseline row. -/
structure BaselineShape (P : Primitives) (baseline : CaseBaselineRecord) : Prop where
  id : baseline.document.baselineId = baseline.baselineId
  digest : baseline.digest = P.canonicalSha256 (.baseline baseline.document)
  enabled : baseline.enabledCaseCount = baseline.document.enabledCases.length

/-- What no write changes about a baseline. -/
structure SameDocument (baseline baseline' : CaseBaselineRecord) : Prop where
  document : baseline'.document = baseline.document
  digest : baseline'.digest = baseline.digest
  projectId : baseline'.projectId = baseline.projectId
  enabledCaseCount : baseline'.enabledCaseCount = baseline.enabledCaseCount

theorem SameDocument.refl (baseline : CaseBaselineRecord) : SameDocument baseline baseline :=
  ⟨rfl, rfl, rfl, rfl⟩

theorem SameDocument.trans (a b c : CaseBaselineRecord) (h : SameDocument a b)
    (h' : SameDocument b c) : SameDocument a c :=
  ⟨h'.document.trans h.document, h'.digest.trans h.digest, h'.projectId.trans h.projectId,
    h'.enabledCaseCount.trans h.enabledCaseCount⟩

theorem baselines_write {effect : Effect} (hw : Write P effect db db') :
    db.baselines.Evolves SameDocument db'.baselines := by
  cases hw with
  | configured | poolCreated | poolUpdated | workersChanged | preferencesChanged
  | deliveriesRewritten | testDeliveriesAdded | outboxChanged | runQueued | slotBound | runStarted
  | eventRecorded | eventLogged | resultRecorded | runCanceled | cancelRequested | runRecovered
  | leaseReleased | leaseAcquired | dispatchMarked | packageActivated | requestSubmitted
  | validationSkipped | validationLinked => exact .refl .refl
  | baselinePublished projectId baseline baselines hinsert => exact .insert? .refl hinsert
  | requestCreated requestId projectId payload actorId baseBaselineId candidate items requests
      baselines hitems hrequests hinsert => exact .insert? .refl hinsert
  | requestEdited requestId payload request old candidate items baselines hitems hrequest heditable
      hold hdraft hinsert =>
    have hsuperseded : db.baselines.Evolves SameDocument
        (db.baselines.modify request.candidateBaselineId supersede) :=
      .modify .refl fun _ _ => ⟨rfl, rfl, rfl, rfl⟩
    exact hsuperseded.trans .trans (.insert? .refl hinsert)
  | requestReviewed now requestId approval request requests baselines hrequest hstatus hid hother
      hreviewed =>
    generalize approval.decision = decision at hreviewed
    cases hreviewed with
    | requestChanges => exact .refl .refl
    | approve => exact .modify .refl fun _ _ => ⟨rfl, rfl, rfl, rfl⟩
  | requestPublished => exact .modify .refl fun _ _ => ⟨rfl, rfl, rfl, rfl⟩

/-- Every write keeps the shape of the baselines. -/
theorem baselineShape_write {effect : Effect} (hw : Write P effect db db')
    (hi : ∀ baseline ∈ db.baselines, BaselineShape P baseline) :
    ∀ baseline ∈ db'.baselines, BaselineShape P baseline := by
  cases hw with
  | configured | poolCreated | poolUpdated | workersChanged | preferencesChanged
  | deliveriesRewritten | testDeliveriesAdded | outboxChanged | runQueued | slotBound | runStarted
  | eventRecorded | eventLogged | resultRecorded | runCanceled | cancelRequested | runRecovered
  | leaseReleased | leaseAcquired | dispatchMarked | packageActivated | requestSubmitted
  | validationSkipped | validationLinked => exact hi
  | baselinePublished projectId baseline baselines hinsert =>
    exact Table.forall_insert? hinsert hi ⟨rfl, rfl, rfl⟩
  | requestCreated requestId projectId payload actorId baseBaselineId candidate items requests
      baselines hitems hrequests hinsert =>
    exact Table.forall_insert? hinsert hi ⟨rfl, rfl, rfl⟩
  | requestEdited requestId payload request old candidate items baselines hitems hrequest heditable
      hold hdraft hinsert =>
    refine Table.forall_insert? hinsert (Table.forall_modify hi ?_) ⟨rfl, rfl, rfl⟩
    exact fun _ _ hshape => ⟨hshape.id, hshape.digest, hshape.enabled⟩
  | requestReviewed now requestId approval request requests baselines hrequest hstatus hid hother
      hreviewed =>
    generalize approval.decision = decision at hreviewed
    cases hreviewed with
    | requestChanges => exact hi
    | approve =>
      exact Table.forall_modify hi fun _ _ hshape => ⟨hshape.id, hshape.digest, hshape.enabled⟩
  | requestPublished =>
    exact Table.forall_modify hi fun _ _ hshape => ⟨hshape.id, hshape.digest, hshape.enabled⟩

theorem baselineShape_reachable {s : State} (h : (controlPlane P).Reachable s) :
    ∀ baseline ∈ s.db.baselines, BaselineShape P baseline :=
  reachable_invariant (fun _ hmem => absurd hmem Table.not_mem_empty)
    (fun _ _ _ => baselineShape_write) h

/-! ### Runs of a baseline -/

/-- The cases of a run are enabled cases of the baseline it executes, in their order. -/
def Executes (baselines : Table CaseBaselineRecord.baselineId) (run : TestRunRecord) : Prop :=
  ∃ baseline ∈ baselines, baseline.baselineId = run.baselineId ∧
    run.snapshot.cases.Sublist baseline.document.enabledCases ∧
    run.caseCount = run.snapshot.cases.length

/-- A run that selects as many cases as are enabled selects them all. -/
theorem Executes.full {run : TestRunRecord} {baseline : CaseBaselineRecord}
    (h : Executes db.baselines run) (hbaseline : db.baselines.get? run.baselineId = some baseline)
    (hcount : run.caseCount = baseline.document.enabledCases.length) :
    run.snapshot.cases = baseline.document.enabledCases := by
  obtain ⟨baseline', hmem, hid, hsublist, hcases⟩ := h
  have hsame := Table.eq_of_key_eq hmem (Table.mem_of_get? hbaseline)
    (hid.trans (Table.key_of_get? hbaseline).symm)
  rw [hsame] at hsublist
  exact hsublist.eq_of_length (hcases.symm.trans hcount)

/-- Every write keeps what runs execute. -/
theorem executes_write {effect : Effect} (hw : Write P effect db db')
    (hshape : ∀ baseline ∈ db.baselines, BaselineShape P baseline)
    (hi : ∀ run ∈ db.runs, Executes db.baselines run) :
    ∀ run ∈ db'.runs, Executes db'.baselines run := by
  have hkept : ∀ {run : TestRunRecord}, Executes db.baselines run →
      Executes db'.baselines run := by
    rintro run ⟨baseline, hmem, hid, hsublist, hcount⟩
    obtain ⟨baseline', hmem', hid', hsame⟩ := baselines_write hw baseline hmem
    exact ⟨baseline', hmem', hid'.trans hid, by rwa [hsame.document], hcount⟩
  intro run' hrun'
  apply hkept
  rcases run_write hw hrun' with ⟨run, hrun, -, hfollows⟩ | ⟨plan, -, horigin, rfl⟩
  · have hrun := hi run hrun
    rwa [Executes, ← hfollows.baselineId, ← hfollows.snapshot, ← hfollows.caseCount] at hrun
  · cases horigin with
    | request now runId payload key actorId statuses baseline hplanned =>
      have hmem := Table.mem_of_get? hplanned.stored
      refine ⟨baseline, hmem, ?_, selectCases_sublist hplanned.cases, rfl⟩
      rw [RunPlan.run, hplanned.baselineId, (hshape baseline hmem).id]
    | rerun now runId source mode key actorId hsource hterminal hplanned =>
      obtain ⟨baseline, hmem, hid, hsublist, -⟩ := hi source hsource
      refine ⟨baseline, hmem, ?_, (rerunCases_sublist hplanned.cases).trans hsublist, rfl⟩
      rw [RunPlan.run, hplanned.baselineId, hid]

theorem executes_reachable {s : State} (h : (controlPlane P).Reachable s) :
    ∀ run ∈ s.db.runs, Executes s.db.baselines run := by
  have hboth : (∀ baseline ∈ s.db.baselines, BaselineShape P baseline) ∧
      ∀ run ∈ s.db.runs, Executes s.db.baselines run :=
    reachable_invariant (p := fun db => (∀ baseline ∈ db.baselines, BaselineShape P baseline) ∧
        ∀ run ∈ db.runs, Executes db.baselines run)
      ⟨fun _ hmem => absurd hmem Table.not_mem_empty, fun _ hmem => absurd hmem Table.not_mem_empty⟩
      (fun _ _ _ hw hi => ⟨baselineShape_write hw hi.1, executes_write hw hi.1 hi.2⟩) h
  exact hboth.2

/-! ### Candidacies -/

/-- What a change request proposes, and who proposes it. -/
structure Candidacy where
  requestId : UUID
  projectId : UUID
  createdBy : UUID
  baselineId : UUID
  version : String
  digest : Digest
  document : CaseBaseline

def ChangeRequestRecord.candidacy (request : ChangeRequestRecord) : Candidacy where
  requestId := request.id
  projectId := request.projectId
  createdBy := request.createdBy
  baselineId := request.candidateBaselineId
  version := request.candidateVersion
  digest := request.candidateDigest
  document := request.candidateDocument

/-- The status of the candidate baseline while the request has a given status. -/
def ChangeRequestStatus.baselineStatus : ChangeRequestStatus → BaselineStatus
  | .draft | .inReview | .changesRequested => .draft
  | .candidate => .candidate
  | .published => .released

/-- The baseline a request carries, as its row in the table. -/
structure Carried (request : ChangeRequestRecord) (baseline : CaseBaselineRecord) : Prop where
  id : baseline.baselineId = request.candidateBaselineId
  document : baseline.document = request.candidateDocument
  digest : baseline.digest = request.candidateDigest
  projectId : baseline.projectId = request.projectId
  status : baseline.status = request.status.baselineStatus

/-- Every request carries a baseline, no two the same, and knows it once it is published. -/
structure CandidateState (requests : ChangeRequestTable) (baselines : BaselineTable) : Prop where
  carried : ∀ request ∈ requests, ∃ baseline ∈ baselines, Carried request baseline
  distinct : ∀ request ∈ requests, ∀ request' ∈ requests,
    request.candidateBaselineId = request'.candidateBaselineId → request = request'
  published : ∀ request ∈ requests, request.status = .published →
    request.publishedBaselineId = some request.candidateBaselineId

/-- The requests agree in everything but their validation. -/
structure SameRequest (request request' : ChangeRequestRecord) : Prop where
  candidacy : request'.candidacy = request.candidacy
  status : request'.status = request.status
  publishedBaselineId : request'.publishedBaselineId = request.publishedBaselineId

theorem SameRequest.refl (request : ChangeRequestRecord) : SameRequest request request :=
  ⟨rfl, rfl, rfl⟩

theorem SameRequest.trans (a b c : ChangeRequestRecord) (h : SameRequest a b)
    (h' : SameRequest b c) : SameRequest a c :=
  ⟨h'.candidacy.trans h.candidacy, h'.status.trans h.status,
    h'.publishedBaselineId.trans h.publishedBaselineId⟩

variable {requests requests' : ChangeRequestTable} {baselines baselines' : BaselineTable}
variable {request request' : ChangeRequestRecord} {requestId : UUID}

/-- The push of a run's status rewrites the validation of at most one request. -/
theorem pushValidationStatus_same {runId : UUID} {status : RunStatus}
    (h : request' ∈ pushValidationStatus requests runId status) :
    ∃ request ∈ requests, SameRequest request request' := by
  rw [pushValidationStatus] at h
  split at h
  · exact ⟨request', h, .refl request'⟩
  · obtain ⟨request, hmem, rfl⟩ := Table.mem_modify.mp h
    refine ⟨request, hmem, ?_⟩
    split
    · exact ⟨rfl, rfl, rfl⟩
    · exact .refl request

namespace CandidateState

/-- Rewriting validations keeps the invariant. -/
theorem of_same (h : CandidateState requests baselines)
    (hsame : ∀ request' ∈ requests', ∃ request ∈ requests, SameRequest request request') :
    CandidateState requests' baselines where
  carried := by
    intro request' hmem
    obtain ⟨request, hrequest, hcandidacy, hstatus, -⟩ := hsame request' hmem
    obtain ⟨baseline, hbaseline, hcarried⟩ := h.carried request hrequest
    simp only [ChangeRequestRecord.candidacy, Candidacy.mk.injEq] at hcandidacy
    obtain ⟨-, hproject, -, hid, -, hdigest, hdocument⟩ := hcandidacy
    exact ⟨baseline, hbaseline, hcarried.id.trans hid.symm, hcarried.document.trans hdocument.symm,
      hcarried.digest.trans hdigest.symm, hcarried.projectId.trans hproject.symm,
      hstatus ▸ hcarried.status⟩
  distinct := by
    intro a' ha' b' hb' hid
    obtain ⟨a, ha, hca, -⟩ := hsame a' ha'
    obtain ⟨b, hb, hcb, -⟩ := hsame b' hb'
    simp only [ChangeRequestRecord.candidacy, Candidacy.mk.injEq] at hca hcb
    obtain rfl := h.distinct a ha b hb (hca.2.2.2.1.symm.trans (hid.trans hcb.2.2.2.1))
    exact Table.eq_of_key_eq ha' hb' (hca.1.trans hcb.1.symm)
  published := by
    intro request' hmem hpublished
    obtain ⟨request, hrequest, hcandidacy, hstatus, hid⟩ := hsame request' hmem
    simp only [ChangeRequestRecord.candidacy, Candidacy.mk.injEq] at hcandidacy
    rw [hid, hcandidacy.2.2.2.1]
    exact h.published request hrequest (hstatus ▸ hpublished)

/-- A baseline that no request carries is added. -/
theorem add_baseline {baseline : CaseBaselineRecord} (h : CandidateState requests baselines)
    (hinsert : baselines.insert? baseline = some baselines') :
    CandidateState requests baselines' where
  carried := by
    intro request hmem
    obtain ⟨baseline, hbaseline, hcarried⟩ := h.carried request hmem
    exact ⟨baseline, (Table.mem_insert? hinsert).mpr (.inl hbaseline), hcarried⟩
  distinct := h.distinct
  published := h.published

/-- A fresh baseline is carried by no request yet. -/
theorem fresh {baseline : CaseBaselineRecord} (h : CandidateState requests baselines)
    (hfresh : ∀ row ∈ baselines, row.baselineId ≠ baseline.baselineId) :
    ∀ request ∈ requests, request.candidateBaselineId ≠ baseline.baselineId := by
  intro request hmem hid
  obtain ⟨row, hrow, hcarried⟩ := h.carried request hmem
  exact hfresh row hrow (hcarried.id.trans hid)

/-- A request is created together with its baseline. -/
theorem create {baseline : CaseBaselineRecord} (h : CandidateState requests baselines)
    (hrequests : requests.insert? request = some requests')
    (hinsert : baselines.insert? baseline = some baselines') (hcarried : Carried request baseline)
    (hstatus : request.status = .draft) : CandidateState requests' baselines' := by
  have hfresh := h.fresh (Table.insert?_eq_some.mp hinsert).1
  rw [hcarried.id] at hfresh
  refine ⟨?_, ?_, ?_⟩
  · refine Table.forall_insert? hrequests (h.add_baseline hinsert).carried ?_
    exact ⟨baseline, (Table.mem_insert? hinsert).mpr (.inr rfl), hcarried⟩
  · intro a ha b hb hid
    rcases (Table.mem_insert? hrequests).mp ha with ha | rfl <;>
      rcases (Table.mem_insert? hrequests).mp hb with hb | rfl
    · exact h.distinct a ha b hb hid
    · exact absurd hid (hfresh a ha)
    · exact absurd hid.symm (hfresh b hb)
    · rfl
  · refine Table.forall_insert? hrequests h.published fun hpublished => ?_
    rw [hstatus] at hpublished
    cases hpublished

/-- A request that keeps its candidate takes a status for which the baseline has the same one. -/
theorem restatus {f : ChangeRequestRecord → ChangeRequestRecord}
    {hf : KeepsKey ChangeRequestRecord.id f} (h : CandidateState requests baselines)
    (hrequest : requests.get? requestId = some request)
    (hcandidacy : ∀ request, (f request).candidacy = request.candidacy)
    (hstatus : (f request).status.baselineStatus = request.status.baselineStatus)
    (hunpublished : (f request).status ≠ .published) :
    CandidateState (requests.modify requestId f hf) baselines where
  carried := by
    refine Table.forall_modify h.carried fun request' hrequest' ⟨baseline, hmem, hcarried⟩ => ?_
    obtain rfl := Option.some.inj (hrequest.symm.trans hrequest')
    have hsame := hcandidacy request
    simp only [ChangeRequestRecord.candidacy, Candidacy.mk.injEq] at hsame
    obtain ⟨-, hproject, -, hid, -, hdigest, hdocument⟩ := hsame
    exact ⟨baseline, hmem, hcarried.id.trans hid.symm, hcarried.document.trans hdocument.symm,
      hcarried.digest.trans hdigest.symm, hcarried.projectId.trans hproject.symm,
      hcarried.status.trans hstatus.symm⟩
  distinct := by
    intro a' ha' b' hb' hid
    obtain ⟨a, ha, rfl⟩ := Table.mem_modify.mp ha'
    obtain ⟨b, hb, rfl⟩ := Table.mem_modify.mp hb'
    have hkeep : ∀ request : ChangeRequestRecord,
        (if request.id = requestId then f request else request).candidateBaselineId =
          request.candidateBaselineId := by
      intro request
      split
      · exact congrArg Candidacy.baselineId (hcandidacy request)
      · rfl
    rw [hkeep, hkeep] at hid
    rw [h.distinct a ha b hb hid]
  published := by
    refine Table.forall_modify h.published fun request' hrequest' _ hpublished => ?_
    obtain rfl := Option.some.inj (hrequest.symm.trans hrequest')
    exact absurd hpublished hunpublished

/-- A request and its baseline take a new status together. -/
theorem promote {f : ChangeRequestRecord → ChangeRequestRecord}
    {hf : KeepsKey ChangeRequestRecord.id f} {g : CaseBaselineRecord → CaseBaselineRecord}
    {hg : KeepsKey CaseBaselineRecord.baselineId g}
    (h : CandidateState requests baselines) (hrequest : requests.get? requestId = some request)
    (hcandidacy : ∀ request, (f request).candidacy = request.candidacy)
    (hdocument : ∀ baseline, SameDocument baseline (g baseline))
    (hstatus : ∀ baseline, (g baseline).status = (f request).status.baselineStatus)
    (hpublished : (f request).status = .published →
      (f request).publishedBaselineId = some request.candidateBaselineId) :
    CandidateState (requests.modify requestId f hf)
      (baselines.modify request.candidateBaselineId g hg) where
  carried := by
    intro request₁ hmem
    obtain ⟨request₀, hrequest₀, rfl⟩ := Table.mem_modify.mp hmem
    obtain ⟨baseline, hbaseline, hcarried⟩ := h.carried request₀ hrequest₀
    by_cases hid : request₀.id = requestId
    · obtain rfl := Option.some.inj (hrequest.symm.trans (Table.get?_eq_some.mpr ⟨hrequest₀, hid⟩))
      rw [if_pos hid]
      have hsame := hcandidacy request
      simp only [ChangeRequestRecord.candidacy, Candidacy.mk.injEq] at hsame
      obtain ⟨-, hproject, -, hbaselineId, -, hdigest, hdoc⟩ := hsame
      refine ⟨g baseline, ?_, (hg.eq baseline).trans (hcarried.id.trans hbaselineId.symm),
        (hdocument baseline).document.trans (hcarried.document.trans hdoc.symm),
        (hdocument baseline).digest.trans (hcarried.digest.trans hdigest.symm),
        (hdocument baseline).projectId.trans (hcarried.projectId.trans hproject.symm),
        hstatus baseline⟩
      have himage : (if baseline.baselineId = request.candidateBaselineId then g baseline
          else baseline) ∈ baselines.modify request.candidateBaselineId g hg :=
        Table.mem_modify_image hbaseline
      rwa [if_pos hcarried.id] at himage
    · rw [if_neg hid]
      refine ⟨baseline, Table.mem_modify_of_ne hbaseline fun hsame => hid ?_, hcarried⟩
      rw [h.distinct request₀ hrequest₀ request (Table.mem_of_get? hrequest)
        (hcarried.id.symm.trans hsame)]
      exact Table.key_of_get? hrequest
  distinct := by
    intro a' ha' b' hb' hid
    obtain ⟨a, ha, rfl⟩ := Table.mem_modify.mp ha'
    obtain ⟨b, hb, rfl⟩ := Table.mem_modify.mp hb'
    have hkeep : ∀ request : ChangeRequestRecord,
        (if request.id = requestId then f request else request).candidateBaselineId =
          request.candidateBaselineId := by
      intro request
      split
      · exact congrArg Candidacy.baselineId (hcandidacy request)
      · rfl
    rw [hkeep, hkeep] at hid
    rw [h.distinct a ha b hb hid]
  published := by
    refine Table.forall_modify h.published fun request' hrequest' _ hstatus' => ?_
    obtain rfl := Option.some.inj (hrequest.symm.trans hrequest')
    exact (hpublished hstatus').trans
      (congrArg some (congrArg Candidacy.baselineId (hcandidacy request)).symm)

/-- An editable request gives its baseline up for a fresh one. -/
theorem edit {f : ChangeRequestRecord → ChangeRequestRecord}
    {hf : KeepsKey ChangeRequestRecord.id f} {baseline : CaseBaselineRecord}
    {hg : KeepsKey CaseBaselineRecord.baselineId supersede}
    (h : CandidateState requests baselines) (hrequest : requests.get? requestId = some request)
    (hinsert : (baselines.modify request.candidateBaselineId supersede hg).insert? baseline =
      some baselines')
    (hcarried : Carried (f request) baseline) (hstatus : (f request).status = .draft) :
    CandidateState (requests.modify requestId f hf) baselines' := by
  have hfresh : ∀ request ∈ requests, request.candidateBaselineId ≠ baseline.baselineId := by
    refine h.fresh fun row hrow => ?_
    have hkeys := (Table.insert?_eq_some.mp hinsert).1
    have himage := hkeys _ (Table.mem_modify_image hrow)
    split at himage
    · exact himage
    · exact himage
  have hothers : ∀ other ∈ requests, other.id ≠ requestId →
      other.candidateBaselineId ≠ request.candidateBaselineId := by
    intro other hother hid hsame
    rw [h.distinct other hother request (Table.mem_of_get? hrequest) hsame] at hid
    exact hid (Table.key_of_get? hrequest)
  refine ⟨?_, ?_, ?_⟩
  · intro request₁ hmem
    obtain ⟨request₀, hrequest₀, rfl⟩ := Table.mem_modify.mp hmem
    by_cases hid : request₀.id = requestId
    · obtain rfl := Option.some.inj (hrequest.symm.trans (Table.get?_eq_some.mpr ⟨hrequest₀, hid⟩))
      rw [if_pos hid]
      exact ⟨baseline, (Table.mem_insert? hinsert).mpr (.inr rfl), hcarried⟩
    · rw [if_neg hid]
      obtain ⟨row, hrow, hrowCarried⟩ := h.carried request₀ hrequest₀
      refine ⟨row, (Table.mem_insert? hinsert).mpr (.inl ?_), hrowCarried⟩
      refine Table.mem_modify_of_ne hrow ?_
      rw [hrowCarried.id]
      exact hothers request₀ hrequest₀ hid
  · intro a' ha' b' hb' hid
    obtain ⟨a, ha, rfl⟩ := Table.mem_modify.mp ha'
    obtain ⟨b, hb, rfl⟩ := Table.mem_modify.mp hb'
    have hnew : ∀ request₀ ∈ requests, request₀.id = requestId →
        (f request₀).candidateBaselineId = baseline.baselineId := by
      intro request₀ hmem hid
      obtain rfl := Option.some.inj (hrequest.symm.trans (Table.get?_eq_some.mpr ⟨hmem, hid⟩))
      exact hcarried.id.symm
    by_cases haid : a.id = requestId <;> by_cases hbid : b.id = requestId
    · rw [Table.eq_of_key_eq ha hb (haid.trans hbid.symm)]
    · rw [if_pos haid, if_neg hbid, hnew a ha haid] at hid
      exact absurd hid.symm (hfresh b hb)
    · rw [if_neg haid, if_pos hbid, hnew b hb hbid] at hid
      exact absurd hid (hfresh a ha)
    · rw [if_neg haid, if_neg hbid] at hid ⊢
      exact h.distinct a ha b hb hid
  · refine Table.forall_modify h.published fun request' hrequest' _ hpublished => ?_
    obtain rfl := Option.some.inj (hrequest.symm.trans hrequest')
    rw [hstatus] at hpublished
    cases hpublished

end CandidateState

/-- Every write keeps the invariant. -/
theorem candidateState_write {effect : Effect} (hw : Write P effect db db')
    (hi : CandidateState db.changeRequests db.baselines) :
    CandidateState db'.changeRequests db'.baselines := by
  cases hw with
  | configured | poolCreated | poolUpdated | workersChanged | preferencesChanged
  | deliveriesRewritten | testDeliveriesAdded | outboxChanged | runQueued | slotBound | runStarted
  | eventRecorded | eventLogged | runCanceled | cancelRequested | leaseReleased | leaseAcquired
  | dispatchMarked | packageActivated => exact hi
  | resultRecorded => exact hi.of_same fun _ => pushValidationStatus_same
  | runRecovered => exact hi.of_same fun _ => pushValidationStatus_same
  | baselinePublished projectId baseline baselines hinsert => exact hi.add_baseline hinsert
  | requestCreated requestId projectId payload actorId baseBaselineId candidate items requests
      baselines hitems hrequests hinsert =>
    exact hi.create hrequests hinsert ⟨rfl, rfl, rfl, rfl, rfl⟩ rfl
  | requestEdited requestId payload request old candidate items baselines hitems hrequest heditable
      hold hdraft hinsert =>
    exact hi.edit hrequest hinsert ⟨rfl, rfl, rfl, rfl, rfl⟩ rfl
  | requestSubmitted now requestId request hrequest hdraft =>
    exact hi.restatus hrequest (fun _ => rfl) (by rw [hdraft]; rfl) nofun
  | requestReviewed now requestId approval request requests baselines hrequest hstatus hid hother
      hreviewed =>
    generalize approval.decision = decision at hreviewed
    cases hreviewed with
    | requestChanges =>
      exact hi.restatus hrequest (fun _ => rfl) (by rw [hstatus]; rfl) nofun
    | approve =>
      exact hi.promote hrequest (fun _ => rfl) (fun _ => ⟨rfl, rfl, rfl, rfl⟩) (fun _ => rfl) nofun
  | validationSkipped requestId request hrequest =>
    refine hi.of_same fun request' hmem => ?_
    obtain ⟨request, hrequest, rfl⟩ := Table.mem_modify.mp hmem
    refine ⟨request, hrequest, ?_⟩
    split <;> exact ⟨rfl, rfl, rfl⟩
  | validationLinked loaded runId =>
    refine hi.of_same fun request' hmem => ?_
    obtain ⟨request, hrequest, rfl⟩ := Table.mem_modify.mp hmem
    refine ⟨request, hrequest, ?_⟩
    split <;> exact ⟨rfl, rfl, rfl⟩
  | requestPublished now requestId runId request run baseline hgate =>
    exact hi.promote hgate.requestStored (fun _ => rfl) (fun _ => ⟨rfl, rfl, rfl, rfl⟩)
      (fun _ => rfl) fun _ => rfl

theorem candidateState_reachable {s : State} (h : (controlPlane P).Reachable s) :
    CandidateState s.db.changeRequests s.db.baselines :=
  reachable_invariant (p := fun db => CandidateState db.changeRequests db.baselines)
    ⟨fun _ hmem => absurd hmem Table.not_mem_empty, fun _ hmem => absurd hmem Table.not_mem_empty,
      fun _ hmem => absurd hmem Table.not_mem_empty⟩
    (fun _ _ _ => candidateState_write) h

/-- An approved or published request was one before the write, unless the write reviews or
    publishes a request. -/
theorem approved_write {effect : Effect} (hw : Write P effect db db')
    (hreviews : ∀ requestId, effect ≠ .requestReviewed requestId)
    (hpublishes : ∀ requestId runId, effect ≠ .requestPublished requestId runId)
    (hmem : request' ∈ db'.changeRequests)
    (hstatus : request'.status = .candidate ∨ request'.status = .published) :
    ∃ request ∈ db.changeRequests, SameRequest request request' := by
  cases hw with
  | configured | poolCreated | poolUpdated | workersChanged | preferencesChanged
  | deliveriesRewritten | testDeliveriesAdded | outboxChanged | runQueued | slotBound | runStarted
  | eventRecorded | eventLogged | runCanceled | cancelRequested | leaseReleased | leaseAcquired
  | dispatchMarked | packageActivated | baselinePublished =>
    exact ⟨request', hmem, .refl request'⟩
  | resultRecorded => exact pushValidationStatus_same hmem
  | runRecovered => exact pushValidationStatus_same hmem
  | requestCreated requestId projectId payload actorId baseBaselineId candidate items requests
      baselines hitems hrequests =>
    rcases (Table.mem_insert? hrequests).mp hmem with hmem | rfl
    · exact ⟨request', hmem, .refl request'⟩
    · rcases hstatus with hstatus | hstatus <;> cases hstatus
  | requestEdited | requestSubmitted =>
    obtain ⟨request, hrequest, rfl⟩ := Table.mem_modify.mp hmem
    refine ⟨request, hrequest, ?_⟩
    split at hstatus
    · rcases hstatus with hstatus | hstatus <;> cases hstatus
    · rename_i hid
      rw [if_neg hid]
      exact .refl request
  | validationSkipped | validationLinked =>
    obtain ⟨request, hrequest, rfl⟩ := Table.mem_modify.mp hmem
    refine ⟨request, hrequest, ?_⟩
    split <;> exact ⟨rfl, rfl, rfl⟩
  | requestReviewed => exact absurd rfl (hreviews _)
  | requestPublished => exact absurd rfl (hpublishes _ _)

end TestOps

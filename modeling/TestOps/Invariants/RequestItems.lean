import TestOps.Invariants.BaselineRegistry
import TestOps.Invariants.ChangeItems

/-! The items of every change request, under everything that writes requests:

      create, update      the items of the operations       one edit per case
      apply_git_release   the items of the comparison       one edit per case, as long as no
                                                            renamed case keeps its identifier

    The base of a request is released and final, so what its items say about the base stays true. -/

namespace TestOps

open Checked Relational Transition Edits

variable {P : Primitives} {lib : CronLibrary} {base candidate : CaseBaseline} {db db' : Database}

/-! ### One edit per case -/

def ChangeItemRecord.change (item : ChangeItemRecord) : GitReleaseCaseChange :=
  ⟨item.changeType, item.caseId, item.caseCode, item.changedFields⟩

/-- Each case is named once; an added one is new, the others keep the code they have in the base. -/
structure WellFormedItems (base : CaseBaseline) (changes : List GitReleaseCaseChange) : Prop where
  nodup : (changes.map GitReleaseCaseChange.caseId).Nodup
  added : ∀ change ∈ changes, change.changeType = .add →
    caseById base.cases change.caseId = none
  kept : ∀ change ∈ changes, change.changeType ≠ .add →
    ∃ before, caseById base.cases change.caseId = some before ∧ before.caseCode = change.caseCode

theorem WellFormedItems.perm {changes changes' : List GitReleaseCaseChange}
    (h : WellFormedItems base changes) (hperm : changes.Perm changes') :
    WellFormedItems base changes' where
  nodup := (hperm.map _).nodup_iff.mp h.nodup
  added change hchange := h.added change (hperm.mem_iff.mpr hchange)
  kept change hchange := h.kept change (hperm.mem_iff.mpr hchange)

theorem Composed.wellFormed {items : List ChangeItemRecord} (h : Composed base candidate items) :
    WellFormedItems base (items.map ChangeItemRecord.change) where
  nodup := by simpa [ChangeItemRecord.change, Function.comp_def] using h.nodup
  added := by
    intro change hchange hadd
    rcases List.mem_map.mp hchange with ⟨item, hitem, rfl⟩
    cases h.fits item hitem with
    | add _ _ _ case hnone => exact hnone
    | modify | delete => cases hadd
  kept := by
    intro change hchange hkept
    rcases List.mem_map.mp hchange with ⟨item, hitem, rfl⟩
    cases h.fits item hitem with
    | add => exact absurd rfl hkept
    | modify _ _ _ before after hbefore hcode => exact ⟨before, hbefore, hcode⟩
    | delete _ _ _ before hbefore => exact ⟨before, hbefore, rfl⟩

/-- What an item of a release says about base and candidate. -/
inductive ChangeFits (base candidate : CaseBaseline) : GitReleaseCaseChange → Prop
  | add (case : CaseDefinition) (fields : List String) : case ∈ candidate.cases →
      caseByCode base.cases case.caseCode = none →
      ChangeFits base candidate ⟨.add, case.caseId, case.caseCode, fields⟩
  | modify (before case : CaseDefinition) (fields : List String) : before ∈ base.cases →
      before.caseId = case.caseId → before.caseCode = case.caseCode →
      ChangeFits base candidate ⟨.modify, case.caseId, case.caseCode, fields⟩
  | delete (before : CaseDefinition) (fields : List String) : before ∈ base.cases →
      ChangeFits base candidate ⟨.delete, before.caseId, before.caseCode, fields⟩

theorem candidateCase_fits {case : CaseDefinition} {diff next : CaseDiff}
    (hcase : case ∈ candidate.cases) (h : diffCandidateCase base diff case = .ok next)
    (hi : ∀ change ∈ diff.changes, ChangeFits base candidate change) :
    ∀ change ∈ next.changes, ChangeFits base candidate change := by
  rw [diffCandidateCase] at h
  split at h
  · rename_i hnew
    obtain rfl := Except.ok.inj h
    simp only [CaseDiff.changes_add, List.forall_mem_append, List.forall_mem_singleton]
    exact ⟨hi, .add case _ hcase hnew⟩
  · rename_i before hbefore
    simp only [bind_eq_ok, ensure_eq_ok] at h
    rcases h with ⟨-, hid, h⟩
    split at h
    · obtain rfl := Except.ok.inj h
      exact hi
    · obtain rfl := Except.ok.inj h
      simp only [CaseDiff.changes_add, List.forall_mem_append, List.forall_mem_singleton]
      exact ⟨hi, .modify before case _ (mem_of_lookup hbefore) hid (key_of_lookup hbefore)⟩

theorem baseCases_fit {cases : List CaseDefinition} {diff : CaseDiff}
    (hcases : ∀ case ∈ cases, case ∈ base.cases)
    (hi : ∀ change ∈ diff.changes, ChangeFits base candidate change) :
    ∀ change ∈ (cases.foldl (diffBaseCase candidate) diff).changes,
      ChangeFits base candidate change := by
  induction cases generalizing diff with
  | nil => exact hi
  | cons case cases ih =>
    rcases List.forall_mem_cons.mp hcases with ⟨hcase, hrest⟩
    refine ih hrest ?_
    rw [diffBaseCase]
    split
    · exact hi
    · simp only [CaseDiff.changes_add, List.forall_mem_append, List.forall_mem_singleton]
      exact ⟨hi, .delete case _ hcase⟩

theorem changes_fit {diff : CaseDiff} (h : diffCases base candidate = .ok diff) :
    ∀ change ∈ diff.changes, ChangeFits base candidate change := by
  simp only [diffCases, bind_eq_ok, ensure_eq_ok, pure_eq_ok] at h
  rcases h with ⟨found, hfound, -, -, rfl⟩
  refine baseCases_fit (fun _ hcase => hcase) ?_
  exact foldlM_invariant (fun diff => ∀ change ∈ diff.changes, ChangeFits base candidate change)
    (fun _ _ _ hcase hround => candidateCase_fits hcase hround) hfound
    (fun _ hchange => absurd hchange List.not_mem_nil)

/-- Where codes keep their identifier, the items of a release are one edit per case. -/
theorem diffCases_wellFormed {diff : CaseDiff} (h : diffCases base candidate = .ok diff)
    (hkeeps : KeepsIds base candidate) : WellFormedItems base diff.changes where
  nodup := by
    have hnodup := (diffCases_matched h).nodup hkeeps
    simpa [CaseDiff.changes, ItemDocument.edit, ItemDocument.change, Function.comp_def] using hnodup
  added := by
    intro change hchange hadd
    cases changes_fit h change hchange with
    | add case fields hcase hnew => exact hkeeps case hcase hnew
    | modify | delete => cases hadd
  kept := by
    intro change hchange hkept
    cases changes_fit h change hchange with
    | add => exact absurd rfl hkept
    | modify before case fields hbefore hid hcode =>
      exact ⟨before, (lookup_eq_some base.caseIdsNodup).mpr ⟨hbefore, hid⟩, hcode⟩
    | delete before fields hbefore =>
      exact ⟨before, (lookup_eq_some base.caseIdsNodup).mpr ⟨hbefore, rfl⟩, rfl⟩

/-! ### Stored items -/

/-- The items of a request, as they are stored. -/
def storedChanges (db : Database) (requestId : UUID) : List GitReleaseCaseChange :=
  (db.changeItems.filter fun item => item.changeRequestId = requestId).map ChangeItemRecord.change

theorem changeRequestItems_perm (db : Database) (requestId : UUID) :
    (storedChanges db requestId).Perm
      ((changeRequestItems db requestId).map ChangeItemRecord.change) :=
  (List.perm_insertionSort _ _).symm.map _

/-- The base of the request is a released row, and the changes are one edit per case of it. -/
def FormedOver (db : Database) (request : ChangeRequestRecord)
    (changes : List GitReleaseCaseChange) : Prop :=
  ∃ row ∈ db.baselines, row.baselineId = request.baseBaselineId ∧ row.status = .released ∧
    WellFormedItems row.document changes

structure ItemsState (db : Database) : Prop where
  stored : ItemsStored db
  formed : ∀ request ∈ db.changeRequests, FormedOver db request (storedChanges db request.id)

theorem FormedOver.kept {request request' : ChangeRequestRecord}
    {changes : List GitReleaseCaseChange} (h : FormedOver db request changes)
    (hkept : ReleasedKept db db') (hbase : request'.baseBaselineId = request.baseBaselineId) :
    FormedOver db' request' changes := by
  rcases h with ⟨row, hrow, hid, hreleased, hformed⟩
  exact ⟨row, hkept row hrow hreleased, hid.trans hbase.symm, hreleased, hformed⟩

/-- No request has come in, none has another base, and the items are as they were. -/
structure Unedited (db db' : Database) : Prop where
  released : ReleasedKept db db'
  registry : RegistryKept db db'
  requests : ∀ request' ∈ db'.changeRequests, ∃ request ∈ db.changeRequests,
    request.id = request'.id ∧ request.baseBaselineId = request'.baseBaselineId
  items : db'.changeItems = db.changeItems

namespace Unedited

theorem of_same (h : RegistrySame db db') : Unedited db db' where
  released _ hrow _ := h.baselines ▸ hrow
  registry := .of_eq h.baselines h.requests h.items
  requests request' hrequest' := ⟨request', h.requests ▸ hrequest', rfl, rfl⟩
  items := h.items

theorem trans {a b c : Database} (hab : Unedited a b) (hbc : Unedited b c) : Unedited a c where
  released row hrow hreleased := hbc.released row (hab.released row hrow hreleased) hreleased
  registry := hab.registry.trans hbc.registry
  requests request'' hrequest'' := by
    rcases hbc.requests request'' hrequest'' with ⟨request', hrequest', hid', hbase'⟩
    rcases hab.requests request' hrequest' with ⟨request, hrequest, hid, hbase⟩
    exact ⟨request, hrequest, hid.trans hid', hbase.trans hbase'⟩
  items := hbc.items.trans hab.items

theorem state (h : Unedited db db') (hi : ItemsState db) : ItemsState db' where
  stored := h.registry.items hi.stored
  formed := by
    intro request' hrequest'
    rcases h.requests request' hrequest' with ⟨request, hrequest, hid, hbase⟩
    rw [storedChanges, h.items, ← hid]
    exact (hi.formed request hrequest).kept h.released hbase.symm

end Unedited

theorem pushValidationStatus_base {requests : ChangeRequestTable} {runId : UUID}
    {status : RunStatus} {request' : ChangeRequestRecord}
    (h : request' ∈ pushValidationStatus requests runId status) :
    ∃ request ∈ requests, request.id = request'.id ∧
      request.baseBaselineId = request'.baseBaselineId := by
  rw [pushValidationStatus] at h
  split at h
  · exact ⟨request', h, rfl, rfl⟩
  · rcases Table.mem_modify.mp h with ⟨request, hmem, rfl⟩
    refine ⟨request, hmem, ?_⟩
    split <;> exact ⟨rfl, rfl⟩

/-- Only two writes bring items in. -/
theorem unedited_write {effect : Effect} (hw : Write P effect db db')
    (hcreated : ∀ requestId, effect ≠ .requestCreated requestId)
    (hedited : ∀ requestId, effect ≠ .requestEdited requestId) : Unedited db db' := by
  refine ⟨(rows_write hw).released, registryKept_write hw, fun request' hmem => ?_, ?_⟩
  · cases hw with
    | configured | poolCreated | poolUpdated | workersChanged | preferencesChanged
    | deliveriesRewritten | testDeliveriesAdded | outboxChanged | runQueued | slotBound | runStarted
    | eventRecorded | eventLogged | runCanceled | cancelRequested | leaseReleased | leaseAcquired
    | dispatchMarked | packageActivated | baselinePublished => exact ⟨request', hmem, rfl, rfl⟩
    | resultRecorded => exact pushValidationStatus_base hmem
    | runRecovered => exact pushValidationStatus_base hmem
    | requestCreated requestId => exact absurd rfl (hcreated requestId)
    | requestEdited requestId => exact absurd rfl (hedited requestId)
    | requestReviewed now requestId approval request requests baselines hrequest hstatus hid hother
        hreviewed =>
      generalize approval.decision = decision at hreviewed
      cases hreviewed <;>
      · rcases Table.mem_modify.mp hmem with ⟨request₀, hrequest₀, rfl⟩
        refine ⟨request₀, hrequest₀, ?_⟩
        split <;> exact ⟨rfl, rfl⟩
    | requestSubmitted | validationSkipped | validationLinked | requestPublished =>
      rcases Table.mem_modify.mp hmem with ⟨request₀, hrequest₀, rfl⟩
      refine ⟨request₀, hrequest₀, ?_⟩
      split <;> exact ⟨rfl, rfl⟩
  · cases hw with
    | requestCreated requestId => exact absurd rfl (hcreated requestId)
    | requestEdited requestId => exact absurd rfl (hedited requestId)
    | _ => rfl

/-- A request comes in with its items. -/
theorem ItemsState.insert {request : ChangeRequestRecord} {items : List ChangeItemRecord}
    (h : ItemsState db) (hkept : ReleasedKept db db')
    (hrequests : db.changeRequests.insert? request = some db'.changeRequests)
    (hitems : db'.changeItems = db.changeItems ++ items)
    (hown : ∀ item ∈ items, item.changeRequestId = request.id)
    (hformed : FormedOver db request (items.map ChangeItemRecord.change)) : ItemsState db' := by
  have hnone : ∀ item ∈ db.changeItems, item.changeRequestId ≠ request.id := by
    intro item hitem hid
    rcases h.stored item hitem with ⟨stored, hstored, hsame⟩
    exact (Table.insert?_eq_some.mp hrequests).1 stored hstored (hsame.trans hid)
  refine ⟨?_, ?_⟩
  · intro item hitem
    rw [hitems] at hitem
    rcases List.mem_append.mp hitem with hold | hnew
    · rcases h.stored item hold with ⟨stored, hstored, hsame⟩
      exact ⟨stored, (Table.mem_insert? hrequests).mpr (.inl hstored), hsame⟩
    · exact ⟨request, (Table.mem_insert? hrequests).mpr (.inr rfl), (hown item hnew).symm⟩
  · intro request' hrequest'
    rw [storedChanges, hitems, List.filter_append]
    rcases (Table.mem_insert? hrequests).mp hrequest' with hold | rfl
    · have hother : items.filter (fun item => item.changeRequestId = request'.id) = [] := by
        refine List.filter_eq_nil_iff.mpr ?_
        intro item hitem
        rw [hown item hitem, decide_eq_true_eq]
        exact ((Table.insert?_eq_some.mp hrequests).1 request' hold).symm
      rw [hother, List.append_nil]
      exact (h.formed request' hold).kept hkept rfl
    · have hold : db.changeItems.filter (fun item => item.changeRequestId = request'.id) = [] := by
        simpa using hnone
      have hnew : items.filter (fun item => item.changeRequestId = request'.id) = items := by
        simpa using hown
      rw [hold, hnew, List.nil_append]
      exact hformed.kept hkept rfl

/-- The items of a request are replaced. -/
theorem ItemsState.replace {requestId : UUID} {f : ChangeRequestRecord → ChangeRequestRecord}
    {hf : KeepsKey ChangeRequestRecord.id f} {request : ChangeRequestRecord}
    {items : List ChangeItemRecord} (h : ItemsState db) (hkept : ReleasedKept db db')
    (hrequest : db.changeRequests.get? requestId = some request)
    (hbase : ∀ request, (f request).baseBaselineId = request.baseBaselineId)
    (hrequests : db'.changeRequests = db.changeRequests.modify requestId f hf)
    (hitems : db'.changeItems =
      (db.changeItems.filter fun item => item.changeRequestId ≠ requestId) ++ items)
    (hown : ∀ item ∈ items, item.changeRequestId = requestId)
    (hformed : FormedOver db request (items.map ChangeItemRecord.change)) : ItemsState db' := by
  have hstays : ∀ stored ∈ db.changeRequests, ∃ stored' ∈ db'.changeRequests,
      stored'.id = stored.id := by
    intro stored hstored
    rw [hrequests]
    refine ⟨_, Table.mem_modify.mpr ⟨stored, hstored, rfl⟩, ?_⟩
    split
    · exact hf.eq stored
    · rfl
  refine ⟨?_, ?_⟩
  · intro item hitem
    rw [hitems] at hitem
    rcases List.mem_append.mp hitem with hold | hnew
    · rcases h.stored item (List.mem_of_mem_filter hold) with ⟨stored, hstored, hsame⟩
      rcases hstays stored hstored with ⟨stored', hstored', hid⟩
      exact ⟨stored', hstored', hid.trans hsame⟩
    · rcases hstays request (Table.mem_of_get? hrequest) with ⟨stored', hstored', hid⟩
      exact ⟨stored', hstored', hid.trans ((Table.key_of_get? hrequest).trans (hown item hnew).symm)⟩
  · intro request' hrequest'
    rw [hrequests] at hrequest'
    rcases Table.mem_modify.mp hrequest' with ⟨stored, hstored, rfl⟩
    rw [storedChanges, hitems, List.filter_append]
    by_cases hid : stored.id = requestId
    · obtain rfl : stored = request :=
        Option.some.inj ((Table.get?_eq_some.mpr ⟨hstored, hid⟩).symm.trans hrequest)
      rw [if_pos hid]
      have hold : (db.changeItems.filter fun item => item.changeRequestId ≠ requestId).filter
          (fun item => item.changeRequestId = (f stored).id) = [] := by
        refine List.filter_eq_nil_iff.mpr ?_
        intro item hitem
        rw [hf.eq stored, hid, decide_eq_true_eq]
        simpa using List.of_mem_filter hitem
      have hnew : items.filter (fun item => item.changeRequestId = (f stored).id) = items := by
        refine List.filter_eq_self.mpr ?_
        intro item hitem
        rw [hf.eq stored, hid, decide_eq_true_eq]
        exact hown item hitem
      rw [hold, hnew, List.nil_append]
      exact hformed.kept hkept (hbase stored)
    · rw [if_neg hid]
      have hold : (db.changeItems.filter fun item => item.changeRequestId ≠ requestId).filter
          (fun item => item.changeRequestId = stored.id) =
            db.changeItems.filter fun item => item.changeRequestId = stored.id := by
        rw [List.filter_filter]
        refine List.filter_congr fun item _ => ?_
        by_cases hitem : item.changeRequestId = stored.id
        · simp [hitem, hid]
        · simp [hitem]
      have hnew : items.filter (fun item => item.changeRequestId = stored.id) = [] := by
        refine List.filter_eq_nil_iff.mpr ?_
        intro item hitem
        rw [hown item hitem, decide_eq_true_eq]
        exact fun hsame => hid hsame.symm
      rw [hold, hnew, List.append_nil]
      exact (h.formed stored hstored).kept hkept rfl

/-! ### Steps -/

theorem releasedBase_ok {projectId baselineId : UUID} {record : CaseBaselineRecord}
    (h : releasedBase db projectId baselineId = .ok record) :
    record ∈ db.baselines ∧ record.baselineId = baselineId ∧ record.status = .released := by
  simp only [releasedBase, bind_eq_ok, found_eq_ok, ensure_eq_ok, pure_eq_ok] at h
  rcases h with ⟨record, hrecord, -, ⟨-, hreleased⟩, rfl⟩
  exact ⟨Table.mem_of_get? hrecord, Table.key_of_get? hrecord, hreleased⟩

theorem released_writes {permits : Effect → Prop} (h : Writes P permits db db') :
    ReleasedKept db db' :=
  h.rel (fun _ _ hrow _ => hrow)
    (fun _ _ _ hab hbc row hrow hreleased => hbc row (hab row hrow hreleased) hreleased)
    (fun _ _ _ _ hw => (rows_write hw).released)

theorem unedited_writes {permits : Effect → Prop} (h : Writes P permits db db')
    (hpermits : ∀ effect, permits effect →
      ∀ requestId, effect ≠ .requestCreated requestId ∧ effect ≠ .requestEdited requestId) :
    Unedited db db' :=
  h.rel (fun _ => .of_same ⟨rfl, rfl, rfl⟩) (fun _ _ _ => .trans) fun effect _ _ hp hw =>
    unedited_write hw (fun requestId => (hpermits effect hp requestId).1)
      (fun requestId => (hpermits effect hp requestId).2)

theorem itemsState_created {requestId candidateBaselineId projectId : UUID}
    {payload : ChangeRequestCreate} {actorId : UUID} (hi : ItemsState db)
    (h : createChangeRequest P requestId candidateBaselineId projectId payload actorId db =
      .ok db') : ItemsState db' := by
  have hwrites : Writes P (fun _ => True) db db' := createChangeRequest_writes trivial h
  have hkept := released_writes hwrites
  simp only [createChangeRequest, bind_eq_ok, ensure_eq_ok, found_eq_ok, pure_eq_ok,
    Prod.exists] at h
  rcases h with ⟨-, -, base, hbase, -, -, candidate, items, hcompose, requests, hrequests,
    baselines, -, rfl⟩
  rcases releasedBase_ok hbase with ⟨hmem, -, hreleased⟩
  refine hi.insert hkept hrequests rfl (composeCandidate_items hcompose) ?_
  exact ⟨base, hmem, rfl, hreleased, (composeCandidate_composed hcompose).wellFormed⟩

theorem itemsState_edited {newCandidateBaselineId projectId requestId : UUID}
    {payload : ChangeRequestUpdate} {actorId : UUID} {isAdmin : Bool} (hi : ItemsState db)
    (h : updateChangeRequest P newCandidateBaselineId projectId requestId payload actorId isAdmin
      db = .ok db') : ItemsState db' := by
  have hwrites : Writes P (fun _ => True) db db' := updateChangeRequest_writes trivial h
  have hkept := released_writes hwrites
  simp only [updateChangeRequest, bind_eq_ok, ensure_eq_ok, found_eq_ok, pure_eq_ok,
    getChangeRequest_eq_ok, Prod.exists] at h
  rcases h with ⟨record, ⟨hrecord, -⟩, -, -, -, -, -, -, base, hbase, old, -, -, -, candidate,
    items, hcompose, -, -, baselines, -, rfl⟩
  rcases releasedBase_ok hbase with ⟨hmem, hid, hreleased⟩
  refine hi.replace (f := editedRequest P payload candidate items) hkept hrecord (fun _ => rfl) rfl rfl
    (composeCandidate_items hcompose) ?_
  exact ⟨base, hmem, hid, hreleased, (composeCandidate_composed hcompose).wellFormed⟩

theorem Action.allows_requestCreated {a : Action} {requestId : UUID} :
    a.allows (.requestCreated requestId) ↔ ∃ candidateBaselineId projectId payload actorId,
      a = .createChangeRequest requestId candidateBaselineId projectId payload actorId := by
  cases a <;> simp [Action.allows, eq_comm]

theorem Action.allows_requestEdited {a : Action} {requestId : UUID} :
    a.allows (.requestEdited requestId) ↔ ∃ newCandidateBaselineId projectId payload actorId isAdmin,
      a = .updateChangeRequest newCandidateBaselineId projectId requestId payload actorId
        isAdmin := by
  cases a <;> simp [Action.allows, eq_comm]

theorem itemsState_step {s s' : State} {a : Action} (hi : ItemsState s.db)
    (h : step P s a = .ok s') : ItemsState s'.db := by
  by_cases hcreates : ∃ requestId, a.allows (.requestCreated requestId)
  · rcases hcreates with ⟨requestId, hallows⟩
    rcases Action.allows_requestCreated.mp hallows with
      ⟨candidateBaselineId, projectId, payload, actorId, rfl⟩
    simp only [step, Action.commit, bind_eq_ok, pure_eq_ok] at h
    rcases h with ⟨db, hcommit, rfl⟩
    exact itemsState_created hi hcommit
  · by_cases hupdates : ∃ requestId, a.allows (.requestEdited requestId)
    · rcases hupdates with ⟨requestId, hallows⟩
      rcases Action.allows_requestEdited.mp hallows with
        ⟨newCandidateBaselineId, projectId, payload, actorId, isAdmin, rfl⟩
      simp only [step, Action.commit, bind_eq_ok, pure_eq_ok] at h
      rcases h with ⟨db, hcommit, rfl⟩
      exact itemsState_edited hi hcommit
    · refine (unedited_writes (step_writes h) fun effect hallows requestId => ?_).state hi
      constructor
      · rintro rfl
        exact hcreates ⟨requestId, hallows⟩
      · rintro rfl
        exact hupdates ⟨requestId, hallows⟩

theorem itemsState_session {s s' : Sessions} {a : SessionAction} (hi : ItemsState s.core.db)
    (h : sessionStep P s a = .ok s') : ItemsState s'.core.db := by
  by_cases hother : ∃ action, a = .other action
  · rcases hother with ⟨action, rfl⟩
    simp only [sessionStep, bind_eq_ok, ensure_eq_ok, pure_eq_ok] at h
    rcases h with ⟨-, -, core, hcore, rfl⟩
    exact itemsState_step hi hcore
  · cases sessionStep_move h with
    | quiet hwrites =>
      refine (unedited_writes hwrites fun effect hallows requestId => ?_).state hi
      constructor
      all_goals
        rintro rfl
        cases a with
        | other action => exact hother ⟨action, rfl⟩
        | abandon => exact hallows
        | _ => cases hallows
    | begun => exact hi
    | planned => exact hi
    | created index now outboxId creation plan run core hcreation hplan hqueue =>
      rcases queueSnapshotRun_ok hqueue with ⟨-, -, -, runs, runEvents, runCases, outbox, hdb, -⟩
      refine (Unedited.of_same ?_).state hi
      rw [hdb]
      exact ⟨rfl, rfl, rfl⟩

theorem itemsState_service {s s' : Service} {a : ServiceAction} (hi : ItemsState s.db)
    (h : serviceStep P lib s a = .ok s') : ItemsState s'.db := by
  rcases serviceStep_sessions h with hsame | ⟨action, hstep⟩
  · rw [Service.db, hsame]
    exact hi
  · exact itemsState_session hi hstep

theorem Imported.itemsState {apply : PendingApply} (h : Imported apply db db')
    (hcompared : Compared P db apply)
    (hkeeps : KeepsIds apply.context.base.document apply.fetched.manifest.baseline)
    (hi : ItemsState db) : ItemsState db' := by
  have hformed := diffCases_wellFormed hcompared.diff hkeeps
  refine hi.insert (h.rows hcompared).released h.requests h.items ?_ ?_
  · intro item hitem
    rcases List.mem_map.mp hitem with ⟨document, -, rfl⟩
    rfl
  · refine ⟨apply.context.base, hcompared.base, rfl, hcompared.released, ?_⟩
    rw [List.map_map]
    exact hformed

/-! ### The items of every request -/

/-- A release that is compared has no renamed case that keeps its identifier. -/
def KeepsCodes (s : ReleaseSessions) : ReleaseSessionAction → Prop
  | .compare _ _ projectId _ fetched _ _ =>
    ∀ base ∈ s.releases.store.latestReleased projectId,
      KeepsIds base.document fetched.manifest.baseline
  | _ => True

instance (s : ReleaseSessions) (a : ReleaseSessionAction) : Decidable (KeepsCodes s a) := by
  cases a <;> unfold KeepsCodes <;> infer_instance

structure RequestItems (s : ReleaseSessions) : Prop where
  items : ItemsState s.db
  keeps : ∀ apply ∈ s.applies,
    KeepsIds apply.context.base.document apply.fetched.manifest.baseline

variable {s s' : ReleaseSessions} {a : ReleaseSessionAction}

theorem requestItems_step (hregistry : RegistryState P s) (hi : RequestItems s)
    (hguard : KeepsCodes s a) (h : releaseSessionStep P lib s a = .ok s') : RequestItems s' := by
  cases releaseSessionStep_move h with
  | service now action releases hstep => exact ⟨itemsState_service hi.items hstep, hi.keeps⟩
  | compared payload apply hexpected hstaging hcontext =>
    rcases releaseContext_ok hcontext with ⟨-, hbase, -, -⟩
    refine ⟨hi.items, fun apply' hmem => ?_⟩
    rcases List.mem_append.mp hmem with hmem | hmem
    · exact hi.keeps apply' hmem
    · obtain rfl := List.mem_singleton.mp hmem
      exact hguard _ hbase
  | staged index apply staging happly hstaging hfind =>
    refine ⟨hi.items, fun apply' hmem => ?_⟩
    rcases List.mem_or_eq_of_mem_set hmem with hmem | rfl
    · exact hi.keeps apply' hmem
    · exact hi.keeps apply (List.mem_of_getElem? happly)
  | committed index now apply staging store db response happly hstaging hcommit hcommitted =>
    have hmem := List.mem_of_getElem? happly
    refine ⟨?_, fun apply' hmem' => hi.keeps apply' (List.mem_of_mem_eraseIdx hmem')⟩
    exact hcommitted.rel (r := fun db db' => ItemsState db → ItemsState db')
      (fun _ _ _ hab hbc => hbc ∘ hab) (fun _ _ hsame => (Unedited.of_same hsame).state)
      (fun _ himported => himported.itemsState (hregistry.compared apply hmem)
        (hi.keeps apply hmem)) hi.items
  | abandoned index apply happly =>
    exact ⟨hi.items, fun apply' hmem => hi.keeps apply' (List.mem_of_mem_eraseIdx hmem)⟩

theorem requestItems_reachable (h : ((releaseSessions P lib).restrict KeepsCodes).Reachable s) :
    RequestItems s := by
  refine h.invariant_of (k := RegistryState P) (p := RequestItems) ?_ ?_ ?_
  · exact fun s hs => registryState_reachable hs.of_restrict
  · rintro s rfl
    exact ⟨⟨fun _ hitem => absurd hitem List.not_mem_nil,
      fun _ hrequest => absurd hrequest Table.not_mem_empty⟩,
      fun _ happly => absurd happly List.not_mem_nil⟩
  · rintro s a s' ⟨hguard, hstep⟩ hregistry - hi
    exact requestItems_step hregistry hi hguard hstep

/-- Where no release that is compared renames a case and keeps its identifier, the items of every
    request are one edit per case of its base. -/
theorem request_items (h : ((releaseSessions P lib).restrict KeepsCodes).Reachable s) :
    ∀ request ∈ s.db.changeRequests, ∃ base ∈ s.db.baselines,
      base.baselineId = request.baseBaselineId ∧
      WellFormedItems base.document
        ((changeRequestItems s.db request.id).map ChangeItemRecord.change) := by
  intro request hrequest
  rcases (requestItems_reachable h).items.formed request hrequest with
    ⟨base, hbase, hid, -, hformed⟩
  exact ⟨base, hbase, hid, hformed.perm (changeRequestItems_perm s.db request.id)⟩

open Installation in
/-- A release drops the second case: its request has the one deletion. -/
theorem request_items_dropped : ∃ s,
    ((releaseSessions primitives cronLibrary).restrict KeepsCodes).Reachable s ∧
    ∃ request ∈ s.db.changeRequests, ∃ base ∈ s.db.baselines,
      base.baselineId = request.baseBaselineId ∧
      (changeRequestItems s.db request.id).map ChangeItemRecord.changeType = [.delete] ∧
      WellFormedItems base.document
        ((changeRequestItems s.db request.id).map ChangeItemRecord.change) := by
  have hrun : Ends (guarded (releaseSessionStep primitives cronLibrary) KeepsCodes noSession)
      ReleaseSessions.init (releaseSetUp ++ applyFetched 1 40 6) fun s =>
        ∃ request ∈ s.db.changeRequests.rows,
          (changeRequestItems s.db request.id).map ChangeItemRecord.changeType = [.delete] := by
    decide +kernel
  obtain ⟨s, hs, request, hrequest, hdeletes⟩ :
      ∃ s, ((releaseSessions primitives cronLibrary).restrict KeepsCodes).Reachable s ∧ _ :=
    hrun.exists_restricted rfl
  rcases request_items hs request hrequest with ⟨base, hbase, hid, hformed⟩
  exact ⟨s, hs, request, hrequest, base, hbase, hid, hdeletes, hformed⟩

namespace Installation

/-- A release in which the second case has another code. -/
def fetchedRenamed : FetchedGitRelease :=
  { fetchedRelease with
    manifest := {
      fetchedRelease.manifest with
      baseline := renamed
      baselineDigest := primitives.canonicalSha256 (.baseline renamed) } }

/-- The release is applied without a break. -/
def applyRenamed : List ReleaseSessionAction :=
  [.compare 40 6 1 2 fetchedRenamed
    ⟨"revision", fetchedRenamed.manifest.baselineDigest, 6⟩ 100, .stage 0, .commit 0 1]

end Installation

open Installation in
/-- The renamed case is named twice: it is added although the base has it, and deleted. -/
theorem renamed_case_twice : ∃ s, (releaseSessions primitives cronLibrary).Reachable s ∧
    ∃ request ∈ s.db.changeRequests, ∃ base ∈ s.db.baselines,
      base.baselineId = request.baseBaselineId ∧
      ¬WellFormedItems base.document
        ((changeRequestItems s.db request.id).map ChangeItemRecord.change) := by
  have hrun : Ends (releaseSessionStep primitives cronLibrary) ReleaseSessions.init
      (releaseSetUp ++ applyRenamed) fun s =>
        ∃ request ∈ s.db.changeRequests.rows, (∃ base ∈ s.db.baselines.rows,
          base.baselineId = request.baseBaselineId) ∧
        (changeRequestItems s.db request.id).map ChangeItemRecord.caseId = [2, 2] := by
    decide +kernel
  obtain ⟨s, hs, request, hrequest, ⟨base, hbase, hid⟩, hids⟩ :
      ∃ s, (releaseSessions primitives cronLibrary).Reachable s ∧ _ :=
    hrun.exists_reachable (fun _ _ _ _ hstep => hstep) rfl
  refine ⟨s, hs, request, hrequest, base, hbase, hid, fun hformed => ?_⟩
  have hnodup := hformed.nodup
  rw [List.map_map, show GitReleaseCaseChange.caseId ∘ ChangeItemRecord.change =
    ChangeItemRecord.caseId from rfl, hids] at hnodup
  exact absurd hnodup (by decide)

end TestOps

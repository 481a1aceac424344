import TestOps.ControlPlane.ReleaseSync
import TestOps.Invariants.Candidates
import TestOps.Invariants.ServiceSteps

/-! What a release stages, against what its preview has shown. Between the two calls every other
    operation may commit; an apply compares the release once more:

      preview at s  ──▸  other operations  ──▸  apply at s'
      base of s                                 base of s'

    Baselines keep their documents, so the two comparisons agree as long as the release is compared
    with the same baseline. -/

namespace TestOps

open Checked Relational Transition

variable {P : Primitives} {lib : CronLibrary} {db db' : Database}

/-! ### The registry -/

/-- Every change item belongs to a stored request. -/
def ItemsStored (db : Database) : Prop :=
  ∀ item ∈ db.changeItems, ∃ request ∈ db.changeRequests, request.id = item.changeRequestId

/-- What no operation undoes: baselines keep their documents, and change items have their request. -/
structure RegistryKept (db db' : Database) : Prop where
  baselines : db.baselines.Evolves SameDocument db'.baselines
  items : ItemsStored db → ItemsStored db'

namespace RegistryKept

theorem refl (db : Database) : RegistryKept db db := ⟨.refl .refl, id⟩

theorem trans {a b c : Database} (h : RegistryKept a b) (h' : RegistryKept b c) :
    RegistryKept a c :=
  ⟨h.baselines.trans .trans h'.baselines, h'.items ∘ h.items⟩

/-- Nothing about baselines, requests and items has changed. -/
theorem of_eq (hbaselines : db'.baselines = db.baselines)
    (hrequests : db'.changeRequests = db.changeRequests)
    (hitems : db'.changeItems = db.changeItems) : RegistryKept db db' where
  baselines := hbaselines ▸ .refl .refl
  items h := by
    rw [ItemsStored, hrequests, hitems]
    exact h

end RegistryKept

/-- Requests stay, and so do the items they have. -/
theorem ItemsStored.of_requests (h : ItemsStored db)
    (hrequests : db.changeRequests.Evolves (fun _ _ => True) db'.changeRequests)
    (hitems : ∀ item ∈ db'.changeItems, item ∈ db.changeItems ∨
      ∃ request ∈ db'.changeRequests, request.id = item.changeRequestId) : ItemsStored db' := by
  intro item hitem
  rcases hitems item hitem with hold | hnew
  · obtain ⟨request, hrequest, hid⟩ := h item hold
    obtain ⟨request', hrequest', hid', -⟩ := hrequests request hrequest
    exact ⟨request', hrequest', hid'.trans hid⟩
  · exact hnew

theorem requests_evolve {effect : Effect} (hw : Write P effect db db') :
    db.changeRequests.Evolves (fun _ _ => True) db'.changeRequests := by
  have hpush : ∀ (runId : UUID) (status : RunStatus), db.changeRequests.Evolves (fun _ _ => True)
      (pushValidationStatus db.changeRequests runId status) := by
    intro runId status
    rw [pushValidationStatus]
    split
    · exact .refl fun _ => trivial
    · exact .modify (fun _ => trivial) fun _ _ => trivial
  cases hw with
  | configured | poolCreated | poolUpdated | workersChanged | preferencesChanged
  | deliveriesRewritten | testDeliveriesAdded | outboxChanged | runQueued | slotBound | runStarted
  | eventRecorded | eventLogged | runCanceled | cancelRequested | leaseReleased | leaseAcquired
  | dispatchMarked | packageActivated | baselinePublished => exact .refl fun _ => trivial
  | resultRecorded => exact hpush _ _
  | runRecovered => exact hpush _ _
  | requestCreated requestId projectId payload actorId baseBaselineId candidate items requests
      baselines hitems hrequests => exact .insert? (fun _ => trivial) hrequests
  | requestReviewed now requestId approval request requests baselines hrequest hstatus hid hother
      hreviewed =>
    generalize approval.decision = decision at hreviewed
    cases hreviewed with
    | requestChanges => exact .modify (fun _ => trivial) fun _ _ => trivial
    | approve => exact .modify (fun _ => trivial) fun _ _ => trivial
  | requestEdited | requestSubmitted | validationSkipped | validationLinked | requestPublished =>
    exact .modify (fun _ => trivial) fun _ _ => trivial

theorem registryKept_write {effect : Effect} (hw : Write P effect db db') :
    RegistryKept db db' := by
  refine ⟨baselines_write hw, fun hi => hi.of_requests (requests_evolve hw) ?_⟩
  cases hw with
  | requestCreated requestId projectId payload actorId baseBaselineId candidate items requests
      baselines hitems hrequests =>
    intro item hitem
    rcases List.mem_append.mp hitem with hold | hnew
    · exact .inl hold
    · exact .inr ⟨_, (Table.mem_insert? hrequests).mpr (.inr rfl), (hitems item hnew).symm⟩
  | requestEdited requestId payload request old candidate items baselines hitems hrequest =>
    intro item hitem
    rcases List.mem_append.mp hitem with hold | hnew
    · exact .inl (List.mem_of_mem_filter hold)
    · obtain ⟨request', hrequest', hid, -⟩ :=
        requests_evolve (.requestEdited requestId payload request old candidate items baselines
          hitems hrequest ‹_› ‹_› ‹_› ‹_›) request (Table.mem_of_get? hrequest)
      exact .inr ⟨request', hrequest',
        hid.trans ((Table.key_of_get? hrequest).trans (hitems item hnew).symm)⟩
  | _ => exact fun _ => .inl

theorem registryKept_session {s s' : Sessions} {a : SessionAction}
    (h : sessionStep P s a = .ok s') : RegistryKept s.core.db s'.core.db := by
  cases sessionStep_move h with
  | quiet hwrites =>
    exact hwrites.rel (r := RegistryKept) .refl (fun _ _ _ => .trans)
      fun _ _ _ _ hw => registryKept_write hw
  | begun => exact .refl _
  | planned => exact .refl _
  | created index now outboxId creation plan run core hcreation hplan hqueue =>
    obtain ⟨-, -, -, runs, runEvents, runCases, outbox, hdb, -⟩ := queueSnapshotRun_ok hqueue
    rw [hdb]
    exact .of_eq rfl rfl rfl

theorem registryKept_service {s s' : Service} {a : ServiceAction}
    (h : serviceStep P lib s a = .ok s') : RegistryKept s.db s'.db := by
  rcases serviceStep_sessions h with hsame | ⟨action, hstep⟩
  · exact .of_eq (by rw [Service.db, hsame]) (by rw [Service.db, hsame]) (by rw [Service.db, hsame])
  · exact registryKept_session hstep

/-! ### Differences -/

/-- The changes a comparison shows. -/
def CaseDiff.changes (diff : CaseDiff) : List GitReleaseCaseChange :=
  diff.documents.map ItemDocument.change

/-- The items are numbered from one. -/
def CaseDiff.Numbered (diff : CaseDiff) : Prop :=
  diff.documents.map ItemDocument.sequence = List.range' 1 diff.documents.length

theorem CaseDiff.Numbered.add {diff : CaseDiff} (h : diff.Numbered) (changeType : ChangeType)
    (case : CaseDefinition) (before after : Option CaseDefinition) :
    (diff.add changeType case before after).Numbered := by
  have hlength : (diff.add changeType case before after).documents.length =
      diff.documents.length + 1 := by
    simp [CaseDiff.add]
  rw [CaseDiff.Numbered, hlength, List.range'_1_concat, ← h, CaseDiff.add, List.map_append,
    List.map_singleton, Nat.add_comm 1]

theorem CaseDiff.changes_add {diff : CaseDiff} {changeType : ChangeType} {case : CaseDefinition}
    {before after : Option CaseDefinition} :
    (diff.add changeType case before after).changes = diff.changes ++
      [⟨changeType, case.caseId, case.caseCode, changedFields before after⟩] := by
  simp [CaseDiff.changes, CaseDiff.add, ItemDocument.change]

variable {base candidate candidate' : CaseBaseline} {diff diff' : CaseDiff}

theorem numbered_candidateCase {case : CaseDefinition} (h : diff.Numbered)
    (hcase : diffCandidateCase base diff case = .ok diff') : diff'.Numbered := by
  rw [diffCandidateCase] at hcase
  split at hcase
  · exact Except.ok.inj hcase ▸ h.add ..
  · simp only [bind_eq_ok, ensure_eq_ok] at hcase
    obtain ⟨-, -, hcase⟩ := hcase
    split at hcase
    · exact Except.ok.inj hcase ▸ h
    · exact Except.ok.inj hcase ▸ h.add ..

theorem numbered_baseCases (h : diff.Numbered) (cases : List CaseDefinition) :
    (cases.foldl (diffBaseCase candidate) diff).Numbered := by
  induction cases generalizing diff with
  | nil => exact h
  | cons case cases ih =>
    refine ih ?_
    rw [diffBaseCase]
    split
    · exact h
    · exact h.add ..

theorem diffCases_numbered (h : diffCases base candidate = .ok diff) : diff.Numbered := by
  simp only [diffCases, bind_eq_ok, ensure_eq_ok, pure_eq_ok] at h
  obtain ⟨found, hfound, -, -, rfl⟩ := h
  refine numbered_baseCases ?_ _
  exact foldlM_invariant CaseDiff.Numbered (fun _ _ _ _ hround hn => numbered_candidateCase hn hround)
    hfound rfl

/-- A comparison that cannot be made is an invalid request. -/
theorem diffCases_error {error : ServiceError} (h : diffCases base candidate = .error error) :
    ∃ message, error = .invalidRequest message := by
  rw [diffCases] at h
  cases hfound : candidate.cases.foldlM (diffCandidateCase base) ⟨[], 0⟩ with
  | ok found =>
    simp only [hfound, ok_bind] at h
    by_cases hlength : (base.cases.foldl (diffBaseCase candidate) found).documents.length ≤ 500
    · rw [ensure_true hlength, ok_bind] at h
      cases h
    · rw [ensure_false hlength, error_bind] at h
      exact ⟨_, (Except.error.inj h).symm⟩
  | error error' =>
    rw [hfound, error_bind] at h
    obtain rfl := Except.error.inj h
    obtain ⟨diff, case, -, hcase⟩ := foldlM_error hfound
    rw [diffCandidateCase] at hcase
    split at hcase
    · cases hcase
    · rename_i before hbefore
      by_cases hid : before.caseId = case.caseId
      · simp only [ensure_true hid, ok_bind] at hcase
        split at hcase <;> cases hcase
      · rw [ensure_false hid, error_bind] at hcase
        exact ⟨_, (Except.error.inj hcase).symm⟩

/-! Candidates of the same content show the same changes. -/

theorem comparable_keys {case case' : CaseDefinition} (h : case.comparable = case'.comparable) :
    case.caseId = case'.caseId ∧ case.caseCode = case'.caseCode := by
  have hid : case.comparable.caseId = case'.comparable.caseId :=
    congrArg CaseDefinition.caseId h
  have hcode : case.comparable.caseCode = case'.comparable.caseCode :=
    congrArg CaseDefinition.caseCode h
  exact ⟨hid, hcode⟩

theorem comparable_document {case case' : CaseDefinition}
    (h : case.comparable = case'.comparable) :
    (comparableCaseDocument case).comparable = (comparableCaseDocument case').comparable :=
  congrArg comparableCaseDocument h

theorem changedFields_congr {before after after' : CaseDefinition}
    (h : after.comparable = after'.comparable) :
    changedFields (some before) (some after) = changedFields (some before) (some after') := by
  rw [changedFields, changedFields, h]

theorem candidateCase_changes {case case' : CaseDefinition} {next next' : CaseDiff}
    (hcase : case.comparable = case'.comparable) (hdiff : diff.changes = diff'.changes)
    (h : diffCandidateCase base diff case = .ok next)
    (h' : diffCandidateCase base diff' case' = .ok next') : next.changes = next'.changes := by
  obtain ⟨hid, hcode⟩ := comparable_keys hcase
  have hdocument := comparable_document hcase
  rw [diffCandidateCase] at h h'
  rw [← hcode, ← hid] at h'
  cases hbefore : caseByCode base.cases case.caseCode with
  | none =>
    rw [hbefore] at h h'
    rw [← Except.ok.inj h, ← Except.ok.inj h', CaseDiff.changes_add, CaseDiff.changes_add, hdiff,
      hid, hcode]
    rfl
  | some before =>
    rw [hbefore] at h h'
    simp only [bind_eq_ok, ensure_eq_ok] at h h'
    obtain ⟨-, -, h⟩ := h
    obtain ⟨-, -, h'⟩ := h'
    rw [← hdocument] at h'
    split at h
    · rename_i hsame
      rw [if_pos hsame] at h'
      rw [← Except.ok.inj h, ← Except.ok.inj h']
      exact hdiff
    · rename_i hsame
      rw [if_neg hsame] at h'
      rw [← Except.ok.inj h, ← Except.ok.inj h', CaseDiff.changes_add, CaseDiff.changes_add, hdiff,
        changedFields_congr hdocument, hid, hcode]

theorem candidateCases_changes {cases cases' : List CaseDefinition} {next next' : CaseDiff}
    (hcases : cases.map CaseDefinition.comparable = cases'.map CaseDefinition.comparable)
    (hdiff : diff.changes = diff'.changes)
    (h : cases.foldlM (diffCandidateCase base) diff = .ok next)
    (h' : cases'.foldlM (diffCandidateCase base) diff' = .ok next') :
    next.changes = next'.changes := by
  induction cases generalizing cases' diff diff' with
  | nil =>
    obtain rfl := List.map_eq_nil_iff.mp hcases.symm
    cases h
    cases h'
    exact hdiff
  | cons case cases ih =>
    cases cases' with
    | nil => cases hcases
    | cons case' cases' =>
      obtain ⟨hcase, hrest⟩ := List.cons.inj hcases
      simp only [List.foldlM_cons, bind_eq_ok] at h h'
      obtain ⟨d, hd, h⟩ := h
      obtain ⟨d', hd', h'⟩ := h'
      exact ih hrest (candidateCase_changes hcase hdiff hd hd') h h'

/-- Whether a code is among the cases is seen on their comparable forms. -/
theorem caseByCode_isSome {cases : List CaseDefinition} {caseCode : String} :
    (caseByCode cases caseCode).isSome =
      (cases.map CaseDefinition.comparable).any fun case => case.caseCode = caseCode := by
  rw [caseByCode, Bool.eq_iff_iff, List.find?_isSome, List.any_map, List.any_eq_true]
  exact Iff.rfl

theorem baseCases_changes {cases : List CaseDefinition}
    (hcases : candidate.cases.map CaseDefinition.comparable =
      candidate'.cases.map CaseDefinition.comparable)
    (hdiff : diff.changes = diff'.changes) :
    (cases.foldl (diffBaseCase candidate) diff).changes =
      (cases.foldl (diffBaseCase candidate') diff').changes := by
  induction cases generalizing diff diff' with
  | nil => exact hdiff
  | cons case cases ih =>
    refine ih ?_
    rw [diffBaseCase, diffBaseCase, caseByCode_isSome, caseByCode_isSome, hcases]
    split
    · exact hdiff
    · rw [CaseDiff.changes_add, CaseDiff.changes_add, hdiff]

theorem diffCases_changes (hsame : candidate.SameContent candidate')
    (h : diffCases base candidate = .ok diff) (h' : diffCases base candidate' = .ok diff') :
    diff.changes = diff'.changes := by
  obtain ⟨-, -, -, -, hcases⟩ := hsame
  simp only [diffCases, bind_eq_ok, ensure_eq_ok, pure_eq_ok] at h h'
  obtain ⟨next, hnext, -, -, rfl⟩ := h
  obtain ⟨next', hnext', -, -, rfl⟩ := h'
  exact baseCases_changes hcases (candidateCases_changes hcases rfl hnext hnext')

end TestOps

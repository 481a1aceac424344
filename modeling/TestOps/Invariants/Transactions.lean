import TestOps.Invariants.Commands

/-! The writes of the remaining commands, and of every step of the control plane. -/

namespace TestOps

open Checked Relational Transition

variable {P : Primitives} {db db' : Database} {permits : Effect → Prop}

/-! ### Configuration, pools and email -/

theorem configure_writes {configuration : Configuration} (hp : permits .configured)
    (h : configure configuration db = .ok db') : Writes P permits db db' := by
  simp only [configure, bind_eq_ok, ensure_eq_ok, pure_eq_ok] at h
  obtain ⟨-, ⟨hprojects, -⟩, rfl⟩ := h
  exact .single hp (.configured configuration hprojects)

theorem createRunnerPool_writes {poolId : UUID} {payload : RunnerPoolCreate}
    (hp : permits .poolCreated) (h : createRunnerPool poolId payload db = .ok db') :
    Writes P permits db db' := by
  simp only [createRunnerPool, bind_eq_ok, ensure_eq_ok, found_eq_ok, pure_eq_ok] at h
  obtain ⟨-, -, pools, hinsert, rfl⟩ := h
  exact .single hp (.poolCreated _ pools hinsert)

theorem updateRunnerPool_writes {poolId : UUID} {payload : RunnerPoolUpdate}
    (hp : permits (.poolUpdated poolId payload))
    (h : updateRunnerPool poolId payload db = .ok db') : Writes P permits db db' := by
  simp only [updateRunnerPool, bind_eq_ok, ensure_eq_ok, found_eq_ok, pure_eq_ok] at h
  obtain ⟨-, -, -, -, rfl⟩ := h
  exact .single hp (.poolUpdated poolId payload)

theorem heartbeatRunnerWorker_writes {now : Instant} {workerId : UUID} {workerKey : String}
    {payload : RunnerWorkerHeartbeat} (hp : permits .workersChanged)
    (h : heartbeatRunnerWorker now workerId workerKey payload db = .ok db') :
    Writes P permits db db' := by
  simp only [heartbeatRunnerWorker, bind_eq_ok, ensure_eq_ok, found_eq_ok] at h
  obtain ⟨pool, -, -, -, h⟩ := h
  split at h
  · simp only [bind_eq_ok, found_eq_ok, pure_eq_ok] at h
    obtain ⟨workers, -, rfl⟩ := h
    exact .single hp (.workersChanged workers)
  · simp only [bind_eq_ok, ensure_eq_ok, pure_eq_ok] at h
    obtain ⟨-, -, rfl⟩ := h
    exact .single hp (.workersChanged _)

theorem updateRunnerWorker_writes {workerId : UUID} {status : ServingStatus}
    (hp : permits .workersChanged) (h : updateRunnerWorker workerId status db = .ok db') :
    Writes P permits db db' := by
  simp only [updateRunnerWorker, bind_eq_ok, found_eq_ok, pure_eq_ok] at h
  obtain ⟨-, -, rfl⟩ := h
  exact .single hp (.workersChanged _)

theorem updateRunEmailPreference_writes {userId : UUID} {payload : RunEmailPreferenceUpdate}
    {smtpConfigured : Bool} (hp : permits .preferencesChanged)
    (hd : permits .deliveriesRewritten)
    (h : updateRunEmailPreference P userId payload smtpConfigured db = .ok db') :
    Writes P permits db db' := by
  obtain ⟨preferences, deliveries, rfl, rfl | rfl⟩ := updateRunEmailPreference_ok h
  · exact .single hp (.preferencesChanged preferences)
  · exact (Writes.single hp (.preferencesChanged preferences)).tail hd
      (.deliveriesRewritten _ _ _ fun _ => ⟨rfl, rfl⟩)

theorem enqueueRunEmailTest_writes {now : Instant} {nonce : Nat → UUID} {userId : UUID}
    {smtpConfigured : Bool} (hp : permits .testDeliveriesAdded)
    (h : enqueueRunEmailTest P now nonce userId smtpConfigured db = .ok db') :
    Writes P permits db db' := by
  obtain ⟨deliveries, emailDeliveries, rfl, hinsert, hnone⟩ := enqueueRunEmailTest_ok h
  exact .single hp (.testDeliveriesAdded deliveries emailDeliveries hinsert hnone)

theorem settleDelivery_writes {key : DeliveryKey} {status : DeliveryStatus} {attempts : Nat}
    {availableAt : Instant} {lastError : Option String} (hp : permits .deliveriesRewritten) :
    Writes P permits db (settleDelivery key status attempts availableAt lastError db) := by
  rw [settleDelivery, Table.modify_def]
  exact .single hp (.deliveriesRewritten _ _ _ fun _ => ⟨rfl, rfl⟩)

/-! ### Run creation -/

theorem queueSnapshotRun_write {now : Instant} {outboxId : UUID} {plan : RunPlan}
    {run : TestRunRecord} {created : Bool} (horigin : RunOrigin P db plan)
    (h : queueSnapshotRun P now outboxId plan db = .ok (db', run, created)) :
    Write P (.runQueued plan) db db' := by
  obtain ⟨-, -, hkey, runs, runEvents, runCases, outbox, rfl, hruns, hcases, houtbox, hlogged⟩ :=
    queueSnapshotRun_ok h
  exact .runQueued plan runs runEvents runCases outbox horigin hkey hruns hcases
    ⟨now, outboxId, houtbox⟩ hlogged

theorem createRun_writes {now : Instant} {runId outboxId : UUID} {payload : RunCreate}
    {key : String} {actorId : UUID} {baselineStatuses : List BaselineStatus}
    {packageStatuses : List PackageStatus} {scheduleId : Option UUID}
    {scheduledFor : Option Instant} {run : TestRunRecord} {created : Bool}
    (hp : ∀ plan, permits (.runQueued plan))
    (h : createRun P now runId outboxId payload key actorId baselineStatuses packageStatuses
      scheduleId scheduledFor db = .ok (db', run, created)) : Writes P permits db db' := by
  obtain ⟨rfl, -⟩ | ⟨-, plan, hplan, hqueue⟩ := createRun_ok h
  · exact .refl db'
  · obtain ⟨baseline, hplanned⟩ := planRun_ok hplan
    exact .single (hp plan) (queueSnapshotRun_write (.request _ _ _ _ _ _ _ hplanned) hqueue)

theorem createRerun_writes {now : Instant} {runId outboxId sourceRunId : UUID} {mode : RetryMode}
    {key : String} {actorId : UUID} {run : TestRunRecord} {created : Bool}
    (hp : ∀ plan, permits (.runQueued plan))
    (h : createRerun P now runId outboxId sourceRunId mode key actorId db =
      .ok (db', run, created)) : Writes P permits db db' := by
  obtain ⟨source, hsource, hterminal, ⟨rfl, -⟩ | ⟨-, plan, hplan, hqueue⟩⟩ := createRerun_ok h
  · exact .refl db'
  · exact .single (hp plan) (queueSnapshotRun_write
      (.rerun _ _ source _ _ _ (Table.mem_of_get? hsource) hterminal (planRerun_ok hplan)) hqueue)

theorem createCandidateRun_writes {now : Instant} {runId outboxId projectId requestId : UUID}
    {payload : CandidateRunCreate} {key : String} {actorId : UUID} {run : TestRunRecord}
    {created : Bool} (hp : ∀ plan, permits (.runQueued plan))
    (h : createCandidateRun P now runId outboxId projectId requestId payload key actorId db =
      .ok (db', run, created)) : Writes P permits db db' := by
  simp only [createCandidateRun, bind_eq_ok, ensure_eq_ok] at h
  obtain ⟨record, -, -, -, h⟩ := h
  exact createRun_writes hp h

/-! ### Baselines and packages -/

theorem publishBaseline_writes {projectId : UUID} {digest : Digest} {baseline : CaseBaseline}
    (hp : permits .baselinePublished) (h : publishBaseline P projectId digest baseline db = .ok db') :
    Writes P permits db db' := by
  obtain rfl | ⟨baselines, rfl, rfl, hinsert⟩ := publishBaseline_ok h
  · exact .refl db'
  · exact .single hp (.baselinePublished projectId baseline baselines hinsert)

theorem activateAutomationPackage_writes {now : Instant}
    {projectId targetId packageId validationRunId actorId : UUID}
    (hp : permits (.packageActivated packageId validationRunId))
    (h : activateAutomationPackage now projectId targetId packageId validationRunId actorId db =
      .ok db') : Writes P permits db db' := by
  obtain ⟨rfl, -⟩ | ⟨run, baseline, hgate, rfl⟩ := activateAutomationPackage_ok h
  · exact .refl db'
  · exact .single hp (.packageActivated now packageId validationRunId actorId run baseline hgate)

/-! ### Governance -/

theorem createChangeRequest_writes {requestId candidateBaselineId projectId : UUID}
    {payload : ChangeRequestCreate} {actorId : UUID} (hp : permits (.requestCreated requestId))
    (h : createChangeRequest P requestId candidateBaselineId projectId payload actorId db =
      .ok db') : Writes P permits db db' := by
  simp only [createChangeRequest, bind_eq_ok, ensure_eq_ok, found_eq_ok, pure_eq_ok,
    Prod.exists] at h
  obtain ⟨-, -, base, -, -, -, candidate, items, hcompose, requests, hrequests, baselines,
    hbaselines, rfl⟩ := h
  exact .single hp (.requestCreated requestId projectId payload actorId base.baselineId candidate
    items requests baselines (composeCandidate_items hcompose) hrequests
    (insertBaseline_ok hbaselines))

theorem updateChangeRequest_writes {newCandidateBaselineId projectId requestId : UUID}
    {payload : ChangeRequestUpdate} {actorId : UUID} {isAdmin : Bool}
    (hp : permits (.requestEdited requestId))
    (h : updateChangeRequest P newCandidateBaselineId projectId requestId payload actorId isAdmin
      db = .ok db') : Writes P permits db db' := by
  simp only [updateChangeRequest, bind_eq_ok, ensure_eq_ok, found_eq_ok, pure_eq_ok,
    getChangeRequest_eq_ok, Prod.exists] at h
  obtain ⟨record, ⟨hrecord, hproject⟩, -, heditable, -, -, -, -, base, -, old, hold, -, hdraft,
    candidate, items, hcompose, -, -, baselines, hbaselines, rfl⟩ := h
  exact .single hp (.requestEdited requestId payload record old candidate items baselines
    (composeCandidate_items hcompose) hrecord heditable hold hdraft
    (hproject ▸ insertBaseline_ok hbaselines))

theorem submitChangeRequest_writes {now : Instant} {projectId requestId actorId : UUID}
    (hp : permits (.requestSubmitted requestId))
    (h : submitChangeRequest now projectId requestId actorId db = .ok db') :
    Writes P permits db db' := by
  simp only [submitChangeRequest, bind_eq_ok, ensure_eq_ok, pure_eq_ok,
    getChangeRequest_eq_ok] at h
  obtain ⟨record, ⟨hrecord, -⟩, -, -, -, hdraft, -, hvalidated, rfl⟩ := h
  exact .single hp (.requestSubmitted now requestId record hrecord hdraft hvalidated)

/-- A review appends its approval and decides about the request and its baseline. -/
theorem reviewChangeRequest_ok {now : Instant} {approvalId projectId requestId : UUID}
    {payload : ReviewDecisionRequest} {reviewerId : UUID}
    (h : reviewChangeRequest now approvalId projectId requestId payload reviewerId db = .ok db') :
    ∃ request requests baselines, db.changeRequests.get? requestId = some request ∧
      request.status = .inReview ∧ reviewerId ≠ request.createdBy ∧
      Reviewed now db requestId request payload.decision requests baselines ∧
      db' = { db with
        approvals := db.approvals ++
          [⟨approvalId, requestId, reviewerId, payload.decision, payload.comment, now⟩]
        changeRequests := requests
        baselines := baselines } := by
  simp only [reviewChangeRequest, bind_eq_ok, ensure_eq_ok, getChangeRequest_eq_ok] at h
  obtain ⟨record, ⟨hrecord, -⟩, -, hreview, -, hother, h⟩ := h
  refine ⟨record, ?_⟩
  split at h
  · rename_i hdecision
    simp only [pure_eq_ok] at h
    exact ⟨_, _, hrecord, hreview, fun heq => hother heq.symm, hdecision ▸ .requestChanges,
      h.symm⟩
  · rename_i hdecision
    simp only [bind_eq_ok, ensure_eq_ok, found_eq_ok, pure_eq_ok] at h
    obtain ⟨candidate, hcandidate, -, hdraft, rfl⟩ := h
    exact ⟨_, _, hrecord, hreview, fun heq => hother heq.symm,
      hdecision ▸ .approve candidate hcandidate hdraft, rfl⟩

theorem reviewChangeRequest_writes {now : Instant} {approvalId projectId requestId : UUID}
    {payload : ReviewDecisionRequest} {reviewerId : UUID}
    (hp : permits (.requestReviewed requestId))
    (h : reviewChangeRequest now approvalId projectId requestId payload reviewerId db = .ok db') :
    Writes P permits db db' := by
  obtain ⟨request, requests, baselines, hrequest, hstatus, hother, hreviewed, rfl⟩ :=
    reviewChangeRequest_ok h
  exact .single hp (.requestReviewed now requestId _ request requests baselines hrequest hstatus rfl
    hother hreviewed)

/-- A request is published through its gate. -/
theorem publishChangeRequest_ok {now : Instant} {projectId requestId regressionRunId : UUID}
    (h : publishChangeRequest now projectId requestId regressionRunId db = .ok db') :
    ∃ request run baseline, PublicationGate db requestId regressionRunId request run baseline ∧
      db' = { db with
        changeRequests := db.changeRequests.modify requestId (publishedRequest now)
        baselines := db.baselines.modify request.candidateBaselineId fun baseline =>
          { baseline with status := .released } } := by
  simp only [publishChangeRequest, bind_eq_ok, ensure_eq_ok, found_eq_ok, pure_eq_ok,
    getChangeRequest_eq_ok] at h
  obtain ⟨request, ⟨hrequest, -⟩, -, hcandidate, run, hrun, -, ⟨-, hexecutes⟩, -,
    ⟨hpassed, hrecorded⟩, baseline, hbaseline, -, hstatus, -, hfull, rfl⟩ := h
  exact ⟨request, run, baseline, ⟨hrequest, hcandidate, hrun, hexecutes, hpassed, hrecorded,
    hbaseline, hstatus, hfull⟩, rfl⟩

theorem publishChangeRequest_writes {now : Instant} {projectId requestId regressionRunId : UUID}
    (hp : permits (.requestPublished requestId regressionRunId))
    (h : publishChangeRequest now projectId requestId regressionRunId db = .ok db') :
    Writes P permits db db' := by
  obtain ⟨request, run, baseline, hgate, rfl⟩ := publishChangeRequest_ok h
  exact .single hp (.requestPublished now requestId regressionRunId request run baseline hgate)

/-! ### Validation runs -/

theorem linkValidationRun_ok {loaded : ChangeRequestRecord} {runId : UUID}
    (h : linkValidationRun loaded runId db = .ok db') :
    Write P (.validationLinked loaded runId) db db' := by
  simp only [linkValidationRun, bind_eq_ok, pure_eq_ok] at h
  obtain ⟨-, -, rfl⟩ := h
  exact .validationLinked loaded runId

/-- What the first transaction of a validation run comes to. -/
inductive ValidationOutcome (P : Primitives) (now : Instant) (runId outboxId requestId : UUID)
    (key : String) (actorId : UUID) (db : Database) (request : ChangeRequestRecord)
    (payload : RunCreate) : Database → Option PendingValidation → Prop
  /-- No case is affected. -/
  | skipped {db' : Database} : validationCodes db requestId = [] →
      Write P (.validationSkipped requestId) db db' →
      ValidationOutcome P now runId outboxId requestId key actorId db request payload db' none
  /-- The linked run answers the call. -/
  | current (run : TestRunRecord) : run ∈ db.runs → request.validationRunId = some run.id →
      ValidationOutcome P now runId outboxId requestId key actorId db request payload db none
  /-- A run with the same key and request is linked. -/
  | replayed {db' : Database} (run : TestRunRecord) :
      Replayed db payload.projectId key (P.canonicalSha256 (.runCreate payload)) run →
      Write P (.validationLinked request run.id) db db' →
      ValidationOutcome P now runId outboxId requestId key actorId db request payload db' none
  /-- A run is queued, to be linked in a second transaction. -/
  | queued {db' : Database} (plan : RunPlan) (baseline : CaseBaselineRecord) :
      Planned P now runId payload key actorId [.draft] db plan baseline →
      Write P (.runQueued plan) db db' →
      ValidationOutcome P now runId outboxId requestId key actorId db request payload db'
        (some ⟨request, plan.snapshot.runId⟩)

theorem createValidationRun_ok {now : Instant} {runId outboxId projectId requestId : UUID}
    {payload : CandidateRunCreate} {key : String} {actorId : UUID}
    {pending : Option PendingValidation}
    (h : createValidationRun P now runId outboxId projectId requestId payload key actorId db =
      .ok (db', pending)) :
    ∃ request, db.changeRequests.get? requestId = some request ∧
      request.status.editable = true ∧ ValidationOutcome P now runId outboxId requestId key actorId
        db request (validationPayload projectId payload request (validationCodes db requestId)) db'
        pending := by
  simp only [createValidationRun, bind_eq_ok, ensure_eq_ok, getChangeRequest_eq_ok] at h
  obtain ⟨request, ⟨hrequest, hproject⟩, -, heditable, h⟩ := h
  refine ⟨request, hrequest, heditable, ?_⟩
  split at h
  · rename_i hcodes
    simp only [pure_eq_ok, Prod.mk.injEq] at h
    obtain ⟨rfl, rfl⟩ := h
    exact .skipped hcodes (.validationSkipped requestId request hrequest heditable hcodes)
  · simp only [bind_eq_ok] at h
    obtain ⟨current, hcurrent, h⟩ := h
    cases current with
    | some run =>
      simp only [pure_eq_ok, Prod.mk.injEq] at h
      obtain ⟨rfl, rfl⟩ := h
      rw [currentValidation] at hcurrent
      split at hcurrent
      · simp at hcurrent
      · rename_i existing hexisting
        obtain ⟨linked, hlinked, hstored⟩ := Option.bind_eq_some_iff.mp hexisting
        obtain rfl := Table.key_of_get? hstored
        split at hcurrent
        · exact .current existing (Table.mem_of_get? hstored) hlinked
        · simp at hcurrent
    | none =>
      simp only [bind_eq_ok, Prod.exists] at h
      obtain ⟨created_db, run, created, hcreate, h⟩ := h
      obtain ⟨rfl, rfl, hreplayed⟩ | ⟨rfl, plan, hplan, hqueue⟩ := createRun_ok hcreate
      · simp only [Bool.false_eq_true, if_false, bind_eq_ok, pure_eq_ok, Prod.mk.injEq] at h
        obtain ⟨linked, hlink, rfl, rfl⟩ := h
        exact .replayed run hreplayed (linkValidationRun_ok hlink)
      · simp only [if_true, pure_eq_ok, Prod.mk.injEq] at h
        obtain ⟨rfl, rfl⟩ := h
        obtain ⟨baseline, hplanned⟩ := planRun_ok hplan
        have hw := queueSnapshotRun_write (.request _ _ _ _ _ _ _ hplanned) hqueue
        obtain ⟨-, rfl, -⟩ := queueSnapshotRun_ok hqueue
        exact .queued plan baseline hplanned hw

/-! ### Steps -/

/-- The labels the writes of an action may carry. -/
def Action.allows : Action → Effect → Prop
  | .configure _, e => e = .configured
  | .createRunnerPool _ _, e => e = .poolCreated
  | .updateRunnerPool poolId payload, e => e = .poolUpdated poolId payload
  | .heartbeatRunnerWorker .., e => e = .workersChanged
  | .updateRunnerWorker _ _, e => e = .workersChanged
  | .updateRunEmailPreference .., e => e = .preferencesChanged ∨ e = .deliveriesRewritten
  | .enqueueRunEmailTest .., e => e = .testDeliveriesAdded
  | .settleDelivery .., e => e = .deliveriesRewritten
  | .createRun .., e => ∃ plan, e = .runQueued plan
  | .createAutomationPackageValidationRun .., e => ∃ plan, e = .runQueued plan
  | .createRerun .., e => ∃ plan, e = .runQueued plan
  | .dispatchOutboxBatch _, e => (∃ poolId runId, e = .leaseAcquired poolId runId) ∨
      (∃ leaseId, e = .leaseReleased leaseId) ∨ (∃ runId, e = .dispatchMarked runId) ∨
      e = .outboxChanged
  | .updateRunStatus _ runId _ _, e => e = .slotBound ∨ e = .runStarted runId
  | .recordRunEvent runId _, e => e = .eventRecorded runId
  | .recordRunResult _ runId result, e => e = .resultRecorded runId result
  | .cancelRun _ _ runId, e => e = .runCanceled runId
  | .cancelRuns _ _ _ runIds, e => ∃ runId ∈ runIds, e = .runCanceled runId
  | .processRunReliability .., e =>
      (∃ runId, e = .runRecovered runId) ∨ ∃ leaseId, e = .leaseReleased leaseId
  | .publishBaseline .., e => e = .baselinePublished
  | .activateAutomationPackage _ _ _ packageId runId _, e => e = .packageActivated packageId runId
  | .createChangeRequest requestId .., e => e = .requestCreated requestId
  | .updateChangeRequest _ _ requestId .., e => e = .requestEdited requestId
  | .submitChangeRequest _ _ requestId _, e => e = .requestSubmitted requestId
  | .reviewChangeRequest _ _ _ requestId .., e => e = .requestReviewed requestId
  | .createCandidateRun .., e => ∃ plan, e = .runQueued plan
  | .createValidationRun _ _ _ _ requestId .., e => (∃ plan, e = .runQueued plan) ∨
      e = .validationSkipped requestId ∨ ∃ loaded runId, e = .validationLinked loaded runId
  | .linkValidationRun _, e => ∃ loaded runId, e = .validationLinked loaded runId
  | .publishChangeRequest _ _ requestId runId, e => e = .requestPublished requestId runId

/-- What the transaction of an action writes. -/
theorem commit_writes {a : Action} (h : a.commit P db = .ok db') :
    Writes P a.allows db db' := by
  cases a with
  | configure => exact configure_writes rfl h
  | createRunnerPool => exact createRunnerPool_writes rfl h
  | updateRunnerPool => exact updateRunnerPool_writes rfl h
  | heartbeatRunnerWorker => exact heartbeatRunnerWorker_writes rfl h
  | updateRunnerWorker => exact updateRunnerWorker_writes rfl h
  | updateRunEmailPreference => exact updateRunEmailPreference_writes (.inl rfl) (.inr rfl) h
  | enqueueRunEmailTest => exact enqueueRunEmailTest_writes rfl h
  | settleDelivery =>
    simp only [Action.commit, pure_eq_ok] at h
    exact h ▸ settleDelivery_writes rfl
  | createRun =>
    simp only [Action.commit, map_eq_ok, Prod.exists, exists_and_right, exists_eq_right] at h
    obtain ⟨_, _, h⟩ := h
    exact createRun_writes (fun plan => ⟨plan, rfl⟩) h
  | createAutomationPackageValidationRun =>
    simp only [Action.commit, map_eq_ok, Prod.exists, exists_and_right, exists_eq_right] at h
    obtain ⟨_, _, h⟩ := h
    exact createRun_writes (fun plan => ⟨plan, rfl⟩) (createAutomationPackageValidationRun_ok h)
  | createRerun =>
    simp only [Action.commit, map_eq_ok, Prod.exists, exists_and_right, exists_eq_right] at h
    obtain ⟨_, _, h⟩ := h
    exact createRerun_writes (fun plan => ⟨plan, rfl⟩) h
  | dispatchOutboxBatch =>
    simp only [Action.commit, map_eq_ok, Prod.exists, exists_and_right, exists_eq_right] at h
    obtain ⟨_, h⟩ := h
    exact dispatchOutboxBatch_writes (fun runId => .inr (.inr (.inl ⟨runId, rfl⟩)))
      (fun leaseId => .inr (.inl ⟨leaseId, rfl⟩)) (fun poolId runId => .inl ⟨poolId, runId, rfl⟩)
      (.inr (.inr (.inr rfl))) h
  | updateRunStatus => exact updateRunStatus_writes (.inl rfl) (.inr rfl) h
  | recordRunEvent => exact recordRunEvent_writes rfl h
  | recordRunResult => exact recordRunResult_writes rfl h
  | cancelRun => exact cancelRun_writes rfl h
  | cancelRuns => exact cancelRuns_writes (fun runId hmem => ⟨runId, hmem, rfl⟩) h
  | processRunReliability =>
    simp only [Action.commit, map_eq_ok, Prod.exists, exists_and_right, exists_eq_right] at h
    obtain ⟨_, h⟩ := h
    exact processRunReliability_writes (fun runId => .inl ⟨runId, rfl⟩)
      (fun leaseId => .inr ⟨leaseId, rfl⟩) h
  | publishBaseline => exact publishBaseline_writes rfl h
  | activateAutomationPackage => exact activateAutomationPackage_writes rfl h
  | createChangeRequest => exact createChangeRequest_writes rfl h
  | updateChangeRequest => exact updateChangeRequest_writes rfl h
  | submitChangeRequest => exact submitChangeRequest_writes rfl h
  | reviewChangeRequest => exact reviewChangeRequest_writes rfl h
  | createCandidateRun =>
    simp only [Action.commit, map_eq_ok, Prod.exists, exists_and_right, exists_eq_right] at h
    obtain ⟨_, _, h⟩ := h
    exact createCandidateRun_writes (fun plan => ⟨plan, rfl⟩) h
  | createValidationRun =>
    simp only [Action.commit, pure_eq_ok] at h
    exact h ▸ .refl db
  | linkValidationRun =>
    simp only [Action.commit, pure_eq_ok] at h
    exact h ▸ .refl db
  | publishChangeRequest => exact publishChangeRequest_writes rfl h

/-- What a step of the control plane writes to the database. -/
theorem step_writes {s s' : State} {a : Action} (h : step P s a = .ok s') :
    Writes P a.allows s.db s'.db := by
  unfold step at h
  split at h
  · simp only [bind_eq_ok, Prod.exists, pure_eq_ok] at h
    obtain ⟨db, pending, h, rfl⟩ := h
    obtain ⟨request, -, -, houtcome⟩ := createValidationRun_ok h
    cases houtcome with
    | skipped _ hw => exact .single (.inr (.inl rfl)) hw
    | current => exact .refl _
    | replayed run _ hw => exact .single (.inr (.inr ⟨request, run.id, rfl⟩)) hw
    | queued plan _ _ hw => exact .single (.inl ⟨plan, rfl⟩) hw
  · simp only [bind_eq_ok, found_eq_ok, pure_eq_ok] at h
    obtain ⟨pending, -, db, h, rfl⟩ := h
    exact .single ⟨pending.loaded, pending.runId, rfl⟩ (linkValidationRun_ok h)
  · simp only [bind_eq_ok, pure_eq_ok] at h
    obtain ⟨db, h, rfl⟩ := h
    exact commit_writes h

/-- An invariant that every write keeps holds of the database of every reachable state. -/
theorem reachable_invariant {p : Database → Prop} (base : p .empty)
    (write : ∀ effect db db', Write P effect db db' → p db → p db') {s : State}
    (h : (controlPlane P).Reachable s) : p s.db := by
  refine h.invariant (p := fun s => p s.db) ?_ ?_
  · rintro s rfl
    exact base
  · intro s a s' hstep hi
    exact (step_writes hstep).invariant (fun e _ _ _ hw => write e _ _ hw) hi

end TestOps

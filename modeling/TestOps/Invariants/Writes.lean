import TestOps.ControlPlane.System

/-! What a transaction can write. Every command of the control plane is a sequence of the elementary
    writes below, each with the guards under which the command makes it:

      Effect   the label of a write
      Write    the write itself: the rows it needs, and the database it leaves
      Writes   a sequence of writes whose labels a command permits

    An invariant is proved once per write; a command keeps it because `commit_writes` and
    `createValidationRun_writes` say which writes the command consists of. -/

namespace TestOps

open Checked Relational Transition

variable {P : Primitives} {db db' db'' : Database}

/-! ### Elementary writes -/

inductive Effect where
  | configured
  | poolCreated
  | poolUpdated (poolId : UUID) (payload : RunnerPoolUpdate)
  | workersChanged
  | preferencesChanged
  | deliveriesRewritten
  | testDeliveriesAdded
  | outboxChanged
  | runQueued (plan : RunPlan)
  | slotBound
  | runStarted (runId : UUID)
  | eventRecorded (runId : UUID)
  | resultRecorded (runId : UUID) (result : RunResult)
  | runCanceled (runId : UUID)
  | runRecovered (runId : UUID)
  | leaseReleased (leaseId : UUID)
  | leaseAcquired (poolId runId : UUID)
  | dispatchMarked (runId : UUID)
  | baselinePublished
  | packageActivated (packageId runId : UUID)
  | requestCreated (requestId : UUID)
  | requestEdited (requestId : UUID)
  | requestSubmitted (requestId : UUID)
  | requestReviewed (requestId : UUID)
  | validationSkipped (requestId : UUID)
  | validationLinked (loaded : ChangeRequestRecord) (runId : UUID)
  | requestPublished (requestId runId : UUID)

/-- Where the plan of a queued run comes from. -/
inductive RunOrigin (P : Primitives) (db : Database) (plan : RunPlan) : Prop
  | request (now : Instant) (runId : UUID) (payload : RunCreate) (key : String) (actorId : UUID)
      (baselineStatuses : List BaselineStatus) (baseline : CaseBaselineRecord) :
      Planned P now runId payload key actorId baselineStatuses db plan baseline →
      RunOrigin P db plan
  | rerun (now : Instant) (runId : UUID) (source : TestRunRecord) (mode : RetryMode)
      (key : String) (actorId : UUID) : source ∈ db.runs → source.status.isTerminal = true →
      Replanned P now runId source mode key actorId db plan → RunOrigin P db plan

/-- The rows a dispatch marks a run with. -/
inductive DispatchMark : (TestRunRecord → TestRunRecord) → Prop
  | dispatched (dispatchTime : Instant) : DispatchMark (markDispatched dispatchTime)
  | waiting (reason : WaitReason) : DispatchMark (markWaiting reason)

theorem DispatchMark.id_eq {mark : TestRunRecord → TestRunRecord} (h : DispatchMark mark)
    (run : TestRunRecord) : (mark run).id = run.id := by
  cases h <;> rfl

/-- What holds when a dispatch acquires a lease for a run of a pool. -/
structure Acquisition (dispatchTime : Instant) (heartbeatTtlSeconds : Nat) (db : Database)
    (lease : RunnerSlotLeaseRecord) (run : TestRunRecord) (pool : RunnerPoolRecord)
    (snapshot : RunSnapshot) (eligible : List RunnerWorkerRecord) : Prop where
  runStored : run ∈ db.runs
  live : run.status.isTerminal = false
  bound : run.runnerPoolId = some pool.id
  poolStored : pool ∈ db.pools
  workers : eligibleWorkers dispatchTime heartbeatTtlSeconds pool.id snapshot db = .ok eligible
  free : activeLease db.leases run.id = none
  capacity : activeLeases db.leases pool.id < effectiveCapacity pool eligible
  lease : lease = ⟨lease.id, pool.id, run.id, none, .active, dispatchTime, none⟩

/-- The gate a change request passes when it is published. -/
structure PublicationGate (db : Database) (requestId runId : UUID) (request : ChangeRequestRecord)
    (run : TestRunRecord) (baseline : CaseBaselineRecord) : Prop where
  requestStored : db.changeRequests.get? requestId = some request
  candidate : request.status = .candidate
  runStored : db.runs.get? runId = some run
  executes : run.baselineId = request.candidateBaselineId
  passed : run.status = .passed
  recorded : run.resultDigest.isSome
  baselineStored : db.baselines.get? request.candidateBaselineId = some baseline
  baselineCandidate : baseline.status = .candidate
  full : run.caseCount = baseline.enabledCaseCount

/-- What a review writes to the request and to the baseline it decides about. -/
inductive Reviewed (now : Instant) (db : Database) (requestId : UUID)
    (request : ChangeRequestRecord) : ReviewDecision → ChangeRequestTable → BaselineTable → Prop
  | requestChanges : Reviewed now db requestId request .requestChanges
      (db.changeRequests.modify requestId fun request =>
        { request with status := .changesRequested, reviewedAt := some now }) db.baselines
  | approve (candidate : CaseBaselineRecord) :
      db.baselines.get? request.candidateBaselineId = some candidate →
      candidate.status = .draft →
      Reviewed now db requestId request .approve
        (db.changeRequests.modify requestId fun request =>
          { request with status := .candidate, reviewedAt := some now })
        (db.baselines.modify request.candidateBaselineId fun baseline =>
          { baseline with status := .candidate })

/-- The record publishes the same message about the same aggregate. -/
structure SameMessage (record record' : DispatchOutboxRecord) : Prop where
  aggregateId : record'.aggregateId = record.aggregateId
  message : record'.message = record.message

/-- What a write that queues no run may do to the outbox: records keep what they publish, and new
    records only request cancellations. -/
structure OutboxKept (outbox outbox' : OutboxTable) : Prop where
  evolves : outbox.Evolves SameMessage outbox'
  queued : ∀ record ∈ outbox', ∀ snapshot poolId, record.message = .runQueued snapshot poolId →
    ∃ old ∈ outbox, old.dedupeKey = record.dedupeKey

namespace OutboxKept

variable {outbox outbox' : OutboxTable}

theorem refl : OutboxKept outbox outbox where
  evolves := .refl fun _ => ⟨rfl, rfl⟩
  queued record hrecord _ _ _ := ⟨record, hrecord, rfl⟩

/-- Rewriting how a record is published keeps what it publishes. -/
theorem modify {key : OutboxKey} {f : DispatchOutboxRecord → DispatchOutboxRecord}
    {hf : KeepsKey DispatchOutboxRecord.dedupeKey f}
    (hsame : ∀ record, SameMessage record (f record)) :
    OutboxKept outbox (outbox.modify key f hf) where
  evolves := .modify (fun _ => ⟨rfl, rfl⟩) fun record _ => hsame record
  queued record hrecord _ _ _ := Table.keys_modify record hrecord

/-- A record that requests a cancellation may come in. -/
theorem insert? {record : DispatchOutboxRecord} {reason : Option ReasonCode}
    (hmessage : record.message = .runCancelRequested reason)
    (h : outbox.insert? record = some outbox') : OutboxKept outbox outbox' where
  evolves := .insert? (fun _ => ⟨rfl, rfl⟩) h
  queued record' hrecord' snapshot poolId hqueued := by
    rcases (Table.mem_insert? h).mp hrecord' with hold | rfl
    · exact ⟨record', hold, rfl⟩
    · rw [hmessage] at hqueued
      cases hqueued

end OutboxKept

/-- One elementary write: its label, the database before it and the database after it. -/
inductive Write (P : Primitives) : Effect → Database → Database → Prop
  | configured {db : Database} (configuration : Configuration) :
      (∀ row ∈ db.projects, (configuration.projects.get? row.id).isSome) →
      Write P .configured db { db with
        projects := configuration.projects
        targets := configuration.targets
        environments := configuration.environments
        packages := configuration.packages
        verifications := configuration.verifications }
  | poolCreated {db : Database} (pool : RunnerPoolRecord)
      (pools : Table RunnerPoolRecord.id) : db.pools.insert? pool = some pools →
      Write P .poolCreated db { db with pools := pools }
  | poolUpdated {db : Database} (poolId : UUID) (payload : RunnerPoolUpdate) :
      Write P (.poolUpdated poolId payload) db
        { db with pools := db.pools.modify poolId (updatedPool payload) }
  | workersChanged {db : Database} (workers : Table RunnerWorkerRecord.id) :
      Write P .workersChanged db { db with workers := workers }
  | preferencesChanged {db : Database}
      (preferences : Table RunEmailPreferenceRecord.userId) :
      Write P .preferencesChanged db { db with emailPreferences := preferences }
  | deliveriesRewritten {db : Database} (p : RunEmailDeliveryRecord → Bool)
      (f : RunEmailDeliveryRecord → RunEmailDeliveryRecord)
      (hf : KeepsKey RunEmailDeliveryRecord.dedupeKey f) :
      (∀ delivery, (f delivery).runId = delivery.runId ∧
        (f delivery).recipientEmail = delivery.recipientEmail) →
      Write P .deliveriesRewritten db
        { db with emailDeliveries := db.emailDeliveries.modifyWhere p f hf }
  | testDeliveriesAdded {db : Database} (deliveries : List RunEmailDeliveryRecord)
      (emailDeliveries : DeliveryTable) :
      db.emailDeliveries.insertAll? deliveries = some emailDeliveries →
      (∀ delivery ∈ deliveries, delivery.runId = none) →
      Write P .testDeliveriesAdded db { db with emailDeliveries := emailDeliveries }
  | outboxChanged {db : Database} (outbox : OutboxTable) : OutboxKept db.outbox outbox →
      Write P .outboxChanged db { db with outbox := outbox }
  | runQueued {db : Database} (plan : RunPlan) (runs : RunTable) (runEvents : RunEventTable)
      (runCases : RunCaseTable) (outbox : OutboxTable) :
      RunOrigin P db plan →
      runByIdempotencyKey db plan.projectId plan.idempotencyKey = none →
      db.runs.insert? (plan.run P) = some runs →
      db.runCases.insertAll? plan.runCases = some runCases →
      (∃ now outboxId, db.outbox.insert? (plan.outboxRecord now outboxId) = some outbox) →
      Logged plan.snapshot.runId db.runEvents runEvents →
      Write P (.runQueued plan) db { db with
        runs := runs, runEvents := runEvents, runCases := runCases, outbox := outbox }
  | slotBound {db : Database} (lease : RunnerSlotLeaseRecord) (workerId : UUID)
      (workers : Table RunnerWorkerRecord.id) : lease ∈ db.leases →
      Write P .slotBound db { db with
        leases := db.leases.modify lease.id fun lease =>
          { lease with workerId := some workerId }
        workers := workers }
  | runStarted {db : Database} (now : Instant) (runId : UUID) (target : RunStatus)
      (run : TestRunRecord) (runEvents : RunEventTable) : db.runs.get? runId = some run →
      target = .preparing ∨ target = .running →
      target ∈ allowedRunTransitions run.status → Logged runId db.runEvents runEvents →
      Write P (.runStarted runId) db { db with
        runs := db.runs.modify runId (startedRun now target), runEvents := runEvents }
  | eventRecorded {db : Database} (runId : UUID) (run : TestRunRecord)
      (runEvents : RunEventTable) (runCase : RunCaseRecord) (status : StatusValue) :
      db.runs.get? runId = some run → run.status.isTerminal = false →
      runCase ∈ db.runCases → runCase.runId = runId → Logged runId db.runEvents runEvents →
      Write P (.eventRecorded runId) db { db with
        runEvents := runEvents
        runCases := db.runCases.modify (runId, runCase.caseId)
          fun case => { case with status := status } }
  | eventLogged {db : Database} (runId : UUID) (runEvents : RunEventTable) :
      Logged runId db.runEvents runEvents →
      Write P (.eventRecorded runId) db { db with runEvents := runEvents }
  | resultRecorded {db : Database} (now : Instant) (runId : UUID) (result : RunResult)
      (run : TestRunRecord) (artifacts : Table ArtifactRecord.artifactId)
      (emailDeliveries : DeliveryTable) (runEvents : RunEventTable) :
      result.runId = runId → db.runs.get? runId = some run → run.resultDigest = none →
      result.status ∈ allowedRunTransitions run.status →
      requireMatchingCases result
        (db.runCases.rows.filter fun case => case.runId = runId) = .ok () →
      db.emailDeliveries.insertAll? (runResultDeliveries P now db (finishedRun P result run)) =
        some emailDeliveries →
      Logged runId db.runEvents runEvents →
      Write P (.resultRecorded runId result) db { db with
        artifacts := artifacts
        emailDeliveries := emailDeliveries
        runs := db.runs.modify runId (finishedRun P result)
        runCases := settleRunCases runId result.caseResults db.runCases
        leases := releaseRunnerSlot now db.leases runId
        changeRequests := pushValidationStatus db.changeRequests runId result.status
        runEvents := runEvents }
  | runCanceled {db : Database} (now : Instant) (runId : UUID) (run : TestRunRecord)
      (emailDeliveries : DeliveryTable) (outbox : OutboxTable)
      (runEvents : RunEventTable) : db.runs.get? runId = some run →
      run.status.isTerminal = false → run.cancelRequested = false → run.status = .queued →
      db.emailDeliveries.insertAll? (runResultDeliveries P now db (canceledRun now run)) =
        some emailDeliveries →
      OutboxKept db.outbox outbox → Logged runId db.runEvents runEvents →
      Write P (.runCanceled runId) db { db with
        emailDeliveries := emailDeliveries
        outbox := outbox
        runs := db.runs.modify runId (canceledRun now)
        leases := releaseRunnerSlot now db.leases runId
        runEvents := runEvents }
  | cancelRequested {db : Database} (now : Instant) (runId : UUID) (run : TestRunRecord)
      (outbox : OutboxTable) (runEvents : RunEventTable) :
      db.runs.get? runId = some run → run.status.isTerminal = false →
      run.cancelRequested = false → run.status ≠ .queued →
      OutboxKept db.outbox outbox → Logged runId db.runEvents runEvents →
      Write P (.runCanceled runId) db { db with
        outbox := outbox
        runs := db.runs.modify runId (canceledRun now)
        runEvents := runEvents }
  | runRecovered {db : Database} (moment : Instant) (run : TestRunRecord) (reason : ReasonCode)
      (message : String) (runEvents : RunEventTable)
      (outbox : OutboxTable) : run ∈ db.runs →
      reason.target ∈ allowedRunTransitions run.status →
      Logged run.id db.runEvents runEvents → OutboxKept db.outbox outbox →
      Write P (.runRecovered run.id) db { db with
        runs := db.runs.modify run.id (recoveredRun moment reason.target message)
        leases := endLease db.leases run.id .expired moment
        runCases := recoverRunCases run.id reason.target message db.runCases
        changeRequests := pushValidationStatus db.changeRequests run.id reason.target
        runEvents := runEvents
        outbox := outbox }
  | leaseReleased {db : Database} (leaseId : UUID) (moment : Instant) :
      Write P (.leaseReleased leaseId) db { db with
        leases := db.leases.modify leaseId fun lease =>
          { lease with status := .released, releasedAt := some moment } }
  | leaseAcquired {db : Database} (dispatchTime : Instant) (heartbeatTtlSeconds : Nat)
      (lease : RunnerSlotLeaseRecord) (run : TestRunRecord) (pool : RunnerPoolRecord)
      (snapshot : RunSnapshot) (eligible : List RunnerWorkerRecord) (leases : LeaseTable) :
      Acquisition dispatchTime heartbeatTtlSeconds db lease run pool snapshot eligible →
      db.leases.insert? lease = some leases →
      Write P (.leaseAcquired pool.id run.id) db { db with leases := leases }
  | dispatchMarked {db : Database} (runId : UUID) (mark : TestRunRecord → TestRunRecord)
      (hm : DispatchMark mark) :
      Write P (.dispatchMarked runId) db { db with runs := db.runs.modify runId mark (.of hm.id_eq) }
  | baselinePublished {db : Database} (projectId : UUID) (baseline : CaseBaseline)
      (baselines : BaselineTable) :
      db.baselines.insert? (baselineRecord projectId (P.canonicalSha256 (.baseline baseline))
        .released baseline) = some baselines →
      Write P .baselinePublished db { db with baselines := baselines }
  | packageActivated {db : Database} (now : Instant) (packageId validationRunId actorId : UUID)
      (run : TestRunRecord) (baseline : CaseBaselineRecord) :
      PackageGate db packageId validationRunId run baseline →
      Write P (.packageActivated packageId validationRunId) db { db with
        packages := db.packages.modify packageId (activatedPackage now validationRunId actorId) }
  | requestCreated {db : Database} (requestId projectId : UUID) (payload : ChangeRequestCreate)
      (actorId baseBaselineId : UUID) (candidate : CaseBaseline)
      (items : List ChangeItemRecord) (changeRequests : ChangeRequestTable)
      (baselines : BaselineTable) :
      (∀ item ∈ items, item.changeRequestId = requestId) →
      db.changeRequests.insert? (newChangeRequest P requestId projectId payload actorId
        baseBaselineId candidate items) = some changeRequests →
      db.baselines.insert? (baselineRecord projectId (P.canonicalSha256 (.baseline candidate))
        .draft candidate) = some baselines →
      Write P (.requestCreated requestId) db { db with
        changeRequests := changeRequests
        changeItems := db.changeItems ++ items
        baselines := baselines }
  | requestEdited {db : Database} (requestId : UUID) (payload : ChangeRequestUpdate)
      (request : ChangeRequestRecord) (oldBaseline : CaseBaselineRecord)
      (candidate : CaseBaseline) (items : List ChangeItemRecord) (baselines : BaselineTable) :
      (∀ item ∈ items, item.changeRequestId = requestId) →
      db.changeRequests.get? requestId = some request → request.status.editable = true →
      db.baselines.get? request.candidateBaselineId = some oldBaseline →
      oldBaseline.status = .draft →
      (db.baselines.modify request.candidateBaselineId supersede).insert?
        (baselineRecord request.projectId (P.canonicalSha256 (.baseline candidate)) .draft
          candidate) = some baselines →
      Write P (.requestEdited requestId) db { db with
        changeRequests :=
          db.changeRequests.modify requestId (editedRequest P payload candidate items)
        changeItems := (db.changeItems.filter fun item => item.changeRequestId ≠ requestId) ++ items
        baselines := baselines }
  | requestSubmitted {db : Database} (now : Instant) (requestId : UUID)
      (request : ChangeRequestRecord) : db.changeRequests.get? requestId = some request →
      request.status = .draft →
      request.validationStatus = .run .passed ∨ request.validationStatus = .notRequired →
      Write P (.requestSubmitted requestId) db { db with
        changeRequests := db.changeRequests.modify requestId fun request =>
          { request with status := .inReview, submittedAt := some now } }
  | requestReviewed {db : Database} (now : Instant) (requestId : UUID) (approval : ApprovalRecord)
      (request : ChangeRequestRecord) (changeRequests : ChangeRequestTable)
      (baselines : BaselineTable) : db.changeRequests.get? requestId = some request →
      request.status = .inReview → approval.changeRequestId = requestId →
      approval.reviewerId ≠ request.createdBy →
      Reviewed now db requestId request approval.decision changeRequests baselines →
      Write P (.requestReviewed requestId) db { db with
        approvals := db.approvals ++ [approval]
        changeRequests := changeRequests
        baselines := baselines }
  | validationSkipped {db : Database} (requestId : UUID) (request : ChangeRequestRecord) :
      db.changeRequests.get? requestId = some request → request.status.editable = true →
      validationCodes db requestId = [] →
      Write P (.validationSkipped requestId) db { db with
        changeRequests := db.changeRequests.modify requestId fun request =>
          { request with validationStatus := .notRequired, validationRunId := none } }
  | validationLinked {db : Database} (loaded : ChangeRequestRecord) (runId : UUID) :
      Write P (.validationLinked loaded runId) db { db with
        changeRequests := db.changeRequests.modify loaded.id fun request =>
          { request with
            validationRunId :=
              if loaded.validationRunId = some runId then request.validationRunId else some runId
            validationStatus :=
              if loaded.validationStatus = .run .queued then request.validationStatus
              else .run .queued } }
  | requestPublished {db : Database} (now : Instant) (requestId runId : UUID)
      (request : ChangeRequestRecord) (run : TestRunRecord) (baseline : CaseBaselineRecord) :
      PublicationGate db requestId runId request run baseline →
      Write P (.requestPublished requestId runId) db { db with
        changeRequests := db.changeRequests.modify requestId (publishedRequest now)
        baselines := db.baselines.modify request.candidateBaselineId fun baseline =>
          { baseline with status := .released } }

/-! ### Sequences of writes -/

/-- A sequence of writes, each with a label that `permits` admits. -/
inductive Writes (P : Primitives) (permits : Effect → Prop) : Database → Database → Prop
  | refl (db : Database) : Writes P permits db db
  | tail {db db' db'' : Database} {effect : Effect} : Writes P permits db db' → permits effect →
      Write P effect db' db'' → Writes P permits db db''

namespace Writes

variable {permits permits' : Effect → Prop}

theorem trans (h : Writes P permits db db') (h' : Writes P permits db' db'') :
    Writes P permits db db'' := by
  induction h' with
  | refl => exact h
  | tail _ hp hw ih => exact ih.tail hp hw

theorem single {effect : Effect} (hp : permits effect) (hw : Write P effect db db') :
    Writes P permits db db' := (Writes.refl db).tail hp hw

theorem mono (h : Writes P permits db db') (hp : ∀ e, permits e → permits' e) :
    Writes P permits' db db' := by
  induction h with
  | refl => exact .refl _
  | tail _ he hw ih => exact ih.tail (hp _ he) hw

/-- What every permitted write preserves, a sequence of them preserves. -/
theorem invariant {p : Database → Prop}
    (write : ∀ effect db db', permits effect → Write P effect db db' → p db → p db')
    (h : Writes P permits db db') (hi : p db) : p db' := by
  induction h with
  | refl => exact hi
  | tail _ hp hw ih => exact write _ _ _ hp hw ih

/-- What relates the two sides of every permitted write relates the two sides of a sequence. -/
theorem rel {r : Database → Database → Prop} (refl : ∀ db, r db db)
    (trans : ∀ a b c, r a b → r b c → r a c)
    (write : ∀ effect db db', permits effect → Write P effect db db' → r db db')
    (h : Writes P permits db db') : r db db' :=
  h.invariant (p := r db) (fun e a b hp hw hab => trans db a b hab (write e a b hp hw)) (refl db)

end Writes

end TestOps

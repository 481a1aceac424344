import TestOps.Invariants.Transactions

/-! The state machine of a run, over every order of the commands that write it.

    A run row has a deadline exactly while its runner works on it and an end exactly when it is
    terminal, a stored result agrees with its status, and its active lease, of which there is at
    most one, is gone once it is terminal. A step moves a run along one edge of the state machine
    or not at all, and a terminal row is never written again, except by the dispatcher, which marks
    the outbox record of the run as handled. -/

namespace TestOps

open Checked Relational Transition

variable {P : Primitives} {db db' : Database}

/-! ### Run rows -/

/-- What holds of every run row. -/
structure RunShape (P : Primitives) (run : TestRunRecord) : Prop where
  deadline : run.timeoutAt.isSome ↔ run.status = .preparing ∨ run.status = .running
  ended : run.finishedAt.isSome ↔ run.status.isTerminal = true
  document : ∀ result, run.resultDocument = some result →
    run.status = result.status ∧ run.resultDigest = some (P.canonicalSha256 (.result result))
  recorded : run.resultDigest.isSome → run.resultDocument.isSome

namespace RunShape

variable {run : TestRunRecord}

/-- A run without a result has no document either. -/
theorem no_document (h : RunShape P run) (hd : run.resultDigest = none) :
    run.resultDocument = none := by
  cases hdoc : run.resultDocument with
  | none => rfl
  | some result => rw [(h.document result hdoc).2] at hd; cases hd

/-- A run that is not terminal has no result. -/
theorem no_digest (h : RunShape P run) (hlive : run.status.isTerminal = false) :
    run.resultDigest = none := by
  by_contra hsome
  obtain ⟨result, hdoc⟩ := Option.isSome_iff_exists.mp
    (h.recorded (Option.isSome_iff_ne_none.mpr hsome))
  rw [(h.document result hdoc).1, result.terminal] at hlive
  cases hlive

theorem queued {plan : RunPlan} : RunShape P (plan.run P) where
  deadline := by simp [RunPlan.run]
  ended := by simp [RunPlan.run, RunStatus.isTerminal]
  document := by simp [RunPlan.run]
  recorded := by simp [RunPlan.run]

theorem started {now : Instant} {target : RunStatus} (h : RunShape P run)
    (htarget : target = .preparing ∨ target = .running)
    (hallowed : target ∈ allowedRunTransitions run.status) :
    RunShape P (startedRun now target run) := by
  have hlive := not_terminal_of_allowed hallowed
  have hdigest := h.no_digest hlive
  have hended : run.finishedAt = none := by
    rw [← Option.not_isSome_iff_eq_none, h.ended, hlive]
    exact Bool.false_ne_true
  refine ⟨?_, ?_, ?_, ?_⟩
  · simp only [startedRun, htarget, iff_true]
    cases run.timeoutAt <;> rfl
  · rcases htarget with rfl | rfl <;> simp [startedRun, hended, RunStatus.isTerminal]
  · intro result hdoc
    rw [startedRun, h.no_document hdigest] at hdoc
    cases hdoc
  · rw [startedRun, hdigest]
    exact fun hnone => absurd hnone (by simp)

theorem finished {result : RunResult} : RunShape P (finishedRun P result run) where
  deadline := by
    have hterminal := result.terminal
    simp only [finishedRun, Option.isSome_none, Bool.false_eq_true, false_iff, not_or]
    constructor <;> intro heq <;> rw [heq] at hterminal <;> cases hterminal
  ended := by simp [finishedRun, result.terminal]
  document := by
    intro result' hdoc
    obtain rfl := Option.some.inj hdoc
    exact ⟨rfl, rfl⟩
  recorded := by simp [finishedRun]

theorem canceled {now : Instant} (h : RunShape P run) (hlive : run.status.isTerminal = false) :
    RunShape P (canceledRun now run) := by
  have hdigest := h.no_digest hlive
  have hdoc := h.no_document hdigest
  by_cases hqueued : run.status = .queued
  · have hdeadline : run.timeoutAt.isSome = false := by
      rw [Bool.eq_false_iff, ne_eq, h.deadline, hqueued]
      simp
    exact {
      deadline := by simp [canceledRun, hqueued, hdeadline]
      ended := by simp [canceledRun, hqueued, RunStatus.isTerminal]
      document := by simp [canceledRun, hdoc]
      recorded := by simp [canceledRun, hdigest] }
  · exact {
      deadline := by simpa [canceledRun, hqueued] using h.deadline
      ended := by simpa [canceledRun, hqueued] using h.ended
      document := by simp [canceledRun, hdoc]
      recorded := by simp [canceledRun, hdigest] }

theorem recovered {moment : Instant} {reason : ReasonCode} {message : String}
    (h : RunShape P run) (hlive : run.status.isTerminal = false) :
    RunShape P (recoveredRun moment reason.target message run) := by
  have hdigest := h.no_digest hlive
  have hdoc := h.no_document hdigest
  exact {
    deadline := by cases reason <;> simp [recoveredRun, ReasonCode.target]
    ended := by cases reason <;> simp [recoveredRun, ReasonCode.target, RunStatus.isTerminal]
    document := by simp [recoveredRun, hdoc]
    recorded := by simp [recoveredRun, hdigest] }

theorem marked {mark : TestRunRecord → TestRunRecord} (h : RunShape P run)
    (hm : DispatchMark mark) : RunShape P (mark run) := by
  cases hm <;> exact ⟨h.deadline, h.ended, h.document, h.recorded⟩

end RunShape

/-! ### Leases -/

/-- Active leases belong to runs that are not terminal, one to a run. -/
structure LeaseShape (runs : RunTable) (leases : LeaseTable) : Prop where
  single : ∀ lease ∈ leases, ∀ lease' ∈ leases, lease.status = .active → lease'.status = .active →
    lease.runId = lease'.runId → lease = lease'
  live : ∀ lease ∈ leases, lease.status = .active →
    ∃ run ∈ runs, run.id = lease.runId ∧ run.status.isTerminal = false

namespace LeaseShape

variable {runs runs' : RunTable} {leases leases' : LeaseTable}

/-- Fewer active leases, on runs that are still live. -/
theorem shrink (h : LeaseShape runs leases)
    (within : ∀ lease' ∈ leases', lease'.status = .active → ∃ lease ∈ leases,
      lease.id = lease'.id ∧ lease.runId = lease'.runId ∧ lease.status = .active)
    (live : ∀ lease' ∈ leases', lease'.status = .active → ∀ run ∈ runs,
      run.id = lease'.runId → run.status.isTerminal = false →
      ∃ run' ∈ runs', run'.id = lease'.runId ∧ run'.status.isTerminal = false) :
    LeaseShape runs' leases' where
  single := by
    intro a' ha' b' hb' hactive hactive' hrun
    obtain ⟨a, ha, haid, harun, hastatus⟩ := within a' ha' hactive
    obtain ⟨b, hb, hbid, hbrun, hbstatus⟩ := within b' hb' hactive'
    have hab : a = b :=
      h.single a ha b hb hastatus hbstatus (harun.trans (hrun.trans hbrun.symm))
    refine Table.eq_of_key_eq ha' hb' ?_
    rw [← haid, ← hbid, hab]
  live := by
    intro lease' hmem hactive
    obtain ⟨lease, hlease, -, hrunId, hstatus⟩ := within lease' hmem hactive
    obtain ⟨run, hrun, hid, hlive⟩ := h.live lease hlease hstatus
    exact live lease' hmem hactive run hrun (hid.trans hrunId) hlive

/-- The runs are rewritten, and those that were live stay live. -/
theorem keep_runs (h : LeaseShape runs leases)
    (live : ∀ run ∈ runs, run.status.isTerminal = false →
      ∃ run' ∈ runs', run'.id = run.id ∧ run'.status.isTerminal = false) :
    LeaseShape runs' leases :=
  h.shrink (fun lease hmem hactive => ⟨lease, hmem, rfl, rfl, hactive⟩)
    fun _ _ _ run hrun hid hlive => hid ▸ live run hrun hlive

/-- A rewrite of a lease that does not activate it. -/
theorem modify_lease {leaseId : UUID} {f : RunnerSlotLeaseRecord → RunnerSlotLeaseRecord}
    (hf : KeepsKey RunnerSlotLeaseRecord.id f) (h : LeaseShape runs leases)
    (hrun : ∀ lease, (f lease).runId = lease.runId)
    (hactive : ∀ lease, (f lease).status = .active → lease.status = .active) :
    LeaseShape runs (leases.modify leaseId f hf) := by
  refine h.shrink ?_ fun _ _ _ run hmem hid hlive => ⟨run, hmem, hid, hlive⟩
  intro lease' hmem hstatus
  obtain ⟨lease, hlease, rfl⟩ := Table.mem_modify.mp hmem
  refine ⟨lease, hlease, ?_⟩
  split at hstatus
  · rename_i hid
    rw [if_pos hid]
    exact ⟨(hf.eq lease).symm, (hrun lease).symm, hactive lease hstatus⟩
  · rename_i hid
    rw [if_neg hid]
    exact ⟨rfl, rfl, hstatus⟩

/-- Ending the active lease of a run leaves active leases of other runs only. -/
theorem of_endLease {runId : UUID} {status : LeaseStatus} {now : Instant}
    (h : LeaseShape runs leases) (hstatus : status ≠ .active) {lease' : RunnerSlotLeaseRecord}
    (hmem : lease' ∈ endLease leases runId status now) (hactive : lease'.status = .active) :
    lease' ∈ leases ∧ lease'.runId ≠ runId := by
  rw [endLease] at hmem
  split at hmem
  · rename_i hnone
    refine ⟨hmem, fun hrun => ?_⟩
    exact Table.first?_eq_none.mp hnone lease' hmem
      (RunnerSlotLeaseRecord.holds_iff.mpr ⟨hrun, hactive⟩)
  · rename_i held hheld
    obtain ⟨hrun, hheldActive⟩ := RunnerSlotLeaseRecord.holds_iff.mp (Table.first?_some hheld)
    obtain ⟨lease, hlease, rfl⟩ := Table.mem_modify.mp hmem
    split at hactive
    · exact absurd hactive hstatus
    · rename_i hid
      rw [if_neg hid]
      refine ⟨hlease, fun hsame => hid ?_⟩
      rw [h.single lease hlease held (Table.mem_of_first? hheld) hactive hheldActive
        (hsame.trans hrun.symm)]

/-- A run ends and its lease with it. -/
theorem end_run {runId : UUID} {f : TestRunRecord → TestRunRecord}
    {hf : KeepsKey TestRunRecord.id f} {status : LeaseStatus} {now : Instant}
    (h : LeaseShape runs leases) (hstatus : status ≠ .active) :
    LeaseShape (runs.modify runId f hf) (endLease leases runId status now) := by
  refine h.shrink ?_ ?_
  · intro lease' hmem hactive
    exact ⟨lease', (h.of_endLease hstatus hmem hactive).1, rfl, rfl, hactive⟩
  · intro lease' hmem hactive run hrun hid hlive
    refine ⟨run, Table.mem_modify_of_ne hrun ?_, hid, hlive⟩
    exact hid ▸ (h.of_endLease hstatus hmem hactive).2

/-- A run without an active lease gets one. -/
theorem acquire {lease : RunnerSlotLeaseRecord} {run : TestRunRecord} (h : LeaseShape runs leases)
    (hrun : run ∈ runs) (hid : run.id = lease.runId) (hlive : run.status.isTerminal = false)
    (hnone : activeLease leases run.id = none) (hinsert : leases.insert? lease = some leases') :
    LeaseShape runs leases' := by
  have hfree : ∀ other ∈ leases, other.status = .active → other.runId ≠ lease.runId := by
    intro other hother hactive hsame
    exact Table.first?_eq_none.mp hnone other hother
      (RunnerSlotLeaseRecord.holds_iff.mpr ⟨hsame.trans hid.symm, hactive⟩)
  refine ⟨?_, ?_⟩
  · intro a ha b hb hactive hactive' hsame
    rcases (Table.mem_insert? hinsert).mp ha with ha | rfl <;>
      rcases (Table.mem_insert? hinsert).mp hb with hb | rfl
    · exact h.single a ha b hb hactive hactive' hsame
    · exact absurd hsame (hfree a ha hactive)
    · exact absurd hsame.symm (hfree b hb hactive')
    · rfl
  · intro a ha hactive
    rcases (Table.mem_insert? hinsert).mp ha with ha | rfl
    · exact h.live a ha hactive
    · exact ⟨run, hrun, hid, hlive⟩

end LeaseShape

/-! ### The invariant -/

/-- The invariant of the runs and their leases. -/
structure RunState (P : Primitives) (db : Database) : Prop where
  shape : ∀ run ∈ db.runs, RunShape P run
  leases : LeaseShape db.runs db.leases

/-- Every write keeps the invariant. -/
theorem runState_write {effect : Effect} (hw : Write P effect db db') (hi : RunState P db) :
    RunState P db' := by
  cases hw with
  | configured | poolCreated | poolUpdated | workersChanged | preferencesChanged
  | deliveriesRewritten | testDeliveriesAdded | outboxChanged | eventRecorded | eventLogged
  | baselinePublished | packageActivated | requestCreated | requestEdited | requestSubmitted
  | requestReviewed | validationSkipped | validationLinked | requestPublished =>
    exact ⟨hi.shape, hi.leases⟩
  | runQueued plan runs runEvents runCases outbox horigin hkey hruns =>
    refine ⟨Table.forall_insert? hruns hi.shape .queued, hi.leases.keep_runs ?_⟩
    exact fun run hrun hlive => ⟨run, (Table.mem_insert? hruns).mpr (.inl hrun), rfl, hlive⟩
  | slotBound lease workerId workers =>
    exact ⟨hi.shape, hi.leases.modify_lease _ (fun _ => rfl) fun _ => id⟩
  | runStarted now runId target run runEvents hrun htarget hallowed =>
    constructor
    case shape =>
      refine Table.forall_modify hi.shape fun run' hrun' hshape => ?_
      obtain rfl := Option.some.inj (hrun.symm.trans hrun')
      exact hshape.started htarget hallowed
    case leases =>
      refine hi.leases.keep_runs fun run' hmem hlive => ⟨_, Table.mem_modify_image hmem, ?_, ?_⟩
      · split <;> rfl
      · split
        · rcases htarget with rfl | rfl <;> rfl
        · exact hlive
  | resultRecorded now runId result run artifacts deliveries runEvents =>
    constructor
    case shape => exact Table.forall_modify hi.shape fun _ _ _ => .finished
    case leases => exact hi.leases.end_run (by decide)
  | runCanceled now runId run deliveries outbox runEvents hrun hlive =>
    constructor
    case shape =>
      refine Table.forall_modify hi.shape fun run' hrun' hshape => ?_
      obtain rfl := Option.some.inj (hrun.symm.trans hrun')
      exact hshape.canceled hlive
    case leases => exact hi.leases.end_run (by decide)
  | cancelRequested now runId run outbox runEvents hrun hlive hfirst hqueued =>
    constructor
    case shape =>
      refine Table.forall_modify hi.shape fun run' hrun' hshape => ?_
      obtain rfl := Option.some.inj (hrun.symm.trans hrun')
      exact hshape.canceled hlive
    case leases =>
      refine hi.leases.keep_runs fun run' hmem hlive' => ⟨_, Table.mem_modify_image hmem, ?_, ?_⟩
      · split <;> rfl
      · split
        · rename_i hid
          obtain rfl := Option.some.inj (hrun.symm.trans (Table.get?_eq_some.mpr ⟨hmem, hid⟩))
          rw [canceledRun, if_neg hqueued]
          exact hlive
        · exact hlive'
  | runRecovered moment run reason message runEvents outbox hrun hallowed =>
    constructor
    case shape =>
      refine Table.forall_modify hi.shape fun run' hrun' hshape => ?_
      obtain rfl := Table.eq_of_key_eq (Table.mem_of_get? hrun') hrun (Table.key_of_get? hrun')
      exact hshape.recovered (not_terminal_of_allowed hallowed)
    case leases => exact hi.leases.end_run (by decide)
  | leaseReleased leaseId moment =>
    refine ⟨hi.shape, hi.leases.modify_lease _ (fun _ => rfl) fun lease hactive => ?_⟩
    cases hactive
  | leaseAcquired dispatchTime ttl lease run pool snapshot eligible leases hacquired hinsert =>
    have hlease := hacquired.lease
    exact ⟨hi.shape, hi.leases.acquire hacquired.runStored (by rw [hlease]) hacquired.live
      hacquired.free hinsert⟩
  | dispatchMarked runId mark hm =>
    constructor
    case shape => exact Table.forall_modify hi.shape fun _ _ hshape => hshape.marked hm
    case leases =>
      refine hi.leases.keep_runs fun run hmem hlive => ⟨_, Table.mem_modify_image hmem, ?_, ?_⟩
      · split
        · exact hm.id_eq run
        · rfl
      · split
        · cases hm <;> exact hlive
        · exact hlive

/-- The invariant holds in every reachable state. -/
theorem runState_reachable {s : State} (h : (controlPlane P).Reachable s) : RunState P s.db :=
  reachable_invariant
    ⟨fun _ hrun => absurd hrun Table.not_mem_empty,
      fun _ hlease => absurd hlease Table.not_mem_empty,
      fun _ hlease => absurd hlease Table.not_mem_empty⟩
    (fun _ _ _ => runState_write) h

/-! ### What no write changes -/

/-- What a run was created with, and once it is terminal what it ended with, is kept. -/
structure Follows (run run' : TestRunRecord) : Prop where
  projectId : run'.projectId = run.projectId
  targetId : run'.targetId = run.targetId
  baselineId : run'.baselineId = run.baselineId
  automationPackageId : run'.automationPackageId = run.automationPackageId
  idempotencyKey : run'.idempotencyKey = run.idempotencyKey
  requestHash : run'.requestHash = run.requestHash
  snapshot : run'.snapshot = run.snapshot
  caseCount : run'.caseCount = run.caseCount
  createdBy : run'.createdBy = run.createdBy
  createdAt : run'.createdAt = run.createdAt
  sourceRunId : run'.sourceRunId = run.sourceRunId
  retryMode : run'.retryMode = run.retryMode
  regressionScheduleId : run'.regressionScheduleId = run.regressionScheduleId
  scheduledFor : run'.scheduledFor = run.scheduledFor
  ended : run.status.isTerminal = true → run'.status = run.status ∧
    run'.resultDigest = run.resultDigest ∧ run'.resultDocument = run.resultDocument

theorem Follows.refl (run : TestRunRecord) : Follows run run :=
  ⟨rfl, rfl, rfl, rfl, rfl, rfl, rfl, rfl, rfl, rfl, rfl, rfl, rfl, rfl,
    fun _ => ⟨rfl, rfl, rfl⟩⟩

theorem Follows.trans (a b c : TestRunRecord) (h : Follows a b) (h' : Follows b c) :
    Follows a c where
  projectId := h'.projectId.trans h.projectId
  targetId := h'.targetId.trans h.targetId
  baselineId := h'.baselineId.trans h.baselineId
  automationPackageId := h'.automationPackageId.trans h.automationPackageId
  idempotencyKey := h'.idempotencyKey.trans h.idempotencyKey
  requestHash := h'.requestHash.trans h.requestHash
  snapshot := h'.snapshot.trans h.snapshot
  caseCount := h'.caseCount.trans h.caseCount
  createdBy := h'.createdBy.trans h.createdBy
  createdAt := h'.createdAt.trans h.createdAt
  sourceRunId := h'.sourceRunId.trans h.sourceRunId
  retryMode := h'.retryMode.trans h.retryMode
  regressionScheduleId := h'.regressionScheduleId.trans h.regressionScheduleId
  scheduledFor := h'.scheduledFor.trans h.scheduledFor
  ended := by
    intro hended
    obtain ⟨hstatus, hdigest, hdoc⟩ := h.ended hended
    obtain ⟨hstatus', hdigest', hdoc'⟩ := h'.ended (hstatus ▸ hended)
    exact ⟨hstatus'.trans hstatus, hdigest'.trans hdigest, hdoc'.trans hdoc⟩

/-- The rewrites of a live run. -/
inductive LiveRewrite (P : Primitives) : (TestRunRecord → TestRunRecord) → Prop
  | started (now : Instant) (target : RunStatus) : LiveRewrite P (startedRun now target)
  | finished (result : RunResult) : LiveRewrite P (finishedRun P result)
  | canceled (now : Instant) : LiveRewrite P (canceledRun now)
  | recovered (moment : Instant) (target : RunStatus) (message : String) :
      LiveRewrite P (recoveredRun moment target message)

theorem Follows.rewrite {run : TestRunRecord} {f : TestRunRecord → TestRunRecord}
    (hf : LiveRewrite P f) (hlive : run.status.isTerminal = false) : Follows run (f run) := by
  have hended : ∀ {p : Prop}, run.status.isTerminal = true → p := by
    intro p hended
    rw [hlive] at hended
    cases hended
  cases hf <;> exact ⟨rfl, rfl, rfl, rfl, rfl, rfl, rfl, rfl, rfl, rfl, rfl, rfl, rfl, rfl, hended⟩

theorem follows_write {effect : Effect} (hw : Write P effect db db') :
    db.runs.Evolves Follows db'.runs := by
  cases hw with
  | configured | poolCreated | poolUpdated | workersChanged | preferencesChanged
  | deliveriesRewritten | testDeliveriesAdded | outboxChanged | slotBound | eventRecorded
  | eventLogged | leaseReleased | leaseAcquired | baselinePublished | packageActivated
  | requestCreated | requestEdited | requestSubmitted | requestReviewed | validationSkipped
  | validationLinked | requestPublished => exact .refl .refl
  | runQueued plan runs runEvents runCases outbox horigin hkey hruns =>
    exact .insert? .refl hruns
  | runStarted now runId target run runEvents hrun htarget hallowed =>
    refine .modify .refl fun run' hrun' => .rewrite (P := P) (.started now target) ?_
    obtain rfl := Option.some.inj (hrun.symm.trans hrun')
    exact not_terminal_of_allowed hallowed
  | resultRecorded now runId result run artifacts deliveries runEvents hid hrun hnone hallowed =>
    refine .modify .refl fun run' hrun' => .rewrite (.finished result) ?_
    obtain rfl := Option.some.inj (hrun.symm.trans hrun')
    exact not_terminal_of_allowed hallowed
  | runCanceled now runId run deliveries outbox runEvents hrun hlive =>
    refine .modify .refl fun run' hrun' => .rewrite (P := P) (.canceled now) ?_
    obtain rfl := Option.some.inj (hrun.symm.trans hrun')
    exact hlive
  | cancelRequested now runId run outbox runEvents hrun hlive =>
    refine .modify .refl fun run' hrun' => .rewrite (P := P) (.canceled now) ?_
    obtain rfl := Option.some.inj (hrun.symm.trans hrun')
    exact hlive
  | runRecovered moment run reason message runEvents outbox hrun hallowed =>
    refine .modify .refl fun run' hrun' => .rewrite (P := P) (.recovered moment _ message) ?_
    obtain rfl := Table.eq_of_key_eq (Table.mem_of_get? hrun') hrun (Table.key_of_get? hrun')
    exact not_terminal_of_allowed hallowed
  | dispatchMarked runId mark hm =>
    exact .modify .refl fun run _ => by
      cases hm <;> exact ⟨rfl, rfl, rfl, rfl, rfl, rfl, rfl, rfl, rfl, rfl, rfl, rfl, rfl, rfl,
        fun _ => ⟨rfl, rfl, rfl⟩⟩

theorem follows_step {s s' : State} {a : Action} (h : step P s a = .ok s') :
    s.db.runs.Evolves Follows s'.db.runs :=
  (step_writes h).rel (r := fun db db' => db.runs.Evolves Follows db'.runs)
    (fun _ => .refl .refl) (fun _ _ _ => .trans .trans) fun _ _ _ _ hw => follows_write hw

/-- A run after a write was there before, or it was queued by the write. -/
theorem run_write {effect : Effect} (hw : Write P effect db db') {run' : TestRunRecord}
    (hrun' : run' ∈ db'.runs) :
    (∃ run ∈ db.runs, run.id = run'.id ∧ Follows run run') ∨
      ∃ plan, effect = .runQueued plan ∧ RunOrigin P db plan ∧ run' = plan.run P := by
  have hfollows := follows_write hw
  cases hw with
  | runQueued plan runs runEvents runCases outbox horigin hkey hruns =>
    rcases (Table.mem_insert? hruns).mp hrun' with hrun | rfl
    · exact .inl ⟨run', hrun, rfl, .refl run'⟩
    · exact .inr ⟨plan, rfl, horigin, rfl⟩
  | configured | poolCreated | poolUpdated | workersChanged | preferencesChanged
  | deliveriesRewritten | testDeliveriesAdded | outboxChanged | slotBound | eventRecorded
  | eventLogged | leaseReleased | leaseAcquired | baselinePublished | packageActivated
  | requestCreated | requestEdited | requestSubmitted | requestReviewed | validationSkipped
  | validationLinked | requestPublished => exact .inl ⟨run', hrun', rfl, .refl run'⟩
  | runStarted | resultRecorded | runCanceled | cancelRequested | runRecovered | dispatchMarked =>
    exact .inl (hfollows.comesFrom Table.keys_modify hrun')

/-! ### Steps -/

/-- The runs agree in every column but those in which the dispatcher records its own progress. -/
def AgreeButDispatch (run run' : TestRunRecord) : Prop :=
  run' = { run with
    dispatchState := run'.dispatchState
    dispatchWaitReason := run'.dispatchWaitReason
    dispatchedAt := run'.dispatchedAt }

/-- The run is untouched, or it was live and at most one edge has ended it. -/
def Settles (run run' : TestRunRecord) : Prop :=
  run' = run ∨ run.status.isTerminal = false ∧
    (run'.status = run.status ∨
      run'.status ∈ allowedRunTransitions run.status ∧ run'.status.isTerminal = true)

theorem AgreeButDispatch.refl (run : TestRunRecord) : AgreeButDispatch run run := rfl

theorem AgreeButDispatch.trans (a b c : TestRunRecord) (h : AgreeButDispatch a b)
    (h' : AgreeButDispatch b c) : AgreeButDispatch a c := by
  rw [AgreeButDispatch] at *
  rw [h', h]

theorem Settles.refl (run : TestRunRecord) : Settles run run := .inl rfl

theorem Settles.trans (a b c : TestRunRecord) (h : Settles a b) (h' : Settles b c) :
    Settles a c := by
  rcases h with rfl | ⟨hlive, hstatus⟩
  · exact h'
  · rcases h' with rfl | ⟨hlive', hstatus'⟩
    · exact .inr ⟨hlive, hstatus⟩
    · rcases hstatus with hsame | ⟨-, hended⟩
      · exact .inr ⟨hlive, hsame ▸ hstatus'⟩
      · rw [hended] at hlive'
        cases hlive'

/-- The labels of the writes that move a run before its end, or mark it for dispatch. -/
def Effect.settling : Effect → Prop
  | .runStarted _ | .dispatchMarked _ => False
  | _ => True

/-- A write settles every run, unless it starts one or marks one for dispatch. -/
theorem settles_write {effect : Effect} (hw : Write P effect db db') (heffect : effect.settling) :
    db.runs.Evolves Settles db'.runs := by
  cases hw with
  | configured | poolCreated | poolUpdated | workersChanged | preferencesChanged
  | deliveriesRewritten | testDeliveriesAdded | outboxChanged | slotBound | eventRecorded
  | eventLogged | leaseReleased | leaseAcquired | baselinePublished | packageActivated
  | requestCreated | requestEdited | requestSubmitted | requestReviewed | validationSkipped
  | validationLinked | requestPublished => exact .refl .refl
  | runQueued plan runs runEvents runCases outbox horigin hkey hruns =>
    exact .insert? .refl hruns
  | runStarted | dispatchMarked => exact heffect.elim
  | resultRecorded now runId result run artifacts deliveries runEvents hid hrun hnone hallowed =>
    refine .modify .refl fun run' hrun' => ?_
    obtain rfl := Option.some.inj (hrun.symm.trans hrun')
    exact .inr ⟨not_terminal_of_allowed hallowed, .inr ⟨hallowed, result.terminal⟩⟩
  | runCanceled now runId run deliveries outbox runEvents hrun hlive hfirst hqueued =>
    refine .modify .refl fun run' hrun' => .inr ?_
    obtain rfl := Option.some.inj (hrun.symm.trans hrun')
    rw [canceledRun, if_pos hqueued, hqueued]
    exact ⟨rfl, .inr ⟨by simp [allowedRunTransitions], rfl⟩⟩
  | cancelRequested now runId run outbox runEvents hrun hlive hfirst hqueued =>
    refine .modify .refl fun run' hrun' => .inr ⟨?_, .inl ?_⟩
    all_goals obtain rfl := Option.some.inj (hrun.symm.trans hrun')
    · exact hlive
    · exact if_neg hqueued
  | runRecovered moment run reason message runEvents outbox hrun hallowed =>
    refine .modify .refl fun run' hrun' => ?_
    obtain rfl := Table.eq_of_key_eq (Table.mem_of_get? hrun') hrun (Table.key_of_get? hrun')
    exact .inr ⟨not_terminal_of_allowed hallowed, .inr ⟨hallowed, by cases reason <;> rfl⟩⟩

/-- The writes of a dispatch batch leave the runs alone up to the dispatch columns. -/
theorem dispatch_write {ctx : DispatchContext} {effect : Effect} (hw : Write P effect db db')
    (heffect : (Action.dispatchOutboxBatch ctx).allows effect) :
    db.runs.Evolves AgreeButDispatch db'.runs := by
  obtain ⟨poolId, runId, rfl⟩ | ⟨leaseId, rfl⟩ | ⟨runId, rfl⟩ | rfl := heffect
  · cases hw
    exact .refl .refl
  · cases hw
    exact .refl .refl
  · cases hw with
    | dispatchMarked _ mark hm =>
        exact .modify .refl fun run _ => by cases hm <;> rfl
  · cases hw
    exact .refl .refl

/-- Every other command than the dispatcher and the status callback settles the runs. -/
theorem settling_of_allows {a : Action} (hdispatch : ∀ ctx, a ≠ .dispatchOutboxBatch ctx)
    (hstatus : ∀ now runId target workerKey, a ≠ .updateRunStatus now runId target workerKey)
    {effect : Effect} (h : a.allows effect) : effect.settling := by
  cases a with
  | dispatchOutboxBatch ctx => exact absurd rfl (hdispatch ctx)
  | updateRunStatus => exact absurd rfl (hstatus _ _ _ _)
  | configure | createRunnerPool | updateRunnerPool | heartbeatRunnerWorker | updateRunnerWorker
  | enqueueRunEmailTest | settleDelivery | recordRunEvent | recordRunResult | cancelRun
  | publishBaseline | activateAutomationPackage | createChangeRequest | updateChangeRequest
  | submitChangeRequest | reviewChangeRequest | publishChangeRequest =>
    subst h
    trivial
  | createRun | createAutomationPackageValidationRun | createRerun | createCandidateRun =>
    obtain ⟨_, rfl⟩ := h
    trivial
  | updateRunEmailPreference =>
    obtain rfl | rfl := h
    all_goals trivial
  | cancelRuns =>
    obtain ⟨_, -, rfl⟩ := h
    trivial
  | processRunReliability =>
    obtain ⟨_, rfl⟩ | ⟨_, rfl⟩ := h
    all_goals trivial
  | createValidationRun =>
    obtain ⟨_, rfl⟩ | rfl | ⟨_, _, rfl⟩ := h
    all_goals trivial
  | linkValidationRun =>
    obtain ⟨_, _, rfl⟩ := h
    trivial

/-- What a step may do to a run. -/
structure StepOf (a : Action) (run run' : TestRunRecord) : Prop where
  edge : run'.status = run.status ∨ run'.status ∈ allowedRunTransitions run.status
  terminal : run.status.isTerminal = true → AgreeButDispatch run run'
  untouched : run.status.isTerminal = true → (∀ ctx, a ≠ .dispatchOutboxBatch ctx) → run' = run

theorem step_runs {s s' : State} {a : Action} (h : step P s a = .ok s') :
    s.db.runs.Evolves (StepOf a) s'.db.runs := by
  by_cases hdispatch : ∃ ctx, a = .dispatchOutboxBatch ctx
  · obtain ⟨ctx, rfl⟩ := hdispatch
    have hruns : s.db.runs.Evolves AgreeButDispatch s'.db.runs :=
      (step_writes h).rel (r := fun db db' => db.runs.Evolves AgreeButDispatch db'.runs)
        (fun _ => .refl .refl) (fun _ _ _ => .trans .trans)
        (fun _ _ _ hp hw => dispatch_write hw hp)
    refine hruns.mono fun run run' hagree => ⟨.inl (by rw [hagree]), fun _ => hagree, ?_⟩
    exact fun _ hother => absurd rfl (hother ctx)
  · by_cases hstatus : ∃ now runId target workerKey, a = .updateRunStatus now runId target workerKey
    · obtain ⟨now, runId, target, workerKey, rfl⟩ := hstatus
      simp only [step, Action.commit, bind_eq_ok, pure_eq_ok] at h
      obtain ⟨db, hcommit, rfl⟩ := h
      obtain ⟨run, leases, workers, hrun, -, rfl | ⟨-, hallowed, runEvents, -, rfl⟩⟩ :=
        updateRunStatus_ok hcommit
      · exact .refl fun _ => ⟨.inl rfl, fun _ => .refl _, fun _ _ => rfl⟩
      · refine .modify (fun _ => ⟨.inl rfl, fun _ => .refl _, fun _ _ => rfl⟩) fun run' hrun' => ?_
        obtain rfl := Option.some.inj (hrun.symm.trans hrun')
        have hlive := not_terminal_of_allowed hallowed
        refine ⟨.inr hallowed, fun hended => ?_, fun hended => ?_⟩
        all_goals rw [hlive] at hended; cases hended
    · have hruns : s.db.runs.Evolves Settles s'.db.runs :=
        (step_writes h).rel (r := fun db db' => db.runs.Evolves Settles db'.runs)
          (fun _ => .refl .refl) (fun _ _ _ => .trans .trans) fun _ _ _ hp hw =>
            settles_write hw (settling_of_allows (fun ctx heq => hdispatch ⟨ctx, heq⟩)
              (fun _ _ _ _ heq => hstatus ⟨_, _, _, _, heq⟩) hp)
      refine hruns.mono fun run run' hsettles => ?_
      rcases hsettles with rfl | ⟨hlive, hedge⟩
      · exact ⟨.inl rfl, fun _ => .refl _, fun _ _ => rfl⟩
      · refine ⟨hedge.imp_right And.left, fun hended => ?_, fun hended => ?_⟩
        all_goals rw [hlive] at hended; cases hended

/-! ### The state machine -/

/-- In every reachable state a run has at most one active lease, and none once it is terminal; its
    deadline and its end fit its status, and so does a stored result. Every step moves a run along
    an edge of the state machine or not at all, and leaves a terminal row as it is. -/
theorem run_state_machine {s : State} (h : (controlPlane P).Reachable s) :
    (∀ run ∈ s.db.runs,
      s.db.leases.count (·.holds run.id) ≤ 1 ∧
      (run.status.isTerminal = true → s.db.leases.count (·.holds run.id) = 0) ∧
      (run.timeoutAt.isSome ↔ run.status = .preparing ∨ run.status = .running) ∧
      (run.finishedAt.isSome ↔ run.status.isTerminal = true) ∧
      ∀ result, run.resultDocument = some result → run.status = result.status ∧
        run.status.isTerminal = true ∧
        run.resultDigest = some (P.canonicalSha256 (.result result))) ∧
    ∀ a s', step P s a = .ok s' → ∀ run ∈ s.db.runs, ∃ run' ∈ s'.db.runs, run'.id = run.id ∧
      (run'.status = run.status ∨ run'.status ∈ allowedRunTransitions run.status) ∧
      (run.status.isTerminal = true → AgreeButDispatch run run' ∧
        ((∀ ctx, a ≠ .dispatchOutboxBatch ctx) → run' = run)) := by
  have hi := runState_reachable h
  constructor
  · intro run hrun
    have hshape := hi.shape run hrun
    refine ⟨?_, ?_, hshape.deadline, hshape.ended, fun result hdoc => ?_⟩
    · refine Table.count_le_one fun lease hlease lease' hlease' hholds hholds' => ?_
      obtain ⟨hrunId, hactive⟩ := RunnerSlotLeaseRecord.holds_iff.mp hholds
      obtain ⟨hrunId', hactive'⟩ := RunnerSlotLeaseRecord.holds_iff.mp hholds'
      exact hi.leases.single lease hlease lease' hlease' hactive hactive'
        (hrunId.trans hrunId'.symm)
    · intro hended
      refine Table.count_eq_zero.mpr fun lease hlease hholds => ?_
      obtain ⟨hrunId, hactive⟩ := RunnerSlotLeaseRecord.holds_iff.mp hholds
      obtain ⟨run', hrun', hid, hlive⟩ := hi.leases.live lease hlease hactive
      obtain rfl := Table.eq_of_key_eq hrun' hrun (hid.trans hrunId)
      rw [hlive] at hended
      cases hended
    · obtain ⟨hstatus, hdigest⟩ := hshape.document result hdoc
      exact ⟨hstatus, hstatus ▸ result.terminal, hdigest⟩
  · intro a s' hstep run hrun
    obtain ⟨run', hrun', hid, hof⟩ := step_runs hstep run hrun
    exact ⟨run', hrun', hid, hof.edge, fun hended => ⟨hof.terminal hended, hof.untouched hended⟩⟩

open Installation in
/-- Run 20 passes on a slot of the pool: it has ended, and its slot is free again. -/
theorem run_state_machine_passed : ∃ s, (controlPlane primitives).Reachable s ∧
    (∃ run ∈ s.db.runs.rows, run.id = 20 ∧ run.status = .passed) ∧
    ∀ run ∈ s.db.runs, run.status.isTerminal = true →
      s.db.leases.count (·.holds run.id) = 0 := by
  have hrun : Leads [queueRun, dispatchBatch, .updateRunStatus 0 20 .preparing (some "worker"),
      .updateRunStatus 0 20 .running none,
      .recordRunResult 1 20 (passed 20 [caseResult caseA .passed, caseResult caseB .passed])]
      fun s => ∃ run ∈ s.db.runs.rows, run.id = 20 ∧ run.status = .passed := by
    decide +kernel
  obtain ⟨s, hs, hpassed⟩ := hrun.exists_reachable
  exact ⟨s, hs, hpassed, fun run hmem => ((run_state_machine hs).1 run hmem).2.1⟩

end TestOps

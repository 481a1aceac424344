import TestOps.ControlPlane.Service
import TestOps.Invariants.Sessions

/-! What a step of the service does. Every step belongs to one of the moves below, which say which
    tables it writes and what it has checked; a move that writes no table of a component leaves the
    component alone.

      sessions      session, configured, begun, planned
      packages      registered, recorded, revoked, deprecating, deprecated
      schedules     held, stored, advanced
      firings       settled, triggered, abandoned

    Between two steps the sessions themselves take a step of `sessionStep` or none, so what holds of
    the sessions holds inside the service. -/

namespace TestOps

open Checked Relational Transition

variable {P : Primitives} {lib : CronLibrary} {s s' : Service} {a : ServiceAction}

/-! ### The sessions inside the service -/

theorem inSessions_ok {action : SessionAction} (h : s.inSessions P action = .ok s') :
    ∃ sessions, sessionStep P s.sessions action = .ok sessions ∧
      s' = { s with sessions := sessions } := by
  simp only [Service.inSessions, bind_eq_ok, pure_eq_ok] at h
  obtain ⟨sessions, hstep, rfl⟩ := h
  exact ⟨sessions, hstep, rfl⟩

/-- The sessions, with other packages and reports in the database. -/
def Sessions.withPackages (s : Sessions) (packages : Table AutomationPackageRecord.id)
    (verifications : Table AutomationPackageSupplyChainVerificationRecord.id) : Sessions :=
  { s with core := { s.core with db := { s.core.db with
    packages := packages, verifications := verifications } } }

/-- Storing packages is a step of the sessions that changes nothing else. -/
structure PackagesStored (P : Primitives) (s : Sessions)
    (packages : Table AutomationPackageRecord.id)
    (verifications : Table AutomationPackageSupplyChainVerificationRecord.id) : Prop where
  step : ∃ configuration, sessionStep P s (.other (.configure configuration)) =
    .ok (s.withPackages packages verifications)

theorem storePackages_ok {packages : Table AutomationPackageRecord.id}
    {verifications : Table AutomationPackageSupplyChainVerificationRecord.id}
    (h : s.storePackages P packages verifications = .ok s') :
    PackagesStored P s.sessions packages verifications ∧
      s' = { s with sessions := s.sessions.withPackages packages verifications } := by
  obtain ⟨sessions, hstep, rfl⟩ := inSessions_ok h
  have hsessions : sessions = s.sessions.withPackages packages verifications := by
    simp only [sessionStep, step, Action.commit, configure, bind_eq_ok, ensure_eq_ok,
      pure_eq_ok] at hstep
    obtain ⟨-, -, core, ⟨db, ⟨-, -, rfl⟩, rfl⟩, rfl⟩ := hstep
    rfl
  subst hsessions
  exact ⟨⟨_, hstep⟩, rfl⟩

/-! ### Runs and firings -/

/-- The occurrence is due, and has not fired yet. -/
structure Due (lib : CronLibrary) (s : Service) (occurrence : Occurrence) : Prop where
  stored : s.schedules.get? occurrence.record.id = some occurrence.record
  due : dueOccurrence occurrence.record occurrence.moment = some occurrence.scheduledFor
  next : occurrence.record.nextAfter lib occurrence.moment = .ok occurrence.nextFireAt
  unfired : s.firings.get? (occurrence.record.id, occurrence.scheduledFor) = none

theorem Occurrence.settled_id {occurrence : Occurrence} {outcome : FiringOutcome}
    (record : RegressionScheduleRecord) : (occurrence.settled outcome record).id = record.id := by
  cases outcome <;> rfl

/-- What a manual trigger writes to its schedule. -/
def manualSettled (firing : RegressionScheduleFiringRecord) (runId : UUID)
    (record : RegressionScheduleRecord) : RegressionScheduleRecord :=
  { record with
    lastScheduledFor := some firing.scheduledFor
    lastTriggeredAt := firing.triggeredAt
    lastRunId := some runId
    lastError := none }

/-- The session of a schedule that has just begun. -/
def scheduleCreation (record : RegressionScheduleRecord) (scheduledFor : Instant)
    (idempotencyKey : String) (actorId : UUID) (db : Database) : Creation :=
  ⟨.run (runPayload record) [.released] [.active] (some record.id) (some scheduledFor),
    idempotencyKey, actorId, loadResources (runPayload record) db, none, none⟩

/-- An evaluator gets to the schedule; it goes by the moment at which it looked for due schedules. -/
inductive Evaluates (s : Service) (scheduleId : UUID) (moment : Instant) : ServiceAction → Prop
  | mk (index : Nat) (evaluation : Evaluation) (scheduleIds : List UUID) :
      s.evaluations[index]? = some evaluation →
      evaluation.scheduleIds = scheduleId :: scheduleIds → evaluation.moment = moment →
      Evaluates s scheduleId moment (.processDue index)

/-- Why a run is to be created for a schedule: an occurrence is due, or somebody asked for it. -/
inductive Fires (lib : CronLibrary) (s : Service) (a : ServiceAction)
    (record : RegressionScheduleRecord) (scheduledFor : Instant) : ScheduleWork → Prop
  | occurrence (occurrence : Occurrence) : Due lib s occurrence →
      Evaluates s record.id occurrence.moment a → occurrence.record = record →
      occurrence.scheduledFor = scheduledFor →
      Fires lib s a record scheduledFor (.occurrence occurrence)
  | manual (projectId : UUID) (key : String) (actorId : UUID) :
      a = .trigger scheduledFor projectId record.id key actorId →
      Fires lib s a record scheduledFor (.manual scheduledFor)

/-- A task and its session. -/
structure InSession (s : Service) (scheduleId : UUID) (work : ScheduleWork) (index : Nat)
    (creation : Creation) : Prop where
  task : s.tasks.get? scheduleId = some ⟨scheduleId, work⟩
  session : scheduleSession s.sessions.creations scheduleId = some index
  creation : s.sessions.creations[index]? = some creation

/-- How a transaction that fires a schedule ends: where the sessions are then, and the run it has
    got. -/
inductive Fired (P : Primitives) (s : Service) (scheduleId : UUID) (work : ScheduleWork) :
    Sessions → Option UUID → Prop
  /-- It needs no session. -/
  | atOnce (runId : Option UUID) : s.tasks.get? scheduleId = none →
      (∀ id ∈ runId, ∃ run ∈ s.db.runs, run.id = id) →
      Fired P s scheduleId work s.sessions runId
  /-- Its session ends without a run of its own. -/
  | ended (runId : Option UUID) (index : Nat) (creation : Creation) (sessions : Sessions) :
      InSession s scheduleId work index creation →
      sessionStep P s.sessions (.abandon index) = .ok sessions →
      (∀ id ∈ runId, ∃ run ∈ s.db.runs, run.id = id) →
      Fired P s scheduleId work sessions runId
  /-- Its session commits the run. -/
  | created (index : Nat) (creation : Creation) (plan : RunPlan) (now : Instant) (outboxId : UUID)
      (sessions : Sessions) : InSession s scheduleId work index creation →
      creation.plan = some plan →
      (∃ db run, queueSnapshotRun P now outboxId plan s.db = .ok (db, run, true)) →
      sessionStep P s.sessions (.commit index now outboxId) = .ok sessions →
      Fired P s scheduleId work sessions (some plan.snapshot.runId)

/-! ### The moves -/

inductive ServiceMove (P : Primitives) (lib : CronLibrary) (s : Service) :
    ServiceAction → Service → Prop
  -- nothing but the evaluators
  | idle {a : ServiceAction} (evaluations : List Evaluation) :
      ServiceMove P lib s a { s with evaluations := evaluations }
  -- sessions
  | session (action : SessionAction) (sessions : Sessions) : s.permits action = true →
      sessionStep P s.sessions action = .ok sessions →
      ServiceMove P lib s (.session action) { s with sessions := sessions }
  | configured (projects : Table ProjectRecord.id) (targets : Table TestTargetRecord.id)
      (environments : Table EnvironmentRecord.id) (sessions : Sessions) :
      sessionStep P s.sessions (.other (.configure
        ⟨projects, targets, environments, s.db.packages, s.db.verifications⟩)) = .ok sessions →
      ServiceMove P lib s (.configure projects targets environments)
        { s with sessions := sessions }
  -- packages
  | registered (packageId projectId targetId : UUID) (payload : AutomationPackageCreate)
      (draft : Bool) (supersedesId : Option UUID) (packages : Table AutomationPackageRecord.id) :
      createAutomationPackage packageId projectId targetId payload draft supersedesId s.db =
        .ok packages →
      PackagesStored P s.sessions packages s.db.verifications →
      ServiceMove P lib s (.createPackage packageId projectId targetId payload draft supersedesId)
        { s with sessions := s.sessions.withPackages packages s.db.verifications }
  | recorded (moment : Instant) (recordId projectId targetId packageId : UUID)
      (payload : AutomationPackageSupplyChainVerificationCreate)
      (principal : SupplyChainVerifierPrincipal) (policy : SupplyChainPolicy)
      (recorded : RecordedTables) : (s.deprecations.get? packageId).isNone = true →
      recordAutomationPackageSupplyChainVerification P moment recordId projectId targetId packageId
        payload principal policy s.db s.envelopes = .ok recorded →
      PackagesStored P s.sessions recorded.packages recorded.verifications →
      ServiceMove P lib s
        (.recordReport moment recordId projectId targetId packageId payload principal policy)
        { s with
          sessions := s.sessions.withPackages recorded.packages recorded.verifications
          envelopes := recorded.envelopes }
  | revoked (projectId targetId packageId : UUID) (reason : String)
      (packages : Table AutomationPackageRecord.id) :
      (s.deprecations.get? packageId).isNone = true →
      revokeAutomationPackage projectId targetId packageId reason s.db = .ok packages →
      PackagesStored P s.sessions packages s.db.verifications →
      ServiceMove P lib s (.revoke projectId targetId packageId reason)
        { s with sessions := s.sessions.withPackages packages s.db.verifications }
  | deprecating (projectId targetId packageId : UUID) (reason : String)
      (deprecation : Deprecation) (deprecations : Table Deprecation.packageId) :
      beginDeprecation projectId targetId packageId reason s.db s.schedules =
        .ok (some deprecation) →
      s.deprecations.insert? deprecation = some deprecations →
      ServiceMove P lib s (.beginDeprecation projectId targetId packageId reason)
        { s with deprecations := deprecations }
  | deprecated (packageId : UUID) (deprecation : Deprecation)
      (packages : Table AutomationPackageRecord.id) :
      s.deprecations.get? packageId = some deprecation →
      packages = setPackageStatus packageId .deprecated deprecation.reason s.db.packages →
      PackagesStored P s.sessions packages s.db.verifications →
      ServiceMove P lib s (.commitDeprecation packageId) { s with
        sessions := s.sessions.withPackages packages s.db.verifications
        deprecations := s.deprecations.erase packageId }
  | undeprecated (packageId : UUID) :
      ServiceMove P lib s (.abandonDeprecation packageId)
        { s with deprecations := s.deprecations.erase packageId }
  -- schedules
  | creating (now : Instant) (scheduleId projectId : UUID) (payload : RegressionScheduleCreate)
      (actorId : UUID) (record : RegressionScheduleRecord)
      (tasks : Table ScheduleTask.scheduleId) :
      createRegressionSchedule lib now scheduleId projectId payload actorId s.db = .ok record →
      s.tasks.insert? ⟨scheduleId, .create record⟩ = some tasks →
      ServiceMove P lib s (.createSchedule now scheduleId projectId payload actorId)
        { s with tasks := tasks }
  | updating (now : Instant) (projectId scheduleId : UUID) (payload : RegressionScheduleUpdate)
      (record updated : RegressionScheduleRecord) (tasks : Table ScheduleTask.scheduleId) :
      s.schedules.get? scheduleId = some record →
      updateRegressionSchedule lib now projectId payload record s.db = .ok updated →
      s.tasks.insert? ⟨scheduleId, .update updated⟩ = some tasks →
      ServiceMove P lib s (.updateSchedule now projectId scheduleId payload)
        { s with tasks := tasks }
  | inserted (scheduleId : UUID) (record : RegressionScheduleRecord) (schedules : ScheduleTable) :
      s.tasks.get? scheduleId = some ⟨scheduleId, .create record⟩ →
      s.schedules.insert? record = some schedules →
      ServiceMove P lib s (.commitSchedule scheduleId)
        { s with schedules := schedules, tasks := s.tasks.erase scheduleId }
  | updated (scheduleId : UUID) (record : RegressionScheduleRecord) :
      s.tasks.get? scheduleId = some ⟨scheduleId, .update record⟩ →
      ServiceMove P lib s (.commitSchedule scheduleId) { s with
        schedules := s.schedules.modify scheduleId fun old => { record with id := old.id }
        tasks := s.tasks.erase scheduleId }
  | advanced {a : ServiceAction} (record : RegressionScheduleRecord)
      (moment scheduledFor nextFireAt : Instant) (firing : RegressionScheduleFiringRecord)
      (evaluations : List Evaluation) : s.tasks.get? record.id = none →
      Evaluates s record.id moment a → s.schedules.get? record.id = some record →
      dueOccurrence record moment = some scheduledFor →
      record.nextAfter lib moment = .ok nextFireAt →
      s.firings.get? (record.id, scheduledFor) = some firing →
      ServiceMove P lib s a { s with
        schedules := s.schedules.modify record.id fun record =>
          { record with nextFireAt := some nextFireAt }
        evaluations := evaluations }
  -- runs of schedules
  | begun {a : ServiceAction} (record : RegressionScheduleRecord) (scheduledFor : Instant)
      (idempotencyKey : String) (actorId : UUID) (work : ScheduleWork) (creation : Creation)
      (tasks : Table ScheduleTask.scheduleId) (evaluations : List Evaluation) :
      s.schedules.get? record.id = some record → Fires lib s a record scheduledFor work →
      creation = scheduleCreation record scheduledFor idempotencyKey actorId s.db →
      sessionStep P s.sessions (.begin (.schedule record.id scheduledFor (runPayload record))
        idempotencyKey actorId) =
          .ok { s.sessions with creations := s.sessions.creations ++ [creation] } →
      s.tasks.insert? ⟨record.id, work⟩ = some tasks →
      ServiceMove P lib s a { s with
        sessions := { s.sessions with creations := s.sessions.creations ++ [creation] }
        tasks := tasks
        evaluations := evaluations }
  | planned (scheduleId : UUID) (checkedAt now : Instant) (runId : UUID) (work : ScheduleWork)
      (index : Nat) (creation : Creation) (sessions : Sessions) :
      InSession s scheduleId work index creation →
      sessionStep P s.sessions (.plan index checkedAt now runId) = .ok sessions →
      ServiceMove P lib s (.planFiring scheduleId checkedAt now runId)
        { s with sessions := sessions }
  | settled {a : ServiceAction} (scheduleId : UUID) (occurrence : Occurrence)
      (outcome : FiringOutcome) (sessions : Sessions) (firings : FiringTable)
      (evaluations : List Evaluation) :
      (s.tasks.get? scheduleId = none → Due lib s occurrence ∧
        Evaluates s scheduleId occurrence.moment a ∧ occurrence.record.id = scheduleId) →
      Fired P s scheduleId (.occurrence occurrence) sessions outcome.runId →
      s.firings.insert? (occurrence.firing outcome) = some firings →
      ServiceMove P lib s a { s with
        sessions := sessions
        schedules := s.schedules.modify occurrence.record.id (occurrence.settled outcome)
          (.of Occurrence.settled_id)
        firings := firings
        tasks := s.tasks.erase occurrence.record.id
        evaluations := evaluations }
  | triggered {a : ServiceAction} (scheduleId : UUID) (moment : Instant) (runId : UUID)
      (sessions : Sessions) (firing : RegressionScheduleFiringRecord) (firings : FiringTable) :
      (s.tasks.get? scheduleId = none → ∃ projectId key actorId,
        a = .trigger moment projectId scheduleId key actorId) →
      Fired P s scheduleId (.manual moment) sessions (some runId) →
      ensureFiring scheduleId moment runId s.firings = .ok (firing, firings) →
      ServiceMove P lib s a { s with
        sessions := sessions
        schedules := s.schedules.modify scheduleId (manualSettled firing runId)
        firings := firings
        tasks := s.tasks.erase scheduleId }
  | abandoned (scheduleId : UUID) (sessions : Sessions) (task : ScheduleTask) :
      s.tasks.get? scheduleId = some task →
      (sessions = s.sessions ∧ scheduleSession s.sessions.creations scheduleId = none) ∨
        (∃ index, scheduleSession s.sessions.creations scheduleId = some index ∧
          sessionStep P s.sessions (.abandon index) = .ok sessions) →
      ServiceMove P lib s (.abandonTask scheduleId)
        { s with sessions := sessions, tasks := s.tasks.erase scheduleId }

/-! ### Firings -/

theorem settle_ok {occurrence : Occurrence} {outcome : FiringOutcome}
    (h : s.settle occurrence outcome = .ok s') :
    ∃ firings, s.firings.insert? (occurrence.firing outcome) = some firings ∧
      s' = { s with
        schedules := s.schedules.modify occurrence.record.id (occurrence.settled outcome)
          (.of Occurrence.settled_id)
        firings := firings
        tasks := s.tasks.erase occurrence.record.id } := by
  simp only [Service.settle, settleOccurrence, bind_eq_ok, found_eq_ok, pure_eq_ok, Prod.exists,
    Prod.mk.injEq] at h
  obtain ⟨_, _, ⟨firings, hinsert, rfl, rfl⟩, rfl⟩ := h
  exact ⟨firings, hinsert, rfl⟩

/-- A transaction that has got a run settles its occurrence, or its manual trigger. -/
theorem finish_ok {scheduleId : UUID} {work : ScheduleWork} {runId : UUID}
    (h : s.finish scheduleId work runId = .ok s') :
    (∃ occurrence, work = .occurrence occurrence ∧
      s.settle occurrence (.triggered runId) = .ok s') ∨
    ∃ moment firing firings, work = .manual moment ∧
      ensureFiring scheduleId moment runId s.firings = .ok (firing, firings) ∧
      s' = { s with
        schedules := s.schedules.modify scheduleId (manualSettled firing runId)
        firings := firings
        tasks := s.tasks.erase scheduleId } := by
  cases work with
  | occurrence occurrence => exact .inl ⟨occurrence, rfl, h⟩
  | manual moment =>
    simp only [Service.finish, settleManual, bind_eq_ok, pure_eq_ok, Prod.exists,
      Prod.mk.injEq] at h
    obtain ⟨_, _, ⟨firing, firings, hfiring, rfl, rfl⟩, rfl⟩ := h
    exact .inr ⟨moment, firing, firings, rfl, hfiring, rfl⟩
  | create => cases h
  | update => cases h

/-- A transaction that gets no run commits only when it blocks an occurrence. -/
theorem fail_ok {work : ScheduleWork} {error : ServiceError} (h : s.fail work error = .ok s') :
    ∃ occurrence message, work = .occurrence occurrence ∧
      s.settle occurrence (.blocked message) = .ok s' := by
  unfold Service.fail at h
  split at h
  · exact ⟨_, _, rfl, h⟩
  · cases h

/-- Either the run is there, or a session begins for it. -/
theorem startRun_ok {record : RegressionScheduleRecord} {scheduledFor : Instant} {key : String}
    {actorId : UUID} {work : ScheduleWork}
    (h : s.startRun P record scheduledFor key actorId work = .ok s') :
    (∃ run ∈ s.db.runs, s.finish record.id work run.id = .ok s') ∨
    ∃ tasks creation, creation = scheduleCreation record scheduledFor key actorId s.db ∧
      sessionStep P s.sessions (.begin (.schedule record.id scheduledFor (runPayload record))
        key actorId) = .ok { s.sessions with creations := s.sessions.creations ++ [creation] } ∧
      s.tasks.insert? ⟨record.id, work⟩ = some tasks ∧
      s' = { s with
        sessions := { s.sessions with creations := s.sessions.creations ++ [creation] }
        tasks := tasks } := by
  simp only [Service.startRun, bind_eq_ok] at h
  obtain ⟨existing, hexisting, h⟩ := h
  cases existing with
  | some run => exact .inl ⟨run, (replayed_of_existing hexisting).stored, h⟩
  | none =>
    simp only [bind_eq_ok, found_eq_ok, pure_eq_ok] at h
    obtain ⟨s₁, hbegin, tasks, htasks, rfl⟩ := h
    obtain ⟨sessions, hstep, rfl⟩ := inSessions_ok hbegin
    have hsessions : sessions = { s.sessions with creations := s.sessions.creations ++
        [scheduleCreation record scheduledFor key actorId s.db] } := by
      have hfree : (scheduleCreation record scheduledFor key actorId s.db).existing P s.db =
          .ok none := hexisting
      simp only [sessionStep, beginCreation] at hstep
      change (scheduleCreation record scheduledFor key actorId s.db).existing P s.db >>= _ = _
        at hstep
      rw [hfree] at hstep
      exact (Except.ok.inj hstep).symm
    subst hsessions
    exact .inr ⟨tasks, _, rfl, hstep, htasks, rfl⟩


/-! ### Every step is a move -/

/-- Processing an occurrence that is due: it is settled, or a session begins for its run. -/
theorem processOccurrence_ok {s₀ : Service} {occurrence : Occurrence}
    {evaluations : List Evaluation} (hs : s₀ = { s with evaluations := evaluations })
    (hfree : s.tasks.get? occurrence.record.id = none) (hdue : Due lib s occurrence)
    (hevaluates : Evaluates s occurrence.record.id occurrence.moment a)
    (h : s₀.processOccurrence P occurrence = .ok s') : ServiceMove P lib s a s' := by
  have hsettle : ∀ outcome, (∀ id ∈ outcome.runId, ∃ run ∈ s.db.runs, run.id = id) →
      s₀.settle occurrence outcome = .ok s' → ServiceMove P lib s a s' := by
    intro outcome hruns hsettle
    obtain ⟨firings, hinsert, rfl⟩ := settle_ok hsettle
    subst hs
    exact .settled occurrence.record.id occurrence outcome s.sessions firings evaluations
      (fun _ => ⟨hdue, hevaluates, rfl⟩) (.atOnce _ hfree hruns) hinsert
  unfold Service.processOccurrence at h
  split at h
  · exact hsettle .skipped (fun _ hid => by cases hid) h
  · dsimp only at h
    split at h
    · rename_i started hstarted
      simp only [bind_eq_ok] at hstarted
      obtain ⟨-, -, hstarted⟩ := hstarted
      cases h
      obtain ⟨run, hrun, hfinish⟩ | ⟨tasks, creation, hcreation, hstep, htasks, rfl⟩ :=
        startRun_ok hstarted
      · obtain ⟨occurrence', heq, hfinish⟩ | ⟨moment, -, -, heq, -⟩ := finish_ok hfinish
        · cases heq
          refine hsettle (.triggered run.id) (fun id hid => ?_) hfinish
          cases hid
          exact ⟨run, by rw [hs] at hrun; exact hrun, rfl⟩
        · cases heq
      · subst hs
        exact .begun occurrence.record occurrence.scheduledFor _ _ _ creation tasks evaluations
          hdue.stored (.occurrence occurrence hdue hevaluates rfl rfl) hcreation hstep htasks
    · obtain ⟨occurrence', message, heq, hblocked⟩ := fail_ok h
      cases heq
      exact hsettle (.blocked message) (fun _ hid => by cases hid) hblocked

theorem processSchedule_ok {s₀ : Service} {record : RegressionScheduleRecord} {moment : Instant}
    {evaluations : List Evaluation} (hs : s₀ = { s with evaluations := evaluations })
    (hfree : s.tasks.get? record.id = none) (hstored : s.schedules.get? record.id = some record)
    (hevaluates : Evaluates s record.id moment a)
    (h : s₀.processSchedule P lib record moment = .ok s') : ServiceMove P lib s a s' := by
  unfold Service.processSchedule at h
  split at h
  · simp only [pure_eq_ok] at h
    subst h hs
    exact .idle evaluations
  · rename_i scheduledFor hdue
    simp only [bind_eq_ok] at h
    obtain ⟨nextFireAt, hnext, h⟩ := h
    have hfirings : s₀.firings = s.firings := by rw [hs]
    split at h
    · rename_i firing hfiring
      simp only [pure_eq_ok] at h
      subst h hs
      exact .advanced record moment scheduledFor nextFireAt firing evaluations hfree hevaluates
        hstored hdue hnext hfiring
    · rename_i hunfired
      rw [hfirings] at hunfired
      have hopen : Due lib s ⟨record, moment, scheduledFor, nextFireAt⟩ :=
        ⟨hstored, hdue, hnext, hunfired⟩
      exact processOccurrence_ok (s := s) hs hfree hopen hevaluates h

theorem taskSession_ok {scheduleId : UUID} {task : ScheduleTask} {index : Nat}
    {creation : Creation} (h : s.taskSession scheduleId = .ok (task, index, creation)) :
    InSession s scheduleId task.work index creation := by
  simp only [Service.taskSession, bind_eq_ok, found_eq_ok, pure_eq_ok, Prod.mk.injEq] at h
  obtain ⟨task', htask, index', hindex, creation', hcreation, rfl, rfl, rfl⟩ := h
  have hid := Table.key_of_get? htask
  exact ⟨by rw [htask, ← hid], hindex, hcreation⟩

/-- Nothing is due while the task is held. -/
theorem InSession.held {scheduleId : UUID} {work : ScheduleWork} {index : Nat}
    {creation : Creation} {p : Prop} (h : InSession s scheduleId work index creation) :
    s.tasks.get? scheduleId = none → p := by
  intro hnone
  rw [h.task] at hnone
  cases hnone

/-- A transaction whose session ends with a run. -/
theorem finish_fired {scheduleId : UUID} {work : ScheduleWork} {runId : UUID} {index : Nat}
    {creation : Creation} {sessions : Sessions} (hin : InSession s scheduleId work index creation)
    (hfired : Fired P s scheduleId work sessions (some runId))
    (h : { s with sessions := sessions }.finish scheduleId work runId = .ok s') :
    ServiceMove P lib s a s' := by
  obtain ⟨occurrence, rfl, hsettle⟩ | ⟨moment, firing, firings, rfl, hfiring, rfl⟩ := finish_ok h
  · obtain ⟨firings, hinsert, rfl⟩ := settle_ok hsettle
    exact .settled scheduleId occurrence (.triggered runId) sessions firings s.evaluations hin.held
      hfired hinsert
  · exact .triggered scheduleId moment runId sessions firing firings hin.held hfired hfiring

/-- A transaction whose session ends without one. -/
theorem fail_fired {scheduleId : UUID} {work : ScheduleWork} {error : ServiceError} {index : Nat}
    {creation : Creation} {sessions : Sessions} (hin : InSession s scheduleId work index creation)
    (hfired : Fired P s scheduleId work sessions none)
    (h : { s with sessions := sessions }.fail work error = .ok s') :
    ServiceMove P lib s a s' := by
  obtain ⟨occurrence, message, rfl, hsettle⟩ := fail_ok h
  obtain ⟨firings, hinsert, rfl⟩ := settle_ok hsettle
  exact .settled scheduleId occurrence (.blocked message) sessions firings s.evaluations hin.held
    hfired hinsert

theorem planFiring_move {scheduleId : UUID} {checkedAt now : Instant} {runId : UUID}
    (h : s.planFiring P scheduleId checkedAt now runId = .ok s') :
    ServiceMove P lib s (.planFiring scheduleId checkedAt now runId) s' := by
  simp only [Service.planFiring, bind_eq_ok, ensure_eq_ok, Prod.exists] at h
  obtain ⟨task, index, creation, hsession, -, -, -, -, h⟩ := h
  have hin := taskSession_ok hsession
  split at h
  · simp only [bind_eq_ok] at h
    obtain ⟨s₁, habandon, hfail⟩ := h
    obtain ⟨sessions, hstep, rfl⟩ := inSessions_ok habandon
    exact fail_fired hin (.ended none index creation sessions hin hstep fun _ hid => by cases hid)
      hfail
  · rename_i run hexisting
    simp only [bind_eq_ok] at h
    obtain ⟨s₁, habandon, hfinish⟩ := h
    obtain ⟨sessions, hstep, rfl⟩ := inSessions_ok habandon
    refine finish_fired hin (.ended (some run.id) index creation sessions hin hstep ?_) hfinish
    intro id hid
    cases hid
    exact ⟨run, (replayed_of_existing hexisting).stored, rfl⟩
  · split at h
    · rename_i s₁ hplan
      simp only [pure_eq_ok] at h
      subst h
      obtain ⟨sessions, hstep, rfl⟩ := inSessions_ok hplan
      exact .planned scheduleId checkedAt now runId task.work index creation sessions hin hstep
    · simp only [bind_eq_ok] at h
      obtain ⟨s₁, habandon, hfail⟩ := h
      obtain ⟨sessions, hstep, rfl⟩ := inSessions_ok habandon
      exact fail_fired hin
        (.ended none index creation sessions hin hstep fun _ hid => by cases hid) hfail

theorem commitFiring_move {scheduleId : UUID} {now : Instant} {outboxId : UUID}
    (h : s.commitFiring P scheduleId now outboxId = .ok s') : ServiceMove P lib s a s' := by
  simp only [Service.commitFiring, bind_eq_ok, found_eq_ok, Prod.exists] at h
  obtain ⟨task, index, creation, hsession, plan, hplan, db, run, created, hqueue, s₁, hcommit,
    hfinish⟩ := h
  have hin := taskSession_ok hsession
  obtain ⟨sessions, hstep, rfl⟩ := inSessions_ok hcommit
  obtain ⟨rfl, rfl, -⟩ := queueSnapshotRun_ok hqueue
  exact finish_fired hin
    (.created index creation plan now outboxId sessions hin hplan ⟨db, _, hqueue⟩ hstep) hfinish

theorem abandonTask_move {scheduleId : UUID} (h : s.abandonTask P scheduleId = .ok s') :
    ServiceMove P lib s (.abandonTask scheduleId) s' := by
  simp only [Service.abandonTask, bind_eq_ok, found_eq_ok] at h
  obtain ⟨task, htask, h⟩ := h
  split at h
  · rename_i index hindex
    obtain ⟨sessions, hstep, rfl⟩ := inSessions_ok h
    exact .abandoned scheduleId sessions task htask (.inr ⟨index, hindex, hstep⟩)
  · rename_i hnone
    simp only [pure_eq_ok] at h
    subst h
    exact .abandoned scheduleId s.sessions task htask (.inl ⟨rfl, hnone⟩)

theorem commitWork_move {scheduleId : UUID} {task : ScheduleTask}
    (htask : s.tasks.get? scheduleId = some task) (h : s.commitWork task = .ok s') :
    ServiceMove P lib s (.commitSchedule scheduleId) s' := by
  have hid := Table.key_of_get? htask
  obtain ⟨taskId, work⟩ := task
  obtain rfl : taskId = scheduleId := hid
  cases work with
  | create record =>
    simp only [Service.commitWork, bind_eq_ok, ensure_eq_ok, found_eq_ok, pure_eq_ok] at h
    obtain ⟨-, -, schedules, hinsert, rfl⟩ := h
    exact .inserted taskId record schedules htask hinsert
  | update record =>
    simp only [Service.commitWork, pure_eq_ok] at h
    subst h
    exact .updated taskId record htask
  | occurrence => cases h
  | manual => cases h

theorem trigger_move {moment : Instant} {projectId scheduleId : UUID} {key : String}
    {actorId : UUID}
    (h : serviceStep P lib s (.trigger moment projectId scheduleId key actorId) = .ok s') :
    ServiceMove P lib s (.trigger moment projectId scheduleId key actorId) s' := by
  simp only [serviceStep, bind_eq_ok, ensure_eq_ok, found_eq_ok, Option.isNone_iff_eq_none] at h
  obtain ⟨-, hfree, record, hrecord, -, -, -, -, -, -, h⟩ := h
  obtain rfl : record.id = scheduleId := Table.key_of_get? hrecord
  obtain ⟨run, hrun, hfinish⟩ | ⟨tasks, creation, hcreation, hstep, htasks, rfl⟩ := startRun_ok h
  · obtain ⟨_, heq, -⟩ | ⟨moment', firing, firings, heq, hfiring, rfl⟩ := finish_ok hfinish
    · cases heq
    · cases heq
      refine .triggered record.id moment run.id s.sessions firing firings
        (fun _ => ⟨projectId, key, actorId, rfl⟩) (.atOnce _ hfree fun id hid => ?_) hfiring
      cases hid
      exact ⟨run, hrun, rfl⟩
  · exact .begun record moment _ actorId _ creation tasks s.evaluations hrecord
      (.manual projectId key actorId rfl) hcreation hstep htasks

theorem processDue_move {index : Nat} (h : serviceStep P lib s (.processDue index) = .ok s') :
    ServiceMove P lib s (.processDue index) s' := by
  simp only [serviceStep, bind_eq_ok, found_eq_ok] at h
  obtain ⟨evaluation, hevaluation, h⟩ := h
  split at h
  · simp only [pure_eq_ok] at h
    subst h
    exact .idle _
  · rename_i scheduleId scheduleIds hids
    simp only [bind_eq_ok, ensure_eq_ok, Option.isNone_iff_eq_none] at h
    obtain ⟨-, hfree, h⟩ := h
    split at h
    · simp only [pure_eq_ok] at h
      subst h
      exact .idle _
    · rename_i record hrecord
      obtain rfl := Table.key_of_get? hrecord
      split at h
      · rename_i s₁ hprocess
        simp only [pure_eq_ok] at h
        subst h
        exact processSchedule_ok rfl hfree hrecord
          (.mk index evaluation scheduleIds hevaluation hids rfl) hprocess
      · simp only [pure_eq_ok] at h
        subst h
        exact .idle _

theorem serviceStep_move (h : serviceStep P lib s a = .ok s') : ServiceMove P lib s a s' := by
  cases a with
  | session action =>
    simp only [serviceStep, bind_eq_ok, ensure_eq_ok] at h
    obtain ⟨-, hpermits, h⟩ := h
    obtain ⟨sessions, hstep, rfl⟩ := inSessions_ok h
    exact .session action sessions hpermits hstep
  | configure projects targets environments =>
    obtain ⟨sessions, hstep, rfl⟩ := inSessions_ok h
    exact .configured projects targets environments sessions hstep
  | createPackage packageId projectId targetId payload draft supersedesId =>
    simp only [serviceStep, bind_eq_ok] at h
    obtain ⟨packages, hpackages, h⟩ := h
    obtain ⟨hstored, rfl⟩ := storePackages_ok h
    exact .registered packageId projectId targetId payload draft supersedesId packages hpackages
      hstored
  | recordReport moment recordId projectId targetId packageId payload principal policy =>
    simp only [serviceStep, bind_eq_ok, ensure_eq_ok, pure_eq_ok] at h
    obtain ⟨-, hfree, recorded, hrecorded, s₁, h, rfl⟩ := h
    obtain ⟨hstored, rfl⟩ := storePackages_ok h
    exact .recorded moment recordId projectId targetId packageId payload principal policy recorded
      hfree hrecorded hstored
  | revoke projectId targetId packageId reason =>
    simp only [serviceStep, bind_eq_ok, ensure_eq_ok] at h
    obtain ⟨-, hfree, packages, hpackages, h⟩ := h
    obtain ⟨hstored, rfl⟩ := storePackages_ok h
    exact .revoked projectId targetId packageId reason packages hfree hpackages hstored
  | beginDeprecation projectId targetId packageId reason =>
    simp only [serviceStep, bind_eq_ok, ensure_eq_ok] at h
    obtain ⟨-, -, deprecation, hbegin, h⟩ := h
    cases deprecation with
    | none =>
      simp only [pure_eq_ok] at h
      subst h
      exact .idle s.evaluations
    | some deprecation =>
      simp only [bind_eq_ok, found_eq_ok, pure_eq_ok] at h
      obtain ⟨deprecations, hinsert, rfl⟩ := h
      exact .deprecating projectId targetId packageId reason deprecation deprecations hbegin hinsert
  | commitDeprecation packageId =>
    simp only [serviceStep, bind_eq_ok, found_eq_ok, pure_eq_ok] at h
    obtain ⟨deprecation, hdeprecation, s₁, h, rfl⟩ := h
    obtain ⟨hstored, rfl⟩ := storePackages_ok h
    exact .deprecated packageId deprecation _ hdeprecation rfl hstored
  | abandonDeprecation packageId =>
    simp only [serviceStep, bind_eq_ok, found_eq_ok, pure_eq_ok] at h
    obtain ⟨-, -, rfl⟩ := h
    exact .undeprecated packageId
  | createSchedule now scheduleId projectId payload actorId =>
    simp only [serviceStep, bind_eq_ok, found_eq_ok, pure_eq_ok] at h
    obtain ⟨record, hrecord, tasks, htasks, rfl⟩ := h
    exact .creating now scheduleId projectId payload actorId record tasks hrecord htasks
  | updateSchedule now projectId scheduleId payload =>
    simp only [serviceStep, bind_eq_ok, found_eq_ok, pure_eq_ok] at h
    obtain ⟨record, hrecord, updated, hupdated, tasks, htasks, rfl⟩ := h
    exact .updating now projectId scheduleId payload record updated tasks hrecord hupdated htasks
  | commitSchedule scheduleId =>
    simp only [serviceStep, bind_eq_ok, found_eq_ok] at h
    obtain ⟨task, htask, h⟩ := h
    exact commitWork_move htask h
  | selectDue moment limit =>
    simp only [serviceStep, bind_eq_ok, ensure_eq_ok, pure_eq_ok] at h
    obtain ⟨-, -, rfl⟩ := h
    exact .idle _
  | processDue index => exact processDue_move h
  | trigger moment projectId scheduleId key actorId => exact trigger_move h
  | planFiring scheduleId checkedAt now runId => exact planFiring_move h
  | commitFiring scheduleId now outboxId => exact commitFiring_move h
  | abandonTask scheduleId => exact abandonTask_move h

/-! ### The sessions of a run of the service -/

theorem Fired.sessions {scheduleId : UUID} {work : ScheduleWork} {sessions : Sessions}
    {runId : Option UUID} (h : Fired P s scheduleId work sessions runId) :
    sessions = s.sessions ∨ ∃ action, sessionStep P s.sessions action = .ok sessions := by
  cases h with
  | atOnce => exact .inl rfl
  | ended _ _ _ _ _ hstep => exact .inr ⟨_, hstep⟩
  | created _ _ _ _ _ _ _ _ _ hstep => exact .inr ⟨_, hstep⟩

/-- The sessions take a step, or none. -/
theorem serviceStep_sessions (h : serviceStep P lib s a = .ok s') :
    s'.sessions = s.sessions ∨ ∃ action, sessionStep P s.sessions action = .ok s'.sessions := by
  cases serviceStep_move h with
  | session action sessions _ hstep => exact .inr ⟨action, hstep⟩
  | configured _ _ _ _ hstep => exact .inr ⟨_, hstep⟩
  | registered _ _ _ _ _ _ _ _ hstored => exact .inr (hstored.step.imp' _ fun _ hstep => hstep)
  | recorded _ _ _ _ _ _ _ _ _ _ _ hstored =>
    exact .inr (hstored.step.imp' _ fun _ hstep => hstep)
  | revoked _ _ _ _ _ _ _ hstored => exact .inr (hstored.step.imp' _ fun _ hstep => hstep)
  | deprecated _ _ _ _ _ hstored => exact .inr (hstored.step.imp' _ fun _ hstep => hstep)
  | begun _ _ _ _ _ _ _ _ _ _ _ hstep => exact .inr ⟨_, hstep⟩
  | planned _ _ _ _ _ _ _ _ _ hstep => exact .inr ⟨_, hstep⟩
  | settled _ _ _ _ _ _ _ hfired => exact hfired.sessions
  | triggered _ _ _ _ _ _ _ hfired => exact hfired.sessions
  | abandoned _ _ _ _ hsessions =>
    obtain ⟨rfl, -⟩ | ⟨index, -, hstep⟩ := hsessions
    · exact .inl rfl
    · exact .inr ⟨_, hstep⟩
  | _ => exact .inl rfl

theorem service_sessions (h : (service P lib).Reachable s) :
    (sessions P).Reachable s.sessions := by
  refine h.invariant (p := fun s => (sessions P).Reachable s.sessions) ?_ ?_
  · rintro s rfl
    exact .init rfl
  · intro s a s' hstep hi
    obtain heq | ⟨action, hsession⟩ := serviceStep_sessions hstep
    · exact heq ▸ hi
    · exact hi.step hsession

end TestOps

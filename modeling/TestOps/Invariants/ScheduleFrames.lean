import TestOps.Invariants.CronSearch
import TestOps.Invariants.SchedulePackages
import TestOps.Invariants.Idempotency

/-! What requests that change nothing leave alone in a schedule.

      an update that sends the status, the expression or the timezone again
          ──▸  looks for the next occurrence from now on, and drops one that is due
      a trigger that is sent again with its key
          ──▸  writes what its own firing was into the schedule, over what was recorded since -/

namespace TestOps

open Checked Relational Transition

variable {P : Primitives} {lib : CronLibrary} {db : Database} {s s' : Service} {a : ServiceAction}
  {record updated : RegressionScheduleRecord} {payload : RegressionScheduleUpdate}
  {moment now t : Instant} {projectId scheduleId : UUID}

/-! ### Updates -/

/-- The first occurrence of a schedule after a moment: the first firing of the first date. -/
def FirstOccurrence (lib : CronLibrary) (record : RegressionScheduleRecord)
    (moment t : Instant) : Prop :=
  ∃ cron zone, CronExpression.parse lib record.cronExpression = .ok cron ∧
    lib.zoneInfo record.timezone = some zone ∧
    IsLeast {u | OnFirstDate cron zone moment u} t

theorem firstOccurrence_of_nextAfter (h : record.nextAfter lib moment = .ok t) :
    FirstOccurrence lib record moment t := by
  simp only [RegressionScheduleRecord.nextAfter, bind_eq_ok] at h
  obtain ⟨cron, hparse, hnext⟩ := h
  have hzone := hnext
  simp only [CronExpression.nextAfter, bind_eq_ok, found_eq_ok] at hzone
  obtain ⟨zone, hzone, -⟩ := hzone
  obtain ⟨hfirst, hleast⟩ := nextAfter_onFirstDate (parse_wellFormed hparse) hzone hnext
  exact ⟨cron, zone, hparse, hzone, hfirst, hleast⟩

theorem FirstOccurrence.unique {t' : Instant} (h : FirstOccurrence lib record moment t)
    (h' : FirstOccurrence lib record moment t') : t = t' := by
  obtain ⟨cron, zone, hparse, hzone, hleast⟩ := h
  obtain ⟨cron', zone', hparse', hzone', hleast'⟩ := h'
  obtain rfl := Except.ok.inj (hparse.symm.trans hparse')
  obtain rfl := Option.some.inj (hzone.symm.trans hzone')
  exact hleast.unique hleast'

/-- The payload leaves what decides when the schedule fires as it is. -/
structure SameTimes (payload : RegressionScheduleUpdate) (record : RegressionScheduleRecord) :
    Prop where
  status : (payload.apply record).status = record.status
  cronExpression : (payload.apply record).cronExpression = record.cronExpression
  timezone : (payload.apply record).timezone = record.timezone

/-- What an update has decided about the times of its schedule. -/
theorem update_rescheduled
    (h : updateRegressionSchedule lib now projectId payload record db = .ok updated) :
    rescheduled lib now payload (payload.apply record) = .ok updated := by
  simp only [updateRegressionSchedule, bind_eq_ok] at h
  obtain ⟨-, -, -, -, h⟩ := h
  split at h
  · exact (bind_eq_ok.mp h).elim fun _ hvalid => hvalid.2
  · exact h

/-- The time of an ACTIVE schedule survives an update that changes nothing about it exactly when
    nothing about it was sent, or the time is still the first one to come. -/
theorem update_keeps_nextFireAt_iff (hactive : record.status = .active)
    (hsame : SameTimes payload record)
    (h : updateRegressionSchedule lib now projectId payload record db = .ok updated) :
    updated.nextFireAt = record.nextFireAt ↔ ∃ t, record.nextFireAt = some t ∧
      (payload.setsTimes = false ∨ FirstOccurrence lib record now t) := by
  have hstatus : (payload.apply record).status = .active := hsame.status.trans hactive
  have hnext : (payload.apply record).nextAfter lib now = record.nextAfter lib now := by
    rw [RegressionScheduleRecord.nextAfter, hsame.cronExpression, hsame.timezone,
      RegressionScheduleRecord.nextAfter]
  have hresched := update_rescheduled h
  rw [rescheduled, if_pos hstatus, hnext] at hresched
  split at hresched
  · rename_i hsent
    simp only [bind_eq_ok, pure_eq_ok] at hresched
    obtain ⟨first, hfirst, rfl⟩ := hresched
    have hoccurs := firstOccurrence_of_nextAfter hfirst
    constructor
    · intro hkept
      exact ⟨first, hkept.symm, .inr hoccurs⟩
    · rintro ⟨t, hstored, hunsent | hfirst'⟩
      · rcases hsent with hnone | hsent
        · exact absurd (hnone.symm.trans hstored) (by simp)
        · rw [hunsent] at hsent
          cases hsent
      · rw [hstored, hoccurs.unique hfirst']
  · rename_i hkept
    simp only [pure_eq_ok] at hresched
    subst hresched
    rw [not_or] at hkept
    obtain ⟨t, hstored⟩ := Option.ne_none_iff_exists'.mp hkept.1
    exact ⟨fun _ => ⟨t, hstored, .inl (Bool.eq_false_iff.mpr hkept.2)⟩, fun _ => rfl⟩

instance : Decidable (SameTimes payload record) :=
  decidable_of_iff ((payload.apply record).status = record.status ∧
      (payload.apply record).cronExpression = record.cronExpression ∧
      (payload.apply record).timezone = record.timezone)
    ⟨fun ⟨hstatus, hcron, hzone⟩ => ⟨hstatus, hcron, hzone⟩,
      fun ⟨hstatus, hcron, hzone⟩ => ⟨hstatus, hcron, hzone⟩⟩

namespace Installation

/-- The row of schedule 70, due at three o'clock. -/
def nightlyRow : RegressionScheduleRecord :=
  { nightly.row 70 1 100 with nextFireAt := some 10800000000 }

/-- Send nothing but a policy. -/
def setPolicy (policy : MisfirePolicy) : RegressionScheduleUpdate :=
  ⟨none, none, none, none, none, none, none, some policy, none, none⟩

end Installation

open Installation in
/-- At four o'clock the schedule still waits for three o'clock after its policy was changed. -/
theorem policy_keeps_nextFireAt : ∃ updated,
    updateRegressionSchedule cronLibrary 14400000000 1 (setPolicy .skip) nightlyRow .empty =
      .ok updated ∧ updated.nextFireAt = nightlyRow.nextFireAt := by
  have hupdate : updateRegressionSchedule cronLibrary 14400000000 1 (setPolicy .skip) nightlyRow
      .empty = .ok { nightlyRow with misfirePolicy := .skip } := rfl
  exact ⟨_, hupdate, (update_keeps_nextFireAt_iff rfl ⟨rfl, rfl, rfl⟩ hupdate).mpr
    ⟨_, rfl, .inl rfl⟩⟩

open Installation in
/-- At four o'clock the status is sent again, and the occurrence of three o'clock is dropped. -/
theorem resent_status_drops_occurrence : ∃ s, (service primitives cronLibrary).Reachable s ∧
    ∃ record ∈ s.schedules, record.status = .active ∧ record.nextFireAt = some 10800000000 ∧
      SameTimes (setStatus .active) record ∧ ∃ updated,
        updateRegressionSchedule cronLibrary 14400000000 1 (setStatus .active) record s.db =
          .ok updated ∧ updated.nextFireAt ≠ record.nextFireAt := by
  have hrun : Ends (serviceStep primitives cronLibrary) Service.init
      (serviceSetUp ++ createNightly) fun s => nightlyRow ∈ s.schedules.rows := by
    decide
  obtain ⟨s, hs, hmem⟩ := hrun.exists_reachable (S := service primitives cronLibrary)
    (fun _ _ _ _ hstep => hstep) rfl
  refine ⟨s, hs, nightlyRow, hmem, rfl, rfl, ⟨rfl, rfl, rfl⟩, _, rfl, ?_⟩
  decide

/-! ### A schedule stays in its project -/

/-- The sessions after a step are those before it, but for one that begins. -/
theorem session_origin {sessions sessions' : Sessions} {action : SessionAction}
    {creation : Creation} (h : sessionStep P sessions action = .ok sessions')
    (hmem : creation ∈ sessions'.creations) :
    (∃ old ∈ sessions.creations, old.request = creation.request) ∨
      ∃ call key actorId, action = .begin call key actorId ∧
        beginCreation call key actorId sessions.core.db = .ok (sessions.core.db, some creation) := by
  cases sessionStep_move h with
  | quiet _ hsub => exact .inl ⟨creation, hsub.subset hmem, rfl⟩
  | begun call key actorId begun _ _ hbegin =>
    rcases List.mem_append.mp hmem with hold | hnew
    · exact .inl ⟨creation, hold, rfl⟩
    · obtain rfl := List.mem_singleton.mp hnew
      exact .inr ⟨call, key, actorId, rfl, hbegin⟩
  | planned index _ _ _ old plan hold =>
    rcases List.mem_or_eq_of_mem_set hmem with hmem | rfl
    · exact .inl ⟨creation, hmem, rfl⟩
    · exact .inl ⟨old, List.mem_of_getElem? hold, rfl⟩
  | created => exact .inl ⟨creation, (List.eraseIdx_sublist _ _).subset hmem, rfl⟩

theorem session_old {sessions sessions' : Sessions} {action : SessionAction}
    {creation : Creation} (h : sessionStep P sessions action = .ok sessions')
    (haction : ∀ call key actorId, action ≠ .begin call key actorId)
    (hmem : creation ∈ sessions'.creations) :
    ∃ old ∈ sessions.creations, old.request = creation.request := by
  rcases session_origin h hmem with hold | ⟨call, key, actorId, rfl, -⟩
  · exact hold
  · exact absurd rfl (haction call key actorId)

/-- Only the call of a schedule begins a session for a schedule. -/
theorem begin_schedule {call : CreationCall} {key : String} {actorId : UUID} {db' : Database}
    {creation : Creation} (h : beginCreation call key actorId db = .ok (db', some creation)) :
    creation.scheduleId = none ∨
      ∃ scheduleId scheduledFor request, call = .schedule scheduleId scheduledFor request := by
  cases call with
  | createRun payload =>
    simp only [beginCreation, pure_eq_ok, Prod.mk.injEq, Option.some.injEq] at h
    obtain ⟨-, rfl⟩ := h
    exact .inl rfl
  | createAutomationPackageValidationRun =>
    simp only [beginCreation, bind_eq_ok, pure_eq_ok, Prod.mk.injEq, Option.some.injEq] at h
    obtain ⟨-, -, -, -, -, -, -, -, -, rfl⟩ := h
    exact .inl rfl
  | createRerun =>
    simp only [beginCreation, bind_eq_ok, pure_eq_ok, Prod.mk.injEq, Option.some.injEq] at h
    obtain ⟨-, -, -, -, -, rfl⟩ := h
    exact .inl rfl
  | createCandidateRun =>
    simp only [beginCreation, bind_eq_ok, pure_eq_ok, Prod.mk.injEq, Option.some.injEq] at h
    obtain ⟨-, -, -, -, -, rfl⟩ := h
    exact .inl rfl
  | createValidationRun =>
    simp only [beginCreation, bind_eq_ok] at h
    obtain ⟨record, -, _, -, h⟩ := h
    split at h
    · simp only [pure_eq_ok, Prod.mk.injEq] at h
      cases h.2
    · simp only [bind_eq_ok] at h
      obtain ⟨existing, -, h⟩ := h
      cases existing with
      | some _ =>
        simp only [pure_eq_ok, Prod.mk.injEq] at h
        cases h.2
      | none =>
        simp only [pure_eq_ok, Prod.mk.injEq, Option.some.injEq] at h
        obtain ⟨-, rfl⟩ := h
        exact .inl rfl
  | schedule scheduleId scheduledFor request => exact .inr ⟨scheduleId, scheduledFor, request, rfl⟩

theorem Fired.old {work : ScheduleWork} {sessions : Sessions} {runId : Option UUID}
    {creation : Creation} (h : Fired P s scheduleId work sessions runId)
    (hmem : creation ∈ sessions.creations) :
    ∃ old ∈ s.sessions.creations, old.request = creation.request := by
  cases h with
  | atOnce => exact ⟨creation, hmem, rfl⟩
  | ended _ _ _ _ _ hstep => exact session_old hstep (fun _ _ _ => nofun) hmem
  | created _ _ _ _ _ _ _ _ _ hstep => exact session_old hstep (fun _ _ _ => nofun) hmem

/-- A session of a schedule was there before, or has begun on the row. -/
theorem scheduled_origin (hstep : serviceStep P lib s a = .ok s') {creation : Creation} {id : UUID}
    (hid : creation.scheduleId = some id) (hmem : creation ∈ s'.sessions.creations) :
    (∃ old ∈ s.sessions.creations, old.request = creation.request) ∨
      ∃ record, s.schedules.get? id = some record ∧
        creation.request.projectId = record.projectId := by
  have stored {packages : Table AutomationPackageRecord.id}
      {verifications : Table AutomationPackageSupplyChainVerificationRecord.id}
      (hstored : PackagesStored P s.sessions packages verifications)
      (hmem : creation ∈ (s.sessions.withPackages packages verifications).creations) :
      ∃ old ∈ s.sessions.creations, old.request = creation.request := by
    obtain ⟨configuration, hstep⟩ := hstored.step
    exact session_old hstep (fun _ _ _ => nofun) hmem
  cases serviceStep_move hstep with
  | session action sessions hpermits hsession =>
    rcases session_origin hsession hmem with hold | ⟨call, key, actorId, rfl, hbegin⟩
    · exact .inl hold
    · rcases begin_schedule hbegin with hnone | ⟨scheduleId, scheduledFor, request, rfl⟩
      · rw [hnone] at hid
        cases hid
      · cases hpermits
  | configured _ _ _ _ hsession => exact .inl (session_old hsession (fun _ _ _ => nofun) hmem)
  | registered _ _ _ _ _ _ _ _ hstored => exact .inl (stored hstored hmem)
  | recorded _ _ _ _ _ _ _ _ _ _ _ hstored => exact .inl (stored hstored hmem)
  | revoked _ _ _ _ _ _ _ hstored => exact .inl (stored hstored hmem)
  | deprecated _ _ _ _ _ hstored => exact .inl (stored hstored hmem)
  | begun record scheduledFor key actorId work begun tasks evaluations hrecord hfires hcreation =>
    rcases List.mem_append.mp hmem with hold | hnew
    · exact .inl ⟨creation, hold, rfl⟩
    · rw [List.mem_singleton.mp hnew, hcreation] at hid ⊢
      cases hid
      exact .inr ⟨record, hrecord, rfl⟩
  | planned _ _ _ _ _ _ _ _ _ hsession =>
    exact .inl (session_old hsession (fun _ _ _ => nofun) hmem)
  | settled _ _ _ _ _ _ _ hfired => exact .inl (hfired.old hmem)
  | triggered _ _ _ _ _ _ _ hfired => exact .inl (hfired.old hmem)
  | abandoned _ sessions _ _ hsessions =>
    rcases hsessions with ⟨rfl, -⟩ | ⟨index, -, hsession⟩
    · exact .inl ⟨creation, hmem, rfl⟩
    · exact .inl (session_old hsession (fun _ _ _ => nofun) hmem)
  | _ => exact .inl ⟨creation, hmem, rfl⟩

/-- The project of a row does not change. -/
def SameProject (record record' : RegressionScheduleRecord) : Prop :=
  record'.projectId = record.projectId

/-- Transactions and sessions of a schedule know the project it is in. -/
structure KnowsProjects (s : Service) : Prop where
  updates : ∀ task ∈ s.tasks, ∀ record, task.work = .update record → ∃ old,
    s.schedules.get? task.scheduleId = some old ∧ record.projectId = old.projectId
  sessions : ∀ creation ∈ s.sessions.creations, ∀ id, creation.scheduleId = some id → ∃ old,
    s.schedules.get? id = some old ∧ creation.request.projectId = old.projectId

theorem schedules_evolve (hi : KnowsProjects s) (hstep : serviceStep P lib s a = .ok s') :
    s.schedules.Evolves SameProject s'.schedules := by
  have hrefl : ∀ record, SameProject record record := fun _ => rfl
  cases serviceStep_move hstep with
  | inserted _ _ _ _ hinsert => exact .insert? hrefl hinsert
  | updated scheduleId record htask =>
    refine .modify hrefl fun old hold => ?_
    obtain ⟨old', hold', hproject⟩ := hi.updates _ (Table.mem_of_get? htask) record rfl
    obtain rfl := Option.some.inj (hold.symm.trans hold')
    exact hproject
  | advanced => exact .modify hrefl fun _ _ => rfl
  | settled _ _ outcome =>
    refine .modify hrefl fun _ _ => ?_
    cases outcome <;> rfl
  | triggered => exact .modify hrefl fun _ _ => rfl
  | _ => exact .refl hrefl

theorem knowsProjects_step (hi : KnowsProjects s) (hstep : serviceStep P lib s a = .ok s') :
    KnowsProjects s' := by
  have hevolve := schedules_evolve hi hstep
  have later {id projectId : UUID}
      (h : ∃ old, s.schedules.get? id = some old ∧ projectId = old.projectId) :
      ∃ new, s'.schedules.get? id = some new ∧ projectId = new.projectId := by
    obtain ⟨old, hold, hproject⟩ := h
    obtain ⟨new, hnew, hsame⟩ := hevolve.get? hold
    exact ⟨new, hnew, hproject.trans hsame.symm⟩
  constructor
  · intro task htask record hwork
    apply later
    cases task_origin hstep htask with
    | old hold => exact hi.updates task hold record hwork
    | creating _ _ _ _ _ _ heq =>
      subst heq
      cases hwork
    | updating now projectId scheduleId payload old updated heq hold hupdate =>
      subst heq
      cases hwork
      obtain ⟨nextFireAt, rfl, -, -⟩ := updateRegressionSchedule_ok hupdate
      exact ⟨old, hold, rfl⟩
    | firing fired scheduledFor work heq _ hfires =>
      subst heq
      cases hfires with
      | occurrence => cases hwork
      | manual => cases hwork
  · intro creation hcreation id hid
    apply later
    rcases scheduled_origin hstep hid hcreation with ⟨old, hold, hrequest⟩ | hrecord
    · have hold_id : old.scheduleId = some id := by
        rw [← hid, Creation.scheduleId, Creation.scheduleId, hrequest]
      exact hrequest ▸ hi.sessions old hold id hold_id
    · exact hrecord

theorem knowsProjects_reachable (h : (service P lib).Reachable s) : KnowsProjects s := by
  refine h.invariant (p := KnowsProjects) ?_ fun s a s' hstep hi => knowsProjects_step hi hstep
  rintro s rfl
  exact ⟨fun _ htask => absurd htask Table.not_mem_empty,
    fun _ hcreation => absurd hcreation List.not_mem_nil⟩

/-! ### Triggers that are sent again -/

variable {run : TestRunRecord} {key : String} {actorId : UUID} {s₀ s₁ : Service}

/-- The key under which the manual trigger that holds a schedule creates its run. -/
def Service.triggering (s : Service) (scheduleId : UUID) : Option String :=
  match s.taskSession scheduleId with
  | .ok (⟨_, .manual _⟩, _, creation) => some creation.idempotencyKey
  | _ => none

theorem triggering_some (h : s.triggering scheduleId = some key) : ∃ moment index creation,
    InSession s scheduleId (.manual moment) index creation ∧ creation.idempotencyKey = key := by
  rw [Service.triggering] at h
  split at h
  · rename_i hsession
    exact ⟨_, _, _, taskSession_ok hsession, Option.some.inj h⟩
  · cases h

/-- The transaction of a manual trigger commits a run of its own under the key. -/
structure TriggerCreates (P : Primitives) (lib : CronLibrary) (s₀ s₁ : Service) (scheduleId : UUID)
    (key : String) (run : TestRunRecord) : Prop where
  session : s₀.triggering scheduleId = some (manualIdempotencyKey P scheduleId key)
  commit : ∃ now outboxId, serviceStep P lib s₀ (.commitFiring scheduleId now outboxId) = .ok s₁
  new : run ∈ s₁.db.runs
  fresh : s₀.db.runs.get? run.id = none

/-- The run of a manual trigger is there, with its key, its schedule and its firing. -/
structure TriggerRecorded (P : Primitives) (s : Service) (scheduleId : UUID) (key : String)
    (run : TestRunRecord) : Prop where
  key : run.idempotencyKey = manualIdempotencyKey P scheduleId key
  stored : ∃ run' ∈ s.db.runs, run'.id = run.id ∧ Follows run run'
  schedule : ∃ record, s.schedules.get? scheduleId = some record ∧ run.projectId = record.projectId
  firing : ∃ firing ∈ s.firings, firing.scheduleId = scheduleId ∧ firing.runId = some run.id

theorem ensureFiring_ok {runId : UUID} {firing : RegressionScheduleFiringRecord}
    {firings firings' : FiringTable}
    (h : ensureFiring scheduleId moment runId firings = .ok (firing, firings')) :
    (firing.scheduleId = scheduleId ∧ firing.runId = some runId) ∧ firing ∈ firings' ∧
      ∀ old ∈ firings, old ∈ firings' := by
  rw [ensureFiring] at h
  split at h
  · rename_i found hfound
    simp only [pure_eq_ok, Prod.mk.injEq] at h
    obtain ⟨rfl, rfl⟩ := h
    exact ⟨by simpa using Table.first?_some hfound, Table.mem_of_first? hfound, fun _ hold => hold⟩
  · simp only [bind_eq_ok, found_eq_ok, pure_eq_ok, Prod.mk.injEq] at h
    obtain ⟨inserted, hinsert, rfl, rfl⟩ := h
    exact ⟨⟨rfl, rfl⟩, (Table.mem_insert? hinsert).mpr (.inr rfl),
      fun old hold => (Table.mem_insert? hinsert).mpr (.inl hold)⟩

/-- Firings stay. -/
theorem firings_step (hstep : serviceStep P lib s a = .ok s') :
    ∀ firing ∈ s.firings, firing ∈ s'.firings := by
  intro firing hfiring
  cases serviceStep_move hstep with
  | settled _ _ _ _ _ _ _ _ hinsert => exact (Table.mem_insert? hinsert).mpr (.inl hfiring)
  | triggered _ _ _ _ _ _ _ _ hensure => exact (ensureFiring_ok hensure).2.2 firing hfiring
  | _ => exact hfiring

theorem runs_step (hs : (service P lib).Reachable s) (hstep : serviceStep P lib s a = .ok s') :
    s.db.runs.Evolves Follows s'.db.runs := by
  obtain heq | ⟨action, hsession⟩ := serviceStep_sessions hstep
  · rw [Service.db, Service.db, heq]
    exact .refl .refl
  · have hwrites := sessionStep_writes (sessionState_reachable (service_sessions hs)) hsession
    exact hwrites.rel (r := fun db db' => db.runs.Evolves Follows db'.runs) (fun _ => .refl .refl)
      (fun _ _ _ => .trans .trans) fun _ _ _ _ hw => follows_write hw

/-- The commit of a manual trigger records it. -/
theorem TriggerCreates.recorded (hs : (service P lib).Reachable s₀)
    (h : TriggerCreates P lib s₀ s₁ scheduleId key run) : TriggerRecorded P s₁ scheduleId key run := by
  obtain ⟨hsession, ⟨now, outboxId, hcommit⟩, hnew, hfresh⟩ := h
  obtain ⟨moment, index, creation, hin, hkey⟩ := triggering_some hsession
  have hstate := sessionState_reachable (service_sessions hs)
  have hfinish := hcommit
  simp only [serviceStep, Service.commitFiring, bind_eq_ok, found_eq_ok, Prod.exists] at hfinish
  obtain ⟨task, index', creation', htask, plan, hplan, db, queued, created, hqueue, s₂, hsession,
    hfinish⟩ := hfinish
  have hin' := taskSession_ok htask
  obtain rfl : index = index' := Option.some.inj (hin.session.symm.trans hin'.session)
  obtain rfl : creation = creation' := Option.some.inj (hin.creation.symm.trans hin'.creation)
  have hwork : ScheduleWork.manual moment = task.work := by
    have := Option.some.inj (hin.task.symm.trans hin'.task)
    exact congrArg ScheduleTask.work this
  obtain ⟨sessions, hstep, rfl⟩ := inSessions_ok hsession
  obtain ⟨-, rfl, -⟩ := queueSnapshotRun_ok hqueue
  obtain ⟨_, heq, -⟩ | ⟨moment', firing, firings, -, hensure, rfl⟩ := finish_ok hfinish
  · rw [← hwork] at heq
    cases heq
  obtain ⟨⟨hschedule, hrunId⟩, hmem, -⟩ := ensureFiring_ok hensure
  -- the run that has come in is the planned one
  have hrun : run = plan.run P := by
    cases sessionStep_move hstep with
    | quiet hwrites _ =>
      obtain ⟨old, hold, hid, -⟩ :=
        runs_quiet (hwrites.mono fun _ => SessionAction.allows_quiet) run hnew
      exact absurd hid (Table.get?_eq_none.mp hfresh old hold)
    | created _ _ _ creation' plan' run' core hcreation' hplan' hqueue' =>
      obtain rfl := Option.some.inj (hin.creation.symm.trans hcreation')
      obtain rfl := Option.some.inj (hplan.symm.trans hplan')
      obtain ⟨-, -, -, runs, _, _, _, hdb, hinsert, -⟩ := queueSnapshotRun_ok hqueue'
      have hnew : run ∈ core.db.runs := hnew
      rw [hdb] at hnew
      rcases (Table.mem_insert? hinsert).mp hnew with hold | heq
      · exact absurd rfl (Table.get?_eq_none.mp hfresh run hold)
      · exact heq
  have hready := hstate.ready creation (List.mem_of_getElem? hin.creation) plan hplan
  have hknows := knowsProjects_reachable hs
  have hrequest : creation.scheduleId = some scheduleId := by
    obtain ⟨hindex, hmatch, -⟩ := List.findIdx?_eq_some_iff_getElem.mp hin.session
    obtain ⟨_, hcreation⟩ := List.getElem?_eq_some_iff.mp hin.creation
    rw [← hcreation]
    exact of_decide_eq_true hmatch
  obtain ⟨old, hold, hproject⟩ :=
    hknows.sessions creation (List.mem_of_getElem? hin.creation) scheduleId hrequest
  obtain ⟨record, hrecord, hsame⟩ := (schedules_evolve hknows hcommit).get? hold
  refine ⟨?_, ⟨run, hnew, rfl, .refl run⟩, ⟨record, hrecord, ?_⟩, ⟨firing, hmem, hschedule, ?_⟩⟩
  · rw [hrun, ← hkey]
    exact hready.idempotencyKey
  · rw [hrun, show (plan.run P).projectId = plan.projectId from rfl, hready.projectId, hproject]
    exact hsame.symm
  · rw [hrun]
    exact hrunId

theorem TriggerRecorded.step (hs : (service P lib).Reachable s)
    (hstep : serviceStep P lib s a = .ok s') (h : TriggerRecorded P s scheduleId key run) :
    TriggerRecorded P s' scheduleId key run := by
  obtain ⟨run', hrun', hid, hfollow⟩ := h.stored
  obtain ⟨run'', hrun'', hid', hfollow'⟩ := runs_step hs hstep run' hrun'
  obtain ⟨old, hold, hproject⟩ := h.schedule
  obtain ⟨record, hrecord, hsame⟩ := (schedules_evolve (knowsProjects_reachable hs) hstep).get? hold
  obtain ⟨firing, hfiring, hfired⟩ := h.firing
  exact ⟨h.key, ⟨run'', hrun'', hid'.trans hid, hfollow.trans _ _ _ hfollow'⟩,
    ⟨record, hrecord, hproject.trans hsame.symm⟩, ⟨firing, firings_step hstep firing hfiring, hfired⟩⟩

/-- The trigger is answered with the run its key has, and the schedule and its firings stay as they
    are. -/
def ReplayUnchanged (P : Primitives) (lib : CronLibrary) (s : Service) (moment : Instant)
    (record : RegressionScheduleRecord) (key : String) (actorId : UUID) (run : TestRunRecord) :
    Prop :=
  ∃ s' answer,
    serviceStep P lib s (.trigger moment record.projectId record.id key actorId) = .ok s' ∧
    existingIdempotentRun s.db record.projectId (manualIdempotencyKey P record.id key)
      (P.canonicalSha256 (.runCreate (runPayload record))) = .ok (some answer) ∧
    answer.id = run.id ∧ s'.schedules.get? record.id = some record ∧ s'.firings = s.firings

/-- The firing of a run. -/
def firingOf (s : Service) (scheduleId runId : UUID) : Option RegressionScheduleFiringRecord :=
  s.firings.first? fun firing => firing.scheduleId = scheduleId ∧ firing.runId = some runId

/-- The firing of the run is the last thing its schedule knows of. -/
def StillLast (s : Service) (record : RegressionScheduleRecord) (runId : UUID) : Prop :=
  ∃ firing, firingOf s record.id runId = some firing ∧
    record.lastScheduledFor = some firing.scheduledFor ∧
    record.lastTriggeredAt = firing.triggeredAt ∧ record.lastRunId = some runId ∧
    record.lastError = none

instance {runId : UUID} : Decidable (StillLast s record runId) :=
  match h : firingOf s record.id runId with
  | none => .isFalse fun ⟨_, hfiring, _⟩ => by
    rw [h] at hfiring
    cases hfiring
  | some firing => decidable_of_iff (record.lastScheduledFor = some firing.scheduledFor ∧
      record.lastTriggeredAt = firing.triggeredAt ∧ record.lastRunId = some runId ∧
      record.lastError = none) ⟨fun hlast => ⟨firing, h, hlast⟩, fun ⟨_, hfiring, hlast⟩ => by
        obtain rfl := Option.some.inj (h.symm.trans hfiring)
        exact hlast⟩

/-- When the key has a run there is nothing to begin. -/
theorem startRun_existing {scheduledFor : Instant} {key : String} {work : ScheduleWork}
    {answer : TestRunRecord}
    (h : existingIdempotentRun s.db record.projectId key
      (P.canonicalSha256 (.runCreate (runPayload record))) = .ok (some answer)) :
    s.startRun P record scheduledFor key actorId work = s.finish record.id work answer.id := by
  rw [Service.startRun, show (runPayload record).projectId = record.projectId from rfl, h]
  rfl

/-- A repeated trigger leaves its schedule as it is exactly when the schedule can still be triggered
    with the same request, and nothing has been recorded since. -/
theorem replay_unchanged_iff (hs : (service P lib).Reachable s₀)
    (hcreates : TriggerCreates P lib s₀ s₁ scheduleId key run)
    (hlater : (service P lib).Steps s₁ s) (hrecord : s.schedules.get? scheduleId = some record)
    (hfree : s.tasks.get? scheduleId = none) :
    ReplayUnchanged P lib s moment record key actorId run ↔
      record.status ≠ .archived ∧ (∃ u, record.validate s.db = .ok u) ∧
      run.requestHash = P.canonicalSha256 (.runCreate (runPayload record)) ∧
      StillLast s record run.id := by
  obtain ⟨now, outboxId, hcommit⟩ := hcreates.commit
  have hs₁ : (service P lib).Reachable s₁ := hs.step hcommit
  have hrecorded : TriggerRecorded P s scheduleId key run :=
    hlater.preserves (p := fun t => TriggerRecorded P t scheduleId key run) hs₁
      (fun _ _ _ hs hstep h => h.step hs hstep) (hcreates.recorded hs)
  have hkeys := (sessionState_reachable (service_sessions (hs₁.steps hlater))).keys
  obtain rfl : record.id = scheduleId := Table.key_of_get? hrecord
  obtain ⟨run', hrun', hid, hfollow⟩ := hrecorded.stored
  obtain ⟨record', hrecord', hproject⟩ := hrecorded.schedule
  obtain rfl := Option.some.inj (hrecord.symm.trans hrecord')
  -- the lookup finds the run under the key of the trigger
  have hlookup (requestHash : Digest) :
      existingIdempotentRun s.db record.projectId (manualIdempotencyKey P record.id key)
        requestHash = if run.requestHash = requestHash then .ok (some run') else .error keyConflict := by
    rw [← hproject, ← hfollow.projectId, ← hrecorded.key, ← hfollow.idempotencyKey,
      ← hfollow.requestHash]
    exact existing_of_run hkeys hrun'
  -- and the firing that the run has
  have hfiring : ∃ firing, firingOf s record.id run.id = some firing := by
    obtain ⟨firing, hmem, hfired⟩ := hrecorded.firing
    rw [← Option.isSome_iff_exists, Option.isSome_iff_ne_none]
    intro hnone
    exact Table.first?_eq_none.mp hnone firing hmem (by simpa using hfired)
  obtain ⟨firing, hfiring⟩ := hfiring
  have hensure : ensureFiring record.id moment run'.id s.firings = .ok (firing, s.firings) := by
    rw [ensureFiring, hid, show s.firings.first? _ = some firing from hfiring]
    rfl
  have hsettle : s.finish record.id (.manual moment) run'.id = .ok { s with
      schedules := s.schedules.modify record.id (manualSettled firing run'.id)
      tasks := s.tasks.erase record.id } := by
    rw [Service.finish, settleManual, hensure]
    rfl
  constructor
  · rintro ⟨s', answer, hstep, hanswer, -, hkept, -⟩
    rw [hlookup] at hanswer
    split at hanswer
    · rename_i hhash
      simp only [serviceStep, bind_eq_ok, ensure_eq_ok, found_eq_ok, hrecord,
        Option.some.injEq] at hstep
      obtain ⟨-, -, _, rfl, -, -, -, hstatus, _, hvalid, hstart⟩ := hstep
      rw [startRun_existing ((hlookup _).trans (if_pos hhash)), hsettle] at hstart
      obtain rfl := Except.ok.inj hstart
      rw [Table.get?_modify_self hrecord, Option.some.injEq] at hkept
      refine ⟨hstatus, ⟨_, hvalid⟩, hhash, firing, hfiring, ?_⟩
      rw [← hkept]
      exact ⟨rfl, rfl, congrArg some hid, rfl⟩
    · cases hanswer
  · rintro ⟨hstatus, ⟨_, hvalid⟩, hhash, firing', hfiring', hlast⟩
    obtain rfl : firing = firing' := Option.some.inj (hfiring.symm.trans hfiring')
    have hexisting := (hlookup _).trans (if_pos hhash)
    refine ⟨{ s with
      schedules := s.schedules.modify record.id (manualSettled firing run'.id)
      tasks := s.tasks.erase record.id }, run', ?_, hexisting, hid, ?_, rfl⟩
    · rw [serviceStep, hrecord, ensure_true (by rw [hfree]; rfl), ok_bind]
      simp only [found, ok_bind, ensure_true hstatus, hvalid]
      rw [ensure_true trivial, ok_bind, startRun_existing hexisting, hsettle]
    · obtain ⟨hfor, hat, hrun, herror⟩ := hlast
      rw [Table.get?_modify_self hrecord, manualSettled, hid, ← hfor, ← hat, ← hrun, ← herror]

namespace Installation

/-- Trigger schedule 70 by hand, and plan the run. -/
def beginTrigger (moment : Instant) (key : String) (runId : UUID) : List ServiceAction :=
  [.trigger moment 1 70 key 100, .planFiring 70 moment moment runId]

def commitTrigger (moment : Instant) (outboxId : UUID) : List ServiceAction :=
  [.commitFiring 70 moment outboxId]

/-- Send the first trigger again. -/
def repeatTrigger (moment : Instant) : ServiceAction := .trigger moment 1 70 "first" 100

/-- The run of the last trigger, as its schedule has it. -/
def lastRun (s : Service) : Option UUID := (s.schedules.get? 70).bind RegressionScheduleRecord.lastRunId

/-- Run 500 is created by the first trigger of schedule 70. -/
theorem first_triggered (p : Service → Prop) [DecidablePred p]
    (h : Ends (serviceStep primitives cronLibrary) Service.init
      (serviceSetUp ++ createNightly ++ beginTrigger 5 "first" 500) fun s₀ =>
        s₀.triggering 70 = some (manualIdempotencyKey primitives 70 "first") ∧
        (s₀.db.runs.get? 500).isNone ∧
        Ends (serviceStep primitives cronLibrary) s₀ (commitTrigger 5 600) fun s₁ =>
          (s₁.db.runs.get? 500).isSome ∧ p s₁) :
    ∃ s₀ s₁ run, (service primitives cronLibrary).Reachable s₀ ∧ run.id = 500 ∧
      TriggerCreates primitives cronLibrary s₀ s₁ 70 "first" run ∧ p s₁ := by
  obtain ⟨s₀, hs₀, hsession, hfresh, hends⟩ := h.exists_reachable
    (S := service primitives cronLibrary) (fun _ _ _ _ hstep => hstep) rfl
  obtain ⟨s₁, hcommit, hsome, hp⟩ := ends_singleton.mp hends
  obtain ⟨run, hrun⟩ := Option.isSome_iff_exists.mp hsome
  have hid : run.id = 500 := Table.key_of_get? hrun
  refine ⟨s₀, s₁, run, hs₀, hid, ⟨hsession, ⟨5, 600, hcommit⟩, Table.mem_of_get? hrun, ?_⟩, hp⟩
  rw [hid]
  exact Option.isNone_iff_eq_none.mp hfresh

end Installation

open Installation in
/-- The first trigger of schedule 70 is sent again at once. -/
theorem trigger_repeated_at_once : ∃ s record run,
    (service primitives cronLibrary).Reachable s ∧
    ReplayUnchanged primitives cronLibrary s 6 record "first" 100 run := by
  obtain ⟨s₀, s₁, run, hs₀, hid, hcreates, ⟨record, hmem, hrecord, hstatus, hvalid, hhash,
    hlast⟩, hfree⟩ := first_triggered
    (fun s₁ => (∃ record ∈ s₁.schedules.rows, record.id = 70 ∧ record.status ≠ .archived ∧
        (record.validate s₁.db).toBool = true ∧
        (∀ run ∈ s₁.db.runs.rows, run.id = 500 →
          run.requestHash = primitives.canonicalSha256 (.runCreate (runPayload record))) ∧
        StillLast s₁ record 500) ∧ (s₁.tasks.get? 70).isNone)
    (by decide +kernel)
  obtain ⟨now, outboxId, hcommit⟩ := hcreates.commit
  refine ⟨s₁, record, run, hs₀.step hcommit, ?_⟩
  refine (replay_unchanged_iff hs₀ hcreates .refl (hrecord ▸ Table.get?_key hmem)
    (Option.isNone_iff_eq_none.mp hfree)).mpr ⟨hstatus, ?_, hhash run hcreates.new hid, ?_⟩
  · cases hresult : record.validate s₁.db with
    | ok u => exact ⟨u, rfl⟩
    | error e =>
      rw [hresult] at hvalid
      cases hvalid
  · rw [hid]
    exact hlast

open Installation in
/-- The first trigger is sent again after a second one: the schedule then says that the first run was
    the last. -/
theorem repeated_trigger_rewrites : ∃ s₀ s₁ s record run,
    (service primitives cronLibrary).Reachable s₀ ∧
    TriggerCreates primitives cronLibrary s₀ s₁ 70 "first" run ∧
    (service primitives cronLibrary).Steps s₁ s ∧ s.schedules.get? 70 = some record ∧
    record.lastRunId = some 501 ∧ s.tasks.get? 70 = none ∧
    ¬ReplayUnchanged primitives cronLibrary s 20 record "first" 100 run ∧
    ∃ s', serviceStep primitives cronLibrary s (repeatTrigger 20) = .ok s' ∧
      lastRun s' = some 500 := by
  obtain ⟨s₀, s₁, run, hs₀, hid, hcreates, hends⟩ := first_triggered
    (fun s₁ => Ends (serviceStep primitives cronLibrary) s₁
      (beginTrigger 9 "second" 501 ++ commitTrigger 9 601) fun s =>
        (∃ record ∈ s.schedules.rows, record.id = 70 ∧ record.projectId = 1 ∧
          record.lastRunId = some 501) ∧ (s.tasks.get? 70).isNone ∧
        Ends (serviceStep primitives cronLibrary) s [repeatTrigger 20] fun s' =>
          lastRun s' = some 500)
    (by decide +kernel)
  obtain ⟨s, hsteps, ⟨record, hmem, hrecord, hproject, hlast⟩, hfree, hrepeat⟩ :=
    hends.exists_steps (S := service primitives cronLibrary) (fun _ _ _ _ hstep => hstep)
  obtain ⟨s', hstep, hlast'⟩ := ends_singleton.mp hrepeat
  refine ⟨s₀, s₁, s, record, run, hs₀, hcreates, hsteps, hrecord ▸ Table.get?_key hmem, hlast,
    Option.isNone_iff_eq_none.mp hfree, ?_, s', hstep, hlast'⟩
  rintro ⟨s'', answer, hstep', -, -, hkept, -⟩
  rw [hrecord, hproject] at hstep'
  obtain rfl := Except.ok.inj (hstep.symm.trans hstep')
  rw [lastRun, ← hrecord, hkept, Option.bind_some, hlast] at hlast'
  exact absurd hlast' (by decide)

end TestOps

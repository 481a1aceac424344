import TestOps.Invariants.Idempotency
import TestOps.Invariants.Deliveries

/-! Project quotas. A session counts the runs of its project under the project lock and inserts one
    more run before it gives the lock up:

      counted, below the limit  ──▸  nobody else inserts  ──▸  inserted, within the limit

    so what it counted is still an upper bound when it commits. The day is counted from the instant of
    the check, and the run is stamped later: a run that slips past midnight falls on a day that was
    counted along. -/

namespace TestOps

open Checked Relational Transition

variable {P : Primitives} {db db' : Database} {s s' : Sessions}

/-! ### Days -/

/-- The runs of a project that were created on the day of an instant. -/
def runsCreatedOn (db : Database) (projectId : UUID) (day : Instant) : Nat :=
  db.runs.count fun run => run.projectId = projectId ∧
    dailyWindowStart run.createdAt = dailyWindowStart day

theorem dailyWindowStart_mono {a b : Instant} (h : a ≤ b) :
    dailyWindowStart a ≤ dailyWindowStart b := by
  have hday : a / microsPerDay ≤ b / microsPerDay := Int.ediv_le_ediv (by decide) h
  exact Int.mul_le_mul_of_nonneg_right hday (by decide)

/-- No instant precedes the day it falls on. -/
theorem dailyWindowStart_le (a : Instant) : dailyWindowStart a ≤ a :=
  Int.ediv_mul_le a (by decide)

/-- The runs of a later day are among those counted since an earlier midnight. -/
theorem runsCreatedOn_le {projectId : UUID} {checkedAt now : Instant} (h : checkedAt ≤ now) :
    runsCreatedOn db projectId now ≤ runsCreatedToday db projectId checkedAt := by
  refine List.countP_mono_left fun run _ hrun => ?_
  simp only [decide_eq_true_eq] at hrun ⊢
  obtain ⟨hproject, hday⟩ := hrun
  refine ⟨hproject, ?_⟩
  calc dailyWindowStart checkedAt
    _ ≤ dailyWindowStart now := dailyWindowStart_mono h
    _ = dailyWindowStart run.createdAt := hday.symm
    _ ≤ run.createdAt := dailyWindowStart_le run.createdAt

/-! ### Limits -/

/-- The limits of a project are the same. -/
structure SamePolicy (project project' : ProjectRecord) : Prop where
  maxInFlightRuns : project'.maxInFlightRuns = project.maxInFlightRuns
  maxDailyRuns : project'.maxDailyRuns = project.maxDailyRuns

theorem SamePolicy.refl (project : ProjectRecord) : SamePolicy project project := ⟨rfl, rfl⟩

theorem SamePolicy.trans {a b c : ProjectRecord} (h : SamePolicy a b) (h' : SamePolicy b c) :
    SamePolicy a c :=
  ⟨h'.1.trans h.1, h'.2.trans h.2⟩

/-- A project keeps to its limits. -/
structure WithinQuota (db : Database) (project : ProjectRecord) : Prop where
  inFlight : inFlightRuns db project.id ≤ project.maxInFlightRuns
  daily : ∀ day, runsCreatedOn db project.id day ≤ project.maxDailyRuns

/-- A project has room for one more run on a day. -/
structure HasSpare (db : Database) (project : ProjectRecord) (day : Instant) : Prop where
  inFlight : inFlightRuns db project.id < project.maxInFlightRuns
  daily : runsCreatedOn db project.id day < project.maxDailyRuns

/-- A project uses no more than before. -/
structure UsesNoMore (db db' : Database) (projectId : UUID) : Prop where
  inFlight : inFlightRuns db' projectId ≤ inFlightRuns db projectId
  daily : ∀ day, runsCreatedOn db' projectId day ≤ runsCreatedOn db projectId day

theorem WithinQuota.mono {project project' : ProjectRecord} (h : WithinQuota db project)
    (hid : project'.id = project.id) (hpolicy : SamePolicy project project')
    (huse : UsesNoMore db db' project.id) : WithinQuota db' project' where
  inFlight := by
    rw [hid, hpolicy.maxInFlightRuns]
    exact huse.inFlight.trans h.inFlight
  daily day := by
    rw [hid, hpolicy.maxDailyRuns]
    exact (huse.daily day).trans (h.daily day)

theorem HasSpare.mono {project project' : ProjectRecord} {day : Instant}
    (h : HasSpare db project day) (hid : project'.id = project.id)
    (hpolicy : SamePolicy project project') (huse : UsesNoMore db db' project.id) :
    HasSpare db' project' day where
  inFlight := by
    rw [hid, hpolicy.maxInFlightRuns]
    exact huse.inFlight.trans_lt h.inFlight
  daily := by
    rw [hid, hpolicy.maxDailyRuns]
    exact (huse.daily day).trans_lt h.daily

/-- While no run is queued, runs only end. -/
theorem usesNoMore_of_follows
    (hruns : ∀ run' ∈ db'.runs, ∃ run ∈ db.runs, run.id = run'.id ∧ Follows run run')
    {projectId : UUID} : UsesNoMore db db' projectId where
  inFlight := by
    refine Table.count_le fun run' hrun' hcounted => ?_
    obtain ⟨run, hrun, hid, hfollow⟩ := hruns run' hrun'
    simp only [decide_eq_true_eq] at hcounted
    refine ⟨run, hrun, ?_, hid⟩
    simp only [decide_eq_true_eq]
    refine ⟨hfollow.projectId ▸ hcounted.1, ?_⟩
    -- a run that had ended would still be ended
    by_contra hended
    have hkept := (hfollow.ended (by simpa using hended)).1
    rw [hkept] at hcounted
    exact hended hcounted.2
  daily day := by
    refine Table.count_le fun run' hrun' hcounted => ?_
    obtain ⟨run, hrun, hid, hfollow⟩ := hruns run' hrun'
    simp only [decide_eq_true_eq] at hcounted
    refine ⟨run, hrun, ?_, hid⟩
    simp only [decide_eq_true_eq]
    exact ⟨hfollow.projectId ▸ hcounted.1, hfollow.createdAt ▸ hcounted.2⟩

/-- A project without runs keeps to any limits. -/
theorem WithinQuota.of_unused {project : ProjectRecord}
    (h : ∀ run ∈ db.runs, run.projectId ≠ project.id) : WithinQuota db project where
  inFlight := by
    have hzero : inFlightRuns db project.id = 0 := by
      refine Table.count_eq_zero.mpr fun run hrun hcounted => ?_
      simp only [decide_eq_true_eq] at hcounted
      exact h run hrun hcounted.1
    omega
  daily day := by
    have hzero : runsCreatedOn db project.id day = 0 := by
      refine Table.count_eq_zero.mpr fun run hrun hcounted => ?_
      simp only [decide_eq_true_eq] at hcounted
      exact h run hrun hcounted.1
    omega

/-! ### One more run -/

variable {plan : RunPlan} {runs : RunTable}

theorem inFlightRuns_insert (hinsert : db.runs.insert? (plan.run P) = some runs)
    (hruns : db'.runs = runs) (projectId : UUID) :
    inFlightRuns db' projectId =
      inFlightRuns db projectId + if plan.projectId = projectId then 1 else 0 := by
  rw [inFlightRuns, hruns, Table.count_insert? hinsert]
  simp [RunPlan.run, RunStatus.isTerminal, inFlightRuns]

theorem runsCreatedOn_insert (hinsert : db.runs.insert? (plan.run P) = some runs)
    (hruns : db'.runs = runs) (projectId : UUID) (day : Instant) :
    runsCreatedOn db' projectId day = runsCreatedOn db projectId day +
      if plan.projectId = projectId ∧
        dailyWindowStart plan.snapshot.createdAt = dailyWindowStart day then 1 else 0 := by
  rw [runsCreatedOn, hruns, Table.count_insert? hinsert, runsCreatedOn]
  by_cases hcounts : plan.projectId = projectId ∧
      dailyWindowStart plan.snapshot.createdAt = dailyWindowStart day
  · rw [if_pos hcounts]
    exact congrArg _ (if_pos (decide_eq_true hcounts))
  · rw [if_neg hcounts]
    exact congrArg _ (if_neg (mt of_decide_eq_true hcounts))

/-- The run of another project does not count. -/
theorem usesNoMore_insert (hinsert : db.runs.insert? (plan.run P) = some runs)
    (hruns : db'.runs = runs) {projectId : UUID} (hne : plan.projectId ≠ projectId) :
    UsesNoMore db db' projectId where
  inFlight := by
    rw [inFlightRuns_insert hinsert hruns, if_neg hne]
    omega
  daily day := by
    rw [runsCreatedOn_insert hinsert hruns, if_neg fun h => hne h.1]
    omega

/-- A run fits in where there is room for it. -/
theorem HasSpare.insert {project : ProjectRecord}
    (h : HasSpare db project plan.snapshot.createdAt) (hwithin : WithinQuota db project)
    (hinsert : db.runs.insert? (plan.run P) = some runs) (hruns : db'.runs = runs) :
    WithinQuota db' project where
  inFlight := by
    have hroom := h.inFlight
    rw [inFlightRuns_insert hinsert hruns]
    split <;> omega
  daily day := by
    rw [runsCreatedOn_insert hinsert hruns]
    split
    · rename_i hcounts
      have hroom := h.daily
      have hday : runsCreatedOn db project.id plan.snapshot.createdAt =
          runsCreatedOn db project.id day := by
        rw [runsCreatedOn, runsCreatedOn, hcounts.2]
      omega
    · have hday := hwithin.daily day
      omega

/-! ### What a plan has been checked for -/

theorem enforceExecutionPolicy_ok {checkedAt : Instant} {project : ProjectRecord}
    (h : enforceExecutionPolicy checkedAt project db = .ok ()) :
    inFlightRuns db project.id < project.maxInFlightRuns ∧
      runsCreatedToday db project.id checkedAt < project.maxDailyRuns := by
  simp only [enforceExecutionPolicy, bind_eq_ok, ensure_eq_ok] at h
  obtain ⟨-, hinFlight, hdaily⟩ := h
  exact ⟨hinFlight, hdaily⟩

/-- Both ways to compose a run end in the check of the quotas of the project they have read. -/
theorem compose_enforced {checkedAt now : Instant} {runId : UUID} {creation : Creation}
    (h : creation.compose P checkedAt now runId db = .ok plan) :
    ∃ project, db.projects.get? creation.request.projectId = some project ∧
      enforceExecutionPolicy checkedAt project db = .ok () := by
  rw [Creation.compose] at h
  split at h
  · rename_i payload statuses packageStatuses scheduleId scheduledFor hrequest
    simp only [planRun, bind_eq_ok, ensure_eq_ok, found_eq_ok] at h
    obtain ⟨project, hproject, -, -, -, -, -, -, -, -, -, -, -, -, -, -, -, -, -, -, -, -, -, -,
      -, -, -, -, -, -, -, -, _, hpolicy, -⟩ := h
    exact ⟨project, by rw [hrequest]; exact hproject, hpolicy⟩
  · rename_i source mode hrequest
    simp only [planRerun, bind_eq_ok, ensure_eq_ok, found_eq_ok] at h
    obtain ⟨project, hproject, -, -, -, -, -, -, -, -, -, -, -, -, -, -, _, hpolicy, -⟩ := h
    exact ⟨project, by rw [hrequest]; exact hproject, hpolicy⟩

/-- The rows of projects that sessions have read have the limits of the stored ones. -/
def CachedPolicies (s : Sessions) : Prop :=
  ∀ creation ∈ s.creations, ∀ row ∈ creation.loaded.project, ∃ project,
    s.core.db.projects.get? row.id = some project ∧ SamePolicy row project

/-- A plan leaves room for its run. -/
theorem compose_spare {checkedAt now : Instant} {runId : UUID} {creation : Creation}
    (hclock : checkedAt ≤ now)
    (hcached : ∀ row ∈ creation.loaded.project, ∃ project,
      db.projects.get? row.id = some project ∧ SamePolicy row project)
    (h : creation.compose P checkedAt now runId (creation.loaded.view db) = .ok plan) :
    ∀ project, db.projects.get? creation.request.projectId = some project →
      HasSpare db project now := by
  intro project hproject
  obtain ⟨read, hread, hpolicy⟩ := compose_enforced h
  obtain ⟨hinFlight, hdaily⟩ := enforceExecutionPolicy_ok hpolicy
  have hsame : read.id = project.id ∧ SamePolicy read project := by
    refine ⟨(Table.key_of_get? hread).trans (Table.key_of_get? hproject).symm, ?_⟩
    rw [LoadedRows.view, Table.get?_overlay, hproject, Option.map_some, Option.some_inj] at hread
    cases hloaded : creation.loaded.project with
    | none =>
      rw [hloaded] at hread
      exact hread ▸ .refl project
    | some row =>
      rw [hloaded] at hread
      simp only at hread
      split at hread
      · rename_i hid
        obtain ⟨stored, hstored, hpolicy⟩ := hcached row hloaded
        rw [hid, hproject] at hstored
        cases hstored
        exact hread ▸ hpolicy
      · exact hread ▸ .refl project
  obtain ⟨hid, hlimits⟩ := hsame
  have hruns : runsCreatedOn db project.id now ≤ runsCreatedToday db project.id checkedAt :=
    runsCreatedOn_le hclock
  rw [hid] at hinFlight hdaily
  refine ⟨?_, ?_⟩
  · rw [hlimits.maxInFlightRuns]
    exact hinFlight
  · rw [hlimits.maxDailyRuns]
    exact hruns.trans_lt hdaily

/-! ### The quotas as an invariant -/

/-- No write changes the limits of a project, and the clock of a session does not run back. -/
def PolicyFixed (s : Sessions) : SessionAction → Prop
  | .other (.configure configuration) =>
    ∀ project ∈ s.core.db.projects.rows, ∀ project' ∈ configuration.projects.rows,
      project'.id = project.id → SamePolicy project project'
  | .plan _ checkedAt now _ => checkedAt ≤ now
  | _ => True

instance {project project' : ProjectRecord} : Decidable (SamePolicy project project') :=
  decidable_of_iff (project'.maxInFlightRuns = project.maxInFlightRuns ∧
    project'.maxDailyRuns = project.maxDailyRuns) ⟨fun h => ⟨h.1, h.2⟩, fun h => ⟨h.1, h.2⟩⟩

instance (s : Sessions) (a : SessionAction) : Decidable (PolicyFixed s a) := by
  unfold PolicyFixed
  split <;> infer_instance

structure QuotaState (s : Sessions) : Prop where
  within : ∀ project ∈ s.core.db.projects, WithinQuota s.core.db project
  spare : ∀ creation ∈ s.creations, ∀ plan, creation.plan = some plan →
    ∀ project ∈ s.core.db.projects, project.id = plan.projectId →
      HasSpare s.core.db project plan.snapshot.createdAt
  cached : CachedPolicies s

theorem Action.allows_configured {a : Action} :
    a.allows .configured ↔ ∃ configuration, a = .configure configuration := by
  cases a <;> simp [Action.allows]

theorem projects_kept {effect : Effect} (hw : Write P effect db db')
    (heffect : effect ≠ .configured) : db'.projects = db.projects := by
  cases hw with
  | configured => exact absurd rfl heffect
  | _ => rfl

variable {a : SessionAction}

/-- Under a fixed policy projects stay, with their limits. -/
theorem projects_step (hguard : PolicyFixed s a) (h : sessionStep P s a = .ok s') :
    s.core.db.projects.Evolves SamePolicy s'.core.db.projects := by
  by_cases hconfigure : ∃ configuration, a = .other (.configure configuration)
  · obtain ⟨configuration, rfl⟩ := hconfigure
    simp only [sessionStep, step, Action.commit, configure, bind_eq_ok, ensure_eq_ok,
      pure_eq_ok] at h
    obtain ⟨-, -, core, ⟨db, ⟨-, ⟨hrows, -⟩, rfl⟩, rfl⟩, rfl⟩ := h
    intro project hproject
    obtain ⟨project', hproject'⟩ := Option.isSome_iff_exists.mp (hrows project hproject)
    obtain ⟨hmem', hid⟩ := Table.get?_eq_some.mp hproject'
    exact ⟨project', hmem', hid, hguard project hproject project' hmem' hid⟩
  · cases sessionStep_move h with
    | quiet hwrites =>
      refine hwrites.rel (r := fun db db' => db.projects.Evolves SamePolicy db'.projects)
        (fun _ => .refl .refl) (fun _ _ _ => .trans fun _ _ _ => .trans) ?_
      intro effect b c hallowed hw
      rw [projects_kept hw]
      · exact .refl .refl
      · rintro rfl
        cases a with
        | other action =>
          obtain ⟨configuration, rfl⟩ := Action.allows_configured.mp hallowed.2
          exact hconfigure ⟨configuration, rfl⟩
        | abandon => exact hallowed
        | _ => cases hallowed
    | begun => exact .refl .refl
    | planned => exact .refl .refl
    | created index now outboxId creation plan run core hcreation hplan hqueue =>
      obtain ⟨-, -, -, runs, runEvents, runCases, outbox, hdb, -⟩ := queueSnapshotRun_ok hqueue
      rw [hdb]
      exact .refl .refl

/-- A stored project had the same limits before, or it is new. -/
theorem project_before (hprojects : db.projects.Evolves SamePolicy db'.projects)
    {project' : ProjectRecord} (hproject' : project' ∈ db'.projects) :
    (∃ project ∈ db.projects, project'.id = project.id ∧ SamePolicy project project') ∨
      db.projects.get? project'.id = none := by
  cases hget : db.projects.get? project'.id with
  | none => exact .inr rfl
  | some project =>
    obtain ⟨hproject, hid⟩ := Table.get?_eq_some.mp hget
    obtain ⟨project'', hproject'', hid', hpolicy⟩ := hprojects project hproject
    obtain rfl := Table.eq_of_key_eq hproject'' hproject' (hid'.trans hid)
    exact .inl ⟨project, hproject, hid.symm, hpolicy⟩

/-- A project that is not stored has no runs. -/
theorem unused_of_unknown (hknown : DeliveryState db) {projectId : UUID}
    (h : db.projects.get? projectId = none) : ∀ run ∈ db.runs, run.projectId ≠ projectId := by
  rintro run hrun rfl
  have hsome := hknown.project run hrun
  rw [h] at hsome
  cases hsome

theorem CachedPolicies.step (hi : CachedPolicies s)
    (hprojects : s.core.db.projects.Evolves SamePolicy s'.core.db.projects)
    (hcreations : ∀ creation' ∈ s'.creations, (∃ creation ∈ s.creations,
      creation'.loaded = creation.loaded) ∨ Begun s'.core.db creation') : CachedPolicies s' := by
  intro creation' hcreation' row hrow
  rcases hcreations creation' hcreation' with ⟨creation, hcreation, hloaded⟩ | hbegun
  · rw [hloaded] at hrow
    obtain ⟨project, hproject, hpolicy⟩ := hi creation hcreation row hrow
    obtain ⟨project', hproject', hpolicy'⟩ := hprojects.get? hproject
    exact ⟨project', hproject', hpolicy.trans hpolicy'⟩
  · exact ⟨row, hbegun.project row hrow, .refl row⟩

/-- The project of a ready plan is stored. -/
theorem RunOrigin.project {plan : RunPlan} (h : RunOrigin P db plan) :
    (db.projects.get? plan.projectId).isSome := by
  cases h with
  | request now runId payload key actorId statuses baseline hplanned =>
    rw [hplanned.projectId]
    exact hplanned.project
  | rerun now runId source mode key actorId hsource hended hplanned =>
    rw [hplanned.projectId]
    exact hplanned.project

/-- While runs only end, the quotas are kept. -/
theorem QuotaState.quiet (hi : QuotaState s) (hk : SessionState P s)
    (hknown : DeliveryState s.core.db)
    (hprojects : s.core.db.projects.Evolves SamePolicy s'.core.db.projects)
    (huse : ∀ projectId, UsesNoMore s.core.db s'.core.db projectId)
    (hcreations : s'.creations.Sublist s.creations) : QuotaState s' where
  within := by
    intro project' hproject'
    rcases project_before hprojects hproject' with ⟨project, hproject, hid, hpolicy⟩ | hnew
    · exact (hi.within project hproject).mono hid hpolicy (huse project.id)
    · exact (WithinQuota.of_unused (unused_of_unknown hknown hnew)).mono rfl (.refl project')
        (huse project'.id)
  spare := by
    intro creation hcreation plan hplan project' hproject' hid'
    have hready := hk.ready creation (hcreations.subset hcreation) plan hplan
    rcases project_before hprojects hproject' with ⟨project, hproject, hid, hpolicy⟩ | hnew
    · exact (hi.spare creation (hcreations.subset hcreation) plan hplan project hproject
        (hid.symm.trans hid')).mono hid hpolicy (huse project.id)
    · have hsome := hready.origin.project
      rw [← hid', hnew] at hsome
      cases hsome
  cached := hi.cached.step hprojects fun creation hcreation =>
    .inl ⟨creation, hcreations.subset hcreation, rfl⟩

theorem UsesNoMore.refl {projectId : UUID} : UsesNoMore db db projectId :=
  ⟨le_refl _, fun _ => le_refl _⟩

theorem QuotaState.planned {index : Nat} {checkedAt now : Instant} {runId : UUID}
    {creation : Creation} {plan : RunPlan} (hi : QuotaState s) (hk : SessionState P s)
    (hclock : checkedAt ≤ now) (hcreation : s.creations[index]? = some creation)
    (hexisting : creation.existing P s.core.db = .ok none)
    (hplan : creation.compose P checkedAt now runId (creation.loaded.view s.core.db) = .ok plan) :
    QuotaState
      { s with creations := s.creations.set index { creation with plan := some plan } } := by
  have hmem : creation ∈ s.creations := List.mem_of_getElem? hcreation
  have hcases : ∀ other ∈ s.creations.set index { creation with plan := some plan },
      other ∈ s.creations ∨ other = { creation with plan := some plan } :=
    fun other => List.mem_or_eq_of_mem_set
  obtain ⟨hready, hcreatedAt⟩ := compose_ok (hk.holds creation hmem) hexisting hplan
  refine ⟨hi.within, fun other hother plan' hplan' project hproject hid => ?_, ?_⟩
  · rcases hcases other hother with hold | rfl
    · exact hi.spare other hold plan' hplan' project hproject hid
    · cases hplan'
      rw [hcreatedAt]
      refine compose_spare hclock (hi.cached creation hmem) hplan project ?_
      rw [← hready.projectId, ← hid]
      exact Table.get?_key hproject
  · refine hi.cached.step (.refl .refl) fun other hother => .inl ?_
    rcases hcases other hother with hold | rfl
    · exact ⟨other, hold, rfl⟩
    · exact ⟨creation, hmem, rfl⟩

theorem QuotaState.created {index : Nat} {now : Instant} {outboxId : UUID} {creation : Creation}
    {plan : RunPlan} {run : TestRunRecord} {core : State} (hi : QuotaState s)
    (hk : SessionState P s) (hcreation : s.creations[index]? = some creation)
    (hplan : creation.plan = some plan)
    (hqueue : queueSnapshotRun P now outboxId plan s.core.db = .ok (core.db, run, true)) :
    QuotaState ⟨core, s.creations.eraseIdx index⟩ := by
  have hmem : creation ∈ s.creations := List.mem_of_getElem? hcreation
  have hready := hk.ready creation hmem plan hplan
  obtain ⟨-, -, -, runs, runEvents, runCases, outbox, hdb, hinsert, -⟩ := queueSnapshotRun_ok hqueue
  have hruns : core.db.runs = runs := by rw [hdb]
  have hprojects : core.db.projects = s.core.db.projects := by rw [hdb]
  have hsub : ∀ other ∈ s.creations.eraseIdx index, other ∈ s.creations :=
    fun other hother => (List.eraseIdx_sublist _ _).subset hother
  have hothers : ∀ other ∈ s.creations.eraseIdx index, Separate creation other :=
    hk.separate hcreation
  refine ⟨fun project hproject => ?_, fun other hother plan' hplan' project hproject hid => ?_, ?_⟩
  · rw [hprojects] at hproject
    by_cases hid : project.id = plan.projectId
    · exact (hi.spare creation hmem plan hplan project hproject hid).insert
        (hi.within project hproject) hinsert hruns
    · exact (hi.within project hproject).mono rfl (.refl project)
        (usesNoMore_insert hinsert hruns (Ne.symm hid))
  · -- the sessions left plan for other projects
    rw [hprojects] at hproject
    have hready' := hk.ready other (hsub other hother) plan' hplan'
    have hne : plan.projectId ≠ project.id := by
      rw [hid, hready.projectId, hready'.projectId]
      exact hothers other hother (hplan ▸ rfl) (hplan' ▸ rfl)
    exact (hi.spare other (hsub other hother) plan' hplan' project hproject hid).mono rfl
      (.refl project) (usesNoMore_insert hinsert hruns hne)
  · refine hi.cached.step ?_ fun other hother => .inl ⟨other, hsub other hother, rfl⟩
    rw [hprojects]
    exact .refl .refl

theorem quotaState_step (hk : SessionState P s) (hknown : DeliveryState s.core.db)
    (hguard : PolicyFixed s a) (h : sessionStep P s a = .ok s') (hi : QuotaState s) :
    QuotaState s' := by
  have hprojects := projects_step hguard h
  cases sessionStep_move h with
  | quiet hwrites hcreations =>
    exact hi.quiet hk hknown hprojects (fun _ => usesNoMore_of_follows
      (runs_quiet (hwrites.mono fun _ => SessionAction.allows_quiet))) hcreations
  | begun call key actorId creation hbegun =>
    refine ⟨hi.within, fun other hother plan hplan => ?_, ?_⟩
    · rcases List.mem_append.mp hother with hold | hnew
      · exact hi.spare other hold plan hplan
      · rw [List.mem_singleton.mp hnew, hbegun.plan] at hplan
        cases hplan
    · refine hi.cached.step hprojects fun other hother => ?_
      rcases List.mem_append.mp hother with hold | hnew
      · exact .inl ⟨other, hold, rfl⟩
      · exact .inr (List.mem_singleton.mp hnew ▸ hbegun)
  | planned index checkedAt now runId creation plan hcreation hlock hexisting hplan =>
    exact hi.planned hk hguard hcreation hexisting hplan
  | created index now outboxId creation plan run core hcreation hplan hqueue =>
    exact hi.created hk hcreation hplan hqueue

theorem quotaState_reachable (h : ((sessions P).restrict PolicyFixed).Reachable s) :
    QuotaState s := by
  refine h.invariant_of (k := fun s => SessionState P s ∧ DeliveryState s.core.db) ?_ ?_ ?_
  · intro s hs
    have hs := hs.of_restrict
    refine ⟨sessionState_reachable hs, sessions_invariant ?_ (fun _ _ _ => deliveryState_write) hs⟩
    exact ⟨fun _ hmem => absurd hmem Table.not_mem_empty,
      fun _ hmem => absurd hmem Table.not_mem_empty⟩
  · rintro s rfl
    exact ⟨fun _ hmem => absurd hmem Table.not_mem_empty, fun _ hmem => absurd hmem List.not_mem_nil,
      fun _ hmem => absurd hmem List.not_mem_nil⟩
  · intro s a s' hstep hk _ hi
    exact quotaState_step hk.1 hk.2 hstep.1 hstep.2 hi

/-! ### Replays -/

/-- The request of the step is answered by a run that its key already has. -/
inductive Replays (P : Primitives) (s : Sessions) : SessionAction → Prop
  | begin (call : CreationCall) (key : String) (actorId : UUID) (db : Database)
      (creation : Creation) (run : TestRunRecord) :
      beginCreation call key actorId s.core.db = .ok (db, some creation) →
      creation.existing P db = .ok (some run) → Replays P s (.begin call key actorId)
  | plan (index : Nat) (checkedAt now : Instant) (runId : UUID) (creation : Creation)
      (run : TestRunRecord) : s.creations[index]? = some creation →
      creation.existing P s.core.db = .ok (some run) →
      Replays P s (.plan index checkedAt now runId)

theorem Replays.keeps_runs (hreplays : Replays P s a) (h : sessionStep P s a = .ok s') :
    s'.core.db.runs = s.core.db.runs := by
  cases hreplays with
  | begin call key actorId db creation run hbegin hexisting =>
    obtain rfl := (beginCreation_ok (P := P) hbegin).2.1 rfl
    rw [sessionStep, hbegin, ok_bind] at h
    simp only [hexisting, ok_bind, bind_eq_ok, pure_eq_ok] at h
    obtain ⟨core, hsettle, rfl⟩ := h
    exact (settleCreation_tables hsettle).runs
  | plan index checkedAt now runId creation run hcreation hexisting =>
    simp only [sessionStep, bind_eq_ok, found_eq_ok, ensure_eq_ok] at h
    obtain ⟨_, hsession, -, -, -, -, existing, hlookup, h⟩ := h
    obtain rfl := Option.some.inj (hcreation.symm.trans hsession)
    obtain rfl := Except.ok.inj (hexisting.symm.trans hlookup)
    simp only [bind_eq_ok, pure_eq_ok] at h
    obtain ⟨core, hsettle, rfl⟩ := h
    exact (settleCreation_tables hsettle).runs

/-- However requests interleave, a project never has more runs in flight, nor more runs of one day,
    than its limits allow, and an answer with a run that exists uses up neither. -/
theorem project_quotas (hs : ((sessions P).restrict PolicyFixed).Reachable s) :
    (∀ project ∈ s.core.db.projects,
      inFlightRuns s.core.db project.id ≤ project.maxInFlightRuns ∧
      ∀ day, runsCreatedOn s.core.db project.id day ≤ project.maxDailyRuns) ∧
    ∀ a s', Replays P s a → sessionStep P s a = .ok s' → ∀ projectId,
      inFlightRuns s'.core.db projectId = inFlightRuns s.core.db projectId ∧
      ∀ day, runsCreatedOn s'.core.db projectId day = runsCreatedOn s.core.db projectId day := by
  have hi := quotaState_reachable hs
  constructor
  · intro project hproject
    exact ⟨(hi.within project hproject).inFlight, (hi.within project hproject).daily⟩
  · intro a s' hreplays hstep projectId
    have hruns := hreplays.keeps_runs hstep
    constructor
    · rw [inFlightRuns, inFlightRuns, hruns]
    · intro day
      rw [runsCreatedOn, runsCreatedOn, hruns]

open Installation in
/-- One of the two requests of the race has queued run 20; the other one adds none. -/
theorem project_quotas_race : ∃ s, ((sessions primitives).restrict PolicyFixed).Reachable s ∧
    ∃ project ∈ s.core.db.projects, inFlightRuns s.core.db project.id = 1 ∧
      inFlightRuns s.core.db project.id ≤ project.maxInFlightRuns ∧
      ∃ s', sessionStep primitives s (.plan 0 1 1 21) = .ok s' ∧
        inFlightRuns s'.core.db project.id = 1 := by
  have hrun : Ends (guarded (sessionStep primitives) PolicyFixed noSession) Sessions.init race
      fun s => ∃ project, s.core.db.projects.get? 1 = some project ∧
        inFlightRuns s.core.db 1 = 1 ∧
        (∃ creation, s.creations[0]? = some creation ∧
          ∃ run, s.core.db.runs.get? 20 = some run ∧
            creation.existing primitives s.core.db = .ok (some run)) ∧
        Ends (sessionStep primitives) s [.plan 0 1 1 21] fun _ => True := by
    decide
  obtain ⟨s, hs, project, hproject, hinFlight, ⟨creation, hcreation, run, hrun, hexisting⟩,
    hends⟩ := hrun.exists_guarded
  obtain ⟨hmem, hid⟩ := Table.get?_eq_some.mp hproject
  obtain ⟨s', hstep, -⟩ := ends_singleton.mp hends
  obtain ⟨hlimits, hreplays⟩ := project_quotas hs
  obtain ⟨hkept, -⟩ := hreplays _ s' (.plan 0 1 1 21 creation run hcreation hexisting) hstep
    project.id
  refine ⟨s, hs, project, hmem, ?_, (hlimits project hmem).1, s', hstep, ?_⟩
  · rw [hid, hinFlight]
  · rw [hkept, hid, hinFlight]

end TestOps

import TestOps.ControlPlane.Creations
import TestOps.Invariants.Candidates
import TestOps.Invariants.Outbox

/-! What a session knows when it commits. Between two of its steps other sessions commit, so the plan of
    a session describes the database of an earlier moment. It stays a plan of the present database:
    rows are never deleted, documents and terminal runs never change, and while the session holds
    the project lock nobody else inserts a run of the project. -/

namespace TestOps

open Checked Relational Transition

variable {P : Primitives} {db db' : Database}

/-! ### Writes that queue no run -/

def Effect.quiet (effect : Effect) : Prop := ∀ plan, effect ≠ .runQueued plan

/-- No run comes in, and every run keeps what it was created with. -/
theorem runs_quiet (h : Writes P Effect.quiet db db') :
    ∀ run' ∈ db'.runs, ∃ run ∈ db.runs, run.id = run'.id ∧ Follows run run' := by
  refine h.rel (r := fun db db' => ∀ run' ∈ db'.runs, ∃ run ∈ db.runs, run.id = run'.id ∧
    Follows run run') (fun _ run hrun => ⟨run, hrun, rfl, .refl run⟩) ?_ ?_
  · intro a b c hab hbc run'' hrun''
    obtain ⟨run', hrun', hid', hfollow'⟩ := hbc run'' hrun''
    obtain ⟨run, hrun, hid, hfollow⟩ := hab run' hrun'
    exact ⟨run, hrun, hid.trans hid', hfollow.trans _ _ _ hfollow'⟩
  · intro effect a b hquiet hw run' hrun'
    rcases run_write hw hrun' with hold | ⟨plan, rfl, -⟩
    · exact hold
    · exact absurd rfl (hquiet plan)

/-! ### Plans of an earlier database -/

theorem projects_write {effect : Effect} (hw : Write P effect db db') {projectId : UUID}
    (h : (db.projects.get? projectId).isSome) : (db'.projects.get? projectId).isSome := by
  cases hw with
  | configured configuration hprojects =>
    obtain ⟨row, hrow⟩ := Option.isSome_iff_exists.mp h
    exact Table.key_of_get? hrow ▸ hprojects row (Table.mem_of_get? hrow)
  | _ => exact h

/-- A plan from a request stays one: the project and the baseline are still there. -/
theorem Planned.persists {now : Instant} {runId : UUID} {payload : RunCreate} {key : String}
    {actorId : UUID} {statuses : List BaselineStatus} {plan : RunPlan}
    {baseline : CaseBaselineRecord}
    (h : Planned P now runId payload key actorId statuses db plan baseline)
    (hproject : (db'.projects.get? payload.projectId).isSome) {baseline' : CaseBaselineRecord}
    (hbaseline : db'.baselines.get? payload.baselineId = some baseline')
    (hsame : SameDocument baseline baseline') :
    Planned P now runId payload key actorId statuses db' plan baseline' := by
  exact {
    project := hproject
    stored := hbaseline
    baselineProject := hsame.projectId.trans h.baselineProject
    cases := by rw [hsame.document]; exact h.cases
    runId := h.runId
    createdAt := h.createdAt
    valid := h.valid
    projectId := h.projectId
    targetId := h.targetId
    automationPackageId := h.automationPackageId
    baselineId := by rw [hsame.document]; exact h.baselineId
    idempotencyKey := h.idempotencyKey
    requestHash := h.requestHash
    actorId := h.actorId
    sourceRunId := h.sourceRunId }

/-- A plan from a terminal run stays one: the run has kept its snapshot and its result. -/
theorem Replanned.persists {now : Instant} {runId : UUID} {source source' : TestRunRecord}
    {mode : RetryMode} {key : String} {actorId : UUID} {plan : RunPlan}
    (h : Replanned P now runId source mode key actorId db plan)
    (hproject : (db'.projects.get? source.projectId).isSome) (hid : source'.id = source.id)
    (hfollow : Follows source source') (hended : source.status.isTerminal = true) :
    Replanned P now runId source' mode key actorId db' plan := by
  have hdocument := (hfollow.ended hended).2.2
  have hcases : rerunCases source' mode = rerunCases source mode := by
    cases mode with
    | full => simp only [rerunCases, hfollow.snapshot]
    | failedOnly => simp only [rerunCases, hfollow.snapshot, hdocument]
  exact {
    project := by rw [hfollow.projectId]; exact hproject
    valid := hfollow.snapshot ▸ h.valid
    cases := hcases.trans h.cases
    snapshot := hfollow.snapshot ▸ h.snapshot
    projectId := h.projectId.trans hfollow.projectId.symm
    targetId := h.targetId.trans hfollow.targetId.symm
    automationPackageId := h.automationPackageId.trans hfollow.automationPackageId.symm
    baselineId := h.baselineId.trans hfollow.baselineId.symm
    idempotencyKey := h.idempotencyKey
    requestHash := by rw [hid]; exact h.requestHash
    actorId := h.actorId
    sourceRunId := by rw [hid]; exact h.sourceRunId
    retryMode := h.retryMode }

theorem runOrigin_write {effect : Effect} {plan : RunPlan} (hw : Write P effect db db')
    (h : RunOrigin P db plan) : RunOrigin P db' plan := by
  cases h with
  | request now runId payload key actorId statuses baseline hplanned =>
    obtain ⟨baseline', hbaseline', hsame⟩ := (baselines_write hw).get? hplanned.stored
    exact .request now runId payload key actorId statuses baseline'
      (hplanned.persists (projects_write hw hplanned.project) hbaseline' hsame)
  | rerun now runId source mode key actorId hsource hended hreplanned =>
    obtain ⟨source', hsource', hid, hfollow⟩ := follows_write hw source hsource
    have hended' := (hfollow.ended hended).1
    exact .rerun now runId source' mode key actorId hsource' (hended' ▸ hended)
      (hreplanned.persists (projects_write hw hreplanned.project) hid hfollow hended)

/-! ### What a session holds -/

/-- The rows a session has loaded are still there, and the documents in them are still the same. -/
structure Holds (db : Database) (creation : Creation) : Prop where
  baseline : ∀ row ∈ creation.loaded.baseline, ∃ row',
    db.baselines.get? row.baselineId = some row' ∧ SameDocument row row'
  source : ∀ source mode, creation.request = .rerun source mode →
    source.status.isTerminal = true ∧ ∃ run ∈ db.runs, run.id = source.id ∧ Follows source run

theorem Holds.write {effect : Effect} {creation : Creation} (hw : Write P effect db db')
    (h : Holds db creation) : Holds db' creation where
  baseline := by
    intro row hrow
    obtain ⟨row', hrow', hsame⟩ := h.baseline row hrow
    obtain ⟨row'', hrow'', hsame'⟩ := (baselines_write hw).get? hrow'
    exact ⟨row'', hrow'', hsame.trans _ _ _ hsame'⟩
  source := by
    intro source mode hrequest
    obtain ⟨hended, run, hrun, hid, hfollow⟩ := h.source source mode hrequest
    obtain ⟨run', hrun', hid', hfollow'⟩ := follows_write hw run hrun
    exact ⟨hended, run', hrun', hid'.trans hid, hfollow.trans _ _ _ hfollow'⟩

/-- The baseline a session reads has the document that is stored. -/
theorem Holds.stored {creation : Creation} {baselineId : UUID} {baseline : CaseBaselineRecord}
    (h : Holds db creation)
    (hread : (creation.loaded.view db).baselines.get? baselineId = some baseline) :
    ∃ baseline', db.baselines.get? baselineId = some baseline' ∧
      SameDocument baseline baseline' := by
  rw [LoadedRows.view, Table.get?_overlay] at hread
  obtain ⟨row, hrow, hread⟩ := Option.map_eq_some_iff.mp hread
  cases hloaded : creation.loaded.baseline with
  | none =>
    simp only [hloaded] at hread
    exact ⟨row, hrow, hread ▸ .refl row⟩
  | some copy =>
    simp only [hloaded] at hread
    split at hread
    · rename_i hid
      obtain ⟨row', hrow', hsame⟩ := h.baseline copy hloaded
      exact ⟨row', hid ▸ hrow', hread ▸ hsame⟩
    · exact ⟨row, hrow, hread ▸ .refl row⟩

/-- The plan of a session is one of the present database, and its key is free. -/
structure PlanReady (P : Primitives) (db : Database) (creation : Creation) (plan : RunPlan) :
    Prop where
  origin : RunOrigin P db plan
  projectId : plan.projectId = creation.request.projectId
  idempotencyKey : plan.idempotencyKey = creation.idempotencyKey
  requestHash : plan.requestHash = P.canonicalSha256 creation.request.document
  free : runByIdempotencyKey db plan.projectId plan.idempotencyKey = none

/-- What a session composes from the rows it reads is a plan of the database. -/
theorem compose_ok {checkedAt now : Instant} {runId : UUID} {creation : Creation}
    {plan : RunPlan} (hholds : Holds db creation)
    (hfree : creation.existing P db = .ok none)
    (h : creation.compose P checkedAt now runId (creation.loaded.view db) = .ok plan) :
    PlanReady P db creation plan ∧ plan.snapshot.createdAt = now := by
  have hproject : ∀ projectId, ((creation.loaded.view db).projects.get? projectId).isSome →
      (db.projects.get? projectId).isSome := by
    intro projectId hsome
    rwa [LoadedRows.view, Table.get?_overlay, Option.isSome_map] at hsome
  rw [Creation.existing, existingIdempotentRun_eq_ok] at hfree
  have hnone := hfree.2
  rw [Creation.compose] at h
  split at h
  · rename_i payload statuses packageStatuses scheduleId scheduledFor hrequest
    obtain ⟨baseline, hplanned⟩ := planRun_ok h
    obtain ⟨baseline', hbaseline', hsame⟩ := hholds.stored hplanned.stored
    have hplanned' := hplanned.persists (hproject _ hplanned.project) hbaseline' hsame
    have hprojectId : plan.projectId = creation.request.projectId := by
      rw [hplanned.projectId, hrequest]
      rfl
    refine ⟨⟨.request _ _ _ _ _ _ _ hplanned', hprojectId, hplanned.idempotencyKey, ?_, ?_⟩,
      hplanned.createdAt⟩
    · rw [hplanned.requestHash, hrequest]
      rfl
    · rw [hprojectId, hplanned.idempotencyKey, hnone]
  · rename_i source mode hrequest
    have hreplanned := planRerun_ok h
    obtain ⟨hended, run, hrun, hid, hfollow⟩ := hholds.source source mode hrequest
    have hreplanned' := hreplanned.persists (hproject _ hreplanned.project) hid hfollow hended
    have hprojectId : plan.projectId = creation.request.projectId := by
      rw [hreplanned.projectId, hrequest]
      rfl
    have hstatus := (hfollow.ended hended).1
    refine ⟨⟨.rerun _ _ _ _ _ _ hrun (hstatus ▸ hended) hreplanned', hprojectId,
      hreplanned.idempotencyKey, ?_, ?_⟩, ?_⟩
    · rw [hreplanned.requestHash, hrequest]
      rfl
    · rw [hprojectId, hreplanned.idempotencyKey, hnone]
    · rw [hreplanned.snapshot]

/-! ### What a step does -/

/-- A session that has just begun has loaded its rows from the database. -/
structure Begun (db : Database) (creation : Creation) : Prop where
  plan : creation.plan = none
  project : ∀ row ∈ creation.loaded.project, db.projects.get? row.id = some row
  baseline : ∀ row ∈ creation.loaded.baseline, db.baselines.get? row.baselineId = some row
  package : ∀ row ∈ creation.loaded.package, db.packages.get? row.id = some row
  source : ∀ source mode, creation.request = .rerun source mode →
    source.status.isTerminal = true ∧ source ∈ db.runs

theorem Begun.holds {creation : Creation} (h : Begun db creation) : Holds db creation where
  baseline row hrow := ⟨row, h.baseline row hrow, .refl row⟩
  source source mode hrequest :=
    ⟨(h.source source mode hrequest).1, source, (h.source source mode hrequest).2, rfl,
      .refl source⟩

/-- A session that loads nothing before it composes a run from a request. -/
theorem begun_nothing {payload : RunCreate} {baselineStatuses : List BaselineStatus}
    {packageStatuses : List PackageStatus} {scheduleId : Option UUID}
    {scheduledFor : Option Instant} {key : String} {actorId : UUID}
    {validates : Option ChangeRequestRecord} :
    Begun db ⟨.run payload baselineStatuses packageStatuses scheduleId scheduledFor, key, actorId,
      .nothing, validates, none⟩ where
  plan := rfl
  project _ hrow := by cases hrow
  baseline _ hrow := by cases hrow
  package _ hrow := by cases hrow
  source _ _ hrequest := by cases hrequest

/-- The effects of a session that needs no run of its own: its change request is settled. -/
def Effect.settles : Effect → Bool
  | .validationSkipped _ | .validationLinked _ _ => true
  | _ => false

/-- A command begins without a change and with what it has loaded, or it needs no run. -/
theorem beginCreation_ok {call : CreationCall} {key : String} {actorId : UUID}
    {creation : Option Creation} (h : beginCreation call key actorId db = .ok (db', creation)) :
    Writes P (Effect.settles · = true) db db' ∧ (creation.isSome → db' = db) ∧
      ∀ session ∈ creation, Begun db session ∧ session.idempotencyKey = key := by
  cases call with
  | createRun payload =>
    simp only [beginCreation, pure_eq_ok, Prod.mk.injEq] at h
    obtain ⟨rfl, rfl⟩ := h
    refine ⟨.refl db, fun _ => rfl, fun session hsession => ?_⟩
    cases hsession
    exact ⟨begun_nothing, rfl⟩
  | createAutomationPackageValidationRun projectId targetId packageId environmentId baselineId =>
    simp only [beginCreation, bind_eq_ok, found_eq_ok, ensure_eq_ok, pure_eq_ok,
      Prod.mk.injEq] at h
    obtain ⟨package, hpackage, -, -, -, -, -, -, rfl, rfl⟩ := h
    refine ⟨.refl db, fun _ => rfl, fun session hsession => ?_⟩
    cases hsession
    constructor
    · constructor
      case plan => rfl
      case package =>
        intro row hrow
        cases hrow
        exact Table.get?_key (Table.mem_of_get? hpackage)
      case source =>
        intro source mode hrequest
        cases hrequest
      all_goals intro row hrow; cases hrow
    · rfl
  | createRerun sourceRunId mode =>
    simp only [beginCreation, bind_eq_ok, getRun_eq_ok, ensure_eq_ok, pure_eq_ok,
      Prod.mk.injEq] at h
    obtain ⟨source, hsource, -, hended, rfl, rfl⟩ := h
    refine ⟨.refl db, fun _ => rfl, fun session hsession => ?_⟩
    cases hsession
    constructor
    · constructor
      case plan => rfl
      case source =>
        intro source' mode' hrequest
        cases hrequest
        exact ⟨hended, Table.mem_of_get? hsource⟩
      all_goals intro row hrow; cases hrow
    · rfl
  | createCandidateRun projectId requestId payload =>
    simp only [beginCreation, bind_eq_ok, getChangeRequest_eq_ok, ensure_eq_ok, pure_eq_ok,
      Prod.mk.injEq] at h
    obtain ⟨record, -, -, -, rfl, rfl⟩ := h
    refine ⟨.refl db, fun _ => rfl, fun session hsession => ?_⟩
    cases hsession
    exact ⟨begun_nothing, rfl⟩
  | createValidationRun projectId requestId payload =>
    simp only [beginCreation, bind_eq_ok, getChangeRequest_eq_ok, ensure_eq_ok] at h
    obtain ⟨record, ⟨hrecord, -⟩, -, heditable, h⟩ := h
    split at h
    · rename_i hcodes
      simp only [pure_eq_ok, Prod.mk.injEq] at h
      obtain ⟨rfl, rfl⟩ := h
      refine ⟨.single rfl (.validationSkipped requestId record hrecord heditable hcodes),
        fun hsome => ?_, fun _ hsession => ?_⟩
      · cases hsome
      · cases hsession
    · simp only [bind_eq_ok] at h
      obtain ⟨current, -, h⟩ := h
      cases current with
      | some run =>
        simp only [pure_eq_ok, Prod.mk.injEq] at h
        obtain ⟨rfl, rfl⟩ := h
        refine ⟨.refl db, fun _ => rfl, fun _ hsession => ?_⟩
        cases hsession
      | none =>
        simp only [pure_eq_ok, Prod.mk.injEq] at h
        obtain ⟨rfl, rfl⟩ := h
        refine ⟨.refl db, fun _ => rfl, fun session hsession => ?_⟩
        cases hsession
        exact ⟨begun_nothing, rfl⟩
  | schedule scheduleId scheduledFor payload =>
    simp only [beginCreation, pure_eq_ok, Prod.mk.injEq] at h
    obtain ⟨rfl, rfl⟩ := h
    refine ⟨.refl db, fun _ => rfl, fun session hsession => ?_⟩
    cases hsession
    constructor
    · constructor
      case plan => rfl
      case source =>
        intro source mode hrequest
        cases hrequest
      all_goals exact fun row hrow => Table.get?_key (Table.mem_of_get? hrow)
    · rfl

theorem settleCreation_ok {creation : Creation} {runId : UUID} {created : Bool} {s s' : State}
    (h : settleCreation creation runId created s = .ok s') :
    Writes P (Effect.settles · = true) s.db s'.db ∧ (created = true → s'.db = s.db) := by
  rw [settleCreation] at h
  split at h
  · simp only [pure_eq_ok] at h
    exact h ▸ ⟨.refl s.db, fun _ => rfl⟩
  · split at h
    · simp only [pure_eq_ok] at h
      exact h ▸ ⟨.refl s.db, fun _ => rfl⟩
    · rename_i hreplayed
      simp only [bind_eq_ok, pure_eq_ok] at h
      obtain ⟨db, hlink, rfl⟩ := h
      exact ⟨.single rfl (linkValidationRun_ok hlink),
        fun hcreated => absurd hcreated hreplayed⟩

/-- The labels the writes of a step may carry when it queues no run. -/
def SessionAction.allows : SessionAction → Effect → Prop
  | .other action, e => action.creates = false ∧ action.allows e
  | .begin .., e | .plan .., e | .commit .., e => e.settles = true
  | .abandon _, _ => False

theorem SessionAction.allows_quiet {a : SessionAction} {e : Effect} (h : a.allows e) :
    e.quiet := by
  rintro plan rfl
  cases a with
  | other action => cases action <;> simp_all [SessionAction.allows, Action.creates, Action.allows]
  | abandon => exact h
  | _ => cases h

/-- The steps of the sessions: those that queue no run and compose none, the composition of a plan
    under the project lock, and the insertion of its run. -/
inductive SessionMove (P : Primitives) (s : Sessions) : SessionAction → Sessions → Prop
  | quiet {a : SessionAction} {s' : Sessions} : Writes P a.allows s.core.db s'.core.db →
      s'.creations.Sublist s.creations → SessionMove P s a s'
  | begun (call : CreationCall) (key : String) (actorId : UUID) (creation : Creation) :
      Begun s.core.db creation → creation.existing P s.core.db = .ok none →
      beginCreation call key actorId s.core.db = .ok (s.core.db, some creation) →
      SessionMove P s (.begin call key actorId)
        { s with creations := s.creations ++ [creation] }
  | planned (index : Nat) (checkedAt now : Instant) (runId : UUID) (creation : Creation)
      (plan : RunPlan) : s.creations[index]? = some creation →
      ProjectFree s.creations creation.request.projectId →
      creation.existing P s.core.db = .ok none →
      creation.compose P checkedAt now runId (creation.loaded.view s.core.db) = .ok plan →
      SessionMove P s (.plan index checkedAt now runId)
        { s with creations := s.creations.set index { creation with plan := some plan } }
  | created (index : Nat) (now : Instant) (outboxId : UUID) (creation : Creation)
      (plan : RunPlan) (run : TestRunRecord) (core : State) :
      s.creations[index]? = some creation → creation.plan = some plan →
      queueSnapshotRun P now outboxId plan s.core.db = .ok (core.db, run, true) →
      SessionMove P s (.commit index now outboxId) ⟨core, s.creations.eraseIdx index⟩

theorem sessionStep_move {s s' : Sessions} {a : SessionAction} (h : sessionStep P s a = .ok s') :
    SessionMove P s a s' := by
  cases a with
  | other action =>
    simp only [sessionStep, bind_eq_ok, ensure_eq_ok, pure_eq_ok] at h
    obtain ⟨-, hcreates, core, hcore, rfl⟩ := h
    exact .quiet ((step_writes hcore).mono fun _ hallowed => ⟨hcreates, hallowed⟩) (.refl _)
  | begin call key actorId =>
    simp only [sessionStep, bind_eq_ok, Prod.exists] at h
    obtain ⟨db, creation, hbegin, h⟩ := h
    obtain ⟨hwrites, hsame, hbegun⟩ := beginCreation_ok (P := P) hbegin
    cases creation with
    | none =>
      simp only [pure_eq_ok] at h
      subst h
      exact .quiet hwrites (.refl _)
    | some creation =>
      obtain rfl := hsame rfl
      simp only [bind_eq_ok] at h
      obtain ⟨existing, hexisting, h⟩ := h
      cases existing with
      | some run =>
        simp only [bind_eq_ok, pure_eq_ok] at h
        obtain ⟨core, hsettle, rfl⟩ := h
        exact .quiet (settleCreation_ok hsettle).1 (.refl _)
      | none =>
        simp only [pure_eq_ok] at h
        subst h
        exact .begun call key actorId creation (hbegun creation rfl).1 hexisting hbegin
  | plan index checkedAt now runId =>
    simp only [sessionStep, bind_eq_ok, found_eq_ok, ensure_eq_ok] at h
    obtain ⟨creation, hcreation, -, -, -, hfree, existing, hexisting, h⟩ := h
    cases existing with
    | some run =>
      simp only [bind_eq_ok, pure_eq_ok] at h
      obtain ⟨core, hsettle, rfl⟩ := h
      exact .quiet (settleCreation_ok hsettle).1 (List.eraseIdx_sublist _ _)
    | none =>
      simp only [bind_eq_ok, pure_eq_ok] at h
      obtain ⟨plan, hplan, rfl⟩ := h
      exact .planned index checkedAt now runId creation plan hcreation hfree hexisting hplan
  | commit index now outboxId =>
    simp only [sessionStep, bind_eq_ok, found_eq_ok, pure_eq_ok, Prod.exists] at h
    obtain ⟨creation, hcreation, plan, hplan, db, run, created, hcommit, core, hsettle, rfl⟩ := h
    rw [commitCreation] at hcommit
    split at hcommit
    · rename_i queued hqueue
      simp only [pure_eq_ok] at hcommit
      subst hcommit
      obtain ⟨rfl, -⟩ := queueSnapshotRun_ok hqueue
      have hsame := (settleCreation_ok (P := P) hsettle).2 rfl
      simp only at hsame
      exact .created index now outboxId creation plan run core hcreation hplan (hsame ▸ hqueue)
    · simp only [bind_eq_ok, found_eq_ok, pure_eq_ok, Prod.mk.injEq] at hcommit
      obtain ⟨raced, -, _, -, rfl, rfl, rfl⟩ := hcommit
      exact .quiet (settleCreation_ok hsettle).1 (List.eraseIdx_sublist _ _)
  | abandon index =>
    simp only [sessionStep, bind_eq_ok, found_eq_ok, pure_eq_ok] at h
    obtain ⟨-, -, rfl⟩ := h
    exact .quiet (.refl _) (List.eraseIdx_sublist _ _)

/-! ### The invariant of the sessions -/

/-- Two sessions do not both hold the lock of one project. -/
def Separate (a b : Creation) : Prop :=
  a.plan.isSome = true → b.plan.isSome = true → a.request.projectId ≠ b.request.projectId

theorem Separate.symm {a b : Creation} (h : Separate a b) : Separate b a :=
  fun hb ha heq => h ha hb heq.symm

/-- No two runs of a project have the same idempotency key. -/
def KeysDistinct (runs : RunTable) : Prop :=
  ∀ run ∈ runs, ∀ run' ∈ runs, run.projectId = run'.projectId →
    run.idempotencyKey = run'.idempotencyKey → run = run'

theorem runByIdempotencyKey_eq_none {projectId : UUID} {key : String} :
    runByIdempotencyKey db projectId key = none ↔
      ∀ run ∈ db.runs, run.projectId = projectId → run.idempotencyKey ≠ key := by
  rw [runByIdempotencyKey, Table.first?_eq_none]
  simp only [decide_eq_true_eq, not_and]

/-- The run of a key is the one a lookup finds. -/
theorem KeysDistinct.lookup (h : KeysDistinct db.runs) {run : TestRunRecord}
    (hrun : run ∈ db.runs) :
    runByIdempotencyKey db run.projectId run.idempotencyKey = some run := by
  refine Table.first?_eq_some_of_unique hrun (by simp) fun run' hrun' hmatch => ?_
  simp only [decide_eq_true_eq] at hmatch
  exact h run' hrun' run hrun hmatch.1 hmatch.2

theorem KeysDistinct.quiet (h : KeysDistinct db.runs)
    (hruns : ∀ run' ∈ db'.runs, ∃ run ∈ db.runs, run.id = run'.id ∧ Follows run run') :
    KeysDistinct db'.runs := by
  intro run₁' hrun₁' run₂' hrun₂' hproject hkey
  obtain ⟨run₁, hrun₁, hid₁, hfollow₁⟩ := hruns run₁' hrun₁'
  obtain ⟨run₂, hrun₂, hid₂, hfollow₂⟩ := hruns run₂' hrun₂'
  have hsame : run₁ = run₂ := by
    refine h run₁ hrun₁ run₂ hrun₂ ?_ ?_
    · rw [← hfollow₁.projectId, ← hfollow₂.projectId, hproject]
    · rw [← hfollow₁.idempotencyKey, ← hfollow₂.idempotencyKey, hkey]
  refine Table.eq_of_key_eq hrun₁' hrun₂' ?_
  rw [← hid₁, ← hid₂, hsame]

/-- A run comes in under a free key. -/
theorem KeysDistinct.insert {plan : RunPlan} {runs : RunTable} (h : KeysDistinct db.runs)
    (hfree : runByIdempotencyKey db plan.projectId plan.idempotencyKey = none)
    (hinsert : db.runs.insert? (plan.run P) = some runs) : KeysDistinct runs := by
  have hnew := runByIdempotencyKey_eq_none.mp hfree
  intro run hrun run' hrun' hproject hkey
  rcases (Table.mem_insert? hinsert).mp hrun with hold | rfl
  · rcases (Table.mem_insert? hinsert).mp hrun' with hold' | rfl
    · exact h run hold run' hold' hproject hkey
    · exact absurd hkey (hnew run hold hproject)
  · rcases (Table.mem_insert? hinsert).mp hrun' with hold' | rfl
    · exact absurd hkey.symm (hnew run' hold' hproject.symm)
    · rfl

/-- What holds of the sessions between any two of their steps. -/
structure SessionState (P : Primitives) (s : Sessions) : Prop where
  outbox : OutboxState s.core.db.runs s.core.db.outbox
  keys : KeysDistinct s.core.db.runs
  holds : ∀ creation ∈ s.creations, Holds s.core.db creation
  ready : ∀ creation ∈ s.creations, ∀ plan, creation.plan = some plan →
    PlanReady P s.core.db creation plan
  locks : s.creations.Pairwise Separate

theorem PlanReady.keep {creation : Creation} {plan : RunPlan} (h : PlanReady P db creation plan)
    (horigin : RunOrigin P db' plan)
    (hfree : runByIdempotencyKey db' plan.projectId plan.idempotencyKey = none) :
    PlanReady P db' creation plan :=
  ⟨horigin, h.projectId, h.idempotencyKey, h.requestHash, hfree⟩

theorem Writes.origin {permits : Effect → Prop} {plan : RunPlan}
    (hwrites : Writes P permits db db') (h : RunOrigin P db plan) : RunOrigin P db' plan :=
  hwrites.invariant (p := fun db => RunOrigin P db plan) (fun _ _ _ _ => runOrigin_write) h

theorem Writes.holds {permits : Effect → Prop} {creation : Creation}
    (hwrites : Writes P permits db db') (h : Holds db creation) : Holds db' creation :=
  hwrites.invariant (p := fun db => Holds db creation) (fun _ _ _ _ => Holds.write) h

/-- While no run is queued, every session stays as ready as it was. -/
theorem SessionState.quiet {s s' : Sessions} (hi : SessionState P s)
    (hwrites : Writes P Effect.quiet s.core.db s'.core.db)
    (hcreations : s'.creations.Sublist s.creations) : SessionState P s' where
  outbox := hwrites.invariant (p := fun db => OutboxState db.runs db.outbox)
    (fun _ _ _ _ => outboxState_write) hi.outbox
  keys := hi.keys.quiet (runs_quiet hwrites)
  holds creation hcreation := hwrites.holds (hi.holds creation (hcreations.subset hcreation))
  ready := by
    intro creation hcreation plan hplan
    have hready := hi.ready creation (hcreations.subset hcreation) plan hplan
    refine hready.keep (hwrites.origin hready.origin) ?_
    have hfree := runByIdempotencyKey_eq_none.mp hready.free
    refine runByIdempotencyKey_eq_none.mpr fun run' hrun' hproject hkey => ?_
    obtain ⟨run, hrun, -, hfollow⟩ := runs_quiet hwrites run' hrun'
    exact hfree run hrun (hfollow.projectId ▸ hproject) (hfollow.idempotencyKey ▸ hkey)
  locks := hi.locks.sublist hcreations

theorem SessionState.begun {s : Sessions} {creation : Creation} (hi : SessionState P s)
    (hbegun : Begun s.core.db creation) :
    SessionState P { s with creations := s.creations ++ [creation] } where
  outbox := hi.outbox
  keys := hi.keys
  holds := by
    intro other hother
    rcases List.mem_append.mp hother with hold | hnew
    · exact hi.holds other hold
    · rw [List.mem_singleton.mp hnew]
      exact hbegun.holds
  ready := by
    intro other hother plan hplan
    rcases List.mem_append.mp hother with hold | hnew
    · exact hi.ready other hold plan hplan
    · rw [List.mem_singleton.mp hnew, hbegun.plan] at hplan
      cases hplan
  locks := by
    refine List.pairwise_append.mpr ⟨hi.locks, List.pairwise_singleton _ _, ?_⟩
    intro a _ b hb _ hplan
    rw [List.mem_singleton.mp hb, hbegun.plan] at hplan
    cases hplan

/-- The sessions, with the one at `index` in front. -/
theorem creations_perm {creations : List Creation} {index : Nat} {creation : Creation}
    (h : creations[index]? = some creation) :
    creations.Perm (creation :: creations.eraseIdx index) ∧
      ∀ updated, (creations.set index updated).Perm (updated :: creations.eraseIdx index) := by
  obtain ⟨hindex, rfl⟩ := List.getElem?_eq_some_iff.mp h
  exact ⟨(List.getElem_cons_eraseIdx_perm hindex).symm, List.set_perm_cons_eraseIdx hindex⟩

theorem SessionState.planned {s : Sessions} {index : Nat} {checkedAt now : Instant}
    {runId : UUID} {creation : Creation} {plan : RunPlan} (hi : SessionState P s)
    (hcreation : s.creations[index]? = some creation)
    (hlock : ProjectFree s.creations creation.request.projectId)
    (hexisting : creation.existing P s.core.db = .ok none)
    (hplan : creation.compose P checkedAt now runId (creation.loaded.view s.core.db) = .ok plan) :
    SessionState P
      { s with creations := s.creations.set index { creation with plan := some plan } } := by
  obtain ⟨hperm, hset⟩ := creations_perm hcreation
  have hset := hset { creation with plan := some plan }
  have hmem : creation ∈ s.creations := List.mem_of_getElem? hcreation
  have hholds : Holds s.core.db { creation with plan := some plan } :=
    ⟨(hi.holds creation hmem).baseline, (hi.holds creation hmem).source⟩
  have hready : PlanReady P s.core.db { creation with plan := some plan } plan := by
    have hcomposed := (compose_ok (hi.holds creation hmem) hexisting hplan).1
    exact ⟨hcomposed.origin, hcomposed.projectId, hcomposed.idempotencyKey,
      hcomposed.requestHash, hcomposed.free⟩
  have hcases : ∀ other ∈ s.creations.set index { creation with plan := some plan },
      other = { creation with plan := some plan } ∨ other ∈ s.creations := by
    intro other hother
    rcases List.mem_cons.mp (hset.mem_iff.mp hother) with rfl | hold
    · exact .inl rfl
    · exact .inr ((List.eraseIdx_sublist _ _).subset hold)
  refine ⟨hi.outbox, hi.keys, fun other hother => ?_, fun other hother plan' hplan' => ?_, ?_⟩
  · rcases hcases other hother with rfl | hold
    · exact hholds
    · exact hi.holds other hold
  · rcases hcases other hother with rfl | hold
    · cases hplan'
      exact hready
    · exact hi.ready other hold plan' hplan'
  · refine (hset.pairwise_iff Separate.symm).mpr (List.pairwise_cons.mpr ⟨?_, ?_⟩)
    · intro other hother _ hother' heq
      exact hlock other ((List.eraseIdx_sublist _ _).subset hother) hother' heq.symm
    · exact hi.locks.sublist (List.eraseIdx_sublist _ _)

/-- The session at `index` holds its lock alone. -/
theorem SessionState.separate {s : Sessions} {index : Nat} {creation : Creation}
    (hi : SessionState P s) (hcreation : s.creations[index]? = some creation) :
    ∀ other ∈ s.creations.eraseIdx index, Separate creation other := by
  have hpairwise := ((creations_perm hcreation).1.pairwise_iff Separate.symm).mp hi.locks
  exact (List.pairwise_cons.mp hpairwise).1

theorem SessionState.created {s : Sessions} {index : Nat} {now : Instant} {outboxId : UUID}
    {creation : Creation} {plan : RunPlan} {run : TestRunRecord} {core : State}
    (hi : SessionState P s) (hcreation : s.creations[index]? = some creation)
    (hplan : creation.plan = some plan)
    (hqueue : queueSnapshotRun P now outboxId plan s.core.db = .ok (core.db, run, true)) :
    SessionState P ⟨core, s.creations.eraseIdx index⟩ := by
  have hmem : creation ∈ s.creations := List.mem_of_getElem? hcreation
  have hready := hi.ready creation hmem plan hplan
  have hw := queueSnapshotRun_write hready.origin hqueue
  have hwrites : Writes P (fun _ => True) s.core.db core.db := .single trivial hw
  obtain ⟨-, -, hfree, runs, runEvents, runCases, outbox, hdb, hinsert, -, houtbox, -⟩ :=
    queueSnapshotRun_ok hqueue
  -- the sessions left are separate from this one, so the new run is of another project
  have hothers := hi.separate hcreation
  have hsub : ∀ other ∈ s.creations.eraseIdx index, other ∈ s.creations :=
    fun other hother => (List.eraseIdx_sublist _ _).subset hother
  refine ⟨?_, ?_, fun other hother => ?_, fun other hother plan' hplan' => ?_, ?_⟩
  · exact outboxState_write hw hi.outbox
  · rw [hdb]
    exact hi.keys.insert hfree hinsert
  · exact hwrites.holds (hi.holds other (hsub other hother))
  · have hready' := hi.ready other (hsub other hother) plan' hplan'
    refine hready'.keep (hwrites.origin hready'.origin) ?_
    have hfree' := runByIdempotencyKey_eq_none.mp hready'.free
    refine runByIdempotencyKey_eq_none.mpr fun run' hrun' hproject => ?_
    rw [hdb] at hrun'
    rcases (Table.mem_insert? hinsert).mp hrun' with hold | rfl
    · exact hfree' run' hold hproject
    · have hsame : creation.request.projectId = other.request.projectId := by
        rw [← hready.projectId, ← hready'.projectId]
        exact hproject
      exact absurd hsame (hothers other hother (hplan ▸ rfl) (hplan' ▸ rfl))
  · exact hi.locks.sublist (List.eraseIdx_sublist _ _)

theorem sessionState_step {s s' : Sessions} {a : SessionAction} (hi : SessionState P s)
    (h : sessionStep P s a = .ok s') : SessionState P s' := by
  cases sessionStep_move h with
  | quiet hwrites hcreations =>
    exact hi.quiet (hwrites.mono fun _ => SessionAction.allows_quiet) hcreations
  | begun call key actorId creation hbegun => exact hi.begun hbegun
  | planned index checkedAt now runId creation plan hcreation hlock hexisting hplan =>
    exact hi.planned hcreation hlock hexisting hplan
  | created index now outboxId creation plan run core hcreation hplan hqueue =>
    exact hi.created hcreation hplan hqueue

/-- A step of the sessions writes what the commands of the control plane write. -/
theorem sessionStep_writes {s s' : Sessions} {a : SessionAction} (hi : SessionState P s)
    (h : sessionStep P s a = .ok s') : Writes P (fun _ => True) s.core.db s'.core.db := by
  cases sessionStep_move h with
  | quiet hwrites => exact hwrites.mono fun _ _ => trivial
  | begun => exact .refl _
  | planned => exact .refl _
  | created index now outboxId creation plan run core hcreation hplan hqueue =>
    have hready := hi.ready creation (List.mem_of_getElem? hcreation) plan hplan
    exact .single trivial (queueSnapshotRun_write hready.origin hqueue)

theorem sessionState_reachable {s : Sessions} (h : (sessions P).Reachable s) :
    SessionState P s := by
  refine h.invariant (p := SessionState P) ?_ fun s a s' hstep hi => sessionState_step hi hstep
  rintro s rfl
  exact ⟨⟨fun _ hrecord => absurd hrecord Table.not_mem_empty,
    fun _ hrun => absurd hrun Table.not_mem_empty⟩,
    fun _ hrun => absurd hrun Table.not_mem_empty, fun _ h => absurd h List.not_mem_nil,
    fun _ h => absurd h List.not_mem_nil, .nil⟩

/-- What every write keeps holds of the database however the sessions interleave. -/
theorem sessions_invariant {p : Database → Prop} (base : p .empty)
    (write : ∀ effect db db', Write P effect db db' → p db → p db') {s : Sessions}
    (h : (sessions P).Reachable s) : p s.core.db := by
  refine h.invariant_of (k := SessionState P) (p := fun s => p s.core.db)
    (fun _ => sessionState_reachable) ?_ ?_
  · rintro s rfl
    exact base
  · intro s a s' hstep hk _ hi
    exact (sessionStep_writes hk hstep).invariant (fun e _ _ _ hw => write e _ _ hw) hi

/-- Runs stay, with everything they were created with. -/
theorem sessions_follow {s s' : Sessions} (hs : (sessions P).Reachable s)
    (h : (sessions P).Steps s s') :
    s.core.db.runs.Evolves Follows s'.core.db.runs := by
  refine h.preserves hs (p := fun t => s.core.db.runs.Evolves Follows t.core.db.runs) ?_
    (.refl .refl)
  intro t a t' ht hstep hfollow
  refine hfollow.trans .trans ((sessionStep_writes (sessionState_reachable ht) hstep).rel
    (r := fun db db' => db.runs.Evolves Follows db'.runs) (fun _ => .refl .refl)
    (fun _ _ _ => .trans .trans) fun _ _ _ _ hw => follows_write hw)

end TestOps

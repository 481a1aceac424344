import TestOps.Worker.OutboxDispatch

/-! A batch of the outbox dispatcher, compared with one transaction for every row.

      row                     its preparation        in a batch with others
      ──────────────────────────────────────────────────────────────────────────────────
      waits for capacity      CapacityWait           waits
      cannot be sent          succeeds               is tried again later
      Unpreparable            any other exception    takes the batch back, but no message

    Whether a row is unpreparable depends on its payload, its run, the pool of the run and the workers
    of the pool, and no row of a batch changes any of these. -/

namespace TestOps

open Checked Relational

variable {texts : Texts} {ctx ctx' : OutboxContext} {row row' : OutboxRow} {db db' : Database}
  {world world' : OutboxWorld} {healthy : List RunnerWorkerRecord} {payload : Json}

/-! ### Which rows are unpreparable -/

/-- There is no snapshot with a target type, or a worker could run it but for the package. -/
def Malformed (texts : Texts) (healthy : List RunnerWorkerRecord) (payload : Json) : Prop :=
  ∀ snapshot targetType, member? "run_snapshot" payload = some snapshot →
    member? "target_type" snapshot = some targetType →
    (∃ worker ∈ healthy,
      workerMatchesText (texts.str targetType) (snapshotBrowser texts snapshot) worker = true) ∧
    (member? "automation_package" snapshot).any isObject = false

/-- The run of the row is missing, or it is live, its pool serves and has healthy workers, and the
    payload is malformed for them. -/
def Unpreparable (ctx : OutboxContext) (row : OutboxRow) (db : Database) : Prop :=
  row.eventType = "run.queued" ∧ ∀ run, db.runs.get? row.aggregateId = some run →
    run.status.isTerminal = false ∧ ∃ poolId pool, run.runnerPoolId = some poolId ∧
      servingPool poolId db = .ok pool ∧
      healthyWorkers ctx.dispatchTime ctx.heartbeatTtlSeconds pool.id db ≠ [] ∧
      Malformed ctx.texts (healthyWorkers ctx.dispatchTime ctx.heartbeatTtlSeconds pool.id db)
        row.payload

@[simp] theorem subscript_eq_ok {name : String} {value found : Json} :
    subscript name value = .ok found ↔ member? name value = some found := by
  cases value <;> simp [subscript, member?]

/-- A preparation that ends with an exception other than a wait. -/
def PrepareStop.IsRaised : PrepareStop → Prop
  | .raised _ => True
  | .capacityWait _ => False

/-- The computation ends with such an exception. -/
def Raising {α : Type} (x : Except PrepareStop α) : Prop :=
  ∃ stop, x = .error stop ∧ stop.IsRaised

@[simp] theorem not_raising_ok {α : Type} {a : α} : ¬Raising (.ok a) := by
  rintro ⟨stop, hstop, -⟩
  cases hstop

@[simp] theorem raising_error {α : Type} {stop : PrepareStop} :
    Raising (.error stop : Except PrepareStop α) ↔ stop.IsRaised := by
  constructor
  · rintro ⟨stop', hstop, hraised⟩
    rwa [Except.error.inj hstop]
  · exact fun hraised => ⟨stop, rfl, hraised⟩

/-- A wait is no exception of this kind. -/
theorem raising_ensure {α : Type} {c : Prop} [Decidable c] {reason : WaitReason}
    {f : Unit → Except PrepareStop α} :
    Raising (ensure c (.capacityWait reason) >>= f) ↔ c ∧ Raising (f ()) := by
  by_cases hc : c
  · rw [ensure_true hc, ok_bind]
    simp [hc]
  · rw [ensure_false hc, error_bind, raising_error]
    simp [hc, PrepareStop.IsRaised]

theorem capableWorkers_eq_ok {out : Json × String × List RunnerWorkerRecord} :
    capableWorkers texts healthy payload = .ok out ↔ ∃ snapshot targetType,
      member? "run_snapshot" payload = some snapshot ∧
      member? "target_type" snapshot = some targetType ∧
      out = (snapshot, texts.str targetType, healthy.filter
        (workerMatchesText (texts.str targetType) (snapshotBrowser texts snapshot))) := by
  simp only [capableWorkers, bind_eq_ok, subscript_eq_ok, pure_eq_ok]
  constructor
  · rintro ⟨snapshot, hsnapshot, targetType, htarget, hout⟩
    exact ⟨snapshot, targetType, hsnapshot, htarget, hout.symm⟩
  · rintro ⟨snapshot, targetType, hsnapshot, htarget, hout⟩
    exact ⟨snapshot, hsnapshot, targetType, htarget, hout.symm⟩

/-- Without a worker that hosts the package a row waits. -/
theorem hostingWorkers_waits {targetType : String} {automationPackage : Json}
    {capable : List RunnerWorkerRecord} :
    ¬Raising (hostingWorkers texts targetType automationPackage capable) := by
  simp only [hostingWorkers, raising_ensure]
  rintro ⟨-, -, hraising⟩
  exact not_raising_ok hraising

theorem eligibleWorkersFor_raises :
    Raising (eligibleWorkersFor texts healthy payload) ↔ Malformed texts healthy payload := by
  rw [eligibleWorkersFor]
  cases hcapable : capableWorkers texts healthy payload with
  | error error =>
    simp only [Except.mapError, error_bind, raising_error, PrepareStop.IsRaised, true_iff]
    intro snapshot targetType hsnapshot htarget
    have hok : capableWorkers texts healthy payload = .ok _ :=
      capableWorkers_eq_ok.mpr ⟨snapshot, targetType, hsnapshot, htarget, rfl⟩
    rw [hcapable] at hok
    cases hok
  | ok out =>
    obtain ⟨snapshot, targetType, hsnapshot, htarget, rfl⟩ := capableWorkers_eq_ok.mp hcapable
    have hmalformed : Malformed texts healthy payload ↔
        healthy.filter (workerMatchesText (texts.str targetType)
          (snapshotBrowser texts snapshot)) ≠ [] ∧
        (member? "automation_package" snapshot).any isObject = false := by
      rw [ne_eq, List.filter_eq_nil_iff]
      push Not
      constructor
      · exact fun h => h snapshot targetType hsnapshot htarget
      · intro h snapshot' targetType' hsnapshot' htarget'
        obtain rfl := Option.some.inj (hsnapshot.symm.trans hsnapshot')
        obtain rfl := Option.some.inj (htarget.symm.trans htarget')
        exact h
    rw [hmalformed]
    simp only [Except.mapError, ok_bind, raising_ensure]
    refine and_congr_right fun _ => ?_
    cases hpackage : (member? "automation_package" snapshot).filter isObject with
    | none =>
      simp only [found, error_bind, raising_error, PrepareStop.IsRaised, true_iff]
      cases hmember : member? "automation_package" snapshot with
      | none => rfl
      | some package =>
        rw [hmember, Option.filter_eq_none_iff] at hpackage
        simpa using hpackage package rfl
    | some package =>
      obtain ⟨hmember, hobject⟩ := Option.filter_eq_some_iff.mp hpackage
      rw [hmember, Option.any_some, hobject]
      simp only [found, ok_bind, Bool.true_eq_false, iff_false]
      exact hostingWorkers_waits

/-- The lease identifier of the row is new. -/
def FreshLease (ctx : OutboxContext) (row : OutboxRow) (db : Database) : Prop :=
  ∀ lease ∈ db.leases, lease.id ≠ ctx.leaseId row.id

/-- Without capacity a row waits. -/
theorem acquireLease_waits {run : TestRunRecord} {pool : RunnerPoolRecord}
    {eligible : List RunnerWorkerRecord} (hfresh : FreshLease ctx row db) :
    RaisesOnly (fun stop => ¬stop.IsRaised) ((acquireLease ctx.dispatchTime (ctx.leaseId row.id) run
      pool eligible db).mapError DispatchStop.prepareStop) := by
  rw [acquireLease]
  by_cases hcapacity : activeLeases db.leases pool.id < effectiveCapacity pool eligible
  · simp only [ensure_true hcapacity, ok_bind]
    cases hinsert : db.leases.insert?
        ⟨ctx.leaseId row.id, pool.id, run.id, none, .active, ctx.dispatchTime, none⟩ with
    | none =>
      obtain ⟨lease, hlease, hid⟩ := Table.insert?_eq_none.mp hinsert
      exact absurd hid (hfresh lease hlease)
    | some leases => exact raisesOnly_ok _
  · simp only [ensure_false hcapacity, error_bind, Except.mapError]
    exact raisesOnly_error.mpr id

theorem prepareSlot_raises {run : TestRunRecord} {poolId : UUID}
    (hfresh : FreshLease ctx row db) :
    Raising (prepareSlot ctx row run poolId db) ↔ ∃ pool, servingPool poolId db = .ok pool ∧
      healthyWorkers ctx.dispatchTime ctx.heartbeatTtlSeconds pool.id db ≠ [] ∧
      Malformed ctx.texts
        (healthyWorkers ctx.dispatchTime ctx.heartbeatTtlSeconds pool.id db) row.payload := by
  rw [prepareSlot]
  cases hpool : servingPool poolId db with
  | error reason =>
    simp only [Except.mapError, error_bind, raising_error, PrepareStop.IsRaised, reduceCtorEq,
      false_and, exists_false]
  | ok pool =>
    simp only [Except.mapError, ok_bind, Except.ok.injEq, exists_eq_left', raising_ensure]
    refine and_congr_right fun _ => ?_
    rw [← eligibleWorkersFor_raises]
    cases heligible : eligibleWorkersFor ctx.texts
        (healthyWorkers ctx.dispatchTime ctx.heartbeatTtlSeconds pool.id db) row.payload with
    | error stop => simp only [error_bind, raising_error]
    | ok eligible =>
      simp only [ok_bind, not_raising_ok, iff_false]
      rintro ⟨stop, hstop, hraised⟩
      split at hstop
      · cases hstop
      · exact (acquireLease_waits hfresh).bind (fun out _ => raisesOnly_ok _) stop hstop hraised

/-- The preparation of a row raises exactly when the row is unpreparable. -/
theorem prepareRow_raises (hfresh : FreshLease ctx row db) :
    Raising (prepareRow ctx row db) ↔ Unpreparable ctx row db := by
  rw [prepareRow, Unpreparable]
  by_cases hqueued : row.eventType = "run.queued"
  · rw [if_neg (not_not.mpr hqueued)]
    cases hrun : db.runs.get? row.aggregateId with
    | none =>
      simp only [raising_error, PrepareStop.IsRaised, hqueued, true_and, reduceCtorEq,
        false_implies, implies_true]
    | some run =>
      simp only [Option.some.injEq, forall_eq', hqueued, true_and]
      by_cases hended : run.status.isTerminal = true
      · rw [if_pos hended]
        simp [hended]
      · rw [if_neg hended]
        cases hpoolId : run.runnerPoolId with
        | none => simp
        | some poolId =>
          simp only [Bool.not_eq_true] at hended
          simp only [hended, Option.some.injEq, true_and, exists_eq_left', exists_and_left]
          exact prepareSlot_raises hfresh
  · rw [if_pos hqueued]
    simp [hqueued]

/-! ### What a row leaves as it is -/

/-- The status and the pool of a run. -/
def TestRunRecord.placement (run : TestRunRecord) : RunStatus × Option UUID :=
  (run.status, run.runnerPoolId)

/-- The placements of the runs, the pools and the workers are the same. -/
structure SameServices (db db' : Database) : Prop where
  runs : ∀ runId, (db'.runs.get? runId).map TestRunRecord.placement =
    (db.runs.get? runId).map TestRunRecord.placement
  pools : db'.pools = db.pools
  workers : db'.workers = db.workers

namespace SameServices

theorem refl (db : Database) : SameServices db db := ⟨fun _ => rfl, rfl, rfl⟩

theorem trans {db'' : Database} (h : SameServices db db') (h' : SameServices db' db'') :
    SameServices db db'' where
  runs runId := (h'.runs runId).trans (h.runs runId)
  pools := h'.pools.trans h.pools
  workers := h'.workers.trans h.workers

/-- A mark of the dispatcher keeps the placement of a run. -/
theorem marked (mark : TestRunRecord → TestRunRecord) (hmark : KeepsKey TestRunRecord.id mark)
    (h : ∀ run, (mark run).placement = run.placement) (runId : UUID) :
    SameServices db { db with runs := db.runs.modify runId mark hmark } where
  runs other := by
    rw [Table.get?_modify]
    split
    · rename_i hid
      rw [Option.map_map, ← hid]
      exact congrArg (fun f => (db.runs.get? other).map f) (funext h)
    · rfl
  pools := rfl
  workers := rfl

theorem leased {leases : LeaseTable} : SameServices db { db with leases := leases } :=
  ⟨fun _ => rfl, rfl, rfl⟩

theorem servingPool (h : SameServices db db') (poolId : UUID) :
    TestOps.servingPool poolId db' = TestOps.servingPool poolId db := by
  rw [TestOps.servingPool, h.pools]
  rfl

theorem healthyWorkers (h : SameServices db db') (now : Instant) (ttl : Nat) (poolId : UUID) :
    TestOps.healthyWorkers now ttl poolId db' = TestOps.healthyWorkers now ttl poolId db := by
  rw [TestOps.healthyWorkers, h.workers]
  rfl

theorem unpreparable (h : SameServices db db') :
    Unpreparable ctx row db' → Unpreparable ctx row db := by
  rintro ⟨hqueued, hrun⟩
  refine ⟨hqueued, fun run hget => ?_⟩
  have hsame := h.runs row.aggregateId
  rw [hget, Option.map_some, Option.map_eq_some_iff] at hsame
  obtain ⟨run', hget', hplacement⟩ := hsame
  obtain ⟨hstatus, hpoolId⟩ := Prod.mk.inj hplacement
  have hplaced := hrun run' hget'
  simp only [hstatus, hpoolId, h.servingPool, h.healthyWorkers] at hplaced
  exact hplaced

theorem symm (h : SameServices db db') : SameServices db' db :=
  ⟨fun runId => (h.runs runId).symm, h.pools.symm, h.workers.symm⟩

end SameServices

/-- No lease is new but one. -/
def LeasesGrow (leaseId : UUID) (leases leases' : LeaseTable) : Prop :=
  ∀ lease' ∈ leases', lease'.id = leaseId ∨ ∃ lease ∈ leases, lease.id = lease'.id

theorem LeasesGrow.refl {leaseId : UUID} {leases : LeaseTable} : LeasesGrow leaseId leases leases :=
  fun lease hlease => Or.inr ⟨lease, hlease, rfl⟩

/-- A preparation marks the run that has ended, or it takes a lease, or it changes nothing. -/
theorem prepareRow_ok {prepared : PreparedDispatch}
    (h : prepareRow ctx row db = .ok (db', prepared)) :
    SameServices db db' ∧ LeasesGrow (ctx.leaseId row.id) db.leases db'.leases := by
  have hsame : SameServices db db ∧ LeasesGrow (ctx.leaseId row.id) db.leases db.leases :=
    ⟨.refl db, .refl⟩
  rw [prepareRow] at h
  split at h
  · obtain ⟨rfl, -⟩ := Prod.mk.inj (Except.ok.inj h)
    exact hsame
  · split at h
    · cases h
    · split at h
      · obtain ⟨rfl, -⟩ := Prod.mk.inj (Except.ok.inj h)
        exact ⟨.marked (markDispatched ctx.dispatchTime) ⟨.refl _⟩ (fun _ => rfl) _, .refl⟩
      · split at h
        · obtain ⟨rfl, -⟩ := Prod.mk.inj (Except.ok.inj h)
          exact hsame
        · simp only [prepareSlot, bind_eq_ok, mapError_eq_ok, ensure_eq_ok] at h
          obtain ⟨pool, -, -, -, eligible, -, h⟩ := h
          split at h
          · obtain ⟨rfl, -⟩ := Prod.mk.inj (pure_eq_ok.mp h)
            exact hsame
          · simp only [acquireLease, bind_eq_ok, mapError_eq_ok, ensure_eq_ok, found_eq_ok,
              pure_eq_ok] at h
            obtain ⟨out, ⟨-, -, leases, hinsert, rfl⟩, h⟩ := h
            obtain ⟨rfl, -⟩ := Prod.mk.inj h
            refine ⟨.leased, fun lease hlease => ?_⟩
            rcases (Table.mem_insert? hinsert).mp hlease with hold | rfl
            · exact .inr ⟨lease, hold, rfl⟩
            · exact .inl rfl

/-! ### What a row changes -/

/-- A row of a batch that does not fail: it is rewritten, and published if its task is sent. -/
structure RowSettled (ctx : OutboxContext) (row : OutboxRow) (world world' : OutboxWorld)
    (messages : List Message) : Prop where
  services : SameServices world.db world'.db
  leases : LeasesGrow (ctx.leaseId row.id) world.db.leases world'.db.leases
  others : ∀ rowId, rowId ≠ row.id → world'.rows.get? rowId = world.rows.get? rowId
  own : world.rows.get? row.id = some row → row.status = .pending →
    row.availableAt ≤ ctx.dispatchTime → ∃ row', world'.rows.get? row.id = some row' ∧
      row' ≠ row ∧ (messages ≠ [] → row'.status = .published)
  messages : ∀ message ∈ messages, message.rowId = row.id

theorem RowSettled.of_modify {f : OutboxRow → OutboxRow} {hf : KeepsKey OutboxRow.id f}
    {messages : List Message} (hservices : SameServices world.db db)
    (hleases : LeasesGrow (ctx.leaseId row.id) world.db.leases db.leases)
    (hchange : row.status = .pending → row.availableAt ≤ ctx.dispatchTime → f row ≠ row)
    (hpublished : messages ≠ [] → (f row).status = .published)
    (hmessages : ∀ message ∈ messages, message.rowId = row.id) :
    RowSettled ctx row world ⟨db, world.rows.modify row.id f hf⟩ messages where
  services := hservices
  leases := hleases
  others _ hother := Table.get?_modify_ne hother
  own hget hpending hdue := ⟨f row, Table.get?_modify_self hget, hchange hpending hdue, hpublished⟩
  messages := hmessages

theorem OutboxRow.wait_ne {reason : WaitReason} (hpoll : 0 < ctx.capacityPollMicros)
    (hdue : row.availableAt ≤ ctx.dispatchTime) : row.wait ctx reason ≠ row := by
  intro heq
  have havailable : ctx.dispatchTime + ctx.capacityPollMicros = row.availableAt :=
    congrArg OutboxRow.availableAt heq
  rw [← havailable] at hdue
  exact absurd hdue (not_le.mpr (lt_add_of_pos_right _ hpoll))

theorem OutboxRow.publish_ne {attempts : Nat} (hpending : row.status = .pending) :
    row.publish ctx attempts ≠ row := by
  intro heq
  have hstatus : OutboxStatus.published = row.status := congrArg OutboxRow.status heq
  rw [hpending] at hstatus
  cases hstatus

theorem OutboxRow.fail_ne {error : String} : row.fail ctx error ≠ row := by
  intro heq
  have hattempts : row.attempts + 1 = row.attempts := congrArg OutboxRow.attempts heq
  omega

theorem markPrepared_same {prepared : PreparedDispatch} {mark : TestRunRecord → TestRunRecord}
    {hmark : KeepsKey TestRunRecord.id mark} {leases : LeaseTable}
    (h : ∀ run, (mark run).placement = run.placement) :
    SameServices db { db with runs := markPrepared prepared mark hmark db, leases := leases } := by
  rw [markPrepared]
  split
  · exact (SameServices.marked mark hmark h _).trans .leased
  · exact .leased

theorem releasePrepared_grow {prepared : PreparedDispatch} {leaseId : UUID} {leases : LeaseTable}
    (h : LeasesGrow leaseId leases db.leases) :
    LeasesGrow leaseId leases (releasePrepared ctx prepared db) := by
  rw [releasePrepared]
  split
  · intro lease' hlease'
    obtain ⟨lease, hlease, rfl⟩ := Table.mem_modify.mp hlease'
    have hid := h lease hlease
    split <;> exact hid
  · exact h

/-- A row of a batch does not fail exactly when it can be prepared. -/
theorem dispatchRow_fails {summary : DispatchSummary} :
    Batch.Fails (dispatchRow ctx) row (world, summary) ↔ Raising (prepareRow ctx row world.db) := by
  simp only [Batch.Fails, dispatchRow]
  cases hprepare : prepareRow ctx row world.db with
  | error stop =>
    cases stop with
    | capacityWait reason => simp [PrepareStop.IsRaised]
    | raised error => simp [PrepareStop.IsRaised]
  | ok out =>
    simp only [not_raising_ok, iff_false, not_exists]
    intro error herror
    split at herror
    · cases herror
    · split at herror <;> cases herror

theorem dispatchRow_settled {summary summary' : DispatchSummary} {messages : List Message}
    (hpoll : 0 < ctx.capacityPollMicros)
    (h : dispatchRow ctx row (world, summary) = .ok ((world', summary'), messages)) :
    RowSettled ctx row world world' messages := by
  simp only [dispatchRow] at h
  cases hprepare : prepareRow ctx row world.db with
  | error stop =>
    rw [hprepare] at h
    cases stop with
    | raised error => cases h
    | capacityWait reason =>
      simp only [Except.ok.injEq, Prod.mk.injEq] at h
      obtain ⟨⟨rfl, -⟩, rfl⟩ := h
      refine .of_modify (.marked (markWaiting reason) ⟨.refl _⟩ (fun _ => rfl) _) .refl
        (fun _ hdue => OutboxRow.wait_ne hpoll hdue) (fun hne => absurd rfl hne) ?_
      exact fun message hmessage => by cases hmessage
  | ok out =>
    obtain ⟨db, prepared⟩ := out
    obtain ⟨hsame, hgrow⟩ := prepareRow_ok hprepare
    simp only [hprepare] at h
    split at h
    · simp only [Except.ok.injEq, Prod.mk.injEq] at h
      obtain ⟨⟨rfl, -⟩, rfl⟩ := h
      refine .of_modify hsame hgrow (fun hpending _ => OutboxRow.publish_ne hpending)
        (fun hne => absurd rfl hne) ?_
      exact fun message hmessage => by cases hmessage
    · split at h
      · simp only [Except.ok.injEq, Prod.mk.injEq] at h
        obtain ⟨⟨rfl, -⟩, rfl⟩ := h
        refine .of_modify (hsame.trans (markPrepared_same fun _ => rfl))
          (releasePrepared_grow hgrow) (fun _ _ => OutboxRow.fail_ne)
          (fun hne => absurd rfl hne) ?_
        exact fun message hmessage => by cases hmessage
      · simp only [Except.ok.injEq, Prod.mk.injEq] at h
        obtain ⟨⟨rfl, -⟩, rfl⟩ := h
        refine .of_modify (hsame.trans (markPrepared_same fun _ => rfl)) hgrow
          (fun hpending _ => OutboxRow.publish_ne hpending) (fun _ => rfl) ?_
        exact fun message hmessage => by rw [List.mem_singleton.mp hmessage]

/-! ### Row after row -/

/-- The lease identifiers that a batch draws are new, and different for different rows. -/
structure FreshLeases (ctx : OutboxContext) (world : OutboxWorld) : Prop where
  fresh : ∀ row ∈ dueRows ctx world, FreshLease ctx row world.db
  different : ∀ row ∈ dueRows ctx world, ∀ row' ∈ dueRows ctx world,
    ctx.leaseId row.id = ctx.leaseId row'.id → row.id = row'.id

theorem mem_dueRows (h : row ∈ dueRows ctx world) :
    row ∈ world.rows ∧ row.status = .pending ∧ row.availableAt ≤ ctx.dispatchTime := by
  have hmem := List.mem_insertionSort _ |>.mp (List.mem_of_mem_take h)
  obtain ⟨hrow, hdue⟩ := List.mem_filter.mp hmem
  simp only [Bool.decide_and, Bool.and_eq_true, decide_eq_true_eq] at hdue
  exact ⟨hrow, hdue.1, hdue.2.1⟩

/-- A batch takes a row once. -/
theorem dueRows_nodup : ((dueRows ctx world).map OutboxRow.id).Nodup := by
  have hsorted := List.perm_insertionSort (fun a b : OutboxRow => a.createdAt ≤ b.createdAt)
    (world.rows.rows.filter fun row => row.status = .pending ∧
      row.availableAt ≤ ctx.dispatchTime ∧ ctx.locks row.id = false)
  have hall := (hsorted.map OutboxRow.id).nodup_iff.mpr
    (world.rows.keysNodup.sublist (List.filter_sublist.map OutboxRow.id))
  exact hall.sublist ((List.take_sublist ctx.limit _).map OutboxRow.id)

/-- The rows before a row of a batch are other rows. -/
theorem other_rows {pre post : List OutboxRow} (hrows : dueRows ctx world = pre ++ row :: post) :
    ∀ earlier ∈ pre, earlier.id ≠ row.id := by
  have hnodup := @dueRows_nodup ctx world
  rw [hrows, List.map_append, List.map_cons] at hnodup
  intro earlier hearlier
  exact (List.nodup_append.mp hnodup).2.2 earlier.id (List.mem_map_of_mem hearlier) row.id
    List.mem_cons_self

/-- Where a batch of transactions stands that has taken these rows. -/
structure Progress (ctx : OutboxContext) (world : OutboxWorld) (done : List OutboxRow)
    (now : OutboxWorld) (messages : List Message) : Prop where
  services : SameServices world.db now.db
  leases : ∀ lease' ∈ now.db.leases, (∃ row ∈ done, lease'.id = ctx.leaseId row.id) ∨
    ∃ lease ∈ world.db.leases, lease.id = lease'.id
  others : ∀ rowId, (∀ row ∈ done, row.id ≠ rowId) → now.rows.get? rowId = world.rows.get? rowId
  rewritten : ∀ row ∈ done, ¬Unpreparable ctx row world.db →
    ∃ row', now.rows.get? row.id = some row' ∧ row' ≠ row
  sent : ∀ message ∈ messages, ∃ row ∈ done, message.rowId = row.id ∧
    ∃ row', now.rows.get? row.id = some row' ∧ row'.status = .published

/-- The transactions of a batch, row by row. -/
abbrev oneByOne (ctx : OutboxContext) (rows : List OutboxRow) (world : OutboxWorld) :
    (OutboxWorld × DispatchSummary) × List Message :=
  Batch.each (dispatchRow ctx) rows (world, ⟨0, 0, 0⟩)

/-- The next row fails in its transaction exactly when it is unpreparable from the beginning. -/
theorem Progress.fails_iff {pre post : List OutboxRow} {now : OutboxWorld}
    {summary : DispatchSummary} {messages : List Message} (hfresh : FreshLeases ctx world)
    (hrows : dueRows ctx world = pre ++ row :: post)
    (h : Progress ctx world pre now messages) :
    Batch.Fails (dispatchRow ctx) row (now, summary) ↔ Unpreparable ctx row world.db := by
  have hrow : row ∈ dueRows ctx world := by
    rw [hrows]
    exact List.mem_append_right _ List.mem_cons_self
  have hlease : FreshLease ctx row now.db := by
    intro lease' hlease' hid
    rcases h.leases lease' hlease' with ⟨earlier, hearlier, hown⟩ | ⟨lease, hlease, hsame⟩
    · have hdue : earlier ∈ dueRows ctx world := by
        rw [hrows]
        exact List.mem_append_left _ hearlier
      exact other_rows hrows earlier hearlier
        (hfresh.different earlier hdue row hrow (hown.symm.trans hid))
    · exact hfresh.fresh row hrow lease hlease (hsame.trans hid)
  rw [dispatchRow_fails, prepareRow_raises hlease]
  exact ⟨h.services.unpreparable, h.services.symm.unpreparable⟩

/-- A row that fails leaves everything where it stands. -/
theorem Progress.failed {done : List OutboxRow} {now : OutboxWorld} {messages : List Message}
    (h : Progress ctx world done now messages) (hrow : Unpreparable ctx row world.db) :
    Progress ctx world (done ++ [row]) now messages where
  services := h.services
  leases lease' hlease' := by
    rcases h.leases lease' hlease' with ⟨earlier, hearlier, hown⟩ | hold
    · exact .inl ⟨earlier, List.mem_append_left _ hearlier, hown⟩
    · exact .inr hold
  others rowId hother := h.others rowId fun earlier hearlier =>
    hother earlier (List.mem_append_left _ hearlier)
  rewritten row' hmem hpasses := by
    rcases List.mem_append.mp hmem with hdone | hlast
    · exact h.rewritten row' hdone hpasses
    · rw [List.mem_singleton.mp hlast] at hpasses
      exact absurd hrow hpasses
  sent message hmessage := by
    obtain ⟨earlier, hearlier, hsent⟩ := h.sent message hmessage
    exact ⟨earlier, List.mem_append_left _ hearlier, hsent⟩

/-- A row that does not fail is rewritten, and the rows before it stay as they are. -/
theorem Progress.settled {done : List OutboxRow} {now now' : OutboxWorld}
    {messages sent : List Message} (h : Progress ctx world done now messages)
    (hsettled : RowSettled ctx row now now' sent) (hrow : row ∈ dueRows ctx world)
    (hother : ∀ earlier ∈ done, earlier.id ≠ row.id) :
    Progress ctx world (done ++ [row]) now' (messages ++ sent) := by
  obtain ⟨hmem, hpending, hdue⟩ := mem_dueRows hrow
  have hget : now.rows.get? row.id = some row :=
    (h.others row.id hother).trans (Table.get?_key hmem)
  obtain ⟨row', hget', hne, hpublished⟩ := hsettled.own hget hpending hdue
  have hkept : ∀ earlier ∈ done, now'.rows.get? earlier.id = now.rows.get? earlier.id :=
    fun earlier hearlier => hsettled.others earlier.id (hother earlier hearlier)
  constructor
  case services => exact h.services.trans hsettled.services
  case leases =>
    intro lease'' hlease''
    rcases hsettled.leases lease'' hlease'' with hown | ⟨lease', hlease', hid⟩
    · exact .inl ⟨row, List.mem_append_right _ List.mem_cons_self, hown⟩
    · rcases h.leases lease' hlease' with ⟨earlier, hearlier, hown⟩ | ⟨lease, hlease, hid'⟩
      · exact .inl ⟨earlier, List.mem_append_left _ hearlier, hid.symm.trans hown⟩
      · exact .inr ⟨lease, hlease, hid'.trans hid⟩
  case others =>
    intro rowId hrowId
    have hown : rowId ≠ row.id :=
      (hrowId row (List.mem_append_right _ List.mem_cons_self)).symm
    rw [hsettled.others rowId hown]
    exact h.others rowId fun earlier hearlier => hrowId earlier (List.mem_append_left _ hearlier)
  case rewritten =>
    intro earlier hearlier hpasses
    rcases List.mem_append.mp hearlier with hdone | hlast
    · rw [hkept earlier hdone]
      exact h.rewritten earlier hdone hpasses
    · obtain rfl := List.mem_singleton.mp hlast
      exact ⟨row', hget', hne⟩
  case sent =>
    intro message hmessage
    rcases List.mem_append.mp hmessage with hold | hnew
    · obtain ⟨earlier, hearlier, hid, hrow⟩ := h.sent message hold
      refine ⟨earlier, List.mem_append_left _ hearlier, hid, ?_⟩
      rwa [hkept earlier hearlier]
    · refine ⟨row, List.mem_append_right _ List.mem_cons_self, hsettled.messages message hnew, ?_⟩
      exact ⟨row', hget', hpublished (List.ne_nil_of_mem hnew)⟩

theorem progress_nil : Progress ctx world [] world [] where
  services := .refl _
  leases lease hlease := .inr ⟨lease, hlease, rfl⟩
  others _ _ := rfl
  rewritten row hrow := by cases hrow
  sent message hmessage := by cases hmessage

theorem OutboxContext.Valid.poll_pos (h : ctx.Valid) : 0 < ctx.capacityPollMicros := by
  have := h.poll.1
  omega

/-- Row by row a batch gets through, whatever fails. -/
theorem progress_each (hvalid : ctx.Valid) (hfresh : FreshLeases ctx world)
    {rows rest : List OutboxRow} (hrows : dueRows ctx world = rows ++ rest) :
    Progress ctx world rows (oneByOne ctx rows world).1.1 (oneByOne ctx rows world).2 := by
  refine Batch.each_invariant
    (p := fun done (out : (OutboxWorld × DispatchSummary) × List Message) =>
      Progress ctx world done out.1.1 out.2) progress_nil fun pre row post hsplit hpre => ?_
  have hrow : dueRows ctx world = pre ++ row :: (post ++ rest) := by
    rw [hrows, hsplit, List.append_assoc, List.cons_append]
  rcases hstate : (Batch.each (dispatchRow ctx) pre (world, (⟨0, 0, 0⟩ : DispatchSummary)))
    with ⟨⟨now, summary⟩, messages⟩
  rw [hstate] at hpre
  have hfails : Batch.Fails (dispatchRow ctx) row (now, summary) ↔ _ :=
    hpre.fails_iff hfresh hrow
  by_cases hunpreparable : Unpreparable ctx row world.db
  · rw [Batch.alone_of_fails (hfails.mpr hunpreparable), List.append_nil]
    exact hpre.failed hunpreparable
  · obtain ⟨⟨now', summary'⟩, sent, hstep⟩ :=
      Batch.exists_ok fun hfail => hunpreparable (hfails.mp hfail)
    rw [Batch.alone_of_ok hstep]
    refine hpre.settled (dispatchRow_settled hvalid.poll_pos hstep) ?_ (other_rows hrow)
    rw [hrow]
    exact List.mem_append_right _ List.mem_cons_self

theorem independent_dueRows (hvalid : ctx.Valid) (hfresh : FreshLeases ctx world) :
    Batch.Independent (dispatchRow ctx) Prod.fst (fun row => Unpreparable ctx row world.db)
      (dueRows ctx world) (world, (⟨0, 0, 0⟩ : DispatchSummary)) where
  stable pre row post hrows := (progress_each hvalid hfresh hrows).fails_iff hfresh hrows
  trace row hrow hpasses := by
    have hprogress := progress_each hvalid hfresh (List.append_nil (dueRows ctx world)).symm
    obtain ⟨row', hget, hne⟩ := hprogress.rewritten row hrow hpasses
    intro hsame
    rw [show (oneByOne ctx (dueRows ctx world) world).1.1 = world from hsame,
      Table.get?_key (mem_dueRows hrow).1] at hget
    exact hne (Option.some.inj hget).symm

/-! ### Later batches -/

theorem OutboxContext.Valid.validate (h : ctx.Valid) : ctx.validate = .ok () := by
  simp only [OutboxContext.validate, ensure_true h.limit, ensure_true h.heartbeat,
    ensure_true h.poll, ok_bind]

theorem OutboxContext.valid_of_validate (h : ctx.validate = .ok ()) : ctx.Valid := by
  simp only [OutboxContext.validate, bind_eq_ok, ensure_eq_ok] at h
  obtain ⟨-, hlimit, -, hheartbeat, hpoll⟩ := h
  exact ⟨hlimit, hheartbeat, hpoll⟩

/-- A batch commits and sends what its one transaction does. -/
theorem dispatchOutboxRows_together (hvalid : ctx.Valid) :
    ((dispatchOutboxRows ctx world).world, (dispatchOutboxRows ctx world).messages) =
      ((Batch.together (dispatchRow ctx) (dueRows ctx world) (world, ⟨0, 0, 0⟩)).1.1,
        (Batch.together (dispatchRow ctx) (dueRows ctx world) (world, ⟨0, 0, 0⟩)).2) := by
  rw [dispatchOutboxRows, hvalid.validate, Batch.together]
  rcases Batch.upTo (dispatchRow ctx) (dueRows ctx world) (world, ⟨0, 0, 0⟩) with
    ⟨⟨world', summary⟩, messages, _ | error⟩ <;> rfl

/-- Other rows stay as they are, and nothing is sent for them. -/
theorem upTo_others {rows : List OutboxRow} {rowId : UUID} {summary : DispatchSummary}
    (hpoll : 0 < ctx.capacityPollMicros) (h : ∀ row ∈ rows, row.id ≠ rowId) :
    (Batch.upTo (dispatchRow ctx) rows (world, summary)).1.1.rows.get? rowId =
      world.rows.get? rowId ∧
    ∀ message ∈ (Batch.upTo (dispatchRow ctx) rows (world, summary)).2.1,
      message.rowId ≠ rowId := by
  induction rows generalizing world summary with
  | nil => exact ⟨rfl, fun message hmessage => by cases hmessage⟩
  | cons row rows ih =>
    obtain ⟨hrow, hrows⟩ := List.forall_mem_cons.mp h
    rw [Batch.upTo]
    cases hstep : dispatchRow ctx row (world, summary) with
    | error error => exact ⟨rfl, fun message hmessage => by cases hmessage⟩
    | ok out =>
      obtain ⟨⟨world', summary'⟩, sent⟩ := out
      have hsettled := dispatchRow_settled hpoll hstep
      obtain ⟨hget, hmessages⟩ := @ih world' summary' hrows
      refine ⟨hget.trans (hsettled.others rowId hrow.symm), fun message hmessage => ?_⟩
      rcases List.mem_append.mp hmessage with hown | hlater
      · rw [hsettled.messages message hown]
        exact hrow
      · exact hmessages message hlater

/-- The row has been published. -/
def IsPublished (rowId : UUID) (world : OutboxWorld) : Prop :=
  ∃ row, world.rows.get? rowId = some row ∧ row.status = .published

/-- A published row is left alone. -/
theorem IsPublished.dispatch {rowId : UUID} (h : IsPublished rowId world) (ctx : OutboxContext) :
    IsPublished rowId (dispatchOutboxRows ctx world).world ∧
      ∀ message ∈ (dispatchOutboxRows ctx world).messages, message.rowId ≠ rowId := by
  obtain ⟨row, hget, hstatus⟩ := h
  rw [dispatchOutboxRows]
  cases hvalidate : ctx.validate with
  | error error => exact ⟨⟨row, hget, hstatus⟩, fun message hmessage => by cases hmessage⟩
  | ok u =>
    have hdue : ∀ due ∈ dueRows ctx world, due.id ≠ rowId := by
      rintro due hmem rfl
      obtain ⟨hrow, hpending, -⟩ := mem_dueRows hmem
      obtain rfl := Option.some.inj ((Table.get?_key hrow).symm.trans hget)
      rw [hpending] at hstatus
      cases hstatus
    have hothers := @upTo_others ctx world (dueRows ctx world) rowId ⟨0, 0, 0⟩
      (OutboxContext.valid_of_validate hvalidate).poll_pos hdue
    rcases hrun : Batch.upTo (dispatchRow ctx) (dueRows ctx world) (world, ⟨0, 0, 0⟩) with
      ⟨⟨world', summary⟩, messages, _ | error⟩
    · rw [hrun] at hothers
      exact ⟨⟨row, hothers.1.trans hget, hstatus⟩, hothers.2⟩
    · rw [hrun] at hothers
      exact ⟨⟨row, hget, hstatus⟩, hothers.2⟩

/-- The world after further batches. -/
def afterBatches (ctxs : List OutboxContext) (world : OutboxWorld) : OutboxWorld :=
  ctxs.foldl (fun world ctx => (dispatchOutboxRows ctx world).world) world

theorem IsPublished.afterBatches {rowId : UUID} {ctxs : List OutboxContext}
    (h : IsPublished rowId world) : IsPublished rowId (afterBatches ctxs world) := by
  induction ctxs generalizing world with
  | nil => exact h
  | cons ctx ctxs ih => exact ih (h.dispatch ctx).1

/-! ### Isolation -/

/-- A batch commits and sends what a transaction for every row would, and no later batch sends
    anything again. -/
structure BatchIsolated (ctx : OutboxContext) (world : OutboxWorld) : Prop where
  outcomes : (dispatchOutboxRows ctx world).world =
    (oneByOne ctx (dueRows ctx world) world).1.1
  messages : (dispatchOutboxRows ctx world).messages =
    (oneByOne ctx (dueRows ctx world) world).2
  notResent : ∀ ctxs ctx', ∀ message ∈ (dispatchOutboxRows ctx world).messages,
    ∀ message' ∈ (dispatchOutboxRows ctx'
      (afterBatches ctxs (dispatchOutboxRows ctx world).world)).messages,
      message'.rowId ≠ message.rowId

/-- A batch is isolated exactly when none of its rows is unpreparable, or all of them are. -/
theorem batch_isolated_iff (hvalid : ctx.Valid) (hfresh : FreshLeases ctx world) :
    BatchIsolated ctx world ↔ (∀ row ∈ dueRows ctx world, ¬Unpreparable ctx row world.db) ∨
      ∀ row ∈ dueRows ctx world, Unpreparable ctx row world.db := by
  have hindependent := independent_dueRows hvalid hfresh
  have htogether := @dispatchOutboxRows_together ctx world hvalid
  rw [← hindependent.together_eq_each_iff]
  constructor
  · intro h
    exact htogether.symm.trans (by rw [h.outcomes, h.messages])
  · intro h
    obtain ⟨houtcomes, hmessages⟩ := Prod.mk.inj (htogether.trans h)
    refine ⟨houtcomes, hmessages, fun ctxs ctx' message hmessage message' hmessage' => ?_⟩
    -- what has been sent was sent for a row that is now published
    rw [hmessages] at hmessage
    obtain ⟨row, -, hid, row', hget, hstatus⟩ :=
      (progress_each hvalid hfresh (List.append_nil _).symm).sent message hmessage
    have hpublished : IsPublished message.rowId (dispatchOutboxRows ctx world).world := by
      rw [houtcomes, hid]
      exact ⟨row', hget, hstatus⟩
    exact (hpublished.afterBatches.dispatch ctx').2 message' hmessage'

namespace Installation

/-- The rows of two events at the same time. -/
def outboxRow (id aggregateId : UUID) (eventType : String) : OutboxRow where
  id := id
  aggregateId := aggregateId
  eventType := eventType
  payload := .object []
  status := .pending
  attempts := 0
  availableAt := 0
  createdAt := id
  processedAt := none
  lastError := none

def outboxContext : OutboxContext where
  texts := ⟨fun _ => "", id, fun _ => ""⟩
  dispatchTime := 0
  limit := 20
  heartbeatTtlSeconds := 45
  capacityPollMicros := 2000000
  publish := fun _ => .ok ()
  leaseId := id
  locks := fun _ => false

theorem outboxContext_valid : outboxContext.Valid :=
  ⟨by decide, by decide, by decide⟩

/-- A cancellation, and an event that no task exists for. -/
def harmlessWorld : OutboxWorld where
  db := .empty
  rows := ⟨[outboxRow 1 20 "run.cancel_requested", outboxRow 2 21 "run.archived"], by decide⟩

/-- A cancellation, and a run that has been deleted. -/
def orphanWorld : OutboxWorld where
  db := .empty
  rows := ⟨[outboxRow 1 20 "run.cancel_requested", outboxRow 2 21 "run.queued"], by decide⟩

theorem freshLeases_empty {rows : Table OutboxRow.id} :
    FreshLeases outboxContext ⟨.empty, rows⟩ where
  fresh _ _ _ hlease := absurd hlease Table.not_mem_empty
  different _ _ _ _ hid := hid

end Installation

open Installation in
/-- A batch with an event of an unknown type is isolated. -/
theorem batch_isolated_harmless : BatchIsolated outboxContext harmlessWorld := by
  refine (batch_isolated_iff outboxContext_valid freshLeases_empty).mpr (.inl ?_)
  rintro row hrow ⟨hqueued, -⟩
  obtain ⟨hmem, -, -⟩ := mem_dueRows hrow
  have htypes : ∀ row ∈ harmlessWorld.rows.rows, row.eventType ≠ "run.queued" := by decide
  exact htypes row hmem hqueued

open Installation in
/-- The row of a deleted run takes back that the cancellation before it has been published, and the
    next batch sends the cancellation again. -/
theorem cancellation_resent : ¬BatchIsolated outboxContext orphanWorld ∧
    (dispatchOutboxRows outboxContext orphanWorld).messages.map Message.rowId = [1] ∧
    (dispatchOutboxRows outboxContext
      (dispatchOutboxRows outboxContext orphanWorld).world).messages.map Message.rowId = [1] := by
  have hfirst : (dispatchOutboxRows outboxContext orphanWorld).messages.map Message.rowId = [1] := by
    decide
  have hnext : (dispatchOutboxRows outboxContext
      (dispatchOutboxRows outboxContext orphanWorld).world).messages.map Message.rowId = [1] := by
    decide
  refine ⟨fun hisolated => ?_, hfirst, hnext⟩
  obtain ⟨message, hmessage, hid⟩ := List.mem_map.mp
    (show (1 : UUID) ∈ (dispatchOutboxRows outboxContext orphanWorld).messages.map Message.rowId by
      rw [hfirst]
      exact List.mem_singleton_self _)
  obtain ⟨message', hmessage', hid'⟩ := List.mem_map.mp
    (show (1 : UUID) ∈ (dispatchOutboxRows outboxContext
        (dispatchOutboxRows outboxContext orphanWorld).world).messages.map Message.rowId by
      rw [hnext]
      exact List.mem_singleton_self _)
  exact hisolated.notResent [] outboxContext message hmessage message' hmessage'
    (hid'.trans hid.symm)

end TestOps

import TestOps.Invariants.SupplyChain

/-! The lifecycle of packages. A revoked package stays revoked, and a draft becomes active only with
    its evidence. A run is created from what its session has read of the package: when the package is
    withdrawn after that, the run is created all the same.

      plan      reads package 4, ACTIVE
      revoke    package 4 is REVOKED
      commit    a new run of package 4 -/

namespace TestOps

open Checked Relational Transition System

variable {P : Primitives} {lib : CronLibrary} {s s' : Service} {a : ServiceAction}
  {db : Database}

/-! ### Deprecations hold their package -/

/-- A package that is being deprecated is active until then. -/
def DeprecationsHold (s : Service) : Prop :=
  ∀ deprecation ∈ s.deprecations, ∃ package,
    s.db.packages.get? deprecation.packageId = some package ∧ package.status = .active

/-- Where a deprecation comes from. -/
inductive DeprecationOrigin (s : Service) (a : ServiceAction) (s' : Service)
    (deprecation : Deprecation) : Prop
  | old : deprecation ∈ s.deprecations → a ≠ .commitDeprecation deprecation.packageId →
      DeprecationOrigin s a s' deprecation
  | new (package : AutomationPackageRecord) (projectId targetId : UUID) (reason : String) :
      a = .beginDeprecation projectId targetId deprecation.packageId reason →
      s'.db = s.db → s'.schedules = s.schedules → s'.tasks = s.tasks → s.db.packages.get? deprecation.packageId = some package →
      package.status = .active →
      (∀ schedule ∈ s.schedules, schedule.automationPackageId = deprecation.packageId →
        schedule.status ≠ .active) →
      DeprecationOrigin s a s' deprecation

theorem deprecation_origin (hstep : serviceStep P lib s a = .ok s') {deprecation : Deprecation}
    (hmem : deprecation ∈ s'.deprecations) : DeprecationOrigin s a s' deprecation := by
  by_cases hcommit : a = .commitDeprecation deprecation.packageId
  · subst hcommit
    simp only [serviceStep, bind_eq_ok, found_eq_ok, pure_eq_ok] at hstep
    obtain ⟨-, -, s₁, -, rfl⟩ := hstep
    exact absurd rfl (Table.mem_erase.mp hmem).2
  · cases serviceStep_move hstep with
    | deprecating projectId targetId packageId reason deprecation' deprecations hbegin hinsert =>
      obtain ⟨hid, ⟨package, hpackage, hactive⟩, hunused⟩ := beginDeprecation_ok hbegin
      rcases (Table.mem_insert? hinsert).mp hmem with hold | rfl
      · exact .old hold hcommit
      · subst hid
        exact .new package projectId targetId reason rfl rfl rfl rfl hpackage hactive hunused
    | deprecated => exact .old (Table.mem_erase.mp hmem).1 hcommit
    | undeprecated => exact .old (Table.mem_erase.mp hmem).1 hcommit
    | _ => exact .old hmem hcommit

/-! ### What a step does to the row of a package -/

/-- How the row of a package that was there may change. -/
inductive StatusMove (s : Service) (a : ServiceAction) :
    AutomationPackageRecord → AutomationPackageRecord → Prop
  | kept (package : AutomationPackageRecord) : StatusMove s a package package
  | recorded (package package' : AutomationPackageRecord) (recordId : UUID)
      (payload : AutomationPackageSupplyChainVerificationCreate)
      (moment : Instant) (projectId targetId : UUID) (principal : SupplyChainVerifierPrincipal)
      (policy : SupplyChainPolicy) :
      a = .recordReport moment recordId projectId targetId package.id payload principal policy →
      package'.status = package.status → package'.supplyChainStatus = payload.outcome.status →
      StatusMove s a package package'
  | activated (package package' : AutomationPackageRecord) (runId : UUID) (run : TestRunRecord)
      (baseline : CaseBaselineRecord) : package.status = .draft →
      package.supplyChainStatus = .verified → PackageGate s.db package.id runId run baseline →
      package'.status = .active → package'.supplyChainStatus = .verified →
      StatusMove s a package package'
  | deprecated (package package' : AutomationPackageRecord) : a = .commitDeprecation package.id →
      (∃ deprecation ∈ s.deprecations, deprecation.packageId = package.id) →
      package'.status = .deprecated → package'.supplyChainStatus = package.supplyChainStatus →
      StatusMove s a package package'
  | revoked (package package' : AutomationPackageRecord) (projectId targetId : UUID)
      (reason : String) : a = .revoke projectId targetId package.id reason →
      s.deprecations.get? package.id = none → package'.status = .revoked →
      package'.supplyChainStatus = package.supplyChainStatus → StatusMove s a package package'

/-- The row of a package that was there makes one of these moves. -/
theorem statusMove (hstep : serviceStep P lib s a = .ok s') {packageId : UUID}
    {package : AutomationPackageRecord} (hpackage : s.db.packages.get? packageId = some package) :
    ∃ package', s'.db.packages.get? packageId = some package' ∧ StatusMove s a package package' := by
  have hid := Table.key_of_get? hpackage
  subst hid
  cases serviceStep_packages hstep with
  | kept hkept =>
    rw [hkept.1]
    exact ⟨package, hpackage, .kept package⟩
  | registered packageId projectId targetId payload draft supersedesId hinsert =>
    refine ⟨package, Table.get?_key ((Table.mem_insert? hinsert).mpr (.inl ?_)), .kept package⟩
    exact Table.mem_of_get? hpackage
  | recorded moment recordId projectId targetId packageId payload principal policy package₀ envelope
      hpackage₀ huse hinsert hrecorded =>
    cases hrecorded with
    | again existing hexisting hpackages =>
      dsimp only at hpackages
      rw [hpackages]
      exact ⟨package, hpackage, .kept package⟩
    | first hnew hdigest hverifications hpackages =>
      dsimp only at hpackages
      rw [hpackages, Table.get?_modify]
      by_cases hid : package.id = packageId
      · subst hid
        rw [if_pos rfl, hpackage]
        exact ⟨_, rfl, .recorded package _ recordId payload moment projectId targetId principal policy
          rfl rfl rfl⟩
      · rw [if_neg hid]
        exact ⟨package, hpackage, .kept package⟩
  | activated now projectId targetId packageId runId actorId package₀ run baseline hpackage₀ hdraft
      hverified hgate hpackages =>
    rw [hpackages, Table.get?_modify]
    by_cases hid : package.id = packageId
    · subst hid
      obtain rfl := Option.some.inj (hpackage.symm.trans hpackage₀)
      rw [if_pos rfl, hpackage]
      exact ⟨_, rfl, .activated package _ runId run baseline hdraft hverified hgate rfl hverified⟩
    · rw [if_neg hid]
      exact ⟨package, hpackage, .kept package⟩
  | deprecated packageId deprecation hdeprecation hpackages =>
    rw [hpackages, setPackageStatus, Table.get?_modify]
    by_cases hid : package.id = packageId
    · subst hid
      rw [if_pos rfl, hpackage]
      obtain ⟨hmem, hkey⟩ := Table.get?_eq_some.mp hdeprecation
      exact ⟨_, rfl, .deprecated package _ rfl ⟨deprecation, hmem, hkey⟩ rfl rfl⟩
    · rw [if_neg hid]
      exact ⟨package, hpackage, .kept package⟩
  | revoked projectId targetId packageId reason hfree hpackages =>
    rw [hpackages, setPackageStatus, Table.get?_modify]
    by_cases hid : package.id = packageId
    · subst hid
      rw [if_pos rfl, hpackage]
      exact ⟨_, rfl, .revoked package _ projectId targetId reason rfl hfree rfl rfl⟩
    · rw [if_neg hid]
      exact ⟨package, hpackage, .kept package⟩

/-- A package that was not there is a draft that waits, or active without any report. -/
theorem new_package (hstep : serviceStep P lib s a = .ok s') {packageId : UUID}
    {package' : AutomationPackageRecord} (hnone : s.db.packages.get? packageId = none)
    (hpackage' : s'.db.packages.get? packageId = some package') :
    (package'.status = .draft ∨ package'.status = .active) ∧
      (package'.supplyChainStatus = .pending ∨ package'.supplyChainStatus = .legacy) := by
  obtain ⟨hmem', rfl⟩ := Table.get?_eq_some.mp hpackage'
  have hold : ∀ package ∈ s.db.packages, package.id ≠ package'.id := Table.get?_eq_none.mp hnone
  cases serviceStep_packages hstep with
  | registered packageId projectId targetId payload draft supersedesId hinsert =>
    rcases (Table.mem_insert? hinsert).mp hmem' with hmem | rfl
    · exact absurd rfl (hold package' hmem)
    · cases draft
      · exact ⟨.inr rfl, .inr rfl⟩
      · exact ⟨.inl rfl, .inl rfl⟩
  | kept hkept =>
    rw [hkept.1] at hmem'
    exact absurd rfl (hold package' hmem')
  | recorded _ _ _ _ _ _ _ _ _ _ _ _ _ hrecorded =>
    cases hrecorded with
    | again _ _ hpackages =>
      dsimp only at hpackages
      rw [hpackages] at hmem'
      exact absurd rfl (hold package' hmem')
    | first _ _ _ hpackages =>
      dsimp only at hpackages
      rw [hpackages] at hmem'
      obtain ⟨package, hmem, hid⟩ := Table.keys_modify package' hmem'
      exact absurd hid (hold package hmem)
  | activated _ _ _ _ _ _ _ _ _ _ _ _ _ hpackages =>
    rw [hpackages] at hmem'
    obtain ⟨package, hmem, hid⟩ := Table.keys_modify package' hmem'
    exact absurd hid (hold package hmem)
  | deprecated _ _ _ hpackages =>
    rw [hpackages] at hmem'
    obtain ⟨package, hmem, hid⟩ := Table.keys_modify package' hmem'
    exact absurd hid (hold package hmem)
  | revoked _ _ _ _ _ hpackages =>
    rw [hpackages] at hmem'
    obtain ⟨package, hmem, hid⟩ := Table.keys_modify package' hmem'
    exact absurd hid (hold package hmem)

theorem deprecationsHold_reachable (h : (service P lib).Reachable s) : DeprecationsHold s := by
  refine h.invariant (p := DeprecationsHold) ?_ ?_
  · rintro s rfl deprecation hmem
    exact absurd hmem Table.not_mem_empty
  · intro s a s' hstep hi deprecation hmem
    cases deprecation_origin hstep hmem with
    | old hold hcommit =>
      obtain ⟨package, hpackage, hactive⟩ := hi deprecation hold
      obtain ⟨package', hpackage', hmove⟩ := statusMove hstep hpackage
      have hid := Table.key_of_get? hpackage
      refine ⟨package', hpackage', ?_⟩
      cases hmove with
      | kept => exact hactive
      | recorded _ _ _ _ _ _ _ _ _ hstatus => exact hstatus.trans hactive
      | activated _ _ _ _ hdraft =>
        rw [hactive] at hdraft
        cases hdraft
      | deprecated _ haction =>
        rw [hid] at haction
        exact absurd haction hcommit
      | revoked _ _ _ _ _ hfree =>
        rw [hid] at hfree
        exact absurd rfl (Table.get?_eq_none.mp hfree deprecation hold)
    | new package _ _ _ _ hdb _ _ hpackage hactive =>
      rw [hdb]
      exact ⟨package, hpackage, hactive⟩

/-! ### Revocation and activation -/

/-- A revoked package stays revoked. -/
theorem revoked_step (hs : (service P lib).Reachable s) (hstep : serviceStep P lib s a = .ok s')
    {packageId : UUID}
    (h : ∃ package, s.db.packages.get? packageId = some package ∧ package.status = .revoked) :
    ∃ package, s'.db.packages.get? packageId = some package ∧ package.status = .revoked := by
  obtain ⟨package, hpackage, hrevoked⟩ := h
  obtain ⟨package', hpackage', hmove⟩ := statusMove hstep hpackage
  have hid := Table.key_of_get? hpackage
  refine ⟨package', hpackage', ?_⟩
  cases hmove with
  | kept => exact hrevoked
  | recorded _ _ _ _ _ _ _ _ _ hstatus => exact hstatus.trans hrevoked
  | activated _ _ _ _ hdraft =>
    rw [hrevoked] at hdraft
    cases hdraft
  | deprecated _ _ hheld =>
    -- whoever deprecates a package holds it, and it is active
    obtain ⟨deprecation, hmem, hkey⟩ := hheld
    obtain ⟨active, hactive, hstatus⟩ := deprecationsHold_reachable hs deprecation hmem
    rw [hkey, hid, hpackage] at hactive
    obtain rfl := Option.some.inj hactive
    rw [hrevoked] at hstatus
    cases hstatus
  | revoked _ _ _ _ _ _ hstatus => exact hstatus

/-- A run validates a package when it has passed over all enabled cases of a released baseline. -/
def Validates (db : Database) (packageId : UUID) (run : TestRunRecord) : Prop :=
  run ∈ db.runs ∧ run.automationPackageId = packageId ∧ run.status = .passed ∧
    ∃ baseline ∈ db.baselines, baseline.baselineId = run.baselineId ∧
      baseline.status = .released ∧ run.snapshot.cases = baseline.document.enabledCases

theorem executes_sessions {s : Sessions} (h : (sessions P).Reachable s) :
    ∀ run ∈ s.core.db.runs, Executes s.core.db.baselines run :=
  (sessions_invariant (p := fun db => (∀ baseline ∈ db.baselines, BaselineShape P baseline) ∧
      ∀ run ∈ db.runs, Executes db.baselines run)
    ⟨fun _ hmem => absurd hmem Table.not_mem_empty, fun _ hmem => absurd hmem Table.not_mem_empty⟩
    (fun _ _ _ hw hi => ⟨baselineShape_write hw hi.1, executes_write hw hi.1 hi.2⟩) h).2

/-- The run that opens the gate of a package validates it. -/
theorem PackageGate.validates (hs : (service P lib).Reachable s) {packageId runId : UUID}
    {run : TestRunRecord} {baseline : CaseBaselineRecord}
    (h : PackageGate s.db packageId runId run baseline) : Validates s.db packageId run := by
  have hrun := Table.mem_of_get? h.runStored
  refine ⟨hrun, h.package, h.passed, baseline, Table.mem_of_get? h.baselineStored,
    Table.key_of_get? h.baselineStored, h.released, ?_⟩
  exact (executes_sessions (service_sessions hs) run hrun).full h.baselineStored h.full

/-- A draft becomes active only when it is verified and a run validates it. -/
theorem activation_step (hs : (service P lib).Reachable s)
    (hstep : serviceStep P lib s a = .ok s') {packageId : UUID}
    {package package' : AutomationPackageRecord}
    (hpackage : s.db.packages.get? packageId = some package) (hdraft : package.status = .draft)
    (hpackage' : s'.db.packages.get? packageId = some package')
    (hactive : package'.status = .active) :
    package.supplyChainStatus = .verified ∧ ∃ run, Validates s.db packageId run := by
  obtain ⟨package₁, hpackage₁, hmove⟩ := statusMove hstep hpackage
  obtain rfl := Option.some.inj (hpackage'.symm.trans hpackage₁)
  cases hmove with
  | kept =>
    rw [hdraft] at hactive
    cases hactive
  | recorded _ _ _ _ _ _ _ _ _ hstatus =>
    rw [hstatus, hdraft] at hactive
    cases hactive
  | activated _ runId run baseline _ hverified hgate =>
    obtain rfl := Table.key_of_get? hpackage
    exact ⟨hverified, run, hgate.validates hs⟩
  | deprecated _ _ _ hstatus =>
    rw [hstatus] at hactive
    cases hactive
  | revoked _ _ _ _ _ _ hstatus =>
    rw [hstatus] at hactive
    cases hactive

/-! ### Sessions that have read a package -/

/-- A run may use the package. -/
structure Usable (package : AutomationPackageRecord) : Prop where
  status : package.status ≠ .revoked
  admitted : package.supplyChainStatus ≠ .rejected

/-- The session has read the package: it has loaded the row, or composed a run from it. -/
def HasRead (packageId : UUID) (creation : Creation) : Prop :=
  (∃ copy ∈ creation.loaded.package, copy.id = packageId) ∨
    ∃ plan ∈ creation.plan, plan.automationPackageId = packageId

instance (packageId : UUID) (creation : Creation) : Decidable (HasRead packageId creation) :=
  inferInstanceAs (Decidable ((∃ copy, copy ∈ creation.loaded.package ∧ copy.id = packageId) ∨
    ∃ plan, plan ∈ creation.plan ∧ plan.automationPackageId = packageId))

/-- The action withdraws the package: it revokes it, or rejects it with a report. -/
def ServiceAction.withdraws : ServiceAction → Option UUID
  | .revoke _ _ packageId _ => some packageId
  | .recordReport _ _ _ _ packageId payload _ _ =>
    if payload.outcome = .rejected then some packageId else none
  | _ => none

/-- No package is withdrawn while a session that has read it is creating a run. -/
def WithdrawsUnread (s : Service) (a : ServiceAction) : Prop :=
  ∀ packageId ∈ a.withdraws, ∀ creation ∈ s.sessions.creations, ¬HasRead packageId creation

instance (s : Service) (a : ServiceAction) : Decidable (WithdrawsUnread s a) :=
  inferInstanceAs (Decidable (∀ packageId ∈ a.withdraws, ∀ creation ∈ s.sessions.creations,
    ¬HasRead packageId creation))

/-- Unless a step withdraws a package, it stays usable. -/
theorem usable_step (hstep : serviceStep P lib s a = .ok s') {packageId : UUID}
    {package' : AutomationPackageRecord}
    (hpackage' : s'.db.packages.get? packageId = some package')
    (hread : ∀ id ∈ a.withdraws, id ≠ packageId) :
    Usable package' ∨ ∃ package, s.db.packages.get? packageId = some package ∧
      (package'.status = .revoked → package.status = .revoked) ∧
      (package'.supplyChainStatus = .rejected → package.supplyChainStatus = .rejected) := by
  cases hpackage : s.db.packages.get? packageId with
  | none =>
    obtain ⟨hstatus, hadmitted⟩ := new_package hstep hpackage hpackage'
    refine .inl ⟨?_, ?_⟩
    · rcases hstatus with hstatus | hstatus
      · rw [hstatus]; decide
      · rw [hstatus]; decide
    · rcases hadmitted with hadmitted | hadmitted
      · rw [hadmitted]; decide
      · rw [hadmitted]; decide
  | some package =>
    obtain ⟨package₁, hpackage₁, hmove⟩ := statusMove hstep hpackage
    obtain rfl := Option.some.inj (hpackage'.symm.trans hpackage₁)
    have hid := Table.key_of_get? hpackage
    refine .inr ⟨package, rfl, ?_⟩
    cases hmove with
    | kept => exact ⟨id, id⟩
    | recorded _ recordId payload moment projectId targetId principal policy haction hstatus
        hadmitted =>
      refine ⟨fun hrevoked => hstatus ▸ hrevoked, fun hrejected => ?_⟩
      have houtcome : payload.outcome = .rejected := by
        cases houtcome : payload.outcome with
        | verified =>
          rw [hadmitted, houtcome] at hrejected
          cases hrejected
        | rejected => rfl
      subst haction
      exact absurd hid (hread package.id (if_pos houtcome))
    | activated _ runId run baseline hdraft hverified hgate hactive hstatus =>
      refine ⟨fun hrevoked => ?_, fun hrejected => ?_⟩
      · rw [hactive] at hrevoked
        cases hrevoked
      · rw [hstatus] at hrejected
        cases hrejected
    | deprecated _ haction hheld hdeprecated hstatus =>
      refine ⟨fun hrevoked => ?_, fun hrejected => hstatus ▸ hrejected⟩
      rw [hdeprecated] at hrevoked
      cases hrevoked
    | revoked _ projectId targetId reason haction =>
      subst haction
      exact absurd hid (hread package.id rfl)

/-- No command creates a run of a revoked package. -/
theorem beginCreation_statuses {call : CreationCall} {key : String} {actorId : UUID}
    {db' : Database} {creation : Creation}
    (h : beginCreation call key actorId db = .ok (db', some creation)) {payload : RunCreate}
    {baselineStatuses : List BaselineStatus} {packageStatuses : List PackageStatus}
    {scheduleId : Option UUID} {scheduledFor : Option Instant}
    (hrequest : creation.request =
      .run payload baselineStatuses packageStatuses scheduleId scheduledFor) :
    PackageStatus.revoked ∉ packageStatuses := by
  cases call with
  | createRun =>
    cases h
    cases hrequest
    decide
  | createAutomationPackageValidationRun =>
    simp only [beginCreation, bind_eq_ok, pure_eq_ok, Prod.mk.injEq, Option.some.injEq] at h
    obtain ⟨_, _, _, _, _, _, _, _, rfl, rfl⟩ := h
    cases hrequest
    decide
  | createRerun =>
    simp only [beginCreation, bind_eq_ok, pure_eq_ok, Prod.mk.injEq, Option.some.injEq] at h
    obtain ⟨_, _, _, _, rfl, rfl⟩ := h
    cases hrequest
  | createCandidateRun =>
    simp only [beginCreation, bind_eq_ok, pure_eq_ok, Prod.mk.injEq, Option.some.injEq] at h
    obtain ⟨_, _, _, _, rfl, rfl⟩ := h
    cases hrequest
    decide
  | createValidationRun =>
    simp only [beginCreation, bind_eq_ok] at h
    obtain ⟨_, _, _, _, h⟩ := h
    split at h
    · cases h
    · simp only [bind_eq_ok] at h
      obtain ⟨current, -, h⟩ := h
      cases current with
      | some run => cases h
      | none =>
        cases h
        cases hrequest
        decide
  | schedule =>
    cases h
    cases hrequest
    decide

/-- What a plan says about the package it was composed from. -/
theorem compose_package {checkedAt now : Instant} {runId : UUID} {creation : Creation}
    {plan : RunPlan}
    (hstatuses : ∀ payload baselineStatuses packageStatuses scheduleId scheduledFor,
      creation.request = .run payload baselineStatuses packageStatuses scheduleId scheduledFor →
      PackageStatus.revoked ∉ packageStatuses)
    (h : creation.compose P checkedAt now runId db = .ok plan) :
    ∃ package, db.packages.get? plan.automationPackageId = some package ∧ Usable package := by
  have hadmitted : ∀ package : AutomationPackageRecord,
      package.supplyChainStatus.executable = true → package.supplyChainStatus ≠ .rejected := by
    intro package hexecutable hrejected
    rw [hrejected] at hexecutable
    cases hexecutable
  rw [Creation.compose] at h
  split at h
  · rename_i payload baselineStatuses packageStatuses scheduleId scheduledFor hrequest
    simp only [planRun, bind_eq_ok, ensure_eq_ok, found_eq_ok, pure_eq_ok] at h
    obtain ⟨project, -, target, -, -, -, environment, -, -, -, baseline, -, -, -, -, -, package,
      hpackage, -, -, -, hstatus, -, hexecutable, -, -, cases, -, -, -, webConfig, -, -, -,
      supplyChain, -, -, -, rfl⟩ := h
    have hid := Table.key_of_get? hpackage
    refine ⟨package, by rw [hid]; exact hpackage, fun hrevoked => ?_, hadmitted package hexecutable⟩
    rw [hrevoked] at hstatus
    exact hstatuses _ _ _ _ _ hrequest hstatus
  · simp only [planRerun, bind_eq_ok, ensure_eq_ok, found_eq_ok, pure_eq_ok] at h
    obtain ⟨project, -, -, -, target, -, environment, -, package, hpackage, -, hstatus, -,
      hexecutable, cases, -, -, -, rfl⟩ := h
    exact ⟨package, hpackage, hstatus, hadmitted package hexecutable⟩

/-- What the sessions have read of their packages still holds. -/
structure PackageReads (s : Service) : Prop where
  statuses : ∀ creation ∈ s.sessions.creations,
    ∀ payload baselineStatuses packageStatuses scheduleId scheduledFor,
    creation.request = .run payload baselineStatuses packageStatuses scheduleId scheduledFor →
    PackageStatus.revoked ∉ packageStatuses
  loaded : ∀ creation ∈ s.sessions.creations, ∀ copy ∈ creation.loaded.package,
    ∀ package, s.db.packages.get? copy.id = some package →
    (package.status = .revoked → copy.status = .revoked) ∧
      (package.supplyChainStatus = .rejected → copy.supplyChainStatus = .rejected)
  planned : ∀ creation ∈ s.sessions.creations, ∀ plan ∈ creation.plan,
    ∀ package, s.db.packages.get? plan.automationPackageId = some package → Usable package

/-- Where the plan of a session comes from: it had it before, or it has just composed it. -/
inductive PlanOrigin (P : Primitives) (s s' : Sessions) (plan : RunPlan) : Prop
  | old (before : Creation) : before ∈ s.creations → before.plan = some plan →
      PlanOrigin P s s' plan
  | new (before : Creation) (checkedAt now : Instant) (runId : UUID) : before ∈ s.creations →
      before.compose P checkedAt now runId (before.loaded.view s.core.db) = .ok plan →
      s'.core = s.core → PlanOrigin P s s' plan

theorem plan_origin {s s' : Sessions} {a : SessionAction} (h : sessionStep P s a = .ok s')
    {creation : Creation} (hcreation : creation ∈ s'.creations) {plan : RunPlan}
    (hplan : creation.plan = some plan) : PlanOrigin P s s' plan := by
  cases sessionStep_move h with
  | quiet _ hsublist => exact .old creation (hsublist.subset hcreation) hplan
  | begun call key actorId begun hbegun =>
    rcases List.mem_append.mp hcreation with hold | hnew
    · exact .old creation hold hplan
    · rw [List.mem_singleton.mp hnew, hbegun.plan] at hplan
      cases hplan
  | planned index checkedAt now runId before plan' hbefore _ _ hcompose =>
    have hset := (creations_perm hbefore).2 { before with plan := some plan' }
    rcases List.mem_cons.mp (hset.mem_iff.mp hcreation) with rfl | hold
    · cases hplan
      exact .new before checkedAt now runId (List.mem_of_getElem? hbefore) hcompose rfl
    · exact .old creation ((List.eraseIdx_sublist _ _).subset hold) hplan
  | created index =>
    exact .old creation ((List.eraseIdx_sublist _ _).subset hcreation) hplan

theorem service_plan (h : serviceStep P lib s a = .ok s') {creation : Creation}
    (hcreation : creation ∈ s'.sessions.creations) {plan : RunPlan}
    (hplan : creation.plan = some plan) : PlanOrigin P s.sessions s'.sessions plan := by
  obtain heq | ⟨action, hstep⟩ := serviceStep_sessions h
  · rw [heq] at hcreation
    exact .old creation hcreation hplan
  · exact plan_origin hstep hcreation hplan

theorem packageReads_step (hi : PackageReads s) (hguard : WithdrawsUnread s a)
    (hstep : serviceStep P lib s a = .ok s') : PackageReads s' := by
  -- a package that a session has read is not withdrawn in this step
  have hkept : ∀ packageId, (∃ creation ∈ s.sessions.creations, HasRead packageId creation) →
      ∀ package', s'.db.packages.get? packageId = some package' → Usable package' ∨
      ∃ package, s.db.packages.get? packageId = some package ∧
        (package'.status = .revoked → package.status = .revoked) ∧
        (package'.supplyChainStatus = .rejected → package.supplyChainStatus = .rejected) := by
    rintro packageId ⟨creation, hcreation, hread⟩ package' hpackage'
    refine usable_step hstep hpackage' fun id hid heq => ?_
    subst heq
    exact hguard id hid creation hcreation hread
  constructor
  · intro creation hcreation payload baselineStatuses packageStatuses scheduleId scheduledFor
      hrequest
    cases service_creation hstep hcreation with
    | old before hbefore hsame =>
      exact hi.statuses before hbefore _ _ _ _ _ (hsame.trans hrequest)
    | new call key actorId hcall => exact beginCreation_statuses hcall hrequest
  · intro creation hcreation copy hcopy package' hpackage'
    cases service_creation hstep hcreation with
    | old before hbefore hrequest hloaded =>
      rw [← hloaded] at hcopy
      obtain husable | ⟨package, hpackage, hstatus, hadmitted⟩ :=
        hkept copy.id ⟨before, hbefore, .inl ⟨copy, hcopy, rfl⟩⟩ package' hpackage'
      · exact ⟨fun hrevoked => absurd hrevoked husable.status,
          fun hrejected => absurd hrejected husable.admitted⟩
      · obtain ⟨hcopyStatus, hcopyAdmitted⟩ := hi.loaded before hbefore copy hcopy package hpackage
        exact ⟨fun hrevoked => hcopyStatus (hstatus hrevoked),
          fun hrejected => hcopyAdmitted (hadmitted hrejected)⟩
    | new call key actorId hcall hbegun hcore =>
      have hstored := hbegun.package copy hcopy
      rw [show s'.db = s.db from congrArg State.db hcore] at hpackage'
      obtain rfl := Option.some.inj (hstored.symm.trans hpackage')
      exact ⟨id, id⟩
  · intro creation hcreation plan hplan package' hpackage'
    cases service_plan hstep hcreation hplan with
    | old before hbefore hbeforePlan =>
      obtain husable | ⟨package, hpackage, hstatus, hadmitted⟩ :=
        hkept plan.automationPackageId ⟨before, hbefore, .inr ⟨plan, hbeforePlan, rfl⟩⟩ package'
          hpackage'
      · exact husable
      · have husable := hi.planned before hbefore plan hbeforePlan package hpackage
        exact ⟨fun hrevoked => husable.status (hstatus hrevoked),
          fun hrejected => husable.admitted (hadmitted hrejected)⟩
    | new before checkedAt now runId hbefore hcompose hcore =>
      rw [show s'.db = s.db from congrArg State.db hcore] at hpackage'
      obtain ⟨read, hread, husable⟩ := compose_package (hi.statuses before hbefore) hcompose
      rw [LoadedRows.view, Table.get?_overlay] at hread
      rw [show s.sessions.core.db.packages.get? plan.automationPackageId = some package' from
        hpackage', Option.map_some] at hread
      cases hloaded : before.loaded.package with
      | none =>
        simp only [hloaded, Option.some.injEq] at hread
        exact hread ▸ husable
      | some copy =>
        simp only [hloaded, Option.some.injEq] at hread
        split at hread
        · rename_i hid
          subst hread
          rw [← hid] at hpackage'
          obtain ⟨hstatus, hadmitted⟩ := hi.loaded before hbefore copy hloaded package' hpackage'
          exact ⟨fun hrevoked => husable.status (hstatus hrevoked),
            fun hrejected => husable.admitted (hadmitted hrejected)⟩
        · exact hread ▸ husable

theorem packageReads_reachable (h : ((service P lib).restrict WithdrawsUnread).Reachable s) :
    PackageReads s := by
  refine h.invariant (p := PackageReads) ?_ ?_
  · rintro s rfl
    exact ⟨fun _ hmem => absurd hmem List.not_mem_nil, fun _ hmem => absurd hmem List.not_mem_nil,
      fun _ hmem => absurd hmem List.not_mem_nil⟩
  · rintro s a s' ⟨hguard, hstep⟩ hi
    exact packageReads_step hi hguard hstep

/-! ### New runs -/

/-- A run comes in from the plan of a session. -/
theorem new_run {s s' : Sessions} {a : SessionAction} (h : sessionStep P s a = .ok s')
    {run : TestRunRecord} (hrun : run ∈ s'.core.db.runs)
    (hnew : s.core.db.runs.get? run.id = none) :
    ∃ creation ∈ s.creations, ∃ plan, creation.plan = some plan ∧ run = plan.run P := by
  cases sessionStep_move h with
  | quiet hwrites =>
    obtain ⟨before, hbefore, hid, -⟩ :=
      runs_quiet (hwrites.mono fun _ => SessionAction.allows_quiet) run hrun
    exact absurd hid (Table.get?_eq_none.mp hnew before hbefore)
  | begun => exact absurd rfl (Table.get?_eq_none.mp hnew run hrun)
  | planned => exact absurd rfl (Table.get?_eq_none.mp hnew run hrun)
  | created index now outboxId creation plan queued core hcreation hplan hqueue =>
    obtain ⟨-, -, -, runs, runEvents, runCases, outbox, hdb, hinsert, -⟩ :=
      queueSnapshotRun_ok hqueue
    rw [show core.db.runs = runs from congrArg Database.runs hdb] at hrun
    rcases (Table.mem_insert? hinsert).mp hrun with hold | rfl
    · exact absurd rfl (Table.get?_eq_none.mp hnew run hold)
    · exact ⟨creation, List.mem_of_getElem? hcreation, plan, hplan, rfl⟩

theorem service_new_run (h : serviceStep P lib s a = .ok s') {run : TestRunRecord}
    (hrun : run ∈ s'.db.runs) (hnew : s.db.runs.get? run.id = none) :
    ∃ creation ∈ s.sessions.creations, ∃ plan, creation.plan = some plan ∧ run = plan.run P := by
  obtain heq | ⟨action, hstep⟩ := serviceStep_sessions h
  · rw [show s'.db.runs = s.db.runs by rw [Service.db, heq]] at hrun
    exact absurd rfl (Table.get?_eq_none.mp hnew run hrun)
  · exact new_run hstep hrun hnew

/-- A revoked package stays revoked; a draft becomes active only when it is verified and a run
    validates it; and where no package is withdrawn while a session that has read it is creating a
    run, no run comes in for a package that is revoked or rejected. -/
theorem package_lifecycle (hs : (service P lib).Reachable s) :
    (∀ s', (service P lib).Steps s s' → ∀ packageId,
      (∃ package, s.db.packages.get? packageId = some package ∧ package.status = .revoked) →
      ∃ package, s'.db.packages.get? packageId = some package ∧ package.status = .revoked) ∧
    (∀ a s', serviceStep P lib s a = .ok s' → ∀ packageId package package',
      s.db.packages.get? packageId = some package → package.status = .draft →
      s'.db.packages.get? packageId = some package' → package'.status = .active →
      package.supplyChainStatus = .verified ∧ ∃ run, Validates s.db packageId run) ∧
    (((service P lib).restrict WithdrawsUnread).Reachable s →
      ∀ a s', serviceStep P lib s a = .ok s' → ∀ run ∈ s'.db.runs, s.db.runs.get? run.id = none →
      ∀ package, s.db.packages.get? run.automationPackageId = some package → Usable package) := by
  refine ⟨fun s' hsteps packageId hrevoked => ?_, fun a s' hstep packageId package package' hpackage
    hdraft hpackage' hactive => activation_step hs hstep hpackage hdraft hpackage' hactive, ?_⟩
  · refine hsteps.preserves hs (p := fun s => ∃ package,
      s.db.packages.get? packageId = some package ∧ package.status = .revoked) ?_ hrevoked
    exact fun _ _ _ hreach hstep hi => revoked_step hreach hstep hi
  · intro hguarded a s' hstep run hrun hnew package hpackage
    obtain ⟨creation, hcreation, plan, hplan, rfl⟩ := service_new_run hstep hrun hnew
    exact (packageReads_reachable hguarded).planned creation hcreation plan hplan package hpackage

namespace Installation

/-- A session that is about to create run 20 with package 4. -/
def composeRun : List ServiceAction :=
  [.session (.begin (.createRun ⟨1, 2, 3, 10, 4, [], none⟩) "run" 100),
    .session (.plan 0 0 0 20)]

def commitRun : ServiceAction := .session (.commit 0 0 30)

/-- Run 20 comes in, and package 4 satisfies `p` at that moment. -/
def RunsPackage (p : AutomationPackageRecord → Prop) (s s' : Service) : Prop :=
  (s.db.runs.get? 20 = none ∧ ∃ run ∈ s'.db.runs.rows, run.id = 20 ∧ run.automationPackageId = 4) ∧
    ∃ package, s.db.packages.get? 4 = some package ∧ p package

instance {p : AutomationPackageRecord → Prop} [DecidablePred p] {s s' : Service} :
    Decidable (RunsPackage p s s') :=
  inferInstanceAs (Decidable ((_ ∧ ∃ run ∈ s'.db.runs.rows, _) ∧ ∃ package,
    s.db.packages.get? 4 = some package ∧ p package))

end Installation

open Installation in
/-- Run 20 is created with package 4 in a run that withdraws nothing. -/
theorem package_lifecycle_commitRun : ∃ s s', (service primitives cronLibrary).Reachable s ∧
    serviceStep primitives cronLibrary s commitRun = .ok s' ∧ RunsPackage Usable s s' := by
  have hrun : Ends (guarded (serviceStep primitives cronLibrary) WithdrawsUnread noTask)
      Service.init (serviceSetUp ++ composeRun) fun s =>
      Ends (serviceStep primitives cronLibrary) s [commitRun] fun s' =>
        RunsPackage (fun _ => True) s s' := by
    decide
  obtain ⟨s, hs, hend⟩ := hrun.exists_guarded
  obtain ⟨s', hstep, ⟨hfresh, run, hmem, hid, hpackageId⟩, package, hpackage, -⟩ :=
    ends_singleton.mp hend
  refine ⟨s, s', hs.of_restrict, hstep, ⟨hfresh, run, hmem, hid, hpackageId⟩, package, hpackage, ?_⟩
  refine (package_lifecycle hs.of_restrict).2.2 hs _ _ hstep run hmem ?_ package ?_
  · rw [hid]
    exact hfresh
  · rw [hpackageId]
    exact hpackage

open Installation in
/-- Package 4 is revoked after a session has read it; the session still creates its run. -/
theorem revoked_package_runs : ∃ s s', (service primitives cronLibrary).Reachable s ∧
    serviceStep primitives cronLibrary s commitRun = .ok s' ∧
    RunsPackage (fun package => package.status = .revoked) s s' := by
  have hrun : Ends (serviceStep primitives cronLibrary) Service.init
      (serviceSetUp ++ composeRun ++ [.revoke 1 2 4 "leaked"]) fun s =>
      Ends (serviceStep primitives cronLibrary) s [commitRun] fun s' =>
        RunsPackage (fun package => package.status = .revoked) s s' := by
    decide +kernel
  obtain ⟨s, hs, hend⟩ :=
    hrun.exists_reachable (S := service primitives cronLibrary) (fun _ _ _ _ hstep => hstep) rfl
  obtain ⟨s', hstep, hruns⟩ := ends_singleton.mp hend
  exact ⟨s, s', hs, hstep, hruns⟩

end TestOps

import TestOps.Invariants.PackageLifecycle

/-! Schedules and the packages they use. A deprecation looks for ACTIVE schedules, and a schedule is
    written with an ACTIVE package; but an update that sends no resource checks none, and the two
    transactions do not see each other:

      deprecate   no ACTIVE schedule uses the package   ──▸  DEPRECATED
      resume      nothing is checked                    ──▸  ACTIVE, on a DEPRECATED package

    Kept apart, they keep the rule. -/

namespace TestOps

open Checked Relational Transition System

variable {P : Primitives} {lib : CronLibrary} {s s' : Service} {a : ServiceAction}

/-! ### Where rows and tasks come from -/

/-- The row a transaction is going to store. -/
def ScheduleWork.record : ScheduleWork → Option RegressionScheduleRecord
  | .create record | .update record => some record
  | .occurrence _ | .manual _ => none

/-- The row of a schedule is the one that was there, but for its firings, or one that a transaction
    has stored. -/
inductive ScheduleOrigin (s : Service) (schedule' : RegressionScheduleRecord) : Prop
  | kept (schedule : RegressionScheduleRecord) : schedule ∈ s.schedules →
      schedule'.status = schedule.status →
      schedule'.automationPackageId = schedule.automationPackageId → ScheduleOrigin s schedule'
  | stored (task : ScheduleTask) (record : RegressionScheduleRecord) : task ∈ s.tasks →
      task.work.record = some record → schedule'.status = record.status →
      schedule'.automationPackageId = record.automationPackageId → ScheduleOrigin s schedule'

theorem scheduleOrigin_of_modify {scheduleId : UUID}
    {f : RegressionScheduleRecord → RegressionScheduleRecord}
    {hf : KeepsKey RegressionScheduleRecord.id f}
    (hstatus : ∀ record, (f record).status = record.status)
    (hpackage : ∀ record, (f record).automationPackageId = record.automationPackageId)
    {schedule' : RegressionScheduleRecord} (hmem : schedule' ∈ s.schedules.modify scheduleId f hf) :
    ScheduleOrigin s schedule' := by
  obtain ⟨schedule, hschedule, rfl⟩ := Table.mem_modify.mp hmem
  by_cases hid : schedule.id = scheduleId
  · rw [if_pos hid]
    exact .kept schedule hschedule (hstatus schedule) (hpackage schedule)
  · rw [if_neg hid]
    exact .kept schedule hschedule rfl rfl

theorem schedule_origin (hstep : serviceStep P lib s a = .ok s')
    {schedule' : RegressionScheduleRecord} (hmem : schedule' ∈ s'.schedules) :
    ScheduleOrigin s schedule' := by
  cases serviceStep_move hstep with
  | inserted scheduleId record schedules htask hinsert =>
    rcases (Table.mem_insert? hinsert).mp hmem with hold | rfl
    · exact .kept schedule' hold rfl rfl
    · exact .stored _ schedule' (Table.mem_of_get? htask) rfl rfl rfl
  | updated scheduleId record htask =>
    obtain ⟨schedule, hschedule, rfl⟩ := Table.mem_modify.mp hmem
    by_cases hid : schedule.id = scheduleId
    · rw [if_pos hid]
      exact .stored _ record (Table.mem_of_get? htask) rfl rfl rfl
    · rw [if_neg hid]
      exact .kept schedule hschedule rfl rfl
  | advanced =>
    refine scheduleOrigin_of_modify (fun record => ?_) (fun record => ?_) hmem
    · rfl
    · rfl
  | settled _ _ outcome =>
    refine scheduleOrigin_of_modify (fun record => ?_) (fun record => ?_) hmem
    · cases outcome <;> rfl
    · cases outcome <;> rfl
  | triggered =>
    refine scheduleOrigin_of_modify (fun record => ?_) (fun record => ?_) hmem
    · rfl
    · rfl
  | _ => exact .kept schedule' hmem rfl rfl

/-- A task was there before, or its transaction has just begun. -/
inductive TaskOrigin (lib : CronLibrary) (s : Service) (task : ScheduleTask) :
    ServiceAction → Prop
  | old {a : ServiceAction} : task ∈ s.tasks → TaskOrigin lib s task a
  | creating (now : Instant) (scheduleId projectId : UUID) (payload : RegressionScheduleCreate)
      (actorId : UUID) (record : RegressionScheduleRecord) :
      task = ⟨scheduleId, .create record⟩ →
      createRegressionSchedule lib now scheduleId projectId payload actorId s.db = .ok record →
      TaskOrigin lib s task (.createSchedule now scheduleId projectId payload actorId)
  | updating (now : Instant) (projectId scheduleId : UUID) (payload : RegressionScheduleUpdate)
      (record updated : RegressionScheduleRecord) : task = ⟨scheduleId, .update updated⟩ →
      s.schedules.get? scheduleId = some record →
      updateRegressionSchedule lib now projectId payload record s.db = .ok updated →
      TaskOrigin lib s task (.updateSchedule now projectId scheduleId payload)
  | firing {a : ServiceAction} (record : RegressionScheduleRecord) (scheduledFor : Instant)
      (work : ScheduleWork) : task = ⟨record.id, work⟩ →
      s.schedules.get? record.id = some record → Fires lib s a record scheduledFor work →
      TaskOrigin lib s task a

theorem task_origin (hstep : serviceStep P lib s a = .ok s') {task : ScheduleTask}
    (hmem : task ∈ s'.tasks) : TaskOrigin lib s task a := by
  cases serviceStep_move hstep with
  | creating now scheduleId projectId payload actorId record tasks hrecord hinsert =>
    rcases (Table.mem_insert? hinsert).mp hmem with hold | rfl
    · exact .old hold
    · exact .creating now scheduleId projectId payload actorId record rfl hrecord
  | updating now projectId scheduleId payload record updated tasks hstored hupdated hinsert =>
    rcases (Table.mem_insert? hinsert).mp hmem with hold | rfl
    · exact .old hold
    · exact .updating now projectId scheduleId payload record updated rfl hstored hupdated
  | begun record scheduledFor key actorId work creation tasks evaluations hstored hfires hcreation
      hbegin hinsert =>
    rcases (Table.mem_insert? hinsert).mp hmem with hold | rfl
    · exact .old hold
    · exact .firing record scheduledFor work rfl hstored hfires
  | inserted => exact .old (Table.mem_erase.mp hmem).1
  | updated => exact .old (Table.mem_erase.mp hmem).1
  | settled => exact .old (Table.mem_erase.mp hmem).1
  | triggered => exact .old (Table.mem_erase.mp hmem).1
  | abandoned => exact .old (Table.mem_erase.mp hmem).1
  | _ => exact .old hmem

/-! ### The use of a package -/

/-- An ACTIVE schedule uses the package, or a transaction is going to store one that does. -/
inductive Uses (s : Service) (packageId : UUID) : Prop
  | schedule (schedule : RegressionScheduleRecord) : schedule ∈ s.schedules →
      schedule.status = .active → schedule.automationPackageId = packageId → Uses s packageId
  | task (task : ScheduleTask) (record : RegressionScheduleRecord) : task ∈ s.tasks →
      task.work.record = some record → record.status = .active →
      record.automationPackageId = packageId → Uses s packageId

/-- The package is neither deprecated nor about to be. -/
structure InService (s : Service) (packageId : UUID) : Prop where
  status : ∀ package, s.db.packages.get? packageId = some package → package.status ≠ .deprecated
  undisputed : s.deprecations.get? packageId = none

/-- Deprecations and the transactions that use a package do not overlap, and no schedule is resumed on
    a deprecated package. -/
def KeepsApart (s : Service) : ServiceAction → Prop
  | .beginDeprecation _ _ packageId _ => ∀ task ∈ s.tasks.rows, ∀ record ∈ task.work.record,
      record.status = .active → record.automationPackageId ≠ packageId
  | .createSchedule _ _ _ payload _ =>
    payload.active = true → s.deprecations.get? payload.automationPackageId = none
  | .updateSchedule _ _ scheduleId payload => ∀ record ∈ s.schedules.get? scheduleId,
      (payload.apply record).status = .active →
      s.deprecations.get? (payload.apply record).automationPackageId = none ∧
      (record.status ≠ .active → payload.setsResources = false →
        ∀ package ∈ s.db.packages.get? record.automationPackageId, package.status ≠ .deprecated)
  | _ => True

instance (s : Service) (a : ServiceAction) : Decidable (KeepsApart s a) := by
  cases a <;> unfold KeepsApart <;> infer_instance

/-- An update that sends no resource leaves the package of its schedule as it is. -/
theorem apply_package {payload : RegressionScheduleUpdate} {record : RegressionScheduleRecord}
    (h : payload.setsResources = false) :
    (payload.apply record).automationPackageId = record.automationPackageId := by
  simp only [RegressionScheduleUpdate.setsResources, Bool.or_eq_false_iff,
    Option.isSome_eq_false_iff, Option.isNone_iff_eq_none] at h
  simp only [RegressionScheduleUpdate.apply, h.1.2, Option.getD_none]

/-- A package stays in service in a step that does not begin to deprecate it. -/
theorem InService.step {packageId : UUID} (hi : InService s packageId)
    (hstep : serviceStep P lib s a = .ok s')
    (hbegin : ∀ deprecation ∈ s'.deprecations, deprecation.packageId = packageId →
      deprecation ∈ s.deprecations) : InService s' packageId where
  status := by
    intro package' hpackage' hdeprecated
    cases hpackage : s.db.packages.get? packageId with
    | none =>
      obtain ⟨hstatus | hstatus, -⟩ := new_package hstep hpackage hpackage'
      · rw [hdeprecated] at hstatus
        cases hstatus
      · rw [hdeprecated] at hstatus
        cases hstatus
    | some package =>
      obtain ⟨package₁, hpackage₁, hmove⟩ := statusMove hstep hpackage
      obtain rfl := Option.some.inj (hpackage'.symm.trans hpackage₁)
      have hid := Table.key_of_get? hpackage
      cases hmove with
      | kept => exact hi.status package' hpackage hdeprecated
      | recorded _ _ _ _ _ _ _ _ _ hstatus =>
        exact hi.status package hpackage (hstatus ▸ hdeprecated)
      | activated _ _ _ _ _ _ _ hstatus =>
        rw [hdeprecated] at hstatus
        cases hstatus
      | deprecated _ _ hheld =>
        obtain ⟨deprecation, hmem, hkey⟩ := hheld
        exact Table.get?_eq_none.mp hi.undisputed deprecation hmem (hkey.trans hid)
      | revoked _ _ _ _ _ _ hstatus =>
        rw [hdeprecated] at hstatus
        cases hstatus
  undisputed := by
    refine Table.get?_eq_none.mpr fun deprecation hmem hkey => ?_
    exact Table.get?_eq_none.mp hi.undisputed deprecation (hbegin deprecation hmem hkey) hkey

/-- Every package that a schedule uses is in service. -/
def UsesInService (s : Service) : Prop := ∀ packageId, Uses s packageId → InService s packageId

/-- A transaction that uses a package finds it in service, when it is kept apart. -/
theorem task_use (hi : UsesInService s) (hguard : KeepsApart s a) {task : ScheduleTask}
    {record : RegressionScheduleRecord} (horigin : TaskOrigin lib s task a)
    (hrecord : task.work.record = some record) (hactive : record.status = .active) :
    InService s record.automationPackageId := by
  cases horigin with
  | old hmem => exact hi _ (.task task record hmem hrecord hactive rfl)
  | creating now scheduleId projectId payload actorId created htask hcreate =>
    subst htask
    cases hrecord
    obtain ⟨nextFireAt, rfl, -, package, hpackage, hstatus⟩ := createRegressionSchedule_ok hcreate
    constructor
    · intro package' hpackage'
      obtain rfl := Option.some.inj (hpackage.symm.trans hpackage')
      rw [hstatus]
      decide
    · refine hguard ?_
      by_contra hpaused
      rw [RegressionScheduleCreate.row, if_neg hpaused] at hactive
      cases hactive
  | updating now projectId scheduleId payload old updated htask hstored hupdate =>
    subst htask
    cases hrecord
    obtain ⟨nextFireAt, rfl, -, hvalid⟩ := updateRegressionSchedule_ok hupdate
    obtain ⟨hundisputed, hresumed⟩ := hguard old hstored hactive
    refine ⟨fun package hpackage => ?_, hundisputed⟩
    by_cases hsets : payload.setsResources = true
    · obtain ⟨package', hpackage', hstatus⟩ := hvalid hsets
      obtain rfl := Option.some.inj (hpackage.symm.trans hpackage')
      rw [hstatus]
      decide
    · have hsets := Bool.eq_false_iff.mpr hsets
      dsimp only at hpackage
      rw [apply_package hsets] at hpackage
      by_cases hold : old.status = .active
      · exact (hi _ (.schedule old (Table.mem_of_get? hstored) hold rfl)).status package hpackage
      · exact hresumed hold hsets package hpackage
  | firing fired scheduledFor work htask hstored hfires =>
    subst htask
    cases hfires with
    | occurrence => cases hrecord
    | manual => cases hrecord

theorem usesInService_step (hi : UsesInService s) (hguard : KeepsApart s a)
    (hstep : serviceStep P lib s a = .ok s') : UsesInService s' := by
  intro packageId huses
  have hservice : InService s packageId := by
    cases huses with
    | schedule schedule' hmem hactive hpackage =>
      cases schedule_origin hstep hmem with
      | kept schedule hschedule hstatus hsame =>
        exact hi _ (.schedule schedule hschedule (hstatus ▸ hactive) (hsame ▸ hpackage))
      | stored task record htask hrecord hstatus hsame =>
        exact hi _ (.task task record htask hrecord (hstatus ▸ hactive) (hsame ▸ hpackage))
    | task task record hmem hrecord hactive hpackage =>
      exact hpackage ▸ task_use hi hguard (task_origin hstep hmem) hrecord hactive
  refine hservice.step hstep fun deprecation hmem hkey => ?_
  cases deprecation_origin hstep hmem with
  | old hold => exact hold
  | new package projectId targetId reason haction hdb hschedules htasks hpackage hactive hunused =>
    -- a deprecation that begins now has found no use of its package
    subst haction
    rw [hkey] at hguard hunused
    cases huses with
    | schedule schedule hschedule hstatus hid =>
      rw [hschedules] at hschedule
      exact absurd hstatus (hunused schedule hschedule hid)
    | task task record htask hrecord hstatus hid =>
      rw [htasks] at htask
      exact absurd hid (hguard task htask record hrecord hstatus)

/-- In every run that keeps deprecations and the transactions that use a package apart, no ACTIVE
    schedule uses a deprecated package. -/
theorem active_schedules_in_service (h : ((service P lib).restrict KeepsApart).Reachable s) :
    ∀ schedule ∈ s.schedules, schedule.status = .active →
    ∀ package, s.db.packages.get? schedule.automationPackageId = some package →
      package.status ≠ .deprecated := by
  have hservice : UsesInService s := by
    refine h.invariant (p := UsesInService) ?_ ?_
    · rintro s rfl packageId huses
      cases huses with
      | schedule schedule hschedule => exact absurd hschedule Table.not_mem_empty
      | task task record htask => exact absurd htask Table.not_mem_empty
    · rintro s a s' ⟨hguard, hstep⟩ hi
      exact usesInService_step hi hguard hstep
  intro schedule hschedule hactive package hpackage
  exact (hservice _ (.schedule schedule hschedule hactive rfl)).status package hpackage

namespace Installation

/-- Schedule 70 runs package 4 every night. -/
def nightly : RegressionScheduleCreate where
  key := "nightly"
  targetId := 2
  environmentId := 3
  baselineId := 10
  automationPackageId := 4
  caseCodes := []
  cronExpression := "0 3 * * *"
  timezone := "UTC"
  misfirePolicy := .fireOnce
  misfireGraceSeconds := 300
  active := true

/-- Send nothing but a status. -/
def setStatus (status : ScheduleStatus) : RegressionScheduleUpdate :=
  ⟨none, none, none, none, none, none, none, none, none, some status⟩

def createNightly : List ServiceAction := [.createSchedule 0 70 1 nightly 100, .commitSchedule 70]

def pauseNightly : List ServiceAction :=
  [.updateSchedule 0 1 70 (setStatus .paused), .commitSchedule 70]

def resumeNightly : List ServiceAction :=
  [.updateSchedule 0 1 70 (setStatus .active), .commitSchedule 70]

def deprecatePackage : List ServiceAction :=
  [.beginDeprecation 1 2 4 "superseded", .commitDeprecation 4]

end Installation

open Installation in
/-- Schedule 70 is paused and resumed, each in a transaction of its own. -/
theorem active_schedules_in_service_nightly : ∃ s, (service primitives cronLibrary).Reachable s ∧
    ∃ schedule ∈ s.schedules.rows, schedule.status = .active ∧
      ∃ package, s.db.packages.get? schedule.automationPackageId = some package ∧
        package.status ≠ .deprecated := by
  have hrun : Ends (guarded (serviceStep primitives cronLibrary) KeepsApart noTask) Service.init
      (serviceSetUp ++ createNightly ++ pauseNightly ++ resumeNightly) fun s =>
      ∃ schedule ∈ s.schedules.rows, schedule.status = .active ∧
        (s.db.packages.get? schedule.automationPackageId).isSome := by
    decide +kernel
  obtain ⟨s, hs, schedule, hschedule, hactive, hsome⟩ := hrun.exists_guarded
  obtain ⟨package, hpackage⟩ := Option.isSome_iff_exists.mp hsome
  exact ⟨s, hs.of_restrict, schedule, hschedule, hactive, package, hpackage,
    active_schedules_in_service hs schedule hschedule hactive package hpackage⟩

open Installation in
/-- Paused, schedule 70 does not keep package 4 from being deprecated, and it is resumed without a
    look at the package. -/
theorem resumed_schedule_uses_deprecated : ∃ s, (service primitives cronLibrary).Reachable s ∧
    ∃ schedule ∈ s.schedules.rows, schedule.status = .active ∧
      ∃ package, s.db.packages.get? schedule.automationPackageId = some package ∧
        package.status = .deprecated := by
  have hrun : Ends (serviceStep primitives cronLibrary) Service.init
      (serviceSetUp ++ createNightly ++ pauseNightly ++ deprecatePackage ++ resumeNightly) fun s =>
      ∃ schedule ∈ s.schedules.rows, schedule.status = .active ∧
        ∃ package, s.db.packages.get? schedule.automationPackageId = some package ∧
          package.status = .deprecated := by
    decide +kernel
  exact hrun.exists_reachable (S := service primitives cronLibrary)
    (fun _ _ _ _ hstep => hstep) rfl

end TestOps

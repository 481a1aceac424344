import TestOps.Invariants.Gates
import TestOps.Invariants.ServiceSteps

/-! What a step does to the packages. Registrations, reports, activations and withdrawals each write
    one row; every other step leaves the packages and the reports about them alone:

      registered   a package comes in, a draft or an active one
      recorded     a report is stored, and decides about its package the first time
      activated    a verified draft that has passed its gate becomes active
      deprecated   an active package goes out of use
      revoked      a package is forbidden

    A session that creates a run may have loaded a package before; its copy is a row that was stored
    at that moment. -/

namespace TestOps

open Checked Relational Transition

variable {P : Primitives} {lib : CronLibrary} {db db' : Database}

/-! ### Writes that leave packages alone -/

/-- Neither packages nor reports have changed. -/
def PackagesKept (db db' : Database) : Prop :=
  db'.packages = db.packages ∧ db'.verifications = db.verifications

theorem PackagesKept.trans {a b c : Database} (hab : PackagesKept a b) (hbc : PackagesKept b c) :
    PackagesKept a c :=
  ⟨hbc.1.trans hab.1, hbc.2.trans hab.2⟩

theorem packages_kept {effect : Effect} (hw : Write P effect db db')
    (hconfigured : effect ≠ .configured)
    (hactivated : ∀ packageId runId, effect ≠ .packageActivated packageId runId) :
    PackagesKept db db' := by
  cases hw with
  | configured => exact absurd rfl hconfigured
  | packageActivated => exact absurd rfl (hactivated _ _)
  | _ => exact ⟨rfl, rfl⟩

/-- The action neither configures the service nor activates a package. -/
def SessionAction.keepsPackages : SessionAction → Bool
  | .other (.configure _) | .other (.activateAutomationPackage ..) => false
  | _ => true

theorem SessionAction.keepsPackages_of_allows {a : SessionAction} {effect : Effect}
    (h : a.allows effect) (hkeeps : a.keepsPackages = true) : effect ≠ .configured ∧
      ∀ packageId runId, effect ≠ .packageActivated packageId runId := by
  cases a with
  | other action =>
    obtain ⟨-, hallowed⟩ := h
    constructor
    · rintro rfl
      cases action <;> simp_all [Action.allows, SessionAction.keepsPackages]
    · rintro packageId runId rfl
      cases action <;> simp_all [Action.allows, SessionAction.keepsPackages]
  | abandon => exact h.elim
  | _ =>
    constructor
    · rintro rfl
      cases h
    · rintro packageId runId rfl
      cases h

theorem sessionStep_packages {s s' : Sessions} {a : SessionAction}
    (h : sessionStep P s a = .ok s') (hkeeps : a.keepsPackages = true) :
    PackagesKept s.core.db s'.core.db := by
  cases sessionStep_move h with
  | quiet hwrites =>
    refine hwrites.rel (r := PackagesKept) (fun _ => ⟨rfl, rfl⟩) (fun _ _ _ => .trans) ?_
    intro effect b c hallowed hw
    obtain ⟨hconfigured, hactivated⟩ := SessionAction.keepsPackages_of_allows hallowed hkeeps
    exact packages_kept hw hconfigured hactivated
  | begun => exact ⟨rfl, rfl⟩
  | planned => exact ⟨rfl, rfl⟩
  | created index now outboxId creation plan run core hcreation hplan hqueue =>
    obtain ⟨-, -, -, runs, runEvents, runCases, outbox, hdb, -⟩ := queueSnapshotRun_ok hqueue
    rw [hdb]
    exact ⟨rfl, rfl⟩

theorem Fired.packages {s : Service} {scheduleId : UUID} {work : ScheduleWork}
    {sessions : Sessions} {runId : Option UUID}
    (h : Fired P s scheduleId work sessions runId) :
    PackagesKept s.db sessions.core.db := by
  cases h with
  | atOnce => exact ⟨rfl, rfl⟩
  | ended _ _ _ _ _ hstep => exact sessionStep_packages hstep rfl
  | created _ _ _ _ _ _ _ _ _ hstep => exact sessionStep_packages hstep rfl

/-! ### The moves of the packages -/

/-- A package that is activated was a verified draft, and the gate was open. -/
theorem activateAutomationPackage_draft {now : Instant}
    {projectId targetId packageId runId actorId : UUID}
    (h : activateAutomationPackage now projectId targetId packageId runId actorId db = .ok db') :
    db' = db ∨ ∃ package run baseline, db.packages.get? packageId = some package ∧
      package.status = .draft ∧ package.supplyChainStatus = .verified ∧
      PackageGate db packageId runId run baseline ∧
      db' = { db with
        packages := db.packages.modify packageId (activatedPackage now runId actorId) } := by
  obtain ⟨rfl, -⟩ | ⟨run, baseline, hgate, hdb⟩ := activateAutomationPackage_ok h
  · exact .inl rfl
  · simp only [activateAutomationPackage, bind_eq_ok, ensure_eq_ok, found_eq_ok] at h
    obtain ⟨package, hpackage, -, -, h⟩ := h
    split at h
    · simp only [pure_eq_ok] at h
      exact .inl h.symm
    · simp only [bind_eq_ok, ensure_eq_ok] at h
      obtain ⟨-, hdraft, -, hverified, -⟩ := h
      exact .inr ⟨package, run, baseline, hpackage, hdraft, hverified, hgate, hdb⟩

/-- What a step does to packages, reports and envelopes. -/
inductive PackageMove (P : Primitives) (s : Service) : ServiceAction → Service → Prop
  | kept {a : ServiceAction} {s' : Service} : PackagesKept s.db s'.db →
      s'.envelopes = s.envelopes → PackageMove P s a s'
  | registered (packageId projectId targetId : UUID) (payload : AutomationPackageCreate)
      (draft : Bool) (supersedesId : Option UUID) {s' : Service} :
      s.db.packages.insert? (newPackage packageId projectId targetId payload draft) =
        some s'.db.packages →
      s'.db.verifications = s.db.verifications → s'.envelopes = s.envelopes →
      PackageMove P s (.createPackage packageId projectId targetId payload draft supersedesId) s'
  | recorded (moment : Instant) (recordId projectId targetId packageId : UUID)
      (payload : AutomationPackageSupplyChainVerificationCreate)
      (principal : SupplyChainVerifierPrincipal) (policy : SupplyChainPolicy)
      (package : AutomationPackageRecord) (envelope : AutomationPackageSupplyChainEnvelopeRecord)
      {s' : Service} : s.db.packages.get? packageId = some package →
      envelope.use = (principal.credentialId, principal.nonce) →
      s.envelopes.insert? envelope = some s'.envelopes →
      RecordedAs P s.db s.envelopes recordId packageId payload package
        ⟨s'.db.packages, s'.db.verifications, s'.envelopes⟩ →
      PackageMove P s
        (.recordReport moment recordId projectId targetId packageId payload principal policy) s'
  | activated (now : Instant) (projectId targetId packageId runId actorId : UUID)
      (package : AutomationPackageRecord) (run : TestRunRecord) (baseline : CaseBaselineRecord)
      {s' : Service} : s.db.packages.get? packageId = some package → package.status = .draft →
      package.supplyChainStatus = .verified → PackageGate s.db packageId runId run baseline →
      s'.db.packages = s.db.packages.modify packageId (activatedPackage now runId actorId) →
      s'.db.verifications = s.db.verifications → s'.envelopes = s.envelopes →
      PackageMove P s (.session (.other (.activateAutomationPackage now projectId targetId packageId
        runId actorId))) s'
  | deprecated (packageId : UUID) (deprecation : Deprecation) {s' : Service} :
      s.deprecations.get? packageId = some deprecation →
      s'.db.packages = setPackageStatus packageId .deprecated deprecation.reason s.db.packages →
      s'.db.verifications = s.db.verifications → s'.envelopes = s.envelopes →
      PackageMove P s (.commitDeprecation packageId) s'
  | revoked (projectId targetId packageId : UUID) (reason : String) {s' : Service} :
      s.deprecations.get? packageId = none →
      s'.db.packages = setPackageStatus packageId .revoked reason s.db.packages →
      s'.db.verifications = s.db.verifications → s'.envelopes = s.envelopes →
      PackageMove P s (.revoke projectId targetId packageId reason) s'

/-- An activation inside the sessions. -/
theorem activation_move {s s' : Service} {sessions : Sessions} {now : Instant}
    {projectId targetId packageId runId actorId : UUID}
    (hs : s' = { s with sessions := sessions })
    (h : sessionStep P s.sessions (.other (.activateAutomationPackage now projectId targetId
      packageId runId actorId)) = .ok sessions) :
    PackageMove P s (.session (.other (.activateAutomationPackage now projectId targetId packageId
      runId actorId))) s' := by
  simp only [sessionStep, step, Action.commit, bind_eq_ok, ensure_eq_ok, pure_eq_ok] at h
  obtain ⟨-, -, core, ⟨db, hcommit, rfl⟩, rfl⟩ := h
  subst hs
  obtain rfl | ⟨package, run, baseline, hpackage, hdraft, hverified, hgate, rfl⟩ :=
    activateAutomationPackage_draft hcommit
  · exact .kept ⟨rfl, rfl⟩ rfl
  · exact .activated now projectId targetId packageId runId actorId package run baseline hpackage
      hdraft hverified hgate rfl rfl rfl

theorem serviceStep_packages {s s' : Service} {a : ServiceAction}
    (h : serviceStep P lib s a = .ok s') : PackageMove P s a s' := by
  cases serviceStep_move h with
  | session action sessions hpermits hstep =>
    by_cases hkeeps : action.keepsPackages = true
    · exact .kept (sessionStep_packages hstep hkeeps) rfl
    · cases action with
      | other action =>
        cases action with
        | configure => cases hpermits
        | activateAutomationPackage => exact activation_move rfl hstep
        | _ => exact absurd rfl hkeeps
      | _ => exact absurd rfl hkeeps
  | configured projects targets environments sessions hstep =>
    simp only [sessionStep, step, Action.commit, configure, bind_eq_ok, ensure_eq_ok,
      pure_eq_ok] at hstep
    obtain ⟨-, -, core, ⟨db, ⟨-, -, rfl⟩, rfl⟩, rfl⟩ := hstep
    exact .kept ⟨rfl, rfl⟩ rfl
  | registered packageId projectId targetId payload draft supersedesId packages hpackages =>
    exact .registered packageId projectId targetId payload draft supersedesId
      (createAutomationPackage_ok hpackages) rfl rfl
  | recorded moment recordId projectId targetId packageId payload principal policy recorded hfree
      hrecorded =>
    obtain ⟨package, envelope, hpackage, huse, hinsert, hrecordedAs⟩ :=
      recordVerification_ok hrecorded
    exact .recorded moment recordId projectId targetId packageId payload principal policy package
      envelope hpackage huse hinsert hrecordedAs
  | revoked projectId targetId packageId reason packages hfree hpackages =>
    obtain rfl | rfl := revokeAutomationPackage_ok hpackages
    · exact .kept ⟨rfl, rfl⟩ rfl
    · exact .revoked projectId targetId packageId reason (Option.isNone_iff_eq_none.mp hfree) rfl
        rfl rfl
  | deprecated packageId deprecation packages hdeprecation hpackages =>
    exact .deprecated packageId deprecation hdeprecation hpackages rfl rfl
  | planned scheduleId checkedAt now runId work index creation sessions hin hstep =>
    exact .kept (sessionStep_packages hstep rfl) rfl
  | settled scheduleId occurrence outcome sessions firings evaluations hdue hfired =>
    exact .kept hfired.packages rfl
  | triggered scheduleId moment runId sessions firing firings hmanual hfired =>
    exact .kept hfired.packages rfl
  | abandoned scheduleId sessions task htask hsessions =>
    obtain ⟨rfl, -⟩ | ⟨index, -, hstep⟩ := hsessions
    · exact .kept ⟨rfl, rfl⟩ rfl
    · exact .kept (sessionStep_packages hstep rfl) rfl
  | _ => exact .kept ⟨rfl, rfl⟩ rfl

/-! ### Copies that sessions have loaded -/

/-- Where a session comes from: it was there before, or it has just loaded its rows. -/
inductive CreationOrigin (s s' : Sessions) (creation : Creation) : Prop
  | old (before : Creation) : before ∈ s.creations → before.request = creation.request →
      before.loaded = creation.loaded → CreationOrigin s s' creation
  | new (call : CreationCall) (key : String) (actorId : UUID) :
      beginCreation call key actorId s.core.db = .ok (s.core.db, some creation) →
      Begun s.core.db creation → s'.core = s.core → CreationOrigin s s' creation

theorem creation_origin {s s' : Sessions} {a : SessionAction} (h : sessionStep P s a = .ok s')
    {creation : Creation} (hcreation : creation ∈ s'.creations) :
    CreationOrigin s s' creation := by
  cases sessionStep_move h with
  | quiet _ hsublist => exact .old creation (hsublist.subset hcreation) rfl rfl
  | begun call key actorId begun hbegun _ hcall =>
    rcases List.mem_append.mp hcreation with hold | hnew
    · exact .old creation hold rfl rfl
    · obtain rfl := List.mem_singleton.mp hnew
      exact .new call key actorId hcall hbegun rfl
  | planned index checkedAt now runId before plan hbefore =>
    have hset := (creations_perm hbefore).2 { before with plan := some plan }
    rcases List.mem_cons.mp (hset.mem_iff.mp hcreation) with rfl | hold
    · exact .old before (List.mem_of_getElem? hbefore) rfl rfl
    · exact .old creation ((List.eraseIdx_sublist _ _).subset hold) rfl rfl
  | created index =>
    exact .old creation ((List.eraseIdx_sublist _ _).subset hcreation) rfl rfl

theorem service_creation {s s' : Service} {a : ServiceAction}
    (h : serviceStep P lib s a = .ok s') {creation : Creation}
    (hcreation : creation ∈ s'.sessions.creations) :
    CreationOrigin s.sessions s'.sessions creation := by
  obtain heq | ⟨action, hstep⟩ := serviceStep_sessions h
  · rw [heq] at hcreation
    exact .old creation hcreation rfl rfl
  · exact creation_origin hstep hcreation

end TestOps

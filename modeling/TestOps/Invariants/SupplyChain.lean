import TestOps.Invariants.PackageSteps

/-! Supply-chain admission. A package says what the report that was recorded last says, and points to
    that report; a report that is submitted again uses up its envelope and decides nothing.

      report 1  VERIFIED   recorded            ──▸  VERIFIED, report 1
      report 2  REJECTED   recorded            ──▸  REJECTED, report 2
      report 1  VERIFIED   recorded before     ──▸  REJECTED, report 2 -/

namespace TestOps

open Checked Relational Transition System

variable {P : Primitives} {lib : CronLibrary} {s s' : Service} {a : ServiceAction}
  {h : List (Event Service ServiceAction)}

/-! ### What a package says -/

/-- The event records a report of the package that was not recorded before. -/
def FirstRecorded (P : Primitives) (packageId : UUID)
    (record : AutomationPackageSupplyChainVerificationRecord)
    (e : Event Service ServiceAction) : Prop :=
  ∃ moment recordId projectId targetId payload principal policy,
    e.action = .recordReport moment recordId projectId targetId packageId payload principal policy ∧
    record = verificationRecord recordId packageId
      (P.canonicalSha256 (.supplyChainReport packageId payload)) payload ∧
    e.before.db.verifications.get? record.id = none ∧
    e.after.db.verifications.get? record.id = some record

/-- No report of the package was recorded: it waits for one, or it needs none. -/
structure Undecided (P : Primitives) (h : List (Event Service ServiceAction))
    (package : AutomationPackageRecord) : Prop where
  unrecorded : ∀ e ∈ h, ∀ record, ¬FirstRecorded P package.id record e
  status : package.supplyChainStatus = .pending ∨ package.supplyChainStatus = .legacy
  evidence : package.supplyChainVerificationId = none

/-- The report that was recorded last decides about the package, and is its evidence. -/
structure Decided (P : Primitives) (h : List (Event Service ServiceAction)) (db : Database)
    (package : AutomationPackageRecord) (record : AutomationPackageSupplyChainVerificationRecord) :
    Prop where
  latest : ∃ later e earlier, h = later ++ e :: earlier ∧
    FirstRecorded P package.id record e ∧
    ∀ e' ∈ later, ∀ record', ¬FirstRecorded P package.id record' e'
  status : package.supplyChainStatus = record.outcome.status
  evidence : package.supplyChainVerificationId = some record.id
  stored : db.verifications.get? record.id = some record
  about : record.automationPackageId = package.id
  digest : record.imageDigest = package.digest

/-- What the history says about a package. -/
def Admission (P : Primitives) (h : List (Event Service ServiceAction)) (db : Database)
    (package : AutomationPackageRecord) : Prop :=
  Undecided P h package ∨ ∃ record, Decided P h db package record

/-- What a lifecycle change leaves alone. -/
structure SameAdmission (package package' : AutomationPackageRecord) : Prop where
  id : package'.id = package.id
  digest : package'.digest = package.digest
  status : package'.supplyChainStatus = package.supplyChainStatus
  evidence : package'.supplyChainVerificationId = package.supplyChainVerificationId

theorem SameAdmission.refl (package : AutomationPackageRecord) : SameAdmission package package :=
  ⟨rfl, rfl, rfl, rfl⟩

/-- Reports stay. -/
def ReportsStay (db db' : Database) : Prop :=
  ∀ id record, db.verifications.get? id = some record → db'.verifications.get? id = some record

/-- A step that records nothing about a package leaves what is known about it. -/
theorem Admission.step {e : Event Service ServiceAction} {db db' : Database}
    {package package' : AutomationPackageRecord} (hi : Admission P h db package)
    (hsame : SameAdmission package package') (hstay : ReportsStay db db')
    (hnew : ∀ record, ¬FirstRecorded P package.id record e) : Admission P (e :: h) db' package' := by
  obtain hundecided | ⟨record, hdecided⟩ := hi
  · refine .inl ⟨?_, by rw [hsame.status]; exact hundecided.status, ?_⟩
    · rw [hsame.id]
      exact List.forall_mem_cons.mpr ⟨hnew, hundecided.unrecorded⟩
    · rw [hsame.evidence, hundecided.evidence]
  · obtain ⟨later, e', earlier, hsplit, hfirst, hlater⟩ := hdecided.latest
    refine .inr ⟨record, ?_⟩
    constructor
    · rw [hsame.id]
      exact ⟨e :: later, e', earlier, by rw [hsplit]; rfl, hfirst,
        List.forall_mem_cons.mpr ⟨hnew, hlater⟩⟩
    · rw [hsame.status, hdecided.status]
    · rw [hsame.evidence, hdecided.evidence]
    · exact hstay record.id record hdecided.stored
    · rw [hsame.id, hdecided.about]
    · rw [hsame.digest, hdecided.digest]

/-! ### Steps -/

/-- Where the row of a package comes from in a step. -/
inductive PackageOrigin (P : Primitives) (s : Service) (a : ServiceAction) (s' : Service)
    (package' : AutomationPackageRecord) : Prop
  | same (package : AutomationPackageRecord) : package ∈ s.db.packages →
      SameAdmission package package' →
      (∀ record, ¬FirstRecorded P package.id record ⟨s, a, s'⟩) → PackageOrigin P s a s' package'
  | new : s.db.packages.get? package'.id = none →
      package'.supplyChainStatus = .pending ∨ package'.supplyChainStatus = .legacy →
      package'.supplyChainVerificationId = none →
      (∀ id record, ¬FirstRecorded P id record ⟨s, a, s'⟩) → PackageOrigin P s a s' package'
  | decided (package : AutomationPackageRecord)
      (record : AutomationPackageSupplyChainVerificationRecord) : package ∈ s.db.packages →
      package'.id = package.id → FirstRecorded P package'.id record ⟨s, a, s'⟩ →
      package'.supplyChainStatus = record.outcome.status →
      package'.supplyChainVerificationId = some record.id →
      record.automationPackageId = package'.id → record.imageDigest = package'.digest →
      PackageOrigin P s a s' package'

/-- A report that comes in is one of a step that records it. -/
theorem not_firstRecorded_of_kept {packageId : UUID}
    {record : AutomationPackageSupplyChainVerificationRecord}
    (hkept : s'.db.verifications = s.db.verifications) :
    ¬FirstRecorded P packageId record ⟨s, a, s'⟩ := by
  rintro ⟨-, -, -, -, -, -, -, -, -, hbefore, hafter⟩
  dsimp only at hbefore hafter
  rw [hkept, hbefore] at hafter
  cases hafter

/-- A change of the lifecycle status keeps the admission. -/
theorem sameAdmission_of_modify {packageId : UUID}
    {f : AutomationPackageRecord → AutomationPackageRecord}
    {hf : KeepsKey AutomationPackageRecord.id f} {packages packages' : Table _}
    (hmodify : packages' = packages.modify packageId f hf)
    (hsame : ∀ package, SameAdmission package (f package))
    {package' : AutomationPackageRecord} (hmem : package' ∈ packages') :
    ∃ package ∈ packages, SameAdmission package package' := by
  subst hmodify
  obtain ⟨package, hpackage, rfl⟩ := Table.mem_modify.mp hmem
  by_cases hid : package.id = packageId
  · rw [if_pos hid]
    exact ⟨package, hpackage, hsame package⟩
  · rw [if_neg hid]
    exact ⟨package, hpackage, .refl package⟩

theorem package_origin (hstep : serviceStep P lib s a = .ok s')
    {package' : AutomationPackageRecord} (hmem : package' ∈ s'.db.packages) :
    PackageOrigin P s a s' package' := by
  cases serviceStep_packages hstep with
  | kept hkept =>
    exact .same package' (hkept.1 ▸ hmem) (.refl _) fun _ => not_firstRecorded_of_kept hkept.2
  | registered packageId projectId targetId payload draft supersedesId hinsert hkept =>
    rcases (Table.mem_insert? hinsert).mp hmem with hold | rfl
    · exact .same package' hold (.refl _) fun _ => not_firstRecorded_of_kept hkept
    · refine .new (Table.get?_of_insert? hinsert) ?_ rfl
        fun _ _ => not_firstRecorded_of_kept hkept
      cases draft
      · exact .inr rfl
      · exact .inl rfl
  | recorded moment recordId projectId targetId packageId payload principal policy package envelope
      hpackage huse hinsert hrecorded =>
    cases hrecorded with
    | again existing hexisting hpackages hverifications =>
      exact .same package' (hpackages ▸ hmem) (.refl _)
        fun _ => not_firstRecorded_of_kept hverifications
    | first hnew hdigest hverifications hpackages =>
      dsimp only at hpackages hverifications
      rw [hpackages] at hmem
      obtain ⟨row, hrow, rfl⟩ := Table.mem_modify.mp hmem
      by_cases hid : row.id = packageId
      · obtain rfl := Option.some.inj (hpackage.symm.trans (Table.get?_eq_some.mpr ⟨hrow, hid⟩))
        subst hid
        rw [if_pos rfl]
        refine .decided package (verificationRecord recordId package.id
          (P.canonicalSha256 (.supplyChainReport package.id payload)) payload) hrow rfl ?_ rfl rfl
          rfl hdigest
        refine ⟨moment, recordId, projectId, targetId, payload, principal, policy, rfl, rfl,
          Table.get?_of_insert? hverifications, ?_⟩
        exact Table.get?_key ((Table.mem_insert? hverifications).mpr (.inr rfl))
      · rw [if_neg hid]
        refine .same row hrow (.refl _) ?_
        rintro record ⟨_, _, _, _, _, _, _, haction, -⟩
        cases haction
        exact hid rfl
  | activated now projectId targetId packageId runId actorId package run baseline hpackage hdraft
      hverified hgate hpackages hkept =>
    obtain ⟨package, hpackage, hsame⟩ :=
      sameAdmission_of_modify hpackages (fun _ => ⟨rfl, rfl, rfl, rfl⟩) hmem
    exact .same package hpackage hsame fun _ => not_firstRecorded_of_kept hkept
  | deprecated packageId deprecation hdeprecation hpackages hkept =>
    obtain ⟨package, hpackage, hsame⟩ :=
      sameAdmission_of_modify hpackages (fun _ => ⟨rfl, rfl, rfl, rfl⟩) hmem
    exact .same package hpackage hsame fun _ => not_firstRecorded_of_kept hkept
  | revoked projectId targetId packageId reason hfree hpackages hkept =>
    obtain ⟨package, hpackage, hsame⟩ :=
      sameAdmission_of_modify hpackages (fun _ => ⟨rfl, rfl, rfl, rfl⟩) hmem
    exact .same package hpackage hsame fun _ => not_firstRecorded_of_kept hkept

theorem reports_stay (hstep : serviceStep P lib s a = .ok s') : ReportsStay s.db s'.db := by
  intro id record hrecord
  cases serviceStep_packages hstep with
  | recorded moment recordId projectId targetId packageId payload principal policy package envelope
      hpackage huse hinsert hrecorded =>
    cases hrecorded with
    | again existing hexisting hpackages hverifications =>
      dsimp only at hverifications
      rw [hverifications]
      exact hrecord
    | first hnew hdigest hverifications hpackages =>
      obtain ⟨hmem, hid⟩ := Table.get?_eq_some.mp hrecord
      exact Table.get?_eq_some.mpr ⟨(Table.mem_insert? hverifications).mpr (.inl hmem), hid⟩
  | kept hkept => rw [hkept.2]; exact hrecord
  | registered _ _ _ _ _ _ _ hkept => rw [hkept]; exact hrecord
  | activated _ _ _ _ _ _ _ _ _ _ _ _ _ _ hkept => rw [hkept]; exact hrecord
  | deprecated _ _ _ _ hkept => rw [hkept]; exact hrecord
  | revoked _ _ _ _ _ _ hkept => rw [hkept]; exact hrecord

/-- A package is never deleted. -/
theorem packages_stay (hstep : serviceStep P lib s a = .ok s') {packageId : UUID}
    (h : (s.db.packages.get? packageId).isSome) : (s'.db.packages.get? packageId).isSome := by
  obtain ⟨package, hpackage⟩ := Option.isSome_iff_exists.mp h
  cases serviceStep_packages hstep with
  | kept hkept =>
    rw [hkept.1]
    exact h
  | registered _ _ _ _ _ _ hinsert =>
    obtain ⟨hmem, rfl⟩ := Table.get?_eq_some.mp hpackage
    rw [Table.get?_key ((Table.mem_insert? hinsert).mpr (.inl hmem))]
    rfl
  | recorded _ _ _ _ _ _ _ _ _ _ _ _ _ hrecorded =>
    cases hrecorded with
    | again _ _ hpackages =>
      dsimp only at hpackages
      rw [hpackages]
      exact h
    | first _ _ _ hpackages =>
      dsimp only at hpackages
      rw [hpackages, Table.isSome_get?_modify]
      exact h
  | activated _ _ _ _ _ _ _ _ _ _ _ _ _ hpackages =>
    rw [hpackages, Table.isSome_get?_modify]
    exact h
  | deprecated _ _ _ hpackages =>
    rw [hpackages, setPackageStatus, Table.isSome_get?_modify]
    exact h
  | revoked _ _ _ _ _ hpackages =>
    rw [hpackages, setPackageStatus, Table.isSome_get?_modify]
    exact h

/-- Reports are about registered packages. -/
theorem FirstRecorded.registered (hstep : serviceStep P lib s a = .ok s') {packageId : UUID}
    {record : AutomationPackageSupplyChainVerificationRecord}
    (h : FirstRecorded P packageId record ⟨s, a, s'⟩) :
    (s.db.packages.get? packageId).isSome := by
  obtain ⟨moment, recordId, projectId, targetId, payload, principal, policy, haction, -, hbefore,
    hafter⟩ := h
  dsimp only at haction hbefore hafter
  cases serviceStep_packages hstep with
  | kept hkept =>
    rw [hkept.2, hbefore] at hafter
    cases hafter
  | recorded _ _ _ _ _ _ _ _ _ _ hpackage =>
    cases haction
    rw [hpackage]
    rfl
  | registered => cases haction
  | activated => cases haction
  | deprecated => cases haction
  | revoked => cases haction

/-- Along every history, every package says what the report recorded last says. -/
theorem admission_history (hh : (service P lib).History h s) :
    (∀ package ∈ s.db.packages, Admission P h s.db package) ∧
      ∀ e ∈ h, ∀ packageId record, FirstRecorded P packageId record e →
        (s.db.packages.get? packageId).isSome := by
  refine hh.invariant (p := fun h s => (∀ package ∈ s.db.packages, Admission P h s.db package) ∧
    ∀ e ∈ h, ∀ packageId record, FirstRecorded P packageId record e →
      (s.db.packages.get? packageId).isSome) ?_ ?_
  · rintro s rfl
    exact ⟨fun _ hmem => absurd hmem Table.not_mem_empty, fun _ hmem => absurd hmem List.not_mem_nil⟩
  · rintro h s a s' hh hstep ⟨hadmission, hregistered⟩
    constructor
    · intro package' hmem
      cases package_origin hstep hmem with
      | same package hpackage hsame hnew =>
        exact (hadmission package hpackage).step hsame (reports_stay hstep) hnew
      | new hfresh hstatus hevidence hnew =>
        -- no report was recorded of a package that was not there
        refine .inl ⟨List.forall_mem_cons.mpr ⟨hnew _, fun e he record hfirst => ?_⟩, hstatus,
          hevidence⟩
        have hstored := hregistered e he _ record hfirst
        rw [hfresh] at hstored
        cases hstored
      | decided package record hpackage hid hfirst hstatus hevidence habout hdigest =>
        refine .inr ⟨record, ⟨[], _, h, rfl, hfirst, fun _ hmem => absurd hmem List.not_mem_nil⟩,
          hstatus, hevidence, ?_, habout, hdigest⟩
        obtain ⟨-, -, -, -, -, -, -, -, -, -, hafter⟩ := hfirst
        exact hafter
    · intro e he packageId record hfirst
      rcases List.mem_cons.mp he with rfl | hearlier
      · exact packages_stay hstep (hfirst.registered hstep)
      · exact packages_stay hstep (hregistered e hearlier packageId record hfirst)

/-! ### What sessions have read -/

/-- A verified package points to the report that verified it. -/
def Evidenced (db : Database) (package : AutomationPackageRecord) : Prop :=
  package.supplyChainStatus = .verified → ∃ record,
    package.supplyChainVerificationId = some record.id ∧
    db.verifications.get? record.id = some record ∧ record.automationPackageId = package.id ∧
    record.outcome = .verified ∧ record.imageDigest = package.digest

theorem Admission.evidenced {db : Database} {package : AutomationPackageRecord}
    (hi : Admission P h db package) : Evidenced db package := by
  intro hverified
  obtain hundecided | ⟨record, hdecided⟩ := hi
  · rcases hundecided.status with hstatus | hstatus
    · rw [hverified] at hstatus
      cases hstatus
    · rw [hverified] at hstatus
      cases hstatus
  · refine ⟨record, hdecided.evidence, hdecided.stored, hdecided.about, ?_, hdecided.digest⟩
    have hstatus := hdecided.status
    rw [hverified] at hstatus
    cases houtcome : record.outcome with
    | verified => rfl
    | rejected =>
      rw [houtcome] at hstatus
      cases hstatus

theorem Evidenced.stays {db db' : Database} {package : AutomationPackageRecord}
    (hi : Evidenced db package) (hstay : ReportsStay db db') : Evidenced db' package := by
  intro hverified
  obtain ⟨record, hpointer, hstored, hrest⟩ := hi hverified
  exact ⟨record, hpointer, hstay _ _ hstored, hrest⟩

/-- The evidence of such a package is consistent. -/
theorem Evidenced.consistent {db : Database} {package : AutomationPackageRecord}
    (hi : Evidenced db package) (message : String) :
    automationPackageSupplyChainRef db package ≠ .error (.resourceConflict message) := by
  intro herror
  rw [automationPackageSupplyChainRef] at herror
  split at herror
  · cases herror
  · by_cases hverified : package.supplyChainStatus = .verified
    · obtain ⟨record, hpointer, hstored, habout, houtcome, hdigest⟩ := hi hverified
      simp only [hpointer, hstored, found, ok_bind, ensure_true hverified,
        ensure_true (show record.automationPackageId = package.id ∧ record.outcome = .verified ∧
          record.imageDigest = package.digest from ⟨habout, houtcome, hdigest⟩)] at herror
      cases herror
    · rw [ensure_false hverified] at herror
      cases herror

/-- A request can read the package as it is stored, or as a session has loaded it. -/
def Readable (s : Service) (package : AutomationPackageRecord) : Prop :=
  package ∈ s.db.packages ∨
    ∃ creation ∈ s.sessions.creations, package ∈ creation.loaded.package

theorem readable_evidenced (hh : (service P lib).History h s) :
    ∀ package, Readable s package → Evidenced s.db package := by
  refine hh.invariant
    (p := fun _ s => ∀ package, Readable s package → Evidenced s.db package) ?_ ?_
  · rintro s rfl package (hmem | ⟨creation, hcreation, -⟩)
    · exact absurd hmem Table.not_mem_empty
    · exact absurd hcreation List.not_mem_nil
  · rintro h s a s' hh hstep hi package (hmem | ⟨creation, hcreation, hcopy⟩)
    · exact ((admission_history (hh.step hstep)).1 package hmem).evidenced
    · refine Evidenced.stays (hi package ?_) (reports_stay hstep)
      cases service_creation hstep hcreation with
      | old before hbefore hrequest hloaded => exact .inr ⟨before, hbefore, hloaded ▸ hcopy⟩
      | new call key actorId hcall hbegun hcore =>
        exact .inl (Table.mem_of_get? (hbegun.package package hcopy))

/-! ### Envelopes -/

/-- The credential and the nonce of the envelope a report comes in. -/
def ServiceAction.envelope : ServiceAction → Option (String × String)
  | .recordReport _ _ _ _ _ _ principal _ => some (principal.credentialId, principal.nonce)
  | _ => none

/-- The envelopes that were accepted, the last one first. -/
def acceptedEnvelopes (h : List (Event Service ServiceAction)) : List (String × String) :=
  h.filterMap fun e => e.action.envelope

/-- An accepted envelope was not used before, and is used from then on. -/
theorem envelope_step (hstep : serviceStep P lib s a = .ok s') :
    (∀ use, (s.envelopes.get? use).isSome → (s'.envelopes.get? use).isSome) ∧
      ∀ use ∈ a.envelope, s.envelopes.get? use = none ∧ (s'.envelopes.get? use).isSome := by
  constructor
  · intro use huse
    cases serviceStep_packages hstep with
    | kept _ hkept => rw [hkept]; exact huse
    | recorded _ _ _ _ _ _ _ _ _ _ _ _ hinsert =>
      obtain ⟨envelope, henvelope⟩ := Option.isSome_iff_exists.mp huse
      obtain ⟨hmem, rfl⟩ := Table.get?_eq_some.mp henvelope
      rw [Table.get?_key ((Table.mem_insert? hinsert).mpr (.inl hmem))]
      rfl
    | registered _ _ _ _ _ _ _ _ hkept => rw [hkept]; exact huse
    | activated _ _ _ _ _ _ _ _ _ _ _ _ _ _ _ hkept => rw [hkept]; exact huse
    | deprecated _ _ _ _ _ hkept => rw [hkept]; exact huse
    | revoked _ _ _ _ _ _ _ hkept => rw [hkept]; exact huse
  · intro use huse
    cases a with
    | recordReport moment recordId projectId targetId packageId payload principal policy =>
      cases huse
      simp only [serviceStep, bind_eq_ok, pure_eq_ok] at hstep
      obtain ⟨-, -, recorded, hrecorded, s₁, -, rfl⟩ := hstep
      obtain ⟨package, envelope, -, huse, hinsert, -⟩ := recordVerification_ok hrecorded
      rw [← huse]
      refine ⟨Table.get?_of_insert? hinsert, ?_⟩
      rw [Table.get?_key ((Table.mem_insert? hinsert).mpr (.inr rfl))]
      rfl
    | _ => cases huse

theorem acceptedEnvelopes_nodup (hh : (service P lib).History h s) :
    (acceptedEnvelopes h).Nodup := by
  refine (hh.invariant (p := fun h s => (acceptedEnvelopes h).Nodup ∧
    ∀ use ∈ acceptedEnvelopes h, (s.envelopes.get? use).isSome) ?_ ?_).1
  · rintro s rfl
    exact ⟨List.nodup_nil, fun _ hmem => absurd hmem List.not_mem_nil⟩
  · rintro h s a s' hh hstep ⟨hnodup, hused⟩
    obtain ⟨hkept, haccepted⟩ := envelope_step hstep
    rw [acceptedEnvelopes, List.filterMap_cons]
    cases hnonce : a.envelope with
    | none => exact ⟨hnodup, fun use hmem => hkept use (hused use hmem)⟩
    | some use =>
      obtain ⟨hfree, htaken⟩ := haccepted use hnonce
      refine ⟨List.nodup_cons.mpr ⟨fun hmem => ?_, hnodup⟩, ?_⟩
      · have hsome := hused use hmem
        rw [hfree] at hsome
        cases hsome
      · exact List.forall_mem_cons.mpr ⟨htaken, fun use' hmem => hkept use' (hused use' hmem)⟩

/-! ### The admission of packages -/

/-- In every run of the service: a package says what the report that was recorded last says, with this
    report as its evidence; the evidence of any package that a request can read is consistent; a
    report that was recorded before changes nothing when it is submitted again; and no envelope is
    accepted twice. -/
theorem supply_chain_admission (hh : (service P lib).History h s) :
    (∀ package ∈ s.db.packages,
      Undecided P h package ∨ ∃ record, Decided P h s.db package record) ∧
    (∀ package, Readable s package → ∀ message,
      automationPackageSupplyChainRef s.db package ≠ .error (.resourceConflict message)) ∧
    (∀ e ∈ h, ∀ moment recordId projectId targetId packageId payload principal policy,
      e.action =
        .recordReport moment recordId projectId targetId packageId payload principal policy →
      (recordedReport e.before.db packageId
        (P.canonicalSha256 (.supplyChainReport packageId payload))).isSome →
      PackagesKept e.before.db e.after.db) ∧
    (acceptedEnvelopes h).Nodup := by
  refine ⟨(admission_history hh).1, fun package hreadable =>
    (readable_evidenced hh package hreadable).consistent, ?_, acceptedEnvelopes_nodup hh⟩
  rintro ⟨s, a, s'⟩ he moment recordId projectId targetId packageId payload principal policy rfl
    hbefore
  cases serviceStep_packages (hh.next _ he) with
  | kept hkept => exact hkept
  | recorded _ _ _ _ _ _ _ _ _ _ _ _ _ hrecorded =>
    cases hrecorded with
    | again existing _ hpackages hverifications => exact ⟨hpackages, hverifications⟩
    | first hnew =>
      dsimp only at hbefore
      rw [hnew] at hbefore
      cases hbefore

open Installation in
/-- Package 5 is verified and then rejected; submitting the first report again does not help it. -/
theorem supply_chain_admission_replay : ∃ h s, (service primitives cronLibrary).History h s ∧
    ∃ package ∈ s.db.packages.rows, package.id = 5 ∧ package.supplyChainStatus = .rejected ∧
      ∃ record, Decided primitives h s.db package record := by
  have hrun : Ends (serviceStep primitives cronLibrary) Service.init
      (serviceSetUp ++ [submitReport 60 5 .verified "first", submitReport 61 5 .rejected "second",
        submitReport 62 5 .verified "third"]) fun s =>
      ∃ package ∈ s.db.packages.rows, package.id = 5 ∧ package.supplyChainStatus = .rejected := by
    decide +kernel
  obtain ⟨s, hs, package, hpackage, hid, hrejected⟩ :=
    hrun.exists_reachable (S := service primitives cronLibrary) (fun _ _ _ _ hstep => hstep) rfl
  obtain ⟨h, hh⟩ := hs.history
  refine ⟨h, s, hh, package, hpackage, hid, hrejected, ?_⟩
  obtain hundecided | hdecided := (supply_chain_admission hh).1 package hpackage
  · rcases hundecided.status with hstatus | hstatus
    · rw [hrejected] at hstatus
      cases hstatus
    · rw [hrejected] at hstatus
      cases hstatus
  · exact hdecided

end TestOps

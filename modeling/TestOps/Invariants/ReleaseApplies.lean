import TestOps.Invariants.BaselineRegistry
import TestOps.Invariants.PackageSteps

/-! What the applies of one release create together. The row of the candidate is written once, and
    so is the package:

      first difference found     request, items, draft row      owner of the candidate
      found again                the same request
      no difference any more     no request

    Whoever has carried the candidate first keeps its identifier for good: an edit moves a request to
    a fresh row, and the row it leaves is never carried again. -/

namespace TestOps

open Checked Relational Transition

variable {P : Primitives} {lib : CronLibrary} {db db' : Database}

/-! ### Packages -/

/-- What no operation changes about a package. -/
def AutomationPackageRecord.identity (package : AutomationPackageRecord) :
    UUID × UUID × String × String × Digest × RunnerType × String :=
  (package.id, package.targetId, package.name, package.version, package.digest, package.runnerType,
    package.imageRepository)

/-- Packages stay in their order, and new ones come last. -/
def PackagesGrow (db db' : Database) : Prop :=
  db.packages.rows.map AutomationPackageRecord.identity <+:
    db'.packages.rows.map AutomationPackageRecord.identity

namespace PackagesGrow

theorem of_eq (h : db'.packages = db.packages) : PackagesGrow db db' := by
  rw [PackagesGrow, h]

theorem trans {a b c : Database} (hab : PackagesGrow a b) (hbc : PackagesGrow b c) :
    PackagesGrow a c := List.IsPrefix.trans hab hbc

theorem insert {package : AutomationPackageRecord}
    (h : db.packages.insert? package = some db'.packages) : PackagesGrow db db' := by
  rw [PackagesGrow, (Table.insert?_eq_some.mp h).2, List.map_append]
  exact List.prefix_append _ _

theorem modify {packageId : UUID} {f : AutomationPackageRecord → AutomationPackageRecord}
    {hf : KeepsKey AutomationPackageRecord.id f}
    (h : db'.packages = db.packages.modify packageId f hf)
    (hidentity : ∀ package, (f package).identity = package.identity) : PackagesGrow db db' := by
  have hsame : (db.packages.modify packageId f hf).rows.map AutomationPackageRecord.identity =
      db.packages.rows.map AutomationPackageRecord.identity := by
    rw [Table.modify_def, Table.modifyWhere_rows, List.map_map]
    refine List.map_congr_left fun package _ => ?_
    simp only [Function.comp_apply]
    split
    · exact hidentity package
    · rfl
  rw [PackagesGrow, h, hsame]

end PackagesGrow

theorem packageByVersion_identity {targetId : UUID} {payload : AutomationPackageCreate} :
    (packageByVersion db targetId payload).map AutomationPackageRecord.identity =
      (db.packages.rows.map AutomationPackageRecord.identity).find? fun identity =>
        identity.2.1 = targetId ∧ identity.2.2.1 = payload.name ∧
          identity.2.2.2.1 = payload.version := by
  rw [packageByVersion, Table.first?, List.find?_map]
  rfl

/-- The package that holds a version keeps it. -/
theorem PackagesGrow.byVersion (h : PackagesGrow db db') {targetId : UUID}
    {payload : AutomationPackageCreate} {package : AutomationPackageRecord}
    (hpackage : packageByVersion db targetId payload = some package) :
    ∃ package', packageByVersion db' targetId payload = some package' ∧
      package'.identity = package.identity := by
  have hidentity := @packageByVersion_identity db targetId payload
  rw [hpackage, Option.map_some] at hidentity
  have hfound := List.IsPrefix.find?_eq_some h hidentity.symm
  rw [← packageByVersion_identity] at hfound
  exact Option.map_eq_some_iff.mp hfound

theorem serviceStep_packagesGrow {s s' : Service} {a : ServiceAction}
    (h : serviceStep P lib s a = .ok s') : PackagesGrow s.db s'.db := by
  cases serviceStep_packages h with
  | kept hkept => exact .of_eq hkept.1
  | registered packageId projectId targetId payload draft supersedesId hinsert =>
    exact .insert hinsert
  | recorded moment recordId projectId targetId packageId payload principal policy package envelope
      hpackage huse hinsert hrecorded =>
    cases hrecorded with
    | again existing hexisting hpackages => exact .of_eq hpackages
    | first hnew hdigest hverifications hpackages => exact .modify hpackages fun _ => rfl
  | activated now projectId targetId packageId runId actorId package run baseline hpackage hdraft
      hverified hgate hpackages => exact .modify hpackages fun _ => rfl
  | deprecated packageId deprecation hdeprecation hpackages =>
    exact .modify hpackages fun _ => rfl
  | revoked projectId targetId packageId reason hdeprecation hpackages =>
    exact .modify hpackages fun _ => rfl

variable {apply : PendingApply} {staging : Staging} {now : Instant} {store store' : ReleaseStore}
variable {response : GitReleaseApplyResponse}

theorem ApplyWrites.packages {changeRequestId : Option UUID}
    (h : ApplyWrites apply db staging db' changeRequestId) : db'.packages = db.packages := by
  cases h with
  | unchanged => rfl
  | stored => rfl
  | imported _ himported => exact himported.packages

theorem PackageStaged.grow {package : AutomationPackageRecord}
    (h : PackageStaged apply db db' package) : PackagesGrow db db' := by
  cases h with
  | stored => exact .of_eq rfl
  | created packages hnone hinsert => exact .insert hinsert

variable {s s' : ReleaseSessions} {a : ReleaseSessionAction}

theorem releaseStep_packagesGrow (h : releaseSessionStep P lib s a = .ok s') :
    PackagesGrow s.db s'.db := by
  cases releaseSessionStep_move h with
  | service now action releases hstep => exact serviceStep_packagesGrow hstep
  | compared => exact .of_eq rfl
  | staged => exact .of_eq rfl
  | committed index now apply staging store db response happly hstaging hcommit hcommitted =>
    exact (PackagesGrow.of_eq hcommitted.registry.packages).trans hcommitted.package.grow
  | abandoned => exact .of_eq rfl

/-- The package of the release is stored. -/
def HasPackage (db : Database) (targetId : UUID) (payload : AutomationPackageCreate)
    (packageId : UUID) : Prop :=
  ∃ package, packageByVersion db targetId payload = some package ∧ package.id = packageId

theorem HasPackage.grow {targetId packageId : UUID} {payload : AutomationPackageCreate}
    (h : HasPackage db targetId payload packageId) (hgrow : PackagesGrow db db') :
    HasPackage db' targetId payload packageId := by
  obtain ⟨package, hpackage, rfl⟩ := h
  obtain ⟨package', hpackage', hidentity⟩ := hgrow.byVersion hpackage
  exact ⟨package', hpackage', congrArg Prod.fst hidentity⟩

/-- After a commit the release has its package. -/
theorem PackageStaged.hasPackage {package : AutomationPackageRecord}
    (h : PackageStaged apply db db' package) :
    HasPackage db' apply.targetId apply.fetched.manifest.automationPackage package.id := by
  cases h with
  | stored _ hpackage => exact ⟨package, hpackage, rfl⟩
  | created packages hnone hinsert =>
    refine ⟨_, ?_, rfl⟩
    have hrows := (Table.insert?_eq_some.mp hinsert).2
    rw [packageByVersion, Table.first?] at hnone ⊢
    simp only [hrows, List.find?_append, hnone]
    simp [newPackage]

theorem PackageStaged.rows {package : AutomationPackageRecord}
    (h : PackageStaged apply db db' package) :
    db'.packages = db.packages ∨ db'.packages.rows = db.packages.rows ++
      [newPackage package.id apply.projectId apply.targetId
        apply.fetched.manifest.automationPackage true] := by
  cases h with
  | stored => exact .inl rfl
  | created packages hnone hinsert => exact .inr (Table.insert?_eq_some.mp hinsert).2

/-- A release that has its package gets no other. -/
theorem PackageStaged.unchanged {packageId : UUID} {package : AutomationPackageRecord}
    (h : PackageStaged apply db db' package)
    (hpackage : HasPackage db apply.targetId apply.fetched.manifest.automationPackage packageId) :
    db' = db ∧ package.id = packageId := by
  obtain ⟨package', hpackage', rfl⟩ := hpackage
  cases h with
  | stored _ hstored => exact ⟨rfl, congrArg _ (Option.some.inj (hstored.symm.trans hpackage'))⟩
  | created packages hnone => cases hnone.symm.trans hpackage'

/-! ### Owners -/

/-- The row of the candidate is stored. -/
def HasRow (db : Database) (baselineId : UUID) : Prop :=
  ∃ row ∈ db.baselines, row.baselineId = baselineId

/-- A stored row is carried by nobody who has not carried it before. -/
structure CarriersKept (db db' : Database) : Prop where
  rows : ∀ baselineId, HasRow db baselineId → HasRow db' baselineId
  carriers : ∀ request' ∈ db'.changeRequests, HasRow db request'.candidateBaselineId →
    ∃ request ∈ db.changeRequests, request.id = request'.id ∧
      request.candidateBaselineId = request'.candidateBaselineId

namespace CarriersKept

theorem of_same (h : RegistrySame db db') : CarriersKept db db' where
  rows baselineId := by
    rw [HasRow, HasRow, h.baselines]
    exact id
  carriers request' hrequest' _ := ⟨request', h.requests ▸ hrequest', rfl, rfl⟩

theorem trans {a b c : Database} (hab : CarriersKept a b) (hbc : CarriersKept b c) :
    CarriersKept a c where
  rows baselineId := hbc.rows baselineId ∘ hab.rows baselineId
  carriers request'' hrequest'' hrow := by
    obtain ⟨request', hrequest', hid', hcandidate'⟩ :=
      hbc.carriers request'' hrequest'' (hab.rows _ hrow)
    obtain ⟨request, hrequest, hid, hcandidate⟩ :=
      hab.carriers request' hrequest' (hcandidate' ▸ hrow)
    exact ⟨request, hrequest, hid.trans hid', hcandidate.trans hcandidate'⟩

end CarriersKept

theorem RowsFollow.hasRow (h : RowsFollow P db db') {baselineId : UUID}
    (hrow : HasRow db baselineId) : HasRow db' baselineId := by
  obtain ⟨row, hmem, rfl⟩ := hrow
  obtain ⟨row', hmem', hid, -⟩ := h.evolves row hmem
  exact ⟨row', hmem', hid⟩

/-- A request that comes in with a fresh row carries no stored one. -/
theorem carriers_insert {request request' : ChangeRequestRecord}
    {requests : ChangeRequestTable} {baselines : BaselineTable} {row : CaseBaselineRecord}
    (hrequests : db.changeRequests.insert? request = some requests)
    (hinsert : db.baselines.insert? row = some baselines)
    (hid : row.baselineId = request.candidateBaselineId) (hmem : request' ∈ requests)
    (hrow : HasRow db request'.candidateBaselineId) : request' ∈ db.changeRequests := by
  rcases (Table.mem_insert? hrequests).mp hmem with hold | rfl
  · exact hold
  · obtain ⟨row', hrow', hsame⟩ := hrow
    exact absurd (hsame.trans hid.symm) ((Table.insert?_eq_some.mp hinsert).1 row' hrow')

theorem carriers_write {effect : Effect} (hw : Write P effect db db') : CarriersKept db db' := by
  refine ⟨fun _ => (rows_write hw).hasRow, fun request' hmem hrow => ?_⟩
  have hsame : (∃ request ∈ db.changeRequests, SameRequest request request') →
      ∃ request ∈ db.changeRequests, request.id = request'.id ∧
        request.candidateBaselineId = request'.candidateBaselineId := by
    rintro ⟨request, hrequest, hcandidacy, -⟩
    exact ⟨request, hrequest, (congrArg Candidacy.requestId hcandidacy).symm,
      (congrArg Candidacy.baselineId hcandidacy).symm⟩
  cases hw with
  | configured | poolCreated | poolUpdated | workersChanged | preferencesChanged
  | deliveriesRewritten | testDeliveriesAdded | outboxChanged | runQueued | slotBound | runStarted
  | eventRecorded | eventLogged | runCanceled | cancelRequested | leaseReleased | leaseAcquired
  | dispatchMarked | packageActivated | baselinePublished =>
    exact ⟨request', hmem, rfl, rfl⟩
  | resultRecorded => exact hsame (pushValidationStatus_same hmem)
  | runRecovered => exact hsame (pushValidationStatus_same hmem)
  | requestCreated requestId projectId payload actorId baseBaselineId candidate items requests
      baselines hitems hrequests hinsert =>
    exact ⟨request', carriers_insert hrequests hinsert rfl hmem hrow, rfl, rfl⟩
  | requestEdited requestId payload request old candidate items baselines hitems hrequest heditable
      hold hdraft hinsert =>
    obtain ⟨request₀, hrequest₀, rfl⟩ := Table.mem_modify.mp hmem
    by_cases hid : request₀.id = requestId
    · rw [if_pos hid] at hrow
      obtain ⟨row, hmem, hsame⟩ := hrow
      have hfresh := (Table.insert?_eq_some.mp hinsert).1 _
        (Table.mem_modify_image (k := request.candidateBaselineId) hmem)
      refine absurd ?_ hfresh
      split
      · exact hsame
      · exact hsame
    · rw [if_neg hid]
      exact ⟨request₀, hrequest₀, rfl, rfl⟩
  | requestReviewed now requestId approval request requests baselines hrequest hstatus hid hother
      hreviewed =>
    generalize approval.decision = decision at hreviewed
    cases hreviewed <;>
    · obtain ⟨request₀, hrequest₀, rfl⟩ := Table.mem_modify.mp hmem
      refine ⟨request₀, hrequest₀, ?_⟩
      split <;> exact ⟨rfl, rfl⟩
  | requestSubmitted | validationSkipped | validationLinked | requestPublished =>
    obtain ⟨request₀, hrequest₀, rfl⟩ := Table.mem_modify.mp hmem
    refine ⟨request₀, hrequest₀, ?_⟩
    split <;> exact ⟨rfl, rfl⟩

theorem Imported.carriers (h : Imported apply db db') (hcompared : Compared P db apply) :
    CarriersKept db db' where
  rows _ := (h.rows hcompared).hasRow
  carriers request' hmem hrow :=
    ⟨request', carriers_insert h.requests h.baselines rfl hmem hrow, rfl, rfl⟩

theorem RegistryState.carriers (hi : RegistryState P s)
    (h : releaseSessionStep P lib s a = .ok s') : CarriersKept s.db s'.db :=
  hi.rel (fun _ _ _ => .trans) (fun _ _ => .of_same) (fun _ _ _ => carriers_write)
    (fun _ _ _ hcompared himported => himported.carriers hcompared) h

instance (baselineId : UUID) : Decidable (HasRow db baselineId) :=
  inferInstanceAs (Decidable (∃ row ∈ db.baselines.rows, row.baselineId = baselineId))

/-- Owners of the rows after a step: those of the stored rows, and the requests that have brought
    new rows in. -/
def nextOwner (owner : UUID → UUID) (db db' : Database) (baselineId : UUID) : UUID :=
  if HasRow db baselineId then owner baselineId
  else ((db'.changeRequests.first? fun request => request.candidateBaselineId = baselineId).map
    ChangeRequestRecord.id).getD baselineId

theorem nextOwner_stored {owner : UUID → UUID} {baselineId : UUID} (h : HasRow db baselineId) :
    nextOwner owner db db' baselineId = owner baselineId := if_pos h

theorem nextOwner_carrier {owner : UUID → UUID}
    (howner : ∀ request ∈ db.changeRequests, owner request.candidateBaselineId = request.id)
    (hkept : CarriersKept db db')
    (hdistinct : ∀ request ∈ db'.changeRequests, ∀ request' ∈ db'.changeRequests,
      request.candidateBaselineId = request'.candidateBaselineId → request = request') :
    ∀ request ∈ db'.changeRequests,
      nextOwner owner db db' request.candidateBaselineId = request.id := by
  intro request hrequest
  by_cases hrow : HasRow db request.candidateBaselineId
  · obtain ⟨request₀, hrequest₀, hid, hcandidate⟩ := hkept.carriers request hrequest hrow
    rw [nextOwner_stored hrow, ← hcandidate, howner request₀ hrequest₀, hid]
  · have hfirst := Table.first?_eq_some_of_unique (t := db'.changeRequests)
      (p := fun other => other.candidateBaselineId = request.candidateBaselineId) hrequest
      (decide_eq_true rfl) fun other hother hsame =>
        hdistinct other hother request hrequest (of_decide_eq_true hsame)
    rw [nextOwner, if_neg hrow, hfirst]
    rfl

/-! ### Applications -/

/-- The apply that an event commits, with its response. -/
def committedApply (e : System.Event ReleaseSessions ReleaseSessionAction) :
    Option (PendingApply × GitReleaseApplyResponse) :=
  match e.action with
  | .commit index now => do
    let apply ← e.before.applies[index]?
    let staging ← apply.staging
    let (_, response) ← (apply.commit staging now e.before.releases.store).toOption
    return (apply, response)
  | _ => none

/-- The event is the commit of an application of the release, which answers with the response. -/
def Applied (projectId targetId : UUID) (fetched : FetchedGitRelease)
    (e : System.Event ReleaseSessions ReleaseSessionAction) (response : GitReleaseApplyResponse) :
    Prop :=
  ∃ apply, committedApply e = some (apply, response) ∧ apply.projectId = projectId ∧
    apply.targetId = targetId ∧ apply.fetched = fetched

variable {projectId targetId : UUID} {fetched : FetchedGitRelease}
variable {e : System.Event ReleaseSessions ReleaseSessionAction}
variable {h events : List (System.Event ReleaseSessions ReleaseSessionAction)}

/-- What is known of an application and of the states around it. -/
structure Application (projectId targetId : UUID) (fetched : FetchedGitRelease)
    (s s' : ReleaseSessions) (apply : PendingApply) (staging : Staging) (now : Instant)
    (db : Database) (response : GitReleaseApplyResponse) : Prop where
  pending : apply ∈ s.applies
  projectId : apply.projectId = projectId
  targetId : apply.targetId = targetId
  fetched : apply.fetched = fetched
  staged : apply.staging = some staging
  committed : Committed apply staging now s.releases.store s'.releases.store db response
  after : s'.releases = ⟨s.releases.service.withDatabase s'.db, s'.releases.columns⟩

theorem Applied.application (h : Applied projectId targetId fetched e response)
    (hnext : releaseSessionStep P lib e.before e.action = .ok e.after) :
    ∃ apply staging now db, Application projectId targetId fetched e.before e.after apply staging
      now db response := by
  obtain ⟨apply, hcommitted, hproject, htarget, hfetched⟩ := h
  obtain ⟨s, a, s'⟩ := e
  rw [committedApply] at hcommitted
  split at hcommitted
  · rename_i index now haction
    obtain rfl : a = .commit index now := haction
    simp only [Option.bind_eq_bind, Option.bind_eq_some_iff, Prod.exists, Option.pure_def,
      Option.some.injEq, Prod.mk.injEq] at hcommitted
    obtain ⟨apply', happly, staging, hstaging, store, response', hanswer, rfl, rfl⟩ := hcommitted
    have hcommit := ok_of_toOption hanswer
    simp only [releaseSessionStep, bind_eq_ok, found_eq_ok, pure_eq_ok, Prod.exists] at hnext
    obtain ⟨apply₁, happly₁, staging₁, hstaging₁, store₁, response₁, hcommit₁, rfl⟩ := hnext
    obtain rfl := Option.some.inj (happly.symm.trans happly₁)
    obtain rfl := Option.some.inj (hstaging.symm.trans hstaging₁)
    obtain ⟨rfl, rfl⟩ := Prod.mk.inj (Except.ok.inj (hcommit.symm.trans hcommit₁))
    obtain ⟨db, hcommitted⟩ := PendingApply.commit_ok hcommit
    exact ⟨apply', staging, now, db, List.mem_of_getElem? happly, hproject, htarget, hfetched,
      hstaging, hcommitted, rfl⟩
  · cases hcommitted

theorem stamp_same (columns : ReleaseColumns) (supersedesId : Option UUID) :
    columns.stamp now supersedesId db db = columns := by
  have hnever : ∀ {α : Type} (x : Option α), (x.isNone && x.isSome) = false := by
    intro α x
    cases x <;> rfl
  simp only [ReleaseColumns.stamp, hnever, Bool.false_eq_true, if_false]

/-- A commit that finds the row and the package of its release changes nothing. -/
theorem Committed.nothing {packageId : UUID}
    (h : Committed apply staging now store store' db response)
    (hrow : HasRow store.db apply.fetched.manifest.baseline.baselineId)
    (hpackage : HasPackage store.db apply.targetId apply.fetched.manifest.automationPackage
      packageId) : store' = store := by
  obtain ⟨hregistry, hstaged, hcolumns, -⟩ := h
  have hdb : db = store.db := by
    generalize response.changeRequestId = changeRequestId at hregistry
    cases hregistry with
    | unchanged => rfl
    | stored => rfl
    | imported _ himported =>
      obtain ⟨row, hmem, hid⟩ := hrow
      exact absurd hid ((Table.insert?_eq_some.mp himported.baselines).1 row hmem)
  subst hdb
  obtain ⟨hdb', -⟩ := hstaged.unchanged hpackage
  rw [hdb', stamp_same] at hcolumns
  cases store
  cases store'
  simp only at hdb' hcolumns
  rw [hdb', hcolumns]

theorem Committed.package_kept {packageId : UUID}
    (h : Committed apply staging now store store' db response)
    (hpackage : HasPackage store.db apply.targetId apply.fetched.manifest.automationPackage
      packageId) :
    store'.db.packages = store.db.packages ∧ response.automationPackage.id = packageId := by
  have hpackages := h.registry.packages
  obtain ⟨hdb, hid⟩ := h.package.unchanged (hpackage.grow (.of_eq hpackages))
  exact ⟨hdb ▸ hpackages, hid⟩

/-! ### Runs -/

/-- The requests own the rows they carry; an application has found, or answered with, the owner of
    its candidate. -/
structure Owned (owner : UUID → UUID) (h : List (System.Event ReleaseSessions ReleaseSessionAction))
    (s : ReleaseSessions) : Prop where
  requests : ∀ request ∈ s.db.changeRequests, owner request.candidateBaselineId = request.id
  staged : ∀ apply ∈ s.applies, ∀ id, apply.staging = some (.stored id) →
    HasRow s.db apply.fetched.manifest.baseline.baselineId ∧
      owner apply.fetched.manifest.baseline.baselineId = id
  answered : ∀ e ∈ h, ∀ projectId targetId fetched response id,
    Applied projectId targetId fetched e response → response.changeRequestId = some id →
      HasRow s.db fetched.manifest.baseline.baselineId ∧
        owner fetched.manifest.baseline.baselineId = id

theorem carried_of_find (hi : RegistryState P s) {id : UUID} (h : apply.find s.db = .ok (.stored id)) :
    ∃ request ∈ s.db.changeRequests, request.id = id ∧
      request.candidateBaselineId = apply.fetched.manifest.baseline.baselineId ∧
      HasRow s.db apply.fetched.manifest.baseline.baselineId := by
  rw [PendingApply.find] at h
  split at h
  · cases h
  · split at h
    · rename_i existing hexisting
      simp only [bind_eq_ok, ensure_eq_ok, pure_eq_ok, Staging.stored.injEq] at h
      obtain ⟨-, hcarries, rfl⟩ := h
      have hmem := Table.mem_of_first? hexisting
      obtain ⟨row, hrow, hcarried⟩ := hi.candidates.carried existing hmem
      exact ⟨existing, hmem, rfl, hcarries.1, row, hrow, hcarried.id.trans hcarries.1⟩
    · simp only [bind_eq_ok, ensure_eq_ok, pure_eq_ok, reduceCtorEq, and_false, exists_false] at h

theorem owned_step {owner : UUID → UUID} (hr : (releaseSessions P lib).Reachable s)
    (hi : Owned owner h s) (hstep : releaseSessionStep P lib s a = .ok s') :
    Owned (nextOwner owner s.db s'.db) (⟨s, a, s'⟩ :: h) s' := by
  have hstate := registryState_reachable hr
  have hcarriers := hstate.carriers hstep
  have hrequests := nextOwner_carrier hi.requests hcarriers
    (registryState_step hstate hstep).candidates.distinct
  have hkeep : ∀ {baselineId id : UUID}, HasRow s.db baselineId ∧ owner baselineId = id →
      HasRow s'.db baselineId ∧ nextOwner owner s.db s'.db baselineId = id :=
    fun ⟨hrow, howner⟩ => ⟨hcarriers.rows _ hrow, (nextOwner_stored hrow).trans howner⟩
  refine ⟨hrequests, fun apply happly id hstaging => ?_, fun e he projectId targetId fetched response
    id happlied hid => ?_⟩
  · cases releaseSessionStep_move hstep with
    | service now action releases hservice => exact hkeep (hi.staged apply happly id hstaging)
    | compared payload apply₁ hexpected hnone =>
      rcases List.mem_append.mp happly with happly | hnew
      · exact hkeep (hi.staged apply happly id hstaging)
      · obtain rfl := List.mem_singleton.mp hnew
        cases hnone.symm.trans hstaging
    | staged index apply₁ staging happly₁ hnone hfind =>
      rcases List.mem_or_eq_of_mem_set happly with happly | rfl
      · exact hkeep (hi.staged apply happly id hstaging)
      · obtain rfl := Option.some.inj hstaging
        obtain ⟨request, hrequest, rfl, hcandidate, hrow⟩ := carried_of_find hstate hfind
        exact hkeep ⟨hrow, hcandidate ▸ hi.requests request hrequest⟩
    | committed => exact hkeep (hi.staged apply (List.mem_of_mem_eraseIdx happly) id hstaging)
    | abandoned => exact hkeep (hi.staged apply (List.mem_of_mem_eraseIdx happly) id hstaging)
  · rcases List.mem_cons.mp he with rfl | he
    · obtain ⟨apply, staging, now, db, happlication⟩ := happlied.application hstep
      obtain ⟨hpending, -, -, rfl, hstaging, hcommitted, -⟩ := happlication
      have hpackages := hcommitted.package.same
      have hregistry := hcommitted.registry
      rw [hid] at hregistry
      cases hregistry with
      | stored => exact hkeep (hi.staged apply hpending id hstaging)
      | imported _ himported =>
        have hrow : HasRow s'.db apply.fetched.manifest.baseline.baselineId := by
          refine ⟨baselineRecord apply.projectId apply.fetched.manifest.baselineDigest .draft
            apply.fetched.manifest.baseline, ?_, rfl⟩
          rw [hpackages.baselines]
          exact (Table.mem_insert? himported.baselines).mpr (.inr rfl)
        refine ⟨hrow, hrequests (importedRequest apply.requestId apply.projectId
          apply.context.base.baselineId apply.actorId apply.fetched
          (apply.context.diff.documents.map fun item => item.record apply.requestId)) ?_⟩
        rw [hpackages.requests]
        exact (Table.mem_insert? himported.requests).mpr (.inr rfl)
    · exact hkeep (hi.answered e he projectId targetId fetched response id happlied hid)

theorem owned_history (hh : (releaseSessions P lib).History h s) : ∃ owner, Owned owner h s := by
  induction hh with
  | init hinit =>
    obtain rfl := hinit
    exact ⟨id, fun _ hmem => absurd hmem Table.not_mem_empty,
      fun _ hmem => absurd hmem List.not_mem_nil, fun _ hmem => absurd hmem List.not_mem_nil⟩
  | step hh hstep ih =>
    obtain ⟨owner, howned⟩ := ih
    exact ⟨_, owned_step hh.reachable howned hstep⟩

/-- An application leaves its release with its package. -/
theorem packaged_history (hh : (releaseSessions P lib).History h s) (he : e ∈ h)
    (happlied : Applied projectId targetId fetched e response) :
    HasPackage s.db targetId fetched.manifest.automationPackage response.automationPackage.id := by
  induction hh with
  | init => exact absurd he List.not_mem_nil
  | step hh hstep ih =>
    rcases List.mem_cons.mp he with rfl | he
    · obtain ⟨apply, staging, now, db, happlication⟩ := happlied.application hstep
      obtain ⟨-, -, rfl, rfl, -, hcommitted, -⟩ := happlication
      exact hcommitted.package.hasPackage
    · exact (ih he).grow (releaseStep_packagesGrow hstep)

/-- What an apply has found fits the difference it has found. -/
def StagingFits (s : ReleaseSessions) : Prop :=
  ∀ apply ∈ s.applies, ∀ staging, apply.staging = some staging →
    (staging = .unchanged ↔ apply.context.diff.documents = [])

theorem find_fits (h : apply.find db = .ok staging) :
    staging = .unchanged ↔ apply.context.diff.documents = [] := by
  rw [PendingApply.find] at h
  split at h
  · rename_i hdiff
    exact ⟨fun _ => hdiff, fun _ => (Except.ok.inj h).symm⟩
  · rename_i hdiff
    refine ⟨fun hunchanged => ?_, fun hnone => absurd hnone hdiff⟩
    subst hunchanged
    split at h <;>
      simp only [bind_eq_ok, ensure_eq_ok, pure_eq_ok, reduceCtorEq, and_false, exists_false] at h

theorem stagingFits_reachable (hr : (releaseSessions P lib).Reachable s) : StagingFits s := by
  refine hr.invariant (p := StagingFits) ?_ ?_
  · rintro s rfl
    exact fun _ hmem => absurd hmem List.not_mem_nil
  · intro s a s' hstep hi apply happly staging hstaging
    cases releaseSessionStep_move hstep with
    | service => exact hi apply happly staging hstaging
    | compared payload apply₁ hexpected hnone =>
      rcases List.mem_append.mp happly with happly | hnew
      · exact hi apply happly staging hstaging
      · obtain rfl := List.mem_singleton.mp hnew
        cases hnone.symm.trans hstaging
    | staged index apply₁ staging₁ happly₁ hnone hfind =>
      rcases List.mem_or_eq_of_mem_set happly with happly | rfl
      · exact hi apply happly staging hstaging
      · obtain rfl := Option.some.inj hstaging
        exact find_fits hfind
    | committed => exact hi apply (List.mem_of_mem_eraseIdx happly) staging hstaging
    | abandoned => exact hi apply (List.mem_of_mem_eraseIdx happly) staging hstaging

/-- What an application has stored: nothing but the package of its release, or a request with its
    items and a draft row as well. -/
structure Stores (projectId targetId : UUID) (fetched : FetchedGitRelease) (db db' : Database)
    (response : GitReleaseApplyResponse) : Prop where
  registry : RegistrySame db db' ∨ ∃ request items,
    response.changeRequestId = some request.id ∧ request.projectId = projectId ∧
    request.status = .draft ∧ request.candidateDocument = fetched.manifest.baseline ∧
    (∀ item ∈ items, item.changeRequestId = request.id) ∧
    db'.changeRequests.rows = db.changeRequests.rows ++ [request] ∧
    db'.changeItems = db.changeItems ++ items ∧
    db'.baselines.rows = db.baselines.rows ++
      [baselineRecord projectId fetched.manifest.baselineDigest .draft fetched.manifest.baseline]
  packages : db'.packages = db.packages ∨ db'.packages.rows = db.packages.rows ++
    [newPackage response.automationPackage.id projectId targetId
      fetched.manifest.automationPackage true]

theorem Application.stores {s s' : ReleaseSessions}
    (h : Application projectId targetId fetched s s' apply staging now db response) :
    Stores projectId targetId fetched s.db s'.db response := by
  obtain ⟨-, rfl, rfl, rfl, -, ⟨hregistry, hpackage, -, -⟩, -⟩ := h
  have hsame := hpackage.same
  have hkept := hregistry.packages
  refine ⟨?_, ?_⟩
  · generalize response.changeRequestId = changeRequestId at hregistry
    cases hregistry with
    | unchanged => exact .inl hsame
    | stored => exact .inl hsame
    | imported _ himported =>
      refine .inr ⟨_, _, rfl, rfl, rfl, rfl, ?_,
        hsame.requests ▸ (Table.insert?_eq_some.mp himported.requests).2,
        hsame.items ▸ himported.items,
        hsame.baselines ▸ (Table.insert?_eq_some.mp himported.baselines).2⟩
      intro item hitem
      obtain ⟨document, -, rfl⟩ := List.mem_map.mp hitem
      rfl
  · rcases hpackage.rows with hrows | hrows
    · exact .inl (hrows.trans hkept)
    · exact .inr (hkept ▸ hrows)

/-- The parts of an apply before its commit write nothing. -/
theorem uncommitted_step (h : releaseSessionStep P lib s a = .ok s')
    (hservice : ∀ now action, a ≠ .service now action)
    (hcommit : ∀ index now, a ≠ .commit index now) : s'.releases = s.releases := by
  cases releaseSessionStep_move h with
  | service now action => exact absurd rfl (hservice now action)
  | committed index now => exact absurd rfl (hcommit index now)
  | compared => rfl
  | staged => rfl
  | abandoned => rfl

/-- An application that has a response finds no difference exactly when it names no request. -/
theorem Application.request_iff {s s' : ReleaseSessions} (hfits : StagingFits s)
    (h : Application projectId targetId fetched s s' apply staging now db response) :
    response.changeRequestId = none ↔ response.baselineChanged = false := by
  obtain ⟨hpending, -, -, -, hstaged, ⟨hregistry, -, -, hresponse⟩, -⟩ := h
  have hunchanged := hfits apply hpending staging hstaged
  have hchanged : response.baselineChanged = decide (apply.context.diff.documents ≠ []) := by
    rw [hresponse]
    rfl
  rw [hchanged, decide_eq_false_iff_not, not_not, ← hunchanged]
  generalize response.changeRequestId = changeRequestId at hregistry
  cases hregistry <;> simp

/-- An application of a release that has its package stores no other. -/
theorem Application.package_kept {s s' : ReleaseSessions} {packageId : UUID}
    (h : Application projectId targetId fetched s s' apply staging now db response)
    (hpackage : HasPackage s.db targetId fetched.manifest.automationPackage packageId) :
    response.automationPackage.id = packageId ∧ s'.db.packages = s.db.packages := by
  obtain ⟨-, -, rfl, rfl, -, hcommitted, -⟩ := h
  exact (hcommitted.package_kept hpackage).symm

/-- An application of a release that has its row and its package changes nothing. -/
theorem Application.nothing {s s' : ReleaseSessions} {packageId : UUID}
    (h : Application projectId targetId fetched s s' apply staging now db response)
    (hrow : HasRow s.db fetched.manifest.baseline.baselineId)
    (hpackage : HasPackage s.db targetId fetched.manifest.automationPackage packageId) :
    s'.releases = s.releases := by
  obtain ⟨-, -, rfl, rfl, -, hcommitted, hafter⟩ := h
  have hstore := hcommitted.nothing hrow hpackage
  have hdb : s'.db = s.db := congrArg ReleaseStore.db hstore
  have hcolumns : s'.releases.columns = s.releases.columns := congrArg ReleaseStore.columns hstore
  rw [hafter, hdb, hcolumns]
  rfl

/-- An application of a release that has its row names its owner, or no request. -/
theorem Application.named {s s' : ReleaseSessions} {owner : UUID → UUID}
    (h : Application projectId targetId fetched s s' apply staging now db response)
    (howned : Owned owner events s) (hrow : HasRow s.db fetched.manifest.baseline.baselineId) :
    ∀ id, response.changeRequestId = some id →
      owner fetched.manifest.baseline.baselineId = id := by
  obtain ⟨hpending, -, -, rfl, hstaged, hcommitted, -⟩ := h
  intro id hid
  have hregistry := hcommitted.registry
  rw [hid] at hregistry
  cases hregistry with
  | stored => exact (howned.staged apply hpending id hstaged).2
  | imported _ himported =>
    obtain ⟨row, hmem, hsame⟩ := hrow
    exact absurd hsame ((Table.insert?_eq_some.mp himported.baselines).1 row hmem)

/-- However the applications of one release interleave, with one another and with every other
    operation: each of them stores at most one request, one draft row and one package, and writes
    nothing before it commits; a later one gets the same package; and once one of them has named a
    request, a later one changes nothing, and names the same request as long as it finds a
    difference from the latest released baseline. -/
theorem applied_once (hh : (releaseSessions P lib).History h s) (projectId targetId : UUID)
    (fetched : FetchedGitRelease) :
    (∀ e ∈ h, ∀ response, Applied projectId targetId fetched e response →
      Stores projectId targetId fetched e.before.db e.after.db response) ∧
    (∀ e ∈ h, (∀ now action, e.action ≠ .service now action) →
      (∀ index now, e.action ≠ .commit index now) → e.after.releases = e.before.releases) ∧
    ∀ later e between e₀ earlier, h = later ++ e :: between ++ e₀ :: earlier →
      ∀ response₀ response, Applied projectId targetId fetched e₀ response₀ →
        Applied projectId targetId fetched e response →
        response.automationPackage.id = response₀.automationPackage.id ∧
        e.after.db.packages = e.before.db.packages ∧
        ∀ changeRequestId, response₀.changeRequestId = some changeRequestId →
          e.after.releases = e.before.releases ∧
          response.changeRequestId =
            if response.baselineChanged = true then some changeRequestId else none := by
  refine ⟨fun e he response happlied => ?_, fun e he => uncommitted_step (hh.next e he), ?_⟩
  · obtain ⟨apply, staging, now, db, happlication⟩ := happlied.application (hh.next e he)
    exact happlication.stores
  · intro later e between e₀ earlier heq response₀ response happlied₀ happlied
    have hsplit : h = later ++ e :: (between ++ e₀ :: earlier) := by
      rw [heq, List.append_assoc, List.cons_append]
    obtain ⟨hbefore, hnext, -⟩ := hh.split hsplit
    obtain ⟨apply, staging, now, db, happlication⟩ := happlied.application hnext
    have he₀ : e₀ ∈ between ++ e₀ :: earlier := List.mem_append_right _ List.mem_cons_self
    have hpackage := packaged_history hbefore he₀ happlied₀
    obtain ⟨owner, howned⟩ := owned_history hbefore
    obtain ⟨hid, hpackages⟩ := happlication.package_kept hpackage
    refine ⟨hid, hpackages, fun changeRequestId hresponse₀ => ?_⟩
    obtain ⟨hrow, howner⟩ := howned.answered e₀ he₀ _ _ _ _ _ happlied₀ hresponse₀
    have hnamed := happlication.named howned hrow
    have hrequest := happlication.request_iff (stagingFits_reachable hbefore.reachable)
    refine ⟨happlication.nothing hrow hpackage, ?_⟩
    cases hanswer : response.changeRequestId with
    | none => rw [if_neg (ne_true_of_eq_false (hrequest.mp hanswer))]
    | some id =>
      have hchanged : response.baselineChanged = true := by
        by_contra hsame
        cases hanswer.symm.trans (hrequest.mpr (eq_false_of_ne_true hsame))
      rw [if_pos hchanged, ← howner, hnamed id hanswer]

namespace Installation

/-- The event applies the release of the installation, and its response satisfies `p`. -/
def Answers (p : GitReleaseApplyResponse → Bool)
    (e : System.Event ReleaseSessions ReleaseSessionAction) : Prop :=
  ∃ response, Applied 1 2 fetchedRelease e response ∧ p response = true

instance (p : GitReleaseApplyResponse → Bool)
    (e : System.Event ReleaseSessions ReleaseSessionAction) : Decidable (Answers p e) :=
  decidable_of_iff ((committedApply e).any fun answer =>
      decide (answer.1.projectId = 1 ∧ answer.1.targetId = 2 ∧ answer.1.fetched = fetchedRelease) &&
        p answer.2) (by
    simp only [Option.any_eq_true, Prod.exists, Bool.and_eq_true, decide_eq_true_eq, Answers,
      Applied]
    constructor
    · rintro ⟨apply, response, hanswer, ⟨hproject, htarget, hfetched⟩, hp⟩
      exact ⟨response, ⟨apply, hanswer, hproject, htarget, hfetched⟩, hp⟩
    · rintro ⟨response, ⟨apply, hanswer, hproject, htarget, hfetched⟩, hp⟩
      exact ⟨apply, response, hanswer, ⟨hproject, htarget, hfetched⟩, hp⟩)

/-- The release is applied twice: the first response satisfies `p`, the second one `q`. -/
abbrev AppliedTwice (p q : GitReleaseApplyResponse → Bool)
    (h : List (System.Event ReleaseSessions ReleaseSessionAction)) : Prop :=
  Since (fun _ => True) (fun e earlier => Answers q e ∧
    Since (fun _ => True) (fun e₀ _ => Answers p e₀) earlier) h

theorem AppliedTwice.split {p q : GitReleaseApplyResponse → Bool}
    (h : AppliedTwice p q events) :
    ∃ later e between e₀ earlier response₀ response, events = later ++ e :: between ++ e₀ :: earlier ∧
      Applied 1 2 fetchedRelease e₀ response₀ ∧ p response₀ = true ∧
      Applied 1 2 fetchedRelease e response ∧ q response = true := by
  obtain ⟨later, e, rest, rfl, ⟨⟨response, happlied, hq⟩, hfirst⟩, -⟩ := since_iff.mp h
  obtain ⟨between, e₀, earlier, rfl, ⟨response₀, happlied₀, hp⟩, -⟩ := since_iff.mp hfirst
  exact ⟨later, e, between, e₀, earlier, response₀, response, by simp, happlied₀, hp, happlied, hq⟩

end Installation

open Installation in
/-- Applied twice, the release has one request and one package, and the second time changes nothing. -/
theorem applied_once_twice : ∃ h s, (releaseSessions primitives cronLibrary).History h s ∧
    ∃ e ∈ h, ∃ response, Applied 1 2 fetchedRelease e response ∧
      response.changeRequestId = some 40 ∧ response.automationPackage.id = 6 ∧
      e.after.releases = e.before.releases := by
  have hrun : Traces (releaseSessionStep primitives cronLibrary) ReleaseSessions.init
      (releaseSetUp ++ applyFetched 1 40 6 ++ applyFetched 2 43 7) fun h _ =>
        AppliedTwice (fun response => decide (response.changeRequestId = some 40 ∧
          response.automationPackage.id = 6)) (fun response => response.baselineChanged) h := by
    decide +kernel
  obtain ⟨h, s, hh, htwice⟩ :
      ∃ h s, (releaseSessions primitives cronLibrary).History h s ∧ _ := hrun.exists_history rfl
  obtain ⟨later, e, between, e₀, earlier, response₀, response, heq, happlied₀, hfirst, happlied,
    hchanged⟩ := htwice.split
  obtain ⟨hrequest₀, hpackage₀⟩ := of_decide_eq_true hfirst
  obtain ⟨hpackage, -, hnamed⟩ := (applied_once hh 1 2 fetchedRelease).2.2 later e between e₀
    earlier heq response₀ response happlied₀ happlied
  obtain ⟨hkept, hrequest⟩ := hnamed 40 hrequest₀
  rw [if_pos hchanged] at hrequest
  have he : e ∈ h := by
    rw [heq]
    simp
  exact ⟨h, s, hh, e, he, response, happlied, hrequest, hpackage.trans hpackage₀, hkept⟩

open Installation in
/-- Once a baseline with its cases is released, the release has no difference and names no request. -/
theorem repeated_application_unnamed :
    ∃ h s, (releaseSessions primitives cronLibrary).History h s ∧
      ∃ later e between e₀ earlier response₀ response, h = later ++ e :: between ++ e₀ :: earlier ∧
        Applied 1 2 fetchedRelease e₀ response₀ ∧ Applied 1 2 fetchedRelease e response ∧
        response₀.changeRequestId = some 40 ∧ response.changeRequestId = none := by
  have hrun : Traces (releaseSessionStep primitives cronLibrary) ReleaseSessions.init
      (releaseSetUp ++ applyFetched 1 40 6 ++ publishShortened :: applyFetched 3 43 7) fun h _ =>
        AppliedTwice (fun response => decide (response.changeRequestId = some 40))
          (fun response => decide (response.changeRequestId = none)) h := by
    decide +kernel
  obtain ⟨h, s, hh, htwice⟩ :
      ∃ h s, (releaseSessions primitives cronLibrary).History h s ∧ _ := hrun.exists_history rfl
  obtain ⟨later, e, between, e₀, earlier, response₀, response, heq, happlied₀, hfirst, happlied,
    hsecond⟩ := htwice.split
  exact ⟨h, s, hh, later, e, between, e₀, earlier, response₀, response, heq, happlied₀, happlied,
    of_decide_eq_true hfirst, of_decide_eq_true hsecond⟩

end TestOps

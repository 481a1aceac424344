import TestOps.ControlPlane.ReleaseSessions
import TestOps.Invariants.Releases

/-! The registry of baselines and change requests, under everything that writes to it:

      publish_baseline                        a released row
      create, update, apply_git_release       a request with a draft row of its own
      review, publish                         request and row move on together

    A row describes its document, and a released row is final. Operations on a request hold its row
    lock, so each of them is one step; an apply reads without a lock, so the other operations come
    between its reads and its commit. -/

namespace TestOps

open Checked Relational Transition

variable {P : Primitives} {lib : CronLibrary} {db db' : Database}

/-! ### Steps of the service -/

/-- Nothing about baselines, requests and items has changed. -/
structure RegistrySame (db db' : Database) : Prop where
  baselines : db'.baselines = db.baselines
  requests : db'.changeRequests = db.changeRequests
  items : db'.changeItems = db.changeItems

/-- What relates the two sides of every write, and of what leaves the registry alone, relates the
    two sides of a step of the sessions. -/
theorem sessionStep_rel {r : Database → Database → Prop}
    (trans : ∀ a b c, r a b → r b c → r a c) (same : ∀ db db', RegistrySame db db' → r db db')
    (write : ∀ effect db db', Write P effect db db' → r db db') {s s' : Sessions}
    {a : SessionAction} (h : sessionStep P s a = .ok s') : r s.core.db s'.core.db := by
  cases sessionStep_move h with
  | quiet hwrites =>
    exact hwrites.rel (fun db => same db db ⟨rfl, rfl, rfl⟩) trans fun _ _ _ _ => write _ _ _
  | begun => exact same _ _ ⟨rfl, rfl, rfl⟩
  | planned => exact same _ _ ⟨rfl, rfl, rfl⟩
  | created index now outboxId creation plan run core hcreation hplan hqueue =>
    obtain ⟨-, -, -, runs, runEvents, runCases, outbox, hdb, -⟩ := queueSnapshotRun_ok hqueue
    rw [hdb]
    exact same _ _ ⟨rfl, rfl, rfl⟩

theorem serviceStep_rel {r : Database → Database → Prop}
    (trans : ∀ a b c, r a b → r b c → r a c) (same : ∀ db db', RegistrySame db db' → r db db')
    (write : ∀ effect db db', Write P effect db db' → r db db') {s s' : Service}
    {a : ServiceAction} (h : serviceStep P lib s a = .ok s') : r s.db s'.db := by
  rcases serviceStep_sessions h with hsame | ⟨action, hstep⟩
  · rw [Service.db, Service.db, hsame]
    exact same _ _ ⟨rfl, rfl, rfl⟩
  · exact sessionStep_rel trans same write hstep

/-! ### What a commit writes -/

/-- The candidate of a release has come in, with a request of its own and the items of the
    comparison. -/
structure Imported (apply : PendingApply) (db db' : Database) : Prop where
  unnamed : apply.request db = none
  requests : db.changeRequests.insert? (importedRequest apply.requestId apply.projectId
    apply.context.base.baselineId apply.actorId apply.fetched
    (apply.context.diff.documents.map fun item => item.record apply.requestId)) =
      some db'.changeRequests
  items : db'.changeItems = db.changeItems ++
    apply.context.diff.documents.map fun item => item.record apply.requestId
  baselines : db.baselines.insert? (baselineRecord apply.projectId
    apply.fetched.manifest.baselineDigest .draft apply.fetched.manifest.baseline) =
      some db'.baselines
  packages : db'.packages = db.packages

theorem importCandidate_ok {apply : PendingApply} (hunnamed : apply.request db = none)
    (h : importCandidate apply.requestId apply.projectId apply.actorId apply.fetched apply.context
      db = .ok db') : Imported apply db db' := by
  simp only [importCandidate, bind_eq_ok, ensure_eq_ok, found_eq_ok, pure_eq_ok] at h
  obtain ⟨-, -, requests, hrequests, baselines, hbaselines, rfl⟩ := h
  exact ⟨hunnamed, hrequests, rfl, insertBaseline_ok hbaselines, rfl⟩

/-- What an apply writes to the registry, by what it has found. -/
inductive ApplyWrites (apply : PendingApply) (db : Database) :
    Staging → Database → Option UUID → Prop
  | unchanged : ApplyWrites apply db .unchanged db none
  | stored (changeRequestId : UUID) :
      ApplyWrites apply db (.stored changeRequestId) db (some changeRequestId)
  | imported (db' : Database) : Imported apply db db' →
      ApplyWrites apply db .missing db' (some apply.requestId)

theorem PendingApply.write_ok {apply : PendingApply} {staging : Staging} {changeRequestId : Option UUID}
    (h : apply.write db staging = .ok (db', changeRequestId)) :
    ApplyWrites apply db staging db' changeRequestId := by
  cases staging with
  | unchanged =>
    simp only [PendingApply.write, pure_eq_ok, Prod.mk.injEq] at h
    obtain ⟨rfl, rfl⟩ := h
    exact .unchanged
  | stored id =>
    simp only [PendingApply.write, pure_eq_ok, Prod.mk.injEq] at h
    obtain ⟨rfl, rfl⟩ := h
    exact .stored id
  | missing =>
    simp only [PendingApply.write, bind_eq_ok, ensure_eq_ok, pure_eq_ok, Prod.mk.injEq,
      Option.isNone_iff_eq_none] at h
    obtain ⟨-, hunnamed, db₁, himport, rfl, rfl⟩ := h
    exact .imported db₁ (importCandidate_ok hunnamed himport)

/-- The package an apply leaves its release with. -/
inductive PackageStaged (apply : PendingApply) (db : Database) :
    Database → AutomationPackageRecord → Prop
  | stored (package : AutomationPackageRecord) :
      packageByVersion db apply.targetId apply.fetched.manifest.automationPackage = some package →
      samePackage package apply.fetched.manifest.automationPackage →
      PackageStaged apply db db package
  | created (packages : Table AutomationPackageRecord.id) :
      packageByVersion db apply.targetId apply.fetched.manifest.automationPackage = none →
      db.packages.insert? (newPackage apply.packageId apply.projectId apply.targetId
        apply.fetched.manifest.automationPackage true) = some packages →
      PackageStaged apply db { db with packages := packages } (newPackage apply.packageId
        apply.projectId apply.targetId apply.fetched.manifest.automationPackage true)

theorem stagePackage_ok {apply : PendingApply} {package : AutomationPackageRecord}
    (h : stagePackage apply.packageId apply.projectId apply.targetId
      apply.fetched.manifest.automationPackage db = .ok (db', package)) :
    PackageStaged apply db db' package := by
  rw [stagePackage] at h
  split at h
  · rename_i existing hexisting
    simp only [bind_eq_ok, ensure_eq_ok, pure_eq_ok, Prod.mk.injEq] at h
    obtain ⟨-, hsame, rfl, rfl⟩ := h
    exact .stored existing hexisting hsame
  · rename_i hnone
    simp only [bind_eq_ok, found_eq_ok, pure_eq_ok, Prod.mk.injEq] at h
    obtain ⟨packages, hinsert, rfl, rfl⟩ := h
    exact .created packages hnone hinsert

theorem PackageStaged.same {apply : PendingApply} {package : AutomationPackageRecord}
    (h : PackageStaged apply db db' package) : RegistrySame db db' := by
  cases h <;> exact ⟨rfl, rfl, rfl⟩

/-- A commit writes to the registry first, then to the packages. -/
structure Committed (apply : PendingApply) (staging : Staging) (now : Instant)
    (store store' : ReleaseStore) (db : Database) (response : GitReleaseApplyResponse) : Prop where
  registry : ApplyWrites apply store.db staging db response.changeRequestId
  package : PackageStaged apply db store'.db response.automationPackage
  columns : store'.columns = store.columns.stamp now
    (apply.context.supersedes.map AutomationPackageRecord.id) store.db store'.db
  response : response = apply.response response.changeRequestId response.automationPackage

theorem PendingApply.commit_ok {apply : PendingApply} {staging : Staging} {now : Instant}
    {store store' : ReleaseStore} {response : GitReleaseApplyResponse}
    (h : apply.commit staging now store = .ok (store', response)) :
    ∃ db, Committed apply staging now store store' db response := by
  simp only [PendingApply.commit, bind_eq_ok, pure_eq_ok, Prod.mk.injEq, Prod.exists] at h
  obtain ⟨db, changeRequestId, hwrite, db', package, hpackage, rfl, rfl⟩ := h
  exact ⟨db, PendingApply.write_ok hwrite, stagePackage_ok hpackage, rfl, rfl⟩

/-- What relates the two sides of an import, and of what leaves the registry alone, relates the two
    sides of a commit. -/
theorem Committed.rel {r : Database → Database → Prop} {apply : PendingApply} {staging : Staging}
    {now : Instant} {store store' : ReleaseStore} {response : GitReleaseApplyResponse}
    (h : Committed apply staging now store store' db response)
    (trans : ∀ a b c, r a b → r b c → r a c) (same : ∀ db db', RegistrySame db db' → r db db')
    (imported : ∀ db', Imported apply store.db db' → r store.db db') : r store.db store'.db := by
  have hstore : r store.db db := by
    have hregistry := h.registry
    generalize response.changeRequestId = changeRequestId at hregistry
    cases hregistry with
    | unchanged => exact same _ _ ⟨rfl, rfl, rfl⟩
    | stored => exact same _ _ ⟨rfl, rfl, rfl⟩
    | imported _ himported => exact imported _ himported
  exact trans _ _ _ hstore (same _ _ h.package.same)

/-! ### Steps -/

/-- The steps of the applies: those of the service, and the parts of an apply. -/
inductive ReleaseMove (P : Primitives) (lib : CronLibrary) (s : ReleaseSessions) :
    ReleaseSessionAction → ReleaseSessions → Prop
  | service (now : Instant) (action : ServiceAction) (releases : Releases) :
      serviceStep P lib s.releases.service action = .ok releases.service →
      ReleaseMove P lib s (.service now action) { s with releases := releases }
  | compared (payload : GitReleaseApplyRequest) (apply : PendingApply) :
      checkExpected apply.fetched payload = .ok () → apply.staging = none →
      releaseContext P apply.projectId apply.targetId apply.fetched s.releases.store =
        .ok apply.context →
      ReleaseMove P lib s (.compare apply.requestId apply.packageId apply.projectId apply.targetId
        apply.fetched payload apply.actorId) { s with applies := s.applies ++ [apply] }
  | staged (index : Nat) (apply : PendingApply) (staging : Staging) :
      s.applies[index]? = some apply → apply.staging = none → apply.find s.db = .ok staging →
      ReleaseMove P lib s (.stage index)
        { s with applies := s.applies.set index { apply with staging := some staging } }
  | committed (index : Nat) (now : Instant) (apply : PendingApply) (staging : Staging)
      (store : ReleaseStore) (db : Database) (response : GitReleaseApplyResponse) :
      s.applies[index]? = some apply → apply.staging = some staging →
      apply.commit staging now s.releases.store = .ok (store, response) →
      Committed apply staging now s.releases.store store db response →
      ReleaseMove P lib s (.commit index now)
        ⟨⟨s.releases.service.withDatabase store.db, store.columns⟩, s.applies.eraseIdx index⟩
  | abandoned (index : Nat) (apply : PendingApply) : s.applies[index]? = some apply →
      ReleaseMove P lib s (.abandon index) { s with applies := s.applies.eraseIdx index }

theorem releaseSessionStep_move {s s' : ReleaseSessions} {a : ReleaseSessionAction}
    (h : releaseSessionStep P lib s a = .ok s') : ReleaseMove P lib s a s' := by
  cases a with
  | service now action =>
    simp only [releaseSessionStep, releaseStep, bind_eq_ok, pure_eq_ok] at h
    obtain ⟨releases, ⟨service, hstep, rfl⟩, rfl⟩ := h
    exact .service now action _ hstep
  | compare requestId packageId projectId targetId fetched payload actorId =>
    simp only [releaseSessionStep, compareRelease, bind_eq_ok, pure_eq_ok] at h
    obtain ⟨apply, ⟨_, hexpected, context, hcontext, rfl⟩, rfl⟩ := h
    exact .compared payload ⟨requestId, packageId, projectId, targetId, actorId, fetched, context,
      none⟩ hexpected rfl hcontext
  | stage index =>
    simp only [releaseSessionStep, bind_eq_ok, found_eq_ok, ensure_eq_ok, pure_eq_ok] at h
    obtain ⟨apply, happly, -, hstaging, staging, hfind, rfl⟩ := h
    exact .staged index apply staging happly hstaging hfind
  | commit index now =>
    simp only [releaseSessionStep, bind_eq_ok, found_eq_ok, pure_eq_ok, Prod.exists] at h
    obtain ⟨apply, happly, staging, hstaging, store, response, hcommit, rfl⟩ := h
    obtain ⟨db, hcommitted⟩ := PendingApply.commit_ok hcommit
    exact .committed index now apply staging store db response happly hstaging hcommit hcommitted
  | abandon index =>
    simp only [releaseSessionStep, bind_eq_ok, found_eq_ok, pure_eq_ok] at h
    obtain ⟨apply, happly, rfl⟩ := h
    exact .abandoned index apply happly

/-- What relates the two sides of every write, of every import and of what leaves the registry
    alone, relates the two sides of a step. -/
theorem releaseStep_rel {r : Database → Database → Prop} (trans : ∀ a b c, r a b → r b c → r a c)
    (same : ∀ db db', RegistrySame db db' → r db db')
    (write : ∀ effect db db', Write P effect db db' → r db db') {s s' : ReleaseSessions}
    (imported : ∀ apply ∈ s.applies, ∀ db', Imported apply s.db db' → r s.db db')
    {a : ReleaseSessionAction} (h : releaseSessionStep P lib s a = .ok s') : r s.db s'.db := by
  cases releaseSessionStep_move h with
  | service now action releases hstep => exact serviceStep_rel trans same write hstep
  | compared => exact same _ _ ⟨rfl, rfl, rfl⟩
  | staged => exact same _ _ ⟨rfl, rfl, rfl⟩
  | committed index now apply staging store db response happly hstaging hcommit hcommitted =>
    exact hcommitted.rel trans same (imported apply (List.mem_of_getElem? happly))
  | abandoned => exact same _ _ ⟨rfl, rfl, rfl⟩

/-! ### Rows -/

/-- What a write may do to a row. -/
inductive RowFollows (row : CaseBaselineRecord) : CaseBaselineRecord → Prop
  | same : RowFollows row row
  | superseded : row.status = .draft → RowFollows row (supersede row)
  | promoted (status : BaselineStatus) : row.status = .draft ∨ row.status = .candidate →
      status ≠ .superseded → RowFollows row { row with status := status }

/-- Rows stay, and a row that comes in carries the canonical digest of its document. -/
structure RowsFollow (P : Primitives) (db db' : Database) : Prop where
  evolves : db.baselines.Evolves RowFollows db'.baselines
  origin : ∀ row' ∈ db'.baselines, (∃ row ∈ db.baselines, row.baselineId = row'.baselineId) ∨
    ∃ projectId status baseline, status ≠ .superseded ∧
      row' = baselineRecord projectId (P.canonicalSha256 (.baseline baseline)) status baseline

namespace RowsFollow

theorem of_same (h : RegistrySame db db') : RowsFollow P db db' where
  evolves := h.baselines ▸ .refl fun _ => .same
  origin row' hrow' := .inl ⟨row', h.baselines ▸ hrow', rfl⟩

/-- A row comes in. -/
theorem insert {projectId : UUID} {status : BaselineStatus} {baseline : CaseBaseline}
    (h : db.baselines.insert? (baselineRecord projectId (P.canonicalSha256 (.baseline baseline))
      status baseline) = some db'.baselines) (hstatus : status ≠ .superseded) :
    RowsFollow P db db' where
  evolves := .insert? (fun _ => .same) h
  origin row' hrow' := by
    rcases (Table.mem_insert? h).mp hrow' with hold | rfl
    · exact .inl ⟨row', hold, rfl⟩
    · exact .inr ⟨projectId, status, baseline, hstatus, rfl⟩

/-- A row is rewritten. -/
theorem modify {baselineId : UUID} {f : CaseBaselineRecord → CaseBaselineRecord}
    {hf : KeepsKey CaseBaselineRecord.baselineId f}
    (h : db'.baselines = db.baselines.modify baselineId f hf)
    (hfollows : ∀ row, db.baselines.get? baselineId = some row → RowFollows row (f row)) :
    RowsFollow P db db' where
  evolves := h ▸ .modify (fun _ => .same) hfollows
  origin row' hrow' := by
    rw [h] at hrow'
    obtain ⟨row, hrow, rfl⟩ := Table.mem_modify.mp hrow'
    refine .inl ⟨row, hrow, ?_⟩
    split
    · exact (hf.eq row).symm
    · rfl

end RowsFollow

theorem rows_write {effect : Effect} (hw : Write P effect db db') : RowsFollow P db db' := by
  cases hw with
  | configured | poolCreated | poolUpdated | workersChanged | preferencesChanged
  | deliveriesRewritten | testDeliveriesAdded | outboxChanged | runQueued | slotBound | runStarted
  | eventRecorded | eventLogged | resultRecorded | runCanceled | cancelRequested | runRecovered
  | leaseReleased | leaseAcquired | dispatchMarked | packageActivated | requestSubmitted
  | validationSkipped | validationLinked =>
    exact ⟨.refl fun _ => .same, fun row' hrow' => .inl ⟨row', hrow', rfl⟩⟩
  | baselinePublished projectId baseline baselines hinsert => exact .insert hinsert nofun
  | requestCreated requestId projectId payload actorId baseBaselineId candidate items requests
      baselines hitems hrequests hinsert => exact .insert hinsert nofun
  | requestEdited requestId payload request old candidate items baselines hitems hrequest heditable
      hold hdraft hinsert =>
    have hsuperseded : RowsFollow P db { db with
        baselines := db.baselines.modify request.candidateBaselineId supersede } :=
      .modify rfl fun row hrow =>
        .superseded (Option.some.inj (hold.symm.trans hrow) ▸ hdraft)
    refine ⟨?_, fun row' hrow' => ?_⟩
    · intro row hrow
      obtain ⟨row', hrow', hid, hfollows⟩ := hsuperseded.evolves row hrow
      exact ⟨row', (Table.mem_insert? hinsert).mpr (.inl hrow'), hid, hfollows⟩
    · rcases (Table.mem_insert? hinsert).mp hrow' with hrow' | rfl
      · exact hsuperseded.origin row' hrow'
      · exact .inr ⟨_, .draft, _, nofun, rfl⟩
  | requestReviewed now requestId approval request requests baselines hrequest hstatus hid hother
      hreviewed =>
    generalize approval.decision = decision at hreviewed
    cases hreviewed with
    | requestChanges => exact ⟨.refl fun _ => .same, fun row' hrow' => .inl ⟨row', hrow', rfl⟩⟩
    | approve candidate hcandidate hdraft =>
      refine .modify rfl fun row hrow => .promoted .candidate (.inl ?_) nofun
      exact Option.some.inj (hcandidate.symm.trans hrow) ▸ hdraft
  | requestPublished now requestId runId request run baseline hgate =>
    refine .modify rfl fun row hrow => .promoted .released (.inr ?_) nofun
    exact Option.some.inj (hgate.baselineStored.symm.trans hrow) ▸ hgate.baselineCandidate

/-- What a row says about its document. -/
structure Registered (P : Primitives) (row : CaseBaselineRecord) : Prop where
  shape : BaselineShape P row
  caseCount : row.caseCount = row.document.cases.length
  version : row.status ≠ .superseded → row.version = row.document.version

theorem RowFollows.registered {row row' : CaseBaselineRecord} (h : RowFollows row row')
    (hrow : Registered P row) : Registered P row' := by
  obtain ⟨hshape, hcount, hversion⟩ := hrow
  cases h with
  | same => exact ⟨hshape, hcount, hversion⟩
  | superseded => exact ⟨⟨hshape.id, hshape.digest, hshape.enabled⟩, hcount, fun h => absurd rfl h⟩
  | promoted status hold =>
    refine ⟨⟨hshape.id, hshape.digest, hshape.enabled⟩, hcount, fun _ => hversion ?_⟩
    rintro hsuperseded
    rcases hold with hdraft | hcandidate
    · cases hsuperseded.symm.trans hdraft
    · cases hsuperseded.symm.trans hcandidate

theorem RowFollows.released {row row' : CaseBaselineRecord} (h : RowFollows row row')
    (hreleased : row.status = .released) : row' = row := by
  cases h with
  | same => rfl
  | superseded hdraft => cases hreleased.symm.trans hdraft
  | promoted status hold =>
    rcases hold with hdraft | hcandidate
    · cases hreleased.symm.trans hdraft
    · cases hreleased.symm.trans hcandidate

theorem RowsFollow.registered (h : RowsFollow P db db')
    (hi : ∀ row ∈ db.baselines, Registered P row) : ∀ row ∈ db'.baselines, Registered P row := by
  intro row' hrow'
  rcases h.origin row' hrow' with ⟨row, hrow, hid⟩ | ⟨projectId, status, baseline, hstatus, rfl⟩
  · obtain ⟨row₁, hrow₁, hid₁, hfollows⟩ := h.evolves row hrow
    obtain rfl := Table.eq_of_key_eq hrow₁ hrow' (hid₁.trans hid)
    exact hfollows.registered (hi row hrow)
  · exact ⟨⟨rfl, rfl, rfl⟩, rfl, fun _ => rfl⟩

/-- Released rows are final. -/
def ReleasedKept (db db' : Database) : Prop :=
  ∀ row ∈ db.baselines, row.status = .released → row ∈ db'.baselines

theorem RowsFollow.released (h : RowsFollow P db db') : ReleasedKept db db' := by
  intro row hrow hreleased
  obtain ⟨row', hrow', -, hfollows⟩ := h.evolves row hrow
  exact hfollows.released hreleased ▸ hrow'

/-! ### Comparisons -/

/-- What a comparison has found, as long as nothing it depends on changes again. -/
structure Compared (P : Primitives) (db : Database) (apply : PendingApply) : Prop where
  digest : P.canonicalSha256 (.baseline apply.fetched.manifest.baseline) =
    apply.fetched.manifest.baselineDigest
  base : apply.context.base ∈ db.baselines
  released : apply.context.base.status = .released
  projectId : apply.context.base.projectId = apply.projectId
  diff : diffCases apply.context.base.document apply.fetched.manifest.baseline =
    .ok apply.context.diff

theorem mem_of_latestRow {ρ : Type} {createdAt : ρ → Instant} {rows : List ρ} {row : ρ}
    (h : latestRow createdAt rows = some row) : row ∈ rows :=
  (List.mem_insertionSort _).mp (List.mem_of_head? h)

theorem latestReleased_ok {store : ReleaseStore} {projectId : UUID} {row : CaseBaselineRecord}
    (h : store.latestReleased projectId = some row) :
    row ∈ store.db.baselines ∧ row.projectId = projectId ∧ row.status = .released := by
  obtain ⟨hrow, htest⟩ := List.mem_filter.mp (mem_of_latestRow h)
  simp only [decide_eq_true_eq] at htest
  exact ⟨hrow, htest⟩

theorem releaseContext_ok {projectId targetId : UUID} {fetched : FetchedGitRelease}
    {store : ReleaseStore} {context : ReleaseContext}
    (h : releaseContext P projectId targetId fetched store = .ok context) :
    P.canonicalSha256 (.baseline fetched.manifest.baseline) = fetched.manifest.baselineDigest ∧
      store.latestReleased projectId = some context.base ∧
      diffCases context.base.document fetched.manifest.baseline = .ok context.diff ∧
      context.supersedes =
        store.superseded projectId targetId fetched.manifest.automationPackage := by
  simp only [releaseContext, bind_eq_ok, found_eq_ok, ensure_eq_ok, pure_eq_ok] at h
  obtain ⟨-, -, -, -, -, -, -, -, -, -, -, hdigest, base, hbase, diff, hdiff, -, -, -, -, rfl⟩ := h
  exact ⟨hdigest, hbase, hdiff, rfl⟩

theorem Compared.kept {apply : PendingApply} (h : Compared P db apply)
    (hkept : ReleasedKept db db') : Compared P db' apply :=
  ⟨h.digest, hkept _ h.base h.released, h.released, h.projectId, h.diff⟩

theorem Imported.rows {apply : PendingApply} (h : Imported apply db db')
    (hcompared : Compared P db apply) : RowsFollow P db db' := by
  have hinsert := h.baselines
  rw [← hcompared.digest] at hinsert
  exact .insert hinsert nofun

/-! ### The registry -/

structure RegistryState (P : Primitives) (s : ReleaseSessions) : Prop where
  rows : ∀ row ∈ s.db.baselines, Registered P row
  candidates : CandidateState s.db.changeRequests s.db.baselines
  compared : ∀ apply ∈ s.applies, Compared P s.db apply

variable {s s' : ReleaseSessions} {a : ReleaseSessionAction}

/-- What relates the two sides of a step, when every pending apply has compared its release. -/
theorem RegistryState.rel (hi : RegistryState P s) {r : Database → Database → Prop}
    (trans : ∀ a b c, r a b → r b c → r a c) (same : ∀ db db', RegistrySame db db' → r db db')
    (write : ∀ effect db db', Write P effect db db' → r db db')
    (imported : ∀ apply db db', Compared P db apply → Imported apply db db' → r db db')
    (h : releaseSessionStep P lib s a = .ok s') : r s.db s'.db :=
  releaseStep_rel trans same write
    (fun apply happly db' => imported apply s.db db' (hi.compared apply happly)) h

theorem RegistryState.released (hi : RegistryState P s)
    (h : releaseSessionStep P lib s a = .ok s') : ReleasedKept s.db s'.db :=
  hi.rel (r := ReleasedKept)
    (fun _ _ _ hab hbc row hrow hreleased => hbc row (hab row hrow hreleased) hreleased)
    (fun _ _ hsame => (RowsFollow.of_same (P := P) hsame).released)
    (fun _ _ _ hw => (rows_write hw).released)
    (fun _ _ _ hcompared himported => (himported.rows hcompared).released) h

/-- The applies pending after a step were pending before, or have just been compared. -/
theorem applies_step (h : releaseSessionStep P lib s a = .ok s') {apply : PendingApply}
    (hmem : apply ∈ s'.applies) :
    (∃ apply₀ ∈ s.applies, apply = { apply₀ with staging := apply.staging }) ∨
      releaseContext P apply.projectId apply.targetId apply.fetched s.releases.store =
        .ok apply.context := by
  cases releaseSessionStep_move h with
  | service => exact .inl ⟨apply, hmem, rfl⟩
  | compared payload apply₁ hexpected hstaging hcontext =>
    rcases List.mem_append.mp hmem with hmem | hmem
    · exact .inl ⟨apply, hmem, rfl⟩
    · obtain rfl := List.mem_singleton.mp hmem
      exact .inr hcontext
  | staged index apply₁ staging happly hstaging =>
    rcases List.mem_or_eq_of_mem_set hmem with hmem | rfl
    · exact .inl ⟨apply, hmem, rfl⟩
    · exact .inl ⟨apply₁, List.mem_of_getElem? happly, rfl⟩
  | committed => exact .inl ⟨apply, List.mem_of_mem_eraseIdx hmem, rfl⟩
  | abandoned => exact .inl ⟨apply, List.mem_of_mem_eraseIdx hmem, rfl⟩

theorem registryState_step (hi : RegistryState P s) (h : releaseSessionStep P lib s a = .ok s') :
    RegistryState P s' where
  rows := hi.rel
    (r := fun db db' => (∀ row ∈ db.baselines, Registered P row) →
      ∀ row ∈ db'.baselines, Registered P row)
    (fun _ _ _ hab hbc => hbc ∘ hab) (fun _ _ hsame => (RowsFollow.of_same hsame).registered)
    (fun _ _ _ hw => (rows_write hw).registered)
    (fun _ _ _ hcompared himported => (himported.rows hcompared).registered) h hi.rows
  candidates := by
    refine hi.rel (r := fun db db' => CandidateState db.changeRequests db.baselines →
      CandidateState db'.changeRequests db'.baselines) (fun _ _ _ hab hbc => hbc ∘ hab) ?_
      (fun _ _ _ => candidateState_write) ?_ h hi.candidates
    · rintro db db' ⟨hbaselines, hrequests, -⟩ hcandidates
      rwa [hbaselines, hrequests]
    · intro apply db db' hcompared himported hcandidates
      exact hcandidates.create himported.requests himported.baselines
        ⟨rfl, rfl, rfl, rfl, rfl⟩ rfl
  compared := by
    intro apply happly
    have hkept := hi.released h
    rcases applies_step h happly with ⟨apply₀, happly₀, hsame⟩ | hcontext
    · have hcompared := (hi.compared apply₀ happly₀).kept hkept
      rw [hsame]
      exact ⟨hcompared.digest, hcompared.base, hcompared.released, hcompared.projectId,
        hcompared.diff⟩
    · obtain ⟨hdigest, hbase, hdiff, -⟩ := releaseContext_ok hcontext
      obtain ⟨hmem, hproject, hreleased⟩ := latestReleased_ok hbase
      exact ⟨hdigest, hkept _ hmem hreleased, hreleased, hproject, hdiff⟩

theorem registryState_reachable (h : (releaseSessions P lib).Reachable s) : RegistryState P s := by
  refine h.invariant (p := RegistryState P) ?_ fun s a s' hstep hi => registryState_step hi hstep
  rintro s rfl
  exact ⟨fun _ hrow => absurd hrow Table.not_mem_empty, ⟨fun _ h => absurd h Table.not_mem_empty,
    fun _ h => absurd h Table.not_mem_empty, fun _ h => absurd h Table.not_mem_empty⟩,
    fun _ h => absurd h List.not_mem_nil⟩

/-- Released rows stay, however the operations interleave. -/
theorem released_steps (hr : (releaseSessions P lib).Reachable s)
    (h : (releaseSessions P lib).Steps s s') : ReleasedKept s.db s'.db := by
  intro row hrow hreleased
  refine h.preserves hr (p := fun t => row ∈ t.db.baselines) ?_ hrow
  exact fun t a t' ht hstep hmem =>
    (registryState_reachable ht).released hstep row hmem hreleased

/-- In every state, every row describes its document; every request carries a row of its own, with
    its document and digest and the status that goes with it; and released rows are final. -/
theorem baseline_registry (hr : (releaseSessions P lib).Reachable s) :
    (∀ row ∈ s.db.baselines, row.digest = P.canonicalSha256 (.baseline row.document) ∧
      row.caseCount = row.document.cases.length ∧
      row.enabledCaseCount = row.document.enabledCases.length ∧
      (row.status ≠ .superseded → row.version = row.document.version)) ∧
    (∀ request ∈ s.db.changeRequests, ∃ row ∈ s.db.baselines,
      row.baselineId = request.candidateBaselineId ∧ row.document = request.candidateDocument ∧
      row.digest = request.candidateDigest ∧ row.status = request.status.baselineStatus) ∧
    (∀ request ∈ s.db.changeRequests, ∀ request' ∈ s.db.changeRequests,
      request.candidateBaselineId = request'.candidateBaselineId → request = request') ∧
    ∀ s', (releaseSessions P lib).Steps s s' → ∀ row ∈ s.db.baselines,
      row.status = .released → row ∈ s'.db.baselines := by
  obtain ⟨hrows, hcandidates, -⟩ := registryState_reachable hr
  refine ⟨fun row hrow => ?_, fun request hrequest => ?_, hcandidates.distinct, fun s' hsteps =>
    released_steps hr hsteps⟩
  · obtain ⟨hshape, hcount, hversion⟩ := hrows row hrow
    exact ⟨hshape.digest, hcount, hshape.enabled, hversion⟩
  · obtain ⟨row, hrow, hcarried⟩ := hcandidates.carried request hrequest
    exact ⟨row, hrow, hcarried.id, hcarried.document, hcarried.digest, hcarried.status⟩

open Installation in
/-- A release that is applied to the small installation leaves a draft with its row. -/
theorem baseline_registry_applied : ∃ s, (releaseSessions primitives cronLibrary).Reachable s ∧
    ∃ request ∈ s.db.changeRequests, request.id = 40 ∧ ∃ row ∈ s.db.baselines,
      row.baselineId = request.candidateBaselineId ∧ row.document = request.candidateDocument ∧
      row.digest = request.candidateDigest ∧ row.status = .draft := by
  have hrun : Ends (releaseSessionStep primitives cronLibrary) ReleaseSessions.init
      (releaseSetUp ++ applyFetched 1 40 6) fun s =>
        ∃ request ∈ s.db.changeRequests.rows, request.id = 40 ∧ request.status = .draft := by
    decide +kernel
  obtain ⟨s, hs, request, hrequest, hid, hstatus⟩ :
      ∃ s, (releaseSessions primitives cronLibrary).Reachable s ∧ _ :=
    hrun.exists_reachable (fun _ _ _ _ hstep => hstep) rfl
  obtain ⟨row, hrow, hcandidate, hdocument, hdigest, hrowStatus⟩ :=
    (baseline_registry hs).2.1 request hrequest
  rw [hstatus] at hrowStatus
  exact ⟨s, hs, request, hrequest, hid, row, hrow, hcandidate, hdocument, hdigest, hrowStatus⟩

end TestOps

import TestOps.Invariants.ReleaseApplies
import TestOps.Invariants.RequestItems

/-! What an apply stages, against what its preview has shown. An apply is held to three values of its
    preview, and compares the release once more:

      held to      revision  baseline digest  package digest
      read again   base baseline  changes  superseded package  stored request

    So it stages what was previewed as long as what it reads again is as it was. -/

namespace TestOps

open Checked Relational Transition

variable {P : Primitives} {lib : CronLibrary} {db db' : Database}
variable {base candidate candidate' : CaseBaseline} {diff diff' : CaseDiff}

/-! ### Comparisons of equal content -/

theorem candidateCase_total {case case' : CaseDefinition} {next : CaseDiff} (diff' : CaseDiff)
    (hcase : case.comparable = case'.comparable)
    (h : diffCandidateCase base diff case = .ok next) :
    ∃ next', diffCandidateCase base diff' case' = .ok next' := by
  rcases comparable_keys hcase with ⟨hid, hcode⟩
  rw [diffCandidateCase] at h ⊢
  rw [← hcode]
  cases hbefore : caseByCode base.cases case.caseCode with
  | none => exact ⟨_, rfl⟩
  | some before =>
    rw [hbefore] at h
    simp only [bind_eq_ok, ensure_eq_ok] at h
    rcases h with ⟨-, hkept, -⟩
    simp only [ensure_true (hkept.trans hid), ok_bind]
    split <;> exact ⟨_, rfl⟩

theorem candidateCases_total {cases cases' : List CaseDefinition} {next : CaseDiff}
    (diff' : CaseDiff)
    (hcases : cases.map CaseDefinition.comparable = cases'.map CaseDefinition.comparable)
    (h : cases.foldlM (diffCandidateCase base) diff = .ok next) :
    ∃ next', cases'.foldlM (diffCandidateCase base) diff' = .ok next' := by
  induction cases generalizing cases' diff diff' with
  | nil =>
    obtain rfl := List.map_eq_nil_iff.mp hcases.symm
    exact ⟨diff', rfl⟩
  | cons case cases ih =>
    cases cases' with
    | nil => cases hcases
    | cons case' cases' =>
      rcases List.cons.inj hcases with ⟨hcase, hrest⟩
      simp only [List.foldlM_cons, bind_eq_ok] at h
      rcases h with ⟨d, hd, h⟩
      rcases candidateCase_total diff' hcase hd with ⟨d', hd'⟩
      rcases ih d' hrest h with ⟨next', hnext'⟩
      exact ⟨next', by rw [List.foldlM_cons, hd', ok_bind, hnext']⟩

/-- A candidate of the same content can be compared with the same baseline. -/
theorem diffCases_total (hsame : candidate.SameContent candidate')
    (h : diffCases base candidate = .ok diff) :
    ∃ diff', diffCases base candidate' = .ok diff' ∧ diff'.changes = diff.changes := by
  rcases hsame with ⟨-, -, -, -, hcases⟩
  simp only [diffCases, bind_eq_ok, ensure_eq_ok, pure_eq_ok] at h
  rcases h with ⟨next, hnext, -, hlength, rfl⟩
  rcases candidateCases_total ⟨[], 0⟩ hcases hnext with ⟨next', hnext'⟩
  have hchanges : (base.cases.foldl (diffBaseCase candidate) next).changes =
      (base.cases.foldl (diffBaseCase candidate') next').changes :=
    baseCases_changes hcases (candidateCases_changes hcases rfl hnext hnext')
  have hsize := congrArg List.length hchanges
  rw [CaseDiff.changes, CaseDiff.changes, List.length_map, List.length_map] at hsize
  refine ⟨_, ?_, hchanges.symm⟩
  simp only [diffCases, hnext', ok_bind, ensure_true (hsize ▸ hlength)]
  rfl

theorem changes_eq_nil : diff.changes = [] ↔ diff.documents = [] := by
  rw [CaseDiff.changes, List.map_eq_nil_iff]

/-! ### Stored items -/

/-- Every item belongs to a stored request, however the operations interleave. -/
theorem itemsStored_reachable {s : ReleaseSessions} (h : (releaseSessions P lib).Reachable s) :
    ItemsStored s.db := by
  refine h.invariant_of (k := RegistryState P) (p := fun s => ItemsStored s.db) ?_ ?_ ?_
  · exact fun s hs => registryState_reachable hs
  · rintro s rfl
    exact fun _ hitem => absurd hitem List.not_mem_nil
  · intro s a s' hstep hregistry _ hi
    refine hregistry.rel (r := fun db db' => ItemsStored db → ItemsStored db')
      (fun _ _ _ hab hbc => hbc ∘ hab) ?_ (fun _ _ _ hw => (registryKept_write hw).items) ?_ hstep hi
    · intro db db' hsame
      exact (RegistryKept.of_eq hsame.baselines hsame.requests hsame.items).items
    · intro apply db db' _ himported hstored
      refine hstored.of_requests (.insert? (fun _ => trivial) himported.requests) fun item hitem => ?_
      rw [himported.items] at hitem
      rcases List.mem_append.mp hitem with hold | hnew
      · exact .inl hold
      · rcases List.mem_map.mp hnew with ⟨document, -, rfl⟩
        exact .inr ⟨_, (Table.mem_insert? himported.requests).mpr (.inr rfl), rfl⟩

/-- The items that come in with a request are the changes of the comparison, in their order. -/
theorem Imported.items_changes {apply : PendingApply} (h : Imported apply db db')
    (hcompared : Compared P db apply) (hstored : ItemsStored db) :
    (changeRequestItems db' apply.requestId).map ChangeItemRecord.change =
      apply.context.diff.changes := by
  have hnone : db.changeItems.filter (fun item => item.changeRequestId = apply.requestId) = [] := by
    refine List.filter_eq_nil_iff.mpr fun item hitem => ?_
    rcases hstored item hitem with ⟨request, hrequest, hid⟩
    rw [decide_eq_true_eq, ← hid]
    exact (Table.insert?_eq_some.mp h.requests).1 request hrequest
  have hown : (apply.context.diff.documents.map fun item => item.record apply.requestId).filter
      (fun item => item.changeRequestId = apply.requestId) =
        apply.context.diff.documents.map fun item => item.record apply.requestId := by
    refine List.filter_eq_self.mpr fun item hitem => ?_
    rcases List.mem_map.mp hitem with ⟨document, -, rfl⟩
    exact decide_eq_true rfl
  have hsorted : (apply.context.diff.documents.map fun item => item.record apply.requestId).Pairwise
      fun a b => a.sequence ≤ b.sequence := by
    have hnumbers : (apply.context.diff.documents.map ItemDocument.sequence).Pairwise (· ≤ ·) := by
      rw [diffCases_numbered hcompared.diff]
      exact (List.pairwise_lt_range' ..).imp Nat.le_of_lt
    rw [List.pairwise_map] at hnumbers ⊢
    exact hnumbers
  rw [changeRequestItems, h.items, List.filter_append, hnone, hown, List.nil_append,
    List.Pairwise.insertionSort_eq hsorted, List.map_map]
  rfl

/-! ### What an apply is held to -/

/-- The values of a preview that its apply is asked to expect. -/
def GitReleasePreviewResponse.expected (preview : GitReleasePreviewResponse) :
    GitReleaseApplyRequest :=
  ⟨preview.revision, preview.candidateBaselineDigest, preview.automationPackage.digest⟩

/-- What an apply has left is what was previewed. -/
structure StagesPreview (preview : GitReleasePreviewResponse) (store store' : ReleaseStore)
    (response : GitReleaseApplyResponse) : Prop where
  request : ∀ id, response.changeRequestId = some id → ∃ request ∈ store'.db.changeRequests,
    request.id = id ∧ request.baseBaselineId = preview.baseBaselineId ∧
      (changeRequestItems store'.db id).map ChangeItemRecord.change = preview.changes
  package : store.db.packages.get? response.automationPackage.id = none →
    store'.columns.supersedesId response.automationPackage.id = preview.supersedesId

/-- What an apply reads again is as it was previewed, and the candidate can come in. -/
@[mk_iff] structure AsPreviewed (P : Primitives) (preview : GitReleasePreviewResponse)
    (projectId targetId : UUID) (fetched : FetchedGitRelease) (store : ReleaseStore) : Prop where
  project : ∃ project ∈ store.db.projects.get? projectId,
    fetched.manifest.baseline.projectKey = project.key
  target : ∃ target ∈ store.db.targets.get? targetId,
    target.projectId = projectId ∧ target.targetType = .web
  digest : P.canonicalSha256 (.baseline fetched.manifest.baseline) = fetched.manifest.baselineDigest
  base : ∃ row ∈ store.latestReleased projectId, row.baselineId = preview.baseBaselineId
  superseded :
    (packageByVersion store.db targetId fetched.manifest.automationPackage).isNone = true →
      (store.superseded projectId targetId fetched.manifest.automationPackage).map
        AutomationPackageRecord.id = preview.supersedesId
  request : ∀ request ∈ requestByVersion store.db projectId fetched.manifest.baseline.version,
    request.baseBaselineId = preview.baseBaselineId ∧
      (changeRequestItems store.db request.id).map ChangeItemRecord.change = preview.changes
  unused : (requestByVersion store.db projectId fetched.manifest.baseline.version).isNone = true →
    ∀ row ∈ store.db.baselines.rows, row.projectId = projectId →
      row.version ≠ fetched.manifest.baseline.version ∧
        row.digest ≠ fetched.manifest.baselineDigest

instance (preview : GitReleasePreviewResponse) (projectId targetId : UUID)
    (fetched : FetchedGitRelease) (store : ReleaseStore) :
    Decidable (AsPreviewed P preview projectId targetId fetched store) :=
  decidable_of_iff _ (asPreviewed_iff ..).symm

def IsConflict (error : ServiceError) : Prop := ∃ message, error = .resourceConflict message

variable {projectId targetId requestId packageId actorId : UUID} {now : Instant}
variable {fetched fetched' : FetchedGitRelease} {store store' : ReleaseStore}
variable {preview : GitReleasePreviewResponse} {response : GitReleaseApplyResponse}

/-! ### Refusals -/

theorem checkExpected_refuses {payload : GitReleaseApplyRequest} :
    RaisesOnly IsConflict (checkExpected fetched payload) := by
  rw [checkExpected]
  refine (raisesOnly_ensure ⟨_, rfl⟩).bind fun _ _ => ?_
  refine (raisesOnly_ensure ⟨_, rfl⟩).bind fun _ _ => ?_
  exact raisesOnly_ensure ⟨_, rfl⟩

theorem importCandidate_refuses {context : ReleaseContext}
    (hunused : ∀ row ∈ db.baselines.rows, row.projectId = projectId →
      row.version ≠ fetched.manifest.baseline.version ∧
        row.digest ≠ fetched.manifest.baselineDigest) :
    RaisesOnly IsConflict
      (importCandidate requestId projectId actorId fetched context db) := by
  rw [importCandidate]
  refine (raisesOnly_ensure ⟨_, rfl⟩).bind fun _ hfree => ?_
  refine (raisesOnly_found ⟨_, rfl⟩).bind fun requests _ => ?_
  rw [ensure_eq_ok, Option.isNone_iff_eq_none] at hfree
  have hinsert : ∃ baselines, db.baselines.insert? (baselineRecord projectId
      fetched.manifest.baselineDigest .draft fetched.manifest.baseline) = some baselines := by
    cases hinsert : db.baselines.insert? (baselineRecord projectId
      fetched.manifest.baselineDigest .draft fetched.manifest.baseline) with
    | some baselines => exact ⟨baselines, rfl⟩
    | none =>
      rcases Table.insert?_eq_none.mp hinsert with ⟨row, hrow, hid⟩
      exact absurd hid (Table.get?_eq_none.mp hfree row hrow)
  rcases hinsert with ⟨baselines, hinsert⟩
  have hinserted : insertBaseline (baselineRecord projectId fetched.manifest.baselineDigest .draft
      fetched.manifest.baseline) db.baselines (.integrityError false) = .ok baselines := by
    simp only [insertBaseline, bind_eq_ok, ensure_eq_ok, found_eq_ok]
    exact ⟨(), hunused, hinsert⟩
  rw [hinserted]
  exact raisesOnly_ok _

theorem stageCandidate_refuses {context : ReleaseContext}
    (hunused : requestByVersion db projectId fetched.manifest.baseline.version = none →
      ∀ row ∈ db.baselines.rows, row.projectId = projectId →
        row.version ≠ fetched.manifest.baseline.version ∧
          row.digest ≠ fetched.manifest.baselineDigest) :
    RaisesOnly IsConflict
      (stageCandidate requestId projectId actorId fetched context db) := by
  rw [stageCandidate]
  split
  · exact raisesOnly_ok _
  · split
    · exact (raisesOnly_ensure ⟨_, rfl⟩).bind fun _ _ => raisesOnly_ok _
    · rename_i hnone
      exact (importCandidate_refuses (hunused hnone)).bind fun _ _ => raisesOnly_ok _

theorem stagePackage_refuses {package : AutomationPackageCreate} :
    RaisesOnly IsConflict (stagePackage packageId projectId targetId package db) := by
  rw [stagePackage]
  split
  · exact (raisesOnly_ensure ⟨_, rfl⟩).bind fun _ _ => raisesOnly_ok _
  · exact (raisesOnly_found ⟨_, rfl⟩).bind fun _ _ => raisesOnly_ok _

/-! ### The comparison of the apply -/

theorem releaseContext_again {store₀ : ReleaseStore} {context₀ : ReleaseContext}
    (h : releaseContext P projectId targetId fetched store₀ = .ok context₀)
    (hsame : fetched.manifest.baseline.SameContent fetched'.manifest.baseline)
    (hbase : store.latestReleased projectId = some context₀.base)
    (hpreviewed : AsPreviewed P preview projectId targetId fetched' store) :
    ∃ context, releaseContext P projectId targetId fetched' store = .ok context ∧
      context.base = context₀.base ∧ context.diff.changes = context₀.diff.changes ∧
      context.supersedes =
        store.superseded projectId targetId fetched'.manifest.automationPackage := by
  rcases hpreviewed.project with ⟨project, hproject, hkey⟩
  rcases hpreviewed.target with ⟨target, htarget, hown, hweb⟩
  simp only [releaseContext, bind_eq_ok, found_eq_ok, ensure_eq_ok, pure_eq_ok] at h
  rcases h with ⟨-, -, -, -, -, -, -, -, -, -, -, -, base, -, diff, hdiff, -, hversion, -, hid, rfl⟩
  rcases diffCases_total hsame hdiff with ⟨diff', hdiff', hchanges⟩
  have hdiffers : diff'.documents ≠ [] → diff.documents ≠ [] := by
    intro hne heq
    exact hne (changes_eq_nil.mp (hchanges.trans (changes_eq_nil.mpr heq)))
  rcases hsame with ⟨hsameId, -, hsameVersion, -, -⟩
  refine ⟨⟨base, diff', store.superseded projectId targetId fetched'.manifest.automationPackage⟩, ?_,
    rfl, hchanges, rfl⟩
  simp only [releaseContext, bind_eq_ok, found_eq_ok, ensure_eq_ok, pure_eq_ok]
  exact ⟨project, hproject, target, htarget, (), hown, (), hweb, (), hkey, (), hpreviewed.digest,
    base, hbase, diff', hdiff', (), fun hne => hsameVersion ▸ hversion (hdiffers hne), (),
    fun hne => hsameId ▸ hid (hdiffers hne), rfl⟩

theorem previewGitRelease_ok (h : previewGitRelease P projectId targetId fetched store = .ok preview) :
    ∃ context, releaseContext P projectId targetId fetched store = .ok context ∧
      preview.baseBaselineId = context.base.baselineId ∧
      preview.changes = context.diff.changes ∧
      preview.candidateBaselineDigest = fetched.manifest.baselineDigest := by
  simp only [previewGitRelease, bind_eq_ok, pure_eq_ok] at h
  rcases h with ⟨context, hcontext, rfl⟩
  exact ⟨context, hcontext, rfl, rfl, rfl⟩

theorem find_stored {apply : PendingApply} {id : UUID} (h : apply.find db = .ok (.stored id)) :
    ∃ request, apply.request db = some request ∧ request.id = id := by
  rw [PendingApply.find] at h
  split at h
  · cases h
  · split at h
    · rename_i existing hexisting
      simp only [bind_eq_ok, ensure_eq_ok, pure_eq_ok, Staging.stored.injEq] at h
      rcases h with ⟨-, -, rfl⟩
      exact ⟨existing, hexisting, rfl⟩
    · simp only [bind_eq_ok, ensure_eq_ok, pure_eq_ok] at h
      rcases h with ⟨-, -, h⟩
      cases h

/-- A package that comes in is a version that no package has, and it has the superseded package of the
    comparison. -/
theorem Committed.supersedes {apply : PendingApply} {staging : Staging}
    (h : Committed apply staging now store store' db response)
    (hnew : store.db.packages.get? response.automationPackage.id = none) :
    packageByVersion store.db apply.targetId apply.fetched.manifest.automationPackage = none ∧
      store'.columns.supersedesId response.automationPackage.id =
        apply.context.supersedes.map AutomationPackageRecord.id := by
  have hpackages := h.registry.packages
  have hcreated : packageByVersion store.db apply.targetId
      apply.fetched.manifest.automationPackage = none ∧
      (store'.db.packages.get? response.automationPackage.id).isSome = true := by
    have hpackage := h.package
    generalize response.automationPackage = package at hpackage hnew ⊢
    generalize store'.db = after at hpackage ⊢
    cases hpackage with
    | stored _ hfound =>
      have hmem := Table.mem_of_first? hfound
      rw [hpackages] at hmem
      exact absurd rfl (Table.get?_eq_none.mp hnew package hmem)
    | created packages hnone hinsert =>
      rw [packageByVersion, hpackages] at hnone
      refine ⟨hnone, ?_⟩
      rw [Table.get?_insert? hinsert, if_pos rfl]
      rfl
  refine ⟨hcreated.1, ?_⟩
  simp [h.columns, ReleaseColumns.stamp, hnew, hcreated.2]

/-- From any preview on, through any operations: where what is read again is as it was previewed, an
    apply that is held to the preview stages what was previewed, or it is refused as a conflict. -/
theorem previewed_staged {s₀ s : ReleaseSessions} (hs₀ : (releaseSessions P lib).Reachable s₀)
    (hpreview : previewGitRelease P projectId targetId fetched s₀.releases.store = .ok preview)
    (hsteps : (releaseSessions P lib).Steps s₀ s)
    (hcollision : P.canonicalSha256 (.baseline fetched.manifest.baseline) =
      P.canonicalSha256 (.baseline fetched'.manifest.baseline) →
        fetched.manifest.baseline.SameContent fetched'.manifest.baseline)
    (hpreviewed : AsPreviewed P preview projectId targetId fetched' s.releases.store) :
    (∀ store' response, applyGitRelease P now requestId packageId projectId targetId fetched'
      preview.expected actorId s.releases.store = .ok (store', response) →
        StagesPreview preview s.releases.store store' response) ∧
    RaisesOnly IsConflict (applyGitRelease P now requestId packageId projectId targetId fetched'
      preview.expected actorId s.releases.store) := by
  rcases previewGitRelease_ok hpreview with ⟨context₀, hcontext₀, hbaseId, hchanges, hdigest⟩
  have hs := hs₀.steps hsteps
  rcases releaseContext_ok hcontext₀ with ⟨hdocument, hlatest, -, -⟩
  -- the base of the preview is still there, as it was
  have hbase : s.releases.store.latestReleased projectId = some context₀.base := by
    rcases hpreviewed.base with ⟨row, hrow, hid⟩
    rcases latestReleased_ok hlatest with ⟨hmem, -, hreleased⟩
    have hkept := released_steps hs₀ hsteps _ hmem hreleased
    rw [Option.mem_def.mp hrow, Table.eq_of_key_eq (latestReleased_ok hrow).1 hkept (hid.trans hbaseId)]
  -- a release with the expected digest has the content of the previewed one
  have hsame : checkExpected fetched' preview.expected = .ok () →
      fetched.manifest.baseline.SameContent fetched'.manifest.baseline := by
    intro hexpected
    simp only [checkExpected, bind_eq_ok, ensure_eq_ok] at hexpected
    rcases hexpected with ⟨-, -, -, hbaseline, -⟩
    refine hcollision ?_
    rw [hdocument, hpreviewed.digest, hbaseline]
    exact hdigest.symm
  constructor
  · intro store' response h
    rw [applyGitRelease_eq] at h
    simp only [compareRelease, bind_eq_ok, pure_eq_ok] at h
    rcases h with ⟨apply, ⟨_, hexpected, context, hcontext, rfl⟩, staging, hfind, hcommit⟩
    rcases releaseContext_again hcontext₀ (hsame hexpected) hbase hpreviewed with
      ⟨context', hcontext', hbase', hchanges', hsuperseded⟩
    obtain rfl := Except.ok.inj (hcontext.symm.trans hcontext')
    rcases PendingApply.commit_ok hcommit with ⟨db, hcommitted⟩
    refine ⟨fun id hid => ?_, fun hnew => ?_⟩
    · have hregistry := hcommitted.registry
      have hstaged := hcommitted.package.same
      rw [hid] at hregistry
      cases hregistry with
      | stored =>
        rcases find_stored hfind with ⟨request, hrequest, rfl⟩
        have hstored := hpreviewed.request request hrequest
        refine ⟨request, ?_, rfl, hstored.1, ?_⟩
        · rw [hstaged.requests]
          exact Table.mem_of_first? hrequest
        · rw [changeRequestItems, hstaged.items]
          exact hstored.2
      | imported _ himported =>
        have hcompared : Compared P s.db ⟨requestId, packageId, projectId, targetId, actorId,
            fetched', context, none⟩ := by
          rcases releaseContext_ok hcontext with ⟨hdigest', hlatest', hdiff', -⟩
          rcases latestReleased_ok hlatest' with ⟨hmem', hproject', hreleased'⟩
          exact ⟨hdigest', hmem', hreleased', hproject', hdiff'⟩
        have hitems := himported.items_changes hcompared (itemsStored_reachable hs)
        refine ⟨_, hstaged.requests ▸ (Table.mem_insert? himported.requests).mpr (.inr rfl), rfl, ?_, ?_⟩
        · exact (congrArg CaseBaselineRecord.baselineId hbase').trans hbaseId.symm
        · rw [changeRequestItems, hstaged.items]
          exact hitems.trans (hchanges'.trans hchanges.symm)
    · rcases hcommitted.supersedes hnew with ⟨hversion, hcolumn⟩
      rw [hcolumn, hsuperseded]
      exact hpreviewed.superseded (Option.isNone_iff_eq_none.mpr hversion)
  · rw [applyGitRelease]
    refine checkExpected_refuses.bind fun _ hexpected => ?_
    rcases releaseContext_again hcontext₀ (hsame hexpected) hbase hpreviewed with
      ⟨context, hcontext, -⟩
    rw [hcontext, ok_bind]
    have hrefuses : RaisesOnly IsConflict
        (stageCandidate requestId projectId actorId fetched' context s.db) :=
      stageCandidate_refuses fun hnone => hpreviewed.unused (Option.isNone_iff_eq_none.mpr hnone)
    refine hrefuses.bind fun _ _ => ?_
    exact stagePackage_refuses.bind fun _ _ => raisesOnly_ok _

namespace Installation

def previewFetched (s : ReleaseSessions) : Except ServiceError GitReleasePreviewResponse :=
  previewGitRelease primitives 1 2 fetchedRelease s.releases.store

def applyPreviewed (preview : GitReleasePreviewResponse) (s : ReleaseSessions) :
    Except ServiceError (ReleaseStore × GitReleaseApplyResponse) :=
  applyGitRelease primitives 3 40 6 1 2 fetchedRelease preview.expected 100 s.releases.store

end Installation

open Installation in
/-- The release is applied as it was previewed: a request for the deletion is staged. -/
theorem previewed_staged_dropped : ∃ s, (releaseSessions primitives cronLibrary).Reachable s ∧
    ∃ preview store' response, previewFetched s = .ok preview ∧
      applyPreviewed preview s = .ok (store', response) ∧ response.changeRequestId = some 40 ∧
      StagesPreview preview s.releases.store store' response := by
  have hrun : Ends (releaseSessionStep primitives cronLibrary) ReleaseSessions.init releaseSetUp
      fun s => ((previewFetched s).toOption.any fun preview =>
        decide (AsPreviewed primitives preview 1 2 fetchedRelease s.releases.store) &&
        (applyPreviewed preview s).toOption.any fun answer =>
          decide (answer.2.changeRequestId = some 40)) = true := by
    decide +kernel
  obtain ⟨s, hs, hpreviewed⟩ : ∃ s, (releaseSessions primitives cronLibrary).Reachable s ∧ _ :=
    hrun.exists_reachable (fun _ _ _ _ hstep => hstep) rfl
  simp only [Option.any_eq_true, Bool.and_eq_true, decide_eq_true_eq, Prod.exists] at hpreviewed
  rcases hpreviewed with ⟨preview, hpreview, hagain, store', response, happlied, hrequest⟩
  have happlied := ok_of_toOption happlied
  have hstaged : ∀ store' response, applyPreviewed preview s = .ok (store', response) →
      StagesPreview preview s.releases.store store' response :=
    (previewed_staged hs (ok_of_toOption hpreview) .refl (fun _ => by decide +kernel) hagain).1
  exact ⟨s, hs, preview, store', response, ok_of_toOption hpreview, happlied, hrequest,
    hstaged store' response happlied⟩

namespace Installation

/-- The first case with a case that the release does not have. -/
def replaced : CaseBaseline where
  baselineId := 42
  projectKey := "shop"
  version := "v3"
  source := .legacyExcel "cases.xlsx" 0 "Sheet1"
  cases := [caseA, Installation.case 3 "TC-A-3" (by decide)]
  casesNonempty := List.cons_ne_nil _ _
  caseIdsNodup := by decide
  caseCodesNodup := by decide

def publishReplaced : ReleaseSessionAction :=
  .service 2 (.session (.other (.publishBaseline 1
    (primitives.canonicalSha256 (.baseline replaced)) replaced)))

end Installation

open Installation in
/-- Another baseline is published after the preview: the apply stages changes to that one. -/
theorem other_base_staged : ∃ s₀ s, (releaseSessions primitives cronLibrary).Reachable s₀ ∧
    (releaseSessions primitives cronLibrary).Steps s₀ s ∧
    ∃ preview store' response, previewFetched s₀ = .ok preview ∧
      applyPreviewed preview s = .ok (store', response) ∧
      ¬StagesPreview preview s.releases.store store' response := by
  have hrun : Ends (releaseSessionStep primitives cronLibrary) ReleaseSessions.init releaseSetUp
      fun s₀ => Ends (releaseSessionStep primitives cronLibrary) s₀ [publishReplaced]
        fun s => ((previewFetched s₀).toOption.any fun preview =>
          (applyPreviewed preview s).toOption.any fun answer =>
            decide (answer.2.changeRequestId = some 40 ∧
              ∀ request ∈ answer.1.db.changeRequests.rows, request.id = 40 →
                request.baseBaselineId ≠ preview.baseBaselineId)) = true := by
    decide +kernel
  obtain ⟨s₀, hs₀, hpublished⟩ : ∃ s, (releaseSessions primitives cronLibrary).Reachable s ∧ _ :=
    hrun.exists_reachable (fun _ _ _ _ hstep => hstep) rfl
  obtain ⟨s, hsteps, hstaged⟩ : ∃ s, (releaseSessions primitives cronLibrary).Steps s₀ s ∧ _ :=
    hpublished.exists_steps fun _ _ _ _ hstep => hstep
  simp only [Option.any_eq_true, decide_eq_true_eq, Prod.exists] at hstaged
  rcases hstaged with ⟨preview, hpreview, store', response, happlied, hrequest, hother⟩
  refine ⟨s₀, s, hs₀, hsteps, preview, store', response, ok_of_toOption hpreview,
    ok_of_toOption happlied, fun hstages => ?_⟩
  rcases hstages.request 40 hrequest with ⟨request, hmem, hid, hbase, -⟩
  exact hother request hmem hid hbase

end TestOps

import TestOps.Invariants.RunState

/-! The announcement of a run that has ended. The result callback and the cancellation of a queued run
    enqueue one delivery per selected recipient in the transaction that ends the run; the
    reliability sweep enqueues none. Before its end a run has no delivery, and after it no
    transition enqueues another one. -/

namespace TestOps

open Checked Relational Transition

variable {P : Primitives} {db db' : Database}

/-! ### Announcements -/

/-- The deliveries that announce the end of a run. -/
def announcements (deliveries : DeliveryTable) (runId : UUID) : List RunEmailDeliveryRecord :=
  deliveries.rows.filter fun delivery => delivery.runId = some runId

/-- A run is announced to each of the recipients, once. -/
def Announced (deliveries : DeliveryTable) (runId : UUID) (recipients : List String) : Prop :=
  (announcements deliveries runId).map RunEmailDeliveryRecord.recipientEmail = recipients ∧
    recipients.Nodup

variable {deliveries deliveries' : DeliveryTable} {runId : UUID} {recipients : List String}

/-- A rewrite that keeps run and recipient of every delivery keeps the announcements. -/
theorem announcements_modifyWhere {α : Type} (g : RunEmailDeliveryRecord → α)
    {p : RunEmailDeliveryRecord → Bool} {f : RunEmailDeliveryRecord → RunEmailDeliveryRecord}
    {hf : KeepsKey RunEmailDeliveryRecord.dedupeKey f}
    (hrun : ∀ delivery, (f delivery).runId = delivery.runId)
    (hg : ∀ delivery, g (f delivery) = g delivery) :
    (announcements (deliveries.modifyWhere p f hf) runId).map g =
      (announcements deliveries runId).map g := by
  rw [announcements, announcements, Table.modifyWhere_rows, List.filter_map, List.map_map]
  have hfilter : (fun delivery : RunEmailDeliveryRecord => decide (delivery.runId = some runId)) ∘
      (fun delivery => if p delivery then f delivery else delivery) =
      fun delivery => decide (delivery.runId = some runId) := by
    funext delivery
    by_cases hp : p delivery <;> simp [hp, hrun]
  have hmap : g ∘ (fun delivery => if p delivery then f delivery else delivery) = g := by
    funext delivery
    by_cases hp : p delivery <;> simp [hp, hg]
  rw [hfilter, hmap]

/-- Added deliveries announce the runs they are about. -/
theorem announcements_insertAll? {added : List RunEmailDeliveryRecord}
    (h : deliveries.insertAll? added = some deliveries') :
    announcements deliveries' runId = announcements deliveries runId ++
      added.filter fun delivery => delivery.runId = some runId := by
  rw [announcements, Table.insertAll?_rows h, List.filter_append, announcements]

theorem runId_of_mem_runResultDeliveries {now : Instant} {run : TestRunRecord}
    {delivery : RunEmailDeliveryRecord} (h : delivery ∈ runResultDeliveries P now db run) :
    delivery.runId = some run.id := by
  rw [runResultDeliveries] at h
  split at h
  · cases h
  · obtain ⟨recipient, -, rfl⟩ := List.mem_map.mp h
    rfl

/-- Enqueueing the deliveries of one run adds no announcement of another. -/
theorem announcements_enqueue_ne {now : Instant} {run : TestRunRecord}
    (h : deliveries.insertAll? (runResultDeliveries P now db run) = some deliveries')
    (hid : run.id ≠ runId) : announcements deliveries' runId = announcements deliveries runId := by
  rw [announcements_insertAll? h, List.filter_eq_nil_iff.mpr, List.append_nil]
  intro delivery hmem
  rw [runId_of_mem_runResultDeliveries hmem]
  simpa using hid

/-- Enqueueing the deliveries of a run that has none announces it to its subscribers. -/
theorem announced_enqueue {now : Instant} {run : TestRunRecord}
    (h : deliveries.insertAll? (runResultDeliveries P now db run) = some deliveries')
    (hproject : (db.projects.get? run.projectId).isSome)
    (hnone : announcements deliveries run.id = []) :
    Announced deliveries' run.id (subscribers P db run) := by
  obtain ⟨project, hproject⟩ := Option.isSome_iff_exists.mp hproject
  have hadded : runResultDeliveries P now db run =
      (subscribers P db run).map (resultDelivery P now project run) := by
    rw [runResultDeliveries, hproject]
  constructor
  · rw [announcements_insertAll? h, hnone, List.nil_append, List.filter_eq_self.mpr, hadded,
      List.map_map]
    · exact List.map_id _
    · intro delivery hmem
      rw [runId_of_mem_runResultDeliveries hmem, decide_eq_true_eq]
  · -- the dedupe keys of the new deliveries differ, so the recipients do
    have hkeys := deliveries'.keysNodup
    rw [Table.insertAll?_rows h, List.map_append, hadded, List.map_map] at hkeys
    exact (List.nodup_append.mp hkeys).2.1.of_map

/-! ### The invariant -/

/-- Only runs that have ended are announced, and every run belongs to a project. -/
structure DeliveryState (db : Database) : Prop where
  ended : ∀ delivery ∈ db.emailDeliveries, ∀ runId, delivery.runId = some runId →
    ∃ run ∈ db.runs, run.id = runId ∧ run.status.isTerminal = true
  project : ∀ run ∈ db.runs, (db.projects.get? run.projectId).isSome

namespace DeliveryState

/-- A live run has not been announced. -/
theorem none_of_live (h : DeliveryState db) {run : TestRunRecord} (hrun : run ∈ db.runs)
    (hlive : run.status.isTerminal = false) :
    announcements db.emailDeliveries run.id = [] := by
  refine List.filter_eq_nil_iff.mpr fun delivery hmem hid => ?_
  obtain ⟨run', hrun', hsame, hended⟩ := h.ended delivery hmem run.id (of_decide_eq_true hid)
  obtain rfl := Table.eq_of_key_eq hrun' hrun hsame
  rw [hlive] at hended
  cases hended

/-- The invariant after a write whose deliveries were there before or announce ended runs. -/
theorem of_write {effect : Effect} (h : DeliveryState db) (hw : Write P effect db db')
    (hprojects : ∀ projectId, (db.projects.get? projectId).isSome →
      (db'.projects.get? projectId).isSome)
    (hdeliveries : ∀ delivery' ∈ db'.emailDeliveries, ∀ runId, delivery'.runId = some runId →
      (∃ delivery ∈ db.emailDeliveries, delivery.runId = some runId) ∨
        ∃ run ∈ db'.runs, run.id = runId ∧ run.status.isTerminal = true) : DeliveryState db' where
  ended := by
    intro delivery' hmem runId hid
    rcases hdeliveries delivery' hmem runId hid with ⟨delivery, hmem, hid⟩ | hended
    · obtain ⟨run, hrun, hid, hended⟩ := h.ended delivery hmem runId hid
      obtain ⟨run', hrun', hid', hfollows⟩ := follows_write hw run hrun
      exact ⟨run', hrun', hid'.trans hid, (hfollows.ended hended).1 ▸ hended⟩
    · exact hended
  project := by
    intro run' hrun'
    rcases run_write hw hrun' with ⟨run, hrun, -, hfollows⟩ | ⟨plan, -, horigin, rfl⟩
    · rw [hfollows.projectId]
      exact hprojects _ (h.project run hrun)
    · refine hprojects _ ?_
      cases horigin with
      | request now runId payload key actorId statuses baseline hplanned =>
        rw [RunPlan.run, hplanned.projectId]
        exact hplanned.project
      | rerun now runId source mode key actorId hsource hterminal hplanned =>
        rw [RunPlan.run, hplanned.projectId]
        exact hplanned.project

end DeliveryState

/-- Every write keeps the invariant. -/
theorem deliveryState_write {effect : Effect} (hw : Write P effect db db')
    (hi : DeliveryState db) : DeliveryState db' := by
  have hold : ∀ {deliveries : DeliveryTable}, deliveries = db.emailDeliveries →
      ∀ delivery' ∈ deliveries, ∀ runId, delivery'.runId = some runId →
      (∃ delivery ∈ db.emailDeliveries, delivery.runId = some runId) ∨
        ∃ run ∈ db'.runs, run.id = runId ∧ run.status.isTerminal = true := by
    rintro _ rfl delivery hmem runId hid
    exact .inl ⟨delivery, hmem, hid⟩
  have hwrite := hw
  cases hw with
  | poolCreated | poolUpdated | workersChanged | preferencesChanged | outboxChanged | runQueued
  | slotBound | runStarted | eventRecorded | eventLogged | cancelRequested | runRecovered
  | leaseReleased | leaseAcquired | dispatchMarked | baselinePublished | packageActivated
  | requestCreated | requestEdited | requestSubmitted | requestReviewed | validationSkipped
  | validationLinked | requestPublished =>
    exact hi.of_write hwrite (fun _ => id) (hold rfl)
  | configured configuration hprojects =>
    refine hi.of_write hwrite (fun projectId hsome => ?_) (hold rfl)
    obtain ⟨project, hproject⟩ := Option.isSome_iff_exists.mp hsome
    obtain ⟨hmem, rfl⟩ := Table.get?_eq_some.mp hproject
    exact hprojects project hmem
  | deliveriesRewritten p f hf hkeep =>
    refine hi.of_write hwrite (fun _ => id) fun delivery' hmem runId hid => .inl ?_
    obtain ⟨delivery, hdelivery, rfl⟩ := Table.mem_modifyWhere.mp hmem
    refine ⟨delivery, hdelivery, ?_⟩
    split at hid
    · rwa [(hkeep delivery).1] at hid
    · exact hid
  | testDeliveriesAdded added emailDeliveries hinsert hnone =>
    refine hi.of_write hwrite (fun _ => id) fun delivery' hmem runId hid => .inl ?_
    rcases (Table.mem_insertAll? hinsert).mp hmem with hmem | hmem
    · exact ⟨delivery', hmem, hid⟩
    · rw [hnone delivery' hmem] at hid
      cases hid
  | resultRecorded now runId result run artifacts emailDeliveries runEvents _ hrun _ _ _
      hinsert =>
    refine hi.of_write hwrite (fun _ => id) fun delivery' hmem announcedId hid => ?_
    rcases (Table.mem_insertAll? hinsert).mp hmem with hmem | hmem
    · exact .inl ⟨delivery', hmem, hid⟩
    · rw [runId_of_mem_runResultDeliveries hmem] at hid
      obtain rfl := Option.some.inj hid
      exact .inr ⟨_, Table.mem_of_get? (Table.get?_modify_self hrun), rfl, result.terminal⟩
  | runCanceled now runId run emailDeliveries outbox runEvents hrun _ _ hqueued hinsert =>
    refine hi.of_write hwrite (fun _ => id) fun delivery' hmem announcedId hid => ?_
    rcases (Table.mem_insertAll? hinsert).mp hmem with hmem | hmem
    · exact .inl ⟨delivery', hmem, hid⟩
    · rw [runId_of_mem_runResultDeliveries hmem] at hid
      obtain rfl := Option.some.inj hid
      refine .inr ⟨_, Table.mem_of_get? (Table.get?_modify_self hrun), rfl, ?_⟩
      rw [canceledRun, if_pos hqueued]
      rfl

theorem deliveryState_reachable {s : State} (h : (controlPlane P).Reachable s) :
    DeliveryState s.db :=
  reachable_invariant
    ⟨fun _ hmem => absurd hmem Table.not_mem_empty, fun _ hmem => absurd hmem Table.not_mem_empty⟩
    (fun _ _ _ => deliveryState_write) h

/-! ### Which actions end runs -/

/-- The labels of the writes that end a run and announce its end. -/
def Effect.announces : Effect → Bool
  | .resultRecorded _ _ | .runCanceled _ => true
  | _ => false

/-- The labels of the writes of a reliability sweep. -/
def Effect.sweeps : Effect → Bool
  | .runRecovered _ | .leaseReleased _ => true
  | _ => false

/-- The reliability sweep. -/
def Action.sweeps : Action → Bool
  | .processRunReliability .. => true
  | _ => false

/-- An action ends runs by the callback or by cancellation, or it sweeps, or it ends none. -/
theorem Action.ends (a : Action) :
    (a.sweeps = false ∧ ∀ effect, a.allows effect → effect.announces = true) ∨
    (a.sweeps = true ∧ ∀ effect, a.allows effect → effect.sweeps = true) ∨
    ∀ effect, a.allows effect → effect.announces = false ∧
      ∀ runId, effect ≠ .runRecovered runId := by
  cases a with
  | recordRunResult | cancelRun =>
    left
    refine ⟨rfl, ?_⟩
    rintro _ rfl
    rfl
  | cancelRuns =>
    left
    refine ⟨rfl, ?_⟩
    rintro _ ⟨_, -, rfl⟩
    rfl
  | processRunReliability =>
    right; left
    refine ⟨rfl, ?_⟩
    rintro _ (⟨_, rfl⟩ | ⟨_, rfl⟩) <;> rfl
  | configure | createRunnerPool | updateRunnerPool | heartbeatRunnerWorker | updateRunnerWorker
  | enqueueRunEmailTest | settleDelivery | recordRunEvent | publishBaseline
  | activateAutomationPackage | createChangeRequest | updateChangeRequest | submitChangeRequest
  | reviewChangeRequest | publishChangeRequest =>
    right; right
    rintro _ rfl
    exact ⟨rfl, nofun⟩
  | updateRunEmailPreference | updateRunStatus =>
    right; right
    rintro _ (rfl | rfl) <;> exact ⟨rfl, nofun⟩
  | createRun | createAutomationPackageValidationRun | createRerun | createCandidateRun =>
    right; right
    rintro _ ⟨_, rfl⟩
    exact ⟨rfl, nofun⟩
  | linkValidationRun =>
    right; right
    rintro _ ⟨_, _, rfl⟩
    exact ⟨rfl, nofun⟩
  | dispatchOutboxBatch =>
    right; right
    rintro _ (⟨_, _, rfl⟩ | ⟨_, rfl⟩ | ⟨_, rfl⟩ | rfl) <;> exact ⟨rfl, nofun⟩
  | createValidationRun =>
    right; right
    rintro _ (⟨_, rfl⟩ | rfl | ⟨_, _, rfl⟩) <;> exact ⟨rfl, nofun⟩

/-- Any other write leaves a live run live. -/
theorem live_write {effect : Effect} (hw : Write P effect db db')
    (hannounces : effect.announces = false) (hrecovers : ∀ runId, effect ≠ .runRecovered runId) :
    db.runs.Evolves (fun run run' => run.status.isTerminal = false →
      run'.status.isTerminal = false) db'.runs := by
  cases hw with
  | configured | poolCreated | poolUpdated | workersChanged | preferencesChanged
  | deliveriesRewritten | testDeliveriesAdded | outboxChanged | slotBound | eventRecorded
  | eventLogged | leaseReleased | leaseAcquired | baselinePublished | packageActivated
  | requestCreated | requestEdited | requestSubmitted | requestReviewed | validationSkipped
  | validationLinked | requestPublished => exact .refl fun _ => id
  | runQueued plan runs runEvents runCases outbox horigin hkey hruns =>
    exact .insert? (fun _ => id) hruns
  | runStarted now runId target run runEvents hrun htarget =>
    refine .modify (fun _ => id) fun run _ _ => ?_
    rcases htarget with rfl | rfl <;> rfl
  | dispatchMarked runId mark hm =>
    refine .modify (fun _ => id) fun run _ hlive => ?_
    cases hm <;> exact hlive
  | resultRecorded | runCanceled | cancelRequested => cases hannounces
  | runRecovered => exact absurd rfl (hrecovers _)

/-- The sweep enqueues nothing. -/
theorem sweep_write {effect : Effect} (hw : Write P effect db db')
    (hsweeps : effect.sweeps = true) : db'.emailDeliveries = db.emailDeliveries := by
  cases hw <;> first | rfl | cases hsweeps

/-! ### Ending a run -/

/-- The run is live, or it has ended and was announced to those who subscribe in `db₀`. -/
def Fate (P : Primitives) (db₀ : Database) (runId : UUID) (runs : RunTable)
    (deliveries : DeliveryTable) : Prop :=
  ∃ run ∈ runs, run.id = runId ∧ (run.status.isTerminal = false ∨
    Announced deliveries runId (subscribers P db₀ run))

variable {db₀ : Database} {endedId : UUID}

/-- The end of a run is announced, and the fate of the other runs stays as it is. -/
theorem Fate.of_end {now : Instant} {run : TestRunRecord} {f : TestRunRecord → TestRunRecord}
    {hf : KeepsKey TestRunRecord.id f} (h : Fate P db₀ runId db.runs db.emailDeliveries)
    (hi : DeliveryState db) (hprefs : db.emailPreferences = db₀.emailPreferences)
    (hrun : db.runs.get? endedId = some run) (hlive : run.status.isTerminal = false)
    (hprojectId : (f run).projectId = run.projectId)
    (hinsert : db.emailDeliveries.insertAll? (runResultDeliveries P now db (f run)) =
      some deliveries') :
    Fate P db₀ runId (db.runs.modify endedId f hf) deliveries' := by
  have hid := Table.key_of_get? hrun
  obtain ⟨run₀, hrun₀, hid₀, hfate⟩ := h
  by_cases hsame : endedId = runId
  · subst hsame
    refine ⟨f run, Table.mem_of_get? (Table.get?_modify_self hrun), (hf.eq run).trans hid, .inr ?_⟩
    have hannounced := announced_enqueue hinsert
      (hprojectId ▸ hi.project run (Table.mem_of_get? hrun))
      ((hf.eq run).symm ▸ hi.none_of_live (Table.mem_of_get? hrun) hlive)
    rwa [hf.eq, hid, subscribers, hprefs, ← subscribers] at hannounced
  · refine ⟨run₀, Table.mem_modify_of_ne hrun₀ (fun heq => hsame (heq.symm.trans hid₀)), hid₀,
      hfate.imp_right fun hannounced => ?_⟩
    rwa [Announced, announcements_enqueue_ne hinsert]
    rw [hf.eq, hid]
    exact hsame

/-- A callback or a cancellation announces the run it ends. -/
theorem fate_write {effect : Effect} (hw : Write P effect db db')
    (hannounces : effect.announces = true) (hi : DeliveryState db)
    (hprefs : db.emailPreferences = db₀.emailPreferences)
    (h : Fate P db₀ runId db.runs db.emailDeliveries) :
    db'.emailPreferences = db₀.emailPreferences ∧
      Fate P db₀ runId db'.runs db'.emailDeliveries := by
  cases hw with
  | resultRecorded now endedId result run artifacts emailDeliveries runEvents _ hrun _ hallowed _
      hinsert =>
    exact ⟨hprefs, h.of_end hi hprefs hrun (not_terminal_of_allowed hallowed) rfl hinsert⟩
  | runCanceled now endedId run emailDeliveries outbox runEvents hrun hlive _ _ hinsert =>
    exact ⟨hprefs, h.of_end hi hprefs hrun hlive rfl hinsert⟩
  | cancelRequested now endedId run outbox runEvents hrun hlive _ hqueued =>
    obtain ⟨run₀, hrun₀, hid₀, hfate⟩ := h
    refine ⟨hprefs, _, Table.mem_modify_image hrun₀, ?_⟩
    by_cases hsame : run₀.id = endedId
    · rw [if_pos hsame]
      refine ⟨hid₀, .inl ?_⟩
      obtain rfl := Option.some.inj (hrun.symm.trans (Table.get?_eq_some.mpr ⟨hrun₀, hsame⟩))
      rw [canceledRun, if_neg hqueued]
      exact hlive
    · rw [if_neg hsame]
      exact ⟨hid₀, hfate⟩
  | _ => cases hannounces

/-- Once a run has ended, no write adds or removes an announcement of it. -/
theorem announcements_write {effect : Effect} (hw : Write P effect db db') {run : TestRunRecord}
    (hrun : run ∈ db.runs) (hended : run.status.isTerminal = true) :
    (announcements db'.emailDeliveries run.id).map RunEmailDeliveryRecord.dedupeKey =
      (announcements db.emailDeliveries run.id).map RunEmailDeliveryRecord.dedupeKey := by
  have hother : ∀ {endedId : UUID} {ended : TestRunRecord}, db.runs.get? endedId = some ended →
      ended.status.isTerminal = false → endedId ≠ run.id := by
    rintro endedId ended hget hlive rfl
    obtain rfl := Option.some.inj ((Table.get?_key hrun).symm.trans hget)
    rw [hlive] at hended
    cases hended
  cases hw with
  | configured | poolCreated | poolUpdated | workersChanged | preferencesChanged | outboxChanged
  | runQueued | slotBound | runStarted | eventRecorded | eventLogged | cancelRequested
  | runRecovered | leaseReleased | leaseAcquired | dispatchMarked | baselinePublished
  | packageActivated | requestCreated | requestEdited | requestSubmitted | requestReviewed
  | validationSkipped | validationLinked | requestPublished => rfl
  | deliveriesRewritten p f hf hkeep =>
    exact announcements_modifyWhere _ (fun delivery => (hkeep delivery).1) hf.eq
  | testDeliveriesAdded added emailDeliveries hinsert hnone =>
    rw [announcements_insertAll? hinsert, List.filter_eq_nil_iff.mpr, List.append_nil]
    intro delivery hmem
    rw [hnone delivery hmem]
    simp
  | resultRecorded now endedId result ended artifacts emailDeliveries runEvents _ hget _ hallowed _
      hinsert =>
    have hid := Table.key_of_get? hget
    rw [announcements_enqueue_ne hinsert]
    rw [finishedRun, hid]
    exact hother hget (not_terminal_of_allowed hallowed)
  | runCanceled now endedId ended emailDeliveries outbox runEvents hget hlive _ _ hinsert =>
    have hid := Table.key_of_get? hget
    rw [announcements_enqueue_ne hinsert]
    rw [canceledRun, hid]
    exact hother hget hlive

/-! ### Steps -/

/-- A subscribed creator is announced to at the selected addresses. -/
theorem subscribers_eq {run : TestRunRecord} {preference : RunEmailPreferenceRecord}
    (hpreference : db.emailPreferences.get? run.createdBy = some preference)
    (henabled : preference.enabled = true) (hstatus : run.status ∈ preference.statuses) :
    subscribers P db run = selectedPreferenceEmails P (some preference) := by
  simp only [subscribers, hpreference, if_pos (And.intro henabled hstatus)]

/-- A step that ends a run has announced it, exactly when it is not the reliability sweep. -/
theorem announced_step {s s' : State} {a : Action} (hreach : (controlPlane P).Reachable s)
    (h : step P s a = .ok s') {run run' : TestRunRecord} (hrun : run ∈ s.db.runs)
    (hlive : run.status.isTerminal = false) (hrun' : run' ∈ s'.db.runs) (hid : run'.id = run.id)
    (hended : run'.status.isTerminal = true) (hsubscribed : subscribers P s.db run' ≠ []) :
    Announced s'.db.emailDeliveries run.id (subscribers P s.db run') ↔ a.sweeps = false := by
  have hi := deliveryState_reachable hreach
  rcases a.ends with ⟨hno, hannounces⟩ | ⟨hsweep, hsweeps⟩ | hnone
  · refine iff_of_true ?_ hno
    have hfate : DeliveryState s'.db ∧ s'.db.emailPreferences = s.db.emailPreferences ∧
        Fate P s.db run.id s'.db.runs s'.db.emailDeliveries := by
      refine (step_writes h).invariant (p := fun db => DeliveryState db ∧
        db.emailPreferences = s.db.emailPreferences ∧
        Fate P s.db run.id db.runs db.emailDeliveries) ?_ ⟨hi, rfl, run, hrun, rfl, .inl hlive⟩
      rintro effect db db' hp hw ⟨hdb, hprefs, hfate⟩
      exact ⟨deliveryState_write hw hdb, fate_write hw (hannounces effect hp) hdb hprefs hfate⟩
    obtain ⟨-, -, run₁, hrun₁, hid₁, hlive₁ | hannounced⟩ := hfate
    · obtain rfl := Table.eq_of_key_eq hrun₁ hrun' (hid₁.trans hid.symm)
      rw [hlive₁] at hended
      cases hended
    · obtain rfl := Table.eq_of_key_eq hrun₁ hrun' (hid₁.trans hid.symm)
      exact hannounced
  · -- the sweep leaves the deliveries alone, and the live run had none
    refine iff_of_false ?_ (by simp [hsweep])
    have hsame : s'.db.emailDeliveries = s.db.emailDeliveries :=
      (step_writes h).rel (r := fun db db' => db'.emailDeliveries = db.emailDeliveries)
        (fun _ => rfl) (fun _ _ _ hab hbc => hbc.trans hab)
        fun effect _ _ hp hw => sweep_write hw (hsweeps effect hp)
    rintro ⟨hrecipients, -⟩
    rw [hsame, hi.none_of_live hrun hlive] at hrecipients
    exact hsubscribed hrecipients.symm
  · have hstays := (step_writes h).rel (r := fun db db' => db.runs.Evolves
        (fun run run' => run.status.isTerminal = false → run'.status.isTerminal = false) db'.runs)
      (fun _ => .refl fun _ => id) (fun _ _ _ => .trans fun _ _ _ hab hbc h => hbc (hab h))
      fun effect _ _ hp hw => live_write hw (hnone effect hp).1 (hnone effect hp).2
    obtain ⟨run₁, hrun₁, hid₁, hlive₁⟩ := hstays run hrun
    obtain rfl := Table.eq_of_key_eq hrun₁ hrun' (hid₁.trans hid.symm)
    rw [hlive₁ hlive] at hended
    cases hended

/-- When a step ends a run whose creator subscribes to the status it ends with, there is exactly
    one delivery per selected recipient afterwards if and only if the step is not the reliability
    sweep. No step enqueues a delivery for a run that has already ended. -/
theorem run_end_announced {s : State} (h : (controlPlane P).Reachable s) {a : Action} {s' : State}
    (hstep : step P s a = .ok s') :
    (∀ run ∈ s.db.runs, run.status.isTerminal = false → ∀ run' ∈ s'.db.runs, run'.id = run.id →
      run'.status.isTerminal = true →
      ∀ preference, s.db.emailPreferences.get? run.createdBy = some preference →
      preference.enabled = true → run'.status ∈ preference.statuses →
      selectedPreferenceEmails P (some preference) ≠ [] →
      (Announced s'.db.emailDeliveries run.id (selectedPreferenceEmails P (some preference)) ↔
        a.sweeps = false)) ∧
    ∀ run ∈ s.db.runs, run.status.isTerminal = true →
      (announcements s'.db.emailDeliveries run.id).map RunEmailDeliveryRecord.dedupeKey =
        (announcements s.db.emailDeliveries run.id).map RunEmailDeliveryRecord.dedupeKey := by
  constructor
  · intro run hrun hlive run' hrun' hid hended preference hpreference henabled hstatus hselected
    obtain ⟨run₁, hrun₁, hid₁, hfollows⟩ := follows_step hstep run hrun
    obtain rfl := Table.eq_of_key_eq hrun₁ hrun' (hid₁.trans hid.symm)
    rw [← hfollows.createdBy] at hpreference
    have hsubscribers := subscribers_eq (P := P) hpreference henabled hstatus
    rw [← hsubscribers] at hselected ⊢
    exact announced_step h hstep hrun hlive hrun' hid hended hselected
  · intro run hrun hended
    have hkept := (step_writes hstep).invariant
      (p := fun db => (∃ run' ∈ db.runs, run'.id = run.id ∧ run'.status.isTerminal = true) ∧
        (announcements db.emailDeliveries run.id).map RunEmailDeliveryRecord.dedupeKey =
          (announcements s.db.emailDeliveries run.id).map RunEmailDeliveryRecord.dedupeKey)
      (fun effect db db' _ hw hdb => ?_) ⟨⟨run, hrun, rfl, hended⟩, rfl⟩
    · exact hkept.2
    · obtain ⟨⟨run₁, hrun₁, hid₁, hended₁⟩, hkeys⟩ := hdb
      obtain ⟨run₂, hrun₂, hid₂, hfollows⟩ := follows_write hw run₁ hrun₁
      refine ⟨⟨run₂, hrun₂, hid₂.trans hid₁, (hfollows.ended hended₁).1 ▸ hended₁⟩, ?_⟩
      rw [← hkeys, ← hid₁]
      exact announcements_write hw hrun₁ hended₁

open Installation in
/-- Run 20 passes, and its owner is told so once. -/
theorem run_end_announced_passed : ∃ s a s', (controlPlane primitives).Reachable s ∧
    step primitives s a = .ok s' ∧ a.sweeps = false ∧
    Announced s'.db.emailDeliveries 20 ["owner@shop.example"] := by
  have hrun : Leads [queueRun, dispatchBatch, .updateRunStatus 0 20 .preparing (some "worker"),
      .updateRunStatus 0 20 .running none] fun s => Ends (step primitives) s
      [.recordRunResult 1 20 (passed 20 [caseResult caseA .passed, caseResult caseB .passed])]
      fun s' => (∃ run ∈ s.db.runs.rows, run.id = 20 ∧ run.status = .running ∧
          run.createdBy = 100) ∧
        (∃ run' ∈ s'.db.runs.rows, run'.id = 20 ∧ run'.status = .passed) ∧
        ∃ preference, s.db.emailPreferences.get? 100 = some preference ∧
          preference.enabled = true ∧ .passed ∈ preference.statuses ∧
          selectedPreferenceEmails primitives (some preference) = ["owner@shop.example"] := by
    decide +kernel
  obtain ⟨s, hs, hend⟩ := hrun.exists_reachable
  obtain ⟨s', hstep, ⟨run, hrun, hid, hrunning, hcreator⟩, ⟨run', hrun', hid', hpassed⟩, preference,
    hpreference, henabled, hstatus, hselected⟩ := ends_singleton.mp hend
  refine ⟨s, _, s', hs, hstep, rfl, ?_⟩
  rw [← hselected, ← hid]
  refine ((run_end_announced hs hstep).1 run hrun (by rw [hrunning]; rfl) run' hrun'
    (hid'.trans hid.symm) (by rw [hpassed]; rfl) preference (hcreator ▸ hpreference) henabled
    (hpassed ▸ hstatus) ?_).mpr rfl
  rw [hselected]
  exact List.cons_ne_nil _ _

open Installation in
/-- The dispatched run 20 is never claimed, and the sweep ends it: its owner, who subscribes to
    infrastructure errors, is not told. -/
theorem recovered_run_not_announced : ∃ s a s', (controlPlane primitives).Reachable s ∧
    step primitives s a = .ok s' ∧
    (∃ run ∈ s.db.runs.rows, run.id = 20 ∧ run.status.isTerminal = false ∧ run.createdBy = 100) ∧
    (∃ run' ∈ s'.db.runs.rows, run'.id = 20 ∧ run'.status = .infraError) ∧
    (∃ preference, s.db.emailPreferences.get? 100 = some preference ∧
      preference.enabled = true ∧ .infraError ∈ preference.statuses ∧
      selectedPreferenceEmails primitives (some preference) = ["owner@shop.example"]) ∧
    announcements s'.db.emailDeliveries 20 = [] := by
  have hrun : Leads [queueRun, dispatchBatch] fun s => Ends (step primitives) s [sweep] fun s' =>
      (∃ run ∈ s.db.runs.rows, run.id = 20 ∧ run.status.isTerminal = false ∧
        run.createdBy = 100) ∧
      (∃ run' ∈ s'.db.runs.rows, run'.id = 20 ∧ run'.status = .infraError) ∧
      (∃ preference, s.db.emailPreferences.get? 100 = some preference ∧
        preference.enabled = true ∧ .infraError ∈ preference.statuses ∧
        selectedPreferenceEmails primitives (some preference) = ["owner@shop.example"]) ∧
      announcements s'.db.emailDeliveries 20 = [] := by
    decide +kernel
  obtain ⟨s, hs, hend⟩ := hrun.exists_reachable
  obtain ⟨s', hstep, hclaims⟩ := ends_singleton.mp hend
  exact ⟨s, _, s', hs, hstep, hclaims⟩

end TestOps

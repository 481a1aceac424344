import TestOps.Invariants.QualityDeliveries

/-! What receivers of quality alerts see. The announcements of a metric are a word of episodes, and
    its state remembers where the word stands:

      queued:   triggered W  escalated C  deescalated W  recovered   triggered C   ..
      active:        W            C             W          none           C        ..

    A silence queues nothing and remembers everything; a change of what is alerted about closes the
    episode. An acknowledgement stands for one alert status and falls with it. -/

namespace TestOps

open Checked Relational Transition

variable {sha256 : SignalDocument → Digest} {db db' : QualityDatabase}
  {subject : UUID × QualityAlertMetric} {evaluation : ProjectEvaluation}
  {signal : QualityChangeSignal} {a : QualityAction}

/-! ### Announcements -/

structure Announcement where
  eventType : QualityEventType
  status : AlertStatus
  deriving DecidableEq

/-- What a delivery announces about a metric; a test or a replay announces nothing new. -/
def QualityWebhookDeliveryRecord.announcement? (subject : UUID × QualityAlertMetric)
    (delivery : QualityWebhookDeliveryRecord) : Option Announcement :=
  match delivery.replayOfId, delivery.payload.alert with
  | none, some alert =>
    if (delivery.projectId, alert.signal.metric) = subject then
      some ⟨delivery.eventType, alert.signal.alertStatus⟩
    else none
  | _, _ => none

/-- The announcements of a metric, in the order in which they were queued. -/
def queuedAlerts (subject : UUID × QualityAlertMetric) (db : QualityDatabase) :
    List Announcement :=
  db.deliveries.rows.filterMap (QualityWebhookDeliveryRecord.announcement? subject)

/-- Words of episodes, from one active status to another. -/
inductive Episodes (minimum : ActiveAlertStatus) (start : Option ActiveAlertStatus) :
    List Announcement → Option ActiveAlertStatus → Prop
  | nil : Episodes minimum start [] start
  | triggered {w : List Announcement} {severity : ActiveAlertStatus} :
      Episodes minimum start w none → minimum.rank ≤ severity.rank →
      Episodes minimum start (w ++ [⟨.triggered, .active severity⟩]) (some severity)
  | escalated {w : List Announcement} {active severity : ActiveAlertStatus} :
      Episodes minimum start w (some active) → active.rank < severity.rank →
      Episodes minimum start (w ++ [⟨.escalated, .active severity⟩]) (some severity)
  | deescalated {w : List Announcement} {active severity : ActiveAlertStatus} :
      Episodes minimum start w (some active) → severity.rank < active.rank →
      minimum.rank ≤ severity.rank →
      Episodes minimum start (w ++ [⟨.deescalated, .active severity⟩]) (some severity)
  | ended {w : List Announcement} {active severity : ActiveAlertStatus} :
      Episodes minimum start w (some active) → severity.rank < active.rank →
      severity.rank < minimum.rank →
      Episodes minimum start (w ++ [⟨.deescalated, .active severity⟩]) none
  | recovered {w : List Announcement} {active : ActiveAlertStatus} :
      Episodes minimum start w (some active) →
      Episodes minimum start (w ++ [⟨.recovered, .stable⟩]) none

/-- Episodes go on where others have stopped. -/
theorem Episodes.append {minimum : ActiveAlertStatus} {start middle stop : Option ActiveAlertStatus}
    {w v : List Announcement} (hw : Episodes minimum start w middle)
    (hv : Episodes minimum middle v stop) : Episodes minimum start (w ++ v) stop := by
  induction hv with
  | nil => rwa [List.append_nil]
  | triggered _ hrank ih => rw [← List.append_assoc]; exact ih.triggered hrank
  | escalated _ hrank ih => rw [← List.append_assoc]; exact ih.escalated hrank
  | deescalated _ hrank hmin ih => rw [← List.append_assoc]; exact ih.deescalated hrank hmin
  | ended _ hrank hmin ih => rw [← List.append_assoc]; exact ih.ended hrank hmin
  | recovered _ ih => rw [← List.append_assoc]; exact ih.recovered

/-- Without an announcement nothing becomes active and nothing stops being so. -/
theorem Episodes.stop_eq {minimum : ActiveAlertStatus} {start stop : Option ActiveAlertStatus}
    (h : Episodes minimum start [] stop) : stop = start := by
  generalize hw : ([] : List Announcement) = w at h
  cases h with
  | nil => rfl
  | _ => simp at hw

/-- What a decision announces. -/
def QualityAlertDecision.announcements (decision : QualityAlertDecision) (status : AlertStatus) :
    List Announcement :=
  decision.eventType.toList.map fun eventType => ⟨eventType, status⟩

/-- What is decided continues the episodes from the status that was active. -/
theorem decideQualityAlertEvent_episodes (status : AlertStatus)
    (active : Option ActiveAlertStatus) (minimum : ActiveAlertStatus)
    (cooldownUntil : Option Instant) (now : Instant) :
    let decision := decideQualityAlertEvent status active minimum cooldownUntil now
    Episodes minimum active (decision.announcements status) decision.activeNotificationStatus := by
  have hnil : ∀ active : Option ActiveAlertStatus, Episodes minimum active [] active :=
    fun _ => .nil
  match status, active with
  | .noData, active => exact .nil
  | .stable, some active => exact (hnil (some active)).recovered
  | .stable, none => exact .nil
  | .active severity, some active =>
    simp only [decideQualityAlertEvent]
    split
    · rename_i hrises
      exact (hnil (some active)).escalated hrises
    · split
      · rename_i hfalls
        split
        · rename_i hmin
          exact (hnil (some active)).deescalated hfalls hmin
        · rename_i hmin
          exact (hnil (some active)).ended hfalls (by omega)
      · exact .nil
  | .active severity, none =>
    simp only [decideQualityAlertEvent]
    split
    · exact .nil
    · rename_i hmin
      split
      · exact .nil
      · exact (hnil none).triggered (by omega)

/-- A decision without an event keeps the active status. -/
theorem decideQualityAlertEvent_quiet {status : AlertStatus} {active : Option ActiveAlertStatus}
    {minimum : ActiveAlertStatus} {cooldownUntil : Option Instant} {now : Instant}
    (h : (decideQualityAlertEvent status active minimum cooldownUntil now).eventType = none) :
    (decideQualityAlertEvent status active minimum cooldownUntil now).activeNotificationStatus =
      active := by
  have hepisodes := decideQualityAlertEvent_episodes status active minimum cooldownUntil now
  simp only [QualityAlertDecision.announcements, h] at hepisodes
  exact hepisodes.stop_eq

/-! ### What is stored about a metric -/

/-- All that is stored about the alerts of a metric. -/
structure AlertView where
  state : Option QualityAlertStateRecord
  queued : List Announcement

def alertView (subject : UUID × QualityAlertMetric) (db : QualityDatabase) : AlertView :=
  ⟨db.alertStates.get? subject, queuedAlerts subject db⟩

/-- What is remembered of the announcements. -/
structure AlertMemory where
  activeNotificationStatus : Option ActiveAlertStatus
  cooldownUntil : Option Instant
  notificationSequence : Nat
  deriving DecidableEq

def QualityAlertStateRecord.memory (state : QualityAlertStateRecord) : AlertMemory :=
  ⟨state.activeNotificationStatus, state.cooldownUntil, state.notificationSequence⟩

def AlertView.memory (view : AlertView) : AlertMemory :=
  (view.state.map QualityAlertStateRecord.memory).getD ⟨none, none, 0⟩

theorem insertDelivery_queued (subject : UUID × QualityAlertMetric)
    {delivery : QualityWebhookDeliveryRecord}
    (h : insertDelivery delivery db = .ok db') :
    queuedAlerts subject db' =
      queuedAlerts subject db ++ (delivery.announcement? subject).toList := by
  obtain ⟨-, -, -, hrows, -⟩ := insertDelivery_ok h
  rw [queuedAlerts, hrows, List.filterMap_append]
  cases hannounce : delivery.announcement? subject <;> simp [queuedAlerts, hannounce]

/-- A delivery that announces nothing leaves what is stored about the alerts. -/
theorem insertDelivery_view {delivery : QualityWebhookDeliveryRecord}
    (h : insertDelivery delivery db = .ok db') (hnone : delivery.announcement? subject = none) :
    alertView subject db' = alertView subject db := by
  obtain ⟨-, -, hstates, -⟩ := insertDelivery_ok h
  rw [alertView, alertView, hstates, insertDelivery_queued subject h, hnone]
  simp

theorem queuedAlerts_congr (h : db'.deliveries = db.deliveries) :
    queuedAlerts subject db' = queuedAlerts subject db := by
  rw [queuedAlerts, queuedAlerts, h]

/-! ### Evaluating a signal -/

/-- The state with the signal in it. -/
def observedState (sha256 : SignalDocument → Digest) (evaluation : ProjectEvaluation)
    (signal : QualityChangeSignal) (db : QualityDatabase) : QualityAlertStateRecord :=
  match db.alertStates.get? (evaluation.subject signal) with
  | some state => state.observe sha256 evaluation signal
  | none => newAlertState sha256 evaluation signal

/-- What the signal makes due. -/
def dueDecision (evaluation : ProjectEvaluation) (signal : QualityChangeSignal)
    (db : QualityDatabase) : QualityAlertDecision :=
  let memory := (alertView (evaluation.subject signal) db).memory
  decideQualityAlertEvent signal.alertStatus memory.activeNotificationStatus
    evaluation.config.minimumAlertStatus memory.cooldownUntil evaluation.moment

/-- A signal changes nothing that is remembered of the announcements. -/
theorem QualityAlertStateRecord.memory_observe {state : QualityAlertStateRecord} :
    (state.observe sha256 evaluation signal).memory = state.memory := by
  simp only [QualityAlertStateRecord.observe]
  split <;> rfl

theorem memory_observedState (sha256 : SignalDocument → Digest)
    (evaluation : ProjectEvaluation) (signal : QualityChangeSignal) (db : QualityDatabase) :
    (observedState sha256 evaluation signal db).memory =
    (alertView (evaluation.subject signal) db).memory := by
  rw [observedState, AlertView.memory, alertView]
  split
  · rename_i state hstate
    rw [hstate]
    exact QualityAlertStateRecord.memory_observe
  · rename_i hnone
    rw [hnone]
    rfl

theorem observeSignal_ok {state : QualityAlertStateRecord}
    (h : observeSignal sha256 evaluation signal db = .ok (state, db')) :
    state = observedState sha256 evaluation signal db ∧ db'.projects = db.projects ∧
      db'.configs = db.configs ∧ db'.deliveries = db.deliveries ∧
      db'.alertStates.get? (evaluation.subject signal) = some state ∧
      ∀ other ≠ evaluation.subject signal,
        db'.alertStates.get? other = db.alertStates.get? other := by
  rw [observeSignal] at h
  split at h
  · rename_i stored hstored
    simp only [pure_eq_ok, Prod.mk.injEq] at h
    obtain ⟨rfl, rfl⟩ := h
    exact ⟨by rw [observedState, hstored], rfl, rfl, rfl, Table.get?_modify_self hstored,
      fun other hne => Table.get?_modify_ne hne⟩
  · rename_i hnone
    simp only [bind_eq_ok, found_eq_ok, pure_eq_ok, Prod.mk.injEq] at h
    obtain ⟨alertStates, hinsert, rfl, rfl⟩ := h
    have hsubject : (newAlertState sha256 evaluation signal).subject =
        evaluation.subject signal := rfl
    refine ⟨by rw [observedState, hnone], rfl, rfl, rfl, ?_, fun other hne => ?_⟩
    · simp only [Table.get?_insert? hinsert, hsubject, if_true]
    · simp only [Table.get?_insert? hinsert, hsubject, if_neg hne]

/-- The signal is stored; what it makes due is announced, unless the alerts are silenced. -/
theorem evaluateSignal_ok (h : evaluateSignal sha256 evaluation signal db = .ok db') :
    db'.projects = db.projects ∧ db'.configs = db.configs ∧
      (∀ other ≠ evaluation.subject signal, alertView other db' = alertView other db) ∧
      (((dueDecision evaluation signal db).eventType = none ∨
          evaluation.config.isSilenced evaluation.moment) ∧
        alertView (evaluation.subject signal) db' =
          ⟨some (observedState sha256 evaluation signal db),
            queuedAlerts (evaluation.subject signal) db⟩ ∨
      ((dueDecision evaluation signal db).eventType.isSome = true ∧
          ¬evaluation.config.isSilenced evaluation.moment) ∧
        alertView (evaluation.subject signal) db' =
          ⟨some ((observedState sha256 evaluation signal db).announce evaluation signal
              (dueDecision evaluation signal db)),
            queuedAlerts (evaluation.subject signal) db ++
              (dueDecision evaluation signal db).announcements signal.alertStatus⟩) := by
  simp only [evaluateSignal, bind_eq_ok, Prod.exists] at h
  obtain ⟨state, db₁, hobserve, h⟩ := h
  obtain ⟨rfl, hprojects, hconfigs, hdeliveries, hown, hothers⟩ := observeSignal_ok hobserve
  have hdue : decideQualityAlertEvent signal.alertStatus
      (observedState sha256 evaluation signal db).activeNotificationStatus
      evaluation.config.minimumAlertStatus
      (observedState sha256 evaluation signal db).cooldownUntil evaluation.moment =
      dueDecision evaluation signal db := by
    rw [dueDecision, ← memory_observedState sha256]
    rfl
  have hview : ∀ other ≠ evaluation.subject signal, alertView other db₁ = alertView other db :=
    fun other hne => by rw [alertView, alertView, hothers other hne, queuedAlerts_congr hdeliveries]
  have hownView : alertView (evaluation.subject signal) db₁ =
      ⟨some (observedState sha256 evaluation signal db),
        queuedAlerts (evaluation.subject signal) db⟩ := by
    rw [alertView, hown, queuedAlerts_congr hdeliveries]
  simp only [hdue] at h
  split at h
  · rename_i hquiet
    simp only [pure_eq_ok] at h
    subst h
    exact ⟨hprojects, hconfigs, hview, .inl ⟨.inl hquiet, hownView⟩⟩
  · rename_i eventType hevent
    split at h
    · rename_i hsilenced
      simp only [pure_eq_ok] at h
      subst h
      exact ⟨hprojects, hconfigs, hview, .inl ⟨.inr hsilenced, hownView⟩⟩
    · rename_i hsilenced
      simp only [bind_eq_ok, pure_eq_ok] at h
      obtain ⟨db₂, hinsert, rfl⟩ := h
      obtain ⟨hprojects₂, hconfigs₂, hstates₂, -⟩ := insertDelivery_ok hinsert
      refine ⟨hprojects₂.trans hprojects, hconfigs₂.trans hconfigs, fun other hne => ?_,
        .inr ⟨⟨by rw [hevent]; rfl, hsilenced⟩, ?_⟩⟩
      · have hannounce : (alertDelivery sha256 evaluation signal eventType
            (previousStatus evaluation signal db) (dueDecision evaluation signal db)
            ((observedState sha256 evaluation signal db).notificationSequence + 1)).announcement?
            other = none := if_neg (Ne.symm hne)
        rw [← hview other hne, ← insertDelivery_view hinsert hannounce, alertView, alertView]
        simp only [Table.get?_modify_ne hne]
        rfl
      · have hannounce : (alertDelivery sha256 evaluation signal eventType
            (previousStatus evaluation signal db) (dueDecision evaluation signal db)
            ((observedState sha256 evaluation signal db).notificationSequence + 1)).announcement?
            (evaluation.subject signal) = some ⟨eventType, signal.alertStatus⟩ := if_pos rfl
        have hqueued := insertDelivery_queued (evaluation.subject signal) hinsert
        rw [hannounce, queuedAlerts_congr hdeliveries] at hqueued
        rw [alertView]
        simp only [AlertView.mk.injEq]
        refine ⟨?_, ?_⟩
        · have hstored : db₂.alertStates.get? (evaluation.subject signal) =
              some (observedState sha256 evaluation signal db) := by rw [hstates₂, hown]
          rw [← hdue]
          exact Table.get?_modify_self hstored
        · rw [QualityAlertDecision.announcements, hevent]
          exact hqueued

/-! ### Evaluating a batch -/

/-- Signals of other metrics leave what is stored about a metric. -/
theorem evaluateSignals_view_ne (subject : UUID × QualityAlertMetric)
    {signals : List QualityChangeSignal}
    (h : signals.foldlM (fun db signal => evaluateSignal sha256 evaluation signal db) db = .ok db')
    (hne : ∀ signal ∈ signals, evaluation.subject signal ≠ subject) :
    alertView subject db' = alertView subject db :=
  foldlM_invariant (fun db' => alertView subject db' = alertView subject db)
    (fun _ signal _ hmem hround hview =>
      ((evaluateSignal_ok hround).2.2.1 subject (Ne.symm (hne signal hmem))).trans hview) h rfl

theorem evaluateProject_frame (h : evaluateProject sha256 evaluation db = .ok db') :
    db'.projects = db.projects ∧ db'.configs = db.configs :=
  foldlM_invariant (fun db' => db'.projects = db.projects ∧ db'.configs = db.configs)
    (fun _ _ _ _ hround ⟨hprojects, hconfigs⟩ =>
      ⟨(evaluateSignal_ok hround).1.trans hprojects,
        (evaluateSignal_ok hround).2.1.trans hconfigs⟩) h ⟨rfl, rfl⟩

/-- A round of a batch evaluates the project of its configuration, if it exists. -/
theorem evaluateConfig_cases {batch : EvaluationBatch} {config : QualityWebhookConfigRecord}
    (h : batch.evaluate sha256 db config = .ok db') :
    db.projects.get? config.projectId = none ∧ db' = db ∨
      ∃ project, project.id = config.projectId ∧
      ∃ db₁, evaluateProject sha256 (batch.evaluation config project) db = .ok db₁ ∧
        db'.projects = db.projects ∧ db'.deliveries = db₁.deliveries ∧
        db'.alertStates = db₁.alertStates ∧
        db'.configs = db.configs.modify config.projectId fun config =>
          config.evaluated batch.moment batch.evaluationIntervalSeconds := by
  rw [EvaluationBatch.evaluate] at h
  split at h
  · rename_i hnone
    simp only [pure_eq_ok] at h
    exact .inl ⟨hnone, h.symm⟩
  · rename_i project hproject
    simp only [bind_eq_ok, pure_eq_ok] at h
    obtain ⟨db₁, hevaluate, rfl⟩ := h
    obtain ⟨hprojects, hconfigs⟩ := evaluateProject_frame hevaluate
    refine .inr ⟨project, Table.key_of_get? hproject, db₁, hevaluate, hprojects, rfl, rfl, ?_⟩
    simp only [hconfigs]

/-- A round leaves the alerts of other projects. -/
theorem evaluateConfig_view_ne {batch : EvaluationBatch} {config : QualityWebhookConfigRecord}
    (h : batch.evaluate sha256 db config = .ok db') (hne : config.projectId ≠ subject.1) :
    alertView subject db' = alertView subject db := by
  rcases evaluateConfig_cases h with ⟨-, rfl⟩ | ⟨project, hproject, db₁, hevaluate, -, hdeliveries,
    hstates, -⟩
  · rfl
  · have hview := evaluateSignals_view_ne subject hevaluate
      fun signal _ hsubject => hne (hproject.symm.trans (congrArg Prod.fst hsubject))
    rw [← hview, alertView, alertView, hstates, queuedAlerts_congr hdeliveries]

/-- Writing the other columns of a configuration changes nothing about what is alerted about. -/
theorem activation_modify {projectId key : UUID}
    {f : QualityWebhookConfigRecord → QualityWebhookConfigRecord}
    {hf : KeepsKey QualityWebhookConfigRecord.projectId f}
    (h : db'.configs = db.configs.modify key f hf)
    (hkeeps : ∀ config, ((f config).enabled, (f config).minimumAlertStatus) =
      (config.enabled, config.minimumAlertStatus)) :
    activation projectId db' = activation projectId db := by
  rw [activation, activation, h, Table.get?_modify]
  by_cases hproject : projectId = key
  · subst hproject
    rw [if_pos rfl]
    cases db.configs.get? projectId with
    | none => rfl
    | some config => exact hkeeps config
  · rw [if_neg hproject]

/-- No round changes what alerts a project asks for. -/
theorem evaluateConfig_activation {batch : EvaluationBatch} {config : QualityWebhookConfigRecord}
    {projectId : UUID} (h : batch.evaluate sha256 db config = .ok db') :
    activation projectId db' = activation projectId db := by
  rcases evaluateConfig_cases h with ⟨-, rfl⟩ | ⟨-, -, -, -, -, -, -, hconfigs⟩
  · rfl
  · exact activation_modify hconfigs fun _ => rfl

theorem evaluateQualityAlertBatch_ok {batch : EvaluationBatch}
    (h : evaluateQualityAlertBatch sha256 batch db = .ok db') :
    (dueConfigs batch.moment batch.batchSize db).foldlM (batch.evaluate sha256) db = .ok db' := by
  simp only [evaluateQualityAlertBatch, bind_eq_ok, ensure_eq_ok] at h
  obtain ⟨-, -, -, -, h⟩ := h
  exact h

theorem evaluateBatch_activation {batch : EvaluationBatch} {projectId : UUID}
    (h : evaluateQualityAlertBatch sha256 batch db = .ok db') :
    activation projectId db' = activation projectId db :=
  foldlM_invariant (fun db' => activation projectId db' = activation projectId db)
    (fun _ _ _ _ hround heq => (evaluateConfig_activation hround).trans heq)
    (evaluateQualityAlertBatch_ok h) rfl

/-- The configurations of a batch are stored, one for a project. -/
theorem mem_dueConfigs {moment : Instant} {batchSize : Nat} {config : QualityWebhookConfigRecord}
    (h : config ∈ dueConfigs moment batchSize db) :
    db.configs.get? config.projectId = some config := by
  have hmem := List.mem_of_mem_take h
  rw [List.mem_insertionSort] at hmem
  exact Table.get?_key (List.mem_of_mem_filter hmem)

theorem dueConfigs_nodup (moment : Instant) (batchSize : Nat) (db : QualityDatabase) :
    ((dueConfigs moment batchSize db).map QualityWebhookConfigRecord.projectId).Nodup := by
  have hfilter := db.configs.keysNodup.sublist
    ((List.filter_sublist (p := fun config => config.enabled = true ∧
      ∀ next ∈ config.nextEvaluationAt, next ≤ moment) (l := db.configs.rows)).map
        QualityWebhookConfigRecord.projectId)
  have hsort := ((List.perm_insertionSort QualityWebhookConfigRecord.dueBefore
    (db.configs.rows.filter fun config => config.enabled = true ∧
      ∀ next ∈ config.nextEvaluationAt, next ≤ moment)).map
        QualityWebhookConfigRecord.projectId).nodup_iff.mpr hfilter
  exact hsort.sublist ((List.take_sublist _ _).map _)

/-- What a batch does to the alerts of a metric, its signals do: a relation that every signal of the
    project's own configuration stands in relates the state before the batch to the one after. -/
theorem evaluateBatch_rel {batch : EvaluationBatch} (rel : AlertView → AlertView → Prop)
    (refl : ∀ view, rel view view) (trans : ∀ u v w, rel u v → rel v w → rel u w)
    (round : ∀ config project signal db₁ db₂, db.configs.get? subject.1 = some config →
      (batch.evaluation config project).subject signal = subject →
      evaluateSignal sha256 (batch.evaluation config project) signal db₁ = .ok db₂ →
      rel (alertView subject db₁) (alertView subject db₂))
    (h : evaluateQualityAlertBatch sha256 batch db = .ok db') :
    rel (alertView subject db) (alertView subject db') := by
  refine foldlM_rel (fun db₁ db₂ => rel (alertView subject db₁) (alertView subject db₂))
    (fun _ => refl _) (fun _ _ _ => trans _ _ _) ?_ (evaluateQualityAlertBatch_ok h)
  intro db₁ config db₂ hmem hround
  by_cases hproject : config.projectId = subject.1
  · have hconfig := mem_dueConfigs hmem
    rw [hproject] at hconfig
    rcases evaluateConfig_cases hround with ⟨-, rfl⟩ | ⟨project, -, db₃, hevaluate, -, hdeliveries,
      hstates, -⟩
    · exact refl _
    · have hview : alertView subject db₂ = alertView subject db₃ := by
        rw [alertView, alertView, hstates, queuedAlerts_congr hdeliveries]
      rw [hview]
      refine foldlM_rel (fun db₁ db₂ => rel (alertView subject db₁) (alertView subject db₂))
        (fun _ => refl _) (fun _ _ _ => trans _ _ _) ?_ hevaluate
      intro db₄ signal db₅ _ hsignal
      by_cases hsubject : (batch.evaluation config project).subject signal = subject
      · exact round config project signal db₄ db₅ hconfig hsubject hsignal
      · rw [(evaluateSignal_ok hsignal).2.2.1 subject (Ne.symm hsubject)]
        exact refl _
  · rw [evaluateConfig_view_ne hround hproject]
    exact refl _

/-! ### Steps -/

/-- What a step does to the alerts of a metric. -/
inductive AlertMove (sha256 : SignalDocument → Digest) (subject : UUID × QualityAlertMetric)
    (db : QualityDatabase) : QualityAction → QualityDatabase → Prop
  | kept {a : QualityAction} {db' : QualityDatabase} :
      (∀ batch, a ≠ .evaluate batch) → alertView subject db' = alertView subject db →
      activation subject.1 db' = activation subject.1 db → AlertMove sha256 subject db a db'
  | reset {now : Instant} {newConfigId : UUID} {payload : QualityWebhookConfigUpdate}
      {db' : QualityDatabase} :
      activation subject.1 db' ≠ activation subject.1 db →
      alertView subject db' = ⟨(db.alertStates.get? subject).map QualityAlertStateRecord.reset,
        queuedAlerts subject db⟩ →
      AlertMove sha256 subject db (.updateConfig now newConfigId subject.1 payload) db'
  | acknowledged {now : Instant} {actorId : UUID} {note : String} {db' : QualityDatabase}
      {state : QualityAlertStateRecord} {severity : ActiveAlertStatus} :
      db.alertStates.get? subject = some state → state.currentStatus = .active severity →
      activation subject.1 db' = activation subject.1 db →
      alertView subject db' = ⟨some { state with
        acknowledgedAt := some now
        acknowledgedBy := some actorId
        acknowledgementNote := some note }, queuedAlerts subject db⟩ →
      AlertMove sha256 subject db (.acknowledge now actorId subject.1 subject.2 note) db'
  | unacknowledged {db' : QualityDatabase} :
      activation subject.1 db' = activation subject.1 db →
      alertView subject db' =
        ⟨(db.alertStates.get? subject).map QualityAlertStateRecord.unacknowledged,
          queuedAlerts subject db⟩ →
      AlertMove sha256 subject db (.clearAcknowledgement subject.1 subject.2) db'
  | evaluated {batch : EvaluationBatch} {db' : QualityDatabase} :
      evaluateQualityAlertBatch sha256 batch db = .ok db' →
      AlertMove sha256 subject db (.evaluate batch) db'

/-- An update that is stored: the other projects, the deliveries and, unless something is alerted
    about differently, the states stay. -/
theorem updateQualityWebhookConfig_ok {now : Instant} {newConfigId projectId : UUID}
    {payload : QualityWebhookConfigUpdate}
    (h : updateQualityWebhookConfig now newConfigId projectId payload db = .ok db') :
    db'.deliveries = db.deliveries ∧
      (∀ other ≠ projectId, db'.configs.get? other = db.configs.get? other) ∧
      activation projectId db' =
        (payload.enabled.getD (activation projectId db).1,
          payload.minimumAlertStatus.getD (activation projectId db).2) ∧
      db'.alertStates = if activation projectId db' = activation projectId db then db.alertStates
        else db.alertStates.modifyWhere (fun state => state.projectId = projectId)
          QualityAlertStateRecord.reset := by
  have hconfig : ∀ db₁, configToUpdate now newConfigId projectId payload db = .ok db₁ →
      db₁.deliveries = db.deliveries ∧ db₁.alertStates = db.alertStates ∧
        (∀ other ≠ projectId, db₁.configs.get? other = db.configs.get? other) ∧
        ∃ config, db₁.configs.get? projectId = some config ∧
          (config.enabled, config.minimumAlertStatus) = activation projectId db := by
    intro db₁ h
    rw [configToUpdate] at h
    split at h
    · rename_i config hget
      simp only [pure_eq_ok] at h
      subst h
      exact ⟨rfl, rfl, fun _ _ => rfl, config, hget, by rw [activation, hget]⟩
    · rename_i hnone
      simp only [bind_eq_ok, ensure_eq_ok, found_eq_ok, pure_eq_ok] at h
      obtain ⟨endpointUrl, -, -, -, configs, hinsert, rfl⟩ := h
      refine ⟨rfl, rfl, fun other hne => ?_, _, Table.get?_insert? hinsert |>.trans (if_pos rfl),
        by rw [activation, hnone]⟩
      exact (Table.get?_insert? hinsert).trans (if_neg hne)
  simp only [updateQualityWebhookConfig, bind_eq_ok] at h
  obtain ⟨-, -, db₁, hcreate, h⟩ := h
  obtain ⟨hdeliveries, hstates, hothers, config, hget, hbefore⟩ := hconfig db₁ hcreate
  have hafter : activation projectId { db₁ with
      configs := db₁.configs.modify projectId (QualityWebhookConfigRecord.update payload now) } =
      (payload.enabled.getD (activation projectId db).1,
        payload.minimumAlertStatus.getD (activation projectId db).2) := by
    rw [← hbefore, activation]
    simp only [Table.get?_modify_self hget]
    rfl
  split at h
  · rename_i hchanged
    simp only [pure_eq_ok] at h
    subst h
    refine ⟨hdeliveries, fun other hne => ?_, hafter, ?_⟩
    · exact (Table.get?_modify_ne hne).trans (hothers other hne)
    · rw [← hstates]
      exact (if_neg hchanged).symm
  · rename_i hchanged
    simp only [pure_eq_ok] at h
    subst h
    refine ⟨hdeliveries, fun other hne => ?_, hafter, ?_⟩
    · exact (Table.get?_modify_ne hne).trans (hothers other hne)
    · rw [← hstates]
      exact (if_pos (not_not.mp hchanged)).symm

theorem activation_congr {projectId : UUID}
    (h : db'.configs.get? projectId = db.configs.get? projectId) :
    activation projectId db' = activation projectId db := by
  rw [activation, activation, h]

theorem updateQualityWebhookConfig_move {now : Instant} {newConfigId projectId : UUID}
    {payload : QualityWebhookConfigUpdate}
    (h : updateQualityWebhookConfig now newConfigId projectId payload db = .ok db') :
    AlertMove sha256 subject db (.updateConfig now newConfigId projectId payload) db' := by
  obtain ⟨hdeliveries, hothers, -, hstates⟩ := updateQualityWebhookConfig_ok h
  have hqueued : queuedAlerts subject db' = queuedAlerts subject db :=
    queuedAlerts_congr hdeliveries
  by_cases hproject : projectId = subject.1
  · subst hproject
    by_cases hsame : activation subject.1 db' = activation subject.1 db
    · rw [if_pos hsame] at hstates
      exact .kept (fun _ => by simp) (by rw [alertView, alertView, hstates, hqueued]) hsame
    · rw [if_neg hsame] at hstates
      refine .reset hsame ?_
      rw [alertView, hstates, hqueued, Table.get?_modifyWhere]
      congr 1
      refine Option.map_congr fun state hstate => ?_
      have hkey : state.projectId = subject.1 := congrArg Prod.fst (Table.key_of_get? hstate)
      exact if_pos (decide_eq_true hkey)
  · have hactivation := activation_congr (hothers subject.1 (Ne.symm hproject))
    refine .kept (fun _ => by simp) ?_ hactivation
    rw [alertView, alertView, hqueued, hstates]
    split
    · rfl
    · rw [Table.get?_modifyWhere]
      congr 1
      refine (Option.map_congr (g := id) fun state hstate => ?_).trans (congrFun Option.map_id _)
      have hkey : state.projectId = subject.1 := congrArg Prod.fst (Table.key_of_get? hstate)
      exact if_neg (by rw [hkey]; simpa using Ne.symm hproject)

/-- A row that is settled announces what it announced. -/
theorem settleDelivery_queued {delivery settled : QualityWebhookDeliveryRecord}
    (hget : db.deliveries.get? delivery.id = some delivery)
    (hcolumns : settled.asQueued = delivery.asQueued) :
    queuedAlerts subject (settleWebhookDelivery delivery settled db) = queuedAlerts subject db := by
  have hannounce : ∀ row : QualityWebhookDeliveryRecord,
      row.announcement? subject = row.asQueued.announcement? subject := fun _ => rfl
  have hid : settled.id = delivery.id := by
    have hid : settled.asQueued.id = delivery.asQueued.id := by rw [hcolumns]
    exact hid
  rw [queuedAlerts, settleDelivery_rows hget hid, List.filterMap_map, queuedAlerts]
  refine List.filterMap_congr fun row _ => ?_
  rw [Function.comp_apply]
  split
  · rename_i heq
    rw [heq, hannounce, hcolumns, ← hannounce]
  · rfl

theorem dispatch_view (subject : UUID × QualityAlertMetric) {batch : DispatchBatch}
    (h : dispatchQualityWebhookBatch batch db = .ok db') :
    alertView subject db' = alertView subject db ∧ db'.configs = db.configs := by
  simp only [dispatchQualityWebhookBatch, bind_eq_ok, ensure_eq_ok] at h
  obtain ⟨-, -, -, -, h⟩ := h
  refine dispatch_invariant
    (fun db' => alertView subject db' = alertView subject db ∧ db'.configs = db.configs) ?_
    (fun delivery hmem => (mem_selectedDeliveries hmem).1) selectedDeliveries_nodup h ⟨rfl, rfl⟩
  rintro db₁ delivery settled ⟨hview, hconfigs⟩ - hget hattempt -
  refine ⟨?_, hconfigs⟩
  rw [← hview, alertView, alertView, settleDelivery_queued hget (attempt_ok hattempt).asQueued]
  rfl

theorem qualityStep_move (subject : UUID × QualityAlertMetric)
    (h : qualityStep sha256 db a = .ok db') :
    AlertMove sha256 subject db a db' := by
  cases a with
  | updateConfig now newConfigId projectId payload => exact updateQualityWebhookConfig_move h
  | setSilence now actorId projectId payload =>
    simp only [qualityStep, setQualityAlertSilence, bind_eq_ok, pure_eq_ok] at h
    obtain ⟨-, -, -, -, -, -, -, -, -, -, rfl⟩ := h
    exact .kept (fun _ => by simp) rfl (activation_modify rfl fun _ => rfl)
  | clearSilence now projectId =>
    simp only [qualityStep, clearQualityAlertSilence, bind_eq_ok] at h
    obtain ⟨_, -, _, -, h⟩ := h
    split at h
    · simp only [pure_eq_ok] at h
      subst h
      exact .kept (fun _ => by simp) rfl rfl
    · simp only [pure_eq_ok] at h
      subst h
      exact .kept (fun _ => by simp) rfl (activation_modify rfl fun _ => rfl)
  | acknowledge now actorId projectId metric note =>
    simp only [qualityStep, acknowledgeQualityAlert, bind_eq_ok, found_eq_ok, ensure_eq_ok,
      pure_eq_ok] at h
    obtain ⟨-, -, state, hstate, -, hstatus, rfl⟩ := h
    obtain ⟨severity, hseverity⟩ : ∃ severity, state.currentStatus = .active severity :=
      hstatus.elim (fun h => ⟨_, h⟩) fun h => ⟨_, h⟩
    by_cases hsubject : subject = (projectId, metric)
    · subst hsubject
      exact .acknowledged hstate hseverity rfl
        (congrArg (AlertView.mk · _) (Table.get?_modify_self hstate))
    · exact .kept (fun _ => by simp)
        (congrArg (AlertView.mk · _) (Table.get?_modify_ne hsubject)) rfl
  | clearAcknowledgement projectId metric =>
    simp only [qualityStep, clearQualityAlertAcknowledgement, bind_eq_ok, found_eq_ok] at h
    obtain ⟨_, -, state, hstate, h⟩ := h
    split at h
    · simp only [pure_eq_ok] at h
      subst h
      exact .kept (fun _ => by simp) rfl rfl
    · simp only [pure_eq_ok] at h
      subst h
      by_cases hsubject : subject = (projectId, metric)
      · subst hsubject
        refine .unacknowledged rfl (congrArg (AlertView.mk · _) ?_)
        rw [hstate]
        exact Table.get?_modify_self hstate
      · exact .kept (fun _ => by simp)
          (congrArg (AlertView.mk · _) (Table.get?_modify_ne hsubject)) rfl
  | test now newDeliveryId projectId =>
    simp only [qualityStep, enqueueQualityWebhookTest, bind_eq_ok] at h
    obtain ⟨_, -, _, -, hinsert⟩ := h
    obtain ⟨-, hconfigs, -⟩ := insertDelivery_ok hinsert
    exact .kept (fun _ => by simp) (insertDelivery_view hinsert rfl)
      (activation_congr (by rw [hconfigs]))
  | replay now newDeliveryId actorId projectId deliveryId reason =>
    simp only [qualityStep, replayFailedQualityWebhookDelivery, bind_eq_ok] at h
    obtain ⟨_, -, source, -, -, -, -, -, -, -, _, -, hinsert⟩ := h
    obtain ⟨-, hconfigs, -⟩ := insertDelivery_ok hinsert
    exact .kept (fun _ => by simp) (insertDelivery_view hinsert rfl)
      (activation_congr (by rw [hconfigs]))
  | evaluate batch => exact .evaluated h
  | dispatch batch =>
    obtain ⟨hview, hconfigs⟩ := dispatch_view subject h
    exact .kept (fun _ => by simp) hview (activation_congr (by rw [hconfigs]))

/-! ### Episodes -/

/-- Between the two views, episodes of announcements have been queued. -/
def Announces (minimum : ActiveAlertStatus) (before after : AlertView) : Prop :=
  ∃ w, after.queued = before.queued ++ w ∧
    Episodes minimum before.memory.activeNotificationStatus w
      after.memory.activeNotificationStatus

theorem Announces.of_eq {minimum : ActiveAlertStatus} {before after : AlertView}
    (hqueued : after.queued = before.queued) (hmemory : after.memory = before.memory) :
    Announces minimum before after :=
  ⟨[], by rw [hqueued, List.append_nil], by rw [hmemory]; exact .nil⟩

theorem Announces.trans {minimum : ActiveAlertStatus} {u v w : AlertView}
    (huv : Announces minimum u v) (hvw : Announces minimum v w) : Announces minimum u w := by
  obtain ⟨x, hx, hux⟩ := huv
  obtain ⟨y, hy, hvy⟩ := hvw
  exact ⟨x ++ y, by rw [hy, hx, List.append_assoc], hux.append hvy⟩

/-- The memory after an announcement. -/
theorem memory_announce {state : QualityAlertStateRecord} {decision : QualityAlertDecision} :
    (state.announce evaluation signal decision).memory.activeNotificationStatus =
        decision.activeNotificationStatus ∧
      (state.announce evaluation signal decision).memory.notificationSequence =
        state.memory.notificationSequence + 1 :=
  ⟨rfl, rfl⟩

theorem evaluateSignal_announces (h : evaluateSignal sha256 evaluation signal db = .ok db') :
    Announces evaluation.config.minimumAlertStatus
      (alertView (evaluation.subject signal) db) (alertView (evaluation.subject signal) db') := by
  obtain ⟨-, -, -, ⟨-, hview⟩ | ⟨-, hview⟩⟩ := evaluateSignal_ok h
  · rw [hview]
    exact .of_eq rfl (memory_observedState _ _ _ _)
  · rw [hview]
    exact ⟨_, rfl, decideQualityAlertEvent_episodes _ _ _ _ _⟩

/-- The update asks for the same alerts as before. -/
def KeepsActivation (projectId : UUID) (db : QualityDatabase) : QualityAction → Prop
  | .updateConfig _ _ updated payload => updated = projectId →
    (∀ enabled ∈ payload.enabled, enabled = (activation projectId db).1) ∧
      ∀ minimum ∈ payload.minimumAlertStatus, minimum = (activation projectId db).2
  | _ => True

theorem getD_of_forall {α : Type} {o : Option α} {x : α} (h : ∀ y ∈ o, y = x) : o.getD x = x := by
  cases o with
  | none => rfl
  | some y => exact h y rfl

theorem activatedAt_step (hguard : KeepsActivation subject.1 db a)
    (h : qualityStep sha256 db a = .ok db') :
    activation subject.1 db' = activation subject.1 db := by
  cases qualityStep_move subject h with
  | kept _ _ hactivation => exact hactivation
  | reset hchanged _ =>
    obtain ⟨-, -, hafter, -⟩ := updateQualityWebhookConfig_ok h
    obtain ⟨henabled, hminimum⟩ := hguard rfl
    exact absurd (hafter.trans (Prod.ext (getD_of_forall henabled) (getD_of_forall hminimum)))
      hchanged
  | acknowledged _ _ hactivation _ => exact hactivation
  | unacknowledged hactivation _ => exact hactivation
  | evaluated hbatch => exact evaluateBatch_activation hbatch

/-- A step that is no evaluation and asks for the same alerts queues nothing and remembers all. -/
theorem AlertMove.memory_eq (hmove : AlertMove sha256 subject db a db')
    (hactivation : activation subject.1 db' = activation subject.1 db)
    (hno : ∀ batch, a ≠ .evaluate batch) :
    (alertView subject db').queued = (alertView subject db).queued ∧
      (alertView subject db').memory = (alertView subject db).memory := by
  cases hmove with
  | kept _ hview _ => rw [hview]; exact ⟨rfl, rfl⟩
  | reset hchanged _ => exact absurd hactivation hchanged
  | acknowledged hstate _ _ hview =>
    rw [hview]
    refine ⟨rfl, ?_⟩
    rw [AlertView.memory, AlertView.memory, alertView, hstate]
    rfl
  | unacknowledged _ hview =>
    rw [hview]
    refine ⟨rfl, ?_⟩
    rw [AlertView.memory, AlertView.memory, alertView]
    cases db.alertStates.get? subject <;> rfl
  | evaluated _ => exact absurd rfl (hno _)

theorem announces_step (hguard : KeepsActivation subject.1 db a)
    (h : qualityStep sha256 db a = .ok db') :
    Announces (activation subject.1 db).2 (alertView subject db) (alertView subject db') := by
  have hactivation := activatedAt_step hguard h
  by_cases heval : ∃ batch, a = .evaluate batch
  · obtain ⟨batch, rfl⟩ := heval
    refine evaluateBatch_rel (Announces (activation subject.1 db).2) (fun _ => .of_eq rfl rfl)
      (fun _ _ _ => .trans) ?_ h
    intro config project signal db₁ db₂ hconfig hsubject hsignal
    have hminimum : (activation subject.1 db).2 = config.minimumAlertStatus := by
      rw [activation, hconfig]
    rw [hminimum, ← hsubject]
    exact evaluateSignal_announces hsignal
  · push Not at heval
    obtain ⟨hqueued, hmemory⟩ := (qualityStep_move _ h).memory_eq hactivation heval
    exact .of_eq hqueued hmemory

theorem announces_steps
    (h : ((quality sha256).restrict (KeepsActivation subject.1)).Steps db db') :
    activation subject.1 db' = activation subject.1 db ∧
      Announces (activation subject.1 db).2 (alertView subject db) (alertView subject db') := by
  induction h with
  | refl => exact ⟨rfl, .of_eq rfl rfl⟩
  | tail _ hstep ih =>
    obtain ⟨hactivation, hannounces⟩ := ih
    obtain ⟨a, hguard, hstep⟩ := hstep
    refine ⟨(activatedAt_step hguard hstep).trans hactivation, ?_⟩
    have hnext := announces_step hguard hstep
    rw [hactivation] at hnext
    exact hannounces.trans hnext

/-! ### Counting announcements -/

/-- The sequence counts what has been queued. -/
def Counts (view : AlertView) : Prop :=
  view.memory.notificationSequence = view.queued.length

theorem counts_step (h : qualityStep sha256 db a = .ok db') (hi : Counts (alertView subject db)) :
    Counts (alertView subject db') := by
  cases qualityStep_move subject h with
  | kept _ hview _ => rw [hview]; exact hi
  | reset _ hview =>
    rw [hview]
    rw [Counts, AlertView.memory, alertView] at hi
    rw [Counts, AlertView.memory]
    cases hstate : db.alertStates.get? subject with
    | none => rw [hstate] at hi; exact hi
    | some state => rw [hstate] at hi; exact hi
  | acknowledged hstate hseverity hactivation hview =>
    obtain ⟨hqueued, hmemory⟩ := (AlertMove.acknowledged hstate hseverity
      hactivation hview : AlertMove sha256 subject _ _ _).memory_eq hactivation (fun _ => by simp)
    rw [Counts, hqueued, hmemory]
    exact hi
  | unacknowledged hactivation hview =>
    obtain ⟨hqueued, hmemory⟩ := (AlertMove.unacknowledged hactivation
      hview : AlertMove sha256 subject _ _ _).memory_eq hactivation (fun _ => by simp)
    rw [Counts, hqueued, hmemory]
    exact hi
  | @evaluated batch _ hbatch =>
    refine evaluateBatch_rel (fun u v => Counts u → Counts v) (fun _ => id)
      (fun _ _ _ huv hvw hu => hvw (huv hu)) ?_ hbatch hi
    rintro config project signal db₁ db₂ - rfl hsignal hcounts
    obtain ⟨-, -, -, ⟨-, hview⟩ | ⟨⟨hevent, -⟩, hview⟩⟩ := evaluateSignal_ok hsignal
    · rw [Counts, hview]
      exact (congrArg AlertMemory.notificationSequence (memory_observedState _ _ _ _)).trans hcounts
    · have hone : ((dueDecision (batch.evaluation config project) signal db₁).announcements
          signal.alertStatus).length = 1 := by
        rw [QualityAlertDecision.announcements, List.length_map]
        obtain ⟨eventType, hsome⟩ := Option.isSome_iff_exists.mp hevent
        rw [hsome]
        rfl
      have hmemory := congrArg AlertMemory.notificationSequence
        (memory_observedState sha256 (batch.evaluation config project) signal db₁)
      rw [hcounts] at hmemory
      rw [Counts, hview, List.length_append, hone]
      exact congrArg (· + 1) hmemory

theorem counts_reachable (hr : (quality sha256).Reachable db) : Counts (alertView subject db) := by
  refine hr.invariant (p := fun db => Counts (alertView subject db)) ?_ ?_
  · rintro db ⟨-, hdeliveries, hstates⟩
    rw [Counts, alertView, AlertView.memory, hstates, queuedAlerts, hdeliveries]
    rfl
  · intro db a db' hstep hi
    exact counts_step hstep hi

/-! ### Silence -/

/-- Every evaluation of the project falls into a silence, and it asks for the same alerts. -/
def KeepsSilence (projectId : UUID) (db : QualityDatabase) (a : QualityAction) : Prop :=
  KeepsActivation projectId db a ∧ ∀ batch, a = .evaluate batch →
    ∀ config ∈ db.configs.get? projectId, config.isSilenced batch.moment

/-- Nothing is queued or forgotten in a silence. -/
theorem evaluateBatch_silenced {batch : EvaluationBatch}
    (h : evaluateQualityAlertBatch sha256 batch db = .ok db')
    (hsilenced : ∀ config ∈ db.configs.get? subject.1, config.isSilenced batch.moment) :
    (alertView subject db').queued = (alertView subject db).queued ∧
      (alertView subject db').memory = (alertView subject db).memory := by
  refine evaluateBatch_rel (fun u v => v.queued = u.queued ∧ v.memory = u.memory)
    (fun _ => ⟨rfl, rfl⟩) (fun _ _ _ huv hvw => ⟨hvw.1.trans huv.1, hvw.2.trans huv.2⟩) ?_ h
  rintro config project signal db₁ db₂ hconfig rfl hsignal
  obtain ⟨-, -, -, ⟨-, hview⟩ | ⟨⟨-, hloud⟩, -⟩⟩ := evaluateSignal_ok hsignal
  · rw [hview]
    exact ⟨rfl, memory_observedState _ _ _ _⟩
  · exact absurd (hsilenced config hconfig) hloud

theorem silence_step (hguard : KeepsSilence subject.1 db a)
    (h : qualityStep sha256 db a = .ok db') :
    (alertView subject db').queued = (alertView subject db).queued ∧
      (alertView subject db').memory = (alertView subject db).memory := by
  by_cases heval : ∃ batch, a = .evaluate batch
  · obtain ⟨batch, rfl⟩ := heval
    exact evaluateBatch_silenced h (hguard.2 batch rfl)
  · push Not at heval
    exact (qualityStep_move _ h).memory_eq (activatedAt_step hguard.1 h) heval

theorem silence_steps
    (h : ((quality sha256).restrict (KeepsSilence subject.1)).Steps db db') :
    (alertView subject db').queued = (alertView subject db).queued ∧
      (alertView subject db').memory = (alertView subject db).memory := by
  induction h with
  | refl => exact ⟨rfl, rfl⟩
  | tail _ hstep ih =>
    obtain ⟨a, hguard, hstep⟩ := hstep
    obtain ⟨hqueued, hmemory⟩ := silence_step hguard hstep
    exact ⟨hqueued.trans ih.1, hmemory.trans ih.2⟩

/-- Two keys of a list without duplicates are the same only in the same place. -/
theorem ne_of_nodup_append {α β : Type} {f : α → β} {earlier later : List α} {x : α}
    (h : ((earlier ++ x :: later).map f).Nodup) : ∀ y ∈ earlier ++ later, f y ≠ f x := by
  rw [List.map_append, List.map_cons, List.nodup_middle, List.nodup_cons, ← List.map_append] at h
  exact fun y hy heq => h.1 (heq ▸ List.mem_map_of_mem hy)

/-- An evaluation outside a silence queues what the signal makes due. -/
theorem evaluateProject_due (signal : QualityChangeSignal)
    (h : evaluateProject sha256 evaluation db = .ok db')
    (hloud : ¬evaluation.config.isSilenced evaluation.moment)
    (hsignal : signal ∈ evaluation.snapshot.comparison.signals)
    (hnodup : (evaluation.snapshot.comparison.signals.map QualityChangeSignal.metric).Nodup) :
    queuedAlerts (evaluation.subject signal) db' = queuedAlerts (evaluation.subject signal) db ++
      (dueDecision evaluation signal db).announcements signal.alertStatus := by
  obtain ⟨earlier, later, hsplit⟩ := List.append_of_mem hsignal
  rw [hsplit] at hnodup
  have hne := ne_of_nodup_append hnodup
  have hother : ∀ other ∈ earlier ++ later,
      evaluation.subject other ≠ evaluation.subject signal :=
    fun other hother heq => hne other hother (congrArg Prod.snd heq)
  rw [evaluateProject, hsplit, foldlM_split] at h
  obtain ⟨db₁, db₂, hearlier, hround, hlater⟩ := h
  have hbefore := evaluateSignals_view_ne _ hearlier
    fun other hmem => hother other (List.mem_append_left _ hmem)
  have hafter := evaluateSignals_view_ne _ hlater
    fun other hmem => hother other (List.mem_append_right _ hmem)
  have hdue : dueDecision evaluation signal db₁ = dueDecision evaluation signal db := by
    rw [dueDecision, dueDecision, hbefore]
  have hqueued : queuedAlerts (evaluation.subject signal) db₂ =
      queuedAlerts (evaluation.subject signal) db₁ ++
        (dueDecision evaluation signal db₁).announcements signal.alertStatus := by
    obtain ⟨-, -, -, ⟨hquiet, hview⟩ | ⟨-, hview⟩⟩ := evaluateSignal_ok hround
    · have hnone := hquiet.resolve_right hloud
      rw [QualityAlertDecision.announcements, hnone]
      exact (congrArg AlertView.queued hview).trans (List.append_nil _).symm
    · exact congrArg AlertView.queued hview
  rw [hdue] at hqueued
  exact (congrArg AlertView.queued hafter).trans
    (hqueued.trans (congrArg (· ++ _) (congrArg AlertView.queued hbefore)))

/-- A batch that evaluates the project outside a silence queues what its signal makes due. -/
theorem evaluateBatch_due {batch : EvaluationBatch} {config : QualityWebhookConfigRecord}
    (h : evaluateQualityAlertBatch sha256 batch db = .ok db')
    (hdue : config ∈ dueConfigs batch.moment batch.batchSize db)
    (hproject : (db.projects.get? config.projectId).isSome = true)
    (hloud : ¬config.isSilenced batch.moment)
    (hsignal : signal ∈ (batch.snapshots config.projectId).comparison.signals)
    (hnodup : ((batch.snapshots config.projectId).comparison.signals.map
      QualityChangeSignal.metric).Nodup) :
    queuedAlerts (config.projectId, signal.metric) db' =
      queuedAlerts (config.projectId, signal.metric) db ++
        (decideQualityAlertEvent signal.alertStatus
          (alertView (config.projectId, signal.metric) db).memory.activeNotificationStatus
          config.minimumAlertStatus
          (alertView (config.projectId, signal.metric) db).memory.cooldownUntil
          batch.moment).announcements signal.alertStatus := by
  have hrun := evaluateQualityAlertBatch_ok h
  have hkeys := dueConfigs_nodup batch.moment batch.batchSize db
  obtain ⟨earlier, later, hsplit⟩ := List.append_of_mem hdue
  rw [hsplit] at hkeys hrun
  have hne := ne_of_nodup_append hkeys
  obtain ⟨db₁, db₂, hearlier, hround, hlater⟩ := foldlM_split.mp hrun
  have hothers : ∀ (configs : List QualityWebhookConfigRecord) (s s' : QualityDatabase),
      (∀ other ∈ configs, other.projectId ≠ config.projectId) →
      configs.foldlM (batch.evaluate sha256) s = .ok s' →
      s'.projects = s.projects ∧ alertView (config.projectId, signal.metric) s' =
        alertView (config.projectId, signal.metric) s := by
    intro configs s s' hconfigs hrun
    refine foldlM_invariant (fun s' => s'.projects = s.projects ∧
      alertView (config.projectId, signal.metric) s' =
        alertView (config.projectId, signal.metric) s) ?_ hrun ⟨rfl, rfl⟩
    rintro s₁ other s₂ hmem hround ⟨hprojects, hview⟩
    refine ⟨?_, (evaluateConfig_view_ne hround (hconfigs other hmem)).trans hview⟩
    rcases evaluateConfig_cases hround with ⟨-, rfl⟩ | ⟨-, -, -, -, hsame, -⟩
    · exact hprojects
    · exact hsame.trans hprojects
  obtain ⟨hprojects, hbefore⟩ := hothers earlier db db₁
    (fun other hmem => hne other (List.mem_append_left _ hmem)) hearlier
  obtain ⟨-, hafter⟩ := hothers later db₂ db'
    (fun other hmem => hne other (List.mem_append_right _ hmem)) hlater
  rcases evaluateConfig_cases hround with ⟨hnone, -⟩ | ⟨project, hid, db₃, hevaluate, -,
    hdeliveries, -, -⟩
  · rw [hprojects] at hnone
    rw [hnone] at hproject
    cases hproject
  · have hsubject : (batch.evaluation config project).subject signal =
        (config.projectId, signal.metric) := by
      rw [ProjectEvaluation.subject, EvaluationBatch.evaluation, hid]
    have hsnapshot : (batch.evaluation config project).snapshot =
        batch.snapshots config.projectId := by
      rw [EvaluationBatch.evaluation, hid]
    have hqueued := evaluateProject_due signal hevaluate hloud
      (by rw [hsnapshot]; exact hsignal) (by rw [hsnapshot]; exact hnodup)
    rw [hsubject, dueDecision, hsubject, hbefore] at hqueued
    have hlast : queuedAlerts (config.projectId, signal.metric) db' =
        queuedAlerts (config.projectId, signal.metric) db₃ :=
      (congrArg AlertView.queued hafter).trans (queuedAlerts_congr hdeliveries)
    have hfirst : queuedAlerts (config.projectId, signal.metric) db₁ =
        queuedAlerts (config.projectId, signal.metric) db := congrArg AlertView.queued hbefore
    rw [hlast, hqueued, hfirst]
    rfl

/-! ### The alert machine -/

/-- The alerts of a metric are a word of episodes, a silence holds back what is then due, and asking
    for other alerts drops the episode. -/
theorem quality_alert_machine (hr : (quality sha256).Reachable db) :
    (alertView subject db).memory.notificationSequence = (queuedAlerts subject db).length ∧
    (∀ db', ((quality sha256).restrict (KeepsActivation subject.1)).Steps db db' →
      ∃ w, queuedAlerts subject db' = queuedAlerts subject db ++ w ∧
        Episodes (activation subject.1 db).2
          (alertView subject db).memory.activeNotificationStatus w
          (alertView subject db').memory.activeNotificationStatus) ∧
    (∀ batch db', qualityStep sha256 db (.evaluate batch) = .ok db' →
      (∀ config ∈ db.configs.get? subject.1, config.isSilenced batch.moment) →
      (alertView subject db').memory = (alertView subject db).memory) ∧
    (∀ db₁ db₂ batch config signal,
      ((quality sha256).restrict (KeepsSilence subject.1)).Steps db db₁ →
      qualityStep sha256 db₁ (.evaluate batch) = .ok db₂ →
      config ∈ dueConfigs batch.moment batch.batchSize db₁ →
      (db₁.projects.get? config.projectId).isSome = true →
      (config.projectId, signal.metric) = subject → ¬config.isSilenced batch.moment →
      signal ∈ (batch.snapshots config.projectId).comparison.signals →
      ((batch.snapshots config.projectId).comparison.signals.map
        QualityChangeSignal.metric).Nodup →
      queuedAlerts subject db₂ = queuedAlerts subject db ++
        (decideQualityAlertEvent signal.alertStatus
          (alertView subject db).memory.activeNotificationStatus config.minimumAlertStatus
          (alertView subject db).memory.cooldownUntil batch.moment).announcements
            signal.alertStatus) ∧
    ∀ now newConfigId payload db',
      qualityStep sha256 db (.updateConfig now newConfigId subject.1 payload) = .ok db' →
      activation subject.1 db' ≠ activation subject.1 db →
      (alertView subject db').memory =
          ⟨none, none, (alertView subject db).memory.notificationSequence⟩ ∧
        ∀ state ∈ db'.alertStates.get? subject, state.acknowledgedAt = none := by
  refine ⟨counts_reachable hr, fun db' hsteps => (announces_steps hsteps).2,
    fun batch db' hstep hsilenced => (evaluateBatch_silenced hstep hsilenced).2, ?_, ?_⟩
  · rintro db₁ db₂ batch config signal hsteps hstep hdue hproject rfl hloud hsignal hnodup
    obtain ⟨hqueued, hmemory⟩ := silence_steps hsteps
    rw [evaluateBatch_due hstep hdue hproject hloud hsignal hnodup, hmemory]
    exact congrArg (· ++ _) hqueued
  · intro now newConfigId payload db' hstep hchanged
    cases qualityStep_move subject hstep with
    | kept _ _ hactivation => exact absurd hactivation hchanged
    | reset _ hview =>
      have hstate := congrArg AlertView.state hview
      rw [hview]
      cases hget : db.alertStates.get? subject with
      | none =>
        rw [hget] at hstate
        refine ⟨by rw [AlertView.memory, AlertView.memory, alertView, hget]; rfl,
          fun state hmem => ?_⟩
        rw [show db'.alertStates.get? subject = none from hstate] at hmem
        cases hmem
      | some stored =>
        rw [hget] at hstate
        refine ⟨by rw [AlertView.memory, AlertView.memory, alertView, hget]; rfl,
          fun state hmem => ?_⟩
        rw [show db'.alertStates.get? subject = some stored.reset from hstate] at hmem
        cases hmem
        rfl

/-! ### Acknowledgements -/

/-- An operator acknowledges the alert of a metric while it has the status. -/
def Acknowledges (subject : UUID × QualityAlertMetric) (status : AlertStatus)
    (e : System.Event QualityDatabase QualityAction) : Prop :=
  (∃ now actorId note, e.action = .acknowledge now actorId subject.1 subject.2 note) ∧
    ∃ state, e.before.alertStates.get? subject = some state ∧
      state.currentStatus = status

/-- The step queues no announcement, asks for the same alerts, and each signal that it evaluates has
    the status. -/
def Undisturbed (subject : UUID × QualityAlertMetric) (status : AlertStatus)
    (e : System.Event QualityDatabase QualityAction) : Prop :=
  queuedAlerts subject e.after = queuedAlerts subject e.before ∧
    activation subject.1 e.after = activation subject.1 e.before ∧
    ∀ batch, e.action = .evaluate batch →
      ∀ config ∈ dueConfigs batch.moment batch.batchSize e.before, config.projectId = subject.1 →
        (e.before.projects.get? subject.1).isSome = true →
        ∀ signal ∈ (batch.snapshots subject.1).comparison.signals, signal.metric = subject.2 →
          signal.alertStatus = status

/-- The alert of the metric is acknowledged, with a status and announcements. -/
def AlertView.IsAcknowledged (status : AlertStatus) (queued : List Announcement)
    (view : AlertView) : Prop :=
  (∃ state, view.state = some state ∧ state.acknowledgedAt.isSome = true ∧
    state.currentStatus = status) ∧ view.queued = queued

/-- What an acknowledged state tells about the signal before it. -/
theorem evaluateSignal_acknowledged {status : AlertStatus} {queued : List Announcement}
    (h : evaluateSignal sha256 evaluation signal db = .ok db')
    (hafter : (alertView (evaluation.subject signal) db').IsAcknowledged status queued) :
    (alertView (evaluation.subject signal) db).IsAcknowledged status queued ∧
      signal.alertStatus = status := by
  obtain ⟨⟨state, hstate, hacknowledged, hseverity⟩, hqueued⟩ := hafter
  obtain ⟨-, -, -, ⟨-, hview⟩ | ⟨-, hview⟩⟩ := evaluateSignal_ok h
  · rw [hview] at hstate hqueued
    cases hstate
    rw [AlertView.IsAcknowledged, alertView]
    rw [observedState] at hacknowledged hseverity
    split at hacknowledged
    · rename_i stored hstored
      rw [hstored] at hseverity
      simp only [QualityAlertStateRecord.observe] at hacknowledged hseverity
      split at hacknowledged
      · cases hacknowledged
      · rename_i hsame
        rw [if_neg hsame] at hseverity
        refine ⟨⟨⟨stored, hstored, hacknowledged, ?_⟩, hqueued⟩, hseverity⟩
        rw [not_not.mp hsame]
        exact hseverity
    · cases hacknowledged
  · rw [hview] at hstate
    cases hstate
    cases hacknowledged

/-- What an acknowledged state tells about the batch before it. -/
theorem evaluateBatch_acknowledged {batch : EvaluationBatch} {status : AlertStatus}
    {queued : List Announcement} (h : evaluateQualityAlertBatch sha256 batch db = .ok db')
    (hafter : (alertView subject db').IsAcknowledged status queued) :
    (alertView subject db).IsAcknowledged status queued ∧
      ∀ config ∈ dueConfigs batch.moment batch.batchSize db, config.projectId = subject.1 →
        (db.projects.get? subject.1).isSome = true →
        ∀ signal ∈ (batch.snapshots subject.1).comparison.signals, signal.metric = subject.2 →
          signal.alertStatus = status := by
  have hrun := evaluateQualityAlertBatch_ok h
  have hframe : ∀ {s config s'}, batch.evaluate sha256 s config = .ok s' →
      s'.projects = s.projects := by
    intro s config s' hround
    rcases evaluateConfig_cases hround with ⟨-, rfl⟩ | ⟨-, -, -, -, hprojects, -⟩
    · rfl
    · exact hprojects
  have hprojects : db'.projects = db.projects :=
    foldlM_invariant (fun s => s.projects = db.projects)
      (fun _ _ _ _ hround heq => (hframe hround).trans heq) hrun rfl
  have hback := foldlM_backward
    (p := fun s => s.projects = db.projects ∧
      (alertView subject s).IsAcknowledged status queued)
    (q := fun config => config.projectId = subject.1 →
      (db.projects.get? subject.1).isSome = true →
      ∀ signal ∈ (batch.snapshots subject.1).comparison.signals, signal.metric = subject.2 →
        signal.alertStatus = status) ?_ hrun ⟨hprojects, hafter⟩
  · exact ⟨hback.1.2, hback.2⟩
  · rintro s config s' - hround ⟨hprojects, hafter⟩
    have hbefore : s.projects = db.projects := (hframe hround).symm.trans hprojects
    by_cases hproject : config.projectId = subject.1
    · rcases evaluateConfig_cases hround with ⟨hnone, rfl⟩ | ⟨project, hid, s₁, hevaluate, -,
        hdeliveries, hstates, -⟩
      · refine ⟨⟨hbefore, hafter⟩, fun _ hsome => ?_⟩
        rw [hbefore, hproject] at hnone
        rw [hnone] at hsome
        cases hsome
      · have hview : alertView subject s' = alertView subject s₁ := by
          rw [alertView, alertView, hstates, queuedAlerts_congr hdeliveries]
        rw [hview] at hafter
        obtain ⟨hacknowledged, hsignals⟩ := foldlM_backward
          (p := fun s => (alertView subject s).IsAcknowledged status queued)
          (q := fun signal => (batch.evaluation config project).subject signal = subject →
            signal.alertStatus = status)
          (fun s₂ signal s₃ _ hsignal hafter => by
            by_cases hsubject : (batch.evaluation config project).subject signal = subject
            · rw [← hsubject] at hafter ⊢
              obtain ⟨hbefore, hstatus⟩ := evaluateSignal_acknowledged hsignal hafter
              exact ⟨hbefore, fun _ => hstatus⟩
            · rw [(evaluateSignal_ok hsignal).2.2.1 subject (Ne.symm hsubject)] at hafter
              exact ⟨hafter, fun heq => absurd heq hsubject⟩) hevaluate hafter
        refine ⟨⟨hbefore, hacknowledged⟩, fun _ _ signal hsignal hmetric => ?_⟩
        refine hsignals signal ?_ (Prod.ext (hid.trans hproject) hmetric)
        rw [EvaluationBatch.evaluation, hid, hproject]
        exact hsignal
    · rw [evaluateConfig_view_ne hround hproject] at hafter
      exact ⟨⟨hbefore, hafter⟩, fun heq => absurd heq hproject⟩

/-- An acknowledged state has been acknowledged by the step, or was so before it and has not been
    disturbed. -/
theorem acknowledged_step {status : AlertStatus}
    (h : qualityStep sha256 db a = .ok db')
    (hafter : (alertView subject db').IsAcknowledged status (queuedAlerts subject db')) :
    Acknowledges subject status ⟨db, a, db'⟩ ∧ (∃ severity, status = .active severity) ∨
      Undisturbed subject status ⟨db, a, db'⟩ ∧
        (alertView subject db).IsAcknowledged status (queuedAlerts subject db) := by
  cases qualityStep_move subject h with
  | kept hno hview hactivation =>
    have hqueued : queuedAlerts subject db' = queuedAlerts subject db :=
      congrArg AlertView.queued hview
    rw [hview, hqueued] at hafter
    exact .inr ⟨⟨hqueued, hactivation, fun batch heq => absurd heq (hno batch)⟩, hafter⟩
  | reset _ hview =>
    obtain ⟨⟨state, hstate, hacknowledged, -⟩, -⟩ := hafter
    rw [hview] at hstate
    obtain ⟨stored, -, rfl⟩ := Option.map_eq_some_iff.mp hstate
    cases hacknowledged
  | acknowledged hstored hseverity _ hview =>
    obtain ⟨⟨state, hstate, -, hstatus⟩, -⟩ := hafter
    rw [hview] at hstate
    cases hstate
    exact .inl ⟨⟨⟨_, _, _, rfl⟩, _, hstored, hstatus⟩, _, hstatus.symm.trans hseverity⟩
  | unacknowledged _ hview =>
    obtain ⟨⟨state, hstate, hacknowledged, -⟩, -⟩ := hafter
    rw [hview] at hstate
    obtain ⟨stored, -, rfl⟩ := Option.map_eq_some_iff.mp hstate
    cases hacknowledged
  | evaluated hbatch =>
    obtain ⟨hbefore, hsignals⟩ := evaluateBatch_acknowledged hbatch hafter
    have hqueued : queuedAlerts subject db = queuedAlerts subject db' := hbefore.2
    refine .inr ⟨⟨hqueued.symm, evaluateBatch_activation hbatch, fun batch heq => ?_⟩, ?_⟩
    · cases heq
      exact hsignals
    · rw [hqueued]
      exact hbefore

/-- An acknowledged alert is still the one that was acknowledged: since then every signal has had the
    same alert status, no announcement has been queued and the same alerts have been asked for. -/
theorem acknowledged_alert_stands {h : List (System.Event QualityDatabase QualityAction)}
    (hh : (quality sha256).History h db) :
    ∀ state ∈ db.alertStates.get? subject, state.acknowledgedAt.isSome = true →
      (∃ severity, state.currentStatus = .active severity) ∧
        Since (Undisturbed subject state.currentStatus)
          (fun e _ => Acknowledges subject state.currentStatus e) h := by
  refine hh.invariant (p := fun h db => ∀ state ∈ db.alertStates.get? subject,
    state.acknowledgedAt.isSome = true → (∃ severity, state.currentStatus = .active severity) ∧
      Since (Undisturbed subject state.currentStatus)
        (fun e _ => Acknowledges subject state.currentStatus e) h) ?_ ?_
  · rintro db ⟨-, -, hstates⟩ state hstate
    rw [hstates] at hstate
    cases hstate
  · intro h db a db' _ hstep ih state hstate hacknowledged
    have hafter : (alertView subject db').IsAcknowledged state.currentStatus
        (queuedAlerts subject db') := ⟨⟨state, hstate, hacknowledged, rfl⟩, rfl⟩
    rcases acknowledged_step hstep hafter with ⟨hacknowledges, halert⟩ | ⟨hundisturbed, hbefore⟩
    · exact ⟨halert, .inl hacknowledges⟩
    · obtain ⟨⟨stored, hstored, hwas, hstatus⟩, -⟩ := hbefore
      obtain ⟨halert, hsince⟩ := ih stored hstored hwas
      rw [hstatus] at halert hsince
      exact ⟨halert, .inr ⟨hundisturbed, hsince⟩⟩

/-! ### A pass rate that drops -/

namespace Installation

/-- The pass rate of runs, with the status of its drop. -/
def passRate (status : AlertStatus) : QualityComparisonSnapshot where
  windowStartedAt := 0
  windowEndedAt := 10
  comparison := ⟨-10, 0, 5, 20, [⟨.runPassRate, some 70, some 90, some (-20), status⟩]⟩
  latestCompletedAt := some 5
  current := ⟨10, 100⟩
  previous := ⟨10, 100⟩

def evaluatePassRate (moment : Instant) (newId : UUID) (status : AlertStatus) : QualityAction :=
  .evaluate ⟨moment, 50, 60, fun _ => passRate status, fun _ _ => ⟨newId, newId⟩⟩

/-- A webhook, and a first warning. -/
def warned : List QualityAction :=
  [enableWebhook, evaluatePassRate 0 31 (.active .warning)]

def acknowledgeWarning : QualityAction := .acknowledge 10 5 1 .runPassRate "known"

end Installation

open Installation in
/-- The warning becomes critical. -/
theorem quality_alert_machine_escalated : ∃ db db',
    (quality fun document => document.projectId).Reachable db ∧
    ((quality fun document => document.projectId).restrict (KeepsActivation 1)).Steps db db' ∧
    queuedAlerts (1, .runPassRate) db' =
      [⟨.triggered, .active .warning⟩, ⟨.escalated, .active .critical⟩] ∧
    ∃ w, queuedAlerts (1, .runPassRate) db' = queuedAlerts (1, .runPassRate) db ++ w ∧
      Episodes .warning (alertView (1, .runPassRate) db).memory.activeNotificationStatus w
        (alertView (1, .runPassRate) db').memory.activeNotificationStatus := by
  have hrun : Ends (qualityStep fun document => document.projectId) qualitySetUp warned fun db =>
      (activation 1 db).2 = .warning ∧
      Ends (qualityStep fun document => document.projectId) db
        [evaluatePassRate 60000000 32 (.active .critical)] fun db' =>
          queuedAlerts (1, .runPassRate) db' =
            [⟨.triggered, .active .warning⟩, ⟨.escalated, .active .critical⟩] := by
    decide +kernel
  obtain ⟨db, hr, hminimum, hnext⟩ := hrun.exists_reachable
    (S := quality fun document => document.projectId) (fun _ _ _ _ hstep => hstep) ⟨rfl, rfl, rfl⟩
  obtain ⟨db', hstep, hqueued⟩ := ends_singleton.mp hnext
  have hsteps : ((quality fun document => document.projectId).restrict
      (KeepsActivation 1)).Steps db db' :=
    .single ⟨evaluatePassRate 60000000 32 (.active .critical), trivial, hstep⟩
  obtain ⟨-, hepisodes, -⟩ := @quality_alert_machine _ _ (1, .runPassRate) hr
  obtain ⟨w, happend, hw⟩ := hepisodes db' hsteps
  rw [hminimum] at hw
  exact ⟨db, db', hr, hsteps, hqueued, w, happend, hw⟩

open Installation in
/-- The acknowledged warning is evaluated once more. -/
theorem acknowledged_alert_stands_warning : ∃ h db,
    (quality fun document => document.projectId).History h db ∧
    ∃ state ∈ db.alertStates.get? (1, .runPassRate), state.acknowledgedAt = some 10 ∧
      Since (Undisturbed (1, .runPassRate) state.currentStatus)
        (fun e _ => Acknowledges (1, .runPassRate) state.currentStatus e) h := by
  have hrun : Ends (qualityStep fun document => document.projectId) qualitySetUp
      (warned ++ [acknowledgeWarning, evaluatePassRate 60000000 32 (.active .warning)]) fun db =>
        (db.alertStates.get? (1, .runPassRate)).bind (·.acknowledgedAt) = some 10 := by
    decide +kernel
  obtain ⟨db, hr, hacknowledged⟩ := hrun.exists_reachable
    (S := quality fun document => document.projectId) (fun _ _ _ _ hstep => hstep) ⟨rfl, rfl, rfl⟩
  obtain ⟨h, hh⟩ := hr.history
  obtain ⟨state, hstate, hwhen⟩ := Option.bind_eq_some_iff.mp hacknowledged
  exact ⟨h, db, hh, state, hstate, hwhen,
    (acknowledged_alert_stands hh state hstate (by rw [hwhen]; rfl)).2⟩

end TestOps

import TestOps.Invariants.RunState

/-! The outbox and the runs it dispatches. A run and the record that publishes it are inserted by the
    same transaction, and neither is ever deleted or given another content:

      run  ◂── exactly one ──▸  record whose message is runQueued, with the snapshot of the run -/

namespace TestOps

open Checked Relational Transition

variable {P : Primitives} {db db' : Database}

/-- The record dispatches the run, with the snapshot of the run. -/
structure Dispatches (record : DispatchOutboxRecord) (run : TestRunRecord) : Prop where
  aggregateId : record.aggregateId = run.id
  dedupeKey : record.dedupeKey = .runQueued run.id
  message : ∃ poolId, record.message = .runQueued run.snapshot poolId

theorem Dispatches.follows {record record' : DispatchOutboxRecord} {run run' : TestRunRecord}
    (h : Dispatches record run) (hkey : record'.dedupeKey = record.dedupeKey)
    (hsame : SameMessage record record') (hid : run'.id = run.id) (hfollow : Follows run run') :
    Dispatches record' run' where
  aggregateId := by rw [hsame.aggregateId, h.aggregateId, hid]
  dedupeKey := by rw [hkey, h.dedupeKey, hid]
  message := by
    obtain ⟨poolId, hmessage⟩ := h.message
    exact ⟨poolId, by rw [hsame.message, hmessage, hfollow.snapshot]⟩

/-- Every record that dispatches something dispatches a stored run, and every run has one. -/
structure OutboxState (runs : RunTable) (outbox : OutboxTable) : Prop where
  queued : ∀ record ∈ outbox, ∀ snapshot poolId, record.message = .runQueued snapshot poolId →
    ∃ run ∈ runs, Dispatches record run
  announced : ∀ run ∈ runs, ∃ record ∈ outbox, Dispatches record run

namespace OutboxState

variable {runs runs' : RunTable} {outbox outbox' : OutboxTable}

/-- Nothing is queued: the records keep what they publish, the runs what they were created with. -/
theorem keep (h : OutboxState runs outbox) (hkept : OutboxKept outbox outbox')
    (hfollows : runs.Evolves Follows runs')
    (hruns : ∀ run' ∈ runs', ∃ run ∈ runs, run.id = run'.id) : OutboxState runs' outbox' where
  queued := by
    intro record' hrecord' snapshot poolId hmessage
    obtain ⟨record, hrecord, hkey⟩ := hkept.queued record' hrecord' snapshot poolId hmessage
    obtain ⟨record'', hrecord'', hkey', hsame⟩ := hkept.evolves record hrecord
    obtain rfl := Table.eq_of_key_eq hrecord'' hrecord' (hkey'.trans hkey)
    obtain ⟨run, hrun, hdispatches⟩ :=
      h.queued record hrecord snapshot poolId (hsame.message ▸ hmessage)
    obtain ⟨run', hrun', hid, hfollow⟩ := hfollows run hrun
    exact ⟨run', hrun', hdispatches.follows hkey' hsame hid hfollow⟩
  announced := by
    intro run' hrun'
    obtain ⟨run, hrun, hid, hfollow⟩ := hfollows.comesFrom hruns hrun'
    obtain ⟨record, hrecord, hdispatches⟩ := h.announced run hrun
    obtain ⟨record', hrecord', hkey', hsame⟩ := hkept.evolves record hrecord
    exact ⟨record', hrecord', hdispatches.follows hkey' hsame hid.symm hfollow⟩

/-- A run is queued together with its record. -/
theorem queue {plan : RunPlan} {now : Instant} {outboxId : UUID} (h : OutboxState runs outbox)
    (hrun : runs.insert? (plan.run P) = some runs')
    (hrecord : outbox.insert? (plan.outboxRecord now outboxId) = some outbox') :
    OutboxState runs' outbox' := by
  have hdispatches : Dispatches (plan.outboxRecord now outboxId) (plan.run P) :=
    ⟨rfl, rfl, _, rfl⟩
  constructor
  case queued =>
    refine Table.forall_insert? hrecord (fun record hold snapshot poolId hmessage => ?_)
      fun _ _ _ => ⟨_, (Table.mem_insert? hrun).mpr (.inr rfl), hdispatches⟩
    obtain ⟨run, hmem, hold⟩ := h.queued record hold snapshot poolId hmessage
    exact ⟨run, (Table.mem_insert? hrun).mpr (.inl hmem), hold⟩
  case announced =>
    refine Table.forall_insert? hrun (fun run hold => ?_)
      ⟨_, (Table.mem_insert? hrecord).mpr (.inr rfl), hdispatches⟩
    obtain ⟨record, hmem, hold⟩ := h.announced run hold
    exact ⟨record, (Table.mem_insert? hrecord).mpr (.inl hmem), hold⟩

/-- At most one record dispatches a run. -/
theorem unique {record record' : DispatchOutboxRecord} {run : TestRunRecord}
    (hrecord : record ∈ outbox) (hrecord' : record' ∈ outbox) (h : Dispatches record run)
    (h' : Dispatches record' run) : record = record' :=
  Table.eq_of_key_eq hrecord hrecord' (h.dedupeKey.trans h'.dedupeKey.symm)

end OutboxState

/-- A write that queues no run brings no run in, and keeps the outbox. -/
theorem outboxKept_write {effect : Effect} (hw : Write P effect db db')
    (hnone : ∀ plan, effect ≠ .runQueued plan) :
    OutboxKept db.outbox db'.outbox ∧ ∀ run' ∈ db'.runs, ∃ run ∈ db.runs, run.id = run'.id := by
  refine ⟨?_, fun run' hrun' => ?_⟩
  · cases hw with
    | runQueued plan => exact absurd rfl (hnone plan)
    | outboxChanged outbox hkept => exact hkept
    | runCanceled _ _ _ _ _ _ _ _ _ _ _ hkept => exact hkept
    | cancelRequested _ _ _ _ _ _ _ _ _ hkept => exact hkept
    | runRecovered _ _ _ _ _ _ _ _ _ hkept => exact hkept
    | _ => exact .refl
  · rcases run_write hw hrun' with ⟨run, hrun, hid, -⟩ | ⟨plan, rfl, -⟩
    · exact ⟨run, hrun, hid⟩
    · exact absurd rfl (hnone plan)

theorem outboxState_write {effect : Effect} (hw : Write P effect db db')
    (hi : OutboxState db.runs db.outbox) : OutboxState db'.runs db'.outbox := by
  by_cases hqueued : ∃ plan, effect = .runQueued plan
  · obtain ⟨plan, rfl⟩ := hqueued
    cases hw with
    | runQueued _ runs runEvents runCases outbox _ _ hrun _ hrecord =>
      obtain ⟨now, outboxId, hrecord⟩ := hrecord
      exact hi.queue hrun hrecord
  · obtain ⟨hkept, hruns⟩ := outboxKept_write hw fun plan heq => hqueued ⟨plan, heq⟩
    exact hi.keep hkept (follows_write hw) hruns

theorem outboxState_reachable {s : State} (h : (controlPlane P).Reachable s) :
    OutboxState s.db.runs s.db.outbox :=
  reachable_invariant (p := fun db => OutboxState db.runs db.outbox)
    ⟨fun _ hrecord => absurd hrecord Table.not_mem_empty,
      fun _ hrun => absurd hrun Table.not_mem_empty⟩
    (fun _ _ _ => outboxState_write) h

end TestOps

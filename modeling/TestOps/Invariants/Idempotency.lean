import TestOps.Invariants.Sessions

/-! Exactly one run per idempotency key. A request looks its key up before and after it waits for the
    project lock, so a request that repeats a key of its project is answered by one of the lookups:

      the same document       ── the run the key already has
      another document        ── a conflict

    Nothing is written in either case, and no session ever commits under a key that has a run. -/

namespace TestOps

open Checked Relational Transition

variable {P : Primitives} {db db' : Database}

/-! ### The requests of runs -/

def Document.isRunRequest : Document → Bool
  | .runCreate _ | .rerun _ _ => true
  | _ => false

/-- The digests of run requests do not collide. -/
def RequestDigests (P : Primitives) : Prop :=
  ∀ d d', d.isRunRequest = true → d'.isRunRequest = true →
    P.canonicalSha256 d = P.canonicalSha256 d' → d = d'

/-- The run was requested by the document; the source of a rerun has ended. -/
inductive RequestedBy (runs : RunTable) (run : TestRunRecord) : Document → Prop
  | run (payload : RunCreate) : RequestedBy runs run (.runCreate payload)
  | rerun (source : TestRunRecord) (mode : RetryMode) : source ∈ runs →
      source.status.isTerminal = true → RequestedBy runs run (.rerun source.id mode)

theorem RequestedBy.isRunRequest {runs : RunTable} {run : TestRunRecord} {document : Document}
    (h : RequestedBy runs run document) : document.isRunRequest = true := by
  cases h <;> rfl

theorem RequestedBy.ended {runs : RunTable} {run : TestRunRecord} {document : Document}
    (h : RequestedBy runs run document) {sourceId : UUID} {mode : RetryMode}
    (hdocument : document = .rerun sourceId mode) :
    ∃ source ∈ runs, source.id = sourceId ∧ source.status.isTerminal = true := by
  cases h with
  | run payload => cases hdocument
  | rerun source mode' hsource hended =>
    injection hdocument with hid
    exact ⟨source, hsource, hid, hended⟩

/-- Every run carries the digest of the document that requested it. -/
def RunsRequested (P : Primitives) (db : Database) : Prop :=
  ∀ run ∈ db.runs, ∃ document, run.requestHash = P.canonicalSha256 document ∧
    RequestedBy db.runs run document

theorem RequestedBy.follows {runs runs' : RunTable} {run run' : TestRunRecord}
    {document : Document} (hruns : runs.Evolves Follows runs')
    (h : RequestedBy runs run document) : RequestedBy runs' run' document := by
  cases h with
  | run payload => exact .run payload
  | rerun source mode hsource hended =>
    obtain ⟨source', hsource', hid, hfollow⟩ := hruns source hsource
    have hended' : source'.status.isTerminal = true := by
      rw [(hfollow.ended hended).1, hended]
    rw [← hid]
    exact .rerun source' mode hsource' hended'

theorem runsRequested_write {effect : Effect} (hw : Write P effect db db')
    (hi : RunsRequested P db) : RunsRequested P db' := by
  have hfollows := follows_write hw
  intro run' hrun'
  rcases run_write hw hrun' with ⟨run, hrun, -, hfollow⟩ | ⟨plan, -, horigin, rfl⟩
  · obtain ⟨document, hhash, hrequested⟩ := hi run hrun
    exact ⟨document, hfollow.requestHash.trans hhash, hrequested.follows hfollows⟩
  · cases horigin with
    | request now runId payload key actorId statuses baseline hplanned =>
      exact ⟨_, hplanned.requestHash, .run payload⟩
    | rerun now runId source mode key actorId hsource hended hreplanned =>
      have hbefore : RequestedBy db.runs (plan.run P) _ :=
        RequestedBy.rerun source mode hsource hended
      exact ⟨_, hreplanned.requestHash, hbefore.follows hfollows⟩

/-! ### Lookups -/

def keyConflict : ServiceError :=
  .resourceConflict "idempotency key was already used with a different request"

/-- What both lookups of a request answer once its key has a run. -/
theorem existing_of_run (hkeys : KeysDistinct db.runs) {run : TestRunRecord} (hrun : run ∈ db.runs)
    {requestHash : Digest} :
    existingIdempotentRun db run.projectId run.idempotencyKey requestHash =
      if run.requestHash = requestHash then .ok (some run) else .error keyConflict := by
  rw [existingIdempotentRun, hkeys.lookup hrun]
  by_cases hhash : run.requestHash = requestHash
  · rw [if_pos hhash, ensure_true (by simpa using hhash), ok_bind]
    rfl
  · rw [if_neg hhash, ensure_false (by simpa using hhash), error_bind]
    rfl

/-- A request of a client for a run of the project, with the document it is told apart by. -/
inductive Requests (db : Database) : CreationCall → UUID → Document → Prop
  | createRun (payload : RunCreate) :
      Requests db (.createRun payload) payload.projectId (.runCreate payload)
  | createRerun (source : TestRunRecord) (mode : RetryMode) : source ∈ db.runs →
      Requests db (.createRerun source.id mode) source.projectId (.rerun source.id mode)

theorem Requests.isRunRequest {call : CreationCall} {projectId : UUID} {document : Document}
    (h : Requests db call projectId document) : document.isRunRequest = true := by
  cases h <;> rfl

/-- The request is answered with the run, and nothing changes. -/
def AnsweredWith (P : Primitives) (s : Sessions) (call : CreationCall) (key : String)
    (actorId : UUID) (run : TestRunRecord) : Prop :=
  sessionStep P s (.begin call key actorId) = .ok s ∧
    ∃ creation, beginCreation call key actorId s.core.db = .ok (s.core.db, some creation) ∧
      creation.existing P s.core.db = .ok (some run)

/-- The request is rejected with a conflict. -/
def Rejected (P : Primitives) (s : Sessions) (a : SessionAction) : Prop :=
  ∃ message, sessionStep P s a = .error (.resourceConflict message)

/-- A client's request begins a session for its document, unless it reruns a run that has not ended. -/
theorem Requests.begins {call : CreationCall} {projectId : UUID} {document : Document}
    (h : Requests db call projectId document) (key : String) (actorId : UUID) :
    (∃ creation, beginCreation call key actorId db = .ok (db, some creation) ∧
      creation.request.projectId = projectId ∧ creation.request.document = document ∧
      creation.idempotencyKey = key ∧ creation.validates = none) ∨
    ((∃ source ∈ db.runs, ∃ mode, document = .rerun source.id mode ∧
        source.status.isTerminal = false) ∧
      ∃ message, beginCreation call key actorId db = .error (.resourceConflict message)) := by
  cases h with
  | createRun payload => exact .inl ⟨_, rfl, rfl, rfl, rfl, rfl⟩
  | createRerun source mode hsource =>
    have hget : getRun db source.id = .ok source := getRun_eq_ok.mpr (Table.get?_key hsource)
    rw [beginCreation, hget, ok_bind]
    cases hended : source.status.isTerminal with
    | true =>
      refine .inl ⟨⟨.rerun source mode, key, actorId, .nothing, none, none⟩, ?_, rfl, rfl, rfl, rfl⟩
      rw [ensure_true rfl, ok_bind]
      rfl
    | false =>
      refine .inr ⟨⟨source, hsource, mode, rfl, hended⟩, "only a terminal Run can be rerun", ?_⟩
      rw [ensure_false Bool.false_ne_true, error_bind]

/-! ### Repeated keys -/

variable {s s' : Sessions}

/-- A repeated key is answered at the first lookup, if the session gets that far. -/
theorem begin_repeated (hkeys : KeysDistinct s.core.db.runs) {run : TestRunRecord}
    (hrun : run ∈ s.core.db.runs) {creation : Creation} {call : CreationCall} {actorId : UUID}
    (hbegin : beginCreation call run.idempotencyKey actorId s.core.db =
      .ok (s.core.db, some creation))
    (hproject : creation.request.projectId = run.projectId)
    (hkey : creation.idempotencyKey = run.idempotencyKey) (hvalidates : creation.validates = none) :
    (run.requestHash = P.canonicalSha256 creation.request.document →
      AnsweredWith P s call run.idempotencyKey actorId run) ∧
    (run.requestHash ≠ P.canonicalSha256 creation.request.document →
      Rejected P s (.begin call run.idempotencyKey actorId)) := by
  have hlookup : creation.existing P s.core.db =
      if run.requestHash = P.canonicalSha256 creation.request.document then .ok (some run)
      else .error keyConflict := by
    rw [Creation.existing, hproject, hkey]
    exact existing_of_run hkeys hrun
  constructor
  · intro hhash
    rw [if_pos hhash] at hlookup
    refine ⟨?_, creation, hbegin, hlookup⟩
    rw [sessionStep, hbegin, ok_bind]
    simp only [hlookup, ok_bind, settleCreation, hvalidates]
    rfl
  · intro hhash
    rw [if_neg hhash] at hlookup
    refine ⟨"idempotency key was already used with a different request", ?_⟩
    rw [sessionStep, hbegin, ok_bind]
    simp only [hlookup, error_bind]
    rfl

/-- The tables of runs are as they were. -/
structure RunTablesKept (db db' : Database) : Prop where
  runs : db'.runs = db.runs
  runCases : db'.runCases = db.runCases
  runEvents : db'.runEvents = db.runEvents
  outbox : db'.outbox = db.outbox

theorem settleCreation_tables {creation : Creation} {runId : UUID} {created : Bool}
    {core core' : State} (h : settleCreation creation runId created core = .ok core') :
    RunTablesKept core.db core'.db := by
  rw [settleCreation] at h
  split at h
  · simp only [pure_eq_ok] at h
    exact h ▸ ⟨rfl, rfl, rfl, rfl⟩
  · split at h
    · simp only [pure_eq_ok] at h
      exact h ▸ ⟨rfl, rfl, rfl, rfl⟩
    · simp only [linkValidationRun, bind_eq_ok, pure_eq_ok] at h
      obtain ⟨db, ⟨-, -, rfl⟩, rfl⟩ := h
      exact ⟨rfl, rfl, rfl, rfl⟩

/-- A session whose key has got a run in the meantime has no plan, and the second lookup ends it. -/
theorem plan_repeated (hi : SessionState P s) {run : TestRunRecord}
    (hrun : run ∈ s.core.db.runs) {index : Nat} {creation : Creation}
    (hcreation : s.creations[index]? = some creation)
    (hproject : creation.request.projectId = run.projectId)
    (hkey : creation.idempotencyKey = run.idempotencyKey) :
    creation.plan = none ∧
    (run.requestHash = P.canonicalSha256 creation.request.document →
      creation.existing P s.core.db = .ok (some run) ∧
      ∀ checkedAt now runId s', sessionStep P s (.plan index checkedAt now runId) = .ok s' →
        RunTablesKept s.core.db s'.core.db ∧ s'.creations = s.creations.eraseIdx index) ∧
    (run.requestHash ≠ P.canonicalSha256 creation.request.document →
      ProjectFree s.creations run.projectId → ∀ checkedAt now runId,
      Rejected P s (.plan index checkedAt now runId)) := by
  have hplan : creation.plan = none := by
    by_contra hsome
    obtain ⟨plan, hplan⟩ := Option.ne_none_iff_exists'.mp hsome
    have hready := hi.ready creation (List.mem_of_getElem? hcreation) plan hplan
    have hfree := hready.free
    rw [hready.projectId, hready.idempotencyKey, hproject, hkey, hi.keys.lookup hrun] at hfree
    cases hfree
  have hlookup : creation.existing P s.core.db =
      if run.requestHash = P.canonicalSha256 creation.request.document then .ok (some run)
      else .error keyConflict := by
    rw [Creation.existing, hproject, hkey]
    exact existing_of_run hi.keys hrun
  refine ⟨hplan, fun hhash => ?_, fun hhash hlock checkedAt now runId => ?_⟩
  · rw [if_pos hhash] at hlookup
    refine ⟨hlookup, fun checkedAt now runId s' hstep => ?_⟩
    simp only [sessionStep, bind_eq_ok, found_eq_ok, ensure_eq_ok] at hstep
    obtain ⟨_, hsession, -, -, -, -, existing, hexisting, hstep⟩ := hstep
    obtain rfl := Option.some.inj (hcreation.symm.trans hsession)
    obtain rfl := Except.ok.inj (hlookup.symm.trans hexisting)
    simp only [bind_eq_ok, pure_eq_ok] at hstep
    obtain ⟨core, hsettle, rfl⟩ := hstep
    exact ⟨settleCreation_tables hsettle, rfl⟩
  · rw [if_neg hhash] at hlookup
    refine ⟨"idempotency key was already used with a different request", ?_⟩
    rw [← hproject] at hlock
    simp only [sessionStep, found, hcreation, ok_bind, hplan, ensure_true hlock, hlookup,
      error_bind, Option.isNone_none]
    rfl

/-! ### Exactly once -/

/-- Under any interleaving of requests: a key of a project has at most one run, a run has exactly one
    record that dispatches it, both stay, and a request that repeats the key gets that run or a
    conflict, at either of its lookups, without a write to the tables of runs. -/
theorem run_creation_exactly_once (hdigests : RequestDigests P) (hs : (sessions P).Reachable s) :
    (∀ run ∈ s.core.db.runs, ∀ run' ∈ s.core.db.runs, run.projectId = run'.projectId →
      run.idempotencyKey = run'.idempotencyKey → run = run') ∧
    (∀ run ∈ s.core.db.runs, ∃ record ∈ s.core.db.outbox, Dispatches record run ∧
      ∀ record' ∈ s.core.db.outbox, record'.aggregateId = run.id →
        (∃ snapshot poolId, record'.message = .runQueued snapshot poolId) → record' = record) ∧
    (∀ s', (sessions P).Steps s s' → s.core.db.runs.Evolves Follows s'.core.db.runs) ∧
    ∀ run ∈ s.core.db.runs, ∃ document, document.isRunRequest = true ∧
      run.requestHash = P.canonicalSha256 document ∧
      (∀ call document' actorId, Requests s.core.db call run.projectId document' →
        (document' = document → AnsweredWith P s call run.idempotencyKey actorId run) ∧
        (document' ≠ document → Rejected P s (.begin call run.idempotencyKey actorId))) ∧
      ∀ index creation, s.creations[index]? = some creation →
        creation.request.projectId = run.projectId →
        creation.idempotencyKey = run.idempotencyKey → creation.plan = none ∧
        (creation.request.document = document →
          creation.existing P s.core.db = .ok (some run) ∧
          ∀ checkedAt now runId s', sessionStep P s (.plan index checkedAt now runId) = .ok s' →
            RunTablesKept s.core.db s'.core.db ∧ s'.creations = s.creations.eraseIdx index) ∧
        (creation.request.document ≠ document → ProjectFree s.creations run.projectId →
          ∀ checkedAt now runId, Rejected P s (.plan index checkedAt now runId)) := by
  have hi := sessionState_reachable hs
  have hrequested : RunsRequested P s.core.db :=
    sessions_invariant (fun _ hrun => absurd hrun Table.not_mem_empty)
      (fun _ _ _ => runsRequested_write) hs
  refine ⟨hi.keys, fun run hrun => ?_, fun s' => sessions_follow hs, fun run hrun => ?_⟩
  · obtain ⟨record, hrecord, hdispatches⟩ := hi.outbox.announced run hrun
    refine ⟨record, hrecord, hdispatches, ?_⟩
    rintro record' hrecord' haggregate ⟨snapshot, poolId, hmessage⟩
    obtain ⟨run', hrun', hdispatches'⟩ := hi.outbox.queued record' hrecord' snapshot poolId hmessage
    obtain rfl := Table.eq_of_key_eq hrun' hrun (hdispatches'.aggregateId.symm.trans haggregate)
    exact OutboxState.unique hrecord' hrecord hdispatches' hdispatches
  · obtain ⟨document, hhash, hrequest⟩ := hrequested run hrun
    -- a document with the digest of the run is the document of the run
    have hsame : ∀ document', document'.isRunRequest = true →
        (run.requestHash = P.canonicalSha256 document' ↔ document' = document) := by
      intro document' hdocument'
      rw [hhash]
      constructor
      · exact fun heq => (hdigests _ _ hrequest.isRunRequest hdocument' heq).symm
      · rintro rfl
        rfl
    refine ⟨document, hrequest.isRunRequest, hhash, fun call document' actorId hcall => ?_,
      fun index creation hcreation hproject hkey => ?_⟩
    · have hdocument' := hcall.isRunRequest
      rcases hcall.begins run.idempotencyKey actorId with
        ⟨creation, hbegin, hproject, hdoc, hkey, hvalidates⟩ |
        ⟨⟨source, hsource, mode, rfl, hlive⟩, message, hrejected⟩
      · obtain ⟨hanswered, hrejected⟩ :=
          begin_repeated (P := P) hi.keys hrun hbegin hproject hkey hvalidates
        rw [hdoc] at hanswered hrejected
        exact ⟨fun heq => hanswered ((hsame _ hdocument').mpr heq),
          fun hne => hrejected (mt (hsame _ hdocument').mp hne)⟩
      · -- the source of a stored rerun has ended, so this one is another request
        refine ⟨fun heq => ?_, fun _ => ⟨message, by rw [sessionStep, hrejected, error_bind]⟩⟩
        obtain ⟨source', hsource', hid, hended⟩ := hrequest.ended heq.symm
        rw [Table.eq_of_key_eq hsource' hsource hid, hlive] at hended
        cases hended
    · have hdocument : creation.request.document.isRunRequest = true := by
        generalize creation.request = request
        cases request <;> rfl
      obtain ⟨hplan, hanswered, hrejected⟩ := plan_repeated hi hrun hcreation hproject hkey
      exact ⟨hplan, fun heq => hanswered ((hsame _ hdocument).mpr heq),
        fun hne => hrejected (mt (hsame _ hdocument).mp hne)⟩

namespace Installation

theorem textCode_injective : Function.Injective textCode := by
  intro text text' heq
  have hinj : Function.Injective Char.toNat := fun c c' h => Char.toNat_inj.mp h
  exact String.toList_inj.mp (List.map_injective_iff.mpr hinj heq)

theorem requestDigests : RequestDigests primitives := by
  intro d d' hd hd' heq
  cases d <;> cases d' <;> cases hd <;> cases hd'
  case runCreate.runCreate payload payload' =>
    have hcodes := List.map_injective_iff.mpr textCode_injective
    obtain ⟨projectId, targetId, environmentId, baselineId, packageId, codes, headless⟩ := payload
    obtain ⟨projectId', targetId', environmentId', baselineId', packageId', codes', headless'⟩ :=
      payload'
    have hencode := Encodable.encode_injective (Nat.eq_of_mul_eq_mul_left (by decide) heq)
    simp only [Prod.mk.injEq] at hencode
    obtain ⟨rfl, rfl, rfl, rfl, rfl, hmap, rfl⟩ := hencode
    obtain rfl := hcodes hmap
    rfl
  case rerun.rerun sourceId mode sourceId' mode' =>
    have hencode := Encodable.encode_injective
      (Nat.eq_of_mul_eq_mul_left (by decide) (Nat.succ.inj heq))
    simp only [Prod.mk.injEq] at hencode
    obtain ⟨rfl, hmode⟩ := hencode
    cases mode <;> cases mode' <;> simp_all
  case runCreate.rerun =>
    have hcodes : (7 * _ : Nat) = 7 * _ + 1 := heq
    omega
  case rerun.runCreate =>
    have hcodes : (7 * _ + 1 : Nat) = 7 * _ := heq
    omega

/-- Two requests under one key, of which the first has queued its run. -/
def race : List SessionAction :=
  setUp.map .other ++
    [.begin (.createRun ⟨1, 2, 3, 10, 4, [], none⟩) "key" 100,
      .begin (.createRun ⟨1, 2, 3, 10, 4, [], none⟩) "key" 100,
      .plan 0 0 0 20, .commit 0 0 30]

end Installation

open Installation in
/-- The second lookup of the request that lost the race finds run 20, and a request for one of the
    cases alone is rejected. -/
theorem run_creation_exactly_once_race : ∃ s, (sessions primitives).Reachable s ∧
    ∃ run ∈ s.core.db.runs, ∃ creation, s.creations[0]? = some creation ∧ run.id = 20 ∧
      creation.existing primitives s.core.db = .ok (some run) ∧
      Rejected primitives s
        (.begin (.createRun ⟨1, 2, 3, 10, 4, ["TC-A-1"], none⟩) run.idempotencyKey 101) := by
  have hrun : Ends (sessionStep primitives) Sessions.init race fun s =>
      ∃ run, s.core.db.runs.get? 20 = some run ∧ run.projectId = 1 ∧ run.idempotencyKey = "key" ∧
        run.requestHash = primitives.canonicalSha256 (.runCreate ⟨1, 2, 3, 10, 4, [], none⟩) ∧
        ∃ creation, s.creations[0]? = some creation ∧ creation.idempotencyKey = "key" ∧
          creation.request.projectId = 1 ∧
          creation.request.document = .runCreate ⟨1, 2, 3, 10, 4, [], none⟩ := by
    decide
  obtain ⟨s, hs, run, hrun, hproject, hkey, hhash, creation, hcreation, hkey', hproject',
    hdocument⟩ := Ends.exists_reachable (S := sessions primitives) hrun
      (fun _ _ _ _ hstep => hstep) rfl
  obtain ⟨hrun, hid⟩ := Table.get?_eq_some.mp hrun
  obtain ⟨-, -, -, hanswers⟩ := run_creation_exactly_once requestDigests hs
  obtain ⟨document, hrequest, hhash', hrequests, hsessions⟩ := hanswers run hrun
  obtain rfl := requestDigests _ _ hrequest rfl (hhash'.symm.trans hhash)
  obtain ⟨-, hsame, -⟩ := hsessions 0 creation hcreation (hproject'.trans hproject.symm)
    (hkey'.trans hkey.symm)
  have hother : Requests s.core.db (.createRun ⟨1, 2, 3, 10, 4, ["TC-A-1"], none⟩) run.projectId
      (.runCreate ⟨1, 2, 3, 10, 4, ["TC-A-1"], none⟩) := by
    rw [hproject]
    exact .createRun _
  obtain ⟨-, hrejected⟩ := hrequests _ _ 101 hother
  exact ⟨s, hs, run, hrun, creation, hcreation, hid, (hsame hdocument).1,
    hrejected (by decide)⟩

end TestOps

import TestOps.Contracts.Uuids
import TestOps.ControlPlane.AiAnalysis
import TestOps.ControlPlane.Identity
import TestOps.ControlPlane.ResultRows
import TestOps.Lib.Grouping
import TestOps.Lib.JsonCanonical
import TestOps.Lib.Shrinking

/-! The evidence that the model is shown: a document about a run, or about the recent runs of a project
    with one of them in detail and with what is known of the platform. Each part of it that an answer
    may cite carries a reference.

      rows ──selected, redacted──▸ document ──dropped until it fits──▸ text, references

    What is dropped first is what matters least: of a run its oldest events, then artifacts, then
    cases; for a project the platform's knowledge and the other runs go before that. -/

namespace TestOps.Evidence

open Checked Regex Shrinking

/-! ### Rows -/

/-- The columns that are read here only, and how an interpreter writes a time and folds a case. -/
structure Source where
  classes : CharClasses
  isoformat : Instant → String
  casefold : Text → Text
  snapshot : TestRunRecord → Json
  /-- `null` without a result -/
  resultDocument : TestRunRecord → Json
  eventPayload : RunEventRecord → Json
  artifactCreatedAt : ArtifactRecord → Instant

def dispatchStateText : DispatchState → String
  | .pending => "PENDING"
  | .waiting => "WAITING"
  | .dispatched => "DISPATCHED"

def eventSourceText : EventSource → String
  | .system => "SYSTEM"
  | .runner => "RUNNER"

def digestText (digest : Digest) : String :=
  let digits := Nat.toDigits 16 digest
  String.ofList ("sha256:".toList ++ (List.replicate (64 - digits.length) '0' ++ digits))

def textJson : Option String → Json
  | some text => .string text
  | none => .null

def natJson (n : Nat) : Json := .ofInt n

def optionalNatJson : Option Nat → Json
  | some n => natJson n
  | none => .null

/-- The members of a mapping, none of anything else. -/
def membersOf : Json → List (String × Json)
  | .object members => members
  | _ => []

def snapshotRef (snapshot : Json) (key : String) : List (String × Json) :=
  membersOf (((membersOf snapshot).lookup key).getD .null)

/-- `mapping.get(key)` -/
def memberOrNull (members : List (String × Json)) (key : String) : Json :=
  (members.lookup key).getD .null

def statusCounts (statuses : List String) : Json :=
  .object ((Grouping.counts statuses).map fun count => (count.1, natJson count.2))

/-! ### Texts -/

/-- The text, redacted and cut, and whether that has changed it. -/
def safeText (u : CharClasses) (value : Option String) (maxLength : Nat) : Option String × Bool :=
  match value with
  | none => (none, false)
  | some source =>
    let redacted := redactText u source.toList
    if redacted.length ≤ maxLength then (some (String.ofList redacted), redacted ≠ source.toList)
    else (some (String.ofList (redacted.take (maxLength - 1) ++ ['…'])), true)

/-- A member of a mapping, as far as it is a number, a flag or a text. -/
def safeMember (u : CharClasses) (textLimit : Nat) (members : List (String × Json))
    (key : String) : Option ((String × Json) × Bool) :=
  match members.lookup key with
  | some (.bool b) => some ((key, .bool b), false)
  | some (.number n) => some ((key, .number n), false)
  | some (.string text) =>
    let (safe, changed) := safeText u (some text) textLimit
    some ((key, textJson safe), changed)
  | _ => none

def safeMapping (u : CharClasses) (source : Json) (allowedFields : List String)
    (textLimit : Nat) : List (String × Json) × Bool :=
  let kept := (allowedFields.insertionSort (· ≤ ·)).filterMap
    (safeMember u textLimit (membersOf source))
  (kept.map (·.1), kept.any (·.2))

def eventPayloadFields : List String :=
  ["current_round", "total_rounds", "round_completed", "round_total", "completed", "total",
    "passed", "failed", "skipped", "current_case_code", "duration_ms", "failure_category",
    "error_message", "reason", "dispatch_wait_reason", "exit_code"]

def isolationFields : List String :=
  ["mode", "executor_version", "dedicated_process", "credential_scope", "workspace_scope",
    "read_only_root_filesystem", "network_policy", "resource_limits_enforced",
    "runtime_image_id", "memory_limit_bytes", "cpu_limit_millis", "pids_limit",
    "ephemeral_storage_limit_bytes", "orchestrator_namespace", "service_account_name",
    "service_account_token_automounted"]

/-! ### Parts of a document -/

structure CaseEvidence where
  row : RunCaseRecord
  errorMessage : Option String

structure EventEvidence where
  row : RunEventRecord
  payload : List (String × Json)

structure ArtifactEvidence where
  row : ArtifactRecord
  name : Option String

def runRef (runId : UUID) : String := "run:" ++ uuidText runId

namespace CaseEvidence

def ref (item : CaseEvidence) : String := "case:" ++ item.row.caseCode

def json (item : CaseEvidence) : Json :=
  .object [("evidence_ref", .string item.ref), ("case_code", .string item.row.caseCode),
    ("sequence", natJson item.row.sequence), ("status", .string item.row.status.text),
    ("duration_ms", optionalNatJson item.row.durationMs),
    ("failure_category", textJson item.row.failureCategory),
    ("error_message", textJson item.errorMessage)]

end CaseEvidence

namespace EventEvidence

def ref (item : EventEvidence) : String := s!"event:{item.row.sequence}"

def json (source : Source) (item : EventEvidence) : Json :=
  .object [("evidence_ref", .string item.ref), ("sequence", natJson item.row.sequence),
    ("source", .string (eventSourceText item.row.source)),
    ("event_type", .string item.row.eventType), ("case_code", textJson item.row.caseCode),
    ("status", textJson (item.row.status.map StatusValue.text)),
    ("occurred_at", .string (source.isoformat item.row.occurredAt)),
    ("payload", .object item.payload)]

end EventEvidence

namespace ArtifactEvidence

def ref (item : ArtifactEvidence) : String := "artifact:" ++ uuidText item.row.artifactId

def json (source : Source) (item : ArtifactEvidence) : Json :=
  .object [("evidence_ref", .string item.ref), ("kind", .string item.row.kind.text),
    ("name", textJson item.name), ("digest", .string (digestText item.row.digest)),
    ("size_bytes", natJson item.row.sizeBytes),
    ("created_at", .string (source.isoformat (source.artifactCreatedAt item.row)))]

end ArtifactEvidence

/-! ### A run -/

structure RunDocument where
  evidenceTruncated : Bool
  run : TestRunRecord
  errorMessage : Option String
  caseStatuses : List String
  abnormalCases : List CaseEvidence
  recentEvents : List EventEvidence
  artifactMetadata : List ArtifactEvidence
  executionIsolation : List (String × Json)

namespace RunDocument

def runJson (source : Source) (document : RunDocument) : Json :=
  let run := document.run
  .object [("evidence_ref", .string (runRef run.id)), ("run_id", .string (uuidText run.id)),
    ("status", .string run.status.value.text), ("case_count", natJson run.caseCount),
    ("timeout_seconds", natJson run.timeoutSeconds),
    ("dispatch_state", .string (dispatchStateText run.dispatchState)),
    ("dispatch_wait_reason", textJson (run.dispatchWaitReason.map WaitReason.text)),
    ("cancel_requested", .bool run.cancelRequested),
    ("created_at", .string (source.isoformat run.createdAt)),
    ("started_at", textJson (run.startedAt.map source.isoformat)),
    ("finished_at", textJson (run.finishedAt.map source.isoformat)),
    ("error_message", textJson document.errorMessage)]

def json (source : Source) (document : RunDocument) : Json :=
  let baseline := snapshotRef (source.snapshot document.run) "case_baseline"
  let package := snapshotRef (source.snapshot document.run) "automation_package"
  .object [("schema_version", .string "testops-ai-evidence-v1"),
    ("evidence_truncated", .bool document.evidenceTruncated),
    ("run", document.runJson source),
    ("baseline", .object [("version", memberOrNull baseline "version"),
      ("digest", memberOrNull baseline "digest")]),
    ("automation_package", .object [("name", memberOrNull package "name"),
      ("version", memberOrNull package "version"), ("digest", memberOrNull package "digest")]),
    ("case_status_counts", statusCounts document.caseStatuses),
    ("abnormal_cases", .array (document.abnormalCases.map CaseEvidence.json)),
    ("recent_events", .array (document.recentEvents.map (EventEvidence.json source))),
    ("artifact_metadata", .array (document.artifactMetadata.map (ArtifactEvidence.json source))),
    ("execution_isolation",
      if document.executionIsolation = [] then .null else .object document.executionIsolation)]

/-- `_serialize` -/
def serialize (source : Source) (document : RunDocument) : Text :=
  (document.json source).canonical

def refs (document : RunDocument) : List String :=
  runRef document.run.id :: (document.abnormalCases.map CaseEvidence.ref ++
    document.recentEvents.map EventEvidence.ref ++
    document.artifactMetadata.map ArtifactEvidence.ref)

end RunDocument

/-- The flag of a loop, and the document that it makes smaller. -/
abbrev Shrunk (δ : Type) := Bool × δ

structure AiEvidencePack (δ : Type) where
  document : δ
  serialized : Text
  evidenceRefs : List String
  analyzedCaseCount : Nat
  truncated : Bool

def isAbnormal (item : RunCaseRecord) : Bool :=
  item.status = .failed ∨ item.status = .infraError ∨ item.status = .timedOut

def caseCandidates (cases : List RunCaseRecord) : List RunCaseRecord :=
  if cases.filter isAbnormal ≠ [] then cases.filter isAbnormal
  else (cases.filter fun item => item.status ≠ .passed).rtake 10

def caseEvidence (u : CharClasses) (item : RunCaseRecord) : CaseEvidence × Bool :=
  let (errorMessage, changed) := safeText u item.errorMessage 800
  (⟨item, errorMessage⟩, changed)

def eventEvidence (source : Source) (item : RunEventRecord) : EventEvidence × Bool :=
  let (payload, changed) := safeMapping source.classes (source.eventPayload item)
    eventPayloadFields 500
  (⟨item, payload⟩, changed)

def artifactEvidence (u : CharClasses) (item : ArtifactRecord) : ArtifactEvidence × Bool :=
  let (name, changed) := safeText u (some item.name) 255
  (⟨item, name⟩, changed)

/-- The document before anything is dropped for its size. -/
def selectEvidence (source : Source) (run : TestRunRecord) (cases : List RunCaseRecord)
    (events : List RunEventRecord) (artifacts : List ArtifactRecord) : Shrunk RunDocument :=
  let u := source.classes
  let (errorMessage, errorChanged) := safeText u run.errorMessage 1500
  let candidates := caseCandidates cases
  let caseDocuments := (candidates.take 40).map (caseEvidence u)
  let recentEvents := events.rtake 30
  let eventDocuments := recentEvents.map (eventEvidence source)
  let selectedArtifacts := artifacts.take 20
  let artifactDocuments := selectedArtifacts.map (artifactEvidence u)
  let (isolation, isolationChanged) := safeMapping u
    (memberOrNull (membersOf (source.resultDocument run)) "execution_isolation")
    isolationFields 300
  let truncated := errorChanged || decide (40 < candidates.length) ||
    caseDocuments.any (·.2) || decide (recentEvents.length < events.length) ||
    eventDocuments.any (·.2) || decide (selectedArtifacts.length < artifacts.length) ||
    artifactDocuments.any (·.2) || isolationChanged
  (truncated, {
    evidenceTruncated := truncated
    run := run
    errorMessage := errorMessage
    caseStatuses := cases.map fun item => item.status.text
    abnormalCases := caseDocuments.map (·.1)
    recentEvents := eventDocuments.map (·.1)
    artifactMetadata := artifactDocuments.map (·.1)
    executionIsolation := isolation })

/-- One turn of the loop. -/
def dropFromRun (shrunk : Shrunk RunDocument) : Option (Shrunk RunDocument) :=
  let document := shrunk.2
  if document.recentEvents ≠ [] then
    some (true, { document with
      evidenceTruncated := true, recentEvents := document.recentEvents.tail })
  else if document.artifactMetadata ≠ [] then
    some (true, { document with
      evidenceTruncated := true, artifactMetadata := document.artifactMetadata.dropLast })
  else if 1 < document.abnormalCases.length then
    some (true, { document with
      evidenceTruncated := true, abnormalCases := document.abnormalCases.dropLast })
  else none

/-- How much there is to drop. -/
def RunDocument.parts (document : RunDocument) : Nat :=
  document.recentEvents.length + document.artifactMetadata.length + document.abnormalCases.length

theorem length_tail_lt {α : Type} {xs : List α} (h : xs ≠ []) : xs.tail.length < xs.length := by
  have hpositive := List.length_pos_iff.mpr h
  rw [List.length_tail]
  omega

theorem length_dropLast_lt {α : Type} {xs : List α} (h : xs ≠ []) :
    xs.dropLast.length < xs.length := by
  have hpositive := List.length_pos_iff.mpr h
  rw [List.length_dropLast]
  omega

/-- The turns that the loop over a run's document can take. -/
inductive RunTurn (document : RunDocument) : RunDocument → Prop
  | event : document.recentEvents ≠ [] → RunTurn document { document with
      evidenceTruncated := true, recentEvents := document.recentEvents.tail }
  | artifact : document.recentEvents = [] → document.artifactMetadata ≠ [] →
      RunTurn document { document with
        evidenceTruncated := true, artifactMetadata := document.artifactMetadata.dropLast }
  | case : document.recentEvents = [] → document.artifactMetadata = [] →
      1 < document.abnormalCases.length → RunTurn document { document with
        evidenceTruncated := true, abnormalCases := document.abnormalCases.dropLast }

theorem dropFromRun_turn {shrunk shrunk' : Shrunk RunDocument}
    (h : dropFromRun shrunk = some shrunk') : shrunk'.1 = true ∧ RunTurn shrunk.2 shrunk'.2 := by
  rw [dropFromRun] at h
  by_cases hevents : shrunk.2.recentEvents ≠ []
  · rw [if_pos hevents] at h
    cases h
    exact ⟨rfl, .event hevents⟩
  · rw [if_neg hevents] at h
    rw [not_not] at hevents
    by_cases hartifacts : shrunk.2.artifactMetadata ≠ []
    · rw [if_pos hartifacts] at h
      cases h
      exact ⟨rfl, .artifact hevents hartifacts⟩
    · rw [if_neg hartifacts] at h
      rw [not_not] at hartifacts
      by_cases hcases : 1 < shrunk.2.abnormalCases.length
      · rw [if_pos hcases] at h
        cases h
        exact ⟨rfl, .case hevents hartifacts hcases⟩
      · rw [if_neg hcases] at h
        cases h

theorem RunTurn.lighter {document document' : RunDocument} (h : RunTurn document document') :
    document'.parts < document.parts := by
  cases h with
  | event hevents =>
    have hlt := length_tail_lt hevents
    simp only [RunDocument.parts]
    omega
  | artifact _ hartifacts =>
    have hlt := length_dropLast_lt hartifacts
    simp only [RunDocument.parts]
    omega
  | case _ _ hcases =>
    have hlt := length_dropLast_lt (List.ne_nil_of_length_pos (Nat.zero_lt_of_lt hcases))
    simp only [RunDocument.parts]
    omega

def runShrinker : Shrinker (Shrunk RunDocument) where
  step := dropFromRun
  weight shrunk := shrunk.2.parts
  lighter _ _ h := (dropFromRun_turn h).2.lighter

def runFits (source : Source) (maxChars : Int) (shrunk : Shrunk RunDocument) : Bool :=
  ((shrunk.2.serialize source).length : Int) ≤ maxChars

def buildRunEvidence (source : Source) (run : TestRunRecord) (cases : List RunCaseRecord)
    (events : List RunEventRecord) (artifacts : List ArtifactRecord) (maxChars : Int) :
    Except ChatError (AiEvidencePack RunDocument) := do
  let (truncated, document) ← found
    (runShrinker.shrink (runFits source maxChars) (selectEvidence source run cases events artifacts))
    (.aiAnalysisError "Run evidence cannot fit within the configured safety limit")
  return ⟨document, document.serialize source, document.refs, document.abnormalCases.length,
    truncated⟩

/-! ### The analysis of a failed run -/

def listRunCases (db : Database) (runId : UUID) : List RunCaseRecord :=
  (db.runCases.rows.filter fun item => item.runId = runId).insertionSort
    fun a b => a.sequence ≤ b.sequence

def listRunArtifacts (source : Source) (db : Database) (runId : UUID) : List ArtifactRecord :=
  (db.artifacts.rows.filter fun item => item.runId = runId).insertionSort fun a b =>
    source.artifactCreatedAt a < source.artifactCreatedAt b ∨
      (source.artifactCreatedAt a = source.artifactCreatedAt b ∧ a.artifactId ≤ b.artifactId)

/-- What a request for an analysis stops with, before the model is asked. -/
inductive AnalysisError where
  | service (error : ServiceError)
  | identity (error : IdentityError)
  | httpException (statusCode : Nat) (detail : String)
  | evidence (error : ChatError)

def AnalysisError.ofEvidence : ChatError → AnalysisError
  | .aiAnalysisError message => .httpException 502 message
  | error => .evidence error

/-- A request for an analysis: `gateway` is what `_resolve_gateway` answers it with. -/
structure AnalysisRequest where
  runId : UUID
  principal : Principal
  gateway : Except AnalysisError Unit

/-- The statuses of a run whose failure is analysed. -/
def analysedStatuses : List RunStatus := [.failed, .canceled, .timedOut, .infraError]

/-- What has been read of a run when its evidence is built. -/
structure RunRows where
  run : TestRunRecord
  cases : List RunCaseRecord
  events : List RunEventRecord
  artifacts : List ArtifactRecord

def RunRows.select (source : Source) (rows : RunRows) : Shrunk RunDocument :=
  selectEvidence source rows.run rows.cases rows.events rows.artifacts

def readRunRows (source : Source) (db : Database) (runId : UUID) (run : TestRunRecord) : RunRows :=
  ⟨run, listRunCases db runId, listRunEvents db.runEvents runId 0 500,
    listRunArtifacts source db runId⟩

/-- `post_run_failure_analysis`, up to the pack that is sent to the model -/
def runFailureEvidence (source : Source) (db : Database) (identity : IdentityDatabase)
    (request : AnalysisRequest) (maxChars : Int) :
    Except AnalysisError (AiEvidencePack RunDocument) := do
  let run ← (getRun db request.runId).mapError .service
  (authorizeProject request.principal run.projectId "run:read" identity).mapError .identity
  ensure (run.status ∈ analysedStatuses)
    (.httpException 409 "AI failure analysis is available only for terminal abnormal runs")
  request.gateway
  let rows := readRunRows source db request.runId run
  (buildRunEvidence source rows.run rows.cases rows.events rows.artifacts maxChars).mapError
    .ofEvidence

/-! ### What is known of the platform -/

structure PlatformKnowledgeEntry where
  key : String
  title : String
  aliases : List String
  summary : String
  facts : List String
  navigation : List String
  source : String

/-- `PLATFORM_KNOWLEDGE`, which has at least one entry -/
structure PlatformKnowledge where
  first : PlatformKnowledgeEntry
  others : List PlatformKnowledgeEntry

def PlatformKnowledge.entries (knowledge : PlatformKnowledge) : List PlatformKnowledgeEntry :=
  knowledge.first :: knowledge.others

/-- `([a-z0-9][a-z0-9._-]*)`, whatever the case -/
def wordPattern : Pattern Char :=
  .group 1 (.seq (.set (isLetterOr [])) (.many (isLetterOr "._-".toList) 0 true))

def matchScore (source : Source) (entry : PlatformKnowledgeEntry) (query : String) : Nat :=
  let normalized := source.casefold query.toList
  let aliases := entry.aliases.map fun text => source.casefold text.toList
  let title := source.casefold entry.title.toList
  ((aliases.filter (· <:+: normalized)).map fun candidate => 20 + min candidate.length 20).sum +
    5 * ((findall wordPattern 1 normalized).filter fun word =>
      3 ≤ word.length ∧ (word <:+: title ∨ aliases.any fun candidate => word <:+: candidate)).length

/-- The entries that the question is about, the best ones first. -/
def matchedEntries (source : Source) (knowledge : PlatformKnowledge) (query : String)
    (maxEntries : Nat) : List PlatformKnowledgeEntry :=
  let scored := knowledge.entries.map fun entry => (entry, matchScore source entry query)
  let ranked := scored.insertionSort fun a b => b.2 < a.2 ∨ (a.2 = b.2 ∧ a.1.key ≤ b.1.key)
  let found := ((ranked.filter fun scored => 0 < scored.2).map (·.1)).take maxEntries
  if found = [] then [knowledge.first] else found

namespace PlatformKnowledgeEntry

def ref (entry : PlatformKnowledgeEntry) : String := "knowledge:" ++ entry.key

def catalogJson (entry : PlatformKnowledgeEntry) : Json :=
  .object [("key", .string entry.key), ("title", .string entry.title),
    ("summary", .string entry.summary)]

def json (entry : PlatformKnowledgeEntry) : Json :=
  .object [("evidence_ref", .string entry.ref), ("title", .string entry.title),
    ("summary", .string entry.summary), ("facts", .array (entry.facts.map Json.string)),
    ("navigation", .array (entry.navigation.map Json.string)), ("source", .string entry.source)]

end PlatformKnowledgeEntry

/-! ### A project -/

structure ProjectDocument where
  evidenceTruncated : Bool
  projectId : UUID
  runStatuses : List String
  recentRuns : List TestRunRecord
  selectedRun : Option RunDocument
  catalog : List PlatformKnowledgeEntry
  matchedEntries : List PlatformKnowledgeEntry

def projectRef (projectId : UUID) : String := "project:" ++ uuidText projectId

def recentRunJson (source : Source) (run : TestRunRecord) : Json :=
  let baseline := snapshotRef (source.snapshot run) "case_baseline"
  let package := snapshotRef (source.snapshot run) "automation_package"
  .object [("evidence_ref", .string (runRef run.id)), ("run_id", .string (uuidText run.id)),
    ("status", .string run.status.value.text),
    ("created_at", .string (source.isoformat run.createdAt)),
    ("started_at", textJson (run.startedAt.map source.isoformat)),
    ("finished_at", textJson (run.finishedAt.map source.isoformat)),
    ("baseline_version", memberOrNull baseline "version"),
    ("automation_package_version", memberOrNull package "version")]

namespace ProjectDocument

def projectJson (document : ProjectDocument) : Json :=
  .object [("evidence_ref", .string (projectRef document.projectId)),
    ("project_id", .string (uuidText document.projectId))]

def knowledgeJson (document : ProjectDocument) : Json :=
  .object [("scope", .string "VERSIONED_TOP_PRODUCT_KNOWLEDGE"),
    ("usage", .string ("Use matched_entries for feature behavior. The catalog only lists " ++
      "available topics. Do not infer current deployment state from product knowledge.")),
    ("catalog", .array (document.catalog.map PlatformKnowledgeEntry.catalogJson)),
    ("matched_entries", .array (document.matchedEntries.map PlatformKnowledgeEntry.json))]

def json (source : Source) (document : ProjectDocument) : Json :=
  .object [("schema_version", .string "testops-ai-project-chat-evidence-v3"),
    ("evidence_truncated", .bool document.evidenceTruncated),
    ("project", document.projectJson),
    ("recent_run_scope", .object [("counting_unit", .string "RUN_RECORD"),
      ("scope_description",
        .string "Each record is one platform test execution, not one test-case execution."),
      ("requested_run_count", natJson 10),
      ("returned_runs", natJson document.runStatuses.length),
      ("status_counts", statusCounts document.runStatuses)]),
    ("recent_runs", .array (document.recentRuns.map (recentRunJson source))),
    ("selected_run", match document.selectedRun with
      | some selected => selected.json source
      | none => .null),
    ("platform_knowledge", document.knowledgeJson)]

/-- `_serialize` -/
def serialize (source : Source) (document : ProjectDocument) : Text :=
  (document.json source).canonical

def refs (document : ProjectDocument) : List String :=
  projectRef document.projectId :: (document.matchedEntries.map PlatformKnowledgeEntry.ref ++
    document.recentRuns.map (fun run => runRef run.id) ++
    match document.selectedRun with
    | some selected => selected.refs
    | none => [])

end ProjectDocument

/-- A text that is cut once, if it is long. -/
def cutError (error : Option String) : Option (Option String) :=
  match error with
  | some text =>
    if 200 < text.length then some (some (String.ofList (text.toList.take 199 ++ ['…']))) else none
  | none => none

/-- One turn of the loop, as far as it is about the selected run. -/
def dropFromSelected (selected : RunDocument) : Option RunDocument :=
  if selected.recentEvents ≠ [] then
    some { selected with recentEvents := selected.recentEvents.tail }
  else if selected.artifactMetadata ≠ [] then
    some { selected with artifactMetadata := selected.artifactMetadata.dropLast }
  else if 1 < selected.abnormalCases.length then
    some { selected with abnormalCases := selected.abnormalCases.dropLast }
  else match selected.abnormalCases with
    | first :: rest =>
      match cutError first.errorMessage with
      | some error =>
        some { selected with abnormalCases := { first with errorMessage := error } :: rest }
      | none => some { selected with abnormalCases := (first :: rest).dropLast }
    | [] => (cutError selected.errorMessage).map fun error => { selected with errorMessage := error }

/-- One turn of the loop, as far as it is about the last entry that matched. -/
def dropFromEntry (entry : PlatformKnowledgeEntry) : Option PlatformKnowledgeEntry :=
  if 2 < entry.facts.length then some { entry with facts := entry.facts.dropLast }
  else if 1 < entry.navigation.length then
    some { entry with navigation := entry.navigation.dropLast }
  else none

/-- One turn of the loop. -/
def dropFromProject (shrunk : Shrunk ProjectDocument) : Option (Shrunk ProjectDocument) :=
  let document := { shrunk.2 with evidenceTruncated := true }
  if document.catalog ≠ [] then some (true, { document with catalog := document.catalog.dropLast })
  else if 1 < document.matchedEntries.length then
    some (true, { document with matchedEntries := document.matchedEntries.dropLast })
  else match document.matchedEntries.getLast?.bind dropFromEntry with
    | some entry =>
      some (true, { document with matchedEntries := document.matchedEntries.dropLast ++ [entry] })
    | none =>
      if document.recentRuns ≠ [] then
        some (true, { document with recentRuns := document.recentRuns.dropLast })
      else (document.selectedRun.bind dropFromSelected).map fun selected =>
        (true, { document with selectedRun := some selected })

/-! #### The turns come to an end -/

def errorWeight (error : Option String) : Nat :=
  match error with
  | some text => text.length
  | none => 0

theorem cutError_lighter {error error' : Option String} (h : cutError error = some error') :
    errorWeight error' < errorWeight error := by
  cases error with
  | none => cases h
  | some text =>
    rw [cutError] at h
    by_cases hlong : 200 < text.length
    · rw [if_pos hlong] at h
      cases h
      simp only [errorWeight, String.length_ofList, List.length_append, List.length_take,
        String.length_toList, List.length_singleton]
      omega
    · rw [if_neg hlong] at h
      cases h

def RunDocument.weight (document : RunDocument) : Nat :=
  document.parts + errorWeight document.errorMessage +
    (document.abnormalCases.map fun item => errorWeight item.errorMessage).sum

theorem sum_dropLast_le {α : Type} (f : α → Nat) (xs : List α) :
    (xs.dropLast.map f).sum ≤ (xs.map f).sum :=
  ((List.dropLast_sublist xs).map f).sum_le_sum fun _ _ => Nat.zero_le _

theorem dropFromSelected_lighter {selected selected' : RunDocument}
    (h : dropFromSelected selected = some selected') : selected'.weight < selected.weight := by
  have hsum := sum_dropLast_le (fun item : CaseEvidence => errorWeight item.errorMessage)
    selected.abnormalCases
  rw [dropFromSelected] at h
  by_cases hevents : selected.recentEvents ≠ []
  · rw [if_pos hevents] at h
    cases h
    have hlt := length_tail_lt hevents
    simp only [RunDocument.weight, RunDocument.parts]
    omega
  · rw [if_neg hevents] at h
    by_cases hartifacts : selected.artifactMetadata ≠ []
    · rw [if_pos hartifacts] at h
      cases h
      have hlt := length_dropLast_lt hartifacts
      simp only [RunDocument.weight, RunDocument.parts]
      omega
    · rw [if_neg hartifacts] at h
      by_cases hcases : 1 < selected.abnormalCases.length
      · rw [if_pos hcases] at h
        cases h
        have hlt := length_dropLast_lt (List.ne_nil_of_length_pos (Nat.zero_lt_of_lt hcases))
        simp only [RunDocument.weight, RunDocument.parts]
        omega
      · rw [if_neg hcases] at h
        cases hall : selected.abnormalCases with
        | nil =>
          rw [hall] at h
          obtain ⟨error, herror, rfl⟩ := Option.map_eq_some_iff.mp h
          have hlt := cutError_lighter herror
          simp only [RunDocument.weight, RunDocument.parts, hall]
          omega
        | cons first rest =>
          rw [hall] at h hsum
          cases hcut : cutError first.errorMessage with
          | some error =>
            simp only [hcut] at h
            cases h
            have hlt := cutError_lighter hcut
            simp only [RunDocument.weight, RunDocument.parts, hall, List.map_cons, List.sum_cons,
              List.length_cons]
            omega
          | none =>
            simp only [hcut] at h
            cases h
            have hlt := length_dropLast_lt (List.cons_ne_nil first rest)
            simp only [RunDocument.weight, RunDocument.parts, hall]
            omega

def entryWeight (entry : PlatformKnowledgeEntry) : Nat :=
  1 + entry.facts.length + entry.navigation.length

theorem dropFromEntry_lighter {entry entry' : PlatformKnowledgeEntry}
    (h : dropFromEntry entry = some entry') : entryWeight entry' < entryWeight entry := by
  rw [dropFromEntry] at h
  by_cases hfacts : 2 < entry.facts.length
  · rw [if_pos hfacts] at h
    cases h
    simp only [entryWeight, List.length_dropLast]
    omega
  · rw [if_neg hfacts] at h
    by_cases hnavigation : 1 < entry.navigation.length
    · rw [if_pos hnavigation] at h
      cases h
      simp only [entryWeight, List.length_dropLast]
      omega
    · rw [if_neg hnavigation] at h
      cases h

def ProjectDocument.weight (document : ProjectDocument) : Nat :=
  document.catalog.length + (document.matchedEntries.map entryWeight).sum +
    document.recentRuns.length + (document.selectedRun.map RunDocument.weight).getD 0

/-- The turns that the loop over a project's document can take. -/
inductive ProjectTurn (document : ProjectDocument) : ProjectDocument → Prop
  | catalog : document.catalog ≠ [] → ProjectTurn document { document with
      evidenceTruncated := true, catalog := document.catalog.dropLast }
  | entry : 1 < document.matchedEntries.length → ProjectTurn document { document with
      evidenceTruncated := true, matchedEntries := document.matchedEntries.dropLast }
  | lastEntry (before : List PlatformKnowledgeEntry) (entry entry' : PlatformKnowledgeEntry) :
      document.matchedEntries = before ++ [entry] → dropFromEntry entry = some entry' →
      ProjectTurn document { document with
        evidenceTruncated := true, matchedEntries := before ++ [entry'] }
  | run : document.recentRuns ≠ [] → ProjectTurn document { document with
      evidenceTruncated := true, recentRuns := document.recentRuns.dropLast }
  | selected (selected selected' : RunDocument) : document.selectedRun = some selected →
      dropFromSelected selected = some selected' → ProjectTurn document { document with
        evidenceTruncated := true, selectedRun := some selected' }

theorem dropFromProject_turn {shrunk shrunk' : Shrunk ProjectDocument}
    (h : dropFromProject shrunk = some shrunk') :
    shrunk'.1 = true ∧ ProjectTurn shrunk.2 shrunk'.2 := by
  rw [dropFromProject] at h
  by_cases hcatalog : shrunk.2.catalog ≠ []
  · simp only [if_pos hcatalog] at h
    cases h
    exact ⟨rfl, .catalog hcatalog⟩
  · simp only [if_neg hcatalog] at h
    by_cases hentries : 1 < shrunk.2.matchedEntries.length
    · rw [if_pos hentries] at h
      cases h
      exact ⟨rfl, .entry hentries⟩
    · rw [if_neg hentries] at h
      cases hlast : shrunk.2.matchedEntries.getLast?.bind dropFromEntry with
      | some entry' =>
        simp only [hlast] at h
        cases h
        obtain ⟨entry, hentry, hdrop⟩ := Option.bind_eq_some_iff.mp hlast
        exact ⟨rfl, .lastEntry _ entry entry' (List.dropLast_append_getLast? entry hentry).symm
          hdrop⟩
      | none =>
        simp only [hlast] at h
        by_cases hruns : shrunk.2.recentRuns ≠ []
        · rw [if_pos hruns] at h
          cases h
          exact ⟨rfl, .run hruns⟩
        · rw [if_neg hruns] at h
          obtain ⟨selected', hselected', rfl⟩ := Option.map_eq_some_iff.mp h
          obtain ⟨selected, hselected, hdrop⟩ := Option.bind_eq_some_iff.mp hselected'
          exact ⟨rfl, .selected selected selected' hselected hdrop⟩

theorem ProjectTurn.lighter {document document' : ProjectDocument}
    (h : ProjectTurn document document') : document'.weight < document.weight := by
  cases h with
  | catalog hcatalog =>
    have hlt := length_dropLast_lt hcatalog
    simp only [ProjectDocument.weight]
    omega
  | entry hentries =>
    obtain ⟨before, last, hlast⟩ := List.eq_nil_or_concat document.matchedEntries |>.resolve_left
      (List.ne_nil_of_length_pos (Nat.zero_lt_of_lt hentries))
    have hpositive : 0 < entryWeight last := by
      rw [entryWeight]
      omega
    simp only [ProjectDocument.weight, hlast, List.concat_eq_append, List.dropLast_concat,
      List.map_append, List.sum_append, List.map_singleton, List.sum_singleton]
    omega
  | lastEntry before entry entry' hlast hdrop =>
    have hlt := dropFromEntry_lighter hdrop
    simp only [ProjectDocument.weight, hlast, List.map_append, List.sum_append,
      List.map_singleton, List.sum_singleton]
    omega
  | run hruns =>
    have hlt := length_dropLast_lt hruns
    simp only [ProjectDocument.weight]
    omega
  | selected selected selected' hselected hdrop =>
    have hlt := dropFromSelected_lighter hdrop
    simp only [ProjectDocument.weight, hselected, Option.map_some, Option.getD_some]
    omega

def projectShrinker : Shrinker (Shrunk ProjectDocument) where
  step := dropFromProject
  weight shrunk := shrunk.2.weight
  lighter _ _ h := (dropFromProject_turn h).2.lighter

def projectFits (source : Source) (maxChars : Int) (shrunk : Shrunk ProjectDocument) : Bool :=
  ((shrunk.2.serialize source).length : Int) ≤ maxChars

/-- The selected run enters with the document that its text was written from. -/
def selectProjectEvidence (source : Source) (knowledge : PlatformKnowledge) (projectId : UUID)
    (runs : List TestRunRecord) (selectedRun : Option (AiEvidencePack RunDocument))
    (knowledgeQuery : String) : Shrunk ProjectDocument :=
  let truncated := selectedRun.any (·.truncated)
  (truncated, {
    evidenceTruncated := truncated
    projectId := projectId
    runStatuses := runs.map fun run => run.status.value.text
    recentRuns := runs
    selectedRun := selectedRun.map (·.document)
    catalog := knowledge.entries
    matchedEntries := matchedEntries source knowledge knowledgeQuery 4 })

def buildProjectChatEvidence (source : Source) (knowledge : PlatformKnowledge) (projectId : UUID)
    (runs : List TestRunRecord) (selectedRun : Option (AiEvidencePack RunDocument))
    (knowledgeQuery : String) (maxChars : Int) :
    Except ChatError (AiEvidencePack ProjectDocument) := do
  let (truncated, document) ← found
    (projectShrinker.shrink (projectFits source maxChars)
      (selectProjectEvidence source knowledge projectId runs selectedRun knowledgeQuery))
    (.aiAnalysisError "Project chat evidence cannot fit within the configured safety limit")
  return ⟨document, document.serialize source, document.refs,
    (document.selectedRun.map fun selected => selected.abnormalCases.length).getD 0, truncated⟩

end TestOps.Evidence

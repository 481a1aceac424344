import TestOps.ControlPlane.AiEvidence
import TestOps.Invariants.SanitizedOutputs

/-! Evidence packs are bounded, and what they allow an answer to cite is in the text that the model was
    shown:

      text   {"abnormal_cases":[{"case_code":…,"evidence_ref":"case:TC-1",…}],…}
                                               ╰───────┬───────╯
      references                      "case:TC-1", "run:…", …

    References are collected after the last turn of the loop, from the document whose text it is. -/

namespace TestOps.Evidence

open Checked Shrinking

variable {source : Source} {knowledge : PlatformKnowledge} {maxChars : Int} {δ : Type}

/-! ### Packs -/

/-- A text labels a part of its document with this reference. -/
def Visible (serialized : Text) (ref : String) : Prop :=
  ∃ shown, Json.parse serialized = some shown ∧ shown.Labelled "evidence_ref" ref

structure IsPack (maxChars : Int) (json : δ → Json) (pack : AiEvidencePack δ) : Prop where
  canonical : pack.serialized = (json pack.document).canonical
  bounded : (pack.serialized.length : Int) ≤ maxChars
  flagged : (membersOf (json pack.document)).lookup "evidence_truncated" =
    some (.bool pack.truncated)
  visible : ∀ ref ∈ pack.evidenceRefs, Visible pack.serialized ref
  /-- Whatever the model has answered: what is accepted of it cites only what it was shown. -/
  cited : ∀ u (output sanitized : ModelOutput), output.IsValid →
    output.sanitize u (pack.evidenceRefs.map String.toList) = .ok sanitized →
      ∀ ref ∈ sanitized.cited, Visible pack.serialized (String.ofList ref)

/-- A pack, or a refusal because the evidence does not fit. -/
def Delivers (result : Except ChatError (AiEvidencePack δ)) (good : AiEvidencePack δ → Prop) :
    Prop :=
  match result with
  | .ok pack => good pack
  | .error e => ∃ message, e = .aiAnalysisError message

/-- The pack of a run, as it enters the evidence about a project. -/
structure BuiltRun (source : Source) where
  run : TestRunRecord
  cases : List RunCaseRecord
  events : List RunEventRecord
  artifacts : List ArtifactRecord
  maxChars : Int
  pack : AiEvidencePack RunDocument
  built : buildRunEvidence source run cases events artifacts maxChars = .ok pack

theorem visible_of_labelled {v : Json} {ref : String} (h : v.Labelled "evidence_ref" ref) :
    Visible v.canonical ref :=
  ⟨v.sortKeys, Json.parse_canonical v, h.sortKeys⟩

/-! ### References -/

theorem CaseEvidence.labelled (item : CaseEvidence) :
    item.json.Labelled "evidence_ref" item.ref := ⟨_, List.mem_cons_self, .here⟩

theorem EventEvidence.labelled (item : EventEvidence) :
    (item.json source).Labelled "evidence_ref" item.ref := ⟨_, List.mem_cons_self, .here⟩

theorem ArtifactEvidence.labelled (item : ArtifactEvidence) :
    (item.json source).Labelled "evidence_ref" item.ref := ⟨_, List.mem_cons_self, .here⟩

theorem PlatformKnowledgeEntry.labelled (entry : PlatformKnowledgeEntry) :
    entry.json.Labelled "evidence_ref" entry.ref := ⟨_, List.mem_cons_self, .here⟩

theorem recentRun_labelled (run : TestRunRecord) :
    (recentRunJson source run).Labelled "evidence_ref" (runRef run.id) :=
  ⟨_, List.mem_cons_self, .here⟩

/-- A list of parts, each with its own reference. -/
theorem labelled_array {α : Type} {ref : α → String} (json : α → Json)
    (hitem : ∀ item, (json item).Labelled "evidence_ref" (ref item)) {items : List α}
    {text : String} (h : text ∈ items.map ref) :
    (Json.array (items.map json)).Labelled "evidence_ref" text := by
  obtain ⟨item, hmem, rfl⟩ := List.mem_map.mp h
  exact (hitem item).item (List.mem_map_of_mem hmem)

theorem RunDocument.labelled (document : RunDocument) :
    ∀ ref ∈ document.refs, (document.json source).Labelled "evidence_ref" ref := by
  intro ref href
  simp only [refs, List.mem_cons, List.mem_append] at href
  rcases href with rfl | (hcase | hevent) | hartifact
  · have hrun : (document.runJson source).Labelled "evidence_ref" (runRef document.run.id) :=
      ⟨_, List.mem_cons_self, .here⟩
    exact hrun.member "run" (by simp)
  · have hcases := labelled_array CaseEvidence.json CaseEvidence.labelled hcase
    exact hcases.member "abnormal_cases" (by simp)
  · have hevents := labelled_array (EventEvidence.json source) (fun item => item.labelled) hevent
    exact hevents.member "recent_events" (by simp)
  · have hartifacts := labelled_array (ArtifactEvidence.json source) (fun item => item.labelled)
      hartifact
    exact hartifacts.member "artifact_metadata" (by simp)

theorem ProjectDocument.labelled (document : ProjectDocument) :
    ∀ ref ∈ document.refs, (document.json source).Labelled "evidence_ref" ref := by
  intro ref href
  simp only [refs, List.mem_cons, List.mem_append] at href
  rcases href with rfl | (hentry | hrun) | hselected
  · have hproject : document.projectJson.Labelled "evidence_ref" (projectRef document.projectId) :=
      ⟨_, List.mem_cons_self, .here⟩
    exact hproject.member "project" (by simp)
  · have hknowledge : document.knowledgeJson.Labelled "evidence_ref" ref :=
      (labelled_array _ PlatformKnowledgeEntry.labelled hentry).member "matched_entries" (by simp)
    exact hknowledge.member "platform_knowledge" (by simp)
  · have hruns := labelled_array (recentRunJson source) (fun run => recentRun_labelled run) hrun
    exact hruns.member "recent_runs" (by simp)
  · cases hrun : document.selectedRun with
    | none =>
      rw [hrun] at hselected
      cases hselected
    | some selected =>
      rw [hrun] at hselected
      have hlabel : (selected.json source).Labelled "evidence_ref" ref :=
        selected.labelled ref hselected
      exact hlabel.member "selected_run" (by simp [hrun])

/-! ### The loops -/

theorem RunTurn.flagged {document document' : RunDocument} (h : RunTurn document document') :
    document'.evidenceTruncated = true := by
  cases h with
  | event _ => rfl
  | artifact _ _ => rfl
  | case _ _ _ => rfl

theorem ProjectTurn.flagged {document document' : ProjectDocument}
    (h : ProjectTurn document document') : document'.evidenceTruncated = true := by
  cases h with
  | catalog _ => rfl
  | entry _ => rfl
  | lastEntry _ _ _ _ _ => rfl
  | run _ => rfl
  | selected _ _ _ _ => rfl

/-- The flag of a loop is the flag in its document. -/
theorem runFlag_kept (shrunk shrunk' : Shrunk RunDocument)
    (_ : shrunk.2.evidenceTruncated = shrunk.1) (h : runShrinker.step shrunk = some shrunk') :
    shrunk'.2.evidenceTruncated = shrunk'.1 := by
  obtain ⟨hflag, hturn⟩ := dropFromRun_turn h
  rw [hflag, hturn.flagged]

theorem projectFlag_kept (shrunk shrunk' : Shrunk ProjectDocument)
    (_ : shrunk.2.evidenceTruncated = shrunk.1) (h : projectShrinker.step shrunk = some shrunk') :
    shrunk'.2.evidenceTruncated = shrunk'.1 := by
  obtain ⟨hflag, hturn⟩ := dropFromProject_turn h
  rw [hflag, hturn.flagged]

theorem RunDocument.flag (document : RunDocument) :
    (membersOf (document.json source)).lookup "evidence_truncated" =
      some (.bool document.evidenceTruncated) := by
  simp [json, membersOf, List.lookup]

theorem ProjectDocument.flag (document : ProjectDocument) :
    (membersOf (document.json source)).lookup "evidence_truncated" =
      some (.bool document.evidenceTruncated) := by
  simp [json, membersOf, List.lookup]

/-- What is accepted cites only what is visible, if all references are. -/
theorem cited_visible {serialized : Text} {refs : List String}
    (hvisible : ∀ ref ∈ refs, Visible serialized ref) (u : CharClasses)
    (output sanitized : ModelOutput) (hvalid : output.IsValid)
    (h : output.sanitize u (refs.map String.toList) = .ok sanitized) :
    ∀ ref ∈ sanitized.cited, Visible serialized (String.ofList ref) := by
  intro ref href
  obtain ⟨text, htext, rfl⟩ := List.mem_map.mp (cited_sanitize hvalid h ref href)
  rw [String.ofList_toList]
  exact hvisible text htext

/-- A document whose text fits, whose flag is that of its loop and whose references are in it. -/
theorem isPack_of_document {json : δ → Json} {document : δ} {refs : List String} {count : Nat}
    {truncated : Bool} (hfits : ((json document).canonical.length : Int) ≤ maxChars)
    (hflag : (membersOf (json document)).lookup "evidence_truncated" = some (.bool truncated))
    (hrefs : ∀ ref ∈ refs, (json document).Labelled "evidence_ref" ref) :
    IsPack maxChars json ⟨document, (json document).canonical, refs, count, truncated⟩ :=
  have hvisible : ∀ ref ∈ refs, Visible (json document).canonical ref :=
    fun ref href => visible_of_labelled (hrefs ref href)
  ⟨rfl, hfits, hflag, hvisible, cited_visible hvisible⟩

theorem buildRunEvidence_pack (run : TestRunRecord) (cases : List RunCaseRecord)
    (events : List RunEventRecord) (artifacts : List ArtifactRecord) :
    Delivers (buildRunEvidence source run cases events artifacts maxChars)
      (IsPack maxChars (RunDocument.json source)) := by
  rw [buildRunEvidence]
  have hselected : (selectEvidence source run cases events artifacts).2.evidenceTruncated =
    (selectEvidence source run cases events artifacts).1 := rfl
  generalize selectEvidence source run cases events artifacts = shrunk at hselected ⊢
  cases hshrink : runShrinker.shrink (runFits source maxChars) shrunk with
  | none => exact ⟨_, rfl⟩
  | some shrunk' =>
    obtain ⟨truncated, document⟩ := shrunk'
    obtain ⟨hfits, hflag⟩ := Shrinker.shrink_spec runFlag_kept hselected hshrink
    rw [runFits, decide_eq_true_eq] at hfits
    obtain rfl : document.evidenceTruncated = truncated := hflag
    exact isPack_of_document hfits document.flag document.labelled

theorem buildProjectChatEvidence_pack (projectId : UUID) (runs : List TestRunRecord)
    (selectedRun : Option (BuiltRun source)) (knowledgeQuery : String) :
    Delivers (buildProjectChatEvidence source knowledge projectId runs
        (selectedRun.map BuiltRun.pack) knowledgeQuery maxChars)
      (IsPack maxChars (ProjectDocument.json source)) := by
  rw [buildProjectChatEvidence]
  generalize selectedRun.map BuiltRun.pack = selectedPack
  have hselected : (selectProjectEvidence source knowledge projectId runs selectedPack
      knowledgeQuery).2.evidenceTruncated =
    (selectProjectEvidence source knowledge projectId runs selectedPack knowledgeQuery).1 := rfl
  generalize selectProjectEvidence source knowledge projectId runs selectedPack knowledgeQuery =
    shrunk at hselected ⊢
  cases hshrink : projectShrinker.shrink (projectFits source maxChars) shrunk with
  | none => exact ⟨_, rfl⟩
  | some shrunk' =>
    obtain ⟨truncated, document⟩ := shrunk'
    obtain ⟨hfits, hflag⟩ := Shrinker.shrink_spec projectFlag_kept hselected hshrink
    rw [projectFits, decide_eq_true_eq] at hfits
    obtain rfl : document.evidenceTruncated = truncated := hflag
    exact isPack_of_document hfits document.flag document.labelled

/-- What is read from the text of a selected run is the document that its pack carries. -/
theorem BuiltRun.reread (built : BuiltRun source) :
    Json.parse built.pack.serialized = some (built.pack.document.json source).sortKeys := by
  have hpack := @buildRunEvidence_pack source built.maxChars built.run built.cases built.events
    built.artifacts
  rw [built.built] at hpack
  rw [hpack.canonical]
  exact Json.parse_canonical _

/-- Whatever the rows, the question and the limit: the evidence is refused as too large, or its text
    is within the limit, is flagged as its pack is, and shows everything that an answer may cite. -/
theorem evidence_shown (source : Source) (knowledge : PlatformKnowledge) (maxChars : Int) :
    (∀ run cases events artifacts,
      Delivers (buildRunEvidence source run cases events artifacts maxChars)
        (IsPack maxChars (RunDocument.json source))) ∧
    ∀ projectId runs (selectedRun : Option (BuiltRun source)) knowledgeQuery,
      Delivers (buildProjectChatEvidence source knowledge projectId runs
          (selectedRun.map BuiltRun.pack) knowledgeQuery maxChars)
        (IsPack maxChars (ProjectDocument.json source)) :=
  ⟨buildRunEvidence_pack, buildProjectChatEvidence_pack⟩

end TestOps.Evidence

import TestOps.Invariants.AiContext

/-! What the model has answered, after it has been rewritten. It is validated before that, and partly
    again:

      analysis   summary ───────── redacted ──▸ copied
                 causes ────────── redacted ──▸ validated
                 recommendations ─ redacted ──▸ copied
      chat       answer ────────── shortened ─▸ copied
                 sections ──────── shortened ─▸ validated

    Redaction may lengthen a text beyond its limit, and of markers alone nothing is left. -/

namespace TestOps

open Checked Regex

variable {u : CharClasses} {text : Text} {maxLength : Nat} {allowedRefs : List Text}
  {analysis : AiRunAnalysisContent} {content : AiProjectChatContent} {α : Type}

/-! ### Outputs of the model -/

inductive ModelOutput
  | analysis (content : AiRunAnalysisContent)
  | chat (content : AiProjectChatContent)
  deriving DecidableEq

namespace ModelOutput

/-- The schema, under which texts lose the blanks at their ends. -/
def validate : ModelOutput → Except ChatError ModelOutput
  | .analysis content => do return .analysis (← aiRunAnalysisContent content)
  | .chat content => do return .chat (← aiProjectChatContent content)

def sanitize (u : CharClasses) (allowedRefs : List Text) :
    ModelOutput → Except ChatError ModelOutput
  | .analysis content => do return .analysis (← sanitizeAndValidateAnalysis u content allowedRefs)
  | .chat content => do return .chat (← sanitizeAndValidateChat u content allowedRefs)

def cited : ModelOutput → List Text
  | .analysis content => content.probableCauses.flatMap (·.evidenceRefs)
  | .chat content => content.evidenceRefs

/-- All constraints of the schema hold: it takes the output as it is. -/
def IsValid (output : ModelOutput) : Prop := output.validate = .ok output

/-- What comes out is valid and cites only what was supplied, or the output is refused. -/
def Meets (u : CharClasses) (allowedRefs : List Text) (output : ModelOutput) : Prop :=
  match output.sanitize u allowedRefs with
  | .ok sanitized => sanitized.IsValid ∧ ∀ ref ∈ sanitized.cited, ref ∈ allowedRefs
  | .error e => ∃ message, e = .aiAnalysisError message

theorem isValid_analysis :
    (ModelOutput.analysis analysis).IsValid ↔ aiRunAnalysisContent analysis = .ok analysis := by
  simp only [IsValid, validate, bind_eq_ok, pure_eq_ok, ModelOutput.analysis.injEq,
    exists_eq_right]

theorem isValid_chat :
    (chat content).IsValid ↔ aiProjectChatContent content = .ok content := by
  simp only [IsValid, validate, bind_eq_ok, pure_eq_ok, chat.injEq, exists_eq_right]

end ModelOutput

/-- What the matches in a text are replaced by still fits into its limit. -/
def FitsRedacted (u : CharClasses) (maxLength : Nat) (text : Text) : Prop :=
  (text.length : Int) + redactionGrowth (redactions u) text ≤ maxLength

instance : Decidable (FitsRedacted u maxLength text) := Int.decLe _ _

/-- The texts of an analysis fit in, and of an answer something is left. -/
def ModelOutput.Sanitizable (u : CharClasses) : ModelOutput → Prop
  | .analysis content =>
    FitsRedacted u 2000 content.summary ∧
      (∀ cause ∈ content.probableCauses,
        FitsRedacted u 120 cause.title ∧ FitsRedacted u 1000 cause.detail) ∧
      (∀ item ∈ content.recommendations, FitsRedacted u 500 item) ∧
      ∀ item ∈ content.missingEvidence, FitsRedacted u 500 item
  | .chat content => ¬MarkersOnly content.answer

/-! ### Valid texts -/

/-- A text that the schema leaves as it is. -/
def IsBounded (maxLength : Nat) (text : Text) : Prop :=
  Tight isWhiteSpace text ∧ text.length ≤ maxLength

theorem boundedString_eq_self :
    boundedString maxLength text = .ok text ↔ IsBounded maxLength text := by
  rw [boundedString_ok]
  constructor
  · rintro ⟨hstrip, hpositive, hlength⟩
    have hne : strip isWhiteSpace text ≠ [] := hstrip ▸ List.ne_nil_of_length_pos hpositive
    exact ⟨hstrip ▸ tight_strip hne, hlength⟩
  · rintro ⟨htight, hlength⟩
    obtain ⟨a, ha, -⟩ := htight.1
    exact ⟨htight.strip_eq.symm, List.length_pos_of_mem (List.mem_of_mem_head? ha), hlength⟩

theorem mapM_eq_self {f : α → Except ChatError α} {xs : List α} :
    xs.mapM f = .ok xs ↔ ∀ x ∈ xs, f x = .ok x := by
  induction xs with
  | nil => exact ⟨fun _ x hx => absurd hx List.not_mem_nil, fun _ => rfl⟩
  | cons x xs ih =>
    simp only [List.mapM_cons, bind_eq_ok, pure_eq_ok, List.forall_mem_cons, ← ih]
    constructor
    · rintro ⟨y, hy, ys, hys, heq⟩
      obtain ⟨rfl, rfl⟩ := List.cons.inj heq
      exact ⟨hy, hys⟩
    · rintro ⟨hx, hxs⟩
      exact ⟨x, hx, xs, hxs, rfl⟩

theorem mapM_boundedString {texts : List Text} :
    texts.mapM (boundedString maxLength) = .ok texts ↔ ∀ text ∈ texts, IsBounded maxLength text :=
  mapM_eq_self.trans (forall₂_congr fun _ _ => boundedString_eq_self)

theorem boundedString_of_tight (h : Tight isWhiteSpace text) : boundedString maxLength text =
    if text.length ≤ maxLength then .ok text else .error .validationError := by
  by_cases hlength : text.length ≤ maxLength
  · rw [if_pos hlength]
    exact boundedString_eq_self.mpr ⟨h, hlength⟩
  · have hstrip : ¬(1 ≤ (strip isWhiteSpace text).length ∧
        (strip isWhiteSpace text).length ≤ maxLength) := by
      rw [h.strip_eq]
      omega
    rw [if_neg hlength, boundedString, ensure_false hstrip]
    rfl

/-- A text that was valid still is after its redaction, if it fits in. -/
theorem boundedString_redactText (h : Tight isWhiteSpace text) :
    boundedString maxLength (redactText u text) =
      if FitsRedacted u maxLength text then .ok (redactText u text)
      else .error .validationError := by
  have hfits : (redactText u text).length ≤ maxLength ↔ FitsRedacted u maxLength text := by
    rw [FitsRedacted, ← length_redactText]
    omega
  rw [boundedString_of_tight (tight_redactText h)]
  exact if_congr hfits rfl rfl

theorem isBounded_redactText (h : Tight isWhiteSpace text) :
    IsBounded maxLength (redactText u text) ↔ FitsRedacted u maxLength text := by
  rw [← boundedString_eq_self, boundedString_redactText h]
  by_cases hfits : FitsRedacted u maxLength text
  · simp [hfits]
  · simp [hfits]

theorem isBounded_map_redactText {texts : List Text} {limit : Nat}
    (h : ∀ text ∈ texts, IsBounded limit text) :
    (∀ text ∈ texts.map (redactText u), IsBounded maxLength text) ↔
      ∀ text ∈ texts, FitsRedacted u maxLength text := by
  rw [List.forall_mem_map]
  exact forall₂_congr fun text htext => isBounded_redactText (h text htext).1

/-! ### Analyses -/

theorem aiProbableCause_eq_self {cause : AiProbableCause} :
    aiProbableCause cause = .ok cause ↔ IsBounded 120 cause.title ∧ IsBounded 1000 cause.detail ∧
      (0 ≤ cause.confidence ∧ cause.confidence ≤ 1) ∧
      (∀ ref ∈ cause.evidenceRefs, IsBounded 160 ref) ∧ cause.evidenceRefs.length ≤ 8 := by
  obtain ⟨title, detail, category, confidence, refs⟩ := cause
  simp only [aiProbableCause, bind_eq_ok, ensure_eq_ok, pure_eq_ok]
  constructor
  · rintro ⟨title', htitle, detail', hdetail, -, hconfidence, refs', hrefs, -, hcount, heq⟩
    cases heq
    exact ⟨boundedString_eq_self.mp htitle, boundedString_eq_self.mp hdetail, hconfidence,
      mapM_boundedString.mp hrefs, hcount⟩
  · rintro ⟨htitle, hdetail, hconfidence, hrefs, hcount⟩
    exact ⟨_, boundedString_eq_self.mpr htitle, _, boundedString_eq_self.mpr hdetail, (),
      hconfidence, _, mapM_boundedString.mpr hrefs, (), hcount, rfl⟩

/-- A valid cause, redacted and validated again. -/
theorem aiProbableCause_redactCause {cause : AiProbableCause}
    (h : aiProbableCause cause = .ok cause) : aiProbableCause (redactCause u cause) =
      if FitsRedacted u 120 cause.title ∧ FitsRedacted u 1000 cause.detail then
        .ok (redactCause u cause)
      else .error .validationError := by
  obtain ⟨⟨htitle, -⟩, ⟨hdetail, -⟩, hconfidence, hrefs, hcount⟩ := aiProbableCause_eq_self.mp h
  by_cases hfits : FitsRedacted u 120 cause.title ∧ FitsRedacted u 1000 cause.detail
  · rw [if_pos hfits]
    exact aiProbableCause_eq_self.mpr ⟨(isBounded_redactText htitle).mpr hfits.1,
      (isBounded_redactText hdetail).mpr hfits.2, hconfidence, hrefs, hcount⟩
  · rw [if_neg hfits, aiProbableCause]
    have htitle' : boundedString 120 (redactCause u cause).title = _ :=
      boundedString_redactText htitle
    have hdetail' : boundedString 1000 (redactCause u cause).detail = _ :=
      boundedString_redactText hdetail
    rw [htitle', hdetail']
    by_cases hfirst : FitsRedacted u 120 cause.title
    · rw [if_pos hfirst, if_neg fun hsecond => hfits ⟨hfirst, hsecond⟩]
      rfl
    · rw [if_neg hfirst]
      rfl

theorem mapM_ite {β : Type} {f : α → Except ChatError β} {g : α → β} {p : α → Prop}
    [DecidablePred p] {e : ChatError} {xs : List α}
    (h : ∀ x ∈ xs, f x = if p x then .ok (g x) else .error e) :
    xs.mapM f = if ∀ x ∈ xs, p x then .ok (xs.map g) else .error e := by
  induction xs with
  | nil => rfl
  | cons x xs ih =>
    rw [List.mapM_cons, h x List.mem_cons_self, ih fun y hy => h y (List.mem_cons_of_mem _ hy)]
    by_cases hx : p x
    · by_cases hxs : ∀ y ∈ xs, p y
      · rw [if_pos hx, if_pos hxs, if_pos (List.forall_mem_cons.mpr ⟨hx, hxs⟩)]
        rfl
      · rw [if_pos hx, if_neg hxs, if_neg fun hall => hxs (List.forall_mem_cons.mp hall).2]
        rfl
    · rw [if_neg hx, if_neg fun hall => hx (List.forall_mem_cons.mp hall).1]
      rfl

theorem aiRunAnalysisContent_eq_self : aiRunAnalysisContent analysis = .ok analysis ↔
    IsBounded 2000 analysis.summary ∧ (0 ≤ analysis.confidence ∧ analysis.confidence ≤ 1) ∧
      ((∀ cause ∈ analysis.probableCauses, aiProbableCause cause = .ok cause) ∧
        analysis.probableCauses.length ≤ 8) ∧
      ((∀ item ∈ analysis.recommendations, IsBounded 500 item) ∧
        analysis.recommendations.length ≤ 8) ∧
      (∀ item ∈ analysis.missingEvidence, IsBounded 500 item) ∧
        analysis.missingEvidence.length ≤ 8 := by
  obtain ⟨summary, classification, confidence, causes, recommendations, missing⟩ := analysis
  simp only [aiRunAnalysisContent, bind_eq_ok, ensure_eq_ok, pure_eq_ok]
  constructor
  · rintro ⟨_, hsummary, -, hconfidence, _, hcauses, -, hcount, _, hrecommendations, -, hcount', _,
      hmissing, -, hcount'', heq⟩
    cases heq
    exact ⟨boundedString_eq_self.mp hsummary, hconfidence, ⟨mapM_eq_self.mp hcauses, hcount⟩,
      ⟨mapM_boundedString.mp hrecommendations, hcount'⟩, mapM_boundedString.mp hmissing, hcount''⟩
  · rintro ⟨hsummary, hconfidence, ⟨hcauses, hcount⟩, ⟨hrecommendations, hcount'⟩, hmissing,
      hcount''⟩
    exact ⟨_, boundedString_eq_self.mpr hsummary, (), hconfidence, _, mapM_eq_self.mpr hcauses, (),
      hcount, _, mapM_boundedString.mpr hrecommendations, (), hcount', _,
      mapM_boundedString.mpr hmissing, (), hcount'', rfl⟩

/-- An analysis that cites only what was supplied. -/
theorem sanitize_analysis (h : aiRunAnalysisContent analysis = .ok analysis)
    (hrefs : ∀ ref ∈ (ModelOutput.analysis analysis).cited, ref ∈ allowedRefs) :
    ModelOutput.Meets u allowedRefs (.analysis analysis) ↔
      ModelOutput.Sanitizable u (.analysis analysis) := by
  obtain ⟨⟨hsummary, -⟩, hconfidence, ⟨hcauses, hcount⟩, ⟨hrecommendations, hcount'⟩, hmissing,
    hcount''⟩ := aiRunAnalysisContent_eq_self.mp h
  have hcited : ∀ cause ∈ analysis.probableCauses, ∀ ref ∈ cause.evidenceRefs, ref ∈ allowedRefs :=
    fun cause hcause ref href => hrefs ref (List.mem_flatMap.mpr ⟨cause, hcause, href⟩)
  have hbuilt := mapM_ite (e := .validationError) (g := redactCause u) fun cause hcause =>
    aiProbableCause_redactCause (u := u) (hcauses cause hcause)
  rw [ModelOutput.Meets, ModelOutput.sanitize, sanitizeAndValidateAnalysis, ensure_true hcited,
    ok_bind, hbuilt]
  by_cases hfit : ∀ cause ∈ analysis.probableCauses,
      FitsRedacted u 120 cause.title ∧ FitsRedacted u 1000 cause.detail
  · rw [if_pos hfit]
    change ((do return ModelOutput.analysis (← aiRunAnalysisContent _)) = .ok _ ∧ _) ↔ _
    have hvalid : ∀ cause ∈ analysis.probableCauses.map (redactCause u),
        aiProbableCause cause = .ok cause := by
      rw [List.forall_mem_map]
      intro cause hcause
      rw [aiProbableCause_redactCause (hcauses cause hcause), if_pos (hfit cause hcause)]
    have hkept : ∀ ref ∈ (ModelOutput.analysis { analysis with
        summary := redactText u analysis.summary
        probableCauses := analysis.probableCauses.map (redactCause u)
        recommendations := analysis.recommendations.map (redactText u)
        missingEvidence := analysis.missingEvidence.map (redactText u) }).cited,
        ref ∈ allowedRefs := by
      intro ref href
      obtain ⟨cause', hcause', href⟩ := List.mem_flatMap.mp href
      obtain ⟨cause, hcause, rfl⟩ := List.mem_map.mp hcause'
      exact hcited cause hcause ref href
    simp only [bind_eq_ok, pure_eq_ok, ModelOutput.analysis.injEq, exists_eq_right,
      aiRunAnalysisContent_eq_self, List.length_map]
    rw [isBounded_redactText hsummary, isBounded_map_redactText hrecommendations,
      isBounded_map_redactText hmissing]
    constructor
    · rintro ⟨⟨hsummary', -, -, ⟨hrecommendations', -⟩, hmissing', -⟩, -⟩
      exact ⟨hsummary', hfit, hrecommendations', hmissing'⟩
    · rintro ⟨hsummary', -, hrecommendations', hmissing'⟩
      exact ⟨⟨hsummary', hconfidence, ⟨hvalid, hcount⟩, ⟨hrecommendations', hcount'⟩, hmissing',
        hcount''⟩, hkept⟩
  · rw [if_neg hfit]
    constructor
    · rintro ⟨message, hmessage⟩
      cases hmessage
    · rintro ⟨-, hfit', -⟩
      exact absurd hfit' hfit

/-! ### Chats -/

theorem aiProjectChatSection_eq_self {title : Text} {items : List Text} :
    aiProjectChatSection title items = .ok ⟨title, items⟩ ↔ IsBounded 120 title ∧
      (∀ item ∈ items, IsBounded 4000 item) ∧ 1 ≤ items.length ∧ items.length ≤ 20 := by
  simp only [aiProjectChatSection, bind_eq_ok, ensure_eq_ok, pure_eq_ok]
  constructor
  · rintro ⟨_, htitle, _, hitems, -, hcount, heq⟩
    cases heq
    exact ⟨boundedString_eq_self.mp htitle, mapM_boundedString.mp hitems, hcount⟩
  · rintro ⟨htitle, hitems, hcount⟩
    exact ⟨_, boundedString_eq_self.mpr htitle, _, mapM_boundedString.mpr hitems, (), hcount, rfl⟩

theorem aiProjectChatContent_eq_self : aiProjectChatContent content = .ok content ↔
    IsBounded 4000 content.answer ∧
      ((∀ part ∈ content.sections, aiProjectChatSection part.title part.items = .ok part) ∧
        1 ≤ content.sections.length ∧ content.sections.length ≤ 12) ∧
      ((∀ ref ∈ content.evidenceRefs, IsBounded 160 ref) ∧ content.evidenceRefs.length ≤ 128) ∧
      (∀ item ∈ content.suggestedQuestions, IsBounded 500 item) ∧
        content.suggestedQuestions.length ≤ 12 := by
  obtain ⟨answer, sections, refs, questions⟩ := content
  simp only [aiProjectChatContent, bind_eq_ok, ensure_eq_ok, pure_eq_ok]
  constructor
  · rintro ⟨_, hanswer, _, hsections, -, hcount, _, hrefs, -, hcount', _, hquestions, -, hcount'',
      heq⟩
    cases heq
    exact ⟨boundedString_eq_self.mp hanswer, ⟨mapM_eq_self.mp hsections, hcount⟩,
      ⟨mapM_boundedString.mp hrefs, hcount'⟩, mapM_boundedString.mp hquestions, hcount''⟩
  · rintro ⟨hanswer, ⟨hsections, hcount⟩, ⟨hrefs, hcount'⟩, hquestions, hcount''⟩
    exact ⟨_, boundedString_eq_self.mpr hanswer, _, mapM_eq_self.mpr hsections, (), hcount, _,
      mapM_boundedString.mpr hrefs, (), hcount', _, mapM_boundedString.mpr hquestions, (),
      hcount'', rfl⟩

theorem isBounded_boundedChatText {limit : Nat} (hpositive : 1 ≤ maxLength)
    (hlimit : maxLength ≤ limit) (h : boundedChatText u text maxLength ≠ []) :
    IsBounded limit (boundedChatText u text maxLength) := by
  obtain ⟨htight, hlength⟩ := tight_boundedChatText hpositive h
  exact ⟨htight, by omega⟩

/-- A section is built from what is left of its items, and always can be. -/
theorem exists_sanitizeSection (part : AiProjectChatSection) :
    ∃ kept, sanitizeSection u part = .ok kept ∧ kept.length ≤ 1 ∧
      ∀ part' ∈ kept, aiProjectChatSection part'.title part'.items = .ok part' := by
  rw [sanitizeSection]
  generalize htitle : (if boundedChatText u part.title 48 = [] then "分析详情".toList
    else boundedChatText u part.title 48) = title
  generalize hitems : ((part.items.take 6).map fun item => boundedChatText u item 1000).filter
    (· ≠ []) = items
  have htitle' : IsBounded 120 title := by
    rw [← htitle]
    by_cases hnil : boundedChatText u part.title 48 = []
    · rw [if_pos hnil]
      exact boundedString_eq_self.mp (ok_of_toOption (by decide))
    · rw [if_neg hnil]
      exact isBounded_boundedChatText (by decide) (by decide) hnil
  have hitems' : ∀ item ∈ items, IsBounded 4000 item := by
    intro item hitem
    rw [← hitems, List.mem_filter] at hitem
    obtain ⟨hitem, hne⟩ := hitem
    obtain ⟨raw, -, rfl⟩ := List.mem_map.mp hitem
    exact isBounded_boundedChatText (by decide) (by decide) (by simpa using hne)
  have hcount : items.length ≤ 6 := by
    rw [← hitems]
    refine (List.length_filter_le _ _).trans ?_
    rw [List.length_map, List.length_take]
    exact min_le_left _ _
  by_cases hnone : items = []
  · rw [if_pos hnone]
    exact ⟨[], rfl, by simp, by simp⟩
  · rw [if_neg hnone]
    have hpositive := List.length_pos_iff.mpr hnone
    have hbuilt := aiProjectChatSection_eq_self.mpr ⟨htitle', hitems', hpositive, by omega⟩
    rw [hbuilt]
    refine ⟨[⟨title, items⟩], rfl, by simp, fun part' hpart' => ?_⟩
    rw [List.mem_singleton.mp hpart']
    exact hbuilt

theorem exists_sanitizeSections (parts : List AiProjectChatSection) :
    ∃ kept, parts.mapM (sanitizeSection u) = .ok kept ∧ kept.flatten.length ≤ parts.length ∧
      ∀ part ∈ kept.flatten, aiProjectChatSection part.title part.items = .ok part := by
  induction parts with
  | nil => exact ⟨[], rfl, by simp, by simp⟩
  | cons part parts ih =>
    obtain ⟨first, hfirst, hone, hvalid⟩ := exists_sanitizeSection (u := u) part
    obtain ⟨kept, hkept, hcount, hvalid'⟩ := ih
    refine ⟨first :: kept, ?_, ?_, ?_⟩
    · rw [List.mapM_cons, hfirst, hkept]
      rfl
    · rw [List.flatten_cons, List.length_append, List.length_cons]
      omega
    · intro part' hpart'
      rw [List.flatten_cons, List.mem_append] at hpart'
      rcases hpart' with hpart' | hpart'
      · exact hvalid part' hpart'
      · exact hvalid' part' hpart'

theorem not_isBounded_nil : ¬IsBounded maxLength [] := fun h => absurd h.1.1 (by simp)

/-- What is returned, with these sections. -/
def sanitizedChat (u : CharClasses) (content : AiProjectChatContent)
    (sections : List AiProjectChatSection) : AiProjectChatContent :=
  ⟨boundedChatText u content.answer 500, sections, content.evidenceRefs.eraseDups.take 12,
    (((content.suggestedQuestions.take 12).map fun item =>
      boundedChatText u item 160).filter (· ≠ [])).eraseDups.take 4⟩

/-- It is valid, if anything is left of its answer. -/
theorem aiProjectChatContent_sanitized {sections : List AiProjectChatSection}
    (h : aiProjectChatContent content = .ok content)
    (hsections : ∀ part ∈ sections, aiProjectChatSection part.title part.items = .ok part)
    (hcount : 1 ≤ sections.length ∧ sections.length ≤ 12) :
    aiProjectChatContent (sanitizedChat u content sections) =
        .ok (sanitizedChat u content sections) ↔
      boundedChatText u content.answer 500 ≠ [] := by
  obtain ⟨-, -, ⟨hrefs, -⟩, -⟩ := aiProjectChatContent_eq_self.mp h
  have hrefs' : ∀ ref ∈ content.evidenceRefs.eraseDups.take 12, IsBounded 160 ref :=
    fun ref href => hrefs ref (List.mem_eraseDups.mp (List.mem_of_mem_take href))
  have hquestions : ∀ item ∈ ((((content.suggestedQuestions.take 12).map fun item =>
      boundedChatText u item 160).filter (· ≠ [])).eraseDups.take 4), IsBounded 500 item := by
    intro item hitem
    obtain ⟨hmem, hne⟩ := List.mem_filter.mp (List.mem_eraseDups.mp (List.mem_of_mem_take hitem))
    obtain ⟨raw, -, rfl⟩ := List.mem_map.mp hmem
    exact isBounded_boundedChatText (by decide) (by decide) (by simpa using hne)
  simp only [aiProjectChatContent_eq_self, sanitizedChat]
  constructor
  · rintro ⟨hanswer, -⟩ hnil
    rw [hnil] at hanswer
    exact not_isBounded_nil hanswer
  · intro hne
    have hanswer : IsBounded 4000 (boundedChatText u content.answer 500) :=
      isBounded_boundedChatText (by decide) (by decide) hne
    have hfew : (content.evidenceRefs.eraseDups.take 12).length ≤ 12 := List.length_take_le _ _
    exact ⟨hanswer, ⟨hsections, hcount⟩, ⟨hrefs', by omega⟩, hquestions,
      (List.length_take_le _ _).trans (by decide)⟩

/-- A chat that cites only what was supplied is refused, or sanitized with valid sections, or nothing
    is left of its answer and the section for it cannot be built. -/
theorem sanitizeAndValidateChat_cases
    (hrefs : ∀ ref ∈ content.evidenceRefs, ref ∈ allowedRefs) :
    (∃ message, sanitizeAndValidateChat u content allowedRefs = .error (.aiAnalysisError message) ∧
      boundedChatText u content.answer 500 ≠ []) ∨
    (∃ sections, (∀ part ∈ sections, aiProjectChatSection part.title part.items = .ok part) ∧
      (1 ≤ sections.length ∧ sections.length ≤ 12) ∧
      sanitizeAndValidateChat u content allowedRefs = .ok (sanitizedChat u content sections)) ∨
    (sanitizeAndValidateChat u content allowedRefs = .error .validationError ∧
      boundedChatText u content.answer 500 = []) := by
  obtain ⟨kept, hkept, hcount, hsections⟩ :=
    exists_sanitizeSections (u := u) (content.sections.take 5)
  rw [List.length_take] at hcount
  simp only [sanitizeAndValidateChat, ensure_true hrefs, ok_bind, hkept]
  by_cases hincomplete : chatAnswerIsIncomplete (boundedChatText u content.answer 500) = true
  · left
    rw [ensure_false (by simp [hincomplete])]
    refine ⟨_, rfl, fun hnil => ?_⟩
    rw [hnil] at hincomplete
    exact absurd hincomplete (by decide)
  · right
    rw [ensure_true (by simp [hincomplete]), ok_bind]
    by_cases hnone : kept.flatten = []
    · rw [if_pos hnone]
      by_cases hnil : boundedChatText u content.answer 500 = []
      · right
        rw [hnil]
        exact ⟨rfl, rfl⟩
      · left
        have hfallback : aiProjectChatSection "分析结果".toList
            [boundedChatText u content.answer 500] = .ok ⟨_, _⟩ :=
          aiProjectChatSection_eq_self.mpr
            ⟨boundedString_eq_self.mp (ok_of_toOption (by decide)),
              by simpa using isBounded_boundedChatText (by decide) (by decide) hnil, by simp⟩
        rw [hfallback]
        exact ⟨[⟨_, _⟩], by simpa using hfallback, by simp, rfl⟩
    · left
      rw [if_neg hnone]
      have hpositive := List.length_pos_iff.mpr hnone
      exact ⟨kept.flatten, hsections, by omega, rfl⟩

theorem sanitize_chat (h : aiProjectChatContent content = .ok content)
    (hrefs : ∀ ref ∈ content.evidenceRefs, ref ∈ allowedRefs) :
    ModelOutput.Meets u allowedRefs (.chat content) ↔
      ModelOutput.Sanitizable u (.chat content) := by
  have hmarkers : boundedChatText u content.answer 500 = [] ↔ MarkersOnly content.answer :=
    boundedChatText_eq_nil
  rw [ModelOutput.Meets, ModelOutput.sanitize, ModelOutput.Sanitizable, ← hmarkers]
  rcases sanitizeAndValidateChat_cases (u := u) hrefs with ⟨message, herror, hne⟩ |
    ⟨sections, hsections, hcount, hok⟩ | ⟨herror, hnil⟩
  · rw [herror]
    exact ⟨fun _ => hne, fun _ => ⟨message, rfl⟩⟩
  · rw [hok]
    have hvalid := aiProjectChatContent_sanitized (u := u) h hsections hcount
    rw [← ne_eq, ← hvalid]
    constructor
    · rintro ⟨hsame, -⟩
      exact ModelOutput.isValid_chat.mp hsame
    · intro hsame
      exact ⟨ModelOutput.isValid_chat.mpr hsame, fun ref href =>
        hrefs ref (List.mem_eraseDups.mp (List.mem_of_mem_take href))⟩
  · rw [herror]
    constructor
    · rintro ⟨message, hmessage⟩
      cases hmessage
    · exact fun hne => absurd hnil hne

/-! ### Both -/

/-- An output of the model is refused, or what comes out of it is valid and cites only what was
    supplied, if and only if it cites something else itself, or its texts still fit in after
    redaction and something is left of its answer. -/
theorem sanitized_iff {output : ModelOutput} (h : output.IsValid) :
    output.Meets u allowedRefs ↔
      (∃ ref ∈ output.cited, ref ∉ allowedRefs) ∨ output.Sanitizable u := by
  by_cases hrefs : ∀ ref ∈ output.cited, ref ∈ allowedRefs
  · have hnone : ¬∃ ref ∈ output.cited, ref ∉ allowedRefs := by
      rintro ⟨ref, href, hnot⟩
      exact hnot (hrefs ref href)
    rw [or_iff_right hnone]
    cases output with
    | analysis content => exact sanitize_analysis (ModelOutput.isValid_analysis.mp h) hrefs
    | chat content => exact sanitize_chat (ModelOutput.isValid_chat.mp h) hrefs
  · have hsome : ∃ ref ∈ output.cited, ref ∉ allowedRefs := by
      push Not at hrefs
      exact hrefs
    refine ⟨fun _ => .inl hsome, fun _ => ?_⟩
    cases output with
    | analysis content =>
      have hcited : ¬∀ cause ∈ content.probableCauses, ∀ ref ∈ cause.evidenceRefs,
          ref ∈ allowedRefs := by
        intro hall
        refine hrefs fun ref href => ?_
        obtain ⟨cause, hcause, href⟩ := List.mem_flatMap.mp href
        exact hall cause hcause ref href
      rw [ModelOutput.Meets, ModelOutput.sanitize, sanitizeAndValidateAnalysis,
        ensure_false hcited]
      exact ⟨_, rfl⟩
    | chat content =>
      have hcited : ¬∀ ref ∈ content.evidenceRefs, ref ∈ allowedRefs := hrefs
      rw [ModelOutput.Meets, ModelOutput.sanitize, sanitizeAndValidateChat, ensure_false hcited]
      exact ⟨_, rfl⟩

/-- What is accepted cites only what was supplied. -/
theorem cited_sanitize {output sanitized : ModelOutput} (hvalid : output.IsValid)
    (h : output.sanitize u allowedRefs = .ok sanitized) :
    ∀ ref ∈ sanitized.cited, ref ∈ allowedRefs := by
  cases output with
  | analysis content =>
    obtain ⟨-, -, ⟨hcauses, -⟩, -⟩ :=
      aiRunAnalysisContent_eq_self.mp (ModelOutput.isValid_analysis.mp hvalid)
    simp only [ModelOutput.sanitize, sanitizeAndValidateAnalysis, bind_eq_ok, ensure_eq_ok,
      pure_eq_ok] at h
    obtain ⟨_, ⟨-, hcited, causes, hbuilt, rfl⟩, rfl⟩ := h
    rw [mapM_ite (e := .validationError) (g := redactCause u) fun cause hcause =>
      aiProbableCause_redactCause (u := u) (hcauses cause hcause)] at hbuilt
    split at hbuilt
    · cases hbuilt
      intro ref href
      obtain ⟨cause', hcause', href⟩ := List.mem_flatMap.mp href
      obtain ⟨cause, hcause, rfl⟩ := List.mem_map.mp hcause'
      exact hcited cause hcause ref href
    · cases hbuilt
  | chat content =>
    simp only [ModelOutput.sanitize, bind_eq_ok, pure_eq_ok] at h
    obtain ⟨kept, hkept, rfl⟩ := h
    have hrefs : ∀ ref ∈ content.evidenceRefs, ref ∈ allowedRefs := by
      by_contra hnot
      rw [sanitizeAndValidateChat, ensure_false hnot] at hkept
      cases hkept
    rcases sanitizeAndValidateChat_cases (u := u) hrefs with ⟨message, herror, -⟩ |
      ⟨sections, -, -, hok⟩ | ⟨herror, -⟩
    · rw [herror] at hkept
      cases hkept
    · rw [hok] at hkept
      cases hkept
      exact fun ref href => hrefs ref (List.mem_eraseDups.mp (List.mem_of_mem_take href))
    · rw [herror] at hkept
      cases hkept

namespace ModelOutput

def caseRef : Text := "case:TC-LOGIN-001".toList

def chatAnswer (answer : String) : AiProjectChatContent :=
  ⟨answer.toList, [⟨"Facts".toList, ["The page took 40 s".toList]⟩], [caseRef], []⟩

/-- A title of 120 characters, with an address at its end. -/
def longTitle : Text := List.replicate 113 '!' ++ " a@b.co".toList

def titledAnalysis : AiRunAnalysisContent :=
  ⟨"A timeout".toList, .environment, 1 / 2,
    [⟨longTitle, "The page took 40 s".toList, .environment, 1 / 2, [caseRef]⟩], [], []⟩

end ModelOutput

open ModelOutput Installation in
theorem chatAnswer_sanitized : (ModelOutput.chat (chatAnswer "**A timeout**")).IsValid ∧
    (ModelOutput.chat (chatAnswer "**A timeout**")).Meets asciiClasses [caseRef] := by
  have h : (ModelOutput.chat (chatAnswer "**A timeout**")).IsValid := by
    apply isValid_chat.mpr
    apply ok_of_toOption
    decide
  have hleft : (ModelOutput.chat (chatAnswer "**A timeout**")).Sanitizable asciiClasses := by
    rw [Sanitizable, chatAnswer]
    decide
  have hiff := @sanitized_iff asciiClasses [caseRef] _ h
  exact ⟨h, hiff.mpr (.inr hleft)⟩

open ModelOutput Installation in
/-- Of an answer of four stars nothing is left; a title grows to 130 characters. -/
theorem sanitized_invalid :
    ((ModelOutput.chat (chatAnswer "****")).IsValid ∧
        ¬(ModelOutput.chat (chatAnswer "****")).Meets asciiClasses [caseRef]) ∧
      (ModelOutput.analysis titledAnalysis).IsValid ∧
        ¬(ModelOutput.analysis titledAnalysis).Meets asciiClasses [caseRef] := by
  constructor
  · have hchat : aiProjectChatContent (chatAnswer "****") = .ok (chatAnswer "****") := by
      apply ok_of_toOption
      decide
    have hmarkers : MarkersOnly (chatAnswer "****").answer := by
      rw [chatAnswer]
      decide +kernel
    have hrefs : (chatAnswer "****").evidenceRefs = [caseRef] := rfl
    generalize chatAnswer "****" = content at *
    refine ⟨isValid_chat.mpr hchat, fun hmeets => ?_⟩
    exact (sanitize_chat hchat (by simp [hrefs])).mp hmeets hmarkers
  · have hanalysis : aiRunAnalysisContent titledAnalysis = .ok titledAnalysis := by
      apply ok_of_toOption
      decide +kernel
    have htitle : ¬FitsRedacted asciiClasses 120 longTitle := by decide +kernel
    have hcauses : titledAnalysis.probableCauses.map
        (fun cause => (cause.title, cause.evidenceRefs)) = [(longTitle, [caseRef])] := rfl
    generalize titledAnalysis = analysis at *
    generalize longTitle = title at *
    obtain ⟨cause, hcause, hpair⟩ := List.map_eq_singleton_iff.mp hcauses
    obtain ⟨rfl, hrefs⟩ := Prod.mk.inj hpair
    refine ⟨isValid_analysis.mpr hanalysis, fun hmeets => ?_⟩
    have hcited : ∀ ref ∈ (ModelOutput.analysis analysis).cited, ref ∈ [caseRef] := by
      simp [cited, hcause, hrefs]
    have hfit := (sanitize_analysis hanalysis hcited).mp hmeets
    exact htitle (hfit.2.1 cause (by simp [hcause])).1

end TestOps

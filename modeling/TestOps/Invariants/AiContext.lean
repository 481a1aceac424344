import TestOps.ControlPlane.AiRoutes
import TestOps.Invariants.AiChats

/-! A conversation stays readable as long as every text it stores is a valid turn. Redaction may
    lengthen a question beyond the limit that its message has met, and of an answer that consists of
    markers nothing is left:

      "!!…! a@b.co"  1997 characters  ──▸  "!!…! [REDACTED_EMAIL]"  2007 characters
      "****"         4 characters     ──▸  ""                       -/

namespace TestOps

open Checked Relational Transition Regex

variable {u : CharClasses} {text : Text} {pass : Redaction} {c c' : Cursor Char} {maxLength : Nat}
  {s s' : ChatState} {a : ChatRouteAction}

theorem boundedString_ok {stored : Text} :
    boundedString maxLength text = .ok stored ↔ stored = strip isWhiteSpace text ∧
      1 ≤ stored.length ∧ stored.length ≤ maxLength := by
  simp only [boundedString, bind_eq_ok, ensure_eq_ok, pure_eq_ok]
  constructor
  · rintro ⟨-, hlength, rfl⟩
    exact ⟨rfl, hlength⟩
  · rintro ⟨rfl, hlength⟩
    exact ⟨(), hlength, rfl⟩

theorem isSpace_of_isWhiteSpace {a : Char} (h : isSpace a = false) : isWhiteSpace a = false := by
  simp [isWhiteSpace, h]

/-! ### Redaction -/

/-- The replacements of a pass begin and end with something visible, and contain a letter. -/
structure Redaction.Visible (pass : Redaction) : Prop where
  first : ∀ c c', c' ∈ results pass.pattern c → ∃ a ∈ (pass.replacement c').head?,
    isWhiteSpace a = false
  last : ∀ c, (pass.replacement c).getLast? = some ']'
  letter : ∀ c, 'R' ∈ pass.replacement c

/-- Neither blank nor part of a marker. -/
def IsContent (a : Char) : Prop := ¬(isSpace a = true ∨ a = '*' ∨ a = '_')

theorem wordIgnoringCase_proper {letter : Char} {letters : Text} :
    (wordIgnoringCase (letter :: letters)).Proper := .inl trivial

theorem wordIgnoringCase_plain {letters : Text} : (wordIgnoringCase letters).Plain := by
  induction letters with
  | nil => exact trivial
  | cons letter letters ih => exact ⟨trivial, ih⟩

theorem ignoringCase_toNat {letter a : Char} (hletter : letter.isLower = true)
    (h : ignoringCase letter a = true) :
    65 ≤ a.toNat ∧ a.toNat ≤ 90 ∨ 97 ≤ a.toNat ∧ a.toNat ≤ 122 ∨
      0x130 ≤ a.toNat ∧ a.toNat ≤ 0x17F ∨ a.toNat = 0x212A := by
  simp only [ignoringCase, decide_eq_true_eq, Bool.decide_or, Bool.or_eq_true] at h
  rcases h with rfl | hfolds
  · by_cases hupper : a.val ≥ 'A'.val ∧ a.val ≤ 'Z'.val
    · exact .inl hupper
    · rw [Char.toLower, dif_neg hupper, Char.isLower, Bool.and_eq_true, decide_eq_true_eq,
        decide_eq_true_eq] at hletter
      exact .inr (.inl hletter)
  · unfold foldsTo at hfolds
    split at hfolds
    · simp only [Bool.decide_or, Bool.or_eq_true, decide_eq_true_eq] at hfolds
      rcases hfolds with rfl | rfl <;> decide
    · simp only [decide_eq_true_eq] at hfolds
      omega
    · simp only [decide_eq_true_eq] at hfolds
      subst hfolds
      decide
    · cases hfolds

/-- A letter in any case is neither blank nor part of a marker. -/
theorem isContent_of_ignoringCase {letter a : Char} (hletter : letter.isLower = true)
    (h : ignoringCase letter a = true) : IsContent a := by
  have hcode := ignoringCase_toNat hletter h
  rintro (hspace | rfl | rfl)
  · simp only [isSpace, decide_eq_true_eq, Bool.decide_or, Bool.decide_and, Bool.or_eq_true,
      Bool.and_eq_true] at hspace
    omega
  · revert hcode
    decide
  · revert hcode
    decide

theorem IsContent.not_isSpace {a : Char} (h : IsContent a) : isSpace a = false := by
  rw [← Bool.not_eq_true]
  exact fun hspace => h (.inl hspace)

theorem isContent_of_oneOf {chars : Text} (h : ∀ a ∈ chars, IsContent a) :
    (oneOf chars).Needs IsContent := fun a ha => h a (by simpa using ha)

/-- No pass finds anything in a text of blanks and markers. -/
theorem redactions_needs (h : pass ∈ redactions u) : pass.pattern.Needs IsContent := by
  have hletter : ∀ letter : Char, letter.isLower = true → ∀ a, ignoringCase letter a = true →
      IsContent a := fun _ hlower _ => isContent_of_ignoringCase hlower
  simp only [redactions, List.mem_cons, List.not_mem_nil, or_false] at h
  rcases h with rfl | rfl | rfl | rfl | rfl
  · exact .inr (.inl (.inl (hletter 'b' rfl)))
  · exact .inr (.inl (.inl (hletter 's' rfl)))
  · exact .inr (.inl ⟨.inl (.inl (hletter 'a' rfl)), .inl (.inl (hletter 'a' rfl)), .inl (hletter 'a' rfl),
      .inl (hletter 'p' rfl), .inl (hletter 'p' rfl), .inl (hletter 's' rfl),
      .inl (hletter 't' rfl)⟩)
  · exact .inr (.inr (.inl (isContent_of_oneOf (by simp [IsContent, isSpace]))))
  · exact .inr (.inr (.inl (isContent_of_oneOf (by simp [IsContent, isSpace]))))

theorem assignedName_opens {p : Char → Prop}
    (h : ∀ letter : Char, letter.isLower = true → ∀ a, ignoringCase letter a = true → p a) :
    CharClasses.assignedName.Opens p :=
  ⟨⟨⟨h 'a' rfl, .inl trivial⟩, .inl (.inl trivial)⟩, ⟨⟨h 'a' rfl, .inl trivial⟩, .inl (.inl trivial)⟩,
    ⟨h 'a' rfl, .inl trivial⟩, ⟨h 'p' rfl, .inl trivial⟩, ⟨h 'p' rfl, .inl trivial⟩,
    ⟨h 's' rfl, .inl trivial⟩, ⟨h 't' rfl, .inl trivial⟩⟩

theorem assignedName_proper : CharClasses.assignedName.Proper :=
  ⟨.inl (.inl trivial), .inl (.inl trivial), .inl trivial, .inl trivial, .inl trivial, .inl trivial,
    .inl trivial⟩

/-- What a match reads begins as what follows it in the text. -/
theorem head?_consumed (h : c'.rest <:+ c.rest) (hread : c'.rest.length < c.rest.length) :
    (c.consumed c').head? = c.rest.head? := by
  have hsplit := consumed_append h
  have hne : c.consumed c' ≠ [] := by
    intro hnil
    rw [hnil, List.nil_append] at hsplit
    rw [hsplit] at hread
    exact absurd hread (lt_irrefl _)
  rw [← hsplit, List.head?_append_of_ne_nil _ hne]

/-- The first group of an assignment is the name. -/
theorem assignment_group (h : c' ∈ results u.assignmentPattern c) :
    ∃ c₁ ∈ results CharClasses.assignedName c, c'.group 1 = c.consumed c₁ := by
  obtain ⟨c₀, hlook, hbehind⟩ := mem_results_seq.mp h
  rw [(mem_results_look.mp hlook).2] at hbehind
  obtain ⟨_, hfirst, hbehind₁⟩ := mem_results_seq.mp hbehind
  obtain ⟨d₁, hname, rfl⟩ := mem_results_group.mp hfirst
  obtain ⟨_, hsecond, hthird⟩ := mem_results_seq.mp hbehind₁
  obtain ⟨d₂, hsign, rfl⟩ := mem_results_group.mp hsecond
  obtain ⟨d₃, hvalue, rfl⟩ := mem_results_group.mp hthird
  have hgroups₂ := plain_groups (by exact ⟨trivial, trivial, trivial⟩) hsign
  have hgroups₃ := plain_groups (by exact trivial) hvalue
  refine ⟨d₁, hname, ?_⟩
  simp [Cursor.group, Cursor.capture, hgroups₃, hgroups₂, List.lookup]

/-- Every pass leaves something visible in the place of a match. -/
theorem redactions_visible (h : pass ∈ redactions u) : pass.Visible := by
  simp only [redactions, List.mem_cons, List.not_mem_nil, or_false] at h
  rcases h with rfl | rfl | rfl | rfl | rfl
  · exact ⟨fun _ _ _ => ⟨'B', rfl, rfl⟩, fun _ => rfl, fun _ => by simp⟩
  · exact ⟨fun _ _ _ => ⟨'[', rfl, rfl⟩, fun _ => rfl, fun _ => by simp⟩
  · refine ⟨fun c c' hmem => ?_, fun c => ?_, fun c => ?_⟩
    · obtain ⟨c₁, hname, hgroup⟩ := assignment_group hmem
      have hread := proper_length assignedName_proper hname
      obtain ⟨a, ha, hp⟩ := opens_head (assignedName_opens fun _ hlower _ hletter =>
        isSpace_of_isWhiteSpace (isContent_of_ignoringCase hlower hletter).not_isSpace) hname hread
      have hhead : (c'.group 1).head? = some a := by
        rw [hgroup, head?_consumed (results_suffix hname) hread]
        exact ha
      exact ⟨a, by simp [List.head?_append, hhead], hp⟩
    · simp
    · simp
  · exact ⟨fun _ _ _ => ⟨'[', rfl, rfl⟩, fun _ => rfl, fun _ => by simp⟩
  · exact ⟨fun _ _ _ => ⟨'[', rfl, rfl⟩, fun _ => rfl, fun _ => by simp⟩

/-! ### What redaction does to a text -/

/-- By how much a text grows in a sequence of passes. -/
def redactionGrowth : List Redaction → Text → Int
  | [], _ => 0
  | pass :: passes, value =>
    growth pass.pattern pass.replacement value + redactionGrowth passes (pass.apply value)

theorem length_passes (passes : List Redaction) :
    ((passes.foldl Redaction.apply text).length : Int) = text.length + redactionGrowth passes text := by
  induction passes generalizing text with
  | nil => simp [redactionGrowth]
  | cons pass passes ih =>
    rw [List.foldl_cons, ih, redactionGrowth, Redaction.apply, length_sub]
    ring

theorem length_redactText : ((redactText u text).length : Int) =
    text.length + redactionGrowth (redactions u) text :=
  length_passes (redactions u)

theorem Redaction.Visible.tight (h : pass.Visible) (htext : Tight isWhiteSpace text) :
    Tight isWhiteSpace (pass.apply text) :=
  ⟨head?_sub (fun c c' hmem _ => h.first c c' hmem) htext.1,
    getLast?_sub (fun _ c' _ _ => ⟨']', h.last c', rfl⟩) htext.2⟩

/-- Redaction leaves no blank at either end. -/
theorem tight_redactText (h : Tight isWhiteSpace text) : Tight isWhiteSpace (redactText u text) := by
  suffices hpasses : ∀ passes : List Redaction, (∀ pass ∈ passes, pass.Visible) →
      ∀ text, Tight isWhiteSpace text → Tight isWhiteSpace (passes.foldl Redaction.apply text) from
    hpasses (redactions u) (fun _ => redactions_visible) text h
  intro passes hvisible
  induction passes with
  | nil => exact fun _ htext => htext
  | cons pass passes ih =>
    intro text htext
    obtain ⟨hfirst, hrest⟩ := List.forall_mem_cons.mp hvisible
    exact ih hrest _ (hfirst.tight htext)

theorem content_redactText (h : ∃ a ∈ text, IsContent a) : ∃ a ∈ redactText u text, IsContent a := by
  suffices hpasses : ∀ passes : List Redaction, (∀ pass ∈ passes, pass.Visible) →
      ∀ text, (∃ a ∈ text, IsContent a) → ∃ a ∈ passes.foldl Redaction.apply text, IsContent a from
    hpasses (redactions u) (fun _ => redactions_visible) text h
  intro passes hvisible
  induction passes with
  | nil => exact fun _ htext => htext
  | cons pass passes ih =>
    intro text htext
    obtain ⟨hfirst, hrest⟩ := List.forall_mem_cons.mp hvisible
    have hletter : IsContent 'R' := by simp [IsContent, isSpace]
    exact ih hrest _ (mem_sub (fun _ c' _ _ => ⟨'R', hfirst.letter c', hletter⟩) htext)

theorem redactText_eq_self (h : ∀ a ∈ text, ¬IsContent a) : redactText u text = text := by
  suffices hpasses : ∀ passes : List Redaction, (∀ pass ∈ passes, pass.pattern.Needs IsContent) →
      passes.foldl Redaction.apply text = text from
    hpasses (redactions u) fun _ => redactions_needs
  intro passes hneeds
  induction passes with
  | nil => rfl
  | cons pass passes ih =>
    obtain ⟨hfirst, hrest⟩ := List.forall_mem_cons.mp hneeds
    rw [List.foldl_cons, Redaction.apply, sub_eq_self hfirst h, ih hrest]

/-! ### What is left of an answer -/

/-- The first group of a strong text is all of it but the markers. -/
theorem content_strong (h : c' ∈ results markdownStrongPattern c)
    (hcontent : ∃ a ∈ c.consumed c', IsContent a) : ∃ a ∈ c'.group 1, IsContent a := by
  have hmarker : marker.Only fun a => ¬IsContent a := by
    simp [marker, Pattern.Only, oneOf, IsContent]
  obtain ⟨c₁, hopen, hbehind⟩ := mem_results_seq.mp h
  obtain ⟨_, hgroup, hclose⟩ := mem_results_seq.mp hbehind
  obtain ⟨c₂, htext, rfl⟩ := mem_results_group.mp hgroup
  have hgroups := plain_groups (by exact ⟨⟨trivial, trivial⟩, trivial, trivial⟩) hclose
  have hsuffix := results_suffix hclose
  rw [capture_rest] at hsuffix
  rw [consumed_trans (results_suffix hopen) (hsuffix.trans (results_suffix htext)),
    consumed_trans (results_suffix htext) hsuffix] at hcontent
  obtain ⟨a, ha, hcontent⟩ := hcontent
  rcases List.mem_append.mp ha with ha | ha
  · exact absurd hcontent (only_mem hmarker hopen a ha)
  · rcases List.mem_append.mp ha with ha | ha
    · refine ⟨a, ?_, hcontent⟩
      simp only [Cursor.group, hgroups, Cursor.capture, List.lookup, beq_self_eq_true,
        Option.getD_some]
      exact ha
    · exact absurd hcontent (only_mem hmarker hclose a ha)

theorem mem_removeDoubled {a c : Char} (h : a ∈ text) (ha : a ≠ c) : a ∈ removeDoubled c text := by
  fun_induction removeDoubled c text with
  | case1 b d rest hsame ih =>
    simp only [List.mem_cons] at h
    rcases h with rfl | rfl | h
    · exact absurd hsame.1 ha
    · exact absurd hsame.2 ha
    · exact ih h
  | case2 b d rest hother ih =>
    rcases List.mem_cons.mp h with rfl | h
    · exact List.mem_cons_self
    · exact List.mem_cons_of_mem b (ih h)
  | case3 b => exact h
  | case4 => exact h

/-- Nothing is left but markers and blanks. -/
def MarkersOnly (answer : Text) : Prop :=
  (∀ a ∈ answer, isSpace a = true ∨ a = '*' ∨ a = '_') ∧ stripMarkdown answer = []

instance : Decidable (MarkersOnly text) :=
  have : Decidable (∀ a ∈ text, isSpace a = true ∨ a = '*' ∨ a = '_') := List.decidableBAll _ text
  inferInstanceAs (Decidable (_ ∧ _))

theorem content_stripMarkdown (h : ∃ a ∈ text, IsContent a) : stripMarkdown text ≠ [] := by
  obtain ⟨a, ha, hcontent⟩ := mem_sub (fun _ _ hmem => content_strong hmem) h
  have hstar : a ≠ '*' := fun heq => hcontent (.inr (.inl heq))
  have hunderscore : a ≠ '_' := fun heq => hcontent (.inr (.inr heq))
  exact List.ne_nil_of_mem (mem_strip (mem_removeDoubled (mem_removeDoubled ha hstar) hunderscore)
    hcontent.not_isSpace)

/-- The plain text of an answer is empty exactly when the answer consists of markers. -/
theorem plainChatText_eq_nil : plainChatText u text = [] ↔ MarkersOnly text := by
  rw [plainChatText]
  by_cases hcontent : ∃ a ∈ text, IsContent a
  · have hleft := content_stripMarkdown (content_redactText (u := u) hcontent)
    obtain ⟨a, ha, hkept⟩ := hcontent
    exact ⟨fun hnil => absurd hnil hleft, fun hmarkers => absurd (hmarkers.1 a ha) hkept⟩
  · push Not at hcontent
    have hmarkers : ∀ a ∈ text, isSpace a = true ∨ a = '*' ∨ a = '_' :=
      fun a ha => not_not.mp (hcontent a ha)
    rw [redactText_eq_self hcontent]
    exact ⟨fun hnil => ⟨hmarkers, hnil⟩, fun h => h.2⟩

/-! ### Turns -/

/-- The text can be read back as a turn. -/
def IsTurn (text : Text) : Prop :=
  1 ≤ (strip isWhiteSpace text).length ∧ (strip isWhiteSpace text).length ≤ 2000

theorem exists_aiChatTurn {role : ChatRole} :
    (∃ turn, aiChatTurn role text = .ok turn) ↔ IsTurn text := by
  simp only [aiChatTurn, bind_eq_ok, boundedString_ok, pure_eq_ok]
  constructor
  · rintro ⟨-, -, ⟨rfl, hlength⟩, -⟩
    exact hlength
  · intro hlength
    exact ⟨_, _, ⟨rfl, hlength⟩, rfl⟩

theorem Tight.isTurn_iff (h : Tight isWhiteSpace text) : IsTurn text ↔ text.length ≤ 2000 := by
  have hpositive : 1 ≤ text.length := by
    obtain ⟨⟨a, ha, -⟩, -⟩ := h
    exact List.length_pos_of_mem (List.mem_of_mem_head? ha)
  rw [IsTurn, h.strip_eq]
  omega

/-- A redacted message can be read back unless redaction has made it too long. -/
theorem isTurn_redactText {raw message : Text} (h : boundedString 2000 raw = .ok message) :
    IsTurn (redactText u message) ↔
      (message.length : Int) + redactionGrowth (redactions u) message ≤ 2000 := by
  obtain ⟨rfl, hpositive, -⟩ := boundedString_ok.mp h
  have htight := tight_strip (List.ne_nil_of_length_pos hpositive)
  rw [(tight_redactText htight).isTurn_iff, ← length_redactText]
  omega

/-- A shortened text has no blank at either end, and its length is bounded. -/
theorem tight_boundedChatText (hlimit : 1 ≤ maxLength) (h : boundedChatText u text maxLength ≠ []) :
    Tight isWhiteSpace (boundedChatText u text maxLength) ∧
      (boundedChatText u text maxLength).length ≤ maxLength := by
  have hvisible : plainChatText u text ≠ [] → Tight isWhiteSpace (plainChatText u text) := by
    intro hne
    obtain ⟨⟨a, ha, hfirst⟩, b, hb, hlast⟩ : Tight isSpace (plainChatText u text) := tight_strip hne
    exact ⟨⟨a, ha, isSpace_of_isWhiteSpace hfirst⟩, b, hb, isSpace_of_isWhiteSpace hlast⟩
  rw [boundedChatText] at h ⊢
  by_cases hshort : (plainChatText u text).length ≤ maxLength
  · rw [if_pos hshort] at h ⊢
    exact ⟨hvisible h, hshort⟩
  · rw [if_neg hshort] at h ⊢
    have hne : plainChatText u text ≠ [] := by
      intro hnil
      rw [hnil] at hshort
      simp at hshort
    obtain ⟨⟨a, ha, hfirst⟩, -⟩ := hvisible hne
    have hprefix := List.rdropWhile_prefix (· ∈ "，,：:；;、 ".toList)
      ((plainChatText u text).take (maxLength - 1))
    have hlength : (rstrip (· ∈ "，,：:；;、 ".toList)
        ((plainChatText u text).take (maxLength - 1)) ++ ['…']).length ≤ maxLength := by
      have hle := hprefix.length_le
      rw [List.length_take] at hle
      rw [List.length_append, rstrip, List.length_singleton]
      omega
    refine ⟨⟨?_, '…', by simp, rfl⟩, hlength⟩
    rw [rstrip] at *
    generalize hclipped : List.rdropWhile _ _ = clipped at hprefix ⊢
    cases clipped with
    | nil => exact ⟨'…', rfl, rfl⟩
    | cons b bs =>
      -- what is left begins where the text begins
      obtain ⟨rest, hrest⟩ := hprefix.trans (List.take_prefix _ _)
      rw [← hrest] at ha
      exact ⟨a, ha, hfirst⟩

/-- Nothing is left of a text only if it consists of markers. -/
theorem boundedChatText_eq_nil :
    boundedChatText u text maxLength = [] ↔ MarkersOnly text := by
  rw [← plainChatText_eq_nil (u := u), boundedChatText]
  by_cases hshort : (plainChatText u text).length ≤ maxLength
  · rw [if_pos hshort]
  · rw [if_neg hshort]
    constructor
    · exact fun h => absurd h (by simp)
    · intro hnil
      rw [hnil] at hshort
      simp at hshort

/-- An answer can be read back when something is left of it. -/
theorem isTurn_boundedChatText : IsTurn (boundedChatText u text 500) ↔ ¬MarkersOnly text := by
  have hmarkers : boundedChatText u text 500 = [] ↔ MarkersOnly text := boundedChatText_eq_nil
  rw [← hmarkers]
  constructor
  · intro h hnil
    rw [IsTurn, hnil] at h
    exact absurd h.1 (by decide)
  · intro hne
    obtain ⟨htight, hlength⟩ := tight_boundedChatText (by decide) hne
    exact htight.isTurn_iff.mpr (by omega)

/-! ### Reading a conversation -/

variable {db db' : ChatDatabase} {conversationId : UUID} {scope : ChatScope}
  {conversation : AiChatConversationRecord} {message : AiChatMessageRecord}

/-- A conversation whose messages are all turns can be read. -/
theorem exists_loadAiChatContext {exclude : Option UUID}
    (hturns : ∀ message ∈ db.messages, IsTurn message.content)
    (hget : getAiConversation conversationId scope db = .ok conversation) :
    ∃ history, loadAiChatContext (some conversationId) scope exclude db =
      .ok (some conversation, history) := by
  have hread : ∃ history, (latestMessages conversation.id exclude db).mapM
      (fun message => aiChatTurn message.role message.content) = .ok history := by
    refine exists_mapM_ok.mpr fun message hmessage => exists_aiChatTurn.mpr (hturns message ?_)
    rw [latestMessages, List.mem_reverse] at hmessage
    have hmem := (List.mem_insertionSort _).mp (List.mem_of_mem_take hmessage)
    exact (mem_messagesOf.mp (List.mem_of_mem_filter hmem)).1
  obtain ⟨history, hhistory⟩ := hread
  refine ⟨history, ?_⟩
  simp only [loadAiChatContext, bind_eq_ok, pure_eq_ok]
  exact ⟨conversation, hget, history, hhistory, rfl⟩

/-- The message is the last one of its conversation. -/
def IsNewest (db : ChatDatabase) (message : AiChatMessageRecord) : Prop :=
  ∀ other ∈ db.messagesOf message.conversationId, other.sequence ≤ message.sequence

theorem mem_latestMessages (hi : ChatLog db) (hmem : message ∈ db.messages)
    (hnewest : IsNewest db message) :
    message ∈ latestMessages message.conversationId none db := by
  obtain ⟨conversation, hconversation, hid⟩ := hi.placed message hmem
  have hdistinct : ((db.messagesOf message.conversationId).map
      AiChatMessageRecord.sequence).Nodup := by
    rw [← hid, hi.numbered conversation hconversation]
    exact List.nodup_range'
  have hin : message ∈ db.messagesOf message.conversationId := mem_messagesOf.mpr ⟨hmem, rfl⟩
  have hall : (db.messagesOf message.conversationId).filter
      (fun message => some message.id ≠ none) = db.messagesOf message.conversationId := by
    simp
  rw [latestMessages, hall, List.mem_reverse]
  generalize hordered : (db.messagesOf message.conversationId).insertionSort
    (fun message other => other.sequence ≤ message.sequence) = ordered
  have hmemOrdered : ∀ other, other ∈ ordered ↔ other ∈ db.messagesOf message.conversationId := by
    intro other
    rw [← hordered, List.mem_insertionSort]
  have hsorted : ordered.Pairwise fun message other => other.sequence ≤ message.sequence := by
    rw [← hordered]
    have : Std.Total fun (message other : AiChatMessageRecord) =>
        other.sequence ≤ message.sequence := ⟨fun first second => Nat.le_total _ _⟩
    have : IsTrans AiChatMessageRecord fun message other => other.sequence ≤ message.sequence :=
      ⟨fun _ _ _ h h' => h'.trans h⟩
    exact List.pairwise_insertionSort _ _
  cases ordered with
  | nil => exact absurd ((hmemOrdered message).mpr hin) List.not_mem_nil
  | cons first others =>
    have hfirst := (hmemOrdered first).mp List.mem_cons_self
    have hle : message.sequence ≤ first.sequence := by
      rcases List.mem_cons.mp ((hmemOrdered message).mpr hin) with rfl | hbehind
      · exact le_refl _
      · exact List.rel_of_pairwise_cons hsorted hbehind
    have hsame : first = message := List.inj_on_of_nodup_map hdistinct hfirst hin
      ((hnewest first hfirst).antisymm hle)
    rw [hsame, List.take_succ_cons]
    exact List.mem_cons_self

/-- Some conversation is there but cannot be read. -/
def Unreadable (db : ChatDatabase) : Prop :=
  ∃ conversationId scope conversation,
    getAiConversation conversationId scope db = .ok conversation ∧
    ∀ result, loadAiChatContext (some conversationId) scope none db ≠ .ok result

/-- A last message that is no turn makes its conversation unreadable. -/
theorem unreadable_of_newest (hi : ChatLog db) (hmem : message ∈ db.messages)
    (hnewest : IsNewest db message) (hturn : ¬IsTurn message.content) : Unreadable db := by
  obtain ⟨conversation, hconversation, hid⟩ := hi.placed message hmem
  have hget : getAiConversation conversation.id conversation.scope db = .ok conversation := by
    simp only [getAiConversation, bind_eq_ok, ensure_eq_ok, found_eq_ok, pure_eq_ok]
    exact ⟨conversation, Table.get?_key hconversation, (), rfl, rfl⟩
  refine ⟨conversation.id, conversation.scope, conversation, hget, fun result hload => hturn ?_⟩
  simp only [loadAiChatContext, bind_eq_ok, hget, Except.ok.injEq] at hload
  obtain ⟨_, rfl, history, hhistory, -⟩ := hload
  have hlatest := mem_latestMessages hi hmem hnewest
  rw [← hid] at hlatest
  exact exists_aiChatTurn.mp (exists_mapM_ok.mp ⟨history, hhistory⟩ message hlatest)

/-! ### What a step stores -/

/-- The text that an action stores, if it stores one. -/
def ChatAction.text? : ChatAction → Option Text
  | .saveQuestion _ _ _ _ _ question | .beginExchange _ _ _ _ _ question => some question
  | .saveAnswer _ _ _ content _ => some content.answer
  | .loadQuestion .. | .markFailed _ | .close _ => none

theorem Appends.isNewest (h : Appends db message db') (hi : ChatLog db') :
    IsNewest db' message := by
  obtain ⟨conversation, hconversation, hid⟩ := hi.placed message (h.mem.mpr (.inr rfl))
  have hnumbered := hi.numbered conversation hconversation
  rw [hid] at hnumbered
  have hlast : message.sequence = conversation.messageCount := by
    rw [h.messagesOf, if_pos rfl, List.map_append, List.map_singleton] at hnumbered
    have hlength := congrArg List.length hnumbered
    have hsequence := congrArg List.getLast? hnumbered
    simp only [List.length_append, List.length_singleton, List.length_range'] at hlength
    rw [List.getLast?_concat, ← hlength, List.range'_1_concat, List.getLast?_concat,
      Option.some_inj] at hsequence
    omega
  intro other hother
  have hmem : other.sequence ∈ List.range' 1 conversation.messageCount := by
    rw [← hnumbered]
    exact List.mem_map_of_mem hother
  have hbound := List.mem_range'_1.mp hmem
  omega

/-- A write of a status leaves every text where it is. -/
theorem writeMetadata_text {loaded : LoadedQuestion} {status : ChatStatus} (hi : ChatLog db)
    (hk : Knows db loaded) (h : writeMetadata loaded status db = .ok db') :
    (∀ message ∈ db'.messages, ∃ old ∈ db.messages, old.content = message.content) ∧
      ∀ message ∈ db.messages, IsNewest db message →
        ∃ message' ∈ db'.messages, message'.content = message.content ∧ IsNewest db' message' := by
  obtain ⟨-, ⟨hsame, -⟩ | ⟨hrows, -⟩⟩ := writeMetadata_ok h
  · refine ⟨fun message hmem => ⟨message, hsame ▸ hmem, rfl⟩, fun message hmem hnewest =>
      ⟨message, hsame ▸ hmem, rfl, ?_⟩⟩
    rwa [IsNewest, ChatDatabase.messagesOf, hsame]
  · have hmem : ∀ {row}, row ∈ db'.messages ↔
        ∃ old ∈ db.messages, rewritten loaded status old = row := by
      intro row
      rw [Table.mem_iff, hrows, List.mem_map]
      rfl
    constructor
    · intro message hmessage
      obtain ⟨old, hold, rfl⟩ := hmem.mp hmessage
      exact ⟨old, hold, (rewritten_same _ hi hk hold).2.2.2.2.1.symm⟩
    · intro message hmessage hnewest
      obtain ⟨-, hconversation, hsequence, -, hcontent, -⟩ :=
        rewritten_same status hi hk hmessage
      refine ⟨_, hmem.mpr ⟨message, hmessage, rfl⟩, hcontent, fun other hother => ?_⟩
      obtain ⟨hotherMem, hotherConversation⟩ := mem_messagesOf.mp hother
      obtain ⟨old, hold, rfl⟩ := hmem.mp hotherMem
      obtain ⟨-, hconversation', hsequence', -⟩ := rewritten_same status hi hk hold
      rw [hsequence, hsequence']
      refine hnewest old (mem_messagesOf.mpr ⟨hold, ?_⟩)
      rw [← hconversation', hotherConversation, hconversation]

/-- A step stores no text but its own, and where it stores it, it is the last of its conversation. -/
theorem chatStep_text {action : ChatAction} (h : chatStep s action = .ok s')
    (hi : ChatInvariant s) :
    (∀ message ∈ s'.db.messages, (∃ old ∈ s.db.messages, old.content = message.content) ∨
      message.content ∈ action.text?) ∧
    ∀ text ∈ action.text?, s'.db = s.db ∨
      ∃ message ∈ s'.db.messages, message.content = text ∧ IsNewest s'.db message := by
  have hi' := chatInvariant_step h hi
  obtain ⟨hlog, hknows⟩ := hi
  have hquestion : ∀ {message db text}, Appends s.db message db → message.content = text →
      ChatLog db →
      (∀ other ∈ db.messages, (∃ old ∈ s.db.messages, old.content = other.content) ∨
        other.content ∈ some text) ∧
      ∀ text' ∈ some text, db = s.db ∨ ∃ other ∈ db.messages, other.content = text' ∧
        IsNewest db other := by
    rintro message db _ happends rfl hlog'
    refine ⟨fun other hother => ?_, ?_⟩
    · rcases happends.mem.mp hother with hold | rfl
      · exact .inl ⟨other, hold, rfl⟩
      · exact .inr rfl
    · rintro _ ⟨⟩
      exact .inr ⟨message, happends.mem.mpr (.inr rfl), rfl, happends.isNewest hlog'⟩
  cases action <;> simp only [chatStep, bind_eq_ok, found_eq_ok, pure_eq_ok, Prod.exists] at h
  case saveQuestion =>
    obtain ⟨message, db, hsave, rfl⟩ := h
    obtain ⟨happends, -, hcontent, -⟩ := saveAiChatQuestion_ok hsave
    exact hquestion happends hcontent hi'.1
  case beginExchange =>
    obtain ⟨message, db, hsave, rfl⟩ := h
    obtain ⟨happends, -, hcontent, -⟩ := saveAiChatQuestion_ok hsave
    exact hquestion happends hcontent hi'.1
  case loadQuestion =>
    obtain ⟨message, -, rfl⟩ := h
    exact ⟨fun message hmem => .inl ⟨message, hmem, rfl⟩, fun _ htext => by cases htext⟩
  case saveAnswer =>
    obtain ⟨loaded, hloaded, db, hsave, rfl⟩ := h
    have hk := hknows loaded (List.mem_of_getElem? hloaded)
    obtain ⟨question, hasked, hid, hrole, ⟨-, rfl⟩ | ⟨hnone, reply, db₁, his, hcontent, happends,
      hwrite⟩⟩ := saveAiChatAnswer_ok hsave
    · exact ⟨fun message hmem => .inl ⟨message, hmem, rfl⟩, fun _ _ => .inl rfl⟩
    · have hlog₁ := hlog.append_reply happends his hasked hrole hnone
      obtain ⟨hkept, hnewest⟩ := writeMetadata_text hlog₁ (hk.append happends) hwrite
      refine ⟨fun message hmem => ?_, ?_⟩
      · obtain ⟨old, hold, hsame⟩ := hkept message hmem
        rcases happends.mem.mp hold with hold | rfl
        · exact .inl ⟨old, hold, hsame⟩
        · exact .inr (congrArg some (hcontent.symm.trans hsame))
      · rintro _ ⟨⟩
        obtain ⟨stored, hstored, hsame, hlast⟩ := hnewest reply (happends.mem.mpr (.inr rfl))
          (happends.isNewest hlog₁)
        exact .inr ⟨stored, hstored, hsame.trans hcontent, hlast⟩
  case markFailed =>
    obtain ⟨loaded, hloaded, db, hmark, rfl⟩ := h
    have hk := hknows loaded (List.mem_of_getElem? hloaded)
    obtain ⟨-, hwrite⟩ := markAiChatQuestionFailed_ok hmark
    exact ⟨fun message hmem => .inl ((writeMetadata_text hlog hk hwrite).1 message hmem),
      fun _ htext => by cases htext⟩
  case close =>
    obtain ⟨loaded, -, rfl⟩ := h
    exact ⟨fun message hmem => .inl ⟨message, hmem, rfl⟩, fun _ htext => by cases htext⟩

/-! ### The routes -/

/-- What the routes must store is short enough and not empty: redaction adds to a message no more
    characters than the limit leaves, and an answer does not consist of markers. -/
def StaysReadable (u : CharClasses) : ChatRouteAction → Prop
  | .postQuestion _ _ _ _ _ message | .postChat _ _ _ _ _ message =>
    ((strip isWhiteSpace message).length : Int) +
      redactionGrowth (redactions u) (strip isWhiteSpace message) ≤ 2000
  | .complete _ _ _ response _ _ => ¬MarkersOnly (strip isWhiteSpace response.answer)
  | .prepare .. | .fail _ | .close _ => True

instance : Decidable (StaysReadable u a) := by
  cases a <;> unfold StaysReadable <;> infer_instance

theorem aiProjectChatContent_answer {raw response : AiProjectChatContent}
    (h : aiProjectChatContent raw = .ok response) :
    response.answer = strip isWhiteSpace raw.answer := by
  simp only [aiProjectChatContent, bind_eq_ok, pure_eq_ok] at h
  obtain ⟨answer, hbounded, _, -, -, -, _, -, -, -, _, -, -, -, rfl⟩ := h
  exact (boundedString_ok.mp hbounded).1

theorem sanitizeAndValidateChat_answer {response content : AiProjectChatContent}
    {allowedRefs : List Text} (h : sanitizeAndValidateChat u response allowedRefs = .ok content) :
    content.answer = boundedChatText u response.answer 500 := by
  simp only [sanitizeAndValidateChat, bind_eq_ok] at h
  obtain ⟨-, -, -, -, kept, -, hsections⟩ := h
  split at hsections <;> simp only [bind_eq_ok, pure_eq_ok] at hsections
  · obtain ⟨_, -, _, -, hcontent⟩ := hsections
    simp only [← hcontent]
  · obtain ⟨_, -, hcontent⟩ := hsections
    simp only [← hcontent]

/-- A route takes a step of the conversations, and its text can be read back exactly when the route
    meets the condition. -/
theorem chatRouteStep_ok (h : chatRouteStep u s a = .ok s') :
    ∃ action, chatStep s action = .ok s' ∧
      (StaysReadable u a → ∀ text ∈ action.text?, IsTurn text) ∧
      (¬StaysReadable u a → ∃ text ∈ action.text?, ¬IsTurn text) := by
  cases a <;> simp only [chatRouteStep, bind_eq_ok] at h
  case postQuestion now newConversationId newMessageId conversationId scope raw =>
    obtain ⟨message, hmessage, hstep⟩ := h
    obtain ⟨rfl, -⟩ := boundedString_ok.mp hmessage
    refine ⟨_, hstep, ?_, fun hlong => ⟨_, rfl, fun hturn => hlong ?_⟩⟩
    · rintro hfits _ ⟨⟩
      exact (isTurn_redactText hmessage).mpr hfits
    · exact (isTurn_redactText hmessage).mp hturn
  case postChat now newConversationId newMessageId conversationId scope raw =>
    obtain ⟨message, hmessage, hstep⟩ := h
    obtain ⟨rfl, -⟩ := boundedString_ok.mp hmessage
    refine ⟨_, hstep, ?_, fun hlong => ⟨_, rfl, fun hturn => hlong ?_⟩⟩
    · rintro hfits _ ⟨⟩
      exact (isTurn_redactText hmessage).mpr hfits
    · exact (isTurn_redactText hmessage).mp hturn
  case prepare =>
    exact ⟨_, h, fun _ _ htext => (by cases htext), fun hnot => absurd trivial hnot⟩
  case complete index now newMessageId raw allowedRefs details =>
    obtain ⟨response, hresponse, content, hcontent, hstep⟩ := h
    have hturn : IsTurn content.answer ↔ ¬MarkersOnly (strip isWhiteSpace raw.answer) := by
      rw [sanitizeAndValidateChat_answer hcontent, isTurn_boundedChatText,
        aiProjectChatContent_answer hresponse]
    refine ⟨_, hstep, ?_, fun hmarkers => ⟨_, rfl, fun his => hmarkers (hturn.mp his)⟩⟩
    rintro hleft _ ⟨⟩
    exact hturn.mpr hleft
  case fail =>
    exact ⟨_, h, fun _ _ htext => (by cases htext), fun hnot => absurd trivial hnot⟩
  case close =>
    exact ⟨_, h, fun _ _ htext => (by cases htext), fun hnot => absurd trivial hnot⟩

theorem chatRoutes_invariant (hs : (chatRoutes u).Reachable s) : ChatInvariant s := by
  refine hs.invariant (p := ChatInvariant) ?_ ?_
  · rintro s rfl
    exact chatInvariant_init
  · intro s a s' hstep hi
    obtain ⟨action, haction, -⟩ := chatRouteStep_ok hstep
    exact chatInvariant_step haction hi

/-- A route that stores an unreadable text leaves a conversation that cannot be read. -/
theorem unreadable_step (hi : ChatInvariant s) (h : chatRouteStep u s a = .ok s')
    (hunreadable : ¬StaysReadable u a) : s'.db = s.db ∨ Unreadable s'.db := by
  obtain ⟨action, haction, -, hbad⟩ := chatRouteStep_ok h
  obtain ⟨text, htext, hturn⟩ := hbad hunreadable
  rcases (chatStep_text haction hi).2 text htext with hsame | ⟨message, hmem, rfl, hnewest⟩
  · exact .inl hsame
  · exact .inr (unreadable_of_newest (chatInvariant_step haction hi).1 hmem hnewest hturn)

/-- A conversation can be read as long as what its routes store is short enough and not empty; a
    route that stores anything else leaves a conversation that cannot. -/
theorem conversation_readable
    (hs : ((chatRoutes u).restrict fun _ a => StaysReadable u a).Reachable s) :
    (∀ message ∈ s.db.messages, ∃ turn, aiChatTurn message.role message.content = .ok turn) ∧
    (∀ conversationId scope exclude conversation,
      getAiConversation conversationId scope s.db = .ok conversation →
      ∃ history, loadAiChatContext (some conversationId) scope exclude s.db =
        .ok (some conversation, history)) ∧
    ∀ a s', (chatRoutes u).next s a s' → ¬StaysReadable u a →
      s'.db = s.db ∨ Unreadable s'.db := by
  have hturns : ∀ message ∈ s.db.messages, IsTurn message.content := by
    refine hs.invariant_of (k := ChatInvariant)
      (p := fun s => ∀ message ∈ s.db.messages, IsTurn message.content)
      (fun s hs => chatRoutes_invariant hs.of_restrict) ?_ ?_
    · rintro s rfl message hmem
      exact absurd hmem Table.not_mem_empty
    · rintro s a s' ⟨hreadable, hstep⟩ hi - hturns message hmem
      obtain ⟨action, haction, htexts, -⟩ := chatRouteStep_ok hstep
      rcases (chatStep_text haction hi).1 message hmem with ⟨old, hold, hsame⟩ | htext
      · exact hsame ▸ hturns old hold
      · exact htexts hreadable _ htext
  refine ⟨fun message hmem => exists_aiChatTurn.mpr (hturns message hmem),
    fun _ _ _ _ hget => exists_loadAiChatContext hturns hget, fun _ _ hstep hunreadable =>
      unreadable_step (chatRoutes_invariant hs.of_restrict) hstep hunreadable⟩

/-! ### A long address and an answer of markers -/

namespace Installation

/-- The classes of ASCII characters. -/
def asciiClasses : CharClasses := ⟨fun c => c.isAlphanum ∨ c = '_', Char.isDigit⟩

def askAtOnce (message : String) : ChatRouteAction := .postChat 0 10 11 none chatScope message.toList

def respond (answer : String) : ChatRouteAction :=
  .complete 0 1 12 ⟨answer.toList, [⟨"Facts".toList, ["The page took 40 s".toList]⟩], [], []⟩ []
    ⟨"model", 5, 1, false⟩

/-- 1997 characters with a short address at their end. -/
def longMessage : Text := List.replicate 1990 '!' ++ " a@b.co".toList

end Installation

open Installation in
/-- A question with an address and its answer can be read. -/
theorem conversation_readable_answered : ∃ s, (chatRoutes asciiClasses).Reachable s ∧
    (s.db.messages.rows.map fun message => message.content) =
      ["Mail me: [REDACTED_EMAIL]".toList, "A timeout".toList] ∧
    ∀ message ∈ s.db.messages, ∃ turn, aiChatTurn message.role message.content = .ok turn := by
  have hrun : Ends (guarded (chatRouteStep asciiClasses) (fun _ a => StaysReadable asciiClasses a)
      .noRequest) .init [askAtOnce "Mail me: a@b.co", respond "**A timeout**"] fun s =>
      (s.db.messages.rows.map fun message => message.content) =
        ["Mail me: [REDACTED_EMAIL]".toList, "A timeout".toList] := by
    decide +kernel
  obtain ⟨s, hr, hcontents⟩ : ∃ s, ((chatRoutes asciiClasses).restrict
      fun _ a => StaysReadable asciiClasses a).Reachable s ∧
      (s.db.messages.rows.map fun message => message.content) =
        ["Mail me: [REDACTED_EMAIL]".toList, "A timeout".toList] :=
    hrun.exists_restricted rfl
  exact ⟨s, System.Reachable.of_restrict hr, hcontents, (conversation_readable hr).1⟩

/-! #### The message -/

theorem redactions_opens (h : pass ∈ redactions u) : pass.pattern.Opens fun a => a ≠ '!' := by
  have hletter : ∀ letter : Char, letter.isLower = true → ∀ a, ignoringCase letter a = true →
      a ≠ '!' := by
    rintro letter hlower a hcase rfl
    have hcode := ignoringCase_toNat hlower hcase
    revert hcode
    decide
  have hone : ∀ chars : Text, '!' ∉ chars → (oneOf chars).Opens fun a => a ≠ '!' := by
    rintro chars hnot a hmem rfl
    exact hnot (by simpa using hmem)
  simp only [redactions, List.mem_cons, List.not_mem_nil, or_false] at h
  rcases h with rfl | rfl | rfl | rfl | rfl
  · exact ⟨trivial, .inr ⟨⟨hletter 'b' rfl, .inl trivial⟩, .inl (.inl trivial)⟩⟩
  · exact ⟨trivial, .inr ⟨⟨hletter 's' rfl, .inl trivial⟩, .inl (.inl trivial)⟩⟩
  · exact ⟨trivial, .inr ⟨assignedName_opens hletter, .inl assignedName_proper⟩⟩
  · refine ⟨trivial, .inr ⟨?_, .inl Nat.one_pos⟩⟩
    rintro a hmem rfl
    revert hmem
    decide
  · refine ⟨trivial, .inr ⟨⟨⟨⟨hone _ (by decide), trivial⟩, .inr ⟨hone _ (by decide), .inl trivial⟩⟩,
      trivial⟩, .inr ⟨hone _ (by decide), .inl trivial⟩⟩⟩

/-- What stands behind exclamation marks is redacted as if it stood alone. -/
theorem redactText_replicate (n : Nat) (rest : Text) :
    redactText u (List.replicate (n + 1) '!' ++ rest) = List.replicate (n + 1) '!' ++
      (redactions u).foldl
        (fun text pass => subFrom pass.pattern pass.replacement 0 (some '!') text) rest := by
  suffices hpasses : ∀ passes : List Redaction,
      (∀ pass ∈ passes, pass.pattern.Opens fun a => a ≠ '!') → ∀ rest,
      passes.foldl Redaction.apply (List.replicate (n + 1) '!' ++ rest) =
        List.replicate (n + 1) '!' ++ passes.foldl
          (fun text pass => subFrom pass.pattern pass.replacement 0 (some '!') text) rest from
    hpasses (redactions u) (fun _ => redactions_opens) rest
  intro passes hopens
  induction passes with
  | nil => exact fun _ => rfl
  | cons pass passes ih =>
    intro rest
    obtain ⟨hfirst, hothers⟩ := List.forall_mem_cons.mp hopens
    rw [List.foldl_cons, List.foldl_cons, Redaction.apply, sub,
      subFrom_replicate hfirst (by simp), ih hothers]

open Installation in
theorem longMessage_redacted : redactText asciiClasses longMessage =
    List.replicate 1990 '!' ++ " [REDACTED_EMAIL]".toList := by
  have htail : (redactions asciiClasses).foldl (fun text pass =>
      subFrom pass.pattern pass.replacement 0 (some '!') text) " a@b.co".toList =
      " [REDACTED_EMAIL]".toList := by
    decide
  rw [longMessage, redactText_replicate 1989, htail]

open Installation in
/-- The message has 1997 characters and its redaction 2007; the answer has four, and nothing is left
    of it. -/
theorem stored_text_unreadable :
    (∃ s, chatRouteStep asciiClasses .init (.postChat 0 10 11 none chatScope longMessage) = .ok s ∧
      Unreadable s.db) ∧
    ∃ s, (chatRoutes asciiClasses).Reachable s ∧ Unreadable s.db := by
  constructor
  · have htight : Tight isWhiteSpace longMessage := by
      refine ⟨⟨'!', ?_, rfl⟩, 'o', ?_, rfl⟩
      · rw [longMessage, List.replicate_succ]
        rfl
      · rw [longMessage, List.getLast?_append]
        rfl
    have hlength : longMessage.length = 1997 := by
      rw [longMessage, List.length_append, List.length_replicate]
      rfl
    have hmessage : boundedString 2000 longMessage = .ok longMessage :=
      boundedString_ok.mpr ⟨htight.strip_eq.symm, by omega⟩
    have hturn : ¬IsTurn (redactText asciiClasses longMessage) := by
      rw [(tight_redactText htight).isTurn_iff, longMessage_redacted, List.length_append,
        List.length_replicate]
      simp
    have hstep : ∃ s, chatStep .init (.beginExchange 0 10 11 none chatScope
        (redactText asciiClasses longMessage)) = .ok s ∧ s.db.messages.rows ≠ [] :=
      ⟨_, rfl, List.cons_ne_nil _ _⟩
    obtain ⟨s, hstep, hstored⟩ := hstep
    have hi := chatInvariant_step hstep chatInvariant_init
    refine ⟨s, by rw [chatRouteStep, hmessage]; exact hstep, ?_⟩
    rcases (chatStep_text hstep chatInvariant_init).2 _ rfl with hsame | ⟨message, hmem, hcontent,
      hnewest⟩
    · rw [hsame] at hstored
      exact absurd rfl hstored
    · exact unreadable_of_newest hi.1 hmem hnewest (hcontent ▸ hturn)
  · have hrun : Ends (chatRouteStep asciiClasses) .init [askAtOnce "Why?", respond "****"] fun s =>
        (getAiConversation 10 chatScope s.db).isOk = true ∧
          (loadAiChatContext (some 10) chatScope none s.db).isOk = false := by
      decide +kernel
    obtain ⟨s, hr, hget, hload⟩ := hrun.exists_reachable (S := chatRoutes asciiClasses)
      (fun _ _ _ _ hstep => hstep) rfl
    cases hfound : getAiConversation 10 chatScope s.db with
    | error e =>
      rw [hfound] at hget
      cases hget
    | ok conversation =>
      refine ⟨s, hr, 10, chatScope, conversation, hfound, fun result hread => ?_⟩
      rw [hread] at hload
      cases hload

end TestOps

import TestOps.Migrations.LegacyExcel

/-! What the legacy executor makes of a row that a case has been written into. Nothing escapes the
    separators, and a step takes the next piece whether or not it has written one:

      click("#a, #b")            ──▸  click("#a"), and a locator too many
      wait(5)  input("#q", "x")  ──▸  wait, input("#q", "5")

    A case comes back unchanged exactly when its texts hold no separators, are trimmed, and its inputs
    are consumed in the order in which they have been written. -/

namespace TestOps

open Checked Delimited

variable {formats : FloatFormats} {case : CaseDefinition} {step : StepDefinition}
  {steps : List StepDefinition} {row : Row} {explicit : Bool} {text : Text} {inputs : List Text}

/-! ### Texts that come back -/

/-- Whether a step takes an input from the row. -/
def StepDefinition.consumesInput (step : StepDefinition) : Bool :=
  (findSpec operations step.operation).any CapabilitySpec.consumesInput

def AssertionDefinition.requiresLocator (assertion : AssertionDefinition) : Bool :=
  (findSpec assertions assertion.type).any CapabilitySpec.requiresLocator

/-- A text that is one piece of a cell, with nothing to trim. -/
def IsPiece (text : Text) : Prop := ',' ∉ text ∧ strip isSpace text = text

instance : Decidable (IsPiece text) := by
  unfold IsPiece
  infer_instance

/-- The texts that the steps have to take, in order. -/
def consumedTexts (formats : FloatFormats) (steps : List StepDefinition) : List Text :=
  (steps.filter StepDefinition.consumesInput).map fun step => cellText formats step.input

/-- The texts that are there to be taken: the pieces of all inputs, non-blank ones trimmed. -/
def CaseDefinition.segments (formats : FloatFormats) (case : CaseDefinition) : List Text :=
  (case.inputTexts formats).flatMap fun text => (text.splitOn '|').map tidy

/-- The cases whose rows come back. -/
structure Representable (formats : FloatFormats) (explicit : Bool) (case : CaseDefinition) :
    Prop where
  locators : ∀ locator ∈ case.stepLocators, IsPiece locator
  inputs : ∀ i text, (consumedTexts formats case.steps)[i]? = some text →
    (case.segments formats).getD i [] = text
  uploads : ∀ step ∈ case.steps, step.operation ∈ ["upload", "daterange"] →
    strip isSpace (cellText formats step.input) ≠ []
  expected : strip isSpace (cellText formats case.assertion.expected) =
      cellText formats case.assertion.expected ∧
    (cellText formats case.assertion.expected = [] →
      strip isSpace (case.expectedResult.getD "").toList = [])
  assertionLocator : case.assertion.requiresLocator = true →
    strip isSpace (locatorText case.assertion.locator) = locatorText case.assertion.locator
  trailingLocator : explicit = false →
    locatorText case.assertion.locator ≠ lastLocator case.stepLocators →
      ',' ∉ locatorText case.assertion.locator

/-- The step that has been read does what the written one does. -/
def SameStep (formats : FloatFormats) (step read : StepDefinition) : Prop :=
  read.operation = step.operation ∧ locatorText read.locator = locatorText step.locator ∧
    (step.consumesInput = true → cellText formats read.input = cellText formats step.input)

def SameAssertion (formats : FloatFormats) (assertion read : AssertionDefinition) : Prop :=
  read.type = assertion.type ∧
    cellText formats read.expected = cellText formats assertion.expected ∧
    (assertion.requiresLocator = true → locatorText read.locator = locatorText assertion.locator)

/-- Reading the row gives the steps and the assertion of the case. -/
def ReadsBack (formats : FloatFormats) (case : CaseDefinition) (row : Row) : Prop :=
  ∃ steps assertion, convertCase formats row = .ok (steps, assertion) ∧
    List.Forall₂ (SameStep formats) case.steps steps ∧
    SameAssertion formats case.assertion assertion

/-! ### Pieces -/

theorem not_comma_of_mem_commaPieces {piece : Text} (h : piece ∈ commaPieces text) :
    IsPiece piece := by
  obtain ⟨part, hpart, rfl⟩ := List.mem_map.mp h
  refine ⟨fun hmem => not_mem_of_mem_splitOn hpart (mem_of_mem_trim hmem), ?_⟩
  exact trim_trim

theorem commaPieces_eq_singleton (h : ',' ∉ text) : commaPieces text = [strip isSpace text] := by
  rw [commaPieces, List.splitOn_eq_singleton h, List.map_singleton]

theorem IsPiece.commaPieces (h : IsPiece text) : commaPieces text = [text] := by
  rw [commaPieces_eq_singleton h.1, h.2]

theorem commaPieces_length_pos : 0 < (commaPieces text).length := by
  rw [commaPieces, List.length_map]
  exact List.length_pos_of_ne_nil (List.splitOn_ne_nil _ _)

/-- A text in one piece has no comma. -/
theorem not_comma_of_length_le (h : (commaPieces text).length ≤ 1) : ',' ∉ text := by
  rw [commaPieces, List.length_map] at h
  obtain ⟨piece, rest, hsplit⟩ := List.exists_cons_of_ne_nil (List.splitOn_ne_nil ',' text)
  have hrest : rest = [] := by
    rw [hsplit, List.length_cons] at h
    exact List.length_eq_zero_iff.mp (by omega)
  have hjoin : [','].intercalate (text.splitOn ',') = text := List.intercalate_splitOn ','
  rw [hsplit, hrest, List.intercalate_singleton] at hjoin
  rw [← hjoin]
  exact not_mem_of_mem_splitOn (hsplit ▸ List.mem_cons_self)

/-- Joining with a comma and a blank is joining with commas, up to the blanks. -/
theorem commaPieces_join {texts : List Text} (h : texts ≠ []) :
    commaPieces ([',', ' '].intercalate texts) = texts.flatMap commaPieces := by
  have hspace : ∀ text : Text, commaPieces (' ' :: text) = commaPieces text :=
    fun text => map_trim_splitOn_cons (by decide) (by decide)
  induction texts with
  | nil => exact absurd rfl h
  | cons text texts ih =>
    cases texts with
    | nil => simp
    | cons next texts =>
      rw [List.intercalate_cons_cons, List.append_assoc, List.cons_append, List.singleton_append,
        commaPieces, List.splitOn_append_cons_self, List.map_append, ← commaPieces, ← commaPieces,
        hspace, ih (by simp), List.flatMap_cons (x := text)]

theorem commaPieces_strip : commaPieces (strip isSpace text) = commaPieces text :=
  map_trim_splitOn_trim (by decide)

/-! ### Operations -/

/-- The operations of validated steps are read as they are written. -/
theorem commaPieces_keys {keys : List String} (h : ∀ key ∈ keys, isKey key = true)
    (hne : keys ≠ []) : ∃ cell, [','].intercalate (keys.map String.toList) = cell ∧ cell ≠ [] ∧
      strip isSpace cell = cell ∧ commaPieces cell = keys.map String.toList := by
  refine ⟨_, rfl, ?_, ?_, ?_⟩
  · obtain ⟨key, rest, rfl⟩ := List.exists_cons_of_ne_nil hne
    have hkey : key.toList ≠ [] := fun hnil =>
      (isKey_iff.mp (h key List.mem_cons_self)).1 (String.toList_eq_nil_iff.mp hnil)
    cases rest with
    | nil => simpa using hkey
    | cons next rest => simp [List.intercalate_cons_cons]
  · rw [strip_eq_trim]
    refine trim_eq_self fun c hc => ?_
    induction keys with
    | nil => exact absurd rfl hne
    | cons key keys ih =>
      obtain ⟨hkey, hkeys⟩ := List.forall_mem_cons.mp h
      have hplain := fun c hc => ((isKey_iff.mp hkey).2 c hc).1
      cases keys with
      | nil => exact hplain c (by simpa using hc)
      | cons next keys =>
        rw [List.map_cons, List.map_cons, List.intercalate_cons_cons, List.append_assoc] at hc
        rcases List.mem_append.mp hc with hc | hc
        · exact hplain c hc
        · rcases List.mem_append.mp hc with hc | hc
          · obtain rfl := List.mem_singleton.mp hc
            decide
          · exact ih hkeys (by simp) hc
  · have hpiece : ∀ text ∈ keys.map String.toList, commaPieces text = [text] := by
      intro text htext
      obtain ⟨key, hkey, rfl⟩ := List.mem_map.mp htext
      have hplain := (isKey_iff.mp (h key hkey)).2
      exact IsPiece.commaPieces ⟨fun hmem => (hplain _ hmem).2 rfl,
        trim_eq_self fun c hc => (hplain c hc).1⟩
    rw [commaPieces, splitOn_intercalate (by simpa using hne), List.map_flatMap]
    simp only [← commaPieces.eq_1]
    rw [List.flatMap_congr hpiece, List.flatMap_singleton']

/-! ### Steps -/

/-- What the steps take, one after the other, is what they have written. -/
def Consumes (formats : FloatFormats) : List StepDefinition → List Text → Prop
  | [], _ => True
  | step :: steps, inputs =>
    if step.consumesInput = true then
      inputs.headD [] = cellText formats step.input ∧ Consumes formats steps inputs.tail
    else Consumes formats steps inputs

/-- The `i`-th consuming step takes the `i`-th text, and an empty one when there are no more. -/
theorem consumes_iff : Consumes formats steps inputs ↔
    ∀ i text, (consumedTexts formats steps)[i]? = some text → inputs.getD i [] = text := by
  induction steps generalizing inputs with
  | nil => simp [Consumes, consumedTexts]
  | cons step steps ih =>
    rw [Consumes, consumedTexts, List.filter_cons]
    split
    · rw [ih, List.map_cons, ← consumedTexts]
      constructor
      · rintro ⟨hhead, htail⟩ i text hget
        cases i with
        | zero =>
          obtain rfl : cellText formats step.input = text := by simpa using hget
          rw [← hhead]
          cases inputs <;> rfl
        | succ i =>
          rw [← htail i text (by simpa using hget)]
          cases inputs <;> rfl
      · intro h
        refine ⟨?_, fun i text hget => ?_⟩
        · rw [← h 0 _ rfl]
          cases inputs <;> rfl
        · rw [← h (i + 1) text (by simpa using hget)]
          cases inputs <;> rfl
    · rw [ih, consumedTexts]

theorem cellText_eq_nil {input : StepInput} (h : cellText formats input = []) :
    input = .none ∨ input = .text "" := by
  cases input with
  | none => exact .inl rfl
  | text value => exact .inr (by rw [String.toList_eq_nil_iff.mp h])
  | bool value => cases value <;> cases h
  | float value => exact absurd h (formats.str_ne_nil value)
  | list values => cases h
  | dict entries => cases h
  | int value =>
    have hempty : toString value = "" := String.toList_eq_nil_iff.mp h
    cases value with
    | ofNat n => exact absurd hempty Nat.repr_ne_empty
    | negSucc n => exact absurd hempty (by simp [toString, Int.repr])

/-- The operations whose inputs are asked for by name take one. -/
theorem consumes_of_key {spec : CapabilitySpec} (h : spec ∈ operations)
    (hkey : spec.key ∈ ["nav", "upload", "daterange"]) : spec.consumesInput = true := by
  have hall : (operations.all fun spec =>
      spec.key ∈ ["nav", "upload", "daterange"] → spec.consumesInput = true) = true := by
    decide
  exact of_decide_eq_true (List.all_eq_true.mp hall spec h) hkey

@[simp] theorem readStep_locatorText {spec : CapabilitySpec} {locator input : Text} :
    locatorText (readStep spec locator input).locator = locator := by
  unfold readStep locatorText
  split
  · rename_i hnil
    rw [hnil]
    rfl
  · exact String.toList_ofList

theorem hasLocator_iff {locator : Option String} :
    hasLocator locator = true ↔ strip isSpace (locatorText locator) ≠ [] := by
  cases locator with
  | none => simp [hasLocator, locatorText, strip_eq_trim]
  | some text => simp [hasLocator, locatorText]

/-- The step that is read from what a validated step has written is valid. -/
theorem readStep_valid {spec : CapabilitySpec} {input : Text} (hspec : spec ∈ operations)
    (hkey : step.operation = spec.key) (hvalid : step.validate = .ok step)
    (hinput : spec.consumesInput = true → input = cellText formats step.input) :
    (readStep spec (locatorText step.locator) input).validate =
      .ok (readStep spec (locatorText step.locator) input) := by
  obtain ⟨spec', hspec', hkey', -, hlocator, hrequired, hnav⟩ :=
    StepDefinition.validate_eq_self.mp hvalid
  have hsame : spec' = spec := by
    have hnamed := (operations_named hspec).2.1
    have hnamed' := (operations_named hspec').2.1
    rw [← hkey', hkey, hnamed] at hnamed'
    exact (Option.some.inj hnamed').symm
  subst hsame
  rw [hasLocator_iff] at hlocator hnav
  refine StepDefinition.validate_eq_self.mpr ⟨spec', hspec, rfl, nofun, ?_, ?_, ?_⟩
  · rwa [hasLocator_iff, readStep_locatorText]
  · intro hrequires
    have hconsumes := (operations_named hspec).2.2 hrequires
    simp [readStep, hconsumes]
  · rintro ⟨hisNav, hblank⟩
    rw [hasLocator_iff, readStep_locatorText]
    have hconsumes := consumes_of_key hspec (hisNav ▸ List.mem_cons_self)
    rw [readStep, if_pos hconsumes] at hblank
    have hnil : input = [] := by
      rcases hblank with hnone | hempty
      · cases hnone
      · exact String.ofList_eq_empty_iff.mp (StepInput.text.inj hempty)
    exact hnav ⟨hisNav, cellText_eq_nil ((hinput hconsumes).symm.trans hnil)⟩

/-- The spec that a validated step carries the key of. -/
theorem spec_of_valid (h : step.validate = .ok step) : ∃ spec ∈ operations,
    step.operation = spec.key ∧ step.consumesInput = spec.consumesInput ∧
      getOperationSpec step.operation = .ok spec := by
  obtain ⟨spec, hspec, hkey, -⟩ := StepDefinition.validate_eq_self.mp h
  have hget := getOperationSpec_key hspec
  refine ⟨spec, hspec, hkey, ?_, hkey ▸ hget⟩
  rw [StepDefinition.consumesInput, hkey, found_eq_ok.mp hget, Option.any_some]

/-- The locators of the row are those of the steps, and their inputs come in order. -/
theorem convertSteps_iff {locators : List Text} (hlength : locators.length = steps.length)
    (hvalid : ∀ step ∈ steps, step.validate = .ok step) :
    (∃ read, convertSteps ((steps.map fun step => step.operation.toList).zip locators) inputs =
        .ok read ∧ List.Forall₂ (SameStep formats) steps read) ↔
      locators = steps.map (fun step => locatorText step.locator) ∧
      Consumes formats steps inputs ∧
      ∀ step ∈ steps, step.operation ∈ ["upload", "daterange"] →
        strip isSpace (cellText formats step.input) ≠ [] := by
  induction steps generalizing locators inputs with
  | nil =>
    obtain rfl := List.length_eq_zero_iff.mp hlength
    simp only [Consumes, List.map_nil, List.zip_nil_left, convertSteps, pure_eq_ok, List.not_mem_nil,
      false_implies, implies_true, and_true, iff_true]
    exact ⟨[], rfl, .nil⟩
  | cons step steps ih =>
    obtain ⟨locator, locators, rfl⟩ := List.exists_cons_of_length_eq_add_one hlength
    obtain ⟨hstep, hsteps⟩ := List.forall_mem_cons.mp hvalid
    obtain ⟨spec, hspec, hkey, hconsumes, hget⟩ := spec_of_valid hstep
    have hstepIff := @ih (if spec.consumesInput then inputs.tail else inputs) locators
      (Nat.succ.inj hlength) hsteps
    rw [List.map_cons, List.zip_cons_cons, Consumes, hconsumes]
    simp only [convertSteps, bind_eq_ok, ensure_eq_ok, pure_eq_ok, validated_eq_ok,
      String.ofList_toList]
    constructor
    · rintro ⟨read, ⟨spec', hspec', -, hupload, first, hfirst, rest, hrest, rfl⟩, hsame⟩
      obtain rfl := Except.ok.inj (hget.symm.trans hspec')
      obtain ⟨⟨-, hlocator, hinput⟩, hothers⟩ := List.forall₂_cons.mp hsame
      obtain ⟨hlocators, hconsumed, huploads⟩ := hstepIff.mp ⟨rest, hrest, hothers⟩
      obtain ⟨hread, hreadInput, -⟩ := StepDefinition.validate_fields hfirst
      rw [hread, readStep_locatorText] at hlocator
      have htext : spec.consumesInput = true → inputs.headD [] = cellText formats step.input := by
        intro htakes
        rw [← hinput (hconsumes.trans htakes), hreadInput, readStep, if_pos htakes]
        exact String.toList_ofList.symm
      refine ⟨by rw [hlocator, hlocators, List.map_cons], ?_, List.forall_mem_cons.mpr ⟨fun hname => ?_, huploads⟩⟩
      · split
        · rename_i htakes
          rw [if_pos htakes] at hconsumed
          exact ⟨htext htakes, hconsumed⟩
        · rename_i hleaves
          rwa [if_neg hleaves] at hconsumed
      · obtain ⟨htakes, hblank⟩ := hupload (hkey ▸ hname)
        rwa [htext htakes] at hblank
    · rintro ⟨hlocators, hconsumed, huploads⟩
      obtain ⟨rfl, rfl⟩ := List.cons.inj hlocators
      obtain ⟨hupload, huploads⟩ := List.forall_mem_cons.mp huploads
      have htext : spec.consumesInput = true → inputs.headD [] = cellText formats step.input := by
        intro htakes
        rw [if_pos htakes] at hconsumed
        exact hconsumed.1
      have hlater : Consumes formats steps (if spec.consumesInput then inputs.tail else inputs) := by
        split
        · rename_i htakes
          rw [if_pos htakes] at hconsumed
          exact hconsumed.2
        · rename_i hleaves
          rwa [if_neg hleaves] at hconsumed
      obtain ⟨rest, hrest, hothers⟩ := hstepIff.mpr ⟨rfl, hlater, huploads⟩
      refine ⟨_, ⟨spec, hget, (), fun hname => ?_, _, readStep_valid hspec hkey hstep htext, rest,
        hrest, rfl⟩, .cons ⟨hkey.symm, readStep_locatorText, fun htakes => ?_⟩ hothers⟩
      · have htakes := consumes_of_key hspec (List.mem_cons_of_mem _ hname)
        rw [htext htakes]
        exact ⟨htakes, hupload (hkey ▸ hname)⟩
      · rw [hconsumes] at htakes
        rw [← htext htakes, readStep, if_pos htakes]
        exact String.toList_ofList

/-! ### Locators -/

/-- The pieces of the cell of locators. -/
def CaseDefinition.pieces (explicit : Bool) (case : CaseDefinition) : List Text :=
  (slots explicit case).flatMap commaPieces

/-- The slots are the locators of the steps and, where it is appended, that of the assertion. -/
theorem slots_cases (explicit : Bool) (case : CaseDefinition) :
    (slots explicit case = case.stepLocators ∧ (explicit = false →
      locatorText case.assertion.locator = [] ∨
        locatorText case.assertion.locator = lastLocator case.stepLocators)) ∨
    slots explicit case = case.stepLocators ++ [locatorText case.assertion.locator] ∧
      explicit = false ∧ locatorText case.assertion.locator ≠ [] ∧
      locatorText case.assertion.locator ≠ lastLocator case.stepLocators := by
  simp only [slots]
  split
  · rename_i happended
    exact .inr ⟨rfl, happended.2.1, happended.1, happended.2.2⟩
  · rename_i hnot
    refine .inl ⟨rfl, fun hexplicit => ?_⟩
    by_contra hneither
    rw [not_or] at hneither
    exact hnot ⟨hneither.1, hexplicit, hneither.2⟩

theorem flatMap_commaPieces {texts : List Text} (h : ∀ text ∈ texts, IsPiece text) :
    texts.flatMap commaPieces = texts := by
  rw [List.flatMap_congr fun text htext => (h text htext).commaPieces, List.flatMap_singleton']

/-- The steps find their locators exactly when each is a piece of its own, and the assertion's has
    no comma where it is appended. -/
theorem pieces_iff :
    ((case.pieces explicit).length ≤ case.steps.length + 1 ∧
      (case.pieces explicit).take case.steps.length = case.stepLocators) ↔
    (∀ locator ∈ case.stepLocators, IsPiece locator) ∧
      (explicit = false → locatorText case.assertion.locator ≠ lastLocator case.stepLocators →
        ',' ∉ locatorText case.assertion.locator) := by
  have hlength : case.stepLocators.length = case.steps.length := List.length_map _
  have hplain : (case.pieces explicit).take case.steps.length = case.stepLocators →
      ∀ locator ∈ case.stepLocators, IsPiece locator := by
    intro htake locator hlocator
    rw [← htake] at hlocator
    obtain ⟨slot, -, hpiece⟩ := List.mem_flatMap.mp (List.mem_of_mem_take hlocator)
    exact not_comma_of_mem_commaPieces hpiece
  rcases slots_cases explicit case with ⟨hslots, hwhy⟩ | ⟨hslots, hexplicit, hne, hlast⟩
  · have hpieces : (∀ locator ∈ case.stepLocators, IsPiece locator) →
        case.pieces explicit = case.stepLocators := by
      intro hplain
      rw [CaseDefinition.pieces, hslots, flatMap_commaPieces hplain]
    constructor
    · rintro ⟨-, htake⟩
      refine ⟨hplain htake, fun hexplicit hlast => ?_⟩
      rcases hwhy hexplicit with hnil | hsame
      · rw [hnil]
        exact List.not_mem_nil
      · exact absurd hsame hlast
    · rintro ⟨hplain, -⟩
      rw [hpieces hplain, ← hlength]
      exact ⟨Nat.le_succ _, List.take_length⟩
  · have hpieces : (∀ locator ∈ case.stepLocators, IsPiece locator) → case.pieces explicit =
        case.stepLocators ++ commaPieces (locatorText case.assertion.locator) := by
      intro hplain
      rw [CaseDefinition.pieces, hslots, List.flatMap_append, flatMap_commaPieces hplain,
        List.flatMap_singleton]
    constructor
    · rintro ⟨hmany, htake⟩
      refine ⟨hplain htake, fun _ _ => not_comma_of_length_le ?_⟩
      rw [hpieces (hplain htake), List.length_append, hlength] at hmany
      omega
    · rintro ⟨hplain, hcomma⟩
      rw [hpieces hplain, commaPieces_eq_singleton (hcomma hexplicit hlast), ← hlength]
      exact ⟨by simp, List.take_left⟩

theorem pieces_length_ge : case.steps.length ≤ (case.pieces explicit).length := by
  have hslots : case.steps.length ≤ (slots explicit case).length := by
    have hlength : case.stepLocators.length = case.steps.length := List.length_map _
    rcases slots_cases explicit case with ⟨hslots, -⟩ | ⟨hslots, -⟩
    · rw [hslots, hlength]
    · rw [hslots, List.length_append, hlength]
      exact Nat.le_add_right _ _
  refine hslots.trans ?_
  rw [CaseDefinition.pieces, List.length_flatMap]
  have hone : ∀ texts : List Text, texts.length ≤ (texts.map (List.length ∘ commaPieces)).sum := by
    intro texts
    induction texts with
    | nil => exact Nat.le_refl _
    | cons text texts ih =>
      have hpos : 0 < (commaPieces text).length := commaPieces_length_pos
      simp only [List.map_cons, List.sum_cons, List.length_cons, Function.comp_apply]
      omega
  exact hone _

/-- Where the assertion needs a locator, it finds its own, trimmed. -/
theorem assertionLocator_eq (hplain : ∀ locator ∈ case.stepLocators, IsPiece locator)
    (hcomma : explicit = false →
      locatorText case.assertion.locator ≠ lastLocator case.stepLocators →
        ',' ∉ locatorText case.assertion.locator)
    (hlocator : strip isSpace (locatorText case.assertion.locator) ≠ []) :
    orText (if explicit then some (strip isSpace (locatorText case.assertion.locator)) else none)
        ((case.pieces explicit).reverse.find? (· ≠ [])) =
      some (strip isSpace (locatorText case.assertion.locator)) := by
  cases explicit with
  | true => simp [orText, hlocator]
  | false =>
    rw [if_neg Bool.false_ne_true, orText, Option.any_none, if_neg Bool.false_ne_true]
    have hne : locatorText case.assertion.locator ≠ [] := by
      intro hnil
      rw [hnil] at hlocator
      exact hlocator rfl
    rcases slots_cases false case with ⟨hslots, hwhy⟩ | ⟨hslots, -, -, hlast⟩
    · have hsame := (hwhy rfl).resolve_left hne
      rw [CaseDefinition.pieces, hslots, flatMap_commaPieces hplain]
      cases hfind : case.stepLocators.reverse.find? (· ≠ []) with
      | none =>
        rw [hsame, lastLocator, hfind] at hne
        exact absurd rfl hne
      | some locator =>
        rw [lastLocator, hfind, Option.getD_some] at hsame
        have hmem := List.mem_reverse.mp (List.mem_of_find?_eq_some hfind)
        rw [hsame, (hplain locator hmem).2]
    · rw [CaseDefinition.pieces, hslots, List.flatMap_append, List.flatMap_singleton,
        commaPieces_eq_singleton (hcomma rfl hlast), List.reverse_append, List.reverse_singleton,
        List.singleton_append, List.find?_cons_of_pos (by simpa using hlocator)]

/-! ### Rows -/

/-- The cells of a row that the positional rules read. -/
structure IsRow (formats : FloatFormats) (explicit : Bool) (case : CaseDefinition) (row : Row) :
    Prop where
  locators : row.get "元素定位器" = .text (locatorSlots explicit case)
  operations : row.get "操作类型" =
    .text ([','].intercalate (case.steps.map fun step => step.operation.toList))
  inputs : row.get "输入数据" = .text (inputData formats case)
  expectedResult : row.get "期望结果" = .text (case.expectedResult.getD "").toList
  expected : row.get "验证点" = .text (cellText formats case.assertion.expected)
  type : row.get "断言类型" = .text case.assertion.type.toList
  assertionLocator : row.get assertionLocatorColumn =
    if explicit then .text (locatorText case.assertion.locator) else .empty

theorem isRow_caseRow {template : RuntimeTemplate}
    (h : ∀ column ∈ requiredRuntimeColumns, column ∈ template.headers) :
    IsRow formats (assertionLocatorColumn ∈ template.headers) case
      (caseRow formats template case) where
  locators := (Row.get_writtenRow (h _ (by decide))).trans rfl
  operations := (Row.get_writtenRow (h _ (by decide))).trans rfl
  inputs := (Row.get_writtenRow (h _ (by decide))).trans rfl
  expectedResult := (Row.get_writtenRow (h _ (by decide))).trans rfl
  expected := (Row.get_writtenRow (h _ (by decide))).trans rfl
  type := (Row.get_writtenRow (h _ (by decide))).trans rfl
  assertionLocator := by
    by_cases hcolumn : assertionLocatorColumn ∈ template.headers
    · rw [caseRow, Row.get_writtenRow hcolumn, decide_eq_true hcolumn]
      rfl
    · rw [Row.get, caseRow, lookup_writtenRow, if_neg hcolumn, decide_eq_false hcolumn]
      rfl

theorem Row.text_eq {column : String} (h : row.get column = .text text) :
    row.text formats column = some (strip isSpace text) := by
  rw [Row.text, h]
  rfl

theorem requiredText_eq {column : String} (h : row.get column = .text text)
    (hne : strip isSpace text ≠ []) :
    requiredText formats row column = .ok (strip isSpace text) := by
  rw [requiredText, found_eq_ok, Row.text_eq h, Option.filter_some_pos (by simpa using hne)]

/-- The locators that are read are the pieces of the cell; where the cell is blank, the only step
    finds the one blank piece all the same. -/
theorem splitLocators_row (hrow : IsRow formats explicit case row) (hsteps : case.steps ≠ []) :
    ∃ locators, splitLocators (row.text formats "元素定位器") = locators ∧
      (locators.length ≤ case.steps.length + 1 ↔
        (case.pieces explicit).length ≤ case.steps.length + 1) ∧
      locators.take case.steps.length ++
          List.replicate (case.steps.length - locators.length) [] =
        (case.pieces explicit).take case.steps.length ∧
      locators.reverse.find? (· ≠ []) = (case.pieces explicit).reverse.find? (· ≠ []) := by
  have hlength : case.steps.length ≤ (case.pieces explicit).length := pieces_length_ge
  have hpositive := List.length_pos_of_ne_nil hsteps
  have hslots : slots explicit case ≠ [] := by
    rintro hnil
    rw [CaseDefinition.pieces, hnil, List.flatMap_nil, List.length_nil] at hlength
    omega
  have hpieces : commaPieces (locatorSlots explicit case) = case.pieces explicit :=
    commaPieces_join hslots
  rw [Row.text_eq hrow.locators]
  by_cases hblank : strip isSpace (locatorSlots explicit case) = []
  · have hcomma : ',' ∉ locatorSlots explicit case := by
      intro hmem
      have hspace := (trim_eq_nil_iff.mp hblank) _ hmem
      exact absurd hspace (by decide)
    rw [commaPieces_eq_singleton hcomma, hblank] at hpieces
    rw [← hpieces, List.length_singleton] at hlength
    have hone : case.steps.length = 1 := by omega
    refine ⟨_, rfl, ?_, ?_, ?_⟩
    · simp [splitLocators, hblank, ← hpieces]
    · simp [splitLocators, hblank, ← hpieces, hone]
    · simp [splitLocators, hblank, ← hpieces]
  · have hlocators : splitLocators (some (strip isSpace (locatorSlots explicit case))) =
        case.pieces explicit := by
      rw [← hpieces, ← commaPieces_strip]
      unfold splitLocators
      split
      · rename_i hnone
        cases hnone
      · rename_i hnil
        exact absurd (Option.some.inj hnil) hblank
      · rename_i text hsome
        rw [Option.some.inj hsome]
    refine ⟨_, hlocators, Iff.rfl, ?_, rfl⟩
    rw [Nat.sub_eq_zero_of_le hlength, List.replicate_zero, List.append_nil]

/-- The assertion that is read from a row. -/
def readAssertion (formats : FloatFormats) (explicit : Bool) (case : CaseDefinition) :
    AssertionDefinition where
  type := case.assertion.type
  expected := .text (String.ofList
    (if strip isSpace (cellText formats case.assertion.expected) ≠ [] then
      strip isSpace (cellText formats case.assertion.expected)
    else strip isSpace (case.expectedResult.getD "").toList))
  locator := (orText
    (if explicit then some (strip isSpace (locatorText case.assertion.locator)) else none)
    ((case.pieces explicit).reverse.find? (· ≠ []))).map String.ofList
  timeoutSeconds := none

/-- What reading a row comes to. -/
theorem convertCase_eq_ok (hrow : IsRow formats explicit case row) (hvalid : case.Validated)
    {read : List StepDefinition} {assertion : AssertionDefinition} :
    convertCase formats row = .ok (read, assertion) ↔
      (case.pieces explicit).length ≤ case.steps.length + 1 ∧
      convertSteps ((case.steps.map fun step => step.operation.toList).zip
          ((case.pieces explicit).take case.steps.length))
        (splitLegacyData (some (inputData formats case))) = .ok read ∧
      (readAssertion formats explicit case).validate = .ok assertion := by
  obtain ⟨spec, hspec, htype, -⟩ := AssertionDefinition.validate_eq_self.mp hvalid.assertion
  have htypeKey := (assertions_named hspec).1
  have hkeys : ∀ key ∈ case.steps.map StepDefinition.operation, isKey key = true := by
    intro key hkey
    obtain ⟨step, hstep, rfl⟩ := List.mem_map.mp hkey
    obtain ⟨spec, hspec, hoperation, -⟩ := spec_of_valid (hvalid.steps step hstep)
    exact hoperation ▸ (operations_named hspec).1
  obtain ⟨cell, hcell, hcellNe, hcellStrip, hcellPieces⟩ := commaPieces_keys hkeys
    (by simpa using hvalid.steps_ne_nil)
  rw [List.map_map] at hcell hcellPieces
  obtain ⟨locators, hlocators, hlength, htake, hlast⟩ := splitLocators_row hrow
    hvalid.steps_ne_nil
  have hoperations : requiredText formats row "操作类型" = .ok cell := by
    have hget : row.get "操作类型" = .text cell := hrow.operations.trans (congrArg Cell.text hcell)
    rw [requiredText_eq hget (by rwa [hcellStrip]), hcellStrip]
  have htypeText : requiredText formats row "断言类型" = .ok case.assertion.type.toList := by
    have hstrip : strip isSpace case.assertion.type.toList = case.assertion.type.toList := by
      rw [htype]
      exact strip_key htypeKey fun c hc => hc
    have hne : case.assertion.type.toList ≠ [] := by
      rw [htype]
      exact fun hnil => (isKey_iff.mp htypeKey).1 (String.toList_eq_nil_iff.mp hnil)
    rw [requiredText_eq hrow.type (by rwa [hstrip]), hstrip]
  have hget : getAssertionSpec (String.ofList case.assertion.type.toList) = .ok spec := by
    rw [String.ofList_toList, htype, getAssertionSpec_key hspec]
  have hcolumn : row.text formats assertionLocatorColumn =
      if explicit then some (strip isSpace (locatorText case.assertion.locator)) else none := by
    rw [Row.text, hrow.assertionLocator]
    cases explicit <;> rfl
  have hnames : ∀ name ∈ commaPieces cell, name ≠ [] := by
    intro name hname
    rw [hcellPieces] at hname
    obtain ⟨step, hstep, rfl⟩ := List.mem_map.mp hname
    exact fun hnil => (isKey_iff.mp (hkeys _ (List.mem_map_of_mem hstep))).1
      (String.toList_eq_nil_iff.mp hnil)
  have hcount : (commaPieces cell).length = case.steps.length := by
    rw [hcellPieces, List.length_map]
  have hinputs : (row.get "输入数据").rawText formats = some (inputData formats case) := by
    rw [hrow.inputs]
    rfl
  have hexpected : orText (row.text formats "验证点") (row.text formats "期望结果") =
      some (if strip isSpace (cellText formats case.assertion.expected) ≠ [] then
        strip isSpace (cellText formats case.assertion.expected)
      else strip isSpace (case.expectedResult.getD "").toList) := by
    rw [Row.text_eq hrow.expected, Row.text_eq hrow.expectedResult, orText, Option.any_some]
    split <;> simp_all
  simp only [convertCase, bind_eq_ok, ensure_eq_ok, pure_eq_ok, validated_eq_ok, hoperations,
    htypeText, Except.ok.injEq, exists_eq_left', hget, hlocators, hcount, hlength, htake, hlast,
    hcolumn, hinputs, hexpected, Prod.mk.injEq]
  constructor
  · rintro ⟨-, -, -, hfew, read', hread, assertion', hassertion, rfl, rfl⟩
    rw [← htype] at hassertion
    rw [hcellPieces] at hread
    exact ⟨hfew, hread, hassertion⟩
  · rintro ⟨hfew, hread, hassertion⟩
    refine ⟨(), hnames, (), hfew, read, ?_, assertion, ?_, rfl, rfl⟩
    · rw [hcellPieces]
      exact hread
    · rw [← htype]
      exact hassertion

/-! ### Inputs -/

/-- The pieces that are there to be taken are the segments of the inputs. -/
theorem splitLegacyData_getD (i : Nat) :
    (splitLegacyData (some (inputData formats case))).getD i [] =
      (case.segments formats).getD i [] := by
  have hsegments : case.inputTexts formats ≠ [] →
      ((inputData formats case).splitOn '|').map tidy = case.segments formats := by
    intro hne
    rw [inputData, splitOn_intercalate hne, List.map_flatMap, CaseDefinition.segments]
  by_cases hnone : case.inputTexts formats = []
  · rw [inputData, CaseDefinition.segments, hnone]
    rfl
  · rw [← hsegments hnone]
    cases hdata : inputData formats case with
    | nil => cases i <;> rfl
    | cons c rest => rfl

/-! ### Round trips -/

/-- A text comes back as itself, or as the text that stands in for a blank one. -/
theorem expected_iff {text other : Text} :
    (if strip isSpace text ≠ [] then strip isSpace text else strip isSpace other) = text ↔
      strip isSpace text = text ∧ (text = [] → strip isSpace other = []) := by
  have htwice : ∀ text : Text, strip isSpace (strip isSpace text) = strip isSpace text :=
    fun text => trim_trim
  by_cases hblank : strip isSpace text = []
  · rw [if_neg (not_not.mpr hblank)]
    constructor
    · rintro rfl
      exact ⟨htwice other, id⟩
    · rintro ⟨hsame, hother⟩
      have hnil : text = [] := hsame.symm.trans hblank
      rw [hother hnil, hnil]
  · rw [if_pos hblank]
    refine ⟨fun hsame => ⟨hsame, ?_⟩, And.left⟩
    rintro rfl
    exact absurd rfl hblank

/-- An assertion that needs a locator has one. -/
theorem hasLocator_of_requires {assertion : AssertionDefinition}
    (hvalid : assertion.validate = .ok assertion) (hrequires : assertion.requiresLocator = true) :
    strip isSpace (locatorText assertion.locator) ≠ [] := by
  obtain ⟨spec, hspec, htype, -, hlocator⟩ := AssertionDefinition.validate_eq_self.mp hvalid
  rw [AssertionDefinition.requiresLocator, htype, found_eq_ok.mp (getAssertionSpec_key hspec),
    Option.any_some] at hrequires
  exact hasLocator_iff.mp (hlocator hrequires)

/-- The row of a case comes back exactly when the case is representable. -/
theorem readsBack_iff (hrow : IsRow formats explicit case row) (hvalid : case.Validated) :
    ReadsBack formats case row ↔ Representable formats explicit case := by
  have htake : ((case.pieces explicit).take case.steps.length).length = case.steps.length := by
    rw [List.length_take, Nat.min_eq_left pieces_length_ge]
  have hinputs : Consumes formats case.steps (splitLegacyData (some (inputData formats case))) ↔
      ∀ i text, (consumedTexts formats case.steps)[i]? = some text →
        (case.segments formats).getD i [] = text := by
    simp only [consumes_iff, splitLegacyData_getD]
  have hexpected : cellText formats (readAssertion formats explicit case).expected =
      cellText formats case.assertion.expected ↔ strip isSpace (cellText formats
        case.assertion.expected) = cellText formats case.assertion.expected ∧
      (cellText formats case.assertion.expected = [] →
        strip isSpace (case.expectedResult.getD "").toList = []) := by
    rw [← expected_iff, readAssertion, cellText, String.toList_ofList]
  have hlocator : (∀ locator ∈ case.stepLocators, IsPiece locator) →
      (explicit = false → locatorText case.assertion.locator ≠ lastLocator case.stepLocators →
        ',' ∉ locatorText case.assertion.locator) → case.assertion.requiresLocator = true →
      locatorText (readAssertion formats explicit case).locator =
        strip isSpace (locatorText case.assertion.locator) := by
    intro hplain hcomma hrequires
    rw [readAssertion, assertionLocator_eq hplain hcomma
      (hasLocator_of_requires hvalid.assertion hrequires), locatorText, Option.map_some,
      Option.getD_some, String.toList_ofList]
  constructor
  · rintro ⟨read, assertion, hconvert, hsteps, -, hsame, hsameLocator⟩
    obtain ⟨hfew, hread, hassertion⟩ := (convertCase_eq_ok hrow hvalid).mp hconvert
    obtain ⟨hlocators, hconsumes, huploads⟩ :=
      (convertSteps_iff htake hvalid.steps).mp ⟨read, hread, hsteps⟩
    obtain ⟨hplain, hcomma⟩ := pieces_iff.mp ⟨hfew, hlocators⟩
    obtain ⟨hreadLocator, hreadExpected⟩ := AssertionDefinition.validate_fields hassertion
    refine ⟨hplain, hinputs.mp hconsumes, huploads, hexpected.mp ?_, fun hrequires => ?_, hcomma⟩
    · rw [← hsame, hreadExpected]
    · rw [← hsameLocator hrequires, hreadLocator, hlocator hplain hcomma hrequires]
      exact trim_trim
  · intro h
    obtain ⟨hfew, hlocators⟩ := pieces_iff.mpr ⟨h.locators, h.trailingLocator⟩
    obtain ⟨read, hread, hsteps⟩ := (convertSteps_iff htake hvalid.steps).mpr
      ⟨hlocators, hinputs.mpr h.inputs, h.uploads⟩
    have hassertion : (readAssertion formats explicit case).validate =
        .ok (readAssertion formats explicit case) := by
      obtain ⟨spec, hspec, htype, -⟩ := AssertionDefinition.validate_eq_self.mp hvalid.assertion
      refine AssertionDefinition.validate_eq_self.mpr ⟨spec, hspec, htype, nofun, fun hneeds => ?_⟩
      have hrequires : case.assertion.requiresLocator = true := by
        rw [AssertionDefinition.requiresLocator, htype,
          found_eq_ok.mp (getAssertionSpec_key hspec), Option.any_some, hneeds]
      rw [hasLocator_iff, hlocator h.locators h.trailingLocator hrequires,
        h.assertionLocator hrequires]
      exact h.assertionLocator hrequires ▸ hasLocator_of_requires hvalid.assertion hrequires
    refine ⟨read, _, (convertCase_eq_ok hrow hvalid).mpr ⟨hfew, hread, hassertion⟩, hsteps, rfl,
      hexpected.mpr h.expected, fun hrequires => ?_⟩
    rw [hlocator h.locators h.trailingLocator hrequires, h.assertionLocator hrequires]

/-- A text that is consumed has no bar and is trimmed, unless it is blank. -/
theorem Representable.consumed (h : Representable formats explicit case)
    (htext : text ∈ consumedTexts formats case.steps) : '|' ∉ text ∧ tidy text = text := by
  have hpieces : ∀ piece ∈ case.segments formats, '|' ∉ piece ∧ tidy piece = piece := by
    intro piece hpiece
    obtain ⟨input, -, hmem⟩ := List.mem_flatMap.mp hpiece
    obtain ⟨part, hpart, rfl⟩ := List.mem_map.mp hmem
    have hbar := not_mem_of_mem_splitOn hpart
    unfold tidy
    split
    · rename_i hvisible
      refine ⟨fun hmem => hbar (mem_of_mem_trim hmem), ?_⟩
      have htwice : strip isSpace (strip isSpace part) = strip isSpace part := trim_trim
      rw [htwice, if_pos hvisible]
    · rename_i hblank
      exact ⟨hbar, rfl⟩
  obtain ⟨i, hi, rfl⟩ := List.mem_iff_getElem.mp htext
  rw [← h.inputs i _ (List.getElem?_eq_getElem hi)]
  cases hpiece : (case.segments formats)[i]? with
  | none =>
    rw [List.getD_eq_getElem?_getD, hpiece]
    exact ⟨List.not_mem_nil, rfl⟩
  | some piece =>
    rw [List.getD_eq_getElem?_getD, hpiece]
    exact hpieces piece (List.mem_of_getElem? hpiece)

/-- Inputs come in order when the steps that have one are those that consume one. -/
theorem segments_eq_consumedTexts
    (hconsumes : ∀ step ∈ case.steps, step.input ≠ .none ↔ step.consumesInput = true)
    (hplain : ∀ text ∈ consumedTexts formats case.steps, '|' ∉ text ∧ tidy text = text) :
    case.segments formats = consumedTexts formats case.steps := by
  have hwritten : case.inputTexts formats = consumedTexts formats case.steps := by
    rw [CaseDefinition.inputTexts, consumedTexts]
    congr 1
    refine List.filter_congr fun step hstep => ?_
    rw [Bool.eq_iff_iff, decide_eq_true_eq]
    exact hconsumes step hstep
  have hone : ∀ text ∈ consumedTexts formats case.steps,
      (text.splitOn '|').map tidy = [text] := by
    intro text htext
    rw [List.splitOn_eq_singleton (hplain text htext).1, List.map_singleton,
      (hplain text htext).2]
  rw [CaseDefinition.segments, hwritten, List.flatMap_congr hone, List.flatMap_singleton']

/-! ### Workbooks -/

theorem not_isSpace_of_upperAlnum {c : Char} (h : (isUpperAlnum c || c == '-') = true) :
    isSpace c = false := by
  have hrange : (65 ≤ c.toNat ∧ c.toNat ≤ 90) ∨ (48 ≤ c.toNat ∧ c.toNat ≤ 57) ∨ c.toNat = 45 := by
    simp only [isUpperAlnum, Bool.or_eq_true, Bool.and_eq_true, decide_eq_true_eq, beq_iff_eq] at h
    rcases h with (hupper | hdigit) | rfl
    · exact .inl hupper
    · exact .inr (.inl hdigit)
    · exact .inr (.inr rfl)
  simp only [isSpace, decide_eq_false_iff_not]
  omega

/-- Nothing is stripped off a case code. -/
theorem strip_caseCode {code : String} (h : caseCodePattern code = true) :
    code.toList ≠ [] ∧ strip isSpace code.toList = code.toList := by
  have hloose := looseCaseCodePattern_of_caseCodePattern h
  rw [looseCaseCodePattern, Option.any_eq_true] at hloose
  obtain ⟨body, hbody, hall⟩ := hloose
  rw [Bool.and_eq_true, List.all_eq_true] at hall
  unfold caseCodeBody at hbody
  split at hbody
  · rename_i tail hcode
    obtain rfl := Option.some.inj hbody
    rw [hcode]
    refine ⟨List.cons_ne_nil _ _, trim_eq_self fun c hc => ?_⟩
    rcases List.mem_cons.mp hc with rfl | hc
    · decide
    · rcases List.mem_cons.mp hc with rfl | hc
      · decide
      · rcases List.mem_cons.mp hc with rfl | hc
        · decide
        · exact not_isSpace_of_upperAlnum (hall.2 c hc)
  · cases hbody

theorem actualCodes_caseRows {template : RuntimeTemplate} {cases : List CaseDefinition}
    (h : "用例ID" ∈ template.headers) : actualCodes (cases.map (caseRow formats template)) =
      cases.map fun case => case.caseCode.toList := by
  have hrow : ∀ case : CaseDefinition, (caseRow formats template case).get "用例ID" =
      .text case.caseCode.toList := fun case => (Row.get_writtenRow h).trans rfl
  induction cases with
  | nil => rfl
  | cons case cases ih =>
    obtain ⟨hne, hstrip⟩ := strip_caseCode case.caseCodeFormed
    rw [List.map_cons, List.map_cons, actualCodes, List.filterMap_cons, hrow]
    simp only [if_pos hne, hstrip]
    rw [← ih, actualCodes]

/-- Cases are written unless a column is missing. -/
theorem materialize_eq_ok {template : RuntimeTemplate} {cases : List CaseDefinition}
    {baseline : CaseBaselineRef} {rows : List Row} {evidence : RuntimeEvidence} :
    materializeRuntimeWorkbook formats template cases baseline = .ok (rows, evidence) ↔
      (∀ column ∈ requiredRuntimeColumns, column ∈ template.headers) ∧
      rows = cases.map (caseRow formats template) ∧
      evidence = ⟨baseline.version, baseline.digest, cases.length,
        cases.map CaseDefinition.caseCode⟩ := by
  have hmissing : requiredRuntimeColumns.filter (· ∉ template.headers) = [] ↔
      ∀ column ∈ requiredRuntimeColumns, column ∈ template.headers := by
    simp [List.filter_eq_nil_iff]
  simp only [materializeRuntimeWorkbook, bind_eq_ok, ensure_eq_ok, pure_eq_ok, hmissing,
    Prod.mk.injEq]
  constructor
  · rintro ⟨-, hcolumns, -, -, rfl, rfl⟩
    exact ⟨hcolumns, rfl, rfl⟩
  · rintro ⟨hcolumns, rfl, rfl⟩
    exact ⟨(), hcolumns, (), actualCodes_caseRows (hcolumns _ (by decide)), rfl, rfl⟩

/-- Validated cases are written unless a column is missing, and of the rows that have been written
    those of the representable cases, and only those, give their steps and assertion back. -/
theorem workbook_roundTrip {template : RuntimeTemplate} {cases : List CaseDefinition}
    {baseline : CaseBaselineRef} (hcases : ∀ case ∈ cases, case.Validated) :
    ((∃ error, materializeRuntimeWorkbook formats template cases baseline = .error error) ↔
      ∃ column ∈ requiredRuntimeColumns, column ∉ template.headers) ∧
    ∀ rows evidence,
      materializeRuntimeWorkbook formats template cases baseline = .ok (rows, evidence) →
      List.Forall₂ (fun case row => ReadsBack formats case row ↔
        Representable formats (assertionLocatorColumn ∈ template.headers) case) cases rows := by
  constructor
  · rw [← not_iff_not]
    push Not
    constructor
    · intro hno
      cases hmaterialize : materializeRuntimeWorkbook formats template cases baseline with
      | error error => exact absurd hmaterialize (hno error)
      | ok result => exact (materialize_eq_ok.mp hmaterialize).1
    · intro hcolumns error herror
      have hok : materializeRuntimeWorkbook formats template cases baseline =
          .ok (cases.map (caseRow formats template), ⟨baseline.version, baseline.digest,
            cases.length, cases.map CaseDefinition.caseCode⟩) :=
        materialize_eq_ok.mpr ⟨hcolumns, rfl, rfl⟩
      rw [hok] at herror
      cases herror
  · intro rows evidence hok
    obtain ⟨hcolumns, rfl, -⟩ := materialize_eq_ok.mp hok
    rw [List.forall₂_map_right_iff, List.forall₂_same]
    exact fun case hcase => readsBack_iff (isRow_caseRow hcolumns) (hcases case hcase)

/-! ### Two rows -/

instance decidableConsumes : ∀ (steps : List StepDefinition) (inputs : List Text),
    Decidable (Consumes formats steps inputs)
  | [], _ => inferInstanceAs (Decidable True)
  | step :: steps, inputs =>
    have := decidableConsumes steps inputs
    have := decidableConsumes steps inputs.tail
    inferInstanceAs (Decidable (if step.consumesInput = true then
      inputs.headD [] = cellText formats step.input ∧ Consumes formats steps inputs.tail
      else Consumes formats steps inputs))

instance : Decidable (Representable formats explicit case) :=
  decidable_of_iff
    ((∀ locator ∈ case.stepLocators, IsPiece locator) ∧
      Consumes formats case.steps (case.segments formats) ∧
      (∀ step ∈ case.steps, step.operation ∈ ["upload", "daterange"] →
        strip isSpace (cellText formats step.input) ≠ []) ∧
      (strip isSpace (cellText formats case.assertion.expected) =
          cellText formats case.assertion.expected ∧
        (cellText formats case.assertion.expected = [] →
          strip isSpace (case.expectedResult.getD "").toList = [])) ∧
      (case.assertion.requiresLocator = true →
        strip isSpace (locatorText case.assertion.locator) =
          locatorText case.assertion.locator) ∧
      (explicit = false → locatorText case.assertion.locator ≠ lastLocator case.stepLocators →
        ',' ∉ locatorText case.assertion.locator))
    ⟨fun ⟨h₁, h₂, h₃, h₄, h₅, h₆⟩ => ⟨h₁, consumes_iff.mp h₂, h₃, h₄, h₅, h₆⟩,
      fun h => ⟨h.locators, consumes_iff.mpr h.inputs, h.uploads, h.expected, h.assertionLocator,
        h.trailingLocator⟩⟩

instance : Decidable case.Validated :=
  decidable_of_iff
    (case.steps ≠ [] ∧
      (∀ step ∈ case.steps, ∃ spec ∈ operations, step.operation = spec.key ∧
        (∀ seconds ∈ step.timeoutSeconds, 0 < seconds ∧ seconds ≤ 600) ∧
        (spec.requiresLocator = true → hasLocator step.locator = true) ∧
        (spec.requiresInput = true → step.input ≠ .none) ∧
        (spec.key = "nav" ∧ (step.input = .none ∨ step.input = .text "") →
          hasLocator step.locator = true)) ∧
      ∃ spec ∈ assertions, case.assertion.type = spec.key ∧
        (∀ seconds ∈ case.assertion.timeoutSeconds, 0 < seconds ∧ seconds ≤ 600) ∧
        (spec.requiresLocator = true → hasLocator case.assertion.locator = true))
    ⟨fun ⟨h₁, h₂, h₃⟩ => ⟨h₁, fun step hstep => StepDefinition.validate_eq_self.mpr (h₂ step hstep),
        AssertionDefinition.validate_eq_self.mpr h₃⟩,
      fun h => ⟨h.steps_ne_nil,
        fun step hstep => StepDefinition.validate_eq_self.mp (h.steps step hstep),
        AssertionDefinition.validate_eq_self.mp h.assertion⟩⟩

namespace LegacyWorkbook

/-- A step of a web page. -/
def stepOf (operation : String) (locator : Option String) (input : StepInput) :
    StepDefinition := ⟨operation, locator, input, none⟩

theorem loginCode_formed : caseCodePattern "TC-A-1" = true := by decide

/-- Log in and see a greeting. -/
def login (steps : List StepDefinition) : CaseDefinition where
  caseId := 1
  caseCode := "TC-A-1"
  moduleKey := "login"
  moduleName := "Login"
  title := "Log in"
  testPoint := "Log in"
  priority := .p1
  preconditions := []
  steps := steps
  assertion := ⟨"element_visible", .text "Welcome", some "#greeting", none⟩
  tags := []
  enabled := true
  sourceInstructions := none
  dataType := none
  expectedResult := none
  timeoutSeconds := none
  sourceTrace := none
  notes := none
  executionGroup := none
  caseCodeFormed := loginCode_formed

def wholeFormats : FloatFormats where
  str value := (toString value.num).toList ++ ".0".toList
  general value := (toString value.num).toList
  str_ne_nil value := by simp

def template : RuntimeTemplate := ⟨requiredRuntimeColumns ++ ["执行分组"], []⟩

def baseline : CaseBaselineRef := ⟨10, "case-v1.0.0", 0, 1⟩

def plainLogin : CaseDefinition :=
  login [stepOf "nav" none (.text "https://shop.example"), stepOf "input" (some "#user")
    (.text "ada"), stepOf "click" (some "#go") .none]

theorem columns_complete : ∀ column ∈ requiredRuntimeColumns, column ∈ template.headers :=
  fun _ hcolumn => List.mem_append_left _ hcolumn

/-- Either button is clicked. -/
def eitherButton : CaseDefinition := login [stepOf "click" (some "#go, #submit") .none]

end LegacyWorkbook

open LegacyWorkbook in
/-- The plain login comes back. -/
theorem workbook_roundTrip_login : ∃ rows evidence,
    materializeRuntimeWorkbook wholeFormats template [plainLogin] baseline = .ok (rows, evidence) ∧
    List.Forall₂ (ReadsBack wholeFormats) [plainLogin] rows := by
  have hvalid : ∀ case ∈ [plainLogin], case.Validated := by
    decide
  have hrepresentable : Representable wholeFormats
      (assertionLocatorColumn ∈ template.headers) plainLogin := by
    decide
  have hok : materializeRuntimeWorkbook wholeFormats template [plainLogin] baseline =
      .ok ([plainLogin].map (caseRow wholeFormats template),
        ⟨baseline.version, baseline.digest, 1, ["TC-A-1"]⟩) :=
    materialize_eq_ok.mpr ⟨columns_complete, rfl, rfl⟩
  refine ⟨_, _, hok, ?_⟩
  have hread := (workbook_roundTrip hvalid).2 _ _ hok
  rw [List.forall₂_map_right_iff, List.forall₂_same] at hread ⊢
  exact List.forall_mem_singleton.mpr
    ((hread plainLogin List.mem_cons_self).mpr hrepresentable)

open LegacyWorkbook in
/-- Of a locator with a comma, only the first part comes back. -/
theorem workbook_row_changed : eitherButton.Validated ∧ ∃ rows evidence,
    materializeRuntimeWorkbook wholeFormats template [eitherButton] baseline =
      .ok (rows, evidence) ∧ ¬List.Forall₂ (ReadsBack wholeFormats) [eitherButton] rows := by
  have hvalid : eitherButton.Validated := by
    decide
  refine ⟨hvalid, _, _, materialize_eq_ok.mpr ⟨columns_complete, rfl, rfl⟩, fun hread => ?_⟩
  rw [List.forall₂_map_right_iff, List.forall₂_same] at hread
  have hrepresentable := (readsBack_iff (isRow_caseRow columns_complete) hvalid).mp
    (hread eitherButton List.mem_cons_self)
  exact absurd hrepresentable (by decide)

end TestOps

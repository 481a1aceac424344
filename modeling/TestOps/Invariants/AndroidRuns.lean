import TestOps.Runners.AndroidAppium

/-! What a run of the Android adapter may do to a device, and what it reports. The launcher is called
    for the preflight and for at most two rounds:

      round 1   every enabled case          flags by the tags of its cases, behind the preflight
      round 2   failed readonly cases       none of the three mutation flags

    A case that changes data is in round 1 only. What round 1 has reported survives a second round
    that ends, and is overwritten by one that raises. -/

namespace TestOps.Android

open Checked Traced

variable {py : PythonLibrary} {setup : Setup} {world : World} {job : RunSnapshot}
  {cases : List CaseDefinition} {environment : List (String × String)} {secrets : List String}
  {before : List Action}

/-! ### Tags -/

/-- The case changes the data of a customer. -/
def Mutating (py : PythonLibrary) (case : CaseDefinition) : Prop :=
  ∃ tag ∈ mutationTags, tagged py tag case = true

/-- The case must not be run twice. -/
def NeverRepeated (py : PythonLibrary) (case : CaseDefinition) : Prop :=
  ∃ tag ∈ mutationTags ++ ["no_retry"], tagged py tag case = true

theorem lower_tag {tag : String} (h : tag ∈ mutationTags) : py.lower tag = tag := by
  refine py.lower_lowercase tag ?_
  simp only [mutationTags, List.mem_cons, List.not_mem_nil, or_false] at h
  rcases h with rfl | rfl | rfl <;> simp

theorem hasTag_iff {tag : String} (h : tag ∈ mutationTags) :
    hasTag py cases tag = true ↔ ∃ case ∈ cases, tagged py tag case = true := by
  rw [hasTag, lower_tag h, List.any_eq_true]

theorem requiresPreflight_iff :
    requiresPreflight py cases = true ↔ ∃ case ∈ cases, Mutating py case := by
  rw [requiresPreflight, List.any_eq_true]
  constructor
  · rintro ⟨tag, htag, hhas⟩
    obtain ⟨case, hcase, htagged⟩ := (hasTag_iff htag).mp hhas
    exact ⟨case, hcase, tag, htag, htagged⟩
  · rintro ⟨case, hcase, tag, htag, htagged⟩
    exact ⟨tag, htag, (hasTag_iff htag).mpr ⟨case, hcase, htagged⟩⟩

theorem not_neverRepeated {case : CaseDefinition} (h : isRetryable py case = true) :
    ¬NeverRepeated py case := by
  rintro ⟨tag, htag, htagged⟩
  have hall := (of_decide_eq_true h).2 tag htag
  rw [htagged] at hall
  cases hall

theorem Mutating.neverRepeated {case : CaseDefinition} (h : Mutating py case) :
    NeverRepeated py case := by
  obtain ⟨tag, htag, htagged⟩ := h
  exact ⟨tag, List.mem_append_left _ htag, htagged⟩

/-! ### Flags -/

def mutationFlags : List String := ["-AllowMutation", "-CustomerPreflightVerified"]

theorem mem_flag {name other : String} {given : Bool} :
    name ∈ flag other given ↔ given = true ∧ name = other := by
  cases given <;> simp [flag]

section Flags

variable {invocation : Invocation} {codes : List String} {timeoutSeconds : Nat}
  {mutation destructive verified retry : Bool}

/-- Which of its flags a command carries -/
theorem mem_flags {name : String} :
    name ∈ (command setup job invocation codes environment timeoutSeconds mutation destructive
      verified retry).flags ↔ (mutation = true ∧ name = "-AllowMutation") ∨
        (destructive = true ∧ name = "-AllowDestructive") ∨
        (verified = true ∧ name = "-CustomerPreflightVerified") ∨
        (retry = true ∧ name = "-ReadOnlyRetry") := by
  simp only [command, List.mem_append, mem_flag, or_assoc]

theorem allowDestructive_iff :
    "-AllowDestructive" ∈ (command setup job invocation codes environment timeoutSeconds mutation
      destructive verified retry).flags ↔ destructive = true := by
  simp [mem_flags]

/-- Both mutation flags are given by one test. -/
theorem mutationFlag_iff {name : String} (h : name ∈ mutationFlags) :
    name ∈ (command setup job invocation codes environment timeoutSeconds mutation destructive
      mutation retry).flags ↔ mutation = true := by
  simp only [mutationFlags, List.mem_cons, List.not_mem_nil, or_false] at h
  rcases h with rfl | rfl <;> simp [mem_flags]

end Flags

/-! ### What a command must respect -/

/-- A case of the job is among the cases of the command. -/
def Includes (job : RunSnapshot) (cmd : Command) (p : CaseDefinition → Prop) : Prop :=
  ∃ case ∈ job.cases, case.caseCode ∈ cmd.caseCodes ∧ p case

/-- The preflight has passed: the launcher was called for it and ended well, and the record of its
    case says so. -/
structure Preflighted (py : PythonLibrary) (world : World) (before : List Action) : Prop where
  reported : .event .preflightPassed ∈ before
  passed : ∃ cmd, .command cmd ∈ before ∧ cmd.invocation = .preflight ∧
    cmd.caseCodes = ["TC-HOME-007"] ∧ ∃ result, world.run cmd = .ok result ∧ result.returncode = 0 ∧
      ∃ secrets records, readAllureRecords py world .preflight [("TC-HOME-007", 0)] secrets =
        .ok records ∧ ∃ record, resultOf records "TC-HOME-007" = .ok record ∧
          record.status = .passed

/-- What the flags of a command say about its cases, and about what stands in front of it. -/
structure Permitted (py : PythonLibrary) (world : World) (job : RunSnapshot)
    (before : List Action) (cmd : Command) : Prop where
  mutation : cmd.invocation ≠ .preflight →
    ∀ name ∈ mutationFlags, name ∈ cmd.flags ↔ Includes job cmd (Mutating py)
  preflighted : ∀ name ∈ mutationFlags, name ∈ cmd.flags → Preflighted py world before
  destructive : "-AllowDestructive" ∈ cmd.flags →
    Includes job cmd (fun case => tagged py "destructive" case) ∧
      allows py job "YANJIA_ALLOW_DESTRUCTIVE" = true
  plain : cmd.invocation = .preflight ∨ cmd.invocation = .round 2 →
    ∀ name ∈ "-AllowDestructive" :: mutationFlags, name ∉ cmd.flags

/-- An action is an event, or a permitted command. -/
def Action.Permitted (py : PythonLibrary) (world : World) (job : RunSnapshot)
    (before : List Action) : Action → Prop
  | .event _ => True
  | .command cmd => Android.Permitted py world job before cmd

/-- A round the case takes part in -/
def Action.runs (caseCode : String) : Action → Bool
  | .event _ => false
  | .command cmd => cmd.invocation ≠ .preflight ∧ caseCode ∈ cmd.caseCodes

/-- The cases a round is called for are cases of the job. -/
theorem includes_iff {cmd : Command} {p : CaseDefinition → Prop}
    (hcodes : (caseCodes job.cases).Nodup) (hsub : cases ⊆ job.cases)
    (hcmd : cmd.caseCodes = caseCodes cases) : Includes job cmd p ↔ ∃ case ∈ cases, p case := by
  constructor
  · rintro ⟨case, hcase, hcode, hp⟩
    obtain ⟨other, hother, hsame⟩ := List.mem_map.mp (hcmd ▸ hcode)
    rw [List.inj_on_of_nodup_map hcodes (hsub hother) hcase hsame] at hother
    exact ⟨case, hother, hp⟩
  · rintro ⟨case, hcase, hp⟩
    exact ⟨case, hsub hcase, hcmd ▸ List.mem_map.mpr ⟨case, hcase, rfl⟩, hp⟩

/-! ### The preflight -/

theorem invoke_emits {p : Action → Prop} {cmd : Command} {expected : List (String × UUID)}
    (h : p (.command cmd)) : Emits p (invoke py world cmd expected secrets) := by
  refine (emits_emit h).bind fun _ _ => ?_
  exact emits_lift.bind fun _ _ => emits_lift.bind fun _ _ => emits_lift.bind fun _ _ => emits_pure

/-- A call that ends: the launcher has been called, and what it left has been read. -/
theorem invoke_ok {cmd : Command} {expected : List (String × UUID)} {returncode : Int}
    {records : List CaseResult}
    (h : (invoke py world cmd expected secrets).outcome = .ok (returncode, records)) :
    .command cmd ∈ (invoke py world cmd expected secrets).emitted ∧
      ∃ result, world.run cmd = .ok result ∧ result.returncode = returncode ∧
        world.writeLog cmd.invocation (py.redact result.output secrets) = .ok () ∧
        readAllureRecords py world cmd.invocation expected secrets = .ok records := by
  obtain ⟨_, _, hrest, hemitted⟩ := bind_ok h
  refine ⟨hemitted ▸ List.mem_append_left _ List.mem_cons_self, ?_⟩
  simp only [bind_outcome, lift_outcome, bind_eq_ok, pure_outcome, Except.ok.injEq,
    Prod.mk.injEq] at hrest
  obtain ⟨result, hrun, _, hlog, records, hrecords, rfl, rfl⟩ := hrest
  exact ⟨result, hrun, rfl, hlog, hrecords⟩

/-- The command of the preflight carries none of the flags. -/
theorem preflightCommand_permitted :
    Permitted py world job before (preflightCommand setup job environment) := by
  have hplain : ∀ name ∈ "-AllowDestructive" :: mutationFlags,
      name ∉ (preflightCommand setup job environment).flags := by
    intro name hname hflag
    simp [preflightCommand, mem_flags] at hflag
  refine ⟨fun hround => absurd rfl hround, fun name hname hflag => ?_, fun hflag => ?_,
    fun _ => hplain⟩
  · exact absurd hflag (hplain name (List.mem_cons_of_mem _ hname))
  · exact absurd hflag (hplain _ List.mem_cons_self)

theorem runPreflight_permitted :
    EmitsAfter (Action.Permitted py world job) before
      (runPreflight py setup world job environment secrets) := by
  refine emitsAfter_of_emits (emits_lift.bind fun _ _ => ?_)
  refine (emits_emit fun _ => trivial).bind fun _ _ => ?_
  refine (invoke_emits fun _ => preflightCommand_permitted).bind fun _ _ => ?_
  exact emits_lift.bind fun _ _ => emits_emit fun _ => trivial

theorem runPreflight_ok
    (h : (runPreflight py setup world job environment secrets).outcome = .ok ()) :
    Preflighted py world
      (before ++ (runPreflight py setup world job environment secrets).emitted) := by
  obtain ⟨_, _, h, hemitted⟩ := bind_ok h
  obtain ⟨_, _, h, hemitted'⟩ := bind_ok h
  obtain ⟨⟨returncode, records⟩, hinvoke, h, hemitted''⟩ := bind_ok h
  obtain ⟨_, hverdict, _, hemitted'''⟩ := bind_ok h
  obtain ⟨hcalled, result, hrun, hcode, -, hrecords⟩ := invoke_ok hinvoke
  simp only [lift_outcome, preflightVerdict, bind_eq_ok, ensure_eq_ok] at hverdict
  obtain ⟨record, hrecord, hzero, hpassed⟩ := hverdict
  rw [runPreflight, hemitted, hemitted', hemitted'', hemitted''']
  refine ⟨by simp, preflightCommand setup job environment, ?_, rfl, rfl, result, hrun,
    hcode.trans hzero, secrets, records, hrecords, record, hrecord, hpassed⟩
  simp only [List.mem_append]
  exact Or.inr (Or.inr (Or.inr (Or.inl hcalled)))

theorem Preflighted.append (h : Preflighted py world before) (later : List Action) :
    Preflighted py world (before ++ later) where
  reported := List.mem_append_left later h.reported
  passed := by
    obtain ⟨cmd, hcmd, hrest⟩ := h.passed
    exact ⟨cmd, List.mem_append_left later hcmd, hrest⟩

/-! ### The rounds -/

theorem enabledCases_subset : job.enabledCases ⊆ job.cases := List.filter_subset_self _

theorem retryCases_subset {first : List CaseResult} :
    retryCases py job first ⊆ job.enabledCases := List.filter_subset_self _

theorem retry_not_neverRepeated {first : List CaseResult} {case : CaseDefinition}
    (h : case ∈ retryCases py job first) : ¬NeverRepeated py case := by
  have htest := (List.mem_filter.mp h).2
  rw [decide_eq_true_eq] at htest
  exact not_neverRepeated htest.1

/-- A job that is valid and has a destructive case allows it. -/
theorem destructive_allowed {case : CaseDefinition} (h : validate py setup job = .ok ())
    (hcase : case ∈ job.enabledCases) (htag : tagged py "destructive" case = true) :
    allows py job "YANJIA_ALLOW_DESTRUCTIVE" = true := by
  simp only [validate, bind_eq_ok] at h
  obtain ⟨_, -, _, -, _, -, _, -, _, -, _, -, _, -, hcases⟩ := h
  simp only [validateCases, bind_eq_ok, ensure_eq_ok, List.any_eq_true] at hcases
  obtain ⟨_, -, _, -, _, -, _, -, _, hdestructive, -⟩ := hcases
  exact hdestructive ⟨case, hcase, htag⟩

/-- The flags of the first round, behind a preflight if one of its cases asks for it. -/
theorem firstCommand_permitted (hcodes : (caseCodes job.cases).Nodup)
    (hvalid : validate py setup job = .ok ())
    (hpreflight : requiresPreflight py job.enabledCases = true → Preflighted py world before) :
    Permitted py world job before
      (roundCommand py setup job job.enabledCases environment 1 false) := by
  refine ⟨fun _ name hname => ?_, fun name hname hflag => ?_, fun hflag => ?_, ?_⟩
  · rw [includes_iff hcodes enabledCases_subset rfl, ← requiresPreflight_iff]
    exact mutationFlag_iff hname
  · exact hpreflight ((mutationFlag_iff hname).mp hflag)
  · have hhas := allowDestructive_iff.mp hflag
    rw [hasTag_iff (by decide)] at hhas
    obtain ⟨case, hcase, htag⟩ := hhas
    refine ⟨?_, destructive_allowed hvalid hcase htag⟩
    rw [includes_iff hcodes enabledCases_subset rfl]
    exact ⟨case, hcase, htag⟩
  · rintro (hinvocation | hinvocation) <;> cases hinvocation

/-- Where no case changes data, a round carries none of the flags. -/
theorem plainCommand_permitted {number : Nat} {retry : Bool}
    (hcodes : (caseCodes job.cases).Nodup) (hsub : cases ⊆ job.cases)
    (hmutating : ∀ case ∈ cases, ¬Mutating py case) :
    Permitted py world job before (roundCommand py setup job cases environment number retry) := by
  have hnone : requiresPreflight py cases = false := by
    rw [Bool.eq_false_iff, ne_eq, requiresPreflight_iff]
    rintro ⟨case, hcase, hmutates⟩
    exact hmutating case hcase hmutates
  have hdestructive : hasTag py cases "destructive" = false := by
    rw [Bool.eq_false_iff, ne_eq, hasTag_iff (by decide)]
    rintro ⟨case, hcase, htag⟩
    exact hmutating case hcase ⟨"destructive", by decide, htag⟩
  have hplain : ∀ name ∈ "-AllowDestructive" :: mutationFlags,
      name ∉ (roundCommand py setup job cases environment number retry).flags := by
    intro name hname hflag
    rcases List.mem_cons.mp hname with rfl | hname
    · exact absurd (allowDestructive_iff.mp hflag) (Bool.eq_false_iff.mp hdestructive)
    · exact absurd ((mutationFlag_iff hname).mp hflag) (Bool.eq_false_iff.mp hnone)
  refine ⟨fun _ name hname => ?_, fun name hname hflag => ?_, fun hflag => ?_, fun _ => hplain⟩
  · rw [includes_iff hcodes hsub rfl, ← requiresPreflight_iff]
    exact mutationFlag_iff hname
  · exact absurd hflag (hplain name (List.mem_cons_of_mem _ hname))
  · exact absurd hflag (hplain _ List.mem_cons_self)

theorem runRound_permitted {number : Nat} {retry : Bool}
    (h : ∀ later, Permitted py world job (before ++ later)
      (roundCommand py setup job cases environment number retry)) :
    EmitsAfter (Action.Permitted py world job) before
      (runRound py setup world job cases environment secrets number retry) := by
  rw [runRound]
  split
  · exact emitsAfter_of_emits emits_pure
  · refine (emitsAfter_of_emits (emits_emitAll ?_)).bind fun _ _ => ?_
    · intro action haction before
      obtain ⟨case, -, rfl⟩ := List.mem_map.mp haction
      trivial
    · refine (EmitsAfter.bind (emitsAfter_emit (h _)) fun _ _ => ?_).bind fun _ _ => ?_
      · exact emitsAfter_of_emits (emits_lift.bind fun _ _ => emits_lift.bind fun _ _ =>
          emits_lift.bind fun _ _ => emits_pure)
      · exact emitsAfter_of_emits emits_lift

theorem firstRound_permitted (hcodes : (caseCodes job.cases).Nodup)
    (hvalid : validate py setup job = .ok ()) :
    EmitsAfter (Action.Permitted py world job) before
      (firstRound py setup world job environment secrets) := by
  rw [firstRound]
  split
  · refine runPreflight_permitted.bind fun _ hpassed => runRound_permitted fun later => ?_
    exact firstCommand_permitted hcodes hvalid fun _ => (runPreflight_ok hpassed).append later
  · rename_i hnone
    exact runRound_permitted fun later =>
      firstCommand_permitted hcodes hvalid fun hpreflight => absurd hpreflight hnone

theorem secondRound_permitted {first : List CaseResult} (hcodes : (caseCodes job.cases).Nodup) :
    EmitsAfter (Action.Permitted py world job) before
      (secondRound py setup world job environment secrets first) := by
  rw [secondRound]
  split
  · refine (emitsAfter_emit trivial).bind fun _ _ => ?_
    refine (emitsAfter_of_emits emits_lift).bind fun _ _ => runRound_permitted fun later => ?_
    refine plainCommand_permitted hcodes (List.Subset.trans retryCases_subset enabledCases_subset) ?_
    exact fun case hcase hmutating =>
      retry_not_neverRepeated hcase hmutating.neverRepeated
  · exact emitsAfter_of_emits emits_pure

/-- Every command of a run is permitted by what stands in front of it. -/
theorem execute_permitted (hcodes : (caseCodes job.cases).Nodup) :
    EmitsAfter (Action.Permitted py world job) [] (execute py setup world job) := by
  refine (emitsAfter_of_emits emits_lift).bind fun _ hvalid => ?_
  refine (emitsAfter_emit trivial).bind fun _ _ => EmitsAfter.bind ?_ fun _ _ => ?_
  · refine EmitsAfter.handle ?_ fun _ _ => emitsAfter_of_emits emits_pure
    refine (emitsAfter_of_emits emits_lift).bind fun _ _ => ?_
    refine (firstRound_permitted hcodes hvalid).bind fun _ _ => ?_
    exact (secondRound_permitted hcodes).bind fun _ _ => emitsAfter_of_emits emits_lift
  · refine (emitsAfter_of_emits emits_lift).bind fun results _ => ?_
    refine (emitsAfter_of_emits (emits_emitAll ?_)).bind fun _ _ =>
      emitsAfter_of_emits emits_lift
    intro action haction before
    obtain ⟨result, -, rfl⟩ := List.mem_map.mp haction
    trivial

/-! ### How often a case is run -/

variable {code : String}

/-- A round calls the launcher once. -/
theorem runRound_once {number : Nat} {retry : Bool} :
    EmitsAtMost (Action.runs code) 1
      (runRound py setup world job cases environment secrets number retry) := by
  rw [runRound]
  split
  · exact (emitsAtMost_of_emits emits_pure).mono (Nat.zero_le 1)
  · refine (EmitsAtMost.bind (m := 0) (n := 1) (emitsAtMost_of_emits (emits_emitAll ?_)) fun _ _ =>
      EmitsAtMost.bind (m := 1) (n := 0) (EmitsAtMost.bind (m := 1) (n := 0) emitsAtMost_emit
        fun _ _ => ?_) fun _ _ => ?_)
    · intro action haction
      obtain ⟨case, -, rfl⟩ := List.mem_map.mp haction
      rfl
    · exact emitsAtMost_of_emits (emits_lift.bind fun _ _ => emits_lift.bind fun _ _ =>
        emits_lift.bind fun _ _ => emits_pure)
    · exact emitsAtMost_of_emits emits_lift

/-- A round calls the launcher for its own cases only. -/
theorem runRound_others {number : Nat} {retry : Bool} (h : code ∉ caseCodes cases) :
    Emits (fun action => Action.runs code action = false)
      (runRound py setup world job cases environment secrets number retry) := by
  rw [runRound]
  split
  · exact emits_pure
  · refine (emits_emitAll ?_).bind fun _ _ => (invoke_emits ?_).bind fun _ _ => emits_lift
    · intro action haction
      obtain ⟨case, -, rfl⟩ := List.mem_map.mp haction
      rfl
    · exact decide_eq_false fun hruns => h hruns.2

theorem event_silent {event : AdapterEvent} : Emits (fun action => Action.runs code action = false)
    (emit (.event event) : Run Unit) := emits_emit rfl

/-- The preflight is no round. -/
theorem runPreflight_silent : Emits (fun action => Action.runs code action = false)
    (runPreflight py setup world job environment secrets) := by
  refine emits_lift.bind fun _ _ => event_silent.bind fun _ _ => ?_
  have hround : Action.runs code (.command (preflightCommand setup job environment)) = false := by
    simp [Action.runs, preflightCommand, command]
  refine Emits.bind (invoke_emits hround) fun _ _ => ?_
  exact emits_lift.bind fun _ _ => event_silent

theorem firstRound_once : EmitsAtMost (Action.runs code) 1
    (firstRound py setup world job environment secrets) := by
  rw [firstRound]
  split
  · exact EmitsAtMost.bind (m := 0) (n := 1) (emitsAtMost_of_emits runPreflight_silent)
      fun _ _ => runRound_once
  · exact runRound_once

theorem secondRound_others {first : List CaseResult}
    (h : code ∉ caseCodes (retryCases py job first)) :
    Emits (fun action => Action.runs code action = false)
      (secondRound py setup world job environment secrets first) := by
  rw [secondRound]
  split
  · exact event_silent.bind fun _ _ => emits_lift.bind fun _ _ => runRound_others h
  · exact emits_pure

/-- A case that must not be run twice is in one round at most. -/
theorem execute_once {case : CaseDefinition} (hcodes : (caseCodes job.cases).Nodup)
    (hcase : case ∈ job.cases) (hnever : NeverRepeated py case) :
    EmitsAtMost (Action.runs case.caseCode) 1 (execute py setup world job) := by
  have hothers : ∀ first, case.caseCode ∉ caseCodes (retryCases py job first) := by
    intro first hcode
    obtain ⟨other, hother, hsame⟩ := List.mem_map.mp hcode
    have hmem := enabledCases_subset (retryCases_subset hother)
    rw [List.inj_on_of_nodup_map hcodes hmem hcase hsame] at hother
    exact retry_not_neverRepeated hother hnever
  have hrounds : EmitsAtMost (Action.runs case.caseCode) 1 (enabledResults py setup world job) := by
    refine EmitsAtMost.handle (m := 1) (n := 0) ?_ fun _ _ => emitsAtMost_of_emits emits_pure
    refine EmitsAtMost.bind (m := 0) (n := 1) (emitsAtMost_of_emits emits_lift) fun _ _ => ?_
    refine EmitsAtMost.bind (m := 1) (n := 0) firstRound_once fun first _ => ?_
    exact emitsAtMost_of_emits
      ((secondRound_others (hothers first)).bind fun _ _ => emits_lift)
  refine EmitsAtMost.bind (m := 0) (n := 1) (emitsAtMost_of_emits emits_lift) fun _ _ => ?_
  refine EmitsAtMost.bind (m := 0) (n := 1) (emitsAtMost_of_emits event_silent) fun _ _ => ?_
  refine EmitsAtMost.bind (m := 1) (n := 0) hrounds fun _ _ => emitsAtMost_of_emits ?_
  refine emits_lift.bind fun _ _ => (emits_emitAll ?_).bind fun _ _ => emits_lift
  intro action haction
  obtain ⟨result, -, rfl⟩ := List.mem_map.mp haction
  rfl

/-! ### A run with a preflight and two rounds -/

/-- The language, as far as the run below needs it -/
def plainPython : PythonLibrary where
  str := fun
    | .string text => text
    | _ => ""
  repr := fun text => "'" ++ text ++ "'"
  lower := id
  upper := id
  truthy := fun
    | .null => false
    | _ => true
  int := fun _ => .ok none
  fromTimestamp := fun millis => .ok (millis * 1000)
  roundMillis := fun micros => (micros / 1000).toNat
  replace := fun text _ _ => text
  longestFirst := id
  lower_lowercase := fun _ _ => rfl

/-- A managed case -/
def managedCase (caseId : UUID) (caseCode : String) (tags : List String)
    (h : caseCodePattern caseCode = true) : CaseDefinition where
  caseId := caseId
  caseCode := caseCode
  moduleKey := "home"
  moduleName := "home"
  title := "home"
  testPoint := "home"
  priority := .p1
  preconditions := []
  steps := [⟨"execute_excel_case", none, .text caseCode, none⟩]
  assertion := ⟨"excel_case_passed", .none, none, none⟩
  tags := tags
  enabled := true
  sourceInstructions := none
  dataType := none
  expectedResult := none
  timeoutSeconds := none
  sourceTrace := none
  notes := none
  executionGroup := none
  caseCodeFormed := h

/-- A case that is read only, and one that changes a customer -/
theorem readingCode_formed : caseCodePattern "TC-HOME-001" = true := by decide

def readingCase : CaseDefinition :=
  managedCase 1 "TC-HOME-001" ["readonly"] readingCode_formed

def writingCase : CaseDefinition := managedCase 2 "TC-HOME-002" ["mutating"] (by decide)

def deviceJob : RunSnapshot where
  runId := 20
  projectId := 1
  targetId := 2
  targetType := .app
  environmentId := 3
  caseBaseline := ⟨10, "v1", 0, 2⟩
  automationPackage := ⟨"yanjia-android-appium", "1.0.0", 7, .androidAppium, "android", none⟩
  cases := [readingCase, writingCase]
  browser := none
  webConfig := none
  configHash := 0
  runtimeVariables := [⟨"YANJIA_ALLOW_MUTATION", "true"⟩]
  secretBindings := [⟨"YANJIA_USERNAME", "vault://a"⟩, ⟨"YANJIA_PASSWORD", "vault://b"⟩,
    ⟨"SEEDED_CUSTOMER_PHONE", "vault://c"⟩, ⟨"YANJIA_MUTATION_CUSTOMER_QUERY", "vault://d"⟩]
  createdBy := 1
  createdAt := 0

def deviceSetup : Setup where
  powershellExecutable := "pwsh"
  projectPath := id
  workspacePath := id
  isFile := fun _ => true
  manifest := .ok (.object ((manifestFields "1.0.0").map fun (field, value) =>
    (field, .string value)))
  sourceDigest := .ok 7
  parentEnvironment := fun _ => none

/-- The Allure file of a case -/
def allureFile (caseCode status : String) : AllureFile :=
  .document (.object [("status", .string status), ("labels", .array
    [.object [("name", .string "case_id"), ("value", .string caseCode)]])])

/-- The reading case fails in the first round, and the second one takes too long. -/
def deviceWorld : World where
  clock := fun
    | .started => 0
    | .finished => 3
    | .handled _ => 2
    | _ => 1
  canceled := fun _ => false
  resolve := fun binding => .ok binding.ref
  run := fun cmd =>
    match cmd.invocation with
    | .preflight => .ok ⟨0, ""⟩
    | .round 1 => .ok ⟨1, ""⟩
    | .round _ => .error "Android Appium execution exceeded 1200 seconds"
  writeLog := fun _ _ => .ok ()
  allure := fun
    | .preflight => [allureFile "TC-HOME-007" "passed"]
    | .round _ => [allureFile "TC-HOME-001" "failed", allureFile "TC-HOME-002" "passed"]
  sleep := fun _ => .ok ()
  artifacts := []

theorem deviceJob_codes : (caseCodes deviceJob.cases).Nodup := by decide

/-- A run repeats no case that changes data, and unlocks nothing that its cases, its variables and
    its preflight do not ask for. -/
theorem mutations_guarded (hcodes : (caseCodes job.cases).Nodup) :
    (∀ case ∈ job.cases, NeverRepeated py case →
      (execute py setup world job).emitted.countP (Action.runs case.caseCode) ≤ 1) ∧
    ∀ before cmd later, (execute py setup world job).emitted = before ++ .command cmd :: later →
      Permitted py world job before cmd := by
  refine ⟨fun case hcase hnever => execute_once hcodes hcase hnever, ?_⟩
  intro before cmd later hsplit
  exact execute_permitted hcodes before (.command cmd) later hsplit

/-- In this run the flags of the first round are those of its writing case, which is in no other. -/
theorem deviceRun_guarded :
    (execute plainPython deviceSetup deviceWorld deviceJob).emitted.countP
        (Action.runs "TC-HOME-002") ≤ 1 ∧
      ∀ before cmd later, (execute plainPython deviceSetup deviceWorld deviceJob).emitted =
        before ++ .command cmd :: later → Permitted plainPython deviceWorld deviceJob before cmd := by
  obtain ⟨honce, hpermitted⟩ :=
    @mutations_guarded plainPython deviceSetup deviceWorld deviceJob deviceJob_codes
  exact ⟨honce writingCase (by decide) ⟨"mutating", by decide, by decide⟩, hpermitted⟩

end TestOps.Android

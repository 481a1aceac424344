import TestOps.ControlPlane.AiAnalysis
import TestOps.Runners.AdapterResults

/-! The progress of a legacy Pytest run, read from what its runner prints. Round 1 is the first pass,
    rounds 2 and 3 are reruns that the runner announces with the number of their cases:

      TC-A PASSED      round 1   recorded               total: every case
      第1轮复跑：2 条     round 2   starts over            total: as announced
      [TC-A] 第1轮复跑通过         recorded once a round -/

namespace TestOps.Legacy

open Regex

/-- The console, as the language reads it: classes of characters, upper case, and `int` of digits, of
    which the interpreter converts a limited number only. -/
structure ConsoleLibrary where
  classes : CharClasses
  upper : Text → Text
  int : Text → Except String Nat

variable (lib : ConsoleLibrary)

/-! ### Patterns -/

def literal : Text → Pattern Char
  | [] => .eps
  | c :: text => .seq (oneOf [c]) (literal text)

/-- `.*?` -/
def anything : Pattern Char := .many (· ≠ '\n') 0 false

/-- `\s*` -/
def spaces : Pattern Char := .many isSpace 0 true

def between (first last c : Char) : Bool := first ≤ c ∧ c ≤ last

/-- An escape, `[`, characters from `0` to `?`, characters from the blank to the slash, and one from
    `@` to the tilde -/
def ansiEscapePattern : Pattern Char :=
  .seq (literal [Char.ofNat 0x1B, '[']) (.seq (.many (between '0' '?') 0 true)
    (.seq (.many (between ' ' '/') 0 true) (.set (between '@' '~'))))

/-- `TC-[A-Z0-9-]+` -/
def caseCode : Pattern Char :=
  .seq (literal "TC-".toList) (.many (fun c => isUpperAlnum c ∨ c = '-') 1 true)

/-- `(TC-[A-Z0-9-]+).*?\b(PASSED|FAILED|SKIPPED|ERROR)\b`, whatever the case -/
def pytestResultPattern : Pattern Char :=
  .seq (.group 1 (.seq (wordIgnoringCase "tc".toList) (.seq (oneOf ['-'])
      (.many (isLetterOr ['-']) 1 true))))
    (.seq anything (.seq lib.classes.boundary (.seq
      (.group 2 (.alt (wordIgnoringCase "passed".toList) (.alt (wordIgnoringCase "failed".toList)
        (.alt (wordIgnoringCase "skipped".toList) (wordIgnoringCase "error".toList)))))
      lib.classes.boundary)))

/-- `第\s*([12])\s*轮复跑[：:].*?(\d+)\s*条` -/
def rerunRoundPattern : Pattern Char :=
  .seq (oneOf ['第']) (.seq spaces (.seq (.group 1 (oneOf ['1', '2'])) (.seq spaces
    (.seq (literal "轮复跑".toList) (.seq (oneOf ['：', ':']) (.seq anything
      (.seq (.group 2 (.many lib.classes.isDecimal 1 true)) (.seq spaces (oneOf ['条'])))))))))

/-- `\[(TC-[A-Z0-9-]+)\].*?第\s*([12])\s*轮复跑(通过|仍失败)` -/
def rerunResultPattern : Pattern Char :=
  .seq (oneOf ['[']) (.seq (.group 1 caseCode) (.seq (oneOf [']']) (.seq anything
    (.seq (oneOf ['第']) (.seq spaces (.seq (.group 2 (oneOf ['1', '2'])) (.seq spaces
      (.seq (literal "轮复跑".toList) (.group 3 (.alt (literal "通过".toList)
        (literal "仍失败".toList)))))))))))

/-- `\[(TC-[A-Z0-9-]+)\].*?(?:复跑异常|未找到用例定义)` -/
def rerunErrorPattern : Pattern Char :=
  .seq (oneOf ['[']) (.seq (.group 1 caseCode) (.seq (oneOf [']']) (.seq anything
    (.alt (literal "复跑异常".toList) (literal "未找到用例定义".toList)))))

/-! ### The tracker -/

/-- The statuses are a dictionary and the rest of the state are sets, as in the source. -/
structure LegacyProgressTracker where
  caseCodes : Finset String
  statuses : AList fun _ : String => CaseResultStatus
  roundFinished : Finset String
  currentRound : Nat
  roundTotal : Nat
  currentCaseCode : Option String
  deriving DecidableEq

namespace LegacyProgressTracker

def init (codes : List String) : LegacyProgressTracker where
  caseCodes := codes.toFinset
  statuses := ∅
  roundFinished := ∅
  currentRound := 1
  roundTotal := codes.toFinset.card
  currentCaseCode := none

def totalRounds : Nat := 3

variable (tracker : LegacyProgressTracker)

/-- How many statuses satisfy a test -/
def countStatuses (p : CaseResultStatus → Bool) : Nat :=
  tracker.statuses.entries.countP fun entry => p entry.2

/-- `_event` -/
def event : RunProgress where
  currentRound := tracker.currentRound
  totalRounds := totalRounds
  roundCompleted := tracker.roundFinished.card
  roundTotal := tracker.roundTotal
  completed := tracker.statuses.entries.length
  total := tracker.caseCodes.card
  passed := tracker.countStatuses (· = .passed)
  failed := tracker.countStatuses fun status => status = .failed ∨ status = .infraError
  skipped := tracker.countStatuses (· = .skipped)
  currentCaseCode := tracker.currentCaseCode

/-- What a call leaves, with the event that it returns or the exception that it raises. -/
abbrev Reply := LegacyProgressTracker × Except String (Option RunProgress)

/-- `_record` -/
def record (code : String) (status : CaseResultStatus) : Reply :=
  if code ∈ tracker.roundFinished then (tracker, .ok none)
  else
    let recorded := { tracker with
      roundFinished := insert code tracker.roundFinished
      statuses := tracker.statuses.insert code status
      currentCaseCode := some code }
    (recorded, .ok (some recorded.event))

/-- The round of an ASCII digit; reruns are counted from 1, rounds are too. -/
def runnerRound (digits : Text) : Nat :=
  digits.foldl (fun n c => 10 * n + (c.toNat - '0'.toNat)) 0 + 1

/-- An announced round; its number is assigned before the number of its cases is read. -/
def startRound (found : Cursor Char) : Reply :=
  let renumbered := { tracker with currentRound := runnerRound (found.group 1) }
  match lib.int (found.group 2) with
  | .error error => (renumbered, .error error)
  | .ok total =>
    let started := { renumbered with
      roundTotal := total
      roundFinished := ∅
      currentCaseCode := none }
    (started, .ok (some started.event))

/-- The code of a match -/
def codeOf (found : Cursor Char) : String := String.ofList (lib.upper (found.group 1))

/-- The result of a case in a rerun -/
def rerunResult (found : Cursor Char) : Reply :=
  if runnerRound (found.group 2) ≠ tracker.currentRound ∨ codeOf lib found ∉ tracker.caseCodes then
    (tracker, .ok none)
  else tracker.record (codeOf lib found)
    (if found.group 3 = "通过".toList then .passed else .failed)

/-- A case that a rerun could not run -/
def rerunError (found : Cursor Char) : Reply :=
  if codeOf lib found ∈ tracker.caseCodes then tracker.record (codeOf lib found) .failed
  else (tracker, .ok none)

/-- The dictionary of raw statuses -/
def rawStatus : String → Option CaseResultStatus
  | "PASSED" => some .passed
  | "SKIPPED" => some .skipped
  | "FAILED" | "ERROR" => some .failed
  | _ => none

/-- The result of a case in the first round; no upper case of the Kelvin sign is `K`. -/
def pytestResult (found : Cursor Char) : Reply :=
  let raw := String.ofList (lib.upper (found.group 2))
  if codeOf lib found ∉ tracker.caseCodes then (tracker, .ok none)
  else match rawStatus raw with
    | some status => tracker.record (codeOf lib found) status
    | none => (tracker, .error ("'" ++ raw ++ "'"))

/-- A line that is about no rerun -/
def firstRoundLine (normalized : Text) : Reply :=
  if tracker.currentRound ≠ 1 then (tracker, .ok none)
  else match search (pytestResultPattern lib) none normalized with
    | some found => tracker.pytestResult lib found
    | none => (tracker, .ok none)

/-- A line without the result of a rerun -/
def errorLine (normalized : Text) : Reply :=
  match search rerunErrorPattern none normalized with
  | some found =>
    if 1 < tracker.currentRound then tracker.rerunError lib found
    else tracker.firstRoundLine lib normalized
  | none => tracker.firstRoundLine lib normalized

def consume (line : Text) : Reply :=
  let normalized := sub ansiEscapePattern (fun _ => []) line
  match search (rerunRoundPattern lib) none normalized with
  | some found => tracker.startRound lib found
  | none =>
    match search rerunResultPattern none normalized with
    | some found => tracker.rerunResult lib found
    | none => tracker.errorLine lib normalized

/-- The dictionary of final statuses -/
def finalStatuses (results : List CaseResult) : AList fun _ : String => CaseResultStatus :=
  results.foldl (fun statuses result => statuses.insert result.caseCode result.status) ∅

/-- The last key of the dictionary: a key stands where it was put first. -/
def lastCode (results : List CaseResult) : Option String :=
  (results.map CaseResult.caseCode).reverse.dedup.head?

/-- `_progress_signature` tells two states apart. -/
def SameSignature (tracker tracker' : LegacyProgressTracker) : Prop :=
  tracker.currentRound = tracker'.currentRound ∧ tracker.roundTotal = tracker'.roundTotal ∧
    tracker.roundFinished = tracker'.roundFinished ∧
    tracker.statuses.entries.toFinset = tracker'.statuses.entries.toFinset ∧
    tracker.currentCaseCode = tracker'.currentCaseCode

instance {tracker tracker' : LegacyProgressTracker} : Decidable (SameSignature tracker tracker') :=
  inferInstanceAs (Decidable (_ ∧ _))

/-- What `finalize` leaves -/
def finalized (results : List CaseResult) : LegacyProgressTracker :=
  let statuses := finalStatuses results
  { tracker with
    statuses := statuses
    roundFinished := if tracker.currentRound = 1 then statuses.keys.toFinset
      else tracker.roundFinished.filter (· ∈ statuses)
    roundTotal := if tracker.currentRound = 1 then tracker.caseCodes.card else tracker.roundTotal
    currentCaseCode := lastCode results }

/-- The event of `finalize`, if anything has changed -/
def finalize (results : List CaseResult) : Option RunProgress :=
  let finalized := tracker.finalized results
  if SameSignature finalized tracker then none else some finalized.event

end LegacyProgressTracker

end TestOps.Legacy

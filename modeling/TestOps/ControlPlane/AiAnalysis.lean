import TestOps.ControlPlane.AiChat
import TestOps.Lib.Regex

/-! What the assistant reads and answers, rewritten before it is stored. Credentials and personal data
    are replaced in five passes, each over the text that the one before has left:

      Bearer …  ──▸  sk-…  ──▸  token = …  ──▸  e-mail addresses  ──▸  phone numbers

    An answer of the model is redacted, freed of Markdown markers and shortened. Limits are checked
    on the text that comes in, before any of this. -/

namespace TestOps

open Checked Regex

/-- The classes of characters that patterns ask for: letters, digits and underscores of any script,
    and its decimal digits. -/
structure CharClasses where
  isWord : Char → Bool
  isDecimal : Char → Bool

/-! ### Patterns -/

/-- The characters outside ASCII whose case is folded to one of `i`, `k` and `s`. -/
def foldsTo : Char → Char → Bool
  | 'i', c => c = 'İ' ∨ c = 'ı'
  | 'k', c => c.toNat = 0x212A
  | 's', c => c = 'ſ'
  | _, _ => false

/-- A lower-case letter, whatever the case. -/
def ignoringCase (letter c : Char) : Bool := c.toLower = letter ∨ foldsTo letter c

/-- `[A-Z]`, whatever the case. -/
def isLetter (c : Char) : Bool := c.isAlpha ∨ foldsTo 'i' c ∨ foldsTo 'k' c ∨ foldsTo 's' c

/-- `[A-Z0-9]`, whatever the case, and some others. -/
def isLetterOr (others : Text) (c : Char) : Bool := isLetter c ∨ c.isDigit ∨ c ∈ others

def oneOf (chars : Text) : Pattern Char := .set (· ∈ chars)

/-- A word of lower-case letters, whatever the case. -/
def wordIgnoringCase : Text → Pattern Char
  | [] => .eps
  | letter :: letters => .seq (.set (ignoringCase letter)) (wordIgnoringCase letters)

namespace CharClasses

variable (u : CharClasses)

/-- `\b` -/
def boundary : Pattern Char := .look fun before behind => before.any u.isWord != behind.any u.isWord

/-- `(?i)\bBearer\s+[A-Za-z0-9._~+/=-]{8,}` -/
def bearerPattern : Pattern Char :=
  .seq u.boundary (.seq (wordIgnoringCase "bearer".toList) (.seq (.many isSpace 1 true)
    (.many (isLetterOr "._~+/=-".toList) 8 true)))

/-- `(?i)\bsk-[A-Za-z0-9_-]{8,}` -/
def skPattern : Pattern Char :=
  .seq u.boundary (.seq (wordIgnoringCase "sk".toList) (.seq (oneOf ['-'])
    (.many (isLetterOr "_-".toList) 8 true)))

/-- `api[_ -]?key|access[_ -]?token|authorization|password|passwd|secret|token` -/
def assignedName : Pattern Char :=
  .alt (.seq (wordIgnoringCase "api".toList) (.seq (.opt (oneOf "_ -".toList))
      (wordIgnoringCase "key".toList)))
    (.alt (.seq (wordIgnoringCase "access".toList) (.seq (.opt (oneOf "_ -".toList))
        (wordIgnoringCase "token".toList)))
      (.alt (wordIgnoringCase "authorization".toList) (.alt (wordIgnoringCase "password".toList)
        (.alt (wordIgnoringCase "passwd".toList) (.alt (wordIgnoringCase "secret".toList)
          (wordIgnoringCase "token".toList))))))

/-- `(?i)\b(name)(\s*[:=]\s*)([^\s,;]+)` -/
def assignmentPattern : Pattern Char :=
  .seq u.boundary (.seq (.group 1 assignedName) (.seq
    (.group 2 (.seq (.many isSpace 0 true) (.seq (oneOf ":=".toList) (.many isSpace 0 true))))
    (.group 3 (.many (fun c => ¬(isSpace c ∨ c = ',' ∨ c = ';')) 1 true))))

/-- `(?i)\b[A-Z0-9._%+-]+@[A-Z0-9.-]+\.[A-Z]{2,}\b` -/
def emailPattern : Pattern Char :=
  .seq u.boundary (.seq (.many (isLetterOr "._%+-".toList) 1 true) (.seq (oneOf ['@'])
    (.seq (.many (isLetterOr ".-".toList) 1 true) (.seq (oneOf ['.'])
      (.seq (.many isLetter 2 true) u.boundary)))))

/-- `(?<!\d)(?:\+?86[- ]?)?1[3-9]\d{9}(?!\d)` -/
def phonePattern : Pattern Char :=
  .seq (.look fun before _ => ¬before.any u.isDecimal) (.seq
    (.opt (.seq (.opt (oneOf ['+'])) (.seq (oneOf ['8']) (.seq (oneOf ['6'])
      (.opt (oneOf "- ".toList))))))
    (.seq (oneOf ['1']) (.seq (oneOf "3456789".toList) (.seq (.exactly u.isDecimal 9)
      (.look fun _ behind => ¬behind.any u.isDecimal)))))

end CharClasses

/-- `\*\*|__` -/
def marker : Pattern Char :=
  .alt (.seq (oneOf ['*']) (oneOf ['*'])) (.seq (oneOf ['_']) (oneOf ['_']))

/-- `(?:\*\*|__)(.+?)(?:\*\*|__)` -/
def markdownStrongPattern : Pattern Char :=
  .seq marker (.seq (.group 1 (.many (· ≠ '\n') 1 false)) marker)

/-! ### Redaction -/

/-- A pass: what is replaced, and by what. -/
structure Redaction where
  pattern : Pattern Char
  replacement : Cursor Char → Text

def redactions (u : CharClasses) : List Redaction :=
  [⟨u.bearerPattern, fun _ => "Bearer [REDACTED]".toList⟩,
    ⟨u.skPattern, fun _ => "[REDACTED_API_KEY]".toList⟩,
    ⟨u.assignmentPattern, fun c => c.group 1 ++ c.group 2 ++ "[REDACTED]".toList⟩,
    ⟨u.emailPattern, fun _ => "[REDACTED_EMAIL]".toList⟩,
    ⟨u.phonePattern, fun _ => "[REDACTED_PHONE]".toList⟩]

def Redaction.apply (value : Text) (pass : Redaction) : Text :=
  sub pass.pattern pass.replacement value

def redactText (u : CharClasses) (value : Text) : Text :=
  (redactions u).foldl Redaction.apply value

/-! ### Texts of the assistant -/

/-- `text.replace` of a doubled character by nothing -/
def removeDoubled (c : Char) : Text → Text
  | a :: b :: rest =>
    if a = c ∧ b = c then removeDoubled c rest else a :: removeDoubled c (b :: rest)
  | [a] => [a]
  | [] => []

/-- The text without its Markdown markers. -/
def stripMarkdown (text : Text) : Text :=
  strip isSpace
    (removeDoubled '_' (removeDoubled '*' (sub markdownStrongPattern (fun c => c.group 1) text)))

def plainChatText (u : CharClasses) (value : Text) : Text := stripMarkdown (redactText u value)

def boundedChatText (u : CharClasses) (value : Text) (maxLength : Nat) : Text :=
  let text := plainChatText u value
  if text.length ≤ maxLength then text
  else rstrip (· ∈ "，,：:；;、 ".toList) (text.take (maxLength - 1)) ++ ['…']

def incompleteChatSuffixes : List Text :=
  ["而", "但", "但是", "并且", "以及", "因为", "由于", "因此", "所以", "其中", "例如", "包括"].map
    String.toList

def chatAnswerIsIncomplete (value : Text) : Bool :=
  let stripped := rstrip isSpace value
  stripped.getLast?.any (· ∈ "，,：:；;、".toList) ∨
    incompleteChatSuffixes.any fun suffix => suffix.isSuffixOf stripped

/-! ### Schemas -/

/-- `StringConstraints(strip_whitespace=True, min_length=1, max_length=maxLength)` -/
def boundedString (maxLength : Nat) (text : Text) : Except ChatError Text := do
  let stripped := strip isWhiteSpace text
  ensure (1 ≤ stripped.length ∧ stripped.length ≤ maxLength) .validationError
  return stripped

def aiProjectChatSection (title : Text) (items : List Text) :
    Except ChatError AiProjectChatSection := do
  let title ← boundedString 120 title
  let items ← items.mapM (boundedString 4000)
  ensure (1 ≤ items.length ∧ items.length ≤ 20) .validationError
  return ⟨title, items⟩

def aiProjectChatContent (content : AiProjectChatContent) :
    Except ChatError AiProjectChatContent := do
  let answer ← boundedString 4000 content.answer
  let sections ← content.sections.mapM fun part => aiProjectChatSection part.title part.items
  ensure (1 ≤ sections.length ∧ sections.length ≤ 12) .validationError
  let evidenceRefs ← content.evidenceRefs.mapM (boundedString 160)
  ensure (evidenceRefs.length ≤ 128) .validationError
  let suggestedQuestions ← content.suggestedQuestions.mapM (boundedString 500)
  ensure (suggestedQuestions.length ≤ 12) .validationError
  return ⟨answer, sections, evidenceRefs, suggestedQuestions⟩

/-! ### Answers -/

/-- A section with what is left of its items, if anything is. -/
def sanitizeSection (u : CharClasses) (part : AiProjectChatSection) :
    Except ChatError (List AiProjectChatSection) :=
  let bounded := boundedChatText u part.title 48
  let title := if bounded = [] then "分析详情".toList else bounded
  let items := ((part.items.take 6).map fun item => boundedChatText u item 1000).filter (· ≠ [])
  if items = [] then return []
  else do
    let part ← aiProjectChatSection title items
    return [part]

def sanitizeAndValidateChat (u : CharClasses) (content : AiProjectChatContent)
    (allowedRefs : List Text) : Except ChatError AiProjectChatContent := do
  ensure (∀ ref ∈ content.evidenceRefs, ref ∈ allowedRefs)
    (.aiAnalysisError "AI model cited evidence that was not supplied")
  let answer := boundedChatText u content.answer 500
  ensure (¬chatAnswerIsIncomplete answer)
    (.aiAnalysisError "AI model returned an incomplete chat answer")
  let kept ← (content.sections.take 5).mapM (sanitizeSection u)
  let sections ← if kept.flatten = [] then do
      let fallback ← aiProjectChatSection "分析结果".toList [answer]
      pure [fallback]
    else pure kept.flatten
  return ⟨answer, sections, content.evidenceRefs.eraseDups.take 12,
    (((content.suggestedQuestions.take 12).map fun item =>
      boundedChatText u item 160).filter (· ≠ [])).eraseDups.take 4⟩

/-! ### Analyses of a run -/

inductive AiFailureCategory
  | productDefect | automationScript | assertion | environment | testData | flakyTiming
  | platformResource | unknown
  deriving DecidableEq

structure AiProbableCause where
  title : Text
  detail : Text
  category : AiFailureCategory
  confidence : ℚ
  evidenceRefs : List Text
  deriving DecidableEq

structure AiRunAnalysisContent where
  summary : Text
  classification : AiFailureCategory
  confidence : ℚ
  probableCauses : List AiProbableCause
  recommendations : List Text
  missingEvidence : List Text
  deriving DecidableEq

def aiProbableCause (cause : AiProbableCause) : Except ChatError AiProbableCause := do
  let title ← boundedString 120 cause.title
  let detail ← boundedString 1000 cause.detail
  ensure (0 ≤ cause.confidence ∧ cause.confidence ≤ 1) .validationError
  let evidenceRefs ← cause.evidenceRefs.mapM (boundedString 160)
  ensure (evidenceRefs.length ≤ 8) .validationError
  return ⟨title, detail, cause.category, cause.confidence, evidenceRefs⟩

def aiRunAnalysisContent (content : AiRunAnalysisContent) :
    Except ChatError AiRunAnalysisContent := do
  let summary ← boundedString 2000 content.summary
  ensure (0 ≤ content.confidence ∧ content.confidence ≤ 1) .validationError
  let probableCauses ← content.probableCauses.mapM aiProbableCause
  ensure (probableCauses.length ≤ 8) .validationError
  let recommendations ← content.recommendations.mapM (boundedString 500)
  ensure (recommendations.length ≤ 8) .validationError
  let missingEvidence ← content.missingEvidence.mapM (boundedString 500)
  ensure (missingEvidence.length ≤ 8) .validationError
  return ⟨summary, content.classification, content.confidence, probableCauses, recommendations,
    missingEvidence⟩

def redactCause (u : CharClasses) (cause : AiProbableCause) : AiProbableCause :=
  { cause with title := redactText u cause.title, detail := redactText u cause.detail }

/-- Causes are built anew, and so validated; the copy of the analysis is not. -/
def sanitizeAndValidateAnalysis (u : CharClasses) (analysis : AiRunAnalysisContent)
    (allowedRefs : List Text) : Except ChatError AiRunAnalysisContent := do
  ensure (∀ cause ∈ analysis.probableCauses, ∀ ref ∈ cause.evidenceRefs, ref ∈ allowedRefs)
    (.aiAnalysisError "AI model cited evidence that was not supplied")
  let probableCauses ← analysis.probableCauses.mapM fun cause => aiProbableCause (redactCause u cause)
  return { analysis with
    summary := redactText u analysis.summary
    probableCauses := probableCauses
    recommendations := analysis.recommendations.map (redactText u)
    missingEvidence := analysis.missingEvidence.map (redactText u) }

end TestOps

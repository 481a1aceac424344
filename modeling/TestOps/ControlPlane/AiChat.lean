import TestOps.Contracts.Text
import TestOps.ControlPlane.Persistence
import TestOps.Lib.Checked
import TestOps.Lib.Transition

/-! Conversations with the assistant. A question is stored before the model is asked, its answer or
    its failure afterwards:

      question stored  ──▸  PENDING  ──answer──▸  COMPLETED, with a reply
                               └──────failure──▸  FAILED

    An answer locks the conversation. A failure does not: it writes the copy of the question that its
    session has loaded. Conversations are followed until somebody deletes them. -/

namespace TestOps

open Checked Relational Transition

/-! ### Rows -/

inductive ChatRole where | user | assistant
  deriving DecidableEq

inductive ChatStatus where | pending | completed | failed
  deriving DecidableEq

/-- Whose conversation it is, and what about. -/
structure ChatScope where
  userId : UUID
  projectId : UUID
  runId : Option UUID
  deriving DecidableEq

structure AiChatConversationRecord where
  id : UUID
  scope : ChatScope
  title : Text
  messageCount : Nat
  updatedAt : Instant
  deriving DecidableEq

/-- `response_metadata`: a question has a status only. -/
structure ResponseMetadata where
  status : ChatStatus
  replyToMessageId : Option UUID
  model : Option String
  latencyMs : Option Nat
  generatedAt : Option Instant
  evidenceTruncated : Option Bool
  deriving DecidableEq

structure AiProjectChatSection where
  title : Text
  items : List Text
  deriving DecidableEq

structure AiChatMessageRecord where
  id : UUID
  conversationId : UUID
  sequence : Nat
  role : ChatRole
  content : Text
  sections : List AiProjectChatSection
  evidenceRefs : List Text
  suggestedQuestions : List Text
  responseMetadata : ResponseMetadata
  deriving DecidableEq

structure AiProjectChatContent where
  answer : Text
  sections : List AiProjectChatSection
  evidenceRefs : List Text
  suggestedQuestions : List Text
  deriving DecidableEq

inductive ChatError where
  | aiConversationNotFound (message : String)
  | integrityError
  | staleDataError
  | validationError
  | aiAnalysisError (message : String)
  | noRequest
  deriving DecidableEq

structure ChatDatabase where
  conversations : Table AiChatConversationRecord.id
  messages : Table AiChatMessageRecord.id

/-- The messages of a conversation, in the order in which they were stored. -/
def ChatDatabase.messagesOf (db : ChatDatabase) (conversationId : UUID) :
    List AiChatMessageRecord :=
  db.messages.rows.filter fun message => message.conversationId = conversationId

/-- Add a message; a conversation has one message for a sequence number. -/
def insertMessage (message : AiChatMessageRecord) (db : ChatDatabase) :
    Except ChatError ChatDatabase := do
  ensure (∀ other ∈ db.messagesOf message.conversationId, other.sequence ≠ message.sequence)
    .integrityError
  let messages ← found (db.messages.insert? message) .integrityError
  return { db with messages := messages }

/-! ### Reading -/

def getAiConversation (conversationId : UUID) (scope : ChatScope) (db : ChatDatabase) :
    Except ChatError AiChatConversationRecord := do
  let notFound := ChatError.aiConversationNotFound
    "AI conversation not found in the selected scope"
  let conversation ← found (db.conversations.get? conversationId) notFound
  ensure (conversation.scope = scope) notFound
  return conversation

def getAiChatQuestion (conversationId questionMessageId : UUID) (db : ChatDatabase) :
    Except ChatError AiChatMessageRecord := do
  let notFound := ChatError.aiConversationNotFound
    "AI question not found in the selected conversation"
  let message ← found (db.messages.get? questionMessageId) notFound
  ensure (message.conversationId = conversationId ∧ message.role = .user) notFound
  return message

/-! ### Questions -/

def conversationTitle (question : Text) : Text :=
  let words := (question.splitOnP isSpace).filter fun word => word ≠ []
  let compact := List.intercalate [' '] words
  if compact.length ≤ 60 then compact else rstrip isSpace (compact.take 59) ++ ['…']

/-- The conversation a question goes to: the one with the id, or a new one. -/
def questionConversation (now : Instant) (newConversationId : UUID) (conversationId : Option UUID)
    (scope : ChatScope) (question : Text) (db : ChatDatabase) :
    Except ChatError (AiChatConversationRecord × ChatDatabase) :=
  match conversationId with
  | some conversationId => do
    let locked ← getAiConversation conversationId scope db
    return (locked, db)
  | none => do
    let conversation : AiChatConversationRecord :=
      ⟨newConversationId, scope, conversationTitle question, 0, now⟩
    let conversations ← found (db.conversations.insert? conversation) .integrityError
    return (conversation, { db with conversations := conversations })

def countMessage (now : Instant) (conversationId : UUID) (db : ChatDatabase) : ChatDatabase :=
  { db with
    conversations := db.conversations.modify conversationId fun conversation =>
      { conversation with messageCount := conversation.messageCount + 1, updatedAt := now } }

def questionMetadata : ResponseMetadata := ⟨.pending, none, none, none, none, none⟩

/-- The question under its new id, with the database that has it. -/
def saveAiChatQuestion (now : Instant) (newConversationId newMessageId : UUID)
    (conversationId : Option UUID) (scope : ChatScope) (question : Text) (db : ChatDatabase) :
    Except ChatError (AiChatMessageRecord × ChatDatabase) := do
  let (locked, db) ← questionConversation now newConversationId conversationId scope question db
  let message : AiChatMessageRecord :=
    ⟨newMessageId, locked.id, locked.messageCount + 1, .user, question, [], [], [],
      questionMetadata⟩
  let db ← insertMessage message db
  return (message, countMessage now locked.id db)

/-! ### Answers and failures -/

/-- A session with a question it has loaded. -/
structure LoadedQuestion where
  conversationId : UUID
  messageId : UUID
  scope : ChatScope
  metadata : ResponseMetadata
  deriving DecidableEq

/-- What a reply says about itself. -/
structure AnswerDetails where
  model : String
  latencyMs : Nat
  generatedAt : Instant
  evidenceTruncated : Bool

/-- Write the metadata of a question, unless it is what has been loaded. -/
def writeMetadata (loaded : LoadedQuestion) (status : ChatStatus) (db : ChatDatabase) :
    Except ChatError ChatDatabase :=
  if loaded.metadata.status = status then
    return db
  else do
    let _ ← found (db.messages.get? loaded.messageId) .staleDataError
    return { db with
      messages := db.messages.modify loaded.messageId fun message => { message with
        responseMetadata := { loaded.metadata with status := status } } }

/-- The replies to a question in its conversation. -/
def repliesTo (conversationId questionMessageId : UUID) (db : ChatDatabase) :
    List AiChatMessageRecord :=
  (db.messagesOf conversationId).filter fun message => message.role = .assistant ∧
    message.responseMetadata.replyToMessageId = some questionMessageId

def saveAiChatAnswer (now : Instant) (newMessageId : UUID) (loaded : LoadedQuestion)
    (content : AiProjectChatContent) (details : AnswerDetails) (db : ChatDatabase) :
    Except ChatError ChatDatabase := do
  let locked ← getAiConversation loaded.conversationId loaded.scope db
  let question ← getAiChatQuestion locked.id loaded.messageId db
  if repliesTo locked.id question.id db ≠ [] then
    return db
  else do
    let db ← insertMessage ⟨newMessageId, locked.id, locked.messageCount + 1, .assistant,
      content.answer, content.sections, content.evidenceRefs, content.suggestedQuestions,
      ⟨.completed, some loaded.messageId, some details.model, some details.latencyMs,
        some details.generatedAt, some details.evidenceTruncated⟩⟩ db
    let db ← writeMetadata loaded .completed db
    return countMessage now locked.id db

def markAiChatQuestionFailed (loaded : LoadedQuestion) (db : ChatDatabase) :
    Except ChatError ChatDatabase := do
  let _ ← getAiChatQuestion loaded.conversationId loaded.messageId db
  writeMetadata loaded .failed db

/-! ### The system -/

/-- The database and the questions that sessions have loaded. -/
structure ChatState where
  db : ChatDatabase
  loaded : List LoadedQuestion

def ChatState.init : ChatState := ⟨⟨.empty, .empty⟩, []⟩

inductive ChatAction where
  | saveQuestion (now : Instant) (newConversationId newMessageId : UUID)
      (conversationId : Option UUID) (scope : ChatScope) (question : Text)
  /-- The first half of an exchange: the session goes on with the question it has stored. -/
  | beginExchange (now : Instant) (newConversationId newMessageId : UUID)
      (conversationId : Option UUID) (scope : ChatScope) (question : Text)
  | loadQuestion (conversationId questionMessageId : UUID) (scope : ChatScope)
  | saveAnswer (index : Nat) (now : Instant) (newMessageId : UUID)
      (content : AiProjectChatContent) (details : AnswerDetails)
  | markFailed (index : Nat)
  /-- A session ends without a word. -/
  | close (index : Nat)

def chatStep (s : ChatState) : ChatAction → Except ChatError ChatState
  | .saveQuestion now newConversationId newMessageId conversationId scope question => do
    let (_, db) ← saveAiChatQuestion now newConversationId newMessageId conversationId scope
      question s.db
    return { s with db := db }
  | .beginExchange now newConversationId newMessageId conversationId scope question => do
    let (message, db) ← saveAiChatQuestion now newConversationId newMessageId conversationId scope
      question s.db
    return ⟨db, s.loaded ++ [⟨message.conversationId, message.id, scope,
      message.responseMetadata⟩]⟩
  | .loadQuestion conversationId questionMessageId scope => do
    let message ← getAiChatQuestion conversationId questionMessageId s.db
    return { s with
      loaded := s.loaded ++ [⟨conversationId, questionMessageId, scope,
        message.responseMetadata⟩] }
  | .saveAnswer index now newMessageId content details => do
    let loaded ← found s.loaded[index]? .noRequest
    let db ← saveAiChatAnswer now newMessageId loaded content details s.db
    return ⟨db, s.loaded.eraseIdx index⟩
  | .markFailed index => do
    let loaded ← found s.loaded[index]? .noRequest
    let db ← markAiChatQuestionFailed loaded s.db
    return ⟨db, s.loaded.eraseIdx index⟩
  | .close index => do
    let _ ← found s.loaded[index]? .noRequest
    return { s with loaded := s.loaded.eraseIdx index }

/-- Conversations under concurrent requests. -/
def chat : System ChatState ChatAction :=
  machine (· = ChatState.init) chatStep

end TestOps

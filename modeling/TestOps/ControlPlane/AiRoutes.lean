import TestOps.ControlPlane.AiAnalysis

/-! The routes of a conversation. What they store is rewritten text; what they read back is validated
    again:

      message  ──1..2000──▸  redacted  ──▸  stored  ──1..2000──▸  turn of a later question
      answer   ──1..4000──▸  plain, at most 500  ──▸  stored  ──1..2000──▸  turn

    The history is read before a question is stored and before the model is asked. These reads change
    nothing and are left out of the steps. -/

namespace TestOps

open Checked Transition Regex

structure AiChatTurn where
  role : ChatRole
  content : Text
  deriving DecidableEq

def aiChatTurn (role : ChatRole) (content : Text) : Except ChatError AiChatTurn := do
  let content ← boundedString 2000 content
  return ⟨role, content⟩

/-- The latest messages of a conversation, the oldest of them first. -/
def latestMessages (conversationId : UUID) (excludeMessageId : Option UUID) (db : ChatDatabase) :
    List AiChatMessageRecord :=
  let messages := (db.messagesOf conversationId).filter fun message =>
    some message.id ≠ excludeMessageId
  let ordered := messages.insertionSort fun message other => other.sequence ≤ message.sequence
  (ordered.take 8).reverse

def loadAiChatContext (conversationId : Option UUID) (scope : ChatScope)
    (excludeMessageId : Option UUID) (db : ChatDatabase) :
    Except ChatError (Option AiChatConversationRecord × List AiChatTurn) :=
  match conversationId with
  | none => return (none, [])
  | some conversationId => do
    let conversation ← getAiConversation conversationId scope db
    let history ← (latestMessages conversation.id excludeMessageId db).mapM fun message =>
      aiChatTurn message.role message.content
    return (some conversation, history)

inductive ChatRouteAction where
  | postQuestion (now : Instant) (newConversationId newMessageId : UUID)
      (conversationId : Option UUID) (scope : ChatScope) (message : Text)
  /-- The first half of a question that is answered at once. -/
  | postChat (now : Instant) (newConversationId newMessageId : UUID)
      (conversationId : Option UUID) (scope : ChatScope) (message : Text)
  | prepare (conversationId questionMessageId : UUID) (scope : ChatScope)
  /-- The model has responded. -/
  | complete (index : Nat) (now : Instant) (newMessageId : UUID) (response : AiProjectChatContent)
      (allowedRefs : List Text) (details : AnswerDetails)
  | fail (index : Nat)
  | close (index : Nat)

def chatRouteStep (u : CharClasses) (s : ChatState) : ChatRouteAction → Except ChatError ChatState
  | .postQuestion now newConversationId newMessageId conversationId scope message => do
    let message ← boundedString 2000 message
    chatStep s (.saveQuestion now newConversationId newMessageId conversationId scope
      (redactText u message))
  | .postChat now newConversationId newMessageId conversationId scope message => do
    let message ← boundedString 2000 message
    chatStep s (.beginExchange now newConversationId newMessageId conversationId scope
      (redactText u message))
  | .prepare conversationId questionMessageId scope =>
    chatStep s (.loadQuestion conversationId questionMessageId scope)
  | .complete index now newMessageId response allowedRefs details => do
    let response ← aiProjectChatContent response
    let content ← sanitizeAndValidateChat u response allowedRefs
    chatStep s (.saveAnswer index now newMessageId content details)
  | .fail index => chatStep s (.markFailed index)
  | .close index => chatStep s (.close index)

/-- Conversations under requests to the routes. -/
def chatRoutes (u : CharClasses) : System ChatState ChatRouteAction :=
  machine (· = ChatState.init) (chatRouteStep u)

end TestOps

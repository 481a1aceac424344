import TestOps.ControlPlane.AiChat

/-! The messages of a conversation are numbered from one, and a question has one reply at most. Its
    status tells whether it has one, except that a failure may come late:

      session 1:  load (PENDING)  ───────────────  answer (COMPLETED)
      session 2:  load (PENDING)  ──────────────────────────────────────  failure (FAILED)  -/

namespace TestOps

open Checked Relational Transition

variable {db db' : ChatDatabase} {s s' : ChatState} {a : ChatAction}
  {message : AiChatMessageRecord} {loaded : LoadedQuestion} {now : Instant}
  {conversationId : UUID}

/-! ### Replies -/

/-- The message is a reply to the question. -/
def IsReplyTo (question reply : AiChatMessageRecord) : Prop :=
  reply.role = .assistant ∧ reply.conversationId = question.conversationId ∧
    reply.responseMetadata.replyToMessageId = some question.id

/-- The question has a reply. -/
def Answered (db : ChatDatabase) (question : AiChatMessageRecord) : Prop :=
  ∃ reply ∈ db.messages, IsReplyTo question reply

theorem mem_messagesOf :
    message ∈ db.messagesOf conversationId ↔
      message ∈ db.messages ∧ message.conversationId = conversationId := by
  rw [ChatDatabase.messagesOf, List.mem_filter, decide_eq_true_eq, Table.mem_iff]

theorem mem_repliesTo {question reply : AiChatMessageRecord} :
    reply ∈ repliesTo question.conversationId question.id db ↔
      reply ∈ db.messages ∧ IsReplyTo question reply := by
  rw [repliesTo, List.mem_filter, mem_messagesOf, decide_eq_true_eq, IsReplyTo]
  constructor
  · rintro ⟨⟨hmem, hconversation⟩, hrole, hreply⟩
    exact ⟨hmem, hrole, hconversation, hreply⟩
  · rintro ⟨hmem, hrole, hconversation, hreply⟩
    exact ⟨⟨hmem, hconversation⟩, hrole, hreply⟩

theorem answered_iff {question : AiChatMessageRecord} :
    Answered db question ↔ repliesTo question.conversationId question.id db ≠ [] := by
  constructor
  · rintro ⟨reply, hreply⟩
    exact List.ne_nil_of_mem (mem_repliesTo.mpr hreply)
  · intro hsome
    obtain ⟨reply, hreply⟩ := List.exists_mem_of_ne_nil _ hsome
    exact ⟨reply, mem_repliesTo.mp hreply⟩

/-! ### The invariant -/

structure ChatLog (db : ChatDatabase) : Prop where
  numbered : ∀ conversation ∈ db.conversations,
    (db.messagesOf conversation.id).map AiChatMessageRecord.sequence =
      List.range' 1 conversation.messageCount
  placed : ∀ message ∈ db.messages, ∃ conversation ∈ db.conversations,
    conversation.id = message.conversationId
  single : ∀ question ∈ db.messages, ∀ reply ∈ db.messages, ∀ other ∈ db.messages,
    IsReplyTo question reply → IsReplyTo question other → reply = other
  targets : ∀ reply ∈ db.messages, ∀ questionId ∈ reply.responseMetadata.replyToMessageId,
    ∃ question ∈ db.messages, question.id = questionId ∧ question.role = .user ∧
      question.conversationId = reply.conversationId
  completed : ∀ question ∈ db.messages, question.role = .user →
    question.responseMetadata.status = .completed → Answered db question
  questions : ∀ question ∈ db.messages, question.role = .user →
    question.responseMetadata.replyToMessageId = none

/-- What a session knows of the question it has loaded. -/
structure Knows (db : ChatDatabase) (loaded : LoadedQuestion) : Prop where
  stored : ∃ question ∈ db.messages, question.id = loaded.messageId ∧ question.role = .user ∧
    question.conversationId = loaded.conversationId
  completed : loaded.metadata.status = .completed →
    ∀ question ∈ db.messages, question.id = loaded.messageId → Answered db question
  question : loaded.metadata.replyToMessageId = none

/-! ### Writing -/

/-- A message is stored as the next one of its conversation. -/
structure Appends (db : ChatDatabase) (message : AiChatMessageRecord) (db' : ChatDatabase) :
    Prop where
  conversation : ∃ conversation, conversation.id = message.conversationId ∧
    message.sequence = conversation.messageCount + 1 ∧
    (conversation ∈ db.conversations ∨
      conversation.messageCount = 0 ∧ ∀ other ∈ db.conversations, other.id ≠ conversation.id) ∧
    (∀ other, other ∈ db'.conversations → other.id ≠ conversation.id → other ∈ db.conversations) ∧
    (∀ other ∈ db'.conversations, other.id = conversation.id →
      other.messageCount = conversation.messageCount + 1) ∧
    ∀ conversationId, (∃ other ∈ db'.conversations, other.id = conversationId) ↔
      (∃ other ∈ db.conversations, other.id = conversationId) ∨ conversationId = conversation.id
  rows : db'.messages.rows = db.messages.rows ++ [message]
  fresh : ∀ other ∈ db.messages, other.id ≠ message.id

theorem insertMessage_ok (h : insertMessage message db = .ok db') :
    db'.conversations = db.conversations ∧ db'.messages.rows = db.messages.rows ++ [message] ∧
      ∀ other ∈ db.messages, other.id ≠ message.id := by
  simp only [insertMessage, bind_eq_ok, ensure_eq_ok, found_eq_ok, pure_eq_ok] at h
  obtain ⟨-, -, messages, hinsert, rfl⟩ := h
  obtain ⟨hfresh, hrows⟩ := Table.insert?_eq_some.mp hinsert
  exact ⟨rfl, hrows, hfresh⟩

/-- The next message of a stored conversation. -/
theorem appends_of_stored (now : Instant) {conversation : AiChatConversationRecord}
    (hstored : conversation ∈ db.conversations)
    (hid : message.conversationId = conversation.id)
    (hsequence : message.sequence = conversation.messageCount + 1)
    (h : insertMessage message db = .ok db') :
    Appends db message (countMessage now conversation.id db') := by
  obtain ⟨hsame, hrows, hfresh⟩ := insertMessage_ok h
  have hmem : ∀ other, other ∈ (countMessage now conversation.id db').conversations ↔
      ∃ old ∈ db.conversations, (if old.id = conversation.id then
        { old with messageCount := old.messageCount + 1, updatedAt := now } else old) = other := by
    intro other
    simp only [countMessage, hsame]
    exact Table.mem_modify
  refine ⟨⟨conversation, hid.symm, hsequence, .inl hstored, ?_, ?_, ?_⟩, hrows, hfresh⟩
  · intro other hother hne
    obtain ⟨old, hold, rfl⟩ := (hmem other).mp hother
    by_cases heq : old.id = conversation.id
    · rw [if_pos heq] at hne
      exact absurd heq hne
    · rw [if_neg heq]
      exact hold
  · intro other hother heq
    obtain ⟨old, hold, rfl⟩ := (hmem other).mp hother
    by_cases hkey : old.id = conversation.id
    · rw [if_pos hkey, Table.eq_of_key_eq hold hstored hkey]
    · rw [if_neg hkey] at heq
      exact absurd heq hkey
  · intro conversationId
    constructor
    · rintro ⟨other, hother, rfl⟩
      obtain ⟨old, hold, rfl⟩ := (hmem other).mp hother
      refine .inl ⟨old, hold, ?_⟩
      split <;> rfl
    · have hkept : ∀ old ∈ db.conversations,
          ∃ other ∈ (countMessage now conversation.id db').conversations, other.id = old.id :=
        fun old hold => ⟨_, (hmem _).mpr ⟨old, hold, rfl⟩, by split <;> rfl⟩
      rintro (⟨old, hold, rfl⟩ | rfl)
      · exact hkept old hold
      · exact hkept conversation hstored

theorem saveAiChatQuestion_ok {newConversationId newMessageId : UUID} {target : Option UUID}
    {scope : ChatScope} {question : Text}
    (h : saveAiChatQuestion now newConversationId newMessageId target scope question db =
      .ok (message, db')) :
    Appends db message db' ∧ message.role = .user ∧ message.content = question ∧
      message.responseMetadata = questionMetadata := by
  simp only [saveAiChatQuestion, bind_eq_ok, pure_eq_ok, Prod.exists, Prod.mk.injEq] at h
  obtain ⟨locked, db₁, hlocked, db₂, hinsert, rfl, rfl⟩ := h
  refine ⟨?_, rfl, rfl, rfl⟩
  cases target with
  | some conversationId =>
    simp only [questionConversation, getAiConversation, bind_eq_ok, ensure_eq_ok, found_eq_ok,
      pure_eq_ok, Prod.mk.injEq] at hlocked
    obtain ⟨_, ⟨conversation, hget, -, -, rfl⟩, rfl, rfl⟩ := hlocked
    exact appends_of_stored _ (Table.mem_of_get? hget) rfl rfl hinsert
  | none =>
    simp only [questionConversation, bind_eq_ok, found_eq_ok, pure_eq_ok, Prod.mk.injEq] at hlocked
    obtain ⟨conversations, hnew, rfl, rfl⟩ := hlocked
    have hfree := (Table.insert?_eq_some.mp hnew).1
    have happends := appends_of_stored now
      ((Table.mem_insert? hnew).mpr (.inr rfl)) rfl rfl hinsert
    obtain ⟨⟨conversation, hid, hsequence, -, hothers, hcounted, hids⟩, hrows, hfresh⟩ := happends
    have hcount : conversation.messageCount = 0 := by
      simp only at hsequence
      omega
    refine ⟨⟨conversation, hid, hsequence, .inr ⟨hcount, fun other hother => ?_⟩, ?_, hcounted,
      ?_⟩, hrows, hfresh⟩
    · rw [hid]
      exact hfree other hother
    · intro other hother hne
      rcases (Table.mem_insert? hnew).mp (hothers other hother hne) with hold | rfl
      · exact hold
      · exact absurd hid.symm hne
    · intro conversationId
      rw [hids]
      constructor
      · rintro (⟨other, hother, rfl⟩ | heq)
        · rcases (Table.mem_insert? hnew).mp hother with hold | rfl
          · exact .inl ⟨other, hold, rfl⟩
          · exact .inr hid.symm
        · exact .inr heq
      · rintro (⟨other, hother, rfl⟩ | heq)
        · exact .inl ⟨other, (Table.mem_insert? hnew).mpr (.inl hother), rfl⟩
        · exact .inr heq

/-! ### A further message -/

theorem Appends.mem (h : Appends db message db') {other : AiChatMessageRecord} :
    other ∈ db'.messages ↔ other ∈ db.messages ∨ other = message := by
  rw [Table.mem_iff, h.rows, List.mem_append, List.mem_singleton, Table.mem_iff]

theorem Appends.messagesOf (h : Appends db message db') :
    db'.messagesOf conversationId = db.messagesOf conversationId ++
      if message.conversationId = conversationId then [message] else [] := by
  rw [ChatDatabase.messagesOf, h.rows, List.filter_append]
  by_cases heq : message.conversationId = conversationId <;> simp [ChatDatabase.messagesOf, heq]

theorem ChatLog.numbered_append (hi : ChatLog db) (h : Appends db message db') :
    ∀ conversation ∈ db'.conversations,
      (db'.messagesOf conversation.id).map AiChatMessageRecord.sequence =
        List.range' 1 conversation.messageCount := by
  obtain ⟨locked, hid, hsequence, hstored, hothers, hcounted, -⟩ := h.conversation
  intro conversation hmem
  rw [h.messagesOf, List.map_append, ← hid]
  by_cases heq : conversation.id = locked.id
  · rw [heq, if_pos rfl, hcounted conversation hmem heq, List.range'_concat, List.map_singleton,
      hsequence]
    have hbefore : (db.messagesOf locked.id).map AiChatMessageRecord.sequence =
        List.range' 1 locked.messageCount := by
      rcases hstored with hold | ⟨hzero, hnew⟩
      · exact hi.numbered locked hold
      · have hnone : db.messagesOf locked.id = [] := by
          rw [List.eq_nil_iff_forall_not_mem]
          intro other hother
          obtain ⟨hmessage, hconversation⟩ := mem_messagesOf.mp hother
          obtain ⟨placed, hplaced, hkey⟩ := hi.placed other hmessage
          exact hnew placed hplaced (hkey.trans hconversation)
        rw [hnone, hzero]
        rfl
    rw [hbefore]
    congr 2
    omega
  · rw [if_neg (Ne.symm heq), List.map_nil, List.append_nil]
    exact hi.numbered conversation (hothers conversation hmem heq)

theorem ChatLog.placed_append (hi : ChatLog db) (h : Appends db message db') :
    ∀ other ∈ db'.messages, ∃ conversation ∈ db'.conversations,
      conversation.id = other.conversationId := by
  obtain ⟨locked, hid, -, -, -, -, hids⟩ := h.conversation
  intro other hother
  rcases h.mem.mp hother with hold | rfl
  · exact (hids _).mpr (.inl (hi.placed other hold))
  · exact (hids _).mpr (.inr hid.symm)

/-- Replies stay where they are. -/
theorem Answered.append {question : AiChatMessageRecord} (h : Appends db message db')
    (hanswered : Answered db question) : Answered db' question := by
  obtain ⟨reply, hreply, his⟩ := hanswered
  exact ⟨reply, h.mem.mpr (.inl hreply), his⟩

/-- A new question has no reply yet. -/
theorem ChatLog.not_isReplyTo_fresh (hi : ChatLog db) (h : Appends db message db')
    {reply : AiChatMessageRecord} (hreply : reply ∈ db.messages) : ¬IsReplyTo message reply := by
  rintro ⟨-, -, htarget⟩
  obtain ⟨question, hquestion, hid, -⟩ := hi.targets reply hreply _ htarget
  exact h.fresh question hquestion hid

theorem ChatLog.append_question (hi : ChatLog db) (h : Appends db message db')
    (hrole : message.role = .user) (hmetadata : message.responseMetadata = questionMetadata) :
    ChatLog db' where
  numbered := hi.numbered_append h
  placed := hi.placed_append h
  single := by
    have hnot : ∀ question, ¬IsReplyTo question message := by
      rintro question ⟨hassistant, -⟩
      rw [hrole] at hassistant
      cases hassistant
    intro question hquestion reply hreply other hother his his'
    rcases h.mem.mp hreply with hreply | rfl
    · rcases h.mem.mp hother with hother | rfl
      · rcases h.mem.mp hquestion with hquestion | rfl
        · exact hi.single question hquestion reply hreply other hother his his'
        · exact absurd his (hi.not_isReplyTo_fresh h hreply)
      · exact absurd his' (hnot question)
    · exact absurd his (hnot question)
  targets := by
    intro reply hreply questionId htarget
    rcases h.mem.mp hreply with hreply | rfl
    · obtain ⟨question, hquestion, hid⟩ := hi.targets reply hreply questionId htarget
      exact ⟨question, h.mem.mpr (.inl hquestion), hid⟩
    · rw [hmetadata] at htarget
      cases htarget
  completed := by
    intro question hquestion huser hstatus
    rcases h.mem.mp hquestion with hquestion | rfl
    · exact (hi.completed question hquestion huser hstatus).append h
    · rw [hmetadata] at hstatus
      cases hstatus
  questions := by
    intro question hquestion huser
    rcases h.mem.mp hquestion with hquestion | rfl
    · exact hi.questions question hquestion huser
    · rw [hmetadata]
      rfl

theorem ChatLog.append_reply {question : AiChatMessageRecord} (hi : ChatLog db)
    (h : Appends db message db') (hreply : IsReplyTo question message)
    (hquestion : question ∈ db.messages) (huser : question.role = .user)
    (hnone : ¬Answered db question) : ChatLog db' where
  numbered := hi.numbered_append h
  placed := hi.placed_append h
  single := by
    have honly : ∀ asked ∈ db'.messages, IsReplyTo asked message →
        ∀ other ∈ db.messages, ¬IsReplyTo asked other := by
      rintro asked - ⟨-, hconversation, htarget⟩ other hother ⟨hrole, hconversation', htarget'⟩
      refine hnone ⟨other, hother, hrole, ?_, ?_⟩
      · rw [hconversation', ← hconversation, hreply.2.1]
      · rw [htarget', ← htarget, hreply.2.2]
    intro asked hasked reply hmem other hother his his'
    rcases h.mem.mp hmem with hmem | rfl <;> rcases h.mem.mp hother with hother | rfl
    · rcases h.mem.mp hasked with hasked | rfl
      · exact hi.single asked hasked reply hmem other hother his his'
      · exact absurd his (hi.not_isReplyTo_fresh h hmem)
    · exact absurd his (honly asked hasked his' reply hmem)
    · exact absurd his' (honly asked hasked his other hother)
    · rfl
  targets := by
    intro reply hmem questionId htarget
    rcases h.mem.mp hmem with hmem | rfl
    · obtain ⟨asked, hasked, hid⟩ := hi.targets reply hmem questionId htarget
      exact ⟨asked, h.mem.mpr (.inl hasked), hid⟩
    · rw [hreply.2.2] at htarget
      cases htarget
      exact ⟨question, h.mem.mpr (.inl hquestion), rfl, huser, hreply.2.1.symm⟩
  completed := by
    intro asked hasked hrole hstatus
    rcases h.mem.mp hasked with hasked | rfl
    · exact (hi.completed asked hasked hrole hstatus).append h
    · rw [hreply.1] at hrole
      cases hrole
  questions := by
    intro asked hasked hrole
    rcases h.mem.mp hasked with hasked | rfl
    · exact hi.questions asked hasked hrole
    · rw [hreply.1] at hrole
      cases hrole

theorem Knows.append (hk : Knows db loaded) (h : Appends db message db') : Knows db' loaded where
  stored := by
    obtain ⟨question, hquestion, hknown⟩ := hk.stored
    exact ⟨question, h.mem.mpr (.inl hquestion), hknown⟩
  completed := by
    intro hstatus question hquestion hid
    rcases h.mem.mp hquestion with hquestion | rfl
    · exact (hk.completed hstatus question hquestion hid).append h
    · obtain ⟨stored, hstored, hkey, -⟩ := hk.stored
      exact absurd (hkey.trans hid.symm) (h.fresh stored hstored)
  question := hk.question

/-! ### Writing the status of a question -/

/-- The message with the status of its question written. -/
def rewritten (loaded : LoadedQuestion) (status : ChatStatus) (message : AiChatMessageRecord) :
    AiChatMessageRecord :=
  if message.id = loaded.messageId then
    { message with responseMetadata := { loaded.metadata with status := status } }
  else message

theorem writeMetadata_ok {status : ChatStatus} (h : writeMetadata loaded status db = .ok db') :
    db'.conversations = db.conversations ∧
      (db'.messages = db.messages ∧ loaded.metadata.status = status ∨
        db'.messages.rows = db.messages.rows.map (rewritten loaded status) ∧
          loaded.metadata.status ≠ status) := by
  rw [writeMetadata] at h
  split at h
  · rename_i hsame
    simp only [pure_eq_ok] at h
    subst h
    exact ⟨rfl, .inl ⟨rfl, hsame⟩⟩
  · rename_i hchanged
    simp only [bind_eq_ok, pure_eq_ok] at h
    obtain ⟨-, -, rfl⟩ := h
    refine ⟨rfl, .inr ⟨?_, hchanged⟩⟩
    simp only [Table.modify_def]
    rw [Table.modifyWhere_rows]
    refine List.map_congr_left fun row _ => ?_
    simp only [rewritten, decide_eq_true_eq]

/-- Only the status of the question changes. -/
theorem rewritten_same (status : ChatStatus) (hi : ChatLog db) (hk : Knows db loaded)
    (hmem : message ∈ db.messages) :
    (rewritten loaded status message).id = message.id ∧
      (rewritten loaded status message).conversationId = message.conversationId ∧
      (rewritten loaded status message).sequence = message.sequence ∧
      (rewritten loaded status message).role = message.role ∧
      (rewritten loaded status message).content = message.content ∧
      (rewritten loaded status message).responseMetadata.replyToMessageId =
        message.responseMetadata.replyToMessageId := by
  rw [rewritten]
  split
  · rename_i hid
    obtain ⟨question, hquestion, hkey, hrole, -⟩ := hk.stored
    have heq : message = question :=
      Table.eq_of_key_eq hmem hquestion (hid.trans hkey.symm)
    refine ⟨rfl, rfl, rfl, rfl, rfl, ?_⟩
    rw [heq, hi.questions question hquestion hrole]
    exact hk.question
  · exact ⟨rfl, rfl, rfl, rfl, rfl, rfl⟩

theorem isReplyTo_rewritten {status : ChatStatus} (hi : ChatLog db) (hk : Knows db loaded)
    {question reply : AiChatMessageRecord} (hquestion : question ∈ db.messages)
    (hreply : reply ∈ db.messages) :
    IsReplyTo (rewritten loaded status question) (rewritten loaded status reply) ↔
      IsReplyTo question reply := by
  obtain ⟨hid, hconversation, -⟩ := rewritten_same status hi hk hquestion
  obtain ⟨-, hconversation', -, hrole, -, htarget⟩ := rewritten_same status hi hk hreply
  rw [IsReplyTo, IsReplyTo, hid, hconversation, hconversation', hrole, htarget]

theorem answered_rewritten {status : ChatStatus} (hi : ChatLog db) (hk : Knows db loaded)
    (hrows : db'.messages.rows = db.messages.rows.map (rewritten loaded status))
    {question : AiChatMessageRecord} (hquestion : question ∈ db.messages) :
    Answered db' (rewritten loaded status question) ↔ Answered db question := by
  constructor
  · rintro ⟨reply, hreply, his⟩
    rw [Table.mem_iff, hrows] at hreply
    obtain ⟨old, hold, rfl⟩ := List.mem_map.mp hreply
    exact ⟨old, hold, (isReplyTo_rewritten hi hk hquestion hold).mp his⟩
  · rintro ⟨reply, hreply, his⟩
    refine ⟨rewritten loaded status reply, ?_, (isReplyTo_rewritten hi hk hquestion hreply).mpr his⟩
    rw [Table.mem_iff, hrows]
    exact List.mem_map_of_mem hreply

/-- A question may be completed when it has a reply. -/
theorem ChatLog.rewrite {status : ChatStatus} (hi : ChatLog db) (hk : Knows db loaded)
    (hconversations : db'.conversations = db.conversations)
    (hrows : db'.messages.rows = db.messages.rows.map (rewritten loaded status))
    (hstatus : status = .completed → ∀ question ∈ db.messages, question.id = loaded.messageId →
      Answered db question) : ChatLog db' := by
  have hmem : ∀ {other}, other ∈ db'.messages ↔
      ∃ old ∈ db.messages, rewritten loaded status old = other := by
    intro other
    rw [Table.mem_iff, hrows, List.mem_map]
    rfl
  constructor
  · intro conversation hconversation
    rw [hconversations] at hconversation
    rw [← hi.numbered conversation hconversation, ChatDatabase.messagesOf, hrows, List.filter_map,
      List.map_map, ChatDatabase.messagesOf]
    have hfilter : db.messages.rows.filter ((fun message : AiChatMessageRecord =>
        decide (message.conversationId = conversation.id)) ∘ rewritten loaded status) =
        db.messages.rows.filter fun message => message.conversationId = conversation.id := by
      refine List.filter_congr fun row hrow => ?_
      rw [Function.comp_apply, (rewritten_same _ hi hk hrow).2.1]
    rw [hfilter]
    refine List.map_congr_left fun row hrow => ?_
    exact (rewritten_same _ hi hk (List.mem_of_mem_filter hrow)).2.2.1
  · intro other hother
    obtain ⟨old, hold, rfl⟩ := hmem.mp hother
    rw [(rewritten_same _ hi hk hold).2.1, hconversations]
    exact hi.placed old hold
  · intro question hquestion reply hreply other hother his his'
    obtain ⟨asked, hasked, rfl⟩ := hmem.mp hquestion
    obtain ⟨first, hfirst, rfl⟩ := hmem.mp hreply
    obtain ⟨second, hsecond, rfl⟩ := hmem.mp hother
    rw [hi.single asked hasked first hfirst second hsecond
      ((isReplyTo_rewritten hi hk hasked hfirst).mp his)
      ((isReplyTo_rewritten hi hk hasked hsecond).mp his')]
  · intro reply hreply questionId htarget
    obtain ⟨old, hold, rfl⟩ := hmem.mp hreply
    rw [(rewritten_same _ hi hk hold).2.2.2.2.2] at htarget
    obtain ⟨question, hquestion, hid, hrole, hconversation⟩ :=
      hi.targets old hold questionId htarget
    refine ⟨_, hmem.mpr ⟨question, hquestion, rfl⟩, ?_, ?_, ?_⟩
    · rw [(rewritten_same _ hi hk hquestion).1, hid]
    · rw [(rewritten_same _ hi hk hquestion).2.2.2.1, hrole]
    · rw [(rewritten_same _ hi hk hquestion).2.1, (rewritten_same _ hi hk hold).2.1, hconversation]
  · intro question hquestion hrole hcompleted
    obtain ⟨asked, hasked, rfl⟩ := hmem.mp hquestion
    rw [answered_rewritten hi hk hrows hasked]
    rw [(rewritten_same _ hi hk hasked).2.2.2.1] at hrole
    rw [rewritten] at hcompleted
    split at hcompleted
    · rename_i hid
      exact hstatus hcompleted asked hasked hid
    · exact hi.completed asked hasked hrole hcompleted
  · intro question hquestion hrole
    obtain ⟨asked, hasked, rfl⟩ := hmem.mp hquestion
    obtain ⟨-, -, -, hsame, -, htarget⟩ := rewritten_same status hi hk hasked
    rw [hsame] at hrole
    rw [htarget]
    exact hi.questions asked hasked hrole

theorem Knows.rewrite {status : ChatStatus} {other : LoadedQuestion} (hi : ChatLog db)
    (hk : Knows db loaded) (hother : Knows db other)
    (hrows : db'.messages.rows = db.messages.rows.map (rewritten loaded status)) :
    Knows db' other := by
  have hmem : ∀ {row}, row ∈ db'.messages ↔
      ∃ old ∈ db.messages, rewritten loaded status old = row := by
    intro row
    rw [Table.mem_iff, hrows, List.mem_map]
    rfl
  constructor
  · obtain ⟨question, hquestion, hid, hrole, hconversation⟩ := hother.stored
    obtain ⟨hid', hconversation', -, hrole', -⟩ := rewritten_same status hi hk hquestion
    exact ⟨_, hmem.mpr ⟨question, hquestion, rfl⟩, hid'.trans hid, hrole'.trans hrole,
      hconversation'.trans hconversation⟩
  · intro hcompleted question hquestion hid
    obtain ⟨asked, hasked, rfl⟩ := hmem.mp hquestion
    rw [answered_rewritten hi hk hrows hasked]
    rw [(rewritten_same _ hi hk hasked).1] at hid
    exact hother.completed hcompleted asked hasked hid
  · exact hother.question

/-- Counting a message and writing a status touch different tables. -/
theorem writeMetadata_countMessage {status : ChatStatus}
    (h : writeMetadata loaded status db = .ok db') :
    writeMetadata loaded status (countMessage now conversationId db) =
      .ok (countMessage now conversationId db') := by
  rw [writeMetadata] at h ⊢
  by_cases hsame : loaded.metadata.status = status
  · rw [if_pos hsame] at h ⊢
    cases h
    rfl
  · rw [if_neg hsame] at h ⊢
    simp only [bind_eq_ok, found_eq_ok, pure_eq_ok] at h ⊢
    obtain ⟨stored, hget, rfl⟩ := h
    exact ⟨stored, hget, rfl⟩

/-! ### What an operation does -/

theorem getAiChatQuestion_ok {questionMessageId : UUID} {question : AiChatMessageRecord}
    (h : getAiChatQuestion conversationId questionMessageId db = .ok question) :
    question ∈ db.messages ∧ question.id = questionMessageId ∧
      question.conversationId = conversationId ∧ question.role = .user := by
  simp only [getAiChatQuestion, bind_eq_ok, ensure_eq_ok, found_eq_ok, pure_eq_ok] at h
  obtain ⟨message, hget, -, ⟨hconversation, hrole⟩, rfl⟩ := h
  exact ⟨Table.mem_of_get? hget, Table.key_of_get? hget, hconversation, hrole⟩

/-- A question that has a reply keeps it; any other gets one and its status. -/
theorem saveAiChatAnswer_ok {newMessageId : UUID} {content : AiProjectChatContent}
    {details : AnswerDetails}
    (h : saveAiChatAnswer now newMessageId loaded content details db = .ok db') :
    ∃ question ∈ db.messages, question.id = loaded.messageId ∧ question.role = .user ∧
      (Answered db question ∧ db' = db ∨
        ¬Answered db question ∧ ∃ reply db₁, IsReplyTo question reply ∧
          reply.content = content.answer ∧ Appends db reply db₁ ∧
          writeMetadata loaded .completed db₁ = .ok db') := by
  simp only [saveAiChatAnswer, bind_eq_ok] at h
  obtain ⟨locked, hlocked, question, hquestion, h⟩ := h
  obtain ⟨hmem, hid, hconversation, hrole⟩ := getAiChatQuestion_ok hquestion
  refine ⟨question, hmem, hid, hrole, ?_⟩
  rw [← hconversation] at h
  split at h
  · rename_i hsome
    simp only [pure_eq_ok] at h
    exact .inl ⟨answered_iff.mpr hsome, h.symm⟩
  · rename_i hnone
    rw [hconversation] at h
    simp only [bind_eq_ok, pure_eq_ok] at h
    obtain ⟨db₁, hinsert, db₂, hwrite, rfl⟩ := h
    simp only [getAiConversation, bind_eq_ok, ensure_eq_ok, found_eq_ok, pure_eq_ok] at hlocked
    obtain ⟨conversation, hget, -, -, rfl⟩ := hlocked
    refine .inr ⟨fun hanswered => hnone (answered_iff.mp hanswered), _, _, ?_, rfl,
      appends_of_stored now (Table.mem_of_get? hget) rfl rfl hinsert,
      writeMetadata_countMessage hwrite⟩
    exact ⟨rfl, hconversation.symm, congrArg some hid.symm⟩

theorem markAiChatQuestionFailed_ok (h : markAiChatQuestionFailed loaded db = .ok db') :
    (∃ question ∈ db.messages, question.id = loaded.messageId ∧ question.role = .user ∧
      question.conversationId = loaded.conversationId) ∧
      writeMetadata loaded .failed db = .ok db' := by
  simp only [markAiChatQuestionFailed, bind_eq_ok] at h
  obtain ⟨question, hquestion, hwrite⟩ := h
  obtain ⟨hmem, hid, hconversation, hrole⟩ := getAiChatQuestion_ok hquestion
  exact ⟨⟨question, hmem, hid, hrole, hconversation⟩, hwrite⟩

/-- A write of a status keeps the log and what sessions know. -/
theorem ChatLog.write {status : ChatStatus} (hi : ChatLog db) (hk : Knows db loaded)
    (h : writeMetadata loaded status db = .ok db')
    (hstatus : status = .completed → ∀ question ∈ db.messages, question.id = loaded.messageId →
      Answered db question) :
    ChatLog db' ∧ ∀ other, Knows db other → Knows db' other := by
  obtain ⟨hconversations, ⟨hmessages, -⟩ | ⟨hrows, -⟩⟩ := writeMetadata_ok h
  · have hsame : db' = db := by
      cases db
      cases db'
      simp only at hconversations hmessages
      rw [hconversations, hmessages]
    rw [hsame]
    exact ⟨hi, fun _ hother => hother⟩
  · exact ⟨hi.rewrite hk hconversations hrows hstatus,
      fun _ hother => Knows.rewrite hi hk hother hrows⟩

/-- The log is in order, and what sessions hold is true of it. -/
def ChatInvariant (s : ChatState) : Prop :=
  ChatLog s.db ∧ ∀ loaded ∈ s.loaded, Knows s.db loaded

theorem chatInvariant_init : ChatInvariant .init := by
  refine ⟨⟨?_, ?_, ?_, ?_, ?_, ?_⟩, fun loaded hloaded => absurd hloaded List.not_mem_nil⟩ <;>
    intro row hrow <;> exact absurd hrow Table.not_mem_empty

theorem chatInvariant_step (h : chatStep s a = .ok s') (hi : ChatInvariant s) :
    ChatInvariant s' := by
  obtain ⟨hlog, hknows⟩ := hi
  cases a <;> simp only [chatStep, bind_eq_ok, found_eq_ok, pure_eq_ok, Prod.exists] at h
  case saveQuestion =>
    obtain ⟨message, db, hsave, rfl⟩ := h
    obtain ⟨happends, hrole, -, hmetadata⟩ := saveAiChatQuestion_ok hsave
    exact ⟨hlog.append_question happends hrole hmetadata,
      fun loaded hloaded => (hknows loaded hloaded).append happends⟩
  case beginExchange =>
    obtain ⟨message, db, hsave, rfl⟩ := h
    obtain ⟨happends, hrole, -, hmetadata⟩ := saveAiChatQuestion_ok hsave
    refine ⟨hlog.append_question happends hrole hmetadata, fun loaded hloaded => ?_⟩
    rcases List.mem_append.mp hloaded with hloaded | hnew
    · exact (hknows loaded hloaded).append happends
    · obtain rfl := List.mem_singleton.mp hnew
      refine ⟨⟨message, happends.mem.mpr (.inr rfl), rfl, hrole, rfl⟩, fun hcompleted => ?_, ?_⟩
      · rw [hmetadata] at hcompleted
        cases hcompleted
      · rw [hmetadata]
        rfl
  case loadQuestion =>
    obtain ⟨message, hget, rfl⟩ := h
    obtain ⟨hmem, hid, hconversation, hrole⟩ := getAiChatQuestion_ok hget
    refine ⟨hlog, fun loaded hloaded => ?_⟩
    rcases List.mem_append.mp hloaded with hloaded | hnew
    · exact hknows loaded hloaded
    · obtain rfl := List.mem_singleton.mp hnew
      refine ⟨⟨message, hmem, hid, hrole, hconversation⟩, ?_, hlog.questions message hmem hrole⟩
      intro hcompleted question hquestion hkey
      rw [Table.eq_of_key_eq hquestion hmem (hkey.trans hid.symm)]
      exact hlog.completed message hmem hrole hcompleted
  case saveAnswer =>
    obtain ⟨loaded, hloaded, db, hsave, rfl⟩ := h
    have hk := hknows loaded (List.mem_of_getElem? hloaded)
    obtain ⟨question, hquestion, hid, hrole, ⟨-, rfl⟩ | ⟨hnone, reply, db₁, his, -, happends,
      hwrite⟩⟩ := saveAiChatAnswer_ok hsave
    · exact ⟨hlog, fun other hother => hknows other (List.mem_of_mem_eraseIdx hother)⟩
    · have hanswered : Answered db₁ question := ⟨reply, happends.mem.mpr (.inr rfl), his⟩
      obtain ⟨hlog', hkept⟩ := (hlog.append_reply happends his hquestion hrole hnone).write
        (hk.append happends) hwrite fun _ asked hasked hkey => by
          rwa [Table.eq_of_key_eq hasked (happends.mem.mpr (.inl hquestion)) (hkey.trans hid.symm)]
      exact ⟨hlog', fun other hother =>
        hkept other ((hknows other (List.mem_of_mem_eraseIdx hother)).append happends)⟩
  case markFailed =>
    obtain ⟨loaded, hloaded, db, hmark, rfl⟩ := h
    have hk := hknows loaded (List.mem_of_getElem? hloaded)
    obtain ⟨-, hwrite⟩ := markAiChatQuestionFailed_ok hmark
    obtain ⟨hlog', hkept⟩ := hlog.write hk hwrite fun hcompleted => by cases hcompleted
    exact ⟨hlog', fun other hother =>
      hkept other (hknows other (List.mem_of_mem_eraseIdx hother))⟩
  case close =>
    obtain ⟨loaded, -, rfl⟩ := h
    exact ⟨hlog, fun other hother => hknows other (List.mem_of_mem_eraseIdx hother)⟩

theorem chatInvariant (hs : chat.Reachable s) : ChatInvariant s := by
  refine hs.invariant (p := ChatInvariant) ?_ ?_
  · rintro s rfl
    exact chatInvariant_init
  · intro s a s' hstep hi
    exact chatInvariant_step hstep hi

/-! ### Late failures -/

/-- A failure that has something to write finds the question without a reply. -/
def FailsUnanswered (s : ChatState) : ChatAction → Prop
  | .markFailed index => ∀ loaded ∈ s.loaded[index]?, loaded.metadata.status ≠ .failed →
    repliesTo loaded.conversationId loaded.messageId s.db = []
  | _ => True

instance : Decidable (FailsUnanswered s a) := by
  cases a <;> unfold FailsUnanswered <;> infer_instance

/-- A question with a reply is completed. -/
def AnswersComplete (db : ChatDatabase) : Prop :=
  ∀ question ∈ db.messages, question.role = .user → Answered db question →
    question.responseMetadata.status = .completed

theorem AnswersComplete.append_question (hc : AnswersComplete db) (hi : ChatLog db)
    (h : Appends db message db') (hrole : message.role = .user) : AnswersComplete db' := by
  rintro question hquestion huser ⟨reply, hreply, his⟩
  rcases h.mem.mp hreply with hreply | rfl
  · rcases h.mem.mp hquestion with hquestion | rfl
    · exact hc question hquestion huser ⟨reply, hreply, his⟩
    · exact absurd his (hi.not_isReplyTo_fresh h hreply)
  · rw [his.1] at hrole
    cases hrole

/-- A write settles the question it is about, and no other. -/
theorem answersComplete_write {status : ChatStatus} (hi : ChatLog db) (hk : Knows db loaded)
    (h : writeMetadata loaded status db = .ok db') (hchanged : loaded.metadata.status ≠ status)
    (hothers : ∀ question ∈ db.messages, question.id ≠ loaded.messageId →
      question.role = .user → Answered db question → question.responseMetadata.status = .completed)
    (hstatus : ∀ question ∈ db.messages, question.id = loaded.messageId →
      Answered db question → status = .completed) : AnswersComplete db' := by
  obtain ⟨-, ⟨-, hsame⟩ | ⟨hrows, -⟩⟩ := writeMetadata_ok h
  · exact absurd hsame hchanged
  · intro question hquestion huser hanswered
    rw [Table.mem_iff, hrows] at hquestion
    obtain ⟨old, hold, rfl⟩ := List.mem_map.mp hquestion
    rw [answered_rewritten hi hk hrows hold] at hanswered
    rw [(rewritten_same _ hi hk hold).2.2.2.1] at huser
    rw [rewritten]
    split
    · rename_i hid
      exact hstatus old hold hid hanswered
    · rename_i hne
      exact hothers old hold hne huser hanswered

theorem answersComplete_step (h : chatStep s a = .ok s') (hguard : FailsUnanswered s a)
    (hi : ChatInvariant s) (hc : AnswersComplete s.db) : AnswersComplete s'.db := by
  obtain ⟨hlog, hknows⟩ := hi
  cases a <;> simp only [chatStep, bind_eq_ok, found_eq_ok, pure_eq_ok, Prod.exists] at h
  case saveQuestion =>
    obtain ⟨message, db, hsave, rfl⟩ := h
    obtain ⟨happends, hrole, -, -⟩ := saveAiChatQuestion_ok hsave
    exact hc.append_question hlog happends hrole
  case beginExchange =>
    obtain ⟨message, db, hsave, rfl⟩ := h
    obtain ⟨happends, hrole, -, -⟩ := saveAiChatQuestion_ok hsave
    exact hc.append_question hlog happends hrole
  case loadQuestion =>
    obtain ⟨message, -, rfl⟩ := h
    exact hc
  case saveAnswer =>
    obtain ⟨loaded, hloaded, db, hsave, rfl⟩ := h
    have hk := hknows loaded (List.mem_of_getElem? hloaded)
    obtain ⟨question, hquestion, hid, hrole, ⟨-, rfl⟩ | ⟨hnone, reply, db₁, his, -, happends,
      hwrite⟩⟩ := saveAiChatAnswer_ok hsave
    · exact hc
    · have hopen : loaded.metadata.status ≠ .completed := fun hcompleted =>
        hnone (hk.completed hcompleted question hquestion hid)
      refine answersComplete_write (hlog.append_reply happends his hquestion hrole hnone)
        (hk.append happends) hwrite hopen ?_ fun _ _ _ _ => rfl
      rintro asked hasked hne huser ⟨other, hother, his'⟩
      rcases happends.mem.mp hasked with hasked | rfl
      · rcases happends.mem.mp hother with hother | rfl
        · exact hc asked hasked huser ⟨other, hother, his'⟩
        · have hsame : some asked.id = some question.id := his'.2.2.symm.trans his.2.2
          exact absurd ((Option.some.inj hsame).trans hid) hne
      · rw [his.1] at huser
        cases huser
  case markFailed index =>
    obtain ⟨loaded, hloaded, db, hmark, rfl⟩ := h
    have hk := hknows loaded (List.mem_of_getElem? hloaded)
    obtain ⟨⟨question, hquestion, hid, hrole, hconversation⟩, hwrite⟩ :=
      markAiChatQuestionFailed_ok hmark
    by_cases hfailed : loaded.metadata.status = .failed
    · rw [writeMetadata, if_pos hfailed, pure_eq_ok] at hwrite
      rwa [← hwrite]
    · have hnone : ¬Answered s.db question := by
        rw [answered_iff, hid, hconversation, not_not]
        exact hguard loaded hloaded hfailed
      refine answersComplete_write hlog hk hwrite hfailed
        (fun asked hasked _ huser hanswered => hc asked hasked huser hanswered) ?_
      intro asked hasked hkey hanswered
      rw [Table.eq_of_key_eq hasked hquestion (hkey.trans hid.symm)] at hanswered
      exact absurd hanswered hnone
  case close =>
    obtain ⟨loaded, -, rfl⟩ := h
    exact hc

/-- A failure that comes late leaves the question failed and answered. -/
theorem late_failure {index : Nat} (h : chatStep s (.markFailed index) = .ok s')
    (hi : ChatInvariant s) (hlate : ¬FailsUnanswered s (.markFailed index)) :
    ∃ question ∈ s'.db.messages, question.role = .user ∧ Answered s'.db question ∧
      question.responseMetadata.status = .failed := by
  obtain ⟨hlog, hknows⟩ := hi
  simp only [chatStep, bind_eq_ok, found_eq_ok, pure_eq_ok] at h
  obtain ⟨loaded, hloaded, db, hmark, rfl⟩ := h
  have hk := hknows loaded (List.mem_of_getElem? hloaded)
  obtain ⟨⟨question, hquestion, hid, hrole, hconversation⟩, hwrite⟩ :=
    markAiChatQuestionFailed_ok hmark
  simp only [FailsUnanswered, hloaded, Option.mem_some_iff, forall_eq'] at hlate
  push Not at hlate
  obtain ⟨hopen, hreplies⟩ := hlate
  have hanswered : Answered s.db question := by
    rw [answered_iff, hid, hconversation]
    exact hreplies
  obtain ⟨-, ⟨-, hsame⟩ | ⟨hrows, -⟩⟩ := writeMetadata_ok hwrite
  · exact absurd hsame hopen
  · refine ⟨rewritten loaded .failed question, ?_, ?_, ?_, ?_⟩
    · rw [Table.mem_iff, hrows]
      exact List.mem_map_of_mem hquestion
    · rw [(rewritten_same _ hlog hk hquestion).2.2.2.1, hrole]
    · exact (answered_rewritten hlog hk hrows hquestion).mpr hanswered
    · rw [rewritten, if_pos hid]

/-- All replies to a question are the same message. -/
theorem repliesTo_length {question : AiChatMessageRecord} (hi : ChatLog db)
    (hquestion : question ∈ db.messages) :
    (repliesTo question.conversationId question.id db).length ≤ 1 := by
  have hdistinct : (repliesTo question.conversationId question.id db).Nodup :=
    (db.messages.keysNodup.of_map.filter _).filter _
  match hreplies : repliesTo question.conversationId question.id db with
  | [] | [_] => simp
  | first :: second :: others =>
    have hfirst := mem_repliesTo.mp (hreplies ▸ List.mem_cons_self)
    have hsecond := mem_repliesTo.mp (hreplies ▸ List.mem_cons_of_mem _ List.mem_cons_self)
    have hsame := hi.single question hquestion first hfirst.1 second hsecond.1 hfirst.2 hsecond.2
    rw [hreplies, hsame] at hdistinct
    exact absurd List.mem_cons_self (List.nodup_cons.mp hdistinct).1

/-- Messages are numbered without gaps, a question has one reply at most and is completed only with
    one. It is completed with every reply as long as no failure comes late, and no longer. -/
theorem ai_chat_conversation (hs : chat.Reachable s) :
    (∀ conversation ∈ s.db.conversations,
      (s.db.messagesOf conversation.id).map AiChatMessageRecord.sequence =
        List.range' 1 conversation.messageCount) ∧
    (∀ question ∈ s.db.messages, question.role = .user →
      (repliesTo question.conversationId question.id s.db).length ≤ 1 ∧
      (question.responseMetadata.status = .completed →
        repliesTo question.conversationId question.id s.db ≠ [])) ∧
    (∀ reply ∈ s.db.messages, ∀ questionId ∈ reply.responseMetadata.replyToMessageId,
      ∃ question ∈ s.db.messages, question.id = questionId ∧ question.role = .user ∧
        question.conversationId = reply.conversationId) ∧
    ((chat.restrict FailsUnanswered).Reachable s → ∀ question ∈ s.db.messages,
      question.role = .user → (question.responseMetadata.status = .completed ↔
        repliesTo question.conversationId question.id s.db ≠ [])) ∧
    ∀ a s', chat.next s a s' → ¬FailsUnanswered s a → ∃ question ∈ s'.db.messages,
      question.role = .user ∧ question.responseMetadata.status = .failed ∧
        repliesTo question.conversationId question.id s'.db ≠ [] := by
  have hi := chatInvariant hs
  refine ⟨hi.1.numbered, fun question hquestion hrole => ⟨?_, fun hcompleted => ?_⟩,
    hi.1.targets, ?_, ?_⟩
  · exact repliesTo_length hi.1 hquestion
  · exact answered_iff.mp (hi.1.completed question hquestion hrole hcompleted)
  · intro hrestricted question hquestion hrole
    have hc : AnswersComplete s.db := by
      refine hrestricted.invariant_of (k := ChatInvariant) (p := fun s => AnswersComplete s.db)
        (fun s hs => chatInvariant hs.of_restrict) ?_ ?_
      · rintro s rfl question hquestion
        exact absurd hquestion Table.not_mem_empty
      · intro s a s' hstep hi _ hc
        exact answersComplete_step hstep.2 hstep.1 hi hc
    exact ⟨fun hcompleted => answered_iff.mp (hi.1.completed question hquestion hrole hcompleted),
      fun hsome => hc question hquestion hrole (answered_iff.mpr hsome)⟩
  · intro a s' hstep hlate
    cases a
    case markFailed index =>
      obtain ⟨question, hquestion, hrole, hanswered, hfailed⟩ := late_failure hstep hi hlate
      exact ⟨question, hquestion, hrole, hfailed, answered_iff.mp hanswered⟩
    all_goals exact absurd trivial hlate

/-! ### Two sessions with one question -/

namespace Installation

def chatScope : ChatScope := ⟨1, 2, none⟩

/-- A question that two sessions have loaded. -/
def twoSessions : List ChatAction :=
  [.saveQuestion 0 10 11 none chatScope "Why did it fail?".toList, .loadQuestion 10 11 chatScope,
    .loadQuestion 10 11 chatScope]

def answerQuestion (newMessageId : UUID) : ChatAction :=
  .saveAnswer 0 1 newMessageId ⟨"A timeout".toList, [], [], []⟩ ⟨"model", 5, 1, false⟩

end Installation

open Installation in
/-- One session fails, and the other answers after it. -/
theorem ai_chat_conversation_answered : ∃ s, chat.Reachable s ∧
    ∃ question ∈ s.db.messages, question.role = .user ∧
      question.responseMetadata.status = .completed ∧
      (repliesTo question.conversationId question.id s.db).length = 1 := by
  have hrun : Ends (guarded chatStep FailsUnanswered .noRequest) .init
      (twoSessions ++ [.markFailed 0, answerQuestion 12]) fun s =>
      ∃ question ∈ s.db.messages.rows, question.role = .user ∧
        repliesTo question.conversationId question.id s.db ≠ [] := by
    decide +kernel
  obtain ⟨s, hr, question, hquestion, hrole, hsome⟩ :
      ∃ s, (chat.restrict FailsUnanswered).Reachable s ∧ ∃ question ∈ s.db.messages.rows,
        question.role = .user ∧ repliesTo question.conversationId question.id s.db ≠ [] :=
    hrun.exists_restricted rfl
  obtain ⟨-, hquestions, -, hstatus, -⟩ := ai_chat_conversation hr.of_restrict
  have hlength := (hquestions question hquestion hrole).1
  have hpositive := List.length_pos_of_ne_nil hsome
  exact ⟨s, hr.of_restrict, question, hquestion, hrole,
    (hstatus hr question hquestion hrole).mpr hsome, by omega⟩

open Installation in
/-- One session answers, and the other fails after it. -/
theorem ai_chat_late_failure : ∃ s, chat.Reachable s ∧
    ∃ question ∈ s.db.messages, question.role = .user ∧
      question.responseMetadata.status = .failed ∧
      repliesTo question.conversationId question.id s.db ≠ [] := by
  have hrun : Ends chatStep .init (twoSessions ++ [answerQuestion 12, .markFailed 0]) fun s =>
      ∃ question ∈ s.db.messages.rows, question.role = .user ∧
        question.responseMetadata.status = .failed ∧
        repliesTo question.conversationId question.id s.db ≠ [] := by
    decide +kernel
  exact hrun.exists_reachable (S := chat) (fun _ _ _ _ hstep => hstep) rfl

end TestOps

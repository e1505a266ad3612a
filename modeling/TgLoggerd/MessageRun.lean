import TgLoggerd.MessageStore

/-!
Serial runs over the message tables. The serial worker commits one transaction
after the other; an operation is one of the three database calls that reach a
message table. Runs start from the empty tables of a fresh migration.
-/

namespace TgLoggerd

open KeyedTable SerialRun

inductive MessageOp (Sender : Type) where
  | upsert (msg : Message Sender)
  | setFile (chatId messageId : Int) (fileId : Nat)
  | setReply (chatId messageId replyToChatId replyToMessageId : Int)
  deriving DecidableEq, Repr

def messageStep {Sender : Type} (tables : MessageTables Sender) :
    MessageOp Sender → MessageTables Sender
  | .upsert msg => upsertMessage tables msg
  | .setFile chatId messageId fileId => setMessageFile tables chatId messageId fileId
  | .setReply chatId messageId replyToChatId replyToMessageId =>
      setMessageReply tables chatId messageId replyToChatId replyToMessageId

def privateStep (tables : PrivateTables) : MessageOp PrivateSender → PrivateTables
  | .upsert msg => upsertPrivateMessage tables msg
  | .setFile chatId messageId fileId => setPrivateMessageFile tables chatId messageId fileId
  | .setReply chatId messageId replyToChatId replyToMessageId =>
      setPrivateMessageReply tables chatId messageId replyToChatId replyToMessageId

def groupStep (tables : GroupTables) : MessageOp GroupSender → GroupTables
  | .upsert msg => upsertGroupMessage tables msg
  | .setFile chatId messageId fileId => setGroupMessageFile tables chatId messageId fileId
  | .setReply chatId messageId replyToChatId replyToMessageId =>
      setGroupMessageReply tables chatId messageId replyToChatId replyToMessageId

theorem privateStep_eq : privateStep = messageStep := by
  funext tables op
  cases op <;> rfl

theorem groupStep_eq : groupStep = messageStep := by
  funext tables op
  cases op <;> rfl

def privateStore (ops : List (MessageOp PrivateSender)) : PrivateTables :=
  run privateStep MessageTables.empty ops

def groupStore (ops : List (MessageOp GroupSender)) : GroupTables :=
  run groupStep MessageTables.empty ops

section

variable {Sender : Type}

def messageStore (ops : List (MessageOp Sender)) : MessageTables Sender :=
  run messageStep MessageTables.empty ops

theorem messageStore_snoc (ops : List (MessageOp Sender)) (op : MessageOp Sender) :
    messageStore (ops ++ [op]) = messageStep (messageStore ops) op :=
  run_snoc _ _ _ _

theorem privateStore_eq (ops : List (MessageOp PrivateSender)) :
    privateStore ops = messageStore ops := by
  rw [privateStore, privateStep_eq, messageStore]

theorem groupStore_eq (ops : List (MessageOp GroupSender)) :
    groupStore ops = messageStore ops := by
  rw [groupStore, groupStep_eq, messageStore]

/-- The edits rows one operation appends. -/
def appended (tables : MessageTables Sender) : MessageOp Sender → List EditRow
  | .upsert msg =>
      match tables.lookup msg.key with
      | some old => if msg.isDeleted && !old.isDeleted then [] else snapshots old msg
      | none => []
  | .setFile .. => []
  | .setReply .. => []

theorem edits_step (tables : MessageTables Sender) (op : MessageOp Sender) :
    (messageStep tables op).edits = tables.edits ++ appended tables op := by
  cases op with
  | upsert msg => exact edits_upsert tables msg
  | setFile chatId messageId fileId =>
      simp [messageStep, appended, setMessageFile, MessageTables.reviseMessages]
  | setReply chatId messageId replyToChatId replyToMessageId =>
      simp [messageStep, appended, setMessageReply, MessageTables.reviseMessages]

/-- The edits table is append-only along every run. -/
theorem edits_prefix (before after : List (MessageOp Sender)) :
    (messageStore before).edits <+: (messageStore (before ++ after)).edits := by
  induction after using List.reverseRecOn with
  | nil => simp
  | append_singleton after op ih =>
      rw [← List.append_assoc, messageStore_snoc, edits_step]
      exact ih.trans (List.prefix_append _ _)

/-- Every snapshot is taken from the row as it stands, under its row number. -/
theorem mem_appended (tables : MessageTables Sender) (op : MessageOp Sender) (edit : EditRow)
    (member : edit ∈ appended tables op) :
    ∃ msg old, op = .upsert msg ∧ tables.lookup msg.key = some old ∧
      edit = { messageRowId := old.id
               contentType := old.contentType
               text := old.text
               fileId := old.fileId
               editDate := msg.editDate } ∧
      old.editDate < msg.editDate ∧ old.body ≠ msg.body := by
  cases op with
  | upsert msg =>
      simp only [appended] at member
      cases found : tables.lookup msg.key with
      | none => simp [found] at member
      | some old =>
          rw [found] at member
          simp only [snapshots] at member
          split at member
          · simp at member
          · split at member
            · rename_i changed
              exact ⟨msg, old, rfl, found, List.mem_singleton.mp member, changed.1, changed.2⟩
            · simp at member
  | setFile chatId messageId fileId => simp [appended] at member
  | setReply chatId messageId replyToChatId replyToMessageId => simp [appended] at member

/-- The row under one key after one operation, when it was there before. -/
theorem lookup_step_held (tables : MessageTables Sender) (op : MessageOp Sender)
    (key : Int × Int) (old : MessageRow Sender) (found : tables.lookup key = some old) :
    ∃ row, (messageStep tables op).lookup key = some row ∧ row.id = old.id := by
  have oldKey := key_of_lookup tables key old found
  cases op with
  | upsert msg =>
      by_cases same : msg.key = key
      · exact ⟨rewrite msg old, by simp [messageStep, lookup_upsert, same, found], by simp⟩
      · exact ⟨old, by simp [messageStep, lookup_upsert, same, found], rfl⟩
  | setFile chatId messageId fileId =>
      refine ⟨_, by rw [messageStep, lookup_setMessageFile, found, Option.map_some], ?_⟩
      split <;> rfl
  | setReply chatId messageId replyToChatId replyToMessageId =>
      refine ⟨_, by rw [messageStep, lookup_setMessageReply, found, Option.map_some], ?_⟩
      split <;> rfl

/-- A stored message keeps its row and its row number for ever. -/
theorem lookup_persists (before after : List (MessageOp Sender)) (key : Int × Int)
    (old : MessageRow Sender) (found : (messageStore before).lookup key = some old) :
    ∃ row, (messageStore (before ++ after)).lookup key = some row ∧ row.id = old.id := by
  induction after using List.reverseRecOn with
  | nil => exact ⟨old, by simpa using found, rfl⟩
  | append_singleton after op ih =>
      obtain ⟨row, held, same⟩ := ih
      rw [← List.append_assoc, messageStore_snoc]
      obtain ⟨next, nextHeld, nextSame⟩ := lookup_step_held _ op key row held
      exact ⟨next, nextHeld, nextSame.trans same⟩

end

end TgLoggerd

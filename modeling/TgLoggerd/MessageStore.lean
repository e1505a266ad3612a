import TgLoggerd.KeyedTable
import TgLoggerd.Message
import TgLoggerd.SerialRun

/-!
The message tables of migrations 000006 and 000007 and the statements that
`PrivateMessage.cpp`, `GroupMessage.cpp` and `Message.cpp` run on them, for one
pair of sender columns. A transaction is modelled by its committed effect: one
the server rejects is rolled back and leaves the tables as they were, so a run
lists the committed transactions. created_at and updated_at, and the surrogate
ids of the edits and fwd_info rows, which nothing reads, are left out; list
order is insertion order.
-/

namespace TgLoggerd

open KeyedTable

structure MessageRow (Sender : Type) where
  id : Nat
  chatId : Int
  messageId : Int
  sender : Sender
  isOutgoing : Bool
  date : Int
  editDate : Int
  contentType : MessageContentType
  text : Option String
  fileId : Option Nat
  isDeleted : Bool
  isForwarded : Bool
  replyToChatId : Option Int
  replyToMsgId : Option Int
  replyToId : Option Nat
  deriving DecidableEq, Repr

structure EditRow where
  messageRowId : Nat
  contentType : MessageContentType
  text : Option String
  fileId : Option Nat
  editDate : Int
  deriving DecidableEq, Repr

structure FwdRow where
  messageRowId : Nat
  info : ForwardInfo
  deriving DecidableEq, Repr

section

variable {Sender : Type}

def MessageRow.key (row : MessageRow Sender) : Int × Int := (row.chatId, row.messageId)

def MessageRow.body (row : MessageRow Sender) : MessageContentType × Option String :=
  (row.contentType, row.text)

def EditRow.body (edit : EditRow) : MessageContentType × Option String :=
  (edit.contentType, edit.text)

abbrev MessageRows (Sender : Type) :=
  AutoTable (@MessageRow.key Sender) (@MessageRow.id Sender)

/-- The row the foreign keys of the edits and fwd_info tables ask for. -/
def Holds (messages : MessageRows Sender) (rowId : Nat) : Prop :=
  ∃ row ∈ messages.rows, row.id = rowId

instance (messages : MessageRows Sender) (rowId : Nat) : Decidable (Holds messages rowId) :=
  inferInstanceAs (Decidable (∃ row ∈ messages.rows, row.id = rowId))

/-- *_messages, *_message_edits and *_message_fwd_info with their constraints:
UNIQUE (chat_id, message_id), UNIQUE fwd_info per message, and both foreign
keys to the message row. -/
structure MessageTables (Sender : Type) where
  messages : MessageRows Sender
  edits : List EditRow
  fwdInfo : Table FwdRow.messageRowId
  editsHeld : ∀ edit ∈ edits, Holds messages edit.messageRowId
  fwdHeld : ∀ fwd ∈ fwdInfo.rows, Holds messages fwd.messageRowId

namespace MessageTables

def empty : MessageTables Sender where
  messages := AutoTable.empty
  edits := []
  fwdInfo := Table.empty
  editsHeld := by simp
  fwdHeld := by simp

def lookup (tables : MessageTables Sender) (key : Int × Int) : Option (MessageRow Sender) :=
  tables.messages.lookup key

/-- The edits rows of one message row, in insertion order. -/
def editsOf (tables : MessageTables Sender) (rowId : Nat) : List EditRow :=
  tables.edits.filter fun edit => edit.messageRowId = rowId

theorem holds_revise (messages : MessageRows Sender)
    (change : MessageRow Sender → MessageRow Sender)
    (keepsKey : ∀ row, (change row).key = row.key) (keepsIdent : ∀ row, (change row).id = row.id)
    (rowId : Nat) (held : Holds messages rowId) :
    Holds (messages.reviseRows change keepsKey keepsIdent) rowId := by
  obtain ⟨row, member, same⟩ := held
  exact ⟨change row, List.mem_map_of_mem member, (keepsIdent row).trans same⟩

theorem holds_propose (messages : MessageRows Sender) (make : Nat → MessageRow Sender)
    (change : MessageRow Sender → MessageRow Sender) (numbered : ∀ number, (make number).id = number)
    (keepsKey : ∀ row, (change row).key = row.key) (keepsIdent : ∀ row, (change row).id = row.id)
    (rowId : Nat) (held : Holds messages rowId) :
    Holds (messages.proposeRow make change numbered keepsKey keepsIdent) rowId := by
  obtain ⟨row, member, same⟩ := held
  cases found : messages.lookup (make messages.next).key with
  | none =>
      have rows := Table.rows_insertOrUpdate_absent messages.toTable _ change keepsKey found
      exact ⟨row, by simp [AutoTable.proposeRow, rows, member], same⟩
  | some old =>
      have rows := Table.rows_insertOrUpdate_held messages.toTable _ change keepsKey old found
      refine ⟨if row.key = (make messages.next).key then change row else row, ?_, ?_⟩
      · simp only [AutoTable.proposeRow, rows]
        exact List.mem_map_of_mem member
      · split
        · rw [keepsIdent, same]
        · exact same

def reviseMessages (tables : MessageTables Sender)
    (change : MessageRow Sender → MessageRow Sender)
    (keepsKey : ∀ row, (change row).key = row.key)
    (keepsIdent : ∀ row, (change row).id = row.id) : MessageTables Sender :=
  { tables with
    messages := tables.messages.reviseRows change keepsKey keepsIdent
    editsHeld := fun edit member =>
      holds_revise _ _ keepsKey keepsIdent _ (tables.editsHeld edit member)
    fwdHeld := fun fwd member =>
      holds_revise _ _ keepsKey keepsIdent _ (tables.fwdHeld fwd member) }

theorem lookup_reviseMessages (tables : MessageTables Sender)
    (change : MessageRow Sender → MessageRow Sender)
    (keepsKey : ∀ row, (change row).key = row.key) (keepsIdent : ∀ row, (change row).id = row.id)
    (key : Int × Int) :
    (tables.reviseMessages change keepsKey keepsIdent).lookup key =
      (tables.lookup key).map change :=
  Table.lookup_revise tables.messages.toTable change keepsKey key

end MessageTables

/-- The row `INSERT` writes; file_id and the reply columns keep their NULL
default, since other statements own them. -/
def newRow (msg : Message Sender) (number : Nat) : MessageRow Sender where
  id := number
  chatId := msg.chatId
  messageId := msg.messageId
  sender := msg.sender
  isOutgoing := msg.isOutgoing
  date := msg.date
  editDate := msg.editDate
  contentType := msg.content.contentType
  text := msg.content.text
  fileId := none
  isDeleted := msg.isDeleted
  isForwarded := msg.forwardInfo.isSome
  replyToChatId := none
  replyToMsgId := none
  replyToId := none

/-- The `ON DUPLICATE KEY UPDATE` assignments of `upsert_sql`. -/
def overwrite (msg : Message Sender) (row : MessageRow Sender) : MessageRow Sender :=
  { row with
    sender := msg.sender
    isOutgoing := msg.isOutgoing
    date := msg.date
    editDate := msg.editDate
    contentType := msg.content.contentType
    text := msg.content.text
    isDeleted := msg.isDeleted
    isForwarded := msg.forwardInfo.isSome }

def upsertRow (tables : MessageTables Sender) (msg : Message Sender) : MessageTables Sender :=
  { tables with
    messages := tables.messages.proposeRow (newRow msg) (overwrite msg)
      (fun _ => rfl) (fun _ => rfl) (fun _ => rfl)
    editsHeld := fun edit member =>
      MessageTables.holds_propose _ _ _ _ _ _ _ (tables.editsHeld edit member)
    fwdHeld := fun fwd member =>
      MessageTables.holds_propose _ _ _ _ _ _ _ (tables.fwdHeld fwd member) }

/-- `UPDATE ... SET is_deleted = 1 WHERE id = ?`. -/
def flagDeleted (tables : MessageTables Sender) (rowId : Nat) : MessageTables Sender :=
  tables.reviseMessages (fun row => if row.id = rowId then { row with isDeleted := true } else row)
    (by intro row; split <;> rfl) (by intro row; split <;> rfl)

/-- The foreign key admits the edits row only for a stored message. -/
def insertEdit (tables : MessageTables Sender) (edit : EditRow) : MessageTables Sender :=
  if held : Holds tables.messages edit.messageRowId then
    { tables with
      edits := tables.edits ++ [edit]
      editsHeld := by
        intro row member
        rcases List.mem_append.mp member with old | fresh
        · exact tables.editsHeld row old
        · exact (List.mem_singleton.mp fresh) ▸ held }
  else tables

def snapshotMessageEditIfChanged (tables : MessageTables Sender) (messageRowId : Nat)
    (oldContent : MessageContent) (oldEditDate : Int) (newContent : MessageContent)
    (newEditDate : Int) : MessageTables Sender :=
  if newEditDate ≤ oldEditDate then tables
  -- file_id is not compared: media is linked after the row is written.
  else if oldContent.contentType = newContent.contentType ∧ oldContent.text = newContent.text then
    tables
  else insertEdit tables
    { messageRowId := messageRowId
      contentType := oldContent.contentType
      text := oldContent.text
      fileId := oldContent.fileId
      editDate := newEditDate }

def insertForwardInfo (tables : MessageTables Sender) (messageRowId : Nat)
    (info : ForwardInfo) : MessageTables Sender :=
  if (tables.fwdInfo.lookup messageRowId).isSome then tables
  else if held : Holds tables.messages messageRowId then
    { tables with
      fwdInfo := tables.fwdInfo.insertOrUpdate ⟨messageRowId, info⟩ id (fun _ => rfl)
      fwdHeld := by
        intro fwd member
        cases found : tables.fwdInfo.lookup messageRowId with
        | none =>
            rw [Table.rows_insertOrUpdate_absent _ _ _ _ found] at member
            rcases List.mem_append.mp member with old | fresh
            · exact tables.fwdHeld fwd old
            · exact (List.mem_singleton.mp fresh) ▸ held
        | some old =>
            rw [Table.rows_insertOrUpdate_held _ _ _ _ old found] at member
            obtain ⟨before, kept, rfl⟩ := List.mem_map.mp member
            simpa using tables.fwdHeld before kept }
  else tables

/-- The body shared by `DB::upsertPrivateMessage` and `DB::upsertGroupMessage`. -/
def upsertMessage (tables : MessageTables Sender) (msg : Message Sender) : MessageTables Sender :=
  match tables.lookup msg.key with
  | none =>
      -- A deletion of a message never stored leaves no contentless row.
      if msg.isDeleted then tables
      else
        let inserted := upsertRow tables msg
        match inserted.lookup msg.key, msg.forwardInfo with
        | some row, some info => insertForwardInfo inserted row.id info
        | _, _ => inserted
  | some old =>
      if msg.isDeleted && !old.isDeleted then flagDeleted tables old.id
      else
        -- The ENUM label is read back as text and decoded.
        let oldContent : MessageContent :=
          { contentType := messageContentTypeFromString old.contentType.toString
            text := old.text
            fileId := old.fileId }
        let snapshotted := snapshotMessageEditIfChanged tables old.id oldContent old.editDate
          msg.content msg.editDate
        let overwritten := upsertRow snapshotted msg
        match msg.forwardInfo with
        | some info => insertForwardInfo overwritten old.id info
        | none => overwritten

def setMessageFile (tables : MessageTables Sender) (chatId messageId : Int) (fileId : Nat) :
    MessageTables Sender :=
  tables.reviseMessages
    (fun row => if row.key = (chatId, messageId) then { row with fileId := some fileId } else row)
    (by intro row; split <;> rfl) (by intro row; split <;> rfl)

/-- The `LEFT JOIN` gives the target's id when it is in this table, else NULL. -/
def setMessageReply (tables : MessageTables Sender) (chatId messageId : Int)
    (replyToChatId replyToMessageId : Int) : MessageTables Sender :=
  let target := tables.lookup (replyToChatId, replyToMessageId)
  tables.reviseMessages
    (fun row =>
      if row.key = (chatId, messageId) then
        { row with
          replyToChatId := some replyToChatId
          replyToMsgId := some replyToMessageId
          replyToId := target.map MessageRow.id }
      else row)
    (by intro row; split <;> rfl) (by intro row; split <;> rfl)

/-! What one upsert leaves in each of the three tables. Callers use these
three equations and never unfold the transaction. -/

/-- The edits rows one overwrite of `old` by `msg` appends. -/
def snapshots (old : MessageRow Sender) (msg : Message Sender) : List EditRow :=
  if old.editDate < msg.editDate ∧ old.body ≠ msg.body then
    [{ messageRowId := old.id
       contentType := old.contentType
       text := old.text
       fileId := old.fileId
       editDate := msg.editDate }]
  else []

/-- The row after an upsert that finds `old`. -/
def rewrite (msg : Message Sender) (old : MessageRow Sender) : MessageRow Sender :=
  if msg.isDeleted && !old.isDeleted then { old with isDeleted := true } else overwrite msg old

@[simp]
theorem key_newRow (msg : Message Sender) (number : Nat) : (newRow msg number).key = msg.key := rfl

@[simp]
theorem key_rewrite (msg : Message Sender) (old : MessageRow Sender) :
    (rewrite msg old).key = old.key := by
  unfold rewrite
  split <;> rfl

@[simp]
theorem id_rewrite (msg : Message Sender) (old : MessageRow Sender) :
    (rewrite msg old).id = old.id := by
  unfold rewrite
  split <;> rfl

@[simp]
theorem fileId_rewrite (msg : Message Sender) (old : MessageRow Sender) :
    (rewrite msg old).fileId = old.fileId := by
  unfold rewrite
  split <;> rfl

theorem holds_of_lookup (tables : MessageTables Sender) (key : Int × Int)
    (row : MessageRow Sender) (found : tables.lookup key = some row) :
    Holds tables.messages row.id :=
  ⟨row, ((Table.lookup_some_iff _ _ _).mp found).1, rfl⟩

theorem key_of_lookup (tables : MessageTables Sender) (key : Int × Int)
    (row : MessageRow Sender) (found : tables.lookup key = some row) : row.key = key :=
  ((Table.lookup_some_iff _ _ _).mp found).2

theorem edits_insertEdit (tables : MessageTables Sender) (edit : EditRow)
    (held : Holds tables.messages edit.messageRowId) :
    (insertEdit tables edit).edits = tables.edits ++ [edit] := by
  simp [insertEdit, held]

theorem messages_insertEdit (tables : MessageTables Sender) (edit : EditRow) :
    (insertEdit tables edit).messages = tables.messages ∧
      (insertEdit tables edit).fwdInfo = tables.fwdInfo := by
  unfold insertEdit
  split <;> exact ⟨rfl, rfl⟩

theorem messages_snapshot (tables : MessageTables Sender) (messageRowId : Nat)
    (oldContent : MessageContent) (oldEditDate : Int) (newContent : MessageContent)
    (newEditDate : Int) :
    let after := snapshotMessageEditIfChanged tables messageRowId oldContent oldEditDate
      newContent newEditDate
    after.messages = tables.messages ∧ after.fwdInfo = tables.fwdInfo := by
  unfold snapshotMessageEditIfChanged
  dsimp only
  split
  · exact ⟨rfl, rfl⟩
  · split
    · exact ⟨rfl, rfl⟩
    · exact messages_insertEdit tables _

theorem edits_snapshot (tables : MessageTables Sender) (old : MessageRow Sender)
    (msg : Message Sender) (held : Holds tables.messages old.id) :
    (snapshotMessageEditIfChanged tables old.id
      { contentType := messageContentTypeFromString old.contentType.toString
        text := old.text
        fileId := old.fileId } old.editDate msg.content msg.editDate).edits =
      tables.edits ++ snapshots old msg := by
  simp only [snapshotMessageEditIfChanged, content_type_round_trip, snapshots]
  by_cases advanced : old.editDate < msg.editDate
  · have later : ¬ msg.editDate ≤ old.editDate := by omega
    by_cases same : old.contentType = msg.content.contentType ∧ old.text = msg.content.text
    · simp [later, same.1, same.2, MessageRow.body, Message.body, MessageContent.body]
    · have differs : old.body ≠ msg.body := by
        intro equal
        exact same (Prod.mk.inj equal)
      rw [if_neg later, if_neg same, if_pos ⟨advanced, differs⟩, edits_insertEdit _ _ held]
  · have early : msg.editDate ≤ old.editDate := by omega
    simp [advanced, early]

theorem messages_insertForwardInfo (tables : MessageTables Sender) (messageRowId : Nat)
    (info : ForwardInfo) :
    (insertForwardInfo tables messageRowId info).messages = tables.messages ∧
      (insertForwardInfo tables messageRowId info).edits = tables.edits := by
  unfold insertForwardInfo
  split
  · exact ⟨rfl, rfl⟩
  · split <;> exact ⟨rfl, rfl⟩

theorem rows_upsertRow_held (tables : MessageTables Sender) (msg : Message Sender)
    (old : MessageRow Sender) (found : tables.lookup msg.key = some old) :
    (upsertRow tables msg).messages.rows =
      tables.messages.rows.map fun row => if row.key = msg.key then overwrite msg row else row :=
  Table.rows_insertOrUpdate_held tables.messages.toTable (newRow msg tables.messages.next)
    (overwrite msg) (fun _ => rfl) old found

/-- The row of one key is the row of its number. -/
theorem id_eq_iff_key_eq (tables : MessageTables Sender) (key : Int × Int)
    (old row : MessageRow Sender) (found : tables.lookup key = some old)
    (member : row ∈ tables.messages.rows) : row.id = old.id ↔ row.key = key := by
  have held := (Table.lookup_some_iff _ _ _).mp found
  constructor
  · intro same
    have equal := tables.messages.same_ident_same_row row old member held.1 same
    exact equal ▸ held.2
  · intro same
    have equal := tables.messages.same_key_same_row row old member held.1 (same.trans held.2.symm)
    rw [equal]

theorem rows_upsert_held (tables : MessageTables Sender) (msg : Message Sender)
    (old : MessageRow Sender) (found : tables.lookup msg.key = some old) :
    (upsertMessage tables msg).messages.rows =
      tables.messages.rows.map fun row => if row.key = msg.key then rewrite msg row else row := by
  have whole (row : MessageRow Sender) (member : row ∈ tables.messages.rows) :
      row.key = msg.key → row = old := by
    intro same
    exact tables.messages.same_ident_same_row row old member
      ((Table.lookup_some_iff _ _ _).mp found).1
      ((id_eq_iff_key_eq tables msg.key old row found member).mpr same)
  -- A deletion revises the row by its number, an overwrite by its key.
  by_cases flagged : (msg.isDeleted && !old.isDeleted) = true
  · simp only [upsertMessage, found, flagged, ↓reduceIte]
    simp only [flagDeleted, MessageTables.reviseMessages, AutoTable.reviseRows, Table.rows_revise]
    apply List.map_congr_left
    intro row member
    rw [if_congr (id_eq_iff_key_eq tables msg.key old row found member) rfl rfl]
    by_cases same : row.key = msg.key
    · rw [if_pos same, if_pos same, whole row member same, rewrite, if_pos flagged]
    · rw [if_neg same, if_neg same]
  · have overwritten : (upsertMessage tables msg).messages.rows =
        tables.messages.rows.map fun row =>
          if row.key = msg.key then overwrite msg row else row := by
      simp only [upsertMessage, found, flagged, Bool.false_eq_true, ↓reduceIte]
      have kept := (messages_snapshot tables old.id
        { contentType := messageContentTypeFromString old.contentType.toString
          text := old.text
          fileId := old.fileId } old.editDate msg.content msg.editDate).1
      have rows := rows_upsertRow_held _ msg old ((congrArg (·.lookup msg.key)
        (congrArg AutoTable.toTable kept)).trans found)
      rw [kept] at rows
      cases msg.forwardInfo with
      | none => exact rows
      | some info =>
          simp only
          rw [(messages_insertForwardInfo _ old.id info).1]
          exact rows
    rw [overwritten]
    apply List.map_congr_left
    intro row member
    by_cases same : row.key = msg.key
    · rw [if_pos same, if_pos same, whole row member same, rewrite, if_neg flagged]
    · rw [if_neg same, if_neg same]

theorem lookup_upsertRow (tables : MessageTables Sender) (msg : Message Sender)
    (key : Int × Int) :
    (upsertRow tables msg).lookup key =
      if msg.key = key then
        some (((tables.lookup key).map (overwrite msg)).getD (newRow msg tables.messages.next))
      else tables.lookup key :=
  Table.lookup_insertOrUpdate tables.messages.toTable (newRow msg tables.messages.next)
    (overwrite msg) (fun _ => rfl) key

theorem messages_upsert_absent (tables : MessageTables Sender) (msg : Message Sender)
    (absent : tables.lookup msg.key = none) :
    (upsertMessage tables msg).messages =
      if msg.isDeleted then tables.messages else (upsertRow tables msg).messages := by
  simp only [upsertMessage, absent]
  split
  · rfl
  · split
    · exact (messages_insertForwardInfo _ _ _).1
    · rfl

/-- The row under every key after an upsert. -/
theorem lookup_upsert (tables : MessageTables Sender) (msg : Message Sender) (key : Int × Int) :
    (upsertMessage tables msg).lookup key =
      if msg.key = key then
        match tables.lookup key with
        | some old => some (rewrite msg old)
        | none => if msg.isDeleted then none else some (newRow msg tables.messages.next)
      else tables.lookup key := by
  cases found : tables.lookup msg.key with
  | none =>
      have messages := messages_upsert_absent tables msg found
      unfold MessageTables.lookup at found ⊢
      rw [messages]
      by_cases deleted : msg.isDeleted = true
      · by_cases same : msg.key = key
        · subst same
          simp [deleted, found]
        · simp [deleted, same]
      · have fresh := lookup_upsertRow tables msg key
        unfold MessageTables.lookup at fresh
        simp only [deleted, Bool.false_eq_true, ↓reduceIte, fresh]
        by_cases same : msg.key = key
        · subst same
          simp [found]
        · simp [same]
  | some old =>
      have rows := rows_upsert_held tables msg old found
      have sameKey (row : MessageRow Sender) :
          (if row.key = msg.key then rewrite msg row else row).key = row.key := by
        split <;> simp
      -- Every row keeps its key, so `find?` commutes with the rewrite.
      have mapped : (upsertMessage tables msg).lookup key =
          (tables.lookup key).map fun row => if row.key = msg.key then rewrite msg row else row := by
        unfold MessageTables.lookup Table.lookup
        rw [rows, List.find?_map]
        simp only [Function.comp_def, sameKey]
      rw [mapped]
      by_cases same : msg.key = key
      · subst same
        simp [found, key_of_lookup tables msg.key old found]
      · cases other : tables.lookup key with
        | none => simp [same]
        | some row => simp [same, key_of_lookup tables key row other, Ne.symm same]

/-- The edits table after an upsert: a snapshot at most, and only when a stored
row is overwritten. -/
theorem edits_upsert (tables : MessageTables Sender) (msg : Message Sender) :
    (upsertMessage tables msg).edits = tables.edits ++
      match tables.lookup msg.key with
      | some old => if msg.isDeleted && !old.isDeleted then [] else snapshots old msg
      | none => [] := by
  cases found : tables.lookup msg.key with
  | none =>
      simp only [upsertMessage, found, List.append_nil]
      split
      · rfl
      · split
        · exact (messages_insertForwardInfo _ _ _).2
        · rfl
  | some old =>
      by_cases flagged : (msg.isDeleted && !old.isDeleted) = true
      · simp [upsertMessage, found, flagged, flagDeleted, MessageTables.reviseMessages]
      · simp only [upsertMessage, found, flagged, Bool.false_eq_true, ↓reduceIte]
        have snapshotted := edits_snapshot tables old msg (holds_of_lookup tables _ old found)
        cases msg.forwardInfo with
        | none => exact snapshotted
        | some info => exact ((messages_insertForwardInfo _ old.id info).2).trans snapshotted

theorem fwdInfo_insertForwardInfo (tables : MessageTables Sender) (messageRowId : Nat)
    (info : ForwardInfo) (held : Holds tables.messages messageRowId) :
    (insertForwardInfo tables messageRowId info).fwdInfo.rows =
      if (tables.fwdInfo.lookup messageRowId).isSome then tables.fwdInfo.rows
      else tables.fwdInfo.rows ++ [⟨messageRowId, info⟩] := by
  unfold insertForwardInfo
  split
  · rfl
  · rename_i absent
    exact Table.rows_insertOrUpdate_absent tables.fwdInfo ⟨messageRowId, info⟩ id
      (fun _ => rfl) (by simpa using absent)

/-- The fwd_info rows after recording `info` for one message row. -/
def recordForward (fwdInfo : Table FwdRow.messageRowId) (messageRowId : Nat) :
    Option ForwardInfo → List FwdRow
  | none => fwdInfo.rows
  | some info =>
      if (fwdInfo.lookup messageRowId).isSome then fwdInfo.rows
      else fwdInfo.rows ++ [⟨messageRowId, info⟩]

theorem fwdInfo_overwrite (tables : MessageTables Sender) (msg : Message Sender)
    (messageRowId : Nat) (info : ForwardInfo) (held : Holds tables.messages messageRowId) :
    (insertForwardInfo (upsertRow tables msg) messageRowId info).fwdInfo.rows =
      recordForward tables.fwdInfo messageRowId (some info) :=
  fwdInfo_insertForwardInfo (upsertRow tables msg) messageRowId info
    (MessageTables.holds_propose _ (newRow msg) (overwrite msg) (fun _ => rfl)
      (fun _ => rfl) (fun _ => rfl) messageRowId held)

/-- The fwd_info table after an upsert. Rows are only ever appended. -/
theorem fwdInfo_upsert (tables : MessageTables Sender) (msg : Message Sender) :
    (upsertMessage tables msg).fwdInfo.rows =
      match tables.lookup msg.key with
      | some old =>
          if msg.isDeleted && !old.isDeleted then tables.fwdInfo.rows
          else recordForward tables.fwdInfo old.id msg.forwardInfo
      | none =>
          if msg.isDeleted then tables.fwdInfo.rows
          else recordForward tables.fwdInfo tables.messages.next msg.forwardInfo := by
  cases found : tables.lookup msg.key with
  | none =>
      simp only [upsertMessage, found]
      split
      · rfl
      -- The new row is read back under its key, as the source does.
      · have inserted : (upsertRow tables msg).lookup msg.key =
            some (newRow msg tables.messages.next) := by
          rw [lookup_upsertRow]
          simp [found]
        rw [inserted]
        cases msg.forwardInfo with
        | none => rfl
        | some info =>
            exact fwdInfo_insertForwardInfo _ _ info (holds_of_lookup _ _ _ inserted)
  | some old =>
      by_cases flagged : (msg.isDeleted && !old.isDeleted) = true
      · simp [upsertMessage, found, flagged, flagDeleted, MessageTables.reviseMessages]
      · simp only [upsertMessage, found, flagged, Bool.false_eq_true, ↓reduceIte]
        have kept := messages_snapshot tables old.id
          { contentType := messageContentTypeFromString old.contentType.toString
            text := old.text
            fileId := old.fileId } old.editDate msg.content msg.editDate
        cases msg.forwardInfo with
        | none => exact congrArg Table.rows kept.2
        | some info =>
            have held := holds_of_lookup tables _ old found
            rw [← kept.1] at held
            rw [← kept.2]
            exact fwdInfo_overwrite _ msg old.id info held

theorem lookup_setMessageFile (tables : MessageTables Sender) (chatId messageId : Int)
    (fileId : Nat) (key : Int × Int) :
    (setMessageFile tables chatId messageId fileId).lookup key =
      (tables.lookup key).map fun row =>
        if row.key = (chatId, messageId) then { row with fileId := some fileId } else row := by
  unfold setMessageFile
  rw [MessageTables.lookup_reviseMessages]

theorem lookup_setMessageReply (tables : MessageTables Sender)
    (chatId messageId replyToChatId replyToMessageId : Int) (key : Int × Int) :
    (setMessageReply tables chatId messageId replyToChatId replyToMessageId).lookup key =
      (tables.lookup key).map fun row =>
        if row.key = (chatId, messageId) then
          { row with
            replyToChatId := some replyToChatId
            replyToMsgId := some replyToMessageId
            replyToId := (tables.lookup (replyToChatId, replyToMessageId)).map MessageRow.id }
        else row := by
  unfold setMessageReply
  rw [MessageTables.lookup_reviseMessages]

end

abbrev PrivateTables := MessageTables PrivateSender
abbrev GroupTables := MessageTables GroupSender

def upsertPrivateMessage (tables : PrivateTables) (msg : PrivateMessage) : PrivateTables :=
  upsertMessage tables msg

def upsertGroupMessage (tables : GroupTables) (msg : GroupMessage) : GroupTables :=
  upsertMessage tables msg

def setPrivateMessageFile (tables : PrivateTables) (chatId messageId : Int) (fileId : Nat) :
    PrivateTables :=
  setMessageFile tables chatId messageId fileId

def setGroupMessageFile (tables : GroupTables) (chatId messageId : Int) (fileId : Nat) :
    GroupTables :=
  setMessageFile tables chatId messageId fileId

def setPrivateMessageReply (tables : PrivateTables)
    (chatId messageId replyToChatId replyToMessageId : Int) : PrivateTables :=
  setMessageReply tables chatId messageId replyToChatId replyToMessageId

def setGroupMessageReply (tables : GroupTables)
    (chatId messageId replyToChatId replyToMessageId : Int) : GroupTables :=
  setMessageReply tables chatId messageId replyToChatId replyToMessageId

end TgLoggerd

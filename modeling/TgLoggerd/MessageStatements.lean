import TgLoggerd.MessageRun

/-!
The statements of `PrivateMessage.cpp` and `GroupMessage.cpp` one by one: their
column lists, the parameters bound to them by position, the columns fetched and
read back by position, and the order in which each of the two hand-written
transactions runs them. What the tables hold is as in the store; both
transactions leave there what the store says.
-/

namespace TgLoggerd

open KeyedTable SerialRun

/-- `mysql::Param`, and the value of a fetched column. -/
inductive Param where
  | null
  | int (value : Int)
  | text (value : String)
  deriving DecidableEq, Repr

namespace Param

def flag (v : Bool) : Param := .int (if v then 1 else 0)

def ofInt : Option Int → Param
  | some value => .int value
  | none => .null

def ofNat : Option Nat → Param
  | some value => .int value
  | none => .null

def ofText : Option String → Param
  | some value => .text value
  | none => .null

def int? : Param → Option Int
  | .int value => some value
  | _ => none

def text? : Param → Option String
  | .text value => some value
  | _ => none

@[simp] theorem int?_int (value : Int) : (int value).int? = some value := rfl

@[simp] theorem text?_text (value : String) : (text value).text? = some value := rfl

@[simp] theorem int?_ofInt (value : Option Int) : (ofInt value).int? = value := by
  cases value <;> rfl

@[simp] theorem int?_ofNat (value : Option Nat) :
    (ofNat value).int?.map Int.toNat = value := by
  cases value <;> rfl

@[simp] theorem text?_ofText (value : Option String) : (ofText value).text? = value := by
  cases value <;> rfl

@[simp] theorem int?_flag (v : Bool) : ((flag v).int?.getD 0 != 0) = v := by
  cases v <;> rfl

@[simp] theorem flag_set (v : Bool) : (flag v = .int 1) ↔ v = true := by
  cases v <;> simp [flag]

end Param

/-- The columns that the private and the group table have in common. -/
inductive CommonColumn where
  | id | chatId | messageId | isOutgoing | date | editDate | contentType | text | fileId
  | isDeleted | isForwarded | replyToChatId | replyToMsgId | replyToId
  deriving DecidableEq, Repr

inductive PrivateColumn where
  | senderId
  deriving DecidableEq, Repr

inductive GroupColumn where
  | senderUserId | senderChatId | isChannelPost | authorSignature
  deriving DecidableEq, Repr

inductive Column (Own : Type) where
  | common (column : CommonColumn)
  | own (column : Own)
  deriving DecidableEq, Repr

/-- A statement may set the column of a stored row: neither its number nor its
UNIQUE key. -/
def CommonColumn.settable : CommonColumn → Bool
  | .id => false
  | .chatId => false
  | .messageId => false
  | _ => true

section

variable {Sender : Type}

def CommonColumn.read (row : MessageRow Sender) : CommonColumn → Param
  | .id => .int row.id
  | .chatId => .int row.chatId
  | .messageId => .int row.messageId
  | .isOutgoing => .flag row.isOutgoing
  | .date => .int row.date
  | .editDate => .int row.editDate
  | .contentType => .text row.contentType.toString
  | .text => .ofText row.text
  | .fileId => .ofNat row.fileId
  | .isDeleted => .flag row.isDeleted
  | .isForwarded => .flag row.isForwarded
  | .replyToChatId => .ofInt row.replyToChatId
  | .replyToMsgId => .ofInt row.replyToMsgId
  | .replyToId => .ofNat row.replyToId

/-- The number is the table's to give. -/
def CommonColumn.write (value : Param) (row : MessageRow Sender) :
    CommonColumn → MessageRow Sender
  | .id => row
  | .chatId => { row with chatId := value.int?.getD 0 }
  | .messageId => { row with messageId := value.int?.getD 0 }
  | .isOutgoing => { row with isOutgoing := value.int?.getD 0 != 0 }
  | .date => { row with date := value.int?.getD 0 }
  | .editDate => { row with editDate := value.int?.getD 0 }
  | .contentType =>
      { row with contentType := messageContentTypeFromString (value.text?.getD "unknown") }
  | .text => { row with text := value.text? }
  | .fileId => { row with fileId := value.int?.map Int.toNat }
  | .isDeleted => { row with isDeleted := value.int?.getD 0 != 0 }
  | .isForwarded => { row with isForwarded := value.int?.getD 0 != 0 }
  | .replyToChatId => { row with replyToChatId := value.int? }
  | .replyToMsgId => { row with replyToMsgId := value.int? }
  | .replyToId => { row with replyToId := value.int?.map Int.toNat }

theorem id_write (value : Param) (row : MessageRow Sender) (column : CommonColumn) :
    (column.write value row).id = row.id := by
  cases column <;> rfl

theorem key_write (value : Param) (row : MessageRow Sender) (column : CommonColumn)
    (settable : column.settable = true) : (column.write value row).key = row.key := by
  cases column <;> first | rfl | cases settable

end

/-- One message table: how its own columns stand in the sender part of a row. -/
structure Schema (Sender Own : Type) where
  read : Sender → Own → Param
  write : Param → Sender → Own → Sender

def privateSchema : Schema PrivateSender PrivateColumn where
  read sender
    | .senderId => .ofInt sender.senderId
  write value sender
    | .senderId => { sender with senderId := value.int? }

def groupSchema : Schema GroupSender GroupColumn where
  read sender
    | .senderUserId => .ofInt sender.senderUserId
    | .senderChatId => .ofInt sender.senderChatId
    | .isChannelPost => .flag sender.isChannelPost
    | .authorSignature => .ofText sender.authorSignature
  write value sender
    | .senderUserId => { sender with senderUserId := value.int? }
    | .senderChatId => { sender with senderChatId := value.int? }
    | .isChannelPost => { sender with isChannelPost := value.int?.getD 0 != 0 }
    | .authorSignature => { sender with authorSignature := value.text? }

def Column.settable {Own : Type} : Column Own → Bool
  | .common column => column.settable
  | .own _ => true

namespace Schema

variable {Sender Own : Type} (schema : Schema Sender Own)

def readColumn (row : MessageRow Sender) : Column Own → Param
  | .common column => column.read row
  | .own column => schema.read row.sender column

def writeColumn (value : Param) (row : MessageRow Sender) : Column Own → MessageRow Sender
  | .common column => column.write value row
  | .own column => { row with sender := schema.write value row.sender column }

/-- The columns take the bound values, one after the other. -/
def assign (bound : List (Column Own × Param)) (row : MessageRow Sender) : MessageRow Sender :=
  bound.foldl (fun row binding => schema.writeColumn binding.2 row binding.1) row

theorem id_assign (bound : List (Column Own × Param)) (row : MessageRow Sender) :
    (schema.assign bound row).id = row.id := by
  induction bound generalizing row with
  | nil => rfl
  | cons binding rest ih =>
      rw [assign, List.foldl_cons]
      refine (ih _).trans ?_
      cases binding.1 with
      | common column => exact id_write binding.2 row column
      | own column => rfl

theorem key_assign (bound : List (Column Own × Param)) (row : MessageRow Sender)
    (settable : ∀ binding ∈ bound, binding.1.settable = true) :
    (schema.assign bound row).key = row.key := by
  induction bound generalizing row with
  | nil => rfl
  | cons binding rest ih =>
      rw [assign, List.foldl_cons]
      refine (ih _ fun other later => settable other (List.mem_cons_of_mem _ later)).trans ?_
      have first := settable binding List.mem_cons_self
      cases kind : binding.1 with
      | common column =>
          rw [kind] at first
          exact key_write binding.2 row column first
      | own column => rfl

end Schema

/-- `INSERT INTO ... (columns) VALUES (?, ...) AS new ON DUPLICATE KEY UPDATE
column = new.column, ...`. -/
structure UpsertStatement (Own : Type) where
  columns : List (Column Own)
  updates : List (Column Own)
  updatable : ∀ column ∈ updates, column.settable = true

/-- The DEFAULT of every column. -/
def defaultRow (Sender : Type) [Inhabited Sender] (number : Nat) : MessageRow Sender where
  id := number
  chatId := 0
  messageId := 0
  sender := default
  isOutgoing := false
  date := 0
  editDate := 0
  contentType := .unknown
  text := none
  fileId := none
  isDeleted := false
  isForwarded := false
  replyToChatId := none
  replyToMsgId := none
  replyToId := none

namespace Schema

variable {Sender Own : Type} (schema : Schema Sender Own)

def proposed [Inhabited Sender] (statement : UpsertStatement Own) (params : List Param) (number : Nat) :
    MessageRow Sender :=
  schema.assign (statement.columns.zip params) (defaultRow Sender number)

/-- The assignments of the updated columns from the proposed row. -/
def updated (statement : UpsertStatement Own) (new row : MessageRow Sender) : MessageRow Sender :=
  schema.assign (statement.updates.map fun column => (column, schema.readColumn new column)) row

theorem key_updated (statement : UpsertStatement Own) (new row : MessageRow Sender) :
    (schema.updated statement new row).key = row.key := by
  apply key_assign
  intro binding member
  obtain ⟨column, listed, rfl⟩ := List.mem_map.mp member
  exact statement.updatable column listed

def execute [Inhabited Sender] (statement : UpsertStatement Own) (params : List Param)
    (tables : MessageTables Sender) : MessageTables Sender :=
  { tables with
    messages := tables.messages.proposeRow (schema.proposed statement params)
      (schema.updated statement (schema.proposed statement params tables.messages.next))
      (fun _ => schema.id_assign _ _) (schema.key_updated statement _)
      (fun _ => schema.id_assign _ _)
    editsHeld := fun edit member =>
      MessageTables.holds_propose _ _ _ _ _ _ _ (tables.editsHeld edit member)
    fwdHeld := fun fwd member =>
      MessageTables.holds_propose _ _ _ _ _ _ _ (tables.fwdHeld fwd member) }

/-- `SELECT columns FROM ... WHERE chat_id = ? AND message_id = ?`. -/
def select (columns : List (Column Own)) (key : Int × Int) (tables : MessageTables Sender) :
    List (List Param) :=
  (tables.lookup key).toList.map fun row => columns.map (schema.readColumn row)

/-- `UPDATE ... SET column = value, ... WHERE ...`. -/
def update (bound : List (Column Own × Param))
    (settable : ∀ binding ∈ bound, binding.1.settable = true) (hit : MessageRow Sender → Bool)
    (tables : MessageTables Sender) : MessageTables Sender :=
  tables.reviseMessages (fun row => if hit row then schema.assign bound row else row)
    (by
      intro row
      split
      · exact schema.key_assign bound row settable
      · rfl)
    (by
      intro row
      split
      · exact schema.id_assign bound row
      · rfl)

end Schema

/-- `*old[0]` and the other fetched columns, by position. -/
def fetched (row : List Param) (position : Nat) : Param := row.getD position .null

namespace Statements

/-- `upsert_sql` of `upsertPrivateMessage`. -/
def privateUpsert : UpsertStatement PrivateColumn where
  columns :=
    [.common .chatId, .common .messageId, .own .senderId, .common .isOutgoing, .common .date,
      .common .editDate, .common .contentType, .common .text, .common .isDeleted,
      .common .isForwarded]
  updates :=
    [.own .senderId, .common .isOutgoing, .common .date, .common .editDate, .common .contentType,
      .common .text, .common .isDeleted, .common .isForwarded]
  updatable := by decide

def upsertPrivateMessage (tables : PrivateTables) (msg : PrivateMessage) : PrivateTables :=
  let oldRows := privateSchema.select
    [.common .id, .common .editDate, .common .contentType, .common .text, .common .fileId,
      .common .isDeleted] (msg.chatId, msg.messageId) tables
  let senderParam := Param.ofInt msg.sender.senderId
  let textParam := Param.ofText msg.content.text
  let newCt := msg.content.contentType.toString
  match oldRows with
  | [] =>
      if msg.isDeleted then tables
      else
        let inserted := privateSchema.execute privateUpsert
          [.int msg.chatId, .int msg.messageId, senderParam, .flag msg.isOutgoing, .int msg.date,
            .int msg.editDate, .text newCt, textParam, .flag msg.isDeleted,
            .flag msg.forwardInfo.isSome] tables
        let newRows := privateSchema.select [.common .id] (msg.chatId, msg.messageId) inserted
        match newRows, msg.forwardInfo with
        | row :: _, some info =>
            match (fetched row 0).int? with
            | some pmId => insertForwardInfo inserted pmId.toNat info
            | none => inserted
        | _, _ => inserted
  | old :: _ =>
      let pmId := ((fetched old 0).int?.getD 0).toNat
      let oldEditDate := (fetched old 1).int?.getD 0
      let oldDeleted := fetched old 5 = .int 1
      if msg.isDeleted ∧ ¬ oldDeleted then
        privateSchema.update [(.common .isDeleted, .int 1)] (by decide)
          (fun row => row.id = pmId) tables
      else
        let oldContent : MessageContent :=
          { contentType :=
              messageContentTypeFromString ((fetched old 2).text?.getD "unknown")
            text := (fetched old 3).text?
            fileId := (fetched old 4).int?.map Int.toNat }
        let snapshotted := snapshotMessageEditIfChanged tables pmId oldContent oldEditDate
          msg.content msg.editDate
        let overwritten := privateSchema.execute privateUpsert
          [.int msg.chatId, .int msg.messageId, senderParam, .flag msg.isOutgoing, .int msg.date,
            .int msg.editDate, .text newCt, textParam, .flag msg.isDeleted,
            .flag msg.forwardInfo.isSome] snapshotted
        match msg.forwardInfo with
        | some info => insertForwardInfo overwritten pmId info
        | none => overwritten

def setPrivateMessageFile (tables : PrivateTables) (chatId messageId : Int) (fileId : Nat) :
    PrivateTables :=
  privateSchema.update [(.common .fileId, .int fileId)]
    (by simp [Column.settable, CommonColumn.settable])
    (fun row => row.key = (chatId, messageId)) tables

/-- The joined row is NULL when the replied message is not in this table. -/
def setPrivateMessageReply (tables : PrivateTables)
    (chatId messageId replyToChatId replyToMessageId : Int) : PrivateTables :=
  let r := privateSchema.select [.common .id] (replyToChatId, replyToMessageId) tables
  privateSchema.update
    [(.common .replyToChatId, .int replyToChatId), (.common .replyToMsgId, .int replyToMessageId),
      (.common .replyToId, fetched (r.headD []) 0)] (by simp [Column.settable, CommonColumn.settable])
    (fun row => row.key = (chatId, messageId)) tables

/-- `upsert_sql` of `upsertGroupMessage`. -/
def groupUpsert : UpsertStatement GroupColumn where
  columns :=
    [.common .chatId, .common .messageId, .own .senderUserId, .own .senderChatId,
      .common .isOutgoing, .own .isChannelPost, .own .authorSignature, .common .date,
      .common .editDate, .common .contentType, .common .text, .common .isDeleted,
      .common .isForwarded]
  updates :=
    [.own .senderUserId, .own .senderChatId, .common .isOutgoing, .own .isChannelPost,
      .own .authorSignature, .common .date, .common .editDate, .common .contentType,
      .common .text, .common .isDeleted, .common .isForwarded]
  updatable := by decide

/-- The parameters of `upsert_sql`, which both branches bind. -/
def bindAll (msg : GroupMessage) : List Param :=
  let senderUserParam := Param.ofInt msg.sender.senderUserId
  let senderChatParam := Param.ofInt msg.sender.senderChatId
  let authorParam := Param.ofText msg.sender.authorSignature
  let textParam := Param.ofText msg.content.text
  let newCt := msg.content.contentType.toString
  [.int msg.chatId, .int msg.messageId, senderUserParam, senderChatParam, .flag msg.isOutgoing,
    .flag msg.sender.isChannelPost, authorParam, .int msg.date, .int msg.editDate, .text newCt,
    textParam, .flag msg.isDeleted, .flag msg.forwardInfo.isSome]

def upsertGroupMessage (tables : GroupTables) (msg : GroupMessage) : GroupTables :=
  let oldRows := groupSchema.select
    [.common .id, .common .editDate, .common .contentType, .common .text, .common .fileId,
      .common .isDeleted] (msg.chatId, msg.messageId) tables
  match oldRows with
  | [] =>
      if msg.isDeleted then tables
      else
        let inserted := groupSchema.execute groupUpsert (bindAll msg) tables
        let newRows := groupSchema.select [.common .id] (msg.chatId, msg.messageId) inserted
        match newRows, msg.forwardInfo with
        | row :: _, some info =>
            match (fetched row 0).int? with
            | some gmId => insertForwardInfo inserted gmId.toNat info
            | none => inserted
        | _, _ => inserted
  | old :: _ =>
      let gmId := ((fetched old 0).int?.getD 0).toNat
      let oldEditDate := (fetched old 1).int?.getD 0
      let oldDeleted := fetched old 5 = .int 1
      if msg.isDeleted ∧ ¬ oldDeleted then
        groupSchema.update [(.common .isDeleted, .int 1)] (by decide)
          (fun row => row.id = gmId) tables
      else
        let oldContent : MessageContent :=
          { contentType :=
              messageContentTypeFromString ((fetched old 2).text?.getD "unknown")
            text := (fetched old 3).text?
            fileId := (fetched old 4).int?.map Int.toNat }
        let snapshotted := snapshotMessageEditIfChanged tables gmId oldContent oldEditDate
          msg.content msg.editDate
        let overwritten := groupSchema.execute groupUpsert (bindAll msg) snapshotted
        match msg.forwardInfo with
        | some info => insertForwardInfo overwritten gmId info
        | none => overwritten

def setGroupMessageFile (tables : GroupTables) (chatId messageId : Int) (fileId : Nat) :
    GroupTables :=
  groupSchema.update [(.common .fileId, .int fileId)]
    (by simp [Column.settable, CommonColumn.settable])
    (fun row => row.key = (chatId, messageId)) tables

def setGroupMessageReply (tables : GroupTables)
    (chatId messageId replyToChatId replyToMessageId : Int) : GroupTables :=
  let r := groupSchema.select [.common .id] (replyToChatId, replyToMessageId) tables
  groupSchema.update
    [(.common .replyToChatId, .int replyToChatId), (.common .replyToMsgId, .int replyToMessageId),
      (.common .replyToId, fetched (r.headD []) 0)] (by simp [Column.settable, CommonColumn.settable])
    (fun row => row.key = (chatId, messageId)) tables

end Statements

section

variable {Sender Own : Type} (schema : Schema Sender Own)

/-- A statement that proposes and overwrites as the store does. -/
theorem execute_eq [Inhabited Sender] (statement : UpsertStatement Own) (params : List Param)
    (tables : MessageTables Sender) (msg : Message Sender)
    (proposes : schema.proposed statement params = newRow msg)
    (overwrites : ∀ number, schema.updated statement (newRow msg number) = overwrite msg) :
    schema.execute statement params tables = upsertRow tables msg := by
  have same (make : Nat → MessageRow Sender) (change : MessageRow Sender → MessageRow Sender)
      (numbered : ∀ number, (make number).id = number)
      (keepsKey : ∀ row, (change row).key = row.key) (keepsIdent : ∀ row, (change row).id = row.id)
      (made : make = newRow msg) (changed : change = overwrite msg) :
      tables.messages.proposeRow make change numbered keepsKey keepsIdent =
        (upsertRow tables msg).messages := by
    subst made changed
    rfl
  have messages : (schema.execute statement params tables).messages =
      (upsertRow tables msg).messages := by
    apply same _ _ (fun _ => schema.id_assign _ _) (schema.key_updated statement _)
      (fun _ => schema.id_assign _ _) proposes
    rw [proposes]
    exact overwrites _
  simp only [Schema.execute] at messages ⊢
  simp only [messages]
  rfl

end

namespace Statements

theorem private_proposes (msg : PrivateMessage) :
    privateSchema.proposed privateUpsert
      [.int msg.chatId, .int msg.messageId, .ofInt msg.sender.senderId, .flag msg.isOutgoing,
        .int msg.date, .int msg.editDate, .text msg.content.contentType.toString,
        .ofText msg.content.text, .flag msg.isDeleted, .flag msg.forwardInfo.isSome] =
      newRow msg := by
  funext number
  simp [Schema.proposed, Schema.assign, privateUpsert, Schema.writeColumn, CommonColumn.write,
    privateSchema, newRow, defaultRow]

theorem private_overwrites (msg : PrivateMessage) (number : Nat) :
    privateSchema.updated privateUpsert (newRow msg number) = overwrite msg := by
  funext row
  simp [Schema.updated, Schema.assign, privateUpsert, Schema.writeColumn, CommonColumn.write,
    Schema.readColumn, CommonColumn.read, privateSchema, newRow, overwrite]

theorem group_proposes (msg : GroupMessage) :
    groupSchema.proposed groupUpsert (bindAll msg) = newRow msg := by
  funext number
  simp [Schema.proposed, Schema.assign, groupUpsert, bindAll, Schema.writeColumn,
    CommonColumn.write, groupSchema, newRow, defaultRow]

theorem group_overwrites (msg : GroupMessage) (number : Nat) :
    groupSchema.updated groupUpsert (newRow msg number) = overwrite msg := by
  funext row
  simp [Schema.updated, Schema.assign, groupUpsert, Schema.writeColumn, CommonColumn.write,
    Schema.readColumn, CommonColumn.read, groupSchema, newRow, overwrite]

end Statements

section

variable {Sender Own : Type} (schema : Schema Sender Own) (tables : MessageTables Sender)

/-- An update that changes every row as the store does. -/
theorem update_eq (bound : List (Column Own × Param))
    (settable : ∀ binding ∈ bound, binding.1.settable = true) (hit : MessageRow Sender → Bool)
    (change : MessageRow Sender → MessageRow Sender)
    (keepsKey : ∀ row, (change row).key = row.key) (keepsIdent : ∀ row, (change row).id = row.id)
    (same : ∀ row, (if hit row then schema.assign bound row else row) = change row) :
    schema.update bound settable hit tables = tables.reviseMessages change keepsKey keepsIdent := by
  obtain rfl : (fun row => if hit row then schema.assign bound row else row) = change := funext same
  rfl

/-- The number of the joined row, or NULL. -/
theorem joined_id (key : Int × Int) :
    (fetched ((schema.select [.common .id] key tables).headD []) 0).int?.map Int.toNat =
      (tables.lookup key).map MessageRow.id := by
  cases found : tables.lookup key with
  | none => simp [Schema.select, found, fetched, Param.int?]
  | some row => simp [Schema.select, found, fetched, Schema.readColumn, CommonColumn.read]

theorem flag_update (settable : ∀ binding ∈ [((.common .isDeleted : Column Own), Param.int 1)],
    binding.1.settable = true) (rowId : Nat) :
    schema.update [(.common .isDeleted, .int 1)] settable (fun row => row.id = rowId) tables =
      flagDeleted tables rowId := by
  apply update_eq
  intro row
  simp [Schema.assign, Schema.writeColumn, CommonColumn.write]

end

namespace Statements

theorem upsertPrivateMessage_eq (tables : PrivateTables) (msg : PrivateMessage) :
    upsertPrivateMessage tables msg = TgLoggerd.upsertPrivateMessage tables msg := by
  have written (before : PrivateTables) :=
    execute_eq privateSchema privateUpsert _ before msg (private_proposes msg)
      (private_overwrites msg)
  simp only [upsertPrivateMessage, written, TgLoggerd.upsertPrivateMessage, upsertMessage,
    Schema.select, Message.key]
  cases found : tables.lookup (msg.chatId, msg.messageId) with
  | none =>
      simp only [Option.toList_none, List.map_nil]
      split
      · rfl
      · cases (upsertRow tables msg).lookup (msg.chatId, msg.messageId) with
        | none => rfl
        | some row =>
            cases msg.forwardInfo with
            | none => rfl
            | some info => simp [fetched, Schema.readColumn, CommonColumn.read]
  | some old =>
      cases msg.forwardInfo <;>
        simp [fetched, Schema.readColumn, CommonColumn.read, flag_update]

theorem upsertGroupMessage_eq (tables : GroupTables) (msg : GroupMessage) :
    upsertGroupMessage tables msg = TgLoggerd.upsertGroupMessage tables msg := by
  have written (before : GroupTables) :=
    execute_eq groupSchema groupUpsert _ before msg (group_proposes msg) (group_overwrites msg)
  simp only [upsertGroupMessage, written, TgLoggerd.upsertGroupMessage, upsertMessage,
    Schema.select, Message.key]
  cases found : tables.lookup (msg.chatId, msg.messageId) with
  | none =>
      simp only [Option.toList_none, List.map_nil]
      split
      · rfl
      · cases (upsertRow tables msg).lookup (msg.chatId, msg.messageId) with
        | none => rfl
        | some row =>
            cases msg.forwardInfo with
            | none => rfl
            | some info => simp [fetched, Schema.readColumn, CommonColumn.read]
  | some old =>
      cases msg.forwardInfo <;>
        simp [fetched, Schema.readColumn, CommonColumn.read, flag_update]

theorem setPrivateMessageFile_eq (tables : PrivateTables) (chatId messageId : Int)
    (fileId : Nat) :
    setPrivateMessageFile tables chatId messageId fileId =
      TgLoggerd.setPrivateMessageFile tables chatId messageId fileId := by
  apply update_eq
  intro row
  simp [Schema.assign, Schema.writeColumn, CommonColumn.write]

theorem setGroupMessageFile_eq (tables : GroupTables) (chatId messageId : Int) (fileId : Nat) :
    setGroupMessageFile tables chatId messageId fileId =
      TgLoggerd.setGroupMessageFile tables chatId messageId fileId := by
  apply update_eq
  intro row
  simp [Schema.assign, Schema.writeColumn, CommonColumn.write]

theorem setPrivateMessageReply_eq (tables : PrivateTables)
    (chatId messageId replyToChatId replyToMessageId : Int) :
    setPrivateMessageReply tables chatId messageId replyToChatId replyToMessageId =
      TgLoggerd.setPrivateMessageReply tables chatId messageId replyToChatId
        replyToMessageId := by
  refine update_eq privateSchema tables _ (by simp [Column.settable, CommonColumn.settable]) _ _ _ _ ?_
  intro row
  simp only [Schema.assign, List.foldl_cons, List.foldl_nil, Schema.writeColumn,
    CommonColumn.write, Param.int?_int, joined_id, decide_eq_true_eq]

theorem setGroupMessageReply_eq (tables : GroupTables)
    (chatId messageId replyToChatId replyToMessageId : Int) :
    setGroupMessageReply tables chatId messageId replyToChatId replyToMessageId =
      TgLoggerd.setGroupMessageReply tables chatId messageId replyToChatId replyToMessageId := by
  refine update_eq groupSchema tables _ (by simp [Column.settable, CommonColumn.settable]) _ _ _ _ ?_
  intro row
  simp only [Schema.assign, List.foldl_cons, List.foldl_nil, Schema.writeColumn,
    CommonColumn.write, Param.int?_int, joined_id, decide_eq_true_eq]

def privateStep (tables : PrivateTables) : MessageOp PrivateSender → PrivateTables
  | .upsert msg => upsertPrivateMessage tables msg
  | .setFile chatId messageId fileId => setPrivateMessageFile tables chatId messageId fileId
  | .setReply chatId messageId replyToChatId replyToMessageId =>
      setPrivateMessageReply tables chatId messageId replyToChatId replyToMessageId

def groupStep (tables : GroupTables) : MessageOp GroupSender → GroupTables
  | .upsert msg => upsertGroupMessage tables msg
  | .setFile chatId messageId fileId => setGroupMessageFile tables chatId messageId fileId
  | .setReply chatId messageId replyToChatId replyToMessageId =>
      setGroupMessageReply tables chatId messageId replyToChatId replyToMessageId

/-- The statements leave in the private tables what the store says. -/
theorem statements_private : privateStep = messageStep := by
  funext tables op
  cases op with
  | upsert msg => exact upsertPrivateMessage_eq tables msg
  | setFile chatId messageId fileId => exact setPrivateMessageFile_eq tables chatId messageId fileId
  | setReply chatId messageId replyToChatId replyToMessageId =>
      exact setPrivateMessageReply_eq tables chatId messageId replyToChatId replyToMessageId

/-- The statements leave in the group tables what the store says. -/
theorem statements_group : groupStep = messageStep := by
  funext tables op
  cases op with
  | upsert msg => exact upsertGroupMessage_eq tables msg
  | setFile chatId messageId fileId => exact setGroupMessageFile_eq tables chatId messageId fileId
  | setReply chatId messageId replyToChatId replyToMessageId =>
      exact setGroupMessageReply_eq tables chatId messageId replyToChatId replyToMessageId

end Statements

end TgLoggerd

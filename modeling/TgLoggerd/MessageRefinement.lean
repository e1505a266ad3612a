import TgLoggerd.MessageStatements

/-!
What the private and the group tables have in common: the tables without their
sender columns. Every operation acts on what is seen of the tables alone, so the
two transactions keep corresponding tables corresponding.
-/

namespace TgLoggerd

open KeyedTable SerialRun

variable {Sender : Type}

/-- A row without its sender columns. -/
def MessageRow.common (row : MessageRow Sender) : MessageRow Unit :=
  { row with sender := () }

def Message.common (msg : Message Sender) : Message Unit := { msg with sender := () }

def MessageOp.common : MessageOp Sender → MessageOp Unit
  | .upsert msg => .upsert msg.common
  | .setFile chatId messageId fileId => .setFile chatId messageId fileId
  | .setReply chatId messageId replyToChatId replyToMessageId =>
      .setReply chatId messageId replyToChatId replyToMessageId

namespace MessageTables

variable (tables : MessageTables Sender)

def commonRows (messages : MessageRows Sender) : MessageRows Unit :=
  messages.view MessageRow.common (fun _ => rfl) (fun _ => rfl)

theorem holds_commonRows (messages : MessageRows Sender) (rowId : Nat) :
    Holds (commonRows messages) rowId ↔ Holds messages rowId := by
  constructor
  · rintro ⟨row, member, same⟩
    obtain ⟨old, held, rfl⟩ := List.mem_map.mp member
    exact ⟨old, held, same⟩
  · rintro ⟨row, held, same⟩
    exact ⟨row.common, List.mem_map_of_mem held, same⟩

def common : MessageTables Unit where
  messages := commonRows tables.messages
  edits := tables.edits
  fwdInfo := tables.fwdInfo
  editsHeld := fun edit member => (holds_commonRows _ _).mpr (tables.editsHeld edit member)
  fwdHeld := fun fwd member => (holds_commonRows _ _).mpr (tables.fwdHeld fwd member)

@[ext]
theorem messageTables_ext (left right : MessageTables Sender)
    (messages : left.messages = right.messages) (edits : left.edits = right.edits)
    (fwdInfo : left.fwdInfo = right.fwdInfo) : left = right := by
  cases left
  cases right
  cases messages
  cases edits
  cases fwdInfo
  rfl

theorem lookup_common (key : Int × Int) :
    tables.common.lookup key = (tables.lookup key).map MessageRow.common :=
  Table.lookup_view tables.messages.toTable MessageRow.common (fun _ => rfl) key

end MessageTables

open MessageTables

section

variable (tables : MessageTables Sender)

theorem common_upsertRow (msg : Message Sender) :
    (upsertRow tables msg).common = upsertRow tables.common msg.common := by
  apply messageTables_ext
  · exact AutoTable.proposeRow_view tables.messages MessageRow.common (fun _ => rfl) (fun _ => rfl)
      (newRow msg) (overwrite msg) (fun _ => rfl) (fun _ => rfl) (fun _ => rfl) (newRow msg.common)
      (overwrite msg.common) (fun _ => rfl) (fun _ => rfl) (fun _ => rfl) (fun _ => rfl)
      (fun _ => rfl)
  · rfl
  · rfl

theorem common_revise (change : MessageRow Sender → MessageRow Sender)
    (keepsKey : ∀ row, (change row).key = row.key) (keepsIdent : ∀ row, (change row).id = row.id)
    (seenChange : MessageRow Unit → MessageRow Unit)
    (seenKeeps : ∀ row, (seenChange row).key = row.key)
    (seenKeepsIdent : ∀ row, (seenChange row).id = row.id)
    (changes : ∀ row, (change row).common = seenChange row.common) :
    (tables.reviseMessages change keepsKey keepsIdent).common =
      tables.common.reviseMessages seenChange seenKeeps seenKeepsIdent := by
  apply messageTables_ext
  · exact AutoTable.reviseRows_view tables.messages MessageRow.common (fun _ => rfl) (fun _ => rfl)
      change keepsKey keepsIdent seenChange seenKeeps seenKeepsIdent changes
  · rfl
  · rfl

theorem common_flagDeleted (rowId : Nat) :
    (flagDeleted tables rowId).common = flagDeleted tables.common rowId := by
  apply common_revise
  intro row
  by_cases same : row.id = rowId <;> simp [MessageRow.common, same]

theorem common_insertEdit (edit : EditRow) :
    (insertEdit tables edit).common = insertEdit tables.common edit := by
  by_cases held : Holds tables.messages edit.messageRowId
  · have seen := (holds_commonRows _ _).mpr held
    apply messageTables_ext
    · exact (congrArg commonRows (messages_insertEdit tables edit).1).trans
        (messages_insertEdit tables.common edit).1.symm
    · exact (edits_insertEdit tables edit held).trans
        (edits_insertEdit tables.common edit seen).symm
    · exact (messages_insertEdit tables edit).2.trans (messages_insertEdit tables.common edit).2.symm
  · have seen : ¬ Holds tables.common.messages edit.messageRowId :=
      fun other => held ((holds_commonRows _ _).mp other)
    rw [insertEdit, dif_neg held, insertEdit, dif_neg seen]

theorem common_snapshot (messageRowId : Nat) (oldContent : MessageContent) (oldEditDate : Int)
    (newContent : MessageContent) (newEditDate : Int) :
    (snapshotMessageEditIfChanged tables messageRowId oldContent oldEditDate newContent
        newEditDate).common =
      snapshotMessageEditIfChanged tables.common messageRowId oldContent oldEditDate newContent
        newEditDate := by
  simp only [snapshotMessageEditIfChanged]
  split
  · rfl
  · split
    · rfl
    · exact common_insertEdit tables _

theorem common_insertForwardInfo (messageRowId : Nat) (info : ForwardInfo) :
    (insertForwardInfo tables messageRowId info).common =
      insertForwardInfo tables.common messageRowId info := by
  have same : tables.common.fwdInfo = tables.fwdInfo := rfl
  have holds := holds_commonRows tables.messages messageRowId
  by_cases known : (tables.fwdInfo.lookup messageRowId).isSome = true
  · simp only [insertForwardInfo, same, known, ↓reduceIte]
  · by_cases held : Holds tables.messages messageRowId
    · have seen : Holds tables.common.messages messageRowId := holds.mpr held
      simp only [insertForwardInfo, same, known, held, seen, Bool.false_eq_true, ↓reduceIte,
        ↓reduceDIte]
      rfl
    · have seen : ¬ Holds tables.common.messages messageRowId := fun other => held (holds.mp other)
      simp only [insertForwardInfo, same, known, held, seen, Bool.false_eq_true, ↓reduceIte,
        ↓reduceDIte]

theorem common_upsert (msg : Message Sender) :
    (upsertMessage tables msg).common = upsertMessage tables.common msg.common := by
  have key : msg.common.key = msg.key := rfl
  have deletes : msg.common.isDeleted = msg.isDeleted := rfl
  have forwards : msg.common.forwardInfo = msg.forwardInfo := rfl
  simp only [upsertMessage, key, deletes, forwards, lookup_common]
  cases found : tables.lookup msg.key with
  | none =>
      simp only [Option.map_none]
      split
      · rfl
      · rw [← common_upsertRow, lookup_common]
        cases (upsertRow tables msg).lookup msg.key with
        | none => rfl
        | some row =>
            cases msg.forwardInfo with
            | none => rfl
            | some info => exact common_insertForwardInfo _ row.id info
  | some old =>
      have same : old.common.isDeleted = old.isDeleted := rfl
      simp only [Option.map_some, same]
      split
      · exact common_flagDeleted tables old.id
      · cases msg.forwardInfo with
        | none => exact (common_upsertRow _ msg).trans (by rw [common_snapshot]; rfl)
        | some info =>
            refine (common_insertForwardInfo _ old.id info).trans ?_
            rw [common_upsertRow, common_snapshot]
            rfl

theorem common_step (op : MessageOp Sender) :
    (messageStep tables op).common = messageStep tables.common op.common := by
  cases op with
  | upsert msg => exact common_upsert tables msg
  | setFile chatId messageId fileId =>
      apply common_revise
      intro row
      by_cases hit : row.key = (chatId, messageId)
      · have seen : row.common.key = (chatId, messageId) := hit
        rw [if_pos hit, if_pos seen]
        rfl
      · have seen : row.common.key ≠ (chatId, messageId) := hit
        rw [if_neg hit, if_neg seen]
  | setReply chatId messageId replyToChatId replyToMessageId =>
      apply common_revise
      intro row
      by_cases hit : row.key = (chatId, messageId)
      · have seen : row.common.key = (chatId, messageId) := hit
        rw [if_pos hit, if_pos seen, lookup_common, Option.map_map]
        rfl
      · have seen : row.common.key ≠ (chatId, messageId) := hit
        rw [if_neg hit, if_neg seen]

/-- A run is seen as the run of what is seen of its operations. -/
theorem common_run (ops : List (MessageOp Sender)) :
    (run messageStep tables ops).common = run messageStep tables.common (ops.map .common) := by
  induction ops generalizing tables with
  | nil => rfl
  | cons op ops ih =>
      have later := ih (messageStep tables op)
      rw [common_step] at later
      exact later

end

/-- The two tables agree on their common columns row by row, and their edits and
forward rows are the same. -/
structure SameCommon (privates : PrivateTables) (groups : GroupTables) : Prop where
  rows : List.Forall₂ (fun privateRow groupRow => ∀ column : CommonColumn,
    column.read privateRow = column.read groupRow) privates.messages.rows groups.messages.rows
  next : privates.messages.next = groups.messages.next
  edits : privates.edits = groups.edits
  fwdInfo : privates.fwdInfo.rows = groups.fwdInfo.rows

/-- Operations on messages that differ in their senders at most. -/
inductive Corresponds : MessageOp PrivateSender → MessageOp GroupSender → Prop where
  | upsert (pm : PrivateMessage) (gm : GroupMessage) (chatId : pm.chatId = gm.chatId)
      (messageId : pm.messageId = gm.messageId) (isOutgoing : pm.isOutgoing = gm.isOutgoing)
      (date : pm.date = gm.date) (editDate : pm.editDate = gm.editDate)
      (content : pm.content = gm.content) (isDeleted : pm.isDeleted = gm.isDeleted)
      (forwardInfo : pm.forwardInfo = gm.forwardInfo) : Corresponds (.upsert pm) (.upsert gm)
  | setFile (chatId messageId : Int) (fileId : Nat) :
      Corresponds (.setFile chatId messageId fileId) (.setFile chatId messageId fileId)
  | setReply (chatId messageId replyToChatId replyToMessageId : Int) :
      Corresponds (.setReply chatId messageId replyToChatId replyToMessageId)
        (.setReply chatId messageId replyToChatId replyToMessageId)

theorem common_of_corresponds (privateOp : MessageOp PrivateSender)
    (groupOp : MessageOp GroupSender) (corresponds : Corresponds privateOp groupOp) :
    privateOp.common = groupOp.common := by
  cases corresponds with
  | upsert pm gm chatId messageId isOutgoing date editDate content isDeleted forwardInfo =>
      simp only [MessageOp.common, Message.common, chatId, messageId, isOutgoing, date, editDate,
        content, isDeleted, forwardInfo]
  | setFile chatId messageId fileId => rfl
  | setReply chatId messageId replyToChatId replyToMessageId => rfl

theorem common_ops (privateOps : List (MessageOp PrivateSender))
    (groupOps : List (MessageOp GroupSender))
    (correspond : List.Forall₂ Corresponds privateOps groupOps) :
    privateOps.map MessageOp.common = groupOps.map MessageOp.common := by
  induction correspond with
  | nil => rfl
  | cons first _ ih =>
      rw [List.map_cons, List.map_cons, common_of_corresponds _ _ first, ih]

theorem read_common (row : MessageRow Sender) (column : CommonColumn) :
    column.read row.common = column.read row := by
  cases column <;> rfl

/-- The common columns are all there is of a row without its senders. -/
theorem same_columns_iff {Other : Type} (row : MessageRow Sender) (other : MessageRow Other) :
    (∀ column : CommonColumn, column.read row = column.read other) ↔
      row.common = other.common := by
  constructor
  · intro same
    have number (column : CommonColumn) := congrArg Param.int? (same column)
    have counted (column : CommonColumn) := congrArg (Option.map Int.toNat) (number column)
    have label (column : CommonColumn) := congrArg Param.text? (same column)
    have flag (left right : Bool) (equal : (Param.flag left).int? = (Param.flag right).int?) :
        left = right := by
      rw [← Param.int?_flag left, ← Param.int?_flag right, equal]
    have contentType : row.contentType = other.contentType := by
      have decoded := congrArg (Option.map messageContentTypeFromString) (label .contentType)
      simpa [CommonColumn.read] using decoded
    simp only [MessageRow.common, MessageRow.mk.injEq, true_and]
    refine ⟨?_, ?_, ?_, flag _ _ (number .isOutgoing), ?_, ?_, contentType, ?_, ?_,
      flag _ _ (number .isDeleted), flag _ _ (number .isForwarded), ?_, ?_, ?_⟩
    · simpa [CommonColumn.read] using counted .id
    · simpa [CommonColumn.read] using number .chatId
    · simpa [CommonColumn.read] using number .messageId
    · simpa [CommonColumn.read] using number .date
    · simpa [CommonColumn.read] using number .editDate
    · simpa [CommonColumn.read] using label .text
    · simpa [CommonColumn.read] using counted .fileId
    · simpa [CommonColumn.read] using number .replyToChatId
    · simpa [CommonColumn.read] using number .replyToMsgId
    · simpa [CommonColumn.read] using counted .replyToId
  · intro same column
    rw [← read_common row, same, read_common]

theorem sameCommon_iff (privates : PrivateTables) (groups : GroupTables) :
    SameCommon privates groups ↔ privates.common = groups.common := by
  have rows : List.Forall₂ (fun (privateRow : MessageRow PrivateSender)
        (groupRow : MessageRow GroupSender) => ∀ column : CommonColumn,
          column.read privateRow = column.read groupRow) privates.messages.rows
        groups.messages.rows ↔
      privates.messages.rows.map MessageRow.common = groups.messages.rows.map MessageRow.common := by
    simp only [same_columns_iff]
    rw [← List.forall₂_eq_eq_eq, List.forall₂_map_left_iff, List.forall₂_map_right_iff]
  constructor
  · rintro ⟨columns, next, edits, fwdInfo⟩
    apply messageTables_ext
    · apply AutoTable.autoTable_ext
      · exact Table.table_ext _ _ (rows.mp columns)
      · exact next
    · exact edits
    · exact Table.table_ext _ _ fwdInfo
  · intro same
    have messages := congrArg MessageTables.messages same
    refine ⟨rows.mpr ?_, ?_, ?_, ?_⟩
    · exact congrArg (fun table => table.toTable.rows) messages
    · exact congrArg AutoTable.next messages
    · exact congrArg MessageTables.edits same
    · exact congrArg (fun tables => tables.fwdInfo.rows) same

/-- Corresponding operations, run by the two hand-written transactions from
corresponding tables, leave corresponding tables. -/
theorem group_refines_private (privates : PrivateTables) (groups : GroupTables)
    (privateOps : List (MessageOp PrivateSender)) (groupOps : List (MessageOp GroupSender))
    (same : SameCommon privates groups)
    (correspond : List.Forall₂ Corresponds privateOps groupOps) :
    SameCommon (run Statements.privateStep privates privateOps)
      (run Statements.groupStep groups groupOps) := by
  rw [sameCommon_iff] at same ⊢
  rw [Statements.statements_private, Statements.statements_group, common_run, common_run, same,
    common_ops privateOps groupOps correspond]

theorem group_refines_private_at_edit :
    SameCommon
      (run Statements.privateStep MessageTables.empty
        [.upsert
            { chatId := 5, messageId := 7, sender := ⟨some 5⟩, date := 100
              content := { contentType := .text, text := some "hi" } },
          .upsert
            { chatId := 5, messageId := 7, sender := ⟨some 5⟩, date := 100, editDate := 200
              content := { contentType := .text, text := some "hello" } }])
      (run Statements.groupStep MessageTables.empty
        [.upsert
            { chatId := 5, messageId := 7, sender := {}, date := 100
              content := { contentType := .text, text := some "hi" } },
          .upsert
            { chatId := 5, messageId := 7, sender := { senderUserId := some 9 }, date := 100
              editDate := 200, content := { contentType := .text, text := some "hello" } }]) :=
  group_refines_private MessageTables.empty MessageTables.empty _ _
    ⟨List.Forall₂.nil, rfl, rfl, rfl⟩
    (.cons (.upsert _ _ rfl rfl rfl rfl rfl rfl rfl rfl)
      (.cons (.upsert _ _ rfl rfl rfl rfl rfl rfl rfl rfl) .nil))

end TgLoggerd

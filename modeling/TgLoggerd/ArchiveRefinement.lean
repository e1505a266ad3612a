import TgLoggerd.Archive
import TgLoggerd.ForwardFlags
import TgLoggerd.MessageLog

/-!
The message tables implement the archive. What the tables hold of a message is
read from its row, from the edits rows and the fwd_info row of that number, and
each transaction does to it what the operation does to the archive. So the row
numbers that failed and repeated inserts use up, and the order in which other
messages are written, never show.
-/

namespace TgLoggerd

open KeyedTable SerialRun

section

variable {Sender : Type}

def EditRow.version (edit : EditRow) : Version where
  contentType := edit.contentType
  text := edit.text
  fileId := edit.fileId
  replacedAt := edit.editDate

/-- What the three tables hold of the message of one row. -/
def recordOf (tables : MessageTables Sender) (row : MessageRow Sender) : Record Sender where
  sender := row.sender
  isOutgoing := row.isOutgoing
  date := row.date
  editDate := row.editDate
  contentType := row.contentType
  text := row.text
  fileId := row.fileId
  isDeleted := row.isDeleted
  isForwarded := row.isForwarded
  forward := (tables.fwdInfo.lookup row.id).map FwdRow.info
  replyTo := row.replyToChatId.bind fun chatId => row.replyToMsgId.map fun messageId =>
    (chatId, messageId)
  versions := (tables.editsOf row.id).map EditRow.version

def archived (tables : MessageTables Sender) : Archive Sender where
  records := fun key => (tables.lookup key).map (recordOf tables)
  resolved := fun key => ((tables.lookup key).bind MessageRow.replyToId).isSome

/-- Two tables agree on the rows that hang on one message row. -/
def SameLeaves (before after : MessageTables Sender) (rowId : Nat) : Prop :=
  after.editsOf rowId = before.editsOf rowId ∧
    after.fwdInfo.lookup rowId = before.fwdInfo.lookup rowId

theorem recordOf_congr (before after : MessageTables Sender) (row : MessageRow Sender)
    (same : SameLeaves before after row.id) : recordOf after row = recordOf before row := by
  rw [recordOf, recordOf, same.1, same.2]

theorem archive_ext (left right : Archive Sender)
    (records : ∀ key, left.records key = right.records key)
    (resolved : ∀ key, left.resolved key = right.resolved key) : left = right := by
  cases left
  cases right
  rw [Archive.mk.injEq]
  exact ⟨funext records, funext resolved⟩

section

variable (tables : MessageTables Sender) (msg : Message Sender)

theorem filter_snapshots (old : MessageRow Sender) (rowId : Nat) :
    (snapshots old msg).filter (fun edit => edit.messageRowId = rowId) =
      if old.id = rowId then snapshots old msg else [] := by
  rw [snapshots]
  split
  · by_cases same : old.id = rowId <;> simp [same]
  · simp

/-- The leaves of a stored row after an upsert that meets it. -/
theorem leaves_rewritten (old : MessageRow Sender) (found : tables.lookup msg.key = some old)
    (overwrites : (msg.isDeleted && !old.isDeleted) = false) :
    (upsertMessage tables msg).editsOf old.id = tables.editsOf old.id ++ snapshots old msg ∧
      (upsertMessage tables msg).fwdInfo.lookup old.id =
        (tables.fwdInfo.lookup old.id).or (msg.forwardInfo.map fun info => ⟨old.id, info⟩) := by
  have rows := fwdInfo_upsert tables msg
  simp only [found, overwrites, Bool.false_eq_true, ↓reduceIte] at rows
  constructor
  · have edits := editsOf_step tables (.upsert msg) old.id
    simp only [appended, found, overwrites, Bool.false_eq_true, ↓reduceIte] at edits
    rw [filter_snapshots, if_pos rfl] at edits
    exact edits
  · rw [lookup_recordForward _ _ _ _ rows, if_pos rfl]

/-- A deletion that only marks its row leaves all leaves alone. -/
theorem leaves_marked (old : MessageRow Sender) (found : tables.lookup msg.key = some old)
    (marks : (msg.isDeleted && !old.isDeleted) = true) (rowId : Nat) :
    SameLeaves tables (upsertMessage tables msg) rowId := by
  have rows := fwdInfo_upsert tables msg
  simp only [found, marks, ↓reduceIte] at rows
  constructor
  · have edits := editsOf_step tables (.upsert msg) rowId
    simp only [appended, found, marks, ↓reduceIte, List.filter_nil, List.append_nil] at edits
    exact edits
  · rw [Table.lookup, rows]
    rfl

/-- A row of another message keeps its leaves. -/
theorem leaves_elsewhere (key : Int × Int) (row : MessageRow Sender)
    (held : tables.lookup key = some row) (apart : msg.key ≠ key) :
    SameLeaves tables (upsertMessage tables msg) row.id := by
  have rows := fwdInfo_upsert tables msg
  have edits := editsOf_step tables (.upsert msg) row.id
  rw [messageStep] at edits
  cases found : tables.lookup msg.key with
  | none =>
      -- The new row takes the next number, which no stored row has.
      have below := tables.messages.below row ((Table.lookup_some_iff _ _ _).mp held).1
      simp only [appended, found, List.filter_nil, List.append_nil] at edits rows
      refine ⟨edits, ?_⟩
      by_cases deleted : msg.isDeleted = true
      · rw [if_pos deleted] at rows
        rw [Table.lookup, rows]
        rfl
      · rw [if_neg deleted] at rows
        rw [lookup_recordForward _ _ _ _ rows, if_neg (by omega)]
  | some old =>
      have numbers := id_ne_of_key_ne tables msg.key key old row found held apart
      cases marks : msg.isDeleted && !old.isDeleted with
      | true => exact leaves_marked tables msg old found marks row.id
      | false =>
          simp only [appended, found, marks, Bool.false_eq_true, ↓reduceIte] at edits rows
          rw [filter_snapshots, if_neg numbers, List.append_nil] at edits
          refine ⟨edits, ?_⟩
          rw [lookup_recordForward _ _ _ _ rows, if_neg numbers]

theorem recordOf_inserted (absent : tables.lookup msg.key = none)
    (content : msg.isDeleted = false) :
    recordOf (upsertMessage tables msg) (newRow msg tables.messages.next) =
      Record.opened msg := by
  have rows := fwdInfo_upsert tables msg
  simp only [absent, content, Bool.false_eq_true, ↓reduceIte] at rows
  -- No leaf refers to the next number yet.
  have edits : (upsertMessage tables msg).editsOf tables.messages.next = [] :=
    (content_absent tables msg content absent).2
  have origin : ((upsertMessage tables msg).fwdInfo.lookup tables.messages.next).map
      FwdRow.info = msg.forwardInfo := by
    rw [lookup_recordForward _ _ _ _ rows, if_pos rfl, next_unreferenced, Option.none_or,
      Option.map_map]
    exact Option.map_id'
  simp only [recordOf, newRow, edits, origin, Record.opened, content]
  rfl

theorem recordOf_overwritten (old : MessageRow Sender) (found : tables.lookup msg.key = some old)
    (overwrites : (msg.isDeleted && !old.isDeleted) = false) :
    recordOf (upsertMessage tables msg) (overwrite msg old) =
      (recordOf tables old).revised msg := by
  obtain ⟨edits, origin⟩ := leaves_rewritten tables msg old found overwrites
  have versions : (snapshots old msg).map EditRow.version = (recordOf tables old).setAside msg := by
    rw [snapshots, Record.setAside]
    change _ = if old.editDate < msg.editDate ∧ old.body ≠ msg.body then _ else _
    split
    · rfl
    · rfl
  have forward : (((tables.fwdInfo.lookup old.id).or
      (msg.forwardInfo.map fun info => ⟨old.id, info⟩)).map FwdRow.info) =
        ((tables.fwdInfo.lookup old.id).map FwdRow.info).or msg.forwardInfo := by
    cases tables.fwdInfo.lookup old.id with
    | none => cases msg.forwardInfo <;> rfl
    | some fwd => rfl
  simp only [recordOf, overwrite, edits, origin, List.map_append, versions, forward,
    Record.revised]

/-- One upsert is received by the archive. -/
theorem records_upsert (key : Int × Int) :
    (archived (upsertMessage tables msg)).records key =
      Function.update (archived tables).records msg.key
        (Record.receive msg ((archived tables).records msg.key)) key := by
  by_cases same : msg.key = key
  · subst same
    rw [Function.update_self]
    change ((upsertMessage tables msg).lookup msg.key).map _ =
      Record.receive msg ((tables.lookup msg.key).map _)
    rw [lookup_upsert, if_pos rfl]
    cases found : tables.lookup msg.key with
    | none =>
        cases deleted : msg.isDeleted with
        | true => simp [Record.receive, deleted]
        | false => simp [Record.receive, deleted, recordOf_inserted tables msg found deleted]
    | some old =>
        cases marks : msg.isDeleted && !old.isDeleted with
        | true =>
            have kept := leaves_marked tables msg old found marks old.id
            simp only [Option.map_some, rewrite, marks, ↓reduceIte, Record.receive]
            change some (recordOf (upsertMessage tables msg) { old with isDeleted := true }) =
              some (if (msg.isDeleted && !old.isDeleted) = true then _ else _)
            rw [if_pos marks, recordOf, kept.1, kept.2]
            rfl
        | false =>
            have written := recordOf_overwritten tables msg old found marks
            simp only [Option.map_some, rewrite, marks, Bool.false_eq_true, ↓reduceIte,
              Record.receive, written]
            change some _ = some (if (msg.isDeleted && !old.isDeleted) = true then _ else _)
            rw [marks, if_neg Bool.false_ne_true]
  · rw [Function.update_of_ne (Ne.symm same)]
    change ((upsertMessage tables msg).lookup key).map _ = (tables.lookup key).map _
    rw [lookup_upsert, if_neg same]
    cases held : tables.lookup key with
    | none => rfl
    | some row =>
        -- The row itself is untouched, but its leaves are in tables that were written.
        have kept := leaves_elsewhere tables msg key row held same
        rw [Option.map_some, Option.map_some, recordOf_congr _ _ row kept]

theorem replyToId_rewrite (old : MessageRow Sender) :
    (rewrite msg old).replyToId = old.replyToId := by
  unfold rewrite
  split <;> rfl

theorem resolved_upsert (key : Int × Int) :
    (archived (upsertMessage tables msg)).resolved key = (archived tables).resolved key := by
  change (((upsertMessage tables msg).lookup key).bind _).isSome =
    ((tables.lookup key).bind _).isSome
  rw [lookup_upsert]
  by_cases same : msg.key = key
  · rw [if_pos same]
    cases tables.lookup key with
    | none => cases deleted : msg.isDeleted <;> simp [newRow]
    | some old => simp [replyToId_rewrite]
  · rw [if_neg same]

end

/-- Statements that revise columns of one message row leave the others' records. -/
theorem records_revised (tables : MessageTables Sender) (target : Int × Int)
    (change : MessageRow Sender → MessageRow Sender) (keepsKey : ∀ row, (change row).key = row.key)
    (keepsIdent : ∀ row, (change row).id = row.id)
    (others : ∀ row, row.key ≠ target → change row = row)
    (recordChange : Record Sender → Record Sender)
    (own : ∀ row, row.key = target →
      recordOf tables (change row) = recordChange (recordOf tables row)) (key : Int × Int) :
    (archived (tables.reviseMessages change keepsKey keepsIdent)).records key =
      Function.update (archived tables).records target
        (((archived tables).records target).map recordChange) key := by
  change ((tables.reviseMessages change keepsKey keepsIdent).lookup key).map (recordOf tables) = _
  rw [MessageTables.lookup_reviseMessages, Option.map_map]
  by_cases same : target = key
  · subst same
    rw [Function.update_self]
    change _ = ((tables.lookup target).map (recordOf tables)).map recordChange
    cases held : tables.lookup target with
    | none => rfl
    | some row =>
        rw [Option.map_some, Option.map_some, Option.map_some, Function.comp_apply,
          own row (key_of_lookup tables target row held)]
  · rw [Function.update_of_ne (Ne.symm same)]
    change _ = (tables.lookup key).map (recordOf tables)
    cases held : tables.lookup key with
    | none => rfl
    | some row =>
        have elsewhere : row.key ≠ target := by
          rw [key_of_lookup tables key row held]
          exact Ne.symm same
        rw [Option.map_some, Option.map_some, Function.comp_apply, others row elsewhere]

theorem archived_setFile (tables : MessageTables Sender) (chatId messageId : Int) (fileId : Nat) :
    archived (setMessageFile tables chatId messageId fileId) =
      (archived tables).step (.setFile chatId messageId fileId) := by
  apply archive_ext
  · intro key
    apply records_revised
    · intro row elsewhere
      rw [if_neg elsewhere]
    · intro row named
      rw [if_pos named]
      rfl
  · intro key
    change (((setMessageFile tables chatId messageId fileId).lookup key).bind _).isSome =
      ((tables.lookup key).bind _).isSome
    rw [lookup_setMessageFile]
    cases tables.lookup key with
    | none => rfl
    | some row =>
        rw [Option.map_some, Option.bind_some, Option.bind_some]
        split <;> rfl

theorem archived_setReply (tables : MessageTables Sender)
    (chatId messageId replyToChatId replyToMessageId : Int) :
    archived (setMessageReply tables chatId messageId replyToChatId replyToMessageId) =
      (archived tables).step (.setReply chatId messageId replyToChatId replyToMessageId) := by
  apply archive_ext
  · intro key
    apply records_revised
    · intro row elsewhere
      rw [if_neg elsewhere]
    · intro row named
      rw [if_pos named]
      rfl
  · intro key
    change (((setMessageReply tables chatId messageId replyToChatId replyToMessageId).lookup
      key).bind _).isSome = Function.update (archived tables).resolved (chatId, messageId)
        (((tables.lookup (chatId, messageId)).map _).isSome &&
          ((tables.lookup (replyToChatId, replyToMessageId)).map _).isSome) key
    rw [lookup_setMessageReply, Option.isSome_map, Option.isSome_map]
    by_cases same : (chatId, messageId) = key
    · subst same
      rw [Function.update_self]
      cases held : tables.lookup (chatId, messageId) with
      | none => rfl
      | some row =>
          rw [Option.map_some, Option.bind_some,
            if_pos (key_of_lookup tables (chatId, messageId) row held)]
          simp
    · rw [Function.update_of_ne (Ne.symm same)]
      change _ = ((tables.lookup key).bind MessageRow.replyToId).isSome
      cases held : tables.lookup key with
      | none => rfl
      | some row =>
          rw [Option.map_some, Option.bind_some, Option.bind_some, if_neg]
          rw [key_of_lookup tables key row held]
          exact Ne.symm same

/-- Each transaction does to the tables what the operation does to the archive. -/
theorem archived_step (tables : MessageTables Sender) (op : MessageOp Sender) :
    archived (messageStep tables op) = (archived tables).step op := by
  cases op with
  | upsert msg =>
      apply archive_ext
      · exact records_upsert tables msg
      · exact resolved_upsert tables msg
  | setFile chatId messageId fileId => exact archived_setFile tables chatId messageId fileId
  | setReply chatId messageId replyToChatId replyToMessageId =>
      exact archived_setReply tables chatId messageId replyToChatId replyToMessageId

theorem archived_store (ops : List (MessageOp Sender)) :
    archived (messageStore ops) = run Archive.step Archive.empty ops := by
  have simulated := Projection.run_simulates messageStep Archive.step archived archived_step
    MessageTables.empty ops
  exact simulated

end

/-- Over every run of the three calls, the tables of either kind of chat hold
what the archive of that run holds. -/
theorem tables_implement_archive :
    (∀ ops, archived (privateStore ops) = run Archive.step Archive.empty ops) ∧
      (∀ ops, archived (groupStore ops) = run Archive.step Archive.empty ops) := by
  constructor
  · intro ops
    rw [privateStore_eq, archived_store]
  · intro ops
    rw [groupStore_eq, archived_store]

section

variable {Sender : Type}

/-- No upsert of the message, deletions included. -/
def LeavesUnsent (key : Int × Int) (op : MessageOp Sender) : Prop :=
  ∀ other, op = .upsert other → other.key ≠ key

theorem archived_redelivery (msg : Message Sender) (content : msg.isDeleted = false)
    (before middle after : List (MessageOp Sender))
    (quiet : ∀ op ∈ middle, LeavesUnsent msg.key op) :
    archived (messageStore (before ++ .upsert msg :: middle ++ .upsert msg :: after)) =
      archived (messageStore (before ++ .upsert msg :: middle ++ after)) := by
  rw [archived_store, archived_store]
  have absorbed := Projection.run_absorbed Archive.step Archive.empty (Archive.Shows msg)
    (.upsert msg) (LeavesUnsent msg.key) (fun archive => Archive.upsert_shown msg content archive)
    (fun archive op shown calm => Archive.shows_step msg archive op shown calm)
    (before ++ [.upsert msg]) middle after
    (by rw [run_snoc]; exact Archive.shows_upsert msg content _) quiet
  simpa using absorbed

end

end TgLoggerd

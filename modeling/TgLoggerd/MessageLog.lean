import Mathlib.Data.List.Chain
import TgLoggerd.MessageEdits

/-!
The edits table as a log of contents. On histories whose edit dates tell edits
apart, the snapshots of a message followed by its live row are the sequence of
its upserted contents without repetitions. Deletions and the two link setters
may come at any point between the edits.
-/

namespace TgLoggerd

open KeyedTable SerialRun Journal

section

variable {Sender : Type}

/-- The content upserts of one message, oldest first. -/
def upsertsTo (key : Int × Int) (ops : List (MessageOp Sender)) : List (Message Sender) :=
  ops.filterMap fun
    | .upsert msg => if msg.isDeleted = false ∧ msg.key = key then some msg else none
    | .setFile .. => none
    | .setReply .. => none

/-- edit_date does not fall, and it rises when content_type or text change. -/
def Later (earlier later : Message Sender) : Prop :=
  earlier.editDate ≤ later.editDate ∧
    (earlier.body ≠ later.body → earlier.editDate < later.editDate)

def WellDated (ops : List (MessageOp Sender)) : Prop :=
  ∀ key, (upsertsTo key ops).IsChain Later

/-- A deletion meets no row, or a row that is still live. -/
def DeletesLive (tables : MessageTables Sender) (op : MessageOp Sender) : Prop :=
  ∀ msg old, op = .upsert msg → msg.isDeleted = true → tables.lookup msg.key = some old →
    old.isDeleted = false

/-- The edits rows of a stored message tell its content history. -/
structure LogOf (tables : MessageTables Sender) (upserts : List (Message Sender))
    (row : MessageRow Sender) : Prop where
  latest : ∃ msg, upserts.getLast? = some msg ∧ row.body = msg.body ∧ row.editDate = msg.editDate
  contents : (tables.editsOf row.id).map EditRow.body ++ [row.body] =
    (upserts.map Message.body).destutter (· ≠ ·)
  dates : ((tables.editsOf row.id).map EditRow.editDate).Pairwise (· < ·)
  bounded : ∀ edit ∈ tables.editsOf row.id, edit.editDate ≤ row.editDate

/-- A message has a row exactly when content was upserted, and then its log. -/
structure ExactLog (tables : MessageTables Sender) (ops : List (MessageOp Sender)) : Prop where
  absent : ∀ key, tables.lookup key = none → upsertsTo key ops = []
  stored : ∀ key row, tables.lookup key = some row → LogOf tables (upsertsTo key ops) row

theorem upsertsTo_append (key : Int × Int) (before after : List (MessageOp Sender)) :
    upsertsTo key (before ++ after) = upsertsTo key before ++ upsertsTo key after :=
  List.filterMap_append

theorem upsertsTo_content (msg : Message Sender) (content : msg.isDeleted = false) :
    upsertsTo msg.key [.upsert msg] = [msg] := by
  simp [upsertsTo, content]

/-- An operation either brings content for the key or brings none. -/
theorem upsertsTo_single (key : Int × Int) (op : MessageOp Sender) :
    (∃ msg, op = .upsert msg ∧ msg.isDeleted = false ∧ msg.key = key) ∨
      upsertsTo key [op] = [] := by
  cases op with
  | upsert msg =>
      by_cases content : msg.isDeleted = false ∧ msg.key = key
      · exact Or.inl ⟨msg, rfl, content⟩
      · apply Or.inr
        simp only [upsertsTo, List.filterMap_cons, content, ↓reduceIte, List.filterMap_nil]
  | setFile chatId messageId fileId => exact Or.inr rfl
  | setReply chatId messageId replyToChatId replyToMessageId => exact Or.inr rfl

theorem editsOf_step (tables : MessageTables Sender) (op : MessageOp Sender) (rowId : Nat) :
    (messageStep tables op).editsOf rowId =
      tables.editsOf rowId ++ (appended tables op).filter (·.messageRowId = rowId) := by
  unfold MessageTables.editsOf
  rw [edits_step, List.filter_append]

/-- No edits row stands under a number that was not handed out. -/
theorem editsOf_next (tables : MessageTables Sender) :
    tables.editsOf tables.messages.next = [] := by
  apply List.filter_eq_nil_iff.mpr
  intro edit member
  obtain ⟨row, held, same⟩ := tables.editsHeld edit member
  have bound := tables.messages.below row held
  simp only [decide_eq_true_eq]
  omega

theorem content_absent (tables : MessageTables Sender) (msg : Message Sender)
    (content : msg.isDeleted = false) (missing : tables.lookup msg.key = none) :
    (messageStep tables (.upsert msg)).lookup msg.key =
        some (newRow msg tables.messages.next) ∧
      (messageStep tables (.upsert msg)).editsOf tables.messages.next = [] := by
  constructor
  · rw [messageStep, lookup_upsert]
    simp [missing, content]
  · rw [editsOf_step, editsOf_next]
    simp [appended, missing]

theorem content_held (tables : MessageTables Sender) (msg : Message Sender)
    (old : MessageRow Sender) (content : msg.isDeleted = false)
    (found : tables.lookup msg.key = some old) :
    (messageStep tables (.upsert msg)).lookup msg.key = some (overwrite msg old) ∧
      (messageStep tables (.upsert msg)).editsOf old.id =
        tables.editsOf old.id ++ snapshots old msg := by
  refine ⟨(edits_overwrite tables msg old content found).1, ?_⟩
  rw [editsOf_step]
  have own : (appended tables (.upsert msg)).filter (·.messageRowId = old.id) =
      snapshots old msg := by
    simp only [appended, found, content, Bool.false_and, Bool.false_eq_true, ↓reduceIte]
    apply List.filter_eq_self.mpr
    intro edit member
    simp only [snapshots] at member
    split at member
    · simp [List.mem_singleton.mp member]
    · simp at member
  rw [own]

/-- Without new content for a key its row keeps number, content and edit_date,
and its log. -/
theorem quiet_held (tables : MessageTables Sender) (op : MessageOp Sender) (key : Int × Int)
    (old : MessageRow Sender) (quiet : upsertsTo key [op] = []) (live : DeletesLive tables op)
    (found : tables.lookup key = some old) :
    ∃ row, (messageStep tables op).lookup key = some row ∧ row.id = old.id ∧
      row.body = old.body ∧ row.editDate = old.editDate ∧
      (messageStep tables op).editsOf old.id = tables.editsOf old.id := by
  cases op with
  | upsert msg =>
      rw [editsOf_step]
      by_cases same : msg.key = key
      · subst same
        -- An upsert that adds no content is a deletion, and here of a live row.
        have deleted : msg.isDeleted = true := by
          cases flag : msg.isDeleted with
          | false => simp [upsertsTo_content msg flag] at quiet
          | true => rfl
        have unflagged := live msg old rfl deleted found
        refine ⟨{ old with isDeleted := true }, ?_, rfl, rfl, rfl, ?_⟩
        · rw [messageStep, lookup_upsert]
          simp [found, rewrite, deleted, unflagged]
        · simp [appended, found, deleted, unflagged]
      · refine ⟨old, by simp [messageStep, lookup_upsert, same, found], rfl, rfl, rfl, ?_⟩
        -- Snapshots of another message carry another row number.
        have foreign : (appended tables (.upsert msg)).filter (·.messageRowId = old.id) = [] := by
          apply List.filter_eq_nil_iff.mpr
          intro edit member
          obtain ⟨sent, other, this, otherFound, rfl, _⟩ := mem_appended tables _ edit member
          cases this
          have held := (Table.lookup_some_iff _ _ _).mp otherFound
          have oldKey := key_of_lookup tables key old found
          have different := (id_eq_iff_key_eq tables key old other found held.1).not.mpr
            fun otherKey => same (held.2.symm.trans otherKey)
          simpa using different
        rw [foreign, List.append_nil]
  | setFile chatId messageId fileId =>
      refine ⟨_, by rw [messageStep, lookup_setMessageFile, found, Option.map_some], ?_⟩
      have edits := editsOf_step tables (.setFile chatId messageId fileId) old.id
      simp only [appended, List.filter_nil, List.append_nil] at edits
      split <;> exact ⟨rfl, rfl, rfl, edits⟩
  | setReply chatId messageId replyToChatId replyToMessageId =>
      refine ⟨_, by rw [messageStep, lookup_setMessageReply, found, Option.map_some], ?_⟩
      have edits := editsOf_step tables
        (.setReply chatId messageId replyToChatId replyToMessageId) old.id
      simp only [appended, List.filter_nil, List.append_nil] at edits
      split <;> exact ⟨rfl, rfl, rfl, edits⟩

theorem quiet_absent (tables : MessageTables Sender) (op : MessageOp Sender) (key : Int × Int)
    (quiet : upsertsTo key [op] = []) (missing : tables.lookup key = none) :
    (messageStep tables op).lookup key = none := by
  cases op with
  | upsert msg =>
      rw [messageStep, lookup_upsert]
      by_cases same : msg.key = key
      · subst same
        cases flag : msg.isDeleted with
        | false => simp [upsertsTo_content msg flag] at quiet
        | true => simp [missing]
      · simp [same, missing]
  | setFile chatId messageId fileId =>
      rw [messageStep, lookup_setMessageFile, missing, Option.map_none]
  | setReply chatId messageId replyToChatId replyToMessageId =>
      rw [messageStep, lookup_setMessageReply, missing, Option.map_none]

/-- A first content upsert opens the log. -/
theorem log_opened (tables after : MessageTables Sender) (msg : Message Sender)
    (fresh : after.editsOf tables.messages.next = []) :
    LogOf after [msg] (newRow msg tables.messages.next) where
  latest := ⟨msg, rfl, rfl, rfl⟩
  contents := by
    change (after.editsOf tables.messages.next).map EditRow.body ++ [msg.body] = _
    rw [fresh]
    rfl
  dates := by
    change ((after.editsOf tables.messages.next).map EditRow.editDate).Pairwise _
    simp [fresh]
  bounded := by
    change ∀ edit ∈ after.editsOf tables.messages.next, _
    simp [fresh]

/-- One more content upsert extends the log by the content it replaces, when
the two differ. -/
theorem log_extended (tables after : MessageTables Sender) (upserts : List (Message Sender))
    (msg : Message Sender) (old : MessageRow Sender) (log : LogOf tables upserts old)
    (dated : (upserts ++ [msg]).IsChain Later)
    (edits : after.editsOf old.id = tables.editsOf old.id ++ snapshots old msg) :
    LogOf after (upserts ++ [msg]) (overwrite msg old) := by
  obtain ⟨previous, last, sameBody, sameDate⟩ := log.latest
  have later : Later previous msg :=
    (List.isChain_append.mp dated).2.2 previous (by simp [last]) msg (by simp)
  have lastBody : (upserts.map Message.body).getLast? = some old.body := by
    rw [List.getLast?_map, last, sameBody]
    rfl
  -- A repeated content is destuttered on one side and not snapshotted on the other.
  by_cases repeated : old.body = msg.body
  · have none : snapshots old msg = [] := by
      simp [snapshots, repeated]
    rw [none, List.append_nil] at edits
    refine ⟨⟨msg, by simp, rfl, rfl⟩, ?_, ?_, ?_⟩
    · change (after.editsOf old.id).map EditRow.body ++ [msg.body] = _
      rw [edits, List.map_append, List.map_singleton, destutter_snoc, lastBody, repeated,
        if_pos rfl, ← log.contents, repeated]
    · change ((after.editsOf old.id).map EditRow.editDate).Pairwise _
      rw [edits]
      exact log.dates
    · change ∀ edit ∈ after.editsOf old.id, edit.editDate ≤ msg.editDate
      rw [edits]
      intro edit member
      have bound := log.bounded edit member
      have step := later.1
      omega
  · have advanced : old.editDate < msg.editDate := by
      rw [sameDate]
      exact later.2 (sameBody ▸ repeated)
    -- A new content comes with a later date, so the replaced one is snapshotted.
    have taken : snapshots old msg =
        [{ messageRowId := old.id
           contentType := old.contentType
           text := old.text
           fileId := old.fileId
           editDate := msg.editDate }] := by
      simp [snapshots, repeated, advanced]
    rw [taken] at edits
    refine ⟨⟨msg, by simp, rfl, rfl⟩, ?_, ?_, ?_⟩
    · change (after.editsOf old.id).map EditRow.body ++ [msg.body] = _
      have differs : some old.body ≠ some msg.body := fun same => repeated (Option.some.inj same)
      rw [edits, List.map_append, List.map_append, List.map_singleton, List.map_singleton,
        destutter_snoc, lastBody, if_neg differs, ← log.contents]
      rfl
    · change ((after.editsOf old.id).map EditRow.editDate).Pairwise _
      rw [edits, List.map_append, List.map_singleton]
      refine List.pairwise_append.mpr ⟨log.dates, List.pairwise_singleton _ _, ?_⟩
      intro date member new single
      obtain ⟨edit, held, rfl⟩ := List.mem_map.mp member
      rw [List.mem_singleton.mp single]
      have bound := log.bounded edit held
      change edit.editDate < msg.editDate
      omega
    · change ∀ edit ∈ after.editsOf old.id, edit.editDate ≤ msg.editDate
      rw [edits]
      intro edit member
      rcases List.mem_append.mp member with held | new
      · have bound := log.bounded edit held
        omega
      · simp [List.mem_singleton.mp new]

/-- One operation keeps every log. -/
theorem exactLog_step (ops : List (MessageOp Sender)) (op : MessageOp Sender)
    (tables : MessageTables Sender) (log : ExactLog tables ops)
    (dated : WellDated (ops ++ [op])) (live : DeletesLive tables op) :
    ExactLog (messageStep tables op) (ops ++ [op]) := by
  constructor
  · intro key missing
    rcases upsertsTo_single key op with ⟨msg, rfl, content, rfl⟩ | quiet
    · cases found : tables.lookup msg.key with
      | none => simp [(content_absent tables msg content found).1] at missing
      | some old => simp [(content_held tables msg old content found).1] at missing
    · cases found : tables.lookup key with
      | none => rw [upsertsTo_append, log.absent key found, quiet, List.append_nil]
      | some old =>
          obtain ⟨row, held, _⟩ := quiet_held tables op key old quiet live found
          simp [held] at missing
  · intro key row held
    rcases upsertsTo_single key op with ⟨msg, rfl, content, rfl⟩ | quiet
    · rw [upsertsTo_append, upsertsTo_content msg content]
      cases found : tables.lookup msg.key with
      | none =>
          obtain ⟨fresh, noEdits⟩ := content_absent tables msg content found
          rw [fresh] at held
          rw [log.absent msg.key found, List.nil_append, ← Option.some.inj held]
          exact log_opened tables _ msg noEdits
      | some old =>
          obtain ⟨overwritten, edits⟩ := content_held tables msg old content found
          rw [overwritten] at held
          have chain := dated msg.key
          rw [upsertsTo_append, upsertsTo_content msg content] at chain
          rw [← Option.some.inj held]
          exact log_extended tables _ _ msg old (log.stored msg.key old found) chain edits
    · rw [upsertsTo_append, quiet, List.append_nil]
      cases found : tables.lookup key with
      | none => simp [quiet_absent tables op key quiet found] at held
      | some old =>
          obtain ⟨next, nextHeld, sameId, sameBody, sameDate, sameEdits⟩ :=
            quiet_held tables op key old quiet live found
          rw [nextHeld] at held
          rw [← Option.some.inj held]
          have kept := log.stored key old found
          refine ⟨?_, ?_, ?_, ?_⟩
          · rw [sameBody, sameDate]
            exact kept.latest
          · rw [sameId, sameEdits, sameBody]
            exact kept.contents
          · rw [sameId, sameEdits]
            exact kept.dates
          · rw [sameId, sameEdits, sameDate]
            exact kept.bounded

theorem wellDated_earlier (before after : List (MessageOp Sender))
    (dated : WellDated (before ++ after)) : WellDated before := by
  intro key
  have chain := dated key
  rw [upsertsTo_append] at chain
  exact (List.isChain_append.mp chain).1

/-- Every run of well dated upserts and first deletions keeps the exact log. -/
theorem exactLog_run (ops : List (MessageOp Sender)) (dated : WellDated ops)
    (live : EveryStep messageStep MessageTables.empty DeletesLive ops) :
    ExactLog (messageStore ops) ops := by
  induction ops using List.reverseRecOn with
  | nil =>
      constructor
      · intro key _
        rfl
      · intro key row held
        change MessageTables.empty.lookup key = some row at held
        simp [MessageTables.empty, MessageTables.lookup, AutoTable.empty] at held
  | append_singleton ops op ih =>
      rw [everyStep_snoc] at live
      rw [messageStore_snoc]
      exact exactLog_step ops op _ (ih (wellDated_earlier ops [op] dated) live.1) dated live.2

/-- What a run shows of its edits table: rows already there stay, and each new
row is a copy of the message row of that moment, its file included. -/
def SnapshotsFaithful (step : MessageTables Sender → MessageOp Sender → MessageTables Sender)
    (ops : List (MessageOp Sender)) : Prop :=
  ∀ before op after, ops = before ++ op :: after →
    let tables := run step MessageTables.empty before
    ∃ fresh, (step tables op).edits = tables.edits ++ fresh ∧
      ∀ edit ∈ fresh, ∃ row ∈ tables.messages.rows, row.id = edit.messageRowId ∧
        edit.fileId = row.fileId ∧ edit.body = row.body

theorem snapshots_faithful (ops : List (MessageOp Sender)) :
    SnapshotsFaithful messageStep ops := by
  intro before op after _
  refine ⟨appended _ op, edits_step _ op, ?_⟩
  intro edit member
  obtain ⟨msg, old, _, found, rfl, _⟩ := mem_appended _ op edit member
  exact ⟨old, ((Table.lookup_some_iff _ _ _).mp found).1, rfl, rfl, rfl⟩

end

/-- The edits tables are exact content logs, for private and group messages. -/
theorem edits_are_exact_log :
    (∀ ops : List (MessageOp PrivateSender), WellDated ops →
      EveryStep privateStep MessageTables.empty DeletesLive ops →
      ExactLog (privateStore ops) ops ∧ SnapshotsFaithful privateStep ops) ∧
    (∀ ops : List (MessageOp GroupSender), WellDated ops →
      EveryStep groupStep MessageTables.empty DeletesLive ops →
      ExactLog (groupStore ops) ops ∧ SnapshotsFaithful groupStep ops) := by
  rw [privateStep_eq, groupStep_eq]
  constructor
  · intro ops dated live
    rw [privateStore_eq]
    exact ⟨exactLog_run ops dated live, snapshots_faithful ops⟩
  · intro ops dated live
    rw [groupStore_eq]
    exact ⟨exactLog_run ops dated live, snapshots_faithful ops⟩

/-- A note that is linked to a file and then edited. -/
theorem exact_log_of_edited_note :
    let note : PrivateMessage :=
      { chatId := 5, messageId := 7, sender := ⟨some 5⟩, editDate := 10
        content := { contentType := .text, text := some "one" } }
    let edited : PrivateMessage :=
      { note with editDate := 20, content := { contentType := .text, text := some "two" } }
    let ops : List (MessageOp PrivateSender) := [.upsert note, .setFile 5 7 3, .upsert edited]
    ExactLog (privateStore ops) ops ∧ SnapshotsFaithful privateStep ops := by
  intro note edited ops
  have dated : WellDated ops := by
    intro key
    by_cases same : ((5, 7) : Int × Int) = key
    · have upserts : upsertsTo key ops = [note, edited] := by
        subst same
        rfl
      rw [upserts]
      exact List.isChain_pair.mpr (by simp [Later, note, edited])
    · have upserts : upsertsTo key ops = [] := by
        simp [upsertsTo, ops, note, edited, Message.key, same]
      rw [upserts]
      exact List.isChain_nil
  have live : EveryStep privateStep MessageTables.empty DeletesLive ops := by
    intro before op after split msg old same deleted _
    have member : op ∈ ops := by simp [split]
    subst same
    simp only [ops, List.mem_cons, MessageOp.upsert.injEq, reduceCtorEq, List.not_mem_nil,
      or_false, false_or] at member
    rcases member with rfl | rfl <;> simp [note, edited] at deleted
  exact edits_are_exact_log.1 ops dated live

end TgLoggerd

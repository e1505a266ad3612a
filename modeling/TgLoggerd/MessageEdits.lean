import Mathlib.Data.List.Chain
import TgLoggerd.Journal
import TgLoggerd.MessageRun

/-!
The edit history. An upsert that finds a row overwrites its content without
condition; the snapshot before it is taken only when edit_date advanced and
content type or text differ. The two agree on well dated histories, where the
edits table and the live row together spell out every content a message had.
-/

namespace TgLoggerd

open KeyedTable SerialRun Journal

section

variable {Sender : Type}

/-- What one overwrite of a stored row does to its content and to the edits
table, for every relation between the two edit dates. -/
theorem edits_overwrite (tables : MessageTables Sender) (msg : Message Sender)
    (old : MessageRow Sender) (content : msg.isDeleted = false)
    (found : tables.lookup msg.key = some old) :
    (upsertMessage tables msg).lookup msg.key = some (overwrite msg old) ∧
      (upsertMessage tables msg).edits = tables.edits ++ snapshots old msg := by
  constructor
  · rw [lookup_upsert]
    simp [found, rewrite, content]
  · rw [edits_upsert]
    simp [found, content]

/-- Content that an advancing upsert replaces is kept, and nothing else is
appended. -/
theorem snapshot_law (tables : MessageTables Sender) (msg : Message Sender)
    (old new : MessageRow Sender) (content : msg.isDeleted = false)
    (found : tables.lookup msg.key = some old)
    (after : (upsertMessage tables msg).lookup msg.key = some new) :
    (upsertMessage tables msg).edits = tables.edits ++
      if old.editDate < msg.editDate ∧ new.body ≠ old.body then
        [{ messageRowId := old.id
           contentType := old.contentType
           text := old.text
           fileId := old.fileId
           editDate := msg.editDate }]
      else [] := by
  obtain ⟨row, edits⟩ := edits_overwrite tables msg old content found
  rw [row] at after
  have body : new.body = msg.body := by
    rw [← Option.some.inj after]
    rfl
  rw [edits, snapshots, body]
  by_cases changed : old.editDate < msg.editDate ∧ old.body ≠ msg.body
  · rw [if_pos changed, if_pos ⟨changed.1, Ne.symm changed.2⟩]
  · rw [if_neg changed, if_neg]
    intro other
    exact changed ⟨other.1, Ne.symm other.2⟩

end

/-- Both upserts: a changed content_type or text under an advanced edit_date
puts the old content, text and file into the edits table in the same
transaction; without an advanced edit_date nothing is appended. -/
theorem advanced_edit_leaves_snapshot :
    (∀ (tables : PrivateTables) (msg : PrivateMessage) (old new : MessageRow PrivateSender),
      msg.isDeleted = false → tables.lookup msg.key = some old →
      (upsertPrivateMessage tables msg).lookup msg.key = some new →
      (upsertPrivateMessage tables msg).edits = tables.edits ++
        if old.editDate < msg.editDate ∧ new.body ≠ old.body then
          [{ messageRowId := old.id
             contentType := old.contentType
             text := old.text
             fileId := old.fileId
             editDate := msg.editDate }]
        else []) ∧
    (∀ (tables : GroupTables) (msg : GroupMessage) (old new : MessageRow GroupSender),
      msg.isDeleted = false → tables.lookup msg.key = some old →
      (upsertGroupMessage tables msg).lookup msg.key = some new →
      (upsertGroupMessage tables msg).edits = tables.edits ++
        if old.editDate < msg.editDate ∧ new.body ≠ old.body then
          [{ messageRowId := old.id
             contentType := old.contentType
             text := old.text
             fileId := old.fileId
             editDate := msg.editDate }]
        else []) :=
  ⟨snapshot_law, snapshot_law⟩

/-- An edit under a later date leaves the text it replaces. -/
theorem dated_edit_recorded :
    let sent : PrivateMessage :=
      { chatId := 5, messageId := 7, sender := ⟨some 5⟩, editDate := 10
        content := { contentType := .text, text := some "first" } }
    let edited : PrivateMessage :=
      { sent with editDate := 11, content := { contentType := .text, text := some "second" } }
    let stored := privateStore [.upsert sent]
    (upsertPrivateMessage stored edited).edits =
      [{ messageRowId := 1, contentType := .text, text := some "first", fileId := none
         editDate := 11 }] := by
  intro sent edited stored
  exact advanced_edit_leaves_snapshot.1 stored edited (newRow sent 1)
    { newRow edited 1 with id := 1 } rfl (by decide) (by decide)

/-- Two edits within one second: the second overwrites the first unseen. -/
theorem same_second_edit_unrecorded :
    let sent : PrivateMessage :=
      { chatId := 5, messageId := 7, sender := ⟨some 5⟩, editDate := 10
        content := { contentType := .text, text := some "first" } }
    let edited : PrivateMessage :=
      { sent with content := { contentType := .text, text := some "second" } }
    let stored := privateStore [.upsert sent]
    let after := upsertPrivateMessage stored edited
    (stored.lookup (5, 7)).map MessageRow.text = some (some "first") ∧
      (after.lookup (5, 7)).map MessageRow.text = some (some "second") ∧ after.edits = [] := by
  decide

section

variable {Sender : Type}

/-- An edit: a content upsert of a stored message that changes type or text. -/
def Edits (tables : MessageTables Sender) (op : MessageOp Sender) (key : Int × Int)
    (old : MessageRow Sender) : Prop :=
  ∃ msg, op = .upsert msg ∧ msg.isDeleted = false ∧ msg.key = key ∧
    tables.lookup key = some old ∧ old.body ≠ msg.body

/-- Every edit of a run carries a greater edit_date than the row it meets. -/
def EditsAdvance (tables : MessageTables Sender) (op : MessageOp Sender) : Prop :=
  ∀ msg old, op = .upsert msg → msg.isDeleted = false → tables.lookup msg.key = some old →
    old.body ≠ msg.body → old.editDate < msg.editDate

/-- The file a row held when an edit reached it stays in the edits table for
the rest of the run. -/
theorem edited_file_recorded (ops : List (MessageOp Sender))
    (advance : EveryStep messageStep MessageTables.empty EditsAdvance ops)
    (earlier between : List (MessageOp Sender)) (op : MessageOp Sender)
    (split : ops = earlier ++ op :: between) (key : Int × Int) (old : MessageRow Sender)
    (edit : Edits (messageStore earlier) op key old) :
    ∃ snapshot ∈ (messageStore ops).editsOf old.id,
      snapshot.fileId = old.fileId ∧ snapshot.body = old.body := by
  obtain ⟨msg, same, content, keyed, found, differs⟩ := edit
  subst same keyed
  have advanced := advance earlier (.upsert msg) between split msg old rfl content found differs
  have recorded := (edits_overwrite _ msg old content found).2
  simp only [snapshots, advanced, differs, ne_eq, not_false_eq_true, and_self, ↓reduceIte]
    at recorded
  have kept := edits_prefix (earlier ++ [.upsert msg]) between
  rw [messageStore_snoc, messageStep, recorded, List.append_assoc, List.singleton_append,
    ← split] at kept
  let snapshot : EditRow :=
    { messageRowId := old.id
      contentType := old.contentType
      text := old.text
      fileId := old.fileId
      editDate := msg.editDate }
  have member : snapshot ∈ (messageStore ops).edits := kept.subset (by simp [snapshot])
  exact ⟨snapshot, List.mem_filter.mpr ⟨member, by simp [snapshot]⟩, rfl, rfl⟩

/-- Whenever a link replaces the file of a row that was edited while it held
that file, the edits table has a snapshot with it. -/
def ReplacedFileKept (store : List (MessageOp Sender) → MessageTables Sender)
    (ops : List (MessageOp Sender)) : Prop :=
  ∀ before op after, ops = before ++ op :: after →
    ∀ key old new fileId, (store before).lookup key = some old → old.fileId = some fileId →
      (store (before ++ [op])).lookup key = some new → new.fileId ≠ some fileId →
      ∀ earlier edit between holder, before = earlier ++ edit :: between →
        Edits (store earlier) edit key holder → holder.fileId = some fileId →
        ∃ snapshot ∈ (store before).editsOf old.id, snapshot.fileId = some fileId

theorem replaced_file_kept (ops : List (MessageOp Sender))
    (advance : EveryStep messageStep MessageTables.empty EditsAdvance ops) :
    ReplacedFileKept messageStore ops := by
  intro before op after split key old new fileId found _ _ _ earlier edit between holder
    inside edited held
  subst split
  have advanced := (everyStep_append _ _ EditsAdvance before (op :: after) advance).1
  obtain ⟨snapshot, member, file, _⟩ :=
    edited_file_recorded before advanced earlier between edit inside key holder edited
  obtain ⟨msg, _, _, _, holderFound, _⟩ := edited
  obtain ⟨row, rowFound, sameId⟩ := lookup_persists earlier (edit :: between) key holder holderFound
  rw [← inside, found] at rowFound
  rw [← sameId, ← Option.some.inj rowFound] at member
  exact ⟨snapshot, member, file.trans held⟩

end

/-- Both tables: an attachment is recoverable when an edit of type or text
reached the row while it was attached. -/
theorem edited_attachment_recoverable :
    (∀ ops, EveryStep privateStep MessageTables.empty EditsAdvance ops →
      ReplacedFileKept privateStore ops) ∧
    (∀ ops, EveryStep groupStep MessageTables.empty EditsAdvance ops →
      ReplacedFileKept groupStore ops) := by
  have sameStore : privateStore = messageStore := funext privateStore_eq
  have sameGroupStore : groupStore = messageStore := funext groupStore_eq
  rw [privateStep_eq, groupStep_eq, sameStore, sameGroupStore]
  exact ⟨replaced_file_kept, replaced_file_kept⟩

/-- A photo that an edit turns into a text keeps file 1 in the edits table. -/
theorem retyped_photo_recoverable :
    let sent : PrivateMessage :=
      { chatId := 5, messageId := 7, sender := ⟨some 5⟩, date := 100
        content := { contentType := .photo } }
    let edited : PrivateMessage :=
      { sent with editDate := 120, content := { contentType := .video } }
    ReplacedFileKept privateStore
      [.upsert sent, .setFile 5 7 1, .upsert edited, .setFile 5 7 2] := by
  intro sent edited
  apply edited_attachment_recoverable.1
  have unstored : EditsAdvance (MessageTables.empty : PrivateTables) (.upsert sent) := by
    intro msg old same _ found _
    cases same
    cases found
  have advances : EditsAdvance (privateStore [.upsert sent, .setFile 5 7 1]) (.upsert edited) := by
    intro msg old same _ found _
    cases same
    have date : ((privateStore [.upsert sent, .setFile 5 7 1]).lookup edited.key).map
        MessageRow.editDate = some 0 := by decide
    rw [found] at date
    simp only [Option.map_some, Option.some.injEq] at date
    simp [date, edited]
  have links (tables : PrivateTables) (fileId : Nat) :
      EditsAdvance tables (.setFile 5 7 fileId) := by
    intro msg old same
    cases same
  intro before op after split
  rcases before with _ | ⟨first, _ | ⟨second, _ | ⟨third, rest⟩⟩⟩
  · simp only [List.nil_append, List.cons.injEq] at split
    exact split.1 ▸ unstored
  · simp only [List.cons_append, List.nil_append, List.cons.injEq] at split
    exact split.2.1 ▸ links _ 1
  · simp only [List.cons_append, List.nil_append, List.cons.injEq] at split
    obtain ⟨rfl, rfl, rfl, _⟩ := split
    exact advances
  · simp only [List.cons_append, List.cons.injEq] at split
    obtain ⟨_, _, _, split⟩ := split
    rcases rest with _ | ⟨fourth, rest⟩
    · simp only [List.nil_append, List.cons.injEq] at split
      exact split.1 ▸ links _ 2
    · simp at split

/-- A photo replaced by a photo under the same caption: file 1 is gone. -/
theorem swapped_photo_unrecorded :
    let sent : PrivateMessage :=
      { chatId := 5, messageId := 7, sender := ⟨some 5⟩, date := 100
        content := { contentType := .photo } }
    let ops : List (MessageOp PrivateSender) :=
      [.upsert sent, .setFile 5 7 1, .upsert { sent with editDate := 120 }]
    ((privateStore ops).lookup (5, 7)).map (fun row => (row.editDate, row.fileId)) =
        some (120, some 1) ∧
      ((privateStore (ops ++ [.setFile 5 7 2])).lookup (5, 7)).map MessageRow.fileId =
        some (some 2) ∧
      (privateStore (ops ++ [.setFile 5 7 2])).edits = [] := by
  decide

end TgLoggerd

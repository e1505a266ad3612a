import TgLoggerd.MessageRun

/-!
Deletions. `upsertMessage` serves inserts, edits and deletions alike. On a live
row a deletion sets the flag and nothing else. On a row flagged before, the
guard `msg.is_deleted && !old_deleted` fails, and the deletion falls through to
the content overwrite, which writes its default columns over the stored
message. Below, the frame a deletion should keep is compared with that.
-/

namespace TgLoggerd

open KeyedTable SerialRun

section

variable {Sender : Type}

/-- A row with the is_deleted column of one message struck out. -/
def maskDeleted (key : Int × Int) (row : MessageRow Sender) : MessageRow Sender :=
  if row.key = key then { row with isDeleted := false } else row

/-- At most the is_deleted column of `key`'s row tells the two states apart. -/
def DeletionFrame (key : Int × Int) (before after : MessageTables Sender) : Prop :=
  after.messages.rows.map (maskDeleted key) = before.messages.rows.map (maskDeleted key) ∧
    after.edits = before.edits ∧ after.fwdInfo.rows = before.fwdInfo.rows

instance [DecidableEq Sender] (key : Int × Int) (before after : MessageTables Sender) :
    Decidable (DeletionFrame key before after) :=
  inferInstanceAs (Decidable (_ ∧ _ ∧ _))

/-- The rows of the three tables. -/
def contents (tables : MessageTables Sender) :
    List (MessageRow Sender) × List EditRow × List FwdRow :=
  (tables.messages.rows, tables.edits, tables.fwdInfo.rows)

variable [Inhabited Sender]

/-- The columns a content overwrite writes all have their default value. -/
def Blank (row : MessageRow Sender) : Prop :=
  row.sender = default ∧ row.isOutgoing = false ∧ row.date = 0 ∧ row.editDate = 0 ∧
    row.contentType = .unknown ∧ row.text = none ∧ row.isForwarded = false

def deleteTimes (upsert : MessageTables Sender → Message Sender → MessageTables Sender)
    (chatId messageId : Int) : Nat → MessageTables Sender → MessageTables Sender
  | 0, tables => tables
  | count + 1, tables =>
      upsert (deleteTimes upsert chatId messageId count tables)
        (Message.deletion Sender chatId messageId)

/-- Any positive number of deletions of one message gives what one gives. -/
def RepeatsAsOne (upsert : MessageTables Sender → Message Sender → MessageTables Sender)
    (tables : MessageTables Sender) (chatId messageId : Int) : Prop :=
  ∀ count, 1 ≤ count → contents (deleteTimes upsert chatId messageId count tables) =
    contents (deleteTimes upsert chatId messageId 1 tables)

/-- The law of deletions at one state: one deletion changes nothing but the
flag, and further deletions of the message change nothing at all. -/
def DeletionLaw (upsert : MessageTables Sender → Message Sender → MessageTables Sender)
    (tables : MessageTables Sender) (chatId messageId : Int) : Prop :=
  DeletionFrame (chatId, messageId) tables
      (upsert tables (Message.deletion Sender chatId messageId)) ∧
    RepeatsAsOne upsert tables chatId messageId

variable (tables : MessageTables Sender) (chatId messageId : Int)

theorem overwrite_eq_flag_iff (old : MessageRow Sender) :
    overwrite (Message.deletion Sender chatId messageId) old = { old with isDeleted := true } ↔
      Blank old := by
  constructor
  · intro same
    exact ⟨(congrArg MessageRow.sender same).symm, (congrArg MessageRow.isOutgoing same).symm,
      (congrArg MessageRow.date same).symm, (congrArg MessageRow.editDate same).symm,
      (congrArg MessageRow.contentType same).symm, (congrArg MessageRow.text same).symm,
      (congrArg MessageRow.isForwarded same).symm⟩
  · rintro ⟨sender, outgoing, dated, edited, typed, worded, forwarded⟩
    simp [overwrite, Message.deletion, sender, outgoing, dated, edited, typed, worded, forwarded]

theorem overwrite_blank (old : MessageRow Sender) :
    Blank (overwrite (Message.deletion Sender chatId messageId) old) :=
  ⟨rfl, rfl, rfl, rfl, rfl, rfl, rfl⟩

theorem snapshots_of_blank (old : MessageRow Sender) (blank : Blank old) :
    snapshots old (Message.deletion Sender chatId messageId) = [] := by
  have dated : old.editDate = 0 := blank.2.2.2.1
  simp [snapshots, dated, Message.deletion]

theorem deletion_fwdInfo :
    (upsertMessage tables (Message.deletion Sender chatId messageId)).fwdInfo.rows =
      tables.fwdInfo.rows := by
  rw [fwdInfo_upsert]
  cases tables.lookup (Message.deletion Sender chatId messageId).key <;>
    simp [Message.deletion, recordForward]

theorem deletion_absent (absent : tables.lookup (chatId, messageId) = none) :
    upsertMessage tables (Message.deletion Sender chatId messageId) = tables := by
  simp [upsertMessage, absent]

theorem rows_deletion (old : MessageRow Sender)
    (found : tables.lookup (chatId, messageId) = some old) :
    (upsertMessage tables (Message.deletion Sender chatId messageId)).messages.rows =
      tables.messages.rows.map fun row =>
        if row.key = (chatId, messageId) then
          rewrite (Message.deletion Sender chatId messageId) row
        else row :=
  rows_upsert_held tables (Message.deletion Sender chatId messageId) old found

theorem edits_deletion (old : MessageRow Sender)
    (found : tables.lookup (chatId, messageId) = some old) :
    (upsertMessage tables (Message.deletion Sender chatId messageId)).edits = tables.edits ++
      if old.isDeleted then snapshots old (Message.deletion Sender chatId messageId) else [] := by
  rw [edits_upsert]
  cases flag : old.isDeleted <;> simp [found, flag]

omit [Inhabited Sender] in
/-- Equal rows are found under equal keys. -/
theorem lookup_of_contents (left right : MessageTables Sender)
    (same : contents left = contents right) (key : Int × Int) :
    left.lookup key = right.lookup key := by
  have rows := congrArg Prod.fst same
  exact congrArg (fun list : List (MessageRow Sender) => list.find? fun row => row.key = key) rows

omit [Inhabited Sender] in
theorem frame_of_contents (key : Int × Int) (before after : MessageTables Sender)
    (same : contents after = contents before) : DeletionFrame key before after := by
  have rows := congrArg Prod.fst same
  have others := Prod.mk.inj (congrArg Prod.snd same)
  exact ⟨congrArg (List.map (maskDeleted key)) rows, others.1, others.2⟩

omit [Inhabited Sender] in
/-- A change of one row that only touches its flag keeps the frame's rows. -/
theorem masked_rows (old : MessageRow Sender)
    (found : tables.lookup (chatId, messageId) = some old)
    (change : MessageRow Sender → MessageRow Sender)
    (flagOnly : change old = { old with isDeleted := true }) :
    (tables.messages.rows.map fun row =>
        if row.key = (chatId, messageId) then change row else row).map
          (maskDeleted (chatId, messageId)) =
      tables.messages.rows.map (maskDeleted (chatId, messageId)) := by
  have held := (Table.lookup_some_iff _ _ _).mp found
  rw [List.map_map]
  apply List.map_congr_left
  intro row member
  by_cases same : row.key = (chatId, messageId)
  · have whole := tables.messages.same_key_same_row row old member held.1
      (same.trans held.2.symm)
    subst whole
    have sameFlagged : ({ row with isDeleted := true } : MessageRow Sender).key =
        (chatId, messageId) := same
    simp [maskDeleted, same, flagOnly, sameFlagged]
  · simp [maskDeleted, same]

/-- On a live row the flag is all a deletion touches. -/
theorem deletion_frame_live (old : MessageRow Sender)
    (found : tables.lookup (chatId, messageId) = some old) (live : old.isDeleted = false) :
    DeletionFrame (chatId, messageId) tables
      (upsertMessage tables (Message.deletion Sender chatId messageId)) := by
  refine ⟨?_, ?_, deletion_fwdInfo tables chatId messageId⟩
  · rw [rows_deletion tables chatId messageId old found]
    apply masked_rows tables chatId messageId old found
    simp [rewrite, live]
  · rw [edits_deletion tables chatId messageId old found]
    simp [live]

theorem rewrite_flagged (old : MessageRow Sender) (flagged : old.isDeleted = true) :
    rewrite (Message.deletion Sender chatId messageId) old =
      overwrite (Message.deletion Sender chatId messageId) old := by
  simp [rewrite, flagged]

/-- On a flagged row the deletion is an overwrite, invisible only when there is
nothing to lose. -/
theorem deletion_frame_flagged (old : MessageRow Sender)
    (found : tables.lookup (chatId, messageId) = some old) (flagged : old.isDeleted = true) :
    DeletionFrame (chatId, messageId) tables
      (upsertMessage tables (Message.deletion Sender chatId messageId)) ↔ Blank old := by
  have held := (Table.lookup_some_iff _ _ _).mp found
  have overwritten := rewrite_flagged chatId messageId old flagged
  constructor
  · intro frame
    have rows := frame.1
    rw [rows_deletion tables chatId messageId old found, List.map_map] at rows
    have masked := List.map_inj_left.mp rows old held.1
    have newKey : (overwrite (Message.deletion Sender chatId messageId) old).key =
        (chatId, messageId) := held.2
    simp only [Function.comp_apply, maskDeleted, held.2, ↓reduceIte, overwritten, newKey] at masked
    apply (overwrite_eq_flag_iff chatId messageId old).mp
    exact congrArg (fun row : MessageRow Sender => { row with isDeleted := true }) masked
  · intro blank
    refine ⟨?_, ?_, deletion_fwdInfo tables chatId messageId⟩
    · rw [rows_deletion tables chatId messageId old found]
      apply masked_rows tables chatId messageId old found
      rw [overwritten, (overwrite_eq_flag_iff chatId messageId old).mpr blank]
    · rw [edits_deletion tables chatId messageId old found]
      simp [snapshots_of_blank chatId messageId old blank]

theorem deletion_frame_iff :
    DeletionFrame (chatId, messageId) tables
        (upsertMessage tables (Message.deletion Sender chatId messageId)) ↔
      ∀ old, tables.lookup (chatId, messageId) = some old → old.isDeleted = true → Blank old := by
  cases found : tables.lookup (chatId, messageId) with
  | none =>
      rw [deletion_absent tables chatId messageId found]
      simp [DeletionFrame]
  | some old =>
      cases flag : old.isDeleted with
      | false =>
          have frame := deletion_frame_live tables chatId messageId old found flag
          simp [frame, flag]
      | true =>
          rw [deletion_frame_flagged tables chatId messageId old found flag]
          simp [flag]

/-- A state that further deletions of the message cannot change. -/
def Settled : Prop :=
  ∀ row, tables.lookup (chatId, messageId) = some row → row.isDeleted = true ∧ Blank row

theorem settled_deletion (settled : Settled tables chatId messageId) :
    contents (upsertMessage tables (Message.deletion Sender chatId messageId)) =
      contents tables := by
  cases found : tables.lookup (chatId, messageId) with
  | none => rw [deletion_absent tables chatId messageId found]
  | some old =>
      obtain ⟨flagged, blank⟩ := settled old found
      have held := (Table.lookup_some_iff _ _ _).mp found
      have unchanged : rewrite (Message.deletion Sender chatId messageId) old = old := by
        rw [rewrite_flagged chatId messageId old flagged,
          (overwrite_eq_flag_iff chatId messageId old).mpr blank, ← flagged]
      have rows : (upsertMessage tables (Message.deletion Sender chatId messageId)).messages.rows =
          tables.messages.rows := by
        rw [rows_deletion tables chatId messageId old found]
        apply (List.map_congr_left _).trans (List.map_id _)
        intro row member
        by_cases same : row.key = (chatId, messageId)
        · have whole := tables.messages.same_key_same_row row old member held.1
            (same.trans held.2.symm)
          simp [whole, held.2, unchanged]
        · simp [same]
      have edits := edits_deletion tables chatId messageId old found
      simp only [snapshots_of_blank chatId messageId old blank, ite_self, List.append_nil] at edits
      simp only [contents, rows, edits, deletion_fwdInfo]

/-- One deletion settles everything but a live row that still has content. -/
theorem settled_after_one :
    Settled (upsertMessage tables (Message.deletion Sender chatId messageId)) chatId messageId ↔
      ∀ old, tables.lookup (chatId, messageId) = some old → old.isDeleted = false → Blank old := by
  have after := lookup_upsert tables (Message.deletion Sender chatId messageId) (chatId, messageId)
  simp only [Message.key_deletion, ↓reduceIte, Message.isDeleted_deletion] at after
  cases found : tables.lookup (chatId, messageId) with
  | none =>
      rw [found] at after
      simp [Settled, after]
  | some old =>
      rw [found] at after
      simp only [Settled, after, Option.some.injEq, forall_eq']
      cases flag : old.isDeleted with
      | false => simp [rewrite, flag, Blank]
      | true =>
          rw [rewrite_flagged chatId messageId old flag]
          simp only [Bool.true_eq_false, false_implies, iff_true]
          exact ⟨rfl, overwrite_blank chatId messageId old⟩

theorem repeats_as_one_iff :
    RepeatsAsOne upsertMessage tables chatId messageId ↔
      ∀ old, tables.lookup (chatId, messageId) = some old → old.isDeleted = false → Blank old := by
  rw [← settled_after_one tables chatId messageId]
  constructor
  · intro repeats row found
    have flagged : row.isDeleted = true := by
      rw [lookup_upsert] at found
      cases before : tables.lookup (chatId, messageId) with
      | none => simp [before] at found
      | some old =>
          simp only [Message.key_deletion, ↓reduceIte, before, Option.some.injEq] at found
          rw [← found, rewrite]
          split <;> rfl
    -- The second deletion already is the overwrite, so two tell everything.
    have twice := repeats 2 (by omega)
    have frame := frame_of_contents (chatId, messageId) _ _ twice
    exact ⟨flagged, (deletion_frame_iff _ chatId messageId).mp frame row found flagged⟩
  · intro settled count positive
    obtain ⟨more, rfl⟩ := Nat.exists_eq_add_of_le' positive
    clear positive
    -- Once settled, each further deletion changes nothing.
    induction more with
    | zero => rfl
    | succ more ih =>
        have stays : Settled (deleteTimes upsertMessage chatId messageId (more + 1) tables)
            chatId messageId := by
          intro row found
          rw [lookup_of_contents _ _ ih] at found
          exact settled row found
        exact (settled_deletion _ chatId messageId stays).trans ih

/-- The law holds exactly where no content is stored for the message. -/
theorem deletion_law_iff :
    DeletionLaw upsertMessage tables chatId messageId ↔
      ∀ old, tables.lookup (chatId, messageId) = some old → Blank old := by
  rw [DeletionLaw, deletion_frame_iff, repeats_as_one_iff]
  constructor
  · rintro ⟨flagged, live⟩ old found
    cases flag : old.isDeleted with
    | false => exact live old found flag
    | true => exact flagged old found flag
  · intro blank
    exact ⟨fun old found _ => blank old found, fun old found _ => blank old found⟩

end

/-- For either table pair and every state: the frame of one deletion, the
equality of repeated deletions with one, and the law made of both, each with
its exact condition on the stored row. -/
theorem deletion_law_exact (privates : PrivateTables) (groups : GroupTables)
    (chatId messageId : Int) :
    ((DeletionLaw upsertPrivateMessage privates chatId messageId ↔
        ∀ old, privates.lookup (chatId, messageId) = some old → Blank old) ∧
      (DeletionFrame (chatId, messageId) privates
          (upsertPrivateMessage privates (Message.deletion PrivateSender chatId messageId)) ↔
        ∀ old, privates.lookup (chatId, messageId) = some old →
          old.isDeleted = true → Blank old) ∧
      (RepeatsAsOne upsertPrivateMessage privates chatId messageId ↔
        ∀ old, privates.lookup (chatId, messageId) = some old →
          old.isDeleted = false → Blank old)) ∧
    ((DeletionLaw upsertGroupMessage groups chatId messageId ↔
        ∀ old, groups.lookup (chatId, messageId) = some old → Blank old) ∧
      (DeletionFrame (chatId, messageId) groups
          (upsertGroupMessage groups (Message.deletion GroupSender chatId messageId)) ↔
        ∀ old, groups.lookup (chatId, messageId) = some old → old.isDeleted = true → Blank old) ∧
      (RepeatsAsOne upsertGroupMessage groups chatId messageId ↔
        ∀ old, groups.lookup (chatId, messageId) = some old →
          old.isDeleted = false → Blank old)) := by
  constructor
  · exact ⟨deletion_law_iff privates chatId messageId,
      deletion_frame_iff privates chatId messageId, repeats_as_one_iff privates chatId messageId⟩
  · exact ⟨deletion_law_iff groups chatId messageId, deletion_frame_iff groups chatId messageId,
      repeats_as_one_iff groups chatId messageId⟩

/-- A stored text message deleted twice loses date and text. -/
theorem second_deletion_breaks_frame :
    let live : PrivateMessage :=
      { chatId := 5, messageId := 7, sender := ⟨some 5⟩, date := 100
        content := { contentType := .text, text := some "hi" } }
    let flagged := privateStore [.upsert live, .upsert (Message.deletion PrivateSender 5 7)]
    ¬ DeletionFrame (5, 7) flagged
        (upsertPrivateMessage flagged (Message.deletion PrivateSender 5 7)) ∧
      contents (deleteTimes upsertPrivateMessage 5 7 2 (privateStore [.upsert live])) ≠
        contents (deleteTimes upsertPrivateMessage 5 7 1 (privateStore [.upsert live])) := by
  decide

end TgLoggerd

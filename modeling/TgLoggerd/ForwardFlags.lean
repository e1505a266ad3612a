import TgLoggerd.MessageRun

/-!
The denormalised is_forwarded column. Every full upsert writes it from the
forward_info the model carries, while the fwd_info row is written once and never
removed. A deletion carries no forward_info, so one that finds the row flagged
already, and therefore overwrites it, resets the column and leaves the fwd_info
row behind.
-/

namespace TgLoggerd

open KeyedTable SerialRun

section

variable {Sender : Type}

/-- The fwd_info rows that reference one message row. -/
def MessageTables.forwardsOf (tables : MessageTables Sender) (rowId : Nat) : List FwdRow :=
  tables.fwdInfo.rows.filter fun fwd => fwd.messageRowId = rowId

/-- A message row is marked forwarded if exactly one fwd_info row references it,
and otherwise none does; what is recorded is the origin of the message. -/
def ForwardAgrees (forwardOf : Int × Int → Option ForwardInfo) (tables : MessageTables Sender) :
    Prop :=
  ∀ row ∈ tables.messages.rows,
    (tables.forwardsOf row.id).length = (if row.isForwarded then 1 else 0) ∧
      ∀ fwd ∈ tables.forwardsOf row.id, forwardOf row.key = some fwd.info

/-- All upserts of one message that are no deletions carry one forward_info. -/
def CarriesForward (forwardOf : Int × Int → Option ForwardInfo) : MessageOp Sender → Prop
  | .upsert msg => msg.forwardInfo = if msg.isDeleted then none else forwardOf msg.key
  | .setFile .. => True
  | .setReply .. => True

/-- Flag and forward rows agree in every state of the run, and a fwd_info row
stays as it was written. -/
structure ForwardsRecorded (store : List (MessageOp Sender) → MessageTables Sender)
    (forwardOf : Int × Int → Option ForwardInfo) (ops : List (MessageOp Sender)) : Prop where
  agrees : ∀ before after, ops = before ++ after → ForwardAgrees forwardOf (store before)
  kept : ∀ before after, ops = before ++ after →
    (store before).fwdInfo.rows <+: (store ops).fwdInfo.rows

/-- A deletion does not find a forwarded message that is flagged already. -/
def SparesForwarded (tables : MessageTables Sender) : MessageOp Sender → Prop
  | .upsert msg => msg.isDeleted = true → ∀ old, tables.lookup msg.key = some old →
      old.isDeleted = true → old.isForwarded = false
  | .setFile .. => True
  | .setReply .. => True

theorem forwardsOf_eq (tables : MessageTables Sender) (rowId : Nat) :
    tables.forwardsOf rowId = (tables.fwdInfo.lookup rowId).toList := by
  have emitted := tables.fwdInfo.filter_emitted some FwdRow.messageRowId
    (by rintro row out ⟨⟩; rfl) rowId
  simpa [MessageTables.forwardsOf] using emitted

/-- What the law says of one message row and the fwd_info row found for it. -/
def RowAgrees (info : Option ForwardInfo) (row : MessageRow Sender) (found : Option FwdRow) :
    Prop :=
  row.isForwarded = found.isSome ∧ ∀ fwd, found = some fwd → info = some fwd.info

theorem forwardAgrees_iff (forwardOf : Int × Int → Option ForwardInfo)
    (tables : MessageTables Sender) :
    ForwardAgrees forwardOf tables ↔
      ∀ key row, tables.lookup key = some row →
        RowAgrees (forwardOf key) row (tables.fwdInfo.lookup row.id) := by
  have each (row : MessageRow Sender) :
      ((tables.forwardsOf row.id).length = (if row.isForwarded then 1 else 0) ∧
        ∀ fwd ∈ tables.forwardsOf row.id, forwardOf row.key = some fwd.info) ↔
      RowAgrees (forwardOf row.key) row (tables.fwdInfo.lookup row.id) := by
    rw [forwardsOf_eq, RowAgrees]
    cases tables.fwdInfo.lookup row.id <;> cases row.isForwarded <;> simp
  constructor
  · intro agrees key row found
    obtain ⟨member, same⟩ := (Table.lookup_some_iff _ _ _).mp found
    exact same ▸ (each row).mp (agrees row member)
  · intro agrees row member
    exact (each row).mpr (agrees row.key row ((Table.lookup_some_iff _ _ _).mpr ⟨member, rfl⟩))

/-- The fwd_info row of one number after recording `info` for another. -/
theorem lookup_recordForward (before after : Table FwdRow.messageRowId) (rowId : Nat)
    (info : Option ForwardInfo) (rows : after.rows = recordForward before rowId info)
    (wanted : Nat) :
    after.lookup wanted =
      if rowId = wanted then (before.lookup wanted).or (info.map fun info => ⟨rowId, info⟩)
      else before.lookup wanted := by
  rw [Table.lookup, rows]
  cases info with
  | none => simp [recordForward, Table.lookup]
  | some info =>
      simp only [recordForward]
      split
      · next held =>
        split
        · next same =>
          subst same
          obtain ⟨row, found⟩ := Option.isSome_iff_exists.mp held
          rw [found]
          exact found
        · rfl
      · next absent =>
        rw [List.find?_append]
        split
        · next same =>
          subst same
          simp [Table.lookup]
        · next other => simp [Table.lookup, other]

theorem fwdInfo_appends (tables : MessageTables Sender) (op : MessageOp Sender) :
    tables.fwdInfo.rows <+: (messageStep tables op).fwdInfo.rows := by
  have recorded (rowId : Nat) (info : Option ForwardInfo) :
      tables.fwdInfo.rows <+: recordForward tables.fwdInfo rowId info := by
    cases info with
    | none => exact List.prefix_rfl
    | some info =>
        simp only [recordForward]
        split
        · exact List.prefix_rfl
        · exact List.prefix_append _ _
  cases op with
  | upsert msg =>
      rw [messageStep, fwdInfo_upsert]
      split
      · split
        · exact List.prefix_rfl
        · exact recorded _ _
      · split
        · exact List.prefix_rfl
        · exact recorded _ _
  | setFile chatId messageId fileId => exact List.prefix_rfl
  | setReply chatId messageId replyToChatId replyToMessageId => exact List.prefix_rfl

theorem fwdInfo_run (before after : List (MessageOp Sender)) :
    (messageStore before).fwdInfo.rows <+: (messageStore (before ++ after)).fwdInfo.rows := by
  induction after using List.reverseRecOn with
  | nil => simp
  | append_singleton after op ih =>
      rw [← List.append_assoc, messageStore_snoc]
      exact ih.trans (fwdInfo_appends _ op)

/-- No fwd_info row waits for a message row that is still to come. -/
theorem next_unreferenced (tables : MessageTables Sender) :
    tables.fwdInfo.lookup tables.messages.next = none := by
  rw [← Option.not_isSome_iff_eq_none, Table.lookup_isSome_iff]
  intro member
  obtain ⟨fwd, held, same⟩ := List.mem_map.mp member
  obtain ⟨row, stored, number⟩ := tables.fwdHeld fwd held
  have below := tables.messages.below row stored
  omega

/-- Rows of different keys have different numbers. -/
theorem id_ne_of_key_ne (tables : MessageTables Sender) (left right : Int × Int)
    (first second : MessageRow Sender) (firstFound : tables.lookup left = some first)
    (secondFound : tables.lookup right = some second) (apart : left ≠ right) :
    first.id ≠ second.id := by
  intro same
  have firstHeld := (Table.lookup_some_iff _ _ _).mp firstFound
  have key := (id_eq_iff_key_eq tables right second first secondFound firstHeld.1).mp same
  exact apart (firstHeld.2.symm.trans key)

section

variable (forwardOf : Int × Int → Option ForwardInfo) (tables : MessageTables Sender)

/-- The insert of a message that was not stored. -/
theorem agrees_insert (msg : Message Sender) (absent : tables.lookup msg.key = none)
    (carries : CarriesForward forwardOf (.upsert msg)) (agrees : ForwardAgrees forwardOf tables) :
    ForwardAgrees forwardOf (upsertMessage tables msg) := by
  have rows := fwdInfo_upsert tables msg
  simp only [CarriesForward] at carries
  rw [forwardAgrees_iff] at agrees ⊢
  intro key row found
  rw [lookup_upsert] at found
  simp only [absent] at rows
  cases deleted : msg.isDeleted with
  | true =>
      simp only [deleted, ↓reduceIte] at rows found
      have same := Table.table_ext (upsertMessage tables msg).fwdInfo tables.fwdInfo rows
      rw [same]
      apply agrees key row
      by_cases own : msg.key = key
      · subst own
        simp [absent] at found
      · simpa [own] using found
  | false =>
      simp only [deleted, Bool.false_eq_true, ↓reduceIte] at rows found carries
      rw [lookup_recordForward _ _ _ _ rows]
      by_cases own : msg.key = key
      · subst own
        simp only [↓reduceIte, absent, Option.some.injEq] at found
        subst found
        simp only [newRow, ↓reduceIte, next_unreferenced, Option.none_or, carries]
        cases forwardOf msg.key <;> simp [RowAgrees]
      · simp only [own, ↓reduceIte] at found
        have stored := ((Table.lookup_some_iff _ _ _).mp found).1
        have below := tables.messages.below row stored
        rw [if_neg (by omega)]
        exact agrees key row found

/-- An upsert of a stored message keeps the law exactly if it spares it. -/
theorem agrees_overwrite (msg : Message Sender) (old : MessageRow Sender)
    (stored : tables.lookup msg.key = some old)
    (carries : CarriesForward forwardOf (.upsert msg)) (agrees : ForwardAgrees forwardOf tables) :
    ForwardAgrees forwardOf (upsertMessage tables msg) ↔
      (msg.isDeleted = true → old.isDeleted = true → old.isForwarded = false) := by
  have rows := fwdInfo_upsert tables msg
  have lookup := lookup_upsert tables msg
  simp only [CarriesForward] at carries
  rw [forwardAgrees_iff] at agrees ⊢
  have before := agrees msg.key old stored
  simp only [stored] at rows
  -- Rows of other keys keep what they had, so the row of the message decides.
  have own : (∀ key row, (upsertMessage tables msg).lookup key = some row →
        RowAgrees (forwardOf key) row ((upsertMessage tables msg).fwdInfo.lookup row.id)) ↔
      RowAgrees (forwardOf msg.key) (rewrite msg old)
        ((upsertMessage tables msg).fwdInfo.lookup old.id) := by
    constructor
    · intro all
      have here := all msg.key (rewrite msg old) (by rw [lookup]; simp [stored])
      rwa [id_rewrite] at here
    · intro here key row found
      by_cases same : msg.key = key
      · subst same
        rw [lookup] at found
        simp only [↓reduceIte, stored, Option.some.injEq] at found
        subst found
        rwa [id_rewrite]
      · rw [lookup, if_neg same] at found
        have apart := id_ne_of_key_ne tables msg.key key old row stored found same
        have kept : (upsertMessage tables msg).fwdInfo.lookup row.id =
            tables.fwdInfo.lookup row.id := by
          split at rows
          · rw [Table.lookup, rows]
            rfl
          · rw [lookup_recordForward _ _ _ _ rows, if_neg apart]
        rw [kept]
        exact agrees key row found
  rw [own]
  by_cases flagged : (msg.isDeleted && !old.isDeleted) = true
  · simp only [flagged, ↓reduceIte] at rows
    have same := Table.table_ext (upsertMessage tables msg).fwdInfo tables.fwdInfo rows
    rw [same, rewrite, if_pos flagged]
    simp only [Bool.and_eq_true, Bool.not_eq_true'] at flagged
    simp only [flagged.2, Bool.false_eq_true, false_implies, implies_true, iff_true]
    exact before
  · simp only [flagged, Bool.false_eq_true, ↓reduceIte] at rows
    rw [lookup_recordForward _ _ _ _ rows, if_pos rfl, rewrite, if_neg flagged]
    obtain ⟨marked, recorded⟩ := before
    cases deleted : msg.isDeleted with
    | true =>
        -- A repeated deletion: the column is reset, the fwd_info row is not.
        have again : old.isDeleted = true := by simpa [deleted] using flagged
        simp only [deleted, ↓reduceIte] at carries
        simp only [again, true_implies, overwrite, RowAgrees, carries, Option.map_none,
          Option.or_none, Option.isSome_none]
        rw [marked]
        constructor
        · rintro ⟨same, _⟩
          exact same.symm
        · intro same
          exact ⟨same.symm, recorded⟩
    | false =>
        simp only [deleted, Bool.false_eq_true, ↓reduceIte] at carries
        simp only [Bool.false_eq_true, false_implies, iff_true, overwrite, RowAgrees, carries]
        cases found : tables.fwdInfo.lookup old.id with
        | none => cases forwardOf msg.key <;> simp
        | some fwd =>
            have origin := recorded fwd found
            simp [origin]

theorem agrees_step (op : MessageOp Sender) (carries : CarriesForward forwardOf op)
    (agrees : ForwardAgrees forwardOf tables) :
    ForwardAgrees forwardOf (messageStep tables op) ↔ SparesForwarded tables op := by
  have linked (change : MessageRow Sender → MessageRow Sender)
      (keepsKey : ∀ row, (change row).key = row.key) (keepsIdent : ∀ row, (change row).id = row.id)
      (keepsFlag : ∀ row, (change row).isForwarded = row.isForwarded) :
      ForwardAgrees forwardOf (tables.reviseMessages change keepsKey keepsIdent) := by
    intro row member
    obtain ⟨before, held, rfl⟩ := List.mem_map.mp member
    rw [keepsKey, keepsIdent, keepsFlag]
    exact agrees before held
  cases op with
  | upsert msg =>
      simp only [messageStep, SparesForwarded]
      cases found : tables.lookup msg.key with
      | none =>
          simp only [reduceCtorEq, false_implies, implies_true, iff_true]
          exact agrees_insert forwardOf tables msg found carries agrees
      | some old =>
          rw [agrees_overwrite forwardOf tables msg old found carries agrees]
          simp
  | setFile chatId messageId fileId =>
      simp only [messageStep, SparesForwarded, iff_true]
      exact linked _ _ _ (by intro row; split <;> rfl)
  | setReply chatId messageId replyToChatId replyToMessageId =>
      simp only [messageStep, SparesForwarded, iff_true]
      exact linked _ _ _ (by intro row; split <;> rfl)

end

theorem forwards_recorded_iff (forwardOf : Int × Int → Option ForwardInfo)
    (ops : List (MessageOp Sender)) (carries : ∀ op ∈ ops, CarriesForward forwardOf op) :
    ForwardsRecorded messageStore forwardOf ops ↔
      EveryStep messageStep MessageTables.empty SparesForwarded ops := by
  have agrees : EveryState messageStep MessageTables.empty (ForwardAgrees forwardOf) ops ↔
      EveryStep messageStep MessageTables.empty SparesForwarded ops := by
    induction ops using List.reverseRecOn with
    | nil =>
        rw [everyState_nil]
        exact ⟨fun _ => everyStep_nil _ _ _, fun _ => by simp [ForwardAgrees, MessageTables.empty,
          AutoTable.empty]⟩
    | append_singleton ops op ih =>
        have earlier := ih fun op member => carries op (List.mem_append_left _ member)
        rw [everyState_snoc, everyStep_snoc, earlier, run_snoc]
        have exactly := agrees_step forwardOf (run messageStep MessageTables.empty ops) op
          (carries op (by simp))
        constructor
        · rintro ⟨every, after⟩
          exact ⟨every, (exactly (everyState_last _ _ _ _ (earlier.mpr every))).mp after⟩
        · rintro ⟨every, last⟩
          exact ⟨every, (exactly (everyState_last _ _ _ _ (earlier.mpr every))).mpr last⟩
  rw [← agrees]
  constructor
  · intro recorded
    exact recorded.agrees
  · intro every
    refine ⟨every, ?_⟩
    rintro before after rfl
    exact fwdInfo_run before after

end

/-- In a serial run over either table pair in which the upserts of one message
that are no deletions carry one forward_info, the flag agrees with the forward
rows throughout exactly if no deletion finds a forwarded message flagged. -/
theorem forwards_recorded_exact (forwardOf : Int × Int → Option ForwardInfo)
    (privates : List (MessageOp PrivateSender)) (groups : List (MessageOp GroupSender))
    (privatesCarry : ∀ op ∈ privates, CarriesForward forwardOf op)
    (groupsCarry : ∀ op ∈ groups, CarriesForward forwardOf op) :
    (ForwardsRecorded privateStore forwardOf privates ↔
        EveryStep privateStep MessageTables.empty SparesForwarded privates) ∧
      (ForwardsRecorded groupStore forwardOf groups ↔
        EveryStep groupStep MessageTables.empty SparesForwarded groups) := by
  have privateSame : privateStore = messageStore := funext privateStore_eq
  have groupSame : groupStore = messageStore := funext groupStore_eq
  rw [privateSame, groupSame, privateStep_eq, groupStep_eq]
  exact ⟨forwards_recorded_iff forwardOf privates privatesCarry,
    forwards_recorded_iff forwardOf groups groupsCarry⟩

/-- A forwarded message and two deletions of it. -/
def forwardedDeletedTwice : List (MessageOp PrivateSender) :=
  [.upsert
      { chatId := 5, messageId := 7, sender := ⟨some 5⟩, date := 100
        content := { contentType := .text, text := some "hi" }
        forwardInfo := some { originType := .hiddenUser, originSenderName := some "Ann" } },
    .upsert (Message.deletion PrivateSender 5 7), .upsert (Message.deletion PrivateSender 5 7)]

def annForward : Int × Int → Option ForwardInfo
  | (5, 7) => some { originType := .hiddenUser, originSenderName := some "Ann" }
  | _ => none

theorem forwards_recorded_exact_at_deletions :
    ForwardsRecorded privateStore annForward (forwardedDeletedTwice.take 2) ↔
      EveryStep privateStep MessageTables.empty SparesForwarded (forwardedDeletedTwice.take 2) :=
  (forwards_recorded_exact annForward (forwardedDeletedTwice.take 2) []
    (by
      intro op member
      simp only [forwardedDeletedTwice, List.take, List.mem_cons, List.not_mem_nil,
        or_false] at member
      rcases member with rfl | rfl <;> rfl)
    (by simp)).1

theorem second_deletion_unmarks_forward :
    ¬ ForwardsRecorded privateStore annForward forwardedDeletedTwice := by
  intro recorded
  have agrees := recorded.agrees forwardedDeletedTwice [] (by simp)
  have row := agrees { newRow (Message.deletion PrivateSender 5 7) 1 with isDeleted := true }
    (by decide)
  revert row
  decide

end TgLoggerd

import Mathlib.Logic.Function.Basic
import TgLoggerd.MessageRun
import TgLoggerd.Projection

/-!
What the message tables are for: an archive that keeps one record for each
message, with the contents it had before, where it was forwarded from, its file
and what it replies to. An archive is a function of the message; row numbers,
foreign keys and the split over three tables are not part of it.
-/

namespace TgLoggerd

open SerialRun

/-- A content that another one replaced, with the edit_date of the other one. -/
structure Version where
  contentType : MessageContentType
  text : Option String
  fileId : Option Nat
  replacedAt : Int
  deriving DecidableEq, Repr

structure Record (Sender : Type) where
  sender : Sender
  isOutgoing : Bool
  date : Int
  editDate : Int
  contentType : MessageContentType
  text : Option String
  fileId : Option Nat
  isDeleted : Bool
  isForwarded : Bool
  forward : Option ForwardInfo
  replyTo : Option (Int × Int)
  versions : List Version
  deriving DecidableEq, Repr

/-- `resolved` says of a reply whether its target was in the archive when the
reply was linked. -/
structure Archive (Sender : Type) where
  records : Int × Int → Option (Record Sender)
  resolved : Int × Int → Bool

section

variable {Sender : Type}

namespace Record

def opened (msg : Message Sender) : Record Sender where
  sender := msg.sender
  isOutgoing := msg.isOutgoing
  date := msg.date
  editDate := msg.editDate
  contentType := msg.content.contentType
  text := msg.content.text
  fileId := none
  isDeleted := false
  isForwarded := msg.forwardInfo.isSome
  forward := msg.forwardInfo
  replyTo := none
  versions := []

def body (record : Record Sender) : MessageContentType × Option String :=
  (record.contentType, record.text)

/-- The content a later edit sets aside. -/
def setAside (record : Record Sender) (msg : Message Sender) : List Version :=
  if record.editDate < msg.editDate ∧ record.body ≠ msg.body then
    [{ contentType := record.contentType
       text := record.text
       fileId := record.fileId
       replacedAt := msg.editDate }]
  else []

/-- The origin noted first stays. -/
def revised (msg : Message Sender) (record : Record Sender) : Record Sender where
  sender := msg.sender
  isOutgoing := msg.isOutgoing
  date := msg.date
  editDate := msg.editDate
  contentType := msg.content.contentType
  text := msg.content.text
  fileId := record.fileId
  isDeleted := msg.isDeleted
  isForwarded := msg.forwardInfo.isSome
  forward := record.forward.or msg.forwardInfo
  replyTo := record.replyTo
  versions := record.versions ++ record.setAside msg

/-- What a message makes of the record kept of it. Its deletion only marks a
record, unless the record is marked already. -/
def receive (msg : Message Sender) : Option (Record Sender) → Option (Record Sender)
  | none => if msg.isDeleted then none else some (opened msg)
  | some record =>
      some (if msg.isDeleted && !record.isDeleted then { record with isDeleted := true }
        else record.revised msg)

/-- The record shows the message as it was received last. -/
structure Shows (msg : Message Sender) (record : Record Sender) : Prop where
  sender : record.sender = msg.sender
  isOutgoing : record.isOutgoing = msg.isOutgoing
  date : record.date = msg.date
  editDate : record.editDate = msg.editDate
  body : record.body = msg.body
  live : record.isDeleted = false
  flag : record.isForwarded = msg.forwardInfo.isSome
  forward : msg.forwardInfo.isSome = true → record.forward.isSome = true

theorem shows_opened (msg : Message Sender) : (opened msg).Shows msg :=
  ⟨rfl, rfl, rfl, rfl, rfl, rfl, rfl, fun carried => carried⟩

theorem shows_revised (msg : Message Sender) (content : msg.isDeleted = false)
    (record : Record Sender) : (record.revised msg).Shows msg where
  sender := rfl
  isOutgoing := rfl
  date := rfl
  editDate := rfl
  body := rfl
  live := content
  flag := rfl
  forward := by
    intro carried
    change (record.forward.or msg.forwardInfo).isSome = true
    rw [Option.isSome_or, carried, Bool.or_true]

/-- A message that is shown already changes nothing. -/
theorem revised_shown (msg : Message Sender) (content : msg.isDeleted = false)
    (record : Record Sender) (shown : record.Shows msg) : record.revised msg = record := by
  -- The body is shown already, so nothing is set aside, whatever the dates say.
  have noEdit : record.setAside msg = [] := by
    rw [setAside, if_neg]
    intro advanced
    exact advanced.2 shown.body
  have sameBody := Prod.mk.inj shown.body
  have sameForward : record.forward.or msg.forwardInfo = record.forward := by
    cases carried : msg.forwardInfo with
    | none => exact Option.or_none
    | some info =>
        obtain ⟨origin, known⟩ := Option.isSome_iff_exists.mp (shown.forward (by rw [carried]; rfl))
        rw [known, Option.some_or]
  rw [revised, noEdit, List.append_nil, sameForward, ← shown.sender, ← shown.isOutgoing,
    ← shown.date, ← shown.editDate, ← shown.flag, content, ← shown.live]
  have contentType : msg.content.contentType = record.contentType := sameBody.1.symm
  have text : msg.content.text = record.text := sameBody.2.symm
  rw [contentType, text]

end Record

namespace Archive

def empty : Archive Sender := ⟨fun _ => none, fun _ => false⟩

def step (archive : Archive Sender) : MessageOp Sender → Archive Sender
  | .upsert msg =>
      { archive with
        records := Function.update archive.records msg.key
          (Record.receive msg (archive.records msg.key)) }
  | .setFile chatId messageId fileId =>
      { archive with
        records := Function.update archive.records (chatId, messageId)
          ((archive.records (chatId, messageId)).map fun record =>
            { record with fileId := some fileId }) }
  | .setReply chatId messageId replyToChatId replyToMessageId =>
      { records := Function.update archive.records (chatId, messageId)
          ((archive.records (chatId, messageId)).map fun record =>
            { record with replyTo := some (replyToChatId, replyToMessageId) })
        -- Looked up once: a target that comes later does not resolve the reply.
        resolved := Function.update archive.resolved (chatId, messageId)
          ((archive.records (chatId, messageId)).isSome &&
            (archive.records (replyToChatId, replyToMessageId)).isSome) }

/-- The message an operation is about. -/
def names : MessageOp Sender → Int × Int
  | .upsert msg => msg.key
  | .setFile chatId messageId _ => (chatId, messageId)
  | .setReply chatId messageId _ _ => (chatId, messageId)

/-- What one operation makes of the record of the message it is about. -/
def recordStep (record : Option (Record Sender)) : MessageOp Sender → Option (Record Sender)
  | .upsert msg => Record.receive msg record
  | .setFile _ _ fileId => record.map fun record => { record with fileId := some fileId }
  | .setReply _ _ replyToChatId replyToMessageId =>
      record.map fun record => { record with replyTo := some (replyToChatId, replyToMessageId) }

theorem records_step (archive : Archive Sender) (op : MessageOp Sender) :
    (archive.step op).records =
      Function.update archive.records (names op) (recordStep (archive.records (names op)) op) := by
  cases op <;> rfl

/-- The record of one message is a machine of its own. -/
theorem record_projects (key : Int × Int) :
    Projection.Projects step (fun archive : Archive Sender => archive.records key) recordStep
      (fun op => names op = key) where
  own := by
    intro archive op named
    have same : names op = key := by simpa using named
    subst same
    rw [records_step, Function.update_self]
  other := by
    intro archive op elsewhere
    have apart : names op ≠ key := by simpa using elsewhere
    rw [records_step, Function.update_of_ne (Ne.symm apart)]

/-- The archive shows a message as it was received last. -/
def Shows (msg : Message Sender) (archive : Archive Sender) : Prop :=
  ∃ record, archive.records msg.key = some record ∧ record.Shows msg

theorem shows_upsert (msg : Message Sender) (content : msg.isDeleted = false)
    (archive : Archive Sender) : (archive.step (.upsert msg)).Shows msg := by
  unfold Shows
  rw [records_step, names, Function.update_self, recordStep]
  cases archive.records msg.key with
  | none =>
      refine ⟨Record.opened msg, ?_, Record.shows_opened msg⟩
      simp [Record.receive, content]
  | some record =>
      refine ⟨record.revised msg, ?_, Record.shows_revised msg content record⟩
      simp [Record.receive, content]

theorem upsert_shown (msg : Message Sender) (content : msg.isDeleted = false)
    (archive : Archive Sender) (shown : archive.Shows msg) :
    archive.step (.upsert msg) = archive := by
  obtain ⟨record, held, shows⟩ := shown
  have received : Record.receive msg (archive.records msg.key) = archive.records msg.key := by
    rw [held, Record.receive, content, Bool.false_and, if_neg Bool.false_ne_true,
      Record.revised_shown msg content record shows]
  rw [step, received, Function.update_eq_self]

/-- Links and whatever happens to other messages leave a message as shown. -/
theorem shows_step (msg : Message Sender) (archive : Archive Sender) (op : MessageOp Sender)
    (shown : archive.Shows msg) (quiet : ∀ other, op = .upsert other → other.key ≠ msg.key) :
    (archive.step op).Shows msg := by
  obtain ⟨record, held, shows⟩ := shown
  unfold Shows
  rw [records_step]
  by_cases named : names op = msg.key
  · rw [named, Function.update_self, held]
    cases op with
    | upsert other => exact absurd named (quiet other rfl)
    | setFile chatId messageId fileId =>
        exact ⟨{ record with fileId := some fileId }, rfl, { shows with }⟩
    | setReply chatId messageId replyToChatId replyToMessageId =>
        exact ⟨{ record with replyTo := some (replyToChatId, replyToMessageId) }, rfl,
          { shows with }⟩
  · rw [Function.update_of_ne (Ne.symm named)]
    exact ⟨record, held, shows⟩

end Archive

end

end TgLoggerd

import TgLoggerd.ReplyLinks

/-!
The links of replies in the message tables. The serial worker runs a link job
after the upserts that were posted before it, so it finds the row of the message
and, where the target was known and is of the same kind, the target's row. What
reply_to_id holds is the number of the row that the two reply columns name.
-/

namespace TgLoggerd

open KeyedTable SerialRun

/-- The columns that link jobs write, with the number of the row. -/
structure ReplyColumns where
  id : Nat
  replyToChatId : Option Int
  replyToMsgId : Option Int
  replyToId : Option Nat
  deriving DecidableEq, Repr

section

variable {Sender : Type}

def MessageRow.reply (row : MessageRow Sender) : ReplyColumns where
  id := row.id
  replyToChatId := row.replyToChatId
  replyToMsgId := row.replyToMsgId
  replyToId := row.replyToId

def replyRow (tables : MessageTables Sender) (key : Int × Int) : Option ReplyColumns :=
  (tables.lookup key).map MessageRow.reply

/-- A row that names another by its number names it by its key as well. -/
def PointsHome (tables : MessageTables Sender) : Prop :=
  ∀ key row number, replyRow tables key = some row → row.replyToId = some number →
    ∃ target held, row.replyToChatId = some target.1 ∧ row.replyToMsgId = some target.2 ∧
      replyRow tables target = some held ∧ held.id = number

/-- The message a job links, and what it replies to. -/
def MessageOp.links : MessageOp Sender → Option ((Int × Int) × (Int × Int))
  | .setReply chatId messageId replyToChatId replyToMessageId =>
      some ((chatId, messageId), (replyToChatId, replyToMessageId))
  | _ => none

/-- The columns of a row after a job that links its message. -/
def ReplyColumns.link (tables : MessageTables Sender) (target : Int × Int) (row : ReplyColumns) :
    ReplyColumns where
  id := row.id
  replyToChatId := some target.1
  replyToMsgId := some target.2
  replyToId := (replyRow tables target).map ReplyColumns.id

theorem reply_rewrite (msg : Message Sender) (old : MessageRow Sender) :
    (rewrite msg old).reply = old.reply := by
  unfold rewrite
  split <;> rfl

section

variable (tables : MessageTables Sender) (op : MessageOp Sender) (key : Int × Int)

theorem replyRow_kept (old : ReplyColumns) (found : replyRow tables key = some old)
    (other : ∀ target, op.links ≠ some (key, target)) :
    replyRow (messageStep tables op) key = some old := by
  obtain ⟨row, held, rfl⟩ := Option.map_eq_some_iff.mp found
  have same := key_of_lookup tables key row held
  cases op with
  | upsert msg =>
      rw [replyRow, messageStep, lookup_upsert]
      split
      · simp [held, reply_rewrite]
      · simp [held]
  | setFile chatId messageId fileId =>
      rw [replyRow, messageStep, lookup_setMessageFile, held, Option.map_some, Option.map_some]
      split <;> rfl
  | setReply chatId messageId replyToChatId replyToMessageId =>
      have apart : row.key ≠ (chatId, messageId) := by
        rintro equal
        apply other (replyToChatId, replyToMessageId)
        rw [MessageOp.links, ← equal, same]
      rw [replyRow, messageStep, lookup_setMessageReply, held, Option.map_some, if_neg apart,
        Option.map_some]

theorem replyRow_linked (target : Int × Int) (old : ReplyColumns)
    (found : replyRow tables key = some old) (links : op.links = some (key, target)) :
    replyRow (messageStep tables op) key = some (old.link tables target) := by
  obtain ⟨row, held, rfl⟩ := Option.map_eq_some_iff.mp found
  have same := key_of_lookup tables key row held
  cases op with
  | setReply chatId messageId replyToChatId replyToMessageId =>
      cases links
      rw [replyRow, messageStep, lookup_setMessageReply, held, Option.map_some, if_pos same,
        Option.map_some, ReplyColumns.link, replyRow, Option.map_map]
      rfl
  | _ => cases links

theorem replyRow_absent (row : ReplyColumns) (absent : replyRow tables key = none)
    (found : replyRow (messageStep tables op) key = some row) : row.replyToId = none := by
  have missing := Option.map_eq_none_iff.mp absent
  cases op with
  | upsert msg =>
      simp only [replyRow, messageStep, lookup_upsert, missing] at found
      by_cases same : msg.key = key
      · by_cases deleted : msg.isDeleted = true
        · simp [same, deleted] at found
        · simp only [same, ↓reduceIte, deleted, Bool.false_eq_true, Option.map_some,
            Option.some.injEq] at found
          rw [← found]
          rfl
      · simp [same] at found
  | setFile chatId messageId fileId =>
      rw [replyRow, messageStep, lookup_setMessageFile, missing] at found
      cases found
  | setReply chatId messageId replyToChatId replyToMessageId =>
      rw [replyRow, messageStep, lookup_setMessageReply, missing] at found
      cases found

/-- A row keeps its number. -/
theorem replyRow_persists (old : ReplyColumns) (found : replyRow tables key = some old) :
    ∃ row, replyRow (messageStep tables op) key = some row ∧ row.id = old.id := by
  obtain ⟨row, held, rfl⟩ := Option.map_eq_some_iff.mp found
  obtain ⟨next, there, same⟩ := lookup_step_held tables op key row held
  exact ⟨next.reply, by rw [replyRow, there, Option.map_some], same⟩

theorem pointsHome_step (home : PointsHome tables) : PointsHome (messageStep tables op) := by
  intro key row number found points
  -- Whatever row was there keeps its number.
  have kept (target : Int × Int) (held : ReplyColumns)
      (there : replyRow tables target = some held) (same : held.id = number) :
      ∃ next, replyRow (messageStep tables op) target = some next ∧ next.id = number := by
    obtain ⟨next, still, unchanged⟩ := replyRow_persists tables op target held there
    exact ⟨next, still, unchanged.trans same⟩
  cases before : replyRow tables key with
  | none =>
      rw [replyRow_absent tables op key row before found] at points
      cases points
  | some old =>
      by_cases linked : ∃ target, op.links = some (key, target)
      · obtain ⟨target, links⟩ := linked
        rw [replyRow_linked tables op key target old before links] at found
        cases found
        obtain ⟨held, there, same⟩ := Option.map_eq_some_iff.mp points
        obtain ⟨next, still, unchanged⟩ := kept target held there same
        exact ⟨target, next, rfl, rfl, still, unchanged⟩
      · rw [replyRow_kept tables op key old before fun target links =>
          linked ⟨target, links⟩] at found
        cases found
        obtain ⟨target, held, chat, message, there, same⟩ := home key _ number before points
        obtain ⟨next, still, unchanged⟩ := kept target held there same
        exact ⟨target, next, chat, message, still, unchanged⟩

/-- Rows of one number have one key. -/
theorem key_of_number (other : Int × Int) (row held : ReplyColumns)
    (found : replyRow tables key = some row) (there : replyRow tables other = some held)
    (same : row.id = held.id) : key = other := by
  obtain ⟨left, leftHeld, rfl⟩ := Option.map_eq_some_iff.mp found
  obtain ⟨right, rightHeld, rfl⟩ := Option.map_eq_some_iff.mp there
  have member := ((Table.lookup_some_iff _ _ _).mp leftHeld).1
  have equal := (id_eq_iff_key_eq tables other right left rightHeld member).mp same
  rw [← key_of_lookup tables key left leftHeld, equal]

theorem replyRow_stored (msg : Message Sender) (live : msg.isDeleted = false) :
    ∃ row, replyRow (messageStep tables (.upsert msg)) msg.key = some row := by
  simp only [replyRow, messageStep, lookup_upsert, ↓reduceIte, live]
  cases tables.lookup msg.key with
  | none => exact ⟨_, rfl⟩
  | some old => exact ⟨_, rfl⟩

end

end

/-- The message a job links, with the kind of its table, and what it replies to. -/
def StoreOp.links : StoreOp → Option (((Int × Int) × Bool) × (Int × Int))
  | .onPrivate op => op.links.map fun ends => ((ends.1, false), ends.2)
  | .onGroup op => op.links.map fun ends => ((ends.1, true), ends.2)

def MessageReply.ends (reply : MessageReply) : ((Int × Int) × Bool) × (Int × Int) :=
  (((reply.chatId, reply.messageId), reply.isGroup), (reply.replyToChatId, reply.replyToMsgId))

def Logger.replyRow (logger : Logger) (isGroup : Bool) (key : Int × Int) : Option ReplyColumns :=
  if isGroup then TgLoggerd.replyRow logger.groups key
  else TgLoggerd.replyRow logger.privates key

/-- In both tables reply_to_id points to the row that the reply columns name, and
to no other. -/
def RepliesPointHome (logger : Logger) : Prop :=
  ∀ isGroup key row number, logger.replyRow isGroup key = some row →
    row.replyToId = some number →
    ∃ target, row.replyToChatId = some target.1 ∧ row.replyToMsgId = some target.2 ∧
      (∃ held, logger.replyRow isGroup target = some held ∧ held.id = number) ∧
      ∀ other held, logger.replyRow isGroup other = some held → held.id = number → other = target

section

variable (logger : Logger)

theorem replyRow_apply_kept (op : StoreOp) (isGroup : Bool) (key : Int × Int) (old : ReplyColumns)
    (found : logger.replyRow isGroup key = some old)
    (other : ∀ target, op.links ≠ some ((key, isGroup), target)) :
    (logger.apply op).replyRow isGroup key = some old := by
  cases op with
  | onPrivate op =>
      cases isGroup with
      | false =>
          simp only [Logger.replyRow, Logger.apply, privateStep_eq]
          apply replyRow_kept _ op key old found
          intro target links
          exact other target (by rw [StoreOp.links, links]; rfl)
      | true => exact found
  | onGroup op =>
      cases isGroup with
      | false => exact found
      | true =>
          simp only [Logger.replyRow, Logger.apply, groupStep_eq]
          apply replyRow_kept _ op key old found
          intro target links
          exact other target (by rw [StoreOp.links, links]; rfl)

theorem replyRow_apply_persists (op : StoreOp) (isGroup : Bool) (key : Int × Int)
    (old : ReplyColumns) (found : logger.replyRow isGroup key = some old) :
    ∃ row, (logger.apply op).replyRow isGroup key = some row ∧ row.id = old.id := by
  cases op with
  | onPrivate op =>
      cases isGroup with
      | false =>
          simp only [Logger.replyRow, Logger.apply, privateStep_eq]
          exact replyRow_persists _ op key old found
      | true => exact ⟨old, found, rfl⟩
  | onGroup op =>
      cases isGroup with
      | false => exact ⟨old, found, rfl⟩
      | true =>
          simp only [Logger.replyRow, Logger.apply, groupStep_eq]
          exact replyRow_persists _ op key old found

theorem replyRow_apply_stored (op : StoreOp) (isGroup : Bool) (key : Int × Int)
    (stores : op.stores = some (key, isGroup)) :
    ∃ row, (logger.apply op).replyRow isGroup key = some row := by
  cases op with
  | onPrivate op =>
      cases op with
      | upsert pm =>
          simp only [StoreOp.stores] at stores
          split at stores
          · cases stores
          · next live =>
            cases stores
            simp only [Logger.replyRow, Logger.apply, privateStep_eq]
            exact replyRow_stored _ pm (by simpa using live)
      | _ => cases stores
  | onGroup op =>
      cases op with
      | upsert gm =>
          simp only [StoreOp.stores] at stores
          split at stores
          · cases stores
          · next live =>
            cases stores
            simp only [Logger.replyRow, Logger.apply, groupStep_eq]
            exact replyRow_stored _ gm (by simpa using live)
      | _ => cases stores

/-- A link job writes the target, and its number if its row is in the same table. -/
theorem replyRow_apply_linked (op : StoreOp) (isGroup : Bool) (key target : Int × Int)
    (old : ReplyColumns) (found : logger.replyRow isGroup key = some old)
    (links : op.links = some ((key, isGroup), target)) :
    (logger.apply op).replyRow isGroup key =
      some
        { id := old.id
          replyToChatId := some target.1
          replyToMsgId := some target.2
          replyToId := (logger.replyRow isGroup target).map ReplyColumns.id } := by
  cases op with
  | onPrivate op =>
      obtain ⟨ends, named, same⟩ := Option.map_eq_some_iff.mp links
      cases same
      simp only [Logger.replyRow, Logger.apply, privateStep_eq]
      exact replyRow_linked _ op _ _ old found named
  | onGroup op =>
      obtain ⟨ends, named, same⟩ := Option.map_eq_some_iff.mp links
      cases same
      simp only [Logger.replyRow, Logger.apply, groupStep_eq]
      exact replyRow_linked _ op _ _ old found named

/-- The tables change when a job is committed, and only then. -/
theorem advance_cases (config : Config) (move : Move) :
    ((advance config logger move).privates = logger.privates ∧
        (advance config logger move).groups = logger.groups ∧
        (advance config logger move).committed = logger.committed) ∨
      ∃ job rest, move = .commit ∧ logger.queue = job :: rest ∧
        advance config logger move =
          { logger.apply job.op with queue := rest, committed := logger.committed ++ [job] } := by
  cases move with
  | receive event => exact Or.inl ⟨rfl, rfl, rfl⟩
  | link mf fileId =>
      left
      simp only [advance]
      split <;> exact ⟨rfl, rfl, rfl⟩
  | commit =>
      cases queued : logger.queue with
      | nil =>
          left
          simp only [advance, queued]
          trivial
      | cons job rest =>
          right
          exact ⟨job, rest, rfl, rfl, by simp only [advance, queued]⟩
  | fail =>
      left
      simp only [advance]
      split <;> exact ⟨rfl, rfl, rfl⟩

/-- What the tables owe to the committed jobs. -/
structure Rows (logger : Logger) : Prop where
  privates : PointsHome logger.privates
  groups : PointsHome logger.groups
  stored : ∀ job ∈ logger.committed, ∀ key isGroup, job.op.stores = some (key, isGroup) →
    ∃ row, logger.replyRow isGroup key = some row

theorem rows_advance (config : Config) (move : Move) (rows : Rows logger) :
    Rows (advance config logger move) := by
  rcases advance_cases logger config move with
    ⟨privates, groups, committed⟩ | ⟨job, rest, rfl, queued, next⟩
  · constructor
    · rw [privates]
      exact rows.privates
    · rw [groups]
      exact rows.groups
    · intro job member key isGroup stores
      rw [committed] at member
      simp only [Logger.replyRow, privates, groups]
      exact rows.stored job member key isGroup stores
  · rw [next]
    obtain ⟨cause, op⟩ := job
    constructor
    · cases op with
      | onPrivate op =>
          simp only [Logger.apply, privateStep_eq]
          exact pointsHome_step logger.privates op rows.privates
      | onGroup op => exact rows.privates
    · cases op with
      | onPrivate op => exact rows.groups
      | onGroup op =>
          simp only [Logger.apply, groupStep_eq]
          exact pointsHome_step logger.groups op rows.groups
    · intro other member key isGroup stores
      rcases List.mem_append.mp member with old | fresh
      · obtain ⟨row, held⟩ := rows.stored other old key isGroup stores
        obtain ⟨kept, there, _⟩ := replyRow_apply_persists logger op isGroup key row held
        exact ⟨kept, there⟩
      · cases List.mem_singleton.mp fresh
        exact replyRow_apply_stored logger op isGroup key stores

theorem rows_run (config : Config) (moves : List Move) :
    Rows (run (advance config) Logger.initial moves) := by
  apply run_invariant (advance config) Logger.initial Rows
  · constructor
    · intro key row number found
      cases found
    · intro key row number found
      cases found
    · intro job member
      cases member
  · exact fun logger move rows => rows_advance logger config move rows

theorem repliesPointHome_of_rows (rows : Rows logger) : RepliesPointHome logger := by
  intro isGroup key row number found points
  have home : ∃ target held, row.replyToChatId = some target.1 ∧
      row.replyToMsgId = some target.2 ∧ logger.replyRow isGroup target = some held ∧
        held.id = number := by
    cases isGroup with
    | false => exact rows.privates key row number found points
    | true => exact rows.groups key row number found points
  obtain ⟨target, held, chat, message, there, same⟩ := home
  refine ⟨target, chat, message, ⟨held, there, same⟩, ?_⟩
  intro other another found numbered
  cases isGroup with
  | false => exact key_of_number logger.privates other target _ _ found there (numbered.trans same.symm)
  | true => exact key_of_number logger.groups other target _ _ found there (numbered.trans same.symm)

end

end TgLoggerd

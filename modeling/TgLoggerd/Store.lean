import TgLoggerd.AdminSync
import TgLoggerd.AttributeHistory
import TgLoggerd.EntityTracking
import TgLoggerd.ForwardFlags
import TgLoggerd.PhotoPipeline

/-!
The database as a whole: the tables of all migrations, what the handlers of
`TgLoggerd::start` write to them on the serial worker, and the foreign keys
between them. A transaction whose row refers to a row that is not there is
refused and leaves the database as it was. `order` and `rowOrder` are the orders
of a `std::unordered_map` and of a `SELECT`.
-/

namespace TgLoggerd

open KeyedTable SerialRun

/-- A job of `serial_`, by what it writes. -/
inductive DbWrite where
  | entity (op : EntityOp)
  | onPrivate (op : MessageOp PrivateSender)
  | onGroup (op : MessageOp GroupSender)
  | admins (list : GroupAdminList)
  deriving DecidableEq, Repr

/-- What the handlers of `start` post to `serial_`. -/
def Call.write : Call → Option DbWrite
  | .user u => some (.entity (.upsertUser u))
  | .userFullInfo fi => some (.entity (.upsertUserFullInfo fi))
  | .group g => some (.entity (.upsertGroup g))
  | .groupAdmins list => some (.admins list)
  | .privateMessage pm => some (.onPrivate (.upsert pm))
  | .groupMessage gm => some (.onGroup (.upsert gm))
  | .messageReply mr =>
      some
        (if mr.isGroup then
          .onGroup (.setReply mr.chatId mr.messageId mr.replyToChatId mr.replyToMsgId)
        else .onPrivate (.setReply mr.chatId mr.messageId mr.replyToChatId mr.replyToMsgId))
  -- The text handler only logs, and the files go to `files_`.
  | .textMessage _ | .messageFile _ | .profilePhoto _ | .groupPhoto _ => none

/-- What `onProfilePhoto`, `onGroupPhoto` and `onMessageFile` post to `serial_`
for a stored file. -/
def linkWrite : Owner → Nat → DbWrite
  | .user userId, fileId => .entity (.setUserProfilePhoto userId fileId)
  | .group groupId, fileId => .entity (.setGroupPhoto groupId fileId)
  | .message chatId messageId true, fileId => .onGroup (.setFile chatId messageId fileId)
  | .message chatId messageId false, fileId => .onPrivate (.setFile chatId messageId fileId)

section

variable {Key : Type} [DecidableEq Key]

structure Store (collate : String → Key) where
  entities : EntityTables collate
  privates : PrivateTables
  groups : GroupTables
  admins : AdminTables
  files : FileTable collate

variable {collate : String → Key}

namespace Store

def empty : Store collate where
  entities := EntityTables.empty
  privates := MessageTables.empty
  groups := MessageTables.empty
  admins := AdminTables.empty
  files := FileTable.empty

def holds (store : Store collate) : Entity → Bool
  | .user userId => store.entities.stored (.user userId)
  | .group chatId => store.entities.stored (.group chatId)

def holdsFile (store : Store collate) (fileId : Nat) : Bool :=
  store.files.rows.any fun row => row.id = fileId

/-- The rows that the statements of an upsert refer to. A deletion that only
flags its row writes no foreign key, nor does a forward origin that is already
on record. -/
def references {Sender : Type} (rowRefs : Message Sender → List Entity)
    (tables : MessageTables Sender) (msg : Message Sender) : List Entity :=
  match tables.lookup msg.key with
  | none => if msg.isDeleted then [] else rowRefs msg ++ originRefs msg.forwardInfo
  | some old =>
      if msg.isDeleted && !old.isDeleted then []
      else
        rowRefs msg ++
          if (tables.fwdInfo.lookup old.id).isSome then [] else originRefs msg.forwardInfo

def acceptsMessage {Sender : Type} (store : Store collate)
    (rowRefs : Message Sender → List Entity) (tables : MessageTables Sender) :
    MessageOp Sender → Bool
  | .upsert msg => (references rowRefs tables msg).all store.holds
  | .setFile chatId messageId fileId =>
      (tables.lookup (chatId, messageId)).isNone || store.holdsFile fileId
  -- The replied row is looked up by the statement itself.
  | .setReply _ _ _ _ => true

/-- The foreign keys let a transaction through. -/
def accepts (store : Store collate) : DbWrite → Bool
  | .entity (.setUserProfilePhoto userId fileId) =>
      !store.holds (.user userId) || store.holdsFile fileId
  | .entity (.setGroupPhoto groupId fileId) =>
      !store.holds (.group groupId) || store.holdsFile fileId
  | .entity _ => true
  | .onPrivate op => store.acceptsMessage privateRefs store.privates op
  | .onGroup op => store.acceptsMessage groupRefs store.groups op
  | .admins list =>
      list.admins.all fun ga => store.holds (.group list.groupId) && store.holds (.user ga.userId)

variable (order : MapOrder) (rowOrder : RowOrder)

def apply (store : Store collate) : DbWrite → Store collate
  | .entity op => { store with entities := entityStep order store.entities op }
  | .onPrivate op => { store with privates := privateStep store.privates op }
  | .onGroup op => { store with groups := groupStep store.groups op }
  | .admins list => { store with admins := syncGroupAdmins rowOrder store.admins list }

def commit (store : Store collate) (write : DbWrite) : Store collate :=
  if store.accepts write then store.apply order rowOrder write else store

/-- `storeDownloadedFile` for a file whose digest is `hashed`, on a file worker. -/
def storeFile (store : Store collate) (hashed : Option Digest) (download : Download) :
    Option Nat × Store collate :=
  match storeDownloadedFile store.files hashed hashed.isSome download with
  | (.ok fileId, after) => (fileId, { store with files := after })
  | (.error _, after) => (none, { store with files := after })

theorem storeFile_eq (store : Store collate) (digest : Digest) (download : Download) :
    store.storeFile (some digest) download =
      ((upsertFile store.files (fileOf digest download)).1.toOption,
        { store with files := (upsertFile store.files (fileOf digest download)).2 }) := by
  simp only [storeFile, storeDownloadedFile, Option.isSome_some]
  cases (upsertFile store.files (fileOf digest download)).1 <;> rfl

theorem storeFile_lost (store : Store collate) (download : Download) :
    store.storeFile none download = (none, store) := rfl

end Store

/-- Event rows stay, and so does every username, whoever owns it. -/
structure UsernameTables.Extends (before after : UsernameTables collate) : Prop where
  events : before.events <+: after.events
  names : ∀ key, (before.lookup key).isSome = true → (after.lookup key).isSome = true

/-- Message rows keep key and number, edits and forward rows stay as they are. -/
structure MessageTables.Extends {Sender : Type} (before after : MessageTables Sender) : Prop where
  rows : ∀ key old, before.lookup key = some old →
    ∃ row, after.lookup key = some row ∧ row.id = old.id
  edits : before.edits <+: after.edits
  forwards : before.fwdInfo.rows <+: after.fwdInfo.rows

/-- Nothing that was in the database is gone. -/
structure Store.Extends (before after : Store collate) : Prop where
  entities : ∀ subject, before.entities.stored subject = true →
    after.entities.stored subject = true
  histories : before.entities.HistoryKept after.entities
  userNames : before.entities.users.usernames.Extends after.entities.users.usernames
  groupNames : before.entities.groups.usernames.Extends after.entities.groups.usernames
  privates : before.privates.Extends after.privates
  groups : before.groups.Extends after.groups
  adminEvents : before.admins.events <+: after.admins.events
  files : ∀ digest fileId, IsRow before.files digest fileId → IsRow after.files digest fileId

theorem UsernameTables.extends_refl (tables : UsernameTables collate) : tables.Extends tables :=
  ⟨List.prefix_rfl, fun _ held => held⟩

theorem UsernameTables.extends_trans (first second third : UsernameTables collate)
    (left : first.Extends second) (right : second.Extends third) : first.Extends third :=
  ⟨left.events.trans right.events, fun key held => right.names key (left.names key held)⟩

theorem MessageTables.extends_refl {Sender : Type} (tables : MessageTables Sender) :
    tables.Extends tables :=
  ⟨fun _ old found => ⟨old, found, rfl⟩, List.prefix_rfl, List.prefix_rfl⟩

theorem MessageTables.extends_trans {Sender : Type} (first second third : MessageTables Sender)
    (left : first.Extends second) (right : second.Extends third) : first.Extends third where
  rows := by
    intro key old found
    obtain ⟨middle, held, same⟩ := left.rows key old found
    obtain ⟨row, there, unchanged⟩ := right.rows key middle held
    exact ⟨row, there, unchanged.trans same⟩
  edits := left.edits.trans right.edits
  forwards := left.forwards.trans right.forwards

theorem MessageTables.extends_step {Sender : Type} (tables : MessageTables Sender)
    (op : MessageOp Sender) : tables.Extends (messageStep tables op) where
  rows := fun key old found => lookup_step_held tables op key old found
  edits := by
    rw [edits_step]
    exact List.prefix_append _ _
  forwards := fwdInfo_appends tables op

namespace Store

theorem extends_refl (store : Store collate) : store.Extends store where
  entities := fun _ held => held
  histories := by simp [EntityTables.HistoryKept]
  userNames := UsernameTables.extends_refl _
  groupNames := UsernameTables.extends_refl _
  privates := MessageTables.extends_refl _
  groups := MessageTables.extends_refl _
  adminEvents := List.prefix_rfl
  files := fun _ _ held => held

theorem extends_trans (first second third : Store collate) (left : first.Extends second)
    (right : second.Extends third) : first.Extends third where
  entities := fun subject held => right.entities subject (left.entities subject held)
  histories := by
    obtain ⟨names, phones, photos, bios, titles, descriptions, groupPhotos⟩ := left.histories
    obtain ⟨names', phones', photos', bios', titles', descriptions', groupPhotos'⟩ :=
      right.histories
    exact ⟨names.trans names', phones.trans phones', photos.trans photos', bios.trans bios',
      titles.trans titles', descriptions.trans descriptions', groupPhotos.trans groupPhotos'⟩
  userNames := UsernameTables.extends_trans _ _ _ left.userNames right.userNames
  groupNames := UsernameTables.extends_trans _ _ _ left.groupNames right.groupNames
  privates := MessageTables.extends_trans _ _ _ left.privates right.privates
  groups := MessageTables.extends_trans _ _ _ left.groups right.groups
  adminEvents := left.adminEvents.trans right.adminEvents
  files := fun digest fileId held => right.files digest fileId (left.files digest fileId held)

variable (order : MapOrder) (rowOrder : RowOrder)

/-- A username stays on record when its owner loses it. -/
theorem extends_sync (tables : UsernameTables collate) (snapshot : Snapshot) :
    tables.Extends (syncSnapshot order tables snapshot) where
  events := by
    rw [events_sync]
    exact List.prefix_append _ _
  names := by
    intro key held
    rw [lookup_sync]
    cases listed collate key snapshot.newList with
    | nil => rwa [settle, Option.isSome_map]
    | cons first rest => rfl

omit [DecidableEq Key] in
theorem usernames_upsertUserFullInfo (tables : UserTables collate) (fi : UserFullInfo) :
    (upsertUserFullInfo tables fi).usernames = tables.usernames := by
  unfold upsertUserFullInfo
  split <;> rfl

omit [DecidableEq Key] in
theorem usernames_setUserProfilePhoto (tables : UserTables collate) (userId : Int)
    (fileId : Nat) : (setUserProfilePhoto tables userId fileId).usernames = tables.usernames := by
  simp only [setUserProfilePhoto, trackProfilePhotoChange]
  split
  · rfl
  · split
    · rfl
    · split <;> rfl

omit [DecidableEq Key] in
theorem usernames_setGroupPhoto (tables : GroupRows collate) (groupId : Int) (fileId : Nat) :
    (setGroupPhoto tables groupId fileId).usernames = tables.usernames := by
  simp only [setGroupPhoto, trackGroupPhotoChange]
  split
  · rfl
  · split
    · rfl
    · split <;> rfl

/-- What one write to the user and group tables makes of the usernames. -/
theorem usernames_entityStep (tables : EntityTables collate) (op : EntityOp) :
    tables.users.usernames.Extends (entityStep order tables op).users.usernames ∧
      tables.groups.usernames.Extends (entityStep order tables op).groups.usernames := by
  have groupsKept := tables.groups.usernames.extends_refl
  have usersKept := tables.users.usernames.extends_refl
  cases op with
  | upsertUser u =>
      refine ⟨?_, groupsKept⟩
      rw [entityStep, usernames_upsertUser]
      exact extends_sync order _ _
  | upsertUserFullInfo fi =>
      refine ⟨?_, groupsKept⟩
      rw [entityStep, usernames_upsertUserFullInfo]
      exact usersKept
  | setUserProfilePhoto userId fileId =>
      refine ⟨?_, groupsKept⟩
      rw [entityStep, usernames_setUserProfilePhoto]
      exact usersKept
  | upsertGroup g =>
      refine ⟨usersKept, ?_⟩
      rw [entityStep, usernames_upsertGroup]
      exact extends_sync order _ _
  | setGroupPhoto groupId fileId =>
      refine ⟨usersKept, ?_⟩
      rw [entityStep, usernames_setGroupPhoto]
      exact groupsKept

theorem extends_apply (store : Store collate) (write : DbWrite) :
    store.Extends (store.apply order rowOrder write) := by
  have same := store.extends_refl
  cases write with
  | entity op =>
      obtain ⟨userNames, groupNames⟩ := usernames_entityStep order store.entities op
      refine { same with
        entities := ?_
        histories := entityStep_kept order store.entities op
        userNames := userNames
        groupNames := groupNames }
      intro subject held
      change (entityStep order store.entities op).stored subject = true
      rw [stored_entityStep, held, Bool.true_or]
  | onPrivate op =>
      have grown := store.privates.extends_step op
      rw [← privateStep_eq] at grown
      exact { same with privates := grown }
  | onGroup op =>
      have grown := store.groups.extends_step op
      rw [← groupStep_eq] at grown
      exact { same with groups := grown }
  | admins list =>
      refine { same with adminEvents := ?_ }
      change _ <+: (syncGroupAdmins rowOrder store.admins list).events
      rw [events_syncAdmins]
      exact List.prefix_append _ _

theorem extends_commit (store : Store collate) (write : DbWrite) :
    store.Extends (store.commit order rowOrder write) := by
  unfold commit
  split
  · exact store.extends_apply order rowOrder write
  · exact store.extends_refl

theorem extends_storeFile (store : Store collate) (hashed : Option Digest) (download : Download) :
    store.Extends (store.storeFile hashed download).2 := by
  cases hashed with
  | none => exact store.extends_refl
  | some digest =>
      rw [storeFile_eq]
      have same := store.extends_refl
      exact { same with files := (rows_upsertFile store.files digest download).1 }

end Store

end

end TgLoggerd

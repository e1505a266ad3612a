import TgLoggerd.DaemonFiles
import TgLoggerd.ForeignKeys

/-!
The database of a running daemon. Every foreign key of the migrations holds in
it, and the server has nothing to refuse as long as users and chats are announced
before the messages that mention them.
-/

namespace TgLoggerd

open Function KeyedTable SerialRun

section

variable {Sender : Type}

/-- The foreign keys of one pair of message tables. Those of the edits and
fwd_info rows to their message are part of the tables themselves. -/
structure MessageTables.ForeignKeys (holds : Entity → Bool) (holdsFile : Nat → Bool)
    (chat : Int → Entity) (senders : Sender → List Entity) (tables : MessageTables Sender) :
    Prop where
  chats : ∀ row ∈ tables.messages.rows, holds (chat row.chatId) = true
  senders : ∀ row ∈ tables.messages.rows, ∀ entity ∈ senders row.sender, holds entity = true
  origins : ∀ fwd ∈ tables.fwdInfo.rows, ∀ entity ∈ originRefs (some fwd.info),
    holds entity = true
  files : ∀ row ∈ tables.messages.rows, ∀ fileId ∈ row.fileId, holdsFile fileId = true
  versions : ∀ edit ∈ tables.edits, ∀ fileId ∈ edit.fileId, holdsFile fileId = true
  replies : ∀ row ∈ tables.messages.rows, ∀ rowId ∈ row.replyToId,
    ∃ target ∈ tables.messages.rows, target.id = rowId ∧
      row.replyToChatId = some target.chatId ∧ row.replyToMsgId = some target.messageId

theorem foreignKeys_of_held (holds : Entity → Bool) (holdsFile : Nat → Bool)
    (chat : Int → Entity) (senders : Sender → List Entity) (tables : MessageTables Sender)
    (held : (archived tables).Held holds chat senders) (home : PointsHome tables)
    (filed : ∀ key fileId, tables.Refers key fileId → holdsFile fileId = true) :
    tables.ForeignKeys holds holdsFile chat senders := by
  have found (row : MessageRow Sender) (member : row ∈ tables.messages.rows) :
      tables.lookup row.key = some row :=
    (Table.lookup_some_iff _ _ _).mpr ⟨member, rfl⟩
  have recorded (row : MessageRow Sender) (member : row ∈ tables.messages.rows) :
      (archived tables).records row.key = some (recordOf tables row) := by
    simp only [archived, found row member, Option.map_some]
  constructor
  · intro row member
    exact (held _ _ (recorded row member)).chat
  · intro row member
    exact (held _ _ (recorded row member)).senders
  · intro fwd member entity referred
    obtain ⟨row, there, same⟩ := tables.fwdHeld fwd member
    apply (held _ _ (recorded row there)).origin
    have noted : tables.fwdInfo.lookup row.id = some fwd :=
      (Table.lookup_some_iff _ _ _).mpr ⟨member, same.symm⟩
    simp only [recordOf, noted, Option.map_some]
    exact referred
  · intro row member fileId linked
    exact filed row.key fileId ⟨_, recorded row member, Or.inl linked⟩
  · intro edit member fileId linked
    obtain ⟨row, there, same⟩ := tables.editsHeld edit member
    refine filed row.key fileId ⟨_, recorded row there, Or.inr ⟨edit.version, ?_, linked⟩⟩
    apply List.mem_map_of_mem
    rw [MessageTables.editsOf, List.mem_filter]
    exact ⟨member, by simp [same]⟩
  · intro row member rowId points
    have reply : replyRow tables row.key = some row.reply := by
      rw [replyRow, found row member, Option.map_some]
    obtain ⟨target, next, chatNamed, messageNamed, there, same⟩ := home _ _ rowId reply points
    obtain ⟨targetRow, stored, rfl⟩ := Option.map_eq_some_iff.mp there
    obtain ⟨present, rfl⟩ := (Table.lookup_some_iff _ _ _).mp stored
    exact ⟨targetRow, present, same, chatNamed, messageNamed⟩

end

section

variable {Key : Type} [DecidableEq Key] {collate : String → Key}

/-- The foreign keys of all tables. -/
structure Store.ForeignKeys (store : Store collate) : Prop where
  users : ∀ id ∈ store.entities.users.owners, store.holds (.user id) = true
  groups : ∀ id ∈ store.entities.groups.owners, store.holds (.group id) = true
  profilePhotos : ∀ row ∈ store.entities.users.users.rows,
    ∀ fileId ∈ row.profilePhotoFileId, store.holdsFile fileId = true
  earlierProfilePhotos : ∀ row ∈ store.entities.users.histProfilePhoto,
    store.holdsFile row.fileId = true
  groupPhotos : ∀ row ∈ store.entities.groups.groups.rows,
    ∀ fileId ∈ row.photoFileId, store.holdsFile fileId = true
  earlierGroupPhotos : ∀ row ∈ store.entities.groups.histPhoto, store.holdsFile row.fileId = true
  privateMessages : store.privates.ForeignKeys store.holds store.holdsFile .user privateSenders
  groupMessages : store.groups.ForeignKeys store.holds store.holdsFile .group groupSenders
  admins : ∀ row ∈ store.admins.admins.rows,
    store.holds (.group row.groupId) = true ∧ store.holds (.user row.userId) = true
  adminHistory : ∀ event ∈ store.admins.events, store.holds (.group event.groupId) = true

omit [DecidableEq Key] in
theorem foreignKeys_of_keyed (store : Store collate) (keyed : store.Keyed)
    (filed : ∀ owner fileId, store.Refers owner fileId → store.holdsFile fileId = true) :
    store.ForeignKeys where
  users := keyed.entities.users
  groups := keyed.entities.groups
  profilePhotos := by
    intro row member fileId shown
    refine filed (.user row.id) fileId (Or.inl ?_)
    have found : store.entities.users.users.lookup row.id = some row :=
      (Table.lookup_some_iff _ _ _).mpr ⟨member, rfl⟩
    simp only [userPhoto, found]
    exact shown
  earlierProfilePhotos := by
    intro row member
    exact filed (.user row.userId) row.fileId (Or.inr (List.mem_map.mpr
      ⟨row, List.mem_filter.mpr ⟨member, by simp⟩, rfl⟩))
  groupPhotos := by
    intro row member fileId shown
    refine filed (.group row.id) fileId (Or.inl ?_)
    have found : store.entities.groups.groups.lookup row.id = some row :=
      (Table.lookup_some_iff _ _ _).mpr ⟨member, rfl⟩
    simp only [groupPhoto, found]
    exact shown
  earlierGroupPhotos := by
    intro row member
    exact filed (.group row.groupId) row.fileId (Or.inr (List.mem_map.mpr
      ⟨row, List.mem_filter.mpr ⟨member, by simp⟩, rfl⟩))
  privateMessages := foreignKeys_of_held _ _ _ _ _ keyed.privates keyed.privateReplies
    fun key fileId refers => filed (.message key.1 key.2 false) fileId refers
  groupMessages := foreignKeys_of_held _ _ _ _ _ keyed.groups keyed.groupReplies
    fun key fileId refers => filed (.message key.1 key.2 true) fileId refers
  admins := by
    intro row member
    refine keyed.admins.rows row.groupId row.userId ?_
    rw [Table.lookup_isSome_iff]
    exact List.mem_map_of_mem member
  adminHistory := keyed.admins.events

namespace Daemon

variable {Worker : Type} [DecidableEq Worker]
  (config : Config) (order : MapOrder) (rowOrder : RowOrder)

theorem keyed_step (d : Daemon collate Worker) (move : Move Worker) (keyed : d.store.Keyed) :
    (step config order rowOrder d move).store.Keyed := by
  have wrote := wrote_step config order rowOrder d move
  generalize (step config order rowOrder d move).store = after at wrote ⊢
  cases wrote with
  | nothing => exact keyed
  | file worker job hashed storing =>
      cases hashed with
      | none => exact keyed
      | some digest =>
          rw [Store.storeFile_eq]
          exact { keyed with }
  | committed write rest queued =>
      rw [Store.commit]
      split
      · next accepted => exact keyed_apply order rowOrder d.store write keyed accepted
      · exact keyed

theorem keyed_runs (moves : List (Move Worker)) :
    (runs config order rowOrder moves : Daemon collate Worker).store.Keyed :=
  run_invariant _ _ (fun d : Daemon collate Worker => d.store.Keyed) keyed_empty
    (fun d move keyed => keyed_step config order rowOrder d move keyed) moves

theorem foreignKeys_runs (moves : List (Move Worker)) :
    (runs config order rowOrder moves : Daemon collate Worker).store.ForeignKeys := by
  have traced : (runs config order rowOrder moves : Daemon collate Worker).FilesTraced :=
    traced_runs order rowOrder config moves
  refine foreignKeys_of_keyed _ (keyed_runs config order rowOrder moves) ?_
  intro owner fileId refers
  obtain ⟨_, digest, _, _, row, member, _, same⟩ := traced.referred owner fileId refers
  exact List.any_eq_true.mpr ⟨row, member, by simpa using same⟩

end Daemon

/-- Whatever the loop, the workers and the network do, wherever jobs fail and
however often the process is killed: all rows that the columns of the database
refer to are in it, and the row a reply points at is the row of the message it
names. So none of the references that the statements write unchecked dangles. -/
theorem foreign_keys_hold {Key : Type} [DecidableEq Key] {collate : String → Key} {Worker : Type}
    [DecidableEq Worker] (config : Config) (order : MapOrder) (rowOrder : RowOrder)
    (moves : List (Daemon.Move Worker)) :
    (Daemon.runs config order rowOrder moves : Daemon collate Worker).store.ForeignKeys :=
  Daemon.foreignKeys_runs config order rowOrder moves

end

end TgLoggerd

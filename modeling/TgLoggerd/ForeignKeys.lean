import TgLoggerd.ArchiveRefinement
import TgLoggerd.ReplyRows
import TgLoggerd.Store
import TgLoggerd.UsernameReplay

/-!
The foreign keys of the migrations. The server checks a row against the tables it
refers to; `Store.accepts` names the transactions in which that check can fail.
Every other reference the statements write is to a row that the same transaction
has just written or read, so the keys hold in whatever the database holds.
-/

namespace TgLoggerd

open Function KeyedTable SerialRun

section

variable {Key : Type} [DecidableEq Key] {collate : String → Key}

/-! The columns user_id and group_id of the tables that hang on users and
groups. -/

def UsernameTables.owners (tables : UsernameTables collate) : List Int :=
  tables.usernames.rows.filterMap UsernameRow.ownerId ++ tables.events.map UsernameEvent.ownerId

def UserTables.owners (tables : UserTables collate) : List Int :=
  tables.histName.map UserHistName.userId ++ tables.histPhoneNum.map UserHistPhoneNum.userId ++
    tables.histProfilePhoto.map UserHistProfilePhoto.userId ++
    tables.histBio.map UserHistBio.userId ++ tables.usernames.owners

def GroupRows.owners (tables : GroupRows collate) : List Int :=
  tables.histTitle.map GroupHistTitle.groupId ++
    tables.histDescription.map GroupHistDescription.groupId ++
    tables.histPhoto.map GroupHistPhoto.groupId ++ tables.usernames.owners

/-- A sync writes its owner, and takes names away from others. -/
theorem owners_sync (order : MapOrder) (tables : UsernameTables collate) (snapshot : Snapshot)
    (id : Int) (member : id ∈ (syncSnapshot order tables snapshot).owners) :
    id ∈ tables.owners ∨ id = snapshot.ownerId := by
  rcases List.mem_append.mp member with named | recorded
  · obtain ⟨row, held, owner⟩ := List.mem_filterMap.mp named
    have found : (syncSnapshot order tables snapshot).lookup (collate row.username) = some row :=
      (Table.lookup_some_iff _ _ _).mpr ⟨held, rfl⟩
    rw [lookup_sync] at found
    cases occurrences : listed collate (collate row.username) snapshot.newList with
    | cons first rest =>
        rw [occurrences] at found
        rw [← Option.some.inj found] at owner
        exact Or.inr (Option.some.inj owner).symm
    | nil =>
        rw [occurrences] at found
        obtain ⟨old, before, rfl⟩ := Option.map_eq_some_iff.mp found
        -- A released name has no owner, any other one keeps it.
        have kept : old.ownerId = some id := by
          unfold release at owner
          split at owner
          · cases owner
          · exact owner
        exact Or.inl (List.mem_append_left _ (List.mem_filterMap.mpr
          ⟨old, ((Table.lookup_some_iff _ _ _).mp before).1, kept⟩))
  · obtain ⟨event, held, rfl⟩ := List.mem_map.mp recorded
    rw [events_sync] at held
    rcases List.mem_append.mp held with old | fresh
    · exact Or.inl (List.mem_append_right _ (List.mem_map_of_mem old))
    · exact Or.inr (owner_syncEvents order tables snapshot event fresh)

/-- Rows that a statement adds for one owner bring no other owner. -/
theorem owner_added {Row Value : Type} (owner : Row → Int) (rows : List Row)
    (values : List Value) (make : Value → Row) (subject id : Int)
    (member : id ∈ (rows ++ values.map make).map owner)
    (own : ∀ value, owner (make value) = subject) : id ∈ rows.map owner ∨ id = subject := by
  rw [List.map_append, List.map_map] at member
  rcases List.mem_append.mp member with old | fresh
  · exact Or.inl old
  · obtain ⟨value, _, rfl⟩ := List.mem_map.mp fresh
    exact Or.inr (own value)

theorem owners_upsertUser (order : MapOrder) (tables : UserTables collate) (u : User) (id : Int)
    (member : id ∈ (upsertUser order tables u).owners) : id ∈ tables.owners ∨ id = u.id := by
  simp only [UserTables.owners, histName_upsertUser, histPhoneNum_upsertUser,
    histProfilePhoto_upsertUser, histBio_upsertUser, usernames_upsertUser, List.mem_append]
    at member ⊢
  rcases member with (((name | phone) | photo) | bio) | username
  · have := owner_added _ _ _ _ u.id id name (fun _ => rfl)
    tauto
  · have := owner_added _ _ _ _ u.id id phone (fun _ => rfl)
    tauto
  · tauto
  · tauto
  · have := owners_sync order tables.usernames u.snapshot id username
    tauto

theorem owners_upsertGroup (order : MapOrder) (tables : GroupRows collate) (g : Group) (id : Int)
    (member : id ∈ (upsertGroup order tables g).owners) : id ∈ tables.owners ∨ id = g.id := by
  simp only [GroupRows.owners, histTitle_upsertGroup, histDescription_upsertGroup,
    histPhoto_upsertGroup, usernames_upsertGroup, List.mem_append] at member ⊢
  rcases member with ((title | description) | photo) | username
  · have := owner_added _ _ _ _ g.id id title (fun _ => rfl)
    tauto
  · have := owner_added _ _ _ _ g.id id description (fun _ => rfl)
    tauto
  · tauto
  · have := owners_sync order tables.usernames g.snapshot id username
    tauto

omit [DecidableEq Key] in
/-- A full info that finds no user leaves no history either. -/
theorem owners_upsertUserFullInfo (tables : UserTables collate) (fi : UserFullInfo) (id : Int)
    (member : id ∈ (upsertUserFullInfo tables fi).owners) :
    id ∈ tables.owners ∨ id = fi.userId ∧ (tables.users.lookup id).isSome = true := by
  cases found : tables.users.lookup fi.userId with
  | none =>
      rw [upsertUserFullInfo_absent tables fi found] at member
      exact Or.inl member
  | some row =>
      obtain ⟨names, phones, photos⟩ := upsertUserFullInfo_others tables fi
      simp only [UserTables.owners, names, phones, photos,
        histBio_upsertUserFullInfo tables fi row found,
        Store.usernames_upsertUserFullInfo, List.mem_append] at member ⊢
      rcases member with (((name | phone) | photo) | bio) | username
      · tauto
      · tauto
      · tauto
      · rcases owner_added _ _ _ _ fi.userId id bio (fun _ => rfl) with old | rfl
        · tauto
        · exact Or.inr ⟨rfl, by rw [found]; rfl⟩
      · tauto

omit [DecidableEq Key] in
theorem owners_setUserProfilePhoto (tables : UserTables collate) (userId : Int) (fileId : Nat)
    (id : Int) (member : id ∈ (setUserProfilePhoto tables userId fileId).owners) :
    id ∈ tables.owners ∨ id = userId ∧ (tables.users.lookup id).isSome = true := by
  cases found : tables.users.lookup userId with
  | none =>
      rw [setUserProfilePhoto_absent tables userId fileId found] at member
      exact Or.inl member
  | some row =>
      obtain ⟨names, phones, bios⟩ := setUserProfilePhoto_others tables userId fileId
      simp only [UserTables.owners, names, phones, bios,
        histProfilePhoto_set tables userId fileId row found,
        Store.usernames_setUserProfilePhoto, List.mem_append] at member ⊢
      rcases member with (((name | phone) | photo) | bio) | username
      · tauto
      · tauto
      · rcases owner_added _ _ _ _ userId id photo (fun _ => rfl) with old | rfl
        · tauto
        · exact Or.inr ⟨rfl, by rw [found]; rfl⟩
      · tauto
      · tauto

omit [DecidableEq Key] in
theorem owners_setGroupPhoto (tables : GroupRows collate) (groupId : Int) (fileId : Nat)
    (id : Int) (member : id ∈ (setGroupPhoto tables groupId fileId).owners) :
    id ∈ tables.owners ∨ id = groupId ∧ (tables.groups.lookup id).isSome = true := by
  cases found : tables.groups.lookup groupId with
  | none =>
      rw [setGroupPhoto_absent tables groupId fileId found] at member
      exact Or.inl member
  | some row =>
      obtain ⟨titles, descriptions⟩ := setGroupPhoto_others tables groupId fileId
      simp only [GroupRows.owners, titles, descriptions,
        histPhoto_set tables groupId fileId row found,
        Store.usernames_setGroupPhoto, List.mem_append] at member ⊢
      rcases member with ((title | description) | photo) | username
      · tauto
      · tauto
      · rcases owner_added _ _ _ _ groupId id photo (fun _ => rfl) with old | rfl
        · tauto
        · exact Or.inr ⟨rfl, by rw [found]; rfl⟩
      · tauto

/-- Everything that hangs on a user or a group hangs on a stored one. -/
structure EntityTables.Owned (tables : EntityTables collate) : Prop where
  users : ∀ id ∈ tables.users.owners, tables.stored (.user id) = true
  groups : ∀ id ∈ tables.groups.owners, tables.stored (.group id) = true

theorem owned_entityStep (order : MapOrder) (tables : EntityTables collate) (op : EntityOp)
    (owned : tables.Owned) : (entityStep order tables op).Owned := by
  have kept (subject : Subject) (held : tables.stored subject = true) :
      (entityStep order tables op).stored subject = true := by
    rw [stored_entityStep, held, Bool.true_or]
  have created (creates : op.creates = true) :
      (entityStep order tables op).stored op.subject = true := by
    rw [stored_entityStep, creates]
    simp
  constructor
  · intro id member
    cases op with
    | upsertUser u =>
        rcases owners_upsertUser order tables.users u id member with old | rfl
        · exact kept _ (owned.users id old)
        · exact created rfl
    | upsertUserFullInfo fi =>
        rcases owners_upsertUserFullInfo tables.users fi id member with old | ⟨_, held⟩
        · exact kept _ (owned.users id old)
        · exact kept (.user id) held
    | setUserProfilePhoto userId fileId =>
        rcases owners_setUserProfilePhoto tables.users userId fileId id member with old | ⟨_, held⟩
        · exact kept _ (owned.users id old)
        · exact kept (.user id) held
    | upsertGroup g => exact kept _ (owned.users id member)
    | setGroupPhoto groupId fileId => exact kept _ (owned.users id member)
  · intro id member
    cases op with
    | upsertUser u => exact kept _ (owned.groups id member)
    | upsertUserFullInfo fi => exact kept _ (owned.groups id member)
    | setUserProfilePhoto userId fileId => exact kept _ (owned.groups id member)
    | upsertGroup g =>
        rcases owners_upsertGroup order tables.groups g id member with old | rfl
        · exact kept _ (owned.groups id old)
        · exact created rfl
    | setGroupPhoto groupId fileId =>
        rcases owners_setGroupPhoto tables.groups groupId fileId id member with old | ⟨_, held⟩
        · exact kept _ (owned.groups id old)
        · exact kept (.group id) held

end

section

variable {Sender : Type} (holds : Entity → Bool) (chat : Int → Entity)
  (senders : Sender → List Entity)

/-- The rows that a record of a chat refers to are there. -/
structure Record.Held (chatId : Int) (record : Record Sender) : Prop where
  chat : holds (chat chatId) = true
  senders : ∀ entity ∈ senders record.sender, holds entity = true
  origin : ∀ entity ∈ originRefs record.forward, holds entity = true

def Archive.Held (archive : Archive Sender) : Prop :=
  ∀ key record, archive.records key = some record → record.Held holds chat senders key.1

def messageRefs (msg : Message Sender) : List Entity := chat msg.chatId :: senders msg.sender

theorem held_mono (wider : Entity → Bool) (grown : ∀ entity, holds entity = true →
    wider entity = true) (archive : Archive Sender) (held : archive.Held holds chat senders) :
    archive.Held wider chat senders := by
  intro key record found
  obtain ⟨chats, sender, origin⟩ := held key record found
  exact ⟨grown _ chats, fun entity member => grown _ (sender entity member),
    fun entity member => grown _ (origin entity member)⟩

/-- What an upsert makes of the record, when the rows it writes keys of are there. -/
theorem held_receive (tables : MessageTables Sender) (msg : Message Sender)
    (held : (archived tables).Held holds chat senders)
    (accepted : ∀ entity ∈ Store.references (messageRefs chat senders) tables msg,
      holds entity = true)
    (record : Record Sender)
    (made : Record.receive msg ((archived tables).records msg.key) = some record) :
    record.Held holds chat senders msg.chatId := by
  have before := held msg.key
  simp only [archived] at before made
  cases found : tables.lookup msg.key with
  | none =>
      rw [found] at made
      simp only [Option.map_none, Record.receive] at made
      split at made
      · cases made
      · next content =>
        cases made
        simp only [Store.references, found, if_neg content, List.mem_append] at accepted
        exact ⟨accepted _ (Or.inl List.mem_cons_self),
          fun entity member => accepted entity (Or.inl (List.mem_cons_of_mem _ member)),
          fun entity member => accepted entity (Or.inr member)⟩
  | some old =>
      rw [found] at before made
      obtain ⟨chats, sender, origin⟩ := before _ rfl
      simp only [Option.map_some, Record.receive] at made
      split at made
      · cases made
        exact ⟨chats, sender, origin⟩
      · next rewrites =>
        cases made
        -- The sender is written again; the origin only if none was noted.
        have kept : ¬ (msg.isDeleted && !old.isDeleted) = true := rewrites
        simp only [Store.references, found, if_neg kept, List.mem_append] at accepted
        refine ⟨chats, fun entity member =>
          accepted entity (Or.inl (List.mem_cons_of_mem _ member)), ?_⟩
        intro entity member
        simp only [Record.revised, recordOf] at member
        cases noted : tables.fwdInfo.lookup old.id with
        | some fwd =>
            rw [noted] at member
            apply origin entity
            simp only [recordOf, noted]
            exact member
        | none =>
            rw [noted, Option.map_none, Option.none_or] at member
            refine accepted entity (Or.inr ?_)
            rw [noted]
            exact member

theorem held_messageStep (tables : MessageTables Sender) (op : MessageOp Sender)
    (held : (archived tables).Held holds chat senders)
    (accepted : ∀ msg, op = .upsert msg →
      ∀ entity ∈ Store.references (messageRefs chat senders) tables msg, holds entity = true) :
    (archived (messageStep tables op)).Held holds chat senders := by
  intro key record found
  rw [archived_step, Archive.records_step] at found
  by_cases named : Archive.names op = key
  · subst named
    rw [update_self] at found
    cases op with
    | upsert msg =>
        exact held_receive holds chat senders tables msg held (accepted msg rfl) record found
    | setFile chatId messageId fileId =>
        obtain ⟨before, there, rfl⟩ := Option.map_eq_some_iff.mp found
        exact { held (chatId, messageId) before there with }
    | setReply chatId messageId replyToChatId replyToMessageId =>
        obtain ⟨before, there, rfl⟩ := Option.map_eq_some_iff.mp found
        exact { held (chatId, messageId) before there with }
  · rw [update_of_ne (Ne.symm named)] at found
    exact held key record found

end

section

variable (holds : Entity → Bool)

structure AdminTables.Held (tables : AdminTables) : Prop where
  rows : ∀ groupId userId, (tables.admins.lookup (groupId, userId)).isSome = true →
    holds (.group groupId) = true ∧ holds (.user userId) = true
  events : ∀ event ∈ tables.events, holds (.group event.groupId) = true

theorem isSome_recordAdmins (groupId : Int) (old : List OldAdmin) (admins : List GroupAdmin)
    (tables : AdminTables) (key : Int × Int)
    (there : ((admins.foldl (recordAdmin groupId old) tables).admins.lookup key).isSome = true) :
    (tables.admins.lookup key).isSome = true ∨ ∃ a ∈ admins, (groupId, a.userId) = key := by
  induction admins generalizing tables with
  | nil => exact Or.inl there
  | cons a rest ih =>
      rw [List.foldl_cons] at there
      rcases ih _ there with before | ⟨other, member, same⟩
      · rw [recordAdmin_eq, lookup_upsertAdmin] at before
        split at before
        · next same => exact Or.inr ⟨a, List.mem_cons_self, same⟩
        · exact Or.inl before
      · exact Or.inr ⟨other, List.mem_cons_of_mem _ member, same⟩

/-- The rows of a sync are old ones or rows of its list, which the keys let in. -/
theorem held_syncAdmins (rowOrder : RowOrder) (tables : AdminTables) (list : GroupAdminList)
    (held : tables.Held holds)
    (accepted : ∀ ga ∈ list.admins,
      holds (.group list.groupId) = true ∧ holds (.user ga.userId) = true) :
    (syncGroupAdmins rowOrder tables list).Held holds := by
  constructor
  · intro groupId userId there
    simp only [syncGroupAdmins, lookup_removeAdmins] at there
    split at there
    · cases there
    · rcases isSome_recordAdmins _ _ _ _ _ there with before | ⟨a, member, same⟩
      · exact held.rows groupId userId before
      · cases same
        exact accepted a member
  · intro event member
    rw [events_syncAdmins] at member
    rcases List.mem_append.mp member with old | fresh
    · exact held.events event old
    · rw [adminEvents_group rowOrder tables list event fresh]
      rcases List.mem_append.mp fresh with changed | removed
      · obtain ⟨a, listed, _⟩ := List.mem_filterMap.mp changed
        exact (accepted a listed).1
      · -- Only a stored administrator of the group is removed.
        obtain ⟨old, stored, _⟩ := List.mem_filterMap.mp removed
        rw [(rowOrder.perm _).mem_iff] at stored
        have row := (mem_oldAdmins tables list.groupId old.userId old).mp ⟨stored, rfl⟩
        obtain ⟨before, there, _⟩ := Option.map_eq_some_iff.mp row
        exact (held.rows list.groupId old.userId (by rw [there]; rfl)).1

end

def privateSenders (sender : PrivateSender) : List Entity :=
  (sender.senderId.map Entity.user).toList

def groupSenders (sender : GroupSender) : List Entity :=
  (sender.senderUserId.map Entity.user).toList ++ (sender.senderChatId.map Entity.group).toList

section

variable {Key : Type} [DecidableEq Key] {collate : String → Key}

/-- The invariant behind the foreign keys, apart from those to files. -/
structure Store.Keyed (store : Store collate) : Prop where
  entities : store.entities.Owned
  privates : (archived store.privates).Held store.holds .user privateSenders
  groups : (archived store.groups).Held store.holds .group groupSenders
  admins : store.admins.Held store.holds
  privateReplies : PointsHome store.privates
  groupReplies : PointsHome store.groups

omit [DecidableEq Key] in
theorem keyed_empty : (Store.empty : Store collate).Keyed where
  entities := ⟨fun _ member => (nomatch member), fun _ member => (nomatch member)⟩
  privates := fun _ _ found => by cases found
  groups := fun _ _ found => by cases found
  admins := ⟨fun _ _ there => (nomatch there), fun _ member => (nomatch member)⟩
  privateReplies := fun _ _ _ found => by cases found
  groupReplies := fun _ _ _ found => by cases found

variable (order : MapOrder) (rowOrder : RowOrder)

theorem holds_grown (before after : Store collate) (grown : before.Extends after)
    (entity : Entity) (held : before.holds entity = true) : after.holds entity = true := by
  cases entity with
  | user userId => exact grown.entities (.user userId) held
  | group chatId => exact grown.entities (.group chatId) held

theorem keyed_apply (store : Store collate) (write : DbWrite) (keyed : store.Keyed)
    (accepted : store.accepts write = true) : (store.apply order rowOrder write).Keyed := by
  have grown := holds_grown _ _ (store.extends_apply order rowOrder write)
  cases write with
  | entity op =>
      -- The other tables stay, and what they refer to is never deleted.
      exact
        { entities := owned_entityStep order store.entities op keyed.entities
          privates := held_mono _ _ _ _ grown _ keyed.privates
          groups := held_mono _ _ _ _ grown _ keyed.groups
          admins :=
            ⟨fun groupId userId there =>
              ⟨grown _ (keyed.admins.rows groupId userId there).1,
                grown _ (keyed.admins.rows groupId userId there).2⟩,
              fun event member => grown _ (keyed.admins.events event member)⟩
          privateReplies := keyed.privateReplies
          groupReplies := keyed.groupReplies }
  | onPrivate op =>
      refine { keyed with privates := ?_, privateReplies := ?_ }
      · change (archived (privateStep store.privates op)).Held store.holds .user privateSenders
        rw [privateStep_eq]
        refine held_messageStep _ _ _ _ op keyed.privates ?_
        rintro msg rfl entity member
        exact List.all_eq_true.mp accepted entity member
      · change PointsHome (privateStep store.privates op)
        rw [privateStep_eq]
        exact pointsHome_step _ _ keyed.privateReplies
  | onGroup op =>
      refine { keyed with groups := ?_, groupReplies := ?_ }
      · change (archived (groupStep store.groups op)).Held store.holds .group groupSenders
        rw [groupStep_eq]
        refine held_messageStep _ _ _ _ op keyed.groups ?_
        rintro msg rfl entity member
        exact List.all_eq_true.mp accepted entity member
      · change PointsHome (groupStep store.groups op)
        rw [groupStep_eq]
        exact pointsHome_step _ _ keyed.groupReplies
  | admins list =>
      refine { keyed with admins := held_syncAdmins _ rowOrder _ list keyed.admins ?_ }
      intro ga member
      have both := List.all_eq_true.mp accepted ga member
      exact (Bool.and_eq_true _ _).mp both |>.imp id id

end

end TgLoggerd

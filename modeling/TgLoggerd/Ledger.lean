import TgLoggerd.ArchiveRefinement
import TgLoggerd.Daemon

/-!
What the database says apart from its files. The links that the file workers
post touch file columns only, and no other job reads these; so two pools and any
number of workers write what one thread would write that ran every job in the
turn that posts it.
-/

namespace TgLoggerd

open Function KeyedTable SerialRun

section

variable {Sender : Type}

def Version.unfiled (version : Version) : Version := { version with fileId := none }

def Record.unfiled (record : Record Sender) : Record Sender :=
  { record with
    fileId := none
    versions := record.versions.map Version.unfiled }

def Archive.unfiled (archive : Archive Sender) : Archive Sender where
  records := Option.map Record.unfiled ∘ archive.records
  resolved := archive.resolved

def MessageOp.isLink : MessageOp Sender → Bool
  | .setFile .. => true
  | .upsert _ => false
  | .setReply .. => false

theorem unfiled_revised (msg : Message Sender) (record : Record Sender) :
    (record.revised msg).unfiled = record.unfiled.revised msg := by
  have aside : (record.setAside msg).map Version.unfiled = record.unfiled.setAside msg := by
    simp only [Record.setAside]
    change List.map _ (if record.editDate < msg.editDate ∧ record.body ≠ msg.body then _ else _) =
      if record.editDate < msg.editDate ∧ record.body ≠ msg.body then _ else _
    split <;> rfl
  simp only [Record.unfiled, Record.revised, List.map_append, aside]

theorem unfiled_receive (msg : Message Sender) (record : Option (Record Sender)) :
    (Record.receive msg record).map Record.unfiled =
      Record.receive msg (record.map Record.unfiled) := by
  cases record with
  | none =>
      simp only [Record.receive, Option.map_none]
      split <;> rfl
  | some old =>
      simp only [Record.receive, Option.map_some]
      change some (Record.unfiled (if (msg.isDeleted && !old.isDeleted) = true then _ else _)) =
        some (if (msg.isDeleted && !old.isDeleted) = true then _ else _)
      split
      · rfl
      · rw [unfiled_revised]

/-- An archive without files is a machine of its own. -/
theorem unfiled_step (archive : Archive Sender) (op : MessageOp Sender) :
    (archive.step op).unfiled = if op.isLink then archive.unfiled else archive.unfiled.step op := by
  cases op with
  | upsert msg =>
      apply archive_ext
      · intro key
        simp only [Archive.unfiled, Archive.step, MessageOp.isLink, comp_update, unfiled_receive]
        rfl
      · intro key
        rfl
  | setFile chatId messageId fileId =>
      apply archive_ext
      · intro key
        simp only [Archive.unfiled, Archive.step, MessageOp.isLink, ↓reduceIte, comp_update,
          Option.map_map]
        by_cases named : key = (chatId, messageId)
        · subst named
          rw [update_self]
          rfl
        · rw [update_of_ne named]
      · intro key
        rfl
  | setReply chatId messageId replyToChatId replyToMessageId =>
      apply archive_ext
      · intro key
        simp only [Archive.unfiled, Archive.step, MessageOp.isLink, comp_update, Option.map_map]
        simp only [comp_apply, Bool.false_eq_true, ↓reduceIte, Option.map_map]
        rfl
      · intro key
        simp only [Archive.unfiled, Archive.step, MessageOp.isLink, comp_apply,
          Option.isSome_map, Bool.false_eq_true, ↓reduceIte]

end

def UserRow.unfiled (row : UserRow) : UserRow := { row with profilePhotoFileId := none }

def GroupRow.unfiled (row : GroupRow) : GroupRow := { row with photoFileId := none }

def EntityOp.isLink : EntityOp → Bool
  | .setUserProfilePhoto .. => true
  | .setGroupPhoto .. => true
  | .upsertUser _ => false
  | .upsertUserFullInfo _ => false
  | .upsertGroup _ => false

def DbWrite.isLink : DbWrite → Bool
  | .entity op => op.isLink
  | .onPrivate op => op.isLink
  | .onGroup op => op.isLink
  | .admins _ => false

section

variable {Key : Type} [DecidableEq Key] {collate : String → Key}

def UserTables.unfiled (tables : UserTables collate) : UserTables collate :=
  { tables with
    users := tables.users.view UserRow.unfiled (fun _ => rfl)
    histProfilePhoto := [] }

def GroupRows.unfiled (tables : GroupRows collate) : GroupRows collate :=
  { tables with
    groups := tables.groups.view GroupRow.unfiled (fun _ => rfl)
    histPhoto := [] }

def EntityTables.unfiled (tables : EntityTables collate) : EntityTables collate where
  users := tables.users.unfiled
  groups := tables.groups.unfiled

variable (order : MapOrder)

omit [DecidableEq Key] in
theorem userTables_ext (left right : UserTables collate) (users : left.users = right.users)
    (names : left.histName = right.histName) (phones : left.histPhoneNum = right.histPhoneNum)
    (photos : left.histProfilePhoto = right.histProfilePhoto)
    (bios : left.histBio = right.histBio) (usernames : left.usernames = right.usernames) :
    left = right := by
  cases left
  cases right
  cases users
  cases names
  cases phones
  cases photos
  cases bios
  cases usernames
  rfl

omit [DecidableEq Key] in
theorem groupRows_ext (left right : GroupRows collate) (groups : left.groups = right.groups)
    (titles : left.histTitle = right.histTitle)
    (descriptions : left.histDescription = right.histDescription)
    (photos : left.histPhoto = right.histPhoto) (usernames : left.usernames = right.usernames) :
    left = right := by
  cases left
  cases right
  cases groups
  cases titles
  cases descriptions
  cases photos
  cases usernames
  rfl

omit [DecidableEq Key] in
theorem lookup_unfiledUser (tables : UserTables collate) (userId : Int) :
    tables.unfiled.users.lookup userId = (tables.users.lookup userId).map UserRow.unfiled :=
  tables.users.lookup_view UserRow.unfiled (fun _ => rfl) userId

omit [DecidableEq Key] in
theorem lookup_unfiledGroup (tables : GroupRows collate) (groupId : Int) :
    tables.unfiled.groups.lookup groupId = (tables.groups.lookup groupId).map GroupRow.unfiled :=
  tables.groups.lookup_view GroupRow.unfiled (fun _ => rfl) groupId

theorem unfiled_upsertUser (tables : UserTables collate) (u : User) :
    (upsertUser order tables u).unfiled = upsertUser order tables.unfiled u := by
  apply userTables_ext
  · change (upsertUser order tables u).users.view UserRow.unfiled (fun _ => rfl) = _
    simp only [users_upsertUser]
    exact tables.users.insertOrUpdate_view UserRow.unfiled (fun _ => rfl) (newUserRow u)
      (overwriteUser u) (fun _ => rfl) (newUserRow u) (overwriteUser u) (fun _ => rfl) rfl
      (fun _ => rfl)
  · change (upsertUser order tables u).histName = _
    rw [histName_upsertUser, histName_upsertUser, lookup_unfiledUser, Option.map_map]
    rfl
  · change (upsertUser order tables u).histPhoneNum = _
    rw [histPhoneNum_upsertUser, histPhoneNum_upsertUser, lookup_unfiledUser, Option.map_map]
    rfl
  · rw [histProfilePhoto_upsertUser]
    rfl
  · change (upsertUser order tables u).histBio = _
    rw [histBio_upsertUser, histBio_upsertUser]
    rfl
  · change (upsertUser order tables u).usernames = _
    rw [usernames_upsertUser, usernames_upsertUser]
    rfl

omit [DecidableEq Key] in
theorem unfiled_upsertUserFullInfo (tables : UserTables collate) (fi : UserFullInfo) :
    (upsertUserFullInfo tables fi).unfiled = upsertUserFullInfo tables.unfiled fi := by
  cases found : tables.users.lookup fi.userId with
  | none =>
      have absent : tables.unfiled.users.lookup fi.userId = none := by
        rw [lookup_unfiledUser, found, Option.map_none]
      rw [upsertUserFullInfo_absent tables fi found,
        upsertUserFullInfo_absent tables.unfiled fi absent]
  | some old =>
      have held : tables.unfiled.users.lookup fi.userId = some old.unfiled := by
        rw [lookup_unfiledUser, found, Option.map_some]
      simp only [upsertUserFullInfo, found, held]
      apply userTables_ext
      · apply Table.table_ext
        simp only [UserTables.unfiled, Table.view, Table.revise, List.map_map]
        apply List.map_congr_left
        intro row _
        simp only [comp_apply]
        split
        · next same => rw [if_pos (show row.unfiled.id = fi.userId from same)]; rfl
        · next other => rw [if_neg (show ¬ row.unfiled.id = fi.userId from other)]
      all_goals rfl

omit [DecidableEq Key] in
theorem unfiled_setUserProfilePhoto (tables : UserTables collate) (userId : Int) (fileId : Nat) :
    (setUserProfilePhoto tables userId fileId).unfiled = tables.unfiled := by
  have tracked : (trackProfilePhotoChange tables userId fileId).users = tables.users := by
    simp only [trackProfilePhotoChange]
    split
    · rfl
    · split
      · rfl
      · split <;> rfl
  obtain ⟨names, phones, bios⟩ := setUserProfilePhoto_others tables userId fileId
  apply userTables_ext
  · apply Table.table_ext
    simp only [UserTables.unfiled, setUserProfilePhoto, tracked, Table.view, Table.revise,
      List.map_map]
    apply List.map_congr_left
    intro row _
    simp only [comp_apply]
    split <;> rfl
  · exact names
  · exact phones
  · rfl
  · exact bios
  · exact Store.usernames_setUserProfilePhoto tables userId fileId

theorem unfiled_upsertGroup (tables : GroupRows collate) (g : Group) :
    (upsertGroup order tables g).unfiled = upsertGroup order tables.unfiled g := by
  apply groupRows_ext
  · change (upsertGroup order tables g).groups.view GroupRow.unfiled (fun _ => rfl) = _
    simp only [groups_upsertGroup]
    exact tables.groups.insertOrUpdate_view GroupRow.unfiled (fun _ => rfl) (newGroupRow g)
      (overwriteGroup g) (fun _ => rfl) (newGroupRow g) (overwriteGroup g) (fun _ => rfl) rfl
      (fun _ => rfl)
  · change (upsertGroup order tables g).histTitle = _
    rw [histTitle_upsertGroup, histTitle_upsertGroup, lookup_unfiledGroup, Option.map_map]
    rfl
  · change (upsertGroup order tables g).histDescription = _
    rw [histDescription_upsertGroup, histDescription_upsertGroup, lookup_unfiledGroup,
      Option.map_map]
    rfl
  · rw [histPhoto_upsertGroup]
    rfl
  · change (upsertGroup order tables g).usernames = _
    rw [usernames_upsertGroup, usernames_upsertGroup]
    rfl

omit [DecidableEq Key] in
theorem unfiled_setGroupPhoto (tables : GroupRows collate) (groupId : Int) (fileId : Nat) :
    (setGroupPhoto tables groupId fileId).unfiled = tables.unfiled := by
  have tracked : (trackGroupPhotoChange tables groupId fileId).groups = tables.groups := by
    simp only [trackGroupPhotoChange]
    split
    · rfl
    · split
      · rfl
      · split <;> rfl
  obtain ⟨titles, descriptions⟩ := setGroupPhoto_others tables groupId fileId
  apply groupRows_ext
  · apply Table.table_ext
    simp only [GroupRows.unfiled, setGroupPhoto, tracked, Table.view, Table.revise, List.map_map]
    apply List.map_congr_left
    intro row _
    simp only [comp_apply]
    split <;> rfl
  · exact titles
  · exact descriptions
  · rfl
  · exact Store.usernames_setGroupPhoto tables groupId fileId

theorem unfiled_entityStep (tables : EntityTables collate) (op : EntityOp) :
    (entityStep order tables op).unfiled =
      if op.isLink then tables.unfiled else entityStep order tables.unfiled op := by
  cases op with
  | upsertUser u =>
      simp only [entityStep, EntityTables.unfiled, EntityOp.isLink, unfiled_upsertUser]
      rfl
  | upsertUserFullInfo fi =>
      simp only [entityStep, EntityTables.unfiled, EntityOp.isLink, unfiled_upsertUserFullInfo]
      rfl
  | setUserProfilePhoto userId fileId =>
      simp only [entityStep, EntityTables.unfiled, EntityOp.isLink, unfiled_setUserProfilePhoto]
      rfl
  | upsertGroup g =>
      simp only [entityStep, EntityTables.unfiled, EntityOp.isLink, unfiled_upsertGroup]
      rfl
  | setGroupPhoto groupId fileId =>
      simp only [entityStep, EntityTables.unfiled, EntityOp.isLink, unfiled_setGroupPhoto]
      rfl

/-- The database without its files. -/
structure Ledger (collate : String → Key) where
  entities : EntityTables collate
  privates : Archive PrivateSender
  groups : Archive GroupSender
  admins : AdminTables

variable (rowOrder : RowOrder)

namespace Ledger

def empty : Ledger collate where
  entities := EntityTables.empty
  privates := Archive.empty
  groups := Archive.empty
  admins := AdminTables.empty

def holds (ledger : Ledger collate) : Entity → Bool
  | .user userId => ledger.entities.stored (.user userId)
  | .group chatId => ledger.entities.stored (.group chatId)

def references {Sender : Type} (rowRefs : Message Sender → List Entity)
    (archive : Archive Sender) (msg : Message Sender) : List Entity :=
  match archive.records msg.key with
  | none => if msg.isDeleted then [] else rowRefs msg ++ originRefs msg.forwardInfo
  | some record =>
      if msg.isDeleted && !record.isDeleted then []
      else rowRefs msg ++ if record.forward.isSome then [] else originRefs msg.forwardInfo

def acceptsMessage {Sender : Type} (ledger : Ledger collate)
    (rowRefs : Message Sender → List Entity) (archive : Archive Sender) :
    MessageOp Sender → Bool
  | .upsert msg => (references rowRefs archive msg).all ledger.holds
  | .setFile _ _ _ => true
  | .setReply _ _ _ _ => true

def accepts (ledger : Ledger collate) : DbWrite → Bool
  | .entity _ => true
  | .onPrivate op => ledger.acceptsMessage privateRefs ledger.privates op
  | .onGroup op => ledger.acceptsMessage groupRefs ledger.groups op
  | .admins list =>
      list.admins.all fun ga =>
        ledger.holds (.group list.groupId) && ledger.holds (.user ga.userId)

def apply (ledger : Ledger collate) : DbWrite → Ledger collate
  | .entity op => { ledger with entities := entityStep order ledger.entities op }
  | .onPrivate op => { ledger with privates := ledger.privates.step op }
  | .onGroup op => { ledger with groups := ledger.groups.step op }
  | .admins list => { ledger with admins := syncGroupAdmins rowOrder ledger.admins list }

def commit (ledger : Ledger collate) (write : DbWrite) : Ledger collate :=
  if ledger.accepts write then ledger.apply order rowOrder write else ledger

end Ledger

namespace Store

def ledger (store : Store collate) : Ledger collate where
  entities := store.entities.unfiled
  privates := (archived store.privates).unfiled
  groups := (archived store.groups).unfiled
  admins := store.admins

omit [DecidableEq Key] in
theorem holds_ledger (store : Store collate) (entity : Entity) :
    store.ledger.holds entity = store.holds entity := by
  cases entity with
  | user userId =>
      change (store.entities.users.unfiled.users.lookup userId).isSome = _
      rw [lookup_unfiledUser, Option.isSome_map]
      rfl
  | group chatId =>
      change (store.entities.groups.unfiled.groups.lookup chatId).isSome = _
      rw [lookup_unfiledGroup, Option.isSome_map]
      rfl

theorem references_ledger {Sender : Type} (rowRefs : Message Sender → List Entity)
    (tables : MessageTables Sender) (msg : Message Sender) :
    Ledger.references rowRefs (archived tables).unfiled msg = references rowRefs tables msg := by
  cases found : tables.lookup msg.key with
  | none => simp only [Ledger.references, references, Archive.unfiled, archived, comp_apply, found,
      Option.map_none]
  | some old =>
      simp only [Ledger.references, references, Archive.unfiled, archived, comp_apply, found,
        Option.map_some, Record.unfiled, recordOf, Option.isSome_map]

omit [DecidableEq Key] in
theorem acceptsMessage_ledger {Sender : Type} (store : Store collate)
    (rowRefs : Message Sender → List Entity) (tables : MessageTables Sender)
    (op : MessageOp Sender) (content : op.isLink = false) :
    store.ledger.acceptsMessage rowRefs (archived tables).unfiled op =
      store.acceptsMessage rowRefs tables op := by
  cases op with
  | upsert msg =>
      have same : store.ledger.holds = store.holds := funext store.holds_ledger
      rw [Ledger.acceptsMessage, acceptsMessage, references_ledger, same]
  | setFile chatId messageId fileId => cases content
  | setReply chatId messageId replyToChatId replyToMessageId => rfl

omit [DecidableEq Key] in
/-- No foreign key of another job points at a file. -/
theorem accepts_ledger (store : Store collate) (write : DbWrite) (content : write.isLink = false) :
    store.ledger.accepts write = store.accepts write := by
  cases write with
  | entity op => cases op <;> first | rfl | cases content
  | onPrivate op => exact store.acceptsMessage_ledger privateRefs store.privates op content
  | onGroup op => exact store.acceptsMessage_ledger groupRefs store.groups op content
  | admins list => simp only [Ledger.accepts, accepts, holds_ledger]

/-- A link changes nothing of the ledger, and another job changes of it what the
ledger says. -/
theorem ledger_apply (store : Store collate) (write : DbWrite) :
    (store.apply order rowOrder write).ledger =
      if write.isLink then store.ledger else store.ledger.apply order rowOrder write := by
  cases write with
  | entity op =>
      have effect := unfiled_entityStep order store.entities op
      by_cases link : op.isLink = true
      · rw [if_pos link] at effect
        rw [if_pos (show (DbWrite.entity op).isLink = true from link)]
        simp only [apply, ledger, effect]
      · rw [if_neg link] at effect
        rw [if_neg (show ¬ (DbWrite.entity op).isLink = true from link)]
        simp only [apply, ledger, effect, Ledger.apply]
  | onPrivate op =>
      have effect := unfiled_step (archived store.privates) op
      rw [← archived_step, ← privateStep_eq] at effect
      by_cases link : op.isLink = true
      · rw [if_pos link] at effect
        rw [if_pos (show (DbWrite.onPrivate op).isLink = true from link)]
        simp only [apply, ledger, effect]
      · rw [if_neg link] at effect
        rw [if_neg (show ¬ (DbWrite.onPrivate op).isLink = true from link)]
        simp only [apply, ledger, effect, Ledger.apply]
  | onGroup op =>
      have effect := unfiled_step (archived store.groups) op
      rw [← archived_step, ← groupStep_eq] at effect
      by_cases link : op.isLink = true
      · rw [if_pos link] at effect
        rw [if_pos (show (DbWrite.onGroup op).isLink = true from link)]
        simp only [apply, ledger, effect]
      · rw [if_neg link] at effect
        rw [if_neg (show ¬ (DbWrite.onGroup op).isLink = true from link)]
        simp only [apply, ledger, effect, Ledger.apply]
  | admins list => rfl

theorem ledger_projects :
    Projection.Projects (commit order rowOrder) (ledger : Store collate → Ledger collate)
      (Ledger.commit order rowOrder) (fun write => !write.isLink) where
  own := by
    intro store write content
    have other : write.isLink = false := by simpa using content
    rw [commit, Ledger.commit, accepts_ledger store write other]
    split
    · rw [ledger_apply, other, if_neg (by simp)]
    · rfl
  other := by
    intro store write content
    have link : write.isLink = true := by simpa using content
    rw [commit]
    split
    · rw [ledger_apply, link, if_pos rfl]
    · rfl

theorem ledger_storeFile (store : Store collate) (hashed : Option Digest) (download : Download) :
    (store.storeFile hashed download).2.ledger = store.ledger := by
  cases hashed with
  | none => rfl
  | some digest =>
      rw [storeFile_eq]
      rfl

end Store

end

end TgLoggerd

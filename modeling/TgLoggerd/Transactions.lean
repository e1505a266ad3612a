import TgLoggerd.EntityStatements
import TgLoggerd.Scripts

/-!
The functions of `models/` as scripts: which statements they send in which order, and
which rows they look at before they send the next. Each does to its tables what the
store says.
-/

namespace TgLoggerd.Transactions

open KeyedTable RowLayout Mysql Mysql.Script

section

variable {Key : Type} [DecidableEq Key] {collate : String → Key}

def recordChange (ownerId : Int) (old : List (String × Entry)) (new : String × Entry) :
    Script (UsernameTables collate) :=
  match changeEvent ownerId old new with
  | some event => .execute (fun tables => insertEvent tables event) .finish
  | none => .finish

def releaseMissing (ownerId : Int) (new : List (String × Entry)) (old : String × Entry) :
    Script (UsernameTables collate) :=
  if (findEntry new old.1).isSome then .finish
  else
    .execute (fun tables => insertEvent tables ⟨ownerId, old.1, .removed, none, none⟩) <|
    .execute
      (fun tables =>
        { tables with usernames := Statements.releaseUsername ownerId old.1 tables.usernames })
      .finish

def claimUsername (ownerId : Int) (new : String × Entry) : Script (UsernameTables collate) :=
  .execute
    (fun tables =>
      { tables with usernames := Statements.claimUsername ownerId new tables.usernames })
    .finish

/-- The body shared by `DB::syncUsernames` and `DB::syncGroupUsernames`. -/
def syncUsernames (order : MapOrder) (snapshot : Snapshot) : Script (UsernameTables collate) :=
  -- The three loops see the rows as they were before the first of them.
  query (fun tables => Statements.selectUsernames snapshot.ownerId tables.usernames) fun oldRows =>
    let old := oldRows.filterMap Statements.oldEntry
    andThen (each snapshot.newList (recordChange snapshot.ownerId old)) <|
    andThen (each (order.visit old) (releaseMissing snapshot.ownerId snapshot.newList)) <|
    each snapshot.newList (claimUsername snapshot.ownerId)

omit [DecidableEq Key] in
theorem runs_recordChange (ownerId : Int) (old : List (String × Entry)) (new : String × Entry)
    (tables : UsernameTables collate) :
    (recordChange ownerId old new).runs tables =
      TgLoggerd.recordChange ownerId old tables new := by
  unfold recordChange TgLoggerd.recordChange
  cases changeEvent ownerId old new <;> rfl

theorem runs_releaseMissing (ownerId : Int) (new : List (String × Entry)) (old : String × Entry)
    (tables : UsernameTables collate) :
    (releaseMissing ownerId new old).runs tables =
      TgLoggerd.releaseMissing ownerId new tables old := by
  unfold releaseMissing TgLoggerd.releaseMissing
  split
  · rfl
  · simp only [runs_execute, runs_finish, Statements.releaseUsername_eq]

theorem runs_claimUsername (ownerId : Int) (new : String × Entry)
    (tables : UsernameTables collate) :
    (claimUsername ownerId new).runs tables = TgLoggerd.claimUsername ownerId tables new :=
  Statements.claimUsername_eq tables ownerId new

theorem runs_syncUsernames (order : MapOrder) (snapshot : Snapshot)
    (tables : UsernameTables collate) :
    (syncUsernames order snapshot).runs tables = syncSnapshot order tables snapshot := by
  have recorded := runs_each snapshot.newList _ _
    (@runs_recordChange Key collate snapshot.ownerId (oldMap tables snapshot.ownerId))
  have released := runs_each (order.visit (oldMap tables snapshot.ownerId)) _ _
    (@runs_releaseMissing Key _ collate snapshot.ownerId snapshot.newList)
  have claimed (before : UsernameTables collate) :=
    runs_each snapshot.newList (claimUsername snapshot.ownerId)
      (TgLoggerd.claimUsername snapshot.ownerId) (runs_claimUsername snapshot.ownerId) before
  simp only [syncUsernames, runs_query, runs_andThen, Statements.old_entries, recorded, released,
    claimed, syncSnapshot]

/-- The body shared by `DB::trackProfilePhotoChange` and `DB::trackGroupPhotoChange`:
the photo that was there is recorded, or the first one. -/
def trackPhotoChange {Db : Type} (select : Db → List (List Param)) (record : Nat → Db → Db)
    (fileId : Nat) : Script Db :=
  query select fun rows =>
    match rows with
    | [] => .finish
    | row :: _ =>
        match (fetched row 0).int? with
        | none => .insert (record fileId) .finish
        | some oldId =>
            if oldId.toNat = fileId then .finish else .insert (record oldId.toNat) .finish

/-- With the photo that the rows of the entity, if it is there, hold in their column. -/
theorem runs_trackPhotoChange {Db : Type} (select : Db → List (List Param))
    (photo : Db → Option (Option Nat)) (record : Nat → Db → Db) (fileId : Nat) (db : Db)
    (held : select db = (photo db).toList.map fun stored => [Param.ofNat stored]) :
    (trackPhotoChange select record fileId).runs db =
      match photo db with
      | none => db
      | some none => record fileId db
      | some (some oldId) => if oldId = fileId then db else record oldId db := by
  simp only [trackPhotoChange, runs_query, held]
  cases photo db with
  | none => rfl
  | some stored =>
      cases stored with
      | none => rfl
      | some oldId =>
          by_cases same : oldId = fileId <;> simp [same, fetched, Param.ofNat]

/-- A statement on `users`. -/
def onUsers (statement : Table UserRow.id → Table UserRow.id) (tables : UserTables collate) :
    UserTables collate :=
  { tables with users := statement tables.users }

def insertName (userId : Int) (firstName lastName : String) (tables : UserTables collate) :
    UserTables collate :=
  { tables with histName := tables.histName ++ [⟨userId, firstName, lastName⟩] }

def insertPhoneNum (userId : Int) (phoneNumber : String) (tables : UserTables collate) :
    UserTables collate :=
  { tables with histPhoneNum := tables.histPhoneNum ++ [⟨userId, phoneNumber⟩] }

def upsertUser (order : MapOrder) (u : User) : Script (UserTables collate) :=
  query (fun tables =>
      userLayout.select [.firstName, .lastName, .phoneNumber] u.id tables.users) fun old =>
    .execute (onUsers (Statements.writeUser u)) <|
    andThen
      (match old with
        | [] =>
            .insert (insertName u.id u.firstName u.lastName) <|
            .insert (insertPhoneNum u.id u.phoneNumber) .finish
        | r :: _ =>
            let oldFirst := (fetched r 0).text?.getD ""
            let oldLast := (fetched r 1).text?.getD ""
            let oldPhone := (fetched r 2).text?.getD ""
            andThen
              (guarded (oldFirst ≠ u.firstName ∨ oldLast ≠ u.lastName)
                (.insert (insertName u.id oldFirst oldLast) .finish)) <|
              guarded (oldPhone ≠ u.phoneNumber)
                (.insert (insertPhoneNum u.id oldPhone) .finish)) <|
    (syncUsernames order u.snapshot).onto UserTables.usernames
      fun usernames tables => { tables with usernames := usernames }

theorem runs_upsertUser (order : MapOrder) (u : User) (tables : UserTables collate) :
    (upsertUser order u).runs tables = TgLoggerd.upsertUser order tables u := by
  have part : Part (UserTables.usernames : UserTables collate → UsernameTables collate)
      fun usernames tables => { tables with usernames := usernames } := by
    constructor <;> intros <;> rfl
  simp only [upsertUser, runs_query, runs_execute, runs_andThen, runs_onto _ _ part,
    runs_syncUsernames, onUsers, Statements.writeUser_eq, Layout.select, TgLoggerd.upsertUser,
    TgLoggerd.syncUsernames]
  cases tables.users.lookup u.id with
  | none => rfl
  | some row =>
      simp only [Option.toList_some, List.map_cons, List.map_nil, runs_andThen, runs_guarded,
        runs_insert, runs_finish]
      simp only [fetched, userLayout, UserColumn.read, List.getD_cons_zero, List.getD_cons_succ,
        Param.text?_text, Option.getD_some]
      split_ifs <;> rfl

def trackProfilePhotoChange (userId : Int) (fileId : Nat) : Script (UserTables collate) :=
  trackPhotoChange (fun tables => userLayout.select [.profilePhotoFileId] userId tables.users)
    (fun photo tables =>
      { tables with histProfilePhoto := tables.histProfilePhoto ++ [⟨userId, photo⟩] })
    fileId

omit [DecidableEq Key] in
theorem runs_trackProfilePhotoChange (userId : Int) (fileId : Nat) (tables : UserTables collate) :
    (trackProfilePhotoChange userId fileId).runs tables =
      TgLoggerd.trackProfilePhotoChange tables userId fileId := by
  rw [trackProfilePhotoChange, runs_trackPhotoChange _
    (fun tables => (tables.users.lookup userId).map UserRow.profilePhotoFileId),
    TgLoggerd.trackProfilePhotoChange]
  · cases tables.users.lookup userId with
    | none => rfl
    | some row =>
        simp only [Option.map_some]
        cases row.profilePhotoFileId <;> rfl
  · simp only [Layout.select]
    cases tables.users.lookup userId <;> rfl

def setUserProfilePhoto (userId : Int) (fileId : Nat) : Script (UserTables collate) :=
  andThen (trackProfilePhotoChange userId fileId) <|
    .execute (onUsers (Statements.assignProfilePhoto userId fileId)) .finish

omit [DecidableEq Key] in
theorem runs_setUserProfilePhoto (userId : Int) (fileId : Nat) (tables : UserTables collate) :
    (setUserProfilePhoto userId fileId).runs tables =
      TgLoggerd.setUserProfilePhoto tables userId fileId := by
  simp only [setUserProfilePhoto, runs_andThen, runs_trackProfilePhotoChange, runs_execute,
    runs_finish, onUsers, Statements.assignProfilePhoto_eq]
  rfl

/-- Without a row of the user nothing is written. -/
def upsertUserFullInfo (fi : UserFullInfo) : Script (UserTables collate) :=
  query (fun tables => userLayout.select [.bio] fi.userId tables.users) fun old =>
    match old with
    | [] => .finish
    | row :: _ =>
        let oldBio := (fetched row 0).text?.getD ""
        andThen
          (guarded (oldBio ≠ fi.bio)
            (.insert (fun tables =>
              { tables with histBio := tables.histBio ++ [⟨fi.userId, oldBio⟩] }) .finish)) <|
          .execute (onUsers (Statements.writeFullInfo fi)) .finish

omit [DecidableEq Key] in
theorem runs_upsertUserFullInfo (fi : UserFullInfo) (tables : UserTables collate) :
    (upsertUserFullInfo fi).runs tables = TgLoggerd.upsertUserFullInfo tables fi := by
  simp only [upsertUserFullInfo, runs_query, Layout.select, TgLoggerd.upsertUserFullInfo]
  cases tables.users.lookup fi.userId with
  | none => rfl
  | some old =>
      simp only [Option.toList_some, List.map_cons, List.map_nil, runs_andThen, runs_guarded,
        runs_insert, runs_execute, runs_finish, onUsers, Statements.writeFullInfo_eq]
      simp only [fetched, userLayout, UserColumn.read, List.getD_cons_zero, Param.text?_text,
        Option.getD_some]
      split_ifs <;> rfl

/-- A statement on `groups`. -/
def onGroups (statement : Table GroupRow.id → Table GroupRow.id) (tables : GroupRows collate) :
    GroupRows collate :=
  { tables with groups := statement tables.groups }

def insertTitle (groupId : Int) (title : String) (tables : GroupRows collate) :
    GroupRows collate :=
  { tables with histTitle := tables.histTitle ++ [⟨groupId, title⟩] }

def insertDescription (groupId : Int) (description : String) (tables : GroupRows collate) :
    GroupRows collate :=
  { tables with histDescription := tables.histDescription ++ [⟨groupId, description⟩] }

def upsertGroup (order : MapOrder) (g : Group) : Script (GroupRows collate) :=
  query (fun tables => groupsLayout.select [.title, .description] g.id tables.groups) fun old =>
    .execute (onGroups (Statements.writeGroup g)) <|
    andThen
      (match old with
        | [] =>
            .insert (insertTitle g.id g.title) <|
            .insert (insertDescription g.id g.description) .finish
        | row :: _ =>
            let oldTitle := (fetched row 0).text?.getD ""
            let oldDescription := (fetched row 1).text?.getD ""
            andThen
              (guarded (oldTitle ≠ g.title) (.insert (insertTitle g.id oldTitle) .finish)) <|
              guarded (oldDescription ≠ g.description)
                (.insert (insertDescription g.id oldDescription) .finish)) <|
    (syncUsernames order g.snapshot).onto GroupRows.usernames
      fun usernames tables => { tables with usernames := usernames }

theorem runs_upsertGroup (order : MapOrder) (g : Group) (tables : GroupRows collate) :
    (upsertGroup order g).runs tables = TgLoggerd.upsertGroup order tables g := by
  have part : Part (GroupRows.usernames : GroupRows collate → UsernameTables collate)
      fun usernames tables => { tables with usernames := usernames } := by
    constructor <;> intros <;> rfl
  simp only [upsertGroup, runs_query, runs_execute, runs_andThen, runs_onto _ _ part,
    runs_syncUsernames, onGroups, Statements.writeGroup_eq, Layout.select, TgLoggerd.upsertGroup,
    TgLoggerd.syncGroupUsernames]
  cases tables.groups.lookup g.id with
  | none => rfl
  | some row =>
      simp only [Option.toList_some, List.map_cons, List.map_nil, runs_andThen, runs_guarded,
        runs_insert, runs_finish]
      simp only [fetched, groupsLayout, GroupsColumn.read, List.getD_cons_zero,
        List.getD_cons_succ, Param.text?_text, Option.getD_some]
      split_ifs <;> rfl

def trackGroupPhotoChange (groupId : Int) (fileId : Nat) : Script (GroupRows collate) :=
  trackPhotoChange (fun tables => groupsLayout.select [.photoFileId] groupId tables.groups)
    (fun photo tables => { tables with histPhoto := tables.histPhoto ++ [⟨groupId, photo⟩] })
    fileId

omit [DecidableEq Key] in
theorem runs_trackGroupPhotoChange (groupId : Int) (fileId : Nat) (tables : GroupRows collate) :
    (trackGroupPhotoChange groupId fileId).runs tables =
      TgLoggerd.trackGroupPhotoChange tables groupId fileId := by
  rw [trackGroupPhotoChange, runs_trackPhotoChange _
    (fun tables => (tables.groups.lookup groupId).map GroupRow.photoFileId),
    TgLoggerd.trackGroupPhotoChange]
  · cases tables.groups.lookup groupId with
    | none => rfl
    | some row =>
        simp only [Option.map_some]
        cases row.photoFileId <;> rfl
  · simp only [Layout.select]
    cases tables.groups.lookup groupId <;> rfl

def setGroupPhoto (groupId : Int) (fileId : Nat) : Script (GroupRows collate) :=
  andThen (trackGroupPhotoChange groupId fileId) <|
    .execute (onGroups (Statements.assignGroupPhoto groupId fileId)) .finish

omit [DecidableEq Key] in
theorem runs_setGroupPhoto (groupId : Int) (fileId : Nat) (tables : GroupRows collate) :
    (setGroupPhoto groupId fileId).runs tables =
      TgLoggerd.setGroupPhoto tables groupId fileId := by
  simp only [setGroupPhoto, runs_andThen, runs_trackGroupPhotoChange, runs_execute, runs_finish,
    onGroups, Statements.assignGroupPhoto_eq]
  rfl

end

/-! The administrators: every turn of both loops writes before the next one. -/

/-- One turn of the loop over the fetched admins. -/
def recordAdmin (groupId : Int) (old : List OldAdmin) (a : GroupAdmin) : Script AdminTables :=
  let event (action : AdminAction) : GroupAdminEvent :=
    { groupId := groupId
      userId := a.userId
      action := action
      status := adminStatus a
      customTitle := a.customTitle
      rights := bindRights histColumns (adminRights a) }
  .execute (fun tables => upsertAdmin groupId tables a) <|
    match old.find? fun row => row.userId = a.userId with
    | none => .execute (fun tables => insertAdminEvent tables (event .added)) .finish
    | some before =>
        guarded (adminChanged before a = true)
          (.execute (fun tables => insertAdminEvent tables (event .updated)) .finish)

/-- One turn of the loop over the stored admins. -/
def removeAdmin (groupId : Int) (admins : List GroupAdmin) (old : OldAdmin) :
    Script AdminTables :=
  if admins.any fun a => a.userId = old.userId then .finish
  else
    .execute (fun tables => insertAdminEvent tables
      { groupId := groupId
        userId := old.userId
        action := .removed
        status := old.status
        customTitle := old.customTitle
        rights := bindRights histColumns old.rights }) <|
    .execute (fun tables => { tables with admins := tables.admins.delete (groupId, old.userId) })
      .finish

def syncGroupAdmins (order : RowOrder) (list : GroupAdminList) : Script AdminTables :=
  query (fun tables => order.visit (oldAdmins tables list.groupId)) fun old =>
    andThen (each list.admins (recordAdmin list.groupId old)) <|
    each old (removeAdmin list.groupId list.admins)

theorem runs_recordAdmin (groupId : Int) (old : List OldAdmin) (a : GroupAdmin)
    (tables : AdminTables) :
    (recordAdmin groupId old a).runs tables = TgLoggerd.recordAdmin groupId old tables a := by
  simp only [recordAdmin, TgLoggerd.recordAdmin, runs_execute]
  cases old.find? fun row => row.userId = a.userId with
  | none => rfl
  | some before => exact runs_guarded _ _ _

theorem runs_removeAdmin (groupId : Int) (admins : List GroupAdmin) (old : OldAdmin)
    (tables : AdminTables) :
    (removeAdmin groupId admins old).runs tables =
      TgLoggerd.removeAdmin groupId admins tables old := by
  unfold removeAdmin TgLoggerd.removeAdmin
  split <;> rfl

theorem runs_syncGroupAdmins (order : RowOrder) (list : GroupAdminList) (tables : AdminTables) :
    (syncGroupAdmins order list).runs tables = TgLoggerd.syncGroupAdmins order tables list := by
  have recorded := runs_each list.admins _ _
    (runs_recordAdmin list.groupId (order.visit (oldAdmins tables list.groupId)))
  have removed := runs_each (order.visit (oldAdmins tables list.groupId)) _ _
    (runs_removeAdmin list.groupId list.admins)
  simp only [syncGroupAdmins, runs_query, runs_andThen, recorded, removed,
    TgLoggerd.syncGroupAdmins]

section

variable {Sender Own : Type} [Inhabited Sender]

def snapshotMessageEditIfChanged (messageRowId : Nat) (oldContent : MessageContent)
    (oldEditDate : Int) (newContent : MessageContent) (newEditDate : Int) :
    Script (MessageTables Sender) :=
  if newEditDate ≤ oldEditDate then .finish
  else if oldContent.contentType = newContent.contentType ∧ oldContent.text = newContent.text then
    .finish
  else
    .execute (fun tables => insertEdit tables
      { messageRowId := messageRowId
        contentType := oldContent.contentType
        text := oldContent.text
        fileId := oldContent.fileId
        editDate := newEditDate }) .finish

def insertForwardInfo (messageRowId : Nat) (info : ForwardInfo) : Script (MessageTables Sender) :=
  query (fun tables => (tables.fwdInfo.lookup messageRowId).isSome) fun recorded =>
    if recorded then .finish
    else .execute (fun tables => TgLoggerd.insertForwardInfo tables messageRowId info) .finish

/-- The branch of an upsert that finds no row. -/
def insertMessage (schema : Schema Sender Own) (upsertSql : UpsertStatement Own)
    (params : List Param) (msg : Message Sender) : Script (MessageTables Sender) :=
  .execute (schema.execute upsertSql params) <|
    query (schema.select [.common .id] (msg.chatId, msg.messageId)) fun newRows =>
      match newRows, msg.forwardInfo with
      | row :: _, some info =>
          match (fetched row 0).int? with
          | some rowId => insertForwardInfo rowId.toNat info
          | none => .finish
      | _, _ => .finish

/-- The branch of an upsert that overwrites the fetched row. -/
def overwriteMessage (schema : Schema Sender Own) (upsertSql : UpsertStatement Own)
    (params : List Param) (msg : Message Sender) (old : List Param) :
    Script (MessageTables Sender) :=
  let rowId := ((fetched old 0).int?.getD 0).toNat
  let oldContent : MessageContent :=
    { contentType := messageContentTypeFromString ((fetched old 2).text?.getD "unknown")
      text := (fetched old 3).text?
      fileId := (fetched old 4).int?.map Int.toNat }
  andThen
    (snapshotMessageEditIfChanged rowId oldContent ((fetched old 1).int?.getD 0) msg.content
      msg.editDate) <|
    .execute (schema.execute upsertSql params) <|
      match msg.forwardInfo with
      | some info => insertForwardInfo rowId info
      | none => .finish

/-- The columns that the first query of an upsert selects. -/
def oldColumns : List (Column Own) :=
  [.common .id, .common .editDate, .common .contentType, .common .text, .common .fileId,
    .common .isDeleted]

/-- The body shared by `DB::upsertPrivateMessage` and `DB::upsertGroupMessage`. -/
def upsertMessage (schema : Schema Sender Own) (upsertSql : UpsertStatement Own)
    (params : List Param) (msg : Message Sender) : Script (MessageTables Sender) :=
  query (schema.select oldColumns (msg.chatId, msg.messageId)) fun oldRows =>
    match oldRows with
    | [] => if msg.isDeleted then .finish else insertMessage schema upsertSql params msg
    | old :: _ =>
        if msg.isDeleted ∧ ¬ fetched old 5 = .int 1 then
          .execute (schema.update [(.common .isDeleted, .int 1)]
            (by simp [Column.settable, CommonColumn.settable])
            (fun row => row.id = ((fetched old 0).int?.getD 0).toNat)) .finish
        else overwriteMessage schema upsertSql params msg old

def upsertPrivateMessage (msg : PrivateMessage) : Script PrivateTables :=
  upsertMessage privateSchema Statements.privateUpsert
    [.int msg.chatId, .int msg.messageId, .ofInt msg.sender.senderId, .flag msg.isOutgoing,
      .int msg.date, .int msg.editDate, .text msg.content.contentType.toString,
      .ofText msg.content.text, .flag msg.isDeleted, .flag msg.forwardInfo.isSome] msg

def upsertGroupMessage (msg : GroupMessage) : Script GroupTables :=
  upsertMessage groupSchema Statements.groupUpsert (Statements.bindAll msg) msg

omit [Inhabited Sender] in
theorem runs_snapshot (messageRowId : Nat) (oldContent : MessageContent) (oldEditDate : Int)
    (newContent : MessageContent) (newEditDate : Int) (tables : MessageTables Sender) :
    (snapshotMessageEditIfChanged messageRowId oldContent oldEditDate newContent
        newEditDate).runs tables =
      TgLoggerd.snapshotMessageEditIfChanged tables messageRowId oldContent oldEditDate newContent
        newEditDate := by
  unfold snapshotMessageEditIfChanged TgLoggerd.snapshotMessageEditIfChanged
  split
  · rfl
  · split <;> rfl

omit [Inhabited Sender] in
theorem runs_insertForwardInfo (messageRowId : Nat) (info : ForwardInfo)
    (tables : MessageTables Sender) :
    (insertForwardInfo messageRowId info).runs tables =
      TgLoggerd.insertForwardInfo tables messageRowId info := by
  simp only [insertForwardInfo, runs_query]
  cases recorded : (tables.fwdInfo.lookup messageRowId).isSome with
  | true => simp [TgLoggerd.insertForwardInfo, recorded]
  | false => rfl

section

variable (schema : Schema Sender Own) (upsertSql : UpsertStatement Own) (params : List Param)
  (msg : Message Sender)
  (writes : ∀ tables, schema.execute upsertSql params tables = upsertRow tables msg)

include writes

theorem runs_insertMessage (tables : MessageTables Sender) :
    (insertMessage schema upsertSql params msg).runs tables =
      match (upsertRow tables msg).lookup msg.key, msg.forwardInfo with
      | some row, some info => TgLoggerd.insertForwardInfo (upsertRow tables msg) row.id info
      | _, _ => upsertRow tables msg := by
  simp only [insertMessage, runs_execute, runs_query, writes, Schema.select, Message.key]
  cases (upsertRow tables msg).lookup (msg.chatId, msg.messageId) with
  | none => rfl
  | some row =>
      cases msg.forwardInfo with
      | none => rfl
      | some info => exact runs_insertForwardInfo row.id info _

theorem runs_overwriteMessage (tables : MessageTables Sender) (old : MessageRow Sender) :
    (overwriteMessage schema upsertSql params msg
        (oldColumns.map (schema.readColumn old))).runs tables =
      let content : MessageContent :=
        { contentType := messageContentTypeFromString old.contentType.toString
          text := old.text
          fileId := old.fileId }
      let overwritten := upsertRow
        (TgLoggerd.snapshotMessageEditIfChanged tables old.id content old.editDate msg.content
          msg.editDate) msg
      match msg.forwardInfo with
      | some info => TgLoggerd.insertForwardInfo overwritten old.id info
      | none => overwritten := by
  simp only [overwriteMessage, runs_andThen, runs_snapshot, runs_execute, writes, oldColumns,
    List.map_cons, fetched, Schema.readColumn, CommonColumn.read, List.getD_cons_zero,
    List.getD_cons_succ, Param.int?_int, Param.text?_text, Param.text?_ofText, Param.int?_ofNat,
    Option.getD_some, Int.toNat_natCast]
  cases msg.forwardInfo with
  | none => rfl
  | some info => exact runs_insertForwardInfo old.id info _

/-- The shared script does what the store says of the message, if its upsert writes the
row of the message. -/
theorem runs_upsertMessage (tables : MessageTables Sender) :
    (upsertMessage schema upsertSql params msg).runs tables =
      TgLoggerd.upsertMessage tables msg := by
  simp only [upsertMessage, runs_query, Schema.select, TgLoggerd.upsertMessage, Message.key]
  cases found : tables.lookup (msg.chatId, msg.messageId) with
  | none =>
      simp only [Option.toList_none, List.map_nil]
      split
      · rfl
      · exact runs_insertMessage schema upsertSql params msg writes tables
  | some old =>
      simp only [Option.toList_some, List.map_cons, List.map_nil]
      have deleted : fetched (oldColumns.map (schema.readColumn old)) 5 = .int 1 ↔
          old.isDeleted = true := by
        simp [fetched, oldColumns, Schema.readColumn, CommonColumn.read]
      have number : ((fetched (oldColumns.map (schema.readColumn old)) 0).int?.getD 0).toNat =
          old.id := by
        simp [fetched, oldColumns, Schema.readColumn, CommonColumn.read]
      by_cases flags : msg.isDeleted = true ∧ ¬ old.isDeleted = true
      · rw [if_pos (by rwa [deleted]), if_pos (by simpa using flags)]
        simp only [number, runs_execute, runs_finish]
        exact flag_update schema tables _ old.id
      · rw [if_neg (by rwa [deleted]), if_neg (by simpa using flags)]
        exact runs_overwriteMessage schema upsertSql params msg writes tables old

end

theorem runs_upsertPrivateMessage (msg : PrivateMessage) (tables : PrivateTables) :
    (upsertPrivateMessage msg).runs tables = TgLoggerd.upsertMessage tables msg :=
  runs_upsertMessage privateSchema _ _ msg
    (fun before => execute_eq privateSchema Statements.privateUpsert _ before msg
      (Statements.private_proposes msg) (Statements.private_overwrites msg)) tables

theorem runs_upsertGroupMessage (msg : GroupMessage) (tables : GroupTables) :
    (upsertGroupMessage msg).runs tables = TgLoggerd.upsertMessage tables msg :=
  runs_upsertMessage groupSchema _ _ msg
    (fun before => execute_eq groupSchema Statements.groupUpsert _ before msg
      (Statements.group_proposes msg) (Statements.group_overwrites msg)) tables

end

end TgLoggerd.Transactions

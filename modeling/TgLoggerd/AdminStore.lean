import TgLoggerd.KeyedTable
import TgLoggerd.SerialRun
import TgLoggerd.TdMapping

/-!
The administrator tables of migration 000008 and `DB::syncGroupAdmins`, by its
committed effect. The 17 flags travel as a list of values that each statement
binds to its own list of columns, as in the source. The rows that foreign keys
refer to are taken to exist and the text columns to be wide enough; surrogate
ids and created_at are left out, list order is insertion order.
-/

namespace TgLoggerd

open KeyedTable SerialRun

inductive AdminStatus where
  | creator
  | administrator
  deriving DecidableEq, Repr

inductive AdminAction where
  | added
  | removed
  | updated
  deriving DecidableEq, Repr

/-- The columns of the 17 flags. -/
inductive RightColumn where
  | canManageChat
  | canChangeInfo
  | canPostMessages
  | canEditMessages
  | canDeleteMessages
  | canInviteUsers
  | canRestrictMembers
  | canPinMessages
  | canManageTopics
  | canPromoteMembers
  | canManageVideoChats
  | canPostStories
  | canEditStories
  | canDeleteStories
  | canManageDirectMessages
  | canManageTags
  | isAnonymous
  deriving DecidableEq, Repr

def RightColumn.read (rights : TdApi.ChatAdministratorRights) : RightColumn → Bool
  | .canManageChat => rights.canManageChat
  | .canChangeInfo => rights.canChangeInfo
  | .canPostMessages => rights.canPostMessages
  | .canEditMessages => rights.canEditMessages
  | .canDeleteMessages => rights.canDeleteMessages
  | .canInviteUsers => rights.canInviteUsers
  | .canRestrictMembers => rights.canRestrictMembers
  | .canPinMessages => rights.canPinMessages
  | .canManageTopics => rights.canManageTopics
  | .canPromoteMembers => rights.canPromoteMembers
  | .canManageVideoChats => rights.canManageVideoChats
  | .canPostStories => rights.canPostStories
  | .canEditStories => rights.canEditStories
  | .canDeleteStories => rights.canDeleteStories
  | .canManageDirectMessages => rights.canManageDirectMessages
  | .canManageTags => rights.canManageTags
  | .isAnonymous => rights.isAnonymous

def RightColumn.write (rights : TdApi.ChatAdministratorRights) (value : Bool) :
    RightColumn → TdApi.ChatAdministratorRights
  | .canManageChat => { rights with canManageChat := value }
  | .canChangeInfo => { rights with canChangeInfo := value }
  | .canPostMessages => { rights with canPostMessages := value }
  | .canEditMessages => { rights with canEditMessages := value }
  | .canDeleteMessages => { rights with canDeleteMessages := value }
  | .canInviteUsers => { rights with canInviteUsers := value }
  | .canRestrictMembers => { rights with canRestrictMembers := value }
  | .canPinMessages => { rights with canPinMessages := value }
  | .canManageTopics => { rights with canManageTopics := value }
  | .canPromoteMembers => { rights with canPromoteMembers := value }
  | .canManageVideoChats => { rights with canManageVideoChats := value }
  | .canPostStories => { rights with canPostStories := value }
  | .canEditStories => { rights with canEditStories := value }
  | .canDeleteStories => { rights with canDeleteStories := value }
  | .canManageDirectMessages => { rights with canManageDirectMessages := value }
  | .canManageTags => { rights with canManageTags := value }
  | .isAnonymous => { rights with isAnonymous := value }

/-- The flag columns of the `INSERT INTO group_admins` list. -/
def upsertColumns : List RightColumn :=
  [.canManageChat, .canChangeInfo, .canPostMessages, .canEditMessages, .canDeleteMessages,
    .canInviteUsers, .canRestrictMembers, .canPinMessages, .canManageTopics, .canPromoteMembers,
    .canManageVideoChats, .canPostStories, .canEditStories, .canDeleteStories,
    .canManageDirectMessages, .canManageTags, .isAnonymous]

/-- The flag columns of its `ON DUPLICATE KEY UPDATE` assignments. -/
def updateColumns : List RightColumn :=
  [.canManageChat, .canChangeInfo, .canPostMessages, .canEditMessages, .canDeleteMessages,
    .canInviteUsers, .canRestrictMembers, .canPinMessages, .canManageTopics, .canPromoteMembers,
    .canManageVideoChats, .canPostStories, .canEditStories, .canDeleteStories,
    .canManageDirectMessages, .canManageTags, .isAnonymous]

/-- The flag columns the `SELECT` reads, from index 3 on. -/
def selectColumns : List RightColumn :=
  [.canManageChat, .canChangeInfo, .canPostMessages, .canEditMessages, .canDeleteMessages,
    .canInviteUsers, .canRestrictMembers, .canPinMessages, .canManageTopics, .canPromoteMembers,
    .canManageVideoChats, .canPostStories, .canEditStories, .canDeleteStories,
    .canManageDirectMessages, .canManageTags, .isAnonymous]

/-- The flag columns of the `INSERT INTO group_admin_hist` list. -/
def histColumns : List RightColumn :=
  [.canManageChat, .canChangeInfo, .canPostMessages, .canEditMessages, .canDeleteMessages,
    .canInviteUsers, .canRestrictMembers, .canPinMessages, .canManageTopics, .canPromoteMembers,
    .canManageVideoChats, .canPostStories, .canEditStories, .canDeleteStories,
    .canManageDirectMessages, .canManageTags, .isAnonymous]

/-- Values bound to the columns of a list, position by position. -/
def bindRights (columns : List RightColumn) (values : List Bool) : TdApi.ChatAdministratorRights :=
  (columns.zip values).foldl (fun rights bound => bound.1.write rights bound.2) {}

/-- `column = new.column` for every column of a list. -/
def assignRights (columns : List RightColumn) (new old : TdApi.ChatAdministratorRights) :
    TdApi.ChatAdministratorRights :=
  columns.foldl (fun rights column => column.write rights (column.read new)) old

structure GroupAdminRow where
  groupId : Int
  userId : Int
  status : AdminStatus
  customTitle : String
  inviterUserId : Int
  joinedDate : Int
  rights : TdApi.ChatAdministratorRights
  deriving DecidableEq, Repr

abbrev GroupAdminRow.key (row : GroupAdminRow) : Int × Int := (row.groupId, row.userId)

structure GroupAdminEvent where
  groupId : Int
  userId : Int
  action : AdminAction
  status : AdminStatus
  customTitle : String
  rights : TdApi.ChatAdministratorRights
  deriving DecidableEq, Repr

/-- group_admins with its UNIQUE key, and group_admin_hist. -/
structure AdminTables where
  admins : Table GroupAdminRow.key
  events : List GroupAdminEvent

def AdminTables.empty : AdminTables := ⟨Table.empty, []⟩

/-- A row as the `SELECT` of the stored admins returns it. -/
structure OldAdmin where
  userId : Int
  status : AdminStatus
  customTitle : String
  rights : List Bool
  deriving DecidableEq, Repr

/-- The order in which a `SELECT` without `ORDER BY` returns its rows. -/
structure RowOrder where
  visit : List OldAdmin → List OldAdmin
  perm : ∀ rows, (visit rows).Perm rows

def storageOrder : RowOrder where
  visit := id
  perm := List.Perm.refl

def adminStatus (a : GroupAdmin) : AdminStatus := if a.isOwner then .creator else .administrator

def adminRights (a : GroupAdmin) : List Bool :=
  [a.rights.canManageChat, a.rights.canChangeInfo, a.rights.canPostMessages,
    a.rights.canEditMessages, a.rights.canDeleteMessages, a.rights.canInviteUsers,
    a.rights.canRestrictMembers, a.rights.canPinMessages, a.rights.canManageTopics,
    a.rights.canPromoteMembers, a.rights.canManageVideoChats, a.rights.canPostStories,
    a.rights.canEditStories, a.rights.canDeleteStories, a.rights.canManageDirectMessages,
    a.rights.canManageTags, a.rights.isAnonymous]

def oldAdmin (row : GroupAdminRow) : OldAdmin where
  userId := row.userId
  status := row.status
  customTitle := row.customTitle
  rights := selectColumns.map (RightColumn.read row.rights)

def oldAdmins (tables : AdminTables) (groupId : Int) : List OldAdmin :=
  (tables.admins.rows.filter fun row => row.groupId = groupId).map oldAdmin

def newAdminRow (groupId : Int) (a : GroupAdmin) : GroupAdminRow where
  groupId := groupId
  userId := a.userId
  status := adminStatus a
  customTitle := a.customTitle
  inviterUserId := a.inviterUserId
  joinedDate := a.joinedDate
  rights := bindRights upsertColumns (adminRights a)

/-- The `ON DUPLICATE KEY UPDATE` assignments. -/
def overwriteAdmin (new row : GroupAdminRow) : GroupAdminRow :=
  { row with
    status := new.status
    customTitle := new.customTitle
    inviterUserId := new.inviterUserId
    joinedDate := new.joinedDate
    rights := assignRights updateColumns new.rights row.rights }

def upsertAdmin (groupId : Int) (tables : AdminTables) (a : GroupAdmin) : AdminTables :=
  { tables with
    admins := tables.admins.insertOrUpdate (newAdminRow groupId a)
      (overwriteAdmin (newAdminRow groupId a)) (fun _ => rfl) }

def insertAdminEvent (tables : AdminTables) (event : GroupAdminEvent) : AdminTables :=
  { tables with events := tables.events ++ [event] }

def adminChanged (old : OldAdmin) (a : GroupAdmin) : Bool :=
  if old.status ≠ adminStatus a ∨ old.customTitle ≠ a.customTitle then true
  else old.rights ≠ adminRights a

/-- One turn of the loop over the fetched admins. -/
def recordAdmin (groupId : Int) (old : List OldAdmin) (tables : AdminTables) (a : GroupAdmin) :
    AdminTables :=
  let written := upsertAdmin groupId tables a
  let event (action : AdminAction) : GroupAdminEvent :=
    { groupId := groupId
      userId := a.userId
      action := action
      status := adminStatus a
      customTitle := a.customTitle
      rights := bindRights histColumns (adminRights a) }
  match old.find? fun row => row.userId = a.userId with
  | none => insertAdminEvent written (event .added)
  | some before =>
      if adminChanged before a then insertAdminEvent written (event .updated) else written

/-- One turn of the loop over the stored admins. -/
def removeAdmin (groupId : Int) (admins : List GroupAdmin) (tables : AdminTables)
    (old : OldAdmin) : AdminTables :=
  if admins.any fun a => a.userId = old.userId then tables
  else
    let recorded := insertAdminEvent tables
      { groupId := groupId
        userId := old.userId
        action := .removed
        status := old.status
        customTitle := old.customTitle
        rights := bindRights histColumns old.rights }
    { recorded with admins := recorded.admins.delete (groupId, old.userId) }

def syncGroupAdmins (order : RowOrder) (tables : AdminTables) (list : GroupAdminList) :
    AdminTables :=
  let old := order.visit (oldAdmins tables list.groupId)
  let recorded := list.admins.foldl (recordAdmin list.groupId old) tables
  old.foldl (removeAdmin list.groupId list.admins) recorded

def adminStore (order : RowOrder) (lists : List GroupAdminList) : AdminTables :=
  run (syncGroupAdmins order) AdminTables.empty lists

end TgLoggerd

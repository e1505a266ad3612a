import TgLoggerd.MessageStatements
import TgLoggerd.RowLayout
import TgLoggerd.Store

/-!
The statements of `User.cpp` and `Group.cpp` one by one: their column lists, the
parameters bound to them by position, and the columns fetched and read back by position.
Each does to its table what the store says.
-/

namespace TgLoggerd

open KeyedTable RowLayout

/-- `user_type_to_string`. -/
def UserType.toString : UserType → String
  | .regular => "regular"
  | .deleted => "deleted"
  | .bot => "bot"
  | .unknown => "unknown"

/-- The ENUM of the column. -/
def userTypeFromString (label : String) : UserType :=
  if label = "regular" then .regular
  else if label = "deleted" then .deleted
  else if label = "bot" then .bot
  else .unknown

@[simp] theorem userTypeFromString_toString (type : UserType) :
    userTypeFromString type.toString = type := by
  cases type <;> rfl

/-- `group_type_to_string`. -/
def GroupType.toString : GroupType → String
  | .basicGroup => "basic_group"
  | .supergroup => "supergroup"
  | .channel => "channel"

/-- The ENUM of the column. -/
def groupTypeFromString (label : String) : GroupType :=
  if label = "supergroup" then .supergroup
  else if label = "channel" then .channel
  else .basicGroup

@[simp] theorem groupTypeFromString_toString (type : GroupType) :
    groupTypeFromString type.toString = type := by
  cases type <;> rfl

/-- The kinds as `collect` names them. -/
def UsernameKind.toString : UsernameKind → String
  | .active => "active"
  | .disabled => "disabled"
  | .collectible => "collectible"

/-- The ENUM of the column. -/
def usernameKindFromString (label : String) : UsernameKind :=
  if label = "disabled" then .disabled
  else if label = "collectible" then .collectible
  else .active

@[simp] theorem usernameKindFromString_toString (kind : UsernameKind) :
    usernameKindFromString kind.toString = kind := by
  cases kind <;> rfl

/-- The columns of `users`. -/
inductive UserColumn where
  | id | firstName | lastName | phoneNumber | type | profilePhotoFileId
  | accentColorId | backgroundCustomEmojiId
  | profileAccentColorId | profileBackgroundCustomEmojiId
  | emojiStatusCustomEmojiId | emojiStatusExpirationDate
  | isVerified | isScam | isFake | isPremium | isSupport
  | restrictionReason | hasSensitiveContent | restrictsNewChats
  | paidMessageStarCount | isContact | isMutualContact
  | isCloseFriend | haveAccess | languageCode
  | bio | personalChatId | birthdayDay | birthdayMonth | birthdayYear
  deriving DecidableEq, Repr

def UserColumn.read (row : UserRow) : UserColumn → Param
  | .id => .int row.id
  | .firstName => .text row.firstName
  | .lastName => .text row.lastName
  | .phoneNumber => .text row.phoneNumber
  | .type => .text row.type.toString
  | .profilePhotoFileId => .ofNat row.profilePhotoFileId
  | .accentColorId => .int row.accentColorId
  | .backgroundCustomEmojiId => .int row.backgroundCustomEmojiId
  | .profileAccentColorId => .int row.profileAccentColorId
  | .profileBackgroundCustomEmojiId => .int row.profileBackgroundCustomEmojiId
  | .emojiStatusCustomEmojiId => .ofInt row.emojiStatusCustomEmojiId
  | .emojiStatusExpirationDate => .ofInt row.emojiStatusExpirationDate
  | .isVerified => .flag row.isVerified
  | .isScam => .flag row.isScam
  | .isFake => .flag row.isFake
  | .isPremium => .flag row.isPremium
  | .isSupport => .flag row.isSupport
  | .restrictionReason => .text row.restrictionReason
  | .hasSensitiveContent => .flag row.hasSensitiveContent
  | .restrictsNewChats => .flag row.restrictsNewChats
  | .paidMessageStarCount => .int row.paidMessageStarCount
  | .isContact => .flag row.isContact
  | .isMutualContact => .flag row.isMutualContact
  | .isCloseFriend => .flag row.isCloseFriend
  | .haveAccess => .flag row.haveAccess
  | .languageCode => .text row.languageCode
  | .bio => .text row.bio
  | .personalChatId => .int row.personalChatId
  | .birthdayDay => .ofInt row.birthdayDay
  | .birthdayMonth => .ofInt row.birthdayMonth
  | .birthdayYear => .ofInt row.birthdayYear

def UserColumn.write (value : Param) (row : UserRow) : UserColumn → UserRow
  | .id => { row with id := value.int?.getD 0 }
  | .firstName => { row with firstName := value.text?.getD "" }
  | .lastName => { row with lastName := value.text?.getD "" }
  | .phoneNumber => { row with phoneNumber := value.text?.getD "" }
  | .type => { row with type := userTypeFromString (value.text?.getD "unknown") }
  | .profilePhotoFileId => { row with profilePhotoFileId := value.int?.map Int.toNat }
  -- NOT NULL columns fall back to their DEFAULT; the statements bind no NULL to them.
  | .accentColorId => { row with accentColorId := value.int?.getD 0 }
  | .backgroundCustomEmojiId => { row with backgroundCustomEmojiId := value.int?.getD 0 }
  | .profileAccentColorId => { row with profileAccentColorId := value.int?.getD (-1) }
  | .profileBackgroundCustomEmojiId =>
      { row with profileBackgroundCustomEmojiId := value.int?.getD 0 }
  | .emojiStatusCustomEmojiId => { row with emojiStatusCustomEmojiId := value.int? }
  | .emojiStatusExpirationDate => { row with emojiStatusExpirationDate := value.int? }
  | .isVerified => { row with isVerified := value.int?.getD 0 != 0 }
  | .isScam => { row with isScam := value.int?.getD 0 != 0 }
  | .isFake => { row with isFake := value.int?.getD 0 != 0 }
  | .isPremium => { row with isPremium := value.int?.getD 0 != 0 }
  | .isSupport => { row with isSupport := value.int?.getD 0 != 0 }
  | .restrictionReason => { row with restrictionReason := value.text?.getD "" }
  | .hasSensitiveContent => { row with hasSensitiveContent := value.int?.getD 0 != 0 }
  | .restrictsNewChats => { row with restrictsNewChats := value.int?.getD 0 != 0 }
  | .paidMessageStarCount => { row with paidMessageStarCount := value.int?.getD 0 }
  | .isContact => { row with isContact := value.int?.getD 0 != 0 }
  | .isMutualContact => { row with isMutualContact := value.int?.getD 0 != 0 }
  | .isCloseFriend => { row with isCloseFriend := value.int?.getD 0 != 0 }
  | .haveAccess => { row with haveAccess := value.int?.getD 0 != 0 }
  | .languageCode => { row with languageCode := value.text?.getD "" }
  | .bio => { row with bio := value.text?.getD "" }
  | .personalChatId => { row with personalChatId := value.int?.getD 0 }
  | .birthdayDay => { row with birthdayDay := value.int? }
  | .birthdayMonth => { row with birthdayMonth := value.int? }
  | .birthdayYear => { row with birthdayYear := value.int? }

def userLayout : Layout UserRow UserColumn Param where
  read := UserColumn.read
  write value row column := column.write value row

/-- The DEFAULT of every column of migration 000002. -/
def defaultUserRow : UserRow where
  id := 0
  firstName := ""
  lastName := ""
  phoneNumber := ""
  type := .unknown
  profilePhotoFileId := none
  accentColorId := 0
  backgroundCustomEmojiId := 0
  profileAccentColorId := -1
  profileBackgroundCustomEmojiId := 0
  emojiStatusCustomEmojiId := none
  emojiStatusExpirationDate := none
  isVerified := false
  isScam := false
  isFake := false
  isPremium := false
  isSupport := false
  restrictionReason := ""
  hasSensitiveContent := false
  restrictsNewChats := false
  paidMessageStarCount := 0
  isContact := false
  isMutualContact := false
  isCloseFriend := false
  haveAccess := false
  languageCode := ""
  bio := ""
  personalChatId := 0
  birthdayDay := none
  birthdayMonth := none
  birthdayYear := none

theorem keeps_user (columns : List UserColumn) (settable : .id ∉ columns) :
    userLayout.Keeps UserRow.id columns := by
  intro column listed value row
  cases column with
  | id => exact absurd listed settable
  | _ => rfl

namespace Statements

/-- The columns that `upsertUser` updates. -/
def userUpdates : List UserColumn :=
  [.firstName, .lastName, .phoneNumber, .type, .accentColorId, .backgroundCustomEmojiId,
    .profileAccentColorId, .profileBackgroundCustomEmojiId, .emojiStatusCustomEmojiId,
    .emojiStatusExpirationDate, .isVerified, .isScam, .isFake, .isPremium, .isSupport,
    .restrictionReason, .hasSensitiveContent, .restrictsNewChats, .paidMessageStarCount,
    .isContact, .isMutualContact, .isCloseFriend, .haveAccess, .languageCode]

/-- The columns that `upsertUser` inserts. -/
def userColumns : List UserColumn :=
  [.id, .firstName, .lastName, .phoneNumber, .type, .accentColorId, .backgroundCustomEmojiId,
    .profileAccentColorId, .profileBackgroundCustomEmojiId, .emojiStatusCustomEmojiId,
    .emojiStatusExpirationDate, .isVerified, .isScam, .isFake, .isPremium, .isSupport,
    .restrictionReason, .hasSensitiveContent, .restrictsNewChats, .paidMessageStarCount,
    .isContact, .isMutualContact, .isCloseFriend, .haveAccess, .languageCode]

def bindUser (u : User) : List Param :=
  let emojiId := Param.ofInt u.emojiStatusCustomEmojiId
  let emojiExp := Param.ofInt u.emojiStatusExpirationDate
  [.int u.id, .text u.firstName, .text u.lastName, .text u.phoneNumber, .text u.type.toString,
    .int u.accentColorId, .int u.backgroundCustomEmojiId, .int u.profileAccentColorId,
    .int u.profileBackgroundCustomEmojiId, emojiId, emojiExp, .flag u.isVerified, .flag u.isScam,
    .flag u.isFake, .flag u.isPremium, .flag u.isSupport, .text u.restrictionReason,
    .flag u.hasSensitiveContent, .flag u.restrictsNewChats, .int u.paidMessageStarCount,
    .flag u.isContact, .flag u.isMutualContact, .flag u.isCloseFriend, .flag u.haveAccess,
    .text u.languageCode]

theorem keeps_userUpdates : userLayout.Keeps UserRow.id userUpdates :=
  keeps_user userUpdates (by decide)

def writeUser (u : User) : Table UserRow.id → Table UserRow.id :=
  userLayout.upsert userColumns userUpdates keeps_userUpdates (bindUser u) defaultUserRow

theorem user_proposes (u : User) :
    userLayout.proposed userColumns (bindUser u) defaultUserRow = newUserRow u := by
  -- First the columns in their order, then what each of them writes.
  simp only [Layout.proposed, Layout.assign, userColumns, bindUser, List.zip_cons_cons,
    List.zip_nil_left, List.foldl_cons, List.foldl_nil]
  simp only [userLayout, UserColumn.write, Param.int?_int, Param.text?_text, Param.int?_ofInt,
    Param.int?_flag, userTypeFromString_toString, Option.getD_some]
  rfl

theorem user_overwrites (u : User) :
    userLayout.updated userUpdates (newUserRow u) = overwriteUser u := by
  funext row
  simp only [Layout.updated, Layout.assign, userUpdates, List.map_cons, List.map_nil,
    List.foldl_cons, List.foldl_nil]
  simp only [userLayout, UserColumn.read, UserColumn.write, Param.int?_int, Param.text?_text,
    Param.int?_ofInt, Param.int?_flag, userTypeFromString_toString, Option.getD_some]
  rfl

theorem writeUser_eq (u : User) (table : Table UserRow.id) :
    writeUser u table =
      table.insertOrUpdate (newUserRow u) (overwriteUser u) (fun _ => rfl) :=
  userLayout.upsert_eq _ _ keeps_userUpdates _ _ _ _ _ (user_proposes u) (user_overwrites u) table

theorem keeps_profilePhoto : userLayout.Keeps UserRow.id [.profilePhotoFileId] :=
  keeps_user _ (by decide)

/-- The statement of `setUserProfilePhoto`. -/
def assignProfilePhoto (userId : Int) (fileId : Nat) : Table UserRow.id → Table UserRow.id :=
  userLayout.update [.profilePhotoFileId] keeps_profilePhoto [.int fileId]
    fun row => row.id = userId

theorem keeps_fullInfo : userLayout.Keeps UserRow.id
    [.bio, .personalChatId, .birthdayDay, .birthdayMonth, .birthdayYear] :=
  keeps_user _ (by decide)

/-- The statement of `upsertUserFullInfo`. -/
def writeFullInfo (fi : UserFullInfo) : Table UserRow.id → Table UserRow.id :=
  let bday := Param.ofInt fi.birthdayDay
  let bmon := Param.ofInt fi.birthdayMonth
  let byear := Param.ofInt fi.birthdayYear
  userLayout.update [.bio, .personalChatId, .birthdayDay, .birthdayMonth, .birthdayYear]
    keeps_fullInfo [.text fi.bio, .int fi.personalChatId, bday, bmon, byear]
    fun row => row.id = fi.userId

theorem assignProfilePhoto_eq (userId : Int) (fileId : Nat) (table : Table UserRow.id) :
    assignProfilePhoto userId fileId table =
      table.revise
        (fun row =>
          if row.id = userId then { row with profilePhotoFileId := some fileId } else row)
        (by intro row; split <;> rfl) := by
  apply userLayout.update_eq
  funext row
  simp [Layout.changed, Layout.assign, userLayout, UserColumn.write]

theorem writeFullInfo_eq (fi : UserFullInfo) (table : Table UserRow.id) :
    writeFullInfo fi table =
      table.revise (fun row => if row.id = fi.userId then overwriteFullInfo fi row else row)
        (by intro row; split <;> rfl) := by
  refine userLayout.update_eq _ keeps_fullInfo _ _ _ _ ?_ table
  funext row
  simp [Layout.changed, Layout.assign, userLayout, UserColumn.write, overwriteFullInfo]

end Statements

/-- The columns of `groups`. -/
inductive GroupsColumn where
  | id | type | title | description | photoFileId
  deriving DecidableEq, Repr

def GroupsColumn.read (row : GroupRow) : GroupsColumn → Param
  | .id => .int row.id
  | .type => .text row.type.toString
  | .title => .text row.title
  | .description => .text row.description
  | .photoFileId => .ofNat row.photoFileId

def GroupsColumn.write (value : Param) (row : GroupRow) : GroupsColumn → GroupRow
  | .id => { row with id := value.int?.getD 0 }
  | .type => { row with type := groupTypeFromString (value.text?.getD "basic_group") }
  | .title => { row with title := value.text?.getD "" }
  | .description => { row with description := value.text?.getD "" }
  | .photoFileId => { row with photoFileId := value.int?.map Int.toNat }

def groupsLayout : Layout GroupRow GroupsColumn Param where
  read := GroupsColumn.read
  write value row column := column.write value row

/-- The DEFAULT of every column of migration 000005. -/
def defaultGroupRow : GroupRow where
  id := 0
  type := .basicGroup
  title := ""
  description := ""
  photoFileId := none

theorem keeps_groups (columns : List GroupsColumn) (settable : .id ∉ columns) :
    groupsLayout.Keeps GroupRow.id columns := by
  intro column listed value row
  cases column with
  | id => exact absurd listed settable
  | _ => rfl

namespace Statements

theorem keeps_groupUpdates : groupsLayout.Keeps GroupRow.id [.type, .title, .description] :=
  keeps_groups _ (by decide)

/-- The statement of `upsertGroup`. -/
def writeGroup (g : Group) : Table GroupRow.id → Table GroupRow.id :=
  groupsLayout.upsert [.id, .type, .title, .description] [.type, .title, .description]
    keeps_groupUpdates [.int g.id, .text g.type.toString, .text g.title, .text g.description]
    defaultGroupRow

theorem writeGroup_eq (g : Group) (table : Table GroupRow.id) :
    writeGroup g table =
      table.insertOrUpdate (newGroupRow g) (overwriteGroup g) (fun _ => rfl) := by
  apply groupsLayout.upsert_eq
  · simp [Layout.proposed, Layout.assign, groupsLayout, GroupsColumn.write, newGroupRow,
      defaultGroupRow]
  · funext row
    simp [Layout.updated, Layout.assign, groupsLayout, GroupsColumn.read, GroupsColumn.write,
      newGroupRow, overwriteGroup]

theorem keeps_groupPhoto : groupsLayout.Keeps GroupRow.id [.photoFileId] :=
  keeps_groups _ (by decide)

/-- The statement of `setGroupPhoto`. -/
def assignGroupPhoto (groupId : Int) (fileId : Nat) : Table GroupRow.id → Table GroupRow.id :=
  groupsLayout.update [.photoFileId] keeps_groupPhoto [.int fileId] fun row => row.id = groupId

theorem assignGroupPhoto_eq (groupId : Int) (fileId : Nat) (table : Table GroupRow.id) :
    assignGroupPhoto groupId fileId table =
      table.revise
        (fun row => if row.id = groupId then { row with photoFileId := some fileId } else row)
        (by intro row; split <;> rfl) := by
  apply groupsLayout.update_eq
  funext row
  simp [Layout.changed, Layout.assign, groupsLayout, GroupsColumn.write]

end Statements

/-- The columns of `*_usernames`. -/
inductive UsernameColumn where
  | ownerId | username | kind | position
  deriving DecidableEq, Repr

def UsernameColumn.read (row : UsernameRow) : UsernameColumn → Param
  | .ownerId => .ofInt row.ownerId
  | .username => .text row.username
  | .kind => .text row.kind.toString
  | .position => .int row.position

def UsernameColumn.write (value : Param) (row : UsernameRow) : UsernameColumn → UsernameRow
  | .ownerId => { row with ownerId := value.int? }
  | .username => { row with username := value.text?.getD "" }
  | .kind => { row with kind := usernameKindFromString (value.text?.getD "") }
  | .position => { row with position := (value.int?.getD 0).toNat }

def usernameLayout : Layout UsernameRow UsernameColumn Param where
  read := UsernameColumn.read
  write value row column := column.write value row

/-- The DEFAULT of every column; `username` and `kind` have none and are always bound. -/
def defaultUsernameRow : UsernameRow where
  ownerId := none
  username := ""
  kind := .active
  position := 0

section

variable {Key : Type} {collate : String → Key}

theorem keeps_username (columns : List UsernameColumn) (settable : .username ∉ columns) :
    usernameLayout.Keeps (UsernameRow.key collate) columns := by
  intro column listed value row
  cases column with
  | username => exact absurd listed settable
  | _ => rfl

namespace Statements

/-- One fetched row of the old usernames; a row without a name is passed over. -/
def oldEntry (row : List Param) : Option (String × Entry) :=
  (fetched row 0).text?.map fun name =>
    (name, ⟨usernameKindFromString ((fetched row 1).text?.getD ""),
      ((fetched row 2).int?.getD 0).toNat⟩)

/-- `SELECT username, kind, position ... WHERE user_id = ?`. -/
def selectUsernames (ownerId : Int) (table : Table (UsernameRow.key collate)) :
    List (List Param) :=
  usernameLayout.selectWhere [.username, .kind, .position]
    (fun row => row.ownerId = some ownerId) table

theorem old_entries (tables : UsernameTables collate) (ownerId : Int) :
    (selectUsernames ownerId tables.usernames).filterMap oldEntry = oldMap tables ownerId := by
  simp only [selectUsernames, Layout.selectWhere, List.filterMap_map, oldMap]
  rw [← List.filterMap_eq_map]
  apply List.filterMap_congr
  intro row _
  simp [oldEntry, fetched, usernameLayout, UsernameColumn.read, UsernameRow.entry]

theorem keeps_release : usernameLayout.Keeps (UsernameRow.key collate) [.ownerId] :=
  keeps_username _ (by decide)

theorem keeps_claim :
    usernameLayout.Keeps (UsernameRow.key collate) [.ownerId, .kind, .position] :=
  keeps_username _ (by decide)

variable [DecidableEq Key]

/-- `UPDATE ... SET user_id = NULL WHERE user_id = ? AND username = ?`. -/
def releaseUsername (ownerId : Int) (name : String) :
    Table (UsernameRow.key collate) → Table (UsernameRow.key collate) :=
  usernameLayout.update [.ownerId] keeps_release [.null]
    fun row => row.ownerId = some ownerId ∧ collate row.username = collate name

theorem releaseUsername_eq (tables : UsernameTables collate) (ownerId : Int) (name : String) :
    { tables with usernames := releaseUsername ownerId name tables.usernames } =
      TgLoggerd.releaseUsername tables ownerId name := by
  have changes : usernameLayout.changed [.ownerId] [.null]
      (fun row => row.ownerId = some ownerId ∧ collate row.username = collate name) =
      fun row => if row.ownerId = some ownerId ∧ collate row.username = collate name then
        { row with ownerId := none } else row := by
    funext row
    simp [Layout.changed, Layout.assign, usernameLayout, UsernameColumn.write, Param.int?]
  rw [releaseUsername, usernameLayout.update_eq _ _ _ _ _ _ changes]
  rfl

/-- The statement that claims a username, transfers it or moves it. -/
def claimUsername (ownerId : Int) (new : String × Entry) :
    Table (UsernameRow.key collate) → Table (UsernameRow.key collate) :=
  usernameLayout.upsert [.ownerId, .username, .kind, .position] [.ownerId, .kind, .position]
    keeps_claim [.int ownerId, .text new.1, .text new.2.kind.toString, .int new.2.position]
    defaultUsernameRow

theorem claimUsername_eq (tables : UsernameTables collate) (ownerId : Int)
    (new : String × Entry) :
    { tables with usernames := claimUsername ownerId new tables.usernames } =
      TgLoggerd.claimUsername ownerId tables new := by
  rw [claimUsername, TgLoggerd.claimUsername]
  congr 1
  apply usernameLayout.upsert_eq
  · simp [Layout.proposed, Layout.assign, usernameLayout, UsernameColumn.write]
  · funext row
    simp [Layout.updated, Layout.assign, usernameLayout, UsernameColumn.read,
      UsernameColumn.write]

end Statements

end

end TgLoggerd

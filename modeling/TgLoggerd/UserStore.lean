import TgLoggerd.Recording
import TgLoggerd.SerialRun
import TgLoggerd.Usernames

/-!
The user tables of migrations 000002 to 000004 and the transactions of
`User.cpp` on them, by their committed effect. created_at, updated_at and the
surrogate ids of the history rows are left out; list order is insertion order.
-/

namespace TgLoggerd

open KeyedTable SerialRun

inductive UserType where
  | regular
  | deleted
  | bot
  | unknown
  deriving DecidableEq, Repr

/-- `models::User`; profile_photo_file_id is filled in by another statement. -/
structure User where
  id : Int := 0
  firstName : String := ""
  lastName : String := ""
  phoneNumber : String := ""
  type : UserType := .unknown
  accentColorId : Int := 0
  backgroundCustomEmojiId : Int := 0
  profileAccentColorId : Int := -1
  profileBackgroundCustomEmojiId : Int := 0
  emojiStatusCustomEmojiId : Option Int := none
  emojiStatusExpirationDate : Option Int := none
  isVerified : Bool := false
  isScam : Bool := false
  isFake : Bool := false
  isPremium : Bool := false
  isSupport : Bool := false
  restrictionReason : String := ""
  hasSensitiveContent : Bool := false
  restrictsNewChats : Bool := false
  paidMessageStarCount : Int := 0
  isContact : Bool := false
  isMutualContact : Bool := false
  isCloseFriend : Bool := false
  haveAccess : Bool := false
  languageCode : String := ""
  activeUsernames : List String := []
  disabledUsernames : List String := []
  collectibleUsernames : List String := []
  deriving DecidableEq, Repr

structure UserFullInfo where
  userId : Int := 0
  bio : String := ""
  birthdayDay : Option Int := none
  birthdayMonth : Option Int := none
  birthdayYear : Option Int := none
  personalChatId : Int := 0
  deriving DecidableEq, Repr

structure UserRow where
  id : Int
  firstName : String
  lastName : String
  phoneNumber : String
  type : UserType
  profilePhotoFileId : Option Nat
  accentColorId : Int
  backgroundCustomEmojiId : Int
  profileAccentColorId : Int
  profileBackgroundCustomEmojiId : Int
  emojiStatusCustomEmojiId : Option Int
  emojiStatusExpirationDate : Option Int
  isVerified : Bool
  isScam : Bool
  isFake : Bool
  isPremium : Bool
  isSupport : Bool
  restrictionReason : String
  hasSensitiveContent : Bool
  restrictsNewChats : Bool
  paidMessageStarCount : Int
  isContact : Bool
  isMutualContact : Bool
  isCloseFriend : Bool
  haveAccess : Bool
  languageCode : String
  bio : String
  personalChatId : Int
  birthdayDay : Option Int
  birthdayMonth : Option Int
  birthdayYear : Option Int
  deriving DecidableEq, Repr

structure UserHistName where
  userId : Int
  firstName : String
  lastName : String
  deriving DecidableEq, Repr

structure UserHistPhoneNum where
  userId : Int
  phoneNumber : String
  deriving DecidableEq, Repr

structure UserHistProfilePhoto where
  userId : Int
  fileId : Nat
  deriving DecidableEq, Repr

structure UserHistBio where
  userId : Int
  bio : String
  deriving DecidableEq, Repr

def User.snapshot (u : User) : Snapshot where
  ownerId := u.id
  activeUsernames := u.activeUsernames
  disabledUsernames := u.disabledUsernames
  collectibleUsernames := u.collectibleUsernames

section

variable {Key : Type} [DecidableEq Key]

structure UserTables (collate : String → Key) where
  users : Table UserRow.id
  histName : List UserHistName
  histPhoneNum : List UserHistPhoneNum
  histProfilePhoto : List UserHistProfilePhoto
  histBio : List UserHistBio
  usernames : UsernameTables collate

variable {collate : String → Key}

def UserTables.empty : UserTables collate where
  users := Table.empty
  histName := []
  histPhoneNum := []
  histProfilePhoto := []
  histBio := []
  usernames := UsernameTables.empty

/-- The row `INSERT` writes; the photo and full-info columns take their
defaults. -/
def newUserRow (u : User) : UserRow where
  id := u.id
  firstName := u.firstName
  lastName := u.lastName
  phoneNumber := u.phoneNumber
  type := u.type
  profilePhotoFileId := none
  accentColorId := u.accentColorId
  backgroundCustomEmojiId := u.backgroundCustomEmojiId
  profileAccentColorId := u.profileAccentColorId
  profileBackgroundCustomEmojiId := u.profileBackgroundCustomEmojiId
  emojiStatusCustomEmojiId := u.emojiStatusCustomEmojiId
  emojiStatusExpirationDate := u.emojiStatusExpirationDate
  isVerified := u.isVerified
  isScam := u.isScam
  isFake := u.isFake
  isPremium := u.isPremium
  isSupport := u.isSupport
  restrictionReason := u.restrictionReason
  hasSensitiveContent := u.hasSensitiveContent
  restrictsNewChats := u.restrictsNewChats
  paidMessageStarCount := u.paidMessageStarCount
  isContact := u.isContact
  isMutualContact := u.isMutualContact
  isCloseFriend := u.isCloseFriend
  haveAccess := u.haveAccess
  languageCode := u.languageCode
  bio := ""
  personalChatId := 0
  birthdayDay := none
  birthdayMonth := none
  birthdayYear := none

/-- The `ON DUPLICATE KEY UPDATE` assignments of `DB::upsertUser`. -/
def overwriteUser (u : User) (row : UserRow) : UserRow :=
  { row with
    firstName := u.firstName
    lastName := u.lastName
    phoneNumber := u.phoneNumber
    type := u.type
    accentColorId := u.accentColorId
    backgroundCustomEmojiId := u.backgroundCustomEmojiId
    profileAccentColorId := u.profileAccentColorId
    profileBackgroundCustomEmojiId := u.profileBackgroundCustomEmojiId
    emojiStatusCustomEmojiId := u.emojiStatusCustomEmojiId
    emojiStatusExpirationDate := u.emojiStatusExpirationDate
    isVerified := u.isVerified
    isScam := u.isScam
    isFake := u.isFake
    isPremium := u.isPremium
    isSupport := u.isSupport
    restrictionReason := u.restrictionReason
    hasSensitiveContent := u.hasSensitiveContent
    restrictsNewChats := u.restrictsNewChats
    paidMessageStarCount := u.paidMessageStarCount
    isContact := u.isContact
    isMutualContact := u.isMutualContact
    isCloseFriend := u.isCloseFriend
    haveAccess := u.haveAccess
    languageCode := u.languageCode }

def syncUsernames (order : MapOrder) (tables : UserTables collate) (u : User) :
    UserTables collate :=
  { tables with usernames := syncSnapshot order tables.usernames u.snapshot }

def upsertUser (order : MapOrder) (tables : UserTables collate) (u : User) : UserTables collate :=
  let old := tables.users.lookup u.id
  let written :=
    { tables with
      users := tables.users.insertOrUpdate (newUserRow u) (overwriteUser u) (fun _ => rfl) }
  let recorded :=
    match old with
    | none =>
        -- A first sight records the initial values, a later one the replaced ones.
        { written with
          histName := written.histName ++ [⟨u.id, u.firstName, u.lastName⟩]
          histPhoneNum := written.histPhoneNum ++ [⟨u.id, u.phoneNumber⟩] }
    | some row =>
        { written with
          histName :=
            if row.firstName ≠ u.firstName ∨ row.lastName ≠ u.lastName then
              written.histName ++ [⟨u.id, row.firstName, row.lastName⟩]
            else written.histName
          histPhoneNum :=
            if row.phoneNumber ≠ u.phoneNumber then
              written.histPhoneNum ++ [⟨u.id, row.phoneNumber⟩]
            else written.histPhoneNum }
  syncUsernames order recorded u

def trackProfilePhotoChange (tables : UserTables collate) (userId : Int) (fileId : Nat) :
    UserTables collate :=
  match tables.users.lookup userId with
  | none => tables
  | some row =>
      match row.profilePhotoFileId with
      | none => { tables with histProfilePhoto := tables.histProfilePhoto ++ [⟨userId, fileId⟩] }
      | some oldId =>
          if oldId = fileId then tables
          else { tables with histProfilePhoto := tables.histProfilePhoto ++ [⟨userId, oldId⟩] }

def setUserProfilePhoto (tables : UserTables collate) (userId : Int) (fileId : Nat) :
    UserTables collate :=
  let tracked := trackProfilePhotoChange tables userId fileId
  { tracked with
    users := tracked.users.revise
      (fun row => if row.id = userId then { row with profilePhotoFileId := some fileId } else row)
      (by intro row; split <;> rfl) }

def upsertUserFullInfo (tables : UserTables collate) (fi : UserFullInfo) : UserTables collate :=
  match tables.users.lookup fi.userId with
  | none => tables
  | some old =>
      { tables with
        histBio :=
          if old.bio ≠ fi.bio then tables.histBio ++ [⟨fi.userId, old.bio⟩] else tables.histBio
        users := tables.users.revise
          (fun row =>
            if row.id = fi.userId then
              { row with
                bio := fi.bio
                personalChatId := fi.personalChatId
                birthdayDay := fi.birthdayDay
                birthdayMonth := fi.birthdayMonth
                birthdayYear := fi.birthdayYear }
            else row)
          (by intro row; split <;> rfl) }

def userStore (order : MapOrder) (us : List User) : UserTables collate :=
  run (upsertUser order) UserTables.empty us

theorem usernames_upsertUser (order : MapOrder) (tables : UserTables collate) (u : User) :
    (upsertUser order tables u).usernames = syncSnapshot order tables.usernames u.snapshot := by
  simp only [upsertUser, syncUsernames]
  cases tables.users.lookup u.id <;> rfl

theorem users_upsertUser (order : MapOrder) (tables : UserTables collate) (u : User) :
    (upsertUser order tables u).users =
      tables.users.insertOrUpdate (newUserRow u) (overwriteUser u) (fun _ => rfl) := by
  simp only [upsertUser, syncUsernames]
  cases tables.users.lookup u.id <;> rfl

/-- The row of the user after its upsert. -/
theorem lookup_upsertUser (order : MapOrder) (tables : UserTables collate) (u : User) :
    (upsertUser order tables u).users.lookup u.id =
      some (((tables.users.lookup u.id).map (overwriteUser u)).getD (newUserRow u)) := by
  rw [users_upsertUser]
  exact (Table.lookup_insertOrUpdate tables.users (newUserRow u) (overwriteUser u)
    (fun _ => rfl) u.id).trans (if_pos rfl)

/-- An upsert of the stored values reaches only the username tables. -/
theorem upsertUser_known (order : MapOrder) (tables : UserTables collate) (u : User)
    (row : UserRow) (found : tables.users.lookup u.id = some row)
    (known : overwriteUser u row = row) :
    upsertUser order tables u =
      { tables with usernames := syncSnapshot order tables.usernames u.snapshot } := by
  have users := Table.insertOrUpdate_settled tables.users (newUserRow u) (overwriteUser u)
    (fun _ => rfl) row found known
  have first : row.firstName = u.firstName := by rw [← known]; rfl
  have last : row.lastName = u.lastName := by rw [← known]; rfl
  have phone : row.phoneNumber = u.phoneNumber := by rw [← known]; rfl
  simp only [upsertUser, syncUsernames, found, users, first, last, phone, ne_eq,
    not_true_eq_false, or_self, ↓reduceIte]

def User.name (u : User) : String × String := (u.firstName, u.lastName)

def UserRow.name (row : UserRow) : String × String := (row.firstName, row.lastName)

theorem lookup_upsertUser_any (order : MapOrder) (tables : UserTables collate) (u : User)
    (userId : Int) :
    (upsertUser order tables u).users.lookup userId =
      if u.id = userId then
        some (((tables.users.lookup userId).map (overwriteUser u)).getD (newUserRow u))
      else tables.users.lookup userId := by
  rw [users_upsertUser]
  exact Table.lookup_insertOrUpdate tables.users (newUserRow u) (overwriteUser u)
    (fun _ => rfl) userId

theorem histName_upsertUser (order : MapOrder) (tables : UserTables collate) (u : User) :
    (upsertUser order tables u).histName =
      tables.histName ++ (Recording.entry List.singleton
        ((tables.users.lookup u.id).map UserRow.name) u.name).map
          fun name => ⟨u.id, name.1, name.2⟩ := by
  simp only [upsertUser, syncUsernames, Recording.entry]
  cases tables.users.lookup u.id with
  | none => rfl
  | some row =>
      by_cases first : row.firstName = u.firstName
      · by_cases last : row.lastName = u.lastName <;>
          simp [UserRow.name, User.name, first, last]
      · simp [UserRow.name, User.name, first]

theorem histPhoneNum_upsertUser (order : MapOrder) (tables : UserTables collate) (u : User) :
    (upsertUser order tables u).histPhoneNum =
      tables.histPhoneNum ++ (Recording.entry List.singleton
        ((tables.users.lookup u.id).map UserRow.phoneNumber) u.phoneNumber).map
          fun phoneNumber => ⟨u.id, phoneNumber⟩ := by
  simp only [upsertUser, syncUsernames, Recording.entry]
  cases tables.users.lookup u.id with
  | none => rfl
  | some row => by_cases same : row.phoneNumber = u.phoneNumber <;> simp [same]

@[simp]
theorem histProfilePhoto_upsertUser (order : MapOrder) (tables : UserTables collate) (u : User) :
    (upsertUser order tables u).histProfilePhoto = tables.histProfilePhoto := by
  simp only [upsertUser, syncUsernames]
  cases tables.users.lookup u.id <;> rfl

@[simp]
theorem histBio_upsertUser (order : MapOrder) (tables : UserTables collate) (u : User) :
    (upsertUser order tables u).histBio = tables.histBio := by
  simp only [upsertUser, syncUsernames]
  cases tables.users.lookup u.id <;> rfl

omit [DecidableEq Key] in
/-- Only a stored user has a photo to track. -/
theorem setUserProfilePhoto_absent (tables : UserTables collate) (userId : Int) (fileId : Nat)
    (absent : tables.users.lookup userId = none) :
    setUserProfilePhoto tables userId fileId = tables := by
  simp only [setUserProfilePhoto, trackProfilePhotoChange, absent]
  rw [Table.revise_absent _ _ _ userId absent]
  intro row other
  exact if_neg other

omit [DecidableEq Key] in
theorem lookup_setUserProfilePhoto (tables : UserTables collate) (subject userId : Int)
    (fileId : Nat) :
    (setUserProfilePhoto tables subject fileId).users.lookup userId =
      (tables.users.lookup userId).map fun row =>
        if subject = userId then { row with profilePhotoFileId := some fileId } else row := by
  have tracked : (trackProfilePhotoChange tables subject fileId).users = tables.users := by
    simp only [trackProfilePhotoChange]
    split
    · rfl
    · split
      · rfl
      · split <;> rfl
  simp only [setUserProfilePhoto, Table.lookup_revise, tracked]
  cases found : tables.users.lookup userId with
  | none => rfl
  | some row =>
      have rowId := ((Table.lookup_some_iff _ _ _).mp found).2
      simp [rowId, eq_comm]

omit [DecidableEq Key] in
theorem histProfilePhoto_set (tables : UserTables collate) (userId : Int) (fileId : Nat)
    (row : UserRow) (found : tables.users.lookup userId = some row) :
    (setUserProfilePhoto tables userId fileId).histProfilePhoto =
      tables.histProfilePhoto ++ (Recording.entry List.singleton row.profilePhotoFileId fileId).map
        fun fileId => ⟨userId, fileId⟩ := by
  simp only [setUserProfilePhoto, trackProfilePhotoChange, found, Recording.entry]
  cases row.profilePhotoFileId with
  | none => rfl
  | some oldId => by_cases same : oldId = fileId <;> simp [same]

omit [DecidableEq Key] in
theorem setUserProfilePhoto_others (tables : UserTables collate) (userId : Int) (fileId : Nat) :
    (setUserProfilePhoto tables userId fileId).histName = tables.histName ∧
      (setUserProfilePhoto tables userId fileId).histPhoneNum = tables.histPhoneNum ∧
      (setUserProfilePhoto tables userId fileId).histBio = tables.histBio := by
  simp only [setUserProfilePhoto, trackProfilePhotoChange]
  split
  · exact ⟨rfl, rfl, rfl⟩
  · split
    · exact ⟨rfl, rfl, rfl⟩
    · split <;> exact ⟨rfl, rfl, rfl⟩

/-- The columns a full info assigns. -/
def overwriteFullInfo (fi : UserFullInfo) (row : UserRow) : UserRow :=
  { row with
    bio := fi.bio
    personalChatId := fi.personalChatId
    birthdayDay := fi.birthdayDay
    birthdayMonth := fi.birthdayMonth
    birthdayYear := fi.birthdayYear }

omit [DecidableEq Key] in
theorem upsertUserFullInfo_absent (tables : UserTables collate) (fi : UserFullInfo)
    (absent : tables.users.lookup fi.userId = none) : upsertUserFullInfo tables fi = tables := by
  simp [upsertUserFullInfo, absent]

omit [DecidableEq Key] in
theorem lookup_upsertUserFullInfo (tables : UserTables collate) (fi : UserFullInfo)
    (userId : Int) :
    (upsertUserFullInfo tables fi).users.lookup userId =
      (tables.users.lookup userId).map fun row =>
        if fi.userId = userId then overwriteFullInfo fi row else row := by
  cases stored : tables.users.lookup fi.userId with
  | none =>
      rw [upsertUserFullInfo_absent tables fi stored]
      cases found : tables.users.lookup userId with
      | none => rfl
      | some row =>
          have other : fi.userId ≠ userId := by
            rintro rfl
            simp [stored] at found
          simp [other]
  | some old =>
      simp only [upsertUserFullInfo, stored, Table.lookup_revise]
      cases found : tables.users.lookup userId with
      | none => rfl
      | some row =>
          have rowId := ((Table.lookup_some_iff _ _ _).mp found).2
          simp [rowId, eq_comm, overwriteFullInfo]

omit [DecidableEq Key] in
theorem histBio_upsertUserFullInfo (tables : UserTables collate) (fi : UserFullInfo)
    (row : UserRow) (found : tables.users.lookup fi.userId = some row) :
    (upsertUserFullInfo tables fi).histBio =
      tables.histBio ++ (Recording.entry (fun _ => []) (some row.bio) fi.bio).map
        fun bio => ⟨fi.userId, bio⟩ := by
  simp only [upsertUserFullInfo, found, Recording.entry]
  by_cases same : row.bio = fi.bio <;> simp [same]

omit [DecidableEq Key] in
theorem upsertUserFullInfo_others (tables : UserTables collate) (fi : UserFullInfo) :
    (upsertUserFullInfo tables fi).histName = tables.histName ∧
      (upsertUserFullInfo tables fi).histPhoneNum = tables.histPhoneNum ∧
      (upsertUserFullInfo tables fi).histProfilePhoto = tables.histProfilePhoto := by
  simp only [upsertUserFullInfo]
  split <;> exact ⟨rfl, rfl, rfl⟩

theorem usernames_userStore (order : MapOrder) (us : List User) :
    (userStore order us : UserTables collate).usernames =
      run (syncSnapshot order) UsernameTables.empty (us.map User.snapshot) := by
  induction us using List.reverseRecOn with
  | nil => rfl
  | append_singleton us u ih =>
      rw [userStore, run_snoc, usernames_upsertUser, List.map_append, List.map_singleton,
        run_snoc, ← ih, userStore]

end

end TgLoggerd

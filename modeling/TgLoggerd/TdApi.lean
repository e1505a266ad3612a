/-!
The td_api objects the wrapper reads, with the fields it reads of them. A
nullable `object_ptr` is an `Option`, a class of alternatives an inductive type
whose last constructor stands for the alternatives the wrapper ignores. All
Telegram identifiers are integers; nothing is computed from them.
-/

namespace TgLoggerd.TdApi

structure LocalFile where
  path : String := ""
  isDownloadingCompleted : Bool := false
  deriving DecidableEq, Repr

structure RemoteFile where
  id : String := ""
  deriving DecidableEq, Repr

structure File where
  id : Int
  size : Int := 0
  localFile : Option LocalFile := none
  remoteFile : Option RemoteFile := none
  deriving DecidableEq, Repr

structure Usernames where
  activeUsernames : List String := []
  disabledUsernames : List String := []
  collectibleUsernames : List String := []
  deriving DecidableEq, Repr

inductive UserType where
  | regular
  | deleted
  | bot
  | other
  deriving DecidableEq, Repr

structure VerificationStatus where
  isVerified : Bool := false
  isScam : Bool := false
  isFake : Bool := false
  deriving DecidableEq, Repr

structure RestrictionInfo where
  restrictionReason : String := ""
  hasSensitiveContent : Bool := false
  deriving DecidableEq, Repr

inductive EmojiStatusType where
  | customEmoji (customEmojiId : Int)
  | other
  deriving DecidableEq, Repr

structure EmojiStatus where
  type : Option EmojiStatusType := none
  expirationDate : Int := 0
  deriving DecidableEq, Repr

/-- `profilePhoto` is the photo with its `big` file. -/
structure User where
  id : Int
  firstName : String := ""
  lastName : String := ""
  phoneNumber : String := ""
  usernames : Option Usernames := none
  type : Option UserType := none
  profilePhoto : Option (Option File) := none
  accentColorId : Int := 0
  backgroundCustomEmojiId : Int := 0
  profileAccentColorId : Int := 0
  profileBackgroundCustomEmojiId : Int := 0
  emojiStatus : Option EmojiStatus := none
  verificationStatus : Option VerificationStatus := none
  restrictionInfo : Option RestrictionInfo := none
  isPremium : Bool := false
  isSupport : Bool := false
  restrictsNewChats : Bool := false
  paidMessageStarCount : Int := 0
  isContact : Bool := false
  isMutualContact : Bool := false
  isCloseFriend : Bool := false
  haveAccess : Bool := false
  languageCode : String := ""
  deriving DecidableEq, Repr

structure Birthdate where
  day : Int
  month : Int
  year : Int
  deriving DecidableEq, Repr

structure UserFullInfo where
  bio : Option String := none
  birthdate : Option Birthdate := none
  personalChatId : Int := 0
  deriving DecidableEq, Repr

inductive MessageSender where
  | user (userId : Int)
  | chat (chatId : Int)
  deriving DecidableEq, Repr

inductive MessageOrigin where
  | user (senderUserId : Int)
  | hiddenUser (senderName : String)
  | chat (senderChatId : Int) (authorSignature : String)
  | channel (chatId messageId : Int) (authorSignature : String)
  | other
  deriving DecidableEq, Repr

structure MessageForwardInfo where
  origin : Option MessageOrigin := none
  date : Int := 0
  deriving DecidableEq, Repr

inductive MessageReplyTo where
  | message (chatId messageId : Int)
  | other
  deriving DecidableEq, Repr

structure PhotoSize where
  photo : Option File := none
  width : Int := 0
  height : Int := 0
  deriving DecidableEq, Repr

/-- A video, document, audio or animation: its file and the name it came with. -/
structure NamedFile where
  fileName : String := ""
  file : Option File := none
  deriving DecidableEq, Repr

inductive MessageContent where
  | text (text : Option String)
  | photo (sizes : Option (List (Option PhotoSize)))
  | video (video : Option NamedFile)
  | document (document : Option NamedFile)
  | audio (audio : Option NamedFile)
  | voiceNote (voice : Option (Option File))
  | sticker (sticker : Option (Option File))
  | animation (animation : Option NamedFile)
  | other
  deriving DecidableEq, Repr

structure Message where
  id : Int
  chatId : Int
  senderId : Option MessageSender := none
  isOutgoing : Bool := false
  isChannelPost : Bool := false
  date : Int := 0
  editDate : Int := 0
  forwardInfo : Option MessageForwardInfo := none
  replyTo : Option MessageReplyTo := none
  authorSignature : String := ""
  content : Option MessageContent := none
  deriving DecidableEq, Repr

inductive ChatType where
  | basicGroup (basicGroupId : Int)
  | supergroup (supergroupId : Int) (isChannel : Bool)
  | other
  deriving DecidableEq, Repr

/-- `photo` is the chatPhotoInfo with its `big` file. -/
structure Chat where
  id : Int
  type : Option ChatType := none
  title : String := ""
  photo : Option (Option File) := none
  deriving DecidableEq, Repr

structure Supergroup where
  id : Int
  usernames : Option Usernames := none
  isChannel : Bool := false
  deriving DecidableEq, Repr

structure SupergroupFullInfo where
  description : String := ""
  deriving DecidableEq, Repr

structure ChatAdministratorRights where
  canManageChat : Bool := false
  canChangeInfo : Bool := false
  canPostMessages : Bool := false
  canEditMessages : Bool := false
  canDeleteMessages : Bool := false
  canInviteUsers : Bool := false
  canRestrictMembers : Bool := false
  canPinMessages : Bool := false
  canManageTopics : Bool := false
  canPromoteMembers : Bool := false
  canManageVideoChats : Bool := false
  canPostStories : Bool := false
  canEditStories : Bool := false
  canDeleteStories : Bool := false
  canManageDirectMessages : Bool := false
  canManageTags : Bool := false
  isAnonymous : Bool := false
  deriving DecidableEq, Repr

inductive ChatMemberStatus where
  | creator (isAnonymous : Bool)
  | administrator (rights : Option ChatAdministratorRights)
  | other
  deriving DecidableEq, Repr

structure ChatMember where
  memberId : Option MessageSender := none
  tag : String := ""
  inviterUserId : Int := 0
  joinedChatDate : Int := 0
  status : Option ChatMemberStatus := none
  deriving DecidableEq, Repr

structure BasicGroupFullInfo where
  description : String := ""
  members : List (Option ChatMember) := []
  deriving DecidableEq, Repr

inductive AuthorizationState where
  | waitTdlibParameters
  | waitPhoneNumber
  | waitCode
  | waitRegistration
  | waitPassword
  | ready
  | loggingOut
  | closing
  | closed
  | other
  deriving DecidableEq, Repr

inductive Update where
  | authorizationState (state : AuthorizationState)
  | user (user : Option User)
  | userFullInfo (userId : Int) (userFullInfo : Option UserFullInfo)
  | file (file : Option File)
  | newChat (chat : Option Chat)
  | chatTitle (chatId : Int) (title : String)
  | chatPhoto (chatId : Int) (photo : Option (Option File))
  | supergroup (supergroup : Option Supergroup)
  | supergroupFullInfo (supergroupId : Int) (supergroupFullInfo : Option SupergroupFullInfo)
  | basicGroupFullInfo (basicGroupId : Int) (basicGroupFullInfo : Option BasicGroupFullInfo)
  | newMessage (message : Message)
  | messageContent (chatId messageId : Int) (newContent : Option MessageContent)
  | messageEdited (chatId messageId : Int)
  | deleteMessages (chatId : Int) (messageIds : List Int) (isPermanent : Bool)
  | other
  deriving DecidableEq, Repr

/-- What a query is answered with. -/
inductive Object where
  | message (message : Message)
  | user (user : User)
  | userFullInfo (userFullInfo : UserFullInfo)
  | chat (chat : Chat)
  | chatMembers (members : List (Option ChatMember))
  | error (code : Int)
  | other
  deriving DecidableEq, Repr

/-- The functions the wrapper sends. What the operator types at the console
during authorization is not kept. -/
inductive Function where
  | getOption
  | setTdlibParameters
  | setAuthenticationPhoneNumber
  | checkAuthenticationCode
  | registerUser
  | checkAuthenticationPassword
  | getMe
  | getMessage (chatId messageId : Int)
  | getUser (userId : Int)
  | getUserFullInfo (userId : Int)
  | getChat (chatId : Int)
  | getBasicGroupFullInfo (basicGroupId : Int)
  | getSupergroupFullInfo (supergroupId : Int)
  | getSupergroupMembers (supergroupId : Int)
  | downloadFile (fileId : Int)
  | setAlarm (seconds : Rat)
  | close
  deriving DecidableEq, Repr

end TgLoggerd.TdApi

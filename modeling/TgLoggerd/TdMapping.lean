import TgLoggerd.GroupStore
import TgLoggerd.Message
import TgLoggerd.TdApi
import TgLoggerd.UserStore

/-!
The free functions of `TDLib.cpp` that turn td_api objects into the models, and
the models that only the wrapper builds.
-/

namespace TgLoggerd

structure ProfilePhoto where
  userId : Int
  localPath : String
  tgFileId : String
  fileSize : Int
  deriving DecidableEq, Repr

structure GroupPhoto where
  groupId : Int
  localPath : String
  tgFileId : String
  fileSize : Int
  deriving DecidableEq, Repr

structure MessageFile where
  chatId : Int
  messageId : Int
  isGroup : Bool
  localPath : String
  tgFileId : String
  fileSize : Int
  contentType : String
  origFileName : String
  deriving DecidableEq, Repr

structure MessageReply where
  chatId : Int
  messageId : Int
  replyToChatId : Int
  replyToMsgId : Int
  isGroup : Bool
  deriving DecidableEq, Repr

structure TextMessage where
  senderId : Int
  messageId : Int
  senderName : String
  senderUsername : String
  text : String
  deriving DecidableEq, Repr

structure GroupAdmin where
  userId : Int
  isOwner : Bool := false
  customTitle : String := ""
  inviterUserId : Int := 0
  joinedDate : Int := 0
  rights : TdApi.ChatAdministratorRights := {}
  deriving DecidableEq, Repr

structure GroupAdminList where
  groupId : Int
  admins : List GroupAdmin
  deriving DecidableEq, Repr

def userTypeOf : Option TdApi.UserType → UserType
  | some .regular => .regular
  | some .deleted => .deleted
  | some .bot => .bot
  | some .other => .unknown
  | none => .unknown

/-- The custom emoji of a status, with its expiration date. -/
def customEmojiStatus (status : Option TdApi.EmojiStatus) : Option (Int × Int) :=
  match status with
  | some { type := some (.customEmoji customEmojiId), expirationDate } =>
      some (customEmojiId, expirationDate)
  | _ => none

def mapUser (u : TdApi.User) : User where
  id := u.id
  firstName := u.firstName
  lastName := u.lastName
  phoneNumber := u.phoneNumber
  type := userTypeOf u.type
  accentColorId := u.accentColorId
  backgroundCustomEmojiId := u.backgroundCustomEmojiId
  profileAccentColorId := u.profileAccentColorId
  profileBackgroundCustomEmojiId := u.profileBackgroundCustomEmojiId
  emojiStatusCustomEmojiId := (customEmojiStatus u.emojiStatus).map Prod.fst
  emojiStatusExpirationDate := (customEmojiStatus u.emojiStatus).map Prod.snd
  isVerified := (u.verificationStatus.map TdApi.VerificationStatus.isVerified).getD false
  isScam := (u.verificationStatus.map TdApi.VerificationStatus.isScam).getD false
  isFake := (u.verificationStatus.map TdApi.VerificationStatus.isFake).getD false
  isPremium := u.isPremium
  isSupport := u.isSupport
  restrictionReason := (u.restrictionInfo.map TdApi.RestrictionInfo.restrictionReason).getD ""
  hasSensitiveContent :=
    (u.restrictionInfo.map TdApi.RestrictionInfo.hasSensitiveContent).getD false
  restrictsNewChats := u.restrictsNewChats
  paidMessageStarCount := u.paidMessageStarCount
  isContact := u.isContact
  isMutualContact := u.isMutualContact
  isCloseFriend := u.isCloseFriend
  haveAccess := u.haveAccess
  languageCode := u.languageCode
  activeUsernames := (u.usernames.map TdApi.Usernames.activeUsernames).getD []
  disabledUsernames := (u.usernames.map TdApi.Usernames.disabledUsernames).getD []
  collectibleUsernames := (u.usernames.map TdApi.Usernames.collectibleUsernames).getD []

def mapUserFullInfo (fi : TdApi.UserFullInfo) (userId : Int) : UserFullInfo where
  userId := userId
  bio := fi.bio.getD ""
  birthdayDay := fi.birthdate.map TdApi.Birthdate.day
  birthdayMonth := fi.birthdate.map TdApi.Birthdate.month
  -- A hidden or omitted year comes as 0.
  birthdayYear := (fi.birthdate.map TdApi.Birthdate.year).filter (· ≠ 0)
  personalChatId := fi.personalChatId

/-- A creator holds every right; only its anonymity is its own. -/
def creatorRights (isAnonymous : Bool) : TdApi.ChatAdministratorRights where
  canManageChat := true
  canChangeInfo := true
  canPostMessages := true
  canEditMessages := true
  canDeleteMessages := true
  canInviteUsers := true
  canRestrictMembers := true
  canPinMessages := true
  canManageTopics := true
  canPromoteMembers := true
  canManageVideoChats := true
  canPostStories := true
  canEditStories := true
  canDeleteStories := true
  canManageDirectMessages := true
  canManageTags := true
  isAnonymous := isAnonymous

/-- The administrator a chat member is; none for anyone else. -/
def mapAdmin (m : TdApi.ChatMember) : Option GroupAdmin :=
  match m.memberId with
  | some (.user userId) =>
      let admin : GroupAdmin :=
        { userId := userId
          customTitle := m.tag
          inviterUserId := m.inviterUserId
          joinedDate := m.joinedChatDate }
      match m.status with
      | some (.creator isAnonymous) =>
          some { admin with isOwner := true, rights := creatorRights isAnonymous }
      | some (.administrator (some rights)) => some { admin with rights := rights }
      | some (.administrator none) => some admin
      | some .other => none
      | none => none
  | some (.chat _) => none
  | none => none

def isPrivateChat (chatId : Int) : Bool := chatId > 0

def extractMessageContent (message : TdApi.Message) : MessageContent :=
  match message.content with
  | none => {}
  | some (.text text) => { contentType := .text, text := text }
  | some (.photo _) => { contentType := .photo }
  | some (.video _) => { contentType := .video }
  | some (.document _) => { contentType := .document }
  | some (.audio _) => { contentType := .audio }
  | some (.voiceNote _) => { contentType := .voice }
  | some (.sticker _) => { contentType := .sticker }
  | some (.animation _) => { contentType := .animation }
  | some .other => { contentType := .unknown }

def nonEmpty (text : String) : Option String := if text = "" then none else some text

def extractForwardInfo (message : TdApi.Message) : Option ForwardInfo :=
  message.forwardInfo.map fun forward =>
    match forward.origin with
    | some (.user senderUserId) =>
        { originType := .user
          originSenderUserId := some senderUserId
          originDate := forward.date }
    | some (.hiddenUser senderName) =>
        { originType := .hiddenUser
          originSenderName := some senderName
          originDate := forward.date }
    | some (.chat senderChatId authorSignature) =>
        { originType := .chat
          originChatId := some senderChatId
          originSenderName := nonEmpty authorSignature
          originDate := forward.date }
    | some (.channel chatId messageId authorSignature) =>
        { originType := .channel
          originChatId := some chatId
          originMessageId := some messageId
          originSenderName := nonEmpty authorSignature
          originDate := forward.date }
    | some .other => { originDate := forward.date }
    | none => { originDate := forward.date }

/-- The largest size of a photo; the first one among equals. -/
def largestPhoto (sizes : List (Option TdApi.PhotoSize)) : Option TdApi.File :=
  let best := sizes.foldl
    (fun (best : Option TdApi.File × Int) size =>
      match size with
      | some { photo := some photo, width, height } =>
          if width * height > best.2 then (some photo, width * height) else best
      | _ => best)
    (none, -1)
  best.1

/-- The downloadable file of a content, with its category and original name. -/
def messageContentFile : TdApi.MessageContent → Option (TdApi.File × String × String)
  | .text _ => none
  | .photo sizes => (sizes.bind largestPhoto).map fun file => (file, "photo", "")
  | .video video =>
      video.bind fun named => named.file.map fun file => (file, "video", named.fileName)
  | .document document =>
      document.bind fun named => named.file.map fun file => (file, "document", named.fileName)
  | .audio audio =>
      audio.bind fun named => named.file.map fun file => (file, "audio", named.fileName)
  | .voiceNote voice => voice.join.map fun file => (file, "voice", "")
  | .sticker sticker => sticker.join.map fun file => (file, "sticker", "")
  | .animation animation =>
      animation.bind fun named => named.file.map fun file => (file, "animation", named.fileName)
  | .other => none

/-- The message another one replies to. A zero chat_id means the same chat, and
a zero message_id no message. -/
def replyTarget (m : TdApi.Message) : Option (Int × Int) :=
  match m.replyTo with
  | some (.message chatId messageId) =>
      if messageId = 0 then none
      else some (if chatId ≠ 0 then chatId else m.chatId, messageId)
  | some .other => none
  | none => none

/-- The own account's messages keep a NULL sender. -/
def buildPrivateMessage (message : TdApi.Message) : PrivateMessage where
  chatId := message.chatId
  messageId := message.id
  sender :=
    { senderId :=
        match message.isOutgoing, message.senderId with
        | false, some (.user userId) => some userId
        | _, _ => none }
  isOutgoing := message.isOutgoing
  date := message.date
  editDate := message.editDate
  content := extractMessageContent message
  isDeleted := false
  forwardInfo := extractForwardInfo message

def buildGroupMessage (message : TdApi.Message) : GroupMessage where
  chatId := message.chatId
  messageId := message.id
  sender :=
    { senderUserId :=
        match message.senderId with
        | some (.user userId) => some userId
        | _ => none
      senderChatId :=
        match message.senderId with
        | some (.chat chatId) => some chatId
        | _ => none
      isChannelPost := message.isChannelPost
      authorSignature := nonEmpty message.authorSignature }
  isOutgoing := message.isOutgoing
  date := message.date
  editDate := message.editDate
  content := extractMessageContent message
  isDeleted := false
  forwardInfo := extractForwardInfo message

end TgLoggerd

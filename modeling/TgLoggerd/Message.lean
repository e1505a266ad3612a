import Mathlib.Data.List.Nodup

/-!
The message models of `models/Message.hpp`, `PrivateMessage.hpp` and
`GroupMessage.hpp`. Private and group messages differ in their sender columns
only, so a message is generic in these. Times and Telegram identifiers are the
source's signed 64-bit integers; nothing here does arithmetic on them.
-/

namespace TgLoggerd

inductive MessageContentType where
  | text | photo | video | document | audio | voice | sticker | animation | unknown
  deriving DecidableEq, Repr

def MessageContentType.toString : MessageContentType → String
  | .text => "text"
  | .photo => "photo"
  | .video => "video"
  | .document => "document"
  | .audio => "audio"
  | .voice => "voice"
  | .sticker => "sticker"
  | .animation => "animation"
  | .unknown => "unknown"

def messageContentTypeFromString (label : String) : MessageContentType :=
  if label = "text" then .text
  else if label = "photo" then .photo
  else if label = "video" then .video
  else if label = "document" then .document
  else if label = "audio" then .audio
  else if label = "voice" then .voice
  else if label = "sticker" then .sticker
  else if label = "animation" then .animation
  else .unknown

@[simp]
theorem content_type_round_trip (contentType : MessageContentType) :
    messageContentTypeFromString contentType.toString = contentType := by
  cases contentType <;> decide

inductive ForwardOriginType where
  | user | hiddenUser | chat | channel
  deriving DecidableEq, Repr

structure ForwardInfo where
  originType : ForwardOriginType := .user
  originSenderUserId : Option Int := none
  originSenderName : Option String := none
  originChatId : Option Int := none
  originMessageId : Option Int := none
  originDate : Int := 0
  deriving DecidableEq, Repr

structure MessageContent where
  contentType : MessageContentType := .unknown
  text : Option String := none
  fileId : Option Nat := none
  deriving DecidableEq, Repr

/-- The part of the content the change test looks at. -/
def MessageContent.body (content : MessageContent) : MessageContentType × Option String :=
  (content.contentType, content.text)

structure PrivateSender where
  senderId : Option Int := none
  deriving DecidableEq, Repr, Inhabited

structure GroupSender where
  senderUserId : Option Int := none
  senderChatId : Option Int := none
  isChannelPost : Bool := false
  authorSignature : Option String := none
  deriving DecidableEq, Repr, Inhabited

structure Message (Sender : Type) where
  chatId : Int
  messageId : Int
  sender : Sender
  isOutgoing : Bool := false
  date : Int := 0
  editDate : Int := 0
  content : MessageContent := {}
  isDeleted : Bool := false
  forwardInfo : Option ForwardInfo := none
  deriving DecidableEq, Repr

abbrev PrivateMessage := Message PrivateSender
abbrev GroupMessage := Message GroupSender

namespace Message

variable {Sender : Type}

/-- The UNIQUE key (chat_id, message_id) of both message tables. -/
def key (message : Message Sender) : Int × Int := (message.chatId, message.messageId)

def body (message : Message Sender) : MessageContentType × Option String :=
  message.content.body

/-- A deletion as `handle_delete_messages` builds it: identifiers and flag,
every other field at its default. -/
def deletion (Sender : Type) [Inhabited Sender] (chatId messageId : Int) : Message Sender :=
  { chatId := chatId, messageId := messageId, sender := default, isDeleted := true }

@[simp]
theorem key_deletion [Inhabited Sender] (chatId messageId : Int) :
    (deletion Sender chatId messageId).key = (chatId, messageId) := rfl

@[simp]
theorem isDeleted_deletion [Inhabited Sender] (chatId messageId : Int) :
    (deletion Sender chatId messageId).isDeleted = true := rfl

end Message

end TgLoggerd

import Mathlib.Data.Finset.Card
import Mathlib.Data.Finset.Erase
import Mathlib.Logic.Function.Basic
import TgLoggerd.SerialRun
import TgLoggerd.TdMapping

/-!
`TDLib::Impl` of `TDLib.cpp` as a reactive machine. What reaches the outside is
an action: a call of a handler set by `TgLoggerd::start`, or a query with the
continuation that takes its answer. A function of the source that only posts
actions is the list it posts, in order; one that also writes to the caches
returns the caches with it. Query numbers and the table of waiting continuations
belong to `Impl`, and nothing else reads them. A hash map is the function that
`find` computes; no function here iterates over one.
-/

namespace TgLoggerd

open SerialRun Function

/-- The handlers that are set and the polling parameters, all fixed before the
loop starts. `start` sets every handler. -/
structure Config where
  msgHandler : Bool := true
  privateMsgHandler : Bool := true
  groupMsgHandler : Bool := true
  messageFileHandler : Bool := true
  messageReplyHandler : Bool := true
  userHandler : Bool := true
  userFullInfoHandler : Bool := true
  photoHandler : Bool := true
  groupHandler : Bool := true
  groupPhotoHandler : Bool := true
  groupAdminsHandler : Bool := true
  adminPollInterval : Rat := 300
  adminPollBatch : Nat := 4

def Config.started (adminPollInterval : Rat) (adminPollBatch : Nat) : Config where
  adminPollInterval := adminPollInterval
  adminPollBatch := adminPollBatch

inductive Call where
  | textMessage (msg : TextMessage)
  | privateMessage (pm : PrivateMessage)
  | groupMessage (gm : GroupMessage)
  | messageFile (mf : MessageFile)
  | messageReply (mr : MessageReply)
  | user (u : User)
  | userFullInfo (fi : UserFullInfo)
  | profilePhoto (p : ProfilePhoto)
  | group (g : Group)
  | groupPhoto (p : GroupPhoto)
  | groupAdmins (list : GroupAdminList)
  deriving DecidableEq, Repr

/-- What waits for the answer to a query, with the values it captured. -/
inductive Continuation where
  | authentication
  | me
  | editedMessage
  | repliedMessage (reply : MessageReply) (depth : Nat)
  | savedUser
  | savedChat
  | fullInfo (userId : Int)
  | groupAdmins (chatId : Int)
  | adminAlarm
  deriving DecidableEq, Repr

inductive Action where
  | hand (call : Call)
  | send (query : TdApi.Function) (handler : Option Continuation)
  deriving DecidableEq, Repr

structure SgInfo where
  active : List String := []
  disabled : List String := []
  collectible : List String := []
  isChannel : Bool := false
  deriving DecidableEq, Repr

structure GroupState where
  type : GroupType := .basicGroup
  chatId : Int := 0
  title : String := ""
  description : String := ""
  activeUsernames : List String := []
  disabledUsernames : List String := []
  collectibleUsernames : List String := []
  chatSeen : Bool := false
  deriving DecidableEq, Repr

structure PendingMsgFile where
  chatId : Int
  messageId : Int
  isGroup : Bool
  contentType : String
  origFileName : String
  deriving DecidableEq, Repr

structure Caches where
  stopped : Bool := false
  isAuthorized : Bool := false
  closing : Bool := false
  users : Int → Option TdApi.User := fun _ => none
  pendingPhoto : Int → Option Int := fun _ => none
  supergroups : Int → Option SgInfo := fun _ => none
  groupState : Int → Option GroupState := fun _ => none
  chatToGroup : Int → Option Int := fun _ => none
  pendingGroupPhoto : Int → Option Int := fun _ => none
  pendingMessageFile : Int → Option PendingMsgFile := fun _ => none
  resolvedReplyTargets : Finset (Int × Int) := ∅
  adminPollSet : Finset Int := ∅
  adminPollQueue : List Int := []
  adminPollMiss : Int → Option Nat := fun _ => none
  adminPollStarted : Bool := false

def kMaxReplyDepth : Nat := 128
def kReplyDedupCap : Nat := 1000000
def kAdminPollMaxMiss : Nat := 3

/-- The path of a file whose download is complete. -/
def completedPath (f : TdApi.File) : Option String :=
  f.localFile.bind fun file => if file.isDownloadingCompleted then some file.path else none

def remoteId (f : TdApi.File) : String := (f.remoteFile.map TdApi.RemoteFile.id).getD ""

section

variable (config : Config)

def emitMessageFile (ref : PendingMsgFile) (f : TdApi.File) : List Action :=
  match config.messageFileHandler, completedPath f with
  | true, some path =>
      [.hand (.messageFile
        { chatId := ref.chatId
          messageId := ref.messageId
          isGroup := ref.isGroup
          localPath := path
          tgFileId := remoteId f
          fileSize := f.size
          contentType := ref.contentType
          origFileName := ref.origFileName })]
  | _, _ => []

def emitPhoto (userId : Int) (f : TdApi.File) : List Action :=
  match config.photoHandler, completedPath f with
  | true, some path => [.hand (.profilePhoto ⟨userId, path, remoteId f, f.size⟩)]
  | _, _ => []

def emitGroupPhoto (groupId : Int) (f : TdApi.File) : List Action :=
  match config.groupPhotoHandler, completedPath f with
  | true, some path => [.hand (.groupPhoto ⟨groupId, path, remoteId f, f.size⟩)]
  | _, _ => []

def emitGroup (caches : Caches) (groupId : Int) : List Action :=
  match caches.groupState groupId with
  | none => []
  | some st =>
      if st.chatSeen && config.groupHandler then
        [.hand (.group
          { id := st.chatId
            type := st.type
            title := st.title
            description := st.description
            activeUsernames := st.activeUsernames
            disabledUsernames := st.disabledUsernames
            collectibleUsernames := st.collectibleUsernames })]
      else []

def downloadFile (fileId : Int) : Action := .send (.downloadFile fileId) none

def maybeDownloadMessageFile (caches : Caches) (message : TdApi.Message) (isGroup : Bool) :
    Caches × List Action :=
  match config.messageFileHandler, message.content.bind messageContentFile with
  | true, some (f, category, fileName) =>
      let ref : PendingMsgFile :=
        { chatId := message.chatId
          messageId := message.id
          isGroup := isGroup
          contentType := category
          origFileName := fileName }
      if (completedPath f).isSome then (caches, emitMessageFile config ref f)
      else
        ({ caches with pendingMessageFile := update caches.pendingMessageFile f.id (some ref) },
          [downloadFile f.id])
  | _, _ => (caches, [])

def maybeDownloadProfilePhoto (caches : Caches) (u : TdApi.User) : Caches × List Action :=
  match config.photoHandler, u.profilePhoto.join with
  | true, some big =>
      if (completedPath big).isSome then (caches, emitPhoto config u.id big)
      else
        ({ caches with pendingPhoto := update caches.pendingPhoto big.id (some u.id) },
          [downloadFile big.id])
  | _, _ => (caches, [])

def maybeDownloadGroupPhoto (caches : Caches) (groupId : Int)
    (photo : Option (Option TdApi.File)) : Caches × List Action :=
  match config.groupPhotoHandler, photo.join with
  | true, some big =>
      if (completedPath big).isSome then (caches, emitGroupPhoto config groupId big)
      else
        ({ caches with pendingGroupPhoto := update caches.pendingGroupPhoto big.id (some groupId) },
          [downloadFile big.id])
  | _, _ => (caches, [])

def handleFileUpdate (caches : Caches) (f : TdApi.File) : Caches × List Action :=
  if (completedPath f).isSome then
    match caches.pendingPhoto f.id with
    | some userId =>
        ({ caches with pendingPhoto := update caches.pendingPhoto f.id none },
          emitPhoto config userId f)
    | none =>
        match caches.pendingGroupPhoto f.id with
        | some groupId =>
            ({ caches with pendingGroupPhoto := update caches.pendingGroupPhoto f.id none },
              emitGroupPhoto config groupId f)
        | none =>
            match caches.pendingMessageFile f.id with
            | some ref =>
                ({ caches with
                    pendingMessageFile := update caches.pendingMessageFile f.id none },
                  emitMessageFile config ref f)
            | none => (caches, [])
  else (caches, [])

def requestUserFullInfo (userId : Int) : List Action :=
  if config.userFullInfoHandler then
    [.send (.getUserFullInfo userId) (some (.fullInfo userId))]
  else []

/-- What `updateUser` and the answer to `getUser` do with a user. -/
def saveUser (caches : Caches) (u : TdApi.User) : Caches × List Action :=
  let (requested, photo) := maybeDownloadProfilePhoto config caches u
  ({ requested with users := update requested.users u.id (some u) },
    (if config.userHandler then [.hand (.user (mapUser u))] else []) ++ photo)

def ensureUserSaved (caches : Caches) (userId : Int) : List Action :=
  if userId = 0 ∨ config.userHandler = false then []
  else
    match caches.users userId with
    | some u => [.hand (.user (mapUser u))]
    | none => [.send (.getUser userId) (some .savedUser)]

def ensureChatSaved (caches : Caches) (chatId : Int) : List Action :=
  if chatId = 0 ∨ config.groupHandler = false then []
  else if isPrivateChat chatId then []
  else
    match caches.chatToGroup chatId with
    | some groupId => emitGroup config caches groupId
    | none => [.send (.getChat chatId) (some .savedChat)]

def resolveForwardOrigin (caches : Caches) (info : ForwardInfo) : List Action :=
  (match info.originSenderUserId with
    | some userId => ensureUserSaved config caches userId
    | none => []) ++
  (match info.originChatId with
    | some chatId => ensureChatSaved config caches chatId
    | none => [])

def ensureMessageEntities (caches : Caches) (message : TdApi.Message) : List Action :=
  (if isPrivateChat message.chatId then ensureUserSaved config caches message.chatId
    else ensureChatSaved config caches message.chatId) ++
  (match message.senderId with
    | some (.user userId) => ensureUserSaved config caches userId
    | some (.chat chatId) => ensureChatSaved config caches chatId
    | none => [])

/-- The set is cleared when it has grown to its cap. -/
def markReplyResolved (caches : Caches) (target : Int × Int) : Caches :=
  let kept :=
    if caches.resolvedReplyTargets.card ≥ kReplyDedupCap then ∅ else caches.resolvedReplyTargets
  { caches with resolvedReplyTargets := insert target kept }

def resolveReplyMessage (caches : Caches) (message : TdApi.Message) (isGroup : Bool)
    (depth : Nat) : List Action :=
  match config.messageReplyHandler, replyTarget message with
  | true, some (replyChatId, replyMsgId) =>
      let reply : MessageReply :=
        { chatId := message.chatId
          messageId := message.id
          replyToChatId := replyChatId
          replyToMsgId := replyMsgId
          isGroup := isGroup }
      if (replyChatId, replyMsgId) ∈ caches.resolvedReplyTargets ∨ depth ≥ kMaxReplyDepth then
        [.hand (.messageReply reply)]
      else [.send (.getMessage replyChatId replyMsgId) (some (.repliedMessage reply depth))]
  | _, _ => []

def forwardActions (caches : Caches) : Option ForwardInfo → List Action
  | some info => resolveForwardOrigin config caches info
  | none => []

def handleMessageForPrivateChat (caches : Caches) (message : TdApi.Message) (depth : Nat) :
    Caches × List Action :=
  if config.privateMsgHandler then
    let pm := buildPrivateMessage message
    let (requested, download) := maybeDownloadMessageFile config caches message false
    (requested,
      forwardActions config caches pm.forwardInfo ++ [.hand (.privateMessage pm)] ++ download ++
        resolveReplyMessage config requested message false depth)
  else (caches, [])

def handleMessageForGroupChat (caches : Caches) (message : TdApi.Message) (depth : Nat) :
    Caches × List Action :=
  if config.groupMsgHandler then
    let gm := buildGroupMessage message
    let (requested, download) := maybeDownloadMessageFile config caches message true
    (requested,
      forwardActions config caches gm.forwardInfo ++ [.hand (.groupMessage gm)] ++ download ++
        resolveReplyMessage config requested message true depth)
  else (caches, [])

/-- Routing by chat kind. -/
def handleMessage (caches : Caches) (chatId : Int) (message : TdApi.Message) (depth : Nat) :
    Caches × List Action :=
  if isPrivateChat chatId then handleMessageForPrivateChat config caches message depth
  else handleMessageForGroupChat config caches message depth

/-- The name of a user as the text handler shows it. -/
def senderName (user : TdApi.User) : String :=
  if user.lastName = "" then user.firstName
  else if user.firstName = "" then user.lastName
  else user.firstName ++ " " ++ user.lastName

def textMessageOf (caches : Caches) (message : TdApi.Message) (text : String) : TextMessage :=
  let senderId :=
    match message.senderId with
    | some (.user userId) => userId
    | some (.chat chatId) => chatId
    | none => 0
  let sender := caches.users senderId
  { senderId := senderId
    messageId := message.id
    senderName := (sender.map senderName).getD ""
    senderUsername :=
      ((sender.bind TdApi.User.usernames).bind fun names => names.activeUsernames.head?).getD ""
    text := text }

def textMessage (caches : Caches) (message : TdApi.Message) : List Action :=
  match config.msgHandler, message.content with
  | true, some (.text (some text)) =>
      [.hand (.textMessage (textMessageOf caches message text))]
  | _, _ => []

def handleNewMessage (caches : Caches) (message : TdApi.Message) : Caches × List Action :=
  let (handled, actions) := handleMessage config caches message.chatId message 0
  (handled, actions ++ textMessage config handled message)

/-- `is_permanent` is not a parameter the body reads. -/
def handleDeleteMessages (chatId : Int) (messageIds : List Int) (_isPermanent : Bool) :
    List Action :=
  if isPrivateChat chatId then
    if config.privateMsgHandler then
      messageIds.map fun msgId =>
        .hand (.privateMessage (Message.deletion PrivateSender chatId msgId))
    else []
  else
    if config.groupMsgHandler then
      messageIds.map fun msgId => .hand (.groupMessage (Message.deletion GroupSender chatId msgId))
    else []

def fetchGroupAdmins (supergroupId chatId : Int) : List Action :=
  if config.groupAdminsHandler then
    [.send (.getSupergroupMembers supergroupId) (some (.groupAdmins chatId))]
  else []

/-- The loop over a member list and the list it hands over when any is left. -/
def emitAdmins (caches : Caches) (chatId : Int) (members : List (Option TdApi.ChatMember)) :
    List Action :=
  let admins := members.filterMap fun m => m.bind mapAdmin
  (admins.flatMap fun ga => ensureUserSaved config caches ga.userId) ++
    if admins = [] then [] else [.hand (.groupAdmins ⟨chatId, admins⟩)]

def emitBasicGroupAdmins (caches : Caches) (chatId : Int) (fi : TdApi.BasicGroupFullInfo) :
    List Action :=
  if config.groupAdminsHandler then emitAdmins config caches chatId fi.members else []

/-- The group state after its chat was seen, with the usernames and the kind
that `updateSupergroup` may have brought before. -/
def seenState (caches : Caches) (chat : TdApi.Chat) (groupId : Int) (type : GroupType) :
    GroupState :=
  let st : GroupState :=
    { (caches.groupState groupId).getD {} with
      type := type
      chatId := chat.id
      title := chat.title
      chatSeen := true }
  match caches.supergroups groupId with
  | some sg =>
      { st with
        activeUsernames := sg.active
        disabledUsernames := sg.disabled
        collectibleUsernames := sg.collectible
        type := if sg.isChannel then .channel else st.type }
  | none => st

/-- `handle_new_chat` past the switch over the chat type. -/
def handleGroupChat (caches : Caches) (chat : TdApi.Chat) (fromChatList : Bool) (groupId : Int)
    (type : GroupType) : Caches × List Action :=
  let firstSight := (caches.groupState groupId).isNone
  let seen :=
    { caches with
      groupState := update caches.groupState groupId (some (seenState caches chat groupId type))
      chatToGroup := update caches.chatToGroup chat.id (some groupId) }
  let request : Action :=
    if type = .basicGroup then .send (.getBasicGroupFullInfo groupId) none
    else .send (.getSupergroupFullInfo groupId) none
  let (requested, photo) := maybeDownloadGroupPhoto config seen chat.id chat.photo
  let actions := emitGroup config seen groupId ++ [request] ++ photo
  -- Only groups of our own chat list are polled for their admins.
  if fromChatList ∧ firstSight ∧ chat.id ∉ requested.adminPollSet then
    ({ requested with
        adminPollSet := insert chat.id requested.adminPollSet
        adminPollQueue := requested.adminPollQueue ++ [chat.id] },
      actions ++ if type = .basicGroup then [] else fetchGroupAdmins config groupId chat.id)
  else (requested, actions)

def handleNewChat (caches : Caches) (chat : TdApi.Chat) (fromChatList : Bool) :
    Caches × List Action :=
  match chat.type with
  | some (.basicGroup groupId) =>
      handleGroupChat config caches chat fromChatList groupId .basicGroup
  | some (.supergroup groupId isChannel) =>
      handleGroupChat config caches chat fromChatList groupId
        (if isChannel then .channel else .supergroup)
  | some .other => (caches, [])
  | none => (caches, [])

def armAdminAlarm : List Action := [.send (.setAlarm config.adminPollInterval) (some .adminAlarm)]

/-- The loop of `poll_admin_batch`: `scan` queue entries may still be looked at
and `rest` groups still be polled. -/
def pollAdmins : Nat → Nat → Caches → Caches × List Action
  | 0, _, caches => (caches, [])
  | _ + 1, 0, caches => (caches, [])
  | scan + 1, rest + 1, caches =>
      match caches.adminPollQueue with
      | [] => (caches, [])
      | chatId :: others =>
          if chatId ∈ caches.adminPollSet then
            let requeued := { caches with adminPollQueue := others ++ [chatId] }
            match (caches.chatToGroup chatId).bind fun groupId =>
              (caches.groupState groupId).map fun st => (groupId, st) with
            | none => pollAdmins scan (rest + 1) requeued
            | some (groupId, st) =>
                let request :=
                  if st.type = .basicGroup then [.send (.getBasicGroupFullInfo groupId) none]
                  else fetchGroupAdmins config groupId chatId
                let (polled, requests) := pollAdmins scan rest requeued
                (polled, request ++ requests)
          else
            -- An evicted group is dropped from the queue.
            pollAdmins scan (rest + 1) { caches with adminPollQueue := others }

def pollAdminBatch (caches : Caches) : Caches × List Action :=
  pollAdmins config caches.adminPollQueue.length config.adminPollBatch caches

def onAdminAlarm (caches : Caches) : Caches × List Action :=
  if caches.stopped || caches.closing then (caches, [])
  else if caches.isAuthorized && config.groupAdminsHandler then
    let (polled, requests) := pollAdminBatch config caches
    (polled, requests ++ armAdminAlarm config)
  else (caches, armAdminAlarm config)

def onAuthorizationStateUpdate (caches : Caches) : TdApi.AuthorizationState → Caches × List Action
  | .waitTdlibParameters => (caches, [.send .setTdlibParameters (some .authentication)])
  | .waitPhoneNumber => (caches, [.send .setAuthenticationPhoneNumber (some .authentication)])
  | .waitCode => (caches, [.send .checkAuthenticationCode (some .authentication)])
  | .waitRegistration => (caches, [.send .registerUser (some .authentication)])
  | .waitPassword => (caches, [.send .checkAuthenticationPassword (some .authentication)])
  | .ready =>
      let authorized := { caches with isAuthorized := true }
      -- A second login finds the alarm chain already started.
      if ¬ caches.adminPollStarted ∧ config.adminPollInterval > 0 ∧ config.groupAdminsHandler then
        ({ authorized with adminPollStarted := true },
          [.send .getMe (some .me)] ++ armAdminAlarm config)
      else (authorized, [.send .getMe (some .me)])
  | .loggingOut => ({ caches with isAuthorized := false }, [])
  | .closing => (caches, [])
  | .closed => ({ caches with isAuthorized := false, stopped := true }, [])
  | .other => (caches, [])

def handleSupergroup (caches : Caches) (sg : TdApi.Supergroup) : Caches × List Action :=
  let names := sg.usernames.getD {}
  let info : SgInfo :=
    { active := names.activeUsernames
      disabled := names.disabledUsernames
      collectible := names.collectibleUsernames
      isChannel := sg.isChannel }
  let known := { caches with supergroups := update caches.supergroups sg.id (some info) }
  match caches.groupState sg.id with
  | none => (known, [])
  | some st =>
      let merged :=
        { known with
          groupState := update known.groupState sg.id
            (some
              { st with
                activeUsernames := info.active
                disabledUsernames := info.disabled
                collectibleUsernames := info.collectible
                type := if info.isChannel then .channel else .supergroup }) }
      (merged, emitGroup config merged sg.id)

/-- The description of a group, which may arrive before its chat. -/
def describe (caches : Caches) (groupId : Int) (description : String) : Caches × GroupState :=
  let st : GroupState := { (caches.groupState groupId).getD {} with description := description }
  ({ caches with groupState := update caches.groupState groupId (some st) }, st)

def processUpdate (caches : Caches) : TdApi.Update → Caches × List Action
  | .authorizationState state => onAuthorizationStateUpdate config caches state
  | .user none => (caches, [])
  | .user (some u) =>
      let (saved, actions) := saveUser config caches u
      (saved, actions ++ if (caches.users u.id).isNone then requestUserFullInfo config u.id else [])
  | .userFullInfo userId (some info) =>
      (caches,
        if config.userFullInfoHandler then [.hand (.userFullInfo (mapUserFullInfo info userId))]
        else [])
  | .userFullInfo _ none => (caches, [])
  | .file (some f) => handleFileUpdate config caches f
  | .file none => (caches, [])
  | .newChat (some chat) => handleNewChat config caches chat true
  | .newChat none => (caches, [])
  | .chatTitle chatId title =>
      match caches.chatToGroup chatId with
      | none => (caches, [])
      | some groupId =>
          let st : GroupState := { (caches.groupState groupId).getD {} with title := title }
          let titled := { caches with groupState := update caches.groupState groupId (some st) }
          (titled, emitGroup config titled groupId)
  | .chatPhoto chatId photo =>
      match caches.chatToGroup chatId with
      | none => (caches, [])
      | some _ => maybeDownloadGroupPhoto config caches chatId photo
  | .supergroup (some sg) => handleSupergroup config caches sg
  | .supergroup none => (caches, [])
  | .supergroupFullInfo groupId (some info) =>
      let (described, st) := describe caches groupId info.description
      (described, if st.chatSeen then emitGroup config described groupId else [])
  | .supergroupFullInfo _ none => (caches, [])
  | .basicGroupFullInfo groupId (some info) =>
      let (described, st) := describe caches groupId info.description
      if st.chatSeen then
        (described, emitGroup config described groupId ++
          if st.chatId ∈ described.adminPollSet then
            emitBasicGroupAdmins config described st.chatId info
          else [])
      else (described, [])
  | .basicGroupFullInfo _ none => (caches, [])
  | .newMessage message => handleNewMessage config caches message
  -- Content updates are left to the update that carries the edit date.
  | .messageContent _ _ _ => (caches, [])
  | .messageEdited chatId messageId =>
      (caches, [.send (.getMessage chatId messageId) (some .editedMessage)])
  | .deleteMessages chatId messageIds isPermanent =>
      (caches, handleDeleteMessages config chatId messageIds isPermanent)
  | .other => (caches, [])

/-- Three permission errors without a success between them evict a group. -/
def countMiss (caches : Caches) (chatId : Int) : Caches :=
  let misses := (caches.adminPollMiss chatId).getD 0 + 1
  let counted := { caches with adminPollMiss := update caches.adminPollMiss chatId (some misses) }
  if misses ≥ kAdminPollMaxMiss then
    { counted with adminPollSet := counted.adminPollSet.erase chatId }
  else counted

/-- A continuation takes the answer to its query. -/
def resume (caches : Caches) : Continuation → TdApi.Object → Caches × List Action
  | .editedMessage, .message m => handleMessage config caches m.chatId m 0
  | .repliedMessage reply depth, .message r =>
      let marked := markReplyResolved caches (reply.replyToChatId, reply.replyToMsgId)
      let (handled, actions) := handleMessage config marked reply.replyToChatId r (depth + 1)
      (handled,
        ensureMessageEntities config marked r ++ actions ++ [.hand (.messageReply reply)])
  -- The replied message is unavailable; the link is recorded anyway.
  | .repliedMessage reply _, _ => (caches, [.hand (.messageReply reply)])
  | .savedUser, .user u => saveUser config caches u
  | .savedChat, .chat chat => handleNewChat config caches chat false
  | .fullInfo userId, .userFullInfo info =>
      (caches, [.hand (.userFullInfo (mapUserFullInfo info userId))])
  | .groupAdmins chatId, .chatMembers members =>
      ({ caches with adminPollMiss := update caches.adminPollMiss chatId none },
        emitAdmins config caches chatId members)
  | .groupAdmins chatId, .error code =>
      (if code = 400 ∨ code = 403 then countMiss caches chatId else caches, [])
  | .adminAlarm, _ => onAdminAlarm config caches
  | _, _ => (caches, [])

end

structure Impl where
  caches : Caches
  currentQueryId : Nat
  handlers : Nat → Option Continuation
  log : List Action

inductive Event where
  | update (update : TdApi.Update)
  | answer (requestId : Nat) (object : TdApi.Object)
  | close
  deriving DecidableEq, Repr

/-- `send_query` numbers a query and keeps its continuation. -/
def act (impl : Impl) : Action → Impl
  | .hand call => { impl with log := impl.log ++ [.hand call] }
  | .send query handler =>
      { impl with
        currentQueryId := impl.currentQueryId + 1
        handlers :=
          match handler with
          | some waiting => update impl.handlers (impl.currentQueryId + 1) (some waiting)
          | none => impl.handlers
        log := impl.log ++ [.send query handler] }

def Impl.initial : Impl :=
  act
    { caches := {}
      currentQueryId := 0
      handlers := fun _ => none
      log := [] }
    (.send .getOption none)

def reaction (config : Config) (impl : Impl) : Event → Caches × List Action
  | .update u => processUpdate config impl.caches u
  | .answer requestId object =>
      match impl.handlers requestId with
      | some waiting => resume config impl.caches waiting object
      | none => (impl.caches, [])
  | .close => ({ impl.caches with closing := true }, [.send .close none])

/-- One turn of the loop, or a call of `close`. -/
def process (config : Config) (impl : Impl) (event : Event) : Impl :=
  let taken :=
    match event with
    | .answer requestId _ => { impl with handlers := update impl.handlers requestId none }
    | .update _ => impl
    | .close => impl
  (reaction config impl event).2.foldl act
    { taken with caches := (reaction config impl event).1 }

theorem act_all (actions : List Action) (impl : Impl) :
    (actions.foldl act impl).caches = impl.caches ∧
      (actions.foldl act impl).log = impl.log ++ actions := by
  induction actions generalizing impl with
  | nil => simp
  | cons action rest ih =>
      rw [List.foldl_cons]
      obtain ⟨caches, log⟩ := ih (act impl action)
      rw [caches, log]
      cases action <;> simp [act]

@[simp]
theorem caches_process (config : Config) (impl : Impl) (event : Event) :
    (process config impl event).caches = (reaction config impl event).1 :=
  (act_all _ _).1

@[simp]
theorem log_process (config : Config) (impl : Impl) (event : Event) :
    (process config impl event).log = impl.log ++ (reaction config impl event).2 := by
  refine ((act_all _ _).2).trans ?_
  cases event <;> rfl

def runEvents (config : Config) (events : List Event) : Impl :=
  run (process config) Impl.initial events

theorem runEvents_snoc (config : Config) (events : List Event) (event : Event) :
    runEvents config (events ++ [event]) = process config (runEvents config events) event :=
  run_snoc _ _ _ _

end TgLoggerd

import TgLoggerd.Wrapper

/-!
What the functions of the wrapper leave alone. Most of them post no message, no
administrator list and no entity, and write to one cache only; with these facts
the later modules never look into them again.
-/

namespace TgLoggerd

open Function

/-- An action that reaches neither an entity table nor a table that refers to
one: a query, a file, a reply link, a text or a full info. -/
def quiet : Action → Bool
  | .hand (.privateMessage _) => false
  | .hand (.groupMessage _) => false
  | .hand (.groupAdmins _) => false
  | .hand (.user _) => false
  | .hand (.group _) => false
  | .hand (.textMessage _) => true
  | .hand (.messageFile _) => true
  | .hand (.messageReply _) => true
  | .hand (.userFullInfo _) => true
  | .hand (.profilePhoto _) => true
  | .hand (.groupPhoto _) => true
  | .send _ _ => true

/-- Whatever admits the quiet actions admits lists of them. -/
theorem all_of_quiet (fine : Action → Bool)
    (weaker : ∀ action, quiet action = true → fine action = true) (actions : List Action)
    (silent : actions.all quiet) : actions.all fine := by
  rw [List.all_eq_true] at silent ⊢
  exact fun action member => weaker action (silent action member)

/-- The caches that know entities. -/
def Caches.entities (caches : Caches) :
    (Int → Option TdApi.User) × (Int → Option GroupState) × (Int → Option Int) :=
  (caches.users, caches.groupState, caches.chatToGroup)

/-- The caches that remember requested downloads. -/
def Caches.pending (caches : Caches) :
    (Int → Option Int) × (Int → Option Int) × (Int → Option PendingMsgFile) :=
  (caches.pendingPhoto, caches.pendingGroupPhoto, caches.pendingMessageFile)

/-- The queries that handlers of all sorts send, with what waits for them: for a
file, a user, a chat or what belongs to a group. -/
def ordinary : TdApi.Function → Option Continuation → Bool
  | .downloadFile _, none => true
  | .getUser _, some .savedUser => true
  | .getChat _, some .savedChat => true
  | .getBasicGroupFullInfo _, none => true
  | .getSupergroupFullInfo _, none => true
  | .getSupergroupMembers _, some (.groupAdmins _) => true
  | _, _ => false

/-- A kind of actions that covers the ordinary queries. -/
structure AdmitsQueries (fine : Action → Bool) : Prop where
  query : ∀ sent handler, ordinary sent handler = true → fine (.send sent handler) = true

/-- One that also covers what handing over a known user or group may post. -/
structure AdmitsRows (fine : Action → Bool) : Prop extends AdmitsQueries fine where
  user : ∀ u, fine (.hand (.user u)) = true
  group : ∀ g, fine (.hand (.group g)) = true

/-- One that covers what handling a file may post. -/
structure Admits (fine : Action → Bool) : Prop extends AdmitsQueries fine where
  messageFile : ∀ mf, fine (.hand (.messageFile mf)) = true
  profilePhoto : ∀ p, fine (.hand (.profilePhoto p)) = true
  groupPhoto : ∀ p, fine (.hand (.groupPhoto p)) = true

/-- One that covers what handling a user or a group may post, files included. -/
structure AdmitsEntities (fine : Action → Bool) : Prop extends Admits fine, AdmitsRows fine

/-- One that also covers texts and full infos. -/
structure AdmitsCalls (fine : Action → Bool) : Prop extends AdmitsEntities fine where
  text : ∀ msg, fine (.hand (.textMessage msg)) = true
  fullInfo : ∀ fi, fine (.hand (.userFullInfo fi)) = true

/-- One that also covers full infos and the queries no link waits for: all that a turn
may post but messages, links and administrator lists. -/
structure AdmitsTurns (fine : Action → Bool) : Prop extends AdmitsEntities fine where
  text : ∀ msg, fine (.hand (.textMessage msg)) = true
  fullInfo : ∀ fi, fine (.hand (.userFullInfo fi)) = true
  sent : ∀ query handler, (∀ reply depth, handler ≠ some (.repliedMessage reply depth)) →
    fine (.send query handler) = true

/-- One that covers every call, the ordinary queries and those for messages. -/
structure AdmitsMost (fine : Action → Bool) : Prop extends AdmitsQueries fine where
  hand : ∀ call, fine (.hand call) = true
  edited : ∀ chatId messageId,
    fine (.send (.getMessage chatId messageId) (some .editedMessage)) = true
  replied : ∀ chatId messageId reply depth,
    fine (.send (.getMessage chatId messageId) (some (.repliedMessage reply depth))) = true

theorem AdmitsTurns.calls {fine : Action → Bool} (admits : AdmitsTurns fine) : AdmitsCalls fine :=
  ⟨admits.toAdmitsEntities, admits.text, admits.fullInfo⟩

theorem AdmitsMost.calls {fine : Action → Bool} (admits : AdmitsMost fine) : AdmitsCalls fine :=
  ⟨⟨⟨admits.toAdmitsQueries, fun _ => admits.hand _, fun _ => admits.hand _,
    fun _ => admits.hand _⟩, fun _ => admits.hand _, fun _ => admits.hand _⟩,
    fun _ => admits.hand _, fun _ => admits.hand _⟩

section

variable (config : Config) {fine : Action → Bool}

theorem admits_emitMessageFile (admits : Admits fine) (ref : PendingMsgFile) (f : TdApi.File) :
    (emitMessageFile config ref f).all fine := by
  simp only [emitMessageFile]
  split
  · simp [admits.messageFile]
  · rfl

theorem admits_emitPhoto (admits : Admits fine) (userId : Int) (f : TdApi.File) :
    (emitPhoto config userId f).all fine := by
  simp only [emitPhoto]
  split
  · simp [admits.profilePhoto]
  · rfl

theorem admits_emitGroupPhoto (admits : Admits fine) (groupId : Int) (f : TdApi.File) :
    (emitGroupPhoto config groupId f).all fine := by
  simp only [emitGroupPhoto]
  split
  · simp [admits.groupPhoto]
  · rfl

theorem admits_download (admits : Admits fine) (fileId : Int) : [downloadFile fileId].all fine := by
  simp [downloadFile, admits.query (.downloadFile fileId) none rfl]

theorem admits_messageFile (admits : Admits fine) (caches : Caches) (message : TdApi.Message)
    (isGroup : Bool) : (maybeDownloadMessageFile config caches message isGroup).2.all fine := by
  simp only [maybeDownloadMessageFile]
  split
  · split
    · exact admits_emitMessageFile config admits _ _
    · exact admits_download admits _
  · rfl

theorem admits_profilePhoto (admits : Admits fine) (caches : Caches) (u : TdApi.User) :
    (maybeDownloadProfilePhoto config caches u).2.all fine := by
  simp only [maybeDownloadProfilePhoto]
  split
  · split
    · exact admits_emitPhoto config admits _ _
    · exact admits_download admits _
  · rfl

theorem admits_chatPhoto (admits : Admits fine) (caches : Caches) (groupId : Int)
    (photo : Option (Option TdApi.File)) :
    (maybeDownloadGroupPhoto config caches groupId photo).2.all fine := by
  simp only [maybeDownloadGroupPhoto]
  split
  · split
    · exact admits_emitGroupPhoto config admits _ _
    · exact admits_download admits _
  · rfl

theorem admits_fileUpdate (admits : Admits fine) (caches : Caches) (f : TdApi.File) :
    (handleFileUpdate config caches f).2.all fine := by
  simp only [handleFileUpdate]
  split
  · split
    · exact admits_emitPhoto config admits _ _
    · split
      · exact admits_emitGroupPhoto config admits _ _
      · split
        · exact admits_emitMessageFile config admits _ _
        · rfl
  · rfl

theorem admits_fetchAdmins (admits : AdmitsQueries fine) (supergroupId chatId : Int) :
    (fetchGroupAdmins config supergroupId chatId).all fine := by
  simp only [fetchGroupAdmins]
  split
  · simp [admits.query (.getSupergroupMembers supergroupId) (some (.groupAdmins chatId)) rfl]
  · rfl

/-- Polling posts ordinary queries alone. -/
theorem admits_poll (admits : AdmitsQueries fine) (scan rest : Nat) (caches : Caches) :
    (pollAdmins config scan rest caches).2.all fine := by
  -- An entry that is dropped or skipped uses up a look but no poll.
  induction scan generalizing rest caches with
  | zero => rfl
  | succ scan ih =>
      cases rest with
      | zero => rfl
      | succ rest =>
          cases queue : caches.adminPollQueue with
          | nil => simp [pollAdmins, queue]
          | cons chatId others =>
              by_cases member : chatId ∈ caches.adminPollSet
              · simp only [pollAdmins, queue, member, ↓reduceIte]
                split
                · exact ih _ _
                · rw [List.all_append, ih, Bool.and_true]
                  split
                  · simp [admits.query (.getBasicGroupFullInfo _) none rfl]
                  · exact admits_fetchAdmins config admits _ _
              · simp only [pollAdmins, queue, member, ↓reduceIte]
                exact ih _ _

theorem admits_alarm (admits : AdmitsQueries fine)
    (alarm : ∀ seconds, fine (.send (.setAlarm seconds) (some .adminAlarm)) = true)
    (caches : Caches) : (onAdminAlarm config caches).2.all fine := by
  have armed : (armAdminAlarm config).all fine := by simp [armAdminAlarm, alarm]
  simp only [onAdminAlarm]
  split
  · rfl
  · split
    · rw [List.all_append, pollAdminBatch, admits_poll config admits, armed]
      rfl
    · exact armed

/-- What an authorization state posts is sent, not handed over. -/
theorem admits_authorization
    (sent : ∀ query handler, (∀ reply depth, handler ≠ some (.repliedMessage reply depth)) →
      fine (.send query handler) = true)
    (caches : Caches) (state : TdApi.AuthorizationState) :
    (onAuthorizationStateUpdate config caches state).2.all fine := by
  cases state with
  | ready =>
      simp only [onAuthorizationStateUpdate]
      split <;> simp [armAdminAlarm, sent]
  | _ => simp [onAuthorizationStateUpdate, sent]

section

variable (caches : Caches)

theorem admits_emitGroup (admits : AdmitsRows fine) (groupId : Int) :
    (emitGroup config caches groupId).all fine := by
  simp only [emitGroup]
  split
  · rfl
  · split
    · simp [admits.group]
    · rfl

theorem admits_ensureUser (admits : AdmitsRows fine) (userId : Int) :
    (ensureUserSaved config caches userId).all fine := by
  simp only [ensureUserSaved]
  split
  · rfl
  · split
    · simp [admits.user]
    · simp [admits.query (.getUser userId) (some .savedUser) rfl]

theorem admits_ensureChat (admits : AdmitsRows fine) (chatId : Int) :
    (ensureChatSaved config caches chatId).all fine := by
  simp only [ensureChatSaved]
  split
  · rfl
  · split
    · rfl
    · split
      · exact admits_emitGroup config caches admits _
      · simp [admits.query (.getChat chatId) (some .savedChat) rfl]

theorem admits_forward (admits : AdmitsRows fine) (info : Option ForwardInfo) :
    (forwardActions config caches info).all fine := by
  cases info with
  | none => rfl
  | some info =>
      simp only [forwardActions, resolveForwardOrigin, List.all_append, Bool.and_eq_true]
      constructor
      · split
        · exact admits_ensureUser config caches admits _
        · rfl
      · split
        · exact admits_ensureChat config caches admits _
        · rfl

theorem admits_messageEntities (admits : AdmitsRows fine) (message : TdApi.Message) :
    (ensureMessageEntities config caches message).all fine := by
  simp only [ensureMessageEntities, List.all_append, Bool.and_eq_true]
  constructor
  · split
    · exact admits_ensureUser config caches admits _
    · exact admits_ensureChat config caches admits _
  · split
    · exact admits_ensureUser config caches admits _
    · exact admits_ensureChat config caches admits _
    · rfl

theorem admits_ensureUsers (admits : AdmitsRows fine) (members : List GroupAdmin) :
    (members.flatMap fun ga => ensureUserSaved config caches ga.userId).all fine := by
  rw [List.all_eq_true]
  intro action member
  obtain ⟨ga, _, posted⟩ := List.mem_flatMap.mp member
  exact List.all_eq_true.mp (admits_ensureUser config caches admits ga.userId) action posted

theorem admits_saveUser (admits : AdmitsEntities fine) (u : TdApi.User) :
    (saveUser config caches u).2.all fine := by
  simp only [saveUser, List.all_append, Bool.and_eq_true]
  constructor
  · split
    · simp [admits.user]
    · rfl
  · exact admits_profilePhoto config admits.toAdmits caches u

theorem admits_newChat (admits : AdmitsEntities fine) (chat : TdApi.Chat) (fromChatList : Bool) :
    (handleNewChat config caches chat fromChatList).2.all fine := by
  have group (groupId : Int) (type : GroupType) :
      (handleGroupChat config caches chat fromChatList groupId type).2.all fine := by
    have request : fine (if type = .basicGroup then .send (.getBasicGroupFullInfo groupId) none
        else .send (.getSupergroupFullInfo groupId) none) = true := by
      split
      · exact admits.query _ none rfl
      · exact admits.query _ none rfl
    have members : (if type = .basicGroup then []
        else fetchGroupAdmins config groupId chat.id).all fine := by
      split
      · rfl
      · exact admits_fetchAdmins config admits.toAdmitsQueries _ _
    have plain (seen : Caches) (query : Action) (sent : fine query = true) :
        (emitGroup config seen groupId ++ [query] ++
          (maybeDownloadGroupPhoto config seen chat.id chat.photo).2).all fine := by
      simp only [List.all_append, List.all_cons, List.all_nil, sent, Bool.and_true,
        admits_emitGroup config _ admits.toAdmitsRows, admits_chatPhoto config admits.toAdmits]
    simp only [handleGroupChat]
    split
    · rw [List.all_append, plain _ _ request, members]
      rfl
    · exact plain _ _ request
  simp only [handleNewChat]
  split
  · exact group _ _
  · exact group _ _
  · rfl
  · rfl

theorem admits_text (text : ∀ msg, fine (.hand (.textMessage msg)) = true)
    (message : TdApi.Message) : (textMessage config caches message).all fine := by
  simp only [textMessage]
  split
  · simp [text]
  · rfl

theorem admits_groupAdmins (admits : AdmitsRows fine)
    (admins : ∀ list, fine (.hand (.groupAdmins list)) = true) (chatId : Int)
    (members : List (Option TdApi.ChatMember)) :
    (emitAdmins config caches chatId members).all fine := by
  simp only [emitAdmins, List.all_append, Bool.and_eq_true]
  constructor
  · exact admits_ensureUsers config caches admits _
  · split
    · rfl
    · simp [admins]

/-- What an update posts, apart from messages, deletions, administrator lists and the
queries of an authorization state, of a new user and of an edit. -/
theorem admits_update_calls (admits : AdmitsCalls fine) (u : TdApi.Update)
    (state : ∀ s, u = .authorizationState s → (onAuthorizationStateUpdate config caches s).2.all fine)
    (request : ∀ user, u = .user (some user) → caches.users user.id = none →
      (requestUserFullInfo config user.id).all fine)
    (edit : ∀ chatId messageId, u = .messageEdited chatId messageId →
      fine (.send (.getMessage chatId messageId) (some .editedMessage)) = true)
    (message : ∀ m, u = .newMessage m → (handleMessage config caches m.chatId m 0).2.all fine)
    (deletion : ∀ chatId messageIds isPermanent, u = .deleteMessages chatId messageIds isPermanent →
      (handleDeleteMessages config chatId messageIds isPermanent).all fine)
    (admins : ∀ groupId info, u = .basicGroupFullInfo groupId (some info) → ∀ caches chatId,
      (emitAdmins config caches chatId info.members).all fine) :
    (processUpdate config caches u).2.all fine := by
  have emitted (other : Caches) (groupId : Int) :=
    admits_emitGroup config other admits.toAdmitsRows groupId
  cases u with
  | authorizationState s => exact state s rfl
  | user user =>
      cases user with
      | none => rfl
      | some u =>
          simp only [processUpdate, List.all_append, admits_saveUser config caches
            admits.toAdmitsEntities, Bool.true_and]
          split
          · next unseen => exact request u rfl (Option.isNone_iff_eq_none.mp unseen)
          · rfl
  | userFullInfo userId info =>
      cases info with
      | none => rfl
      | some info =>
          simp only [processUpdate]
          split
          · simp [admits.fullInfo]
          · rfl
  | file file =>
      cases file with
      | none => rfl
      | some f => exact admits_fileUpdate config admits.toAdmits caches f
  | newChat chat =>
      cases chat with
      | none => rfl
      | some chat => exact admits_newChat config caches admits.toAdmitsEntities chat true
  | chatTitle chatId title =>
      simp only [processUpdate]
      split
      · rfl
      · exact emitted _ _
  | chatPhoto chatId photo =>
      simp only [processUpdate]
      split
      · rfl
      · exact admits_chatPhoto config admits.toAdmits caches chatId photo
  | supergroup supergroup =>
      cases supergroup with
      | none => rfl
      | some sg =>
          simp only [processUpdate, handleSupergroup]
          split
          · rfl
          · exact emitted _ _
  | supergroupFullInfo groupId info =>
      cases info with
      | none => rfl
      | some info =>
          simp only [processUpdate]
          split
          · exact emitted _ _
          · rfl
  | basicGroupFullInfo groupId info =>
      cases info with
      | none => rfl
      | some info =>
          simp only [processUpdate]
          split
          · rw [List.all_append, emitted, Bool.true_and, emitBasicGroupAdmins]
            split
            · split
              · exact admins groupId info rfl _ _
              · rfl
            · rfl
          · rfl
  | newMessage m =>
      simp only [processUpdate, handleNewMessage, List.all_append, message m rfl, Bool.true_and]
      exact admits_text config _ admits.text m
  | messageContent chatId messageId newContent => rfl
  | messageEdited chatId messageId => simp [processUpdate, edit]
  | deleteMessages chatId messageIds isPermanent => exact deletion chatId messageIds isPermanent rfl
  | other => rfl

theorem admits_request (request : ∀ userId,
      fine (.send (.getUserFullInfo userId) (some (.fullInfo userId))) = true) (userId : Int) :
    (requestUserFullInfo config userId).all fine := by
  simp only [requestUserFullInfo]
  split
  · simp [request]
  · rfl

/-- What an update posts, apart from messages, deletions and administrator lists. -/
theorem admits_update (admits : AdmitsTurns fine) (u : TdApi.Update)
    (message : ∀ m, u = .newMessage m → (handleMessage config caches m.chatId m 0).2.all fine)
    (deletion : ∀ chatId messageIds isPermanent, u = .deleteMessages chatId messageIds isPermanent →
      (handleDeleteMessages config chatId messageIds isPermanent).all fine)
    (admins : ∀ groupId info, u = .basicGroupFullInfo groupId (some info) → ∀ caches chatId,
      (emitAdmins config caches chatId info.members).all fine) :
    (processUpdate config caches u).2.all fine := by
  apply admits_update_calls config caches admits.calls u ?_ ?_ ?_ message deletion admins
  · intro s _
    exact admits_authorization config admits.sent caches s
  · intro user _ _
    exact admits_request config (fun _ => admits.sent _ _ (by simp)) user.id
  · intro chatId messageId _
    exact admits.sent _ _ (by simp)

/-- What an answer posts, apart from messages, administrator lists and the alarm. -/
theorem admits_resume_calls (admits : AdmitsCalls fine) (waiting : Continuation)
    (object : TdApi.Object)
    (message : ∀ m, waiting = .editedMessage → object = .message m →
      (handleMessage config caches m.chatId m 0).2.all fine)
    (replied : ∀ reply depth, waiting = .repliedMessage reply depth →
      (resume config caches waiting object).2.all fine)
    (admins : ∀ chatId members, waiting = .groupAdmins chatId → object = .chatMembers members →
      (emitAdmins config caches chatId members).all fine)
    (alarm : waiting = .adminAlarm → (onAdminAlarm config caches).2.all fine) :
    (resume config caches waiting object).2.all fine := by
  cases waiting with
  | authentication => cases object <;> rfl
  | me => cases object <;> rfl
  | editedMessage =>
      cases object with
      | message m => exact message m rfl rfl
      | _ => rfl
  | repliedMessage reply depth => exact replied reply depth rfl
  | savedUser =>
      cases object with
      | user u => exact admits_saveUser config caches admits.toAdmitsEntities u
      | _ => rfl
  | savedChat =>
      cases object with
      | chat chat => exact admits_newChat config caches admits.toAdmitsEntities chat false
      | _ => rfl
  | fullInfo userId =>
      cases object with
      | userFullInfo info => simp [resume, admits.fullInfo]
      | _ => rfl
  | groupAdmins chatId =>
      cases object with
      | chatMembers members => exact admins chatId members rfl rfl
      | _ => rfl
  | adminAlarm => cases object <;> exact alarm rfl

/-- What an answer posts, apart from messages and administrator lists. -/
theorem admits_resume (admits : AdmitsTurns fine) (waiting : Continuation) (object : TdApi.Object)
    (message : ∀ m, waiting = .editedMessage → object = .message m →
      (handleMessage config caches m.chatId m 0).2.all fine)
    (replied : ∀ reply depth, waiting = .repliedMessage reply depth →
      (resume config caches waiting object).2.all fine)
    (admins : ∀ chatId members, waiting = .groupAdmins chatId → object = .chatMembers members →
      (emitAdmins config caches chatId members).all fine) :
    (resume config caches waiting object).2.all fine := by
  apply admits_resume_calls config caches admits.calls waiting object message replied admins
  intro _
  exact admits_alarm config admits.toAdmitsQueries (fun _ => admits.sent _ _ (by simp)) caches

section

variable (admits : AdmitsMost fine)

include admits

theorem most_message (chatId : Int) (message : TdApi.Message) (depth : Nat) :
    (handleMessage config caches chatId message depth).2.all fine := by
  have rows := admits.calls.toAdmitsRows
  have files := admits.calls.toAdmits
  have reply (requested : Caches) (isGroup : Bool) :
      (resolveReplyMessage config requested message isGroup depth).all fine := by
    simp only [resolveReplyMessage]
    split
    · split
      · simp [admits.hand]
      · simp [admits.replied]
    · rfl
  simp only [handleMessage]
  split
  · simp only [handleMessageForPrivateChat]
    split
    · simp [List.all_append, admits_forward config caches rows, admits.hand,
        admits_messageFile config files, reply, -List.all_eq_true]
    · rfl
  · simp only [handleMessageForGroupChat]
    split
    · simp [List.all_append, admits_forward config caches rows, admits.hand,
        admits_messageFile config files, reply, -List.all_eq_true]
    · rfl

theorem most_deletions (chatId : Int) (messageIds : List Int) (isPermanent : Bool) :
    (handleDeleteMessages config chatId messageIds isPermanent).all fine := by
  have each (call : Int → Call) : (messageIds.map fun msgId => Action.hand (call msgId)).all fine := by
    simp [admits.hand]
  simp only [handleDeleteMessages]
  split
  · split
    · exact each _
    · rfl
  · split
    · exact each _
    · rfl

theorem most_update (u : TdApi.Update)
    (state : ∀ s, u = .authorizationState s → (onAuthorizationStateUpdate config caches s).2.all fine)
    (request : ∀ user, u = .user (some user) → caches.users user.id = none →
      (requestUserFullInfo config user.id).all fine) :
    (processUpdate config caches u).2.all fine := by
  apply admits_update_calls config caches admits.calls u state request
  · intro chatId messageId _
    exact admits.edited chatId messageId
  · intro m _
    exact most_message config caches admits m.chatId m 0
  · intro chatId messageIds isPermanent _
    exact most_deletions config admits chatId messageIds isPermanent
  · intro groupId info _ caches chatId
    exact admits_groupAdmins config caches admits.calls.toAdmitsRows (fun _ => admits.hand _) chatId
      info.members

theorem most_resume (waiting : Continuation) (object : TdApi.Object)
    (alarm : waiting = .adminAlarm → (onAdminAlarm config caches).2.all fine) :
    (resume config caches waiting object).2.all fine := by
  apply admits_resume_calls config caches admits.calls waiting object ?_ ?_ ?_ alarm
  · intro m _ _
    exact most_message config caches admits m.chatId m 0
  · rintro reply depth rfl
    cases object with
    | message r =>
        simp only [resume, List.all_append, most_message config _ admits,
          admits_messageEntities config _ admits.calls.toAdmitsRows, List.all_cons, List.all_nil,
          admits.hand]
        rfl
    | _ => simp [resume, admits.hand]
  · intro chatId members _ _
    exact admits_groupAdmins config caches admits.calls.toAdmitsRows (fun _ => admits.hand _) chatId
      members

end

end

end

theorem admits_quiet : Admits quiet :=
  ⟨⟨fun _ _ _ => rfl⟩, fun _ => rfl, fun _ => rfl, fun _ => rfl⟩

section

variable (config : Config)

theorem quiet_profilePhoto (caches : Caches) (u : TdApi.User) :
    (maybeDownloadProfilePhoto config caches u).2.all quiet :=
  admits_profilePhoto config admits_quiet caches u

theorem quiet_groupPhoto (caches : Caches) (groupId : Int) (photo : Option (Option TdApi.File)) :
    (maybeDownloadGroupPhoto config caches groupId photo).2.all quiet :=
  admits_chatPhoto config admits_quiet caches groupId photo

theorem quiet_fileUpdate (caches : Caches) (f : TdApi.File) :
    (handleFileUpdate config caches f).2.all quiet :=
  admits_fileUpdate config admits_quiet caches f

theorem quiet_fullInfo (userId : Int) : (requestUserFullInfo config userId).all quiet :=
  admits_request config (fun _ => rfl) userId

theorem quiet_reply (caches : Caches) (message : TdApi.Message) (isGroup : Bool) (depth : Nat) :
    (resolveReplyMessage config caches message isGroup depth).all quiet := by
  simp only [resolveReplyMessage]
  split
  · split <;> rfl
  · rfl

theorem quiet_text (caches : Caches) (message : TdApi.Message) :
    (textMessage config caches message).all quiet :=
  admits_text config caches (fun _ => rfl) message

theorem quiet_fetchAdmins (supergroupId chatId : Int) :
    (fetchGroupAdmins config supergroupId chatId).all quiet :=
  admits_fetchAdmins config admits_quiet.toAdmitsQueries supergroupId chatId

theorem quiet_alarm (caches : Caches) : (onAdminAlarm config caches).2.all quiet :=
  admits_alarm config admits_quiet.toAdmitsQueries (fun _ => rfl) caches

theorem quiet_authorization (caches : Caches) (state : TdApi.AuthorizationState) :
    (onAuthorizationStateUpdate config caches state).2.all quiet :=
  admits_authorization config (fun _ _ _ => rfl) caches state

/-- Polling writes to the poll queue alone. -/
theorem caches_poll (scan rest : Nat) (caches : Caches) :
    ∃ queue, (pollAdmins config scan rest caches).1 = { caches with adminPollQueue := queue } := by
  induction scan generalizing rest caches with
  | zero => exact ⟨caches.adminPollQueue, rfl⟩
  | succ scan ih =>
      cases rest with
      | zero => exact ⟨caches.adminPollQueue, rfl⟩
      | succ rest =>
          cases queue : caches.adminPollQueue with
          | nil =>
              refine ⟨[], ?_⟩
              simp only [pollAdmins, queue]
              rw [← queue]
          | cons chatId others =>
              by_cases member : chatId ∈ caches.adminPollSet
              · simp only [pollAdmins, queue, member, ↓reduceIte]
                split
                · exact ih _ { caches with adminPollQueue := others ++ [chatId] }
                · exact ih _ { caches with adminPollQueue := others ++ [chatId] }
              · simp only [pollAdmins, queue, member, ↓reduceIte]
                exact ih _ { caches with adminPollQueue := others }

theorem queue_alarm (caches : Caches) :
    ∃ queue, (onAdminAlarm config caches).1 = { caches with adminPollQueue := queue } := by
  simp only [onAdminAlarm]
  split
  · exact ⟨caches.adminPollQueue, rfl⟩
  · split
    · exact caches_poll config _ _ caches
    · exact ⟨caches.adminPollQueue, rfl⟩

theorem caches_alarm (caches : Caches) :
    (onAdminAlarm config caches).1.entities = caches.entities ∧
      (onAdminAlarm config caches).1.pending = caches.pending := by
  obtain ⟨queue, same⟩ := queue_alarm config caches
  rw [same]
  exact ⟨rfl, rfl⟩

theorem caches_authorization (caches : Caches) (state : TdApi.AuthorizationState) :
    (onAuthorizationStateUpdate config caches state).1.entities = caches.entities ∧
      (onAuthorizationStateUpdate config caches state).1.pending = caches.pending := by
  cases state with
  | ready =>
      simp only [onAuthorizationStateUpdate]
      split <;> exact ⟨rfl, rfl⟩
  | _ => exact ⟨rfl, rfl⟩

theorem caches_miss (caches : Caches) (chatId : Int) :
    (countMiss caches chatId).entities = caches.entities ∧
      (countMiss caches chatId).pending = caches.pending := by
  simp only [countMiss]
  split <;> exact ⟨rfl, rfl⟩

end

/-- A part of the caches that does not tell which files were requested. -/
def Spared {Part : Type} (part : Caches → Part) : Prop :=
  ∀ caches photo groupPhoto messageFile,
    part { caches with
      pendingPhoto := photo
      pendingGroupPhoto := groupPhoto
      pendingMessageFile := messageFile } = part caches

section

variable (config : Config) {Part : Type} (part : Caches → Part) (spared : Spared part)
  (caches : Caches)

include spared

theorem spared_messageFile (message : TdApi.Message) (isGroup : Bool) :
    part (maybeDownloadMessageFile config caches message isGroup).1 = part caches := by
  simp only [maybeDownloadMessageFile]
  split
  · split
    · rfl
    · exact spared caches _ _ _
  · rfl

theorem spared_profilePhoto (u : TdApi.User) :
    part (maybeDownloadProfilePhoto config caches u).1 = part caches := by
  simp only [maybeDownloadProfilePhoto]
  split
  · split
    · rfl
    · exact spared caches _ _ _
  · rfl

theorem spared_groupPhoto (groupId : Int) (photo : Option (Option TdApi.File)) :
    part (maybeDownloadGroupPhoto config caches groupId photo).1 = part caches := by
  simp only [maybeDownloadGroupPhoto]
  split
  · split
    · rfl
    · exact spared caches _ _ _
  · rfl

theorem spared_fileUpdate (f : TdApi.File) :
    part (handleFileUpdate config caches f).1 = part caches := by
  simp only [handleFileUpdate]
  split
  · split
    · exact spared caches _ _ _
    · split
      · exact spared caches _ _ _
      · split
        · exact spared caches _ _ _
        · rfl
  · rfl

theorem spared_message (chatId : Int) (message : TdApi.Message) (depth : Nat) :
    part (handleMessage config caches chatId message depth).1 = part caches := by
  simp only [handleMessage]
  split
  · simp only [handleMessageForPrivateChat]
    split
    · exact spared_messageFile config part spared caches message false
    · rfl
  · simp only [handleMessageForGroupChat]
    split
    · exact spared_messageFile config part spared caches message true
    · rfl

end

theorem spared_entities : Spared Caches.entities := fun _ _ _ _ => rfl

/-- The caches once the chat of a group was seen. -/
def seenCaches (caches : Caches) (chat : TdApi.Chat) (groupId : Int) (type : GroupType) : Caches :=
  { caches with
    groupState := update caches.groupState groupId (some (seenState caches chat groupId type))
    chatToGroup := update caches.chatToGroup chat.id (some groupId) }

section

variable (config : Config) {Part : Type} (part : Caches → Part) (caches : Caches)
  (files : Spared part)

include files

/-- A part that tells neither the files nor the groups hears of authorization states,
users and new chats only. -/
theorem heard_update
    (groups : ∀ caches supergroups groupState chatToGroup,
      part { caches with
        supergroups := supergroups
        groupState := groupState
        chatToGroup := chatToGroup } = part caches) (u : TdApi.Update)
    (state : ∀ s, u = .authorizationState s →
      part (onAuthorizationStateUpdate config caches s).1 = part caches)
    (user : ∀ x, u = .user (some x) → part (saveUser config caches x).1 = part caches)
    (newChat : ∀ chat, u = .newChat (some chat) →
      part (handleNewChat config caches chat true).1 = part caches) :
    part (processUpdate config caches u).1 = part caches := by
  cases u with
  | authorizationState s => exact state s rfl
  | user given =>
      cases given with
      | none => rfl
      | some x => exact user x rfl
  | userFullInfo userId info => cases info <;> rfl
  | file file =>
      cases file with
      | none => rfl
      | some f => exact spared_fileUpdate config part files caches f
  | newChat chat =>
      cases chat with
      | none => rfl
      | some chat => exact newChat chat rfl
  | chatTitle chatId title =>
      simp only [processUpdate]
      split
      · rfl
      · exact groups caches _ _ _
  | chatPhoto chatId photo =>
      simp only [processUpdate]
      split
      · rfl
      · exact spared_groupPhoto config part files caches chatId photo
  | supergroup supergroup =>
      cases supergroup with
      | none => rfl
      | some sg =>
          simp only [processUpdate, handleSupergroup]
          split
          · exact groups caches _ _ _
          · exact groups caches _ _ _
  | supergroupFullInfo groupId info =>
      cases info with
      | none => rfl
      | some info => exact groups caches _ _ _
  | basicGroupFullInfo groupId info =>
      cases info with
      | none => rfl
      | some info =>
          simp only [processUpdate]
          split
          · exact groups caches _ _ _
          · exact groups caches _ _ _
  | newMessage message => exact spared_message config part files caches message.chatId message 0
  | messageContent chatId messageId newContent => rfl
  | messageEdited chatId messageId => rfl
  | deleteMessages chatId messageIds isPermanent => rfl
  | other => rfl

theorem spared_replied
    (targets : ∀ caches resolved, part { caches with resolvedReplyTargets := resolved } = part caches)
    (reply : MessageReply) (depth : Nat) (object : TdApi.Object) :
    part (resume config caches (.repliedMessage reply depth) object).1 = part caches := by
  cases object with
  | message r => exact (spared_message config part files _ _ r (depth + 1)).trans (targets caches _)
  | _ => rfl

/-- Of the answers a part that does not tell the files hears of replies, users, chats,
administrators and alarms only. -/
theorem heard_resume (waiting : Continuation) (object : TdApi.Object)
    (reply : ∀ reply depth, waiting = .repliedMessage reply depth →
      part (resume config caches waiting object).1 = part caches)
    (user : ∀ x, waiting = .savedUser → object = .user x →
      part (saveUser config caches x).1 = part caches)
    (admins : ∀ chatId, waiting = .groupAdmins chatId →
      part (resume config caches waiting object).1 = part caches)
    (newChat : ∀ chat, waiting = .savedChat → object = .chat chat →
      part (handleNewChat config caches chat false).1 = part caches)
    (alarm : waiting = .adminAlarm → part (onAdminAlarm config caches).1 = part caches) :
    part (resume config caches waiting object).1 = part caches := by
  cases waiting with
  | repliedMessage link depth => exact reply link depth rfl
  | editedMessage =>
      cases object with
      | message m => exact spared_message config part files caches m.chatId m 0
      | _ => rfl
  | savedUser =>
      cases object with
      | user u => exact user u rfl rfl
      | _ => rfl
  | savedChat =>
      cases object with
      | chat chat => exact newChat chat rfl rfl
      | _ => rfl
  | groupAdmins chatId => exact admins chatId rfl
  | adminAlarm => cases object <;> exact alarm rfl
  | _ => cases object <;> rfl

end

/-- A part that tells neither the files nor the groups nor which of them are polled. -/
structure Aloof {Part : Type} (part : Caches → Part) : Prop where
  files : Spared part
  groups : ∀ caches supergroups groupState chatToGroup,
    part { caches with
      supergroups := supergroups
      groupState := groupState
      chatToGroup := chatToGroup } = part caches
  polling : ∀ caches adminPollSet adminPollQueue,
    part { caches with
      adminPollSet := adminPollSet
      adminPollQueue := adminPollQueue } = part caches

section

variable (config : Config) {Part : Type} (part : Caches → Part) (aloof : Aloof part)
  (caches : Caches)

include aloof

theorem aloof_newChat (chat : TdApi.Chat) (fromChatList : Bool) :
    part (handleNewChat config caches chat fromChatList).1 = part caches := by
  have group (groupId : Int) (type : GroupType) :
      part (handleGroupChat config caches chat fromChatList groupId type).1 = part caches := by
    have photo := spared_groupPhoto config part aloof.files
      (seenCaches caches chat groupId type) chat.id chat.photo
    have seen : part (seenCaches caches chat groupId type) = part caches :=
      aloof.groups caches _ _ _
    simp only [handleGroupChat]
    split
    · exact (aloof.polling _ _ _).trans (photo.trans seen)
    · exact photo.trans seen
  simp only [handleNewChat]
  split
  · exact group _ _
  · exact group _ _
  · rfl
  · rfl

theorem aloof_alarm : part (onAdminAlarm config caches).1 = part caches := by
  obtain ⟨queue, same⟩ := queue_alarm config caches
  rw [same]
  exact aloof.polling caches caches.adminPollSet queue

/-- Such a part hears of authorization states and users only. -/
theorem aloof_update (u : TdApi.Update)
    (state : ∀ s, u = .authorizationState s →
      part (onAuthorizationStateUpdate config caches s).1 = part caches)
    (user : ∀ x, u = .user (some x) → part (saveUser config caches x).1 = part caches) :
    part (processUpdate config caches u).1 = part caches := by
  apply heard_update config part caches aloof.files aloof.groups u state user
  intro chat _
  exact aloof_newChat config part aloof caches chat true

/-- Of the answers it hears of replies, users and administrators only. -/
theorem aloof_resume (waiting : Continuation) (object : TdApi.Object)
    (reply : ∀ reply depth, waiting = .repliedMessage reply depth →
      part (resume config caches waiting object).1 = part caches)
    (user : ∀ x, waiting = .savedUser → object = .user x →
      part (saveUser config caches x).1 = part caches)
    (admins : ∀ chatId, waiting = .groupAdmins chatId →
      part (resume config caches waiting object).1 = part caches) :
    part (resume config caches waiting object).1 = part caches := by
  apply heard_resume config part caches aloof.files waiting object reply user admins
  · intro chat _ _
    exact aloof_newChat config part aloof caches chat false
  · intro _
    exact aloof_alarm config part aloof caches

theorem aloof_refreshed
    (misses : ∀ caches counted, part { caches with adminPollMiss := counted } = part caches)
    (chatId : Int) (object : TdApi.Object) :
    part (resume config caches (.groupAdmins chatId) object).1 = part caches := by
  cases object with
  | chatMembers members => exact misses caches _
  | error code =>
      have counted := misses caches
        (update caches.adminPollMiss chatId (some ((caches.adminPollMiss chatId).getD 0 + 1)))
      simp only [resume, countMiss]
      split
      · split
        · exact (aloof.polling _ (caches.adminPollSet.erase chatId) caches.adminPollQueue).trans
            counted
        · exact counted
      · rfl
  | _ => rfl

omit aloof in
theorem aloof_authorization
    (login : ∀ caches isAuthorized adminPollStarted stopped,
      part { caches with
        isAuthorized := isAuthorized
        adminPollStarted := adminPollStarted
        stopped := stopped } = part caches) (state : TdApi.AuthorizationState) :
    part (onAuthorizationStateUpdate config caches state).1 = part caches := by
  cases state with
  | ready =>
      simp only [onAuthorizationStateUpdate]
      split
      · exact login caches true true caches.stopped
      · exact login caches true caches.adminPollStarted caches.stopped
  | loggingOut => exact login caches false caches.adminPollStarted caches.stopped
  | closed => exact login caches false caches.adminPollStarted true
  | _ => rfl

end

/-- The call a message is handed over with. -/
def messageCall (chatId : Int) (message : TdApi.Message) : Call :=
  if isPrivateChat chatId then .privateMessage (buildPrivateMessage message)
  else .groupMessage (buildGroupMessage message)

/-- A handled message is handed over once, after what its forward origin needs
and before anything that refers to its row. -/
theorem actions_message (config : Config) (caches : Caches) (chatId : Int)
    (message : TdApi.Message) (depth : Nat) (privateSet : config.privateMsgHandler = true)
    (groupSet : config.groupMsgHandler = true) :
    ∃ rest, (handleMessage config caches chatId message depth).2 =
        forwardActions config caches (extractForwardInfo message) ++
          .hand (messageCall chatId message) :: rest ∧ rest.all quiet := by
  simp only [handleMessage, messageCall]
  by_cases isPrivate : isPrivateChat chatId
  · simp only [isPrivate, ↓reduceIte, handleMessageForPrivateChat, privateSet]
    refine ⟨_, by rw [List.append_assoc, List.append_assoc, List.singleton_append]; rfl, ?_⟩
    rw [List.all_append, admits_messageFile config admits_quiet, quiet_reply]
    rfl
  · simp only [isPrivate, Bool.false_eq_true, ↓reduceIte, handleMessageForGroupChat, groupSet]
    refine ⟨_, by rw [List.append_assoc, List.append_assoc, List.singleton_append]; rfl, ?_⟩
    rw [List.all_append, admits_messageFile config admits_quiet, quiet_reply]
    rfl

/-- A group chat is handed over first; what follows are its photo and queries. -/
theorem actions_groupChat (config : Config) (caches : Caches) (chat : TdApi.Chat)
    (fromChatList : Bool) (groupId : Int) (type : GroupType) :
    ∃ rest, (handleGroupChat config caches chat fromChatList groupId type).2 =
        emitGroup config (seenCaches caches chat groupId type) groupId ++ rest ∧
      rest.all quiet ∧
      (handleGroupChat config caches chat fromChatList groupId type).1.entities =
        (seenCaches caches chat groupId type).entities := by
  have photo := quiet_groupPhoto config (seenCaches caches chat groupId type) chat.id chat.photo
  have same := spared_groupPhoto config Caches.entities spared_entities
    (seenCaches caches chat groupId type) chat.id chat.photo
  have request : quiet (if type = .basicGroup then .send (.getBasicGroupFullInfo groupId) none
      else .send (.getSupergroupFullInfo groupId) none) = true := by
    split <;> rfl
  have members : (if type = .basicGroup then []
      else fetchGroupAdmins config groupId chat.id).all quiet := by
    split
    · rfl
    · exact quiet_fetchAdmins config _ _
  simp only [handleGroupChat]
  split
  · refine ⟨_, by rw [List.append_assoc, List.append_assoc]; rfl, ?_, same⟩
    rw [List.all_append, List.all_append, List.all_cons, request, members]
    simpa [seenCaches] using photo
  · refine ⟨_, by rw [List.append_assoc]; rfl, ?_, same⟩
    rw [List.all_append, List.all_cons, request]
    simpa [seenCaches] using photo

/-- The action hands over no deleted message. -/
def live : Action → Bool
  | .hand (.privateMessage pm) => !pm.isDeleted
  | .hand (.groupMessage gm) => !gm.isDeleted
  | _ => true

theorem live_of_quiet (actions : List Action) (silent : actions.all quiet) : actions.all live := by
  rw [List.all_eq_true] at silent ⊢
  intro action member
  have calm := silent action member
  rcases action with call | ⟨query, handler⟩
  · cases call <;> first | rfl | cases calm
  · rfl

theorem admits_live : AdmitsTurns live :=
  ⟨⟨⟨⟨fun _ _ _ => rfl⟩, fun _ => rfl, fun _ => rfl, fun _ => rfl⟩, fun _ => rfl, fun _ => rfl⟩,
    fun _ => rfl, fun _ => rfl, fun _ _ _ => rfl⟩

section

variable (config : Config) (caches : Caches)

theorem live_message (privateSet : config.privateMsgHandler = true)
    (groupSet : config.groupMsgHandler = true) (chatId : Int) (message : TdApi.Message)
    (depth : Nat) : (handleMessage config caches chatId message depth).2.all live := by
  obtain ⟨rest, actions, silent⟩ :=
    actions_message config caches chatId message depth privateSet groupSet
  have built : live (.hand (messageCall chatId message)) = true := by
    simp only [messageCall]
    split <;> rfl
  rw [actions, List.all_append, List.all_cons, admits_forward config caches admits_live.toAdmitsRows, built,
    live_of_quiet rest silent]
  rfl

end

section

variable (interval : Rat) (batch : Nat) (caches : Caches)

/-- No update but updateDeleteMessages hands over a deleted message. -/
theorem live_update (u : TdApi.Update)
    (other : ∀ chatId messageIds isPermanent, u ≠ .deleteMessages chatId messageIds isPermanent) :
    (processUpdate (Config.started interval batch) caches u).2.all live := by
  apply admits_update _ caches admits_live u
  · intro message _
    exact live_message _ caches rfl rfl message.chatId message 0
  · intro chatId messageIds isPermanent same
    exact absurd same (other chatId messageIds isPermanent)
  · intro groupId info _ caches chatId
    exact admits_groupAdmins _ caches admits_live.toAdmitsRows (fun _ => rfl) chatId info.members

/-- No answer hands over a deleted message. -/
theorem live_resume (waiting : Continuation) (object : TdApi.Object) :
    (resume (Config.started interval batch) caches waiting object).2.all live := by
  apply admits_resume _ caches admits_live waiting object
  · intro message _ _
    exact live_message _ caches rfl rfl message.chatId message 0
  · rintro reply depth rfl
    cases object with
    | message r =>
        simp only [resume, List.all_append, admits_messageEntities _ _ admits_live.toAdmitsRows,
          Bool.true_and]
        rw [live_message _ _ rfl rfl]
        rfl
    | _ => rfl
  · intro chatId members _ _
    exact admits_groupAdmins _ caches admits_live.toAdmitsRows (fun _ => rfl) chatId members

end

end TgLoggerd

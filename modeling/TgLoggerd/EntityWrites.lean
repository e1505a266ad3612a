import TgLoggerd.GroupEvents

/-!
What one turn of the event loop writes to the caches that know users and groups:
nothing, one user, the state of one group, or a chat with the state of the group
behind it. What these caches know is never forgotten.
-/

namespace TgLoggerd

open Function SerialRun

/-- The event brings a chat, as an update or as the answer to a getChat. -/
def BringsChat (impl : Impl) (event : Event) (chat : TdApi.Chat) : Prop :=
  event = .update (.newChat (some chat)) ∨
    ∃ requestId, event = .answer requestId (.chat chat) ∧
      impl.handlers requestId = some .savedChat

inductive EntityWrite (impl : Impl) (event : Event) (after : Caches) : Prop where
  | nothing (same : after.entities = impl.caches.entities)
  | user (u : TdApi.User)
      (same : after.entities =
        (update impl.caches.users u.id (some u), impl.caches.groupState, impl.caches.chatToGroup))
  | state (groupId : Int) (st : GroupState)
      (same : after.entities =
        (impl.caches.users, update impl.caches.groupState groupId (some st),
          impl.caches.chatToGroup))
  | chat (chat : TdApi.Chat) (groupId : Int) (st : GroupState)
      (brings : BringsChat impl event chat)
      (group : (chatGroup chat.type).map GroupRef.id = some groupId)
      (same : after.entities =
        (impl.caches.users, update impl.caches.groupState groupId (some st),
          update impl.caches.chatToGroup chat.id (some groupId)))

section

variable (config : Config) (impl : Impl) (event : Event)

theorem writes_newChat (chat : TdApi.Chat) (fromChatList : Bool)
    (brings : BringsChat impl event chat) :
    EntityWrite impl event (handleNewChat config impl.caches chat fromChatList).1 := by
  have group (groupId : Int) (type : GroupType)
      (named : (chatGroup chat.type).map GroupRef.id = some groupId) :
      EntityWrite impl event
        (handleGroupChat config impl.caches chat fromChatList groupId type).1 := by
    obtain ⟨_, _, _, same⟩ := actions_groupChat config impl.caches chat fromChatList groupId type
    exact .chat chat groupId _ brings named same
  simp only [handleNewChat]
  split
  · next groupId kind => exact group groupId _ (by rw [kind]; rfl)
  · next groupId isChannel kind => exact group groupId _ (by rw [kind]; rfl)
  · exact .nothing rfl
  · exact .nothing rfl

/-- A group chat is known afterwards, with the state of its group. -/
theorem known_newChat (caches : Caches) (chat : TdApi.Chat) (fromChatList : Bool) (groupId : Int)
    (named : (chatGroup chat.type).map GroupRef.id = some groupId) :
    (handleNewChat config caches chat fromChatList).1.chatToGroup chat.id = some groupId ∧
      ((handleNewChat config caches chat fromChatList).1.groupState groupId).isSome := by
  have group (type : GroupType) :
      (handleGroupChat config caches chat fromChatList groupId type).1.chatToGroup chat.id =
          some groupId ∧
        ((handleGroupChat config caches chat fromChatList groupId
          type).1.groupState groupId).isSome := by
    obtain ⟨_, _, _, same⟩ := actions_groupChat config caches chat fromChatList groupId type
    simp only [Caches.entities, Prod.mk.injEq] at same
    rw [same.2.1, same.2.2]
    simp [seenCaches]
  simp only [handleNewChat]
  split
  · next number kind =>
    obtain rfl : number = groupId := by simpa [kind, chatGroup, GroupRef.id] using named
    exact group _
  · next number isChannel kind =>
    obtain rfl : number = groupId := by simpa [kind, chatGroup, GroupRef.id] using named
    exact group _
  · next kind => simp [kind, chatGroup] at named
  · next kind => simp [kind, chatGroup] at named

theorem writes_saveUser (u : TdApi.User) :
    EntityWrite impl event (saveUser config impl.caches u).1 := by
  have kept := spared_profilePhoto config Caches.entities spared_entities impl.caches u
  simp only [Caches.entities, Prod.mk.injEq] at kept
  refine .user u ?_
  simp only [saveUser, Caches.entities, kept]

theorem writes_update (u : TdApi.Update) :
    EntityWrite impl (.update u) (processUpdate config impl.caches u).1 := by
  cases u with
  | authorizationState state => exact .nothing (caches_authorization config impl.caches state).1
  | user user =>
      cases user with
      | none => exact .nothing rfl
      | some u => exact writes_saveUser config impl _ u
  | userFullInfo userId info => cases info <;> exact .nothing rfl
  | file file =>
      cases file with
      | none => exact .nothing rfl
      | some f => exact .nothing (spared_fileUpdate config _ spared_entities impl.caches f)
  | newChat chat =>
      cases chat with
      | none => exact .nothing rfl
      | some chat => exact writes_newChat config impl _ chat true (Or.inl rfl)
  | chatTitle chatId title =>
      simp only [processUpdate]
      split
      · exact .nothing rfl
      · next groupId _ => exact .state groupId _ rfl
  | chatPhoto chatId photo =>
      simp only [processUpdate]
      split
      · exact .nothing rfl
      · exact .nothing (spared_groupPhoto config _ spared_entities impl.caches chatId photo)
  | supergroup supergroup =>
      cases supergroup with
      | none => exact .nothing rfl
      | some sg =>
          simp only [processUpdate, handleSupergroup]
          split
          · exact .nothing rfl
          · exact .state sg.id _ rfl
  | supergroupFullInfo groupId info =>
      cases info with
      | none => exact .nothing rfl
      | some info => exact .state groupId _ rfl
  | basicGroupFullInfo groupId info =>
      cases info with
      | none => exact .nothing rfl
      | some info =>
          have same : (processUpdate config impl.caches
              (.basicGroupFullInfo groupId (some info))).1 =
              (describe impl.caches groupId info.description).1 := by
            simp only [processUpdate]
            by_cases seen : (describe impl.caches groupId info.description).2.chatSeen = true
            · simp only [seen, ↓reduceIte]
            · simp only [seen, Bool.false_eq_true, ↓reduceIte]
          rw [same]
          exact .state groupId _ rfl
  | newMessage message =>
      exact .nothing (spared_message config _ spared_entities impl.caches message.chatId message 0)
  | messageContent chatId messageId newContent => exact .nothing rfl
  | messageEdited chatId messageId => exact .nothing rfl
  | deleteMessages chatId messageIds isPermanent => exact .nothing rfl
  | other => exact .nothing rfl

theorem writes_resume (requestId : Nat) (object : TdApi.Object) (waiting : Continuation)
    (handler : impl.handlers requestId = some waiting) :
    EntityWrite impl (.answer requestId object)
      (resume config impl.caches waiting object).1 := by
  cases waiting with
  | authentication => cases object <;> exact .nothing rfl
  | me => cases object <;> exact .nothing rfl
  | editedMessage =>
      cases object with
      | message m => exact .nothing (spared_message config _ spared_entities impl.caches m.chatId m 0)
      | _ => exact .nothing rfl
  | repliedMessage reply depth =>
      cases object with
      | message r =>
          exact .nothing
            (spared_message config _ spared_entities _ reply.replyToChatId r (depth + 1))
      | _ => exact .nothing rfl
  | savedUser =>
      cases object with
      | user u => exact writes_saveUser config impl _ u
      | _ => exact .nothing rfl
  | savedChat =>
      cases object with
      | chat chat =>
          exact writes_newChat config impl _ chat false (Or.inr ⟨requestId, rfl, handler⟩)
      | _ => exact .nothing rfl
  | fullInfo userId => cases object <;> exact .nothing rfl
  | groupAdmins chatId =>
      cases object with
      | error code =>
          simp only [resume]
          split
          · exact .nothing (caches_miss impl.caches chatId).1
          · exact .nothing rfl
      | _ => exact .nothing rfl
  | adminAlarm => cases object <;> exact .nothing (caches_alarm config impl.caches).1

theorem writes_event : EntityWrite impl event (reaction config impl event).1 := by
  cases event with
  | update u => exact writes_update config impl u
  | answer requestId object =>
      simp only [reaction]
      cases handler : impl.handlers requestId with
      | none => exact .nothing rfl
      | some waiting => exact writes_resume config impl requestId object waiting handler
  | close => exact .nothing rfl

/-- Groups and chats that are known stay known. -/
theorem known_event :
    (∀ groupId, (impl.caches.groupState groupId).isSome →
      ((reaction config impl event).1.groupState groupId).isSome) ∧
    ∀ chatId, (impl.caches.chatToGroup chatId).isSome →
      ((reaction config impl event).1.chatToGroup chatId).isSome := by
  have grown {Value : Type} (known : Int → Option Value) (key : Int) (value : Value) (other : Int)
      (held : (known other).isSome) : (update known key (some value) other).isSome := by
    rw [update_apply]
    split
    · rfl
    · exact held
  cases writes_event config impl event with
  | nothing same =>
      simp only [Caches.entities, Prod.mk.injEq] at same
      rw [same.2.1, same.2.2]
      exact ⟨fun _ => id, fun _ => id⟩
  | user u same =>
      simp only [Caches.entities, Prod.mk.injEq] at same
      rw [same.2.1, same.2.2]
      exact ⟨fun _ => id, fun _ => id⟩
  | state groupId st same =>
      simp only [Caches.entities, Prod.mk.injEq] at same
      rw [same.2.1, same.2.2]
      exact ⟨grown impl.caches.groupState groupId st, fun _ => id⟩
  | chat chat groupId st brings group same =>
      simp only [Caches.entities, Prod.mk.injEq] at same
      rw [same.2.1, same.2.2]
      exact ⟨grown impl.caches.groupState groupId st,
        grown impl.caches.chatToGroup chat.id groupId⟩

end

end TgLoggerd

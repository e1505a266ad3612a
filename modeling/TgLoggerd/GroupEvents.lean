import TgLoggerd.Reactions

/-!
The updates that groups are assembled from, and getChat answers, as a machine
of their own over the caches of the wrapper. Three caches matter: what
updateSupergroup brought, the group states, and which group a chat is. For each
event the lemmas say what it does to them and which groups it hands over.
-/

namespace TgLoggerd

open Function SerialRun

inductive GroupEvent where
  | newChat (chat : Option TdApi.Chat)
  | gotChat (chat : TdApi.Chat)
  | chatTitle (chatId : Int) (title : String)
  | supergroup (supergroup : Option TdApi.Supergroup)
  | supergroupFullInfo (supergroupId : Int) (info : Option TdApi.SupergroupFullInfo)
  | basicGroupFullInfo (basicGroupId : Int) (info : Option TdApi.BasicGroupFullInfo)
  deriving DecidableEq, Repr

def groupReaction (config : Config) (caches : Caches) : GroupEvent → Caches × List Action
  | .newChat chat => processUpdate config caches (.newChat chat)
  | .gotChat chat => resume config caches .savedChat (.chat chat)
  | .chatTitle chatId title => processUpdate config caches (.chatTitle chatId title)
  | .supergroup sg => processUpdate config caches (.supergroup sg)
  | .supergroupFullInfo supergroupId info =>
      processUpdate config caches (.supergroupFullInfo supergroupId info)
  | .basicGroupFullInfo basicGroupId info =>
      processUpdate config caches (.basicGroupFullInfo basicGroupId info)

def assemblyStep (config : Config) (caches : Caches) (event : GroupEvent) : Caches :=
  (groupReaction config caches event).1

/-- The groups a list of actions hands over. -/
def handedGroups (actions : List Action) : List Group :=
  actions.filterMap fun action =>
    match action with
    | .hand (.group g) => some g
    | _ => none

def emissions (config : Config) (caches : Caches) (event : GroupEvent) : List Group :=
  handedGroups (groupReaction config caches event).2

/-- The groups handed over along a run of one process. -/
def emitted (config : Config) (events : List GroupEvent) : List Group :=
  outputs (assemblyStep config) (emissions config) {} events

def assembled (config : Config) (events : List GroupEvent) : Caches :=
  run (assemblyStep config) {} events

def GroupState.group (st : GroupState) : Group where
  id := st.chatId
  type := st.type
  title := st.title
  description := st.description
  activeUsernames := st.activeUsernames
  disabledUsernames := st.disabledUsernames
  collectibleUsernames := st.collectibleUsernames

/-- A basic group or a supergroup; the two kinds number their groups apart. -/
inductive GroupRef where
  | basic (basicGroupId : Int)
  | supergroup (supergroupId : Int)
  deriving DecidableEq, Repr

def GroupRef.id : GroupRef → Int
  | .basic basicGroupId => basicGroupId
  | .supergroup supergroupId => supergroupId

/-- The group behind a chat of this type. -/
def chatGroup : Option TdApi.ChatType → Option GroupRef
  | some (.basicGroup basicGroupId) => some (.basic basicGroupId)
  | some (.supergroup supergroupId _) => some (.supergroup supergroupId)
  | some .other => none
  | none => none

def chatKind : Option TdApi.ChatType → GroupType
  | some (.supergroup _ isChannel) => if isChannel then .channel else .supergroup
  | _ => .basicGroup

/-- The chat an event shows. -/
def GroupEvent.chat : GroupEvent → Option TdApi.Chat
  | .newChat chat => chat
  | .gotChat chat => some chat
  | _ => none

/-- The group an event names by its id. -/
def GroupEvent.ref : GroupEvent → Option GroupRef
  | .newChat chat => chat.bind fun chat => chatGroup chat.type
  | .gotChat chat => chatGroup chat.type
  | .chatTitle _ _ => none
  | .supergroup sg => sg.map fun sg => .supergroup sg.id
  | .supergroupFullInfo supergroupId _ => some (.supergroup supergroupId)
  | .basicGroupFullInfo basicGroupId _ => some (.basic basicGroupId)

def sgInfo (sg : TdApi.Supergroup) : SgInfo where
  active := (sg.usernames.getD {}).activeUsernames
  disabled := (sg.usernames.getD {}).disabledUsernames
  collectible := (sg.usernames.getD {}).collectibleUsernames
  isChannel := sg.isChannel

/-- A group state under the usernames and the kind of an updateSupergroup. -/
def GroupState.rename (st : GroupState) (info : SgInfo) : GroupState :=
  { st with
    activeUsernames := info.active
    disabledUsernames := info.disabled
    collectibleUsernames := info.collectible
    type := if info.isChannel then .channel else .supergroup }

def GroupState.entitle (st : GroupState) (title : String) : GroupState := { st with title := title }

def GroupState.describe (st : GroupState) (description : String) : GroupState :=
  { st with description := description }

/-- The state of a group id; an unknown one starts from the defaults. -/
def Caches.held (caches : Caches) (groupId : Int) : GroupState :=
  (caches.groupState groupId).getD {}

/-- The caches with another state under a group id. -/
def Caches.put (caches : Caches) (groupId : Int) (st : GroupState) : Caches :=
  { caches with groupState := update caches.groupState groupId (some st) }

/-- What a full info tells about a group id. -/
def GroupEvent.description : GroupEvent → Option (Int × String)
  | .supergroupFullInfo supergroupId (some info) => some (supergroupId, info.description)
  | .basicGroupFullInfo basicGroupId (some info) => some (basicGroupId, info.description)
  | _ => none

/-- The number an event is about: by the id it carries, or by the chat it titles. -/
def Numbered (caches : Caches) (event : GroupEvent) (groupId : Int) : Prop :=
  (∃ ref, event.ref = some ref ∧ ref.id = groupId) ∨
    ∃ chatId title, event = .chatTitle chatId title ∧ caches.chatToGroup chatId = some groupId

/-- A state is handed over once its chat was seen. -/
def shows (st : GroupState) : List Group := if st.chatSeen then [st.group] else []

section

variable (interval : Rat) (batch : Nat) (caches : Caches)

theorem handedGroups_append (left right : List Action) :
    handedGroups (left ++ right) = handedGroups left ++ handedGroups right := by
  simp [handedGroups]

theorem handedGroups_quiet (actions : List Action) (silent : actions.all quiet) :
    handedGroups actions = [] := by
  rw [handedGroups, List.filterMap_eq_nil_iff]
  intro action member
  have calm := List.all_eq_true.mp silent action member
  rcases action with call | ⟨query, handler⟩
  · cases call <;> first | rfl | cases calm
  · rfl

theorem handedGroups_emitGroup (groupId : Int) (st : GroupState)
    (found : caches.groupState groupId = some st) :
    handedGroups (emitGroup (Config.started interval batch) caches groupId) = shows st := by
  simp only [emitGroup, found, shows]
  by_cases seen : st.chatSeen
  · simp [seen, handedGroups, Config.started, GroupState.group]
  · simp [seen, handedGroups]

theorem supergroups_groupChat (config : Config) (chat : TdApi.Chat) (fromChatList : Bool)
    (groupId : Int) (type : GroupType) :
    (handleGroupChat config caches chat fromChatList groupId type).1.supergroups =
      caches.supergroups := by
  have photo (seen : Caches) :
      (maybeDownloadGroupPhoto config seen chat.id chat.photo).1.supergroups =
      seen.supergroups := by
    simp only [maybeDownloadGroupPhoto]
    split
    · split <;> rfl
    · rfl
  simp only [handleGroupChat]
  split <;> exact photo _

/-- What showing a chat does. -/
theorem reaction_chat (event : GroupEvent) (chat : TdApi.Chat) (ref : GroupRef)
    (shown : event.chat = some chat) (behind : chatGroup chat.type = some ref) :
    (assemblyStep (Config.started interval batch) caches event).supergroups = caches.supergroups ∧
      (assemblyStep (Config.started interval batch) caches event).groupState =
        update caches.groupState ref.id
          (some (seenState caches chat ref.id (chatKind chat.type))) ∧
      (assemblyStep (Config.started interval batch) caches event).chatToGroup =
        update caches.chatToGroup chat.id (some ref.id) ∧
      emissions (Config.started interval batch) caches event =
        [(seenState caches chat ref.id (chatKind chat.type)).group] := by
  obtain ⟨fromChatList, react⟩ : ∃ fromChatList,
      groupReaction (Config.started interval batch) caches event =
        handleGroupChat (Config.started interval batch) caches chat fromChatList ref.id
          (chatKind chat.type) := by
    have typed (fromChatList : Bool) :
        handleNewChat (Config.started interval batch) caches chat fromChatList =
          handleGroupChat (Config.started interval batch) caches chat fromChatList ref.id
            (chatKind chat.type) := by
      simp only [handleNewChat]
      cases kind : chat.type with
      | none => simp [kind, chatGroup] at behind
      | some type =>
          cases type with
          | basicGroup basicGroupId =>
              simp only [kind, chatGroup, Option.some.injEq] at behind
              subst behind
              rfl
          | supergroup supergroupId isChannel =>
              simp only [kind, chatGroup, Option.some.injEq] at behind
              subst behind
              rfl
          | other => simp [kind, chatGroup] at behind
    cases event with
    | newChat delivered =>
        cases shown
        exact ⟨true, typed true⟩
    | gotChat answered =>
        cases shown
        exact ⟨false, typed false⟩
    | chatTitle chatId title => cases shown
    | supergroup sg => cases shown
    | supergroupFullInfo supergroupId info => cases shown
    | basicGroupFullInfo basicGroupId info => cases shown
  obtain ⟨rest, actions, silent, entities⟩ := actions_groupChat (Config.started interval batch)
    caches chat fromChatList ref.id (chatKind chat.type)
  have seen : (seenCaches caches chat ref.id (chatKind chat.type)).groupState ref.id =
      some (seenState caches chat ref.id (chatKind chat.type)) := by
    simp [seenCaches]
  have marked : (seenState caches chat ref.id (chatKind chat.type)).chatSeen = true := by
    simp only [seenState]
    split <;> rfl
  refine ⟨?_, ?_, ?_, ?_⟩
  · rw [assemblyStep, react, supergroups_groupChat]
  · rw [assemblyStep, react]
    exact congrArg (·.2.1) entities
  · rw [assemblyStep, react]
    exact congrArg (·.2.2) entities
  · rw [emissions, react, actions, handedGroups_append, handedGroups_quiet rest silent,
      handedGroups_emitGroup _ _ _ _ _ seen, shows, if_pos marked]
    rfl

/-- A chat that is not a group's does nothing. -/
theorem reaction_otherChat (event : GroupEvent) (chat : TdApi.Chat)
    (shown : event.chat = some chat) (behind : chatGroup chat.type = none) :
    groupReaction (Config.started interval batch) caches event = (caches, []) := by
  have ignored (fromChatList : Bool) :
      handleNewChat (Config.started interval batch) caches chat fromChatList = (caches, []) := by
    simp only [handleNewChat]
    cases kind : chat.type with
    | none => rfl
    | some type =>
        cases type with
        | basicGroup basicGroupId => simp [kind, chatGroup] at behind
        | supergroup supergroupId isChannel => simp [kind, chatGroup] at behind
        | other => rfl
  cases event with
  | newChat delivered =>
      cases shown
      exact ignored true
  | gotChat answered =>
      cases shown
      exact ignored false
  | chatTitle chatId title => cases shown
  | supergroup sg => cases shown
  | supergroupFullInfo supergroupId info => cases shown
  | basicGroupFullInfo basicGroupId info => cases shown

theorem held_put (groupId other : Int) (st : GroupState) :
    (caches.put groupId st).held other = if other = groupId then st else caches.held other := by
  by_cases same : other = groupId
  · subst same
    simp [Caches.held, Caches.put]
  · simp [Caches.held, Caches.put, same]

theorem handedGroups_put (groupId : Int) (st : GroupState) :
    handedGroups (emitGroup (Config.started interval batch) (caches.put groupId st) groupId) =
      shows st :=
  handedGroups_emitGroup _ _ _ _ _ (update_self ..)

/-- A title of a known chat goes to the state of its group. -/
theorem reaction_title (chatId groupId : Int) (title : String)
    (known : caches.chatToGroup chatId = some groupId) :
    assemblyStep (Config.started interval batch) caches (.chatTitle chatId title) =
        caches.put groupId ((caches.held groupId).entitle title) ∧
      emissions (Config.started interval batch) caches (.chatTitle chatId title) =
        shows ((caches.held groupId).entitle title) := by
  have reacts : groupReaction (Config.started interval batch) caches (.chatTitle chatId title) =
      (caches.put groupId ((caches.held groupId).entitle title),
        emitGroup (Config.started interval batch)
          (caches.put groupId ((caches.held groupId).entitle title)) groupId) := by
    simp only [groupReaction, processUpdate, known]
    rfl
  refine ⟨congrArg Prod.fst reacts, ?_⟩
  rw [emissions, reacts]
  exact handedGroups_put _ _ _ _ _

theorem reaction_unknownTitle (chatId : Int) (title : String)
    (unknown : caches.chatToGroup chatId = none) :
    groupReaction (Config.started interval batch) caches (.chatTitle chatId title) =
      (caches, []) := by
  simp only [groupReaction, processUpdate, unknown]

/-- updateSupergroup is kept for later, and merged when a state is there. -/
theorem reaction_supergroup (sg : TdApi.Supergroup) :
    assemblyStep (Config.started interval batch) caches (.supergroup (some sg)) =
        { caches with
          supergroups := update caches.supergroups sg.id (some (sgInfo sg))
          groupState :=
            match caches.groupState sg.id with
            | none => caches.groupState
            | some st => update caches.groupState sg.id (some (st.rename (sgInfo sg))) } ∧
      emissions (Config.started interval batch) caches (.supergroup (some sg)) =
        match caches.groupState sg.id with
        | none => []
        | some st => shows (st.rename (sgInfo sg)) := by
  simp only [assemblyStep, emissions, groupReaction, processUpdate, handleSupergroup]
  cases held : caches.groupState sg.id with
  | none => exact ⟨rfl, rfl⟩
  | some st => exact ⟨rfl, handedGroups_emitGroup _ _ _ _ _ (update_self ..)⟩

theorem handedGroups_admins (config : Config) (chatId : Int)
    (members : List (Option TdApi.ChatMember)) :
    handedGroups (emitAdmins config caches chatId members) = [] := by
  have noGroup (userId : Int) : handedGroups (ensureUserSaved config caches userId) = [] := by
    simp only [ensureUserSaved]
    split
    · rfl
    · split <;> rfl
  have users : handedGroups ((members.filterMap fun m => m.bind mapAdmin).flatMap fun ga =>
      ensureUserSaved config caches ga.userId) = [] := by
    rw [handedGroups, List.filterMap_flatMap, List.flatMap_eq_nil_iff]
    intro ga _
    exact noGroup ga.userId
  simp only [emitAdmins]
  rw [handedGroups_append, users]
  split <;> rfl

/-- A full info is merged into a state, which it creates when there is none. -/
theorem reaction_fullInfo (event : GroupEvent) (groupId : Int) (description : String)
    (told : event.description = some (groupId, description)) :
    assemblyStep (Config.started interval batch) caches event =
        caches.put groupId ((caches.held groupId).describe description) ∧
      emissions (Config.started interval batch) caches event =
        shows ((caches.held groupId).describe description) := by
  have emits := handedGroups_put interval batch caches groupId
    ((caches.held groupId).describe description)
  cases event with
  | newChat chat => cases told
  | gotChat chat => cases told
  | chatTitle chatId title => cases told
  | supergroup sg => cases told
  | supergroupFullInfo supergroupId info =>
      cases info with
      | none => cases told
      | some info =>
          cases told
          refine ⟨rfl, ?_⟩
          rw [← emits]
          simp only [emissions, groupReaction, processUpdate]
          by_cases seen : (caches.held groupId).chatSeen = true
          · rw [show (describe caches groupId info.description).2.chatSeen = true from seen,
              if_pos rfl]
            rfl
          · have unseen : ¬ (describe caches groupId info.description).2.chatSeen = true := seen
            rw [if_neg unseen, emits]
            exact (if_neg seen).symm
  | basicGroupFullInfo basicGroupId info =>
      cases info with
      | none => cases told
      | some info =>
          cases told
          simp only [assemblyStep, emissions, groupReaction, processUpdate]
          by_cases seen : (caches.held groupId).chatSeen = true
          · have marked : (describe caches groupId info.description).2.chatSeen = true := seen
            rw [if_pos marked]
            refine ⟨rfl, ?_⟩
            have admins : handedGroups (if (describe caches groupId info.description).2.chatId ∈
                  (describe caches groupId info.description).1.adminPollSet then
                emitBasicGroupAdmins (Config.started interval batch)
                  (describe caches groupId info.description).1
                  (describe caches groupId info.description).2.chatId info
                else []) = [] := by
              split
              · exact handedGroups_admins _ _ _ _
              · rfl
            rw [handedGroups_append, admins, List.append_nil]
            exact emits
          · have unseen : ¬ (describe caches groupId info.description).2.chatSeen = true := seen
            rw [if_neg unseen]
            exact ⟨rfl, (if_neg seen).symm⟩

end

end TgLoggerd

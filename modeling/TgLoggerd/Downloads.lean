import TgLoggerd.Reactions

/-!
Whether a requested download reaches its owner. Three caches remember owners by
file id alone, a later request writes over an earlier one, and a completed file
is given to the first cache that knows it. An owner is served for certain as
long as no file is requested that still waits for somebody else.
-/

namespace TgLoggerd

open Function SerialRun

/-- Whom a downloaded file belongs to. -/
inductive Owner where
  | message (chatId messageId : Int) (isGroup : Bool)
  | user (userId : Int)
  | group (groupId : Int)
  deriving DecidableEq, Repr

/-- The owner that a call links a file to. -/
def Call.owner : Call → Option Owner
  | .messageFile mf => some (.message mf.chatId mf.messageId mf.isGroup)
  | .profilePhoto p => some (.user p.userId)
  | .groupPhoto p => some (.group p.groupId)
  | _ => none

def Action.serves (owner : Owner) : Action → Prop
  | .hand call => call.owner = some owner
  | .send _ _ => False

def Served (actions : List Action) (owner : Owner) : Prop :=
  ∃ action ∈ actions, action.serves owner

def PendingMsgFile.owner (ref : PendingMsgFile) : Owner :=
  .message ref.chatId ref.messageId ref.isGroup

/-- The cache of the owner's kind waits for the file on behalf of the owner. -/
def Awaits (caches : Caches) (fileId : Int) (owner : Owner) : Prop :=
  (caches.pendingPhoto fileId).map Owner.user = some owner ∨
    (caches.pendingGroupPhoto fileId).map Owner.group = some owner ∨
    (caches.pendingMessageFile fileId).map PendingMsgFile.owner = some owner

def messageDemand (chatId : Int) (message : TdApi.Message) : Option (Owner × TdApi.File) :=
  (message.content.bind messageContentFile).map fun found =>
    (.message message.chatId message.id (!isPrivateChat chatId), found.1)

def userDemand (u : TdApi.User) : Option (Owner × TdApi.File) :=
  u.profilePhoto.join.map fun big => (.user u.id, big)

def photoDemand (groupId : Int) (photo : Option (Option TdApi.File)) :
    Option (Owner × TdApi.File) :=
  photo.join.map fun big => (.group groupId, big)

def chatDemand (chat : TdApi.Chat) : Option (Owner × TdApi.File) :=
  match chat.type with
  | some (.basicGroup _) => photoDemand chat.id chat.photo
  | some (.supergroup _ _) => photoDemand chat.id chat.photo
  | some .other => none
  | none => none

def answerDemand : Continuation → TdApi.Object → Option (Owner × TdApi.File)
  | .editedMessage, .message m => messageDemand m.chatId m
  | .repliedMessage reply _, .message r => messageDemand reply.replyToChatId r
  | .savedUser, .user u => userDemand u
  | .savedChat, .chat chat => chatDemand chat
  | _, _ => none

/-- The file an event brings, with the owner it belongs to. -/
def demand (impl : Impl) : Event → Option (Owner × TdApi.File)
  | .update (.newMessage message) => messageDemand message.chatId message
  | .update (.user (some u)) => userDemand u
  | .update (.newChat (some chat)) => chatDemand chat
  | .update (.chatPhoto chatId photo) =>
      if (impl.caches.chatToGroup chatId).isSome then photoDemand chatId photo else none
  | .answer requestId object =>
      (impl.handlers requestId).bind fun waiting => answerDemand waiting object
  | _ => none

/-- No file is requested that still waits for another owner. -/
def Uncontested (impl : Impl) (event : Event) : Prop :=
  ∀ owner file, demand impl event = some (owner, file) → completedPath file = none →
    ∀ other, Awaits impl.caches file.id other → other = owner

/-- The event is an updateFile of the file with its download completed. -/
def Completes (fileId : Int) : Event → Prop
  | .update (.file (some f)) => f.id = fileId ∧ (completedPath f).isSome
  | _ => False

def posted (config : Config) : Impl → List Event → List Action :=
  outputs (process config) fun impl event => (reaction config impl event).2

def requested (actions : List Action) : List Int :=
  actions.filterMap fun action =>
    match action with
    | .send (.downloadFile fileId) _ => some fileId
    | _ => none

/-- Every file asked for later comes with its download completed. -/
def AllCompleted (config : Config) (events : List Event) : Prop :=
  ∀ before event after, events = before ++ event :: after →
    ∀ fileId ∈ requested (reaction config (runEvents config before) event).2,
      ∃ later ∈ after, Completes fileId later

/-- Every owner of a file gets a link to it, once the event that brought the
file is processed. -/
def AllServed (config : Config) (events : List Event) : Prop :=
  ∀ before event after, events = before ++ event :: after →
    ∀ owner file, demand (runEvents config before) event = some (owner, file) →
      Served (posted config (runEvents config before) (event :: after)) owner

/-- No file waits for two owners. -/
def Single (caches : Caches) : Prop :=
  ∀ fileId left right, Awaits caches fileId left → Awaits caches fileId right → left = right

theorem awaits_congr (caches other : Caches) (same : other.pending = caches.pending)
    (fileId : Int) (owner : Owner) : Awaits other fileId owner ↔ Awaits caches fileId owner := by
  have users : other.pendingPhoto = caches.pendingPhoto := congrArg Prod.fst same
  have groups : other.pendingGroupPhoto = caches.pendingGroupPhoto := congrArg (·.2.1) same
  have messages : other.pendingMessageFile = caches.pendingMessageFile := congrArg (·.2.2) same
  rw [Awaits, Awaits, users, groups, messages]

/-- What a request leaves behind for one file. -/
structure Remembered (caches other : Caches) (owner : Owner) (fileId : Int) : Prop where
  now : Awaits other fileId owner
  kept : ∀ id held, id ≠ fileId → Awaits caches id held → Awaits other id held
  only : ∀ id held, Awaits other id held → id = fileId ∧ held = owner ∨ Awaits caches id held

/-- A demand is served at once when its file is there, and remembered otherwise. -/
def Meets (caches : Caches) (result : Caches × List Action) :
    Option (Owner × TdApi.File) → Prop
  | none => result.1.pending = caches.pending
  | some (owner, file) =>
      if (completedPath file).isSome then
        result.1.pending = caches.pending ∧ Served result.2 owner
      else Remembered caches result.1 owner file.id ∧ downloadFile file.id ∈ result.2

/-- The functions that ask for a file, with what each is called with. -/
inductive Request where
  | nothing
  | messageFile (message : TdApi.Message) (chatId : Int)
  | profilePhoto (u : TdApi.User)
  | groupPhoto (groupId : Int) (photo : Option (Option TdApi.File))

def Request.demand : Request → Option (Owner × TdApi.File)
  | .nothing => none
  | .messageFile message chatId => messageDemand chatId message
  | .profilePhoto u => userDemand u
  | .groupPhoto groupId photo => photoDemand groupId photo

def Request.perform (config : Config) (caches : Caches) : Request → Caches × List Action
  | .nothing => (caches, [])
  | .messageFile message chatId =>
      maybeDownloadMessageFile config caches message (!isPrivateChat chatId)
  | .profilePhoto u => maybeDownloadProfilePhoto config caches u
  | .groupPhoto groupId photo => maybeDownloadGroupPhoto config caches groupId photo

/-- Among what a turn does is one request, made on caches that wait for the
same files. -/
def Asks (config : Config) (caches : Caches) (result : Caches × List Action)
    (wanted : Option (Owner × TdApi.File)) : Prop :=
  ∃ request before, Request.demand request = wanted ∧ before.pending = caches.pending ∧
    result.1.pending = (request.perform config before).1.pending ∧
    (request.perform config before).2 ⊆ result.2

theorem asks_widen {config : Config} {caches before : Caches} {result : Caches × List Action}
    {wanted : Option (Owner × TdApi.File)} (asks : Asks config before result wanted)
    (earlier : before.pending = caches.pending) {other : Caches}
    (same : other.pending = result.1.pending) {all : List Action} (more : result.2 ⊆ all) :
    Asks config caches (other, all) wanted := by
  obtain ⟨request, held, asked, held_same, performed, posted⟩ := asks
  refine ⟨request, held, asked, held_same.trans earlier, same.trans performed, ?_⟩
  intro action member
  exact more (posted member)

/-- Other actions of the same turn, and writes to other caches, take nothing
from a met demand. -/
theorem meets_widen {caches before : Caches} {result : Caches × List Action}
    {wanted : Option (Owner × TdApi.File)} (met : Meets before result wanted)
    (earlier : before.pending = caches.pending) {other : Caches}
    (same : other.pending = result.1.pending) {all : List Action} (more : result.2 ⊆ all) :
    Meets caches (other, all) wanted := by
  cases wanted with
  | none => exact (same.trans met).trans earlier
  | some pair =>
      obtain ⟨owner, file⟩ := pair
      simp only [Meets] at met ⊢
      split at met
      · rename_i complete
        obtain ⟨unchanged, action, member, serving⟩ := met
        rw [if_pos complete]
        exact ⟨(same.trans unchanged).trans earlier, action, more member, serving⟩
      · rename_i incomplete
        rw [if_neg incomplete]
        obtain ⟨remembered, requested⟩ := met
        refine ⟨⟨?_, ?_, ?_⟩, more requested⟩
        · exact (awaits_congr result.1 other same _ _).mpr remembered.now
        · intro id held apart awaited
          apply (awaits_congr result.1 other same _ _).mpr
          exact remembered.kept id held apart ((awaits_congr caches before earlier _ _).mpr awaited)
        · intro id held awaited
          rcases remembered.only id held ((awaits_congr result.1 other same _ _).mp awaited) with
            own | old
          · exact Or.inl own
          · exact Or.inr ((awaits_congr caches before earlier _ _).mp old)

section

variable (interval : Rat) (batch : Nat) (caches : Caches)

theorem served_emitMessageFile (ref : PendingMsgFile) (f : TdApi.File)
    (complete : (completedPath f).isSome) :
    Served (emitMessageFile (Config.started interval batch) ref f) ref.owner := by
  obtain ⟨path, known⟩ := Option.isSome_iff_exists.mp complete
  simp only [emitMessageFile, Config.started, known]
  exact ⟨_, List.mem_singleton_self _, rfl⟩

theorem served_emitPhoto (userId : Int) (f : TdApi.File) (complete : (completedPath f).isSome) :
    Served (emitPhoto (Config.started interval batch) userId f) (.user userId) := by
  obtain ⟨path, known⟩ := Option.isSome_iff_exists.mp complete
  simp only [emitPhoto, Config.started, known]
  exact ⟨_, List.mem_singleton_self _, rfl⟩

theorem served_emitGroupPhoto (groupId : Int) (f : TdApi.File)
    (complete : (completedPath f).isSome) :
    Served (emitGroupPhoto (Config.started interval batch) groupId f) (.group groupId) := by
  obtain ⟨path, known⟩ := Option.isSome_iff_exists.mp complete
  simp only [emitGroupPhoto, Config.started, known]
  exact ⟨_, List.mem_singleton_self _, rfl⟩

theorem remembered_message (ref : PendingMsgFile) (fileId : Int) :
    Remembered caches
      { caches with pendingMessageFile := update caches.pendingMessageFile fileId (some ref) }
      ref.owner fileId where
  now := by simp [Awaits]
  kept := by
    intro id held apart awaited
    simpa [Awaits, apart] using awaited
  only := by
    intro id held awaited
    by_cases own : id = fileId
    · subst own
      rcases awaited with user | group | message
      · exact Or.inr (Or.inl user)
      · exact Or.inr (Or.inr (Or.inl group))
      · exact Or.inl ⟨rfl, by simpa using message.symm⟩
    · exact Or.inr (by simpa [Awaits, own] using awaited)

theorem remembered_user (userId fileId : Int) :
    Remembered caches
      { caches with pendingPhoto := update caches.pendingPhoto fileId (some userId) }
      (.user userId) fileId where
  now := by simp [Awaits]
  kept := by
    intro id held apart awaited
    simpa [Awaits, apart] using awaited
  only := by
    intro id held awaited
    by_cases own : id = fileId
    · subst own
      rcases awaited with user | others
      · exact Or.inl ⟨rfl, by simpa using user.symm⟩
      · exact Or.inr (Or.inr others)
    · exact Or.inr (by simpa [Awaits, own] using awaited)

theorem remembered_group (groupId fileId : Int) :
    Remembered caches
      { caches with pendingGroupPhoto := update caches.pendingGroupPhoto fileId (some groupId) }
      (.group groupId) fileId where
  now := by simp [Awaits]
  kept := by
    intro id held apart awaited
    simpa [Awaits, apart] using awaited
  only := by
    intro id held awaited
    by_cases own : id = fileId
    · subst own
      rcases awaited with user | group | message
      · exact Or.inr (Or.inl user)
      · exact Or.inl ⟨rfl, by simpa using group.symm⟩
      · exact Or.inr (Or.inr (Or.inr message))
    · exact Or.inr (by simpa [Awaits, own] using awaited)

theorem meets_messageFile (message : TdApi.Message) (chatId : Int) :
    Meets caches
      (maybeDownloadMessageFile (Config.started interval batch) caches message
        (!isPrivateChat chatId))
      (messageDemand chatId message) := by
  simp only [maybeDownloadMessageFile, messageDemand, Config.started]
  cases message.content.bind messageContentFile with
  | none => rfl
  | some found =>
      obtain ⟨f, category, fileName⟩ := found
      simp only [Option.map_some, Meets]
      split
      · exact ⟨rfl, served_emitMessageFile interval batch _ f ‹_›⟩
      · exact ⟨remembered_message caches _ f.id, List.mem_singleton_self _⟩

theorem meets_profilePhoto (u : TdApi.User) :
    Meets caches (maybeDownloadProfilePhoto (Config.started interval batch) caches u)
      (userDemand u) := by
  simp only [maybeDownloadProfilePhoto, userDemand, Config.started]
  cases u.profilePhoto.join with
  | none => rfl
  | some big =>
      simp only [Option.map_some, Meets]
      split
      · exact ⟨rfl, served_emitPhoto interval batch u.id big ‹_›⟩
      · exact ⟨remembered_user caches u.id big.id, List.mem_singleton_self _⟩

theorem meets_groupPhoto (groupId : Int) (photo : Option (Option TdApi.File)) :
    Meets caches (maybeDownloadGroupPhoto (Config.started interval batch) caches groupId photo)
      (photoDemand groupId photo) := by
  simp only [maybeDownloadGroupPhoto, photoDemand, Config.started]
  cases photo.join with
  | none => rfl
  | some big =>
      simp only [Option.map_some, Meets]
      split
      · exact ⟨rfl, served_emitGroupPhoto interval batch groupId big ‹_›⟩
      · exact ⟨remembered_group caches groupId big.id, List.mem_singleton_self _⟩

theorem asks_nothing (result : Caches × List Action) (same : result.1.pending = caches.pending) :
    Asks (Config.started interval batch) caches result none :=
  ⟨.nothing, caches, rfl, rfl, same, List.nil_subset _⟩

theorem asks_message (chatId : Int) (message : TdApi.Message) (depth : Nat) :
    Asks (Config.started interval batch) caches
      (handleMessage (Config.started interval batch) caches chatId message depth)
      (messageDemand chatId message) := by
  refine ⟨.messageFile message chatId, caches, rfl, rfl, ?_⟩
  simp only [handleMessage, Request.perform]
  cases isPrivateChat chatId
  all_goals
    refine ⟨by rfl, ?_⟩
    intro action member
    exact List.mem_append_left _ (List.mem_append_right _ member)

theorem asks_saveUser (u : TdApi.User) (after : List Action) :
    Asks (Config.started interval batch) caches
      ((saveUser (Config.started interval batch) caches u).1,
        (saveUser (Config.started interval batch) caches u).2 ++ after)
      (userDemand u) := by
  refine ⟨.profilePhoto u, caches, rfl, rfl, by rfl, ?_⟩
  intro action member
  exact List.mem_append_left _ (List.mem_append_right _ member)

theorem asks_newChat (chat : TdApi.Chat) (fromChatList : Bool) :
    Asks (Config.started interval batch) caches
      (handleNewChat (Config.started interval batch) caches chat fromChatList)
      (chatDemand chat) := by
  have group (groupId : Int) (type : GroupType) :
      Asks (Config.started interval batch) caches
        (handleGroupChat (Config.started interval batch) caches chat fromChatList groupId type)
        (photoDemand chat.id chat.photo) := by
    refine ⟨.groupPhoto chat.id chat.photo,
      { caches with
        groupState := update caches.groupState groupId (some (seenState caches chat groupId type))
        chatToGroup := update caches.chatToGroup chat.id (some groupId) }, rfl, rfl, ?_⟩
    simp only [handleGroupChat]
    split
    · refine ⟨by rfl, ?_⟩
      intro action member
      exact List.mem_append_left _ (List.mem_append_right _ member)
    · refine ⟨by rfl, ?_⟩
      intro action member
      exact List.mem_append_right _ member
  simp only [handleNewChat, chatDemand]
  cases chat.type with
  | none => exact asks_nothing interval batch caches _ rfl
  | some type =>
      cases type with
      | basicGroup groupId => exact group groupId _
      | supergroup groupId isChannel => exact group groupId _
      | other => exact asks_nothing interval batch caches _ rfl

theorem asks_resume (waiting : Continuation) (object : TdApi.Object) :
    Asks (Config.started interval batch) caches
      (resume (Config.started interval batch) caches waiting object)
      (answerDemand waiting object) := by
  cases waiting with
  | authentication => cases object <;> exact asks_nothing interval batch caches _ rfl
  | me => cases object <;> exact asks_nothing interval batch caches _ rfl
  | editedMessage =>
      cases object with
      | message m => exact asks_message interval batch caches m.chatId m 0
      | _ => exact asks_nothing interval batch caches _ rfl
  | repliedMessage reply depth =>
      cases object with
      | message r =>
          refine asks_widen
            (asks_message interval batch
              (markReplyResolved caches (reply.replyToChatId, reply.replyToMsgId))
              reply.replyToChatId r (depth + 1)) (by rfl) (by rfl) ?_
          intro action member
          exact List.mem_append_left _ (List.mem_append_right _ member)
      | _ => exact asks_nothing interval batch caches _ rfl
  | savedUser =>
      cases object with
      | user u => simpa [resume, answerDemand] using asks_saveUser interval batch caches u []
      | _ => exact asks_nothing interval batch caches _ rfl
  | savedChat =>
      cases object with
      | chat chat => exact asks_newChat interval batch caches chat false
      | _ => exact asks_nothing interval batch caches _ rfl
  | fullInfo userId => cases object <;> exact asks_nothing interval batch caches _ rfl
  | groupAdmins chatId =>
      cases object with
      | error code =>
          apply asks_nothing
          simp only [resume]
          split
          · exact (caches_miss caches chatId).2
          · rfl
      | _ => exact asks_nothing interval batch caches _ rfl
  | adminAlarm =>
      cases object <;> exact asks_nothing interval batch caches _ (caches_alarm _ caches).2

/-- Every event other than a file update makes the request it demands. -/
theorem asks_event (impl : Impl) (event : Event) (noFile : ∀ f, event ≠ .update (.file (some f))) :
    Asks (Config.started interval batch) impl.caches
      (reaction (Config.started interval batch) impl event) (demand impl event) := by
  have nothing := asks_nothing interval batch impl.caches
  cases event with
  | close => exact nothing _ rfl
  | answer requestId object =>
      simp only [reaction, demand]
      cases impl.handlers requestId with
      | none => exact nothing _ rfl
      | some waiting => exact asks_resume interval batch impl.caches waiting object
  | update u =>
      cases u with
      | authorizationState state => exact nothing _ (caches_authorization _ impl.caches state).2
      | user user =>
          cases user with
          | none => exact nothing _ rfl
          | some u => exact asks_saveUser interval batch impl.caches u _
      | userFullInfo userId info => cases info <;> exact nothing _ rfl
      | file file =>
          cases file with
          | none => exact nothing _ rfl
          | some f => exact absurd rfl (noFile f)
      | newChat chat =>
          cases chat with
          | none => exact nothing _ rfl
          | some chat => exact asks_newChat interval batch impl.caches chat true
      | chatTitle chatId title =>
          apply nothing
          simp only [reaction, processUpdate]
          split <;> rfl
      | chatPhoto chatId photo =>
          simp only [reaction, processUpdate, demand]
          -- The photo of a chat that is no known group is not requested.
          cases impl.caches.chatToGroup chatId with
          | none => exact nothing _ rfl
          | some groupId =>
              exact ⟨.groupPhoto chatId photo, impl.caches, rfl, rfl, rfl, List.Subset.refl _⟩
      | supergroup supergroup =>
          cases supergroup with
          | none => exact nothing _ rfl
          | some sg =>
              apply nothing
              simp only [reaction, processUpdate, handleSupergroup]
              split <;> rfl
      | supergroupFullInfo groupId info => cases info <;> exact nothing _ rfl
      | basicGroupFullInfo groupId info =>
          cases info with
          | none => exact nothing _ rfl
          | some info =>
              apply nothing
              simp only [reaction, processUpdate, describe]
              by_cases seen : ((impl.caches.groupState groupId).getD {}).chatSeen = true
              · simp only [seen, ↓reduceIte, Caches.pending]
              · simp only [seen, Bool.false_eq_true, ↓reduceIte, Caches.pending]
      | newMessage message =>
          refine asks_widen
            (asks_message interval batch impl.caches message.chatId message 0) (by rfl) (by rfl) ?_
          exact List.subset_append_left _ _
      | messageContent chatId messageId newContent => exact nothing _ rfl
      | messageEdited chatId messageId => exact nothing _ rfl
      | deleteMessages chatId messageIds isPermanent => exact nothing _ rfl
      | other => exact nothing _ rfl

theorem meets_request (request : Request) :
    Meets caches (request.perform (Config.started interval batch) caches) request.demand := by
  cases request with
  | nothing => rfl
  | messageFile message chatId => exact meets_messageFile interval batch caches message chatId
  | profilePhoto u => exact meets_profilePhoto interval batch caches u
  | groupPhoto groupId photo => exact meets_groupPhoto interval batch caches groupId photo

/-- Every event other than a file update meets what it demands. -/
theorem meets_event (impl : Impl) (event : Event) (noFile : ∀ f, event ≠ .update (.file (some f))) :
    Meets impl.caches (reaction (Config.started interval batch) impl event)
      (demand impl event) := by
  obtain ⟨request, before, wanted, earlier, same, more⟩ :=
    asks_event interval batch impl event noFile
  rw [← wanted]
  exact meets_widen (meets_request interval batch before request) earlier same more

/-- A completed file goes to the one owner that waits for it. -/
theorem served_fileUpdate (f : TdApi.File) (complete : (completedPath f).isSome) (owner : Owner)
    (single : Single caches) (awaited : Awaits caches f.id owner) :
    Served (handleFileUpdate (Config.started interval batch) caches f).2 owner := by
  simp only [handleFileUpdate, complete, ↓reduceIte]
  -- The first cache that knows the file decides; a single owner is the one it knows.
  cases user : caches.pendingPhoto f.id with
  | some userId =>
      have same := single f.id owner (.user userId) awaited (Or.inl (by simp [user]))
      rw [same]
      exact served_emitPhoto interval batch userId f complete
  | none =>
      cases group : caches.pendingGroupPhoto f.id with
      | some groupId =>
          have same := single f.id owner (.group groupId) awaited
            (Or.inr (Or.inl (by simp [group])))
          rw [same]
          exact served_emitGroupPhoto interval batch groupId f complete
      | none =>
          cases message : caches.pendingMessageFile f.id with
          | some ref =>
              have same := single f.id owner ref.owner awaited
                (Or.inr (Or.inr (by simp [message])))
              rw [same]
              exact served_emitMessageFile interval batch ref f complete
          | none => simp [Awaits, user, group, message] at awaited

/-- A file update forgets owners of its own file only. -/
theorem only_fileUpdate (f : TdApi.File) (fileId : Int) (owner : Owner)
    (awaited : Awaits (handleFileUpdate (Config.started interval batch) caches f).1 fileId owner) :
    Awaits caches fileId owner := by
  simp only [handleFileUpdate] at awaited
  -- On the file itself one cache forgets, and the other two are as before.
  by_cases own : fileId = f.id
  · subst own
    split at awaited
    · split at awaited
      · rcases awaited with user | others
        · simp at user
        · exact Or.inr others
      · split at awaited
        · rcases awaited with user | group | message
          · exact Or.inl user
          · simp at group
          · exact Or.inr (Or.inr message)
        · split at awaited
          · rcases awaited with user | group | message
            · exact Or.inl user
            · exact Or.inr (Or.inl group)
            · simp at message
          · exact awaited
    · exact awaited
  · split at awaited
    · split at awaited
      · simpa [Awaits, own] using awaited
      · split at awaited
        · simpa [Awaits, own] using awaited
        · split at awaited
          · simpa [Awaits, own] using awaited
          · exact awaited
    · exact awaited

/-- Only a file update that completes the file forgets its owners. -/
theorem kept_fileUpdate (f : TdApi.File) (fileId : Int) (owner : Owner)
    (awaited : Awaits caches fileId owner)
    (other : ¬ (f.id = fileId ∧ (completedPath f).isSome)) :
    Awaits (handleFileUpdate (Config.started interval batch) caches f).1 fileId owner := by
  simp only [handleFileUpdate]
  split
  · rename_i complete
    have apart : fileId ≠ f.id := fun same => other ⟨same.symm, complete⟩
    split
    · simpa [Awaits, apart] using awaited
    · split
      · simpa [Awaits, apart] using awaited
      · split
        · simpa [Awaits, apart] using awaited
        · exact awaited
  · exact awaited

theorem single_remembered (other : Caches) (owner : Owner) (fileId : Int)
    (single : Single caches) (remembered : Remembered caches other owner fileId)
    (alone : ∀ held, Awaits caches fileId held → held = owner) : Single other := by
  intro id left right leftAwaited rightAwaited
  -- On the remembered file both are the new owner, elsewhere both were there before.
  rcases remembered.only id left leftAwaited with ⟨rfl, rfl⟩ | leftBefore
  · rcases remembered.only id right rightAwaited with ⟨_, rfl⟩ | rightBefore
    · rfl
    · exact (alone right rightBefore).symm
  · rcases remembered.only id right rightAwaited with ⟨rfl, rfl⟩ | rightBefore
    · exact alone left leftBefore
    · exact single id left right leftBefore rightBefore

/-- An uncontested event keeps one owner to a file. -/
theorem single_process (impl : Impl) (event : Event) (single : Single impl.caches)
    (uncontested : Uncontested impl event) :
    Single (process (Config.started interval batch) impl event).caches := by
  rw [caches_process]
  by_cases file : ∃ f, event = .update (.file (some f))
  · obtain ⟨f, rfl⟩ := file
    intro fileId left right leftAwaited rightAwaited
    exact single fileId left right
      (only_fileUpdate interval batch impl.caches f fileId left leftAwaited)
      (only_fileUpdate interval batch impl.caches f fileId right rightAwaited)
  · have met := meets_event interval batch impl event fun f same => file ⟨f, same⟩
    -- Only a remembered request adds an owner.
    cases wanted : demand impl event with
    | none =>
        rw [wanted] at met
        intro fileId left right leftAwaited rightAwaited
        exact single fileId left right ((awaits_congr _ _ met _ _).mp leftAwaited)
          ((awaits_congr _ _ met _ _).mp rightAwaited)
    | some pair =>
        obtain ⟨owner, file⟩ := pair
        rw [wanted, Meets] at met
        split at met
        · intro fileId left right leftAwaited rightAwaited
          exact single fileId left right ((awaits_congr _ _ met.1 _ _).mp leftAwaited)
            ((awaits_congr _ _ met.1 _ _).mp rightAwaited)
        · rename_i incomplete
          have alone := uncontested owner file wanted (Option.not_isSome_iff_eq_none.mp incomplete)
          exact single_remembered impl.caches _ owner file.id single met.1 alone

/-- An uncontested event that does not complete a file leaves its owner waiting. -/
theorem awaits_process (impl : Impl) (event : Event) (fileId : Int) (owner : Owner)
    (uncontested : Uncontested impl event) (awaited : Awaits impl.caches fileId owner)
    (other : ¬ Completes fileId event) :
    Awaits (process (Config.started interval batch) impl event).caches fileId owner := by
  rw [caches_process]
  by_cases file : ∃ f, event = .update (.file (some f))
  · obtain ⟨f, rfl⟩ := file
    exact kept_fileUpdate interval batch impl.caches f fileId owner awaited other
  · have met := meets_event interval batch impl event fun f same => file ⟨f, same⟩
    cases wanted : demand impl event with
    | none =>
        rw [wanted] at met
        exact (awaits_congr _ _ met _ _).mpr awaited
    | some pair =>
        obtain ⟨asking, file⟩ := pair
        rw [wanted, Meets] at met
        split at met
        · exact (awaits_congr _ _ met.1 _ _).mpr awaited
        · rename_i incomplete
          by_cases own : fileId = file.id
          · subst own
            -- Whoever asks again for the file is the owner that already waits.
            have same := uncontested asking file wanted
              (Option.not_isSome_iff_eq_none.mp incomplete) owner awaited
            rw [same]
            exact met.1.now
          · exact met.1.kept fileId owner own awaited

/-- An event that completes a file serves the owner that waits for it. -/
theorem served_completion (impl : Impl) (event : Event) (fileId : Int) (owner : Owner)
    (single : Single impl.caches) (awaited : Awaits impl.caches fileId owner)
    (completes : Completes fileId event) :
    Served (reaction (Config.started interval batch) impl event).2 owner := by
  cases event with
  | update u =>
      cases u with
      | file file =>
          cases file with
          | none => cases completes
          | some f =>
              obtain ⟨rfl, complete⟩ := completes
              exact served_fileUpdate interval batch impl.caches f complete owner single awaited
      | _ => cases completes
  | answer requestId object => cases completes
  | close => cases completes

theorem single_initial : Single Impl.initial.caches := by
  intro fileId left right awaited
  rcases awaited with user | group | message
  · cases user
  · cases group
  · cases message

end

/-- No requested download is forgotten in a run without contested requests. -/
theorem downloads_reach_owners (interval : Rat) (batch : Nat) (events : List Event)
    (uncontested : EveryStep (process (Config.started interval batch)) Impl.initial Uncontested
      events)
    (completed : AllCompleted (Config.started interval batch) events) :
    AllServed (Config.started interval batch) events := by
  intro before event after split owner file wanted
  subst split
  have good := everyStep_append _ _ Uncontested before (event :: after) uncontested
  obtain ⟨now, later⟩ := everyStep_cons _ _ Uncontested event after good.2
  have single := everyStep_invariant _ Impl.initial (fun impl => Single impl.caches) Uncontested
    single_initial (single_process interval batch) before good.1
  have noFile : ∀ f, event ≠ .update (.file (some f)) := by
    rintro f rfl
    cases wanted
  have met := meets_event interval batch
    (runEvents (Config.started interval batch) before) event noFile
  rw [wanted, Meets] at met
  split at met
  · obtain ⟨action, member, serving⟩ := met.2
    exact ⟨action, List.mem_append_left _ member, serving⟩
  · have fired := completed before event after rfl file.id
      (List.mem_filterMap.mpr ⟨_, met.2, rfl⟩)
    have awaited := met.1.now
    rw [← caches_process] at awaited
    -- From here on the file waits for this owner until its completion comes.
    obtain ⟨action, member, serving⟩ := served_once_triggered
      (process (Config.started interval batch)) _
      (fun impl event => (reaction (Config.started interval batch) impl event).2)
      (fun impl => Single impl.caches ∧ Awaits impl.caches file.id owner)
      (Action.serves owner) Uncontested (Completes file.id)
      (by
        intro impl next step waits
        by_cases completes : Completes file.id next
        · exact Or.inr (served_completion interval batch impl next file.id owner waits.1 waits.2
            completes)
        · exact Or.inl ⟨single_process interval batch impl next waits.1 step,
            awaits_process interval batch impl next file.id owner step waits.2 completes⟩)
      (by
        intro impl next waits completes
        exact served_completion interval batch impl next file.id owner waits.1 waits.2 completes)
      after later fired ⟨single_process interval batch _ event single now, awaited⟩
    exact ⟨action, List.mem_append_right _ member, serving⟩

/-- A message with a photo that is not downloaded yet. -/
def photoMessage (messageId : Int) : TdApi.Message where
  id := messageId
  chatId := 5
  content := some (.photo (some [some { photo := some { id := 11 }, width := 2, height := 2 }]))

/-- The photo, downloaded. -/
def photoCompleted : Event :=
  .update (.file (some
    { id := 11
      localFile := some { path := "photos/11.jpg", isDownloadingCompleted := true } }))

/-- One message, its photo requested and completed, is a run of this kind. -/
theorem single_photo_reaches_message :
    let config := Config.started 300 4
    let events := [.update (.newMessage (photoMessage 7)), photoCompleted]
    posted config Impl.initial events =
      [.hand (.privateMessage (buildPrivateMessage (photoMessage 7))), downloadFile 11,
        .hand (.messageFile ⟨5, 7, false, "photos/11.jpg", "", 0, "photo", ""⟩)] ∧
    AllServed config events := by
  intro config events
  refine ⟨by decide, downloads_reach_owners 300 4 events ?_ ?_⟩
  · apply forall_split_cons
    · intro owner file _ _ other awaited
      rcases awaited with user | group | message
      · cases user
      · cases group
      · cases message
    · apply forall_split_cons
      · intro owner file wanted
        cases wanted
      · exact forall_split_nil _
  · apply forall_split_cons
    · have asked : requested (reaction config (runEvents config [])
          (.update (.newMessage (photoMessage 7)))).2 = [11] := by decide
      rw [asked]
      intro fileId member
      cases List.mem_singleton.mp member
      exact ⟨photoCompleted, List.mem_singleton_self _, rfl, rfl⟩
    · apply forall_split_cons
      · intro fileId member
        cases member
      · exact forall_split_nil _

/-- Two messages with one photo. The second request takes the place of the
first, and only the second message gets its file. -/
theorem second_request_displaces_first :
    let config := Config.started 300 4
    let events :=
      [.update (.newMessage (photoMessage 7)), .update (.newMessage (photoMessage 8)),
        photoCompleted]
    AllCompleted config events ∧
    (runEvents config events).log =
      [.send .getOption none,
        .hand (.privateMessage (buildPrivateMessage (photoMessage 7))), downloadFile 11,
        .hand (.privateMessage (buildPrivateMessage (photoMessage 8))), downloadFile 11,
        .hand (.messageFile ⟨5, 8, false, "photos/11.jpg", "", 0, "photo", ""⟩)] ∧
    ¬ AllServed config events := by
  intro config events
  refine ⟨?_, by decide, ?_⟩
  · have asked : ∀ before ∈ [[], [.update (.newMessage (photoMessage 7))]],
        ∀ messageId ∈ [7, 8],
          requested (reaction config (runEvents config before)
            (.update (.newMessage (photoMessage messageId)))).2 = [11] := by decide
    apply forall_split_cons
    · rw [asked [] (by simp) 7 (by simp)]
      intro fileId member
      cases List.mem_singleton.mp member
      exact ⟨photoCompleted, by simp, rfl, rfl⟩
    · apply forall_split_cons
      · rw [asked [_] (by simp) 8 (by simp)]
        intro fileId member
        cases List.mem_singleton.mp member
        exact ⟨photoCompleted, by simp, rfl, rfl⟩
      · apply forall_split_cons
        · intro fileId member
          cases member
        · exact forall_split_nil _
  · intro all
    obtain ⟨action, member, serving⟩ :=
      all [] _ _ rfl (.message 5 7 false) { id := 11 } (by decide)
    have actions : posted config Impl.initial events =
        [.hand (.privateMessage (buildPrivateMessage (photoMessage 7))), downloadFile 11,
          .hand (.privateMessage (buildPrivateMessage (photoMessage 8))), downloadFile 11,
          .hand (.messageFile ⟨5, 8, false, "photos/11.jpg", "", 0, "photo", ""⟩)] := by decide
    change action ∈ posted config Impl.initial events at member
    rw [actions] at member
    simp only [List.mem_cons, List.not_mem_nil, or_false] at member
    rcases member with rfl | rfl | rfl | rfl | rfl <;> cases serving

end TgLoggerd

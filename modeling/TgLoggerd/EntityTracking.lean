import TgLoggerd.Reactions

/-!
What the wrapper knows about the users and groups it has handed over. Its
caches hold exactly those entities, and every function keeps it so: a cached
entity is handed over again whenever something refers to it, an unknown one is
only asked for, and becomes cached when the answer is handed over.
-/

namespace TgLoggerd

open Function

/-- A row of users or of groups. -/
inductive Entity where
  | user (userId : Int)
  | group (chatId : Int)
  deriving DecidableEq, Repr

/-- The entity whose upsert a call asks for. -/
def Call.entity : Call → Option Entity
  | .user u => some (.user u.id)
  | .group g => some (.group g.id)
  | _ => none

def Handed (log : List Action) (entity : Entity) : Prop :=
  ∃ call, .hand call ∈ log ∧ call.entity = some entity

def Cached (caches : Caches) : Entity → Prop
  | .user userId => (caches.users userId).isSome
  | .group chatId => (caches.chatToGroup chatId).isSome

/-- The foreign keys of a private_messages row. -/
def privateRefs (pm : PrivateMessage) : List Entity :=
  .user pm.chatId :: (pm.sender.senderId.map Entity.user).toList

/-- The foreign keys of a group_messages row. -/
def groupRefs (gm : GroupMessage) : List Entity :=
  .group gm.chatId ::
    ((gm.sender.senderUserId.map Entity.user).toList ++
      (gm.sender.senderChatId.map Entity.group).toList)

/-- The foreign key of a *_message_fwd_info row to users. -/
def originRefs (info : Option ForwardInfo) : List Entity :=
  ((info.bind ForwardInfo.originSenderUserId).map Entity.user).toList

def adminRefs (admins : List GroupAdmin) : List Entity :=
  admins.map fun ga => .user ga.userId

/-- The rows a call refers to: those of a forward origin and of administrators
always, those of the message row for a message the reply walk fetched. -/
def references (walk : Bool) : Call → List Entity
  | .privateMessage pm => (if walk then privateRefs pm else []) ++ originRefs pm.forwardInfo
  | .groupMessage gm => (if walk then groupRefs gm else []) ++ originRefs gm.forwardInfo
  | .groupAdmins list => adminRefs list.admins
  | _ => []

/-- The caches know the entities that were handed over, and no others. -/
structure Tracked (caches : Caches) (log : List Action) : Prop where
  keyed : ∀ userId u, caches.users userId = some u → u.id = userId
  seen : ∀ groupId st, caches.groupState groupId = some st → st.chatSeen = true →
    (caches.chatToGroup st.chatId).isSome
  handed : ∀ entity, Cached caches entity ↔ Handed log entity

/-- The actions refer to no row and hand over cached entities only. -/
def Supporting (caches : Caches) (actions : List Action) : Prop :=
  ∀ call, .hand call ∈ actions →
    (∀ walk, references walk call = []) ∧ ∀ entity, call.entity = some entity → Cached caches entity

theorem handed_append (log actions : List Action) (entity : Entity) :
    Handed (log ++ actions) entity ↔ Handed log entity ∨ Handed actions entity := by
  simp only [Handed, List.mem_append, or_and_right, exists_or]

theorem supporting_nil (caches : Caches) : Supporting caches [] := by
  intro call member
  cases member

theorem supporting_append (caches : Caches) (left right : List Action)
    (first : Supporting caches left) (second : Supporting caches right) :
    Supporting caches (left ++ right) := by
  intro call member
  rcases List.mem_append.mp member with here | there
  · exact first call here
  · exact second call there

theorem supporting_of_quiet (caches : Caches) (actions : List Action)
    (silent : actions.all quiet) : Supporting caches actions := by
  intro call member
  have calm := List.all_eq_true.mp silent _ member
  cases call with
  | privateMessage pm => cases calm
  | groupMessage gm => cases calm
  | groupAdmins list => cases calm
  | user u => cases calm
  | group g => cases calm
  | _ => exact ⟨fun _ => rfl, fun entity names => by cases names⟩

theorem supporting_of_entities (caches other : Caches) (actions : List Action)
    (same : other.entities = caches.entities) (supporting : Supporting other actions) :
    Supporting caches actions := by
  have users : other.users = caches.users := congrArg Prod.fst same
  have chats : other.chatToGroup = caches.chatToGroup := congrArg (·.2.2) same
  intro call member
  refine ⟨(supporting call member).1, ?_⟩
  intro entity names
  have known := (supporting call member).2 entity names
  cases entity with
  | user userId => rwa [Cached, users] at known
  | group chatId => rwa [Cached, chats] at known

/-- Supporting actions before a call change nothing about what was handed over. -/
theorem handed_known (caches : Caches) (log before : List Action) (tracked : Tracked caches log)
    (supporting : Supporting caches before) (entity : Entity) :
    Handed (log ++ before) entity ↔ Cached caches entity := by
  rw [handed_append]
  constructor
  · rintro (earlier | ⟨call, member, names⟩)
    · exact (tracked.handed entity).mpr earlier
    · exact (supporting call member).2 entity names
  · intro known
    exact Or.inl ((tracked.handed entity).mp known)

theorem tracked_entities (caches other : Caches) (log : List Action)
    (same : other.entities = caches.entities) (tracked : Tracked caches log) :
    Tracked other log := by
  have users : other.users = caches.users := congrArg Prod.fst same
  have states : other.groupState = caches.groupState := congrArg (·.2.1) same
  have chats : other.chatToGroup = caches.chatToGroup := congrArg (·.2.2) same
  refine ⟨by rw [users]; exact tracked.keyed, by rw [states, chats]; exact tracked.seen, ?_⟩
  intro entity
  rw [← tracked.handed entity]
  cases entity with
  | user userId => rw [Cached, Cached, users]
  | group chatId => rw [Cached, Cached, chats]

section

variable (config : Config) (caches : Caches) (log : List Action)

theorem supporting_emitGroup (tracked : Tracked caches log) (groupId : Int) :
    Supporting caches (emitGroup config caches groupId) := by
  simp only [emitGroup]
  split
  · exact supporting_nil caches
  · rename_i st known
    split
    · rename_i seen
      intro call member
      cases List.mem_singleton.mp member
      refine ⟨fun _ => rfl, ?_⟩
      rintro entity ⟨⟩
      exact tracked.seen groupId st known (Bool.and_eq_true_iff.mp seen).1
    · exact supporting_nil caches

theorem supporting_ensureUser (tracked : Tracked caches log) (userId : Int) :
    Supporting caches (ensureUserSaved config caches userId) := by
  simp only [ensureUserSaved]
  split
  · exact supporting_nil caches
  · split
    · rename_i u known
      intro call member
      cases List.mem_singleton.mp member
      refine ⟨fun _ => rfl, ?_⟩
      rintro entity ⟨⟩
      have same := tracked.keyed userId u known
      change (caches.users u.id).isSome
      rw [same, known]
      rfl
    · exact supporting_of_quiet caches _ rfl

theorem supporting_ensureChat (tracked : Tracked caches log) (chatId : Int) :
    Supporting caches (ensureChatSaved config caches chatId) := by
  simp only [ensureChatSaved]
  split
  · exact supporting_nil caches
  · split
    · exact supporting_nil caches
    · split
      · exact supporting_emitGroup config caches log tracked _
      · exact supporting_of_quiet caches _ rfl

theorem supporting_forward (tracked : Tracked caches log) (info : Option ForwardInfo) :
    Supporting caches (forwardActions config caches info) := by
  cases info with
  | none => exact supporting_nil caches
  | some info =>
      simp only [forwardActions, resolveForwardOrigin]
      apply supporting_append
      · split
        · exact supporting_ensureUser config caches log tracked _
        · exact supporting_nil caches
      · split
        · exact supporting_ensureChat config caches log tracked _
        · exact supporting_nil caches

theorem supporting_entities (tracked : Tracked caches log) (message : TdApi.Message) :
    Supporting caches (ensureMessageEntities config caches message) := by
  simp only [ensureMessageEntities]
  apply supporting_append
  · split
    · exact supporting_ensureUser config caches log tracked _
    · exact supporting_ensureChat config caches log tracked _
  · split
    · exact supporting_ensureUser config caches log tracked _
    · exact supporting_ensureChat config caches log tracked _
    · exact supporting_nil caches

theorem supporting_ensureUsers (tracked : Tracked caches log) (admins : List GroupAdmin) :
    Supporting caches (admins.flatMap fun ga => ensureUserSaved config caches ga.userId) := by
  induction admins with
  | nil => exact supporting_nil caches
  | cons ga rest ih =>
      rw [List.flatMap_cons]
      exact supporting_append caches _ _ (supporting_ensureUser config caches log tracked _) ih

theorem seenState_seen (chat : TdApi.Chat) (groupId : Int) (type : GroupType) :
    (seenState caches chat groupId type).chatSeen = true ∧
      (seenState caches chat groupId type).chatId = chat.id := by
  simp only [seenState]
  split <;> exact ⟨rfl, rfl⟩

end

/-- Actions that hand over one new entity, and known ones besides, keep the
caches tracked once they know the new one. -/
theorem tracked_grown (caches other : Caches) (log actions : List Action) (new : Entity)
    (tracked : Tracked caches log)
    (keyed : ∀ userId u, other.users userId = some u → u.id = userId)
    (seen : ∀ groupId st, other.groupState groupId = some st → st.chatSeen = true →
      (other.chatToGroup st.chatId).isSome)
    (cached : ∀ entity, Cached other entity ↔ entity = new ∨ Cached caches entity)
    (now : Handed actions new)
    (only : ∀ entity, Handed actions entity → entity = new ∨ Cached caches entity) :
    Tracked other (log ++ actions) where
  keyed := keyed
  seen := seen
  handed := by
    intro entity
    rw [cached, handed_append, ← tracked.handed entity]
    constructor
    · rintro (rfl | known)
      · exact Or.inr now
      · exact Or.inl known
    · rintro (known | handed)
      · exact Or.inr known
      · exact only entity handed

theorem tracked_regrouped (caches : Caches) (log : List Action) (groupId : Int) (st : GroupState)
    (tracked : Tracked caches log)
    (kept : st.chatSeen = true → (caches.chatToGroup st.chatId).isSome) :
    Tracked { caches with groupState := update caches.groupState groupId (some st) } log where
  keyed := tracked.keyed
  seen := by
    intro other known found
    by_cases same : other = groupId
    · subst same
      simp only [update_self, Option.some.injEq] at found
      exact found ▸ kept
    · simp only [update_of_ne same] at found
      exact tracked.seen other known found
  handed := by
    intro entity
    rw [← tracked.handed entity]
    cases entity <;> rfl

theorem tracked_saveUser (config : Config) (caches : Caches) (log : List Action)
    (set : config.userHandler = true) (tracked : Tracked caches log) (u : TdApi.User) :
    Tracked (saveUser config caches u).1 (log ++ (saveUser config caches u).2) := by
  have same := spared_profilePhoto config Caches.entities spared_entities caches u
  have users : (maybeDownloadProfilePhoto config caches u).1.users = caches.users :=
    congrArg Prod.fst same
  have states : (maybeDownloadProfilePhoto config caches u).1.groupState = caches.groupState :=
    congrArg (·.2.1) same
  have chats : (maybeDownloadProfilePhoto config caches u).1.chatToGroup = caches.chatToGroup :=
    congrArg (·.2.2) same
  have photo := supporting_of_quiet caches _ (quiet_profilePhoto config caches u)
  simp only [saveUser, set, ↓reduceIte]
  apply tracked_grown caches _ log _ (.user u.id) tracked
  · intro userId known found
    simp only [users] at found
    by_cases own : userId = u.id
    · subst own
      rw [update_self] at found
      exact (Option.some.inj found) ▸ rfl
    · rw [update_of_ne own] at found
      exact tracked.keyed userId known found
  · simp only [states, chats]
    exact tracked.seen
  · intro entity
    cases entity with
    | user userId =>
        simp only [Cached, users, update_apply, Entity.user.injEq]
        by_cases own : userId = u.id <;> simp [own]
    | group chatId => simp [Cached, chats]
  · exact ⟨.user (mapUser u), by simp, rfl⟩
  · rintro entity ⟨call, member, names⟩
    rcases List.mem_append.mp member with own | other
    · cases List.mem_singleton.mp own
      cases names
      exact Or.inl rfl
    · exact Or.inr ((photo call other).2 entity names)

theorem tracked_groupChat (config : Config) (caches : Caches) (log : List Action)
    (set : config.groupHandler = true) (tracked : Tracked caches log) (chat : TdApi.Chat)
    (fromChatList : Bool) (groupId : Int) (type : GroupType) :
    Tracked (handleGroupChat config caches chat fromChatList groupId type).1
      (log ++ (handleGroupChat config caches chat fromChatList groupId type).2) := by
  obtain ⟨rest, actions, silent, same⟩ :=
    actions_groupChat config caches chat fromChatList groupId type
  have state := seenState_seen caches chat groupId type
  have emitted : emitGroup config (seenCaches caches chat groupId type) groupId =
      [.hand (.group
        { id := chat.id
          type := (seenState caches chat groupId type).type
          title := (seenState caches chat groupId type).title
          description := (seenState caches chat groupId type).description
          activeUsernames := (seenState caches chat groupId type).activeUsernames
          disabledUsernames := (seenState caches chat groupId type).disabledUsernames
          collectibleUsernames := (seenState caches chat groupId type).collectibleUsernames })] := by
    simp [emitGroup, seenCaches, set, state.1, state.2]
  apply tracked_entities (seenCaches caches chat groupId type) _ _ same
  rw [actions, emitted]
  apply tracked_grown caches _ log _ (.group chat.id) tracked
  · exact tracked.keyed
  · intro stateId known found chatSeen
    simp only [seenCaches, update_apply] at found ⊢
    by_cases own : stateId = groupId
    · rw [if_pos own] at found
      rw [← Option.some.inj found, state.2]
      simp
    · rw [if_neg own] at found
      -- Another group keeps its chat, whether or not that is the chat just seen.
      split
      · rfl
      · exact tracked.seen stateId known found chatSeen
  · intro entity
    cases entity with
    | user userId => simp [Cached, seenCaches]
    | group chatId =>
        simp only [Cached, seenCaches, update_apply, Entity.group.injEq]
        by_cases own : chatId = chat.id <;> simp [own]
  · exact ⟨_, List.mem_append_left _ (List.mem_singleton.mpr rfl), rfl⟩
  · rintro entity ⟨call, member, names⟩
    rcases List.mem_append.mp member with own | quieter
    · cases List.mem_singleton.mp own
      cases names
      exact Or.inl rfl
    · exact Or.inr ((supporting_of_quiet caches rest silent call quieter).2 entity names)

end TgLoggerd

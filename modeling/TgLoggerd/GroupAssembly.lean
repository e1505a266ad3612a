import TgLoggerd.GroupEvents

/-!
A world of chats and the groups behind them, and what the caches hold of it: for
each group the latest that was delivered, in whatever order it came. Numbers may
be shared between the two kinds of group in the world; `Apart` says that the
events of a run do not use one number for both.
-/

namespace TgLoggerd

open Function SerialRun

/-- Each group has one chat, and each supergroup one kind. -/
structure World where
  behind : Int → Option GroupRef
  isChannel : Int → Bool
  single : ∀ left right ref, behind left = some ref → behind right = some ref → left = right

def World.kind (world : World) : GroupRef → GroupType
  | .basic _ => .basicGroup
  | .supergroup supergroupId => if world.isChannel supergroupId then .channel else .supergroup

/-- A basic group and a supergroup with the same number. -/
def twoChats : World where
  behind chatId :=
    if chatId = -1 then some (.basic 1) else if chatId = -1001 then some (.supergroup 1) else none
  isChannel _ := false
  single := by
    intro left right ref leftBehind rightBehind
    grind

/-- The supergroup an event tells of. -/
def GroupEvent.told : GroupEvent → Option TdApi.Supergroup
  | .supergroup sg => sg
  | _ => none

/-- What Telegram tells agrees with the world. -/
def World.Tells (world : World) (event : GroupEvent) : Prop :=
  (∀ chat ∈ event.chat, chatGroup chat.type = world.behind chat.id ∧
    ∀ ref ∈ chatGroup chat.type, chatKind chat.type = world.kind ref) ∧
  ∀ sg ∈ event.told, sg.isChannel = world.isChannel sg.id

instance (world : World) (event : GroupEvent) : Decidable (world.Tells event) :=
  inferInstanceAs (Decidable (_ ∧ _))

def Used (events : List GroupEvent) (ref : GroupRef) : Prop := ref ∈ events.filterMap GroupEvent.ref

/-- No number is both a basic_group_id and a supergroup_id. -/
def Apart (events : List GroupEvent) : Prop :=
  ∀ left ∈ events.filterMap GroupEvent.ref, ∀ right ∈ events.filterMap GroupEvent.ref,
    left.id = right.id → left = right

instance (events : List GroupEvent) : Decidable (Apart events) :=
  inferInstanceAs (Decidable (∀ left ∈ events.filterMap GroupEvent.ref,
    ∀ right ∈ events.filterMap GroupEvent.ref, left.id = right.id → left = right))

/-- The last of what the events deliver. -/
def latest {Value : Type} (delivers : GroupEvent → Option Value) (events : List GroupEvent) :
    Option Value :=
  (events.filterMap delivers).getLast?

def titleFor (chatId : Int) : GroupEvent → Option String
  | .newChat (some chat) => if chat.id = chatId then some chat.title else none
  | .gotChat chat => if chat.id = chatId then some chat.title else none
  | .chatTitle titled title => if titled = chatId then some title else none
  | _ => none

def descriptionFor : GroupRef → GroupEvent → Option String
  | .basic groupId, .basicGroupFullInfo basicGroupId info =>
      if basicGroupId = groupId then info.map TdApi.BasicGroupFullInfo.description else none
  | .supergroup groupId, .supergroupFullInfo supergroupId info =>
      if supergroupId = groupId then info.map TdApi.SupergroupFullInfo.description else none
  | _, _ => none

def usernamesFor : GroupRef → GroupEvent → Option TdApi.Usernames
  | .supergroup groupId, .supergroup (some sg) =>
      if sg.id = groupId then some (sg.usernames.getD {}) else none
  | _, _ => none

/-- The chat was shown, and as a group's. -/
def Shown (events : List GroupEvent) (chatId : Int) : Prop :=
  ∃ event ∈ events, ∃ chat, event.chat = some chat ∧ chat.id = chatId ∧
    (chatGroup chat.type).isSome

/-- The group as it was last delivered. -/
def expected (world : World) (events : List GroupEvent) (chatId : Int) (ref : GroupRef) :
    Group :=
  let names := (latest (usernamesFor ref) events).getD {}
  { id := chatId
    type := world.kind ref
    title := (latest (titleFor chatId) events).getD ""
    description := (latest (descriptionFor ref) events).getD ""
    activeUsernames := names.activeUsernames
    disabledUsernames := names.disabledUsernames
    collectibleUsernames := names.collectibleUsernames }

theorem latest_snoc {Value : Type} (delivers : GroupEvent → Option Value)
    (events : List GroupEvent) (event : GroupEvent) :
    latest delivers (events ++ [event]) = (delivers event).or (latest delivers events) := by
  rw [latest, List.filterMap_append]
  cases found : delivers event with
  | none => simp [found, latest]
  | some value => simp [found]

theorem latest_silent {Value : Type} (delivers : GroupEvent → Option Value)
    (events : List GroupEvent) (event : GroupEvent) (silent : delivers event = none) :
    latest delivers (events ++ [event]) = latest delivers events := by
  rw [latest_snoc, silent, Option.none_or]

theorem latest_spoken {Value : Type} (delivers : GroupEvent → Option Value)
    (events : List GroupEvent) (event : GroupEvent) (value : Value)
    (spoken : delivers event = some value) :
    latest delivers (events ++ [event]) = some value := by
  rw [latest_snoc, spoken, Option.some_or]

theorem latest_delivered {Value : Type} (delivers : GroupEvent → Option Value)
    (events : List GroupEvent) (value : Value) (last : latest delivers events = some value) :
    ∃ event ∈ events, delivers event = some value :=
  List.mem_filterMap.mp (List.mem_of_getLast? last)

/-- What updateSupergroup says of a number. -/
def infoAt (groupId : Int) : GroupEvent → Option SgInfo
  | .supergroup (some sg) => if sg.id = groupId then some (sgInfo sg) else none
  | _ => none

/-- What a full info of either kind says of a number. -/
def descriptionAt (groupId : Int) (event : GroupEvent) : Option String :=
  event.description.bind fun told => if told.1 = groupId then some told.2 else none

def SgInfo.usernames (info : SgInfo) : TdApi.Usernames :=
  ⟨info.active, info.disabled, info.collectible⟩

def GroupState.usernames (st : GroupState) : TdApi.Usernames :=
  ⟨st.activeUsernames, st.disabledUsernames, st.collectibleUsernames⟩

/-- What the caches hold after the events of a world. -/
structure Mirrors (world : World) (events : List GroupEvent) (caches : Caches)
    (handed : List Group) : Prop where
  infos : ∀ groupId, caches.supergroups groupId = latest (infoAt groupId) events
  described : ∀ groupId,
    (caches.held groupId).description = (latest (descriptionAt groupId) events).getD ""
  known : ∀ chatId groupId, caches.chatToGroup chatId = some groupId →
    ∃ ref, world.behind chatId = some ref ∧ ref.id = groupId ∧ Used events ref
  waiting : ∀ groupId, (∀ chatId, caches.chatToGroup chatId ≠ some groupId) →
    (caches.held groupId).chatSeen = false ∧
      (caches.supergroups groupId = none → (caches.held groupId).usernames = {})
  present : ∀ chatId ref, caches.chatToGroup chatId = some ref.id → world.behind chatId = some ref →
    (caches.held ref.id).chatSeen = true ∧
      (caches.held ref.id).group = expected world events chatId ref ∧
      (handed.filter fun g => g.id = chatId).getLast? = some (expected world events chatId ref)
  shown : ∀ chatId, (caches.chatToGroup chatId).isSome ↔ Shown events chatId
  silent : ∀ chatId, caches.chatToGroup chatId = none → ∀ g ∈ handed, g.id ≠ chatId

theorem mirrors_start (world : World) : Mirrors world [] {} [] where
  infos _ := rfl
  described _ := rfl
  known _ _ known := by cases known
  waiting _ _ := ⟨rfl, fun _ => rfl⟩
  present _ _ known := by cases known
  shown chatId := by simp [Shown]
  silent _ _ _ member := by cases member

theorem apart_of_subset (left right : List GroupEvent) (apart : Apart right)
    (within : left ⊆ right) :
    Apart left := by
  intro first firstUsed second secondUsed
  exact apart first (List.filterMap_subset _ within firstUsed) second
    (List.filterMap_subset _ within secondUsed)

theorem used_of_member (events : List GroupEvent) (event : GroupEvent) (ref : GroupRef)
    (member : event ∈ events) (named : event.ref = some ref) : Used events ref :=
  List.mem_filterMap.mpr ⟨event, member, named⟩

theorem latest_congr {Value : Type} (left right : GroupEvent → Option Value)
    (events : List GroupEvent) (same : ∀ event ∈ events, left event = right event) :
    latest left events = latest right events := by
  rw [latest, latest, List.filterMap_congr same]

/-- When numbers are apart, what is told of a number is told of its group. -/
theorem latest_description (events : List GroupEvent) (apart : Apart events) (ref : GroupRef)
    (used : Used events ref) :
    latest (descriptionAt ref.id) events = latest (descriptionFor ref) events := by
  apply latest_congr
  intro event member
  have only (named : GroupRef) (names : event.ref = some named) (same : named.id = ref.id) :
      named = ref :=
    apart named (used_of_member events event named member names) ref used same
  cases event with
  | supergroupFullInfo supergroupId info =>
      have match_ref := only (.supergroup supergroupId) rfl
      cases info with
      | none => cases ref <;> simp [descriptionAt, GroupEvent.description, descriptionFor]
      | some info =>
          cases ref with
          | basic groupId =>
              have differs : supergroupId ≠ groupId := fun same => by cases match_ref same
              simp [descriptionAt, GroupEvent.description, descriptionFor, GroupRef.id, differs]
          | supergroup groupId =>
              by_cases same : supergroupId = groupId <;>
                simp [descriptionAt, GroupEvent.description, descriptionFor, GroupRef.id, same]
  | basicGroupFullInfo basicGroupId info =>
      have match_ref := only (.basic basicGroupId) rfl
      cases info with
      | none => cases ref <;> simp [descriptionAt, GroupEvent.description, descriptionFor]
      | some info =>
          cases ref with
          | basic groupId =>
              by_cases same : basicGroupId = groupId <;>
                simp [descriptionAt, GroupEvent.description, descriptionFor, GroupRef.id, same]
          | supergroup groupId =>
              have differs : basicGroupId ≠ groupId := fun same => by cases match_ref same
              simp [descriptionAt, GroupEvent.description, descriptionFor, GroupRef.id, differs]
  | newChat chat => cases ref <;> rfl
  | gotChat chat => cases ref <;> rfl
  | chatTitle chatId title => cases ref <;> rfl
  | supergroup sg => cases ref <;> rfl

theorem latest_info (events : List GroupEvent) (apart : Apart events) (ref : GroupRef)
    (used : Used events ref) :
    (latest (infoAt ref.id) events).map SgInfo.usernames = latest (usernamesFor ref) events := by
  have mapped : (latest (infoAt ref.id) events).map SgInfo.usernames =
      latest (fun event => (infoAt ref.id event).map SgInfo.usernames) events := by
    rw [latest, latest, ← List.getLast?_map, List.map_filterMap]
  rw [mapped]
  apply latest_congr
  intro event member
  cases event with
  | supergroup sg =>
      cases sg with
      | none => cases ref <;> rfl
      | some sg =>
          cases ref with
          | basic groupId =>
              have differs : sg.id ≠ groupId := by
                intro same
                have clash := apart (.supergroup sg.id) (used_of_member events _ _ member rfl)
                  (.basic groupId) used same
                cases clash
              simp [infoAt, usernamesFor, GroupRef.id, differs]
          | supergroup groupId =>
              by_cases same : sg.id = groupId
              · simp [infoAt, usernamesFor, GroupRef.id, same, SgInfo.usernames, sgInfo]
              · simp [infoAt, usernamesFor, GroupRef.id, same]
  | newChat chat => cases ref <;> rfl
  | gotChat chat => cases ref <;> rfl
  | chatTitle chatId title => cases ref <;> rfl
  | supergroupFullInfo supergroupId info => cases ref <;> rfl
  | basicGroupFullInfo basicGroupId info => cases ref <;> rfl

theorem expected_same (world : World) (events : List GroupEvent) (event : GroupEvent)
    (chatId : Int) (ref : GroupRef) (untitled : titleFor chatId event = none)
    (undescribed : descriptionFor ref event = none) (unnamed : usernamesFor ref event = none) :
    expected world (events ++ [event]) chatId ref = expected world events chatId ref := by
  simp only [expected, latest_silent _ _ _ untitled, latest_silent _ _ _ undescribed,
    latest_silent _ _ _ unnamed]

theorem used_snoc (events : List GroupEvent) (event : GroupEvent) (ref : GroupRef)
    (used : Used events ref) : Used (events ++ [event]) ref := by
  rw [Used, List.filterMap_append]
  exact List.mem_append_left _ used

theorem used_last (events : List GroupEvent) (event : GroupEvent) (ref : GroupRef)
    (named : event.ref = some ref) : Used (events ++ [event]) ref :=
  used_of_member _ event ref (by simp) named

theorem shown_snoc (events : List GroupEvent) (event : GroupEvent) (chatId : Int) :
    Shown (events ++ [event]) chatId ↔ Shown events chatId ∨
      ∃ chat, event.chat = some chat ∧ chat.id = chatId ∧ (chatGroup chat.type).isSome := by
  simp only [Shown, List.mem_append, List.mem_singleton, or_and_right, exists_or, exists_eq_left]

/-- A chat event delivers a title and nothing else. -/
theorem chat_delivers (event : GroupEvent) (chat : TdApi.Chat) (shows : event.chat = some chat) :
    (∀ chatId, titleFor chatId event = if chat.id = chatId then some chat.title else none) ∧
      (∀ ref, descriptionFor ref event = none) ∧ (∀ ref, usernamesFor ref event = none) ∧
      (∀ groupId, infoAt groupId event = none) ∧ (∀ groupId, descriptionAt groupId event = none) ∧
      event.ref = chatGroup chat.type := by
  cases event with
  | newChat delivered =>
      cases shows
      exact ⟨fun _ => rfl, fun ref => by cases ref <;> rfl, fun ref => by cases ref <;> rfl,
        fun _ => rfl, fun _ => rfl, rfl⟩
  | gotChat answered =>
      cases shows
      exact ⟨fun _ => rfl, fun ref => by cases ref <;> rfl, fun ref => by cases ref <;> rfl,
        fun _ => rfl, fun _ => rfl, rfl⟩
  | chatTitle chatId title => cases shows
  | supergroup sg => cases shows
  | supergroupFullInfo supergroupId info => cases shows
  | basicGroupFullInfo basicGroupId info => cases shows

/-- A full info delivers the description of the group it names and nothing else. -/
theorem fullInfo_delivers (event : GroupEvent) (groupId : Int) (description : String)
    (told : event.description = some (groupId, description)) :
    ∃ named : GroupRef, event.ref = some named ∧ named.id = groupId ∧
      (∀ ref, descriptionFor ref event = if ref = named then some description else none) ∧
      (∀ chatId, titleFor chatId event = none) ∧ (∀ ref, usernamesFor ref event = none) ∧
      (∀ other, infoAt other event = none) ∧ event.chat = none := by
  cases event with
  | newChat chat => cases told
  | gotChat chat => cases told
  | chatTitle chatId title => cases told
  | supergroup sg => cases told
  | supergroupFullInfo supergroupId info =>
      cases info with
      | none => cases told
      | some info =>
          cases told
          refine ⟨.supergroup groupId, rfl, rfl, ?_, fun _ => rfl, fun ref => by cases ref <;> rfl,
            fun _ => rfl, rfl⟩
          intro ref
          cases ref with
          | basic other => simp [descriptionFor]
          | supergroup other => simp [descriptionFor, eq_comm]
  | basicGroupFullInfo basicGroupId info =>
      cases info with
      | none => cases told
      | some info =>
          cases told
          refine ⟨.basic groupId, rfl, rfl, ?_, fun _ => rfl, fun ref => by cases ref <;> rfl,
            fun _ => rfl, rfl⟩
          intro ref
          cases ref with
          | basic other => simp [descriptionFor, eq_comm]
          | supergroup other => simp [descriptionFor]

end TgLoggerd

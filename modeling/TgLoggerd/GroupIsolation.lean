import TgLoggerd.GroupConvergence

/-!
Whether an event about one group reaches the data of another. The caches key
both kinds of group by their number alone, so the groups stay apart exactly as
long as the numbers do.
-/

namespace TgLoggerd

open Function SerialRun

/-- The event names the group, or titles its chat. -/
def About (world : World) (event : GroupEvent) (ref : GroupRef) : Prop :=
  event.ref = some ref ∨
    ∃ chatId title, event = .chatTitle chatId title ∧ world.behind chatId = some ref

def Group.usernames (g : Group) : TdApi.Usernames :=
  ⟨g.activeUsernames, g.disabledUsernames, g.collectibleUsernames⟩

/-- The group carries what the events delivered for its chat and for the group
behind it, and the kind of that group. -/
def Faithful (world : World) (events : List GroupEvent) (g : Group) (ref : GroupRef) : Prop :=
  g.type = world.kind ref ∧
    (∃ event ∈ events, titleFor g.id event = some g.title) ∧
    (g.description = "" ∨ ∃ event ∈ events, descriptionFor ref event = some g.description) ∧
    (g.usernames = {} ∨ ∃ event ∈ events, usernamesFor ref event = some g.usernames)

/-- No step hands over a group with foreign data, hands over a group it is not
about, or changes what is held of another group. -/
def GroupsIsolated (config : Config) (world : World) (events : List GroupEvent) : Prop :=
  ∀ before event after, events = before ++ event :: after →
    (∀ g ∈ emissions config (assembled config before) event,
      ∃ ref, world.behind g.id = some ref ∧ About world event ref ∧
        Faithful world (before ++ [event]) g ref) ∧
    ∀ other, Used before other → ¬ About world event other →
      (assembled config (before ++ [event])).groupState other.id =
          (assembled config before).groupState other.id ∧
        (assembled config (before ++ [event])).supergroups other.id =
          (assembled config before).supergroups other.id

/-- An event changes the entries of one number, and hands over at most the group
of the chat under that number. -/
structure TouchesOne (config : Config) (caches : Caches) (event : GroupEvent) : Prop where
  single : (emissions config caches event).length ≤ 1
  elsewhere : ∀ groupId, ¬ Numbered caches event groupId →
    (assemblyStep config caches event).groupState groupId = caches.groupState groupId ∧
      (assemblyStep config caches event).supergroups groupId = caches.supergroups groupId
  owned : ∀ g ∈ emissions config caches event, ∃ groupId, Numbered caches event groupId ∧
    (assemblyStep config caches event).chatToGroup g.id = some groupId

section

variable (interval : Rat) (batch : Nat) (world : World) (events : List GroupEvent)
  (event : GroupEvent) (caches : Caches) (handed : List Group)

theorem numbered_event (ref : GroupRef) (named : event.ref = some ref) (groupId : Int)
    (other : ¬ Numbered caches event groupId) : groupId ≠ ref.id :=
  fun same => other (Or.inl ⟨ref, named, same.symm⟩)

/-- A state of the caches is handed over for the chat it belongs to. -/
theorem shows_own (mirrors : Mirrors world events caches handed) (groupId : Int) (st : GroupState)
    (seen : st.chatSeen = (caches.held groupId).chatSeen)
    (owner : st.chatId = (caches.held groupId).chatId) :
    (shows st).length ≤ 1 ∧ ∀ g ∈ shows st, caches.chatToGroup g.id = some groupId := by
  by_cases marked : st.chatSeen
  · rw [shows, if_pos marked]
    refine ⟨le_refl 1, ?_⟩
    intro g member
    rw [List.mem_singleton.mp member]
    change caches.chatToGroup st.chatId = some groupId
    rw [owner]
    exact seen_known world events caches handed mirrors groupId (seen ▸ marked)
  · rw [shows, if_neg marked]
    exact ⟨Nat.zero_le 1, fun g member => by cases member⟩

theorem touches_ignored
    (reacts : groupReaction (Config.started interval batch) caches event = (caches, [])) :
    TouchesOne (Config.started interval batch) caches event := by
  have step : assemblyStep (Config.started interval batch) caches event = caches :=
    congrArg Prod.fst reacts
  have emits : emissions (Config.started interval batch) caches event = [] :=
    congrArg (fun reaction : Caches × List Action => handedGroups reaction.2) reacts
  refine ⟨by simp [emits], ?_, by simp [emits]⟩
  intro groupId _
  rw [step]
  exact ⟨rfl, rfl⟩

theorem touches_chat (chat : TdApi.Chat) (shown : event.chat = some chat) :
    TouchesOne (Config.started interval batch) caches event := by
  cases group : chatGroup chat.type with
  | none =>
      exact touches_ignored interval batch event caches
        (reaction_otherChat interval batch caches event chat shown group)
  | some ref =>
      obtain ⟨infos, states, chats, emits⟩ :=
        reaction_chat interval batch caches event chat ref shown group
      have named : event.ref = some ref := (chat_delivers event chat shown).2.2.2.2.2.trans group
      refine ⟨by simp [emits], ?_, ?_⟩
      · intro groupId other
        rw [states, infos, update_of_ne (numbered_event event caches ref named groupId other)]
        exact ⟨rfl, rfl⟩
      · intro g member
        rw [emits, List.mem_singleton] at member
        have own : g.id = chat.id := by
          rw [member]
          simp only [seenState, GroupState.group]
          split <;> rfl
        exact ⟨ref.id, Or.inl ⟨ref, named, rfl⟩, by rw [chats, own, update_self]⟩

theorem touches_title (mirrors : Mirrors world events caches handed) (chatId : Int)
    (title : String) :
    TouchesOne (Config.started interval batch) caches (.chatTitle chatId title) := by
  cases known : caches.chatToGroup chatId with
  | none =>
      exact touches_ignored interval batch _ caches
        (reaction_unknownTitle interval batch caches chatId title known)
  | some groupId =>
      obtain ⟨step, emits⟩ := reaction_title interval batch caches chatId groupId title known
      have own := shows_own world events caches handed mirrors groupId
        ((caches.held groupId).entitle title) rfl rfl
      refine ⟨emits ▸ own.1, ?_, ?_⟩
      · intro other differs
        rw [step]
        have apart : other ≠ groupId := by
          rintro rfl
          exact differs (Or.inr ⟨chatId, title, rfl, known⟩)
        exact ⟨by simp [Caches.put, apart], rfl⟩
      · intro g member
        rw [step]
        exact ⟨groupId, Or.inr ⟨chatId, title, rfl, known⟩, own.2 g (emits ▸ member)⟩

theorem touches_supergroup (mirrors : Mirrors world events caches handed) (sg : TdApi.Supergroup) :
    TouchesOne (Config.started interval batch) caches (.supergroup (some sg)) := by
  obtain ⟨step, emits⟩ := reaction_supergroup interval batch caches sg
  have named : GroupEvent.ref (.supergroup (some sg)) = some (.supergroup sg.id) := rfl
  have own (st : GroupState) (held : caches.groupState sg.id = some st) :=
    shows_own world events caches handed mirrors sg.id (st.rename (sgInfo sg))
      (by simp [Caches.held, held, GroupState.rename])
      (by simp [Caches.held, held, GroupState.rename])
  refine ⟨?_, ?_, ?_⟩
  · rw [emits]
    cases held : caches.groupState sg.id with
    | none => exact Nat.zero_le 1
    | some st => exact (own st held).1
  · intro other differs
    have apart : other ≠ sg.id := numbered_event _ caches _ named other differs
    rw [step]
    refine ⟨?_, by simp [apart]⟩
    cases held : caches.groupState sg.id with
    | none => rfl
    | some st => simp [apart]
  · intro g member
    rw [step]
    rw [emits] at member
    cases held : caches.groupState sg.id with
    | none =>
        rw [held] at member
        cases member
    | some st =>
        rw [held] at member
        exact ⟨sg.id, Or.inl ⟨_, named, rfl⟩, (own st held).2 g member⟩

theorem touches_fullInfo (mirrors : Mirrors world events caches handed) (groupId : Int)
    (description : String) (told : event.description = some (groupId, description)) :
    TouchesOne (Config.started interval batch) caches event := by
  obtain ⟨ref, named, number, _⟩ := fullInfo_delivers event groupId description told
  obtain ⟨step, emits⟩ := reaction_fullInfo interval batch caches event groupId description told
  have own := shows_own world events caches handed mirrors groupId
    ((caches.held groupId).describe description) rfl rfl
  refine ⟨emits ▸ own.1, ?_, ?_⟩
  · intro other differs
    rw [step]
    have apart := numbered_event event caches ref named other differs
    rw [number] at apart
    exact ⟨by simp [Caches.put, apart], rfl⟩
  · intro g member
    rw [step]
    exact ⟨groupId, Or.inl ⟨ref, named, number⟩, own.2 g (emits ▸ member)⟩

theorem event_touches (mirrors : Mirrors world events caches handed) :
    TouchesOne (Config.started interval batch) caches event := by
  cases event with
  | newChat chat =>
      cases chat with
      | none => exact touches_ignored interval batch _ caches rfl
      | some chat => exact touches_chat interval batch _ caches chat rfl
  | gotChat chat => exact touches_chat interval batch _ caches chat rfl
  | chatTitle chatId title =>
      exact touches_title interval batch world events caches handed mirrors chatId title
  | supergroup sg =>
      cases sg with
      | none => exact touches_ignored interval batch _ caches rfl
      | some sg => exact touches_supergroup interval batch world events caches handed mirrors sg
  | supergroupFullInfo supergroupId info =>
      cases info with
      | none => exact touches_ignored interval batch _ caches rfl
      | some info =>
          exact touches_fullInfo interval batch world events _ caches handed mirrors supergroupId
            info.description rfl
  | basicGroupFullInfo basicGroupId info =>
      cases info with
      | none => exact touches_ignored interval batch _ caches rfl
      | some info =>
          exact touches_fullInfo interval batch world events _ caches handed mirrors basicGroupId
            info.description rfl

end

theorem latest_isSome {Value : Type} (delivers : GroupEvent → Option Value)
    (events : List GroupEvent) (event : GroupEvent) (member : event ∈ events)
    (spoken : (delivers event).isSome) : (latest delivers events).isSome := by
  rw [latest, List.getLast?_isSome]
  obtain ⟨value, delivered⟩ := Option.isSome_iff_exists.mp spoken
  exact List.ne_nil_of_mem (List.mem_filterMap.mpr ⟨event, member, delivered⟩)

theorem expected_faithful (world : World) (events : List GroupEvent) (chatId : Int)
    (ref : GroupRef) (shown : Shown events chatId) :
    Faithful world events (expected world events chatId ref) ref := by
  refine ⟨rfl, ?_, ?_, ?_⟩
  · obtain ⟨event, member, chat, shows, rfl, _⟩ := shown
    have titled := latest_isSome (titleFor chat.id) events event member
      (by rw [(chat_delivers event chat shows).1, if_pos rfl]; rfl)
    obtain ⟨title, last⟩ := Option.isSome_iff_exists.mp titled
    simp only [expected, last, Option.getD_some]
    exact latest_delivered _ _ _ last
  · cases last : latest (descriptionFor ref) events with
    | none => exact Or.inl (by simp [expected, last])
    | some description =>
        simp only [expected, last, Option.getD_some]
        exact Or.inr (latest_delivered _ _ _ last)
  · cases last : latest (usernamesFor ref) events with
    | none => exact Or.inl (by simp [expected, last, Group.usernames])
    | some names =>
        simp only [expected, last, Option.getD_some]
        exact Or.inr (latest_delivered _ _ _ last)

/-- As long as no number is used for both kinds of group, groups stay apart. -/
theorem groups_isolated (interval : Rat) (batch : Nat) (world : World) (events : List GroupEvent)
    (told : ∀ event ∈ events, world.Tells event) (apart : Apart events) :
    GroupsIsolated (Config.started interval batch) world events := by
  intro before event after split
  have within : before ++ [event] ⊆ events := by
    intro earlier member
    rw [split]
    rcases List.mem_append.mp member with held | last
    · exact List.mem_append_left _ held
    · exact List.mem_append_right _ (List.mem_singleton.mp last ▸ List.mem_cons_self)
  have apartNow := apart_of_subset _ _ apart within
  have toldNow : ∀ earlier ∈ before ++ [event], world.Tells earlier :=
    fun earlier member => told earlier (within member)
  have mirrors := mirrors_run interval batch world before
    (apart_of_subset _ _ apartNow (List.subset_append_left _ _))
    fun earlier member => toldNow earlier (List.mem_append_left _ member)
  have now := mirrors_run interval batch world (before ++ [event]) apartNow toldNow
  have touches := event_touches interval batch world before event _ _ mirrors
  have step : assembled (Config.started interval batch) (before ++ [event]) =
      assemblyStep (Config.started interval batch)
        (assembled (Config.started interval batch) before) event := run_snoc _ _ _ _
  -- The number of an event belongs to one group of the run.
  have about (ref : GroupRef) (used : Used (before ++ [event]) ref)
      (number : Numbered (assembled (Config.started interval batch) before) event ref.id) :
      About world event ref := by
    rcases number with ⟨named, names, same⟩ | ⟨chatId, title, rfl, known⟩
    · have one := apartNow named (used_last before event named names) ref used same
      exact Or.inl (one ▸ names)
    · obtain ⟨titled, behind, same, titledUsed⟩ := mirrors.known chatId ref.id known
      have one := apartNow titled (used_snoc _ _ _ titledUsed) ref used same
      exact Or.inr ⟨chatId, title, rfl, one ▸ behind⟩
  constructor
  · intro g member
    obtain ⟨groupId, number, known⟩ := touches.owned g member
    rw [← step] at known
    obtain ⟨ref, behind, rfl, used⟩ := now.known g.id groupId known
    refine ⟨ref, behind, about ref used number, ?_⟩
    have alone : emissions (Config.started interval batch)
        (assembled (Config.started interval batch) before) event = [g] := by
      obtain ⟨only, single⟩ := List.length_eq_one_iff.mp
        (le_antisymm touches.single (List.length_pos_of_mem member))
      rw [single, List.mem_singleton] at member
      rw [single, member]
    have last := (now.present g.id ref known behind).2.2
    rw [emitted, outputs_snoc] at last
    change ((_ ++ emissions (Config.started interval batch)
      (assembled (Config.started interval batch) before) event).filter _).getLast? = _ at last
    rw [alone, List.filter_append] at last
    have same : g = expected world (before ++ [event]) g.id ref := by simpa using last
    have shown := (now.shown g.id).mp (by rw [known]; rfl)
    have faithful := expected_faithful world (before ++ [event]) g.id ref shown
    rwa [← same] at faithful
  · intro other used foreign
    rw [step]
    apply touches.elsewhere
    intro number
    exact foreign (about other (used_snoc _ _ _ used) number)

/-- Basic group 1 is shown, then supergroup 1 is told of. -/
def familyAndRust : List GroupEvent :=
  [.newChat (some { id := -1, type := some (.basicGroup 1), title := "Family" }),
    .supergroup (some { id := 1, usernames := some { activeUsernames := ["rust"] } })]

theorem groups_isolated_at_numbers_apart :
    GroupsIsolated (Config.started 300 4) twoChats
      [.supergroup (some { id := 1, usernames := some { activeUsernames := ["rust"] } }),
        .newChat (some { id := -1001, type := some (.supergroup 1 false), title := "Rust" }),
        .basicGroupFullInfo 2 (some { description := "cousins" })] :=
  groups_isolated 300 4 twoChats _ (by decide) (by decide)

/-- An updateSupergroup reaches the basic group with the same number. -/
theorem shared_number_leaks :
    (∀ event ∈ familyAndRust, twoChats.Tells event) ∧
      ¬ GroupsIsolated (Config.started 300 4) twoChats familyAndRust := by
  refine ⟨by decide, ?_⟩
  intro isolated
  have leaked := (isolated
    [.newChat (some { id := -1, type := some (.basicGroup 1), title := "Family" })]
    (.supergroup (some { id := 1, usernames := some { activeUsernames := ["rust"] } })) [] rfl).1
    { id := -1, type := .supergroup, title := "Family", activeUsernames := ["rust"] } (by decide)
  obtain ⟨ref, behind, about, _⟩ := leaked
  obtain rfl : GroupRef.basic 1 = ref := Option.some.inj behind
  rcases about with named | ⟨chatId, title, titles, _⟩
  · cases named
  · cases titles

end TgLoggerd

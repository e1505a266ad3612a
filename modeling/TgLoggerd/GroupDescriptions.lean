import TgLoggerd.GroupAssembly
import TgLoggerd.GroupStore

/-!
Group descriptions over process lifetimes. A restart empties the caches and
keeps the tables; within a lifetime every group handed over is upserted, in
order, by the serial queue.
-/

namespace TgLoggerd

open KeyedTable SerialRun

inductive LifeEvent where
  | restart
  | event (event : GroupEvent)
  deriving DecidableEq, Repr

section

variable {Key : Type} [DecidableEq Key]

structure Life (collate : String → Key) where
  caches : Caches
  groups : GroupRows collate

variable {collate : String → Key}

def lifeStep (config : Config) (order : MapOrder) (life : Life collate) :
    LifeEvent → Life collate
  | .restart => { life with caches := {} }
  | .event event =>
      { caches := assemblyStep config life.caches event
        groups := (emissions config life.caches event).foldl (upsertGroup order) life.groups }

def lives (config : Config) (order : MapOrder) (events : List LifeEvent) : Life collate :=
  run (lifeStep config order) ⟨{}, GroupRows.empty⟩ events

def Described (life : Life collate) (chatId : Int) (description : String) : Prop :=
  (life.groups.groups.lookup chatId).map GroupRow.description = some description

def descriptionHistory (life : Life collate) (chatId : Int) : List GroupHistDescription :=
  life.groups.histDescription.filter fun row => row.groupId = chatId

/-- Once stored, the description stays, and no history row is added. -/
def DescriptionKept (collate : String → Key) (config : Config) (order : MapOrder) (chatId : Int)
    (description : String) (events : List LifeEvent) : Prop :=
  ∀ before between after, events = before ++ between ++ after →
    Described (lives config order before : Life collate) chatId description →
    Described (lives config order (before ++ between) : Life collate) chatId description ∧
      descriptionHistory (lives config order (before ++ between) : Life collate) chatId =
        descriptionHistory (lives config order before : Life collate) chatId

/-- The event hands over the group of the chat, from the state under this number. -/
def HandsOver (caches : Caches) (event : GroupEvent) (groupId chatId : Int) : Prop :=
  Numbered caches event groupId ∧
    ((∃ chat, event.chat = some chat ∧ chat.id = chatId) ∨
      event.chat = none ∧ (caches.held groupId).chatSeen = true ∧
        (caches.held groupId).chatId = chatId)

/-- The description is stored, and an event hands the group over: it is the
group's own full info, or the memory of this lifetime has the description. -/
def Recalls (ref : GroupRef) (chatId : Int) (description : String) (life : Life collate)
    (event : LifeEvent) : Prop :=
  ∀ delivered, event = .event delivered → Described life chatId description →
    ∀ groupId, HandsOver life.caches delivered groupId chatId →
      (descriptionFor ref delivered).isSome ∨
        delivered.description = none ∧ (life.caches.held groupId).description = description

theorem shows_member (st : GroupState) (g : Group) (member : g ∈ shows st) :
    st.chatSeen = true ∧ g = st.group := by
  by_cases marked : st.chatSeen
  · rw [shows, if_pos marked, List.mem_singleton] at member
    exact ⟨marked, member⟩
  · rw [shows, if_neg marked] at member
    cases member

/-- What a group is handed over with: the description of a full info, or else
the one in memory. -/
def Source (caches : Caches) (event : GroupEvent) (g : Group) : Prop :=
  ∃ groupId, HandsOver caches event groupId g.id ∧
    ((∃ description, event.description = some (groupId, description) ∧
        g.description = description) ∨
      event.description = none ∧ g.description = (caches.held groupId).description)

section

variable (interval : Rat) (batch : Nat) (caches : Caches) (event : GroupEvent) (g : Group)

theorem source_chat (chat : TdApi.Chat) (ref : GroupRef) (shown : event.chat = some chat)
    (group : chatGroup chat.type = some ref)
    (member : g ∈ emissions (Config.started interval batch) caches event) :
    Source caches event g := by
  have emits := (reaction_chat interval batch caches event chat ref shown group).2.2.2
  have named : event.ref = some ref := (chat_delivers event chat shown).2.2.2.2.2.trans group
  have untold : event.description = none := by
    cases event with
    | newChat delivered => rfl
    | gotChat answered => rfl
    | chatTitle chatId title => cases shown
    | supergroup sg => cases shown
    | supergroupFullInfo supergroupId info => cases shown
    | basicGroupFullInfo basicGroupId info => cases shown
  rw [emits, List.mem_singleton] at member
  have own : g.id = chat.id ∧ g.description = (caches.held ref.id).description := by
    rw [member]
    simp only [seenState, GroupState.group]
    split <;> exact ⟨rfl, rfl⟩
  exact ⟨ref.id, ⟨Or.inl ⟨ref, named, rfl⟩, Or.inl ⟨chat, shown, own.1.symm⟩⟩,
    Or.inr ⟨untold, own.2⟩⟩

theorem source_info (groupId : Int) (description : String) (ref : GroupRef)
    (told : event.description = some (groupId, description)) (named : event.ref = some ref)
    (number : ref.id = groupId) (unshown : event.chat = none)
    (member : g ∈ emissions (Config.started interval batch) caches event) :
    Source caches event g := by
  rw [(reaction_fullInfo interval batch caches event groupId description told).2] at member
  obtain ⟨seen, rfl⟩ := shows_member _ g member
  exact ⟨groupId, ⟨Or.inl ⟨ref, named, number⟩, Or.inr ⟨unshown, seen, rfl⟩⟩,
    Or.inl ⟨description, told, rfl⟩⟩

theorem emission_source (member : g ∈ emissions (Config.started interval batch) caches event) :
    Source caches event g := by
  have chatCase (chat : TdApi.Chat) (shown : event.chat = some chat) : Source caches event g := by
    cases group : chatGroup chat.type with
    | some ref => exact source_chat interval batch caches event g chat ref shown group member
    | none =>
        rw [emissions, reaction_otherChat interval batch caches event chat shown group] at member
        cases member
  cases event with
  | newChat chat =>
      cases chat with
      | none => cases member
      | some chat => exact chatCase chat rfl
  | gotChat chat => exact chatCase chat rfl
  | chatTitle chatId title =>
      cases known : caches.chatToGroup chatId with
      | none =>
          rw [emissions, reaction_unknownTitle interval batch caches chatId title known] at member
          cases member
      | some groupId =>
          rw [(reaction_title interval batch caches chatId groupId title known).2] at member
          obtain ⟨seen, rfl⟩ := shows_member _ g member
          exact ⟨groupId, ⟨Or.inr ⟨chatId, title, rfl, known⟩, Or.inr ⟨rfl, seen, rfl⟩⟩,
            Or.inr ⟨rfl, rfl⟩⟩
  | supergroup sg =>
      cases sg with
      | none => cases member
      | some sg =>
          rw [(reaction_supergroup interval batch caches sg).2] at member
          cases held : caches.groupState sg.id with
          | none =>
              rw [held] at member
              cases member
          | some st =>
              rw [held] at member
              obtain ⟨seen, rfl⟩ := shows_member _ g member
              have same : caches.held sg.id = st := by simp [Caches.held, held]
              refine ⟨sg.id, ⟨Or.inl ⟨_, rfl, rfl⟩, Or.inr ⟨rfl, ?_, ?_⟩⟩, Or.inr ⟨rfl, ?_⟩⟩
              · rw [same]
                exact seen
              · rw [same]
                rfl
              · rw [same]
                rfl
  | supergroupFullInfo supergroupId info =>
      cases info with
      | none => cases member
      | some info =>
          exact source_info interval batch caches _ g supergroupId info.description _ rfl rfl rfl
            rfl
            member
  | basicGroupFullInfo basicGroupId info =>
      cases info with
      | none => cases member
      | some info =>
          exact source_info interval batch caches _ g basicGroupId info.description _ rfl rfl rfl
            rfl
            member

end

theorem descriptionFor_told (ref : GroupRef) (event : GroupEvent) (description : String)
    (spoken : descriptionFor ref event = some description) :
    ∃ groupId, event.description = some (groupId, description) := by
  cases event with
  | newChat chat => cases ref <;> cases spoken
  | gotChat chat => cases ref <;> cases spoken
  | chatTitle chatId title => cases ref <;> cases spoken
  | supergroup sg => cases ref <;> cases spoken
  | supergroupFullInfo supergroupId info =>
      cases ref with
      | basic groupId => cases spoken
      | supergroup groupId =>
          simp only [descriptionFor, Option.ite_none_right_eq_some,
            Option.map_eq_some_iff] at spoken
          obtain ⟨rfl, info, rfl, rfl⟩ := spoken
          exact ⟨supergroupId, rfl⟩
  | basicGroupFullInfo basicGroupId info =>
      cases ref with
      | basic groupId =>
          simp only [descriptionFor, Option.ite_none_right_eq_some,
            Option.map_eq_some_iff] at spoken
          obtain ⟨rfl, info, rfl, rfl⟩ := spoken
          exact ⟨basicGroupId, rfl⟩
      | supergroup groupId => cases spoken

/-- Upserts that carry the stored description for the group keep it. -/
theorem upserts_keep (order : MapOrder) (gs : List Group) (rows : GroupRows collate) (chatId : Int)
    (description : String)
    (stored : (rows.groups.lookup chatId).map GroupRow.description = some description)
    (carry : ∀ g ∈ gs, g.id = chatId → g.description = description) :
    ((gs.foldl (upsertGroup order) rows).groups.lookup chatId).map GroupRow.description =
        some description ∧
      (gs.foldl (upsertGroup order) rows).histDescription.filter (fun row => row.groupId = chatId) =
        rows.histDescription.filter fun row => row.groupId = chatId := by
  induction gs generalizing rows with
  | nil => exact ⟨stored, rfl⟩
  | cons g rest ih =>
      obtain ⟨row, found, same⟩ := Option.map_eq_some_iff.mp stored
      have kept : ((upsertGroup order rows g).groups.lookup chatId).map GroupRow.description =
          some description ∧
          (upsertGroup order rows g).histDescription.filter (fun row => row.groupId = chatId) =
            rows.histDescription.filter fun row => row.groupId = chatId := by
        rw [lookup_upsertGroup_any, histDescription_upsertGroup]
        by_cases own : g.id = chatId
        · have carried := carry g List.mem_cons_self own
          subst own
          simp [found, overwriteGroup, carried, same, Recording.entry]
        · rw [if_neg own, found]
          refine ⟨by simp [same], ?_⟩
          simp [own]
      obtain ⟨later, history⟩ := ih (upsertGroup order rows g) kept.1
        fun other member => carry other (List.mem_cons_of_mem _ member)
      exact ⟨later, history.trans kept.2⟩

/-- One step keeps a stored description that it recalls. -/
theorem recalled_step (interval : Rat) (batch : Nat) (order : MapOrder) (ref : GroupRef)
    (chatId : Int) (description : String) (life : Life collate) (event : LifeEvent)
    (own : ∀ delivered told, event = .event delivered →
      descriptionFor ref delivered = some told → told = description)
    (recalls : Recalls ref chatId description life event)
    (stored : Described life chatId description) :
    Described (lifeStep (Config.started interval batch) order life event) chatId description ∧
      descriptionHistory (lifeStep (Config.started interval batch) order life event) chatId =
        descriptionHistory life chatId := by
  cases event with
  | restart => exact ⟨stored, rfl⟩
  | event delivered =>
      apply upserts_keep order _ life.groups chatId description stored
      intro g member same
      obtain ⟨groupId, hands, source⟩ :=
        emission_source interval batch life.caches delivered g member
      rw [same] at hands
      rcases recalls delivered rfl stored groupId hands with spoken | ⟨untold, memory⟩
      · obtain ⟨told, speaks⟩ := Option.isSome_iff_exists.mp spoken
        obtain ⟨number, tells⟩ := descriptionFor_told ref delivered told speaks
        rcases source with ⟨carried, carries, same⟩ | ⟨untold, _⟩
        · rw [tells] at carries
          obtain rfl : told = carried := (Prod.mk.inj (Option.some.inj carries)).2
          exact same.trans (own delivered told rfl speaks)
        · rw [tells] at untold
          cases untold
      · rcases source with ⟨carried, tells, _⟩ | ⟨_, held⟩
        · rw [untold] at tells
          cases tells
        · exact held.trans memory

/-- Over any number of lifetimes, a description that every step recalls is kept
from the moment it is stored. -/
theorem description_kept (interval : Rat) (batch : Nat) (order : MapOrder) (ref : GroupRef)
    (chatId : Int) (description : String) (events : List LifeEvent)
    (own : ∀ delivered told, .event delivered ∈ events →
      descriptionFor ref delivered = some told → told = description)
    (recalls : EveryStep (lifeStep (Config.started interval batch) order)
      (⟨{}, GroupRows.empty⟩ : Life collate) (Recalls ref chatId description) events) :
    DescriptionKept collate (Config.started interval batch) order chatId description events := by
  intro before between
  induction between using List.reverseRecOn with
  | nil =>
      intro after split stored
      rw [List.append_nil]
      exact ⟨stored, rfl⟩
  | append_singleton between event ih =>
      intro after split stored
      have earlier : events = before ++ between ++ (event :: after) := by simp [split]
      obtain ⟨still, history⟩ := ih (event :: after) earlier stored
      have step := recalled_step interval batch order ref chatId description
        (lives (Config.started interval batch) order (before ++ between)) event
        (fun delivered told same => own delivered told (by simp [split, same]))
        (recalls (before ++ between) event after earlier) still
      have next : (lives (Config.started interval batch) order (before ++ (between ++ [event])) :
          Life collate) = lifeStep (Config.started interval batch) order
            (lives (Config.started interval batch) order (before ++ between)) event := by
        rw [← List.append_assoc, lives, run_snoc]
        rfl
      rw [next]
      exact ⟨step.1, step.2.trans history⟩

end

def rustChat : GroupEvent :=
  .newChat (some { id := -1001, type := some (.supergroup 1 false), title := "Rust" })

def rustAbout : GroupEvent := .supergroupFullInfo 1 (some { description := "about" })

theorem description_kept_at_title :
    DescriptionKept foldCase (Config.started 300 4) insertionOrder (-1001) "about"
      [.event rustChat, .event rustAbout, .event (.chatTitle (-1001) "Rust 2")] := by
  apply description_kept 300 4 insertionOrder (.supergroup 1)
  · intro delivered told member
    simp only [List.mem_cons, LifeEvent.event.injEq, List.not_mem_nil, or_false] at member
    rcases member with rfl | rfl | rfl
    · intro spoken
      cases spoken
    · intro spoken
      cases spoken
      rfl
    · intro spoken
      cases spoken
  · have first : Recalls (.supergroup 1) (-1001) "about"
        (⟨{}, GroupRows.empty⟩ : Life foldCase) (.event rustChat) := by
      intro delivered _ stored
      cases stored
    have second : Recalls (.supergroup 1) (-1001) "about"
        (lives (Config.started 300 4) insertionOrder [.event rustChat] : Life foldCase)
        (.event rustAbout) := by
      intro delivered same _ groupId _
      cases same
      exact Or.inl rfl
    have third : Recalls (.supergroup 1) (-1001) "about"
        (lives (Config.started 300 4) insertionOrder [.event rustChat, .event rustAbout] :
          Life foldCase) (.event (.chatTitle (-1001) "Rust 2")) := by
      intro delivered same _ groupId hands
      cases same
      rcases hands.1 with ⟨ref, named, _⟩ | ⟨chatId, title, titles, known⟩
      · cases named
      · cases titles
        obtain rfl : (1 : Int) = groupId := Option.some.inj known
        exact Or.inr ⟨rfl, by decide⟩
    exact forall_split_cons _ _ _ first
      (forall_split_cons _ _ _ second (forall_split_cons _ _ _ third (forall_split_nil _)))

/-- The chat is shown again after a restart, before its full info. -/
def forgetful : List LifeEvent := [.event rustChat, .event rustAbout, .restart, .event rustChat]

theorem restart_drops_description :
    (∀ delivered told, .event delivered ∈ forgetful →
      descriptionFor (.supergroup 1) delivered = some told → told = "about") ∧
      ¬ DescriptionKept foldCase (Config.started 300 4) insertionOrder (-1001) "about"
        forgetful := by
  constructor
  · intro delivered told member
    simp only [forgetful, List.mem_cons, LifeEvent.event.injEq, reduceCtorEq, List.not_mem_nil,
      or_false, false_or] at member
    rcases member with rfl | rfl | rfl
    · intro spoken
      cases spoken
    · intro spoken
      cases spoken
      rfl
    · intro spoken
      cases spoken
  · intro kept
    have stays := (kept [.event rustChat, .event rustAbout] [.restart, .event rustChat] [] rfl
      (by unfold Described; decide)).1
    revert stays
    unfold Described
    decide

end TgLoggerd

import TgLoggerd.GroupAssembly

/-!
Each event of a world keeps the caches a mirror of what was delivered, so a
group that was shown stands as it was last delivered, in every order of events.
-/

namespace TgLoggerd

open Function SerialRun

section

variable (interval : Rat) (batch : Nat) (world : World) (events : List GroupEvent)
  (event : GroupEvent) (caches : Caches) (handed : List Group)

/-- An event that neither changes a cache nor delivers anything of a group. -/
theorem mirrors_ignored (mirrors : Mirrors world events caches handed)
    (reacts : groupReaction (Config.started interval batch) caches event = (caches, []))
    (uninformed : ∀ groupId, infoAt groupId event = none)
    (undescribed : ∀ groupId, descriptionAt groupId event = none)
    (same : ∀ chatId ref, caches.chatToGroup chatId = some ref.id → world.behind chatId = some ref →
      expected world (events ++ [event]) chatId ref = expected world events chatId ref)
    (unshown : ∀ chat, event.chat = some chat → chatGroup chat.type = none) :
    Mirrors world (events ++ [event]) (assemblyStep (Config.started interval batch) caches event)
      (handed ++ emissions (Config.started interval batch) caches event) := by
  rw [assemblyStep, emissions, reacts, handedGroups, List.filterMap_nil, List.append_nil]
  refine ⟨?_, ?_, ?_, mirrors.waiting, ?_, ?_, mirrors.silent⟩
  · intro groupId
    rw [latest_silent _ _ _ (uninformed groupId), mirrors.infos]
  · intro groupId
    rw [latest_silent _ _ _ (undescribed groupId), mirrors.described]
  · intro chatId groupId known
    obtain ⟨ref, behind, number, used⟩ := mirrors.known chatId groupId known
    exact ⟨ref, behind, number, used_snoc events event ref used⟩
  · intro chatId ref known behind
    rw [same chatId ref known behind]
    exact mirrors.present chatId ref known behind
  · intro chatId
    rw [mirrors.shown, shown_snoc]
    constructor
    · exact Or.inl
    · rintro (earlier | ⟨chat, shows, _, group⟩)
      · exact earlier
      · simp [unshown chat shows] at group

/-- A state that was seen belongs to a known chat. -/
theorem seen_known (mirrors : Mirrors world events caches handed) (groupId : Int)
    (seen : (caches.held groupId).chatSeen = true) :
    caches.chatToGroup (caches.held groupId).chatId = some groupId := by
  by_contra unknown
  have none_known : ∀ chatId, caches.chatToGroup chatId ≠ some groupId := by
    intro chatId known
    obtain ⟨ref, behind, rfl, _⟩ := mirrors.known chatId groupId known
    have own := congrArg Group.id (mirrors.present chatId ref known behind).2.1
    change (caches.held ref.id).chatId = chatId at own
    exact unknown (own ▸ known)
  have unseen := (mirrors.waiting groupId none_known).1
  rw [seen] at unseen
  cases unseen

theorem filter_last_other (chatId : Int) (st : GroupState) (other : st.chatId ≠ chatId) :
    ((handed ++ [st.group]).filter fun g => g.id = chatId) =
      handed.filter fun g => g.id = chatId := by
  simp [GroupState.group, other]

theorem filter_last_own (st : GroupState) :
    (((handed ++ [st.group]).filter fun g => g.id = st.chatId)).getLast? = some st.group := by
  simp [GroupState.group]

/-- An event that changes the state of one number and shows it. -/
theorem mirrors_touched (mirrors : Mirrors world events caches handed)
    (after : Caches) (groupId : Int)
    (chats : after.chatToGroup = caches.chatToGroup)
    (others : ∀ other, other ≠ groupId → after.held other = caches.held other)
    (seen : (after.held groupId).chatSeen = (caches.held groupId).chatSeen)
    (owner : (after.held groupId).chatId = (caches.held groupId).chatId)
    (infos : ∀ number, after.supergroups number = latest (infoAt number) (events ++ [event]))
    (described : ∀ number, (after.held number).description =
      (latest (descriptionAt number) (events ++ [event])).getD "")
    (kept : ∀ number, after.supergroups number = none → caches.supergroups number = none)
    (unnamed : after.supergroups groupId = none →
      (after.held groupId).usernames = (caches.held groupId).usernames)
    (group : ∀ chatId ref, ref.id = groupId → Used events ref →
      (caches.held groupId).chatSeen = true →
      (caches.held groupId).group = expected world events chatId ref →
      (after.held groupId).group = expected world (events ++ [event]) chatId ref)
    (same : ∀ chatId ref, caches.chatToGroup chatId = some ref.id → ref.id ≠ groupId →
      expected world (events ++ [event]) chatId ref = expected world events chatId ref)
    (unshown : event.chat = none) :
    Mirrors world (events ++ [event]) after (handed ++ shows (after.held groupId)) := by
  have shows_known : ∀ g ∈ shows (after.held groupId), caches.chatToGroup g.id = some groupId := by
    intro g member
    by_cases marked : (after.held groupId).chatSeen
    · rw [shows, if_pos marked, List.mem_singleton] at member
      rw [member]
      change caches.chatToGroup (after.held groupId).chatId = some groupId
      rw [owner]
      exact seen_known world events caches handed mirrors groupId (seen ▸ marked)
    · rw [shows, if_neg marked] at member
      cases member
  refine ⟨infos, described, ?_, ?_, ?_, ?_, ?_⟩
  · intro chatId number known
    rw [chats] at known
    obtain ⟨ref, behind, numbered, used⟩ := mirrors.known chatId number known
    exact ⟨ref, behind, numbered, used_snoc events event ref used⟩
  · intro number unknown
    rw [chats] at unknown
    have before := mirrors.waiting number unknown
    by_cases touched : number = groupId
    · subst touched
      exact ⟨seen.trans before.1, fun none => (unnamed none).trans (before.2 (kept number none))⟩
    · rw [others number touched]
      exact ⟨before.1, fun none => before.2 (kept number none)⟩
  · intro chatId ref known behind
    rw [chats] at known
    have before := mirrors.present chatId ref known behind
    by_cases touched : ref.id = groupId
    · obtain ⟨named, namedBehind, _, used⟩ := mirrors.known chatId ref.id known
      obtain rfl : named = ref := Option.some.inj (namedBehind.symm.trans behind)
      rw [touched] at before ⊢
      have now := group chatId named touched used before.1 before.2.1
      have marked : (after.held groupId).chatSeen = true := seen.trans before.1
      refine ⟨marked, now, ?_⟩
      have own : (after.held groupId).chatId = chatId := congrArg Group.id now
      rw [shows, if_pos marked, ← own, filter_last_own, now, own]
    · rw [others ref.id touched, same chatId ref known touched]
      refine ⟨before.1, before.2.1, ?_⟩
      rw [List.filter_append, ← before.2.2]
      have nothing : (shows (after.held groupId)).filter (fun g => g.id = chatId) = [] := by
        rw [List.filter_eq_nil_iff]
        intro g member hit
        have own : g.id = chatId := by simpa using hit
        have number := shows_known g member
        rw [own, known, Option.some.injEq] at number
        exact touched number
      rw [nothing, List.append_nil]
  · intro chatId
    rw [chats, mirrors.shown, shown_snoc]
    simp [unshown]
  · intro chatId unknown g member
    rw [chats] at unknown
    rcases List.mem_append.mp member with earlier | fresh
    · exact mirrors.silent chatId unknown g earlier
    · intro own
      have known := shows_known g fresh
      rw [own, unknown] at known
      cases known

theorem mirrors_title (mirrors : Mirrors world events caches handed)
    (chatId : Int) (title : String) :
    Mirrors world (events ++ [.chatTitle chatId title])
      (assemblyStep (Config.started interval batch) caches (.chatTitle chatId title))
      (handed ++ emissions (Config.started interval batch) caches (.chatTitle chatId title)) := by
  have untitled (other : Int) (differs : chatId ≠ other) :
      titleFor other (.chatTitle chatId title) = none := by
    simp [titleFor, differs]
  have undescribed (ref : GroupRef) : descriptionFor ref (.chatTitle chatId title) = none := by
    cases ref <;> rfl
  have unnamed (ref : GroupRef) : usernamesFor ref (.chatTitle chatId title) = none := by
    cases ref <;> rfl
  cases known : caches.chatToGroup chatId with
  | none =>
      apply mirrors_ignored interval batch world events _ caches handed mirrors
        (reaction_unknownTitle interval batch caches chatId title known) (fun _ => rfl)
        (fun _ => rfl)
      · intro other ref otherKnown behind
        apply expected_same _ _ _ _ _ (untitled other _) (undescribed ref) (unnamed ref)
        rintro rfl
        rw [known] at otherKnown
        cases otherKnown
      · intro chat shown
        cases shown
  | some groupId =>
      obtain ⟨step, emits⟩ := reaction_title interval batch caches chatId groupId title known
      have now := held_put caches groupId groupId ((caches.held groupId).entitle title)
      rw [if_pos rfl] at now
      rw [step, emits, ← congrArg shows now]
      apply mirrors_touched world events (.chatTitle chatId title) caches handed mirrors _ groupId
        (by rfl)
      · intro other differs
        rw [held_put, if_neg differs]
      · rw [now]
        rfl
      · rw [now]
        rfl
      · intro number
        rw [latest_silent _ _ _ rfl]
        exact mirrors.infos number
      · intro number
        rw [latest_silent _ _ _ rfl, ← mirrors.described number, held_put]
        split
        · next same =>
            subst same
            rfl
        · rfl
      · exact fun _ none => none
      · intro _
        rw [now]
        rfl
      · intro other ref number used _ before
        obtain ⟨named, behind, numbered, namedUsed⟩ := mirrors.known chatId groupId known
        have own := congrArg Group.id (mirrors.present chatId named (numbered ▸ known) behind).2.1
        have same : chatId = other := by
          rw [numbered] at own
          exact own.symm.trans (congrArg Group.id before)
        subst same
        rw [now]
        have entitled : ((caches.held groupId).entitle title).group =
            { (caches.held groupId).group with title := title } := rfl
        rw [entitled, before]
        simp only [expected, latest_silent _ _ _ (undescribed ref),
          latest_silent _ _ _ (unnamed ref)]
        rw [latest_spoken _ _ _ title (by simp [titleFor])]
        rfl
      · intro other ref otherKnown differs
        apply expected_same _ _ _ _ _ (untitled other _) (undescribed ref) (unnamed ref)
        rintro rfl
        rw [known] at otherKnown
        exact differs (Option.some.inj otherKnown).symm
      · rfl

theorem mirrors_fullInfo (apart : Apart (events ++ [event]))
    (mirrors : Mirrors world events caches handed) (groupId : Int) (description : String)
    (told : event.description = some (groupId, description)) :
    Mirrors world (events ++ [event])
      (assemblyStep (Config.started interval batch) caches event)
      (handed ++ emissions (Config.started interval batch) caches event) := by
  obtain ⟨named, names, number, spoken, untitled, unnamed, uninformed, unshown⟩ :=
    fullInfo_delivers event groupId description told
  obtain ⟨step, emits⟩ := reaction_fullInfo interval batch caches event groupId description told
  have now := held_put caches groupId groupId ((caches.held groupId).describe description)
  rw [if_pos rfl] at now
  rw [step, emits, ← congrArg shows now]
  apply mirrors_touched world events event caches handed mirrors _ groupId (by rfl)
  · intro other differs
    rw [held_put, if_neg differs]
  · rw [now]
    rfl
  · rw [now]
    rfl
  · intro other
    rw [latest_silent _ _ _ (uninformed other)]
    exact mirrors.infos other
  · intro other
    rw [held_put]
    by_cases same : other = groupId
    · rw [if_pos same, latest_spoken _ _ _ description (by simp [descriptionAt, told, same])]
      rfl
    · rw [if_neg same, latest_silent _ _ _ (by simp [descriptionAt, told, Ne.symm same])]
      exact mirrors.described other
  · exact fun _ none => none
  · intro _
    rw [now]
    rfl
  · intro chatId ref numbered used _ before
    have same : ref = named := apart ref (used_snoc events event ref used) named
      (used_last events event named names) (numbered.trans number.symm)
    rw [now]
    have describes : ((caches.held groupId).describe description).group =
        { (caches.held groupId).group with description := description } := rfl
    rw [describes, before]
    simp only [expected, latest_silent _ _ _ (untitled chatId), latest_silent _ _ _ (unnamed ref)]
    rw [latest_spoken _ _ _ description (by rw [spoken, if_pos same])]
    rfl
  · intro chatId ref _ differs
    apply expected_same _ _ _ _ _ (untitled chatId) _ (unnamed ref)
    rw [spoken, if_neg]
    rintro rfl
    exact differs number
  · exact unshown

theorem mirrors_supergroup (sg : TdApi.Supergroup)
    (apart : Apart (events ++ [.supergroup (some sg)]))
    (tells : world.Tells (.supergroup (some sg)))
    (mirrors : Mirrors world events caches handed) :
    Mirrors world (events ++ [.supergroup (some sg)])
      (assemblyStep (Config.started interval batch) caches (.supergroup (some sg)))
      (handed ++ emissions (Config.started interval batch) caches (.supergroup (some sg))) := by
  obtain ⟨step, emits⟩ := reaction_supergroup interval batch caches sg
  have renamed : (assemblyStep (Config.started interval batch) caches (.supergroup (some sg))).held
      sg.id = (caches.groupState sg.id).elim {} fun st => st.rename (sgInfo sg) := by
    rw [step, Caches.held]
    cases held : caches.groupState sg.id with
    | none => simp [held]
    | some st => simp
  have elsewhere (other : Int) (differs : other ≠ sg.id) :
      (assemblyStep (Config.started interval batch) caches (.supergroup (some sg))).held other =
        caches.held other := by
    rw [step, Caches.held, Caches.held]
    cases held : caches.groupState sg.id with
    | none => rfl
    | some st => simp [differs]
  have shown : emissions (Config.started interval batch) caches (.supergroup (some sg)) =
      shows ((assemblyStep (Config.started interval batch) caches (.supergroup (some sg))).held
        sg.id) := by
    rw [emits, renamed]
    cases caches.groupState sg.id <;> rfl
  have undescribed (ref : GroupRef) : descriptionFor ref (.supergroup (some sg)) = none := by
    cases ref <;> rfl
  have held_id : (caches.held sg.id) = ((caches.groupState sg.id).getD {}) := rfl
  rw [shown]
  apply mirrors_touched world events _ caches handed mirrors _ sg.id (by rw [step])
  · exact elsewhere
  · rw [renamed, held_id]
    cases caches.groupState sg.id <;> rfl
  · rw [renamed, held_id]
    cases caches.groupState sg.id <;> rfl
  · intro number
    rw [step, latest_snoc]
    by_cases same : sg.id = number
    · simp [infoAt, same]
    · simp [infoAt, same, Ne.symm same, mirrors.infos]
  · intro number
    rw [latest_silent _ _ _ rfl, ← mirrors.described number]
    by_cases same : number = sg.id
    · subst same
      rw [renamed, held_id]
      cases caches.groupState sg.id <;> rfl
    · rw [elsewhere number same]
  · intro number absent
    rw [step] at absent
    by_cases same : number = sg.id
    · simp [same] at absent
    · simpa [same] using absent
  · intro absent
    rw [step] at absent
    simp at absent
  · intro chatId ref number used seen before
    have same : ref = .supergroup sg.id := apart ref (used_snoc events _ ref used)
      (.supergroup sg.id) (used_last events (.supergroup (some sg)) _ rfl) number
    subst same
    rw [renamed]
    rw [held_id] at before seen
    simp only [expected, latest_silent _ _ _ (undescribed _)]
    rw [latest_silent (titleFor chatId) _ _ rfl,
      latest_spoken _ _ _ (sg.usernames.getD {}) (by simp [usernamesFor])]
    have kind : world.kind (.supergroup sg.id) =
        if sg.isChannel then .channel else .supergroup := by
      rw [World.kind, tells.2 sg rfl]
    cases held : caches.groupState sg.id with
    | none =>
        rw [held] at seen
        cases seen
    | some st =>
        rw [held, Option.getD_some] at before
        simp only [GroupState.group, expected, Group.mk.injEq] at before
        simp only [GroupState.group, GroupState.rename, Option.getD_some, Group.mk.injEq]
        exact ⟨before.1, kind.symm, before.2.2.1, before.2.2.2.1, rfl, rfl, rfl⟩
  · intro chatId ref known differs
    apply expected_same _ _ _ _ _ rfl (undescribed ref)
    cases ref with
    | basic groupId => rfl
    | supergroup groupId => simpa [usernamesFor] using fun same => differs same.symm
  · rfl

theorem names_latest (apart : Apart events) (told : ∀ earlier ∈ events, world.Tells earlier)
    (ref : GroupRef) (used : Used events ref) (info : SgInfo)
    (last : latest (infoAt ref.id) events = some info) (channel : info.isChannel = true) :
    world.kind ref = .channel := by
  obtain ⟨earlier, member, delivers⟩ := latest_delivered _ _ _ last
  cases earlier with
  | supergroup sg =>
      cases sg with
      | none => cases delivers
      | some sg =>
          simp only [infoAt] at delivers
          split at delivers
          · next number =>
              cases delivers
              have same := apart (.supergroup sg.id) (used_of_member events _ _ member rfl) ref used
                number
              subst same
              rw [World.kind, ← (told _ member).2 sg rfl]
              exact if_pos channel
          · cases delivers
  | newChat chat => cases delivers
  | gotChat chat => cases delivers
  | chatTitle chatId title => cases delivers
  | supergroupFullInfo supergroupId info => cases delivers
  | basicGroupFullInfo basicGroupId info => cases delivers

/-- The state of a shown chat is what was delivered for it and its group. -/
theorem seen_expected (apart : Apart (events ++ [event]))
    (told : ∀ earlier ∈ events ++ [event], world.Tells earlier)
    (mirrors : Mirrors world events caches handed) (chat : TdApi.Chat) (ref : GroupRef)
    (shows : event.chat = some chat) (group : chatGroup chat.type = some ref) :
    (seenState caches chat ref.id (chatKind chat.type)).group =
      expected world (events ++ [event]) chat.id ref := by
  obtain ⟨titled, undescribed, unnamed, uninformed, untold, named⟩ := chat_delivers event chat shows
  have tells := told event (by simp)
  have behind : world.behind chat.id = some ref := (tells.1 chat shows).1.symm.trans group
  have kind : chatKind chat.type = world.kind ref := (tells.1 chat shows).2 ref group
  have used : Used (events ++ [event]) ref := used_last events event ref (named.trans group)
  have description : (caches.held ref.id).description =
      (latest (descriptionFor ref) (events ++ [event])).getD "" := by
    rw [mirrors.described, ← latest_description _ apart ref used, latest_silent _ _ _ (untold _)]
  have info : caches.supergroups ref.id = latest (infoAt ref.id) (events ++ [event]) := by
    rw [mirrors.infos, latest_silent _ _ _ (uninformed _)]
  have usernames := latest_info _ apart ref used
  rw [← info] at usernames
  have title : (latest (titleFor chat.id) (events ++ [event])).getD "" = chat.title := by
    rw [latest_spoken _ _ _ chat.title (by rw [titled, if_pos rfl]), Option.getD_some]
  simp only [seenState, expected, title, ← description, ← usernames]
  cases known : caches.supergroups ref.id with
  | some sg =>
      have channel (isChannel : sg.isChannel = true) : world.kind ref = .channel :=
        names_latest world _ apart told ref used sg (info.symm.trans known) isChannel
      simp only [GroupState.group, Option.map_some, Option.getD_some, SgInfo.usernames,
        Group.mk.injEq, true_and, and_true]
      refine ⟨?_, rfl⟩
      split
      · next isChannel => exact (channel isChannel).symm
      · exact kind
  | none =>
      have blank : (caches.held ref.id).usernames = {} := by
        by_cases waiting : ∀ chatId, caches.chatToGroup chatId ≠ some ref.id
        · exact (mirrors.waiting ref.id waiting).2 known
        · simp only [ne_eq, not_forall, not_not] at waiting
          obtain ⟨chatId, earlier⟩ := waiting
          obtain ⟨other, otherBehind, number, otherUsed⟩ := mirrors.known chatId ref.id earlier
          have same := apart other (used_snoc _ _ _ otherUsed) ref used number
          subst same
          have present := (mirrors.present chatId other earlier otherBehind).2.1
          have nameless : latest (usernamesFor other) events = none := by
            rw [known, Option.map_none] at usernames
            rw [← latest_silent _ _ _ (unnamed other), ← usernames]
          simp only [GroupState.group, expected, nameless, Group.mk.injEq] at present
          simp [GroupState.usernames, present]
      simp only [GroupState.usernames, TdApi.Usernames.mk.injEq] at blank
      simp only [GroupState.group, Option.map_none, Option.getD_none, Group.mk.injEq, true_and]
      exact ⟨kind, rfl, blank.1, blank.2.1, blank.2.2⟩

theorem mirrors_chat (apart : Apart (events ++ [event]))
    (told : ∀ earlier ∈ events ++ [event], world.Tells earlier)
    (mirrors : Mirrors world events caches handed) (chat : TdApi.Chat) (ref : GroupRef)
    (shows : event.chat = some chat) (group : chatGroup chat.type = some ref) :
    Mirrors world (events ++ [event])
      (assemblyStep (Config.started interval batch) caches event)
      (handed ++ emissions (Config.started interval batch) caches event) := by
  obtain ⟨infos, states, chats, emits⟩ :=
    reaction_chat interval batch caches event chat ref shows group
  obtain ⟨titled, undescribed, unnamed, uninformed, untold, named⟩ := chat_delivers event chat shows
  have behind : world.behind chat.id = some ref :=
    ((told event (by simp)).1 chat shows).1.symm.trans group
  have used : Used (events ++ [event]) ref := used_last events event ref (named.trans group)
  have now := seen_expected world events event caches handed apart told mirrors chat ref shows group
  have marked : (seenState caches chat ref.id (chatKind chat.type)).chatSeen = true := by
    simp only [seenState]
    split <;> rfl
  have own : (seenState caches chat ref.id (chatKind chat.type)).chatId = chat.id :=
    congrArg Group.id now
  have held (other : Int) :
      (assemblyStep (Config.started interval batch) caches event).held other =
        if other = ref.id then seenState caches chat ref.id (chatKind chat.type)
        else caches.held other := by
    rw [Caches.held, states]
    exact held_put caches ref.id other _
  -- The group of another known chat has another number.
  have elsewhere (chatId : Int) (other : GroupRef)
      (known : caches.chatToGroup chatId = some other.id)
      (otherBehind : world.behind chatId = some other) (differs : chatId ≠ chat.id) :
      other.id ≠ ref.id := by
    intro same
    obtain ⟨known_ref, knownBehind, _, otherUsed⟩ := mirrors.known chatId other.id known
    obtain rfl : known_ref = other := Option.some.inj (knownBehind.symm.trans otherBehind)
    have one := apart known_ref (used_snoc _ _ _ otherUsed) ref used same
    exact differs (world.single chatId chat.id ref (one ▸ otherBehind) behind)
  rw [emits]
  refine ⟨?_, ?_, ?_, ?_, ?_, ?_, ?_⟩
  · intro number
    rw [infos, latest_silent _ _ _ (uninformed number), mirrors.infos]
  · intro number
    rw [latest_silent _ _ _ (untold number), ← mirrors.described number, held]
    split
    · next same =>
        subst same
        simp only [seenState]
        split <;> rfl
    · rfl
  · intro chatId number known
    rw [chats] at known
    by_cases same : chatId = chat.id
    · subst same
      rw [update_self, Option.some.injEq] at known
      exact ⟨ref, behind, known, used⟩
    · rw [update_of_ne same] at known
      obtain ⟨other, otherBehind, numbered, otherUsed⟩ := mirrors.known chatId number known
      exact ⟨other, otherBehind, numbered, used_snoc _ _ _ otherUsed⟩
  · intro number unknown
    rw [chats] at unknown
    have differs : number ≠ ref.id := by
      rintro rfl
      exact unknown chat.id (by simp)
    rw [held, if_neg differs, infos]
    apply mirrors.waiting number
    intro chatId known
    by_cases same : chatId = chat.id
    · subst same
      obtain ⟨other, otherBehind, numbered, _⟩ := mirrors.known chat.id number known
      obtain rfl : other = ref := Option.some.inj (otherBehind.symm.trans behind)
      exact differs numbered.symm
    · exact unknown chatId (by rw [update_of_ne same, known])
  · intro chatId other known otherBehind
    rw [chats] at known
    by_cases same : chatId = chat.id
    · subst same
      obtain rfl : other = ref := Option.some.inj (otherBehind.symm.trans behind)
      rw [held, if_pos rfl]
      refine ⟨marked, now, ?_⟩
      rw [← now, ← own, filter_last_own]
    · rw [update_of_ne same] at known
      have differs := elsewhere chatId other known otherBehind same
      rw [held, if_neg differs, expected_same _ _ _ _ _
        ((titled chatId).trans (if_neg (Ne.symm same))) (undescribed other) (unnamed other),
        filter_last_other _ _ _ (own.trans_ne (Ne.symm same))]
      exact mirrors.present chatId other known otherBehind
  · intro chatId
    rw [chats, shown_snoc, ← mirrors.shown]
    by_cases same : chatId = chat.id
    · subst same
      simp [shows, group]
    · simp [same, shows, Ne.symm same]
  · intro chatId unknown g member
    rw [chats] at unknown
    have differs : chatId ≠ chat.id := by
      rintro rfl
      simp at unknown
    rw [update_of_ne differs] at unknown
    rcases List.mem_append.mp member with earlier | fresh
    · exact mirrors.silent chatId unknown g earlier
    · rw [List.mem_singleton.mp fresh]
      exact own.trans_ne (Ne.symm differs)

/-- One event of the world keeps the caches a mirror of what was delivered. -/
theorem mirrors_step (apart : Apart (events ++ [event]))
    (told : ∀ earlier ∈ events ++ [event], world.Tells earlier)
    (mirrors : Mirrors world events caches handed) :
    Mirrors world (events ++ [event])
      (assemblyStep (Config.started interval batch) caches event)
      (handed ++ emissions (Config.started interval batch) caches event) := by
  have chatCase (chat : TdApi.Chat) (shows : event.chat = some chat) :
      Mirrors world (events ++ [event])
        (assemblyStep (Config.started interval batch) caches event)
        (handed ++ emissions (Config.started interval batch) caches event) := by
    obtain ⟨titled, undescribed, unnamed, uninformed, untold, _⟩ := chat_delivers event chat shows
    cases group : chatGroup chat.type with
    | some ref =>
        exact mirrors_chat interval batch world events event caches handed apart told mirrors chat
          ref shows group
    | none =>
        have behind := ((told event (by simp)).1 chat shows).1.symm.trans group
        apply mirrors_ignored interval batch world events event caches handed mirrors
          (reaction_otherChat interval batch caches event chat shows group) uninformed untold
        · intro chatId ref _ known
          apply expected_same _ _ _ _ _ _ (undescribed ref) (unnamed ref)
          rw [titled, if_neg]
          rintro rfl
          rw [behind] at known
          cases known
        · intro other shown
          obtain rfl : chat = other := Option.some.inj (shows.symm.trans shown)
          exact group
  have ignored (reacts : groupReaction (Config.started interval batch) caches event = (caches, []))
      (uninformed : ∀ groupId, infoAt groupId event = none)
      (undescribed : ∀ groupId, descriptionAt groupId event = none)
      (silent : ∀ chatId ref, titleFor chatId event = none ∧ descriptionFor ref event = none ∧
        usernamesFor ref event = none) (unshown : event.chat = none) :
      Mirrors world (events ++ [event])
        (assemblyStep (Config.started interval batch) caches event)
        (handed ++ emissions (Config.started interval batch) caches event) := by
    apply mirrors_ignored interval batch world events event caches handed mirrors reacts uninformed
      undescribed
    · intro chatId ref _ _
      obtain ⟨untitled, undescribed, unnamed⟩ := silent chatId ref
      exact expected_same _ _ _ _ _ untitled undescribed unnamed
    · intro chat shown
      rw [unshown] at shown
      cases shown
  cases event with
  | newChat chat =>
      cases chat with
      | some chat => exact chatCase chat rfl
      | none =>
          exact ignored rfl (fun _ => rfl) (fun _ => rfl)
            (fun _ ref => by cases ref <;> exact ⟨rfl, rfl, rfl⟩) rfl
  | gotChat chat => exact chatCase chat rfl
  | chatTitle chatId title =>
      exact mirrors_title interval batch world events caches handed mirrors chatId title
  | supergroup sg =>
      cases sg with
      | some sg =>
          exact mirrors_supergroup interval batch world events caches handed sg apart
            (told _ (by simp)) mirrors
      | none =>
          exact ignored rfl (fun _ => rfl) (fun _ => rfl)
            (fun _ ref => by cases ref <;> exact ⟨rfl, rfl, rfl⟩) rfl
  | supergroupFullInfo supergroupId info =>
      cases info with
      | some info =>
          exact mirrors_fullInfo interval batch world events _ caches handed apart mirrors
            supergroupId info.description rfl
      | none =>
          exact ignored rfl (fun _ => rfl) (fun _ => rfl)
            (fun _ ref => by cases ref <;> simp [titleFor, descriptionFor, usernamesFor]) rfl
  | basicGroupFullInfo basicGroupId info =>
      cases info with
      | some info =>
          exact mirrors_fullInfo interval batch world events _ caches handed apart mirrors
            basicGroupId info.description rfl
      | none =>
          exact ignored rfl (fun _ => rfl) (fun _ => rfl)
            (fun _ ref => by cases ref <;> simp [titleFor, descriptionFor, usernamesFor]) rfl

end

theorem mirrors_run (interval : Rat) (batch : Nat) (world : World) (events : List GroupEvent)
    (apart : Apart events) (told : ∀ event ∈ events, world.Tells event) :
    Mirrors world events (assembled (Config.started interval batch) events)
      (emitted (Config.started interval batch) events) := by
  induction events using List.reverseRecOn with
  | nil => exact mirrors_start world
  | append_singleton events event ih =>
      have before := ih (apart_of_subset _ _ apart (List.subset_append_left _ _))
        (fun earlier member => told earlier (List.mem_append_left _ member))
      rw [assembled, run_snoc, emitted, outputs_snoc]
      exact mirrors_step interval batch world events event _ _ apart told before

/-- The last group handed over for a chat. -/
def lastHanded (config : Config) (events : List GroupEvent) (chatId : Int) : Option Group :=
  ((emitted config events).filter fun g => g.id = chatId).getLast?

/-- Whatever the order of a world's events, a group that was shown stands as it
was last delivered, and one that was not shown is not handed over. -/
theorem groupAssembly_converges (interval : Rat) (batch : Nat) (world : World)
    (events : List GroupEvent) (apart : Apart events) (told : ∀ event ∈ events, world.Tells event)
    (chatId : Int) :
    (Shown events chatId → ∃ ref, world.behind chatId = some ref ∧
      lastHanded (Config.started interval batch) events chatId =
        some (expected world events chatId ref)) ∧
    (¬ Shown events chatId → ∀ g ∈ emitted (Config.started interval batch) events,
      g.id ≠ chatId) := by
  have mirrors := mirrors_run interval batch world events apart told
  constructor
  · intro shown
    obtain ⟨groupId, known⟩ := Option.isSome_iff_exists.mp ((mirrors.shown chatId).mpr shown)
    obtain ⟨ref, behind, rfl, _⟩ := mirrors.known chatId groupId known
    exact ⟨ref, behind, (mirrors.present chatId ref known behind).2.2⟩
  · intro unshown
    apply mirrors.silent chatId
    rw [← Option.not_isSome_iff_eq_none, mirrors.shown]
    exact unshown

/-- Usernames and description come before the chat, a new title after it. -/
def lateChat : List GroupEvent :=
  [.supergroup (some { id := 1, usernames := some { activeUsernames := ["rust"] } }),
    .supergroupFullInfo 1 (some { description := "about" }),
    .newChat (some { id := -1001, type := some (.supergroup 1 false), title := "Old" }),
    .chatTitle (-1001) "Rust"]

theorem groupAssembly_converges_at_late_chat :
    lastHanded (Config.started 300 4) lateChat (-1001) =
      some
        { id := -1001
          type := .supergroup
          title := "Rust"
          description := "about"
          activeUsernames := ["rust"] } := by
  have shown : Shown lateChat (-1001) :=
    ⟨.newChat (some { id := -1001, type := some (.supergroup 1 false), title := "Old" }),
      by decide, _, rfl, rfl, rfl⟩
  obtain ⟨ref, behind, last⟩ :=
    (groupAssembly_converges 300 4 twoChats lateChat (by decide) (by decide) (-1001)).1 shown
  obtain rfl : GroupRef.supergroup 1 = ref := Option.some.inj behind
  rw [last]
  decide

end TgLoggerd

import TgLoggerd.EntityWrites

/-!
The groups whose administrators are polled. A chat of the own chat list enters
the poll set and the queue when the group behind it is first seen; three
permission errors in a row evict it, and the next pass over the queue drops it.
-/

namespace TgLoggerd

open Function SerialRun

/-- The caches that know the polled groups. -/
def Caches.polling (caches : Caches) : Finset Int × List Int :=
  (caches.adminPollSet, caches.adminPollQueue)

def Polled (caches : Caches) (chatId : Int) : Prop :=
  chatId ∈ caches.adminPollSet ∧ chatId ∈ caches.adminPollQueue

instance (caches : Caches) (chatId : Int) : Decidable (Polled caches chatId) :=
  inferInstanceAs (Decidable (_ ∧ _))

/-- An updateNewChat brings the chat of the group with this number. -/
def Brings (event : Event) (chatId groupId : Int) : Prop :=
  ∃ chat, event = .update (.newChat (some chat)) ∧ chat.id = chatId ∧
    (chatGroup chat.type).map GroupRef.id = some groupId

/-- A permission error for the administrators of the chat, the last one of those
that are let pass. -/
def Evicts (impl : Impl) (event : Event) (chatId : Int) : Prop :=
  ∃ requestId code, event = .answer requestId (.error code) ∧
    impl.handlers requestId = some (.groupAdmins chatId) ∧ (code = 400 ∨ code = 403) ∧
    kAdminPollMaxMiss ≤ (impl.caches.adminPollMiss chatId).getD 0 + 1

def Brought (events : List Event) (chatId : Int) : Prop :=
  ∃ event ∈ events, ∃ groupId, Brings event chatId groupId

def Evicted (config : Config) (events : List Event) (chatId : Int) : Prop :=
  ∃ before event after, events = before ++ event :: after ∧
    Evicts (runEvents config before) event chatId

/-- Every group brought by an updateNewChat is polled from then on, unless it
was evicted. -/
def NewChatsPolled (config : Config) (events : List Event) : Prop :=
  ∀ before after, events = before ++ after → ∀ chatId, Brought before chatId →
    Evicted config before chatId ∨ Polled (runEvents config before).caches chatId

/-- Every updateNewChat finds no state under the number of its group, or a chat
that is polled already or was evicted. -/
def FirstSeenByNewChat (config : Config) (events : List Event) : Prop :=
  ∀ before event after, events = before ++ event :: after → ∀ chatId groupId,
    Brings event chatId groupId →
      (runEvents config before).caches.groupState groupId = none ∨
        chatId ∈ (runEvents config before).caches.adminPollSet ∨ Evicted config before chatId

section

variable (config : Config) (caches : Caches)

theorem spared_polling : Spared Caches.polling := fun _ _ _ _ => rfl

/-- Only the first sight of a group in the own chat list adds a chat. -/
theorem polling_groupChat (chat : TdApi.Chat) (fromChatList : Bool) (groupId : Int)
    (type : GroupType) :
    (handleGroupChat config caches chat fromChatList groupId type).1.polling =
      if fromChatList ∧ caches.groupState groupId = none ∧ chat.id ∉ caches.adminPollSet then
        (insert chat.id caches.adminPollSet, caches.adminPollQueue ++ [chat.id])
      else caches.polling := by
  have photo := spared_groupPhoto config Caches.polling spared_polling
    (seenCaches caches chat groupId type) chat.id chat.photo
  have set := congrArg Prod.fst photo
  have queue := congrArg Prod.snd photo
  simp only [Caches.polling, seenCaches] at set queue
  simp only [handleGroupChat, set, Option.isNone_iff_eq_none]
  split
  · simp only [Caches.polling, queue]
  · exact photo

theorem polling_gotChat (chat : TdApi.Chat) :
    (handleNewChat config caches chat false).1.polling = caches.polling := by
  simp only [handleNewChat]
  split
  · simp [polling_groupChat]
  · simp [polling_groupChat]
  · rfl
  · rfl

theorem polling_newChat (chat : TdApi.Chat) (groupId : Int)
    (group : (chatGroup chat.type).map GroupRef.id = some groupId) :
    (handleNewChat config caches chat true).1.polling =
      if caches.groupState groupId = none ∧ chat.id ∉ caches.adminPollSet then
        (insert chat.id caches.adminPollSet, caches.adminPollQueue ++ [chat.id])
      else caches.polling := by
  have added (type : GroupType) := polling_groupChat config caches chat true groupId type
  simp only [true_and] at added
  cases kind : chat.type with
  | none => simp [kind, chatGroup] at group
  | some type =>
      cases type with
      | basicGroup number =>
          simp only [kind, chatGroup, Option.map_some, GroupRef.id, Option.some.injEq] at group
          simp only [handleNewChat, kind, group, added]
      | supergroup number isChannel =>
          simp only [kind, chatGroup, Option.map_some, GroupRef.id, Option.some.injEq] at group
          simp only [handleNewChat, kind, group, added]
      | other => simp [kind, chatGroup] at group

theorem polling_otherChat (chat : TdApi.Chat) (other : chatGroup chat.type = none) :
    (handleNewChat config caches chat true).1.polling = caches.polling := by
  cases kind : chat.type with
  | none => simp only [handleNewChat, kind]
  | some type =>
      cases type with
      | basicGroup number => simp [kind, chatGroup] at other
      | supergroup number isChannel => simp [kind, chatGroup] at other
      | other => simp only [handleNewChat, kind]

/-- A pass over the queue keeps the set, and every member of it in the queue. -/
theorem polling_poll (scan rest : Nat) :
    (pollAdmins config scan rest caches).1.adminPollSet = caches.adminPollSet ∧
      ∀ chatId ∈ caches.adminPollSet, chatId ∈ caches.adminPollQueue →
        chatId ∈ (pollAdmins config scan rest caches).1.adminPollQueue := by
  induction scan generalizing rest caches with
  | zero => exact ⟨rfl, fun _ _ queued => queued⟩
  | succ scan ih =>
      cases rest with
      | zero => exact ⟨rfl, fun _ _ queued => queued⟩
      | succ rest =>
          cases queue : caches.adminPollQueue with
          | nil => simp [pollAdmins, queue]
          | cons first others =>
              by_cases member : first ∈ caches.adminPollSet
              · -- The polled chat goes to the rear.
                have moved (chatId : Int) (queued : chatId ∈ first :: others) :
                    chatId ∈ others ++ [first] := by
                  rcases List.mem_cons.mp queued with rfl | later
                  · simp
                  · exact List.mem_append_left _ later
                have skipped := ih { caches with adminPollQueue := others ++ [first] } (rest + 1)
                have polled := ih { caches with adminPollQueue := others ++ [first] } rest
                simp only [pollAdmins, queue, member, ↓reduceIte]
                split
                · exact ⟨skipped.1, fun chatId inSet queued =>
                    skipped.2 chatId inSet (moved chatId queued)⟩
                · exact ⟨polled.1, fun chatId inSet queued =>
                    polled.2 chatId inSet (moved chatId queued)⟩
              · have dropped := ih { caches with adminPollQueue := others } (rest + 1)
                simp only [pollAdmins, queue, member, ↓reduceIte]
                refine ⟨dropped.1, ?_⟩
                intro chatId inSet queued
                apply dropped.2 chatId inSet
                rcases List.mem_cons.mp queued with rfl | later
                · exact absurd inSet member
                · exact later

end

/-- An alarm answer that starts a pass over the poll queue. -/
def Polls (config : Config) (impl : Impl) (event : Event) : Prop :=
  (∃ requestId object, event = .answer requestId object ∧
    impl.handlers requestId = some .adminAlarm) ∧
  (impl.caches.stopped || impl.caches.closing) = false ∧
  (impl.caches.isAuthorized && config.groupAdminsHandler) = true

/-- What one turn of the event loop writes to the poll set and the poll queue. -/
inductive PollWrite (config : Config) (impl : Impl) (event : Event) (after : Caches) : Prop where
  | nothing (same : after.polling = impl.caches.polling)
  | added (chat : TdApi.Chat) (groupId : Int) (brings : Brings event chat.id groupId)
      (first : impl.caches.groupState groupId = none)
      (absent : chat.id ∉ impl.caches.adminPollSet)
      (known : (after.chatToGroup chat.id) = some groupId ∧ (after.groupState groupId).isSome)
      (same : after.polling =
        (insert chat.id impl.caches.adminPollSet, impl.caches.adminPollQueue ++ [chat.id]))
  | evicted (chatId : Int) (evicts : Evicts impl event chatId)
      (same : after.polling =
        (impl.caches.adminPollSet.erase chatId, impl.caches.adminPollQueue))
  | polled (polls : Polls config impl event)
      (same : after.polling = (pollAdminBatch config impl.caches).1.polling)

section

variable (config : Config) (impl : Impl) (event : Event)

theorem polling_of_newChat (chat : TdApi.Chat) :
    PollWrite config impl (.update (.newChat (some chat)))
      (handleNewChat config impl.caches chat true).1 := by
  cases group : chatGroup chat.type with
  | none => exact .nothing (polling_otherChat config impl.caches chat group)
  | some ref =>
      have named : (chatGroup chat.type).map GroupRef.id = some ref.id := by rw [group]; rfl
      have polling := polling_newChat config impl.caches chat ref.id named
      split at polling
      · next added =>
        refine .added chat ref.id ⟨chat, rfl, rfl, named⟩ added.1 added.2 ?_ polling
        exact known_newChat config impl.caches chat true ref.id named
      · exact .nothing polling

theorem polling_of_alarm (requestId : Nat) (object : TdApi.Object)
    (waiting : impl.handlers requestId = some .adminAlarm) :
    PollWrite config impl (.answer requestId object) (onAdminAlarm config impl.caches).1 := by
  simp only [onAdminAlarm]
  split
  · exact .nothing rfl
  · next alive =>
    split
    · next usable =>
      exact .polled ⟨⟨requestId, object, rfl, waiting⟩, by simpa using alive, usable⟩ rfl
    · exact .nothing rfl

theorem polling_of_miss (requestId : Nat) (code chatId : Int)
    (waiting : impl.handlers requestId = some (.groupAdmins chatId))
    (denied : code = 400 ∨ code = 403) :
    PollWrite config impl (.answer requestId (.error code)) (countMiss impl.caches chatId) := by
  simp only [countMiss]
  split
  · next last => exact .evicted chatId ⟨requestId, code, rfl, waiting, denied, last⟩ rfl
  · exact .nothing rfl

theorem polling_of_update (u : TdApi.Update) :
    PollWrite config impl (.update u) (processUpdate config impl.caches u).1 := by
  by_cases brings : ∃ chat, u = .newChat (some chat)
  · obtain ⟨chat, rfl⟩ := brings
    exact polling_of_newChat config impl chat
  · apply PollWrite.nothing
    apply heard_update config Caches.polling impl.caches spared_polling (fun _ _ _ _ => rfl) u
    · intro state _
      exact aloof_authorization config Caches.polling impl.caches (fun _ _ _ _ => rfl) state
    · intro user _
      exact spared_profilePhoto config Caches.polling spared_polling impl.caches user
    · intro chat same
      exact absurd ⟨chat, same⟩ brings

theorem polling_of_admins (requestId : Nat) (object : TdApi.Object) (chatId : Int)
    (handler : impl.handlers requestId = some (.groupAdmins chatId)) :
    PollWrite config impl (.answer requestId object)
      (resume config impl.caches (.groupAdmins chatId) object).1 := by
  cases object with
  | error code =>
      by_cases denied : code = 400 ∨ code = 403
      · have counted := polling_of_miss config impl requestId code chatId handler denied
        simpa only [resume, denied, ↓reduceIte] using counted
      · refine .nothing ?_
        simp only [resume, denied, ↓reduceIte]
  | _ => exact .nothing rfl

theorem polling_of_answer (requestId : Nat) (object : TdApi.Object) (waiting : Continuation)
    (handler : impl.handlers requestId = some waiting) :
    PollWrite config impl (.answer requestId object)
      (resume config impl.caches waiting object).1 := by
  by_cases alarm : waiting = .adminAlarm
  · subst alarm
    cases object <;> exact polling_of_alarm config impl requestId _ handler
  · by_cases admins : ∃ chatId, waiting = .groupAdmins chatId
    · obtain ⟨chatId, rfl⟩ := admins
      exact polling_of_admins config impl requestId object chatId handler
    · apply PollWrite.nothing
      apply heard_resume config Caches.polling impl.caches spared_polling waiting object
      · rintro reply depth rfl
        exact spared_replied config Caches.polling impl.caches spared_polling (fun _ _ => rfl) reply
          depth object
      · intro user _ _
        exact spared_profilePhoto config Caches.polling spared_polling impl.caches user
      · intro chatId same
        exact absurd ⟨chatId, same⟩ admins
      · intro chat _ _
        exact polling_gotChat config impl.caches chat
      · intro same
        exact absurd same alarm

theorem polling_event : PollWrite config impl event (process config impl event).caches := by
  rw [caches_process]
  cases event with
  | update u => exact polling_of_update config impl u
  | answer requestId object =>
      simp only [reaction]
      cases handler : impl.handlers requestId with
      | none => exact .nothing rfl
      | some waiting => exact polling_of_answer config impl requestId object waiting handler
  | close => exact .nothing rfl

end

/-- The polled groups stay queued, and none leaves the set unless evicted. -/
structure KeepsPolling (impl : Impl) (event : Event) (caches : Caches) : Prop where
  queued : (∀ chatId ∈ impl.caches.adminPollSet, chatId ∈ impl.caches.adminPollQueue) →
    ∀ chatId ∈ caches.adminPollSet, chatId ∈ caches.adminPollQueue
  stays : ∀ chatId ∈ impl.caches.adminPollSet,
    chatId ∈ caches.adminPollSet ∨ Evicts impl event chatId

section

variable (config : Config) (impl : Impl) (event : Event)

theorem keeps_process : KeepsPolling impl event (process config impl event).caches := by
  cases polling_event config impl event with
  | nothing same =>
      simp only [Caches.polling, Prod.mk.injEq] at same
      constructor
      · rw [same.1, same.2]
        exact id
      · rw [same.1]
        exact fun chatId member => Or.inl member
  | added chat groupId brings first absent known same =>
      simp only [Caches.polling, Prod.mk.injEq] at same
      constructor
      · intro subset chatId member
        rw [same.1, Finset.mem_insert] at member
        rw [same.2, List.mem_append, List.mem_singleton]
        exact member.symm.imp_left (subset chatId)
      · intro chatId member
        rw [same.1]
        exact Or.inl (Finset.mem_insert_of_mem member)
  | evicted chatId evicts same =>
      simp only [Caches.polling, Prod.mk.injEq] at same
      constructor
      · intro subset other member
        rw [same.1] at member
        rw [same.2]
        exact subset other (Finset.mem_of_mem_erase member)
      · intro other member
        by_cases own : other = chatId
        · exact Or.inr (own ▸ evicts)
        · rw [same.1]
          exact Or.inl (Finset.mem_erase.mpr ⟨own, member⟩)
  | polled polls same =>
      obtain ⟨set, queue⟩ := polling_poll config impl.caches impl.caches.adminPollQueue.length
        config.adminPollBatch
      simp only [Caches.polling, Prod.mk.injEq, pollAdminBatch, set] at same
      constructor
      · intro subset chatId member
        rw [same.1] at member
        rw [same.2]
        exact queue chatId member (subset chatId member)
      · rw [same.1]
        exact fun chatId member => Or.inl member

/-- An updateNewChat leaves its chat polled exactly if it was so before or its
group is first seen. -/
theorem brings_process (chatId groupId : Int) (brings : Brings event chatId groupId) :
    chatId ∈ (process config impl event).caches.adminPollSet ↔
      impl.caches.groupState groupId = none ∨ chatId ∈ impl.caches.adminPollSet := by
  obtain ⟨chat, rfl, rfl, group⟩ := brings
  have polling := congrArg Prod.fst (polling_newChat config impl.caches chat groupId group)
  rw [caches_process]
  change chat.id ∈ (handleNewChat config impl.caches chat true).1.polling.1 ↔ _
  rw [polling]
  by_cases added : impl.caches.groupState groupId = none ∧ chat.id ∉ impl.caches.adminPollSet
  · simp [added]
  · rw [if_neg added]
    simp only [Caches.polling]
    tauto

theorem brings_never_evicts (chatId groupId other : Int) (brings : Brings event chatId groupId) :
    ¬ Evicts impl event other := by
  obtain ⟨chat, rfl, _⟩ := brings
  rintro ⟨requestId, code, same, _⟩
  cases same

end

theorem queued_run (config : Config) (events : List Event) :
    ∀ chatId ∈ (runEvents config events).caches.adminPollSet,
      chatId ∈ (runEvents config events).caches.adminPollQueue := by
  apply run_invariant (process config) Impl.initial
    (fun impl => ∀ chatId ∈ impl.caches.adminPollSet, chatId ∈ impl.caches.adminPollQueue)
  · intro chatId member
    cases member
  · intro impl event subset
    exact (keeps_process config impl event).queued subset

theorem evicted_snoc (config : Config) (events : List Event) (event : Event) (chatId : Int) :
    Evicted config (events ++ [event]) chatId ↔
      Evicted config events chatId ∨ Evicts (runEvents config events) event chatId :=
  someStep_snoc (process config) Impl.initial (fun impl event => Evicts impl event chatId) events
    event

theorem brought_snoc (events : List Event) (event : Event) (chatId : Int) :
    Brought (events ++ [event]) chatId ↔
      Brought events chatId ∨ ∃ groupId, Brings event chatId groupId := by
  simp [Brought, or_and_right, exists_or]

/-- Exactly the runs in which every updateNewChat comes first keep all their
groups polled. -/
theorem newChats_polled (config : Config) (events : List Event) :
    NewChatsPolled config events ↔ FirstSeenByNewChat config events := by
  constructor
  · intro polled before event after split chatId groupId brings
    rcases polled (before ++ [event]) after (by simp [split]) chatId
        ((brought_snoc before event chatId).mpr (Or.inr ⟨groupId, brings⟩)) with evicted | now
    · rcases (evicted_snoc config before event chatId).mp evicted with earlier | evicts
      · exact Or.inr (Or.inr earlier)
      · exact absurd evicts (brings_never_evicts _ event chatId groupId chatId brings)
    · have member := now.1
      rw [runEvents_snoc, brings_process config _ event chatId groupId brings] at member
      exact member.imp_right Or.inl
  · intro first before
    induction before using List.reverseRecOn with
    | nil =>
        intro after _ chatId brought
        obtain ⟨event, member, _⟩ := brought
        cases member
    | append_singleton before event ih =>
        intro after split chatId brought
        have earlier : events = before ++ event :: after := by simp [split]
        have entered (member : chatId ∈ (process config (runEvents config before)
            event).caches.adminPollSet) :
            Polled (runEvents config (before ++ [event])).caches chatId := by
          rw [← runEvents_snoc] at member
          exact ⟨member, queued_run config _ chatId member⟩
        rw [evicted_snoc]
        rcases (brought_snoc before event chatId).mp brought with old | ⟨groupId, brings⟩
        · rcases ih (event :: after) earlier chatId old with evicted | polled
          · exact Or.inl (Or.inl evicted)
          · rcases (keeps_process config (runEvents config before) event).stays chatId polled.1
              with stays | evicts
            · exact Or.inr (entered stays)
            · exact Or.inl (Or.inr evicts)
        · rcases first before event after earlier chatId groupId brings with unseen | set | evicted
          · exact Or.inr (entered
              ((brings_process config _ event chatId groupId brings).mpr (Or.inl unseen)))
          · exact Or.inr (entered
              ((brings_process config _ event chatId groupId brings).mpr (Or.inr set)))
          · exact Or.inl (Or.inl evicted)

/-- The full info of a supergroup comes before its chat. -/
def aboutFirst : List Event :=
  [.update (.supergroupFullInfo 1 (some { description := "about" })),
    .update (.newChat (some { id := -1001, type := some (.supergroup 1 false), title := "Rust" }))]

theorem full_info_keeps_chat_unpolled :
    ¬ NewChatsPolled (Config.started 300 4) aboutFirst := by
  intro polled
  rcases polled aboutFirst [] (by simp) (-1001)
      ⟨_, List.mem_cons_of_mem _ List.mem_cons_self, 1, _, rfl, rfl, rfl⟩ with evicted | now
  · obtain ⟨before, event, after, split, requestId, code, rfl, _⟩ := evicted
    have member : Event.answer requestId (.error code) ∈ aboutFirst := by
      rw [split]
      simp
    simp [aboutFirst] at member
  · revert now
    decide

end TgLoggerd

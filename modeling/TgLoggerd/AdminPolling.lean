import TgLoggerd.RoundRobin
import TgLoggerd.AdminTracking

/-!
The polling of administrators is a round robin over the poll queue: an alarm
refreshes the first groups of the queue that are still polled and moves them to
the rear. The queue names no chat twice as long as no chat is brought under two
group numbers, so consecutive alarms get round to every polled group.
-/

namespace TgLoggerd

open Function SerialRun

/-- The chat has not been evicted. -/
def Caches.polls (caches : Caches) (chatId : Int) : Bool := decide (chatId ∈ caches.adminPollSet)

/-- The chats a pass over the queue refreshes. -/
def turn (config : Config) (caches : Caches) : List Int :=
  RoundRobin.served caches.polls config.adminPollBatch caches.adminPollQueue

/-- The entries a pass does not look at. -/
def beyond (config : Config) (caches : Caches) : List Int :=
  RoundRobin.unseen caches.polls config.adminPollBatch caches.adminPollQueue

/-- The query whose answer brings the administrators of the chat. -/
def Refreshes (caches : Caches) (chatId : Int) (action : Action) : Prop :=
  ∃ groupId st, caches.chatToGroup chatId = some groupId ∧
    caches.groupState groupId = some st ∧
    action =
      if st.type = .basicGroup then .send (.getBasicGroupFullInfo groupId) none
      else .send (.getSupergroupMembers groupId) (some (.groupAdmins chatId))

structure QueueInOrder (caches : Caches) : Prop where
  distinct : caches.adminPollQueue.Nodup
  queued : ∀ chatId ∈ caches.adminPollSet, chatId ∈ caches.adminPollQueue
  known : ∀ chatId ∈ caches.adminPollSet,
    ∃ groupId, caches.chatToGroup chatId = some groupId ∧ (caches.groupState groupId).isSome

/-- One pass: the chats of this turn are refreshed, in order and each by one
query; the evicted ones among them leave the queue, and the refreshed ones stand
behind what the pass did not look at. -/
structure OneRound (config : Config) (caches : Caches) : Prop where
  size : (turn config caches).length = min config.adminPollBatch caches.adminPollSet.card
  once : (turn config caches).Nodup
  refreshed : List.Forall₂ (Refreshes caches) (turn config caches) (pollAdminBatch config caches).2
  passed : ∃ seen, caches.adminPollQueue = seen ++ beyond config caches ∧
    seen.filter caches.polls = turn config caches ∧
    (beyond config caches = [] ∨ (turn config caches).length = config.adminPollBatch)
  rotated : (pollAdminBatch config caches).1 =
    { caches with adminPollQueue := beyond config caches ++ turn config caches }

section

variable (config : Config)

/-- What the loop sends for a chat whose group is known. -/
def refresh (caches : Caches) (chatId : Int) : List Action :=
  match (caches.chatToGroup chatId).bind fun groupId =>
    (caches.groupState groupId).map fun st => (groupId, st) with
  | none => []
  | some (groupId, st) =>
      if st.type = .basicGroup then [.send (.getBasicGroupFullInfo groupId) none]
      else fetchGroupAdmins config groupId chatId

/-- With every polled group known, the loop is the pass of a round robin. -/
theorem pollAdmins_pass (scan share : Nat) (caches : Caches)
    (known : ∀ chatId ∈ caches.adminPollSet,
      ∃ groupId, caches.chatToGroup chatId = some groupId ∧
        (caches.groupState groupId).isSome) :
    pollAdmins config scan share caches =
      ({ caches with
          adminPollQueue := (RoundRobin.pass caches.polls scan share caches.adminPollQueue).2 },
        (RoundRobin.pass caches.polls scan share caches.adminPollQueue).1.flatMap
          (refresh config caches)) := by
  -- A polled chat is always found, so no entry is requeued without being served.
  induction scan generalizing share caches with
  | zero => rfl
  | succ scan ih =>
      cases share with
      | zero => rfl
      | succ share =>
          cases queue : caches.adminPollQueue with
          | nil =>
              simp only [pollAdmins, queue, RoundRobin.pass, List.flatMap_nil, Prod.mk.injEq,
                and_true]
              rw [← queue]
          | cons chatId others =>
              by_cases member : chatId ∈ caches.adminPollSet
              · obtain ⟨groupId, group, state⟩ := known chatId member
                obtain ⟨st, held⟩ := Option.isSome_iff_exists.mp state
                have next := ih share { caches with adminPollQueue := others ++ [chatId] } known
                have alive : caches.polls chatId = true := by simp [Caches.polls, member]
                have found : refresh config caches chatId =
                    if st.type = .basicGroup then [.send (.getBasicGroupFullInfo groupId) none]
                    else fetchGroupAdmins config groupId chatId := by
                  simp only [refresh, group, Option.bind_some, held, Option.map_some]
                simp only [pollAdmins, queue, member, ↓reduceIte, group, Option.bind_some, held,
                  Option.map_some, next, RoundRobin.pass, alive, List.flatMap_cons, found]
                rfl
              · have next := ih (share + 1) { caches with adminPollQueue := others } known
                have dead : caches.polls chatId = false := by simp [Caches.polls, member]
                simp only [pollAdmins, queue, member, ↓reduceIte, next, RoundRobin.pass, dead,
                  Bool.false_eq_true]
                rfl

theorem refresh_known (caches : Caches) (handled : config.groupAdminsHandler = true) (chatId : Int)
    (known : ∃ groupId, caches.chatToGroup chatId = some groupId ∧
      (caches.groupState groupId).isSome) :
    ∃ action, refresh config caches chatId = [action] ∧ Refreshes caches chatId action := by
  obtain ⟨groupId, group, state⟩ := known
  obtain ⟨st, held⟩ := Option.isSome_iff_exists.mp state
  refine ⟨_, ?_, groupId, st, group, held, rfl⟩
  simp only [refresh, group, Option.bind_some, held, Option.map_some, fetchGroupAdmins, handled,
    ↓reduceIte]
  split <;> rfl

theorem mem_turn (caches : Caches) (chatId : Int) (member : chatId ∈ turn config caches) :
    chatId ∈ caches.adminPollSet := by
  have alive := (List.mem_filter.mp (List.mem_of_mem_take member)).2
  simpa [Caches.polls] using alive

/-- The polled chats, in queue order. -/
theorem polled_chats (caches : Caches) (order : QueueInOrder caches) :
    (caches.adminPollQueue.filter caches.polls).length = caches.adminPollSet.card := by
  have same : (caches.adminPollQueue.filter caches.polls).toFinset = caches.adminPollSet := by
    ext chatId
    simp only [List.mem_toFinset, List.mem_filter, Caches.polls, decide_eq_true_eq]
    exact ⟨And.right, fun member => ⟨order.queued chatId member, member⟩⟩
  rw [← same, List.toFinset_card_of_nodup (order.distinct.filter _)]

theorem refreshed_known (caches : Caches) (handled : config.groupAdminsHandler = true)
    (chats : List Int)
    (known : ∀ chatId ∈ chats, ∃ groupId, caches.chatToGroup chatId = some groupId ∧
      (caches.groupState groupId).isSome) :
    List.Forall₂ (Refreshes caches) chats (chats.flatMap (refresh config caches)) := by
  induction chats with
  | nil => exact List.Forall₂.nil
  | cons chatId others ih =>
      obtain ⟨action, one, refreshes⟩ := refresh_known config caches handled chatId
        (known chatId List.mem_cons_self)
      rw [List.flatMap_cons, one]
      exact List.Forall₂.cons refreshes
        (ih fun other later => known other (List.mem_cons_of_mem _ later))

theorem one_round (caches : Caches) (handled : config.groupAdminsHandler = true)
    (order : QueueInOrder caches) : OneRound config caches := by
  have pass := pollAdmins_pass config caches.adminPollQueue.length config.adminPollBatch caches
    order.known
  rw [RoundRobin.pass_whole] at pass
  have sent : (pollAdminBatch config caches).2 =
      (turn config caches).flatMap (refresh config caches) := congrArg Prod.snd pass
  have split := RoundRobin.unseen_split caches.polls config.adminPollBatch caches.adminPollQueue
  refine ⟨?_, ?_, ?_, split, congrArg Prod.fst pass⟩
  · simp only [turn, RoundRobin.served, List.length_take, polled_chats caches order]
  · exact (order.distinct.filter _).sublist (List.take_sublist _ _)
  · rw [sent]
    exact refreshed_known config caches handled _
      fun chatId member => order.known chatId (mem_turn config caches chatId member)

/-- An alarm that polls runs one pass and rearms itself. -/
theorem reaction_polls (impl : Impl) (event : Event) (polls : Polls config impl event) :
    reaction config impl event =
      ((pollAdminBatch config impl.caches).1,
        (pollAdminBatch config impl.caches).2 ++ armAdminAlarm config) := by
  obtain ⟨⟨requestId, object, rfl, waiting⟩, alive, usable⟩ := polls
  have fired : resume config impl.caches .adminAlarm object = onAdminAlarm config impl.caches := by
    cases object <;> rfl
  simp only [reaction, waiting, fired, onAdminAlarm, alive, usable, Bool.false_eq_true, ↓reduceIte]

/-- The queue is rotated by alarms alone as long as the polled groups stay the
same. -/
theorem queue_kept (impl : Impl) (event : Event)
    (same : (process config impl event).caches.adminPollSet = impl.caches.adminPollSet)
    (idle : ¬ Polls config impl event) :
    (process config impl event).caches.adminPollQueue = impl.caches.adminPollQueue := by
  cases polling_event config impl event with
  | nothing kept =>
      exact congrArg Prod.snd kept
  | added chat groupId brings first absent known grown =>
      have entered := congrArg Prod.fst grown
      simp only [Caches.polling, same] at entered
      rw [entered] at absent
      exact absurd (Finset.mem_insert_self _ _) absent
  | evicted chatId evicts shrunk =>
      exact congrArg Prod.snd shrunk
  | polled polls rotated => exact absurd polls idle

end

/-- No two updateNewChat bring one chat under different group numbers. -/
def ChatsKeepGroup (events : List Event) : Prop :=
  ∀ first ∈ events, ∀ second ∈ events, ∀ chatId groupId other,
    Brings first chatId groupId → Brings second chatId other → groupId = other

/-- Every queued chat was brought under a group whose state is known since. -/
structure QueueBrought (events : List Event) (caches : Caches) : Prop where
  distinct : caches.adminPollQueue.Nodup
  queued : ∀ chatId ∈ caches.adminPollSet, chatId ∈ caches.adminPollQueue
  grouped : ∀ chatId groupId, caches.chatToGroup chatId = some groupId →
    (caches.groupState groupId).isSome
  brought : ∀ chatId ∈ caches.adminPollQueue, ∃ event ∈ events, ∃ groupId,
    Brings event chatId groupId ∧ (caches.groupState groupId).isSome ∧
      (caches.chatToGroup chatId).isSome

section

variable (config : Config)

theorem grouped_process (impl : Impl) (event : Event)
    (grouped : ∀ chatId groupId, impl.caches.chatToGroup chatId = some groupId →
      (impl.caches.groupState groupId).isSome) (chatId groupId : Int)
    (held : (process config impl event).caches.chatToGroup chatId = some groupId) :
    ((process config impl event).caches.groupState groupId).isSome := by
  have known := (known_event config impl event).1 groupId
  rw [caches_process] at held ⊢
  cases writes_event config impl event with
  | nothing same =>
      simp only [Caches.entities, Prod.mk.injEq] at same
      rw [same.2.2] at held
      exact known (grouped chatId groupId held)
  | user u same =>
      simp only [Caches.entities, Prod.mk.injEq] at same
      rw [same.2.2] at held
      exact known (grouped chatId groupId held)
  | state number st same =>
      simp only [Caches.entities, Prod.mk.injEq] at same
      rw [same.2.2] at held
      exact known (grouped chatId groupId held)
  | chat chat number st brings group same =>
      simp only [Caches.entities, Prod.mk.injEq] at same
      rw [same.2.2] at held
      by_cases own : chatId = chat.id
      · rw [own, update_self, Option.some.injEq] at held
        rw [same.2.1, held, update_self]
        rfl
      · rw [update_of_ne own] at held
        exact known (grouped chatId groupId held)

theorem order_of_brought (events : List Event) (caches : Caches)
    (invariant : QueueBrought events caches) : QueueInOrder caches := by
  refine ⟨invariant.distinct, invariant.queued, ?_⟩
  intro chatId member
  obtain ⟨_, _, _, _, _, chat⟩ := invariant.brought chatId (invariant.queued chatId member)
  obtain ⟨groupId, group⟩ := Option.isSome_iff_exists.mp chat
  exact ⟨groupId, group, invariant.grouped chatId groupId group⟩

/-- A pass permutes what it keeps of the queue. -/
theorem queue_batch (caches : Caches) (order : QueueInOrder caches) :
    (pollAdminBatch config caches).1.adminPollQueue.Nodup ∧
      ∀ chatId ∈ (pollAdminBatch config caches).1.adminPollQueue,
        chatId ∈ caches.adminPollQueue := by
  have pass := pollAdmins_pass config caches.adminPollQueue.length config.adminPollBatch caches
    order.known
  rw [pollAdminBatch, pass]
  exact ⟨RoundRobin.nodup_pass caches.polls config.adminPollBatch _ order.distinct,
    RoundRobin.mem_pass caches.polls config.adminPollBatch _⟩

theorem brought_process (events : List Event) (impl : Impl) (event : Event)
    (kept : ChatsKeepGroup (events ++ [event])) (invariant : QueueBrought events impl.caches) :
    QueueBrought (events ++ [event]) (process config impl event).caches := by
  obtain ⟨states, chats⟩ := known_event config impl event
  rw [← caches_process] at states chats
  have queued := (keeps_process config impl event).queued invariant.queued
  have grouped := grouped_process config impl event invariant.grouped
  have earlier (chatId : Int) (member : chatId ∈ impl.caches.adminPollQueue) :
      ∃ cause ∈ events ++ [event], ∃ groupId, Brings cause chatId groupId ∧
        ((process config impl event).caches.groupState groupId).isSome ∧
        ((process config impl event).caches.chatToGroup chatId).isSome := by
    obtain ⟨cause, old, groupId, brings, state, chat⟩ := invariant.brought chatId member
    exact ⟨cause, List.mem_append_left _ old, groupId, brings, states groupId state,
      chats chatId chat⟩
  have same_queue (queue : (process config impl event).caches.adminPollQueue =
      impl.caches.adminPollQueue) :
      QueueBrought (events ++ [event]) (process config impl event).caches := by
    refine ⟨?_, queued, grouped, ?_⟩
    · rw [queue]
      exact invariant.distinct
    · rw [queue]
      exact earlier
  cases polling_event config impl event with
  | nothing same => exact same_queue (congrArg Prod.snd same)
  | added chat groupId brings first absent known same =>
      have queue : _ = impl.caches.adminPollQueue ++ [chat.id] := congrArg Prod.snd same
      simp only [Caches.polling] at queue
      -- A chat still in the queue was brought under the same group, which was seen then.
      have fresh : chat.id ∉ impl.caches.adminPollQueue := by
        intro waiting
        obtain ⟨cause, old, other, before, state, _⟩ := invariant.brought chat.id waiting
        obtain rfl := kept cause (List.mem_append_left _ old) event
          (List.mem_append_right _ List.mem_cons_self) chat.id other groupId before brings
        rw [first] at state
        cases state
      refine ⟨?_, queued, grouped, ?_⟩
      · rw [queue, List.nodup_append]
        refine ⟨invariant.distinct, List.nodup_singleton _, ?_⟩
        intro chatId member last tail
        rw [List.mem_singleton.mp tail]
        exact fun clash => fresh (clash ▸ member)
      · rw [queue]
        intro chatId member
        rcases List.mem_append.mp member with old | new
        · exact earlier chatId old
        · rw [List.mem_singleton.mp new]
          exact ⟨event, List.mem_append_right _ List.mem_cons_self, groupId, brings, known.2,
            by rw [known.1]; rfl⟩
  | evicted chatId evicts same => exact same_queue (congrArg Prod.snd same)
  | polled polls same =>
      have queue : _ = (pollAdminBatch config impl.caches).1.adminPollQueue :=
        congrArg Prod.snd same
      simp only [Caches.polling] at queue
      obtain ⟨distinct, old⟩ := queue_batch config impl.caches (order_of_brought events _ invariant)
      refine ⟨?_, queued, grouped, ?_⟩
      · rw [queue]
        exact distinct
      · rw [queue]
        exact fun chatId member => earlier chatId (old chatId member)

theorem brought_run (events : List Event) (kept : ChatsKeepGroup events) :
    QueueBrought events (runEvents config events).caches := by
  induction events using List.reverseRecOn with
  | nil =>
      refine ⟨List.nodup_nil, ?_, ?_, ?_⟩
      · intro chatId member
        cases member
      · intro chatId groupId held
        cases held
      · intro chatId member
        cases member
  | append_singleton events event ih =>
      have before : ChatsKeepGroup events :=
        fun first here second there => kept first (List.mem_append_left _ here) second
          (List.mem_append_left _ there)
      rw [runEvents_snoc]
      exact brought_process config events _ event kept (ih before)

end

instance (config : Config) (impl : Impl) (event : Event) : Decidable (Polls config impl event) :=
  match event with
  | .update _ => .isFalse (by rintro ⟨⟨_, _, same, _⟩, _⟩; cases same)
  | .close => .isFalse (by rintro ⟨⟨_, _, same, _⟩, _⟩; cases same)
  | .answer requestId object =>
      decidable_of_iff
        (impl.handlers requestId = some .adminAlarm ∧
          (impl.caches.stopped || impl.caches.closing) = false ∧
          (impl.caches.isAuthorized && config.groupAdminsHandler) = true)
        ⟨fun ⟨waiting, usable⟩ => ⟨⟨requestId, object, rfl, waiting⟩, usable⟩, by
          rintro ⟨⟨_, _, same, waiting⟩, usable⟩
          cases same
          exact ⟨waiting, usable⟩⟩

/-- The alarms of a stretch of events that poll. -/
def ticks (config : Config) : Impl → List Event → Nat
  | _, [] => 0
  | impl, event :: later =>
      ticks config (process config impl event) later + if Polls config impl event then 1 else 0

def RefreshedDuring (config : Config) (impl : Impl) (stretch : List Event) (chatId : Int) : Prop :=
  ∃ before event after, stretch = before ++ event :: after ∧
    ∃ action ∈ (reaction config (run (process config) impl before) event).2,
      Refreshes (run (process config) impl before).caches chatId action

section

variable (config : Config)

theorem refreshed_later (impl : Impl) (event : Event) (later : List Event) (chatId : Int)
    (refreshed : RefreshedDuring config (process config impl event) later chatId) :
    RefreshedDuring config impl (event :: later) chatId := by
  obtain ⟨before, cause, after, rfl, sent⟩ := refreshed
  exact ⟨event :: before, cause, after, rfl, sent⟩

/-- An alarm refreshes the chats of its turn. -/
theorem refreshed_now (impl : Impl) (event : Event) (later : List Event) (chatId : Int)
    (order : QueueInOrder impl.caches) (polls : Polls config impl event)
    (member : chatId ∈ turn config impl.caches) :
    RefreshedDuring config impl (event :: later) chatId := by
  have handled : config.groupAdminsHandler = true := (Bool.and_eq_true_iff.mp polls.2.2).2
  have sent := (one_round config impl.caches handled order).refreshed
  rw [List.forall₂_iff_get] at sent
  obtain ⟨place, bound, rfl⟩ := List.getElem_of_mem member
  have small : place < (pollAdminBatch config impl.caches).2.length := sent.1 ▸ bound
  refine ⟨[], event, later, rfl, (pollAdminBatch config impl.caches).2[place], ?_,
    sent.2 place bound small⟩
  rw [run_nil, reaction_polls config impl event polls]
  exact List.mem_append_left _ (List.getElem_mem small)

/-- As long as the polled groups stay the same, an alarm moves those of its turn
behind the others, and nothing else moves them. -/
theorem polled_process (impl : Impl) (event : Event) (order : QueueInOrder impl.caches)
    (same : (process config impl event).caches.adminPollSet = impl.caches.adminPollSet) :
    (process config impl event).caches.adminPollQueue.filter impl.caches.polls =
      if Polls config impl event then
        (impl.caches.adminPollQueue.filter impl.caches.polls).drop config.adminPollBatch ++
          (impl.caches.adminPollQueue.filter impl.caches.polls).take config.adminPollBatch
      else impl.caches.adminPollQueue.filter impl.caches.polls := by
  split
  · next polls =>
    rw [caches_process, reaction_polls config impl event polls]
    simp only [pollAdminBatch, pollAdmins_pass config _ _ impl.caches order.known]
    exact RoundRobin.filter_pass impl.caches.polls config.adminPollBatch _
  · next idle => rw [queue_kept config impl event same idle]

/-- A polled chat that as many turns reach is refreshed. -/
theorem refreshed_in_turn (chatId : Int) (stretch : List Event) (impl : Impl)
    (order : EveryState (process config) impl (fun state => QueueInOrder state.caches) stretch)
    (same : EveryState (process config) impl
      (fun state => state.caches.adminPollSet = impl.caches.adminPollSet) stretch)
    (reached : chatId ∈ (impl.caches.adminPollQueue.filter impl.caches.polls).take
      (ticks config impl stretch * config.adminPollBatch)) :
    RefreshedDuring config impl stretch chatId := by
  -- Every alarm serves the chat or brings it nearer to the front by one batch.
  induction stretch generalizing impl with
  | nil => simp [ticks] at reached
  | cons event later ih =>
      have ⟨first, order_later⟩ := (everyState_cons _ _ _ _ _).mp order
      have ⟨_, rest⟩ := (everyState_cons _ _ _ _ _).mp same
      have next : (process config impl event).caches.adminPollSet = impl.caches.adminPollSet :=
        rest [] later rfl
      have moved := polled_process config impl event first next
      have alike : (process config impl event).caches.polls = impl.caches.polls := by
        funext other
        simp only [Caches.polls, next]
      have then_reached := ih (process config impl event) order_later
        (by rw [next]; exact rest)
      rw [alike, moved] at then_reached
      by_cases polls : Polls config impl event
      · simp only [ticks, polls, ↓reduceIte] at reached then_reached
        rcases RoundRobin.mem_round _ _ _ _ reached with now | soon
        · exact refreshed_now config impl event later chatId first polls now
        · exact refreshed_later config impl event later chatId (then_reached soon)
      · simp only [ticks, polls, ↓reduceIte, Nat.add_zero] at reached then_reached
        exact refreshed_later config impl event later chatId (then_reached reached)

theorem order_run (events : List Event) (kept : ChatsKeepGroup events) :
    QueueInOrder (runEvents config events).caches :=
  order_of_brought events _ (brought_run config events kept)

end

def groupChat (chatId groupId : Int) : Event :=
  .update (.newChat (some
    { id := chatId, type := some (.supergroup groupId false), title := "Rust" }))

/-- Two groups are brought and two alarms fire, with batches of one group. -/
def twoAlarms : List Event :=
  [.update (.authorizationState .ready), groupChat (-1001) 1, groupChat (-1002) 2,
    .answer 3 .other, .answer 9 .other]

/-- Three permission errors evict a group, whose chat then comes back under
another group before a pass has dropped it from the queue. -/
def broughtAgain : List Event :=
  [.update (.authorizationState .ready), groupChat (-1001) 1, .answer 5 (.error 403),
    .answer 3 .other, .answer 6 (.error 403), .answer 7 .other, .answer 8 (.error 403),
    groupChat (-1001) 2]

end TgLoggerd

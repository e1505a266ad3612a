import TgLoggerd.ReplyLinks

/-!
The walk along replies that starts where a message is handled. A turn asks for one
reply target at most, one step deeper than the message it handles, and never at the
full depth; so the walk ends, whatever the set of resolved targets holds. While the
set is not cleared it knows the targets a walk has fetched, and none is fetched twice.
-/

namespace TgLoggerd

open Function SerialRun Requests

/-- A getMessage for the target of a link: its number, the link and the depth of the
message that has it. -/
structure Fetch where
  number : Nat
  reply : MessageReply
  depth : Nat
  deriving DecidableEq, Repr

def Fetch.target (fetch : Fetch) : Int × Int :=
  (fetch.reply.replyToChatId, fetch.reply.replyToMsgId)

/-- The fetches among actions, where so many numbers were given out before. -/
def fetches (issued : Nat) : List Action → List Fetch
  | [] => []
  | .hand _ :: rest => fetches issued rest
  | .send _ (some (.repliedMessage reply depth)) :: rest =>
      ⟨issued + 1, reply, depth⟩ :: fetches (issued + 1) rest
  | .send _ _ :: rest => fetches (issued + 1) rest

/-- The depth at which a turn handles a message. -/
def handledDepth (impl : Impl) : Event → Option Nat
  | .update (.newMessage _) => some 0
  | .answer requestId (.message _) =>
      match impl.handlers requestId with
      | some .editedMessage => some 0
      | some (.repliedMessage _ depth) => some (depth + 1)
      | _ => none
  | _ => none

structure WalkTurn where
  handled : Option Nat
  asked : List Fetch
  deriving DecidableEq, Repr

def walkTurn (config : Config) (impl : Impl) (event : Event) : WalkTurn :=
  ⟨handledDepth impl event, fetches impl.currentQueryId (reaction config impl event).2⟩

/-- A walk under way: the state of the program, and the fetches of the walk that
are not answered yet. -/
structure Walk where
  impl : Impl
  awaited : List Fetch

def Fetch.answeredBy (event : Event) (fetch : Fetch) : Bool :=
  match event with
  | .answer requestId _ => decide (requestId = fetch.number)
  | _ => false

def Walk.begin (config : Config) (impl : Impl) (first : Event) : Walk :=
  ⟨process config impl first, (walkTurn config impl first).asked⟩

/-- The turn belongs to the walk if it answers one of its fetches; other turns may
come between, also those of other walks. -/
def Walk.out (config : Config) (walk : Walk) (event : Event) : List WalkTurn :=
  if walk.awaited.any (Fetch.answeredBy event) then [walkTurn config walk.impl event] else []

def Walk.step (config : Config) (walk : Walk) (event : Event) : Walk where
  impl := process config walk.impl event
  awaited := walk.awaited.filter (fun fetch => !fetch.answeredBy event) ++
    (walk.out config event).flatMap WalkTurn.asked

/-- The turns of the walk of a message, in order. -/
def walkTurns (config : Config) (impl : Impl) (first : Event) (events : List Event) :
    List WalkTurn :=
  walkTurn config impl first ::
    outputs (Walk.step config) (Walk.out config) (Walk.begin config impl first) events

/-- What waits at the start of a stretch of the walk, and what is asked for in it. -/
def Walk.fetched (config : Config) (walk : Walk) (events : List Event) : List Fetch :=
  walk.awaited ++ (outputs (Walk.step config) (Walk.out config) walk events).flatMap WalkTurn.asked

/-- A turn that marks a target as resolved when the set has grown to its cap. -/
def Clears (impl : Impl) (event : Event) : Prop :=
  kReplyDedupCap ≤ impl.caches.resolvedReplyTargets.card ∧
    ∃ requestId message reply depth, event = .answer requestId (.message message) ∧
      impl.handlers requestId = some (.repliedMessage reply depth)

theorem fetches_append (issued : Nat) (left right : List Action) :
    fetches issued (left ++ right) =
      fetches issued left ++ fetches (issued + (sentQueries left).length) right := by
  induction left generalizing issued with
  | nil => rfl
  | cons action rest ih =>
      rcases action with call | ⟨query, handler⟩
      · exact ih issued
      · have longer : issued + (sentQueries (.send query handler :: rest)).length =
            issued + 1 + (sentQueries rest).length := by
          simp only [sentQueries, List.filterMap_cons, Action.sent, List.length_cons]
          omega
        rw [longer, List.cons_append]
        rcases handler with _ | waiting
        · exact ih (issued + 1)
        · cases waiting with
          | repliedMessage reply depth => exact congrArg (_ :: ·) (ih (issued + 1))
          | _ => exact ih (issued + 1)

theorem fetches_linkless (issued : Nat) (actions : List Action) (silent : actions.all linkless) :
    fetches issued actions = [] := by
  induction actions generalizing issued with
  | nil => rfl
  | cons action rest ih =>
      rw [List.all_cons, Bool.and_eq_true] at silent
      rcases action with call | ⟨query, handler⟩
      · exact ih issued silent.2
      · rcases handler with _ | waiting
        · exact ih _ silent.2
        · cases waiting with
          | repliedMessage reply depth => cases silent.1
          | _ => exact ih _ silent.2

/-- What waits under an old number stays. -/
theorem handlers_acts (actions : List Action) (impl : Impl) (number : Nat)
    (old : number ≤ impl.currentQueryId) :
    number ≤ (actions.foldl act impl).currentQueryId ∧
      (actions.foldl act impl).handlers number = impl.handlers number := by
  induction actions generalizing impl with
  | nil => exact ⟨old, rfl⟩
  | cons action rest ih =>
      rcases action with call | ⟨query, handler⟩
      · exact ih _ old
      · obtain ⟨given, same⟩ := ih (act impl (.send query handler)) (Nat.le_succ_of_le old)
        refine ⟨given, same.trans ?_⟩
        cases handler with
        | none => rfl
        | some waiting => exact update_of_ne (Nat.ne_of_lt (Nat.lt_succ_of_le old)) _ _

/-- A fetch waits under its number. -/
theorem fetches_wait (actions : List Action) (impl : Impl) (fetch : Fetch)
    (member : fetch ∈ fetches impl.currentQueryId actions) :
    fetch.number ≤ (actions.foldl act impl).currentQueryId ∧
      (actions.foldl act impl).handlers fetch.number =
        some (.repliedMessage fetch.reply fetch.depth) := by
  induction actions generalizing impl with
  | nil => cases member
  | cons action rest ih =>
      rcases action with call | ⟨query, handler⟩
      · exact ih _ member
      · rcases handler with _ | waiting
        · exact ih (act impl (.send query none)) member
        · cases waiting with
          | repliedMessage reply depth =>
              rcases List.mem_cons.mp member with rfl | later
              · obtain ⟨given, same⟩ := handlers_acts rest
                  (act impl (.send query (some (.repliedMessage reply depth)))) _ (Nat.le_refl _)
                refine ⟨given, same.trans ?_⟩
                exact update_self _ _ _
              · exact ih (act impl (.send query (some (.repliedMessage reply depth)))) later
          | _ => exact ih (act impl (.send query _)) member

section

variable (config : Config)

theorem fetches_reply (issued : Nat) (caches : Caches) (message : TdApi.Message) (isGroup : Bool)
    (depth : Nat) :
    let asked := fetches issued (resolveReplyMessage config caches message isGroup depth)
    asked = [] ∨ ∃ fetch, asked = [fetch] ∧ fetch.depth = depth ∧ depth < kMaxReplyDepth ∧
      fetch.target ∉ caches.resolvedReplyTargets := by
  simp only [resolveReplyMessage]
  split
  · split
    · exact Or.inl rfl
    · next unresolved =>
        rw [not_or, Nat.not_le] at unresolved
        exact Or.inr ⟨_, rfl, rfl, unresolved.2, unresolved.1⟩
  · exact Or.inl rfl

/-- A message asks for the target of its reply last, if at all. -/
theorem message_last (caches : Caches) (chatId : Int) (message : TdApi.Message) (depth : Nat) :
    ∃ requested front last, front.all linkless ∧
      requested.resolvedReplyTargets = caches.resolvedReplyTargets ∧
      (handleMessage config caches chatId message depth).2 = front ++ last ∧
      (last = [] ∨ ∃ isGroup, last = resolveReplyMessage config requested message isGroup depth) := by
  -- Senders, the row and its file come before the reply, and no link waits for them.
  have front (kept : Caches) (call : Call) (plain : linkless (.hand call) = true) (isGroup : Bool)
      (info : Option ForwardInfo) :
      (forwardActions config kept info ++ [Action.hand call] ++
        (maybeDownloadMessageFile config kept message isGroup).2).all linkless := by
    rw [List.all_append, List.all_append, admits_forward config kept admits_linkless.toAdmitsRows,
      admits_messageFile config admits_linkless.toAdmits, List.all_cons, plain]
    rfl
  simp only [handleMessage]
  split
  · simp only [handleMessageForPrivateChat]
    split
    · exact ⟨_, _, _, front caches (.privateMessage _) rfl false _,
        spared_messageFile config _ spared_resolved caches message false, rfl, Or.inr ⟨_, rfl⟩⟩
    · exact ⟨caches, [], [], rfl, rfl, rfl, Or.inl rfl⟩
  · simp only [handleMessageForGroupChat]
    split
    · exact ⟨_, _, _, front caches (.groupMessage _) rfl true _,
        spared_messageFile config _ spared_resolved caches message true, rfl, Or.inr ⟨_, rfl⟩⟩
    · exact ⟨caches, [], [], rfl, rfl, rfl, Or.inl rfl⟩

theorem fetches_message (issued : Nat) (caches : Caches) (chatId : Int) (message : TdApi.Message)
    (depth : Nat) :
    let asked := fetches issued (handleMessage config caches chatId message depth).2
    asked = [] ∨ ∃ fetch, asked = [fetch] ∧ fetch.depth = depth ∧ depth < kMaxReplyDepth ∧
      fetch.target ∉ caches.resolvedReplyTargets := by
  obtain ⟨requested, front, last, silent, same, parts, reply⟩ :=
    message_last config caches chatId message depth
  simp only [parts]
  rw [fetches_append, fetches_linkless issued front silent, List.nil_append, ← same]
  rcases reply with rfl | ⟨isGroup, rfl⟩
  · exact Or.inl rfl
  · exact fetches_reply config _ requested message isGroup depth

/-- A message that answers no link is handled at depth 0. -/
theorem handledDepth_arrived (impl : Impl) (event : Event) (message : Int × TdApi.Message)
    (comes : handled impl event = some message) (unanswered : answeredLink impl event = 0) :
    handledDepth impl event = some 0 := by
  cases event with
  | update u =>
      cases u with
      | newMessage m => rfl
      | _ => cases comes
  | answer requestId object =>
      cases object with
      | message m =>
          cases found : impl.handlers requestId with
          | none => simp [handled, found] at comes
          | some waiting =>
              cases waiting with
              | editedMessage => simp [handledDepth, found]
              | repliedMessage reply depth =>
                  simp [answeredLink, found, owed, Continuation.link, Continuation.reply] at unanswered
              | _ => simp [handled, found] at comes
      | _ => cases comes
  | close => cases comes

/-- A turn asks for no more than one target. It does so at the depth of the message
it handles, below the full depth, and the set does not hold the target afterwards. -/
theorem asked_turn (impl : Impl) (event : Event) :
    (walkTurn config impl event).asked = [] ∨
      ∃ fetch, (walkTurn config impl event).asked = [fetch] ∧
        handledDepth impl event = some fetch.depth ∧ fetch.depth < kMaxReplyDepth ∧
        fetch.target ∉ (process config impl event).caches.resolvedReplyTargets := by
  rw [caches_process]
  have turn := replyTurn_event config impl event
  simp only [walkTurn]
  generalize reaction config impl event = result at turn
  cases turn with
  | plain _ unhandled unanswered silent kept => exact Or.inl (fetches_linkless _ _ silent)
  | arrived chatId message rest own comes unanswered silent =>
      have depth := handledDepth_arrived impl event _ comes unanswered
      simp only
      rw [fetches_append, fetches_linkless _ rest silent, List.append_nil,
        spared_message config _ spared_resolved]
      rcases fetches_message config impl.currentQueryId impl.caches chatId message 0 with
        none | ⟨fetch, one, same, below, new⟩
      · exact Or.inl none
      · rw [← same] at depth below
        exact Or.inr ⟨fetch, one, depth, below, new⟩
  | fetched requestId reply message depth marked before brings waits marks comes answered silent =>
      have deeper : handledDepth impl event = some (depth + 1) := by
        simp [brings, handledDepth, waits]
      have last (issued : Nat) : fetches issued [.hand (.messageReply reply)] = [] := rfl
      simp only
      rw [fetches_append, fetches_append, last, fetches_linkless _ before silent, List.append_nil,
        List.nil_append, spared_message config _ spared_resolved]
      rcases fetches_message config (impl.currentQueryId + (sentQueries before).length) marked
        reply.replyToChatId message (depth + 1) with none | ⟨fetch, one, same, below, new⟩
      · exact Or.inl none
      · rw [← same] at deeper below
        exact Or.inr ⟨fetch, one, deeper, below, new⟩
  | unavailable reply unhandled answered => exact Or.inl rfl

/-- A target that is marked stays so, and the target of an answered fetch joins,
unless the set is cleared. -/
theorem resolved_turn (impl : Impl) (event : Event) (calm : ¬ Clears impl event) :
    impl.caches.resolvedReplyTargets ⊆ (process config impl event).caches.resolvedReplyTargets := by
  rw [caches_process]
  have turn := replyTurn_event config impl event
  generalize reaction config impl event = result at turn
  cases turn with
  | plain _ unhandled unanswered silent kept => rw [kept]
  | arrived chatId message rest own comes unanswered silent =>
      rw [spared_message config _ spared_resolved]
  | fetched requestId reply message depth marked before brings waits marks comes answered silent =>
      -- Below its cap the set is not cleared when the target is marked.
      have room : ¬ kReplyDedupCap ≤ impl.caches.resolvedReplyTargets.card := fun full =>
        calm ⟨full, requestId, message, reply, depth, brings, waits⟩
      rw [spared_message config _ spared_resolved, marks, markReplyResolved]
      simp only [ge_iff_le, room, ↓reduceIte]
      exact Finset.subset_insert _ _
  | unavailable reply unhandled answered => exact Finset.Subset.refl _

/-- The answer with the target of a link marks the target. -/
theorem marked_turn (impl : Impl) (requestId : Nat) (message : TdApi.Message)
    (reply : MessageReply) (depth : Nat)
    (waits : impl.handlers requestId = some (.repliedMessage reply depth)) :
    (reply.replyToChatId, reply.replyToMsgId) ∈
      (process config impl (.answer requestId (.message message))).caches.resolvedReplyTargets := by
  simp only [caches_process, reaction, waits, resume]
  rw [spared_message config _ spared_resolved, markReplyResolved]
  exact Finset.mem_insert_self _ _

/-- No more than one fetch of a walk waits, under its number and below the full depth. -/
def Walk.Single (walk : Walk) : Prop :=
  walk.awaited = [] ∨ ∃ fetch, walk.awaited = [fetch] ∧ fetch.depth < kMaxReplyDepth ∧
    fetch.number ≤ walk.impl.currentQueryId ∧
    walk.impl.handlers fetch.number = some (.repliedMessage fetch.reply fetch.depth)

theorem single_of_turn (impl : Impl) (event : Event) :
    Walk.Single ⟨process config impl event, (walkTurn config impl event).asked⟩ := by
  rcases asked_turn config impl event with none | ⟨fetch, one, _, below, _⟩
  · exact Or.inl none
  · have member : fetch ∈ (walkTurn config impl event).asked := by simp [one]
    refine Or.inr ⟨fetch, one, below, ?_⟩
    cases event with
    | update u => exact fetches_wait _ _ fetch member
    | answer requestId object => exact fetches_wait _ _ fetch member
    | close => exact fetches_wait _ _ fetch member

theorem handlers_process (impl : Impl) (event : Event) (fetch : Fetch)
    (given : fetch.number ≤ impl.currentQueryId) (other : fetch.answeredBy event = false) :
    fetch.number ≤ (process config impl event).currentQueryId ∧
      (process config impl event).handlers fetch.number = impl.handlers fetch.number := by
  cases event with
  | answer requestId object =>
      obtain ⟨late, same⟩ := handlers_acts (reaction config impl (.answer requestId object)).2
        { impl with
          handlers := update impl.handlers requestId none
          caches := (reaction config impl (.answer requestId object)).1 } fetch.number given
      have differs : fetch.number ≠ requestId := by
        rintro rfl
        simp [Fetch.answeredBy] at other
      exact ⟨late, same.trans (update_of_ne differs _ _)⟩
  | update u => exact handlers_acts _ _ fetch.number given
  | close => exact handlers_acts _ _ fetch.number given

/-- A turn leaves a walk alone, or it answers the one fetch that waits and the walk
goes on with what the turn asks for. -/
theorem step_cases (walk : Walk) (event : Event) (single : walk.Single) :
    (walk.out config event = [] ∧ (walk.step config event).awaited = walk.awaited ∧
        (walk.step config event).Single) ∨
      ∃ fetch object, walk.awaited = [fetch] ∧ event = .answer fetch.number object ∧
        fetch.depth < kMaxReplyDepth ∧
        walk.impl.handlers fetch.number = some (.repliedMessage fetch.reply fetch.depth) ∧
        walk.out config event = [walkTurn config walk.impl event] ∧
        (walk.step config event).awaited = (walkTurn config walk.impl event).asked ∧
        (walk.step config event).Single := by
  rcases single with none | ⟨fetch, one, below, given, waits⟩
  · have quiet : walk.out config event = [] := by simp [Walk.out, none]
    have same : (walk.step config event).awaited = walk.awaited := by
      simp [Walk.step, quiet, none]
    exact Or.inl ⟨quiet, same, Or.inl (same.trans none)⟩
  · cases answers : fetch.answeredBy event with
    | false =>
        have quiet : walk.out config event = [] := by simp [Walk.out, one, answers]
        have same : (walk.step config event).awaited = walk.awaited := by
          simp [Walk.step, quiet, one, answers]
        -- Numbers only grow, so no query of this turn takes the place of the fetch.
        obtain ⟨late, kept⟩ := handlers_process config walk.impl event fetch given answers
        exact Or.inl ⟨quiet, same, Or.inr ⟨fetch, same.trans one, below, late, kept.trans waits⟩⟩
    | true =>
        have hit : walk.out config event = [walkTurn config walk.impl event] := by
          simp [Walk.out, one, answers]
        have next : (walk.step config event).awaited = (walkTurn config walk.impl event).asked := by
          simp [Walk.step, hit, one, answers]
        have goes : (walk.step config event).Single := by
          rw [Walk.Single, next]
          exact single_of_turn config walk.impl event
        cases event with
        | answer requestId object =>
            have number : requestId = fetch.number := by simpa [Fetch.answeredBy] using answers
            subst number
            exact Or.inr ⟨fetch, object, one, rfl, below, waits, hit, next, goes⟩
        | update u => cases answers
        | close => cases answers

theorem single_run (walk : Walk) (single : walk.Single) (events : List Event) :
    (run (Walk.step config) walk events).Single := by
  apply run_invariant (Walk.step config) walk Walk.Single single
  intro walk event single
  rcases step_cases config walk event single with ⟨_, _, next⟩ | ⟨_, _, _, _, _, _, _, _, next⟩
  · exact next
  · exact next

/-- The answer to a fetch handles the target one step deeper, if it came. -/
theorem handledDepth_answer (impl : Impl) (fetch : Fetch) (object : TdApi.Object) (depth : Nat)
    (waits : impl.handlers fetch.number = some (.repliedMessage fetch.reply fetch.depth))
    (handles : handledDepth impl (.answer fetch.number object) = some depth) :
    depth = fetch.depth + 1 ∧ ∃ message, object = .message message := by
  cases object with
  | message m =>
      simp only [handledDepth, waits, Option.some.injEq] at handles
      exact ⟨handles.symm, m, rfl⟩
  | _ => cases handles

/-- As many fetches as their depth tells, and every message handled on the way at a
depth up to the full one. -/
structure Walk.Bounded (turns : List WalkTurn) (walk : Walk) : Prop where
  awaiting : ∀ fetch ∈ walk.awaited, (turns.flatMap WalkTurn.asked).length = fetch.depth + 1
  most : (turns.flatMap WalkTurn.asked).length ≤ kMaxReplyDepth
  depths : ∀ turn ∈ turns, ∀ depth, turn.handled = some depth → depth ≤ kMaxReplyDepth

theorem bounded_begin (impl : Impl) (first : Event) (handles : handledDepth impl first = some 0) :
    (Walk.begin config impl first).Bounded [walkTurn config impl first] := by
  have depths : ∀ turn ∈ [walkTurn config impl first], ∀ depth, turn.handled = some depth →
      depth ≤ kMaxReplyDepth := by
    intro turn member depth handled
    rw [List.mem_singleton.mp member, walkTurn, handles] at handled
    cases handled
    exact Nat.zero_le _
  rcases asked_turn config impl first with none | ⟨fetch, one, same, below, _⟩
  · refine ⟨?_, ?_, depths⟩
    · simp [Walk.begin, none]
    · simp [none]
  · rw [handles, Option.some.injEq] at same
    refine ⟨?_, ?_, depths⟩
    · simp [Walk.begin, one, ← same]
    · simp [one, kMaxReplyDepth]

theorem bounded_step (turns : List WalkTurn) (walk : Walk) (event : Event) (single : walk.Single)
    (bounded : walk.Bounded turns) :
    (walk.step config event).Bounded (turns ++ walk.out config event) := by
  rcases step_cases config walk event single with
    ⟨quiet, same, _⟩ | ⟨fetch, object, one, rfl, below, waits, hit, next, _⟩
  · rw [quiet, List.append_nil]
    refine ⟨?_, bounded.most, bounded.depths⟩
    rw [same]
    exact bounded.awaiting
  · have length := bounded.awaiting fetch (by simp [one])
    have depths : ∀ turn ∈ turns ++ [walkTurn config walk.impl (.answer fetch.number object)],
        ∀ depth, turn.handled = some depth → depth ≤ kMaxReplyDepth := by
      intro turn member depth handled
      rcases List.mem_append.mp member with early | last
      · exact bounded.depths turn early depth handled
      · rw [List.mem_singleton.mp last] at handled
        obtain ⟨rfl, _⟩ := handledDepth_answer walk.impl fetch object depth waits handled
        exact below
    rw [hit]
    rcases asked_turn config walk.impl (.answer fetch.number object) with
      none | ⟨deeper, asks, same, room, _⟩
    · refine ⟨?_, ?_, depths⟩
      · rw [next, none]
        simp
      · simpa [none] using bounded.most
    · -- The next target is asked for one step deeper, so one more fetch is counted.
      obtain ⟨depth, _⟩ := handledDepth_answer walk.impl fetch object deeper.depth waits same
      have longer : ((turns ++ [walkTurn config walk.impl (.answer fetch.number object)]).flatMap
          WalkTurn.asked).length = deeper.depth + 1 := by
        simp [asks, length, depth]
      refine ⟨?_, ?_, depths⟩
      · rw [next, asks, longer]
        simp
      · rw [longer]
        exact room

theorem bounded_run (impl : Impl) (first : Event) (handles : handledDepth impl first = some 0)
    (events : List Event) :
    (run (Walk.step config) (Walk.begin config impl first) events).Bounded
      (walkTurns config impl first events) := by
  induction events using List.reverseRecOn with
  | nil => exact bounded_begin config impl first handles
  | append_singleton events event ih =>
      have grown : walkTurns config impl first (events ++ [event]) =
          walkTurns config impl first events ++
            (run (Walk.step config) (Walk.begin config impl first) events).out config event := by
        rw [walkTurns, outputs_snoc]
        rfl
      rw [run_snoc, grown]
      exact bounded_step config _ _ event
        (single_run config _ (single_of_turn config impl first) events) ih

/-- The targets of a stretch of the walk differ, and the set holds all but the one
that is still fetched. -/
structure Walk.Distinct (fetched : List Fetch) (walk : Walk) : Prop where
  nodup : (fetched.map Fetch.target).Nodup
  held : ∀ fetch ∈ walk.awaited, ∃ front, fetched = front ++ [fetch] ∧
    ∀ earlier ∈ front, earlier.target ∈ walk.impl.caches.resolvedReplyTargets

theorem distinct_begin (walk : Walk) (single : walk.Single) : walk.Distinct walk.awaited := by
  rcases single with none | ⟨fetch, one, _⟩
  · constructor
    · simp [none]
    · simp [none]
  · constructor
    · simp [one]
    · intro other member
      rw [one, List.mem_singleton] at member
      rw [one, member]
      exact ⟨[], rfl, by simp⟩

theorem distinct_step (fetched : List Fetch) (walk : Walk) (event : Event) (single : walk.Single)
    (calm : ¬ Clears walk.impl event) (distinct : walk.Distinct fetched) :
    (walk.step config event).Distinct
      (fetched ++ (walk.out config event).flatMap WalkTurn.asked) := by
  have kept := resolved_turn config walk.impl event calm
  rcases step_cases config walk event single with
    ⟨quiet, same, _⟩ | ⟨fetch, object, one, rfl, _, waits, hit, asked, _⟩
  · rw [quiet, List.flatMap_nil, List.append_nil]
    refine ⟨distinct.nodup, ?_⟩
    rw [same]
    intro fetch member
    obtain ⟨front, split, held⟩ := distinct.held fetch member
    exact ⟨front, split, fun earlier among => kept (held earlier among)⟩
  · rw [hit, List.flatMap_singleton]
    obtain ⟨front, rfl, held⟩ := distinct.held fetch (by simp [one])
    rcases asked_turn config walk.impl (.answer fetch.number object) with
      none | ⟨deeper, asks, handles, _, new⟩
    · constructor
      · rw [none, List.append_nil]
        exact distinct.nodup
      · rw [asked, none]
        simp
    · -- The target just fetched is marked by now, as those before it were.
      obtain ⟨_, message, rfl⟩ := handledDepth_answer walk.impl fetch object _ waits handles
      have marked := marked_turn config walk.impl fetch.number message fetch.reply fetch.depth waits
      have all : ∀ earlier ∈ front ++ [fetch], earlier.target ∈
          (process config walk.impl
            (.answer fetch.number (.message message))).caches.resolvedReplyTargets := by
        intro earlier member
        rcases List.mem_append.mp member with among | itself
        · exact kept (held earlier among)
        · rw [List.mem_singleton.mp itself]
          exact marked
      rw [asks]
      constructor
      · rw [List.map_append, List.nodup_append]
        refine ⟨distinct.nodup, by simp, ?_⟩
        rintro target early _ later rfl
        obtain ⟨earlier, member, named⟩ := List.mem_map.mp early
        rw [List.map_singleton, List.mem_singleton] at later
        rw [later] at named
        exact new (named ▸ all earlier member)
      · rw [asked, asks]
        intro other member
        rw [List.mem_singleton.mp member]
        exact ⟨front ++ [fetch], rfl, all⟩

theorem distinct_run (walk : Walk) (single : walk.Single) (events : List Event)
    (calm : EveryStep (Walk.step config) walk (fun walk event => ¬ Clears walk.impl event) events) :
    (run (Walk.step config) walk events).Distinct (walk.fetched config events) := by
  induction events using List.reverseRecOn with
  | nil =>
      have all : walk.fetched config [] = walk.awaited := by simp [Walk.fetched, outputs]
      rw [all]
      exact distinct_begin walk single
  | append_singleton events event ih =>
      obtain ⟨every, last⟩ := (everyStep_snoc _ _ _ _ _).mp calm
      have grown : walk.fetched config (events ++ [event]) = walk.fetched config events ++
          ((run (Walk.step config) walk events).out config event).flatMap WalkTurn.asked := by
        rw [Walk.fetched, outputs_snoc, List.flatMap_append, ← List.append_assoc]
        rfl
      rw [run_snoc, grown]
      exact distinct_step config _ _ event (single_run config walk single events) last (ih every)

/-- The walk of a message asks for no more targets than the full depth and handles
none deeper; and in a stretch in which the set is not cleared, the targets asked for
and the one waited for at its start all differ. -/
theorem reply_walk_ends (impl : Impl) (first : Event) (events : List Event)
    (handles : handledDepth impl first = some 0) :
    ((walkTurns config impl first events).flatMap WalkTurn.asked).length ≤ kMaxReplyDepth ∧
      (∀ turn ∈ walkTurns config impl first events, ∀ depth, turn.handled = some depth →
        depth ≤ kMaxReplyDepth) ∧
      ∀ before stretch, before ++ stretch <+: events →
        EveryStep (Walk.step config)
          (run (Walk.step config) (Walk.begin config impl first) before)
          (fun walk event => ¬ Clears walk.impl event) stretch →
        (((run (Walk.step config) (Walk.begin config impl first) before).fetched config
          stretch).map Fetch.target).Nodup := by
  have bounded := bounded_run config impl first handles events
  refine ⟨bounded.most, bounded.depths, ?_⟩
  intro before stretch _ calm
  have single := single_run config _ (single_of_turn config impl first) before
  exact (distinct_run config _ single stretch calm).nodup

end

/-- Two messages that reply to each other. -/
def circular (id : Int) : TdApi.Message :=
  { id := id, chatId := 5, replyTo := some (.message 0 (3 - id)) }

theorem reply_walk_ends_on_circle :
    let turns := walkTurns (Config.started 300 4) Impl.initial (.update (.newMessage (circular 1)))
      [.answer 2 (.message (circular 2)), .answer 4 (.message (circular 1))]
    (turns.flatMap WalkTurn.asked).map Fetch.target = [(5, 2), (5, 1)] ∧
      (turns.flatMap WalkTurn.asked).length ≤ kMaxReplyDepth ∧
      turns.map WalkTurn.handled = [some 0, some 1, some 2] :=
  ⟨by decide, (reply_walk_ends (Config.started 300 4) Impl.initial
    (.update (.newMessage (circular 1))) _ rfl).1, by decide⟩

end TgLoggerd

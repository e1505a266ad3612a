import Mathlib.Algebra.Order.Group.Multiset
import TgLoggerd.HandoverOrder
import TgLoggerd.Logger
import TgLoggerd.QueryNumbers

/-!
The links of replies, as the wrapper posts them. A message that is handled owes
the link to the message it replies to. The link is posted at once, or waits under
the number of the getMessage that asks for its target; what is posted and what
waits together are the links of all messages handled, each as often as it was
handled. A link is posted after the rows of both its ends, as far as these were
handed over at all.
-/

namespace TgLoggerd

open Function SerialRun Requests

def Continuation.reply : Continuation → Option MessageReply
  | .repliedMessage reply _ => some reply
  | _ => none

/-- The link that waits for an answer, and the link that an action posts or asks
the target of. -/
def Continuation.link (waiting : Continuation) : Multiset MessageReply :=
  waiting.reply.toList

def Action.link : Action → Multiset MessageReply
  | .hand (.messageReply reply) => {reply}
  | _ => 0

def Action.asked : Action → Multiset MessageReply
  | .hand _ => 0
  | .send _ handler => owed Continuation.link handler

def postedLinks (actions : List Action) : Multiset MessageReply := (actions.map Action.link).sum

def askedLinks (actions : List Action) : Multiset MessageReply := (actions.map Action.asked).sum

def waitingLinks (impl : Impl) : Multiset MessageReply :=
  outstanding Continuation.link (impl.currentQueryId + 1) impl.handlers

/-- The link whose query an event answers. -/
def answeredLink (impl : Impl) : Event → Multiset MessageReply
  | .answer requestId _ => owed Continuation.link (impl.handlers requestId)
  | _ => 0

/-- The message a turn handles, with the chat it is routed by. -/
def handled (impl : Impl) : Event → Option (Int × TdApi.Message)
  | .update (.newMessage message) => some (message.chatId, message)
  | .answer requestId (.message message) =>
      match impl.handlers requestId with
      | some .editedMessage => some (message.chatId, message)
      | some (.repliedMessage reply _) => some (reply.replyToChatId, message)
      | _ => none
  | _ => none

/-- The link of a message with a reply target. -/
def linkOf (chatId : Int) (message : TdApi.Message) : Option MessageReply :=
  (replyTarget message).map fun target =>
    { chatId := message.chatId
      messageId := message.id
      replyToChatId := target.1
      replyToMsgId := target.2
      isGroup := !isPrivateChat chatId }

def handledLink (impl : Impl) (event : Event) : Option MessageReply :=
  (handled impl event).bind fun arrived => linkOf arrived.1 arrived.2

def handledLinks (config : Config) (events : List Event) : Multiset MessageReply :=
  outputs (process config) (fun impl event => (handledLink impl event).toList) Impl.initial events

/-- An action that neither posts a link nor asks for the target of one. -/
def linkless : Action → Bool
  | .hand (.messageReply _) => false
  | .hand _ => true
  | .send _ handler => (handler.bind Continuation.reply).isNone

theorem admits_linkless : AdmitsTurns linkless := by
  have sent (query : TdApi.Function) (handler : Option Continuation)
      (other : ∀ reply depth, handler ≠ some (.repliedMessage reply depth)) :
      linkless (.send query handler) = true := by
    cases handler with
    | none => rfl
    | some waiting =>
        cases waiting with
        | repliedMessage reply depth => exact absurd rfl (other reply depth)
        | _ => rfl
  refine ⟨⟨⟨⟨?_⟩, fun _ => rfl, fun _ => rfl, fun _ => rfl⟩, fun _ => rfl, fun _ => rfl⟩,
    fun _ => rfl, fun _ => rfl, sent⟩
  intro query handler plain
  apply sent query handler
  rintro reply depth rfl
  cases query <;> cases plain

/-- What a turn does about replies. -/
inductive ReplyTurn (config : Config) (impl : Impl) (event : Event) : Caches × List Action → Prop where
  | plain (result : Caches × List Action) (unhandled : handled impl event = none)
      (unanswered : answeredLink impl event = 0) (silent : result.2.all linkless)
      (kept : result.1.resolvedReplyTargets = impl.caches.resolvedReplyTargets) :
      ReplyTurn config impl event result
  /-- A new or edited message. -/
  | arrived (chatId : Int) (message : TdApi.Message) (rest : List Action)
      (own : chatId = message.chatId) (comes : handled impl event = some (chatId, message))
      (unanswered : answeredLink impl event = 0) (silent : rest.all linkless) :
      ReplyTurn config impl event
        ((handleMessage config impl.caches chatId message 0).1,
          (handleMessage config impl.caches chatId message 0).2 ++ rest)
  /-- The target of a link, which is marked and handled before the link is posted. -/
  | fetched (requestId : Nat) (reply : MessageReply) (message : TdApi.Message) (depth : Nat)
      (marked : Caches) (before : List Action)
      (brings : event = .answer requestId (.message message))
      (waits : impl.handlers requestId = some (.repliedMessage reply depth))
      (marks : marked =
        markReplyResolved impl.caches (reply.replyToChatId, reply.replyToMsgId))
      (comes : handled impl event = some (reply.replyToChatId, message))
      (answered : answeredLink impl event = {reply}) (silent : before.all linkless) :
      ReplyTurn config impl event
        ((handleMessage config marked reply.replyToChatId message (depth + 1)).1,
          before ++ (handleMessage config marked reply.replyToChatId message (depth + 1)).2 ++
            [.hand (.messageReply reply)])
  | unavailable (reply : MessageReply) (unhandled : handled impl event = none)
      (answered : answeredLink impl event = {reply}) :
      ReplyTurn config impl event (impl.caches, [.hand (.messageReply reply)])

section

variable (config : Config)

theorem spared_resolved : Spared Caches.resolvedReplyTargets := fun _ _ _ _ => rfl

theorem aloof_resolved : Aloof Caches.resolvedReplyTargets :=
  ⟨spared_resolved, fun _ _ _ _ => rfl, fun _ _ _ => rfl⟩

theorem linkless_deletions (chatId : Int) (messageIds : List Int)
    (isPermanent : Bool) :
    (handleDeleteMessages config chatId messageIds isPermanent).all linkless := by
  have each (call : Int → Call) (plain : ∀ msgId, linkless (.hand (call msgId)) = true) :
      (messageIds.map fun msgId => Action.hand (call msgId)).all linkless := by
    rw [List.all_eq_true]
    intro action member
    obtain ⟨msgId, _, rfl⟩ := List.mem_map.mp member
    exact plain msgId
  simp only [handleDeleteMessages]
  split
  · split
    · exact each _ fun _ => rfl
    · rfl
  · split
    · exact each _ fun _ => rfl
    · rfl

theorem resolved_saveUser (caches : Caches) (u : TdApi.User) :
    (saveUser config caches u).1.resolvedReplyTargets = caches.resolvedReplyTargets :=
  spared_profilePhoto config Caches.resolvedReplyTargets spared_resolved caches u

theorem resolved_update (caches : Caches) (u : TdApi.Update) :
    (processUpdate config caches u).1.resolvedReplyTargets = caches.resolvedReplyTargets := by
  apply aloof_update config Caches.resolvedReplyTargets aloof_resolved caches u
  · intro state _
    exact aloof_authorization config Caches.resolvedReplyTargets caches (fun _ _ _ _ => rfl) state
  · intro user _
    exact resolved_saveUser config caches user

/-- Only the answer with a fetched target marks it. -/
theorem resolved_resume (caches : Caches) (waiting : Continuation) (object : TdApi.Object)
    (other : waiting.reply = none) :
    (resume config caches waiting object).1.resolvedReplyTargets =
      caches.resolvedReplyTargets := by
  apply aloof_resume config Caches.resolvedReplyTargets aloof_resolved caches waiting object
  · rintro reply depth rfl
    cases other
  · intro user _ _
    exact resolved_saveUser config caches user
  · rintro chatId rfl
    exact aloof_refreshed config Caches.resolvedReplyTargets aloof_resolved caches (fun _ _ => rfl)
      chatId object

theorem replyTurn_update (impl : Impl) (u : TdApi.Update) :
    ReplyTurn config impl (.update u) (processUpdate config impl.caches u) := by
  by_cases fresh : ∃ message, u = .newMessage message
  · obtain ⟨message, rfl⟩ := fresh
    exact .arrived message.chatId message _ rfl rfl rfl (admits_text config _ (fun _ => rfl) message)
  · have unhandled : handled impl (.update u) = none := by
      cases u with
      | newMessage message => exact absurd ⟨message, rfl⟩ fresh
      | _ => rfl
    apply ReplyTurn.plain _ unhandled rfl
    · apply admits_update config impl.caches admits_linkless u
      · intro message same
        exact absurd ⟨message, same⟩ fresh
      · intro chatId messageIds isPermanent _
        exact linkless_deletions config chatId messageIds isPermanent
      · intro groupId info _ caches chatId
        exact admits_groupAdmins config caches admits_linkless.toAdmitsRows (fun _ => rfl) chatId
          info.members
    · exact resolved_update config impl.caches u

theorem replyTurn_resume (impl : Impl) (requestId : Nat) (object : TdApi.Object)
    (waiting : Continuation) (found : impl.handlers requestId = some waiting) :
    ReplyTurn config impl (.answer requestId object) (resume config impl.caches waiting object) := by
  have answered : answeredLink impl (.answer requestId object) = waiting.link := by
    simp [answeredLink, found, owed]
  have plain (other : waiting.reply = none)
      (silent : (resume config impl.caches waiting object).2.all linkless)
      (unhandled : handled impl (.answer requestId object) = none) :
      ReplyTurn config impl (.answer requestId object)
        (resume config impl.caches waiting object) := by
    apply ReplyTurn.plain _ unhandled _ silent (resolved_resume config impl.caches _ _ other)
    rw [answered, Continuation.link, other]
    rfl
  cases waiting with
  | editedMessage =>
      cases object with
      | message m =>
          have turn := @ReplyTurn.arrived config impl (.answer requestId (.message m)) m.chatId m []
            rfl (by simp [handled, found]) answered rfl
          rw [List.append_nil] at turn
          exact turn
      | _ => exact plain rfl rfl rfl
  | repliedMessage reply depth =>
      cases object with
      | message r =>
          exact .fetched requestId reply r depth _ _ rfl found rfl (by simp [handled, found]) answered
            (admits_messageEntities config _ admits_linkless.toAdmitsRows r)
      | _ => exact .unavailable reply rfl answered
  | _ =>
      -- No other continuation takes a message.
      apply plain rfl
      · apply admits_resume config impl.caches admits_linkless
        · rintro message ⟨⟩
        · rintro reply depth ⟨⟩
        · intro chatId members _ _
          exact admits_groupAdmins config impl.caches admits_linkless.toAdmitsRows (fun _ => rfl)
            chatId members
      · cases object <;> simp [handled, found]

/-- Every turn is one of the four kinds. -/
theorem replyTurn_event (impl : Impl) (event : Event) :
    ReplyTurn config impl event (reaction config impl event) := by
  cases event with
  | update u => exact replyTurn_update config impl u
  | answer requestId object =>
      simp only [reaction]
      cases found : impl.handlers requestId with
      | none =>
          apply ReplyTurn.plain
          · cases object <;> simp [handled, found]
          · simp [answeredLink, found, owed]
          · rfl
          · rfl
      | some waiting => exact replyTurn_resume config impl requestId object waiting found
  | close => exact .plain _ rfl rfl rfl rfl

end

/-! Counting the links. -/

section

theorem postedLinks_append (left right : List Action) :
    postedLinks (left ++ right) = postedLinks left + postedLinks right := by
  rw [postedLinks, List.map_append, List.sum_append, postedLinks, postedLinks]

theorem askedLinks_append (left right : List Action) :
    askedLinks (left ++ right) = askedLinks left + askedLinks right := by
  rw [askedLinks, List.map_append, List.sum_append, askedLinks, askedLinks]

theorem links_linkless (actions : List Action) (silent : actions.all linkless) :
    postedLinks actions = 0 ∧ askedLinks actions = 0 := by
  induction actions with
  | nil => exact ⟨rfl, rfl⟩
  | cons action rest ih =>
      rw [List.all_cons, Bool.and_eq_true] at silent
      obtain ⟨posted, asked⟩ := ih silent.2
      have none : action.link = 0 ∧ action.asked = 0 := by
        cases action with
        | hand call =>
            cases call with
            | messageReply reply => cases silent.1
            | _ => exact ⟨rfl, rfl⟩
        | send query handler =>
            refine ⟨rfl, ?_⟩
            cases handler with
            | none => rfl
            | some waiting =>
                have silent := Option.isNone_iff_eq_none.mp silent.1
                rw [Option.bind_some] at silent
                simp [Action.asked, owed, Continuation.link, silent]
      rw [postedLinks, askedLinks] at *
      simp [none, posted, asked]

variable (interval : Rat) (batch : Nat)

theorem links_reply (caches : Caches) (chatId : Int) (message : TdApi.Message) (depth : Nat) :
    let actions := resolveReplyMessage (Config.started interval batch) caches message
      (!isPrivateChat chatId) depth
    postedLinks actions + askedLinks actions = (linkOf chatId message).toList := by
  simp only [resolveReplyMessage, Config.started, linkOf]
  cases replyTarget message with
  | none => rfl
  | some target =>
      simp only [Option.map_some, Option.toList_some]
      split
      · simp [postedLinks, askedLinks, Action.link, Action.asked]
      · simp [postedLinks, askedLinks, Action.link, Action.asked, owed, Continuation.link,
          Continuation.reply]

theorem linkless_messageCall (chatId : Int) (message : TdApi.Message) :
    linkless (.hand (messageCall chatId message)) = true := by
  simp only [messageCall]
  split <;> rfl

/-- A message is handed over between actions without links, and its own link is
posted or asked for last. -/
theorem message_parts (caches : Caches) (chatId : Int) (message : TdApi.Message) (depth : Nat) :
    ∃ requested before after, before.all linkless ∧ after.all linkless ∧
      requested.resolvedReplyTargets = caches.resolvedReplyTargets ∧
      handleMessage (Config.started interval batch) caches chatId message depth =
        (requested, before ++ Action.hand (messageCall chatId message) :: after ++
          resolveReplyMessage (Config.started interval batch) requested message
            (!isPrivateChat chatId) depth) := by
  refine ⟨_, _, _, ?_, ?_, ?_, by
    rw [handleMessage_eq, List.append_assoc _ [_], List.singleton_append]⟩
  · exact admits_forward _ caches admits_linkless.toAdmitsRows _
  · exact admits_messageFile _ admits_linkless.toAdmits caches message _
  · exact spared_messageFile _ _ spared_resolved caches message _

theorem links_message (caches : Caches) (chatId : Int) (message : TdApi.Message) (depth : Nat) :
    let actions := (handleMessage (Config.started interval batch) caches chatId message depth).2
    postedLinks actions + askedLinks actions = (linkOf chatId message).toList := by
  obtain ⟨requested, before, after, first, second, _, parts⟩ :=
    message_parts interval batch caches chatId message depth
  have silent : (before ++ Action.hand (messageCall chatId message) :: after).all linkless := by
    rw [List.all_append, first, List.all_cons, linkless_messageCall, second]
    rfl
  obtain ⟨posted, asked⟩ := links_linkless _ silent
  simp only [parts]
  rw [postedLinks_append, askedLinks_append, posted, asked, zero_add, zero_add]
  exact links_reply interval batch requested chatId message depth

/-- A turn posts the link whose query is answered; the link of the message it
handles it posts as well, or asks for its target. -/
theorem links_turn (impl : Impl) (event : Event) :
    let actions := (reaction (Config.started interval batch) impl event).2
    ∃ now, postedLinks actions = now + answeredLink impl event ∧
      now + askedLinks actions = (handledLink impl event).toList := by
  have turn := replyTurn_event (Config.started interval batch) impl event
  generalize reaction (Config.started interval batch) impl event = result at turn
  cases turn with
  | plain _ unhandled unanswered silent kept =>
      obtain ⟨posted, asked⟩ := links_linkless _ silent
      refine ⟨0, ?_, ?_⟩
      · rw [posted, unanswered, add_zero]
      · rw [asked, handledLink, unhandled, add_zero]
        rfl
  | arrived chatId message rest own comes unanswered silent =>
      obtain ⟨posted, asked⟩ := links_linkless _ silent
      have links := links_message interval batch impl.caches chatId message 0
      refine ⟨postedLinks
        (handleMessage (Config.started interval batch) impl.caches chatId message 0).2, ?_, ?_⟩
      · rw [postedLinks_append, posted, unanswered]
      · rw [askedLinks_append, asked, add_zero, handledLink, comes]
        exact links
  | fetched requestId reply message depth marked before brings waits marks comes answered silent =>
      obtain ⟨posted, asked⟩ := links_linkless _ silent
      have links := links_message interval batch marked reply.replyToChatId message (depth + 1)
      refine ⟨postedLinks (handleMessage (Config.started interval batch) marked
        reply.replyToChatId message (depth + 1)).2, ?_, ?_⟩
      · rw [postedLinks_append, postedLinks_append, posted, zero_add, answered]
        rfl
      · have last : askedLinks [.hand (.messageReply reply)] = 0 := rfl
        rw [askedLinks_append, askedLinks_append, asked, last, zero_add, add_zero, handledLink, comes]
        exact links
  | unavailable reply unhandled answered =>
      refine ⟨0, ?_, ?_⟩
      · rw [answered]
        rfl
      · rw [handledLink, unhandled]
        rfl

end

/-- An answer settles the link that waited under its number; what is asked for
starts to wait. -/
theorem waitingLinks_process (config : Config) (impl : Impl)
    (fresh : Fresh (impl.currentQueryId + 1) impl.handlers) (event : Event) :
    waitingLinks (process config impl event) + answeredLink impl event =
      waitingLinks impl + askedLinks (reaction config impl event).2 := by
  have asked : Action.asked = Action.owes Continuation.link := by
    funext action
    cases action <;> rfl
  have answered : answeredLink impl event = pays Continuation.link impl event := by
    cases event <;> rfl
  rw [askedLinks, asked, answered]
  exact owing_process config Continuation.link impl fresh event

section

variable (interval : Rat) (batch : Nat)

/-- What was posted and what still waits are the links of the messages handled. -/
theorem links_run (events : List Event) :
    let impl := runEvents (Config.started interval batch) events
    postedLinks impl.log + waitingLinks impl =
      handledLinks (Config.started interval batch) events := by
  induction events using List.reverseRecOn with
  | nil => rfl
  | append_singleton events event ih =>
      obtain ⟨now, posted, asked⟩ := links_turn interval batch
        (runEvents (Config.started interval batch) events) event
      have waiting := waitingLinks_process (Config.started interval batch)
        (runEvents (Config.started interval batch) events) (fresh_run _ events) event
      rw [handledLinks] at ih
      simp only [runEvents, run_snoc, log_process, postedLinks_append, handledLinks, outputs_snoc,
        ← Multiset.coe_add] at *
      rw [← ih, ← asked, posted]
      apply add_right_cancel (b := answeredLink
        (run (process (Config.started interval batch)) Impl.initial events) event)
      rw [add_assoc, waiting]
      ac_rfl

end

/-! Where the links stand. -/

/-- A job that stores a message: its key, and whether it is a group message. -/
def StoreOp.stores : StoreOp → Option ((Int × Int) × Bool)
  | .onPrivate (.upsert pm) => if pm.isDeleted then none else some (pm.key, false)
  | .onGroup (.upsert gm) => if gm.isDeleted then none else some (gm.key, true)
  | _ => none

/-- The upsert of a message was handed over. -/
def Saved (log : List Action) (key : Int × Int) (isGroup : Bool) : Prop :=
  ∃ call, .hand call ∈ log ∧ (handlerJob call).bind StoreOp.stores = some (key, isGroup)

/-- A message saved to the table of its chat's kind. -/
def SavedInOwn (log : List Action) (key : Int × Int) : Prop :=
  Saved log key (!isPrivateChat key.1)

/-- A getMessage for the target of a link brings that message, if any. -/
def Truthful (impl : Impl) (event : Event) : Prop :=
  ∀ requestId message reply depth, event = .answer requestId (.message message) →
    impl.handlers requestId = some (.repliedMessage reply depth) →
    (message.chatId, message.id) = (reply.replyToChatId, reply.replyToMsgId)

/-- Some turn handled this message: it was new, edited or fetched. -/
def Met (config : Config) (events : List Event) (key : Int × Int) : Prop :=
  ∃ before event after chatId message, events = before ++ event :: after ∧
    handled (runEvents config before) event = some (chatId, message) ∧
    (message.chatId, message.id) = key

/-- A link is ready once the rows at its ends were saved, the target's if it is known. -/
def LinkReady (known : Int × Int → Prop) (log : List Action) : Action → Prop
  | .hand (.messageReply reply) =>
      Saved log (reply.chatId, reply.messageId) reply.isGroup ∧
        (known (reply.replyToChatId, reply.replyToMsgId) →
          SavedInOwn log (reply.replyToChatId, reply.replyToMsgId))
  | _ => True

/-- The same of one turn. -/
def MetIn (impl : Impl) (event : Event) (key : Int × Int) : Prop :=
  ∃ chatId message, handled impl event = some (chatId, message) ∧
    (message.chatId, message.id) = key

/-- The messages known are saved, the targets resolved are among them, and the
sources of the links that wait are saved. -/
structure RepliesSettled (known : Int × Int → Prop) (impl : Impl) : Prop where
  saved : ∀ key, known key → SavedInOwn impl.log key
  resolved : ∀ target ∈ impl.caches.resolvedReplyTargets, known target
  waiting : ∀ reply ∈ waitingLinks impl,
    Saved impl.log (reply.chatId, reply.messageId) reply.isGroup

theorem saved_append (log actions : List Action) (key : Int × Int) (isGroup : Bool)
    (saved : Saved log key isGroup) : Saved (log ++ actions) key isGroup := by
  obtain ⟨call, member, stores⟩ := saved
  exact ⟨call, List.mem_append_left _ member, stores⟩

theorem saved_message (log : List Action) (chatId : Int) (message : TdApi.Message)
    (member : .hand (messageCall chatId message) ∈ log) :
    Saved log (message.chatId, message.id) (!isPrivateChat chatId) := by
  refine ⟨_, member, ?_⟩
  simp only [messageCall]
  cases isPrivateChat chatId <;> rfl

theorem eachReady_linkless (known : Int × Int → Prop) (log actions : List Action)
    (silent : actions.all linkless) : EachReady (LinkReady known) log actions := by
  apply eachReady_of_forall
  intro action member before
  have plain := List.all_eq_true.mp silent action member
  rcases action with call | ⟨query, handler⟩
  · cases call <;> trivial
  · trivial

theorem met_iff (config : Config) (events : List Event) (key : Int × Int) :
    Met config events key ↔
      SomeStep (process config) Impl.initial (fun impl event => MetIn impl event key) events := by
  constructor
  · rintro ⟨before, event, after, chatId, message, split, named⟩
    exact ⟨before, event, after, split, chatId, message, named⟩
  · rintro ⟨before, event, after, split, chatId, message, named⟩
    exact ⟨before, event, after, chatId, message, split, named⟩

theorem met_snoc (config : Config) (events : List Event) (event : Event) (key : Int × Int) :
    Met config (events ++ [event]) key ↔
      Met config events key ∨ MetIn (runEvents config events) event key := by
  rw [met_iff, met_iff]
  exact someStep_snoc _ _ _ _ _

section

variable (interval : Rat) (batch : Nat) (known : Int × Int → Prop) (log : List Action)

theorem ready_reply (caches : Caches) (chatId : Int) (message : TdApi.Message) (depth : Nat)
    (itself : Saved log (message.chatId, message.id) (!isPrivateChat chatId))
    (saved : ∀ key, known key → SavedInOwn log key) :
    let actions := resolveReplyMessage (Config.started interval batch) caches message
      (!isPrivateChat chatId) depth
    EachReady (LinkReady known) log actions ∧
      ∀ reply ∈ askedLinks actions, Saved log (reply.chatId, reply.messageId) reply.isGroup := by
  simp only [resolveReplyMessage, Config.started]
  cases replyTarget message with
  | none =>
      constructor
      · exact eachReady_linkless known log [] rfl
      · intro reply member
        cases member
  | some target =>
      simp only
      split
      · constructor
        · rw [eachReady_singleton]
          exact ⟨itself, saved _⟩
        · intro reply member
          cases member
      · constructor
        · rw [eachReady_singleton]
          trivial
        · intro reply member
          simp only [askedLinks, List.map_cons, List.map_nil, List.sum_cons, List.sum_nil, add_zero,
            Action.asked, owed, Option.map_some, Option.getD_some, Continuation.link,
            Continuation.reply, Option.toList_some, Multiset.coe_singleton,
            Multiset.mem_singleton] at member
          rw [member]
          exact itself

/-- What handling a message posts is ready, once everything known but the message
itself was saved. -/
theorem ready_message (caches : Caches) (chatId : Int) (message : TdApi.Message) (depth : Nat)
    (own : chatId = message.chatId)
    (earlier : ∀ key, known key → SavedInOwn log key ∨ (message.chatId, message.id) = key) :
    let actions := (handleMessage (Config.started interval batch) caches chatId message depth).2
    EachReady (LinkReady known) log actions ∧
      (∀ key, known key → SavedInOwn (log ++ actions) key) ∧
      ∀ reply ∈ askedLinks actions,
        Saved (log ++ actions) (reply.chatId, reply.messageId) reply.isGroup := by
  obtain ⟨requested, before, after, first, second, _, parts⟩ :=
    message_parts interval batch caches chatId message depth
  subst own
  have silent : (before ++ Action.hand (messageCall message.chatId message) :: after).all
      linkless := by
    rw [List.all_append, first, List.all_cons, linkless_messageCall, second]
    rfl
  have handed : Action.hand (messageCall message.chatId message) ∈
      before ++ Action.hand (messageCall message.chatId message) :: after := by simp
  generalize before ++ Action.hand (messageCall message.chatId message) :: after = front at *
  -- The message is saved by the time its own link comes.
  have itself := saved_message (log ++ front) message.chatId message
    (List.mem_append_right log handed)
  have saved (key : Int × Int) (knows : known key) : SavedInOwn (log ++ front) key := by
    rcases earlier key knows with early | rfl
    · exact saved_append log _ key _ early
    · exact itself
  obtain ⟨ready, asked⟩ := ready_reply interval batch known _ requested message.chatId message
    depth itself saved
  obtain ⟨_, none⟩ := links_linkless _ silent
  simp only [parts]
  rw [eachReady_append, askedLinks_append, none, zero_add, ← List.append_assoc]
  refine ⟨⟨eachReady_linkless known log _ silent, ready⟩, ?_, ?_⟩
  · intro key knows
    exact saved_append _ _ key _ (saved key knows)
  · intro reply member
    exact saved_append _ _ _ _ (asked reply member)

theorem waiting_of_answered (impl : Impl) (event : Event)
    (fresh : Fresh (impl.currentQueryId + 1) impl.handlers) (reply : MessageReply)
    (answered : reply ∈ answeredLink impl event) : reply ∈ waitingLinks impl := by
  cases event with
  | answer requestId object =>
      rw [waitingLinks, ← outstanding_answer Continuation.link _ impl.handlers requestId fresh]
      exact Multiset.mem_add.mpr (Or.inr answered)
  | update u => cases answered
  | close => cases answered

/-- What one turn posts and leaves behind. -/
structure Answers (known : Int × Int → Prop) (log : List Action) (result : Caches × List Action) :
    Prop where
  ready : EachReady (LinkReady known) log result.2
  saved : ∀ key, known key → SavedInOwn (log ++ result.2) key
  asked : ∀ reply ∈ askedLinks result.2,
    Saved (log ++ result.2) (reply.chatId, reply.messageId) reply.isGroup
  resolved : ∀ target ∈ result.1.resolvedReplyTargets, known target

/-- A turn posts links whose ends are saved, as far as they are known by its end. -/
theorem answers_turn (impl : Impl) (event : Event)
    (fresh : Fresh (impl.currentQueryId + 1) impl.handlers) (settled : RepliesSettled known impl)
    (truthful : Truthful impl event) :
    Answers (fun key => known key ∨ MetIn impl event key) impl.log
      (reaction (Config.started interval batch) impl event) := by
  have turn := replyTurn_event (Config.started interval batch) impl event
  generalize reaction (Config.started interval batch) impl event = result at turn
  have source (reply : MessageReply) (answered : answeredLink impl event = {reply}) :
      Saved impl.log (reply.chatId, reply.messageId) reply.isGroup := by
    apply settled.waiting reply
    apply waiting_of_answered impl event fresh
    rw [answered]
    exact Multiset.mem_singleton_self reply
  have early (unhandled : handled impl event = none) (key : Int × Int)
      (knows : known key ∨ MetIn impl event key) : SavedInOwn impl.log key := by
    rcases knows with early | ⟨chatId, message, comes, _⟩
    · exact settled.saved key early
    · rw [unhandled] at comes
      cases comes
  have either (chatId : Int) (message : TdApi.Message)
      (comes : handled impl event = some (chatId, message)) (key : Int × Int)
      (knows : known key ∨ MetIn impl event key) :
      SavedInOwn impl.log key ∨ (message.chatId, message.id) = key := by
    rcases knows with early | ⟨_, other, same, named⟩
    · exact Or.inl (settled.saved key early)
    · rw [comes] at same
      cases same
      exact Or.inr named
  cases turn with
  | plain _ unhandled unanswered silent kept =>
      refine ⟨eachReady_linkless _ _ _ silent, ?_, ?_, ?_⟩
      · intro key knows
        exact saved_append _ _ key _ (early unhandled key knows)
      · rw [(links_linkless _ silent).2]
        intro reply member
        cases member
      · intro target member
        rw [kept] at member
        exact Or.inl (settled.resolved target member)
  | arrived chatId message rest own comes unanswered silent =>
      obtain ⟨ready, saved, asked⟩ := ready_message interval batch
        (fun key => known key ∨ MetIn impl event key) impl.log impl.caches chatId message 0 own
        (either chatId message comes)
      constructor
      · exact (eachReady_append _ _ _ _).mpr ⟨ready, eachReady_linkless _ _ _ silent⟩
      · intro key knows
        rw [← List.append_assoc]
        exact saved_append _ rest key _ (saved key knows)
      · intro reply member
        rw [askedLinks_append, (links_linkless _ silent).2, add_zero] at member
        rw [← List.append_assoc]
        exact saved_append _ rest _ _ (asked reply member)
      · intro target member
        rw [spared_message _ _ spared_resolved] at member
        exact Or.inl (settled.resolved target member)
  | fetched requestId reply message depth marked before brings waits marks comes answered silent =>
      have named := truthful requestId message reply depth brings waits
      obtain ⟨ready, saved, asked⟩ := ready_message interval batch
        (fun key => known key ∨ MetIn impl event key) (impl.log ++ before) marked
        reply.replyToChatId message (depth + 1) (Prod.mk.inj named).1.symm
        (fun key knows => (either _ message comes key knows).imp_left
          (saved_append impl.log before key _))
      simp only [List.append_assoc] at saved asked
      constructor
      · rw [eachReady_append, eachReady_append, eachReady_singleton]
        refine ⟨⟨eachReady_linkless _ _ _ silent, ready⟩, ?_, ?_⟩
        · exact saved_append _ _ _ _ (source reply answered)
        · exact saved _
      · intro key knows
        rw [← List.append_assoc]
        exact saved_append _ _ key _ (saved key knows)
      · intro other member
        rw [askedLinks_append, askedLinks_append, (links_linkless _ silent).2, zero_add] at member
        rw [← List.append_assoc]
        exact saved_append _ _ _ _ (asked other (by simpa [askedLinks, Action.asked] using member))
      · intro target member
        rw [spared_message _ _ spared_resolved, marks, markReplyResolved] at member
        -- The set may have been cleared before the new target entered.
        rcases Finset.mem_insert.mp member with rfl | member
        · exact Or.inr ⟨_, message, comes, named⟩
        · split at member
          · cases member
          · exact Or.inl (settled.resolved target member)
  | unavailable reply unhandled answered =>
      constructor
      · rw [eachReady_singleton]
        exact ⟨source reply answered, early unhandled _⟩
      · intro key knows
        exact saved_append _ _ key _ (early unhandled key knows)
      · intro other member
        cases member
      · intro target member
        exact Or.inl (settled.resolved target member)

theorem repliesSettled_process (impl : Impl) (event : Event)
    (fresh : Fresh (impl.currentQueryId + 1) impl.handlers) (settled : RepliesSettled known impl)
    (truthful : Truthful impl event) :
    RepliesSettled (fun key => known key ∨ MetIn impl event key)
      (process (Config.started interval batch) impl event) := by
  have answers := answers_turn interval batch known impl event fresh settled truthful
  have links := waitingLinks_process (Config.started interval batch) impl fresh event
  constructor
  · rw [log_process]
    exact answers.saved
  · rw [caches_process]
    exact answers.resolved
  · intro reply member
    have counted : reply ∈ waitingLinks impl +
        askedLinks (reaction (Config.started interval batch) impl event).2 := by
      rw [← links]
      exact Multiset.mem_add.mpr (Or.inl member)
    rw [log_process]
    rcases Multiset.mem_add.mp counted with waiting | asked
    · exact saved_append _ _ _ _ (settled.waiting reply waiting)
    · exact answers.asked reply asked

theorem repliesSettled_run (events : List Event)
    (truthful : EveryStep (process (Config.started interval batch)) Impl.initial Truthful events) :
    RepliesSettled (Met (Config.started interval batch) events)
      (runEvents (Config.started interval batch) events) := by
  induction events using List.reverseRecOn with
  | nil =>
      constructor
      · rintro key ⟨before, event, after, _, _, split, _⟩
        simp at split
      · intro target member
        cases member
      · intro reply member
        cases member
  | append_singleton events event ih =>
      obtain ⟨every, last⟩ := (everyStep_snoc _ _ _ _ _).mp truthful
      have settled := repliesSettled_process interval batch _ _ event (fresh_run _ events)
        (ih every) last
      have same : Met (Config.started interval batch) (events ++ [event]) = fun key =>
          Met (Config.started interval batch) events key ∨
            MetIn (runEvents (Config.started interval batch) events) event key := by
        funext key
        exact propext (met_snoc _ events event key)
      rw [same, runEvents_snoc]
      exact settled

end

end TgLoggerd

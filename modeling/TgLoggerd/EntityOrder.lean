import TgLoggerd.EntityTracking

/-!
Whether the rows a message or an administrator list refers to are handed over
before it. The message follows the request for an unknown entity without
waiting for the answer, so the order holds exactly when the caches knew all
that is referred to.
-/

namespace TgLoggerd

open Function KeyedTable SerialRun

/-- The event answers a query of the reply walk. -/
def fetchedByWalk (impl : Impl) : Event → Bool
  | .answer requestId _ =>
      match impl.handlers requestId with
      | some (.repliedMessage _ _) => true
      | _ => false
  | .update _ => false
  | .close => false

/-- Every row that a call refers to was handed over before it. -/
def Ordered (walk : Bool) (log actions : List Action) : Prop :=
  ∀ before call after, actions = before ++ .hand call :: after →
    ∀ entity ∈ references walk call, Handed (log ++ before) entity

def adminsOf (members : List (Option TdApi.ChatMember)) : List GroupAdmin :=
  members.filterMap fun m => m.bind mapAdmin

/-- The references of a message routed by a chat id. -/
def rowRefs (chatId : Int) (message : TdApi.Message) : List Entity :=
  if isPrivateChat chatId then privateRefs (buildPrivateMessage message)
  else groupRefs (buildGroupMessage message)

/-- What the message or the administrators of an event refer to. -/
def referenced (impl : Impl) : Event → List Entity
  | .update (.newMessage message) => originRefs (extractForwardInfo message)
  | .update (.basicGroupFullInfo groupId (some info)) =>
      let st := (impl.caches.groupState groupId).getD {}
      if st.chatSeen ∧ st.chatId ∈ impl.caches.adminPollSet then adminRefs (adminsOf info.members)
      else []
  | .answer requestId (.message message) =>
      match impl.handlers requestId with
      | some .editedMessage => originRefs (extractForwardInfo message)
      | some (.repliedMessage reply _) =>
          rowRefs reply.replyToChatId message ++ originRefs (extractForwardInfo message)
      | _ => []
  | .answer requestId (.chatMembers members) =>
      match impl.handlers requestId with
      | some (.groupAdmins _) => adminRefs (adminsOf members)
      | _ => []
  | _ => []

/-- Actions without referring calls are in order. -/
theorem ordered_idle (walk : Bool) (log actions : List Action)
    (idle : ∀ call, .hand call ∈ actions → references walk call = []) :
    Ordered walk log actions := by
  intro before call after split entity member
  rw [idle call (by simp [split])] at member
  cases member

/-- With one referring call, only its place counts. -/
theorem ordered_single (walk : Bool) (log before after : List Action) (call : Call)
    (idleBefore : ∀ other, .hand other ∈ before → references walk other = [])
    (idleAfter : ∀ other, .hand other ∈ after → references walk other = []) :
    Ordered walk log (before ++ .hand call :: after) ↔
      ∀ entity ∈ references walk call, Handed (log ++ before) entity := by
  constructor
  · intro ordered
    exact ordered before call after rfl
  · intro handed front other back split entity member
    have referring : references walk other ≠ [] := List.ne_nil_of_mem member
    -- A referring call can stand only where the single one does.
    rcases List.append_eq_append_iff.mp split with ⟨middle, frontEq, rest⟩ | ⟨middle, rfl, rest⟩
    · cases middle with
      | nil =>
          simp only [List.nil_append, List.cons.injEq, Action.hand.injEq] at rest
          rw [frontEq, List.append_nil]
          exact handed entity (rest.1 ▸ member)
      | cons first others =>
          rw [List.cons_append, List.cons.injEq] at rest
          exact absurd (idleAfter other (by simp [rest.2])) referring
    · cases middle with
      | nil =>
          simp only [List.nil_append, List.cons.injEq, Action.hand.injEq] at rest
          rw [List.append_nil] at handed
          exact handed entity (rest.1 ▸ member)
      | cons first others =>
          rw [List.cons_append, List.cons.injEq] at rest
          exact absurd (idleBefore other (by simp [← rest.1])) referring

/-- What one turn does from tracked caches: they stay tracked, and the order
holds exactly when all that is referred to was cached. -/
structure Turn (walk : Bool) (caches : Caches) (log : List Action)
    (result : Caches × List Action) (refs : List Entity) : Prop where
  tracked : Tracked result.1 (log ++ result.2)
  ordered : Ordered walk log result.2 ↔ ∀ entity ∈ refs, Cached caches entity

section

variable (config : Config) (walk : Bool) (caches : Caches) (log : List Action)

theorem ordered_nothing (actions : List Action)
    (idle : ∀ call, .hand call ∈ actions → references walk call = []) :
    Ordered walk log actions ↔ ∀ entity ∈ ([] : List Entity), Cached caches entity :=
  iff_of_true (ordered_idle walk log actions idle) (by simp)

theorem turn_supporting (tracked : Tracked caches log) (result : Caches × List Action)
    (same : result.1.entities = caches.entities) (supporting : Supporting caches result.2) :
    Turn walk caches log result [] where
  tracked := by
    apply tracked_entities caches _ _ same
    exact
      { keyed := tracked.keyed
        seen := tracked.seen
        handed := fun entity => (handed_known caches log _ tracked supporting entity).symm }
  ordered := ordered_nothing walk caches log _ fun call member => (supporting call member).1 walk

/-- A turn around one referring call. -/
theorem turn_referring (tracked : Tracked caches log) (other : Caches) (before after : List Action)
    (call : Call) (same : other.entities = caches.entities) (names : call.entity = none)
    (supportingBefore : Supporting caches before) (silentAfter : after.all quiet) :
    Turn walk caches log (other, before ++ .hand call :: after) (references walk call) where
  tracked := by
    apply tracked_entities caches _ _ same
    have supportingAfter := supporting_of_quiet caches after silentAfter
    refine { keyed := tracked.keyed, seen := tracked.seen, handed := ?_ }
    intro entity
    rw [← handed_known caches log (before ++ after) tracked
      (supporting_append caches _ _ supportingBefore supportingAfter)]
    rw [← List.append_assoc, ← List.append_assoc]
    simp only [handed_append]
    -- The referring call itself hands over no entity.
    have none : ¬ Handed [.hand call] entity := by
      rintro ⟨handed, member, same⟩
      cases List.mem_singleton.mp member
      rw [names] at same
      cases same
    have rest : Handed (.hand call :: after) entity ↔ Handed after entity := by
      rw [← List.singleton_append, handed_append]
      simp [none]
    rw [rest]
  ordered := by
    rw [ordered_single walk log before after call
      (fun other member => (supportingBefore other member).1 walk)
      (fun other member => (supporting_of_quiet caches after silentAfter other member).1 walk)]
    exact forall₂_congr fun entity _ =>
      handed_known caches log before tracked supportingBefore entity

theorem entity_messageCall (chatId : Int) (message : TdApi.Message) :
    (messageCall chatId message).entity = none := by
  simp only [messageCall]
  split <;> rfl

theorem references_messageCall (chatId : Int) (message : TdApi.Message) :
    references walk (messageCall chatId message) =
      (if walk then rowRefs chatId message else []) ++ originRefs (extractForwardInfo message) := by
  simp only [messageCall, rowRefs]
  split <;> rfl

theorem turn_message (tracked : Tracked caches log)
    (privateSet : config.privateMsgHandler = true) (groupSet : config.groupMsgHandler = true)
    (chatId : Int) (message : TdApi.Message) (depth : Nat) (before after : List Action)
    (other : Caches) (same : other.entities = caches.entities)
    (supportingBefore : Supporting caches before) (silentAfter : after.all quiet) :
    Turn walk caches log
      ((handleMessage config other chatId message depth).1,
        before ++ (handleMessage config other chatId message depth).2 ++ after)
      ((if walk then rowRefs chatId message else []) ++
        originRefs (extractForwardInfo message)) := by
  obtain ⟨rest, actions, silent⟩ :=
    actions_message config other chatId message depth privateSet groupSet
  have trackedOther := tracked_entities caches other log same tracked
  have forward := supporting_of_entities caches other _ same
    (supporting_forward config other log trackedOther (extractForwardInfo message))
  have turn := turn_referring walk caches log tracked
    (handleMessage config other chatId message depth).1
    (before ++ forwardActions config other (extractForwardInfo message)) (rest ++ after)
    (messageCall chatId message)
    ((spared_message config _ spared_entities other chatId message depth).trans same)
    (entity_messageCall chatId message)
    (supporting_append caches _ _ supportingBefore forward)
    (by rw [List.all_append, silent, silentAfter]; rfl)
  rw [references_messageCall] at turn
  rw [actions]
  simpa using turn

theorem turn_admins (tracked : Tracked caches log) (other : Caches)
    (same : other.entities = caches.entities) (chatId : Int)
    (members : List (Option TdApi.ChatMember)) (before : List Action)
    (supportingBefore : Supporting caches before) :
    Turn walk caches log (other, before ++ emitAdmins config other chatId members)
      (adminRefs (adminsOf members)) := by
  have trackedOther := tracked_entities caches other log same tracked
  have ensured := supporting_of_entities caches other _ same
    (supporting_ensureUsers config other log trackedOther (adminsOf members))
  have supporting := supporting_append caches _ _ supportingBefore ensured
  simp only [emitAdmins]
  change Turn walk caches log (other, before ++ ((adminsOf members).flatMap _ ++
    if adminsOf members = [] then [] else _)) _
  by_cases empty : adminsOf members = []
  · rw [if_pos empty, List.append_nil, empty]
    apply turn_supporting walk caches log tracked _ same
    rw [empty] at supporting
    exact supporting
  · rw [if_neg empty, ← List.append_assoc]
    exact turn_referring walk caches log tracked other _ [] (.groupAdmins ⟨chatId, _⟩) same rfl
      supporting rfl

theorem turn_saveUser (tracked : Tracked caches log) (set : config.userHandler = true)
    (u : TdApi.User) (after : List Action) (silentAfter : after.all quiet) :
    Turn walk caches log
      ((saveUser config caches u).1, (saveUser config caches u).2 ++ after) [] where
  tracked := by
    have saved := tracked_saveUser config caches log set tracked u
    rw [← List.append_assoc]
    exact (turn_supporting walk _ _ saved (_, after) rfl
      (supporting_of_quiet _ after silentAfter)).tracked
  ordered := by
    apply ordered_nothing walk caches log
    intro call member
    rcases List.mem_append.mp member with saved | later
    · simp only [saveUser, set, ↓reduceIte] at saved
      rcases List.mem_append.mp saved with own | photo
      · cases List.mem_singleton.mp own
        rfl
      · exact (supporting_of_quiet caches _ (quiet_profilePhoto config caches u) call photo).1 walk
    · exact (supporting_of_quiet caches _ silentAfter call later).1 walk

theorem idle_emitGroup (groupId : Int) (call : Call)
    (member : .hand call ∈ emitGroup config caches groupId) : references walk call = [] := by
  simp only [emitGroup] at member
  split at member
  · cases member
  · split at member
    · cases List.mem_singleton.mp member
      rfl
    · cases member

theorem turn_newChat (tracked : Tracked caches log) (set : config.groupHandler = true)
    (chat : TdApi.Chat) (fromChatList : Bool) :
    Turn walk caches log (handleNewChat config caches chat fromChatList) [] := by
  have group (groupId : Int) (type : GroupType) :
      Turn walk caches log (handleGroupChat config caches chat fromChatList groupId type) [] := by
    refine ⟨tracked_groupChat config caches log set tracked chat fromChatList groupId type, ?_⟩
    obtain ⟨rest, actions, silent, _⟩ :=
      actions_groupChat config caches chat fromChatList groupId type
    apply ordered_nothing walk caches log
    intro call member
    rw [actions] at member
    rcases List.mem_append.mp member with emitted | quieter
    · exact idle_emitGroup config walk _ groupId call emitted
    · exact (supporting_of_quiet caches rest silent call quieter).1 walk
  simp only [handleNewChat]
  split
  · exact group _ _
  · exact group _ _
  · exact turn_supporting walk caches log tracked _ rfl (supporting_nil caches)
  · exact turn_supporting walk caches log tracked _ rfl (supporting_nil caches)

/-- A group state that keeps its chat is written and, maybe, handed over. -/
theorem turn_regrouped (tracked : Tracked caches log) (groupId : Int) (st : GroupState)
    (kept : st.chatSeen = true → (caches.chatToGroup st.chatId).isSome) (actions : List Action)
    (emits : actions = emitGroup config
        { caches with groupState := update caches.groupState groupId (some st) } groupId ∨
      actions = []) :
    Turn walk caches log
      ({ caches with groupState := update caches.groupState groupId (some st) }, actions) [] := by
  have regrouped := tracked_regrouped caches log groupId st tracked kept
  have supporting : Supporting
      { caches with groupState := update caches.groupState groupId (some st) } actions := by
    rcases emits with rfl | rfl
    · exact supporting_emitGroup config _ log regrouped groupId
    · exact supporting_nil _
  refine ⟨(turn_supporting walk _ log regrouped (_, actions) rfl supporting).tracked, ?_⟩
  exact ordered_nothing walk caches log actions fun call member => (supporting call member).1 walk

theorem turn_deletions (tracked : Tracked caches log) (chatId : Int) (messageIds : List Int)
    (isPermanent : Bool) :
    Turn false caches log
      (caches, handleDeleteMessages config chatId messageIds isPermanent) [] := by
  have deletions (call : Call)
      (member : .hand call ∈ handleDeleteMessages config chatId messageIds isPermanent) :
      call.entity = none ∧ references false call = [] := by
    simp only [handleDeleteMessages] at member
    split at member <;> split at member
    · obtain ⟨msgId, _, same⟩ := List.mem_map.mp member
      cases same
      exact ⟨rfl, rfl⟩
    · cases member
    · obtain ⟨msgId, _, same⟩ := List.mem_map.mp member
      cases same
      exact ⟨rfl, rfl⟩
    · cases member
  constructor
  · refine { keyed := tracked.keyed, seen := tracked.seen, handed := ?_ }
    intro entity
    rw [handed_append, ← tracked.handed entity, iff_self_or]
    rintro ⟨call, member, names⟩
    rw [(deletions call member).1] at names
    cases names
  · exact ordered_nothing false caches log _ fun call member => (deletions call member).2

end

section

variable (interval : Rat) (batch : Nat) (caches : Caches) (log : List Action)

theorem kept_state (tracked : Tracked caches log) (groupId : Int) (st : GroupState)
    (seen : st.chatSeen = ((caches.groupState groupId).getD {}).chatSeen)
    (chat : st.chatId = ((caches.groupState groupId).getD {}).chatId) :
    st.chatSeen = true → (caches.chatToGroup st.chatId).isSome := by
  intro chatSeen
  rw [seen] at chatSeen
  rw [chat]
  cases known : caches.groupState groupId with
  | none => simp [known] at chatSeen
  | some before =>
      rw [known, Option.getD_some] at chatSeen
      exact tracked.seen groupId before known chatSeen

theorem turn_basicGroup (impl : Impl) (tracked : Tracked impl.caches impl.log) (groupId : Int)
    (info : TdApi.BasicGroupFullInfo) :
    Turn false impl.caches impl.log
      (processUpdate (Config.started interval batch) impl.caches
        (.basicGroupFullInfo groupId (some info)))
      (referenced impl (.update (.basicGroupFullInfo groupId (some info)))) := by
  have kept := kept_state impl.caches impl.log tracked groupId
    { (impl.caches.groupState groupId).getD {} with description := info.description } rfl rfl
  have regrouped := turn_regrouped (Config.started interval batch) false impl.caches impl.log
    tracked groupId _ kept
  simp only [processUpdate, describe, referenced]
  -- Administrators follow only once the chat was seen, and only for a polled group.
  by_cases seen : ((impl.caches.groupState groupId).getD {}).chatSeen = true
  · by_cases polled : ((impl.caches.groupState groupId).getD {}).chatId ∈ impl.caches.adminPollSet
    · simp only [seen, polled, and_self, ↓reduceIte]
      have described := tracked_regrouped impl.caches impl.log groupId _ tracked kept
      have admins := turn_admins (Config.started interval batch) false _ impl.log described _ rfl
        ((impl.caches.groupState groupId).getD {}).chatId info.members _
        (supporting_emitGroup (Config.started interval batch) _ impl.log described groupId)
      simp only [seen] at admins
      refine ⟨admins.tracked, admins.ordered.trans ?_⟩
      apply forall₂_congr
      rintro (userId | chatId) _ <;> rfl
    · simp only [seen, polled, and_false, ↓reduceIte, List.append_nil]
      simp only [seen] at regrouped
      exact regrouped _ (Or.inl rfl)
  · simp only [seen, Bool.false_eq_true, false_and, ↓reduceIte]
    simp only [seen] at regrouped
    exact regrouped [] (Or.inr rfl)

/-- Every update, from tracked caches. -/
theorem turn_update (impl : Impl) (tracked : Tracked impl.caches impl.log) (u : TdApi.Update) :
    Turn false impl.caches impl.log (processUpdate (Config.started interval batch) impl.caches u)
      (referenced impl (.update u)) := by
  have nothing : Turn false impl.caches impl.log (impl.caches, []) [] :=
    turn_supporting false impl.caches impl.log tracked _ rfl (supporting_nil _)
  have silent (result : Caches × List Action) (same : result.1.entities = impl.caches.entities)
      (quiets : result.2.all quiet) : Turn false impl.caches impl.log result [] :=
    turn_supporting false impl.caches impl.log tracked result same (supporting_of_quiet _ _ quiets)
  cases u with
  | authorizationState state =>
      exact silent _ (caches_authorization _ _ state).1 (quiet_authorization _ _ state)
  | user user =>
      cases user with
      | none => exact nothing
      | some u =>
          apply turn_saveUser (Config.started interval batch) false _ _ tracked rfl u
          split
          · exact quiet_fullInfo _ _
          · rfl
  | userFullInfo userId info =>
      cases info with
      | none => exact nothing
      | some info => exact silent _ rfl rfl
  | file file =>
      cases file with
      | none => exact nothing
      | some f => exact silent _ (spared_fileUpdate _ _ spared_entities _ f) (quiet_fileUpdate _ _ f)
  | newChat chat =>
      cases chat with
      | none => exact nothing
      | some chat => exact turn_newChat _ false _ _ tracked rfl chat true
  | chatTitle chatId title =>
      simp only [processUpdate]
      split
      · exact nothing
      · rename_i groupId _
        exact turn_regrouped _ false _ _ tracked groupId
          { (impl.caches.groupState groupId).getD {} with title := title }
          (kept_state impl.caches impl.log tracked groupId _ rfl rfl) _ (Or.inl rfl)
  | chatPhoto chatId photo =>
      simp only [processUpdate]
      split
      · exact nothing
      · exact silent _ (spared_groupPhoto _ _ spared_entities _ chatId photo) (quiet_groupPhoto _ _ chatId photo)
  | supergroup supergroup =>
      cases supergroup with
      | none => exact nothing
      | some sg =>
          simp only [processUpdate, handleSupergroup]
          split
          · exact silent _ rfl rfl
          · rename_i st known
            -- Usernames and kind change; the chat of the group does not.
            have turn := turn_regrouped (Config.started interval batch) false
              { impl.caches with
                supergroups := update impl.caches.supergroups sg.id
                  (some
                    { active := (sg.usernames.getD {}).activeUsernames
                      disabled := (sg.usernames.getD {}).disabledUsernames
                      collectible := (sg.usernames.getD {}).collectibleUsernames
                      isChannel := sg.isChannel }) } impl.log
              (tracked_entities impl.caches _ _ rfl tracked) sg.id
              { st with
                activeUsernames := (sg.usernames.getD {}).activeUsernames
                disabledUsernames := (sg.usernames.getD {}).disabledUsernames
                collectibleUsernames := (sg.usernames.getD {}).collectibleUsernames
                type := if sg.isChannel then .channel else .supergroup }
              (tracked.seen sg.id st known) _ (Or.inl rfl)
            exact ⟨turn.tracked, turn.ordered.trans (by simp [referenced])⟩
  | supergroupFullInfo groupId info =>
      cases info with
      | none => exact nothing
      | some info =>
          simp only [processUpdate, describe]
          apply turn_regrouped (Config.started interval batch) false _ _ tracked groupId
            { (impl.caches.groupState groupId).getD {} with description := info.description }
            (kept_state impl.caches impl.log tracked groupId _ rfl rfl)
          by_cases seen : ((impl.caches.groupState groupId).getD {}).chatSeen = true
          · exact Or.inl (if_pos seen)
          · exact Or.inr (if_neg seen)
  | basicGroupFullInfo groupId info =>
      cases info with
      | none => exact nothing
      | some info => exact turn_basicGroup interval batch impl tracked groupId info
  | newMessage message =>
      have turn := turn_message (Config.started interval batch) false impl.caches impl.log tracked
        rfl rfl message.chatId message 0 [] _ impl.caches rfl (supporting_nil _)
        (quiet_text (Config.started interval batch)
          (handleMessage (Config.started interval batch) impl.caches message.chatId message 0).1
          message)
      simpa [processUpdate, handleNewMessage, referenced] using turn
  | messageContent chatId messageId newContent => exact nothing
  | messageEdited chatId messageId => exact silent _ rfl rfl
  | deleteMessages chatId messageIds isPermanent =>
      exact turn_deletions _ _ _ tracked chatId messageIds isPermanent
  | other => exact nothing

/-- The walk flag and the references of an answer, by what waited for it. -/
def answered (waiting : Continuation) (object : TdApi.Object) : Bool × List Entity :=
  match waiting, object with
  | .editedMessage, .message message => (false, originRefs (extractForwardInfo message))
  | .repliedMessage reply _, .message message =>
      (true, rowRefs reply.replyToChatId message ++ originRefs (extractForwardInfo message))
  | .repliedMessage _ _, _ => (true, [])
  | .groupAdmins _, .chatMembers members => (false, adminRefs (adminsOf members))
  | _, _ => (false, [])

/-- Every answer, from tracked caches. -/
theorem turn_resume (tracked : Tracked caches log) (waiting : Continuation)
    (object : TdApi.Object) :
    Turn (answered waiting object).1 caches log
      (resume (Config.started interval batch) caches waiting object)
      (answered waiting object).2 := by
  have nothing (walk : Bool) : Turn walk caches log (caches, []) [] :=
    turn_supporting walk caches log tracked _ rfl (supporting_nil _)
  have silent (walk : Bool) (result : Caches × List Action)
      (same : result.1.entities = caches.entities) (quiets : result.2.all quiet) :
      Turn walk caches log result [] :=
    turn_supporting walk caches log tracked result same (supporting_of_quiet _ _ quiets)
  cases waiting with
  | authentication => cases object <;> exact nothing false
  | me => cases object <;> exact nothing false
  | editedMessage =>
      cases object with
      | message message =>
          have turn := turn_message (Config.started interval batch) false caches log tracked rfl rfl
            message.chatId message 0 [] [] caches rfl (supporting_nil _) rfl
          simpa [resume, answered] using turn
      | _ => exact nothing false
  | repliedMessage reply depth =>
      cases object with
      | message message =>
          -- Marking the target as resolved touches no cache of entities.
          have marked : (markReplyResolved caches
              (reply.replyToChatId, reply.replyToMsgId)).entities = caches.entities := rfl
          have trackedMarked := tracked_entities caches _ log marked tracked
          have ensured := supporting_of_entities caches _ _ marked
            (supporting_entities (Config.started interval batch) _ log trackedMarked message)
          have turn := turn_message (Config.started interval batch) true caches log tracked rfl rfl
            reply.replyToChatId message (depth + 1) _ [.hand (.messageReply reply)] _ marked ensured
            rfl
          simpa [resume, answered] using turn
      | _ => exact silent true _ rfl rfl
  | savedUser =>
      cases object with
      | user u =>
          have turn := turn_saveUser (Config.started interval batch) false caches log tracked rfl u
            [] rfl
          simpa [resume, answered] using turn
      | _ => exact nothing false
  | savedChat =>
      cases object with
      | chat chat => exact turn_newChat _ false caches log tracked rfl chat false
      | _ => exact nothing false
  | fullInfo userId =>
      cases object with
      | userFullInfo info => exact silent false _ rfl rfl
      | _ => exact nothing false
  | groupAdmins chatId =>
      cases object with
      | chatMembers members =>
          have turn := turn_admins (Config.started interval batch) false caches log tracked caches
            rfl chatId members [] (supporting_nil _)
          exact ⟨tracked_entities caches _ _ rfl turn.tracked, turn.ordered⟩
      | error code =>
          simp only [resume, answered]
          split
          · exact silent false _ (caches_miss caches chatId).1 rfl
          · exact nothing false
      | _ => exact nothing false
  | adminAlarm =>
      cases object <;>
        exact silent false _ (caches_alarm _ caches).1 (quiet_alarm _ caches)

/-- Every event, from tracked caches. -/
theorem turn_event (impl : Impl) (tracked : Tracked impl.caches impl.log) (event : Event) :
    Turn (fetchedByWalk impl event) impl.caches impl.log
      (reaction (Config.started interval batch) impl event) (referenced impl event) := by
  have nothing : Turn false impl.caches impl.log (impl.caches, []) [] :=
    turn_supporting false impl.caches impl.log tracked _ rfl (supporting_nil _)
  cases event with
  | update u => exact turn_update interval batch impl tracked u
  | answer requestId object =>
      simp only [reaction, fetchedByWalk]
      cases known : impl.handlers requestId with
      | none =>
          have none : referenced impl (.answer requestId object) = [] := by
            cases object <;> simp [referenced, known]
          rw [none]
          exact nothing
      | some waiting =>
          have turn := turn_resume interval batch impl.caches impl.log tracked waiting object
          have refs : referenced impl (.answer requestId object) = (answered waiting object).2 := by
            cases object <;> cases waiting <;> simp [referenced, known, answered]
          rw [refs]
          cases waiting <;> cases object <;> exact turn
  | close =>
      exact turn_supporting false impl.caches impl.log tracked _ rfl
        (supporting_of_quiet _ _ rfl)

/-- In every reachable state the caches hold what was handed over. -/
theorem tracked_run (events : List Event) :
    Tracked (runEvents (Config.started interval batch) events).caches
      (runEvents (Config.started interval batch) events).log := by
  apply run_invariant (process (Config.started interval batch)) Impl.initial
    fun impl => Tracked impl.caches impl.log
  · refine ⟨?_, ?_, ?_⟩
    · rintro userId u ⟨⟩
    · rintro groupId st ⟨⟩
    · intro entity
      have log : Impl.initial.log = [.send .getOption none] := rfl
      constructor
      · intro known
        cases entity <;> cases known
      · rintro ⟨call, member, _⟩
        rw [log] at member
        cases List.mem_singleton.mp member
  · intro impl event tracked
    rw [caches_process, log_process]
    exact (turn_event interval batch impl tracked event).tracked

end

def handedUser : Action → Option User
  | .hand (.user u) => some u
  | _ => none

def handedGroup : Action → Option Group
  | .hand (.group g) => some g
  | _ => none

section

variable {Key : Type} [DecidableEq Key] (collate : String → Key) (order : MapOrder)

/-- The row of an entity once the serial worker has run all upserts of a log. -/
def RowStored (log : List Action) : Entity → Prop
  | .user userId =>
      ((userStore order (log.filterMap handedUser) : UserTables collate).users.lookup userId).isSome
  | .group chatId =>
      ((groupsStore order (log.filterMap handedGroup) : GroupRows collate).groups.lookup
        chatId).isSome

theorem user_stored_iff (us : List User) (userId : Int) :
    ((userStore order us : UserTables collate).users.lookup userId).isSome ↔
      ∃ u ∈ us, u.id = userId := by
  induction us using List.reverseRecOn with
  | nil => simp [userStore, UserTables.empty]
  | append_singleton us u ih =>
      have lookup := Table.lookup_insertOrUpdate (userStore order us : UserTables collate).users
        (newUserRow u) (overwriteUser u) (fun _ => rfl) userId
      change _ = if u.id = userId then _ else _ at lookup
      rw [userStore, run_snoc, ← userStore, users_upsertUser, lookup]
      by_cases own : u.id = userId <;> simp [own, ih]

theorem group_stored_iff (gs : List Group) (chatId : Int) :
    ((groupsStore order gs : GroupRows collate).groups.lookup chatId).isSome ↔
      ∃ g ∈ gs, g.id = chatId := by
  induction gs using List.reverseRecOn with
  | nil => simp [groupsStore, GroupRows.empty]
  | append_singleton gs g ih =>
      have lookup := Table.lookup_insertOrUpdate (groupsStore order gs : GroupRows collate).groups
        (newGroupRow g) (overwriteGroup g) (fun _ => rfl) chatId
      change _ = if g.id = chatId then _ else _ at lookup
      rw [groupsStore, run_snoc, ← groupsStore, groups_upsertGroup, lookup]
      by_cases own : g.id = chatId <;> simp [own, ih]

/-- Only an upsert creates the row of an entity, and every upsert does. -/
theorem rowStored_iff_handed (log : List Action) (entity : Entity) :
    RowStored collate order log entity ↔ Handed log entity := by
  cases entity with
  | user userId =>
      rw [RowStored, user_stored_iff]
      constructor
      · rintro ⟨u, member, rfl⟩
        obtain ⟨action, logged, names⟩ := List.mem_filterMap.mp member
        rcases action with call | ⟨query, handler⟩
        · cases call <;> cases names
          exact ⟨_, logged, rfl⟩
        · cases names
      · rintro ⟨call, logged, names⟩
        cases call <;> cases names
        exact ⟨_, List.mem_filterMap.mpr ⟨_, logged, rfl⟩, rfl⟩
  | group chatId =>
      rw [RowStored, group_stored_iff]
      constructor
      · rintro ⟨g, member, rfl⟩
        obtain ⟨action, logged, names⟩ := List.mem_filterMap.mp member
        rcases action with call | ⟨query, handler⟩
        · cases call <;> cases names
          exact ⟨_, logged, rfl⟩
        · cases names
      · rintro ⟨call, logged, names⟩
        cases call <;> cases names
        exact ⟨_, List.mem_filterMap.mpr ⟨_, logged, rfl⟩, rfl⟩

/-- No transaction of a turn meets a missing row when the worker reaches it. -/
def Accepted (walk : Bool) (log actions : List Action) : Prop :=
  ∀ before call after, actions = before ++ .hand call :: after →
    ∀ entity ∈ references walk call, RowStored collate order (log ++ before) entity

theorem accepted_iff_ordered (walk : Bool) (log actions : List Action) :
    Accepted collate order walk log actions ↔ Ordered walk log actions := by
  apply forall₄_congr
  intro before call after _
  apply forall₂_congr
  intro entity _
  exact rowStored_iff_handed collate order (log ++ before) entity

end

/-- Every event finds in the caches what its message or its administrators
refer to. -/
def ReferencesCached (config : Config) (events : List Event) : Prop :=
  EveryStep (process config) Impl.initial
    (fun impl event => ∀ entity ∈ referenced impl event, Cached impl.caches entity) events

/-- The upserts that the transactions of a run need are posted before them, and
no transaction of the run is rejected, exactly when every event finds the
entities it refers to in the caches. -/
theorem foreign_keys_in_queue_order {Key : Type} [DecidableEq Key] (collate : String → Key)
    (order : MapOrder) (interval : Rat) (batch : Nat) (events : List Event) :
    let config := Config.started interval batch
    (EveryStep (process config) Impl.initial
        (fun impl event => Ordered (fetchedByWalk impl event) impl.log
          (reaction config impl event).2) events ↔
      ReferencesCached config events) ∧
    (EveryStep (process config) Impl.initial
        (fun impl event => Accepted collate order (fetchedByWalk impl event) impl.log
          (reaction config impl event).2) events ↔
      ReferencesCached config events) := by
  intro config
  have turn (before : List Event) (event : Event) :=
    (turn_event interval batch _ (tracked_run interval batch before) event).ordered
  constructor
  · apply forall₄_congr
    intro before event after _
    exact turn before event
  · apply forall₄_congr
    intro before event after _
    exact (accepted_iff_ordered collate order _ _ _).trans (turn before event)

/-- A message forwarded from a user that was never seen. -/
def forwardOfUnknown : TdApi.Message where
  id := 7
  chatId := 5
  senderId := some (.user 5)
  content := some (.text (some "hi"))
  forwardInfo := some { origin := some (.user 42) }

/-- The user is asked for, but the message does not wait for the answer. -/
theorem forward_precedes_origin :
    let config := Config.started 300 4
    Impl.initial.log = [.send .getOption none] ∧
    (reaction config Impl.initial (.update (.newMessage forwardOfUnknown))).2 =
      [.send (.getUser 42) (some .savedUser),
        .hand (.privateMessage (buildPrivateMessage forwardOfUnknown)),
        .hand (.textMessage ⟨5, 7, "", "", "hi"⟩)] ∧
    ¬ EveryStep (process config) Impl.initial
        (fun impl event => Ordered (fetchedByWalk impl event) impl.log
          (reaction config impl event).2) [.update (.newMessage forwardOfUnknown)] := by
  intro config
  have posted : (reaction config Impl.initial (.update (.newMessage forwardOfUnknown))).2 =
      [.send (.getUser 42) (some .savedUser),
        .hand (.privateMessage (buildPrivateMessage forwardOfUnknown)),
        .hand (.textMessage ⟨5, 7, "", "", "hi"⟩)] := by decide
  refine ⟨rfl, posted, ?_⟩
  intro every
  obtain ⟨call, member, _⟩ :=
    every [] _ [] rfl [.send (.getUser 42) (some .savedUser)] _ _ posted (.user 42) (by decide)
  have queries : ∀ action ∈ Impl.initial.log ++ [.send (.getUser 42) (some .savedUser)],
      action ≠ .hand call := by
    intro action posted same
    rw [same] at posted
    rcases List.mem_append.mp posted with first | second
    · cases List.mem_singleton.mp first
    · cases List.mem_singleton.mp second
  exact queries _ member rfl

end TgLoggerd

import TgLoggerd.ReplyRows

/-!
Links of replies from the events to the rows. Every message handled with a reply
target has its link posted once, behind the upserts of both its ends; when upserts
commit in their turn, the link job finds the rows it needs.
-/

namespace TgLoggerd

open SerialRun Requests

def Move.event : Move → Option Event
  | .receive event => some event
  | _ => none

/-- The events among the moves of a run. -/
def received (moves : List Move) : List Event := moves.filterMap Move.event

abbrev Logger.after (config : Config) (moves : List Move) : Logger :=
  run (advance config) Logger.initial moves

def UpsertPosted (jobs : List Job) (key : Int × Int) (isGroup : Bool) : Prop :=
  ∃ job ∈ jobs, job.op.stores = some (key, isGroup)

/-- A job that stores a message does not fail. -/
def UpsertsSucceed (logger : Logger) : Move → Prop
  | .fail => ∀ job ∈ logger.queue.head?, job.op.stores = none
  | _ => True

/-- The links that were posted, as often as their messages were handled. -/
structure LinkedOnce (config : Config) (events : List Event) : Prop where
  /-- A turn posts the link whose query is answered; the link of the message it
  handles it posts as well, or asks for its target. -/
  turns : ∀ before event after, events = before ++ event :: after →
    let impl := runEvents config before
    ∃ now, postedLinks (reaction config impl event).2 = now + answeredLink impl event ∧
      now + askedLinks (reaction config impl event).2 = (handledLink impl event).toList
  account : postedLinks (runEvents config events).log + waitingLinks (runEvents config events) =
    handledLinks config events
  /-- Once every query for a target is answered. -/
  answered : (∀ requestId reply depth, (runEvents config events).handlers requestId ≠
      some (.repliedMessage reply depth)) →
    postedLinks (runEvents config events).log = handledLinks config events

/-- A link was posted after the rows it refers to; `events` reach up to the turn
that posts it. -/
structure PostedAfterRows (config : Config) (events : List Event) (ahead : List Job)
    (reply : MessageReply) : Prop where
  source : UpsertPosted ahead (reply.chatId, reply.messageId) reply.isGroup
  resolved : (reply.replyToChatId, reply.replyToMsgId) ∈
      (runEvents config events).caches.resolvedReplyTargets →
    UpsertPosted ahead (reply.replyToChatId, reply.replyToMsgId)
      (!isPrivateChat reply.replyToChatId)
  fetched : Met config events (reply.replyToChatId, reply.replyToMsgId) →
    UpsertPosted ahead (reply.replyToChatId, reply.replyToMsgId)
      (!isPrivateChat reply.replyToChatId)

/-- The row of the message carries the link, with the number of the target's row
if the target is known and of the same kind. -/
def RowLinked (logger : Logger) (reply : MessageReply) (known : Prop) : Prop :=
  ∃ row, logger.replyRow reply.isGroup (reply.chatId, reply.messageId) = some row ∧
    row.replyToChatId = some reply.replyToChatId ∧ row.replyToMsgId = some reply.replyToMsgId ∧
    (known → reply.isGroup = !isPrivateChat reply.replyToChatId →
      ∃ target, logger.replyRow reply.isGroup (reply.replyToChatId, reply.replyToMsgId) =
        some target ∧ row.replyToId = some target.id)

section

variable (config : Config)

theorem received_snoc (moves : List Move) (move : Move) :
    received (moves ++ [move]) = received moves ++ move.event.toList := by
  rw [received, List.filterMap_append, ← received]
  cases found : move.event <;> simp [found]

/-- Only a turn of the loop changes the wrapper or posts links. -/
theorem advance_other (logger : Logger) (move : Move) (silent : move.event = none) :
    (advance config logger move).impl = logger.impl ∧
      ∃ more, (advance config logger move).posted = logger.posted ++ more ∧
        ∀ job ∈ more, job.op.links = none := by
  cases move with
  | receive event => cases silent
  | link mf fileId =>
      simp only [advance]
      split
      · refine ⟨rfl, [linkJob mf fileId], rfl, ?_⟩
        intro job member
        rw [List.mem_singleton.mp member, linkJob]
        split <;> rfl
      · exact ⟨rfl, [], by simp, by simp⟩
  | commit =>
      simp only [advance]
      split
      · exact ⟨rfl, [], by simp, by simp⟩
      · next job rest queued => cases job.op <;> exact ⟨rfl, [], by simp [Logger.apply], by simp⟩
  | fail =>
      simp only [advance]
      split <;> exact ⟨rfl, [], by simp, by simp⟩

theorem impl_run (moves : List Move) :
    (Logger.after config moves).impl = runEvents config (received moves) := by
  induction moves using List.reverseRecOn with
  | nil => rfl
  | append_singleton moves move ih =>
      rw [Logger.after, run_snoc, received_snoc]
      cases found : move.event with
      | none =>
          rw [(advance_other config _ move found).1, ih, Option.toList_none, List.append_nil]
      | some event =>
          cases move with
          | receive other =>
              cases found
              rw [Option.toList_some, runEvents_snoc, ← ih]
              rfl
          | _ => cases found

theorem posted_advance (logger : Logger) (move : Move) :
    logger.posted <+: (advance config logger move).posted := by
  cases found : move.event with
  | none =>
      obtain ⟨more, grown, _⟩ := (advance_other config logger move found).2
      exact ⟨more, grown.symm⟩
  | some event =>
      cases move with
      | receive other => exact List.prefix_append _ _
      | _ => cases found

theorem posted_run (logger : Logger) (moves : List Move) :
    logger.posted <+: (run (advance config) logger moves).posted := by
  induction moves using List.reverseRecOn with
  | nil => exact List.prefix_rfl
  | append_singleton moves move ih =>
      rw [run_snoc]
      exact ih.trans (posted_advance config _ move)

theorem upsertPosted_jobsOf (jobs : List Job) (log : List Action) (event : Event)
    (actions : List Action)
    (before : ∀ key isGroup, Saved log key isGroup → UpsertPosted jobs key isGroup)
    (key : Int × Int) (isGroup : Bool) (saved : Saved (log ++ actions) key isGroup) :
    UpsertPosted (jobs ++ jobsOf event actions) key isGroup := by
  obtain ⟨call, member, stores⟩ := saved
  rcases List.mem_append.mp member with old | fresh
  · obtain ⟨job, held, same⟩ := before key isGroup ⟨call, old, stores⟩
    exact ⟨job, List.mem_append_left _ held, same⟩
  · obtain ⟨op, posts, same⟩ := Option.bind_eq_some_iff.mp stores
    have posted : ⟨some event, op⟩ ∈ jobsOf event actions :=
      List.mem_filterMap.mpr ⟨_, fresh, by simp [posts]⟩
    exact ⟨⟨some event, op⟩, List.mem_append_right _ posted, same⟩

/-- What was handed over to be saved is posted. -/
theorem upsertPosted_run (moves : List Move) (key : Int × Int) (isGroup : Bool)
    (saved : Saved (Logger.after config moves).impl.log key isGroup) :
    UpsertPosted (Logger.after config moves).posted key isGroup := by
  apply run_invariant (advance config) Logger.initial (fun logger =>
    ∀ key isGroup, Saved logger.impl.log key isGroup → UpsertPosted logger.posted key isGroup) _ _
    moves key isGroup saved
  · rintro key isGroup ⟨call, member, _⟩
    cases List.mem_singleton.mp member
  · intro logger move before key isGroup saved
    cases found : move.event with
    | none =>
        obtain ⟨same, more, grown, _⟩ := advance_other config logger move found
        rw [same] at saved
        obtain ⟨job, held, stores⟩ := before key isGroup saved
        exact ⟨job, by rw [grown]; exact List.mem_append_left _ held, stores⟩
    | some event =>
        cases move with
        | receive other =>
            simp only [advance, Logger.post, log_process] at saved ⊢
            exact upsertPosted_jobsOf _ _ other _ before key isGroup saved
        | _ => cases found

theorem links_jobsOf (event : Event) (actions : List Action) :
    ((jobsOf event actions).filterMap fun job => job.op.links : Multiset _) =
      (postedLinks actions).map MessageReply.ends := by
  induction actions with
  | nil => rfl
  | cons action rest ih =>
      have jobs : jobsOf event (action :: rest) = jobsOf event [action] ++ jobsOf event rest := by
        rw [jobsOf, ← List.singleton_append, List.filterMap_append, ← jobsOf, ← jobsOf]
      have links : postedLinks (action :: rest) = postedLinks [action] + postedLinks rest := by
        rw [← List.singleton_append, postedLinks_append]
      have here : ((jobsOf event [action]).filterMap fun job => job.op.links : Multiset _) =
          (postedLinks [action]).map MessageReply.ends := by
        rcases action with call | ⟨query, handler⟩
        · cases call with
          | messageReply reply =>
              cases isGroup : reply.isGroup <;>
                simp [jobsOf, handlerJob, postedLinks, Action.link, isGroup, StoreOp.links,
                  MessageOp.links, MessageReply.ends]
          | _ => rfl
        · rfl
      rw [jobs, links, List.filterMap_append, Multiset.map_add, ← Multiset.coe_add, here, ih]

/-- The link jobs are those of the links that were posted. -/
theorem links_posted (moves : List Move) :
    ((Logger.after config moves).posted.filterMap fun job => job.op.links :
        Multiset _) =
      (postedLinks (Logger.after config moves).impl.log).map MessageReply.ends := by
  apply run_invariant (advance config) Logger.initial (fun logger =>
    (logger.posted.filterMap fun job => job.op.links : Multiset _) =
      (postedLinks logger.impl.log).map MessageReply.ends)
  · rfl
  · intro logger move before
    cases found : move.event with
    | none =>
        obtain ⟨same, more, grown, none⟩ := advance_other config logger move found
        rw [same, grown, List.filterMap_append, List.filterMap_eq_nil_iff.mpr none, List.append_nil]
        exact before
    | some event =>
        cases move with
        | receive other =>
            simp only [advance, Logger.post, log_process, List.filterMap_append, postedLinks_append,
              Multiset.map_add, ← Multiset.coe_add]
            rw [before, links_jobsOf]
        | _ => cases found

/-- The worker took the jobs posted first, and the upserts among them committed. -/
def Worked (logger : Logger) : Prop :=
  ∃ taken, logger.posted = taken ++ logger.queue ∧
    ∀ job ∈ taken, job.op.stores ≠ none → job ∈ logger.committed

theorem worked_advance (logger : Logger) (move : Move) (worked : Worked logger)
    (succeeds : UpsertsSucceed logger move) : Worked (advance config logger move) := by
  obtain ⟨taken, posted, committed⟩ := worked
  cases move with
  | receive event =>
      refine ⟨taken, ?_, committed⟩
      simp only [advance, Logger.post]
      rw [posted, List.append_assoc]
  | link mf fileId =>
      simp only [advance]
      split
      · refine ⟨taken, ?_, committed⟩
        simp only [Logger.post]
        rw [posted, List.append_assoc]
      · exact ⟨taken, posted, committed⟩
  | commit =>
      simp only [advance]
      split
      · exact ⟨taken, posted, committed⟩
      · next job rest queued =>
        rw [queued] at posted
        refine ⟨taken ++ [job], ?_, ?_⟩
        · rw [List.append_assoc, List.singleton_append, ← posted]
          cases job.op <;> rfl
        · intro other member stores
          rcases List.mem_append.mp member with old | fresh
          · exact List.mem_append_left _ (committed other old stores)
          · exact List.mem_append_right _ fresh
  | fail =>
      simp only [advance]
      split
      · exact ⟨taken, posted, committed⟩
      · next job rest queued =>
        have silent := succeeds job (by simp [queued])
        rw [queued] at posted
        refine ⟨taken ++ [job], by simpa using posted, ?_⟩
        intro other member stores
        rcases List.mem_append.mp member with old | fresh
        · exact committed other old stores
        · rw [List.mem_singleton.mp fresh] at stores
          exact absurd silent stores

theorem worked_run (moves : List Move)
    (succeed : EveryStep (advance config) Logger.initial UpsertsSucceed moves) :
    Worked (Logger.after config moves) :=
  everyStep_invariant (advance config) Logger.initial Worked UpsertsSucceed ⟨[], rfl, by simp⟩
    (worked_advance config) moves succeed

section

variable (reply : MessageReply) (known : Prop)

/-- The link is in its row, unless the message was linked again after the first
`count` jobs. -/
def LinkKept (count : Nat) (logger : Logger) : Prop :=
  count ≤ logger.committed.length ∧
    ((∀ job ∈ logger.committed.drop count, ∀ target,
        job.op.links ≠ some (reply.ends.1, target)) → RowLinked logger reply known)

theorem linkKept_advance (count : Nat) (logger : Logger) (move : Move)
    (kept : LinkKept reply known count logger) :
    LinkKept reply known count (advance config logger move) := by
  obtain ⟨early, linked⟩ := kept
  rcases advance_cases logger config move with
    ⟨privates, groups, committed⟩ | ⟨job, rest, rfl, queued, next⟩
  · simp only [LinkKept, committed, RowLinked, Logger.replyRow, privates, groups]
    exact ⟨early, linked⟩
  · rw [next]
    constructor
    · simp only [List.length_append]
      omega
    · simp only
      rw [List.drop_append_of_le_length early]
      intro others
      obtain ⟨row, found, chat, message, points⟩ :=
        linked fun job member => others job (List.mem_append_left _ member)
      have stays := replyRow_apply_kept logger job.op reply.isGroup _ row found
        (others job (List.mem_append_right _ (List.mem_singleton_self job)))
      refine ⟨row, stays, chat, message, ?_⟩
      intro knows same
      obtain ⟨target, there, number⟩ := points knows same
      obtain ⟨held, still, unchanged⟩ :=
        replyRow_apply_persists logger job.op reply.isGroup _ target there
      exact ⟨held, still, by rw [number, unchanged]⟩

/-- The link job of a message finds its row, and that of a known target of the
same kind. -/
theorem linkKept_commit (logger : Logger) (job : Job) (rest : List Job)
    (queued : logger.queue = job :: rest) (links : job.op.links = some reply.ends)
    (source : ∃ row, logger.replyRow reply.isGroup (reply.chatId, reply.messageId) = some row)
    (target : known → reply.isGroup = !isPrivateChat reply.replyToChatId →
      ∃ row, logger.replyRow reply.isGroup (reply.replyToChatId, reply.replyToMsgId) = some row) :
    LinkKept reply known (logger.committed.length + 1) (advance config logger .commit) := by
  obtain ⟨old, found⟩ := source
  have written := replyRow_apply_linked logger job.op reply.isGroup _ _ old found links
  simp only [advance, queued]
  refine ⟨by simp, fun _ => ⟨_, written, rfl, rfl, ?_⟩⟩
  intro knows same
  obtain ⟨row, there⟩ := target knows same
  obtain ⟨held, still, unchanged⟩ :=
    replyRow_apply_persists logger job.op reply.isGroup _ row there
  exact ⟨held, still, by rw [there, Option.map_some, unchanged]⟩

end

end

section

variable (interval : Rat) (batch : Nat)

theorem linkedOnce_run (events : List Event) :
    LinkedOnce (Config.started interval batch) events where
  turns before event after split := links_turn interval batch _ event
  account := links_run interval batch events
  answered none := by
    rw [← links_run interval batch events, waitingLinks, outstanding_of_none, add_zero]
    intro number
    cases found : (runEvents (Config.started interval batch) events).handlers number with
    | none => rfl
    | some waiting =>
        cases waiting with
        | repliedMessage reply depth => exact absurd found (none number reply depth)
        | _ => rfl

theorem postedAfterRows_turn (early : List Move) (event : Event)
    (truthful : EveryStep (process (Config.started interval batch)) Impl.initial Truthful
      (received early ++ [event])) (before after : List Action) (reply : MessageReply) :
    let config := Config.started interval batch
    (reaction config (Logger.after config early).impl event).2 =
      before ++ .hand (.messageReply reply) :: after →
    PostedAfterRows config (received early ++ [event])
      ((Logger.after config early).posted ++ jobsOf event before) reply := by
  intro config split
  have settled := repliesSettled_run interval batch _ truthful
  obtain ⟨every, last⟩ := (everyStep_snoc _ _ _ _ _).mp truthful
  have answers := answers_turn interval batch _ _ event
    (fresh_run _ (received early)) (repliesSettled_run interval batch _ every) last
  rw [impl_run] at split
  obtain ⟨source, target⟩ := answers.ready before _ after split
  have posted := upsertPosted_jobsOf (Logger.after config early).posted
    (runEvents config (received early)).log event before
    (fun key isGroup saved => upsertPosted_run config early key isGroup
      (by rw [impl_run]; exact saved))
  have fetched (known : Met config (received early ++ [event])
      (reply.replyToChatId, reply.replyToMsgId)) :=
    posted _ _ (target ((met_snoc config _ event _).mp known))
  exact ⟨posted _ _ source, fun member => fetched (settled.resolved _ member), fetched⟩

theorem jobsOf_split (event : Event) (before after : List Action) (reply : MessageReply) :
    ∃ job, jobsOf event (before ++ .hand (.messageReply reply) :: after) =
        jobsOf event before ++ job :: jobsOf event after ∧ job.op.links = some reply.ends := by
  cases isGroup : reply.isGroup with
  | false =>
      refine ⟨⟨some event, .onPrivate (.setReply reply.chatId reply.messageId reply.replyToChatId
        reply.replyToMsgId)⟩, by simp [jobsOf, handlerJob, isGroup], ?_⟩
      simp [StoreOp.links, MessageOp.links, MessageReply.ends, isGroup]
  | true =>
      refine ⟨⟨some event, .onGroup (.setReply reply.chatId reply.messageId reply.replyToChatId
        reply.replyToMsgId)⟩, by simp [jobsOf, handlerJob, isGroup], ?_⟩
      simp [StoreOp.links, MessageOp.links, MessageReply.ends, isGroup]

/-- The link job that a turn posted finds what it needs when its time comes. -/
theorem linkKept_turn (early mid : List Move) (event : Event) (before after : List Action)
    (reply : MessageReply) :
    let config := Config.started interval batch
    let ahead := (Logger.after config early).posted ++ jobsOf event before
    let known := Met config (received early ++ [event])
      (reply.replyToChatId, reply.replyToMsgId)
    let logger := Logger.after config (early ++ .receive event :: mid)
    EveryStep (advance config) Logger.initial UpsertsSucceed (early ++ .receive event :: mid) →
    (reaction config (Logger.after config early).impl event).2 =
      before ++ .hand (.messageReply reply) :: after →
    PostedAfterRows config (received early ++ [event]) ahead reply →
    logger.posted = ahead ++ logger.queue →
    LinkKept reply known (logger.committed.length + 1) (advance config logger .commit) := by
  intro config ahead known logger succeed split ordered here
  obtain ⟨job, jobs, links⟩ := jobsOf_split event before after reply
  -- The job stands behind those posted before it.
  have grown : (Logger.after config early).posted ++ jobsOf event
      (before ++ .hand (.messageReply reply) :: after) <+: logger.posted := by
    have later := posted_run config (advance config (Logger.after config early) (.receive event)) mid
    rw [← split]
    simp only [logger, Logger.after, run_append] at later ⊢
    exact later
  obtain ⟨more, posted⟩ := grown
  rw [jobs, here, ← List.append_assoc, List.append_assoc _ (job :: _)] at posted
  have queued := List.append_cancel_left posted
  obtain ⟨taken, whole, committed⟩ := worked_run config _ succeed
  have same : taken = ahead := List.append_cancel_right (whole.symm.trans here)
  have rows := rows_run config (early ++ .receive event :: mid)
  have stored (key : Int × Int) (isGroup : Bool) (upserts : UpsertPosted ahead key isGroup) :
      ∃ row, logger.replyRow isGroup key = some row := by
    obtain ⟨upsert, member, stores⟩ := upserts
    rw [← same] at member
    exact rows.stored upsert (committed upsert member (by simp [stores])) key isGroup stores
  apply linkKept_commit config reply known logger job _ queued.symm links
  · exact stored _ _ ordered.source
  · intro knows kind
    rw [kind]
    exact stored _ _ (ordered.fetched knows)

/-- Every message handled with a reply target has its link posted exactly once,
behind its own upsert and behind that of a target which was marked or met by then.
When the link job is committed in its turn, upserts having succeeded, the row holds
the target and the number of its row, until the message is linked again; and
reply_to_id points to no other row. -/
theorem replies_linked (moves : List Move)
    (truthful : EveryStep (process (Config.started interval batch)) Impl.initial Truthful
      (received moves))
    (succeed : EveryStep (advance (Config.started interval batch)) Logger.initial UpsertsSucceed
      moves) :
    let config := Config.started interval batch
    LinkedOnce config (received moves) ∧
    ((Logger.after config moves).posted.filterMap fun job => job.op.links : Multiset _) =
      (postedLinks (Logger.after config moves).impl.log).map MessageReply.ends ∧
    (∀ early event late, moves = early ++ .receive event :: late →
      ∀ before reply after, (reaction config (Logger.after config early).impl event).2 =
          before ++ .hand (.messageReply reply) :: after →
        let ahead := (Logger.after config early).posted ++ jobsOf event before
        PostedAfterRows config (received early ++ [event]) ahead reply ∧
        ∀ mid rest, late = mid ++ .commit :: rest →
          let turn := Logger.after config (early ++ .receive event :: mid)
          turn.posted = ahead ++ turn.queue →
          LinkKept reply
            (Met config (received early ++ [event]) (reply.replyToChatId, reply.replyToMsgId))
            (turn.committed.length + 1) (Logger.after config moves)) ∧
    EveryState (advance config) Logger.initial RepliesPointHome moves := by
  intro config
  refine ⟨linkedOnce_run interval batch _, links_posted config moves, ?_, ?_⟩
  · rintro early event late rfl before reply after split ahead
    have events : received (early ++ .receive event :: late) =
        received early ++ [event] ++ received late := by
      simp [received, Move.event]
    have genuine : EveryStep (process config) Impl.initial Truthful (received early ++ [event]) := by
      rw [events] at truthful
      exact (everyStep_append _ _ _ _ _ truthful).1
    have ordered := postedAfterRows_turn interval batch early event genuine before after reply split
    refine ⟨ordered, ?_⟩
    rintro mid rest rfl turn here
    have whole : early ++ .receive event :: (mid ++ .commit :: rest) =
        early ++ .receive event :: mid ++ .commit :: rest := by simp
    rw [whole] at succeed ⊢
    have linked := linkKept_turn interval batch early mid event before after reply
      (everyStep_append _ _ _ _ _ succeed).1 split ordered here
    rw [Logger.after, run_append]
    exact run_invariant (advance config) _ _ linked
      (fun logger move kept => linkKept_advance config reply _ _ logger move kept) rest
  · intro before after split
    exact repliesPointHome_of_rows _ (rows_run config before)

end

/-- A reply to a message that was not seen before, which is then fetched. -/
def replyMoves : List Move :=
  [.receive (.update (.newMessage { id := 8, chatId := 5, replyTo := some (.message 0 7) })),
    .receive (.answer 2 (.message { id := 7, chatId := 5 })), .commit, .commit, .commit]

theorem replies_linked_at_fetch :
    let config := Config.started 300 4
    let logger := Logger.after config replyMoves
    postedLinks logger.impl.log = {⟨5, 8, 5, 7, false⟩} ∧
    (∃ row target, logger.replyRow false (5, 8) = some row ∧
      logger.replyRow false (5, 7) = some target ∧ row.replyToId = some target.id) ∧
    EveryState (advance config) Logger.initial RepliesPointHome replyMoves := by
  intro config logger
  have truthful : EveryStep (process config) Impl.initial Truthful (received replyMoves) := by
    apply forall_split_cons
    · rintro requestId message reply depth ⟨⟩
    · apply forall_split_cons
      · rintro requestId message reply depth ⟨⟩ found
        have waits : (run (process config) Impl.initial
            [.update (.newMessage { id := 8, chatId := 5, replyTo := some (.message 0 7) })]).handlers
              2 = some (.repliedMessage ⟨5, 8, 5, 7, false⟩ 0) := by decide
        cases waits.symm.trans found
        rfl
      · exact forall_split_nil _
  have succeed : EveryStep (advance config) Logger.initial UpsertsSucceed replyMoves := by
    intro before move after split
    cases move with
    | fail =>
        have member : Move.fail ∈ replyMoves := by simp [split]
        simp [replyMoves] at member
    | _ => trivial
  obtain ⟨_, _, order, home⟩ := replies_linked 300 4 replyMoves truthful succeed
  refine ⟨by decide, ?_, home⟩
  obtain ⟨_, linked⟩ := order
    [.receive (.update (.newMessage { id := 8, chatId := 5, replyTo := some (.message 0 7) }))]
    (.answer 2 (.message { id := 7, chatId := 5 })) [.commit, .commit, .commit] rfl
    [.send (.getUser 5) (some .savedUser),
      .hand (.privateMessage (buildPrivateMessage { id := 7, chatId := 5 }))]
    ⟨5, 8, 5, 7, false⟩ [] (by decide)
  obtain ⟨_, kept⟩ := linked [.commit, .commit] [] rfl (by decide)
  have last : logger.committed.drop 3 = [] := by decide
  obtain ⟨row, found, _, _, points⟩ := kept (by
    intro job member
    rw [show (Logger.after config _).committed.length = 2 from by decide, last] at member
    cases member)
  obtain ⟨target, there, number⟩ := points
    ⟨_, _, [], 5, { id := 7, chatId := 5 }, rfl, by decide, rfl⟩ (by decide)
  exact ⟨row, target, found, there, number⟩

end TgLoggerd

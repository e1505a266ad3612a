import TgLoggerd.Logger
import TgLoggerd.Reactions

/-!
Which updates flag a stored message as deleted. `handle_delete_messages` does
not read is_permanent, so an update that only reports messages as gone from
TDLib's own cache is handed over like a real deletion. A row is flagged exactly
when a deletion was committed since its last other upsert; whether that one was
permanent hangs on the rows that non-permanent reports meet.
-/

namespace TgLoggerd

open SerialRun

section

variable {Sender : Type}

/-- The operation stores the message with its content. -/
def Stores (key : Int × Int) : MessageOp Sender → Prop
  | .upsert msg => msg.key = key ∧ msg.isDeleted = false
  | .setFile _ _ _ => False
  | .setReply _ _ _ _ => False

/-- The operation reports the message as deleted. -/
def Deletes (key : Int × Int) : MessageOp Sender → Prop
  | .upsert msg => msg.key = key ∧ msg.isDeleted = true
  | .setFile _ _ _ => False
  | .setReply _ _ _ _ => False

theorem not_stores_of_deletes (key : Int × Int) (op : MessageOp Sender)
    (deletion : Deletes key op) : ¬ Stores key op := by
  cases op with
  | upsert msg =>
      rintro ⟨_, live⟩
      rw [deletion.2] at live
      cases live
  | setFile chatId messageId fileId => cases deletion
  | setReply chatId messageId replyToChatId replyToMessageId => cases deletion

theorem isDeleted_rewrite (msg : Message Sender) (old : MessageRow Sender) :
    (rewrite msg old).isDeleted = msg.isDeleted := by
  unfold rewrite
  split
  · rename_i flagged
    exact (Bool.and_eq_true_iff.mp flagged).1.symm
  · rfl

/-- The flag of one message, while it has a row. -/
def flag (tables : MessageTables Sender) (key : Int × Int) : Option Bool :=
  (tables.lookup key).map MessageRow.isDeleted

theorem flag_stores (tables : MessageTables Sender) (op : MessageOp Sender) (key : Int × Int)
    (storing : Stores key op) : flag (messageStep tables op) key = some false := by
  cases op with
  | upsert msg =>
      obtain ⟨rfl, live⟩ := storing
      rw [flag, messageStep, lookup_upsert, if_pos rfl]
      cases tables.lookup msg.key with
      | none => simp [live, newRow]
      | some old => simp [isDeleted_rewrite, live]
  | setFile chatId messageId fileId => cases storing
  | setReply chatId messageId replyToChatId replyToMessageId => cases storing

theorem flag_deletes (tables : MessageTables Sender) (op : MessageOp Sender) (key : Int × Int)
    (deletion : Deletes key op) :
    flag (messageStep tables op) key = (flag tables key).map fun _ => true := by
  cases op with
  | upsert msg =>
      obtain ⟨rfl, deleted⟩ := deletion
      rw [flag, flag, messageStep, lookup_upsert, if_pos rfl]
      cases tables.lookup msg.key with
      | none => simp [deleted]
      | some old => simp [isDeleted_rewrite, deleted]
  | setFile chatId messageId fileId => cases deletion
  | setReply chatId messageId replyToChatId replyToMessageId => cases deletion

theorem flag_other (tables : MessageTables Sender) (op : MessageOp Sender) (key : Int × Int)
    (notStoring : ¬ Stores key op) (notDeleting : ¬ Deletes key op) :
    flag (messageStep tables op) key = flag tables key := by
  cases op with
  | upsert msg =>
      have other : msg.key ≠ key := by
        intro same
        cases deleted : msg.isDeleted with
        | false => exact notStoring ⟨same, deleted⟩
        | true => exact notDeleting ⟨same, deleted⟩
      rw [flag, messageStep, lookup_upsert, if_neg other, flag]
  | setFile chatId messageId fileId =>
      rw [flag, messageStep, lookup_setMessageFile, Option.map_map, flag]
      apply congrFun (congrArg Option.map _)
      funext row
      simp only [Function.comp]
      split <;> rfl
  | setReply chatId messageId replyToChatId replyToMessageId =>
      rw [flag, messageStep, lookup_setMessageReply, Option.map_map, flag]
      apply congrFun (congrArg Option.map _)
      funext row
      simp only [Function.comp]
      split <;> rfl

/-- A stored message is flagged exactly when a deletion of it was committed
since it was last stored. -/
theorem flagged_iff_since (ops : List (MessageOp Sender)) (key : Int × Int) (deleted : Bool)
    (found : flag (messageStore ops) key = some deleted) :
    deleted = true ↔ Since (Deletes key) (Stores key) ops := by
  induction ops using List.reverseRecOn generalizing deleted with
  | nil => cases found
  | append_singleton ops op ih =>
      rw [messageStore_snoc] at found
      rw [since_snoc]
      -- The last operation stores the message, deletes it, or leaves its flag alone.
      by_cases storing : Stores key op
      · rw [flag_stores _ op key storing] at found
        cases found
        have notDeleting : ¬ Deletes key op := fun deletion =>
          not_stores_of_deletes key op deletion storing
        simp [storing, notDeleting]
      · by_cases deletion : Deletes key op
        · rw [flag_deletes _ op key deletion] at found
          obtain ⟨before, _, rfl⟩ := Option.map_eq_some_iff.mp found
          simp [deletion]
        · rw [flag_other _ op key storing deletion] at found
          simp [storing, deletion, ih deleted found]

/-- The cause is an updateDeleteMessages that names the message. -/
def Names (key : Int × Int) (isPermanent : Bool) (cause : Option Event) : Prop :=
  ∃ messageIds, cause = some (.update (.deleteMessages key.1 messageIds isPermanent)) ∧
    key.2 ∈ messageIds

/-- Since the message was last stored, a permanent deletion of it took effect. -/
def PermanentlyDeleted (key : Int × Int) (ops : List (Option Event × MessageOp Sender)) : Prop :=
  Since (fun caused => Deletes key caused.2 ∧ Names key true caused.1)
    (fun caused => Stores key caused.2) ops

/-- Every flagged row owes its flag to a permanent deletion. -/
def PermanentFlags (tables : MessageTables Sender)
    (ops : List (Option Event × MessageOp Sender)) : Prop :=
  ∀ key, flag tables key = some true → PermanentlyDeleted key ops

/-- A deletion that a non-permanent update caused meets no live row. -/
def Harmless (tables : MessageTables Sender) (caused : Option Event × MessageOp Sender) : Prop :=
  ∀ key, Deletes key caused.2 → Names key false caused.1 → flag tables key ≠ some false

/-- The update behind a deletion names the message. -/
def Named (caused : Option Event × MessageOp Sender) : Prop :=
  ∀ key, Deletes key caused.2 → ∃ isPermanent, Names key isPermanent caused.1

theorem since_deletes_of_permanent (key : Int × Int)
    (ops : List (Option Event × MessageOp Sender)) (permanent : PermanentlyDeleted key ops) :
    Since (Deletes key) (Stores key) (ops.map Prod.snd) := by
  obtain ⟨before, caused, after, rfl, picked, calm⟩ := permanent
  refine ⟨before.map Prod.snd, caused.2, after.map Prod.snd, by simp, picked.1, ?_⟩
  intro later member
  obtain ⟨next, held, rfl⟩ := List.mem_map.mp member
  exact calm next held

/-- One committed operation keeps the flags permanent exactly when it is no
non-permanent deletion of a live row. -/
theorem permanentFlags_step (ops : List (Option Event × MessageOp Sender))
    (next : Option Event × MessageOp Sender) (named : Named next)
    (flags : PermanentFlags (messageStore (ops.map Prod.snd)) ops) :
    PermanentFlags (messageStep (messageStore (ops.map Prod.snd)) next.2) (ops ++ [next]) ↔
      Harmless (messageStore (ops.map Prod.snd)) next := by
  constructor
  · intro later key deletion reported live
    have flagged : flag (messageStep (messageStore (ops.map Prod.snd)) next.2) key = some true := by
      rw [flag_deletes _ _ _ deletion, live]
      rfl
    rcases (since_snoc _ _ ops next).mp (later key flagged) with ⟨_, permanent⟩ | ⟨_, earlier⟩
    · obtain ⟨_, same, _⟩ := reported
      obtain ⟨_, other, _⟩ := permanent
      rw [same] at other
      cases other
    · -- The deletion before would have flagged the row that is live now.
      have since := since_deletes_of_permanent key ops earlier
      exact absurd ((flagged_iff_since _ key false live).mpr since) (by simp)
  · intro harmless key flagged
    apply (since_snoc _ _ ops next).mpr
    by_cases deletion : Deletes key next.2
    · obtain ⟨isPermanent, names⟩ := named key deletion
      cases isPermanent with
      | true => exact Or.inl ⟨deletion, names⟩
      | false =>
          -- The row was flagged before, since this deletion met no live one.
          have stored := harmless key deletion names
          rw [flag_deletes _ _ _ deletion] at flagged
          obtain ⟨before, found, _⟩ := Option.map_eq_some_iff.mp flagged
          cases before with
          | false => exact absurd found stored
          | true =>
              exact Or.inr ⟨not_stores_of_deletes key next.2 deletion, flags key found⟩
    · have notStoring : ¬ Stores key next.2 := by
        intro storing
        rw [flag_stores _ _ _ storing] at flagged
        cases flagged
      rw [flag_other _ _ _ notStoring deletion] at flagged
      exact Or.inr ⟨notStoring, flags key flagged⟩

end

section

variable (interval : Rat) (batch : Nat)

/-- A deletion names its message in the update it comes from. -/
def NamedJob (job : Job) : Prop :=
  (∀ caused ∈ job.onPrivate, Named caused) ∧ ∀ caused ∈ job.onGroup, Named caused

theorem named_of_live (cause : Option Event) (call : Call) (op : StoreOp)
    (calm : live (.hand call) = true) (posts : handlerJob call = some op) :
    NamedJob ⟨cause, op⟩ := by
  cases call with
  | privateMessage pm =>
      cases posts
      constructor
      · rintro caused ⟨⟩ key ⟨_, deleted⟩
        simp [live, deleted] at calm
      · rintro caused ⟨⟩
  | groupMessage gm =>
      cases posts
      constructor
      · rintro caused ⟨⟩
      · rintro caused ⟨⟩ key ⟨_, deleted⟩
        simp [live, deleted] at calm
  | messageReply mr =>
      simp only [handlerJob, Option.some.injEq] at posts
      split at posts
      all_goals
        cases posts
        constructor
        · rintro caused ⟨⟩ <;> rintro key ⟨⟩
        · rintro caused ⟨⟩ <;> rintro key ⟨⟩
  | _ => cases posts

/-- Every job an event posts names what it deletes. -/
theorem named_jobs (impl : Impl) (event : Event) (job : Job)
    (member : job ∈ jobsOf event (reaction (Config.started interval batch) impl event).2) :
    NamedJob job := by
  obtain ⟨action, posted, job_eq⟩ := List.mem_filterMap.mp member
  rcases action with call | ⟨query, handler⟩
  · obtain ⟨op, posts, rfl⟩ := Option.map_eq_some_iff.mp job_eq
    -- Only updateDeleteMessages hands over deletions, and only of ids it lists.
    by_cases deletion : ∃ chatId messageIds isPermanent,
        event = .update (.deleteMessages chatId messageIds isPermanent)
    · obtain ⟨chatId, messageIds, isPermanent, rfl⟩ := deletion
      change Action.hand call ∈ handleDeleteMessages _ chatId messageIds isPermanent at posted
      simp only [handleDeleteMessages, Config.started, ↓reduceIte] at posted
      split at posted
      · obtain ⟨msgId, named, same⟩ := List.mem_map.mp posted
        cases same
        cases posts
        constructor
        · rintro caused ⟨⟩ key ⟨rfl, _⟩
          exact ⟨isPermanent, messageIds, rfl, named⟩
        · rintro caused ⟨⟩
      · obtain ⟨msgId, named, same⟩ := List.mem_map.mp posted
        cases same
        cases posts
        constructor
        · rintro caused ⟨⟩
        · rintro caused ⟨⟩ key ⟨rfl, _⟩
          exact ⟨isPermanent, messageIds, rfl, named⟩
    · have calm : live (.hand call) = true := by
        have all : (reaction (Config.started interval batch) impl event).2.all live := by
          cases event with
          | update u =>
              apply live_update interval batch impl.caches u
              rintro chatId messageIds isPermanent rfl
              exact deletion ⟨chatId, messageIds, isPermanent, rfl⟩
          | answer requestId object =>
              simp only [reaction]
              split
              · exact live_resume interval batch impl.caches _ object
              · rfl
          | close => rfl
        exact List.all_eq_true.mp all _ posted
      exact named_of_live _ call op calm posts
  · cases job_eq

end

/-- Every flagged row, of a private or of a group chat, owes its flag to a
permanent deletion. -/
structure PermanentDeletions (logger : Logger) : Prop where
  privates : PermanentFlags logger.privates (privateOps logger.committed)
  groups : PermanentFlags logger.groups (groupOps logger.committed)

/-- A job whose deletion is not permanent finds no live row when it commits. -/
def HarmlessMove (logger : Logger) : Move → Prop
  | .commit =>
      ∀ job ∈ logger.queue.head?,
        (∀ caused ∈ job.onPrivate, Harmless logger.privates caused) ∧
          ∀ caused ∈ job.onGroup, Harmless logger.groups caused
  | _ => True

theorem permanent_advance (config : Config) (logger : Logger) (move : Move)
    (serial : Serial logger) (named : ∀ job ∈ logger.queue, NamedJob job)
    (permanent : PermanentDeletions logger) :
    PermanentDeletions (advance config logger move) ↔ HarmlessMove logger move := by
  -- Only a commit reaches the tables, and then those of its own kind.
  cases move with
  | receive event => exact iff_of_true ⟨permanent.privates, permanent.groups⟩ trivial
  | link mf fileId =>
      refine iff_of_true ?_ trivial
      simp only [advance]
      split <;> exact ⟨permanent.privates, permanent.groups⟩
  | fail =>
      refine iff_of_true ?_ trivial
      simp only [advance]
      split <;> exact ⟨permanent.privates, permanent.groups⟩
  | commit =>
      simp only [advance, HarmlessMove]
      cases queued : logger.queue with
      | nil => exact iff_of_true ⟨permanent.privates, permanent.groups⟩ (by simp)
      | cons job rest =>
          have jobNamed := named job (by simp [queued])
          obtain ⟨cause, op⟩ := job
          cases op with
          | onPrivate op =>
              have step := permanentFlags_step (privateOps logger.committed) (cause, op)
                (jobNamed.1 _ rfl) (serial.privates ▸ permanent.privates)
              rw [← serial.privates, ← privateStep_eq] at step
              constructor
              · intro later job head
                cases head
                refine ⟨?_, by rintro caused ⟨⟩⟩
                rintro caused ⟨⟩
                apply step.mp
                have after := later.privates
                rwa [privateOps_snoc] at after
              · intro harmless
                refine ⟨?_, ?_⟩
                · rw [privateOps_snoc]
                  exact step.mpr ((harmless _ rfl).1 _ rfl)
                · rw [groupOps_snoc]
                  simpa [Job.onGroup, Logger.apply] using permanent.groups
          | onGroup op =>
              have step := permanentFlags_step (groupOps logger.committed) (cause, op)
                (jobNamed.2 _ rfl) (serial.groups ▸ permanent.groups)
              rw [← serial.groups, ← groupStep_eq] at step
              constructor
              · intro later job head
                cases head
                refine ⟨by rintro caused ⟨⟩, ?_⟩
                rintro caused ⟨⟩
                apply step.mp
                have after := later.groups
                rwa [groupOps_snoc] at after
              · intro harmless
                refine ⟨?_, ?_⟩
                · rw [privateOps_snoc]
                  simpa [Job.onPrivate, Logger.apply] using permanent.privates
                · rw [groupOps_snoc]
                  exact step.mpr ((harmless _ rfl).2 _ rfl)

theorem named_advance (interval : Rat) (batch : Nat) (logger : Logger) (move : Move)
    (named : ∀ job ∈ logger.queue, NamedJob job) :
    ∀ job ∈ (advance (Config.started interval batch) logger move).queue, NamedJob job := by
  intro job member
  cases move with
  | receive event =>
      rcases List.mem_append.mp member with old | fresh
      · exact named job old
      · exact named_jobs interval batch logger.impl event job fresh
  | link mf fileId =>
      simp only [advance] at member
      split at member
      · rcases List.mem_append.mp member with old | fresh
        · exact named job old
        · cases List.mem_singleton.mp fresh
          simp only [linkJob]
          split
          · exact ⟨by rintro caused ⟨⟩, by rintro caused ⟨⟩ key ⟨⟩⟩
          · exact ⟨by rintro caused ⟨⟩ key ⟨⟩, by rintro caused ⟨⟩⟩
      · exact named job member
  | commit =>
      simp only [advance] at member
      split at member
      · exact named job member
      · rename_i head rest queued
        exact named job (by rw [queued]; exact List.mem_cons_of_mem head member)
  | fail =>
      simp only [advance] at member
      split at member
      · exact named job member
      · rename_i head rest queued
        exact named job (by rw [queued]; exact List.mem_cons_of_mem head member)

/-- All along a run every flagged row owes its flag to a permanent deletion,
exactly when no non-permanent one commits on a live row. Jobs commit in the
order in which the updates posted them. -/
theorem flags_owed_to_permanent_deletions (interval : Rat) (batch : Nat) (moves : List Move) :
    let config := Config.started interval batch
    (EveryState (advance config) Logger.initial PermanentDeletions moves ↔
      EveryStep (advance config) Logger.initial HarmlessMove moves) ∧
    (run (advance config) Logger.initial moves).committed.Sublist
      (run (advance config) Logger.initial moves).posted := by
  intro config
  have supported (before : List Move) :
      Serial (run (advance config) Logger.initial before) ∧
        ∀ job ∈ (run (advance config) Logger.initial before).queue, NamedJob job := by
    refine ⟨serial_run config before, ?_⟩
    apply run_invariant (advance config) Logger.initial fun logger =>
      ∀ job ∈ logger.queue, NamedJob job
    · intro job member
      cases member
    · exact named_advance interval batch
  constructor
  · rw [← everyState_iff_everyStep (advance config) Logger.initial
      (fun logger => (Serial logger ∧ ∀ job ∈ logger.queue, NamedJob job) ∧
        PermanentDeletions logger) HarmlessMove
      ⟨supported [], by rintro key ⟨⟩, by rintro key ⟨⟩⟩]
    · constructor
      · intro every before after split
        exact ⟨supported before, every before after split⟩
      · intro every before after split
        exact (every before after split).2
    · rintro logger move ⟨⟨serial, named⟩, permanent⟩
      rw [permanent_advance config logger move serial named permanent]
      exact and_iff_right ⟨serial_advance config logger move serial,
        named_advance interval batch logger move named⟩
  · exact (List.sublist_append_left _ _).trans (serial_run config moves).ordered

/-- A message leaves TDLib's cache, and its stored row is flagged as deleted. -/
theorem cache_eviction_flags_row :
    let config := Config.started 300 4
    let message : TdApi.Message :=
      { id := 7, chatId := 5, senderId := some (.user 5), date := 100
        content := some (.text (some "hi")) }
    let moves : List Move :=
      [.receive (.update (.newMessage message)),
        .receive (.update (.deleteMessages 5 [7] false)), .commit, .commit]
    let logger := run (advance config) Logger.initial moves
    flag logger.privates (5, 7) = some true ∧
    logger.committed.map Job.cause =
      [some (.update (.newMessage message)),
        some (.update (.deleteMessages 5 [7] false))] ∧
    ¬ EveryState (advance config) Logger.initial PermanentDeletions moves := by
  intro config message moves logger
  have flagged : flag logger.privates (5, 7) = some true := by decide
  have causes : (privateOps logger.committed).map Prod.fst =
      [some (.update (.newMessage message)),
        some (.update (.deleteMessages 5 [7] false))] := by decide
  refine ⟨flagged, by decide, ?_⟩
  intro every
  have law : PermanentDeletions logger :=
    everyState_last (advance config) Logger.initial PermanentDeletions moves every
  obtain ⟨before, caused, after, split, ⟨_, messageIds, cause, _⟩, _⟩ :=
    law.privates (5, 7) flagged
  have member : caused.1 ∈ (privateOps logger.committed).map Prod.fst := by
    rw [split]
    simp
  rw [causes, cause] at member
  simp at member

end TgLoggerd

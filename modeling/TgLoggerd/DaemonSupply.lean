import TgLoggerd.DaemonKeys
import TgLoggerd.DaemonLedger
import TgLoggerd.EntityOrder
import TgLoggerd.Supply

/-!
When the server refuses nothing. TDLib announces users and chats before it
mentions them; what the loop posts then keeps that order on its way through the
queue, over restarts as well, since rows outlive the caches. So every transaction
finds the rows it refers to.
-/

namespace TgLoggerd

open Function KeyedTable SerialRun

/-- The rows a message refers to when its turn comes. A deletion needs no row but
its own. -/
def messageNeeds {Sender : Type} (chat : Int → Entity) (senders : Sender → List Entity)
    (msg : Message Sender) : List Entity :=
  (if msg.isDeleted then [] else [chat msg.chatId]) ++ senders msg.sender ++
    originRefs msg.forwardInfo

def DbWrite.needs : DbWrite → List Entity
  | .onPrivate (.upsert pm) => messageNeeds .user privateSenders pm
  | .onGroup (.upsert gm) => messageNeeds .group groupSenders gm
  | .admins list => .group list.groupId :: adminRefs list.admins
  | .onPrivate _ | .onGroup _ | .entity _ => []

/-- The row a job makes sure of. -/
def DbWrite.brings : DbWrite → Option Entity
  | .entity (.upsertUser u) => some (.user u.id)
  | .entity (.upsertGroup g) => some (.group g.id)
  | .entity _ | .onPrivate _ | .onGroup _ | .admins _ => none

theorem needs_link (owner : Owner) (fileId : Nat) : (linkWrite owner fileId).needs = [] := by
  rcases owner with ⟨chatId, messageId, _ | _⟩ | userId | groupId <;> rfl

theorem linkWrite_of_isLink (write : DbWrite) (link : write.isLink = true) :
    ∃ owner fileId, write = linkWrite owner fileId := by
  cases write with
  | entity op =>
      cases op with
      | setUserProfilePhoto userId fileId => exact ⟨.user userId, fileId, rfl⟩
      | setGroupPhoto groupId fileId => exact ⟨.group groupId, fileId, rfl⟩
      | _ => cases link
  | onPrivate op =>
      cases op with
      | setFile chatId messageId fileId => exact ⟨.message chatId messageId false, fileId, rfl⟩
      | _ => cases link
  | onGroup op =>
      cases op with
      | setFile chatId messageId fileId => exact ⟨.message chatId messageId true, fileId, rfl⟩
      | _ => cases link
  | admins list => cases link

theorem brings_write (call : Call) : call.write.bind DbWrite.brings = call.entity := by
  cases call with
  | messageReply mr => rcases mr with ⟨chatId, messageId, toChatId, toMsgId, _ | _⟩ <;> rfl
  | _ => rfl

/-- A message that needs only rows that are there is let through. A deletion
writes again over a deleted row, whose chat is on record. -/
theorem references_held {Sender : Type} (holds : Entity → Bool) (chat : Int → Entity)
    (senders : Sender → List Entity) (tables : MessageTables Sender) (msg : Message Sender)
    (held : (archived tables).Held holds chat senders)
    (needed : ∀ entity ∈ messageNeeds chat senders msg, holds entity = true) :
    (Store.references (messageRefs chat senders) tables msg).all holds = true := by
  simp only [messageNeeds, List.mem_append] at needed
  have sender : ∀ entity ∈ senders msg.sender, holds entity = true :=
    fun entity member => needed entity (Or.inl (Or.inr member))
  have origin : ∀ entity ∈ originRefs msg.forwardInfo, holds entity = true :=
    fun entity member => needed entity (Or.inr member)
  rw [List.all_eq_true]
  intro entity member
  cases found : tables.lookup msg.key with
  | none =>
      simp only [Store.references, found] at member
      split at member
      · cases member
      · next content =>
        rcases List.mem_append.mp member with own | forwarded
        · rcases List.mem_cons.mp own with rfl | sent
          · exact needed _ (Or.inl (Or.inl (by rw [if_neg content]; exact List.mem_cons_self)))
          · exact sender entity sent
        · exact origin entity forwarded
  | some old =>
      simp only [Store.references, found] at member
      split at member
      · cases member
      · rcases List.mem_append.mp member with own | forwarded
        · rcases List.mem_cons.mp own with rfl | sent
          · have record : (archived tables).records msg.key = some (recordOf tables old) := by
              simp only [archived, found, Option.map_some]
            exact (held _ _ record).chat
          · exact sender entity sent
        · split at forwarded
          · cases forwarded
          · exact origin entity forwarded

section

variable {Key : Type} [DecidableEq Key] {collate : String → Key}

omit [DecidableEq Key] in
theorem accepts_supplied (store : Store collate) (keyed : store.Keyed) (write : DbWrite)
    (content : write.isLink = false)
    (needed : ∀ entity ∈ write.needs, store.holds entity = true) :
    store.accepts write = true := by
  cases write with
  | entity op => cases op <;> first | rfl | cases content
  | onPrivate op =>
      cases op with
      | upsert pm => exact references_held _ _ _ _ pm keyed.privates needed
      | setFile chatId messageId fileId => cases content
      | setReply chatId messageId toChatId toMessageId => rfl
  | onGroup op =>
      cases op with
      | upsert gm => exact references_held _ _ _ _ gm keyed.groups needed
      | setFile chatId messageId fileId => cases content
      | setReply chatId messageId toChatId toMessageId => rfl
  | admins list =>
      refine List.all_eq_true.mpr fun ga member => Bool.and_eq_true_iff.mpr ⟨?_, ?_⟩
      · exact needed _ List.mem_cons_self
      · exact needed _ (List.mem_cons_of_mem _ (List.mem_map_of_mem member))

end

/-- The users and chats that an event mentions in a message it brings, as its
chat, its sender or its forward origin, or in a member list that is read. -/
def mentioned (impl : Impl) : Event → List Entity
  | .update (.newMessage message) =>
      rowRefs message.chatId message ++ originRefs (extractForwardInfo message)
  | .update (.basicGroupFullInfo groupId (some info)) =>
      let st := (impl.caches.groupState groupId).getD {}
      if st.chatSeen ∧ st.chatId ∈ impl.caches.adminPollSet then
        .group st.chatId :: adminRefs (adminsOf info.members)
      else []
  | .answer requestId (.message message) =>
      match impl.handlers requestId with
      | some .editedMessage =>
          rowRefs message.chatId message ++ originRefs (extractForwardInfo message)
      | some (.repliedMessage reply _) =>
          rowRefs reply.replyToChatId message ++ originRefs (extractForwardInfo message)
      | _ => []
  | .answer requestId (.chatMembers members) =>
      match impl.handlers requestId with
      | some (.groupAdmins chatId) => .group chatId :: adminRefs (adminsOf members)
      | _ => []
  | _ => []

/-- The action posts no job that needs more than is mentioned. -/
def needsOnly (entities : List Entity) (action : Action) : Bool :=
  ((action.call.bind Call.write).map DbWrite.needs).getD [] ⊆ entities

theorem admits_needsOnly (entities : List Entity) : AdmitsTurns (needsOnly entities) :=
  ⟨⟨⟨⟨fun _ _ _ => rfl⟩, fun _ => rfl, fun _ => rfl, fun _ => rfl⟩, fun _ => rfl, fun _ => rfl⟩,
    fun _ => rfl, fun _ => rfl, fun _ _ _ => rfl⟩

theorem needsOnly_of_quiet (entities : List Entity) (actions : List Action)
    (silent : actions.all quiet) : actions.all (needsOnly entities) := by
  refine all_of_quiet (needsOnly entities) ?_ actions silent
  rintro (call | ⟨query, handler⟩) calm
  · cases call with
    | messageReply mr =>
        rcases mr with ⟨chatId, messageId, toChatId, toMsgId, _ | _⟩ <;> rfl
    | _ => first | rfl | cases calm
  · rfl

section

variable (interval : Rat) (batch : Nat) (caches : Caches)

theorem needsOnly_message (chatId : Int) (message : TdApi.Message) (depth : Nat) :
    (handleMessage (Config.started interval batch) caches chatId message depth).2.all
      (needsOnly (rowRefs chatId message ++ originRefs (extractForwardInfo message))) := by
  obtain ⟨rest, actions, silent⟩ :=
    actions_message (Config.started interval batch) caches chatId message depth rfl rfl
  have built : needsOnly (rowRefs chatId message ++ originRefs (extractForwardInfo message))
      (.hand (messageCall chatId message)) = true := by
    apply decide_eq_true
    simp only [messageCall, rowRefs]
    split
    · exact List.Subset.refl _
    · exact List.Subset.refl _
  rw [actions, List.all_append, List.all_cons,
    admits_forward _ caches (admits_needsOnly _).toAdmitsRows, built,
    needsOnly_of_quiet _ rest silent]
  rfl

/-- A deletion needs nothing. -/
theorem needsOnly_deletions (entities : List Entity) (chatId : Int) (messageIds : List Int)
    (isPermanent : Bool) :
    (handleDeleteMessages (Config.started interval batch) chatId messageIds isPermanent).all
      (needsOnly entities) := by
  simp only [handleDeleteMessages, Config.started, ↓reduceIte]
  split
  · rw [List.all_map, List.all_eq_true]
    exact fun _ _ => rfl
  · rw [List.all_map, List.all_eq_true]
    exact fun _ _ => rfl

theorem needsOnly_admins (chatId : Int) (members : List (Option TdApi.ChatMember)) :
    (emitAdmins (Config.started interval batch) caches chatId members).all
      (needsOnly (.group chatId :: adminRefs (adminsOf members))) := by
  simp only [emitAdmins, List.all_append, Bool.and_eq_true]
  refine ⟨admits_ensureUsers _ caches (admits_needsOnly _).toAdmitsRows _, ?_⟩
  split
  · rfl
  · rw [List.all_cons, List.all_nil, Bool.and_true]
    exact decide_eq_true (List.Subset.refl _)

end

/-- The full info of a basic group, whose members are read once its chat is
polled. -/
theorem needsOnly_groupInfo (interval : Rat) (batch : Nat) (impl : Impl) (groupId : Int)
    (info : Option TdApi.BasicGroupFullInfo) :
    (processUpdate (Config.started interval batch) impl.caches
        (.basicGroupFullInfo groupId info)).2.all
      (needsOnly (mentioned impl (.update (.basicGroupFullInfo groupId info)))) := by
  cases info with
  | none => rfl
  | some info =>
      have rows := (admits_needsOnly (mentioned impl
        (.update (.basicGroupFullInfo groupId (some info))))).toAdmitsRows
      simp only [processUpdate]
      split
      · next seen =>
        simp only [List.all_append, Bool.and_eq_true]
        refine ⟨admits_emitGroup _ _ rows groupId, ?_⟩
        split
        · next polled =>
          have listed : mentioned impl (.update (.basicGroupFullInfo groupId (some info))) =
              .group ((impl.caches.groupState groupId).getD {}).chatId ::
                adminRefs (adminsOf info.members) := if_pos ⟨seen, polled⟩
          rw [listed]
          exact needsOnly_admins interval batch (describe impl.caches groupId info.description).1
            ((impl.caches.groupState groupId).getD {}).chatId info.members
        · rfl
      · rfl

/-- A turn posts no job that needs more than its event mentions. -/
theorem needsOnly_reaction (interval : Rat) (batch : Nat) (impl : Impl) (event : Event) :
    (reaction (Config.started interval batch) impl event).2.all
      (needsOnly (mentioned impl event)) := by
  have admits := admits_needsOnly (mentioned impl event)
  cases event with
  | update u =>
      by_cases told : ∃ groupId info, u = .basicGroupFullInfo groupId info
      · obtain ⟨groupId, info, rfl⟩ := told
        exact needsOnly_groupInfo interval batch impl groupId info
      · apply admits_update _ impl.caches admits u
        · rintro message rfl
          exact needsOnly_message interval batch impl.caches message.chatId message 0
        · rintro chatId messageIds isPermanent rfl
          exact needsOnly_deletions interval batch _ chatId messageIds isPermanent
        · rintro groupId info rfl
          exact absurd ⟨groupId, some info, rfl⟩ told
  | answer requestId object =>
      simp only [reaction]
      cases known : impl.handlers requestId with
      | none => rfl
      | some waiting =>
          apply admits_resume _ impl.caches admits waiting object
          · rintro message rfl rfl
            simp only [mentioned, known]
            exact needsOnly_message interval batch impl.caches message.chatId message 0
          · rintro reply depth rfl
            cases object with
            | message message =>
                simp only [resume, List.all_append, mentioned, known]
                rw [admits_messageEntities _ _ (admits_needsOnly _).toAdmitsRows,
                  needsOnly_message, needsOnly_of_quiet _ [_] rfl]
                rfl
            | _ => exact needsOnly_of_quiet _ _ rfl
          · rintro chatId members rfl rfl
            simp only [mentioned, known]
            exact needsOnly_admins interval batch impl.caches chatId members
  | close => rfl

/-- What a turn hands over is on its way to the database. -/
theorem brought_handed (actions : List Action) (entity : Entity)
    (handed : Handed actions entity) :
    ∃ write ∈ callWrites (actions.filterMap Action.call), write.brings = some entity := by
  obtain ⟨call, member, names⟩ := handed
  rw [← brings_write] at names
  obtain ⟨write, posts, brings⟩ := Option.bind_eq_some_iff.mp names
  exact ⟨write, List.mem_filterMap.mpr ⟨call, List.mem_filterMap.mpr ⟨_, member, rfl⟩, posts⟩,
    brings⟩

theorem needs_posted (entities : List Entity) (actions : List Action)
    (only : actions.all (needsOnly entities)) (write : DbWrite)
    (member : write ∈ callWrites (actions.filterMap Action.call)) (entity : Entity)
    (needed : entity ∈ write.needs) : entity ∈ entities := by
  obtain ⟨call, made, posts⟩ := List.mem_filterMap.mp member
  obtain ⟨action, there, same⟩ := List.mem_filterMap.mp made
  have subset := of_decide_eq_true (List.all_eq_true.mp only action there)
  rw [same, Option.bind_some, posts] at subset
  exact subset needed

section

variable {Key : Type} [DecidableEq Key] {collate : String → Key}

namespace Daemon

variable {Worker : Type} [DecidableEq Worker]

/-- What the serial worker has to write, links included, and the loop to post. -/
def queue (d : Daemon collate Worker) : List DbWrite := d.serial ++ callWrites d.pending

def Stored (d : Daemon collate Worker) (entity : Entity) : Prop := d.store.holds entity = true

def Needs (write : DbWrite) (entity : Entity) : Prop := entity ∈ write.needs

def Brings (write : DbWrite) (entity : Entity) : Prop := write.brings = some entity

/-- Every job finds what it needs in the database or before it in the queue, and
so does whatever the caches know. -/
structure Stocked (d : Daemon collate Worker) : Prop where
  tracked : Tracked d.impl.caches d.impl.log
  supplied : Supply.Supplied Needs Brings d.Stored d.queue
  known : ∀ entity, Cached d.impl.caches entity →
    Supply.Expected Brings d.Stored d.queue entity

variable (config : Config) (order : MapOrder) (rowOrder : RowOrder)

omit [DecidableEq Key] [DecidableEq Worker] in
theorem stocked_receive (interval : Rat) (batch : Nat) (d : Daemon collate Worker) (event : Event)
    (announced : ∀ entity ∈ mentioned d.impl event, Cached d.impl.caches entity)
    (idle : d.pending = []) (stocked : d.Stocked) :
    ({ d with
      impl := process (Config.started interval batch) d.impl event
      pending := (reaction (Config.started interval batch) d.impl event).2.filterMap Action.call
      seen := d.seen ++ [(d.impl, event)] } : Daemon collate Worker).Stocked := by
  have turn := turn_event interval batch d.impl stocked.tracked event
  have only := needsOnly_reaction interval batch d.impl event
  have before : d.queue = d.serial := by simp [queue, idle, callWrites]
  have supplied := stocked.supplied
  have known := stocked.known
  rw [before] at supplied known
  refine ⟨?_, ?_, ?_⟩
  · simp only [caches_process, log_process]
    exact turn.tracked
  · refine (Supply.supplied_append Needs Brings d.Stored d.serial _).mpr ⟨supplied, ?_⟩
    -- What a new job needs is mentioned, so cached, so stored or queued before.
    apply Supply.supplied_of_held
    intro write member entity needed
    exact known entity (announced entity (needs_posted _ _ only write member entity needed))
  · intro entity cached
    simp only [caches_process] at cached
    refine (Supply.expected_append Brings d.Stored d.serial _ entity).mpr ?_
    rw [turn.tracked.handed, handed_append] at cached
    rcases cached with earlier | handed
    · exact Or.inl (known entity ((stocked.tracked.handed entity).mpr earlier))
    · exact Or.inr (brought_handed _ entity handed)

/-- A job leaves the row it brings behind it. -/
theorem stored_brought (store : Store collate) (write : DbWrite) (entity : Entity)
    (brings : write.brings = some entity) :
    (store.apply order rowOrder write).holds entity = true := by
  cases write with
  | entity op =>
      have stored := stored_entityStep order store.entities op op.subject
      cases op with
      | upsertUser u =>
          cases brings
          exact stored.trans (by simp [EntityOp.creates])
      | upsertGroup g =>
          cases brings
          exact stored.trans (by simp [EntityOp.creates])
      | upsertUserFullInfo fi => cases brings
      | setUserProfilePhoto userId fileId => cases brings
      | setGroupPhoto groupId fileId => cases brings
  | onPrivate op => cases brings
  | onGroup op => cases brings
  | admins list => cases brings

omit [DecidableEq Worker] in
theorem stocked_commit (d : Daemon collate Worker) (write : DbWrite) (rest : List DbWrite)
    (queued : d.serial = write :: rest) (accepted : d.store.accepts write = true)
    (stocked : d.Stocked) :
    ({ d with serial := rest, store := d.store.commit order rowOrder write } :
      Daemon collate Worker).Stocked := by
  have supplied := stocked.supplied
  have known := stocked.known
  rw [queue, queued, List.cons_append] at supplied known
  have grown (entity : Entity) (held : d.Stored entity ∨ Brings write entity) :
      (d.store.commit order rowOrder write).holds entity = true := by
    rcases held with stored | brings
    · exact holds_grown _ _ (d.store.extends_commit order rowOrder write) entity stored
    · rw [Store.commit, if_pos accepted]
      exact stored_brought order rowOrder d.store write entity brings
  refine ⟨stocked.tracked, ?_, ?_⟩
  · exact Supply.supplied_mono Needs Brings _ _ grown _ supplied.2
  · intro entity cached
    have expected := (Supply.expected_cons Brings d.Stored write _ entity).mp (known entity cached)
    exact expected.imp_left (grown entity)

omit [DecidableEq Key] [DecidableEq Worker] in
/-- The head of the queue is let through. -/
theorem accepts_head (d : Daemon collate Worker) (write : DbWrite) (rest : List DbWrite)
    (queued : d.serial = write :: rest) (keyed : d.store.Keyed) (traced : d.FilesTraced)
    (stocked : d.Stocked) : d.store.accepts write = true := by
  have supplied := stocked.supplied
  rw [queue, queued, List.cons_append] at supplied
  cases link : write.isLink with
  | false => exact accepts_supplied d.store keyed write link supplied.1
  | true =>
      -- A link needs only the row of its file, which was there before it was posted.
      obtain ⟨owner, fileId, rfl⟩ := linkWrite_of_isLink write link
      obtain ⟨_, digest, _, _, held⟩ := traced.posted owner fileId (by simp [queued])
      exact accepts_link d.store digest owner fileId held

omit [DecidableEq Worker] in
theorem stored_storeFile (d : Daemon collate Worker) (hashed : Option Digest)
    (download : Download) (entity : Entity) :
    (d.store.storeFile hashed download).2.holds entity = d.store.holds entity := by
  cases hashed with
  | none => rfl
  | some digest =>
      rw [Store.storeFile_eq]
      cases entity <;> rfl

/-- Events mention nothing unannounced, and transactions fail for their foreign
keys only. -/
def Announces (d : Daemon collate Worker) : Move Worker → Prop
  | .receive event => ∀ entity ∈ mentioned d.impl event, Cached d.impl.caches entity
  | .fail => False
  | .hand | .take _ | .store _ _ | .post _ | .commit | .restart => True

omit [DecidableEq Key] in
/-- A link that a file worker posts needs nothing that is still to come. -/
theorem stocked_posts (d : Daemon collate Worker) (worker : Worker) (owner : Owner) (fileId : Nat)
    (stocked : d.Stocked) :
    ({ d with
      serial := d.serial ++ [linkWrite owner fileId]
      workers := update d.workers worker .idle } : Daemon collate Worker).Stocked := by
  have free (entity : Entity) : ¬ Needs (linkWrite owner fileId) entity := by
    rw [Needs, needs_link]
    exact List.not_mem_nil
  refine ⟨stocked.tracked, ?_, ?_⟩
  · exact Supply.supplied_insert Needs Brings _ _ _ _ free stocked.supplied
  · intro entity cached
    rcases stocked.known entity cached with held | ⟨write, member, brings⟩
    · exact Or.inl held
    · refine Or.inr ⟨write, ?_, brings⟩
      simp only [queue, List.mem_append] at member ⊢
      tauto

theorem stocked_step (interval : Rat) (batch : Nat) (d : Daemon collate Worker)
    (move : Move Worker) (keyed : d.store.Keyed) (traced : d.FilesTraced) (stocked : d.Stocked)
    (announces : d.Announces move) :
    (step (Config.started interval batch) order rowOrder d move).Stocked := by
  have took := took_step (Config.started interval batch) order rowOrder d move
  generalize step (Config.started interval batch) order rowOrder d move = after at took ⊢
  have supplied := stocked.supplied
  have known := stocked.known
  cases took with
  | rests => exact stocked
  | receives event idle running =>
      exact stocked_receive interval batch d event announces idle stocked
  | handsFile call rest next job posts =>
      rw [queue, next, callWrites_cons, write_fileJob call job posts, Option.toList_none,
        List.nil_append] at supplied known
      exact ⟨stocked.tracked, supplied, known⟩
  | handsWrite call rest next noFile =>
      rw [queue, next, callWrites_cons, ← List.append_assoc] at supplied known
      exact ⟨stocked.tracked, supplied, known⟩
  | takes => exact ⟨stocked.tracked, supplied, known⟩
  | loses => exact ⟨stocked.tracked, supplied, known⟩
  | stores worker job storing digest =>
      have same : (fun entity =>
          (d.store.storeFile (some digest) job.download).2.holds entity = true) = d.Stored := by
        funext entity
        rw [stored_storeFile, Stored]
      refine ⟨stocked.tracked, ?_, ?_⟩
      · change Supply.Supplied Needs Brings (fun entity => _ = true) d.queue
        rw [same]
        exact supplied
      · change ∀ entity, _ → Supply.Expected Brings (fun entity => _ = true) d.queue entity
        rw [same]
        exact known
  | posts worker owner fileId linking => exact stocked_posts d worker owner fileId stocked
  | commits write rest queued =>
      have accepted := accepts_head d write rest queued keyed traced stocked
      exact stocked_commit order rowOrder d write rest queued accepted stocked
  | fails => exact announces.elim
  | restarts =>
      -- The new caches know nothing, so nothing has to be in the lost queue.
      refine ⟨tracked_run 0 0 [], trivial, ?_⟩
      intro entity cached
      cases entity <;> cases cached

omit [DecidableEq Key] [DecidableEq Worker] in
theorem stocked_start : ({} : Daemon collate Worker).Stocked := by
  refine ⟨tracked_run 0 0 [], trivial, ?_⟩
  intro entity cached
  cases entity <;> cases cached

/-- Announced events keep the queue supplied. -/
theorem accepts_served (interval : Rat) (batch : Nat) (moves : List (Move Worker))
    (announced : EveryStep (step (Config.started interval batch) order rowOrder)
      ({} : Daemon collate Worker) Announces moves)
    (write : DbWrite) (rest : List DbWrite)
    (queued : (runs (Config.started interval batch) order rowOrder moves :
      Daemon collate Worker).serial = write :: rest) :
    (runs (Config.started interval batch) order rowOrder moves :
      Daemon collate Worker).store.accepts write = true := by
  have sound := everyStep_invariant (step (Config.started interval batch) order rowOrder)
    ({} : Daemon collate Worker) (fun d => d.store.Keyed ∧ d.FilesTraced ∧ d.Stocked) Announces
    ⟨keyed_empty, traced_runs order rowOrder (Config.started interval batch) [], stocked_start⟩
    (fun d move sound announces =>
      ⟨keyed_step _ order rowOrder d move sound.1, traced_step order rowOrder _ d move sound.2.1,
        stocked_step order rowOrder interval batch d move sound.1 sound.2.1 sound.2.2 announces⟩)
    moves announced
  exact accepts_head _ write rest queued sound.1 sound.2.1 sound.2.2

end Daemon

/-- With any number of workers, in any order of moves and over any number of
restarts: as long as TDLib mentions no user and no chat in a message or a member
list before it has announced them, and no transaction fails for another reason,
the server lets every transaction through. So no message, link or list that was
posted is lost at its foreign keys. -/
theorem nothing_refused {Key : Type} [DecidableEq Key] {collate : String → Key} {Worker : Type}
    [DecidableEq Worker] (interval : Rat) (batch : Nat) (order : MapOrder) (rowOrder : RowOrder)
    (moves : List (Daemon.Move Worker))
    (announced : EveryStep (Daemon.step (Config.started interval batch) order rowOrder)
      ({} : Daemon collate Worker) Daemon.Announces moves) :
    EveryState (Daemon.step (Config.started interval batch) order rowOrder)
      ({} : Daemon collate Worker)
      (fun d => ∀ write rest, d.serial = write :: rest → d.store.accepts write = true) moves := by
  intro before after split write rest queued
  subst split
  exact Daemon.accepts_served order rowOrder interval batch before
    (everyStep_append _ _ _ before after announced).1 write rest queued

/-- A user, and a message of it that was forwarded from itself. -/
def userThenMessage : List (Daemon.Move Unit) :=
  [.receive (.update (.user (some { id := 5 }))),
    .hand,
    .receive (.update (.newMessage
      { id := 7
        chatId := 5
        senderId := some (.user 5)
        content := some (.text (some "hi"))
        forwardInfo := some { origin := some (.user 5) } })),
    .hand,
    .hand,
    .hand,
    .commit,
    .commit,
    .commit]

theorem user_announced :
    EveryStep (Daemon.step (Config.started 300 4) insertionOrder storageOrder)
      ({} : Daemon foldCase Unit) Daemon.Announces userThenMessage := by
  refine forall_split_cons _ _ _ ?_ (forall_split_cons _ _ _ trivial (forall_split_cons _ _ _ ?_
    (forall_split_cons _ _ _ trivial (forall_split_cons _ _ _ trivial (forall_split_cons _ _ _
      trivial (forall_split_cons _ _ _ trivial (forall_split_cons _ _ _ trivial
        (forall_split_cons _ _ _ trivial (forall_split_nil _)))))))))
  · intro entity mentions
    cases mentions
  · intro entity mentions
    change entity ∈ [Entity.user 5, .user 5, .user 5] at mentions
    have user : entity = .user 5 := by simpa using mentions
    subst user
    rfl

theorem nothing_refused_after_user :
    EveryState (Daemon.step (Config.started 300 4) insertionOrder storageOrder)
      ({} : Daemon foldCase Unit)
      (fun d => ∀ write rest, d.serial = write :: rest → d.store.accepts write = true)
      userThenMessage :=
  nothing_refused 300 4 insertionOrder storageOrder userThenMessage user_announced

end

end TgLoggerd

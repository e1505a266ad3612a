import TgLoggerd.ArchiveRefinement
import TgLoggerd.Daemon

/-!
Where the messages of the archive come from. Whatever a record shows, or showed
before, TDLib delivered for that message: with an updateNewMessage or as the
answer to a getMessage. A record that a second deletion wrote over shows the
blank message of that deletion.
-/

namespace TgLoggerd

open Function KeyedTable SerialRun

section

variable {Sender : Type}

/-- The record shows this message; it may be flagged besides. -/
structure Record.Copies (msg : Message Sender) (record : Record Sender) : Prop where
  sender : record.sender = msg.sender
  isOutgoing : record.isOutgoing = msg.isOutgoing
  date : record.date = msg.date
  editDate : record.editDate = msg.editDate
  body : record.body = msg.body
  flag : record.isForwarded = msg.forwardInfo.isSome
  deleted : msg.isDeleted = true → record.isDeleted = true

/-- Everything in a record comes from given messages with its key. -/
structure Record.Stems (given : Message Sender → Prop) (key : Int × Int) (record : Record Sender) :
    Prop where
  shown : ∃ msg, given msg ∧ msg.key = key ∧ record.Copies msg
  versions : ∀ version ∈ record.versions,
    (∃ msg, given msg ∧ msg.key = key ∧ (version.contentType, version.text) = msg.body) ∧
      ∃ later, given later ∧ later.key = key ∧ later.editDate = version.replacedAt
  forward : ∀ info, record.forward = some info →
    ∃ msg, given msg ∧ msg.key = key ∧ msg.forwardInfo = some info

def MessageTables.Stems (given : Message Sender → Prop) (tables : MessageTables Sender) : Prop :=
  ∀ key record, (archived tables).records key = some record → record.Stems given key

theorem Record.stems_mono (given wider : Message Sender → Prop)
    (more : ∀ msg, given msg → wider msg) (key : Int × Int) (record : Record Sender)
    (stems : record.Stems given key) : record.Stems wider key := by
  obtain ⟨⟨msg, known, same, copies⟩, versions, forward⟩ := stems
  refine ⟨⟨msg, more msg known, same, copies⟩, ?_, ?_⟩
  · intro version member
    obtain ⟨⟨shown, first, firstKey, body⟩, later, second, secondKey, date⟩ :=
      versions version member
    exact ⟨⟨shown, more _ first, firstKey, body⟩, later, more _ second, secondKey, date⟩
  · intro info noted
    obtain ⟨origin, known, same, carried⟩ := forward info noted
    exact ⟨origin, more _ known, same, carried⟩

/-- A message that comes in stems from itself and from what was there. -/
theorem stems_receive (given : Message Sender → Prop) (msg : Message Sender) (known : given msg)
    (record : Option (Record Sender)) (stems : ∀ old, record = some old → old.Stems given msg.key)
    (after : Record Sender) (made : Record.receive msg record = some after) :
    after.Stems given msg.key := by
  cases record with
  | none =>
      simp only [Record.receive] at made
      split at made
      · cases made
      · next content =>
        cases made
        refine ⟨⟨msg, known, rfl, ⟨rfl, rfl, rfl, rfl, rfl, rfl, ?_⟩⟩, ?_, ?_⟩
        · intro deleted
          exact absurd deleted content
        · intro version member
          cases member
        · intro info noted
          exact ⟨msg, known, rfl, noted⟩
  | some old =>
      obtain ⟨⟨first, firstKnown, firstKey, copies⟩, versions, forward⟩ := stems old rfl
      simp only [Record.receive] at made
      split at made
      · cases made
        exact ⟨⟨first, firstKnown, firstKey, { copies with deleted := fun _ => rfl }⟩, versions,
          forward⟩
      · cases made
        refine ⟨⟨msg, known, rfl, ⟨rfl, rfl, rfl, rfl, rfl, rfl, fun deleted => deleted⟩⟩, ?_, ?_⟩
        · intro version member
          rcases List.mem_append.mp member with earlier | fresh
          · exact versions version earlier
          · -- The version set aside is what the record showed.
            rw [Record.setAside] at fresh
            split at fresh
            · rw [List.mem_singleton.mp fresh]
              exact ⟨⟨first, firstKnown, firstKey, copies.body⟩, msg, known, rfl, rfl⟩
            · cases fresh
        · intro info noted
          cases earlier : old.forward with
          | none =>
              refine ⟨msg, known, rfl, ?_⟩
              simpa [Record.revised, earlier] using noted
          | some origin =>
              have same : origin = info := by simpa [Record.revised, earlier] using noted
              exact same ▸ forward origin earlier

theorem stems_messageStep (given : Message Sender → Prop) (tables : MessageTables Sender)
    (op : MessageOp Sender) (known : ∀ msg, op = .upsert msg → given msg)
    (stems : tables.Stems given) : (messageStep tables op).Stems given := by
  intro key after held
  rw [archived_step, Archive.records_step] at held
  by_cases named : Archive.names op = key
  · subst named
    rw [update_self] at held
    cases op with
    | upsert msg => exact stems_receive given msg (known msg rfl) _ (stems msg.key) after held
    | setFile chatId messageId fileId =>
        obtain ⟨before, there, rfl⟩ := Option.map_eq_some_iff.mp held
        obtain ⟨⟨msg, given, same, copies⟩, versions, forward⟩ := stems _ before there
        exact ⟨⟨msg, given, same, { copies with }⟩, versions, forward⟩
    | setReply chatId messageId replyToChatId replyToMessageId =>
        obtain ⟨before, there, rfl⟩ := Option.map_eq_some_iff.mp held
        obtain ⟨⟨msg, given, same, copies⟩, versions, forward⟩ := stems _ before there
        exact ⟨⟨msg, given, same, { copies with }⟩, versions, forward⟩
  · rw [update_of_ne (Ne.symm named)] at held
    exact stems key after held

end

/-- The message an event brings. -/
def Event.message : Event → Option TdApi.Message
  | .update (.newMessage message) => some message
  | .answer _ (.message message) => some message
  | _ => none

/-- The messages an event reports as deleted. -/
def Event.deleted : Event → List (Int × Int)
  | .update (.deleteMessages chatId messageIds _) => messageIds.map fun id => (chatId, id)
  | _ => []

/-- The model of a private message that an event accounts for. -/
def Event.Accounts {Sender : Type} [Inhabited Sender] (build : TdApi.Message → Message Sender)
    (event : Event) (msg : Message Sender) : Prop :=
  (∃ message, event.message = some message ∧ msg = build message) ∨
    (msg.key ∈ event.deleted ∧ msg = Message.deletion Sender msg.chatId msg.messageId)

instance {Sender : Type} [Inhabited Sender] [DecidableEq Sender]
    (build : TdApi.Message → Message Sender) (event : Event) (msg : Message Sender) :
    Decidable (event.Accounts build msg) :=
  inferInstanceAs (Decidable ((∃ message, event.message = some message ∧ _) ∨ _))

/-- The action hands over no message but those the event accounts for. -/
def genuine (event : Event) : Action → Bool
  | .hand (.privateMessage pm) => event.Accounts buildPrivateMessage pm
  | .hand (.groupMessage gm) => event.Accounts buildGroupMessage gm
  | _ => true

theorem admits_genuine (event : Event) : AdmitsTurns (genuine event) :=
  ⟨⟨⟨⟨fun _ _ _ => rfl⟩, fun _ => rfl, fun _ => rfl, fun _ => rfl⟩, fun _ => rfl, fun _ => rfl⟩,
    fun _ => rfl, fun _ => rfl, fun _ _ _ => rfl⟩

theorem genuine_of_quiet (event : Event) (actions : List Action) (silent : actions.all quiet) :
    actions.all (genuine event) := by
  refine all_of_quiet (genuine event) ?_ actions silent
  rintro (call | ⟨query, handler⟩) calm
  · cases call <;> first | rfl | cases calm
  · rfl

section

variable (interval : Rat) (batch : Nat) (caches : Caches) (event : Event)

theorem genuine_message (chatId : Int) (message : TdApi.Message) (depth : Nat)
    (brings : event.message = some message) :
    (handleMessage (Config.started interval batch) caches chatId message depth).2.all
      (genuine event) := by
  obtain ⟨rest, actions, silent⟩ :=
    actions_message (Config.started interval batch) caches chatId message depth rfl rfl
  have built : genuine event (.hand (messageCall chatId message)) = true := by
    simp only [messageCall]
    split
    · exact decide_eq_true (Or.inl ⟨message, brings, rfl⟩)
    · exact decide_eq_true (Or.inl ⟨message, brings, rfl⟩)
  rw [actions, List.all_append, List.all_cons,
    admits_forward _ caches (admits_genuine event).toAdmitsRows, built,
    genuine_of_quiet event rest silent]
  rfl

theorem genuine_deletions (chatId : Int) (messageIds : List Int) (isPermanent : Bool)
    (reports : event.deleted = messageIds.map fun id => (chatId, id)) :
    (handleDeleteMessages (Config.started interval batch) chatId messageIds isPermanent).all
      (genuine event) := by
  have named (id : Int) (member : id ∈ messageIds) : (chatId, id) ∈ event.deleted := by
    rw [reports]
    exact List.mem_map_of_mem member
  simp only [handleDeleteMessages, Config.started, ↓reduceIte]
  split
  · rw [List.all_map, List.all_eq_true]
    intro id member
    exact decide_eq_true (Or.inr ⟨named id member, rfl⟩)
  · rw [List.all_map, List.all_eq_true]
    intro id member
    exact decide_eq_true (Or.inr ⟨named id member, rfl⟩)

end

/-- A turn hands over the messages its event brings, and no others. -/
theorem genuine_reaction (interval : Rat) (batch : Nat) (impl : Impl) (event : Event) :
    (reaction (Config.started interval batch) impl event).2.all (genuine event) := by
  have admits := admits_genuine event
  have admins (caches : Caches) (chatId : Int) (members : List (Option TdApi.ChatMember)) :
      (emitAdmins (Config.started interval batch) caches chatId members).all (genuine event) :=
    admits_groupAdmins _ caches admits.toAdmitsRows (fun _ => rfl) chatId members
  cases event with
  | update u =>
      apply admits_update _ impl.caches admits u
      · rintro message rfl
        exact genuine_message interval batch impl.caches _ message.chatId message 0 rfl
      · rintro chatId messageIds isPermanent rfl
        exact genuine_deletions interval batch _ chatId messageIds isPermanent rfl
      · intro groupId info _ caches chatId
        exact admins caches chatId info.members
  | answer requestId object =>
      simp only [reaction]
      cases impl.handlers requestId with
      | none => rfl
      | some waiting =>
          apply admits_resume _ impl.caches admits waiting object
          · rintro message _ rfl
            exact genuine_message interval batch impl.caches _ message.chatId message 0 rfl
          · rintro reply depth rfl
            cases object with
            | message message =>
                simp only [resume, List.all_append,
                  admits_messageEntities _ _ admits.toAdmitsRows, Bool.true_and]
                rw [genuine_message interval batch _ _ _ message _ rfl]
                rfl
            | _ => rfl
          · intro chatId members _ _
            exact admins impl.caches chatId members
  | close => rfl

namespace Daemon

section

variable {Key : Type} [DecidableEq Key] {collate : String → Key} {Worker : Type}
  [DecidableEq Worker] (order : MapOrder) (rowOrder : RowOrder)

/-- Some turn handed the call over. -/
def FromTurn (config : Config) (d : Daemon collate Worker) (call : Call) : Prop :=
  ∃ turn ∈ d.seen, .hand call ∈ (reaction config turn.1 turn.2).2

/-- What waits in a queue, or is in the tables, was handed over in some turn. -/
structure MessagesTraced (config : Config) (d : Daemon collate Worker) : Prop where
  pending : ∀ call ∈ d.pending, d.FromTurn config call
  privateQueue : ∀ pm, .onPrivate (.upsert pm) ∈ d.serial → d.FromTurn config (.privateMessage pm)
  groupQueue : ∀ gm, .onGroup (.upsert gm) ∈ d.serial → d.FromTurn config (.groupMessage gm)
  privates : d.store.privates.Stems fun pm => d.FromTurn config (.privateMessage pm)
  groups : d.store.groups.Stems fun gm => d.FromTurn config (.groupMessage gm)

theorem write_private (call : Call) (pm : PrivateMessage)
    (posts : call.write = some (.onPrivate (.upsert pm))) : call = .privateMessage pm := by
  cases call with
  | privateMessage other =>
      cases posts
      rfl
  | messageReply mr => rcases mr with ⟨_, _, _, _, _ | _⟩ <;> cases posts
  | _ => cases posts

theorem write_group (call : Call) (gm : GroupMessage)
    (posts : call.write = some (.onGroup (.upsert gm))) : call = .groupMessage gm := by
  cases call with
  | groupMessage other =>
      cases posts
      rfl
  | messageReply mr => rcases mr with ⟨_, _, _, _, _ | _⟩ <;> cases posts
  | _ => cases posts

theorem link_ne_upsert (owner : Owner) (fileId : Nat) :
    (∀ pm, linkWrite owner fileId ≠ .onPrivate (.upsert pm)) ∧
      ∀ gm, linkWrite owner fileId ≠ .onGroup (.upsert gm) := by
  rcases owner with ⟨chatId, messageId, _ | _⟩ | userId | groupId
  all_goals
    constructor
    · intro pm same
      cases same
    · intro gm same
      cases same

variable (config : Config)

omit [DecidableEq Worker] in
/-- One job of the serial worker. -/
theorem messages_commit (d : Daemon collate Worker) (write : DbWrite) (rest : List DbWrite)
    (queued : d.serial = write :: rest) (traced : d.MessagesTraced config) :
    ({ d with serial := rest, store := d.store.commit order rowOrder write } :
      Daemon collate Worker).MessagesTraced config := by
  have stems : (d.store.commit order rowOrder write).privates.Stems
        (fun pm => d.FromTurn config (.privateMessage pm)) ∧
      (d.store.commit order rowOrder write).groups.Stems
        (fun gm => d.FromTurn config (.groupMessage gm)) := by
    rw [Store.commit]
    split
    · cases write with
      | entity op => exact ⟨traced.privates, traced.groups⟩
      | onPrivate op =>
          refine ⟨?_, traced.groups⟩
          rw [Store.apply, privateStep_eq]
          apply stems_messageStep _ _ op _ traced.privates
          -- Only an upsert brings content, and this one was in the queue.
          rintro pm rfl
          exact traced.privateQueue pm (by simp [queued])
      | onGroup op =>
          refine ⟨traced.privates, ?_⟩
          rw [Store.apply, groupStep_eq]
          apply stems_messageStep _ _ op _ traced.groups
          rintro gm rfl
          exact traced.groupQueue gm (by simp [queued])
      | admins list => exact ⟨traced.privates, traced.groups⟩
    · exact ⟨traced.privates, traced.groups⟩
  exact ⟨traced.pending,
    fun pm member => traced.privateQueue pm (by simp [queued, member]),
    fun gm member => traced.groupQueue gm (by simp [queued, member]), stems.1, stems.2⟩

omit [DecidableEq Key] [DecidableEq Worker] in
/-- A turn adds to the turns there were. -/
theorem messages_receives (d : Daemon collate Worker) (event : Event)
    (traced : d.MessagesTraced config) :
    ({ d with
      impl := process config d.impl event
      pending := (reaction config d.impl event).2.filterMap Action.call
      seen := d.seen ++ [(d.impl, event)] } : Daemon collate Worker).MessagesTraced config := by
  have earlier (call : Call) (handed : d.FromTurn config call) :
      ∃ turn ∈ d.seen ++ [(d.impl, event)],
        .hand call ∈ (reaction config turn.1 turn.2).2 := by
    obtain ⟨turn, member, made⟩ := handed
    exact ⟨turn, List.mem_append_left _ member, made⟩
  refine ⟨?_, fun pm member => earlier _ (traced.privateQueue pm member),
    fun gm member => earlier _ (traced.groupQueue gm member), ?_, ?_⟩
  · intro call member
    obtain ⟨action, posted, same⟩ := List.mem_filterMap.mp member
    cases action <;> cases same
    exact ⟨(d.impl, event), by simp, posted⟩
  · intro key record held
    exact Record.stems_mono _ _ (fun pm => earlier _) key record (traced.privates key record held)
  · intro key record held
    exact Record.stems_mono _ _ (fun gm => earlier _) key record (traced.groups key record held)

omit [DecidableEq Key] [DecidableEq Worker] in
/-- The queue of the serial worker, when only upserts that a turn made join it. -/
theorem messages_queued (d : Daemon collate Worker) (more : List DbWrite)
    (fromPrivate : ∀ pm, .onPrivate (.upsert pm) ∈ more → d.FromTurn config (.privateMessage pm))
    (fromGroup : ∀ gm, .onGroup (.upsert gm) ∈ more → d.FromTurn config (.groupMessage gm))
    (traced : d.MessagesTraced config) :
    ({ d with serial := d.serial ++ more } : Daemon collate Worker).MessagesTraced config := by
  refine { traced with privateQueue := ?_, groupQueue := ?_ }
  · intro pm member
    rcases List.mem_append.mp member with old | fresh
    · exact traced.privateQueue pm old
    · exact fromPrivate pm fresh
  · intro gm member
    rcases List.mem_append.mp member with old | fresh
    · exact traced.groupQueue gm old
    · exact fromGroup gm fresh

theorem messages_step (d : Daemon collate Worker) (move : Move Worker)
    (traced : d.MessagesTraced config) :
    (step config order rowOrder d move).MessagesTraced config := by
  have took := took_step config order rowOrder d move
  generalize step config order rowOrder d move = after at took ⊢
  cases took with
  | rests => exact traced
  | receives event idle running => exact messages_receives config d event traced
  | handsFile call rest next job posts =>
      exact { traced with
        pending := fun other member => traced.pending other (by simp [next, member]) }
  | handsWrite call rest next noFile =>
      have handed := traced.pending call (by simp [next])
      have queued := messages_queued config d call.write.toList
        (fun pm member => write_private call pm (Option.mem_toList.mp member) ▸ handed)
        (fun gm member => write_group call gm (Option.mem_toList.mp member) ▸ handed) traced
      exact { queued with
        pending := fun other member => traced.pending other (by simp [next, member]) }
  | takes => exact { traced with }
  | loses => exact { traced with }
  | stores worker job storing digest =>
      rw [Store.storeFile_eq]
      exact { traced with }
  | posts worker owner fileId linking =>
      obtain ⟨notPrivate, notGroup⟩ := link_ne_upsert owner fileId
      have queued := messages_queued config d [linkWrite owner fileId]
        (fun pm member => absurd (List.mem_singleton.mp member).symm (notPrivate pm))
        (fun gm member => absurd (List.mem_singleton.mp member).symm (notGroup gm)) traced
      exact { queued with }
  | commits write rest queued =>
      exact messages_commit order rowOrder config d write rest queued traced
  | fails write rest queued =>
      exact { traced with
        privateQueue := fun pm member => traced.privateQueue pm (by simp [queued, member])
        groupQueue := fun gm member => traced.groupQueue gm (by simp [queued, member]) }
  | restarts =>
      exact { traced with
        pending := fun call member => by cases member
        privateQueue := fun pm member => by cases member
        groupQueue := fun gm member => by cases member }

theorem messages_runs (moves : List (Move Worker)) :
    (runs config order rowOrder moves : Daemon collate Worker).MessagesTraced config := by
  apply run_invariant (step config order rowOrder) _ (MessagesTraced config)
  · refine ⟨by simp, by simp, by simp, ?_, ?_⟩
    · intro key record held
      cases held
    · intro key record held
      cases held
  · exact fun d move traced => messages_step order rowOrder config d move traced

end

end Daemon

/-- In every state of every run, failures and restarts included, all that a
record shows or showed comes from messages with its key that some event of the
run brought, or reported as deleted. -/
theorem messages_were_delivered {Key : Type} [DecidableEq Key] {collate : String → Key}
    {Worker : Type} [DecidableEq Worker] (interval : Rat) (batch : Nat) (order : MapOrder)
    (rowOrder : RowOrder) (moves : List (Daemon.Move Worker)) :
    let d : Daemon collate Worker :=
      Daemon.runs (Config.started interval batch) order rowOrder moves
    d.store.privates.Stems
        (fun pm => ∃ turn ∈ d.seen, turn.2.Accounts buildPrivateMessage pm) ∧
      d.store.groups.Stems
        (fun gm => ∃ turn ∈ d.seen, turn.2.Accounts buildGroupMessage gm) := by
  intro d
  have traced : d.MessagesTraced (Config.started interval batch) :=
    Daemon.messages_runs order rowOrder (Config.started interval batch) moves
  have genuineTurn (call : Call) (handed : d.FromTurn (Config.started interval batch) call) :
      ∃ turn ∈ d.seen, genuine turn.2 (.hand call) = true := by
    obtain ⟨turn, member, made⟩ := handed
    exact ⟨turn, member,
      List.all_eq_true.mp (genuine_reaction interval batch turn.1 turn.2) _ made⟩
  constructor
  · intro key record held
    apply Record.stems_mono _ _ _ key record (traced.privates key record held)
    intro pm handed
    obtain ⟨turn, member, fine⟩ := genuineTurn _ handed
    exact ⟨turn, member, of_decide_eq_true fine⟩
  · intro key record held
    apply Record.stems_mono _ _ _ key record (traced.groups key record held)
    intro gm handed
    obtain ⟨turn, member, fine⟩ := genuineTurn _ handed
    exact ⟨turn, member, of_decide_eq_true fine⟩

end TgLoggerd

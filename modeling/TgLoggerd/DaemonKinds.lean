import TgLoggerd.DaemonOrigins
import TgLoggerd.ReplyLinks

/-!
Which table a message is stored in. New, edited and deleted messages are routed by
their own chat, a replied one by the chat that was asked. The two agree as long as
TDLib answers a getMessage with the message that was asked for.
-/

namespace TgLoggerd

open KeyedTable

/-- The event does not bring another message than the one a link waits for. -/
def answersAsked (impl : Impl) : Event → Bool
  | .answer requestId (.message message) =>
      ((impl.handlers requestId).bind Continuation.reply).all fun reply =>
        (message.chatId, message.id) = (reply.replyToChatId, reply.replyToMsgId)
  | _ => true

theorem truthful_iff (impl : Impl) (event : Event) :
    answersAsked impl event = true ↔ Truthful impl event := by
  constructor
  · rintro asked requestId message reply depth rfl waits
    simpa [answersAsked, waits, Continuation.reply] using asked
  · intro truthful
    unfold answersAsked
    split
    · next requestId message =>
      rw [Option.all_eq_true]
      intro reply asked
      obtain ⟨waiting, waits, same⟩ := Option.bind_eq_some_iff.mp asked
      cases waiting <;> cases same
      exact decide_eq_true (truthful requestId message reply _ rfl waits)
    · rfl

instance (impl : Impl) (event : Event) : Decidable (Truthful impl event) :=
  decidable_of_iff _ (truthful_iff impl event)

/-- A message is handed to the table of its chat's kind. -/
def ofKind : Action → Bool
  | .hand (.privateMessage pm) => isPrivateChat pm.chatId
  | .hand (.groupMessage gm) => !isPrivateChat gm.chatId
  | _ => true

theorem admits_ofKind : AdmitsTurns ofKind :=
  ⟨⟨⟨⟨fun _ _ _ => rfl⟩, fun _ => rfl, fun _ => rfl, fun _ => rfl⟩, fun _ => rfl, fun _ => rfl⟩,
    fun _ => rfl, fun _ => rfl, fun _ _ _ => rfl⟩

theorem ofKind_of_quiet (actions : List Action) (silent : actions.all quiet) :
    actions.all ofKind := by
  refine all_of_quiet ofKind ?_ actions silent
  rintro (call | ⟨query, handler⟩) calm
  · cases call <;> first | rfl | cases calm
  · rfl

section

variable (interval : Rat) (batch : Nat) (caches : Caches)

theorem ofKind_message (chatId : Int) (message : TdApi.Message) (depth : Nat)
    (own : isPrivateChat message.chatId = isPrivateChat chatId) :
    (handleMessage (Config.started interval batch) caches chatId message depth).2.all ofKind := by
  obtain ⟨rest, actions, silent⟩ :=
    actions_message (Config.started interval batch) caches chatId message depth rfl rfl
  have routed : ofKind (.hand (messageCall chatId message)) = true := by
    simp only [messageCall]
    split
    · next isPrivate => exact own.trans isPrivate
    · next isGroup =>
      exact congrArg not (own.trans (Bool.eq_false_of_not_eq_true isGroup))
  rw [actions, List.all_append, List.all_cons,
    admits_forward _ caches admits_ofKind.toAdmitsRows, routed, ofKind_of_quiet rest silent]
  rfl

theorem ofKind_deletions (chatId : Int) (messageIds : List Int) (isPermanent : Bool) :
    (handleDeleteMessages (Config.started interval batch) chatId messageIds isPermanent).all
      ofKind := by
  simp only [handleDeleteMessages, Config.started, ↓reduceIte]
  split
  · next isPrivate =>
    rw [List.all_map, List.all_eq_true]
    exact fun _ _ => isPrivate
  · next isGroup =>
    rw [List.all_map, List.all_eq_true]
    exact fun _ _ => congrArg not (Bool.eq_false_of_not_eq_true isGroup)

/-- A turn with a truthful answer hands every message to the table of its chat's kind. -/
theorem ofKind_reaction (impl : Impl) (event : Event) (truthful : Truthful impl event) :
    (reaction (Config.started interval batch) impl event).2.all ofKind := by
  have admins (caches : Caches) (chatId : Int) (members : List (Option TdApi.ChatMember)) :
      (emitAdmins (Config.started interval batch) caches chatId members).all ofKind :=
    admits_groupAdmins _ caches admits_ofKind.toAdmitsRows (fun _ => rfl) chatId members
  cases event with
  | update u =>
      apply admits_update _ impl.caches admits_ofKind u
      · rintro message rfl
        exact ofKind_message interval batch impl.caches message.chatId message 0 rfl
      · rintro chatId messageIds isPermanent rfl
        exact ofKind_deletions interval batch chatId messageIds isPermanent
      · intro groupId info _ caches chatId
        exact admins caches chatId info.members
  | answer requestId object =>
      simp only [reaction]
      cases waits : impl.handlers requestId with
      | none => rfl
      | some waiting =>
          apply admits_resume _ impl.caches admits_ofKind waiting object
          · rintro message _ rfl
            exact ofKind_message interval batch impl.caches message.chatId message 0 rfl
          · rintro reply depth rfl
            cases object with
            | message message =>
                -- The one answer that is routed by the chat asked for.
                have asked := congrArg Prod.fst (truthful requestId message reply depth rfl waits)
                simp only [resume, List.all_append,
                  admits_messageEntities _ _ admits_ofKind.toAdmitsRows, Bool.true_and]
                rw [ofKind_message interval batch _ _ message _ (congrArg isPrivateChat asked)]
                rfl
            | _ => rfl
          · intro chatId members _ _
            exact admins impl.caches chatId members
  | close => rfl

end

/-- A record of these tables comes from a message of the same chat. -/
theorem chat_of_stems {Sender : Type} (given : Message Sender → Prop)
    (tables : MessageTables Sender) (stems : tables.Stems given) (row : MessageRow Sender)
    (member : row ∈ tables.messages.rows) : ∃ msg, given msg ∧ msg.chatId = row.chatId := by
  have found : tables.lookup row.key = some row := (Table.lookup_some_iff _ _ _).mpr ⟨member, rfl⟩
  have held : (archived tables).records row.key = some (recordOf tables row) := by
    simp [archived, found]
  obtain ⟨msg, known, same, _⟩ := (stems row.key _ held).shown
  exact ⟨msg, known, congrArg Prod.fst same⟩

/-- As long as TDLib answers a getMessage with the message asked for, every message is
stored in the table of its chat's kind, over failures and restarts. So no message is
ever in both tables. -/
theorem tables_split_by_kind {Key : Type} [DecidableEq Key] {collate : String → Key}
    {Worker : Type} [DecidableEq Worker] (interval : Rat) (batch : Nat) (order : MapOrder)
    (rowOrder : RowOrder) (moves : List (Daemon.Move Worker))
    (truthful : ∀ turn ∈ (Daemon.runs (Config.started interval batch) order rowOrder moves :
      Daemon collate Worker).seen, Truthful turn.1 turn.2) :
    let d : Daemon collate Worker :=
      Daemon.runs (Config.started interval batch) order rowOrder moves
    (∀ row ∈ d.store.privates.messages.rows, isPrivateChat row.chatId = true) ∧
      (∀ row ∈ d.store.groups.messages.rows, isPrivateChat row.chatId = false) ∧
      ∀ key, d.store.privates.lookup key = none ∨ d.store.groups.lookup key = none := by
  intro d
  have traced : d.MessagesTraced (Config.started interval batch) :=
    Daemon.messages_runs order rowOrder (Config.started interval batch) moves
  have routed (call : Call) (handed : d.FromTurn (Config.started interval batch) call) :
      ofKind (.hand call) = true := by
    obtain ⟨turn, member, made⟩ := handed
    exact List.all_eq_true.mp
      (ofKind_reaction interval batch turn.1 turn.2 (truthful turn member)) _ made
  have privates (row : MessageRow PrivateSender) (member : row ∈ d.store.privates.messages.rows) :
      isPrivateChat row.chatId = true := by
    obtain ⟨pm, handed, same⟩ := chat_of_stems _ _ traced.privates row member
    exact same ▸ routed _ handed
  have groups (row : MessageRow GroupSender) (member : row ∈ d.store.groups.messages.rows) :
      isPrivateChat row.chatId = false := by
    obtain ⟨gm, handed, same⟩ := chat_of_stems _ _ traced.groups row member
    have group : (!isPrivateChat gm.chatId) = true := routed _ handed
    rwa [← same, ← Bool.not_eq_true']
  refine ⟨privates, groups, fun key => ?_⟩
  cases left : d.store.privates.lookup key with
  | none => exact Or.inl rfl
  | some pm =>
      right
      cases right : d.store.groups.lookup key with
      | none => rfl
      | some gm =>
          obtain ⟨pmMember, pmKey⟩ := (Table.lookup_some_iff _ _ _).mp left
          obtain ⟨gmMember, gmKey⟩ := (Table.lookup_some_iff _ _ _).mp right
          have chats : pm.chatId = gm.chatId := congrArg Prod.fst (pmKey.trans gmKey.symm)
          have contra := privates pm pmMember
          rw [chats, groups gm gmMember] at contra
          cases contra

/-- A private message that replies to one of a known group, which is then fetched. -/
def repliedAcross : List (Daemon.Move Unit) :=
  [.receive (.update (.user (some { id := 5 }))),
    .hand,
    .receive (.update (.newChat (some { id := -9, type := some (.basicGroup 9) }))),
    .hand,
    .receive (.update (.newMessage { id := 8, chatId := 5, replyTo := some (.message (-9) 3) })),
    .hand,
    .receive (.answer 4 (.message { id := 3, chatId := -9 })),
    .hand,
    .hand,
    .commit,
    .commit,
    .commit,
    .commit,
    .commit]

theorem tables_split_by_kind_across :
    let d : Daemon foldCase Unit :=
      Daemon.runs (Config.started 300 4) insertionOrder storageOrder repliedAcross
    (∀ row ∈ d.store.privates.messages.rows, isPrivateChat row.chatId = true) ∧
      (∀ row ∈ d.store.groups.messages.rows, isPrivateChat row.chatId = false) ∧
      ∀ key, d.store.privates.lookup key = none ∨ d.store.groups.lookup key = none := by
  refine tables_split_by_kind 300 4 insertionOrder storageOrder repliedAcross ?_
  decide +kernel

end TgLoggerd

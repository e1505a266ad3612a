import TgLoggerd.AdminSync
import TgLoggerd.EntityOrder

/-!
From the answers of TDLib to the administrator rows. A fetched member list
becomes a job of the serial worker only if it names an administrator, and the
job is the only thing that deletes rows. A process may end at any time and lose
its queue; the tables stay.
-/

namespace TgLoggerd

open Function KeyedTable SerialRun

structure AdminService where
  impl : Impl
  queue : List GroupAdminList
  tables : AdminTables

def AdminService.initial : AdminService := ⟨Impl.initial, [], AdminTables.empty⟩

inductive AdminMove where
  | receive (event : Event)
  /-- The serial worker runs its next sync. -/
  | commit
  /-- The same, and the sync throws. -/
  | fail
  | restart
  deriving DecidableEq, Repr

def adminLists (actions : List Action) : List GroupAdminList :=
  actions.filterMap fun action =>
    match action with
    | .hand (.groupAdmins list) => some list
    | _ => none

section

variable (config : Config) (order : RowOrder)

def adminServiceStep (service : AdminService) : AdminMove → AdminService
  | .receive event =>
      { service with
        impl := process config service.impl event
        queue := service.queue ++ adminLists (reaction config service.impl event).2 }
  | .commit =>
      match service.queue with
      | [] => service
      | list :: rest =>
          { service with queue := rest, tables := syncGroupAdmins order service.tables list }
  | .fail => { service with queue := service.queue.tail }
  | .restart => { service with impl := Impl.initial, queue := [] }

def adminService (moves : List AdminMove) : AdminService :=
  run (adminServiceStep config order) AdminService.initial moves

/-- The event brings the members of the group behind a chat: it answers a
pending request for its administrators, or it is the full info of a basic group. -/
def MemberList (impl : Impl) (event : Event) (chatId : Int)
    (members : List (Option TdApi.ChatMember)) : Prop :=
  (∃ requestId, event = .answer requestId (.chatMembers members) ∧
    impl.handlers requestId = some (.groupAdmins chatId)) ∨
  ∃ groupId info, event = .update (.basicGroupFullInfo groupId (some info)) ∧
    info.members = members ∧ ((impl.caches.groupState groupId).getD {}).chatId = chatId

/-- The list holds the administrators that a member list received before names. -/
def FromMembers (before : List AdminMove) (list : GroupAdminList) : Prop :=
  ∃ earlier event later members, before = earlier ++ .receive event :: later ∧
    MemberList (adminService config order earlier).impl event list.groupId members ∧
    list.admins = adminsOf members

def Populated (tables : AdminTables) (groupId : Int) : Prop :=
  ∃ row ∈ tables.admins.rows, row.groupId = groupId

def IsAdmin (tables : AdminTables) (groupId userId : Int) : Prop :=
  ∃ row ∈ tables.admins.rows, row.groupId = groupId ∧ row.userId = userId

end

theorem isAdmin_iff (tables : AdminTables) (groupId userId : Int) :
    IsAdmin tables groupId userId ↔ (tables.admins.lookup (groupId, userId)).isSome := by
  rw [Table.lookup_isSome_iff]
  simp [IsAdmin, Prod.ext_iff]

theorem populated_iff (tables : AdminTables) (groupId : Int) :
    Populated tables groupId ↔ ∃ userId, IsAdmin tables groupId userId := by
  constructor
  · rintro ⟨row, held, group⟩
    exact ⟨row.userId, row, held, group, rfl⟩
  · rintro ⟨userId, row, held, group, _⟩
    exact ⟨row, held, group⟩

section

variable (order : RowOrder) (tables : AdminTables)

/-- Recording the fetched administrators, with repetitions or not, stores them. -/
theorem stored_recordAdmins (groupId : Int) (old : List OldAdmin) (admins : List GroupAdmin)
    (key : Int × Int) :
    ((admins.foldl (recordAdmin groupId old) tables).admins.lookup key).isSome ↔
      (tables.admins.lookup key).isSome ∨ groupId = key.1 ∧ ∃ a ∈ admins, a.userId = key.2 := by
  induction admins generalizing tables with
  | nil => simp
  | cons a rest ih =>
      rw [List.foldl_cons, ih, recordAdmin_eq, lookup_upsertAdmin]
      by_cases own : (groupId, a.userId) = key
      · subst own
        simp
      · have other : groupId = key.1 → a.userId ≠ key.2 := by
          intro group user
          exact own (Prod.ext group user)
        rw [if_neg own]
        simp only [List.mem_cons, exists_eq_or_imp]
        grind

/-- After a sync exactly the users of its list are administrators of its group. -/
theorem isAdmin_sync (list : GroupAdminList) (groupId userId : Int) :
    IsAdmin (syncGroupAdmins order tables list) groupId userId ↔
      if list.groupId = groupId then ∃ a ∈ list.admins, a.userId = userId
      else IsAdmin tables groupId userId := by
  have known := lookup_oldAdmins order tables list.groupId userId
  rw [isAdmin_iff, isAdmin_iff]
  simp only [syncGroupAdmins]
  rw [lookup_removeAdmins]
  by_cases own : list.groupId = groupId
  · subst own
    have old : (∃ row ∈ order.visit (oldAdmins tables list.groupId), row.userId = userId) ↔
        (tables.admins.lookup (list.groupId, userId)).isSome := by
      have found := congrArg Option.isSome known
      rw [Option.isSome_map] at found
      rw [← found]
      simp
    by_cases listed : ∃ a ∈ list.admins, a.userId = userId
    · have kept : ¬ ∀ a ∈ list.admins, a.userId ≠ userId := by
        obtain ⟨a, member, same⟩ := listed
        exact fun none => none a member same
      rw [if_neg fun gone => kept gone.2.2, stored_recordAdmins]
      simp [listed]
    · have unlisted : ∀ a ∈ list.admins, a.userId ≠ userId := by
        intro a member same
        exact listed ⟨a, member, same⟩
      simp only [↓reduceIte, listed, iff_false]
      split
      · simp
      · next stays =>
        rw [stored_recordAdmins]
        rintro (stored | ⟨_, named⟩)
        · exact stays ⟨trivial, old.mpr stored, unlisted⟩
        · exact listed named
  · rw [if_neg fun gone => own gone.1, stored_recordAdmins, if_neg own]
    simp [own]

end

/-- The action hands over no administrator list. -/
def unlisted : Action → Bool
  | .hand (.groupAdmins _) => false
  | _ => true

theorem admits_unlisted : AdmitsTurns unlisted :=
  ⟨⟨⟨⟨fun _ _ _ => rfl⟩, fun _ => rfl, fun _ => rfl, fun _ => rfl⟩, fun _ => rfl, fun _ => rfl⟩,
    fun _ => rfl, fun _ => rfl, fun _ _ _ => rfl⟩

section

variable (config : Config) (caches : Caches)

theorem unlisted_message (chatId : Int) (message : TdApi.Message) (depth : Nat) :
    (handleMessage config caches chatId message depth).2.all unlisted := by
  have reply (requested : Caches) (isGroup : Bool) :
      (resolveReplyMessage config requested message isGroup depth).all unlisted := by
    simp only [resolveReplyMessage]
    split
    · split <;> rfl
    · rfl
  have forward := admits_forward config caches admits_unlisted.toAdmitsRows
  have download := admits_messageFile config admits_unlisted.toAdmits caches message
  simp only [handleMessage]
  split
  · simp only [handleMessageForPrivateChat]
    split
    · simp only [List.all_append, forward, download, reply, Bool.and_true, Bool.true_and]
      rfl
    · rfl
  · simp only [handleMessageForGroupChat]
    split
    · simp only [List.all_append, forward, download, reply, Bool.and_true, Bool.true_and]
      rfl
    · rfl

theorem unlisted_update (u : TdApi.Update)
    (other : ∀ groupId info, u ≠ .basicGroupFullInfo groupId (some info)) :
    (processUpdate config caches u).2.all unlisted := by
  apply admits_update config caches admits_unlisted u
  · intro message _
    exact unlisted_message config caches message.chatId message 0
  · rintro chatId messageIds isPermanent rfl
    simp only [handleDeleteMessages]
    split <;> split <;> simp [List.all_eq_true, unlisted]
  · intro groupId info same
    exact absurd same (other groupId info)

theorem unlisted_resume (waiting : Continuation) (object : TdApi.Object)
    (other : ∀ chatId members, waiting = .groupAdmins chatId → object ≠ .chatMembers members) :
    (resume config caches waiting object).2.all unlisted := by
  apply admits_resume config caches admits_unlisted waiting object
  · intro message _ _
    exact unlisted_message config caches message.chatId message 0
  · rintro reply depth rfl
    cases object with
    | message r =>
        simp only [resume, List.all_append, unlisted_message,
          admits_messageEntities config _ admits_unlisted.toAdmitsRows, Bool.true_and]
        rfl
    | _ => rfl
  · intro chatId members waits same
    exact absurd same (other chatId members waits)

theorem adminLists_unlisted (actions : List Action) (none : actions.all unlisted) :
    adminLists actions = [] := by
  rw [adminLists, List.filterMap_eq_nil_iff]
  intro action member
  have silent := List.all_eq_true.mp none action member
  rcases action with call | ⟨query, handler⟩
  · cases call <;> first | rfl | cases silent
  · rfl

/-- A member list is handed over with the administrators it names, if any. -/
theorem adminLists_emitAdmins (chatId : Int) (members : List (Option TdApi.ChatMember)) :
    adminLists (emitAdmins config caches chatId members) =
      if adminsOf members = [] then [] else [⟨chatId, adminsOf members⟩] := by
  have users := adminLists_unlisted _
    (admits_ensureUsers config caches admits_unlisted.toAdmitsRows (adminsOf members))
  rw [adminLists] at users
  simp only [emitAdmins, adminLists, List.filterMap_append]
  rw [← adminsOf, users, List.nil_append]
  split <;> rfl

end

/-- What the event loop hands over was built from a member list. -/
theorem handed_members (config : Config) (impl : Impl) (event : Event) (list : GroupAdminList)
    (handed : list ∈ adminLists (reaction config impl event).2) :
    ∃ members, MemberList impl event list.groupId members ∧ list.admins = adminsOf members ∧
      list.admins ≠ [] := by
  have named (caches : Caches) (chatId : Int) (members : List (Option TdApi.ChatMember))
      (emitted : list ∈ adminLists (emitAdmins config caches chatId members)) :
      list.groupId = chatId ∧ list.admins = adminsOf members ∧ list.admins ≠ [] := by
    rw [adminLists_emitAdmins] at emitted
    split at emitted
    · cases emitted
    · next some =>
      cases List.mem_singleton.mp emitted
      exact ⟨rfl, rfl, some⟩
  have nothing (actions : List Action) (none : actions.all unlisted) :
      list ∉ adminLists actions := by
    simp [adminLists_unlisted actions none]
  cases event with
  | update u =>
      by_cases full : ∃ groupId info, u = .basicGroupFullInfo groupId (some info)
      · obtain ⟨groupId, info, rfl⟩ := full
        simp only [reaction, processUpdate, describe] at handed
        by_cases seen : ((impl.caches.groupState groupId).getD {}).chatSeen = true
        · simp only [seen, ↓reduceIte] at handed
          rw [adminLists, List.filterMap_append] at handed
          rcases List.mem_append.mp handed with group | admins
          · exact absurd group
              (nothing _ (admits_emitGroup config _ admits_unlisted.toAdmitsRows groupId))
          · split at admins
            · simp only [emitBasicGroupAdmins] at admins
              split at admins
              · obtain ⟨same, built, some⟩ := named _ _ _ admins
                exact ⟨info.members, Or.inr ⟨groupId, info, rfl, rfl, same.symm⟩, built, some⟩
              · cases admins
            · cases admins
        · simp only [seen, Bool.false_eq_true, ↓reduceIte] at handed
          cases handed
      · refine absurd handed (nothing _ (unlisted_update config impl.caches u ?_))
        intro groupId info same
        exact full ⟨groupId, info, same⟩
  | answer requestId object =>
      simp only [reaction] at handed
      cases waits : impl.handlers requestId with
      | none => simp [waits, adminLists] at handed
      | some waiting =>
          simp only [waits] at handed
          by_cases fetched : ∃ chatId members, waiting = .groupAdmins chatId ∧
              object = .chatMembers members
          · obtain ⟨chatId, members, rfl, rfl⟩ := fetched
            obtain ⟨same, built, some⟩ := named _ _ _ handed
            exact ⟨members, Or.inl ⟨requestId, rfl, same ▸ waits⟩, built, some⟩
          · refine absurd handed (nothing _ (unlisted_resume config impl.caches waiting object ?_))
            intro chatId members own answered
            exact fetched ⟨chatId, members, own, answered⟩
  | close => simp [reaction, adminLists] at handed

section

variable (config : Config) (order : RowOrder)

theorem fromMembers_snoc (before : List AdminMove) (move : AdminMove) (list : GroupAdminList)
    (source : FromMembers config order before list) :
    FromMembers config order (before ++ [move]) list := by
  obtain ⟨earlier, event, later, members, rfl, found⟩ := source
  exact ⟨earlier, event, later ++ [move], members, by simp, found⟩

/-- Every list that waits for the serial worker names an administrator and was
built from a member list received before. -/
theorem queued_members (moves : List AdminMove) :
    ∀ list ∈ (adminService config order moves).queue,
      list.admins ≠ [] ∧ FromMembers config order moves list := by
  induction moves using List.reverseRecOn with
  | nil => simp [adminService, AdminService.initial]
  | append_singleton moves move ih =>
      intro list queued
      have old (waiting : list ∈ (adminService config order moves).queue) :
          list.admins ≠ [] ∧ FromMembers config order (moves ++ [move]) list :=
        ⟨(ih list waiting).1, fromMembers_snoc config order moves move list (ih list waiting).2⟩
      rw [adminService, run_snoc] at queued
      cases move with
      | receive event =>
          rcases List.mem_append.mp queued with waiting | handed
          · exact old waiting
          · obtain ⟨members, source, built, some⟩ := handed_members config _ event list handed
            exact ⟨some, moves, event, [], members, rfl, source, built⟩
      | commit =>
          apply old
          simp only [adminServiceStep] at queued
          split at queued
          · exact queued
          · next first rest split =>
            change list ∈ (run (adminServiceStep config order) AdminService.initial moves).queue
            rw [split]
            exact List.mem_cons_of_mem _ queued
      | fail => exact old (List.mem_of_mem_tail queued)
      | restart => cases queued

/-- An administrator that a move removes is one that a sync no longer names. -/
theorem removed_by_sync (moves : List AdminMove) (move : AdminMove) (groupId userId : Int)
    (admin : IsAdmin (adminService config order moves).tables groupId userId)
    (gone : ¬ IsAdmin (adminService config order (moves ++ [move])).tables groupId userId) :
    move = .commit ∧ ∃ list rest, (adminService config order moves).queue = list :: rest ∧
      list.groupId = groupId ∧ FromMembers config order moves list ∧ list.admins ≠ [] ∧
      ∀ a ∈ list.admins, a.userId ≠ userId := by
  rw [adminService, run_snoc] at gone
  cases move with
  | commit =>
      refine ⟨rfl, ?_⟩
      simp only [adminServiceStep] at gone
      split at gone
      · exact absurd admin gone
      · next list rest queue =>
        rw [isAdmin_sync] at gone
        split at gone
        · next own =>
          have source := queued_members config order moves list
            (by simp only [adminService, queue, List.mem_cons_self])
          refine ⟨list, rest, queue, own, source.2, source.1, ?_⟩
          intro a member same
          exact gone ⟨a, member, same⟩
        · exact absurd admin gone
  | _ => exact absurd admin gone

theorem populated_step (moves : List AdminMove) (move : AdminMove) (groupId : Int)
    (populated : Populated (adminService config order moves).tables groupId) :
    Populated (adminService config order (moves ++ [move])).tables groupId := by
  obtain ⟨userId, admin⟩ := (populated_iff _ _).mp populated
  by_cases stays : IsAdmin (adminService config order (moves ++ [move])).tables groupId userId
  · exact (populated_iff _ _).mpr ⟨userId, stays⟩
  · obtain ⟨rfl, list, rest, queue, own, _, some, _⟩ :=
      removed_by_sync config order moves move groupId userId admin stays
    obtain ⟨a, member⟩ := List.exists_mem_of_ne_nil _ some
    have synced : (adminService config order (moves ++ [.commit])).tables =
        syncGroupAdmins order (adminService config order moves).tables list := by
      have step : adminService config order (moves ++ [.commit]) =
          adminServiceStep config order (adminService config order moves) .commit :=
        run_snoc _ _ _ _
      rw [step]
      simp only [adminServiceStep, queue]
    refine (populated_iff _ _).mpr ⟨a.userId, ?_⟩
    rw [synced, isAdmin_sync, if_pos own]
    exact ⟨a, member, rfl⟩

end

/-- In every run a group that has administrators keeps some, and a row goes only
by a sync of a list that was built from a member list, names an administrator
and does not name the user of the row. -/
theorem admins_retained (config : Config) (order : RowOrder) (moves : List AdminMove)
    (groupId : Int) :
    (∀ before after, moves = before ++ after →
      Populated (adminService config order before).tables groupId →
        Populated (adminService config order moves).tables groupId) ∧
    ∀ before move after, moves = before ++ move :: after → ∀ userId,
      IsAdmin (adminService config order before).tables groupId userId →
      ¬ IsAdmin (adminService config order (before ++ [move])).tables groupId userId →
      move = .commit ∧ ∃ list rest, (adminService config order before).queue = list :: rest ∧
        list.groupId = groupId ∧ FromMembers config order before list ∧ list.admins ≠ [] ∧
        ∀ a ∈ list.admins, a.userId ≠ userId := by
  constructor
  · rintro before after rfl populated
    induction after using List.reverseRecOn with
    | nil => simpa using populated
    | append_singleton after move ih =>
        rw [← List.append_assoc]
        exact populated_step config order _ move groupId ih
  · rintro before move after rfl userId
    exact removed_by_sync config order before move groupId userId

end TgLoggerd

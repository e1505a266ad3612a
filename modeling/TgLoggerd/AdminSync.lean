import TgLoggerd.AdminStore
import TgLoggerd.Journal

/-!
The diff that one administrator sync makes: which rows it leaves, which events
it writes, and that a group's history always replays to its current rows. The
history is about status, title and flags; inviter and date are not part of it.
-/

namespace TgLoggerd

open KeyedTable SerialRun

structure AdminState where
  status : AdminStatus
  customTitle : String
  rights : TdApi.ChatAdministratorRights
  deriving DecidableEq, Repr

def GroupAdmin.state (a : GroupAdmin) : AdminState := ⟨adminStatus a, a.customTitle, a.rights⟩

def GroupAdminRow.state (row : GroupAdminRow) : AdminState :=
  ⟨row.status, row.customTitle, row.rights⟩

/-- The stored state of a user as administrator of a group. -/
def adminState (tables : AdminTables) (groupId userId : Int) : Option AdminState :=
  (tables.admins.lookup (groupId, userId)).map GroupAdminRow.state

def adminEvent (groupId userId : Int) (action : AdminAction) (state : AdminState) :
    GroupAdminEvent where
  groupId := groupId
  userId := userId
  action := action
  status := state.status
  customTitle := state.customTitle
  rights := state.rights

/-- The row a fetched admin is to have, every flag in its own column. -/
def adminRow (groupId : Int) (a : GroupAdmin) : GroupAdminRow where
  groupId := groupId
  userId := a.userId
  status := adminStatus a
  customTitle := a.customTitle
  inviterUserId := a.inviterUserId
  joinedDate := a.joinedDate
  rights := a.rights

theorem rights_ext (left right : TdApi.ChatAdministratorRights)
    (same : ∀ column : RightColumn, column.read left = column.read right) : left = right := by
  cases left
  cases right
  simp only [TdApi.ChatAdministratorRights.mk.injEq]
  exact ⟨same .canManageChat, same .canChangeInfo, same .canPostMessages, same .canEditMessages,
    same .canDeleteMessages, same .canInviteUsers, same .canRestrictMembers,
    same .canPinMessages, same .canManageTopics, same .canPromoteMembers,
    same .canManageVideoChats, same .canPostStories, same .canEditStories,
    same .canDeleteStories, same .canManageDirectMessages, same .canManageTags,
    same .isAnonymous⟩

theorem read_write (column other : RightColumn) (rights : TdApi.ChatAdministratorRights)
    (value : Bool) :
    column.read (other.write rights value) =
      if column = other then value else column.read rights := by
  cases other <;> cases column <;> rfl

theorem read_assignRights (columns : List RightColumn) (new old : TdApi.ChatAdministratorRights)
    (column : RightColumn) :
    column.read (assignRights columns new old) =
      if column ∈ columns then column.read new else column.read old := by
  induction columns generalizing old with
  | nil => rfl
  | cons first rest ih =>
      rw [assignRights, List.foldl_cons]
      change column.read (assignRights rest new _) = _
      rw [ih, read_write]
      by_cases later : column ∈ rest
      · simp [later]
      · by_cases here : column = first
        · simp [here]
        · simp [later, here]

/-- A list that names every column carries the flags over whole. -/
theorem assignRights_complete (columns : List RightColumn)
    (complete : ∀ column : RightColumn, column ∈ columns)
    (new old : TdApi.ChatAdministratorRights) : assignRights columns new old = new := by
  apply rights_ext
  intro column
  rw [read_assignRights, if_pos (complete column)]

theorem bindRights_read (columns : List RightColumn)
    (complete : ∀ column : RightColumn, column ∈ columns)
    (rights : TdApi.ChatAdministratorRights) :
    bindRights columns (columns.map (RightColumn.read rights)) = rights := by
  have paired : bindRights columns (columns.map (RightColumn.read rights)) =
      assignRights columns rights {} := by
    unfold bindRights assignRights
    rw [← List.map_prod_left_eq_zip, List.foldl_map]
  rw [paired, assignRights_complete columns complete]

theorem columns_complete (column : RightColumn) :
    column ∈ upsertColumns ∧ column ∈ updateColumns ∧ column ∈ histColumns := by
  cases column <;> decide

theorem bindRights_upsert (a : GroupAdmin) : bindRights upsertColumns (adminRights a) = a.rights :=
  bindRights_read upsertColumns (fun column => (columns_complete column).1) a.rights

theorem bindRights_hist (a : GroupAdmin) : bindRights histColumns (adminRights a) = a.rights :=
  bindRights_read histColumns (fun column => (columns_complete column).2.2) a.rights

theorem bindRights_selected (rights : TdApi.ChatAdministratorRights) :
    bindRights histColumns (selectColumns.map (RightColumn.read rights)) = rights :=
  bindRights_read histColumns (fun column => (columns_complete column).2.2) rights

theorem selected_eq_iff (rights : TdApi.ChatAdministratorRights) (a : GroupAdmin) :
    selectColumns.map (RightColumn.read rights) = adminRights a ↔ rights = a.rights := by
  constructor
  · intro same
    have bound := congrArg (bindRights histColumns) same
    rwa [bindRights_selected, bindRights_hist] at bound
  · rintro rfl
    rfl

theorem adminChanged_iff (row : GroupAdminRow) (a : GroupAdmin) :
    adminChanged (oldAdmin row) a = true ↔ row.state ≠ a.state := by
  have flags := selected_eq_iff row.rights a
  simp only [adminChanged, oldAdmin, GroupAdminRow.state, GroupAdmin.state, ne_eq,
    AdminState.mk.injEq, flags]
  split <;> grind

theorem newAdminRow_eq (groupId : Int) (a : GroupAdmin) :
    newAdminRow groupId a = adminRow groupId a := by
  simp [newAdminRow, adminRow, bindRights_upsert]

theorem overwriteAdmin_key (new row : GroupAdminRow) (same : row.key = new.key) :
    overwriteAdmin new row = new := by
  cases row
  cases new
  simp only [GroupAdminRow.key, Prod.mk.injEq] at same
  have flags (new old : TdApi.ChatAdministratorRights) : assignRights updateColumns new old = new :=
    assignRights_complete updateColumns (fun column => (columns_complete column).2.1) new old
  simp [overwriteAdmin, flags, same.1, same.2]

theorem lookup_upsertAdmin (groupId : Int) (tables : AdminTables) (a : GroupAdmin)
    (key : Int × Int) :
    (upsertAdmin groupId tables a).admins.lookup key =
      if (groupId, a.userId) = key then some (adminRow groupId a)
      else tables.admins.lookup key := by
  have inserted := Table.lookup_insertOrUpdate tables.admins (newAdminRow groupId a)
    (overwriteAdmin (newAdminRow groupId a)) (fun _ => rfl) key
  change _ = if (groupId, a.userId) = key then _ else _ at inserted
  simp only [upsertAdmin, inserted]
  split
  · next same =>
      cases found : tables.admins.lookup key with
      | none => simp [newAdminRow_eq]
      | some row =>
          have rowKey := ((Table.lookup_some_iff _ _ _).mp found).2
          rw [Option.map_some, Option.getD_some,
            overwriteAdmin_key _ _ (rowKey.trans same.symm), newAdminRow_eq]
  · rfl

/-- The event one fetched admin brings. -/
def changeAdminEvent (groupId : Int) (old : List OldAdmin) (a : GroupAdmin) :
    Option GroupAdminEvent :=
  match old.find? fun row => row.userId = a.userId with
  | none => some (adminEvent groupId a.userId .added a.state)
  | some before =>
      if adminChanged before a then some (adminEvent groupId a.userId .updated a.state) else none

/-- The event one stored admin brings. -/
def removeAdminEvent (groupId : Int) (admins : List GroupAdmin) (old : OldAdmin) :
    Option GroupAdminEvent :=
  if admins.any fun a => a.userId = old.userId then none
  else some (adminEvent groupId old.userId .removed
    ⟨old.status, old.customTitle, bindRights histColumns old.rights⟩)

theorem recordAdmin_eq (groupId : Int) (old : List OldAdmin) (tables : AdminTables)
    (a : GroupAdmin) :
    recordAdmin groupId old tables a =
      { admins := (upsertAdmin groupId tables a).admins
        events := tables.events ++ (changeAdminEvent groupId old a).toList } := by
  simp only [recordAdmin, changeAdminEvent, bindRights_hist]
  cases old.find? fun row => row.userId = a.userId with
  | none => rfl
  | some before =>
      by_cases changed : adminChanged before a
      · simp only [changed, ↓reduceIte]
        rfl
      · simp only [changed, Bool.false_eq_true, ↓reduceIte, Option.toList_none, List.append_nil]
        rfl

theorem events_recordAdmins (groupId : Int) (old : List OldAdmin) (admins : List GroupAdmin)
    (tables : AdminTables) :
    (admins.foldl (recordAdmin groupId old) tables).events =
      tables.events ++ admins.filterMap (changeAdminEvent groupId old) := by
  induction admins generalizing tables with
  | nil => simp
  | cons a rest ih =>
      rw [List.foldl_cons, ih, recordAdmin_eq, List.filterMap_cons]
      cases changeAdminEvent groupId old a <;> simp

/-- A listed admin's row is as its last occurrence has it; any other row stays. -/
theorem lookup_recordAdmins (groupId : Int) (old : List OldAdmin) (admins : List GroupAdmin)
    (tables : AdminTables) (distinct : (admins.map GroupAdmin.userId).Nodup) (key : Int × Int) :
    (admins.foldl (recordAdmin groupId old) tables).admins.lookup key =
      if groupId = key.1 then
        match admins.find? fun a => a.userId = key.2 with
        | some a => some (adminRow groupId a)
        | none => tables.admins.lookup key
      else tables.admins.lookup key := by
  induction admins generalizing tables with
  | nil => simp
  | cons a rest ih =>
      rw [List.map_cons, List.nodup_cons] at distinct
      rw [List.foldl_cons, ih _ distinct.2, recordAdmin_eq, lookup_upsertAdmin]
      by_cases group : groupId = key.1
      · by_cases user : a.userId = key.2
        · have missing : rest.find? (fun other => other.userId = key.2) = none := by
            rw [List.find?_eq_none]
            intro other member same
            exact distinct.1 (List.mem_map.mpr ⟨other, member, by simpa [user] using same⟩)
          simp [group, user, missing]
        · simp [group, user, Prod.ext_iff]
      · simp [group, Prod.ext_iff]

theorem events_removeAdmins (groupId : Int) (admins : List GroupAdmin) (old : List OldAdmin)
    (tables : AdminTables) :
    (old.foldl (removeAdmin groupId admins) tables).events =
      tables.events ++ old.filterMap (removeAdminEvent groupId admins) := by
  induction old generalizing tables with
  | nil => simp
  | cons row rest ih =>
      rw [List.foldl_cons, ih, removeAdmin, List.filterMap_cons, removeAdminEvent]
      split
      · rfl
      · simp [insertAdminEvent, adminEvent]

theorem lookup_removeAdmins (groupId : Int) (admins : List GroupAdmin) (old : List OldAdmin)
    (tables : AdminTables) (key : Int × Int) :
    (old.foldl (removeAdmin groupId admins) tables).admins.lookup key =
      if groupId = key.1 ∧ (∃ row ∈ old, row.userId = key.2) ∧ ∀ a ∈ admins, a.userId ≠ key.2
      then none else tables.admins.lookup key := by
  induction old generalizing tables with
  | nil => simp
  | cons row rest ih =>
      rw [List.foldl_cons, ih, removeAdmin]
      by_cases listed : admins.any fun a => a.userId = row.userId
      · have other : (∀ a ∈ admins, a.userId ≠ key.2) → row.userId ≠ key.2 := by
          intro unlisted same
          obtain ⟨a, member, user⟩ := List.any_eq_true.mp listed
          exact unlisted a member ((by simpa using user : a.userId = row.userId).trans same)
        rw [if_pos listed]
        simp only [List.mem_cons, exists_eq_or_imp]
        grind
      · rw [if_neg listed]
        simp only [insertAdminEvent, Table.lookup_delete, List.mem_cons, exists_eq_or_imp]
        simp only [List.any_eq_true, decide_eq_true_eq, not_exists, not_and] at listed
        by_cases hit : (groupId, row.userId) = key
        · subst hit
          simpa using fun a member same => absurd same (listed a member)
        · have off : groupId = key.1 → row.userId ≠ key.2 := by
            intro group user
            exact hit (Prod.ext group user)
          grind

theorem nodup_oldAdmins (tables : AdminTables) (groupId : Int) :
    ((oldAdmins tables groupId).map OldAdmin.userId).Nodup := by
  rw [oldAdmins, List.map_map]
  apply List.Nodup.map_on
  · intro left leftHeld right rightHeld same
    simp only [List.mem_filter, decide_eq_true_eq] at leftHeld rightHeld
    apply tables.admins.same_key_same_row left right leftHeld.1 rightHeld.1
    exact Prod.ext (leftHeld.2.trans rightHeld.2.symm) same
  · exact (List.Nodup.of_map _ tables.admins.unique).filter _

theorem mem_oldAdmins (tables : AdminTables) (groupId userId : Int) (row : OldAdmin) :
    row ∈ oldAdmins tables groupId ∧ row.userId = userId ↔
      (tables.admins.lookup (groupId, userId)).map oldAdmin = some row := by
  simp only [oldAdmins, List.mem_map, List.mem_filter, decide_eq_true_eq, Option.map_eq_some_iff,
    Table.lookup_some_iff]
  constructor
  · rintro ⟨⟨stored, ⟨member, group⟩, rfl⟩, user⟩
    exact ⟨stored, ⟨member, Prod.ext group user⟩, rfl⟩
  · rintro ⟨stored, ⟨member, same⟩, rfl⟩
    exact ⟨⟨stored, ⟨member, (Prod.mk.inj same).1⟩, rfl⟩, (Prod.mk.inj same).2⟩

theorem lookup_oldAdmins (order : RowOrder) (tables : AdminTables) (groupId userId : Int) :
    (order.visit (oldAdmins tables groupId)).find? (fun row => row.userId = userId) =
      (tables.admins.lookup (groupId, userId)).map oldAdmin := by
  have perm := order.perm (oldAdmins tables groupId)
  have unique : ((order.visit (oldAdmins tables groupId)).map OldAdmin.userId).Nodup :=
    (perm.map OldAdmin.userId).nodup_iff.mpr (nodup_oldAdmins tables groupId)
  have held (row : OldAdmin) :
      (order.visit (oldAdmins tables groupId)).find? (fun row => row.userId = userId) = some row ↔
        (tables.admins.lookup (groupId, userId)).map oldAdmin = some row := by
    rw [← mem_oldAdmins, ← perm.mem_iff]
    exact Table.lookup_some_iff ⟨_, unique⟩ userId row
  exact Option.ext held

/-- The stored admins of the group, in any order, each with its own user. -/
theorem filter_removals (order : RowOrder) (tables : AdminTables) (groupId userId : Int)
    (admins : List GroupAdmin) :
    ((order.visit (oldAdmins tables groupId)).filterMap (removeAdminEvent groupId admins)).filter
        (fun event => event.userId = userId) =
      (((tables.admins.lookup (groupId, userId)).map oldAdmin).bind
        (removeAdminEvent groupId admins)).toList := by
  have unique : ((order.visit (oldAdmins tables groupId)).map OldAdmin.userId).Nodup :=
    ((order.perm _).map OldAdmin.userId).nodup_iff.mpr (nodup_oldAdmins tables groupId)
  rw [← lookup_oldAdmins order]
  apply Table.filter_emitted ⟨_, unique⟩
  intro row event emitted
  simp only [removeAdminEvent] at emitted
  split at emitted
  · cases emitted
  · cases emitted
    rfl

/-- The rows one sync leaves: those of the list for its group, the old ones for
every other group. -/
theorem lookup_syncAdmins (order : RowOrder) (tables : AdminTables) (list : GroupAdminList)
    (distinct : (list.admins.map GroupAdmin.userId).Nodup) (groupId userId : Int) :
    (syncGroupAdmins order tables list).admins.lookup (groupId, userId) =
      if list.groupId = groupId then
        (list.admins.find? fun a => a.userId = userId).map (adminRow groupId)
      else tables.admins.lookup (groupId, userId) := by
  simp only [syncGroupAdmins]
  rw [lookup_removeAdmins, lookup_recordAdmins _ _ _ _ distinct]
  by_cases group : list.groupId = groupId
  · subst group
    cases listed : list.admins.find? fun a => a.userId = userId with
    | some a =>
        have member := List.mem_of_find?_eq_some listed
        have user : a.userId = userId := by simpa using List.find?_some listed
        rw [if_neg fun gone => gone.2.2 a member user]
        simp
    | none =>
        have unlisted : ∀ a ∈ list.admins, a.userId ≠ userId := by
          simpa using List.find?_eq_none.mp listed
        -- What is not listed is removed when it was stored, and absent otherwise.
        cases stored : tables.admins.lookup (list.groupId, userId) with
        | none => simp
        | some row =>
            have old := lookup_oldAdmins order tables list.groupId userId
            rw [stored, Option.map_some] at old
            rw [if_pos ⟨rfl, ⟨oldAdmin row, List.mem_of_find?_eq_some old,
              by simpa using List.find?_some old⟩, unlisted⟩]
            simp
  · simp [group]

/-- The events one sync writes. -/
def adminEvents (order : RowOrder) (tables : AdminTables) (list : GroupAdminList) :
    List GroupAdminEvent :=
  let old := order.visit (oldAdmins tables list.groupId)
  list.admins.filterMap (changeAdminEvent list.groupId old) ++
    old.filterMap (removeAdminEvent list.groupId list.admins)

theorem events_syncAdmins (order : RowOrder) (tables : AdminTables) (list : GroupAdminList) :
    (syncGroupAdmins order tables list).events =
      tables.events ++ adminEvents order tables list := by
  simp only [syncGroupAdmins, adminEvents]
  rw [events_removeAdmins, events_recordAdmins, List.append_assoc]

/-- The history a change of one user's state is to have. -/
def adminTransition (groupId userId : Int) (before after : Option AdminState) :
    List GroupAdminEvent :=
  match before, after with
  | none, none => []
  | none, some new => [adminEvent groupId userId .added new]
  | some old, none => [adminEvent groupId userId .removed old]
  | some old, some new => if old = new then [] else [adminEvent groupId userId .updated new]

theorem changeAdminEvent_user (groupId : Int) (old : List OldAdmin) (a : GroupAdmin)
    (event : GroupAdminEvent) (emitted : changeAdminEvent groupId old a = some event) :
    event.groupId = groupId ∧ event.userId = a.userId := by
  simp only [changeAdminEvent] at emitted
  split at emitted
  · cases emitted
    exact ⟨rfl, rfl⟩
  · split at emitted
    · cases emitted
      exact ⟨rfl, rfl⟩
    · cases emitted

theorem removeAdminEvent_group (groupId : Int) (admins : List GroupAdmin) (old : OldAdmin)
    (event : GroupAdminEvent) (emitted : removeAdminEvent groupId admins old = some event) :
    event.groupId = groupId := by
  simp only [removeAdminEvent] at emitted
  split at emitted
  · cases emitted
  · cases emitted
    rfl

theorem adminEvents_group (order : RowOrder) (tables : AdminTables) (list : GroupAdminList)
    (event : GroupAdminEvent) (member : event ∈ adminEvents order tables list) :
    event.groupId = list.groupId := by
  rcases List.mem_append.mp member with changed | removed
  · obtain ⟨a, _, emitted⟩ := List.mem_filterMap.mp changed
    exact (changeAdminEvent_user _ _ a event emitted).1
  · obtain ⟨old, _, emitted⟩ := List.mem_filterMap.mp removed
    exact removeAdminEvent_group _ _ old event emitted

theorem changeAdminEvent_stored (order : RowOrder) (tables : AdminTables) (groupId : Int)
    (a : GroupAdmin) :
    (changeAdminEvent groupId (order.visit (oldAdmins tables groupId)) a).toList =
      adminTransition groupId a.userId (adminState tables groupId a.userId) (some a.state) := by
  simp only [changeAdminEvent, lookup_oldAdmins, adminState]
  cases tables.admins.lookup (groupId, a.userId) with
  | none => rfl
  | some row =>
      by_cases same : row.state = a.state
      · simp [adminChanged_iff, adminTransition, same]
      · simp [adminChanged_iff, adminTransition, same]

/-- Of each user the sync records what happened to its state, once. -/
theorem filter_adminEvents (order : RowOrder) (tables : AdminTables) (list : GroupAdminList)
    (distinct : (list.admins.map GroupAdmin.userId).Nodup) (userId : Int) :
    (adminEvents order tables list).filter (fun event => event.userId = userId) =
      adminTransition list.groupId userId (adminState tables list.groupId userId)
        (adminState (syncGroupAdmins order tables list) list.groupId userId) := by
  have changes := Table.filter_emitted ⟨list.admins, distinct⟩
    (changeAdminEvent list.groupId (order.visit (oldAdmins tables list.groupId)))
    GroupAdminEvent.userId (fun a event emitted => (changeAdminEvent_user _ _ a event emitted).2)
    userId
  change _ = ((list.admins.find? fun a => a.userId = userId).bind _).toList at changes
  rw [adminEvents, List.filter_append, changes, filter_removals]
  rw [show adminState (syncGroupAdmins order tables list) list.groupId userId = _ from
    congrArg (Option.map GroupAdminRow.state)
      (lookup_syncAdmins order tables list distinct list.groupId userId), if_pos rfl]
  cases listed : list.admins.find? fun a => a.userId = userId with
  | some a =>
      have member := List.mem_of_find?_eq_some listed
      have user : a.userId = userId := by simpa using List.find?_some listed
      subst user
      have kept (row : GroupAdminRow)
          (stored : tables.admins.lookup (list.groupId, a.userId) = some row) :
          removeAdminEvent list.groupId list.admins (oldAdmin row) = none := by
        have rowUser := (Prod.mk.inj ((Table.lookup_some_iff _ _ _).mp stored).2).2
        rw [removeAdminEvent, if_pos]
        simpa [oldAdmin, rowUser] using ⟨a, member, rfl⟩
      rw [Option.bind_some, changeAdminEvent_stored]
      cases stored : tables.admins.lookup (list.groupId, a.userId) with
      | none => simp [GroupAdmin.state, GroupAdminRow.state, adminRow]
      | some row => simp [kept row stored, GroupAdmin.state, GroupAdminRow.state, adminRow]
  | none =>
      have unlisted : ∀ a ∈ list.admins, a.userId ≠ userId := by
        simpa using List.find?_eq_none.mp listed
      simp only [Option.bind_none, Option.toList_none, List.nil_append, Option.map_none,
        adminState]
      cases stored : tables.admins.lookup (list.groupId, userId) with
      | none => rfl
      | some row =>
          have rowUser := (Prod.mk.inj ((Table.lookup_some_iff _ _ _).mp stored).2).2
          have gone : removeAdminEvent list.groupId list.admins (oldAdmin row) =
              some (adminEvent list.groupId userId .removed row.state) := by
            rw [removeAdminEvent, if_neg (by simpa [oldAdmin, rowUser] using unlisted)]
            simp [oldAdmin, rowUser, bindRights_selected, GroupAdminRow.state]
          simp [gone, adminTransition]

/-- A history row as a change of one user's state. -/
def GroupAdminEvent.change (event : GroupAdminEvent) : Journal.Change Int AdminState :=
  (event.userId,
    match event.action with
    | .removed => none
    | .added => some ⟨event.status, event.customTitle, event.rights⟩
    | .updated => some ⟨event.status, event.customTitle, event.rights⟩)

def groupHistory (tables : AdminTables) (groupId : Int) : List GroupAdminEvent :=
  tables.events.filter fun event => event.groupId = groupId

def replayAdmins (tables : AdminTables) (groupId : Int) : Int → Option AdminState :=
  Journal.replay ((groupHistory tables groupId).map GroupAdminEvent.change)

theorem replayFrom_transition (groupId userId : Int) (before after : Option AdminState)
    (known : Int → Option AdminState) (start : known userId = before) :
    Journal.replayFrom known
      ((adminTransition groupId userId before after).map GroupAdminEvent.change) userId =
        after := by
  match before, after with
  | none, none => exact start
  | none, some new => simp [adminTransition, adminEvent, GroupAdminEvent.change, Journal.replayFrom]
  | some old, none => simp [adminTransition, adminEvent, GroupAdminEvent.change, Journal.replayFrom]
  | some old, some new =>
      by_cases same : old = new
      · simp [adminTransition, same, Journal.replayFrom, start]
      · simp [adminTransition, same, adminEvent, GroupAdminEvent.change, Journal.replayFrom]

/-- One sync takes the replay of every group from the old states to the new. -/
theorem replay_syncAdmins (order : RowOrder) (tables : AdminTables) (list : GroupAdminList)
    (distinct : (list.admins.map GroupAdmin.userId).Nodup) (groupId userId : Int)
    (replays : replayAdmins tables groupId userId = adminState tables groupId userId) :
    replayAdmins (syncGroupAdmins order tables list) groupId userId =
      adminState (syncGroupAdmins order tables list) groupId userId := by
  simp only [replayAdmins, groupHistory] at replays ⊢
  rw [events_syncAdmins, List.filter_append, List.map_append, Journal.replay_append]
  by_cases group : list.groupId = groupId
  · subst group
    have all : (adminEvents order tables list).filter (fun event => event.groupId = list.groupId) =
        adminEvents order tables list := by
      rw [List.filter_eq_self]
      intro event member
      simpa using adminEvents_group order tables list event member
    have own := filter_adminEvents order tables list distinct userId
    rw [all, ← Journal.replayFrom_filter, List.filter_map]
    change Journal.replayFrom _ (((adminEvents order tables list).filter
      fun event => event.userId = userId).map _) userId = _
    rw [own]
    exact replayFrom_transition _ _ _ _ _ replays
  · have others : (adminEvents order tables list).filter (fun event => event.groupId = groupId) =
        [] := by
      rw [List.filter_eq_nil_iff]
      intro event member same
      exact group
        ((adminEvents_group order tables list event member).symm.trans (by simpa using same))
    rw [others]
    have kept := lookup_syncAdmins order tables list distinct groupId userId
    rw [if_neg group] at kept
    simpa [Journal.replayFrom, adminState, kept] using replays

theorem replay_adminStore (order : RowOrder) (lists : List GroupAdminList)
    (distinct : ∀ list ∈ lists, (list.admins.map GroupAdmin.userId).Nodup) (groupId userId : Int) :
    replayAdmins (adminStore order lists) groupId userId =
      adminState (adminStore order lists) groupId userId := by
  induction lists using List.reverseRecOn with
  | nil => rfl
  | append_singleton lists list ih =>
      rw [adminStore, run_snoc]
      apply replay_syncAdmins order _ list (distinct list (by simp))
      exact ih fun earlier member => distinct earlier (by simp [member])

theorem mem_rows_iff (tables : AdminTables) (row : GroupAdminRow) :
    row ∈ tables.admins.rows ↔ tables.admins.lookup (row.groupId, row.userId) = some row := by
  simp [Table.lookup_some_iff]

/-- Every sync of a serial run leaves exactly the fetched administrators, writes
one event for each change and keeps the history replayable. -/
theorem syncGroupAdmins_exact (order : RowOrder) (earlier : List GroupAdminList)
    (list : GroupAdminList)
    (distinct : ∀ l ∈ earlier ++ [list], (l.admins.map GroupAdmin.userId).Nodup) :
    let before := adminStore order earlier
    let after := adminStore order (earlier ++ [list])
    (∀ row, row ∈ after.admins.rows ∧ row.groupId = list.groupId ↔
      ∃ a ∈ list.admins, row = adminRow list.groupId a) ∧
    (∀ row, row.groupId ≠ list.groupId →
      (row ∈ after.admins.rows ↔ row ∈ before.admins.rows)) ∧
    (∃ appended, after.events = before.events ++ appended ∧
      (∀ event ∈ appended, event.groupId = list.groupId) ∧
      ∀ userId, appended.filter (fun event => event.userId = userId) =
        adminTransition list.groupId userId (adminState before list.groupId userId)
          (adminState after list.groupId userId)) ∧
    ∀ groupId userId, replayAdmins after groupId userId = adminState after groupId userId := by
  intro before after
  have here : (list.admins.map GroupAdmin.userId).Nodup := distinct list (by simp)
  have step : after = syncGroupAdmins order before list := run_snoc _ _ _ _
  have found := lookup_syncAdmins order before list here
  refine ⟨?_, ?_, ?_, replay_adminStore order _ distinct⟩
  · intro row
    rw [step, mem_rows_iff, found]
    constructor
    · rintro ⟨stored, group⟩
      rw [if_pos group.symm] at stored
      obtain ⟨a, listed, same⟩ := Option.map_eq_some_iff.mp stored
      exact ⟨a, List.mem_of_find?_eq_some listed, by rw [← same, group]⟩
    · rintro ⟨a, member, rfl⟩
      have listed : list.admins.find? (fun other => other.userId = a.userId) = some a :=
        (Table.lookup_some_iff ⟨list.admins, here⟩ a.userId a).mpr ⟨member, rfl⟩
      refine ⟨?_, rfl⟩
      change (if list.groupId = list.groupId then
        (list.admins.find? fun other => other.userId = a.userId).map (adminRow list.groupId)
        else _) = _
      rw [if_pos rfl, listed]
      rfl
  · intro row other
    rw [step, mem_rows_iff, mem_rows_iff, found, if_neg (Ne.symm other)]
  · refine ⟨adminEvents order before list, ?_, adminEvents_group order before list, ?_⟩
    · rw [step, events_syncAdmins]
    · intro userId
      rw [step]
      exact filter_adminEvents order before list here userId

/-- A second administrator is added, the first one's flags change. -/
theorem syncGroupAdmins_exact_at_promotion :
    replayAdmins (adminStore storageOrder
      [⟨-100, [{ userId := 7, isOwner := true }]⟩,
        ⟨-100, [{ userId := 8 }, { userId := 7, rights := { canPinMessages := true } }]⟩]) (-100) 7 =
      some ⟨.administrator, "", { canPinMessages := true }⟩ :=
  ((syncGroupAdmins_exact storageOrder [⟨-100, [{ userId := 7, isOwner := true }]⟩]
    ⟨-100, [{ userId := 8 }, { userId := 7, rights := { canPinMessages := true } }]⟩
    (by decide)).2.2.2 (-100) 7).trans (by decide)

end TgLoggerd

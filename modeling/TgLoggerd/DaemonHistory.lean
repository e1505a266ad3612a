import TgLoggerd.DaemonSupply

/-!
The history of the database. Its tables are those of a serial run: of the jobs
that went through, one after the other, in the order in which the handlers posted
them. What is proved of serial runs of the four stores holds in the daemon, and
a caller that was served last is the one whose data the rows show.
-/

namespace TgLoggerd

open Function KeyedTable SerialRun Projection

def DbWrite.entityOp : DbWrite → Option EntityOp
  | .entity op => some op
  | .onPrivate _ | .onGroup _ | .admins _ => none

def DbWrite.privateOp : DbWrite → Option (MessageOp PrivateSender)
  | .onPrivate op => some op
  | .entity _ | .onGroup _ | .admins _ => none

def DbWrite.groupOp : DbWrite → Option (MessageOp GroupSender)
  | .onGroup op => some op
  | .entity _ | .onPrivate _ | .admins _ => none

def DbWrite.adminList : DbWrite → Option GroupAdminList
  | .admins list => some list
  | .entity _ | .onPrivate _ | .onGroup _ => none

section

variable {Key : Type} [DecidableEq Key] {collate : String → Key}
  (order : MapOrder) (rowOrder : RowOrder)

/-- The tables are what a serial run of these jobs makes of empty ones. -/
structure Store.MadeBy (store : Store collate) (done : List DbWrite) : Prop where
  entities : store.entities = entityStore order (done.filterMap DbWrite.entityOp)
  privates : store.privates = privateStore (done.filterMap DbWrite.privateOp)
  groups : store.groups = groupStore (done.filterMap DbWrite.groupOp)
  admins : store.admins = adminStore rowOrder (done.filterMap DbWrite.adminList)

theorem filterMap_own {Op : Type} (part : DbWrite → Option Op) (done : List DbWrite)
    (write : DbWrite) (op : Op) (own : part write = some op) :
    (done ++ [write]).filterMap part = done.filterMap part ++ [op] := by
  simp [own]

theorem filterMap_other {Op : Type} (part : DbWrite → Option Op) (done : List DbWrite)
    (write : DbWrite) (other : part write = none) :
    (done ++ [write]).filterMap part = done.filterMap part := by
  simp [other]

theorem madeBy_apply (store : Store collate) (done : List DbWrite) (write : DbWrite)
    (made : store.MadeBy order rowOrder done) :
    (store.apply order rowOrder write).MadeBy order rowOrder (done ++ [write]) := by
  obtain ⟨entities, privates, groups, admins⟩ := made
  cases write with
  | entity op =>
      refine ⟨?_, ?_, ?_, ?_⟩
      · rw [filterMap_own _ _ _ op rfl, entityStore, run_snoc, ← entityStore, ← entities]
        rfl
      · rwa [filterMap_other _ _ _ rfl]
      · rwa [filterMap_other _ _ _ rfl]
      · rwa [filterMap_other _ _ _ rfl]
  | onPrivate op =>
      refine ⟨?_, ?_, ?_, ?_⟩
      · rwa [filterMap_other _ _ _ rfl]
      · rw [filterMap_own _ _ _ op rfl, privateStore, run_snoc, ← privateStore, ← privates]
        rfl
      · rwa [filterMap_other _ _ _ rfl]
      · rwa [filterMap_other _ _ _ rfl]
  | onGroup op =>
      refine ⟨?_, ?_, ?_, ?_⟩
      · rwa [filterMap_other _ _ _ rfl]
      · rwa [filterMap_other _ _ _ rfl]
      · rw [filterMap_own _ _ _ op rfl, groupStore, run_snoc, ← groupStore, ← groups]
        rfl
      · rwa [filterMap_other _ _ _ rfl]
  | admins list =>
      refine ⟨?_, ?_, ?_, ?_⟩
      · rwa [filterMap_other _ _ _ rfl]
      · rwa [filterMap_other _ _ _ rfl]
      · rwa [filterMap_other _ _ _ rfl]
      · rw [filterMap_own _ _ _ list rfl, adminStore, run_snoc, ← adminStore, ← admins]
        rfl

/-- The files table a run of stored downloads leaves. -/
def fileRows (stored : List (FileJob × Digest)) : FileTable collate :=
  run (fun table (entry : FileJob × Digest) =>
    (upsertFile table (fileOf entry.2 entry.1.download)).2) FileTable.empty stored

namespace Daemon

variable {Worker : Type} [DecidableEq Worker]

/-- The move may cost a posted job. -/
def Loses (d : Daemon collate Worker) : Move Worker → Prop
  | .commit => ∃ write ∈ d.serial.head?, d.store.accepts write = false
  | .fail | .restart => True
  | .receive _ | .hand | .take _ | .store _ _ | .post _ => False

/-- These jobs went through, and with those that still wait they agree with the
calls that were made; links apart, which no call posts. -/
structure History (agrees : List DbWrite → List DbWrite → Prop) (d : Daemon collate Worker)
    (done : List DbWrite) : Prop where
  made : d.store.MadeBy order rowOrder done
  inOrder : agrees ((done ++ d.serial).filter fun write => !write.isLink) (callWrites d.made)
  files : d.store.files = fileRows d.hashed

section

variable (config : Config) (agrees : List DbWrite → List DbWrite → Prop)
  (grows : ∀ jobs calls more, agrees jobs calls → agrees (jobs ++ more) (calls ++ more))

include grows

omit [DecidableEq Worker] grows in
theorem history_commit (d : Daemon collate Worker) (done rest : List DbWrite) (write : DbWrite)
    (queued : d.serial = write :: rest) (history : d.History order rowOrder agrees done)
    (shrinks : d.store.accepts write = false → ∀ less more calls, less.Sublist more →
      agrees more calls → agrees less calls) :
    ∃ after, ({ d with serial := rest, store := d.store.commit order rowOrder write } :
      Daemon collate Worker).History order rowOrder agrees after := by
  have inOrder := history.inOrder
  rw [queued] at inOrder
  cases accepted : d.store.accepts write with
  | true =>
      refine ⟨done ++ [write], ?_, ?_, ?_⟩
      · rw [Store.commit, if_pos accepted]
        exact madeBy_apply order rowOrder d.store done write history.made
      · rw [List.append_assoc]
        exact inOrder
      · have files := history.files
        rw [Store.commit, if_pos accepted]
        cases write <;> exact files
  | false =>
      -- The database stays, so the job is no part of its history.
      have refused : ¬ d.store.accepts write = true := by simp [accepted]
      refine ⟨done, ?_, ?_, ?_⟩
      · rw [Store.commit, if_neg refused]
        exact history.made
      · exact shrinks accepted _ _ _
          (((List.sublist_cons_self write rest).append_left done).filter _) inOrder
      · rw [Store.commit, if_neg refused]
        exact history.files

theorem history_step (d : Daemon collate Worker) (move : Move Worker) (done : List DbWrite)
    (history : d.History order rowOrder agrees done)
    (shrinks : d.Loses move → ∀ less more calls, less.Sublist more → agrees more calls →
      agrees less calls) :
    ∃ after, (step config order rowOrder d move).History order rowOrder agrees after := by
  have took := took_step config order rowOrder d move
  generalize step config order rowOrder d move = next at took ⊢
  have inOrder := history.inOrder
  cases took with
  | rests => exact ⟨done, history⟩
  | receives event idle running => exact ⟨done, { history with }⟩
  | handsFile call rest next job posts =>
      refine ⟨done, history.made, ?_, history.files⟩
      rw [callWrites_snoc, write_fileJob call job posts, Option.toList_none, List.append_nil]
      exact inOrder
  | handsWrite call rest next noFile =>
      refine ⟨done, history.made, ?_, history.files⟩
      rw [callWrites_snoc, ← List.append_assoc, List.filter_append, filter_write]
      exact grows _ _ _ inOrder
  | takes => exact ⟨done, { history with }⟩
  | loses => exact ⟨done, { history with }⟩
  | stores worker job storing digest =>
      rw [Store.storeFile_eq]
      refine ⟨done, { history.made with }, inOrder, ?_⟩
      rw [fileRows, run_snoc, ← fileRows, ← history.files]
  | posts worker owner fileId linking =>
      refine ⟨done, history.made, ?_, history.files⟩
      rw [← List.append_assoc, owed_post]
      exact inOrder
  | commits write rest queued =>
      refine history_commit order rowOrder agrees d done rest write queued history ?_
      intro refused
      exact shrinks ⟨write, by rw [queued]; rfl, refused⟩
  | fails write rest queued =>
      rw [queued] at inOrder
      refine ⟨done, history.made, ?_, history.files⟩
      exact shrinks trivial _ _ _
        (((List.sublist_cons_self write rest).append_left done).filter _) inOrder
  | restarts =>
      refine ⟨done, history.made, ?_, history.files⟩
      exact shrinks trivial _ _ _ (((List.nil_sublist d.serial).append_left done).filter _) inOrder

end

/-- Jobs that fail or are lost leave the others in order. -/
theorem history_runs (config : Config) (moves : List (Move Worker)) :
    ∃ done, (runs config order rowOrder moves : Daemon collate Worker).History order rowOrder
      List.Sublist done := by
  refine run_invariant (step config order rowOrder) _
    (fun d : Daemon collate Worker => ∃ done, d.History order rowOrder List.Sublist done) ?_ ?_
    moves
  · exact ⟨[], ⟨rfl, rfl, rfl, rfl⟩, List.Sublist.refl _, rfl⟩
  · rintro d move ⟨done, history⟩
    exact history_step order rowOrder config List.Sublist
      (fun _ _ more agrees => agrees.append (List.Sublist.refl more)) d move done history
      (fun _ _ _ _ less agrees => less.trans agrees)

end Daemon

/-- The database has a serial history. In every state of every run, with
failures, refusals and restarts, its tables are those of a serial run of jobs
from empty tables, where the jobs stand in the order in which the handlers posted
them, and the files table that of storing the hashed files one after the other. -/
theorem serial_history {Key : Type} [DecidableEq Key] {collate : String → Key} {Worker : Type}
    [DecidableEq Worker] (config : Config) (order : MapOrder) (rowOrder : RowOrder)
    (moves : List (Daemon.Move Worker)) :
    let d : Daemon collate Worker := Daemon.runs config order rowOrder moves
    ∃ done, d.store.MadeBy order rowOrder done ∧
      (done.filter fun write => !write.isLink).Sublist (callWrites d.made) ∧
      d.store.files = fileRows d.hashed := by
  obtain ⟨done, made, inOrder, files⟩ :=
    @Daemon.history_runs Key _ collate order rowOrder Worker _ config moves
  refine ⟨done, made, ?_, files⟩
  exact ((List.sublist_append_left done _).filter _).trans inOrder

/-- The users row has what the upsert of this user assigns. -/
def EntityTables.ShowsUser (tables : EntityTables collate) (u : User) : Prop :=
  ∃ row, tables.users.users.lookup u.id = some row ∧ overwriteUser u row = row

def EntityTables.ShowsGroup (tables : EntityTables collate) (g : Group) : Prop :=
  ∃ row, tables.groups.groups.lookup g.id = some row ∧ overwriteGroup g row = row

theorem showsUser_upsert (tables : EntityTables collate) (u : User) :
    (entityStep order tables (.upsertUser u)).ShowsUser u := by
  refine ⟨_, lookup_upsertUser order tables.users u, ?_⟩
  cases tables.users.users.lookup u.id <;> rfl

/-- Full infos and photos are kept in columns of their own. -/
theorem showsUser_step (u : User) (tables : EntityTables collate) (op : EntityOp)
    (shown : tables.ShowsUser u) (quiet : ∀ other, op = .upsertUser other → other.id ≠ u.id) :
    (entityStep order tables op).ShowsUser u := by
  obtain ⟨row, held, same⟩ := shown
  cases op with
  | upsertUser other =>
      refine ⟨row, ?_, same⟩
      change (upsertUser order tables.users other).users.lookup u.id = _
      rw [lookup_upsertUser_any, if_neg (quiet other rfl), held]
  | upsertUserFullInfo fi =>
      refine ⟨if fi.userId = u.id then overwriteFullInfo fi row else row, ?_, ?_⟩
      · change (upsertUserFullInfo tables.users fi).users.lookup u.id = _
        rw [lookup_upsertUserFullInfo, held, Option.map_some]
      · split
        · exact congrArg (overwriteFullInfo fi) same
        · exact same
  | setUserProfilePhoto userId fileId =>
      refine ⟨if userId = u.id then { row with profilePhotoFileId := some fileId } else row, ?_, ?_⟩
      · change (setUserProfilePhoto tables.users userId fileId).users.lookup u.id = _
        rw [lookup_setUserProfilePhoto, held, Option.map_some]
      · split
        · exact congrArg (fun row : UserRow =>
            { row with profilePhotoFileId := some fileId }) same
        · exact same
  | upsertGroup g => exact ⟨row, held, same⟩
  | setGroupPhoto groupId fileId => exact ⟨row, held, same⟩

theorem showsGroup_upsert (tables : EntityTables collate) (g : Group) :
    (entityStep order tables (.upsertGroup g)).ShowsGroup g := by
  refine ⟨_, lookup_upsertGroup order tables.groups g, ?_⟩
  cases tables.groups.groups.lookup g.id <;> rfl

theorem showsGroup_step (g : Group) (tables : EntityTables collate) (op : EntityOp)
    (shown : tables.ShowsGroup g) (quiet : ∀ other, op = .upsertGroup other → other.id ≠ g.id) :
    (entityStep order tables op).ShowsGroup g := by
  obtain ⟨row, held, same⟩ := shown
  cases op with
  | upsertGroup other =>
      refine ⟨row, ?_, same⟩
      change (upsertGroup order tables.groups other).groups.lookup g.id = _
      rw [lookup_upsertGroup_any, if_neg (quiet other rfl), held]
  | setGroupPhoto groupId fileId =>
      refine ⟨if groupId = g.id then { row with photoFileId := some fileId } else row, ?_, ?_⟩
      · change (setGroupPhoto tables.groups groupId fileId).groups.lookup g.id = _
        rw [lookup_setGroupPhoto, held, Option.map_some]
      · split
        · exact congrArg (fun row : GroupRow => { row with photoFileId := some fileId }) same
        · exact same
  | upsertUser u => exact ⟨row, held, same⟩
  | upsertUserFullInfo fi => exact ⟨row, held, same⟩
  | setUserProfilePhoto userId fileId => exact ⟨row, held, same⟩

end

/-- Where the job of a call stands among the jobs that went through, when these
are all the calls posted. -/
theorem done_split (done : List DbWrite) (before after : List Call) (call : Call) (write : DbWrite)
    (posts : call.write = some write)
    (all : done.filter (fun write => !write.isLink) = callWrites (before ++ call :: after)) :
    ∃ earlier later, done = earlier ++ write :: later ∧
      ∀ other ∈ later, other.isLink = false → ∃ next ∈ after, next.write = some other := by
  have listed : callWrites (before ++ call :: after) =
      callWrites before ++ write :: callWrites after := by
    simp [callWrites, posts]
  rw [listed] at all
  obtain ⟨front, back, rfl, _, rest⟩ := List.filter_eq_append_iff.mp all
  obtain ⟨links, later, rfl, _, _, same⟩ := List.filter_eq_cons_iff.mp rest
  refine ⟨front ++ links, later, by rw [List.append_assoc], ?_⟩
  intro other member content
  have among : other ∈ callWrites after := by
    rw [← same]
    exact List.mem_filter.mpr ⟨member, by simp [content]⟩
  exact List.mem_filterMap.mp among

theorem filterMap_split {Op : Type} (part : DbWrite → Option Op) (earlier later : List DbWrite)
    (write : DbWrite) (op : Op) (own : part write = some op) :
    (earlier ++ write :: later).filterMap part =
      earlier.filterMap part ++ op :: later.filterMap part := by
  simp [own]

theorem shows_last {Sender : Type} (msg : Message Sender) (content : msg.isDeleted = false)
    (before after : List (MessageOp Sender))
    (quiet : ∀ op ∈ after, ∀ other, op = .upsert other → other.key ≠ msg.key) :
    (archived (messageStore (before ++ .upsert msg :: after))).Shows msg := by
  rw [archived_store]
  exact run_establishes Archive.step (Archive.Shows msg) _ (Archive.shows_step msg) _
    (Archive.shows_upsert msg content) _ before after quiet

/-- Each job is posted by one kind of call. -/
theorem call_of_write (call : Call) :
    (∀ pm, call.write = some (.onPrivate (.upsert pm)) → call = .privateMessage pm) ∧
    (∀ gm, call.write = some (.onGroup (.upsert gm)) → call = .groupMessage gm) ∧
    (∀ u, call.write = some (.entity (.upsertUser u)) → call = .user u) ∧
    (∀ g, call.write = some (.entity (.upsertGroup g)) → call = .group g) := by
  cases call with
  | messageReply mr =>
      rcases mr with ⟨chatId, messageId, toChatId, toMsgId, _ | _⟩ <;>
        refine ⟨?_, ?_, ?_, ?_⟩ <;> intro other posts <;> cases posts
  | _ =>
      refine ⟨?_, ?_, ?_, ?_⟩ <;> intro other posts <;> cases posts
      try rfl

section

variable {Key : Type} [DecidableEq Key] {collate : String → Key}

/-- The database shows what the calls brought last: of each message the last
content, unless a deletion came after it, of each user and each group the last
upsert. -/
structure Store.UpToDate (store : Store collate) (calls : List Call) : Prop where
  privates : ∀ before pm after, calls = before ++ .privateMessage pm :: after →
    pm.isDeleted = false → (∀ other, .privateMessage other ∈ after → other.key ≠ pm.key) →
      (archived store.privates).Shows pm
  groupMessages : ∀ before gm after, calls = before ++ .groupMessage gm :: after →
    gm.isDeleted = false → (∀ other, .groupMessage other ∈ after → other.key ≠ gm.key) →
      (archived store.groups).Shows gm
  users : ∀ before u after, calls = before ++ .user u :: after →
    (∀ other, .user other ∈ after → other.id ≠ u.id) → store.entities.ShowsUser u
  groups : ∀ before g after, calls = before ++ .group g :: after →
    (∀ other, .group other ∈ after → other.id ≠ g.id) → store.entities.ShowsGroup g

theorem upToDate_of_all (order : MapOrder) (rowOrder : RowOrder) (store : Store collate)
    (done : List DbWrite) (calls : List Call) (made : store.MadeBy order rowOrder done)
    (all : done.filter (fun write => !write.isLink) = callWrites calls) :
    store.UpToDate calls := by
  constructor
  · rintro before pm after rfl content last
    obtain ⟨earlier, later, rfl, among⟩ := done_split done before after _ _ rfl all
    rw [made.privates, privateStore_eq, filterMap_split DbWrite.privateOp _ _ _ (.upsert pm) rfl]
    refine shows_last pm content _ _ ?_
    rintro op member other rfl
    obtain ⟨write, there, same⟩ := List.mem_filterMap.mp member
    cases write <;> cases same
    obtain ⟨next, follows, posts⟩ := among _ there rfl
    rw [(call_of_write next).1 other posts] at follows
    exact last other follows
  · rintro before gm after rfl content last
    obtain ⟨earlier, later, rfl, among⟩ := done_split done before after _ _ rfl all
    rw [made.groups, groupStore_eq, filterMap_split DbWrite.groupOp _ _ _ (.upsert gm) rfl]
    refine shows_last gm content _ _ ?_
    rintro op member other rfl
    obtain ⟨write, there, same⟩ := List.mem_filterMap.mp member
    cases write <;> cases same
    obtain ⟨next, follows, posts⟩ := among _ there rfl
    rw [(call_of_write next).2.1 other posts] at follows
    exact last other follows
  · rintro before u after rfl last
    obtain ⟨earlier, later, rfl, among⟩ := done_split done before after _ _ rfl all
    rw [made.entities, filterMap_split DbWrite.entityOp _ _ _ (.upsertUser u) rfl]
    refine run_establishes (entityStep order) (fun tables => tables.ShowsUser u) _
      (showsUser_step order u) (.upsertUser u) (fun tables => showsUser_upsert order tables u)
      _ _ _ ?_
    rintro op member other rfl
    obtain ⟨write, there, same⟩ := List.mem_filterMap.mp member
    cases write <;> cases same
    obtain ⟨next, follows, posts⟩ := among _ there rfl
    rw [(call_of_write next).2.2.1 other posts] at follows
    exact last other follows
  · rintro before g after rfl last
    obtain ⟨earlier, later, rfl, among⟩ := done_split done before after _ _ rfl all
    rw [made.entities, filterMap_split DbWrite.entityOp _ _ _ (.upsertGroup g) rfl]
    refine run_establishes (entityStep order) (fun tables => tables.ShowsGroup g) _
      (showsGroup_step order g) (.upsertGroup g) (fun tables => showsGroup_upsert order tables g)
      _ _ _ ?_
    rintro op member other rfl
    obtain ⟨write, there, same⟩ := List.mem_filterMap.mp member
    cases write <;> cases same
    obtain ⟨next, follows, posts⟩ := among _ there rfl
    rw [(call_of_write next).2.2.2 other posts] at follows
    exact last other follows

/-- In a lifetime of the process in which TDLib announces what it mentions and no
transaction fails: once the serial worker has caught up, the database shows what
the calls of the handlers brought last. -/
theorem database_up_to_date {Key : Type} [DecidableEq Key] {collate : String → Key}
    {Worker : Type} [DecidableEq Worker] (interval : Rat) (batch : Nat) (order : MapOrder)
    (rowOrder : RowOrder) (moves : List (Daemon.Move Worker))
    (announced : EveryStep (Daemon.step (Config.started interval batch) order rowOrder)
      ({} : Daemon collate Worker) Daemon.Announces moves)
    (oneLifetime : .restart ∉ moves)
    (caughtUp : (Daemon.runs (Config.started interval batch) order rowOrder moves :
      Daemon collate Worker).serial = []) :
    let d : Daemon collate Worker :=
      Daemon.runs (Config.started interval batch) order rowOrder moves
    d.store.UpToDate d.made := by
  intro d
  have lossless : EveryStep (Daemon.step (Config.started interval batch) order rowOrder)
      ({} : Daemon collate Worker) (fun d move => ¬ d.Loses move) moves := by
    rintro before move after rfl loses
    have early := (everyStep_append _ _ _ before (move :: after) announced).1
    cases move with
    | commit =>
        obtain ⟨write, head, refused⟩ := loses
        obtain ⟨rest, queued⟩ := List.head?_eq_some_iff.mp head
        have accepted := Daemon.accepts_served order rowOrder interval batch before early write rest
          queued
        rw [Daemon.runs, refused] at accepted
        cases accepted
    | fail => exact announced before .fail after rfl
    | restart => exact oneLifetime (by simp)
    | _ => exact loses
  have history : ∃ done, d.History order rowOrder Eq done := by
    refine everyStep_invariant _ _
      (fun d : Daemon collate Worker => ∃ done, d.History order rowOrder Eq done)
      (fun d move => ¬ d.Loses move) ?_ ?_ moves lossless
    · exact ⟨[], ⟨rfl, rfl, rfl, rfl⟩, rfl, rfl⟩
    · rintro d move ⟨done, history⟩ kept
      exact Daemon.history_step order rowOrder _ Eq (fun _ _ more same => same ▸ rfl) d move done
        history (fun loses => absurd loses kept)
  obtain ⟨done, made, all, _⟩ := history
  rw [caughtUp, List.append_nil] at all
  exact upToDate_of_all order rowOrder d.store done d.made made all

end

theorem database_up_to_date_with_user :
    let d : Daemon foldCase Unit :=
      Daemon.runs (Config.started 300 4) insertionOrder storageOrder userThenMessage
    d.store.UpToDate d.made :=
  database_up_to_date 300 4 insertionOrder storageOrder userThenMessage user_announced (by decide)
    rfl

end TgLoggerd

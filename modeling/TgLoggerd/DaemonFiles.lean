import TgLoggerd.ArchiveRefinement
import TgLoggerd.Daemon

/-!
Where the files of the archive come from. A file id reaches a row only through
the link that a file worker posts, and the worker posts it for the owner whose
file it hashed and whose files row it committed. No interleaving of the workers
with the loop, no failure and no restart can make an id dangle, or end up with
an owner for whom its file was not delivered.
-/

namespace TgLoggerd

open Function KeyedTable SerialRun Recording

section

variable {Sender : Type}

/-- The record or one of its earlier versions has the file. -/
def Record.Names (fileId : Nat) (record : Record Sender) : Prop :=
  record.fileId = some fileId ∨ ∃ version ∈ record.versions, version.fileId = some fileId

def MessageTables.Refers (tables : MessageTables Sender) (key : Int × Int) (fileId : Nat) : Prop :=
  ∃ record, (archived tables).records key = some record ∧ record.Names fileId

/-- Content and deletions bring no file to a record. -/
theorem names_receive (msg : Message Sender) (record : Option (Record Sender))
    (after : Record Sender) (fileId : Nat) (made : Record.receive msg record = some after)
    (names : after.Names fileId) : ∃ before, record = some before ∧ before.Names fileId := by
  cases record with
  | none =>
      simp only [Record.receive] at made
      split at made
      · cases made
      · cases made
        rcases names with own | ⟨version, member, _⟩
        · cases own
        · cases member
  | some before =>
      refine ⟨before, rfl, ?_⟩
      simp only [Record.receive] at made
      split at made
      · cases made
        exact names
      · cases made
        rcases names with own | ⟨version, member, same⟩
        · exact Or.inl own
        · rcases List.mem_append.mp member with old | fresh
          · exact Or.inr ⟨version, old, same⟩
          · -- What is set aside keeps the file it had.
            rw [Record.setAside] at fresh
            split at fresh
            · rw [List.mem_singleton.mp fresh] at same
              exact Or.inl same
            · cases fresh

theorem names_step (record : Option (Record Sender)) (op : MessageOp Sender)
    (after : Record Sender) (fileId : Nat) (made : Archive.recordStep record op = some after)
    (names : after.Names fileId) :
    (∃ before, record = some before ∧ before.Names fileId) ∨
      ∃ chatId messageId, op = .setFile chatId messageId fileId := by
  cases op with
  | upsert msg => exact Or.inl (names_receive msg record after fileId made names)
  | setFile chatId messageId linked =>
      obtain ⟨before, held, rfl⟩ := Option.map_eq_some_iff.mp made
      rcases names with own | old
      · cases own
        exact Or.inr ⟨chatId, messageId, rfl⟩
      · exact Or.inl ⟨before, held, Or.inr old⟩
  | setReply chatId messageId replyToChatId replyToMessageId =>
      obtain ⟨before, held, rfl⟩ := Option.map_eq_some_iff.mp made
      exact Or.inl ⟨before, held, names⟩

theorem refers_messageStep (tables : MessageTables Sender) (op : MessageOp Sender)
    (key : Int × Int) (fileId : Nat) (refers : (messageStep tables op).Refers key fileId) :
    tables.Refers key fileId ∨ op = .setFile key.1 key.2 fileId := by
  obtain ⟨record, held, names⟩ := refers
  rw [archived_step, Archive.records_step] at held
  by_cases named : Archive.names op = key
  · subst named
    rw [update_self] at held
    rcases names_step _ op record fileId held names with old | ⟨chatId, messageId, rfl⟩
    · exact Or.inl old
    · exact Or.inr rfl
  · rw [update_of_ne (Ne.symm named)] at held
    exact Or.inl ⟨record, held, names⟩

end

section

variable {Key : Type} [DecidableEq Key] {collate : String → Key}

/-- A live column or its history has the file. -/
def Attribute.Names (field : Attribute collate Nat) (tables : EntityTables collate) (id : Int)
    (fileId : Nat) : Prop :=
  field.live tables id = some fileId ∨ fileId ∈ field.history tables id

theorem names_records (field : Attribute collate Nat) (order : MapOrder)
    (tables : EntityTables collate) (op : EntityOp) (id : Int)
    (records : field.Records order tables op id) (fileId : Nat)
    (names : field.Names (entityStep order tables op) id fileId) :
    field.Names tables id fileId ∨ field.supplied id tables op = some fileId := by
  obtain ⟨live, history⟩ := records
  rw [Attribute.Names, live, history] at names
  cases supplied : field.supplied id tables op with
  | none =>
      rw [supplied, Option.none_or, Option.toList_none, List.flatMap_nil, List.append_nil] at names
      exact Or.inl names
  | some linked =>
      rw [supplied, Option.some_or] at names
      rcases names with now | recorded
      · exact Or.inr now
      · rcases List.mem_append.mp recorded with old | fresh
        · exact Or.inl (Or.inr old)
        · -- A first photo goes on record itself, a later one puts the old one there.
          rw [Option.toList_some, List.flatMap_singleton] at fresh
          cases held : field.live tables id with
          | none =>
              rw [held, entry] at fresh
              exact Or.inr (congrArg some (List.mem_singleton.mp fresh).symm)
          | some old =>
              rw [held, entry] at fresh
              split at fresh
              · cases fresh
              · rw [List.mem_singleton.mp fresh]
                exact Or.inl (Or.inl held)

omit [DecidableEq Key] in
theorem supplied_carried (field : Attribute collate Nat) (id : Int) (tables : EntityTables collate)
    (op : EntityOp) (fileId : Nat) (supplied : field.supplied id tables op = some fileId) :
    op.subject = field.entity id ∧ field.carried op = some fileId := by
  rw [Attribute.supplied] at supplied
  split at supplied
  · next counts => exact ⟨counts.1, supplied⟩
  · cases supplied

/-- The database refers to a file on behalf of an owner. -/
def Store.Refers (store : Store collate) : Owner → Nat → Prop
  | .user userId, fileId => userPhoto.Names store.entities userId fileId
  | .group groupId, fileId => groupPhoto.Names store.entities groupId fileId
  | .message chatId messageId true, fileId => store.groups.Refers (chatId, messageId) fileId
  | .message chatId messageId false, fileId => store.privates.Refers (chatId, messageId) fileId

variable (order : MapOrder) (rowOrder : RowOrder)

/-- Only the link of its owner brings a file into the tables. -/
theorem refers_apply (store : Store collate) (write : DbWrite) (owner : Owner) (fileId : Nat)
    (refers : (store.apply order rowOrder write).Refers owner fileId) :
    store.Refers owner fileId ∨ write = linkWrite owner fileId := by
  cases write with
  | entity op =>
      cases owner with
      | user userId =>
          rcases names_records userPhoto order store.entities op userId
            (userPhoto_records order _ op userId) fileId refers with old | supplied
          · exact Or.inl old
          · obtain ⟨subject, carried⟩ := supplied_carried _ _ _ _ _ supplied
            cases op <;> cases carried
            cases subject
            exact Or.inr rfl
      | group groupId =>
          rcases names_records groupPhoto order store.entities op groupId
            (groupPhoto_records order _ op groupId) fileId refers with old | supplied
          · exact Or.inl old
          · obtain ⟨subject, carried⟩ := supplied_carried _ _ _ _ _ supplied
            cases op <;> cases carried
            cases subject
            exact Or.inr rfl
      | message chatId messageId isGroup => cases isGroup <;> exact Or.inl refers
  | onPrivate op =>
      cases owner with
      | message chatId messageId isGroup =>
          cases isGroup with
          | true => exact Or.inl refers
          | false =>
              change (privateStep store.privates op).Refers (chatId, messageId) fileId at refers
              rw [privateStep_eq] at refers
              rcases refers_messageStep _ op _ fileId refers with old | rfl
              · exact Or.inl old
              · exact Or.inr rfl
      | user userId => exact Or.inl refers
      | group groupId => exact Or.inl refers
  | onGroup op =>
      cases owner with
      | message chatId messageId isGroup =>
          cases isGroup with
          | true =>
              change (groupStep store.groups op).Refers (chatId, messageId) fileId at refers
              rw [groupStep_eq] at refers
              rcases refers_messageStep _ op _ fileId refers with old | rfl
              · exact Or.inl old
              · exact Or.inr rfl
          | false => exact Or.inl refers
      | user userId => exact Or.inl refers
      | group groupId => exact Or.inl refers
  | admins list =>
      cases owner with
      | message chatId messageId isGroup => cases isGroup <;> exact Or.inl refers
      | user userId => exact Or.inl refers
      | group groupId => exact Or.inl refers

theorem refers_storeFile (store : Store collate) (hashed : Option Digest) (download : Download)
    (owner : Owner) (fileId : Nat)
    (refers : (store.storeFile hashed download).2.Refers owner fileId) :
    store.Refers owner fileId := by
  cases hashed with
  | none => exact refers
  | some digest =>
      rw [Store.storeFile_eq] at refers
      cases owner with
      | message chatId messageId isGroup => cases isGroup <;> exact refers
      | user userId => exact refers
      | group groupId => exact refers

theorem linkWrite_injective (left right : Owner) (first second : Nat)
    (same : linkWrite left first = linkWrite right second) : left = right ∧ first = second := by
  rcases left with ⟨chatId, messageId, _ | _⟩ | userId | groupId <;>
    rcases right with ⟨chatId', messageId', _ | _⟩ | userId' | groupId' <;>
    cases same <;> exact ⟨rfl, rfl⟩

/-- No handler posts a link. -/
theorem write_ne_link (call : Call) (owner : Owner) (fileId : Nat) :
    call.write ≠ some (linkWrite owner fileId) := by
  rcases owner with ⟨chatId, messageId, _ | _⟩ | userId | groupId
  all_goals
    intro same
    cases call with
    | messageReply mr =>
        rcases mr with ⟨chatId, messageId, replyToChatId, replyToMsgId, _ | _⟩ <;> cases same
    | _ => cases same

omit [DecidableEq Key] in
theorem accepts_link (store : Store collate) (digest : Digest) (owner : Owner) (fileId : Nat)
    (held : IsRow store.files digest fileId) : store.accepts (linkWrite owner fileId) = true := by
  obtain ⟨row, member, _, same⟩ := held
  have there : store.holdsFile fileId = true :=
    List.any_eq_true.mpr ⟨row, member, by simpa using same⟩
  rcases owner with ⟨chatId, messageId, _ | _⟩ | userId | groupId <;>
    simp [linkWrite, Store.accepts, Store.acceptsMessage, there]

namespace Daemon

variable {Worker : Type} [DecidableEq Worker]

/-- The file was handed over for the owner, and the row holds the digest that was
computed of it. -/
def Sourced (d : Daemon collate Worker) (owner : Owner) (fileId : Nat) : Prop :=
  ∃ job digest, (job, digest) ∈ d.hashed ∧ job.owner = owner ∧
    IsRow d.store.files digest fileId

/-- A file job comes from a call. -/
def Handed (d : Daemon collate Worker) (job : FileJob) : Prop :=
  ∃ call ∈ d.made, call.fileJob = some job

/-- What a file worker is at is accounted for. -/
def Justified (d : Daemon collate Worker) : FileWorker → Prop
  | .idle => True
  | .storing job => d.Handed job
  | .linking owner fileId => d.Sourced owner fileId

/-- Every job on its way to a worker, and every file hashed, was handed over, and
every id on its way to a row, or in one, is a file of that owner. -/
structure FilesTraced (d : Daemon collate Worker) : Prop where
  queued : ∀ job ∈ d.files, d.Handed job
  busy : ∀ worker, d.Justified (d.workers worker)
  hashed : ∀ job digest, (job, digest) ∈ d.hashed → d.Handed job
  posted : ∀ owner fileId, linkWrite owner fileId ∈ d.serial → d.Sourced owner fileId
  referred : ∀ owner fileId, d.store.Refers owner fileId → d.Sourced owner fileId

omit [DecidableEq Key] [DecidableEq Worker] in
/-- What accounted for a worker still does when calls, hashes and rows are added. -/
theorem justified_grown (before after : Daemon collate Worker)
    (handed : ∀ job, before.Handed job → after.Handed job)
    (sourced : ∀ owner fileId, before.Sourced owner fileId → after.Sourced owner fileId)
    (place : FileWorker) (justified : before.Justified place) : after.Justified place := by
  cases place with
  | idle => trivial
  | storing job => exact handed job justified
  | linking owner fileId => exact sourced owner fileId justified

omit [DecidableEq Key] [DecidableEq Worker] in
theorem sourced_grown (before after : Daemon collate Worker)
    (hashed : ∀ entry ∈ before.hashed, entry ∈ after.hashed)
    (files : ∀ digest fileId, IsRow before.store.files digest fileId →
      IsRow after.store.files digest fileId)
    (owner : Owner) (fileId : Nat) (sourced : before.Sourced owner fileId) :
    after.Sourced owner fileId := by
  obtain ⟨job, digest, member, own, held⟩ := sourced
  exact ⟨job, digest, hashed _ member, own, files digest fileId held⟩

variable (config : Config)

omit [DecidableEq Key] [DecidableEq Worker] in
/-- A call that was made stays accounted for. -/
theorem traced_made (d : Daemon collate Worker) (call : Call) (traced : d.FilesTraced) :
    ({ d with made := d.made ++ [call] } : Daemon collate Worker).FilesTraced := by
  let after : Daemon collate Worker := { d with made := d.made ++ [call] }
  have handed (job : FileJob) (earlier : d.Handed job) : after.Handed job := by
    obtain ⟨other, member, same⟩ := earlier
    exact ⟨other, List.mem_append_left _ member, same⟩
  refine ⟨?_, ?_, ?_, traced.posted, traced.referred⟩
  · exact fun job member => handed job (traced.queued job member)
  · exact fun worker => justified_grown d after handed (fun _ _ sourced => sourced) _
      (traced.busy worker)
  · exact fun job digest member => handed job (traced.hashed job digest member)

omit [DecidableEq Key] in
/-- One worker goes on to something that is accounted for. -/
theorem busy_update (d : Daemon collate Worker) (worker : Worker) (place : FileWorker)
    (justified : d.Justified place) (busy : ∀ other, d.Justified (d.workers other)) :
    ∀ other, d.Justified (update d.workers worker place other) :=
  (forall_update_iff _ fun _ place => d.Justified place).mpr ⟨justified, fun other _ => busy other⟩

/-- A file worker ends its transaction: an id that it got is the row of its own
file, and a row that was there is still there. -/
theorem traced_stores (d : Daemon collate Worker) (worker : Worker) (job : FileJob)
    (storing : d.workers worker = .storing job) (digest : Digest) (traced : d.FilesTraced) :
    ({ d with
      store := (d.store.storeFile (some digest) job.download).2
      workers := update d.workers worker
        (landed job.owner (d.store.storeFile (some digest) job.download).1)
      hashed := d.hashed ++ [(job, digest)] } : Daemon collate Worker).FilesTraced := by
  have handed : d.Handed job := by
    have busy := traced.busy worker
    rwa [storing] at busy
  obtain ⟨kept, own⟩ := rows_upsertFile d.store.files digest job.download
  rw [Store.storeFile_eq]
  let after : Daemon collate Worker :=
    { d with
      store :=
        { d.store with files := (upsertFile d.store.files (fileOf digest job.download)).2 }
      hashed := d.hashed ++ [(job, digest)] }
  -- An old row keeps its number, so ids that are under way still name their files.
  have grown : ∀ owner fileId, d.Sourced owner fileId → after.Sourced owner fileId :=
    sourced_grown d after (fun _ member => List.mem_append_left _ member) kept
  refine ⟨traced.queued, ?_, ?_,
    fun owner fileId member => grown owner fileId (traced.posted owner fileId member), ?_⟩
  · refine busy_update after worker _ ?_ fun other =>
      justified_grown d after (fun _ earlier => earlier) grown _ (traced.busy other)
    cases result : (upsertFile d.store.files (fileOf digest job.download)).1 with
    | error refused => trivial
    | ok stored => exact ⟨job, digest, by simp [after], rfl, own stored result⟩
  · intro other hash member
    rcases List.mem_append.mp member with old | fresh
    · exact traced.hashed other hash old
    · cases List.mem_singleton.mp fresh
      exact handed
  · intro owner fileId refers
    apply grown owner fileId
    apply traced.referred
    apply refers_storeFile d.store (some digest) job.download
    rw [Store.storeFile_eq]
    exact refers

omit [DecidableEq Worker] in
theorem traced_commit (d : Daemon collate Worker) (write : DbWrite) (rest : List DbWrite)
    (queued : d.serial = write :: rest) (traced : d.FilesTraced) :
    ({ d with serial := rest, store := d.store.commit order rowOrder write } :
      Daemon collate Worker).FilesTraced := by
  have grown := sourced_grown d
    { d with serial := rest, store := d.store.commit order rowOrder write }
    (fun _ member => member) (d.store.extends_commit order rowOrder write).files
  refine ⟨traced.queued, ?_, traced.hashed, ?_, ?_⟩
  · intro worker
    refine justified_grown d _ ?_ grown _ (traced.busy worker)
    exact fun _ handed => handed
  · intro owner fileId member
    exact grown owner fileId (traced.posted owner fileId (by simp [queued, member]))
  · intro owner fileId refers
    apply grown owner fileId
    -- A new reference can only come from a link, which was in the queue.
    change (d.store.commit order rowOrder write).Refers owner fileId at refers
    rw [Store.commit] at refers
    split at refers
    · rcases refers_apply order rowOrder d.store write owner fileId refers with old | rfl
      · exact traced.referred owner fileId old
      · exact traced.posted owner fileId (by simp [queued])
    · exact traced.referred owner fileId refers

theorem traced_step (d : Daemon collate Worker) (move : Move Worker) (traced : d.FilesTraced) :
    (step config order rowOrder d move).FilesTraced := by
  have took := took_step config order rowOrder d move
  generalize step config order rowOrder d move = after at took ⊢
  cases took with
  | rests => exact traced
  | receives event idle running => exact { traced with }
  | handsFile call rest next job posts =>
      have made := traced_made d call traced
      refine { made with queued := ?_ }
      intro other member
      rcases List.mem_append.mp member with old | fresh
      · exact made.queued other old
      · rw [List.mem_singleton.mp fresh]
        exact ⟨call, by simp, posts⟩
  | handsWrite call rest next noFile =>
      have made := traced_made d call traced
      refine { made with posted := ?_ }
      intro owner fileId member
      rcases List.mem_append.mp member with old | fresh
      · exact made.posted owner fileId old
      · exact absurd (Option.mem_toList.mp fresh) (write_ne_link call owner fileId)
  | takes worker job rest idle queued =>
      exact { traced with
        queued := fun other member => traced.queued other (by simp [queued, member])
        busy := busy_update d worker _ (traced.queued job (by simp [queued])) traced.busy }
  | loses worker job storing =>
      exact { traced with busy := busy_update d worker .idle trivial traced.busy }
  | stores worker job storing digest => exact traced_stores d worker job storing digest traced
  | posts worker owner fileId linking =>
      have sourced : d.Sourced owner fileId := by
        have busy := traced.busy worker
        rwa [linking] at busy
      refine { traced with busy := busy_update d worker .idle trivial traced.busy, posted := ?_ }
      intro other otherId member
      rcases List.mem_append.mp member with old | fresh
      · exact traced.posted other otherId old
      · obtain ⟨rfl, rfl⟩ := linkWrite_injective _ _ _ _ (List.mem_singleton.mp fresh)
        exact sourced
  | commits write rest queued => exact traced_commit order rowOrder d write rest queued traced
  | fails write rest queued =>
      exact { traced with
        posted := fun owner fileId member =>
          traced.posted owner fileId (by simp [queued, member]) }
  | restarts =>
      exact { traced with
        queued := fun job member => by cases member
        busy := fun worker => trivial
        posted := fun owner fileId member => by cases member }

theorem traced_runs (moves : List (Move Worker)) :
    (runs config order rowOrder moves : Daemon collate Worker).FilesTraced := by
  apply run_invariant (step config order rowOrder) _ FilesTraced
  · refine ⟨by simp, fun worker => trivial, by simp, by simp, ?_⟩
    intro owner fileId refers
    rcases owner with ⟨chatId, messageId, _ | _⟩ | userId | groupId
    · obtain ⟨record, held, _⟩ := refers
      cases held
    · obtain ⟨record, held, _⟩ := refers
      cases held
    · rcases refers with held | held <;> cases held
    · rcases refers with held | held <;> cases held
  · exact fun d move traced => traced_step order rowOrder config d move traced

end Daemon

end

/-- In every state of every run, failures and restarts included: a file that a
user, a group, a message or an earlier version of a message refers to is a row
of the files table whose digest was computed of a file handed over for that very
owner, and no link that waits in the queue can be refused for a missing file. -/
theorem files_belong_to_owners {Key : Type} [DecidableEq Key] {collate : String → Key}
    {Worker : Type} [DecidableEq Worker] (config : Config) (order : MapOrder)
    (rowOrder : RowOrder) (moves : List (Daemon.Move Worker)) (owner : Owner) (fileId : Nat) :
    let d : Daemon collate Worker := Daemon.runs config order rowOrder moves
    (d.store.Refers owner fileId →
      ∃ call ∈ d.made, ∃ job digest, call.fileJob = some job ∧ job.owner = owner ∧
        (job, digest) ∈ d.hashed ∧ IsRow d.store.files digest fileId) ∧
    (linkWrite owner fileId ∈ d.serial → d.store.accepts (linkWrite owner fileId) = true) := by
  intro d
  have traced : d.FilesTraced := Daemon.traced_runs order rowOrder config moves
  constructor
  · intro refers
    obtain ⟨job, digest, member, own, held⟩ := traced.referred owner fileId refers
    obtain ⟨call, made, posts⟩ := traced.hashed job digest member
    exact ⟨call, made, job, digest, posts, own, member, held⟩
  · intro queued
    obtain ⟨job, digest, _, _, held⟩ := traced.posted owner fileId queued
    exact accepts_link d.store digest owner fileId held

end TgLoggerd

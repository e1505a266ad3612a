import TgLoggerd.AttributeHistory
import TgLoggerd.Downloads
import TgLoggerd.EntityOrder
import TgLoggerd.FileStore

/-!
The way of a photo from the event loop to its row. A complete download is a job
of `files_`; one of the workers there stores the file and posts the link to
`serial_`, whose only worker writes users and groups in the order of its queue.
Storing a file is one step here. The queues are unbounded: a full one only makes
its poster wait.
-/

namespace TgLoggerd

open Function KeyedTable SerialRun

structure FileJob where
  owner : Owner
  download : Download
  deriving DecidableEq, Repr

/-- The media categories of messageContentFile, as the ENUM column has them. -/
def fileTypeOf : String → FileType
  | "photo" => .photo
  | "video" => .video
  | "document" => .document
  | "audio" => .audio
  | "voice" => .voice
  | "sticker" => .sticker
  | "animation" => .animation
  | _ => .unknown

/-- What `start` posts to `files_`. -/
def Call.fileJob : Call → Option FileJob
  | .profilePhoto p => some ⟨.user p.userId, ⟨p.localPath, p.tgFileId, p.fileSize, .photo, ""⟩⟩
  | .groupPhoto p => some ⟨.group p.groupId, ⟨p.localPath, p.tgFileId, p.fileSize, .photo, ""⟩⟩
  | .messageFile mf =>
      some ⟨.message mf.chatId mf.messageId mf.isGroup,
        ⟨mf.localPath, mf.tgFileId, mf.fileSize, fileTypeOf mf.contentType, mf.origFileName⟩⟩
  | _ => none

/-- What `start` posts to `serial_` for the users and groups tables. -/
def Call.entityOp : Call → Option EntityOp
  | .user u => some (.upsertUser u)
  | .userFullInfo fi => some (.upsertUserFullInfo fi)
  | .group g => some (.upsertGroup g)
  | _ => none

def Action.call : Action → Option Call
  | .hand call => some call
  | .send _ _ => none

def fileJobs (actions : List Action) : List FileJob :=
  actions.filterMap fun action => action.call.bind Call.fileJob

def entityOps (actions : List Action) : List EntityOp :=
  actions.filterMap fun action => action.call.bind Call.entityOp

/-- The job that links a stored file, for the users and groups tables. -/
def linkOp : Owner → Nat → Option EntityOp
  | .user userId, fileId => some (.setUserProfilePhoto userId fileId)
  | .group groupId, fileId => some (.setGroupPhoto groupId fileId)
  | .message _ _ _, _ => none

inductive FileWorker where
  | idle
  | storing (job : FileJob)
  | linking (owner : Owner) (fileId : Nat)
  deriving DecidableEq, Repr

inductive PipelineMove where
  | receive (event : Event)
  | take (worker : Nat)
  | store (worker : Nat) (readable : Bool)
  | post (worker : Nat)
  | commit
  deriving DecidableEq, Repr

section

variable {Key : Type} [DecidableEq Key]

/-- `seen` are the events received so far. -/
structure Pipeline (collate : String → Key) where
  impl : Impl
  seen : List Event
  files : List FileJob
  workers : Nat → FileWorker
  table : FileTable collate
  serial : List EntityOp
  tables : EntityTables collate

variable {collate : String → Key}

def Pipeline.initial : Pipeline collate where
  impl := Impl.initial
  seen := []
  files := []
  workers := fun _ => .idle
  table := FileTable.empty
  serial := []
  tables := EntityTables.empty

variable (config : Config) (order : MapOrder) (content : String → Digest)

/-- `content` is the digest of what lies at a local path, and `readable` says
whether hashing and copying it succeeded. -/
def pipelineStep (p : Pipeline collate) : PipelineMove → Pipeline collate
  | .receive event =>
      let actions := (reaction config p.impl event).2
      { p with
        impl := process config p.impl event
        seen := p.seen ++ [event]
        files := p.files ++ fileJobs actions
        serial := p.serial ++ entityOps actions }
  | .take i =>
      match p.workers i, p.files with
      | .idle, job :: rest =>
          { p with files := rest, workers := update p.workers i (.storing job) }
      | _, _ => p
  | .store i readable =>
      match p.workers i with
      | .storing job =>
          let digest := if readable then some (content job.download.localPath) else none
          match storeDownloadedFile p.table digest readable job.download with
          | (.ok (some fileId), after) =>
              { p with
                table := after
                workers := update p.workers i (.linking job.owner fileId) }
          -- No link is posted for a file that could not be stored.
          | (_, after) => { p with table := after, workers := update p.workers i .idle }
      | _ => p
  | .post i =>
      match p.workers i with
      | .linking owner fileId =>
          { p with
            serial := p.serial ++ (linkOp owner fileId).toList
            workers := update p.workers i .idle }
      | _ => p
  | .commit =>
      match p.serial with
      | [] => p
      | op :: rest => { p with serial := rest, tables := entityStep order p.tables op }

/-- The tables once the serial queue is empty. -/
def Pipeline.settled (p : Pipeline collate) : EntityTables collate :=
  run (entityStep order) p.tables p.serial

end

def Subject.owner : Subject → Owner
  | .user userId => .user userId
  | .group groupId => .group groupId

def Subject.entity : Subject → Entity
  | .user userId => .user userId
  | .group groupId => .group groupId

theorem owner_injective (left right : Subject) (same : left.owner = right.owner) :
    left = right := by
  cases left <;> cases right <;> cases same <;> rfl

section

variable {Key : Type} [DecidableEq Key] {collate : String → Key}

def livePhoto (tables : EntityTables collate) : Subject → Option Nat
  | .user userId => userPhoto.live tables userId
  | .group groupId => groupPhoto.live tables groupId

variable (order : MapOrder) (tables : EntityTables collate) (subject : Subject)

/-- An upsert leaves every photo as it is. -/
theorem livePhoto_entityOp (call : Call) (op : EntityOp) (posts : call.entityOp = some op) :
    livePhoto (entityStep order tables op) subject = livePhoto tables subject := by
  have unlinked : (userPhoto : Attribute collate _).carried op = none ∧
      (groupPhoto : Attribute collate _).carried op = none := by
    cases call <;> cases posts <;> exact ⟨rfl, rfl⟩
  cases subject with
  | user userId =>
      have records := (userPhoto_records order tables op userId).1
      rw [supplied_uncarried _ _ _ _ unlinked.1] at records
      exact records
  | group groupId =>
      have records := (groupPhoto_records order tables op groupId).1
      rw [supplied_uncarried _ _ _ _ unlinked.2] at records
      exact records

omit [DecidableEq Key] in
theorem supplied_eq (field : Attribute collate Nat) (op : EntityOp) (id : Int) :
    field.supplied id tables op =
      if op.subject = field.entity id ∧ (op.creates ∨ tables.stored op.subject) then
        field.carried op
      else none := rfl

/-- A link shows in the row of its own subject, if it is there, and creates none. -/
theorem settled_linkOp (owner : Owner) (fileId : Nat) :
    livePhoto (run (entityStep order) tables (linkOp owner fileId).toList) subject =
        (if owner = subject.owner ∧ tables.stored subject then some fileId
          else livePhoto tables subject) ∧
      (run (entityStep order) tables (linkOp owner fileId).toList).stored subject =
        tables.stored subject := by
  cases owner with
  | message chatId messageId isGroup => cases subject <;> simp [linkOp, Subject.owner]
  | user userId =>
      have step : run (entityStep order) tables (linkOp (.user userId) fileId).toList =
        entityStep order tables (.setUserProfilePhoto userId fileId) := rfl
      rw [step, stored_entityStep]
      refine ⟨?_, by simp [EntityOp.creates]⟩
      cases subject with
      | user other =>
          rw [livePhoto, (userPhoto_records order tables _ other).1, supplied_eq]
          by_cases own : userId = other
          · subst own
            by_cases stored : tables.stored (.user userId) <;>
              simp [userPhoto, EntityOp.subject, EntityOp.creates, Subject.owner, stored, livePhoto]
          · simp [userPhoto, EntityOp.subject, Subject.owner, own, livePhoto]
      | group groupId =>
          rw [livePhoto, (groupPhoto_records order tables _ groupId).1,
            supplied_uncarried _ _ _ _ rfl]
          simp [Subject.owner, livePhoto]
  | group groupId =>
      have step : run (entityStep order) tables (linkOp (.group groupId) fileId).toList =
        entityStep order tables (.setGroupPhoto groupId fileId) := rfl
      rw [step, stored_entityStep]
      refine ⟨?_, by simp [EntityOp.creates]⟩
      cases subject with
      | group other =>
          rw [livePhoto, (groupPhoto_records order tables _ other).1, supplied_eq]
          by_cases own : groupId = other
          · subst own
            by_cases stored : tables.stored (.group groupId) <;>
              simp [groupPhoto, EntityOp.subject, EntityOp.creates, Subject.owner, stored,
                livePhoto]
          · simp [groupPhoto, EntityOp.subject, Subject.owner, own, livePhoto]
      | user userId =>
          rw [livePhoto, (userPhoto_records order tables _ userId).1,
            supplied_uncarried _ _ _ _ rfl]
          simp [Subject.owner, livePhoto]

/-- A call creates the row of the entity it hands over, and of no other. -/
theorem stored_entityOp (call : Call) (op : EntityOp) (posts : call.entityOp = some op) :
    (entityStep order tables op).stored subject ↔
      tables.stored subject ∨ call.entity = some subject.entity := by
  rw [stored_entityStep]
  cases call <;> cases posts <;> cases subject <;>
    simp [EntityOp.creates, EntityOp.subject, Call.entity, Subject.entity]

theorem entityOps_cons (action : Action) (rest : List Action) :
    entityOps (action :: rest) = (action.call.bind Call.entityOp).toList ++ entityOps rest := by
  cases posted : action.call.bind Call.entityOp <;> simp [entityOps, posted]

/-- What the event loop posts changes no photo, and creates the rows it hands over. -/
theorem settled_entityOps (actions : List Action) :
    livePhoto (run (entityStep order) tables (entityOps actions)) subject =
        livePhoto tables subject ∧
      ((run (entityStep order) tables (entityOps actions)).stored subject ↔
        tables.stored subject ∨ Handed actions subject.entity) := by
  induction actions generalizing tables with
  | nil => simp [entityOps, Handed]
  | cons action rest ih =>
      have split : Handed (action :: rest) subject.entity ↔
          action.call.bind Call.entity = some subject.entity ∨ Handed rest subject.entity := by
        cases action <;> simp [Handed, Action.call]
      rw [entityOps_cons, run_append, split]
      cases action with
      | send query handler => simpa [Action.call] using ih tables
      | hand call =>
          simp only [Action.call, Option.bind_some]
          cases posts : call.entityOp with
          | none =>
              have nameless : call.entity = none := by
                cases call <;> first | rfl | cases posts
              simpa [nameless] using ih tables
          | some op =>
              have later := ih (entityStep order tables op)
              rw [stored_entityOp order tables subject call op posts,
                livePhoto_entityOp order tables subject call op posts, or_assoc] at later
              exact later

end

section

variable {Key : Type} [DecidableEq Key] {collate : String → Key}

/-- A row with this digest has the id. -/
def IsRow (table : FileTable collate) (digest : Digest) (fileId : Nat) : Prop :=
  ∃ row ∈ table.rows, row.sha256 = digest ∧ row.id = fileId

omit [DecidableEq Key] in
theorem isRow_hit (table : FileTable collate) (id : Nat) (name : String) (digest : Digest)
    (fileId : Nat) (held : IsRow table digest fileId) :
    IsRow (table.hit id name) digest fileId := by
  obtain ⟨row, member, rfl, rfl⟩ := held
  refine ⟨_, List.mem_map_of_mem member, ?_, ?_⟩
  all_goals
    split
    · rfl
    · rfl

/-- Storing a file keeps the rows there are, and gives the id of its own. -/
theorem rows_upsertFile (table : FileTable collate) (digest : Digest) (d : Download) :
    (∀ other fileId, IsRow table other fileId →
      IsRow (upsertFile table (fileOf digest d)).2 other fileId) ∧
    ∀ fileId, (upsertFile table (fileOf digest d)).1 = .ok fileId →
      IsRow (upsertFile table (fileOf digest d)).2 digest fileId := by
  rcases upsertFile_cases table digest d with
    ⟨row, name, held, own, hit⟩ | ⟨fresh, newDigest, newRemote, added, _, own, _⟩ |
    ⟨refused, after, failed, same⟩
  · rw [hit]
    refine ⟨isRow_hit table row.id name, ?_⟩
    rintro fileId ⟨⟩
    exact isRow_hit table row.id name digest row.id ⟨row, held, own, rfl⟩
  · rw [added]
    simp only [IsRow, FileTable.rows_add]
    constructor
    · rintro other fileId ⟨row, member, shape⟩
      exact ⟨row, List.mem_append_left _ member, shape⟩
    · rintro fileId ⟨⟩
      exact ⟨_, List.mem_append_right _ (List.mem_singleton_self _), own, rfl⟩
  · rw [failed]
    refine ⟨?_, fun fileId stored => by cases stored⟩
    rintro other fileId ⟨row, member, shape⟩
    exact ⟨row, by rw [same]; exact member, shape⟩

end

end TgLoggerd

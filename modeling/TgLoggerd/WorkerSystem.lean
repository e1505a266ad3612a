import TgLoggerd.ConnectionPool
import TgLoggerd.PhotoPipeline
import TgLoggerd.ThreadPoolContract

/-!
The threads of `TgLoggerd::start` together: the event loop, which posts what the
wrapper hands over and shuts the pools down at the end, the workers of `files_` and
the one worker of `serial_`, all of them on one pool of connections. A transaction
takes effect in one step, between the steps of other threads, or fails.
-/

namespace TgLoggerd

open Function KeyedTable SerialRun ThreadPool

/-- A job of `files_`, with the number of calls the loop made before. -/
structure FileTask where
  place : Nat
  job : FileJob
  deriving DecidableEq, Repr

/-- A job of `serial_`: what a handler posts, or the link that a job of `files_`
posts, each with the number of calls the loop made before the one it comes from. -/
inductive SerialTask where
  | call (place : Nat) (call : Call)
  | link (place : Nat) (owner : Owner) (fileId : Nat)
  deriving DecidableEq, Repr

/-- The handlers that post to `serial_`. -/
def Call.isSerial : Call → Bool
  | .privateMessage _ | .groupMessage _ | .messageReply _ | .user _ | .userFullInfo _ => true
  | .group _ | .groupAdmins _ => true
  | .textMessage _ | .messageFile _ | .profilePhoto _ | .groupPhoto _ => false

/-- How far a worker has come with its job. -/
inductive Stage where
  | fresh
  /-- In its transaction, from asking for a connection on. -/
  | transacting
  /-- The transaction is over, and the connection to be given back. -/
  | transacted (fileId : Option Nat)
  /-- Nothing is left but a post that may still block. -/
  | closed
  deriving DecidableEq, Repr

/-- Where the main thread is in `start`. -/
inductive MainPlace where
  | looping
  | drainingFiles
  | drainingSerial
  deriving DecidableEq, Repr

/-- Workers that borrow connections: of `files_` by their number, and the one of
`serial_`. -/
abbrev Borrower (threads : Nat) : Type := Option (Workers threads)

/-- Threads that post to `serial_`: workers of `files_`, and the event loop. -/
abbrev SerialPoster (threads : Nat) : Type := Option (Workers threads)

section

variable {Key : Type} [DecidableEq Key]

/-- `made` are the calls that the loop has made or is making. -/
structure WorkerSystem (collate : String → Key) (threads : Nat) where
  impl : Impl := Impl.initial
  pending : List Call := []
  made : List Call := []
  main : MainPlace := .looping
  files : ThreadPool FileTask Unit (Workers threads)
  serial : ThreadPool SerialTask (SerialPoster threads) Unit
  conns : Mysql.ConnectionPool (Borrower threads)
  stages : Borrower threads → Stage := fun _ => .fresh
  table : FileTable collate := FileTable.empty

end

namespace WorkerSystem

inductive Move (threads : Nat) where
  | receive (event : Event)
  | hand
  | leave
  | closeSerial
  | files (move : ThreadPool.Move FileTask Unit (Workers threads))
  | serial (move : ThreadPool.Move SerialTask (SerialPoster threads) Unit)
  | conns (move : Mysql.ConnectionPool.Move (Borrower threads))
  /-- Hashing and copying end; `stored` says whether the file is there. -/
  | store (worker : Workers threads) (stored : Bool)
  | begin
  | refuse (borrower : Borrower threads) (woken : Option (Borrower threads))
  | upsert (worker : Workers threads) (digest : Digest) (fails : Bool)
  | execute
  | release (borrower : Borrower threads)
  | link (worker : Workers threads)
  | finishFile (worker : Workers threads) (throws : Bool)
  | finishSerial (throws : Bool)

variable {Key : Type} [DecidableEq Key] {collate : String → Key} {threads : Nat}

def start (fileCap serialCap poolSize : Nat) : WorkerSystem collate threads where
  files := ThreadPool.start FileTask Unit (Workers threads) fileCap
  serial := ThreadPool.start SerialTask (SerialPoster threads) Unit serialCap
  conns := Mysql.ConnectionPool.start (Borrower threads) poolSize

variable (s : WorkerSystem collate threads)

/-- The loop is in no call of `post`. -/
def AtRest : Prop := s.files.posters () = .outside ∧ s.serial.posters none = .outside

instance : Decidable s.AtRest :=
  inferInstanceAs (Decidable (_ ∧ _))

def sets (borrower : Borrower threads) (stage : Stage) : WorkerSystem collate threads :=
  { s with stages := update s.stages borrower stage }

/-- The next call of the handlers. -/
def hand : Option (WorkerSystem collate threads) :=
  match s.pending with
  | [] => none
  | call :: rest =>
      let handing := { s with pending := rest, made := s.made ++ [call] }
      match call.fileJob with
      | some job =>
          (s.files.step (.post () ⟨s.made.length, job⟩)).map fun files =>
            { handing with files := files }
      | none =>
          if call.isSerial then
            (s.serial.step (.post none (.call s.made.length call))).map fun serial =>
              { handing with serial := serial }
          else some handing

/-- A step that the places of the threads allow. -/
def step (config : Config) : Move threads → Option (WorkerSystem collate threads)
  | .receive event =>
      if s.main = .looping ∧ s.pending = [] ∧ s.AtRest ∧ s.impl.caches.stopped = false then
        some { s with
          impl := process config s.impl event
          pending := (reaction config s.impl event).2.filterMap Action.call }
      else none
  | .hand => if s.AtRest then s.hand else none
  -- The wrapper has stopped, or a signal asks for the end.
  | .leave =>
      if s.main = .looping ∧ s.pending = [] ∧ s.AtRest then
        (s.files.step .shutdown).map fun files =>
          { s with main := .drainingFiles, files := files }
      else none
  | .closeSerial =>
      if s.main = .drainingFiles ∧ s.files.owner = .outside then
        (s.serial.step .shutdown).map fun serial =>
          { s with main := .drainingSerial, serial := serial }
      else none
  | .files move =>
      if move.free then (s.files.step move).map fun files => { s with files := files } else none
  | .serial move =>
      if move.free then (s.serial.step move).map fun serial => { s with serial := serial }
      else none
  | .conns move =>
      if move.free then (s.conns.step move).map fun conns => { s with conns := conns } else none
  | .store worker stored =>
      match s.files.workers worker, s.stages (some worker) with
      | .running _, .fresh =>
          if stored then
            (s.conns.step (.call (some worker))).map fun conns =>
              { s with conns := conns }.sets (some worker) .transacting
          else some (s.sets (some worker) .closed)
      | _, _ => none
  | .begin =>
      match s.serial.workers (), s.stages none with
      | .running _, .fresh =>
          (s.conns.step (.call none)).map fun conns =>
            { s with conns := conns }.sets none .transacting
      | _, _ => none
  -- Opening a connection throws, and the job ends.
  | .refuse borrower woken =>
      (s.conns.step (.createFails borrower woken)).map fun conns =>
        { s with conns := conns }.sets borrower .closed
  | .upsert worker digest fails =>
      match s.files.workers worker, s.stages (some worker), s.conns.threads (some worker) with
      | .running task, .transacting, .holding _ =>
          if fails then some (s.sets (some worker) (.transacted none))
          else
            let (stored, table) := upsertFile s.table (fileOf digest task.job.download)
            some ({ s with table := table }.sets (some worker) (.transacted stored.toOption))
      | _, _, _ => none
  | .execute =>
      match s.stages none, s.conns.threads none with
      | .transacting, .holding _ => some (s.sets none (.transacted none))
      | _, _ => none
  | .release borrower =>
      match s.stages borrower with
      | .transacted _ =>
          (s.conns.step (.release borrower)).map fun conns => { s with conns := conns }
      | _ => none
  | .link worker =>
      match s.files.workers worker, s.stages (some worker), s.conns.threads (some worker) with
      | .running task, .transacted (some fileId), .outside =>
          (s.serial.step (.post (some worker) (.link task.place task.job.owner fileId))).map
            fun serial => { s with serial := serial }.sets (some worker) .closed
      | _, _, _ => none
  | .finishFile worker throws =>
      if (s.stages (some worker) = .closed ∨ s.stages (some worker) = .transacted none) ∧
          s.conns.threads (some worker) = .outside ∧ s.serial.posters (some worker) = .outside then
        (s.files.step (.finish worker throws)).map fun files =>
          { s with files := files }.sets (some worker) .fresh
      else none
  | .finishSerial throws =>
      if (s.stages none = .closed ∨ s.stages none = .transacted none) ∧
          s.conns.threads none = .outside then
        (s.serial.step (.finish () throws)).map fun serial =>
          { s with serial := serial }.sets none .fresh
      else none

/-- What a step can do. -/
inductive Took (config : Config) : WorkerSystem collate threads → Prop where
  | receives (event : Event) (looping : s.main = .looping) (done : s.pending = [])
      (rest : s.AtRest) :
      Took config
        { s with
          impl := process config s.impl event
          pending := (reaction config s.impl event).2.filterMap Action.call }
  | handsFile (call : Call) (pending : List Call) (next : s.pending = call :: pending)
      (rest : s.AtRest) (job : FileJob) (posts : call.fileJob = some job)
      (files : ThreadPool FileTask Unit (Workers threads))
      (taken : s.files.Took (.post () ⟨s.made.length, job⟩) files) :
      Took config { s with pending := pending, made := s.made ++ [call], files := files }
  | handsSerial (call : Call) (pending : List Call) (next : s.pending = call :: pending)
      (rest : s.AtRest) (noFile : call.fileJob = none) (posts : call.isSerial = true)
      (serial : ThreadPool SerialTask (SerialPoster threads) Unit)
      (taken : s.serial.Took (.post none (.call s.made.length call)) serial) :
      Took config { s with pending := pending, made := s.made ++ [call], serial := serial }
  | handsNone (call : Call) (pending : List Call) (next : s.pending = call :: pending)
      (rest : s.AtRest) (noFile : call.fileJob = none) (silent : call.isSerial = false) :
      Took config { s with pending := pending, made := s.made ++ [call] }
  | leaves (looping : s.main = .looping) (done : s.pending = []) (rest : s.AtRest)
      (files : ThreadPool FileTask Unit (Workers threads)) (taken : s.files.Took .shutdown files) :
      Took config { s with main := .drainingFiles, files := files }
  | closes (draining : s.main = .drainingFiles) (drained : s.files.owner = .outside)
      (serial : ThreadPool SerialTask (SerialPoster threads) Unit)
      (taken : s.serial.Took .shutdown serial) :
      Took config { s with main := .drainingSerial, serial := serial }
  | files (move : ThreadPool.Move FileTask Unit (Workers threads)) (free : move.free = true)
      (files : ThreadPool FileTask Unit (Workers threads)) (taken : s.files.Took move files) :
      Took config { s with files := files }
  | serial (move : ThreadPool.Move SerialTask (SerialPoster threads) Unit)
      (free : move.free = true) (serial : ThreadPool SerialTask (SerialPoster threads) Unit)
      (taken : s.serial.Took move serial) : Took config { s with serial := serial }
  | conns (move : Mysql.ConnectionPool.Move (Borrower threads)) (free : move.free = true)
      (conns : Mysql.ConnectionPool (Borrower threads)) (taken : s.conns.Took move conns) :
      Took config { s with conns := conns }
  | stores (worker : Workers threads) (task : FileTask)
      (running : s.files.workers worker = .running task) (fresh : s.stages (some worker) = .fresh)
      (conns : Mysql.ConnectionPool (Borrower threads))
      (taken : s.conns.Took (.call (some worker)) conns) :
      Took config ({ s with conns := conns }.sets (some worker) .transacting)
  | loses (worker : Workers threads) (task : FileTask)
      (running : s.files.workers worker = .running task)
      (fresh : s.stages (some worker) = .fresh) : Took config (s.sets (some worker) .closed)
  | begins (task : SerialTask) (running : s.serial.workers () = .running task)
      (fresh : s.stages none = .fresh) (conns : Mysql.ConnectionPool (Borrower threads))
      (taken : s.conns.Took (.call none) conns) :
      Took config ({ s with conns := conns }.sets none .transacting)
  | refuses (borrower : Borrower threads) (woken : Option (Borrower threads))
      (conns : Mysql.ConnectionPool (Borrower threads))
      (taken : s.conns.Took (.createFails borrower woken) conns) :
      Took config ({ s with conns := conns }.sets borrower .closed)
  | aborts (worker : Workers threads) (task : FileTask)
      (running : s.files.workers worker = .running task)
      (transacting : s.stages (some worker) = .transacting) (conn : Nat)
      (holding : s.conns.threads (some worker) = .holding conn) :
      Took config (s.sets (some worker) (.transacted none))
  | upserts (worker : Workers threads) (task : FileTask)
      (running : s.files.workers worker = .running task)
      (transacting : s.stages (some worker) = .transacting) (conn : Nat)
      (holding : s.conns.threads (some worker) = .holding conn) (digest : Digest) :
      Took config
        ({ s with
          table := (upsertFile s.table (fileOf digest task.job.download)).2 }.sets (some worker)
            (.transacted (upsertFile s.table (fileOf digest task.job.download)).1.toOption))
  | executes (transacting : s.stages none = .transacting) (conn : Nat)
      (holding : s.conns.threads none = .holding conn) :
      Took config (s.sets none (.transacted none))
  | releases (borrower : Borrower threads) (fileId : Option Nat)
      (transacted : s.stages borrower = .transacted fileId)
      (conns : Mysql.ConnectionPool (Borrower threads))
      (taken : s.conns.Took (.release borrower) conns) : Took config { s with conns := conns }
  | links (worker : Workers threads) (task : FileTask)
      (running : s.files.workers worker = .running task) (fileId : Nat)
      (transacted : s.stages (some worker) = .transacted (some fileId))
      (apart : s.conns.threads (some worker) = .outside)
      (serial : ThreadPool SerialTask (SerialPoster threads) Unit)
      (taken : s.serial.Took (.post (some worker) (.link task.place task.job.owner fileId))
        serial) :
      Took config ({ s with serial := serial }.sets (some worker) .closed)
  | finishesFile (worker : Workers threads) (throws : Bool)
      (apart : s.conns.threads (some worker) = .outside)
      (rest : s.serial.posters (some worker) = .outside)
      (files : ThreadPool FileTask Unit (Workers threads))
      (taken : s.files.Took (.finish worker throws) files) :
      Took config ({ s with files := files }.sets (some worker) .fresh)
  | finishesSerial (throws : Bool) (apart : s.conns.threads none = .outside)
      (serial : ThreadPool SerialTask (SerialPoster threads) Unit)
      (taken : s.serial.Took (.finish () throws) serial) :
      Took config ({ s with serial := serial }.sets none .fresh)

theorem took_hand (config : Config) (next : WorkerSystem collate threads) (rest : s.AtRest)
    (taken : s.hand = some next) : Took s config next := by
  simp only [hand] at taken
  split at taken
  · cases taken
  · next call pending found =>
    split at taken
    · next job posts =>
      obtain ⟨files, step, same⟩ := Option.map_eq_some_iff.mp taken
      cases same
      exact .handsFile call pending found rest job posts files (ThreadPool.took_step _ _ _ step)
    · next noFile =>
      split at taken
      · next posts =>
        obtain ⟨serial, step, same⟩ := Option.map_eq_some_iff.mp taken
        cases same
        exact .handsSerial call pending found rest noFile posts serial
          (ThreadPool.took_step _ _ _ step)
      · next silent =>
        cases taken
        exact .handsNone call pending found rest noFile (Bool.not_eq_true _ ▸ silent)

theorem took_step (config : Config) (next : WorkerSystem collate threads) (move : Move threads)
    (taken : s.step config move = some next) : Took s config next := by
  cases move with
  | receive event =>
      obtain ⟨⟨looping, done, rest, _⟩, same⟩ := Option.ite_none_right_eq_some.mp taken
      cases same
      exact .receives event looping done rest
  | hand =>
      obtain ⟨rest, handed⟩ := Option.ite_none_right_eq_some.mp taken
      exact took_hand s config next rest handed
  | leave =>
      obtain ⟨⟨looping, done, rest⟩, shut⟩ := Option.ite_none_right_eq_some.mp taken
      obtain ⟨files, step, same⟩ := Option.map_eq_some_iff.mp shut
      cases same
      exact .leaves looping done rest files (ThreadPool.took_step _ _ _ step)
  | closeSerial =>
      obtain ⟨⟨draining, drained⟩, shut⟩ := Option.ite_none_right_eq_some.mp taken
      obtain ⟨serial, step, same⟩ := Option.map_eq_some_iff.mp shut
      cases same
      exact .closes draining drained serial (ThreadPool.took_step _ _ _ step)
  | files move =>
      obtain ⟨free, moved⟩ := Option.ite_none_right_eq_some.mp taken
      obtain ⟨files, step, same⟩ := Option.map_eq_some_iff.mp moved
      cases same
      exact .files move free files (ThreadPool.took_step _ _ _ step)
  | serial move =>
      obtain ⟨free, moved⟩ := Option.ite_none_right_eq_some.mp taken
      obtain ⟨serial, step, same⟩ := Option.map_eq_some_iff.mp moved
      cases same
      exact .serial move free serial (ThreadPool.took_step _ _ _ step)
  | conns move =>
      obtain ⟨free, moved⟩ := Option.ite_none_right_eq_some.mp taken
      obtain ⟨conns, step, same⟩ := Option.map_eq_some_iff.mp moved
      cases same
      exact .conns move free conns (Mysql.ConnectionPool.took_step _ _ _ step)
  | store worker stored =>
      simp only [step] at taken
      split at taken
      · next task running fresh =>
        split at taken
        · obtain ⟨conns, step, same⟩ := Option.map_eq_some_iff.mp taken
          cases same
          exact .stores worker task running fresh conns (Mysql.ConnectionPool.took_step _ _ _ step)
        · cases taken
          exact .loses worker task running fresh
      · cases taken
  | begin =>
      simp only [step] at taken
      split at taken
      · next task running fresh =>
        obtain ⟨conns, step, same⟩ := Option.map_eq_some_iff.mp taken
        cases same
        exact .begins task running fresh conns (Mysql.ConnectionPool.took_step _ _ _ step)
      · cases taken
  | refuse borrower woken =>
      obtain ⟨conns, step, same⟩ := Option.map_eq_some_iff.mp taken
      cases same
      exact .refuses borrower woken conns (Mysql.ConnectionPool.took_step _ _ _ step)
  | upsert worker digest fails =>
      simp only [step] at taken
      split at taken
      · next task conn running transacting holding =>
        split at taken
        · cases taken
          exact .aborts worker task running transacting conn holding
        · cases taken
          exact .upserts worker task running transacting conn holding digest
      · cases taken
  | execute =>
      simp only [step] at taken
      split at taken
      · next conn transacting holding =>
        cases taken
        exact .executes transacting conn holding
      · cases taken
  | release borrower =>
      simp only [step] at taken
      split at taken
      · next fileId transacted =>
        obtain ⟨conns, step, same⟩ := Option.map_eq_some_iff.mp taken
        cases same
        exact .releases borrower fileId transacted conns (Mysql.ConnectionPool.took_step _ _ _ step)
      · cases taken
  | link worker =>
      simp only [step] at taken
      split at taken
      · next task fileId running transacted apart =>
        obtain ⟨serial, step, same⟩ := Option.map_eq_some_iff.mp taken
        cases same
        exact .links worker task running fileId transacted apart serial
          (ThreadPool.took_step _ _ _ step)
      · cases taken
  | finishFile worker throws =>
      obtain ⟨⟨_, apart, rest⟩, moved⟩ := Option.ite_none_right_eq_some.mp taken
      obtain ⟨files, step, same⟩ := Option.map_eq_some_iff.mp moved
      cases same
      exact .finishesFile worker throws apart rest files (ThreadPool.took_step _ _ _ step)
  | finishSerial throws =>
      obtain ⟨⟨_, apart⟩, moved⟩ := Option.ite_none_right_eq_some.mp taken
      obtain ⟨serial, step, same⟩ := Option.map_eq_some_iff.mp moved
      cases same
      exact .finishesSerial throws apart serial (ThreadPool.took_step _ _ _ step)

end WorkerSystem

end TgLoggerd

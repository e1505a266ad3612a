import TgLoggerd.Process

/-!
The threads implement the daemon: full queues, shared connections and the order in
which mutexes are taken do not show in it. A handler or a link takes effect when
`post` lets it through, a transaction when it ends, and every run of the threads is
a run of the daemon along the schedule of these moments.
-/

namespace TgLoggerd

open Function SerialRun Simulation ThreadPool

section

variable {Key : Type} [DecidableEq Key] {collate : String → Key} {threads : Nat}

namespace WorkerSystem

variable (s next : WorkerSystem collate threads) (config : Config)

/-- Who posts what to `serial_`: the loop its calls, and workers their links. -/
structure Addressed (s : WorkerSystem collate threads) : Prop where
  called : ∀ task, (s.serial.posters none).job = some task → ∃ place call, task = .call place call
  linked : ∀ worker task, (s.serial.posters (some worker)).job = some task →
    ∃ place owner fileId, task = .link place owner fileId
  written : ∀ task ∈ s.serial.posted, ∃ write, task.write = some write

/-- A handler that posts to `serial_` has something to write, and another one has not. -/
theorem write_of_serial (call : Call) (serial : call.isSerial = true) :
    ∃ write, call.write = some write := by
  cases call <;> first | exact ⟨_, rfl⟩ | cases serial

theorem write_silent (call : Call) (silent : call.isSerial = false) : call.write = none := by
  cases call <;> first | rfl | cases silent

omit [DecidableEq Key] in
theorem addressed_same (addressed : Addressed s)
    (posters : ∀ poster, (next.serial.posters poster).job = (s.serial.posters poster).job)
    (posted : next.serial.posted = s.serial.posted) : Addressed next where
  called := by
    rw [posters none]
    exact addressed.called
  linked := by
    intro worker
    rw [posters (some worker)]
    exact addressed.linked worker
  written := by
    rw [posted]
    exact addressed.written

omit [DecidableEq Key] in
/-- One more poster gets a task. -/
theorem addressed_posts (addressed : Addressed s) (poster : SerialPoster threads)
    (task : SerialTask) (write : DbWrite) (written : task.write = some write)
    (serial : next.serial =
      { s.serial with posted := s.serial.posted ++ [task] }.sets poster (.posting task))
    (called : poster = none → ∃ place call, task = .call place call)
    (linked : ∀ worker, poster = some worker → ∃ place owner fileId,
      task = .link place owner fileId) : Addressed next where
  called := by
    intro held posts
    rw [serial, poster_job_sets] at posts
    split at posts
    · next own =>
      cases posts
      exact called own.symm
    · exact addressed.called held posts
  linked := by
    intro worker held posts
    rw [serial, poster_job_sets] at posts
    split at posts
    · next own =>
      cases posts
      exact linked worker own.symm
    · exact addressed.linked worker held posts
  written := by
    intro held member
    rw [serial] at member
    rcases List.mem_append.mp member with earlier | last
    · exact addressed.written held earlier
    · cases List.mem_singleton.mp last
      exact ⟨write, written⟩

omit [DecidableEq Key] in
theorem addressed_flows (addressed : Addressed s)
    (move : ThreadPool.Move SerialTask (SerialPoster threads) Unit) (free : move.free = true)
    (serial : ThreadPool SerialTask (SerialPoster threads) Unit) (undropped : serial.dropped = [])
    (taken : s.serial.Took move serial) : Addressed { s with serial := serial } := by
  have posted := (free_took s.serial serial move free taken).posted
  have flows := flows_took s.serial serial move free undropped taken
  cases flows with
  | still _ _ still => exact addressed_same s _ addressed still.posters posted
  | accepts poster woken job _ held queue posters workers =>
      -- Whoever is let through holds nothing any more.
      have left (other : SerialPoster threads) (task : SerialTask)
          (holds : (serial.posters other).job = some task) :
          (s.serial.posters other).job = some task := by
        rw [posters other] at holds
        split at holds
        · cases holds
        · exact holds
      refine ⟨?_, ?_, ?_⟩
      · intro task holds
        exact addressed.called task (left none task holds)
      · intro worker task holds
        exact addressed.linked worker task (left (some worker) task holds)
      · change ∀ task ∈ serial.posted, _
        rw [posted]
        exact addressed.written
  | pops worker job _ idle queue posters workers =>
      exact addressed_same s _ addressed posters posted

theorem addressed_took (addressed : Addressed s) (after : Steady next) (took : Took s config next) :
    Addressed next := by
  cases took with
  | handsSerial call pending found rest noFile posts serial taken =>
      cases taken
      obtain ⟨write, written⟩ := write_of_serial call posts
      refine addressed_posts s _ addressed none (.call s.made.length call) write written rfl
        (fun _ => ⟨_, _, rfl⟩) ?_
      rintro worker ⟨⟩
  | closes draining drained serial taken =>
      cases taken
      exact addressed_same s _ addressed (fun _ => rfl) rfl
  | serial move free serial taken =>
      exact addressed_flows s addressed move free serial after.undropped.2 taken
  | links worker task running fileId transacted apart serial taken =>
      cases taken
      refine addressed_posts s _ addressed (some worker) _ _ rfl rfl ?_
        (fun _ _ => ⟨_, _, _, rfl⟩)
      rintro ⟨⟩
  | finishesSerial throws apart serial taken =>
      cases taken
      exact addressed_same s _ addressed (fun _ => rfl) rfl
  | _ => exact addressed_same s _ addressed (fun _ => rfl) rfl

omit [DecidableEq Key] in
theorem heldCalls_atRest (rest : s.AtRest) : s.heldCalls = [] := by
  simp only [heldCalls, rest.2, PosterPlace.job]

omit [DecidableEq Key] in
/-- One worker of `files_` goes on, and the others do not. -/
theorem fileWorker_update (worker : Workers threads) (place : FileWorker)
    (others : ∀ other, other ≠ worker → next.fileWorker other = s.fileWorker other)
    (own : next.fileWorker worker = place) :
    next.fileWorker = update s.fileWorker worker place := by
  funext other
  by_cases same : other = worker
  · rw [same, own, update_self]
  · rw [others other same, update_of_ne same]

omit [DecidableEq Key] in
/-- Another stage of a worker does not show in the others. -/
theorem fileWorker_sets (worker : Workers threads) (stage : Stage) :
    (s.sets (some worker) stage).fileWorker =
      update s.fileWorker worker
        (fileWorkerAt (s.serial.posters (some worker)).job (s.files.workers worker).job stage) := by
  apply fileWorker_update
  · intro other apart
    have differs : (some other : Borrower threads) ≠ some worker :=
      fun same => apart (Option.some.inj same)
    simp only [fileWorker, sets, update_of_ne differs]
  · simp only [fileWorker, sets, update_self]

end WorkerSystem

namespace Process

open WorkerSystem

variable (p : Process collate threads) (d : Daemon collate (Workers threads))

/-- The daemon is level with the process, and the threads with the database. -/
structure Level (p : Process collate threads) (d : Daemon collate (Workers threads)) : Prop
    extends Implements p d where
  table : p.system.table = p.store.files

omit [DecidableEq Key] in
/-- Threads go on, and the daemon does not. -/
theorem level_view (level : p.Level d) (next : WorkerSystem collate threads)
    (impl : next.impl = p.system.impl) (table : next.table = p.system.table)
    (pending : next.heldCalls ++ next.pending = p.system.heldCalls ++ p.system.pending)
    (files : next.fileQueue = p.system.fileQueue)
    (workers : next.fileWorker = p.system.fileWorker)
    (serial : next.serialTasks = p.system.serialTasks) : Level { p with system := next } d where
  impl := level.impl.trans impl.symm
  store := level.store
  events := level.events
  pending := level.pending.trans pending.symm
  files := level.files.trans files.symm
  workers := level.workers.trans workers.symm
  serial := by
    rw [level.serial, serialQueue, serialQueue, serial]
  table := table.trans level.table

omit [DecidableEq Key] in
/-- No job goes anywhere. -/
theorem level_still (level : p.Level d) (next : WorkerSystem collate threads)
    (impl : next.impl = p.system.impl) (table : next.table = p.system.table)
    (pending : next.pending = p.system.pending) (stages : next.stages = p.system.stages)
    (files : Still p.system.files next.files) (serial : Still p.system.serial next.serial) :
    Level { p with system := next } d := by
  refine level_view p d level next impl table ?_ ?_ ?_ ?_
  · simp only [heldCalls, serial.posters, pending]
  · simp only [fileQueue, files.queue, files.posters]
  · funext worker
    simp only [fileWorker, serial.posters, files.workers, stages]
  · simp only [serialTasks, serial.queue, serial.workers, stages]

variable (config : Config) (order : MapOrder) (rowOrder : RowOrder)

theorem level_receive (level : p.Level d) (event : Event) (next : WorkerSystem collate threads)
    (taken : p.system.step config (.receive event) = some next) :
    Level { p with system := next, events := p.events ++ [event] }
      (Daemon.step config order rowOrder d (.receive event)) := by
  obtain ⟨⟨looping, done, rest, open_⟩, same⟩ := Option.ite_none_right_eq_some.mp taken
  cases same
  have idle : d.pending = [] ∧ d.impl.caches.stopped = false := by
    rw [level.pending, heldCalls_atRest p.system rest, done, level.impl]
    exact ⟨rfl, open_⟩
  simp only [Daemon.step, if_pos idle]
  refine ⟨⟨?_, level.store, ?_, ?_, level.files, level.workers, level.serial⟩, level.table⟩
  · rw [level.impl]
  · simp only [Daemon.events, List.map_append, List.map_cons, List.map_nil]
    rw [← Daemon.events, level.events]
  · have held : p.system.heldCalls = [] := heldCalls_atRest p.system rest
    change _ = p.system.heldCalls ++ _
    rw [held, level.impl]
    rfl

theorem level_hand (level : p.Level d) (next : WorkerSystem collate threads)
    (taken : p.system.step config .hand = some next) :
    Level { p with system := next }
      (run (Daemon.step config order rowOrder) d (p.system.means next .hand)) := by
  obtain ⟨rest, handed⟩ := Option.ite_none_right_eq_some.mp taken
  have idle := heldCalls_atRest p.system rest
  have pending := level.pending
  rw [idle, List.nil_append] at pending
  have files := level.files
  rw [fileQueue, rest.1, PosterPlace.job, Option.toList, List.append_nil] at files
  simp only [WorkerSystem.hand] at handed
  split at handed
  · cases handed
  · next call calls found =>
    rw [found] at pending
    split at handed
    · next job posts =>
      obtain ⟨pool, step, same⟩ := Option.map_eq_some_iff.mp handed
      cases ThreadPool.took_step _ _ _ step
      cases same
      simp only [WorkerSystem.means, rest.2, PosterPlace.job, if_true, run, List.foldl_cons, List.foldl_nil,
        Daemon.step, pending, Daemon.hand, posts]
      refine ⟨⟨level.impl, level.store, level.events, ?_, ?_, level.workers, level.serial⟩,
        level.table⟩
      · change calls = p.system.heldCalls ++ calls
        rw [idle, List.nil_append]
      · simp [fileQueue, ThreadPool.sets, PosterPlace.job, files]
    · next noFile =>
      split at handed
      · next posts =>
        obtain ⟨pool, step, same⟩ := Option.map_eq_some_iff.mp handed
        cases ThreadPool.took_step _ _ _ step
        cases same
        simp only [WorkerSystem.means, ThreadPool.sets, update_self, PosterPlace.job, reduceCtorEq, if_false,
          run_nil]
        refine level_view p d level _ rfl rfl ?_ rfl ?_ rfl
        · rw [idle, found]
          simp [heldCalls, PosterPlace.job]
        · funext worker
          simp [fileWorker]
      · next silent =>
        cases handed
        have written := write_silent call (Bool.not_eq_true _ ▸ silent)
        simp only [WorkerSystem.means, rest.2, PosterPlace.job, if_true, run, List.foldl_cons, List.foldl_nil,
          Daemon.step, pending, Daemon.hand, noFile, written, Option.toList, List.append_nil]
        refine ⟨⟨level.impl, level.store, level.events, ?_, level.files, level.workers,
          level.serial⟩, level.table⟩
        change calls = p.system.heldCalls ++ calls
        rw [idle, List.nil_append]

omit [DecidableEq Key] in
theorem means_files (s next : WorkerSystem collate threads)
    (move : ThreadPool.Move FileTask Unit (Workers threads))
    (queue : next.files.queue = s.files.queue) : s.means next (.files move) = [] := by
  cases move <;> first | rfl | exact if_pos queue

omit [DecidableEq Key] in
theorem means_serial (s next : WorkerSystem collate threads)
    (move : ThreadPool.Move SerialTask (SerialPoster threads) Unit)
    (queue : next.serial.queue = s.serial.queue) : s.means next (.serial move) = [] := by
  cases move with
  | enter poster woken => cases poster <;> exact if_pos queue
  | _ => rfl

theorem level_files (level : p.Level d) (steady : Steady p.system)
    (move : ThreadPool.Move FileTask Unit (Workers threads)) (free : move.free = true)
    (files : ThreadPool FileTask Unit (Workers threads)) (undropped : files.dropped = [])
    (taken : p.system.files.Took move files) :
    Level { p with system := { p.system with files := files } }
      (run (Daemon.step config order rowOrder) d
        (p.system.means { p.system with files := files } (.files move))) := by
  have flows := flows_took p.system.files files move free undropped taken
  cases flows with
  | still _ _ still =>
      rw [means_files _ _ move still.queue]
      exact level_still p d level _ rfl rfl rfl rfl still (still_refl _)
  | accepts poster woken job _ held queue posters workers =>
      refine level_view p d level _ rfl rfl rfl ?_ ?_ rfl
      · simp [fileQueue, queue, posters, held]
      · funext worker
        simp only [fileWorker, workers]
  | pops worker job _ idle queue posters workers =>
      have grown : ¬ files.queue = p.system.files.queue := by
        rw [queue]
        exact (List.cons_ne_self job files.queue).symm
      -- A worker with no job is in no transaction and posts nothing.
      have fresh : p.system.stages (some worker) = .fresh := by
        by_contra busied
        obtain ⟨task, running⟩ := steady.staged.busy (some worker) busied
        rw [running] at idle
        cases idle
      have outside := posts_last p.system steady.staged .fresh worker fresh (by simp)
      have resting : d.workers worker = .idle := by
        rw [level.workers, fileWorker, outside, idle]
        rfl
      have queued : d.files = job.job :: { p.system with files := files }.fileQueue := by
        simp [level.files, fileQueue, queue, posters]
      simp only [WorkerSystem.means, if_neg grown, run, List.foldl_cons, List.foldl_nil,
        Daemon.step, resting, queued]
      refine ⟨⟨level.impl, level.store, level.events, level.pending, rfl, ?_, level.serial⟩,
        level.table⟩
      rw [level.workers]
      symm
      apply fileWorker_update
      · intro other apart
        simp only [fileWorker, workers, if_neg apart]
      · simp only [fileWorker, outside, workers, if_true, fresh]
        rfl

omit [DecidableEq Key] in
/-- A job that was let in stands last in the queue that the daemon sees. -/
theorem serialQueue_accepted (serial : ThreadPool SerialTask (SerialPoster threads) Unit)
    (job : SerialTask) (write : DbWrite) (written : job.write = some write)
    (queue : serial.queue = p.system.serial.queue ++ [job])
    (workers : ∀ worker, (serial.workers worker).job = (p.system.serial.workers worker).job) :
    { p.system with serial := serial }.serialQueue = p.system.serialQueue ++ [write] := by
  have tasks : { p.system with serial := serial }.serialTasks =
      p.system.serialTasks ++ [job] := by
    simp only [serialTasks, workers, queue, List.append_assoc]
  rw [serialQueue, tasks, List.filterMap_append, ← serialQueue]
  simp [written]

/-- The call of the loop that waited in `post` is let in. -/
theorem level_call (level : p.Level d) (place : Nat) (call : Call) (write : DbWrite)
    (written : call.write = some write)
    (serial : ThreadPool SerialTask (SerialPoster threads) Unit)
    (held : (p.system.serial.posters none).job = some (.call place call))
    (posters : ∀ other, (serial.posters other).job =
      if other = none then none else (p.system.serial.posters other).job)
    (more : { p.system with serial := serial }.serialQueue = p.system.serialQueue ++ [write]) :
    Level { p with system := { p.system with serial := serial } }
      (Daemon.step config order rowOrder d .hand) := by
  have waiting : d.pending = call :: p.system.pending := by
    simp [level.pending, heldCalls, held]
  have noFile : call.fileJob = none := by
    by_contra posts
    obtain ⟨file, posts⟩ := Option.ne_none_iff_exists'.mp posts
    rw [write_fileJob call file posts] at written
    cases written
  simp only [Daemon.step, waiting, Daemon.hand, noFile]
  refine ⟨⟨level.impl, level.store, level.events, ?_, level.files, ?_, ?_⟩, level.table⟩
  · simp [heldCalls, posters]
  · rw [level.workers]
    funext other
    simp [fileWorker, posters]
  · rw [more, level.serial, written]
    rfl

/-- The link of a file worker that waited in `post` is let in. -/
theorem level_linked (level : p.Level d) (worker : Workers threads) (place : Nat) (owner : Owner)
    (fileId : Nat) (closed : p.system.stages (some worker) = .closed)
    (serial : ThreadPool SerialTask (SerialPoster threads) Unit)
    (held : (p.system.serial.posters (some worker)).job = some (.link place owner fileId))
    (posters : ∀ other, (serial.posters other).job =
      if other = some worker then none else (p.system.serial.posters other).job)
    (more : { p.system with serial := serial }.serialQueue =
      p.system.serialQueue ++ [linkWrite owner fileId]) :
    Level { p with system := { p.system with serial := serial } }
      (Daemon.step config order rowOrder d (.post worker)) := by
  have linking : d.workers worker = .linking owner fileId := by
    simp [level.workers, fileWorker, held, fileWorkerAt]
  simp only [Daemon.step, linking]
  refine ⟨⟨level.impl, level.store, level.events, ?_, level.files, ?_, ?_⟩, level.table⟩
  · simp [level.pending, heldCalls, posters]
  · rw [level.workers]
    symm
    apply fileWorker_update
    · intro other apart
      simp [fileWorker, posters, apart]
    · simp [fileWorker, posters, closed, fileWorkerAt]
  · rw [more, level.serial]

theorem level_serial (level : p.Level d) (steady : Steady p.system)
    (addressed : Addressed p.system)
    (move : ThreadPool.Move SerialTask (SerialPoster threads) Unit) (free : move.free = true)
    (serial : ThreadPool SerialTask (SerialPoster threads) Unit) (undropped : serial.dropped = [])
    (taken : p.system.serial.Took move serial) :
    Level { p with system := { p.system with serial := serial } }
      (run (Daemon.step config order rowOrder) d
        (p.system.means { p.system with serial := serial } (.serial move))) := by
  have flows := flows_took p.system.serial serial move free undropped taken
  cases flows with
  | still _ _ still =>
      rw [means_serial _ _ move still.queue]
      exact level_still p d level _ rfl rfl rfl rfl (still_refl _) still
  | pops worker job _ idle queue posters workers =>
      have fresh : p.system.stages none = .fresh := by
        by_contra busied
        obtain ⟨task, running⟩ := steady.staged.busy none busied
        rw [running] at idle
        cases idle
      refine level_view p d level _ rfl rfl ?_ rfl ?_ ?_
      · simp only [heldCalls, posters]
      · funext other
        simp only [fileWorker, posters]
      · simp [serialTasks, fresh, workers, idle, queue]
  | accepts poster woken job _ held queue posters workers =>
      have grown : ¬ serial.queue = p.system.serial.queue := by
        rw [queue]
        simp
      obtain ⟨write, written⟩ := addressed.written job
        (posted_of_held p.system.serial steady.serial.ledger poster job held)
      have more := serialQueue_accepted p serial job write written queue workers
      cases poster with
      | none =>
          obtain ⟨place, call, rfl⟩ := addressed.called job held
          simp only [WorkerSystem.means, if_neg grown]
          exact level_call p d config order rowOrder level place call write written serial held
            posters more
      | some worker =>
          obtain ⟨place, owner, fileId, rfl⟩ := addressed.linked worker job held
          cases written
          have closed := steady.staged.linking worker (by
            intro outside
            rw [outside] at held
            cases held)
          simp only [WorkerSystem.means, if_neg grown]
          exact level_linked p d config order rowOrder level worker place owner fileId closed serial
            held posters more

omit [DecidableEq Key] in
/-- The transaction of the worker's file is still to come. -/
theorem storing_worker (level : p.Level d) (steady : Steady p.system) (worker : Workers threads)
    (task : FileTask) (running : p.system.files.workers worker = .running task)
    (ahead : p.system.stages (some worker) = .fresh ∨
      p.system.stages (some worker) = .transacting) :
    p.system.serial.posters (some worker) = .outside ∧ d.workers worker = .storing task.job := by
  rcases ahead with fresh | transacting
  · have outside := posts_last p.system steady.staged _ worker fresh (by simp)
    exact ⟨outside, by simp [level.workers, fileWorker, outside, running, fresh, fileWorkerAt,
      PosterPlace.job, WorkerPlace.job]⟩
  · have outside := posts_last p.system steady.staged _ worker transacting (by simp)
    exact ⟨outside, by simp [level.workers, fileWorker, outside, running, transacting,
      fileWorkerAt, PosterPlace.job, WorkerPlace.job]⟩

/-- A file that could not be read, copied or written. -/
theorem level_gives_up (level : p.Level d) (steady : Steady p.system) (worker : Workers threads)
    (task : FileTask) (running : p.system.files.workers worker = .running task)
    (ahead : p.system.stages (some worker) = .fresh ∨
      p.system.stages (some worker) = .transacting)
    (conns : Mysql.ConnectionPool (Borrower threads)) (stage : Stage)
    (spent : stage = .closed ∨ stage = .transacted none) :
    Level { p with system := { p.system with conns := conns }.sets (some worker) stage }
      (Daemon.step config order rowOrder d (.store worker none)) := by
  obtain ⟨outside, storing⟩ := storing_worker p d level steady worker task running ahead
  simp only [Daemon.step, storing, Store.storeFile_lost, Option.map_none, Option.toList_none,
    List.append_nil]
  refine ⟨⟨level.impl, level.store, level.events, level.pending, level.files, ?_, level.serial⟩,
    level.table⟩
  rw [fileWorker_sets, level.workers]
  change _ = update p.system.fileWorker worker
    (fileWorkerAt (p.system.serial.posters (some worker)).job (p.system.files.workers worker).job
      stage)
  rw [outside, running]
  rcases spent with rfl | rfl <;> rfl

theorem level_store (level : p.Level d) (steady : Steady p.system) (worker : Workers threads)
    (stored : Bool) (next : WorkerSystem collate threads)
    (taken : p.system.step config (.store worker stored) = some next) :
    Level { p with system := next }
      (run (Daemon.step config order rowOrder) d
        (p.system.means next (.store worker stored))) := by
  simp only [WorkerSystem.step] at taken
  split at taken
  · next task running fresh =>
    cases stored with
    | true =>
        obtain ⟨conns, step, same⟩ := Option.map_eq_some_iff.mp taken
        cases same
        have outside := posts_last p.system steady.staged _ worker fresh (by simp)
        refine level_view p d level _ rfl rfl rfl rfl ?_ rfl
        rw [fileWorker_sets]
        refine (fileWorker_update p.system p.system worker _ (fun _ _ => rfl) ?_).symm
        simp [fileWorker, running, fresh, fileWorkerAt, outside, PosterPlace.job, WorkerPlace.job]
    | false =>
        cases taken
        exact level_gives_up p d config order rowOrder level steady worker task running
          (Or.inl fresh) p.system.conns .closed (Or.inl rfl)
  · cases taken

theorem level_begin (level : p.Level d) (next : WorkerSystem collate threads)
    (taken : p.system.step config .begin = some next) : Level { p with system := next } d := by
  simp only [WorkerSystem.step] at taken
  split at taken
  · next task running fresh =>
    obtain ⟨conns, step, same⟩ := Option.map_eq_some_iff.mp taken
    cases same
    refine level_view p d level _ rfl rfl rfl rfl ?_ ?_
    · funext worker
      simp [fileWorker, WorkerSystem.sets]
    · simp [serialTasks, WorkerSystem.sets, fresh]
  · cases taken

omit [DecidableEq Key] in
/-- The daemon's queue begins with the job whose transaction is still to come. -/
theorem serial_ahead (level : p.Level d) (steady : Steady p.system)
    (addressed : Addressed p.system) (task : SerialTask)
    (running : p.system.serial.workers () = .running task)
    (transacting : p.system.stages none = .transacting) :
    ∃ write, task.write = some write ∧
      d.serial = write :: p.system.serial.queue.filterMap SerialTask.write := by
  obtain ⟨write, written⟩ := addressed.written task
    (posted_of_running p.system.serial steady.serial.ledger () task running)
  refine ⟨write, written, ?_⟩
  rw [level.serial, serialQueue, serialTasks, transacting, running]
  simp [WorkerPlace.job, written]

omit [DecidableEq Key] in
/-- The serial worker is past its transaction, and the daemon past the job. -/
theorem level_past (level : p.Level d) (conns : Mysql.ConnectionPool (Borrower threads))
    (stage : Stage) (spent : stage = .closed ∨ stage = .transacted none) (store left : Store collate)
    (same : left = store) (tables : store.files = p.store.files) :
    Level { p with system := { p.system with conns := conns }.sets none stage, store := store }
      { d with serial := p.system.serial.queue.filterMap SerialTask.write, store := left } := by
  refine ⟨⟨level.impl, same, level.events, level.pending, level.files, ?_, ?_⟩,
    level.table.trans tables.symm⟩
  · rw [level.workers]
    funext worker
    simp [fileWorker, WorkerSystem.sets]
  · rcases spent with rfl | rfl <;> simp [serialQueue, serialTasks, WorkerSystem.sets]

theorem level_refuse (level : p.Level d) (steady : Steady p.system)
    (addressed : Addressed p.system) (borrower : Borrower threads)
    (woken : Option (Borrower threads)) (next : WorkerSystem collate threads)
    (taken : p.system.step config (.refuse borrower woken) = some next) :
    Level { p with system := next }
      (run (Daemon.step config order rowOrder) d
        (p.system.means next (.refuse borrower woken))) := by
  obtain ⟨conns, step, same⟩ := Option.map_eq_some_iff.mp taken
  cases same
  have creating : p.system.conns.threads borrower = .creating := by
    cases Mysql.ConnectionPool.took_step _ _ _ step with
    | failed _ place _ chosen => exact place
  have transacting := agrees_creating _ (creating ▸ steady.staged.agreed borrower)
  have busy := steady.staged.busy borrower (by rw [transacting]; simp)
  cases borrower with
  | none =>
      obtain ⟨task, running⟩ := busy
      obtain ⟨write, written, queued⟩ :=
        serial_ahead p d level steady addressed task running transacting
      simp only [WorkerSystem.means, run, List.foldl_cons, List.foldl_nil, Daemon.step, queued]
      exact level_past p d level conns .closed (Or.inl rfl) p.store d.store level.store rfl
  | some worker =>
      obtain ⟨task, running⟩ := busy
      exact level_gives_up p d config order rowOrder level steady worker task running
        (Or.inr transacting) conns .closed (Or.inl rfl)

theorem level_upsert (level : p.Level d) (steady : Steady p.system) (worker : Workers threads)
    (digest : Digest) (fails : Bool) (next : WorkerSystem collate threads)
    (taken : p.system.step config (.upsert worker digest fails) = some next) :
    Level { p with system := next, store := { p.store with files := next.table } }
      (run (Daemon.step config order rowOrder) d
        (p.system.means next (.upsert worker digest fails))) := by
  simp only [WorkerSystem.step] at taken
  split at taken
  · next task conn running transacting holding =>
    cases fails with
    | true =>
        cases taken
        have same : { p.store with files := p.system.table } = p.store := by rw [level.table]
        have given := level_gives_up p d config order rowOrder level steady worker task running
          (Or.inr transacting) p.system.conns (.transacted none) (Or.inr rfl)
        rw [← same] at given
        exact given
    | false =>
        cases taken
        obtain ⟨outside, storing⟩ :=
          storing_worker p d level steady worker task running (Or.inr transacting)
        have tables : d.store.files = p.system.table := by rw [level.store, level.table]
        simp only [WorkerSystem.means, run, List.foldl_cons, List.foldl_nil, Daemon.step, storing,
          Bool.false_eq_true, if_false, Store.storeFile_eq, tables]
        refine ⟨⟨level.impl, ?_, level.events, level.pending, level.files, ?_, level.serial⟩, rfl⟩
        · rw [level.store]
          rfl
        · rw [fileWorker_sets, level.workers]
          change _ = update p.system.fileWorker worker
            (fileWorkerAt (p.system.serial.posters (some worker)).job
              (p.system.files.workers worker).job _)
          rw [outside, running]
          generalize (upsertFile p.system.table (fileOf digest task.job.download)).1.toOption = stored
          cases stored <;> rfl
  · cases taken

/-- The serial worker ends its transaction, committed or rolled back. -/
theorem level_execute (level : p.Level d) (steady : Steady p.system)
    (addressed : Addressed p.system) (next : WorkerSystem collate threads)
    (taken : p.system.step config .execute = some next) :
    Level { p with system := next, store := p.commit order rowOrder }
        (Daemon.step config order rowOrder d .commit) ∧
      Level { p with system := next } (Daemon.step config order rowOrder d .fail) := by
  simp only [WorkerSystem.step] at taken
  split at taken
  · next conn transacting holding =>
    cases taken
    obtain ⟨task, running⟩ := steady.staged.busy none (by rw [transacting]; simp)
    obtain ⟨write, written, queued⟩ :=
      serial_ahead p d level steady addressed task running transacting
    have committed : p.commit order rowOrder = p.store.commit order rowOrder write := by
      simp [commit, running, written]
    simp only [Daemon.step, queued]
    constructor
    · rw [committed, level.store]
      have tables : (p.store.commit order rowOrder write).files = p.store.files := by
        unfold Store.commit
        split
        · cases write <;> rfl
        · rfl
      exact level_past p d level p.system.conns _ (Or.inr rfl) _ _ rfl tables
    · exact level_past p d level p.system.conns _ (Or.inr rfl) p.store d.store level.store rfl
  · cases taken

theorem level_link (level : p.Level d) (steady : Steady p.system) (worker : Workers threads)
    (next : WorkerSystem collate threads)
    (taken : p.system.step config (.link worker) = some next) :
    Level { p with system := next } d := by
  simp only [WorkerSystem.step] at taken
  split at taken
  · next task fileId running transacted apart =>
    obtain ⟨serial, step, same⟩ := Option.map_eq_some_iff.mp taken
    cases ThreadPool.took_step _ _ _ step
    cases same
    have outside := posts_last p.system steady.staged _ worker transacted (by simp)
    refine level_view p d level _ rfl rfl ?_ rfl ?_ rfl
    · simp [heldCalls, WorkerSystem.sets, ThreadPool.sets]
    · -- The same link, before and while it waits in `post`.
      rw [fileWorker_sets]
      funext other
      by_cases own : other = worker
      · rw [own]
        simp [fileWorker, ThreadPool.sets, running, transacted, outside, fileWorkerAt,
          PosterPlace.job, WorkerPlace.job]
      · rw [update_of_ne own]
        simp [fileWorker, ThreadPool.sets, own]
  · cases taken

theorem level_finishFile (level : p.Level d) (worker : Workers threads) (throws : Bool)
    (next : WorkerSystem collate threads)
    (taken : p.system.step config (.finishFile worker throws) = some next) :
    Level { p with system := next } d := by
  obtain ⟨⟨spent, apart, outside⟩, moved⟩ := Option.ite_none_right_eq_some.mp taken
  obtain ⟨files, step, same⟩ := Option.map_eq_some_iff.mp moved
  cases ThreadPool.took_step _ _ _ step with
  | finishes _ _ task running =>
    cases same
    refine level_view p d level _ rfl rfl rfl rfl ?_ rfl
    funext other
    by_cases own : other = worker
    · rw [own]
      rcases spent with closed | done
      · simp [fileWorker, WorkerSystem.sets, ThreadPool.goes, outside, closed, fileWorkerAt,
          PosterPlace.job, WorkerPlace.job]
      · simp [fileWorker, WorkerSystem.sets, ThreadPool.goes, outside, done, fileWorkerAt,
          PosterPlace.job, WorkerPlace.job]
    · have differs : (some other : Borrower threads) ≠ some worker :=
        fun same => own (Option.some.inj same)
      simp [fileWorker, WorkerSystem.sets, ThreadPool.goes, own]

theorem level_finishSerial (level : p.Level d) (throws : Bool)
    (next : WorkerSystem collate threads)
    (taken : p.system.step config (.finishSerial throws) = some next) :
    Level { p with system := next } d := by
  obtain ⟨⟨spent, apart⟩, moved⟩ := Option.ite_none_right_eq_some.mp taken
  obtain ⟨serial, step, same⟩ := Option.map_eq_some_iff.mp moved
  cases ThreadPool.took_step _ _ _ step with
  | finishes _ _ task running =>
    cases same
    refine level_view p d level _ rfl rfl rfl rfl ?_ ?_
    · funext worker
      simp [fileWorker, WorkerSystem.sets, ThreadPool.goes]
    · rcases spent with closed | done
      · simp [serialTasks, WorkerSystem.sets, ThreadPool.goes, closed, WorkerPlace.job]
      · simp [serialTasks, WorkerSystem.sets, ThreadPool.goes, done, WorkerPlace.job]

theorem level_thread (level : p.Level d) (steady : Steady p.system)
    (addressed : Addressed p.system) (move : WorkerSystem.Move threads)
    (next : WorkerSystem collate threads) (taken : p.system.step config move = some next) :
    Level
      { p with
        system := next
        store := p.writes order rowOrder next move
        events := p.receives move }
      (run (Daemon.step config order rowOrder) d (p.system.means next move)) := by
  have after := steady_took p.system next config steady (took_step p.system config next move taken)
  cases move with
  | receive event => exact level_receive p d config order rowOrder level event next taken
  | hand => exact level_hand p d config order rowOrder level next taken
  | leave =>
      obtain ⟨_, shut⟩ := Option.ite_none_right_eq_some.mp taken
      obtain ⟨files, step, same⟩ := Option.map_eq_some_iff.mp shut
      cases ThreadPool.took_step _ _ _ step
      cases same
      exact level_still p d level _ rfl rfl rfl rfl (still_same rfl rfl rfl) (still_refl _)
  | closeSerial =>
      obtain ⟨_, shut⟩ := Option.ite_none_right_eq_some.mp taken
      obtain ⟨serial, step, same⟩ := Option.map_eq_some_iff.mp shut
      cases ThreadPool.took_step _ _ _ step
      cases same
      exact level_still p d level _ rfl rfl rfl rfl (still_refl _) (still_same rfl rfl rfl)
  | files move =>
      obtain ⟨free, moved⟩ := Option.ite_none_right_eq_some.mp taken
      obtain ⟨files, step, same⟩ := Option.map_eq_some_iff.mp moved
      cases same
      exact level_files p d config order rowOrder level steady move free files after.undropped.1
        (ThreadPool.took_step _ _ _ step)
  | serial move =>
      obtain ⟨free, moved⟩ := Option.ite_none_right_eq_some.mp taken
      obtain ⟨serial, step, same⟩ := Option.map_eq_some_iff.mp moved
      cases same
      exact level_serial p d config order rowOrder level steady addressed move free serial
        after.undropped.2 (ThreadPool.took_step _ _ _ step)
  | conns move =>
      obtain ⟨_, moved⟩ := Option.ite_none_right_eq_some.mp taken
      obtain ⟨conns, step, same⟩ := Option.map_eq_some_iff.mp moved
      cases same
      exact level_still p d level _ rfl rfl rfl rfl (still_refl _) (still_refl _)
  | store worker stored =>
      exact level_store p d config order rowOrder level steady worker stored next taken
  | begin => exact level_begin p d config level next taken
  | refuse borrower woken =>
      exact level_refuse p d config order rowOrder level steady addressed borrower woken next taken
  | upsert worker digest fails =>
      exact level_upsert p d config order rowOrder level steady worker digest fails next taken
  | execute => exact (level_execute p d config order rowOrder level steady addressed next taken).1
  | release borrower =>
      simp only [WorkerSystem.step] at taken
      split at taken
      · obtain ⟨conns, step, same⟩ := Option.map_eq_some_iff.mp taken
        cases same
        exact level_still p d level _ rfl rfl rfl rfl (still_refl _) (still_refl _)
      · cases taken
  | link worker => exact level_link p d config level steady worker next taken
  | finishFile worker throws => exact level_finishFile p d config level worker throws next taken
  | finishSerial throws => exact level_finishSerial p d config level throws next taken

variable (fileCap serialCap poolSize : Nat)

omit [DecidableEq Key] in
theorem steady_launch (store : Store collate) :
    Steady (launch fileCap serialCap poolSize store : WorkerSystem collate threads) := by
  have fresh : Steady (WorkerSystem.start fileCap serialCap poolSize : WorkerSystem collate threads) :=
    steady_start fileCap serialCap poolSize
  exact { fresh with staged := { fresh.staged with }, phased := { fresh.phased with } }

omit [DecidableEq Key] in
theorem addressed_launch (store : Store collate) :
    Addressed (launch fileCap serialCap poolSize store : WorkerSystem collate threads) := by
  refine ⟨?_, ?_, ?_⟩
  · rintro task ⟨⟩
  · rintro worker task ⟨⟩
  · intro task member
    cases member

theorem simulates :
    Simulates (step config order rowOrder fileCap serialCap poolSize)
      (Daemon.step config order rowOrder) means
      (fun p : Process collate threads => Steady p.system ∧ Addressed p.system) Level where
  keeps := by
    rintro p move next ⟨steady, addressed⟩ taken
    have threads (move : WorkerSystem.Move threads) (system : WorkerSystem collate threads)
        (went : p.system.step config move = some system) : Steady system ∧ Addressed system := by
      have took := took_step p.system config system move went
      have after := steady_took p.system system config steady took
      exact ⟨after, addressed_took p.system system config addressed after took⟩
    cases move with
    | thread move =>
        obtain ⟨system, went, same⟩ := Option.map_eq_some_iff.mp taken
        cases same
        exact threads move system went
    | fail =>
        obtain ⟨system, went, same⟩ := Option.map_eq_some_iff.mp taken
        cases same
        exact threads .execute system went
    | restart =>
        cases taken
        exact ⟨steady_launch fileCap serialCap poolSize p.store,
          addressed_launch fileCap serialCap poolSize p.store⟩
  follows := by
    rintro p move next d ⟨steady, addressed⟩ level taken
    cases move with
    | thread move =>
        obtain ⟨system, went, same⟩ := Option.map_eq_some_iff.mp taken
        cases same
        exact level_thread p d config order rowOrder level steady addressed move system went
    | fail =>
        obtain ⟨system, went, same⟩ := Option.map_eq_some_iff.mp taken
        cases same
        exact (level_execute p d config order rowOrder level steady addressed system went).2
    | restart =>
        cases taken
        exact ⟨⟨rfl, level.store, level.events, rfl, rfl, rfl, rfl⟩, rfl⟩

omit [DecidableEq Key] in
/-- A process that is past both shutdowns has nothing left to do. -/
theorem settled_ended (level : p.Level d) (steady : Steady p.system) (ended : p.Ended) :
    d.Settled := by
  obtain ⟨draining, outside⟩ := ended
  obtain ⟨_, joined, returned⟩ := steady.phased.drainingSerial draining
  obtain ⟨done, rest⟩ := steady.phased.ended (by rw [draining]; decide)
  obtain ⟨noFiles, filesExited, _⟩ := returned_finished p.system.files steady.files joined
  obtain ⟨noTasks, serialExited, _⟩ :=
    returned_finished p.system.serial steady.serial (returned outside)
  refine ⟨?_, ?_, ?_, ?_⟩
  · rw [level.pending, heldCalls_atRest p.system rest, done, List.append_nil]
  · rw [level.files, fileQueue, noFiles, rest.1]
    rfl
  · intro worker
    have apart := outside_drained p.system steady.staged steady.files.closing joined worker
    rw [level.workers, fileWorker, apart, filesExited worker]
    rfl
  · rw [level.serial, serialQueue, serialTasks, noTasks, serialExited ()]
    split <;> rfl

theorem level_runs (collate : String → Key) (moves : List (Move threads)) :
    let p : Process collate threads :=
      runs config order rowOrder fileCap serialCap poolSize moves
    let d : Daemon collate (Workers threads) := Daemon.runs config order rowOrder
      (schedule collate config order rowOrder fileCap serialCap poolSize moves)
    Steady p.system ∧ p.Level d := by
  have follows := @simulates Key _ collate threads config order rowOrder fileCap serialCap poolSize
  have initial : Steady (start fileCap serialCap poolSize : Process collate threads).system ∧
      Addressed (start fileCap serialCap poolSize : Process collate threads).system :=
    ⟨steady_launch fileCap serialCap poolSize Store.empty,
      addressed_launch fileCap serialCap poolSize Store.empty⟩
  have tied : Level (start fileCap serialCap poolSize : Process collate threads) {} :=
    ⟨⟨rfl, rfl, rfl, rfl, rfl, rfl, rfl⟩, rfl⟩
  exact ⟨(follows.sound_run _ initial moves).1, follows.related_run _ _ initial tied moves⟩

/-- A schedule has the failures and the restarts of the run, and no others. -/
theorem schedule_steady (collate : String → Key) (moves : List (Move threads))
    (steady : ∀ move ∈ moves, move.loses = false) :
    ∀ op ∈ schedule collate config order rowOrder fileCap serialCap poolSize moves,
      op ≠ .fail ∧ op ≠ .restart := by
  intro op scheduled
  obtain ⟨p, move, member, next, taken, meant⟩ := of_schedule _ _ _ moves op scheduled
  have kept := steady move member
  cases move with
  | fail => cases kept
  | restart => cases kept
  | thread move =>
      simp only [means] at meant
      cases move with
      | refuse borrower woken =>
          cases borrower with
          | none => cases kept
          | some worker =>
              cases List.mem_singleton.mp meant
              simp
      | hand =>
          simp only [WorkerSystem.means] at meant
          split at meant <;> simp_all
      | files move =>
          cases move <;> simp only [WorkerSystem.means] at meant <;> first
            | cases meant
            | (split at meant <;> simp_all)
      | serial move =>
          rcases move with _ | ⟨poster, _⟩ <;> try cases meant
          cases poster <;> simp only [WorkerSystem.means] at meant <;> split at meant <;> simp_all
      | store worker stored =>
          cases stored <;> simp_all [WorkerSystem.means]
      | _ => simp_all [WorkerSystem.means]

end Process

/-- The threads implement the daemon. Every run of the process, with whatever
queues and connections it has, wherever its threads wait and however often it is
killed, is along its schedule a run of the daemon: the wrapper, the database, the
events received, the queues and what each worker has in hand are those of the daemon.
When `start` is past its shutdowns the daemon has nothing left to do. -/
theorem threads_implement_daemon {Key : Type} [DecidableEq Key] {collate : String → Key}
    {threads : Nat} (config : Config) (order : MapOrder) (rowOrder : RowOrder)
    (fileCap serialCap poolSize : Nat) (moves : List (Process.Move threads)) :
    let p : Process collate threads :=
      Process.runs config order rowOrder fileCap serialCap poolSize moves
    let d : Daemon collate (Workers threads) := Daemon.runs config order rowOrder
      (Process.schedule collate config order rowOrder fileCap serialCap poolSize moves)
    p.Implements d ∧ (p.Ended → d.Settled) := by
  obtain ⟨steady, level⟩ := Process.level_runs config order rowOrder fileCap serialCap poolSize
    collate moves
  exact ⟨level.toImplements, Process.settled_ended _ _ level steady⟩

/-- `start` returns with the work done. If no transaction of the serial worker
failed, the database then says, files apart, what a single thread makes of the
updates received, whatever the threads of the pools did in which order. -/
theorem start_returns_complete {Key : Type} [DecidableEq Key] {collate : String → Key}
    {threads : Nat} (config : Config) (order : MapOrder) (rowOrder : RowOrder)
    (fileCap serialCap poolSize : Nat) (moves : List (Process.Move threads))
    (steady : ∀ move ∈ moves, move.loses = false)
    (ended : (Process.runs config order rowOrder fileCap serialCap poolSize moves :
      Process collate threads).Ended) :
    let p : Process collate threads :=
      Process.runs config order rowOrder fileCap serialCap poolSize moves
    p.store.ledger = sequential config order rowOrder p.events := by
  intro p
  obtain ⟨threaded, level⟩ := Process.level_runs config order rowOrder fileCap serialCap poolSize
    collate moves
  obtain ⟨called, _, _, caughtUp⟩ := Process.settled_ended _ _ level threaded ended
  have orderly := @Daemon.orderly_runs Key _ collate (Workers threads) _ config order rowOrder _
    (Process.schedule_steady config order rowOrder fileCap serialCap poolSize collate moves steady)
  have same := orderly.level
  rw [Daemon.owed, called, caughtUp, level.store, level.events] at same
  exact same

end

/-- Two users arrive, and the queue has room for one: the loop waits in `post` until
the serial worker has taken the first job. Then the transactions of both, on the one
connection, and the end of `start`. -/
def fullQueue : List (Process.Move 1) :=
  let received : List (WorkerSystem.Move 1) :=
    [.receive (.update (.user (some { id := 7 }))), .hand, .serial (.enter none none),
      .receive (.update (.user (some { id := 8 }))), .hand, .serial (.enter none none),
      .serial (.look ()), .serial (.notify () (some none)), .serial (.enter none none)]
  let written : List (WorkerSystem.Move 1) :=
    [.begin, .conns (.acquire none), .conns (.create none), .execute, .release none,
      .conns (.notify none none), .finishSerial false, .serial (.look ()),
      .serial (.notify () none), .begin, .conns (.acquire none), .execute, .release none,
      .conns (.notify none none), .finishSerial false]
  let ended : List (WorkerSystem.Move 1) :=
    [.leave, .files .notifyEmpty, .files (.look 0), .files .notifyFull, .files .join,
      .closeSerial, .serial .notifyEmpty, .serial (.look ()), .serial .notifyFull, .serial .join]
  (received ++ written ++ ended).map .thread

theorem start_returns_complete_when_full :
    let p : Process foldCase 1 :=
      Process.runs (Config.started 300 4) insertionOrder storageOrder 1 1 1 fullQueue
    p.store.ledger = sequential (Config.started 300 4) insertionOrder storageOrder p.events :=
  start_returns_complete (Config.started 300 4) insertionOrder storageOrder 1 1 1 fullQueue
    (by decide +kernel) ⟨by decide +kernel, by decide +kernel⟩

end TgLoggerd

import TgLoggerd.WorkerInvariants

/-!
The threads together never block each other. Who waits for a connection waits for a
worker that holds one or opens one, and such a worker asks for nothing else; who
waits in a post to `serial_` waits for its worker, which then holds no connection or
waits for one only; and who waits in a post to `files_` waits for workers there.
-/

namespace TgLoggerd

open Function SerialRun ThreadPool

namespace WorkerSystem

variable {Key : Type} [DecidableEq Key] {collate : String → Key} {threads : Nat}

/-- Steps other than what comes from outside (an event, the wish to end) and
wakeups without a notification. -/
def Move.works : Move threads → Bool
  | .receive _ | .leave => false
  | .files (.wakePoster _) | .files (.wakeWorker _) => false
  | .serial (.wakePoster _) | .serial (.wakeWorker _) => false
  | .conns (.wake _) => false
  | _ => true

section

variable (config : Config) (s : WorkerSystem collate threads)

def Proceeds : Prop := ∃ move : Move threads, move.works = true ∧ (s.step config move).isSome = true

/-- A job that was posted, or is about to be, has not run to its end. -/
def Unrun : Prop :=
  s.pending ≠ [] ∨ ¬ s.files.posted.Perm s.files.finished ∨
    ¬ s.serial.posted.Perm s.serial.finished

/-- `start` has shut both pools down. -/
def Returned : Prop := s.main = .drainingSerial ∧ s.serial.owner = .outside

/-- A borrower that need not be woken takes a step. -/
theorem active_borrower_steps (steady : Steady s) (borrower : Borrower threads)
    (active : (s.conns.threads borrower).isActive = true) : Proceeds config s := by
  have agreed := steady.staged.agreed borrower
  cases place : s.conns.threads borrower with
  | outside => simp [place, Mysql.ConnectionPool.Place.isActive] at active
  | waiting => simp [place, Mysql.ConnectionPool.Place.isActive] at active
  | acquiring =>
      refine ⟨.conns (.acquire borrower), rfl, ?_⟩
      simp [step, Mysql.ConnectionPool.Move.free, Mysql.ConnectionPool.step, place]
  | creating =>
      refine ⟨.conns (.create borrower), rfl, ?_⟩
      simp [step, Mysql.ConnectionPool.Move.free, Mysql.ConnectionPool.step, place]
  | notifying =>
      obtain ⟨woken, chosen⟩ :=
        Threads.exists_chosen Mysql.ConnectionPool.wakes s.conns.threads
      refine ⟨.conns (.notify borrower woken), rfl, ?_⟩
      simp [step, Mysql.ConnectionPool.Move.free, Mysql.ConnectionPool.step, place, chosen]
  | holding conn =>
      cases stage : s.stages borrower with
      | fresh => simp [stage, place, agrees] at agreed
      | closed => simp [stage, place, agrees] at agreed
      | transacted fileId =>
          refine ⟨.release borrower, rfl, ?_⟩
          simp [step, stage, Mysql.ConnectionPool.step, place]
      | transacting =>
          have busy := steady.staged.busy borrower (by rw [stage]; simp)
          cases borrower with
          | none =>
              refine ⟨.execute, rfl, ?_⟩
              simp [step, stage, place]
          | some worker =>
              obtain ⟨task, running⟩ := busy
              refine ⟨.upsert worker ⟨List.replicate 32 0, List.length_replicate⟩ true, rfl, ?_⟩
              simp [step, running, stage, place]

theorem borrower_steps (steady : Steady s) (borrower : Borrower threads)
    (away : s.conns.threads borrower ≠ .outside) : Proceeds config s := by
  by_cases active : (s.conns.threads borrower).isActive = true
  · exact active_borrower_steps config s steady borrower active
  · have waiting : s.conns.threads borrower = .waiting := by
      cases place : s.conns.threads borrower with
      | waiting => rfl
      | outside => exact absurd place away
      | _ => simp [place, Mysql.ConnectionPool.Place.isActive] at active
    obtain ⟨other, active⟩ :=
      Mysql.ConnectionPool.active_of_waiting s.conns steady.conns steady.sized borrower waiting
    exact active_borrower_steps config s steady other active

/-- The worker of `serial_` goes on with its job. -/
theorem serial_job_steps (steady : Steady s) (task : SerialTask)
    (running : s.serial.workers () = .running task) : Proceeds config s := by
  by_cases away : s.conns.threads none = .outside
  · have agreed := steady.staged.agreed none
    rw [away] at agreed
    cases stage : s.stages none with
    | fresh =>
        refine ⟨.begin, rfl, ?_⟩
        simp [step, running, stage, Mysql.ConnectionPool.step, away]
    | transacting => simp [stage, agrees] at agreed
    | closed =>
        refine ⟨.finishSerial false, rfl, ?_⟩
        simp [step, stage, away, ThreadPool.step, running]
    | transacted fileId =>
        cases fileId with
        | some id => exact absurd stage (steady.staged.unlinked id)
        | none =>
            refine ⟨.finishSerial false, rfl, ?_⟩
            simp [step, stage, away, ThreadPool.step, running]
  · exact borrower_steps config s steady none away

/-- What keeps `serial_` going keeps the whole going. -/
theorem serial_steps (steady : Steady s) (proceeds : ThreadPool.Proceeds s.serial) :
    Proceeds config s := by
  obtain ⟨move, works, taken⟩ := proceeds
  have own (free : move.free = true) : (s.step config (.serial move)).isSome = true := by
    simp [step, free, taken]
  cases move with
  | finish worker throws =>
      cases place : s.serial.workers worker with
      | running task => exact serial_job_steps config s steady task place
      | _ => simp [ThreadPool.step, place] at taken
  | post poster job => cases works
  | wakePoster poster => cases works
  | wakeWorker worker => cases works
  | shutdown => cases works
  | _ => exact ⟨_, rfl, own rfl⟩

/-- A worker of `files_` goes on with its job. -/
theorem file_job_steps (steady : Steady s) (worker : Workers threads) (task : FileTask)
    (running : s.files.workers worker = .running task) : Proceeds config s := by
  by_cases away : s.conns.threads (some worker) = .outside
  · by_cases rest : s.serial.posters (some worker) = .outside
    · have agreed := steady.staged.agreed (some worker)
      rw [away] at agreed
      cases stage : s.stages (some worker) with
      | fresh =>
          refine ⟨.store worker true, rfl, ?_⟩
          simp [step, running, stage, Mysql.ConnectionPool.step, away]
      | transacting => simp [stage, agrees] at agreed
      | closed =>
          refine ⟨.finishFile worker false, rfl, ?_⟩
          simp [step, stage, away, rest, ThreadPool.step, running]
      | transacted fileId =>
          cases fileId with
          | some id =>
              refine ⟨.link worker, rfl, ?_⟩
              simp [step, running, stage, away, ThreadPool.step, rest]
          | none =>
              refine ⟨.finishFile worker false, rfl, ?_⟩
              simp [step, stage, away, rest, ThreadPool.step, running]
    · exact serial_steps config s steady (poster_steps s.serial steady.serial (some worker) rest)
  · exact borrower_steps config s steady (some worker) away

theorem files_steps (steady : Steady s) (proceeds : ThreadPool.Proceeds s.files) :
    Proceeds config s := by
  obtain ⟨move, works, taken⟩ := proceeds
  have own (free : move.free = true) : (s.step config (.files move)).isSome = true := by
    simp [step, free, taken]
  cases move with
  | finish worker throws =>
      cases place : s.files.workers worker with
      | running task => exact file_job_steps config s steady worker task place
      | _ => simp [ThreadPool.step, place] at taken
  | post poster job => cases works
  | wakePoster poster => cases works
  | wakeWorker worker => cases works
  | shutdown => cases works
  | _ => exact ⟨_, rfl, own rfl⟩

/-- The loop goes on with what it has to hand over. -/
theorem loop_steps (steady : Steady s) (waiting : s.pending ≠ []) : Proceeds config s := by
  by_cases inFiles : s.files.posters () = .outside
  · by_cases inSerial : s.serial.posters none = .outside
    · refine ⟨.hand, rfl, ?_⟩
      obtain ⟨call, rest, found⟩ := List.exists_cons_of_ne_nil waiting
      have atRest : s.AtRest := ⟨inFiles, inSerial⟩
      simp only [step, atRest, ↓reduceIte, hand, found]
      split
      · simp [ThreadPool.step, inFiles]
      · split
        · simp [ThreadPool.step, inSerial]
        · rfl
    · exact serial_steps config s steady (poster_steps s.serial steady.serial none inSerial)
  · exact files_steps config s steady (poster_steps s.files steady.files () inFiles)

theorem unrun_proceeds (steady : Steady s) (unrun : s.Unrun) : Proceeds config s := by
  rcases unrun with waiting | files | serial
  · exact loop_steps config s steady waiting
  · exact files_steps config s steady
      (unrun_steps s.files steady.files steady.undropped.1 files)
  · exact serial_steps config s steady
      (unrun_steps s.serial steady.serial steady.undropped.2 serial)

/-- A shutdown that is under way goes on. -/
theorem shutdown_proceeds (steady : Steady s) (past : s.main ≠ .looping) (unreturned : ¬ s.Returned) :
    Proceeds config s := by
  by_cases files : s.files.owner = .outside
  · by_cases serial : s.serial.owner = .outside
    · cases main : s.main with
      | looping => exact absurd main past
      | drainingSerial => exact absurd ⟨main, serial⟩ unreturned
      | drainingFiles =>
          refine ⟨.closeSerial, rfl, ?_⟩
          simp [step, main, files, ThreadPool.step, serial]
    · exact serial_steps config s steady (owner_steps s.serial steady.serial serial)
  · exact files_steps config s steady (owner_steps s.files steady.files files)

/-- While the loop runs, it can take an event or leave as soon as it has handed
everything over. -/
theorem looping_proceeds (steady : Steady s) (looping : s.main = .looping) :
    Proceeds config s ∨ (s.step config .leave).isSome = true := by
  by_cases waiting : s.pending = []
  · by_cases inFiles : s.files.posters () = .outside
    · by_cases inSerial : s.serial.posters none = .outside
      · right
        have atRest : s.AtRest := ⟨inFiles, inSerial⟩
        simp [step, looping, waiting, atRest, ThreadPool.step,
          (steady.phased.looping looping).2]
      · exact Or.inl
          (serial_steps config s steady (poster_steps s.serial steady.serial none inSerial))
    · exact Or.inl (files_steps config s steady (poster_steps s.files steady.files () inFiles))
  · exact Or.inl (loop_steps config s steady waiting)

end

/-- In no reachable state the threads have all come to a halt before the end: while
a posted job has not run, or the pools are being shut down, one of them takes a step
that nobody outside has to ask for. -/
theorem workers_never_deadlock (config : Config) (fileCap serialCap poolSize : Nat)
    (moves : List (Move threads)) :
    let s : WorkerSystem collate threads := after config fileCap serialCap poolSize moves
    (s.Unrun ∨ s.main ≠ .looping ∧ ¬ s.Returned → Proceeds config s) ∧
      (¬ s.Returned → Proceeds config s ∨ (s.step config .leave).isSome = true) := by
  have steady : Steady (after config fileCap serialCap poolSize moves :
      WorkerSystem collate threads) := steady_after config fileCap serialCap poolSize moves
  constructor
  · rintro (unrun | ⟨past, unreturned⟩)
    · exact unrun_proceeds config _ steady unrun
    · exact shutdown_proceeds config _ steady past unreturned
  · intro unreturned
    by_cases looping : (after config fileCap serialCap poolSize moves :
        WorkerSystem collate threads).main = .looping
    · exact looping_proceeds config _ steady looping
    · exact Or.inl (shutdown_proceeds config _ steady looping unreturned)

end WorkerSystem

end TgLoggerd

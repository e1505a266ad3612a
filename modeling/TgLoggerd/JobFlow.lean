import TgLoggerd.ThreadPoolContract

/-!
How jobs go through a thread pool: from a poster into the queue, and from the
queue to a worker. All else that the threads do by themselves, waiting, waking and
closing, moves no job.
-/

namespace TgLoggerd

open Function Threads

namespace ThreadPool

variable {Job Poster Worker : Type}

/-- Every job is where it was. -/
structure Still (pool next : ThreadPool Job Poster Worker) : Prop where
  queue : next.queue = pool.queue
  posters : ∀ poster, (next.posters poster).job = (pool.posters poster).job
  workers : ∀ worker, (next.workers worker).job = (pool.workers worker).job

theorem still_same {pool next : ThreadPool Job Poster Worker} (queue : next.queue = pool.queue)
    (posters : next.posters = pool.posters) (workers : next.workers = pool.workers) :
    Still pool next :=
  ⟨queue, fun poster => by rw [posters], fun worker => by rw [workers]⟩

theorem still_refl (pool : ThreadPool Job Poster Worker) : Still pool pool :=
  still_same rfl rfl rfl

variable [Fintype Poster] [DecidableEq Poster] [Fintype Worker] [DecidableEq Worker]
variable (pool : ThreadPool Job Poster Worker)

inductive Flows : Move Job Poster Worker → ThreadPool Job Poster Worker → Prop where
  | still (move : Move Job Poster Worker) (next : ThreadPool Job Poster Worker)
      (still : Still pool next) : Flows move next
  | accepts (poster : Poster) (woken : Option Worker) (job : Job)
      (next : ThreadPool Job Poster Worker) (held : (pool.posters poster).job = some job)
      (queue : next.queue = pool.queue ++ [job])
      (posters : ∀ other, (next.posters other).job =
        if other = poster then none else (pool.posters other).job)
      (workers : ∀ worker, (next.workers worker).job = (pool.workers worker).job) :
      Flows (.enter poster woken) next
  | pops (worker : Worker) (job : Job) (next : ThreadPool Job Poster Worker)
      (idle : (pool.workers worker).job = none) (queue : pool.queue = job :: next.queue)
      (posters : ∀ poster, (next.posters poster).job = (pool.posters poster).job)
      (workers : ∀ other, (next.workers other).job =
        if other = worker then some job else (pool.workers other).job) :
      Flows (.look worker) next

omit [Fintype Poster] [Fintype Worker] [DecidableEq Worker] in
theorem poster_job_sets (poster other : Poster) (place : PosterPlace Job) :
    ((pool.sets poster place).posters other).job =
      if other = poster then place.job else (pool.posters other).job := by
  simp only [sets, update_apply]
  split <;> rfl

omit [Fintype Poster] [DecidableEq Poster] [Fintype Worker] in
theorem worker_job_goes (worker other : Worker) (place : WorkerPlace Job) :
    ((pool.goes worker place).workers other).job =
      if other = worker then place.job else (pool.workers other).job := by
  simp only [goes, update_apply]
  split <;> rfl

omit [Fintype Poster] [Fintype Worker] [DecidableEq Worker] in
theorem still_sets (poster : Poster) (place : PosterPlace Job)
    (same : place.job = (pool.posters poster).job) : Still pool (pool.sets poster place) := by
  refine ⟨rfl, ?_, fun worker => rfl⟩
  intro other
  rw [poster_job_sets]
  split
  · next own => rw [same, own]
  · rfl

omit [Fintype Poster] [DecidableEq Poster] [Fintype Worker] in
theorem still_goes (worker : Worker) (place : WorkerPlace Job)
    (same : place.job = (pool.workers worker).job) : Still pool (pool.goes worker place) := by
  refine ⟨rfl, fun poster => rfl, ?_⟩
  intro other
  rw [worker_job_goes]
  split
  · next own => rw [same, own]
  · rfl

omit [Fintype Poster] [Fintype Worker] [DecidableEq Worker] in
theorem poster_job_notifyOne (woken : Option Poster) (poster : Poster) :
    (notifyOne PosterPlace.wakes pool.posters woken poster).job = (pool.posters poster).job := by
  rcases notifyOne_apply PosterPlace.wakes pool.posters woken poster with kept | woke
  · rw [kept]
  · rw [woke, awake_poster_job]

omit [Fintype Poster] [DecidableEq Poster] [Fintype Worker] in
theorem worker_job_notifyOne (woken : Option Worker) (worker : Worker) :
    (notifyOne WorkerPlace.wakes pool.workers woken worker).job = (pool.workers worker).job := by
  rcases notifyOne_apply WorkerPlace.wakes pool.workers woken worker with kept | woke
  · rw [kept]
  · rw [woke, awake_job]

omit [Fintype Poster] [Fintype Worker] in
/-- What becomes of the jobs in a step that the pool takes by itself and that drops
none. -/
theorem flows_took (next : ThreadPool Job Poster Worker) (move : Move Job Poster Worker)
    (free : move.free = true) (undropped : next.dropped = []) (took : Took pool move next) :
    Flows pool move next := by
  cases took with
  | posts poster job place => cases free
  | finishes worker throws job place => cases free
  | flags place => cases free
  | blocks poster woken job place capped full accepting =>
      exact .still _ _ (still_sets pool poster _ (by rw [place]; rfl))
  -- A job that comes too late is dropped, which is excluded.
  | drops poster woken job place draining => simp [sets] at undropped
  | accepts poster woken job place room accepting chosen =>
      refine .accepts poster woken job _ (by rw [place]; rfl) rfl ?_ (worker_job_notifyOne pool woken)
      intro other
      exact poster_job_sets pool poster other .outside
  | wakesPoster poster job place =>
      exact .still _ _ (still_sets pool poster _ (by rw [place]; rfl))
  | exits worker place none draining =>
      exact .still _ _ (still_goes pool worker _ (by rw [place]; rfl))
  | waits worker place none accepting =>
      exact .still _ _ (still_goes pool worker _ (by rw [place]; rfl))
  | pops worker place job queue found =>
      refine .pops worker job _ (by rw [place]; rfl) found (fun poster => rfl) ?_
      intro other
      exact worker_job_goes pool worker other (.popped job)
  | wakesWorker worker place =>
      exact .still _ _ (still_goes pool worker _ (by rw [place]; rfl))
  | notifies worker woken job place chosen =>
      refine .still _ _ ⟨rfl, poster_job_notifyOne pool woken, ?_⟩
      exact (still_goes pool worker (.running job) (by rw [place]; rfl)).workers
  | wakesWorkers place => exact .still _ _ ⟨rfl, fun poster => rfl, fun worker => awake_job _⟩
  | wakesPosters place =>
      exact .still _ _ ⟨rfl, fun poster => awake_poster_job _, fun worker => rfl⟩
  | joins place exited => exact .still _ _ (still_same rfl rfl rfl)

end ThreadPool

end TgLoggerd

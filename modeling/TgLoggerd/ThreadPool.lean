import Mathlib.Data.Multiset.AddSub
import TgLoggerd.Threads

/-!
`ThreadPool.cpp` under any interleaving of the steps its threads take with the
mutex held, and of the notifications they send without it. Posting threads and
workers are any number; one owner calls `shutdown`, as often as it likes. The
lists from `posted` to `reported`, and the number of calls of `shutdown` that
have returned, are a record that no step reads.
-/

namespace TgLoggerd

open Function Threads

namespace ThreadPool

inductive PosterPlace (Job : Type) where
  | outside
  /-- In `post`, about to take the mutex. -/
  | posting (job : Job)
  | waiting (job : Job)
  deriving DecidableEq, Repr

inductive WorkerPlace (Job : Type) where
  /-- At the head of the loop of `run`, about to take the mutex. -/
  | looking
  | waiting
  /-- Past the mutex with a job, before `not_full_.notify_one`. -/
  | popped (job : Job)
  | running (job : Job)
  | exited
  deriving DecidableEq, Repr

inductive OwnerPlace where
  | outside
  /-- In `shutdown`, past the mutex, before `not_empty_.notify_all`. -/
  | flagged
  /-- Before `not_full_.notify_all`. -/
  | notified
  | joining
  deriving DecidableEq, Repr

inductive Move (Job Poster Worker : Type) where
  | post (poster : Poster) (job : Job)
  | enter (poster : Poster) (woken : Option Worker)
  | wakePoster (poster : Poster)
  | look (worker : Worker)
  | wakeWorker (worker : Worker)
  | notify (worker : Worker) (woken : Option Poster)
  | finish (worker : Worker) (throws : Bool)
  | shutdown
  | notifyEmpty
  | notifyFull
  | join

def PosterPlace.wakes {Job : Type} : PosterPlace Job → Option (PosterPlace Job)
  | .waiting job => some (.posting job)
  | _ => none

def PosterPlace.job {Job : Type} : PosterPlace Job → Option Job
  | .outside => none
  | .posting job => some job
  | .waiting job => some job

def WorkerPlace.wakes {Job : Type} : WorkerPlace Job → Option (WorkerPlace Job)
  | .waiting => some .looking
  | _ => none

def WorkerPlace.job {Job : Type} : WorkerPlace Job → Option Job
  | .popped job => some job
  | .running job => some job
  | _ => none

def WorkerPlace.hasExited {Job : Type} : WorkerPlace Job → Bool
  | .exited => true
  | _ => false

end ThreadPool

open ThreadPool

structure ThreadPool (Job Poster Worker : Type) where
  cap : Nat
  queue : List Job := []
  draining : Bool := false
  posters : Poster → PosterPlace Job := fun _ => .outside
  workers : Worker → WorkerPlace Job := fun _ => .looking
  owner : OwnerPlace := .outside
  posted : List Job := []
  accepted : List Job := []
  dropped : List Job := []
  taken : List Job := []
  finished : List Job := []
  reported : List Job := []
  returned : Nat := 0

namespace ThreadPool

variable {Job Poster Worker : Type}
variable [Fintype Poster] [DecidableEq Poster] [Fintype Worker] [DecidableEq Worker]

def sets (pool : ThreadPool Job Poster Worker) (poster : Poster) (place : PosterPlace Job) :
    ThreadPool Job Poster Worker :=
  { pool with posters := update pool.posters poster place }

def goes (pool : ThreadPool Job Poster Worker) (worker : Worker) (place : WorkerPlace Job) :
    ThreadPool Job Poster Worker :=
  { pool with workers := update pool.workers worker place }

/-- `post` with the mutex held. It waits while the queue is full, drops the job
once the pool is draining, and else wakes a worker for it. -/
def enter (pool : ThreadPool Job Poster Worker) (poster : Poster) (job : Job)
    (woken : Option Worker) : Option (ThreadPool Job Poster Worker) :=
  if pool.cap ≠ 0 ∧ ¬ (pool.queue.length < pool.cap ∨ pool.draining = true) then
    some (pool.sets poster (.waiting job))
  else if pool.draining then
    some ({ pool with dropped := pool.dropped ++ [job] }.sets poster .outside)
  else if Chosen WorkerPlace.wakes pool.workers woken then
    some ({ pool with
      queue := pool.queue ++ [job]
      accepted := pool.accepted ++ [job]
      workers := notifyOne WorkerPlace.wakes pool.workers woken }.sets poster .outside)
  else none

/-- The loop of `run` with the mutex held. -/
def look (pool : ThreadPool Job Poster Worker) (worker : Worker) : ThreadPool Job Poster Worker :=
  match pool.queue with
  | [] => if pool.draining then pool.goes worker .exited else pool.goes worker .waiting
  | job :: queue =>
      { pool with queue := queue, taken := pool.taken ++ [job] }.goes worker (.popped job)

/-- A step that the places of the threads allow. -/
def step (pool : ThreadPool Job Poster Worker) :
    Move Job Poster Worker → Option (ThreadPool Job Poster Worker)
  | .post poster job =>
      match pool.posters poster with
      | .outside => some ({ pool with posted := pool.posted ++ [job] }.sets poster (.posting job))
      | _ => none
  | .enter poster woken =>
      match pool.posters poster with
      | .posting job => pool.enter poster job woken
      | _ => none
  | .wakePoster poster =>
      match pool.posters poster with
      | .waiting job => some (pool.sets poster (.posting job))
      | _ => none
  | .look worker =>
      match pool.workers worker with
      | .looking => some (pool.look worker)
      | _ => none
  | .wakeWorker worker =>
      match pool.workers worker with
      | .waiting => some (pool.goes worker .looking)
      | _ => none
  | .notify worker woken =>
      match pool.workers worker with
      | .popped job =>
          if Chosen PosterPlace.wakes pool.posters woken then
            some ({ pool with
              posters := notifyOne PosterPlace.wakes pool.posters woken }.goes worker
                (.running job))
          else none
      | _ => none
  | .finish worker throws =>
      match pool.workers worker with
      | .running job =>
          some ({ pool with
            finished := pool.finished ++ [job]
            reported := if throws then pool.reported ++ [job] else pool.reported }.goes worker
              .looking)
      | _ => none
  | .shutdown =>
      if pool.owner = .outside then some { pool with draining := true, owner := .flagged } else none
  | .notifyEmpty =>
      if pool.owner = .flagged then
        some { pool with
          workers := notifyAll WorkerPlace.wakes pool.workers
          owner := .notified }
      else none
  | .notifyFull =>
      if pool.owner = .notified then
        some { pool with
          posters := notifyAll PosterPlace.wakes pool.posters
          owner := .joining }
      else none
  | .join =>
      if pool.owner = .joining ∧ ∀ worker, (pool.workers worker).hasExited then
        some { pool with owner := .outside, returned := pool.returned + 1 }
      else none

/-- What a step can do. -/
inductive Took (pool : ThreadPool Job Poster Worker) :
    Move Job Poster Worker → ThreadPool Job Poster Worker → Prop where
  | posts (poster : Poster) (job : Job) (place : pool.posters poster = .outside) :
      Took pool (.post poster job)
        ({ pool with posted := pool.posted ++ [job] }.sets poster (.posting job))
  | blocks (poster : Poster) (woken : Option Worker) (job : Job)
      (place : pool.posters poster = .posting job) (capped : pool.cap ≠ 0)
      (full : pool.cap ≤ pool.queue.length) (accepting : pool.draining = false) :
      Took pool (.enter poster woken) (pool.sets poster (.waiting job))
  | drops (poster : Poster) (woken : Option Worker) (job : Job)
      (place : pool.posters poster = .posting job) (draining : pool.draining = true) :
      Took pool (.enter poster woken)
        ({ pool with dropped := pool.dropped ++ [job] }.sets poster .outside)
  | accepts (poster : Poster) (woken : Option Worker) (job : Job)
      (place : pool.posters poster = .posting job)
      (room : pool.cap = 0 ∨ pool.queue.length < pool.cap) (accepting : pool.draining = false)
      (chosen : Chosen WorkerPlace.wakes pool.workers woken) :
      Took pool (.enter poster woken)
        ({ pool with
          queue := pool.queue ++ [job]
          accepted := pool.accepted ++ [job]
          workers := notifyOne WorkerPlace.wakes pool.workers woken }.sets poster .outside)
  | wakesPoster (poster : Poster) (job : Job) (place : pool.posters poster = .waiting job) :
      Took pool (.wakePoster poster) (pool.sets poster (.posting job))
  | exits (worker : Worker) (place : pool.workers worker = .looking) (none : pool.queue = [])
      (draining : pool.draining = true) : Took pool (.look worker) (pool.goes worker .exited)
  | waits (worker : Worker) (place : pool.workers worker = .looking) (none : pool.queue = [])
      (accepting : pool.draining = false) : Took pool (.look worker) (pool.goes worker .waiting)
  | pops (worker : Worker) (place : pool.workers worker = .looking) (job : Job)
      (queue : List Job) (found : pool.queue = job :: queue) :
      Took pool (.look worker)
        ({ pool with queue := queue, taken := pool.taken ++ [job] }.goes worker (.popped job))
  | wakesWorker (worker : Worker) (place : pool.workers worker = .waiting) :
      Took pool (.wakeWorker worker) (pool.goes worker .looking)
  | notifies (worker : Worker) (woken : Option Poster) (job : Job)
      (place : pool.workers worker = .popped job)
      (chosen : Chosen PosterPlace.wakes pool.posters woken) :
      Took pool (.notify worker woken)
        ({ pool with posters := notifyOne PosterPlace.wakes pool.posters woken }.goes worker
          (.running job))
  | finishes (worker : Worker) (throws : Bool) (job : Job)
      (place : pool.workers worker = .running job) :
      Took pool (.finish worker throws)
        ({ pool with
          finished := pool.finished ++ [job]
          reported := if throws then pool.reported ++ [job] else pool.reported }.goes worker
            .looking)
  | flags (place : pool.owner = .outside) :
      Took pool .shutdown { pool with draining := true, owner := .flagged }
  | wakesWorkers (place : pool.owner = .flagged) :
      Took pool .notifyEmpty
        { pool with workers := notifyAll WorkerPlace.wakes pool.workers, owner := .notified }
  | wakesPosters (place : pool.owner = .notified) :
      Took pool .notifyFull
        { pool with posters := notifyAll PosterPlace.wakes pool.posters, owner := .joining }
  | joins (place : pool.owner = .joining)
      (exited : ∀ worker, (pool.workers worker).hasExited = true) :
      Took pool .join { pool with owner := .outside, returned := pool.returned + 1 }

theorem took_step (pool next : ThreadPool Job Poster Worker) (move : Move Job Poster Worker)
    (taken : pool.step move = some next) : Took pool move next := by
  cases move with
  | post poster job =>
      simp only [step] at taken
      split at taken
      · next place =>
        cases taken
        exact .posts poster job place
      · cases taken
  | enter poster woken =>
      simp only [step] at taken
      split at taken
      · next job place =>
        simp only [enter] at taken
        split at taken
        · next full =>
          cases taken
          obtain ⟨longer, accepting⟩ := not_or.mp full.2
          exact .blocks poster woken job place full.1 (Nat.le_of_not_lt longer)
            (Bool.not_eq_true _ ▸ accepting)
        · next room =>
          split at taken
          · next draining =>
            cases taken
            exact .drops poster woken job place draining
          · next accepting =>
            obtain ⟨chosen, same⟩ := Option.ite_none_right_eq_some.mp taken
            cases same
            refine .accepts poster woken job place ?_ (Bool.not_eq_true _ ▸ accepting) chosen
            by_cases unbounded : pool.cap = 0
            · exact Or.inl unbounded
            · have fits := not_not.mp (not_and.mp room unbounded)
              exact Or.inr (fits.resolve_right accepting)
      · cases taken
  | wakePoster poster =>
      simp only [step] at taken
      split at taken
      · next job place =>
        cases taken
        exact .wakesPoster poster job place
      · cases taken
  | look worker =>
      simp only [step] at taken
      split at taken
      · next place =>
        cases taken
        simp only [look]
        split
        · next none =>
          split
          · next draining => exact .exits worker place none draining
          · next accepting => exact .waits worker place none (Bool.not_eq_true _ ▸ accepting)
        · next job queue found => exact .pops worker place job queue found
      · cases taken
  | wakeWorker worker =>
      simp only [step] at taken
      split at taken
      · next place =>
        cases taken
        exact .wakesWorker worker place
      · cases taken
  | notify worker woken =>
      simp only [step] at taken
      split at taken
      · next job place =>
        obtain ⟨chosen, same⟩ := Option.ite_none_right_eq_some.mp taken
        cases same
        exact .notifies worker woken job place chosen
      · cases taken
  | finish worker throws =>
      simp only [step] at taken
      split at taken
      · next job place =>
        cases taken
        exact .finishes worker throws job place
      · cases taken
  | shutdown =>
      obtain ⟨place, same⟩ := Option.ite_none_right_eq_some.mp taken
      cases same
      exact .flags place
  | notifyEmpty =>
      obtain ⟨place, same⟩ := Option.ite_none_right_eq_some.mp taken
      cases same
      exact .wakesWorkers place
  | notifyFull =>
      obtain ⟨place, same⟩ := Option.ite_none_right_eq_some.mp taken
      cases same
      exact .wakesPosters place
  | join =>
      obtain ⟨⟨place, exited⟩, same⟩ := Option.ite_none_right_eq_some.mp taken
      cases same
      exact .joins place exited

/-- Steps that the pool takes by itself, and not at the call of a poster, of the
owner or of a job that ends. -/
def Move.free : Move Job Poster Worker → Bool
  | .enter _ _ | .wakePoster _ | .look _ | .wakeWorker _ | .notify _ _ => true
  | .notifyEmpty | .notifyFull | .join => true
  | .post _ _ | .finish _ _ | .shutdown => false

/-- What such a step leaves to its callers. -/
structure Free (pool next : ThreadPool Job Poster Worker) : Prop where
  posted : next.posted = pool.posted
  draining : next.draining = pool.draining
  running : ∀ worker job, pool.workers worker = .running job → next.workers worker = .running job
  resting : ∀ poster, pool.posters poster = .outside → next.posters poster = .outside
  carried : ∀ poster job, (pool.posters poster).job = some job →
    (next.posters poster).job = some job ∨ job ∈ next.accepted ∨ pool.draining = true
  accepted : next.accepted = pool.accepted ∨
    ∃ poster job, (pool.posters poster).job = some job ∧ next.accepted = pool.accepted ++ [job]
  dropped : next.dropped = pool.dropped ∨
    pool.draining = true ∧ ∃ poster, pool.posters poster ≠ .outside
  owner : pool.owner = .outside → next.owner = .outside
  returned : pool.returned ≤ next.returned
  joined : pool.owner ≠ .outside → next.owner = .outside → 0 < next.returned

section

variable (pool : ThreadPool Job Poster Worker)

omit [Fintype Poster] [DecidableEq Poster] [Fintype Worker] in
theorem running_notifyOne (woken : Option Worker) (worker : Worker) (job : Job)
    (running : pool.workers worker = .running job) :
    notifyOne WorkerPlace.wakes pool.workers woken worker = .running job := by
  rw [← running]
  exact notifyOne_of_not_waits WorkerPlace.wakes pool.workers woken worker
    (by rw [running]; simp [Waits, WorkerPlace.wakes])

omit [Fintype Poster] [DecidableEq Poster] [Fintype Worker] in
theorem running_goes (worker other : Worker) (place : WorkerPlace Job) (job : Job)
    (idle : pool.workers worker ≠ .running job)
    (running : pool.workers other = .running job) :
    update pool.workers worker place other = .running job := by
  rw [update_of_ne ?_, running]
  rintro rfl
  exact idle running

omit [Fintype Poster] [Fintype Worker] [DecidableEq Worker] in
theorem outside_notifyOne (woken : Option Poster) (poster : Poster)
    (resting : pool.posters poster = .outside) :
    notifyOne PosterPlace.wakes pool.posters woken poster = .outside := by
  rw [← resting]
  exact notifyOne_of_not_waits PosterPlace.wakes pool.posters woken poster
    (by rw [resting]; simp [Waits, PosterPlace.wakes])

theorem awake_poster_job (place : PosterPlace Job) :
    (awake PosterPlace.wakes place).job = place.job := by
  cases place <;> rfl

omit [Fintype Poster] [Fintype Worker] in
theorem free_took (next : ThreadPool Job Poster Worker) (move : Move Job Poster Worker)
    (free : move.free = true) (took : Took pool move next) : Free pool next := by
  have keeps (poster : Poster) (job : Job) (held : (pool.posters poster).job = some job) :
      (pool.posters poster).job = some job ∨ job ∈ pool.accepted ∨ pool.draining = true :=
    Or.inl held
  -- A poster that stays in `post` keeps its job, and the others are not concerned.
  have sits (poster : Poster) (place : PosterPlace Job)
      (same : place.job = (pool.posters poster).job) (other : Poster) (job : Job)
      (held : (pool.posters other).job = some job) :
      (update pool.posters poster place other).job = some job := by
    rw [update_apply]
    split
    · next own => rw [same, ← own, held]
    · exact held
  have rests (poster : Poster) (place : PosterPlace Job) (busy : pool.posters poster ≠ .outside)
      (other : Poster) (resting : pool.posters other = .outside) :
      update pool.posters poster place other = .outside := by
    rw [update_of_ne ?_, resting]
    rintro rfl
    exact busy resting
  cases took with
  | posts poster job place => cases free
  | finishes worker throws job place => cases free
  | flags place => cases free
  | blocks poster woken job place capped full accepting =>
      exact ⟨rfl, rfl, fun _ _ running => running, rests poster _ (by rw [place]; simp),
        fun other job held => Or.inl (sits poster _ (by rw [place]; rfl) other job held),
        Or.inl rfl, Or.inl rfl, id, le_rfl,
        fun busy rest => absurd rest busy⟩
  | drops poster woken job place draining =>
      exact ⟨rfl, rfl, fun _ _ running => running, rests poster _ (by rw [place]; simp),
        fun other job held => Or.inr (Or.inr draining), Or.inl rfl,
        Or.inr ⟨draining, poster, by rw [place]; simp⟩, id, le_rfl,
        fun busy rest => absurd rest busy⟩
  | accepts poster woken job place room accepting chosen =>
      refine ⟨rfl, rfl, running_notifyOne pool woken, rests poster _ (by rw [place]; simp), ?_,
        Or.inr ⟨poster, job, by rw [place]; rfl, rfl⟩, Or.inl rfl, id, le_rfl,
        fun busy rest => absurd rest busy⟩
      intro other own held
      by_cases same : other = poster
      · rw [same, place] at held
        cases held
        exact Or.inr (Or.inl (by simp [sets]))
      · left
        simp only [sets, update_of_ne same]
        exact held
  | wakesPoster poster job place =>
      exact ⟨rfl, rfl, fun _ _ running => running, rests poster _ (by rw [place]; simp),
        fun other job held => Or.inl (sits poster _ (by rw [place]; rfl) other job held),
        Or.inl rfl, Or.inl rfl, id, le_rfl,
        fun busy rest => absurd rest busy⟩
  | exits worker place none draining =>
      exact ⟨rfl, rfl, fun other job => running_goes pool worker other _ job (by rw [place]; simp),
        fun _ resting => resting, keeps, Or.inl rfl, Or.inl rfl, id, le_rfl,
        fun busy rest => absurd rest busy⟩
  | waits worker place none accepting =>
      exact ⟨rfl, rfl, fun other job => running_goes pool worker other _ job (by rw [place]; simp),
        fun _ resting => resting, keeps, Or.inl rfl, Or.inl rfl, id, le_rfl,
        fun busy rest => absurd rest busy⟩
  | pops worker place job queue found =>
      exact ⟨rfl, rfl, fun other job => running_goes pool worker other _ job (by rw [place]; simp),
        fun _ resting => resting, keeps, Or.inl rfl, Or.inl rfl, id, le_rfl,
        fun busy rest => absurd rest busy⟩
  | wakesWorker worker place =>
      exact ⟨rfl, rfl, fun other job => running_goes pool worker other _ job (by rw [place]; simp),
        fun _ resting => resting, keeps, Or.inl rfl, Or.inl rfl, id, le_rfl,
        fun busy rest => absurd rest busy⟩
  | notifies worker woken job place chosen =>
      refine ⟨rfl, rfl,
        fun other job => running_goes pool worker other _ job (by rw [place]; simp),
        outside_notifyOne pool woken, ?_, Or.inl rfl, Or.inl rfl, id, le_rfl,
        fun busy rest => absurd rest busy⟩
      intro other own held
      left
      simp only [goes]
      rcases notifyOne_apply PosterPlace.wakes pool.posters woken other with kept | woke
      · rw [kept, held]
      · rw [woke, awake_poster_job, held]
  | wakesWorkers place =>
      refine ⟨rfl, rfl, ?_, fun _ resting => resting, keeps, Or.inl rfl, Or.inl rfl, ?_,
        le_rfl, ?_⟩
      · intro worker job running
        simp [notifyAll, awake, running, WorkerPlace.wakes]
      · intro rest
        rw [place] at rest
        cases rest
      · intro _ rest
        cases rest
  | wakesPosters place =>
      refine ⟨rfl, rfl, fun _ _ running => running, ?_, ?_, Or.inl rfl, Or.inl rfl, ?_,
        le_rfl, ?_⟩
      · intro poster resting
        simp [notifyAll, awake, resting, PosterPlace.wakes]
      · intro poster job held
        left
        simp only [notifyAll]
        rw [awake_poster_job, held]
      · intro rest
        rw [place] at rest
        cases rest
      · intro _ rest
        cases rest
  | joins place exited =>
      exact ⟨rfl, rfl, fun _ _ running => running, fun _ resting => resting, keeps, Or.inl rfl,
        Or.inl rfl, fun _ => rfl, Nat.le_succ _, fun _ _ => Nat.succ_pos _⟩

end

end ThreadPool

end TgLoggerd

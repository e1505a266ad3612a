import TgLoggerd.SerialRun
import TgLoggerd.ThreadPool

/-!
What the pool promises, whichever way its threads interleave: which jobs run, how
often and in which order, and that a thread waits only while another one is on its
way to serve it.
-/

namespace TgLoggerd.ThreadPool

open Function SerialRun Threads

variable {Job Poster Worker : Type}
variable [Fintype Poster] [DecidableEq Poster] [Fintype Worker] [DecidableEq Worker]

/-! The places that a condition variable accounts for, and the jobs at a place. -/

def posting : PosterPlace Job → Nat
  | .posting _ => 1
  | _ => 0

def looking : WorkerPlace Job → Nat
  | .looking => 1
  | _ => 0

/-- Workers that still owe a notification of the room they made. -/
def popped : WorkerPlace Job → Nat
  | .popped _ => 1
  | _ => 0

def PosterPlace.jobs (place : PosterPlace Job) : Multiset Job := place.job.toList

def WorkerPlace.jobs (place : WorkerPlace Job) : Multiset Job := place.job.toList

abbrev PosterWaits (pool : ThreadPool Job Poster Worker) (poster : Poster) : Prop :=
  Waits PosterPlace.wakes (pool.posters poster)

abbrev WorkerWaits (pool : ThreadPool Job Poster Worker) (worker : Worker) : Prop :=
  Waits WorkerPlace.wakes (pool.workers worker)

theorem poster_wakes (place next : PosterPlace Job) (waiting : place.wakes = some next) :
    ∃ job, place = .waiting job ∧ next = .posting job := by
  cases place with
  | waiting job =>
      cases waiting
      exact ⟨job, rfl, rfl⟩
  | _ => cases waiting

theorem worker_wakes (place next : WorkerPlace Job) (waiting : place.wakes = some next) :
    place = .waiting ∧ next = .looking := by
  cases place with
  | waiting =>
      cases waiting
      exact ⟨rfl, rfl⟩
  | _ => cases waiting

theorem counts_posting : Counts PosterPlace.wakes (posting : PosterPlace Job → Nat) := by
  intro place next waiting
  obtain ⟨job, rfl, rfl⟩ := poster_wakes place next waiting
  exact ⟨rfl, rfl⟩

theorem counts_looking : Counts WorkerPlace.wakes (looking : WorkerPlace Job → Nat) := by
  intro place next waiting
  obtain ⟨rfl, rfl⟩ := worker_wakes place next waiting
  exact ⟨rfl, rfl⟩

@[simp]
theorem awake_popped (place : WorkerPlace Job) :
    popped (awake WorkerPlace.wakes place) = popped place := by
  cases place <;> rfl

@[simp]
theorem awake_poster_jobs (place : PosterPlace Job) :
    (awake PosterPlace.wakes place).jobs = place.jobs := by
  cases place <;> rfl

@[simp]
theorem awake_job (place : WorkerPlace Job) : (awake WorkerPlace.wakes place).job = place.job := by
  cases place <;> rfl

@[simp]
theorem awake_jobs (place : WorkerPlace Job) :
    (awake WorkerPlace.wakes place).jobs = place.jobs := by
  rw [WorkerPlace.jobs, awake_job, WorkerPlace.jobs]

@[simp]
theorem awake_hasExited (place : WorkerPlace Job) :
    (awake WorkerPlace.wakes place).hasExited = place.hasExited := by
  cases place <;> rfl

theorem poster_awake (place : PosterPlace Job) :
    ¬ Waits PosterPlace.wakes (awake PosterPlace.wakes place) := by
  cases place <;> simp [Waits, awake, PosterPlace.wakes]

theorem worker_awake (place : WorkerPlace Job) :
    ¬ Waits WorkerPlace.wakes (awake WorkerPlace.wakes place) := by
  cases place <;> simp [Waits, awake, WorkerPlace.wakes]

/-- What becomes of the jobs. -/
structure Ledger (pool : ThreadPool Job Poster Worker) : Prop where
  kept : (pool.posted : Multiset Job) =
    pool.accepted + pool.dropped + total PosterPlace.jobs pool.posters
  ordered : pool.accepted = pool.taken ++ pool.queue
  handled : (pool.taken : Multiset Job) = pool.finished + total WorkerPlace.jobs pool.workers
  bounded : pool.cap ≠ 0 → pool.queue.length ≤ pool.cap

theorem coe_snoc (jobs : List Job) (job : Job) :
    ((jobs ++ [job] : List Job) : Multiset Job) = jobs + {job} := by
  rw [← Multiset.coe_add, Multiset.coe_singleton]

section

variable (pool : ThreadPool Job Poster Worker)

theorem ledger_took (next : ThreadPool Job Poster Worker) (ledger : Ledger pool)
    (move : Move Job Poster Worker) (took : Took pool move next) : Ledger next := by
  obtain ⟨kept, ordered, handled, bounded⟩ := ledger
  have posterMoves (poster : Poster) (place : PosterPlace Job)
      (posted passed : Multiset Job) (balance : posted + (pool.accepted + pool.dropped) +
        (pool.posters poster).jobs = pool.posted + passed + place.jobs) :=
    stock_move PosterPlace.jobs pool.posters poster place _ _ posted passed kept balance
  have workerMoves (worker : Worker) (place : WorkerPlace Job)
      (taken finished : Multiset Job) (balance : taken + pool.finished +
        (pool.workers worker).jobs = pool.taken + finished + place.jobs) :=
    stock_move WorkerPlace.jobs pool.workers worker place _ _ taken finished handled balance
  cases took with
  | posts poster job place =>
      refine ⟨posterMoves poster _ _ _ ?_, ordered, handled, bounded⟩
      simp only [sets, place, coe_snoc, PosterPlace.jobs, PosterPlace.job, Option.toList,
        Multiset.coe_nil, Multiset.coe_singleton]
      abel
  | blocks poster woken job place capped full accepting =>
      refine ⟨posterMoves poster _ _ _ ?_, ordered, handled, bounded⟩
      simp only [sets, place, PosterPlace.jobs, PosterPlace.job]
  | drops poster woken job place draining =>
      refine ⟨posterMoves poster _ _ _ ?_, ordered, handled, bounded⟩
      simp only [sets, place, coe_snoc, PosterPlace.jobs, PosterPlace.job, Option.toList,
        Multiset.coe_nil, Multiset.coe_singleton]
      abel
  | accepts poster woken job place room accepting chosen =>
      refine ⟨posterMoves poster _ _ _ ?_, ?_, ?_, ?_⟩
      · simp only [sets, place, coe_snoc, PosterPlace.jobs, PosterPlace.job, Option.toList,
        Multiset.coe_nil, Multiset.coe_singleton]
        abel
      · simp [sets, ordered]
      · simp only [sets]
        rw [handled, total_notifyOne WorkerPlace.wakes pool.workers WorkerPlace.jobs awake_jobs]
      · intro capped
        have fits := room.resolve_left capped
        simp only [sets, List.length_append, List.length_singleton]
        omega
  | wakesPoster poster job place =>
      refine ⟨posterMoves poster _ _ _ ?_, ordered, handled, bounded⟩
      simp only [sets, place, PosterPlace.jobs, PosterPlace.job]
  | exits worker place none draining =>
      exact ⟨kept, ordered, workerMoves worker _ _ _ (by rw [place]; rfl), bounded⟩
  | waits worker place none accepting =>
      exact ⟨kept, ordered, workerMoves worker _ _ _ (by rw [place]; rfl), bounded⟩
  | pops worker place job queue found =>
      refine ⟨kept, ?_, workerMoves worker _ _ _ ?_, ?_⟩
      · simp [goes, ordered, found]
      · simp only [goes, place, coe_snoc, WorkerPlace.jobs, WorkerPlace.job, Option.toList,
          Multiset.coe_nil, Multiset.coe_singleton]
        abel
      · intro capped
        have before := bounded capped
        rw [found, List.length_cons] at before
        exact Nat.le_of_succ_le before
  | wakesWorker worker place =>
      exact ⟨kept, ordered, workerMoves worker _ _ _ (by rw [place]; rfl), bounded⟩
  | notifies worker woken job place chosen =>
      refine ⟨?_, ordered, workerMoves worker _ _ _ (by rw [place]; rfl), bounded⟩
      simp only [goes]
      rw [kept, total_notifyOne PosterPlace.wakes pool.posters PosterPlace.jobs awake_poster_jobs]
  | finishes worker throws job place =>
      refine ⟨kept, ordered, workerMoves worker _ _ _ ?_, bounded⟩
      simp only [goes, place, coe_snoc, WorkerPlace.jobs, WorkerPlace.job, Option.toList,
        Multiset.coe_nil, Multiset.coe_singleton]
      abel
  | flags place => exact ⟨kept, ordered, handled, bounded⟩
  | wakesWorkers place =>
      refine ⟨kept, ordered, ?_, bounded⟩
      simp only
      rw [handled, total_notifyAll WorkerPlace.wakes pool.workers WorkerPlace.jobs awake_jobs]
  | wakesPosters place =>
      refine ⟨?_, ordered, handled, bounded⟩
      simp only
      rw [kept, total_notifyAll PosterPlace.wakes pool.posters PosterPlace.jobs awake_poster_jobs]
  | joins place exited => exact ⟨kept, ordered, handled, bounded⟩

end

section

variable (pool : ThreadPool Job Poster Worker)

omit [DecidableEq Poster] [DecidableEq Worker] in
theorem posted_of_accepted (ledger : Ledger pool) (job : Job) (member : job ∈ pool.accepted) :
    job ∈ pool.posted := by
  rw [← Multiset.mem_coe, ledger.kept, Multiset.mem_add, Multiset.mem_add]
  exact Or.inl (Or.inl member)

omit [DecidableEq Poster] [DecidableEq Worker] in
theorem posted_of_held (ledger : Ledger pool) (poster : Poster) (job : Job)
    (held : (pool.posters poster).job = some job) : job ∈ pool.posted := by
  rw [← Multiset.mem_coe, ledger.kept, Multiset.mem_add]
  right
  refine Multiset.mem_sum.mpr ⟨poster, Finset.mem_univ poster, ?_⟩
  simp [PosterPlace.jobs, held]

omit [DecidableEq Poster] [DecidableEq Worker] in
theorem posted_of_running (ledger : Ledger pool) (worker : Worker) (job : Job)
    (running : pool.workers worker = .running job) : job ∈ pool.posted := by
  apply posted_of_accepted pool ledger
  rw [ledger.ordered, List.mem_append]
  left
  rw [← Multiset.mem_coe, ledger.handled, Multiset.mem_add]
  right
  refine Multiset.mem_sum.mpr ⟨worker, Finset.mem_univ worker, ?_⟩
  simp [WorkerPlace.jobs, WorkerPlace.job, running]

end

omit [Fintype Worker] in
theorem hasExited_update (workers : Worker → WorkerPlace Job) (worker other : Worker)
    (place : WorkerPlace Job) (goesOn : place.hasExited = false)
    (exited : (update workers worker place other).hasExited = true) :
    (workers other).hasExited = true := by
  rw [update_apply] at exited
  split at exited
  · rw [goesOn] at exited
    cases exited
  · exact exited

omit [Fintype Worker] in
theorem hasExited_notifyOne (workers : Worker → WorkerPlace Job) (woken : Option Worker)
    (worker : Worker) :
    (notifyOne WorkerPlace.wakes workers woken worker).hasExited = (workers worker).hasExited := by
  rcases notifyOne_apply WorkerPlace.wakes workers woken worker with kept | woke
  · rw [kept]
  · rw [woke, awake_hasExited]

/-- Workers leave for good, and only a drained pool. -/
structure Closing (pool : ThreadPool Job Poster Worker) : Prop where
  drained : ∀ worker, (pool.workers worker).hasExited = true →
    pool.draining = true ∧ pool.queue = []
  flagged : pool.owner ≠ .outside → pool.draining = true
  returned : 0 < pool.returned → ∀ worker, (pool.workers worker).hasExited = true

section

variable (pool : ThreadPool Job Poster Worker)

omit [Fintype Poster] [DecidableEq Poster] [Fintype Worker] in
theorem closing_goes (next : ThreadPool Job Poster Worker) (worker : Worker)
    (place : WorkerPlace Job) (closing : Closing pool)
    (stays : (pool.workers worker).hasExited = false) (goesOn : place.hasExited = false)
    (workers : next.workers = update pool.workers worker place)
    (draining : next.draining = pool.draining) (queue : pool.queue = [] → next.queue = [])
    (owner : next.owner = pool.owner) (returned : next.returned = pool.returned) :
    Closing next := by
  refine ⟨?_, ?_, ?_⟩
  · intro other exited
    rw [workers] at exited
    obtain ⟨flag, none⟩ :=
      closing.drained other (hasExited_update pool.workers worker other place goesOn exited)
    exact ⟨draining ▸ flag, queue none⟩
  · rw [owner, draining]
    exact closing.flagged
  · rw [returned]
    intro some
    rw [closing.returned some worker] at stays
    cases stays

omit [Fintype Poster] [Fintype Worker] in
theorem closing_took (next : ThreadPool Job Poster Worker) (closing : Closing pool)
    (move : Move Job Poster Worker) (took : Took pool move next) : Closing next := by
  obtain ⟨drained, flagged, returned⟩ := closing
  cases took with
  | posts poster job place => exact ⟨drained, flagged, returned⟩
  | blocks poster woken job place capped full accepting => exact ⟨drained, flagged, returned⟩
  | drops poster woken job place draining => exact ⟨drained, flagged, returned⟩
  | accepts poster woken job place room accepting chosen =>
      refine ⟨?_, flagged, ?_⟩
      · intro worker exited
        rw [sets, hasExited_notifyOne] at exited
        rw [(drained worker exited).1] at accepting
        cases accepting
      · intro some worker
        rw [sets, hasExited_notifyOne]
        exact returned some worker
  | wakesPoster poster job place => exact ⟨drained, flagged, returned⟩
  | exits worker place none draining =>
      refine ⟨fun other exited => ⟨draining, none⟩, flagged, ?_⟩
      intro some other
      simp only [goes, update_apply]
      split
      · rfl
      · exact returned some other
  | waits worker place none accepting =>
      exact closing_goes pool _ worker .waiting ⟨drained, flagged, returned⟩
        (by rw [place]; rfl) rfl rfl rfl id rfl rfl
  | pops worker place job queue found =>
      refine closing_goes pool _ worker (.popped job) ⟨drained, flagged, returned⟩
        (by rw [place]; rfl) rfl rfl rfl ?_ rfl rfl
      intro none
      rw [none] at found
      cases found
  | wakesWorker worker place =>
      exact closing_goes pool _ worker .looking ⟨drained, flagged, returned⟩
        (by rw [place]; rfl) rfl rfl rfl id rfl rfl
  | notifies worker woken job place chosen =>
      exact closing_goes pool _ worker (.running job) ⟨drained, flagged, returned⟩
        (by rw [place]; rfl) rfl rfl rfl id rfl rfl
  | finishes worker throws job place =>
      exact closing_goes pool _ worker .looking ⟨drained, flagged, returned⟩
        (by rw [place]; rfl) rfl rfl rfl id rfl rfl
  | flags place =>
      exact ⟨fun worker exited => ⟨rfl, (drained worker exited).2⟩, fun _ => rfl, returned⟩
  | wakesWorkers place =>
      have draining : pool.draining = true := flagged (by rw [place]; decide)
      refine ⟨?_, fun _ => draining, ?_⟩
      · intro worker exited
        simp only [notifyAll, awake_hasExited] at exited
        exact drained worker exited
      · intro some worker
        simp only [notifyAll, awake_hasExited]
        exact returned some worker
  | wakesPosters place =>
      exact ⟨drained, fun _ => flagged (by rw [place]; decide), returned⟩
  | joins place exited =>
      exact ⟨drained, fun _ => flagged (by rw [place]; decide), fun _ => exited⟩

end

/-- A poster waits only while threads are on their way for all the room there
is, or `shutdown` is still to wake it. -/
structure PostersServed (pool : ThreadPool Job Poster Worker) : Prop where
  capped : ∀ poster, PosterWaits pool poster → pool.cap ≠ 0
  full : ∀ poster, PosterWaits pool poster → pool.draining = false →
    pool.cap ≤ pool.queue.length + total posting pool.posters + total popped pool.workers
  cut : ∀ poster, PosterWaits pool poster → pool.draining = true →
    pool.owner = .flagged ∨ pool.owner = .notified

/-- A worker waits only while a worker is on its way for every queued job, or
`shutdown` is still to wake it. -/
structure WorkersServed (pool : ThreadPool Job Poster Worker) : Prop where
  looked : ∀ worker, WorkerWaits pool worker → pool.draining = false →
    pool.queue.length ≤ total looking pool.workers
  called : ∀ worker, WorkerWaits pool worker → pool.draining = true → pool.owner = .flagged

section

variable (pool : ThreadPool Job Poster Worker)

theorem postersServed_took (next : ThreadPool Job Poster Worker) (served : PostersServed pool)
    (move : Move Job Poster Worker) (took : Took pool move next) : PostersServed next := by
  obtain ⟨capped, full, cut⟩ := served
  have waited (poster other : Poster) (place : PosterPlace Job) (busy : place.wakes = none) :=
    waits_of_update PosterPlace.wakes pool.posters poster other place busy
  cases took with
  | posts poster job place =>
      have posts := total_move posting pool.posters poster (.posting job)
      rw [place] at posts
      simp only [posting] at posts
      refine ⟨fun other waits => capped other (waited poster other _ rfl waits), ?_,
        fun other waits => cut other (waited poster other _ rfl waits)⟩
      intro other waits accepting
      have before := full other (waited poster other _ rfl waits) accepting
      simp only [sets]
      omega
  | blocks poster woken job place bound full accepting =>
      refine ⟨fun _ _ => bound, ?_, ?_⟩
      · intro other waits still
        simp only [sets]
        omega
      · intro other waits draining
        rw [sets, accepting] at draining
        cases draining
  | drops poster woken job place draining =>
      refine ⟨fun other waits => capped other (waited poster other _ rfl waits), ?_,
        fun other waits => cut other (waited poster other _ rfl waits)⟩
      intro other waits accepting
      rw [sets, draining] at accepting
      cases accepting
  | accepts poster woken job place room accepting chosen =>
      have posts := total_move posting pool.posters poster .outside
      rw [place] at posts
      simp only [posting] at posts
      refine ⟨fun other waits => capped other (waited poster other _ rfl waits), ?_,
        fun other waits => cut other (waited poster other _ rfl waits)⟩
      intro other waits still
      have before := full other (waited poster other _ rfl waits) accepting
      simp only [sets, List.length_append, List.length_singleton]
      rw [total_notifyOne WorkerPlace.wakes pool.workers popped awake_popped]
      omega
  | wakesPoster poster job place =>
      have posts := total_move posting pool.posters poster (.posting job)
      rw [place] at posts
      simp only [posting] at posts
      refine ⟨fun other waits => capped other (waited poster other _ rfl waits), ?_,
        fun other waits => cut other (waited poster other _ rfl waits)⟩
      intro other waits accepting
      have before := full other (waited poster other _ rfl waits) accepting
      simp only [sets]
      omega
  | exits worker place none draining =>
      refine ⟨capped, ?_, cut⟩
      intro other waits accepting
      rw [goes, draining] at accepting
      cases accepting
  | waits worker place none accepting =>
      have pops := total_move popped pool.workers worker .waiting
      rw [place] at pops
      simp only [popped] at pops
      refine ⟨capped, ?_, cut⟩
      intro other waits still
      have before := full other waits still
      simp only [goes]
      omega
  | pops worker place job queue found =>
      have pops := total_move popped pool.workers worker (.popped job)
      rw [place] at pops
      simp only [popped] at pops
      refine ⟨capped, ?_, cut⟩
      intro other waits still
      have before := full other waits still
      rw [found, List.length_cons] at before
      simp only [goes]
      omega
  | wakesWorker worker place =>
      have pops := total_move popped pool.workers worker .looking
      rw [place] at pops
      simp only [popped] at pops
      refine ⟨capped, ?_, cut⟩
      intro other waits still
      have before := full other waits still
      simp only [goes]
      omega
  | notifies worker woken job place chosen =>
      have pops := total_move popped pool.workers worker (.running job)
      rw [place] at pops
      simp only [popped] at pops
      have waitedBefore (other : Poster) :=
        waits_of_notifyOne PosterPlace.wakes pool.posters woken other
      refine ⟨fun other waits => capped other (waitedBefore other waits), ?_,
        fun other waits => cut other (waitedBefore other waits)⟩
      intro other waits still
      have before := full other (waitedBefore other waits) still
      rcases active_notifyOne PosterPlace.wakes pool.posters posting counts_posting woken chosen
        with ⟨_, none⟩ | more
      · exact absurd waits (none other)
      · simp only [goes]
        omega
  | finishes worker throws job place =>
      have pops := total_move popped pool.workers worker .looking
      rw [place] at pops
      simp only [popped] at pops
      refine ⟨capped, ?_, cut⟩
      intro other waits still
      have before := full other waits still
      simp only [goes]
      omega
  | flags place =>
      refine ⟨capped, ?_, fun other waits _ => Or.inl rfl⟩
      intro other waits accepting
      cases accepting
  | wakesWorkers place =>
      refine ⟨capped, ?_, fun other waits _ => Or.inr rfl⟩
      intro other waits accepting
      have before := full other waits accepting
      simp only
      rw [total_notifyAll WorkerPlace.wakes pool.workers popped awake_popped]
      exact before
  | wakesPosters place =>
      exact ⟨fun other waits => absurd waits (poster_awake _),
        fun other waits => absurd waits (poster_awake _),
        fun other waits => absurd waits (poster_awake _)⟩
  | joins place exited =>
      refine ⟨capped, full, ?_⟩
      intro other waits draining
      rcases cut other waits draining with before | before <;> rw [place] at before <;> cases before

omit [Fintype Poster] in
theorem workersServed_took (next : ThreadPool Job Poster Worker) (served : WorkersServed pool)
    (move : Move Job Poster Worker) (took : Took pool move next) : WorkersServed next := by
  obtain ⟨looked, called⟩ := served
  have waited (worker other : Worker) (place : WorkerPlace Job) (busy : place.wakes = none) :=
    waits_of_update WorkerPlace.wakes pool.workers worker other place busy
  cases took with
  | posts poster job place => exact ⟨looked, called⟩
  | blocks poster woken job place capped full accepting => exact ⟨looked, called⟩
  | drops poster woken job place draining => exact ⟨looked, called⟩
  | accepts poster woken job place room accepting chosen =>
      have waitedBefore (other : Worker) :=
        waits_of_notifyOne WorkerPlace.wakes pool.workers woken other
      refine ⟨?_, fun other waits => called other (waitedBefore other waits)⟩
      intro other waits still
      have before := looked other (waitedBefore other waits) still
      rcases active_notifyOne WorkerPlace.wakes pool.workers looking counts_looking woken chosen
        with ⟨_, none⟩ | more
      · exact absurd waits (none other)
      · simp only [sets, List.length_append, List.length_singleton]
        omega
  | wakesPoster poster job place => exact ⟨looked, called⟩
  | exits worker place none draining =>
      refine ⟨?_, fun other waits => called other (waited worker other _ rfl waits)⟩
      intro other waits accepting
      rw [goes, draining] at accepting
      cases accepting
  | waits worker place none accepting =>
      refine ⟨?_, ?_⟩
      · intro other waits still
        simp [goes, none]
      · intro other waits draining
        rw [goes, accepting] at draining
        cases draining
  | pops worker place job queue found =>
      have looks := total_move looking pool.workers worker (.popped job)
      rw [place] at looks
      simp only [looking] at looks
      refine ⟨?_, fun other waits => called other (waited worker other _ rfl waits)⟩
      intro other waits still
      have before := looked other (waited worker other _ rfl waits) still
      rw [found, List.length_cons] at before
      simp only [goes]
      omega
  | wakesWorker worker place =>
      have looks := total_move looking pool.workers worker .looking
      rw [place] at looks
      simp only [looking] at looks
      refine ⟨?_, fun other waits => called other (waited worker other _ rfl waits)⟩
      intro other waits still
      have before := looked other (waited worker other _ rfl waits) still
      simp only [goes]
      omega
  | notifies worker woken job place chosen =>
      have looks := total_move looking pool.workers worker (.running job)
      rw [place] at looks
      simp only [looking] at looks
      refine ⟨?_, fun other waits => called other (waited worker other _ rfl waits)⟩
      intro other waits still
      have before := looked other (waited worker other _ rfl waits) still
      simp only [goes]
      omega
  | finishes worker throws job place =>
      have looks := total_move looking pool.workers worker .looking
      rw [place] at looks
      simp only [looking] at looks
      refine ⟨?_, fun other waits => called other (waited worker other _ rfl waits)⟩
      intro other waits still
      have before := looked other (waited worker other _ rfl waits) still
      simp only [goes]
      omega
  | flags place =>
      refine ⟨?_, fun other waits _ => rfl⟩
      intro other waits accepting
      cases accepting
  | wakesWorkers place =>
      exact ⟨fun other waits => absurd waits (worker_awake _),
        fun other waits => absurd waits (worker_awake _)⟩
  | wakesPosters place =>
      refine ⟨looked, ?_⟩
      intro other waits draining
      have before := called other waits draining
      rw [place] at before
      cases before
  | joins place exited =>
      refine ⟨looked, ?_⟩
      intro other waits draining
      have before := called other waits draining
      rw [place] at before
      cases before

end

/-- With one worker, the jobs it has finished are those taken before its own. -/
def Alone (pool : ThreadPool Job Poster Worker) : Prop :=
  ∀ worker, pool.taken = pool.finished ++ (pool.workers worker).job.toList

section

variable (pool : ThreadPool Job Poster Worker) [Subsingleton Worker]

omit [Fintype Worker] in
theorem update_alone (workers : Worker → WorkerPlace Job) (worker other : Worker)
    (place : WorkerPlace Job) : update workers worker place other = place := by
  rw [Subsingleton.elim other worker, update_self]

omit [Fintype Poster] [Fintype Worker] in
theorem alone_took (next : ThreadPool Job Poster Worker) (alone : Alone pool)
    (move : Move Job Poster Worker) (took : Took pool move next) : Alone next := by
  intro other
  cases took with
  | posts poster job place => exact alone other
  | blocks poster woken job place capped full accepting => exact alone other
  | drops poster woken job place draining => exact alone other
  | accepts poster woken job place room accepting chosen =>
      simp only [sets]
      rcases notifyOne_apply WorkerPlace.wakes pool.workers woken other with kept | woke
      · rw [kept]
        exact alone other
      · rw [woke, awake_job]
        exact alone other
  | wakesPoster poster job place => exact alone other
  | exits worker place none draining =>
      have before := alone worker
      rw [place] at before
      simp only [goes, update_alone]
      exact before
  | waits worker place none accepting =>
      have before := alone worker
      rw [place] at before
      simp only [goes, update_alone]
      exact before
  | pops worker place job queue found =>
      have before := alone worker
      rw [place] at before
      simp only [goes, update_alone]
      simp only [WorkerPlace.job, Option.toList, List.append_nil] at before ⊢
      rw [before]
  | wakesWorker worker place =>
      have before := alone worker
      rw [place] at before
      simp only [goes, update_alone]
      exact before
  | notifies worker woken job place chosen =>
      have before := alone worker
      rw [place] at before
      simp only [goes, update_alone]
      exact before
  | finishes worker throws job place =>
      have before := alone worker
      rw [place] at before
      simp only [goes, update_alone]
      simp only [WorkerPlace.job, Option.toList, List.append_nil] at before ⊢
      exact before
  | flags place => exact alone other
  | wakesWorkers place =>
      simp only [notifyAll, awake_job]
      exact alone other
  | wakesPosters place => exact alone other
  | joins place exited => exact alone other

end

structure Sound (pool : ThreadPool Job Poster Worker) : Prop where
  ledger : Ledger pool
  closing : Closing pool
  posters : PostersServed pool
  workers : WorkersServed pool
  alone : Subsingleton Worker → Alone pool

def start (Job Poster Worker : Type) (cap : Nat) : ThreadPool Job Poster Worker where
  cap := cap

section

variable (pool : ThreadPool Job Poster Worker)

omit [DecidableEq Poster] [DecidableEq Worker] in
theorem sound_start (cap : Nat) : Sound (start Job Poster Worker cap) := by
  refine ⟨⟨?_, rfl, ?_, fun _ => Nat.zero_le _⟩, ⟨?_, ?_, ?_⟩, ⟨?_, ?_, ?_⟩, ⟨?_, ?_⟩, ?_⟩
  · simp [start, total, PosterPlace.jobs, PosterPlace.job]
  · simp [start, total, WorkerPlace.jobs, WorkerPlace.job]
  · intro worker exited
    cases exited
  · intro busy
    exact absurd rfl busy
  · intro some
    cases some
  · intro poster waits
    cases waits
  · intro poster waits
    cases waits
  · intro poster waits
    cases waits
  · intro worker waits
    cases waits
  · intro worker waits
    cases waits
  · intro _ worker
    rfl

theorem sound_took (next : ThreadPool Job Poster Worker) (sound : Sound pool)
    (move : Move Job Poster Worker) (took : Took pool move next) : Sound next where
  ledger := ledger_took pool next sound.ledger move took
  closing := closing_took pool next sound.closing move took
  posters := postersServed_took pool next sound.posters move took
  workers := workersServed_took pool next sound.workers move took
  alone single := alone_took pool next (sound.alone single) move took

omit [Fintype Poster] [Fintype Worker] in
theorem cap_took (next : ThreadPool Job Poster Worker) (move : Move Job Poster Worker)
    (took : Took pool move next) : next.cap = pool.cap := by
  cases took <;> rfl

omit [Fintype Poster] [Fintype Worker] in
theorem dropped_took (next : ThreadPool Job Poster Worker) (move : Move Job Poster Worker)
    (took : Took pool move next) :
    next.dropped = pool.dropped ∨ pool.draining = true := by
  cases took with
  | drops poster woken job place draining => exact Or.inr draining
  | _ => exact Or.inl rfl

end

/-- Steps other than new calls and wakeups without a notification. -/
def Move.works : Move Job Poster Worker → Bool
  | .enter _ _ | .look _ | .notify _ _ | .finish _ _ => true
  | .notifyEmpty | .notifyFull | .join => true
  | .post _ _ | .wakePoster _ | .wakeWorker _ | .shutdown => false

def Proceeds (pool : ThreadPool Job Poster Worker) : Prop :=
  ∃ move : Move Job Poster Worker, move.works = true ∧ (pool.step move).isSome = true

def WorkerPlace.isActive : WorkerPlace Job → Bool
  | .looking | .popped _ | .running _ => true
  | _ => false

section

variable (pool : ThreadPool Job Poster Worker)

theorem active_steps (worker : Worker) (active : (pool.workers worker).isActive = true) :
    Proceeds pool := by
  cases place : pool.workers worker with
  | looking => exact ⟨.look worker, rfl, by simp [step, place]⟩
  | popped job =>
      obtain ⟨woken, chosen⟩ := exists_chosen PosterPlace.wakes pool.posters
      exact ⟨.notify worker woken, rfl, by simp [step, place, chosen]⟩
  | running job => exact ⟨.finish worker false, rfl, by simp [step, place]⟩
  | waiting => simp [place, WorkerPlace.isActive] at active
  | exited => simp [place, WorkerPlace.isActive] at active

omit [DecidableEq Poster] [DecidableEq Worker] in
/-- While jobs are queued or held, some worker is at work or about to be woken. -/
theorem active_of_unfinished [Nonempty Worker] (sound : Sound pool)
    (unfinished : pool.queue ≠ [] ∨ ∃ worker, (pool.workers worker).job.isSome) :
    (∃ worker, (pool.workers worker).isActive = true) ∨ pool.owner = .flagged := by
  rcases unfinished with queued | ⟨worker, holds⟩
  · obtain ⟨worker⟩ := ‹Nonempty Worker›
    cases place : pool.workers worker with
    | looking => exact Or.inl ⟨worker, by rw [place]; rfl⟩
    | popped job => exact Or.inl ⟨worker, by rw [place]; rfl⟩
    | running job => exact Or.inl ⟨worker, by rw [place]; rfl⟩
    | exited => exact absurd (sound.closing.drained worker (by rw [place]; rfl)).2 queued
    | waiting =>
        have waits : WorkerWaits pool worker := by rw [WorkerWaits, place]; rfl
        cases draining : pool.draining with
        | true => exact Or.inr (sound.workers.called worker waits draining)
        | false =>
            have looked := sound.workers.looked worker waits draining
            have some := List.length_pos_iff.mpr queued
            obtain ⟨other, looks⟩ := exists_of_total_pos looking pool.workers (by omega)
            left
            refine ⟨other, ?_⟩
            cases there : pool.workers other <;> rw [there] at looks <;>
              first | rfl | simp [looking] at looks
  · left
    refine ⟨worker, ?_⟩
    cases place : pool.workers worker <;> rw [place] at holds <;>
      first | rfl | simp [WorkerPlace.job] at holds

omit [DecidableEq Poster] [DecidableEq Worker] in
/-- Whoever waits for room has a thread on its way to make it. -/
theorem active_of_posterWaits [Nonempty Worker] (sound : Sound pool) (poster : Poster)
    (waits : PosterWaits pool poster) :
    (∃ other job, pool.posters other = .posting job) ∨
      (∃ worker, (pool.workers worker).isActive = true) ∨
      pool.owner = .flagged ∨ pool.owner = .notified := by
  cases draining : pool.draining with
  | true => exact Or.inr (Or.inr (sound.posters.cut poster waits draining))
  | false =>
      have capped := sound.posters.capped poster waits
      have full := sound.posters.full poster waits draining
      by_cases posts : 0 < total posting pool.posters
      · obtain ⟨other, posts⟩ := exists_of_total_pos posting pool.posters posts
        left
        cases there : pool.posters other with
        | posting job => exact ⟨other, job, there⟩
        | _ => simp [there, posting] at posts
      by_cases pops : 0 < total popped pool.workers
      · obtain ⟨worker, pops⟩ := exists_of_total_pos popped pool.workers pops
        right
        left
        refine ⟨worker, ?_⟩
        cases there : pool.workers worker <;> rw [there] at pops <;>
          first | rfl | simp [popped] at pops
      have queued : pool.queue ≠ [] := by
        apply List.ne_nil_of_length_pos
        omega
      rcases active_of_unfinished pool sound (Or.inl queued) with active | flagged
      · exact Or.inr (Or.inl active)
      · exact Or.inr (Or.inr (Or.inl flagged))

omit [DecidableEq Poster] [DecidableEq Worker] in
theorem active_of_joining (sound : Sound pool) (joining : pool.owner = .joining) :
    (∀ worker, (pool.workers worker).hasExited = true) ∨
      ∃ worker, (pool.workers worker).isActive = true := by
  by_cases active : ∃ worker, (pool.workers worker).isActive = true
  · exact Or.inr active
  left
  intro worker
  have draining := sound.closing.flagged (by rw [joining]; decide)
  cases place : pool.workers worker with
  | exited => rfl
  | waiting =>
      have called := sound.workers.called worker (by rw [WorkerWaits, place]; rfl) draining
      rw [joining] at called
      cases called
  | _ => exact absurd ⟨worker, by rw [place]; rfl⟩ active

/-- A call of `shutdown` that is under way is never stuck. -/
theorem owner_steps (sound : Sound pool) (busy : pool.owner ≠ .outside) :
    Proceeds pool := by
  cases owner : pool.owner with
  | outside => exact absurd owner busy
  | flagged => exact ⟨.notifyEmpty, rfl, by simp [step, owner]⟩
  | notified => exact ⟨.notifyFull, rfl, by simp [step, owner]⟩
  | joining =>
      rcases active_of_joining pool sound owner with exited | ⟨worker, active⟩
      · exact ⟨.join, rfl, by simp [step, owner, exited]⟩
      · exact active_steps pool worker active

theorem enter_steps (poster : Poster) (job : Job) (inPost : pool.posters poster = .posting job) :
    Proceeds pool := by
  obtain ⟨woken, chosen⟩ := exists_chosen WorkerPlace.wakes pool.workers
  refine ⟨.enter poster woken, rfl, ?_⟩
  simp only [step, inPost, enter, chosen]
  split
  · rfl
  · split <;> rfl

/-- Nobody is stuck in `post`. -/
theorem poster_steps [Nonempty Worker] (sound : Sound pool) (poster : Poster)
    (inPost : pool.posters poster ≠ .outside) : Proceeds pool := by
  cases place : pool.posters poster with
  | outside => exact absurd place inPost
  | posting job => exact enter_steps pool poster job place
  | waiting job =>
      have waits : PosterWaits pool poster := by rw [PosterWaits, place]; rfl
      rcases active_of_posterWaits pool sound poster waits with
        ⟨other, job, posting⟩ | ⟨worker, active⟩ | flagged | notified
      · exact enter_steps pool other job posting
      · exact active_steps pool worker active
      · exact owner_steps pool sound (by rw [flagged]; decide)
      · exact owner_steps pool sound (by rw [notified]; decide)

/-- Accepted jobs that have not run keep the pool going. -/
theorem unfinished_steps [Nonempty Worker] (sound : Sound pool)
    (behind : (pool.accepted : Multiset Job) ≠ pool.finished) : Proceeds pool := by
  have unfinished : pool.queue ≠ [] ∨ ∃ worker, (pool.workers worker).job.isSome := by
    by_contra none
    obtain ⟨empty, idle⟩ := not_or.mp none
    rw [not_not] at empty
    apply behind
    have held : total WorkerPlace.jobs pool.workers = 0 := by
      apply Finset.sum_eq_zero
      intro worker _
      have still := not_exists.mp idle worker
      rw [WorkerPlace.jobs, Option.not_isSome_iff_eq_none.mp still]
      rfl
    rw [sound.ledger.ordered, empty, List.append_nil, sound.ledger.handled, held, add_zero]
  rcases active_of_unfinished pool sound unfinished with ⟨worker, active⟩ | flagged
  · exact active_steps pool worker active
  · exact owner_steps pool sound (by rw [flagged]; decide)

omit [DecidableEq Poster] [DecidableEq Worker] in
/-- If none was dropped and nobody is in `post`, the posted jobs are the accepted ones. -/
theorem posted_eq_accepted (sound : Sound pool) (undropped : pool.dropped = [])
    (rest : ∀ poster, pool.posters poster = .outside) :
    (pool.posted : Multiset Job) = pool.accepted := by
  have carried : total PosterPlace.jobs pool.posters = 0 := by
    apply Finset.sum_eq_zero
    intro poster _
    rw [rest poster]
    rfl
  rw [sound.ledger.kept, undropped, carried, Multiset.coe_nil, add_zero, add_zero]

/-- Posted jobs that have not run keep the pool going, if none was dropped. -/
theorem unrun_steps [Nonempty Worker] (sound : Sound pool) (undropped : pool.dropped = [])
    (unrun : ¬ pool.posted.Perm pool.finished) : Proceeds pool := by
  by_cases inPost : ∃ poster, pool.posters poster ≠ .outside
  · obtain ⟨poster, inPost⟩ := inPost
    exact poster_steps pool sound poster inPost
  · apply unfinished_steps pool sound
    intro done
    have rest (poster : Poster) := not_not.mp (not_exists.mp inPost poster)
    exact unrun (Multiset.coe_eq_coe.mp ((posted_eq_accepted pool sound undropped rest).trans done))

theorem hasExited_iff (place : WorkerPlace Job) : place.hasExited = true ↔ place = .exited := by
  cases place <;> simp [WorkerPlace.hasExited]

omit [DecidableEq Poster] [DecidableEq Worker] in
/-- Once a call of `shutdown` has returned, the accepted jobs have run. -/
theorem returned_finished [Nonempty Worker] (sound : Sound pool) (returned : 0 < pool.returned) :
    pool.queue = [] ∧ (∀ worker, pool.workers worker = .exited) ∧
      pool.finished.Perm pool.accepted := by
  have exited (worker : Worker) : pool.workers worker = .exited :=
    (hasExited_iff _).mp (sound.closing.returned returned worker)
  obtain ⟨worker⟩ := ‹Nonempty Worker›
  have empty := (sound.closing.drained worker (by rw [exited worker]; rfl)).2
  refine ⟨empty, exited, ?_⟩
  have held : total WorkerPlace.jobs pool.workers = 0 := by
    apply Finset.sum_eq_zero
    intro other _
    rw [exited other]
    rfl
  apply Multiset.coe_eq_coe.mp
  rw [sound.ledger.ordered, empty, List.append_nil, sound.ledger.handled, held, add_zero]

/-- What the pool promises. A job that throws is reported, and that is all the
difference it makes. -/
structure Contract (threads : Nat) : Prop where
  once : (pool.accepted : Multiset Job) =
    pool.finished + total WorkerPlace.jobs pool.workers + pool.queue
  kept : (pool.posted : Multiset Job) =
    pool.accepted + pool.dropped + total PosterPlace.jobs pool.posters
  dropped : ∀ move next, pool.step move = some next →
    next.dropped = pool.dropped ∨ pool.draining = true
  fifo : pool.accepted = pool.taken ++ pool.queue
  alone : threads ≤ 1 → ∀ worker, pool.taken = pool.finished ++ (pool.workers worker).job.toList
  bounded : pool.cap ≠ 0 → pool.queue.length ≤ pool.cap
  thrown : ∀ worker job, pool.workers worker = .running job →
    ∃ next, pool.step (.finish worker false) = some next ∧ next.workers worker = .looking ∧
      pool.step (.finish worker true) = some { next with reported := next.reported ++ [job] }
  proceeds : (pool.accepted : Multiset Job) ≠ pool.finished ∨ pool.owner ≠ .outside →
    Proceeds pool
  returned : 0 < pool.returned →
    pool.queue = [] ∧ (∀ worker, pool.workers worker = .exited) ∧ pool.finished.Perm pool.accepted

theorem contract_of_sound [Nonempty Worker] (threads : Nat)
    (single : threads ≤ 1 → Subsingleton Worker) (sound : Sound pool) : Contract pool threads := by
  have once : (pool.accepted : Multiset Job) =
      pool.finished + total WorkerPlace.jobs pool.workers + pool.queue := by
    rw [sound.ledger.ordered, ← Multiset.coe_add, sound.ledger.handled]
  refine ⟨once, sound.ledger.kept, ?_, sound.ledger.ordered, ?_, sound.ledger.bounded, ?_, ?_, ?_⟩
  · intro move next taken
    exact dropped_took pool next move (took_step pool next move taken)
  · intro few
    exact sound.alone (single few)
  · intro worker job running
    refine ⟨_, by simp only [step, running]; rfl, ?_, ?_⟩
    · simp [goes]
    · simp only [step, running]
      rfl
  · rintro (behind | busy)
    · exact unfinished_steps pool sound behind
    · exact owner_steps pool sound busy
  · exact returned_finished pool sound

end

/-- The workers of a pool of the given size. -/
abbrev Workers (threads : Nat) : Type := Fin (if threads < 1 then 1 else threads)

instance (threads : Nat) : Nonempty (Workers threads) := ⟨⟨0, by split <;> omega⟩⟩

/-- The pool after some moves; a thread that is not ready for its move waits. -/
def after (threads cap : Nat) (moves : List (Move Job Poster (Workers threads))) :
    ThreadPool Job Poster (Workers threads) :=
  run (attempt step) (start Job Poster (Workers threads) cap) moves

theorem sound_after (threads cap : Nat) (moves : List (Move Job Poster (Workers threads))) :
    Sound (after threads cap moves) := by
  apply attempt_invariant step (start Job Poster (Workers threads) cap) Sound (sound_start cap)
  intro pool move next sound taken
  exact sound_took pool next sound move (took_step pool next move taken)

/-- However its threads interleave, the pool meets its contract. -/
theorem thread_pool_contract (threads cap : Nat)
    (moves : List (Move Job Poster (Workers threads))) :
    (after threads cap moves).cap = cap ∧ Contract (after threads cap moves) threads := by
  constructor
  · apply attempt_invariant step (start Job Poster (Workers threads) cap)
      (fun pool => pool.cap = cap)
      rfl
    intro pool move next same taken
    exact (cap_took pool next move (took_step pool next move taken)).trans same
  · apply contract_of_sound
    · intro few
      constructor
      rintro ⟨first, below⟩ ⟨second, under⟩
      have one : (if threads < 1 then 1 else threads) ≤ 1 := by split <;> omega
      exact Fin.ext (by omega)
    · exact sound_after threads cap moves

end TgLoggerd.ThreadPool

import TgLoggerd.WorkerSystem

/-!
What holds of the threads together in every reachable state. A worker that holds or
waits for a connection runs a job, and has no other thing to wait for meanwhile; the
main thread shuts the pools down one after the other, and nobody posts to a pool that
is draining.
-/

namespace TgLoggerd

open Function SerialRun ThreadPool

namespace WorkerSystem

variable {Key : Type} [DecidableEq Key] {collate : String → Key} {threads : Nat}

/-- The places in the pool of connections that go with a stage. -/
def agrees : Stage → Mysql.ConnectionPool.Place → Bool
  | .fresh, .outside | .closed, .outside => true
  | .transacting, .acquiring | .transacting, .waiting | .transacting, .creating => true
  | .transacting, .holding _ => true
  | .transacted _, .holding _ | .transacted _, .notifying | .transacted _, .outside => true
  | _, _ => false

/-- The borrower has a job to run. -/
def Busy (s : WorkerSystem collate threads) : Borrower threads → Prop
  | none => ∃ task, s.serial.workers () = .running task
  | some worker => ∃ task, s.files.workers worker = .running task

structure Staged (s : WorkerSystem collate threads) : Prop where
  busy : ∀ borrower, s.stages borrower ≠ .fresh → s.Busy borrower
  agreed : ∀ borrower, agrees (s.stages borrower) (s.conns.threads borrower) = true
  linking : ∀ worker, s.serial.posters (some worker) ≠ .outside → s.stages (some worker) = .closed
  unlinked : ∀ fileId, s.stages none ≠ .transacted (some fileId)

structure Phased (s : WorkerSystem collate threads) : Prop where
  looping : s.main = .looping → s.files.draining = false ∧ s.files.owner = .outside
  ended : s.main ≠ .looping → s.pending = [] ∧ s.AtRest
  drainingFiles : s.main = .drainingFiles → s.files.owner = .outside → 0 < s.files.returned
  accepting : s.main ≠ .drainingSerial → s.serial.draining = false ∧ s.serial.owner = .outside
  drainingSerial : s.main = .drainingSerial → s.files.owner = .outside ∧ 0 < s.files.returned ∧
    (s.serial.owner = .outside → 0 < s.serial.returned)

theorem agrees_advances (stage : Stage) (before after : Mysql.ConnectionPool.Place)
    (agreed : agrees stage before = true) (advances : Mysql.ConnectionPool.Advances before after) :
    agrees stage after = true := by
  cases advances <;> cases stage <;> first | exact agreed | rfl

theorem agrees_fresh (place : Mysql.ConnectionPool.Place) (agreed : agrees .fresh place = true) :
    place = .outside := by
  cases place <;> first | rfl | cases agreed

theorem agrees_creating (stage : Stage) (agreed : agrees stage .creating = true) :
    stage = .transacting := by
  cases stage with
  | transacting => rfl
  | _ => cases agreed

section

variable (s next : WorkerSystem collate threads) (config : Config)

theorem files_took (took : Took s config next) :
    next.files = s.files ∨ ∃ move, s.files.Took move next.files := by
  cases took with
  | handsFile call pending found rest job posts files taken => exact Or.inr ⟨_, taken⟩
  | leaves looping done rest files taken => exact Or.inr ⟨_, taken⟩
  | files move free files taken => exact Or.inr ⟨_, taken⟩
  | finishesFile worker throws apart rest files taken => exact Or.inr ⟨_, taken⟩
  | _ => exact Or.inl rfl

theorem serial_took (took : Took s config next) :
    next.serial = s.serial ∨ ∃ move, s.serial.Took move next.serial := by
  cases took with
  | handsSerial call pending found rest none posts serial taken => exact Or.inr ⟨_, taken⟩
  | closes draining drained serial taken => exact Or.inr ⟨_, taken⟩
  | serial move free serial taken => exact Or.inr ⟨_, taken⟩
  | links worker task running fileId transacted apart serial taken => exact Or.inr ⟨_, taken⟩
  | finishesSerial throws apart serial taken => exact Or.inr ⟨_, taken⟩
  | _ => exact Or.inl rfl

theorem conns_took (took : Took s config next) :
    next.conns = s.conns ∨ ∃ move, s.conns.Took move next.conns := by
  cases took with
  | conns move free conns taken => exact Or.inr ⟨_, taken⟩
  | stores worker task running fresh conns taken => exact Or.inr ⟨_, taken⟩
  | begins task running fresh conns taken => exact Or.inr ⟨_, taken⟩
  | refuses borrower woken conns taken => exact Or.inr ⟨_, taken⟩
  | releases borrower fileId transacted conns taken => exact Or.inr ⟨_, taken⟩
  | _ => exact Or.inl rfl

omit [DecidableEq Key] in
/-- Who is busy hangs on what the workers run. -/
theorem busy_congr (files : next.files.workers = s.files.workers)
    (serial : next.serial.workers = s.serial.workers) (borrower : Borrower threads)
    (busy : s.Busy borrower) : next.Busy borrower := by
  cases borrower with
  | none =>
      obtain ⟨task, running⟩ := busy
      exact ⟨task, by rw [serial, running]⟩
  | some worker =>
      obtain ⟨task, running⟩ := busy
      exact ⟨task, by rw [files, running]⟩

omit [DecidableEq Key] in
/-- A borrower comes to another stage. -/
theorem staged_sets (staged : Staged s) (borrower : Borrower threads) (stage : Stage)
    (stages : next.stages = update s.stages borrower stage)
    (busy : ∀ other, other ≠ borrower → s.Busy other → next.Busy other)
    (own : stage ≠ .fresh → next.Busy borrower)
    (agreed : agrees stage (next.conns.threads borrower) = true)
    (others : ∀ other, other ≠ borrower →
      Mysql.ConnectionPool.Advances (s.conns.threads other) (next.conns.threads other))
    (posting : ∀ worker, some worker = borrower → stage = .closed ∨
      next.serial.posters (some worker) = .outside)
    (posters : ∀ worker, some worker ≠ borrower →
      next.serial.posters (some worker) = s.serial.posters (some worker))
    (unlinked : ∀ fileId, borrower = none → stage ≠ .transacted (some fileId)) :
    Staged next := by
  refine ⟨?_, ?_, ?_, ?_⟩
  · intro other busied
    rw [stages, update_apply] at busied
    split at busied
    · next same => exact same ▸ own busied
    · next apart => exact busy other apart (staged.busy other busied)
  · intro other
    rw [stages, update_apply]
    split
    · next same => exact same ▸ agreed
    · next apart => exact agrees_advances _ _ _ (staged.agreed other) (others other apart)
  · intro worker inPost
    rw [stages, update_apply]
    split
    · next same => exact (posting worker same).resolve_right inPost
    · next apart =>
      rw [posters worker apart] at inPost
      exact staged.linking worker inPost
  · intro fileId
    rw [stages, update_apply]
    split
    · next same => exact unlinked fileId same.symm
    · exact staged.unlinked fileId

omit [DecidableEq Key] in
/-- No borrower comes to another stage. -/
theorem staged_same (staged : Staged s) (stages : next.stages = s.stages)
    (busy : ∀ other, s.Busy other → next.Busy other)
    (advances : ∀ other,
      Mysql.ConnectionPool.Advances (s.conns.threads other) (next.conns.threads other))
    (posters : ∀ worker, s.serial.posters (some worker) = .outside →
      next.serial.posters (some worker) = .outside) : Staged next := by
  refine ⟨?_, ?_, ?_, ?_⟩
  · intro other busied
    rw [stages] at busied
    exact busy other (staged.busy other busied)
  · intro other
    rw [stages]
    exact agrees_advances _ _ _ (staged.agreed other) (advances other)
  · intro worker inPost
    rw [stages]
    exact staged.linking worker fun outside => inPost (posters worker outside)
  · intro fileId
    rw [stages]
    exact staged.unlinked fileId

omit [DecidableEq Key] in
/-- A worker of `files_` that is not past its transaction is in no call of `post`. -/
theorem posts_last (staged : Staged s) (stage : Stage) (worker : Workers threads)
    (current : s.stages (some worker) = stage) (earlier : stage ≠ .closed) :
    s.serial.posters (some worker) = .outside := by
  by_contra inPost
  exact earlier (current ▸ staged.linking worker inPost)

omit [DecidableEq Key] in
theorem advances_goes (borrower other : Borrower threads) (place : Mysql.ConnectionPool.Place)
    (apart : other ≠ borrower) :
    Mysql.ConnectionPool.Advances (s.conns.threads other)
      ((s.conns.goes borrower place).threads other) := by
  simp only [Mysql.ConnectionPool.goes, update_of_ne apart]
  exact .stays _

theorem staged_took (staged : Staged s) (took : Took s config next) : Staged next := by
  have outsideOf (worker : Workers threads) (stage : Stage)
      (current : s.stages (some worker) = stage) (earlier : stage ≠ .closed)
      (other : Workers threads) (same : (some other : Borrower threads) = some worker) :
      s.serial.posters (some other) = .outside := by
    cases same
    exact posts_last s staged stage worker current earlier
  cases took with
  | receives event looping done rest =>
      exact staged_same s _ staged rfl (busy_congr s _ rfl rfl)
        (fun _ => .stays _) (fun _ outside => outside)
  | handsFile call pending found rest job posts files taken =>
      cases taken
      exact staged_same s _ staged rfl (busy_congr s _ rfl rfl)
        (fun _ => .stays _) (fun _ outside => outside)
  | handsSerial call pending found rest noFile posts serial taken =>
      cases taken
      refine staged_same s _ staged rfl (busy_congr s _ rfl rfl)
        (fun _ => .stays _) ?_
      intro worker outside
      simpa [ThreadPool.sets] using outside
  | handsNone call pending found rest noFile silent =>
      exact staged_same s _ staged rfl (busy_congr s _ rfl rfl)
        (fun _ => .stays _) (fun _ outside => outside)
  | leaves looping done rest files taken =>
      cases taken
      exact staged_same s _ staged rfl (busy_congr s _ rfl rfl)
        (fun _ => .stays _) (fun _ outside => outside)
  | closes draining drained serial taken =>
      cases taken
      exact staged_same s _ staged rfl (busy_congr s _ rfl rfl)
        (fun _ => .stays _) (fun _ outside => outside)
  | files move free files taken =>
      have stays := free_took s.files files move free taken
      refine staged_same s _ staged rfl ?_ (fun _ => .stays _) (fun _ outside => outside)
      intro other busy
      cases other with
      | none => exact busy
      | some worker =>
          obtain ⟨task, running⟩ := busy
          exact ⟨task, stays.running worker task running⟩
  | serial move free serial taken =>
      have stays := free_took s.serial serial move free taken
      refine staged_same s _ staged rfl ?_ (fun _ => .stays _)
        (fun worker outside => stays.resting (some worker) outside)
      intro other busy
      cases other with
      | none =>
          obtain ⟨task, running⟩ := busy
          exact ⟨task, stays.running () task running⟩
      | some worker => exact busy
  | conns move free conns taken =>
      exact staged_same s _ staged rfl (busy_congr s _ rfl rfl)
        (Mysql.ConnectionPool.advances_took s.conns conns move free taken)
        (fun _ outside => outside)
  | stores worker task running fresh conns taken =>
      cases taken
      exact staged_sets s _ staged (some worker) .transacting rfl
        (fun other _ => busy_congr s _ rfl rfl other) (fun _ => ⟨task, running⟩)
        (by simp [sets, Mysql.ConnectionPool.goes, agrees])
        (fun other apart => advances_goes s (some worker) other _ apart)
        (fun other same => Or.inr (outsideOf worker _ fresh (by simp) other same))
        (fun _ _ => rfl) (fun fileId none => by cases none)
  | loses worker task running fresh =>
      have apart := agrees_fresh _ (fresh ▸ staged.agreed (some worker))
      exact staged_sets s _ staged (some worker) .closed rfl
        (fun other _ => busy_congr s _ rfl rfl other) (fun _ => ⟨task, running⟩)
        (by simp [sets, apart, agrees]) (fun other _ => .stays _) (fun other same => Or.inl rfl)
        (fun _ _ => rfl) (fun fileId none => by cases none)
  | begins task running fresh conns taken =>
      cases taken
      exact staged_sets s _ staged none .transacting rfl
        (fun other _ => busy_congr s _ rfl rfl other) (fun _ => ⟨task, running⟩)
        (by simp [sets, Mysql.ConnectionPool.goes, agrees])
        (fun other apart => advances_goes s none other _ apart)
        (fun other same => by cases same) (fun _ _ => rfl)
        (fun fileId _ transacted => by cases transacted)
  | refuses borrower woken conns taken =>
      cases taken with
      | failed _ place _ chosen =>
        have current := agrees_creating _ (place ▸ staged.agreed borrower)
        refine staged_sets s _ staged borrower .closed rfl
          (fun other _ => busy_congr s _ rfl rfl other) ?_
          (by simp [sets, Mysql.ConnectionPool.goes, agrees]) ?_ (fun other same => Or.inl rfl)
          (fun _ _ => rfl) (fun fileId _ transacted => by cases transacted)
        · intro _
          have busy := staged.busy borrower (by rw [current]; simp)
          cases borrower <;> exact busy
        · intro other apart
          simp only [sets, Mysql.ConnectionPool.goes, update_of_ne apart]
          exact Mysql.ConnectionPool.advances_notifyOne s.conns woken other
  | aborts worker task running transacting conn holding =>
      exact staged_sets s _ staged (some worker) (.transacted none) rfl
        (fun other _ => busy_congr s _ rfl rfl other) (fun _ => ⟨task, running⟩)
        (by simp [sets, holding, agrees]) (fun other apart => .stays _)
        (fun other same => Or.inr (outsideOf worker _ transacting (by simp) other same))
        (fun _ _ => rfl) (fun fileId none => by cases none)
  | upserts worker task running transacting conn holding digest =>
      exact staged_sets s _ staged (some worker) _ rfl
        (fun other _ => busy_congr s _ rfl rfl other) (fun _ => ⟨task, running⟩)
        (by simp [sets, holding, agrees]) (fun other apart => .stays _)
        (fun other same => Or.inr (outsideOf worker _ transacting (by simp) other same))
        (fun _ _ => rfl) (fun fileId none => by cases none)
  | executes transacting conn holding =>
      exact staged_sets s _ staged none (.transacted none) rfl
        (fun other _ => busy_congr s _ rfl rfl other)
        (fun _ => staged.busy none (by rw [transacting]; simp))
        (by simp [sets, holding, agrees]) (fun other apart => .stays _)
        (fun other same => by cases same) (fun _ _ => rfl)
        (fun fileId _ transacted => by cases transacted)
  | releases borrower fileId transacted conns taken =>
      cases taken with
      | released _ conn place =>
        refine staged_sets s _ staged borrower (.transacted fileId) ?_
          (fun other _ => busy_congr s _ rfl rfl other) ?_
          (by simp [Mysql.ConnectionPool.goes, agrees])
          (fun other apart => advances_goes s borrower other _ apart) ?_ (fun _ _ => rfl) ?_
        · rw [← transacted, update_eq_self]
        · intro _
          have busy := staged.busy borrower (by rw [transacted]; simp)
          cases borrower <;> exact busy
        · rintro worker rfl
          exact Or.inr (posts_last s staged _ worker transacted (by simp))
        · rintro other rfl same
          exact staged.unlinked other (transacted.trans same)
  | links worker task running fileId transacted apart serial taken =>
      cases taken
      refine staged_sets s _ staged (some worker) .closed rfl
        (fun other _ => busy_congr s _ rfl rfl other) (fun _ => ⟨task, running⟩)
        (by simp [sets, apart, agrees]) (fun other _ => .stays _) (fun other same => Or.inl rfl) ?_
        (fun _ _ transacted => by cases transacted)
      intro other differs
      simp only [sets, ThreadPool.sets, update_of_ne differs]
  | finishesFile worker throws apart rest files taken =>
      cases taken
      refine staged_sets s _ staged (some worker) .fresh rfl ?_ (fun busied => absurd rfl busied)
        (by simp [sets, apart, agrees]) (fun other _ => .stays _) ?_ (fun _ _ => rfl)
        (fun _ _ transacted => by cases transacted)
      · intro other differs busy
        cases other with
        | none => exact busy
        | some other =>
            obtain ⟨task, running⟩ := busy
            refine ⟨task, ?_⟩
            simp only [sets, ThreadPool.goes]
            rw [update_of_ne (fun same => differs (by rw [same])), running]
      · rintro other same
        cases same
        exact Or.inr rest
  | finishesSerial throws apart serial taken =>
      cases taken
      refine staged_sets s _ staged none .fresh rfl ?_ (fun busied => absurd rfl busied)
        (by simp [sets, apart, agrees]) (fun other _ => .stays _) (fun other same => by cases same)
        (fun _ _ => rfl) (fun _ _ transacted => by cases transacted)
      intro other differs busy
      cases other with
      | none => exact absurd rfl differs
      | some other => exact busy

theorem phased_took (phased : Phased s) (took : Took s config next) : Phased next := by
  obtain ⟨looping, ended, drainingFiles, accepting, drainingSerial⟩ := phased
  cases took with
  | receives event here done rest =>
      exact ⟨looping, fun past => absurd here past, drainingFiles, accepting, drainingSerial⟩
  | handsFile call pending found rest job posts files taken =>
      have here : s.main = .looping := by
        by_contra past
        rw [(ended past).1] at found
        cases found
      cases taken
      exact ⟨looping, fun past => absurd here past, drainingFiles, accepting, drainingSerial⟩
  | handsSerial call pending found rest noFile posts serial taken =>
      have here : s.main = .looping := by
        by_contra past
        rw [(ended past).1] at found
        cases found
      cases taken
      exact ⟨looping, fun past => absurd here past, drainingFiles, accepting, drainingSerial⟩
  | handsNone call pending found rest noFile silent =>
      have here : s.main = .looping := by
        by_contra past
        rw [(ended past).1] at found
        cases found
      exact ⟨looping, fun past => absurd here past, drainingFiles, accepting, drainingSerial⟩
  | leaves here done rest files taken =>
      cases taken
      refine ⟨?_, fun _ => ⟨done, rest⟩, ?_, fun _ => accepting (by rw [here]; decide), ?_⟩
      · rintro ⟨⟩
      · rintro _ ⟨⟩
      · rintro ⟨⟩
  | closes draining drained serial taken =>
      cases taken
      refine ⟨?_, fun _ => ended (by rw [draining]; decide), ?_, fun accepts => absurd rfl accepts, ?_⟩
      · rintro ⟨⟩
      · rintro ⟨⟩
      · rintro _
        exact ⟨drained, drainingFiles draining drained, fun outside => by cases outside⟩
  | files move free files taken =>
      have stays := free_took s.files files move free taken
      refine ⟨?_, ?_, ?_, accepting, ?_⟩
      · intro here
        exact ⟨stays.draining.trans (looping here).1, stays.owner (looping here).2⟩
      · intro past
        obtain ⟨done, rest⟩ := ended past
        exact ⟨done, stays.resting () rest.1, rest.2⟩
      · intro here outside
        by_cases before : s.files.owner = .outside
        · exact (drainingFiles here before).trans_le stays.returned
        · exact stays.joined before outside
      · intro here
        obtain ⟨outside, joined, serial⟩ := drainingSerial here
        exact ⟨stays.owner outside, joined.trans_le stays.returned, serial⟩
  | serial move free serial taken =>
      have stays := free_took s.serial serial move free taken
      refine ⟨looping, ?_, drainingFiles, ?_, ?_⟩
      · intro past
        obtain ⟨done, rest⟩ := ended past
        exact ⟨done, rest.1, stays.resting none rest.2⟩
      · intro accepts
        obtain ⟨draining, outside⟩ := accepting accepts
        exact ⟨stays.draining.trans draining, stays.owner outside⟩
      · intro here
        obtain ⟨outside, joined, returned⟩ := drainingSerial here
        refine ⟨outside, joined, ?_⟩
        intro after
        by_cases before : s.serial.owner = .outside
        · exact (returned before).trans_le stays.returned
        · exact stays.joined before after
  | links worker task running fileId transacted apart serial taken =>
      cases taken
      refine ⟨looping, ?_, drainingFiles, accepting, drainingSerial⟩
      intro past
      obtain ⟨done, rest⟩ := ended past
      exact ⟨done, rest.1, by simpa [sets, ThreadPool.sets] using rest.2⟩
  | finishesFile worker throws apart rest files taken =>
      cases taken
      exact ⟨looping, ended, drainingFiles, accepting, drainingSerial⟩
  | finishesSerial throws apart serial taken =>
      cases taken
      exact ⟨looping, ended, drainingFiles, accepting, drainingSerial⟩
  | _ => exact ⟨looping, ended, drainingFiles, accepting, drainingSerial⟩

omit [DecidableEq Key] in
/-- Past the shutdown of `files_` none of its workers has anything left to do. -/
theorem fresh_drained (staged : Staged s) (closing : Closing s.files)
    (joined : 0 < s.files.returned) (worker : Workers threads) :
    s.stages (some worker) = .fresh := by
  by_contra busied
  obtain ⟨task, running⟩ := staged.busy (some worker) busied
  have exited := closing.returned joined worker
  rw [running] at exited
  cases exited

omit [DecidableEq Key] in
theorem outside_drained (staged : Staged s) (closing : Closing s.files)
    (joined : 0 < s.files.returned) (worker : Workers threads) :
    s.serial.posters (some worker) = .outside :=
  posts_last s staged .fresh worker (fresh_drained s staged closing joined worker) (by simp)

/-- What holds in every reachable state. -/
structure Steady (s : WorkerSystem collate threads) : Prop where
  files : Sound s.files
  serial : Sound s.serial
  conns : Mysql.ConnectionPool.Accounted s.conns
  staged : Staged s
  phased : Phased s
  undropped : s.files.dropped = [] ∧ s.serial.dropped = []
  sized : 0 < s.conns.poolSize

theorem undropped_took (steady : Steady s) (took : Took s config next) :
    next.files.dropped = [] ∧ next.serial.dropped = [] := by
  obtain ⟨files, serial⟩ := steady.undropped
  have phased := steady.phased
  cases took with
  | handsFile call pending found rest job posts pool taken =>
      cases taken
      exact ⟨files, serial⟩
  | handsSerial call pending found rest noFile posts pool taken =>
      cases taken
      exact ⟨files, serial⟩
  | leaves here done rest pool taken =>
      cases taken
      exact ⟨files, serial⟩
  | closes draining drained pool taken =>
      cases taken
      exact ⟨files, serial⟩
  | files move free pool taken =>
      refine ⟨?_, serial⟩
      rcases (free_took s.files pool move free taken).dropped with same | ⟨draining, poster, busy⟩
      · exact same.trans files
      · have past : s.main ≠ .looping := by
          intro here
          rw [(phased.looping here).1] at draining
          cases draining
        exact absurd (phased.ended past).2.1 busy
  | serial move free pool taken =>
      refine ⟨files, ?_⟩
      rcases (free_took s.serial pool move free taken).dropped with same | ⟨draining, poster, busy⟩
      · exact same.trans serial
      · have here : s.main = .drainingSerial := by
          by_contra accepts
          rw [(phased.accepting accepts).1] at draining
          cases draining
        cases poster with
        | none => exact absurd (phased.ended (by rw [here]; decide)).2.2 busy
        | some worker =>
            exact absurd (outside_drained s steady.staged steady.files.closing
              (phased.drainingSerial here).2.1 worker) busy
  | links worker task running fileId transacted apart pool taken =>
      cases taken
      exact ⟨files, serial⟩
  | finishesFile worker throws apart rest pool taken =>
      cases taken
      exact ⟨files, serial⟩
  | finishesSerial throws apart pool taken =>
      cases taken
      exact ⟨files, serial⟩
  | _ => exact ⟨files, serial⟩

theorem steady_took (steady : Steady s) (took : Took s config next) : Steady next where
  files := by
    rcases files_took s next config took with same | ⟨move, taken⟩
    · exact same ▸ steady.files
    · exact sound_took s.files next.files steady.files move taken
  serial := by
    rcases serial_took s next config took with same | ⟨move, taken⟩
    · exact same ▸ steady.serial
    · exact sound_took s.serial next.serial steady.serial move taken
  conns := by
    rcases conns_took s next config took with same | ⟨move, taken⟩
    · exact same ▸ steady.conns
    · exact Mysql.ConnectionPool.accounted_took s.conns next.conns steady.conns move taken
  staged := staged_took s next config steady.staged took
  phased := phased_took s next config steady.phased took
  undropped := undropped_took s next config steady took
  sized := by
    rcases conns_took s next config took with same | ⟨move, taken⟩
    · exact same ▸ steady.sized
    · rw [Mysql.ConnectionPool.size_took s.conns next.conns move taken]
      exact steady.sized

omit [DecidableEq Key] in
theorem steady_start (fileCap serialCap poolSize : Nat) :
    Steady (start fileCap serialCap poolSize : WorkerSystem collate threads) where
  files := sound_start fileCap
  serial := sound_start serialCap
  conns := Mysql.ConnectionPool.accounted_start poolSize
  staged := by
    refine ⟨fun borrower busied => absurd rfl busied, fun borrower => rfl, ?_, ?_⟩
    · intro worker inPost
      exact absurd rfl inPost
    · rintro fileId ⟨⟩
  phased := by
    refine ⟨fun _ => ⟨rfl, rfl⟩, fun past => absurd rfl past, ?_, fun _ => ⟨rfl, rfl⟩, ?_⟩
    · rintro ⟨⟩
    · rintro ⟨⟩
  undropped := ⟨rfl, rfl⟩
  sized := by
    simp only [start, Mysql.ConnectionPool.start]
    split <;> omega

/-- The threads after some moves; one that is not ready for its move waits. -/
def after (config : Config) (fileCap serialCap poolSize : Nat) (moves : List (Move threads)) :
    WorkerSystem collate threads :=
  run (attempt fun s => step s config) (start fileCap serialCap poolSize) moves

theorem steady_after (fileCap serialCap poolSize : Nat) (moves : List (Move threads)) :
    Steady (after config fileCap serialCap poolSize moves : WorkerSystem collate threads) := by
  apply attempt_invariant (fun s => step s config) (start fileCap serialCap poolSize) Steady
    (steady_start fileCap serialCap poolSize)
  intro s move next steady taken
  exact steady_took s next config steady (took_step s config next move taken)

end

end WorkerSystem

end TgLoggerd

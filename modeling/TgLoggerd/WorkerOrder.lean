import TgLoggerd.HandoverOrder
import TgLoggerd.WorkerInvariants

/-!
The two pools keep order and lose nothing. Whatever the loop posted to `serial_`
before it handed a file over was accepted there by then, so the link that the worker
of the file posts later stands behind it; and at the end of `start` every job of
either pool has run.
-/

namespace TgLoggerd

open Function SerialRun ThreadPool

namespace WorkerSystem

variable {Key : Type} [DecidableEq Key] {collate : String → Key} {threads : Nat}

def fileTasks (made : List Call) : List FileTask :=
  made.zipIdx.filterMap fun entry => entry.1.fileJob.map (FileTask.mk entry.2)

def callTasks (made : List Call) : List SerialTask :=
  made.zipIdx.filterMap fun entry =>
    if entry.1.isSerial then some (.call entry.2 entry.1) else none

/-- The task is that of a call made before the place. -/
def MadeBefore (made : List Call) (place : Nat) (task : SerialTask) : Prop :=
  ∃ earlier < place, ∃ call, made[earlier]? = some call ∧ call.isSerial = true ∧
    task = .call earlier call

def Covered (made : List Call) (place : Nat) (tasks : List SerialTask) : Prop :=
  ∀ task, MadeBefore made place task → task ∈ tasks

/-- The call at this place handed a file of this owner over. -/
def HandedAt (made : List Call) (place : Nat) (owner : Owner) : Prop :=
  ∃ call, made[place]? = some call ∧ call.owner = some owner

def Stored (table : FileTable collate) (fileId : Nat) : Prop :=
  ∃ digest, IsRow table digest fileId

/-- Nothing that was made, accepted or committed goes away. -/
structure Grows (s next : WorkerSystem collate threads) : Prop where
  made : s.made <+: next.made
  accepted : s.serial.accepted <+: next.serial.accepted
  rows : ∀ fileId, Stored s.table fileId → Stored next.table fileId

structure Recorded (s : WorkerSystem collate threads) : Prop where
  handed : ∀ task, MadeBefore s.made s.made.length task →
    task ∈ s.serial.accepted ∨ (s.serial.posters none).job = some task
  filed : ∀ task ∈ s.files.posted, HandedAt s.made task.place task.job.owner ∧
    Covered s.made task.place s.serial.accepted
  stored : ∀ worker fileId, s.stages (some worker) = .transacted (some fileId) →
    Stored s.table fileId
  linked : ∀ place owner fileId, .link place owner fileId ∈ s.serial.posted →
    HandedAt s.made place owner ∧ Covered s.made place s.serial.accepted ∧ Stored s.table fileId
  ordered : ∀ front place owner fileId back,
    s.serial.accepted = front ++ .link place owner fileId :: back → Covered s.made place front

def SerialTask.isCall : SerialTask → Bool
  | .call _ _ => true
  | .link _ _ _ => false

/-- The loop posts what the wrapper hands over, in that order. -/
structure Sourced (config : Config) (s : WorkerSystem collate threads) : Prop where
  genuine : ∃ events, s.impl = runEvents config events
  logged : s.made ++ s.pending = s.impl.log.filterMap Action.call
  files : s.files.posted = fileTasks s.made
  calls : s.serial.posted.filter SerialTask.isCall = callTasks s.made

section

variable (made : List Call)

theorem owner_fileJob (call : Call) (job : FileJob) (posts : call.fileJob = some job) :
    call.owner = some job.owner := by
  cases call <;> cases posts <;> rfl

theorem serial_of_upserts (call : Call) (owner : Owner) (writes : call.upserts = some owner) :
    call.isSerial = true := by
  cases call <;> first | rfl | cases writes

theorem fileJob_of_serial (call : Call) (serial : call.isSerial = true) : call.fileJob = none := by
  cases call <;> first | rfl | cases serial

theorem handedAt_lt (place : Nat) (owner : Owner) (handed : HandedAt made place owner) :
    place < made.length := by
  obtain ⟨call, found, _⟩ := handed
  exact (List.getElem?_eq_some_iff.mp found).1

theorem handedAt_grown (next : List Call) (place : Nat) (owner : Owner) (grown : made <+: next)
    (handed : HandedAt made place owner) : HandedAt next place owner := by
  obtain ⟨rest, rfl⟩ := grown
  have early := handedAt_lt made place owner handed
  obtain ⟨call, found, links⟩ := handed
  exact ⟨call, by rw [List.getElem?_append_left early, found], links⟩

theorem madeBefore_grown (next : List Call) (place : Nat) (task : SerialTask)
    (grown : made <+: next) (known : place ≤ made.length) (before : MadeBefore next place task) :
    MadeBefore made place task := by
  obtain ⟨rest, rfl⟩ := grown
  obtain ⟨earlier, less, call, found, posts⟩ := before
  rw [List.getElem?_append_left (by omega)] at found
  exact ⟨earlier, less, call, found, posts⟩

theorem covered_grows (next : List Call) (place : Nat) (tasks more : List SerialTask)
    (grown : made <+: next) (known : place ≤ made.length) (wider : tasks <+: more)
    (covered : Covered made place tasks) : Covered next place more := by
  intro task before
  exact wider.subset (covered task (madeBefore_grown made next place task grown known before))

theorem fileTasks_snoc (call : Call) :
    fileTasks (made ++ [call]) =
      fileTasks made ++ (call.fileJob.map (FileTask.mk made.length)).toList := by
  rw [fileTasks, List.zipIdx_append, List.filterMap_append, fileTasks]
  cases found : call.fileJob <;> simp [found]

theorem callTasks_snoc (call : Call) :
    callTasks (made ++ [call]) =
      callTasks made ++ if call.isSerial then [.call made.length call] else [] := by
  rw [callTasks, List.zipIdx_append, List.filterMap_append, callTasks]
  cases found : call.isSerial <;> simp [found]

end

section

variable (s next : WorkerSystem collate threads) (config : Config)

theorem grows_took (took : Took s config next) : Grows s next := by
  cases took with
  | handsFile call pending found rest job posts files taken =>
      exact ⟨List.prefix_append _ _, List.prefix_rfl, fun _ => id⟩
  | handsSerial call pending found rest noFile posts serial taken =>
      cases taken
      exact ⟨List.prefix_append _ _, List.prefix_rfl, fun _ => id⟩
  | handsNone call pending found rest noFile silent =>
      exact ⟨List.prefix_append _ _, List.prefix_rfl, fun _ => id⟩
  | closes draining drained serial taken =>
      cases taken
      exact ⟨List.prefix_rfl, List.prefix_rfl, fun _ => id⟩
  | serial move free serial taken =>
      refine ⟨List.prefix_rfl, ?_, fun _ => id⟩
      rcases (free_took s.serial serial move free taken).accepted with same | ⟨_, job, _, more⟩
      · rw [same]
      · rw [more]
        exact List.prefix_append _ _
  | upserts worker task running transacting conn holding digest =>
      refine ⟨List.prefix_rfl, List.prefix_rfl, ?_⟩
      rintro fileId ⟨other, row⟩
      exact ⟨other, (rows_upsertFile s.table digest task.job.download).1 other fileId row⟩
  | links worker task running fileId transacted apart serial taken =>
      cases taken
      exact ⟨List.prefix_rfl, List.prefix_rfl, fun _ => id⟩
  | finishesSerial throws apart serial taken =>
      cases taken
      exact ⟨List.prefix_rfl, List.prefix_rfl, fun _ => id⟩
  | _ => exact ⟨List.prefix_rfl, List.prefix_rfl, fun _ => id⟩

omit [DecidableEq Key] in
theorem handedAt_grows (grows : Grows s next) (place : Nat) (owner : Owner)
    (handed : HandedAt s.made place owner)
    (covered : Covered s.made place s.serial.accepted) :
    HandedAt next.made place owner ∧ Covered next.made place next.serial.accepted := by
  have early := handedAt_lt s.made place owner handed
  exact ⟨handedAt_grown s.made next.made place owner grows.made handed,
    covered_grows s.made next.made place _ _ grows.made early.le grows.accepted covered⟩

omit [DecidableEq Key] in
/-- While the loop is in no call of `post`, all it has handed over is accepted. -/
theorem accepted_atRest (recorded : Recorded s) (rest : s.AtRest) :
    Covered s.made s.made.length s.serial.accepted := by
  intro task before
  rcases recorded.handed task before with accepted | held
  · exact accepted
  · rw [rest.2] at held
    cases held

omit [DecidableEq Key] in
theorem handed_snoc (call : Call) (recorded : Recorded s) (rest : s.AtRest) (task : SerialTask)
    (before : MadeBefore (s.made ++ [call]) (s.made ++ [call]).length task) :
    task ∈ s.serial.accepted ∨ call.isSerial = true ∧ task = .call s.made.length call := by
  obtain ⟨earlier, less, other, found, posts, same⟩ := before
  rw [List.length_append, List.length_singleton] at less
  by_cases last : earlier = s.made.length
  · subst last
    rw [List.getElem?_concat_length, Option.some.injEq] at found
    subst found
    exact Or.inr ⟨posts, same⟩
  · left
    rw [List.getElem?_append_left (by omega)] at found
    exact accepted_atRest s recorded rest task ⟨earlier, by omega, other, found, posts, same⟩

theorem handed_took (steady : Steady s) (recorded : Recorded s) (took : Took s config next) :
    ∀ task, MadeBefore next.made next.made.length task →
      task ∈ next.serial.accepted ∨ (next.serial.posters none).job = some task := by
  intro task before
  cases took with
  | handsFile call pending found rest job posts files taken =>
      rcases handed_snoc s call recorded rest task before with accepted | ⟨serial, _⟩
      · exact Or.inl accepted
      · rw [fileJob_of_serial call serial] at posts
        cases posts
  | handsSerial call pending found rest noFile posts serial taken =>
      rcases handed_snoc s call recorded rest task before with accepted | ⟨_, same⟩
      · cases taken
        exact Or.inl accepted
      · cases taken
        right
        simp [ThreadPool.sets, PosterPlace.job, same]
  | handsNone call pending found rest noFile silent =>
      rcases handed_snoc s call recorded rest task before with accepted | ⟨posts, _⟩
      · exact Or.inl accepted
      · rw [silent] at posts
        cases posts
  | closes draining drained serial taken =>
      cases taken
      exact recorded.handed task before
  | serial move free serial taken =>
      have stays := free_took s.serial serial move free taken
      rcases recorded.handed task before with accepted | held
      · exact Or.inl ((grows_took s _ config (.serial move free serial taken)).accepted.subset
          accepted)
      · rcases stays.carried none task held with still | accepted | draining
        · exact Or.inr still
        · exact Or.inl accepted
        · -- The loop is in a call of `post`, and so the main thread is not past it.
          by_cases past : s.main = .looping
          · rw [(steady.phased.accepting (by rw [past]; decide)).1] at draining
            cases draining
          · rw [(steady.phased.ended past).2.2] at held
            cases held
  | links worker other running fileId transacted apart serial taken =>
      cases taken
      simpa [sets, ThreadPool.sets] using recorded.handed task before
  | finishesSerial throws apart serial taken =>
      cases taken
      exact recorded.handed task before
  | _ => exact recorded.handed task before

theorem filed_took (recorded : Recorded s) (took : Took s config next) :
    ∀ task ∈ next.files.posted, HandedAt next.made task.place task.job.owner ∧
      Covered next.made task.place next.serial.accepted := by
  have grows := grows_took s next config took
  have old (task : FileTask) (member : task ∈ s.files.posted) :=
    handedAt_grows s next grows task.place task.job.owner (recorded.filed task member).1
      (recorded.filed task member).2
  intro task member
  cases took with
  | handsFile call pending found rest job posts files taken =>
      cases taken
      rcases List.mem_append.mp member with earlier | last
      · exact old task earlier
      · cases List.mem_singleton.mp last
        have covered := accepted_atRest s recorded rest
        refine ⟨⟨call, List.getElem?_concat_length, owner_fileJob call job posts⟩, ?_⟩
        exact covered_grows s.made _ s.made.length _ _ (List.prefix_append _ _) le_rfl
          List.prefix_rfl covered
  | leaves here done rest files taken =>
      cases taken
      exact old task member
  | files move free files taken =>
      rw [(free_took s.files files move free taken).posted] at member
      exact old task member
  | finishesFile worker throws apart rest files taken =>
      cases taken
      exact old task member
  | _ => exact old task member

omit [DecidableEq Key] in
theorem stored_sets (stored : ∀ worker fileId,
      s.stages (some worker) = .transacted (some fileId) → Stored s.table fileId)
    (borrower : Borrower threads) (stage : Stage)
    (plain : ∀ fileId, stage ≠ .transacted (some fileId)) (worker : Workers threads) (fileId : Nat)
    (transacted : update s.stages borrower stage (some worker) = .transacted (some fileId)) :
    Stored s.table fileId := by
  rw [update_apply] at transacted
  split at transacted
  · exact absurd transacted (plain fileId)
  · exact stored worker fileId transacted

theorem stored_took (recorded : Recorded s) (took : Took s config next) :
    ∀ worker fileId, next.stages (some worker) = .transacted (some fileId) →
      Stored next.table fileId := by
  have stored := recorded.stored
  intro worker fileId transacted
  cases took with
  | stores other task running fresh conns taken =>
      exact stored_sets s stored (some other) _ (by simp) worker fileId transacted
  | loses other task running fresh =>
      exact stored_sets s stored (some other) _ (by simp) worker fileId transacted
  | begins task running fresh conns taken =>
      exact stored worker fileId (by simpa [sets] using transacted)
  | refuses borrower woken conns taken =>
      exact stored_sets s stored borrower _ (by simp) worker fileId transacted
  | aborts other task running transacting conn holding =>
      exact stored_sets s stored (some other) _ (by simp) worker fileId transacted
  | upserts other task running transacting conn holding digest =>
      obtain ⟨kept, gives⟩ := rows_upsertFile s.table digest task.job.download
      simp only [sets, update_apply] at transacted ⊢
      split at transacted
      · cases result : (upsertFile s.table (fileOf digest task.job.download)).1 with
        | error failed => simp [result, Except.toOption] at transacted
        | ok own =>
            simp only [result, Except.toOption, Stage.transacted.injEq, Option.some.injEq]
              at transacted
            exact ⟨digest, transacted ▸ gives own result⟩
      · obtain ⟨earlier, row⟩ := stored worker fileId transacted
        exact ⟨earlier, kept earlier fileId row⟩
  | executes transacting conn holding =>
      exact stored worker fileId (by simpa [sets] using transacted)
  | links other task running own done apart serial taken =>
      exact stored_sets s stored (some other) _ (by simp) worker fileId transacted
  | finishesFile other throws apart rest files taken =>
      exact stored_sets s stored (some other) _ (by simp) worker fileId transacted
  | finishesSerial throws apart serial taken =>
      exact stored worker fileId (by simpa [sets] using transacted)
  | _ => exact stored worker fileId transacted

theorem linked_took (steady : Steady s) (recorded : Recorded s) (took : Took s config next) :
    ∀ place owner fileId, .link place owner fileId ∈ next.serial.posted →
      HandedAt next.made place owner ∧ Covered next.made place next.serial.accepted ∧
        Stored next.table fileId := by
  have grows := grows_took s next config took
  have old (place : Nat) (owner : Owner) (fileId : Nat)
      (member : .link place owner fileId ∈ s.serial.posted) :
      HandedAt next.made place owner ∧ Covered next.made place next.serial.accepted ∧
        Stored next.table fileId := by
    obtain ⟨handed, covered, stored⟩ := recorded.linked place owner fileId member
    obtain ⟨handed, covered⟩ := handedAt_grows s next grows place owner handed covered
    exact ⟨handed, covered, grows.rows fileId stored⟩
  intro place owner fileId member
  cases took with
  | handsSerial call pending found rest noFile posts serial taken =>
      cases taken
      rcases List.mem_append.mp member with earlier | last
      · exact old place owner fileId earlier
      · cases List.mem_singleton.mp last
  | closes draining drained serial taken =>
      cases taken
      exact old place owner fileId member
  | serial move free serial taken =>
      rw [(free_took s.serial serial move free taken).posted] at member
      exact old place owner fileId member
  | links worker task running own transacted apart serial taken =>
      cases taken
      rcases List.mem_append.mp member with earlier | last
      · exact old place owner fileId earlier
      · cases List.mem_singleton.mp last
        have posted := posted_of_running s.files steady.files.ledger worker task running
        obtain ⟨handed, covered⟩ := recorded.filed task posted
        exact ⟨handed, covered, recorded.stored worker fileId transacted⟩
  | finishesSerial throws apart serial taken =>
      cases taken
      exact old place owner fileId member
  | _ => exact old place owner fileId member

theorem ordered_took (steady : Steady s) (recorded : Recorded s) (took : Took s config next) :
    ∀ front place owner fileId back,
      next.serial.accepted = front ++ .link place owner fileId :: back →
        Covered next.made place front := by
  have grows := grows_took s next config took
  -- A link keeps what stands before it, and calls made later do not concern it.
  have old (front : List SerialTask) (place : Nat) (owner : Owner) (fileId : Nat)
      (back : List SerialTask)
      (split : s.serial.accepted = front ++ .link place owner fileId :: back) :
      Covered next.made place front := by
    have member := posted_of_accepted s.serial steady.serial.ledger (.link place owner fileId)
      (by simp [split])
    have early := handedAt_lt s.made place owner (recorded.linked place owner fileId member).1
    exact covered_grows s.made next.made place front front grows.made early.le List.prefix_rfl
      (recorded.ordered front place owner fileId back split)
  intro front place owner fileId back split
  cases took with
  | handsSerial call pending found rest noFile posts serial taken =>
      cases taken
      exact old front place owner fileId back split
  | closes draining drained serial taken =>
      cases taken
      exact old front place owner fileId back split
  | serial move free serial taken =>
      rcases (free_took s.serial serial move free taken).accepted with same | ⟨poster, job, held, more⟩
      · rw [same] at split
        exact old front place owner fileId back split
      · simp only at split
        rw [more] at split
        rcases (split_snoc _ _ _ _ _).mp split with ⟨_, whole, own⟩ | ⟨earlier, _, whole⟩
        · rw [own] at held
          have posted := posted_of_held s.serial steady.serial.ledger poster _ held
          exact whole ▸ (recorded.linked place owner fileId posted).2.1
        · exact old front place owner fileId earlier whole
  | links worker task running own transacted apart serial taken =>
      cases taken
      exact old front place owner fileId back split
  | finishesSerial throws apart serial taken =>
      cases taken
      exact old front place owner fileId back split
  | _ => exact old front place owner fileId back split

theorem recorded_took (steady : Steady s) (recorded : Recorded s) (took : Took s config next) :
    Recorded next where
  handed := handed_took s next config steady recorded took
  filed := filed_took s next config recorded took
  stored := stored_took s next config recorded took
  linked := linked_took s next config steady recorded took
  ordered := ordered_took s next config steady recorded took

theorem sourced_took (sourced : Sourced config s) (took : Took s config next) :
    Sourced config next := by
  obtain ⟨⟨events, genuine⟩, logged, files, calls⟩ := sourced
  cases took with
  | receives event looping done rest =>
      refine ⟨⟨events ++ [event], ?_⟩, ?_, files, calls⟩
      · rw [runEvents_snoc, ← genuine]
      · simp only [log_process, List.filterMap_append, ← logged, done, List.append_nil]
  | handsFile call pending found rest job posts pool taken =>
      have silent : call.isSerial = false := by
        by_contra serial
        rw [fileJob_of_serial call (Bool.not_eq_false _ ▸ serial)] at posts
        cases posts
      cases taken
      refine ⟨⟨events, genuine⟩, ?_, ?_, ?_⟩
      · simpa [found] using logged
      · simp [ThreadPool.sets, fileTasks_snoc, posts, files]
      · simp [callTasks_snoc, silent, calls]
  | handsSerial call pending found rest noFile posts serial taken =>
      cases taken
      refine ⟨⟨events, genuine⟩, ?_, ?_, ?_⟩
      · simpa [found] using logged
      · simp [fileTasks_snoc, noFile, files]
      · simp [ThreadPool.sets, callTasks_snoc, posts, calls, List.filter_append, SerialTask.isCall]
  | handsNone call pending found rest noFile silent =>
      refine ⟨⟨events, genuine⟩, ?_, ?_, ?_⟩
      · simpa [found] using logged
      · simp [fileTasks_snoc, noFile, files]
      · simp [callTasks_snoc, silent, calls]
  | leaves looping done rest pool taken =>
      cases taken
      exact ⟨⟨events, genuine⟩, logged, files, calls⟩
  | closes draining drained serial taken =>
      cases taken
      exact ⟨⟨events, genuine⟩, logged, files, calls⟩
  | files move free pool taken =>
      exact ⟨⟨events, genuine⟩, logged,
        (free_took s.files pool move free taken).posted.trans files, calls⟩
  | serial move free serial taken =>
      refine ⟨⟨events, genuine⟩, logged, files, ?_⟩
      simp only
      rw [(free_took s.serial serial move free taken).posted, calls]
  | links worker task running fileId transacted apart serial taken =>
      cases taken
      refine ⟨⟨events, genuine⟩, logged, files, ?_⟩
      simp [sets, ThreadPool.sets, calls, List.filter_append, SerialTask.isCall]
  | finishesFile worker throws apart rest pool taken =>
      cases taken
      exact ⟨⟨events, genuine⟩, logged, files, calls⟩
  | finishesSerial throws apart serial taken =>
      cases taken
      exact ⟨⟨events, genuine⟩, logged, files, calls⟩
  | _ => exact ⟨⟨events, genuine⟩, logged, files, calls⟩

end

/-- An element of what is kept of a list, with its place there. -/
theorem split_of_filterMap {Entry Kept : Type} (keep : Entry → Option Kept) (entries : List Entry)
    (place : Nat) (kept : Kept) (found : (entries.filterMap keep)[place]? = some kept) :
    ∃ before entry after, entries = before ++ entry :: after ∧ keep entry = some kept ∧
      (before.filterMap keep).length = place := by
  induction entries generalizing place with
  | nil => simp at found
  | cons entry rest ih =>
      cases own : keep entry with
      | none =>
          rw [List.filterMap_cons_none own] at found
          obtain ⟨before, other, after, rfl, keeps, length⟩ := ih place found
          exact ⟨entry :: before, other, after, rfl, keeps, by rw [List.filterMap_cons_none own, length]⟩
      | some value =>
          rw [List.filterMap_cons_some own] at found
          cases place with
          | zero =>
              rw [List.getElem?_cons_zero] at found
              exact ⟨[], entry, rest, rfl, own.trans found, rfl⟩
          | succ place =>
              rw [List.getElem?_cons_succ] at found
              obtain ⟨before, other, after, rfl, keeps, length⟩ := ih place found
              refine ⟨entry :: before, other, after, rfl, keeps, ?_⟩
              rw [List.filterMap_cons_some own, List.length_cons, length]

omit [DecidableEq Key] in
/-- What a handed file is linked to was handed over before it. -/
theorem upserted_before (interval : Rat) (batch : Nat) (s : WorkerSystem collate threads)
    (sourced : Sourced (Config.started interval batch) s) (place : Nat) (owner : Owner)
    (handed : HandedAt s.made place owner) :
    ∃ earlier < place, ∃ call, s.made[earlier]? = some call ∧ call.upserts = some owner := by
  have known := handedAt_lt s.made place owner handed
  obtain ⟨call, found, links⟩ := handed
  obtain ⟨events, genuine⟩ := sourced.genuine
  have logged := sourced.logged
  -- What was made already is where the log shows it.
  have early (index : Nat) (made : index < s.made.length) :
      s.made[index]? = (s.impl.log.filterMap Action.call)[index]? := by
    rw [← logged]
    exact (List.getElem?_append_left made).symm
  rw [early place known] at found
  obtain ⟨before, action, after, split, keeps, length⟩ := split_of_filterMap Action.call _ _ _ found
  have posted : action = .hand call := by
    cases action with
    | hand other =>
        cases keeps
        rfl
    | send query handler => cases keeps
  subst posted
  have rows := (rowsFirst_run interval batch events).2
  rw [← genuine] at rows
  obtain ⟨upsert, member, writes⟩ := rows before (.hand call) after split owner links
  rw [List.nil_append] at member
  have kept : upsert ∈ before.filterMap Action.call :=
    List.mem_filterMap.mpr ⟨_, member, rfl⟩
  obtain ⟨earlier, there⟩ := List.mem_iff_getElem?.mp kept
  have less := (List.getElem?_eq_some_iff.mp there).1
  rw [length] at less
  refine ⟨earlier, less, upsert, ?_, writes⟩
  rw [early earlier (less.trans known), split, List.filterMap_append,
    List.getElem?_append_left (by rw [length]; exact less), there]

/-- A link that the worker of `serial_` has taken, with the jobs taken before it. -/
structure LinkInOrder (s : WorkerSystem collate threads) (front : List SerialTask) (place : Nat)
    (owner : Owner) (fileId : Nat) : Prop where
  handed : HandedAt s.made place owner
  upserted : ∃ earlier < place, ∃ call, s.made[earlier]? = some call ∧
    call.upserts = some owner ∧ .call earlier call ∈ front
  covered : Covered s.made place front
  finished : front <+: s.serial.finished
  stored : Stored s.table fileId

/-- What the end of `start` leaves behind. -/
structure Completed (s : WorkerSystem collate threads) : Prop where
  handed : s.made = s.impl.log.filterMap Action.call
  filesPosted : s.files.posted = fileTasks s.made
  filesRun : s.files.finished.Perm s.files.posted
  callsPosted : s.serial.posted.filter SerialTask.isCall = callTasks s.made
  serialRun : s.serial.finished.Perm s.serial.posted

/-- The jobs before one that was taken have all run. -/
theorem finished_before (serial : ThreadPool SerialTask (SerialPoster threads) Unit)
    (alone : Alone serial) (front : List SerialTask) (task : SerialTask) (back : List SerialTask)
    (split : serial.taken = front ++ task :: back) : front <+: serial.finished := by
  have taken := alone ()
  rw [split] at taken
  cases own : (serial.workers ()).job with
  | none =>
      rw [own, Option.toList, List.append_nil] at taken
      exact ⟨task :: back, taken⟩
  | some job =>
      rw [own, Option.toList] at taken
      rcases (split_snoc _ _ _ _ _).mp taken.symm with ⟨_, whole, _⟩ | ⟨earlier, _, whole⟩
      · exact ⟨[], by rw [List.append_nil, whole]⟩
      · exact ⟨task :: earlier, whole.symm⟩

section

variable (interval : Rat) (batch : Nat)

/-- All that holds of the records in a reachable state. -/
theorem records_after (fileCap serialCap poolSize : Nat) (moves : List (Move threads)) :
    let s : WorkerSystem collate threads :=
      after (Config.started interval batch) fileCap serialCap poolSize moves
    Steady s ∧ Recorded s ∧ Sourced (Config.started interval batch) s := by
  apply attempt_invariant (fun s => step s (Config.started interval batch))
    (start fileCap serialCap poolSize)
    (fun s : WorkerSystem collate threads =>
      Steady s ∧ Recorded s ∧ Sourced (Config.started interval batch) s)
  · refine ⟨steady_start fileCap serialCap poolSize, ⟨?_, ?_, ?_, ?_, ?_⟩,
      ⟨⟨[], rfl⟩, rfl, rfl, rfl⟩⟩
    · rintro task ⟨earlier, less, _⟩
      cases less
    · intro task member
      cases member
    · rintro worker fileId ⟨⟩
    · intro place owner fileId member
      cases member
    · intro front place owner fileId back split
      simp [start, ThreadPool.start] at split
  · rintro s move next ⟨steady, recorded, sourced⟩ taken
    have took := took_step s _ next move taken
    exact ⟨steady_took s next _ steady took, recorded_took s next _ steady recorded took,
      sourced_took s next _ sourced took⟩

/-- In every state of every run each link stands behind all jobs that the loop posted
to `serial_` before it handed the file over, the upsert of the owner among them, and
its files row is there; and at the end every job of both pools has run once. -/
theorem two_pools_keep_order (fileCap serialCap poolSize : Nat) (moves : List (Move threads)) :
    let s : WorkerSystem collate threads :=
      after (Config.started interval batch) fileCap serialCap poolSize moves
    (∀ front place owner fileId back,
      s.serial.taken = front ++ .link place owner fileId :: back →
        LinkInOrder s front place owner fileId) ∧
      (s.main = .drainingSerial → s.serial.owner = .outside → Completed s) := by
  intro s
  obtain ⟨steady, recorded, sourced⟩ : Steady s ∧ Recorded s ∧
      Sourced (Config.started interval batch) s :=
    records_after interval batch fileCap serialCap poolSize moves
  constructor
  · intro front place owner fileId back split
    have accepted : s.serial.accepted =
        front ++ .link place owner fileId :: (back ++ s.serial.queue) := by
      rw [steady.serial.ledger.ordered, split]
      simp
    have posted := posted_of_accepted s.serial steady.serial.ledger (.link place owner fileId)
      (by simp [accepted])
    obtain ⟨handed, _, stored⟩ := recorded.linked place owner fileId posted
    have covered := recorded.ordered front place owner fileId _ accepted
    obtain ⟨earlier, less, call, found, writes⟩ :=
      upserted_before interval batch s sourced place owner handed
    have serial := serial_of_upserts call owner writes
    exact ⟨handed,
      ⟨earlier, less, call, found, writes, covered _ ⟨earlier, less, call, found, serial, rfl⟩⟩,
      covered, finished_before s.serial (steady.serial.alone inferInstance) front _ back split,
      stored⟩
  · intro draining outside
    obtain ⟨filesOwner, joined, returned⟩ := steady.phased.drainingSerial draining
    obtain ⟨done, rest⟩ := steady.phased.ended (by rw [draining]; decide)
    have filesRest (poster : Unit) : s.files.posters poster = .outside := rest.1
    have serialRest (poster : SerialPoster threads) : s.serial.posters poster = .outside := by
      cases poster with
      | none => exact rest.2
      | some worker => exact outside_drained s steady.staged steady.files.closing joined worker
    have files := posted_eq_accepted s.files steady.files steady.undropped.1 filesRest
    have serial := posted_eq_accepted s.serial steady.serial steady.undropped.2 serialRest
    refine ⟨?_, sourced.files, ?_, sourced.calls, ?_⟩
    · rw [← sourced.logged, done, List.append_nil]
    · exact (returned_finished s.files steady.files joined).2.2.trans
        (Multiset.coe_eq_coe.mp files).symm
    · exact (returned_finished s.serial steady.serial (returned outside)).2.2.trans
        (Multiset.coe_eq_coe.mp serial).symm

end

end WorkerSystem

end TgLoggerd

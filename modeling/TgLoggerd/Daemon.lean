import TgLoggerd.Store

/-!
The whole program over any number of process lifetimes: the event loop, the file
workers, the serial worker and the database they write. The queues are unbounded
and a transaction is one step; a job may fail at any time, and the process may be
killed between any two steps, which loses its caches and queues and keeps the
database. What was received, handed over and hashed is recorded.
-/

namespace TgLoggerd

open Function KeyedTable SerialRun

section

variable {Key : Type} [DecidableEq Key]

/-- `pending` are the calls the current turn of the loop has still to make. The
last three fields only record. -/
structure Daemon (collate : String → Key) (Worker : Type) where
  impl : Impl := Impl.initial
  pending : List Call := []
  files : List FileJob := []
  workers : Worker → FileWorker := fun _ => .idle
  serial : List DbWrite := []
  store : Store collate := Store.empty
  seen : List (Impl × Event) := []
  made : List Call := []
  hashed : List (FileJob × Digest) := []

namespace Daemon

inductive Move (Worker : Type) where
  /-- The loop takes an update, an answer, or a request to close. -/
  | receive (event : Event)
  /-- The next call of the handlers in this turn. -/
  | hand
  | take (worker : Worker)
  /-- Hashing, copying and the files row; without a digest one of them failed. -/
  | store (worker : Worker) (hashed : Option Digest)
  | post (worker : Worker)
  /-- The serial worker runs its next job. -/
  | commit
  /-- The same, and the transaction fails for another reason than its keys. -/
  | fail
  /-- The process ends and is started again. -/
  | restart
  deriving DecidableEq, Repr

variable {collate : String → Key} {Worker : Type} [DecidableEq Worker]

/-- The effect of a handler: a job for one of the pools, or a line in the log. -/
def hand (d : Daemon collate Worker) (call : Call) : Daemon collate Worker :=
  match call.fileJob with
  | some job => { d with files := d.files ++ [job] }
  | none => { d with serial := d.serial ++ call.write.toList }

variable (config : Config) (order : MapOrder) (rowOrder : RowOrder)

/-- A move that is not possible changes nothing. -/
def step (d : Daemon collate Worker) : Move Worker → Daemon collate Worker
  | .receive event =>
      -- One thread receives: a turn begins when the calls of the last one are made.
      if d.pending = [] ∧ d.impl.caches.stopped = false then
        { d with
          impl := process config d.impl event
          pending := (reaction config d.impl event).2.filterMap Action.call
          seen := d.seen ++ [(d.impl, event)] }
      else d
  | .hand =>
      match d.pending with
      | [] => d
      | call :: rest => { d.hand call with pending := rest, made := d.made ++ [call] }
  | .take worker =>
      match d.workers worker, d.files with
      | .idle, job :: rest =>
          { d with files := rest, workers := update d.workers worker (.storing job) }
      | _, _ => d
  | .store worker hashed =>
      match d.workers worker with
      | .storing job =>
          let (fileId, store) := d.store.storeFile hashed job.download
          { d with
            store := store
            workers := update d.workers worker
              (match fileId with
                | some fileId => .linking job.owner fileId
                -- No link is posted for a file that could not be stored.
                | none => .idle)
            hashed := d.hashed ++ (hashed.map fun digest => (job, digest)).toList }
      | _ => d
  | .post worker =>
      match d.workers worker with
      | .linking owner fileId =>
          { d with
            serial := d.serial ++ [linkWrite owner fileId]
            workers := update d.workers worker .idle }
      | _ => d
  | .commit =>
      match d.serial with
      | [] => d
      | write :: rest =>
          { d with serial := rest, store := d.store.commit order rowOrder write }
  | .fail =>
      match d.serial with
      | [] => d
      | _ :: rest => { d with serial := rest }
  | .restart =>
      { d with
        impl := Impl.initial
        pending := []
        files := []
        workers := fun _ => .idle
        serial := [] }

def runs (moves : List (Move Worker)) : Daemon collate Worker :=
  run (step config order rowOrder) {} moves

/-- Where a file worker goes on after its transaction. -/
def landed (owner : Owner) : Option Nat → FileWorker
  | some fileId => .linking owner fileId
  | none => .idle

/-- What each move does, and when it is possible. -/
inductive Took (d : Daemon collate Worker) : Move Worker → Daemon collate Worker → Prop where
  | rests (move : Move Worker) : Took d move d
  | receives (event : Event) (idle : d.pending = []) (running : d.impl.caches.stopped = false) :
      Took d (.receive event)
        { d with
          impl := process config d.impl event
          pending := (reaction config d.impl event).2.filterMap Action.call
          seen := d.seen ++ [(d.impl, event)] }
  | handsFile (call : Call) (rest : List Call) (next : d.pending = call :: rest) (job : FileJob)
      (posts : call.fileJob = some job) :
      Took d .hand
        { d with pending := rest, files := d.files ++ [job], made := d.made ++ [call] }
  | handsWrite (call : Call) (rest : List Call) (next : d.pending = call :: rest)
      (noFile : call.fileJob = none) :
      Took d .hand
        { d with
          pending := rest
          serial := d.serial ++ call.write.toList
          made := d.made ++ [call] }
  | takes (worker : Worker) (job : FileJob) (rest : List FileJob)
      (idle : d.workers worker = .idle) (queued : d.files = job :: rest) :
      Took d (.take worker)
        { d with files := rest, workers := update d.workers worker (.storing job) }
  | loses (worker : Worker) (job : FileJob) (storing : d.workers worker = .storing job) :
      Took d (.store worker none) { d with workers := update d.workers worker .idle }
  | stores (worker : Worker) (job : FileJob) (storing : d.workers worker = .storing job)
      (digest : Digest) :
      Took d (.store worker (some digest))
        { d with
          store := (d.store.storeFile (some digest) job.download).2
          workers := update d.workers worker
            (landed job.owner (d.store.storeFile (some digest) job.download).1)
          hashed := d.hashed ++ [(job, digest)] }
  | posts (worker : Worker) (owner : Owner) (fileId : Nat)
      (linking : d.workers worker = .linking owner fileId) :
      Took d (.post worker)
        { d with
          serial := d.serial ++ [linkWrite owner fileId]
          workers := update d.workers worker .idle }
  | commits (write : DbWrite) (rest : List DbWrite) (queued : d.serial = write :: rest) :
      Took d .commit
        { d with serial := rest, store := d.store.commit order rowOrder write }
  | fails (write : DbWrite) (rest : List DbWrite) (queued : d.serial = write :: rest) :
      Took d .fail { d with serial := rest }
  | restarts :
      Took d .restart
        { d with
          impl := Impl.initial
          pending := []
          files := []
          workers := fun _ => .idle
          serial := [] }

theorem took_step (d : Daemon collate Worker) (move : Move Worker) :
    d.Took config order rowOrder move (step config order rowOrder d move) := by
  cases move with
  | receive event =>
      simp only [step]
      split
      · next possible => exact .receives event possible.1 possible.2
      · exact .rests _
  | hand =>
      simp only [step]
      split
      · exact .rests _
      · next call rest next =>
        cases posts : call.fileJob with
        | some job =>
            simp only [hand, posts]
            exact .handsFile call rest next job posts
        | none =>
            simp only [hand, posts]
            exact .handsWrite call rest next posts
  | take worker =>
      simp only [step]
      split
      · next job rest idle queued => exact .takes worker job rest idle queued
      · exact .rests _
  | store worker hashed =>
      simp only [step]
      split
      · next job storing =>
        cases hashed with
        | none =>
            simp only [Store.storeFile_lost, Option.map_none, Option.toList_none, List.append_nil]
            exact .loses worker job storing
        | some digest =>
            exact .stores worker job storing digest
      · exact .rests _
  | post worker =>
      simp only [step]
      split
      · next owner fileId linking => exact .posts worker owner fileId linking
      · exact .rests _
  | commit =>
      simp only [step]
      split
      · exact .rests _
      · next write rest queued => exact .commits write rest queued
  | fail =>
      simp only [step]
      split
      · exact .rests _
      · next write rest queued => exact .fails write rest queued
  | restart => exact .restarts

/-- What one move does to the database. -/
inductive Wrote (before : Daemon collate Worker) : Store collate → Prop where
  | nothing : Wrote before before.store
  | file (worker : Worker) (job : FileJob) (hashed : Option Digest)
      (storing : before.workers worker = .storing job) :
      Wrote before (before.store.storeFile hashed job.download).2
  | committed (write : DbWrite) (rest : List DbWrite) (queued : before.serial = write :: rest) :
      Wrote before (before.store.commit order rowOrder write)

theorem wrote_step (d : Daemon collate Worker) (move : Move Worker) :
    d.Wrote order rowOrder (step config order rowOrder d move).store := by
  have took := took_step config order rowOrder d move
  generalize step config order rowOrder d move = after at took ⊢
  cases took with
  | stores worker job storing digest => exact .file worker job (some digest) storing
  | commits write rest queued => exact .committed write rest queued
  | _ => exact .nothing

theorem extends_step (d : Daemon collate Worker) (move : Move Worker) :
    d.store.Extends (step config order rowOrder d move).store := by
  have wrote := wrote_step config order rowOrder d move
  generalize (step config order rowOrder d move).store = after at wrote ⊢
  cases wrote with
  | nothing => exact d.store.extends_refl
  | file worker job hashed storing => exact d.store.extends_storeFile hashed job.download
  | committed write rest queued => exact d.store.extends_commit order rowOrder write

theorem extends_run (d : Daemon collate Worker) (moves : List (Move Worker)) :
    d.store.Extends (run (step config order rowOrder) d moves).store :=
  run_invariant _ d (fun after => d.store.Extends after.store) d.store.extends_refl
    (fun after move grown => Store.extends_trans _ _ _ grown
      (extends_step config order rowOrder after move)) moves

end Daemon

end

end TgLoggerd

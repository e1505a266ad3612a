import TgLoggerd.DaemonHistory
import TgLoggerd.JobFlow
import TgLoggerd.Simulation
import TgLoggerd.WorkerInvariants

/-!
The program as the operating system runs it: the threads of `start` on queues that
fill up and connections that run out, over the database their transactions write,
for any number of lifetimes. `Daemon` forgets the threads; here it is said what it
remembers of them.
-/

namespace TgLoggerd

open Function SerialRun Simulation ThreadPool

/-- What the transaction of a job writes. -/
def SerialTask.write : SerialTask → Option DbWrite
  | .call _ handed => handed.write
  | .link _ owner fileId => some (linkWrite owner fileId)

section

variable {Key : Type} [DecidableEq Key]

/-- `events` only records what was received. -/
structure Process (collate : String → Key) (threads : Nat) where
  system : WorkerSystem collate threads
  store : Store collate := Store.empty
  events : List Event := []

namespace Process

inductive Move (threads : Nat) where
  /-- A step of a thread; a transaction that ends with it is committed. -/
  | thread (move : WorkerSystem.Move threads)
  /-- The transaction of the serial worker ends, and was rolled back. -/
  | fail
  /-- The process ends, wherever its threads are, and is started again. -/
  | restart

/-- The move may cost a job that was posted to `serial_`. -/
def Move.loses {threads : Nat} : Move threads → Bool
  | .fail | .restart => true
  | .thread (.refuse none _) => true
  | .thread _ => false

variable {collate : String → Key} {threads : Nat}

section

variable (config : Config) (order : MapOrder) (rowOrder : RowOrder)
  (fileCap serialCap poolSize : Nat)

/-- The transaction of the job that the serial worker runs. -/
def commit (p : Process collate threads) : Store collate :=
  match p.system.serial.workers () with
  | .running task => (task.write.map (p.store.commit order rowOrder)).getD p.store
  | _ => p.store

/-- What a step of a thread leaves in the database. -/
def writes (p : Process collate threads) (system : WorkerSystem collate threads) :
    WorkerSystem.Move threads → Store collate
  | .execute => p.commit order rowOrder
  | .upsert _ _ _ => { p.store with files := system.table }
  | _ => p.store

def receives (p : Process collate threads) : WorkerSystem.Move threads → List Event
  | .receive event => p.events ++ [event]
  | _ => p.events

/-- A started process finds the database as it is. -/
def launch (store : Store collate) : WorkerSystem collate threads :=
  let fresh : WorkerSystem collate threads := WorkerSystem.start fileCap serialCap poolSize
  { fresh with table := store.files }

def start : Process collate threads where
  system := launch fileCap serialCap poolSize Store.empty

/-- A step that the places of the threads allow. -/
def step (p : Process collate threads) : Move threads → Option (Process collate threads)
  | .thread move =>
      (p.system.step config move).map fun system =>
        { p with
          system := system
          store := p.writes order rowOrder system move
          events := p.receives move }
  | .fail => (p.system.step config .execute).map fun system => { p with system := system }
  -- Queues, caches and connections are gone, and the committed rows are not.
  | .restart => some { p with system := launch fileCap serialCap poolSize p.store }

def runs (moves : List (Move threads)) : Process collate threads :=
  run (attempt (step config order rowOrder fileCap serialCap poolSize))
    (start fileCap serialCap poolSize) moves

end

/-- `start` is past both its shutdowns. -/
def Ended (p : Process collate threads) : Prop :=
  p.system.main = .drainingSerial ∧ p.system.serial.owner = .outside

end Process

namespace WorkerSystem

variable {collate : String → Key} {threads : Nat}

/-- The call that waits in `post` of `serial_`: the loop has not got rid of it. -/
def heldCalls (s : WorkerSystem collate threads) : List Call :=
  match (s.serial.posters none).job with
  | some (.call _ call) => [call]
  | _ => []

/-- The files in the queue, and the one that the loop waits to put there. -/
def fileQueue (s : WorkerSystem collate threads) : List FileJob :=
  (s.files.queue ++ (s.files.posters ()).job.toList).map FileTask.job

/-- What a worker of `files_` is doing, by the link it waits to post, the job it has
and how far it has come with it. -/
def fileWorkerAt (posts : Option SerialTask) (task : Option FileTask) (stage : Stage) :
    FileWorker :=
  match posts with
  | some (.link _ owner fileId) => .linking owner fileId
  | _ =>
      match task, stage with
      | some task, .fresh => .storing task.job
      | some task, .transacting => .storing task.job
      | some task, .transacted (some fileId) => .linking task.job.owner fileId
      | _, _ => .idle

def fileWorker (s : WorkerSystem collate threads) (worker : Workers threads) : FileWorker :=
  fileWorkerAt (s.serial.posters (some worker)).job (s.files.workers worker).job
    (s.stages (some worker))

/-- The jobs of `serial_` whose transaction is still to come. -/
def serialTasks (s : WorkerSystem collate threads) : List SerialTask :=
  (match s.stages none with
    | .fresh | .transacting => (s.serial.workers ()).job.toList
    | _ => []) ++ s.serial.queue

def serialQueue (s : WorkerSystem collate threads) : List DbWrite :=
  s.serialTasks.filterMap SerialTask.write

/-- The step that the daemon takes for a step of the threads: none where threads
only wait for each other, and the step of a handler or a link when `post` has let
it through. -/
def means (s next : WorkerSystem collate threads) :
    Move threads → List (Daemon.Move (Workers threads))
  | .receive event => [.receive event]
  | .hand => if (next.serial.posters none).job = none then [.hand] else []
  | .files (.look worker) => if next.files.queue = s.files.queue then [] else [.take worker]
  | .serial (.enter none _) => if next.serial.queue = s.serial.queue then [] else [.hand]
  | .serial (.enter (some worker) _) =>
      if next.serial.queue = s.serial.queue then [] else [.post worker]
  | .store worker false => [.store worker none]
  | .refuse none _ => [.fail]
  | .refuse (some worker) _ => [.store worker none]
  | .upsert worker digest fails => [.store worker (if fails then none else some digest)]
  | .execute => [.commit]
  | _ => []

end WorkerSystem

namespace Process

variable {collate : String → Key} {threads : Nat}

def means (p : Process collate threads) (move : Move threads) (next : Process collate threads) :
    List (Daemon.Move (Workers threads)) :=
  match move with
  | .thread move => p.system.means next.system move
  | .fail => [.fail]
  | .restart => [.restart]

/-- What a run of the process does in the daemon's steps. -/
def schedule (collate : String → Key) (config : Config) (order : MapOrder) (rowOrder : RowOrder)
    (fileCap serialCap poolSize : Nat) (moves : List (Move threads)) :
    List (Daemon.Move (Workers threads)) :=
  let first : Process collate threads := start fileCap serialCap poolSize
  Simulation.schedule (step config order rowOrder fileCap serialCap poolSize) means first moves

/-- The daemon is in the state that the threads are in. -/
structure Implements (p : Process collate threads) (d : Daemon collate (Workers threads)) :
    Prop where
  impl : d.impl = p.system.impl
  store : d.store = p.store
  events : d.events = p.events
  pending : d.pending = p.system.heldCalls ++ p.system.pending
  files : d.files = p.system.fileQueue
  workers : d.workers = p.system.fileWorker
  serial : d.serial = p.system.serialQueue

end Process

/-- Nothing is under way. -/
structure Daemon.Settled {collate : String → Key} {Worker : Type} (d : Daemon collate Worker) :
    Prop where
  called : d.pending = []
  noFiles : d.files = []
  idle : ∀ worker, d.workers worker = .idle
  caughtUp : d.serial = []

end

end TgLoggerd

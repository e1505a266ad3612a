import TgLoggerd.MessageRun
import TgLoggerd.Wrapper

/-!
The wrapper together with the worker that stores what it hands over.
`TgLoggerd::start` sets handlers that only post: the jobs of message rows and
reply links go to the serial worker at once, a downloaded file first to a file
worker, which posts the link to its row at any later time. The serial worker
takes one job after the other, and a job either commits or is rolled back and
only logged. Jobs that reach no message table are left out.
-/

namespace TgLoggerd

open SerialRun

inductive StoreOp where
  | onPrivate (op : MessageOp PrivateSender)
  | onGroup (op : MessageOp GroupSender)
  deriving DecidableEq, Repr

/-- A posted job, with the event whose handling posted it; a link job comes
from a file worker and has none. -/
structure Job where
  cause : Option Event
  op : StoreOp
  deriving DecidableEq, Repr

/-- The job of a handler, for the handlers that post to a message table. -/
def handlerJob : Call → Option StoreOp
  | .privateMessage pm => some (.onPrivate (.upsert pm))
  | .groupMessage gm => some (.onGroup (.upsert gm))
  | .messageReply mr =>
      some
        (if mr.isGroup then
          .onGroup (.setReply mr.chatId mr.messageId mr.replyToChatId mr.replyToMsgId)
        else .onPrivate (.setReply mr.chatId mr.messageId mr.replyToChatId mr.replyToMsgId))
  | _ => none

def jobsOf (event : Event) (actions : List Action) : List Job :=
  actions.filterMap fun action =>
    match action with
    | .hand call => (handlerJob call).map fun op => ⟨some event, op⟩
    | .send _ _ => none

/-- The job `onMessageFile` posts once the file is stored. -/
def linkJob (mf : MessageFile) (fileId : Nat) : Job where
  cause := none
  op :=
    if mf.isGroup then .onGroup (.setFile mf.chatId mf.messageId fileId)
    else .onPrivate (.setFile mf.chatId mf.messageId fileId)

/-- `posted` and `committed` record the jobs in the order in which they were
posted and took effect. -/
structure Logger where
  impl : Impl
  queue : List Job
  privates : PrivateTables
  groups : GroupTables
  posted : List Job
  committed : List Job

def Logger.initial : Logger where
  impl := Impl.initial
  queue := []
  privates := MessageTables.empty
  groups := MessageTables.empty
  posted := []
  committed := []

inductive Move where
  /-- A turn of the event loop. -/
  | receive (event : Event)
  /-- A file worker has stored a file that was handed over. -/
  | link (mf : MessageFile) (fileId : Nat)
  /-- The serial worker runs its next job. -/
  | commit
  /-- The same, and the job throws. -/
  | fail
  deriving DecidableEq, Repr

def Logger.post (logger : Logger) (jobs : List Job) : Logger :=
  { logger with queue := logger.queue ++ jobs, posted := logger.posted ++ jobs }

def Logger.apply (logger : Logger) : StoreOp → Logger
  | .onPrivate op => { logger with privates := privateStep logger.privates op }
  | .onGroup op => { logger with groups := groupStep logger.groups op }

def advance (config : Config) (logger : Logger) : Move → Logger
  | .receive event =>
      { logger with impl := process config logger.impl event }.post
        (jobsOf event (reaction config logger.impl event).2)
  | .link mf fileId =>
      if .hand (.messageFile mf) ∈ logger.impl.log then logger.post [linkJob mf fileId] else logger
  | .commit =>
      match logger.queue with
      | [] => logger
      | job :: rest =>
          { logger.apply job.op with queue := rest, committed := logger.committed ++ [job] }
  | .fail =>
      match logger.queue with
      | [] => logger
      | _ :: rest => { logger with queue := rest }

/-- The operations on the private tables among some jobs, with their causes. -/
def Job.onPrivate (job : Job) : Option (Option Event × MessageOp PrivateSender) :=
  match job.op with
  | .onPrivate op => some (job.cause, op)
  | .onGroup _ => none

def Job.onGroup (job : Job) : Option (Option Event × MessageOp GroupSender) :=
  match job.op with
  | .onPrivate _ => none
  | .onGroup op => some (job.cause, op)

def privateOps (jobs : List Job) : List (Option Event × MessageOp PrivateSender) :=
  jobs.filterMap Job.onPrivate

def groupOps (jobs : List Job) : List (Option Event × MessageOp GroupSender) :=
  jobs.filterMap Job.onGroup

@[simp]
theorem privateOps_snoc (jobs : List Job) (job : Job) :
    privateOps (jobs ++ [job]) = privateOps jobs ++ job.onPrivate.toList := by
  rw [privateOps, List.filterMap_append, ← privateOps]
  cases found : job.onPrivate <;> simp [found]

@[simp]
theorem groupOps_snoc (jobs : List Job) (job : Job) :
    groupOps (jobs ++ [job]) = groupOps jobs ++ job.onGroup.toList := by
  rw [groupOps, List.filterMap_append, ← groupOps]
  cases found : job.onGroup <;> simp [found]

/-- The tables hold what the committed jobs left, and jobs are neither
reordered nor repeated between posting and commit. -/
structure Serial (logger : Logger) : Prop where
  privates : logger.privates = messageStore ((privateOps logger.committed).map Prod.snd)
  groups : logger.groups = messageStore ((groupOps logger.committed).map Prod.snd)
  ordered : (logger.committed ++ logger.queue).Sublist logger.posted

theorem serial_post (logger : Logger) (jobs : List Job) (serial : Serial logger) :
    Serial (logger.post jobs) where
  privates := serial.privates
  groups := serial.groups
  ordered := by
    have grown := serial.ordered.append (List.Sublist.refl jobs)
    rwa [List.append_assoc] at grown

theorem serial_advance (config : Config) (logger : Logger) (move : Move)
    (serial : Serial logger) : Serial (advance config logger move) := by
  cases move with
  | receive event => exact serial_post _ _ ⟨serial.privates, serial.groups, serial.ordered⟩
  | link mf fileId =>
      simp only [advance]
      split
      · exact serial_post logger _ serial
      · exact serial
  | commit =>
      simp only [advance]
      split
      · exact serial
      · rename_i job rest queued
        -- The head leaves the queue for the end of the committed jobs.
        have ordered := serial.ordered
        rw [queued] at ordered
        obtain ⟨cause, op⟩ := job
        cases op with
        | onPrivate op =>
            refine ⟨?_, ?_, by simpa [Logger.apply] using ordered⟩
            · rw [privateOps_snoc, Job.onPrivate, List.map_append]
              simp only [Logger.apply, serial.privates, privateStep_eq]
              exact (messageStore_snoc _ op).symm
            · simpa [Logger.apply, Job.onGroup] using serial.groups
        | onGroup op =>
            refine ⟨?_, ?_, by simpa [Logger.apply] using ordered⟩
            · simpa [Logger.apply, Job.onPrivate] using serial.privates
            · rw [groupOps_snoc, Job.onGroup, List.map_append]
              simp only [Logger.apply, serial.groups, groupStep_eq]
              exact (messageStore_snoc _ op).symm
  | fail =>
      simp only [advance]
      split
      · exact serial
      · rename_i job rest queued
        refine ⟨serial.privates, serial.groups, ?_⟩
        have ordered := serial.ordered
        rw [queued] at ordered
        exact ((List.Sublist.refl _).append (List.sublist_cons_self job rest)).trans ordered

theorem serial_run (config : Config) (moves : List Move) :
    Serial (run (advance config) Logger.initial moves) :=
  run_invariant (advance config) Logger.initial Serial ⟨rfl, rfl, List.Sublist.refl _⟩
    (serial_advance config) moves

end TgLoggerd

import TgLoggerd.Ledger

/-!
The thread pools are transparent. The event loop hands jobs to two pools and goes
on; the file workers finish in any order and post their links between the other
jobs. What the tables say apart from files is nevertheless what one thread makes
of the updates that runs each job at once.
-/

namespace TgLoggerd

open Function SerialRun

theorem isLink_linkWrite (owner : Owner) (fileId : Nat) :
    (linkWrite owner fileId).isLink = true := by
  rcases owner with ⟨chatId, messageId, _ | _⟩ | userId | groupId <;> rfl

theorem isLink_write (call : Call) (write : DbWrite) (posts : call.write = some write) :
    write.isLink = false := by
  cases call with
  | messageReply mr =>
      rcases mr with ⟨chatId, messageId, replyToChatId, replyToMsgId, _ | _⟩ <;>
        cases posts <;> rfl
  | _ => cases posts <;> rfl

/-- A call goes to one pool only. -/
theorem write_fileJob (call : Call) (job : FileJob) (posts : call.fileJob = some job) :
    call.write = none := by
  cases call <;> first | rfl | cases posts

/-- What the handlers called so far have to write, in the order of the calls. -/
def callWrites (calls : List Call) : List DbWrite := calls.filterMap Call.write

theorem callWrites_cons (call : Call) (rest : List Call) :
    callWrites (call :: rest) = call.write.toList ++ callWrites rest := by
  cases written : call.write <;> simp [callWrites, written]

theorem callWrites_snoc (calls : List Call) (call : Call) :
    callWrites (calls ++ [call]) = callWrites calls ++ call.write.toList := by
  cases written : call.write <;> simp [callWrites, written]

/-- No call posts a link. -/
theorem filter_write (call : Call) :
    call.write.toList.filter (fun write => !write.isLink) = call.write.toList := by
  cases written : call.write with
  | none => rfl
  | some write => simp [isLink_write call write written]

section

variable {Key : Type} [DecidableEq Key] {collate : String → Key}

/-- One thread: it takes the events one after the other and does at once what the
handlers would post. -/
def sequential (config : Config) (order : MapOrder) (rowOrder : RowOrder)
    (events : List Event) : Ledger collate :=
  run (Ledger.commit order rowOrder) Ledger.empty
    (callWrites ((runEvents config events).log.filterMap Action.call))

theorem sequential_snoc (config : Config) (order : MapOrder) (rowOrder : RowOrder)
    (events : List Event) (event : Event) :
    (sequential config order rowOrder (events ++ [event]) : Ledger collate) =
      run (Ledger.commit order rowOrder) (sequential config order rowOrder events)
        (callWrites ((reaction config (runEvents config events) event).2.filterMap
          Action.call)) := by
  rw [sequential, runEvents_snoc, log_process, List.filterMap_append, callWrites,
    List.filterMap_append, run_append]
  rfl

namespace Daemon

variable {Worker : Type} [DecidableEq Worker]

/-- What the serial worker still has to write, apart from links. -/
def owed (d : Daemon collate Worker) : List DbWrite :=
  d.serial.filter (fun write => !write.isLink) ++ callWrites d.pending

variable (config : Config) (order : MapOrder) (rowOrder : RowOrder)

def events (d : Daemon collate Worker) : List Event := d.seen.map Prod.snd

/-- Once the queue is worked off, the tables say what the thread alone says. -/
structure Orderly (d : Daemon collate Worker) : Prop where
  fed : d.impl = runEvents config d.events
  level : run (Ledger.commit order rowOrder) d.store.ledger d.owed =
    sequential config order rowOrder d.events

/-- A link that a file worker posts is owed to nobody. -/
theorem owed_post (serial : List DbWrite) (owner : Owner) (fileId : Nat) :
    (serial ++ [linkWrite owner fileId]).filter (fun write => !write.isLink) =
      serial.filter (fun write => !write.isLink) := by
  simp [isLink_linkWrite]

omit [DecidableEq Worker] in
theorem orderly_receives (d : Daemon collate Worker) (event : Event) (idle : d.pending = [])
    (orderly : d.Orderly config order rowOrder) :
    ({ d with
      impl := process config d.impl event
      pending := (reaction config d.impl event).2.filterMap Action.call
      seen := d.seen ++ [(d.impl, event)] } : Daemon collate Worker).Orderly config order
        rowOrder := by
  have events : (d.seen ++ [(d.impl, event)]).map Prod.snd = d.events ++ [event] := by
    simp [Daemon.events]
  refine ⟨?_, ?_⟩
  · change process config d.impl event = runEvents config (_ : List Event)
    rw [Daemon.events, events, runEvents_snoc, ← orderly.fed]
  · have level := orderly.level
    rw [owed, idle, callWrites, List.filterMap_nil, List.append_nil] at level
    rw [Daemon.events, events, sequential_snoc, ← level, ← orderly.fed, owed, run_append]

omit [DecidableEq Worker] in
theorem orderly_commit (d : Daemon collate Worker) (write : DbWrite) (rest : List DbWrite)
    (queued : d.serial = write :: rest) (orderly : d.Orderly config order rowOrder) :
    ({ d with serial := rest, store := d.store.commit order rowOrder write } :
      Daemon collate Worker).Orderly config order rowOrder := by
  refine ⟨orderly.fed, ?_⟩
  have projects := @Store.ledger_projects Key _ collate order rowOrder
  have level := orderly.level
  rw [owed, queued] at level
  change run _ (d.store.commit order rowOrder write).ledger
    (rest.filter (fun write => !write.isLink) ++ callWrites d.pending) = _
  cases link : write.isLink with
  | true =>
      -- A link is not owed, and changes nothing that the ledger reads.
      rw [List.filter_cons_of_neg (by simp [link])] at level
      rw [projects.other _ write (by simp [link])]
      exact level
  | false =>
      rw [List.filter_cons_of_pos (by simp [link])] at level
      rw [projects.own _ write (by simp [link])]
      exact level

theorem orderly_step (d : Daemon collate Worker) (move : Move Worker)
    (steady : move ≠ .fail ∧ move ≠ .restart) (orderly : d.Orderly config order rowOrder) :
    (step config order rowOrder d move).Orderly config order rowOrder := by
  have took := took_step config order rowOrder d move
  generalize step config order rowOrder d move = after at took ⊢
  have level := orderly.level
  cases took with
  | rests => exact orderly
  | receives event idle running =>
      exact orderly_receives config order rowOrder d event idle orderly
  | handsFile call rest next job posts =>
      refine ⟨orderly.fed, ?_⟩
      rw [owed, next, callWrites_cons, write_fileJob call job posts, Option.toList_none,
        List.nil_append] at level
      exact level
  | handsWrite call rest next noFile =>
      -- The job moves from the calls to the queue, and is owed as before.
      refine ⟨orderly.fed, ?_⟩
      rw [owed, next, callWrites_cons, ← List.append_assoc] at level
      rw [owed, List.filter_append, filter_write]
      exact level
  | takes => exact { orderly with }
  | loses => exact { orderly with }
  | stores worker job storing digest =>
      refine ⟨orderly.fed, ?_⟩
      change run _ (d.store.storeFile (some digest) job.download).2.ledger d.owed = _
      rw [Store.ledger_storeFile]
      exact level
  | posts worker owner fileId linking =>
      refine ⟨orderly.fed, ?_⟩
      rw [owed, owed_post]
      exact level
  | commits write rest queued =>
      exact orderly_commit config order rowOrder d write rest queued orderly
  | fails => exact absurd rfl steady.1
  | restarts => exact absurd rfl steady.2

theorem orderly_runs (moves : List (Move Worker))
    (steady : ∀ move ∈ moves, move ≠ .fail ∧ move ≠ .restart) :
    (runs config order rowOrder moves : Daemon collate Worker).Orderly config order rowOrder := by
  induction moves using List.reverseRecOn with
  | nil => exact ⟨rfl, rfl⟩
  | append_singleton moves move ih =>
      rw [runs, run_snoc]
      exact orderly_step config order rowOrder _ move (steady move (by simp))
        (ih fun earlier member => steady earlier (by simp [member]))

end Daemon

/-- Whatever the workers do and in whichever order they finish: when the loop has
made its calls and the serial worker has caught up, users, groups, usernames,
administrators, messages, replies and their histories are what one thread alone
makes of the updates received. -/
theorem pools_transparent {Key : Type} [DecidableEq Key] {collate : String → Key} {Worker : Type}
    [DecidableEq Worker] (config : Config) (order : MapOrder) (rowOrder : RowOrder)
    (moves : List (Daemon.Move Worker))
    (steady : ∀ move ∈ moves, move ≠ .fail ∧ move ≠ .restart)
    (called : (Daemon.runs config order rowOrder moves : Daemon collate Worker).pending = [])
    (caughtUp : (Daemon.runs config order rowOrder moves : Daemon collate Worker).serial = []) :
    let d : Daemon collate Worker := Daemon.runs config order rowOrder moves
    d.store.ledger = sequential config order rowOrder d.events := by
  have orderly : (Daemon.runs config order rowOrder moves : Daemon collate Worker).Orderly config
      order rowOrder := Daemon.orderly_runs config order rowOrder moves steady
  have level := orderly.level
  rw [Daemon.owed, called, caughtUp] at level
  exact level

end

/-- A user arrives, and the photo that was asked for; the only worker is done with
it before the serial worker has written the user. -/
def photoOvertakes : List (Daemon.Move Unit) :=
  let photo : TdApi.File := { id := 1, remoteFile := some { id := "photo" } }
  [.receive (.update (.user (some { id := 7, profilePhoto := some (some photo) }))),
    .hand,
    .receive (.update (.file (some { photo with
      localFile := some { path := "photos/1.jpg", isDownloadingCompleted := true } }))),
    .hand,
    .take (),
    .store () (some ⟨List.replicate 32 0, List.length_replicate⟩),
    .post (),
    .commit,
    .commit]

theorem pools_transparent_when_overtaken :
    let d : Daemon foldCase Unit :=
      Daemon.runs (Config.started 300 4) insertionOrder storageOrder photoOvertakes
    d.store.ledger = sequential (Config.started 300 4) insertionOrder storageOrder d.events :=
  pools_transparent (Config.started 300 4) insertionOrder storageOrder photoOvertakes (by decide)
    rfl rfl

end TgLoggerd

import TgLoggerd.Database

/-!
Scripts: functions for `Database::transaction` that let every error of a statement
through. A script is said by what it does without errors. With errors anywhere, in its
statements or in the calls around them, its transaction does just that or nothing.
-/

namespace TgLoggerd.Mysql

open SerialRun

variable {Db Outer Rows Item : Type}

inductive Script (Db : Type) where
  | finish
  | select (next : Db → Script Db)
  /-- `Transaction::execute`, whose count is not read. -/
  | execute (effect : Db → Db) (rest : Script Db)
  /-- `Transaction::insert`, whose generated id is not read. -/
  | insert (effect : Db → Db) (rest : Script Db)

namespace Script

/-- `Transaction::query`: the function sees the rows that were selected. -/
def query (read : Db → Rows) (next : Rows → Script Db) : Script Db :=
  .select fun db => next (read db)

def andThen : Script Db → Script Db → Script Db
  | .finish, second => second
  | .select next, second => .select fun db => andThen (next db) second
  | .execute effect rest, second => .execute effect (andThen rest second)
  | .insert effect rest, second => .insert effect (andThen rest second)

def guarded (condition : Prop) [Decidable condition] (script : Script Db) : Script Db :=
  if condition then script else .finish

/-- A loop, with one turn for each item. -/
def each : List Item → (Item → Script Db) → Script Db
  | [], _ => .finish
  | item :: rest, turn => andThen (turn item) (each rest turn)

/-- The same statements on a part of a larger database. -/
def onto (get : Outer → Db) (set : Db → Outer → Outer) : Script Db → Script Outer
  | .finish => .finish
  | .select next => .select fun outer => onto get set (next (get outer))
  | .execute effect rest =>
      .execute (fun outer => set (effect (get outer)) outer) (onto get set rest)
  | .insert effect rest =>
      .insert (fun outer => set (effect (get outer)) outer) (onto get set rest)

/-- What the script does when nothing throws. -/
def runs : Script Db → Db → Db
  | .finish, db => db
  | .select next, db => runs (next db) db
  | .execute effect rest, db => runs rest (effect db)
  | .insert effect rest, db => runs rest (effect db)

/-- The script as a function that `Database::transaction` can run. -/
def body : Script Db → Body Db Db
  | .finish => .finish
  | .select next =>
      .statement (fun db => (db, db)) fun fetched =>
        match fetched with
        | some seen => body (next seen)
        | none => .raise
  | .execute effect rest =>
      .statement (fun db => (effect db, db)) fun done =>
        match done with
        | some _ => body rest
        | none => .raise
  | .insert effect rest =>
      Body.insert (fun db => (effect db, db)) fun done =>
        match done with
        | some _ => body rest
        | none => .raise

@[simp]
theorem runs_finish (db : Db) : (finish : Script Db).runs db = db := rfl

@[simp]
theorem runs_execute (effect : Db → Db) (rest : Script Db) (db : Db) :
    (execute effect rest).runs db = rest.runs (effect db) := rfl

@[simp]
theorem runs_insert (effect : Db → Db) (rest : Script Db) (db : Db) :
    (insert effect rest).runs db = rest.runs (effect db) := rfl

@[simp]
theorem runs_query (read : Db → Rows) (next : Rows → Script Db) (db : Db) :
    (query read next).runs db = (next (read db)).runs db := rfl

@[simp]
theorem runs_andThen (first second : Script Db) (db : Db) :
    (first.andThen second).runs db = second.runs (first.runs db) := by
  induction first generalizing db with
  | finish => rfl
  | select next ih => exact ih db db
  | execute effect rest ih => exact ih (effect db)
  | insert effect rest ih => exact ih (effect db)

@[simp]
theorem runs_guarded (condition : Prop) [Decidable condition] (script : Script Db) (db : Db) :
    (guarded condition script).runs db = if condition then script.runs db else db := by
  unfold guarded
  split <;> rfl

theorem runs_each (items : List Item) (turn : Item → Script Db) (effect : Db → Item → Db)
    (one : ∀ item db, (turn item).runs db = effect db item) (db : Db) :
    (each items turn).runs db = items.foldl effect db := by
  induction items generalizing db with
  | nil => rfl
  | cons item rest ih => rw [each, runs_andThen, one, ih, List.foldl_cons]

/-- What is put into a larger database is read there, and nothing else changes. -/
structure Part (get : Outer → Db) (set : Db → Outer → Outer) : Prop where
  get_set : ∀ db outer, get (set db outer) = db
  set_set : ∀ db later outer, set later (set db outer) = set later outer
  set_get : ∀ outer, set (get outer) outer = outer

theorem runs_onto (get : Outer → Db) (set : Db → Outer → Outer) (part : Part get set)
    (script : Script Db) (outer : Outer) :
    (script.onto get set).runs outer = set (script.runs (get outer)) outer := by
  induction script generalizing outer with
  | finish => exact (part.set_get outer).symm
  | select next ih => exact ih (get outer) outer
  | execute effect rest ih =>
      have later := ih (set (effect (get outer)) outer)
      rw [part.get_set, part.set_set] at later
      exact later
  | insert effect rest ih =>
      have later := ih (set (effect (get outer)) outer)
      rw [part.get_set, part.set_set] at later
      exact later

/-- A statement throws and the function with it, or none does. -/
theorem apply_body (script : Script Db) (throws : Nat → Bool) (db : Db) :
    (script.body.apply throws db).2 = false ∨
      script.body.apply throws db = (script.runs db, true) := by
  induction script generalizing throws db with
  | finish => exact Or.inr rfl
  | select next ih =>
      simp only [body, Body.apply]
      split
      · exact Or.inl rfl
      · exact ih db _ db
  | execute effect rest ih =>
      simp only [body, Body.apply]
      split
      · exact Or.inl rfl
      · exact ih _ (effect db)
  | insert effect rest ih =>
      simp only [body, Body.insert, Body.apply]
      split
      · exact Or.inl rfl
      · -- The row is in, and the generated id is asked for.
        split
        · exact Or.inl rfl
        · exact ih _ (effect db)

end Script

/-- The changes of a function that came to its end are committed. -/
def Faults.commits (faults : Faults) (ended : Bool) : Bool :=
  !faults.setOff && ended && !faults.commit

/-- Nothing throws in the handler that has something to undo. -/
def Faults.Handled (faults : Faults) : Prop :=
  faults.setOff = false → faults.rollback = false ∧ faults.setOnAgain = false

instance (faults : Faults) : Decidable faults.Handled :=
  inferInstanceAs (Decidable
    (faults.setOff = false → faults.rollback = false ∧ faults.setOnAgain = false))

/-- On a connection as it was opened the transaction of a script does what the script
does, if all statements and the commit succeed, and nothing otherwise. It returns
normally if it did it and switched back to autocommit mode. The connection is then
again as it was opened. -/
theorem transaction_script (script : Script Db) (faults : Faults) (handled : faults.Handled)
    (db : Db) :
    let outcome := transaction script.body faults { db := db, conn := {} }
    outcome.1.db =
        (if faults.commits (script.body.apply faults.statement db).2 then script.runs db
          else db) ∧
      outcome.2 = (faults.commits (script.body.apply faults.statement db).2 && !faults.setOn) ∧
      outcome.1.conn.autoCommit = true ∧ outcome.1.conn.uncommitted = [] := by
  intro outcome
  simp only [outcome]
  cases off : faults.setOff with
  | true =>
      rw [transaction_off script.body faults db off]
      exact ⟨by simp [Faults.commits, off], by simp [Faults.commits, off], rfl, rfl⟩
  | false =>
      by_cases fails : (script.body.apply faults.statement db).2 = false ∨ faults.commit = true
      · obtain ⟨session, kept, still, outcome⟩ :=
          transaction_fails script.body faults db off fails
        have nothing : faults.commits (script.body.apply faults.statement db).2 = false := by
          rcases fails with raised | thrown
          · simp [Faults.commits, raised]
          · simp [Faults.commits, thrown]
        rw [outcome, nothing]
        exact ⟨(db_recover faults session).trans kept, rfl,
          (conn_recover faults session still).mpr (handled off)⟩
      · obtain ⟨ended, commits⟩ := not_or.mp fails
        rw [Bool.not_eq_false] at ended
        rw [Bool.not_eq_true] at commits
        obtain ⟨session, changed, still, none, outcome⟩ :=
          transaction_commits script.body faults db off ended commits
        have whole := (script.apply_body faults.statement db).resolve_left
          (by rw [ended]; exact Bool.noConfusion)
        have all : faults.commits (script.body.apply faults.statement db).2 = true := by
          simp [Faults.commits, off, ended, commits]
        rw [all, outcome]
        rw [whole] at changed
        -- Only the switch back to autocommit mode is left to fail.
        cases on : faults.setOn with
        | false =>
            have clean : session.sees = session.db := by simp [Session.sees, none]
            exact ⟨clean.trans changed, rfl, rfl, rfl⟩
        | true =>
            exact ⟨(db_recover faults session).trans changed, rfl,
              (conn_recover faults session still).mpr (handled off)⟩

namespace Call

/-- What the call does is committed, if it gets a connection. -/
def commits : Call Db Rows → Db → Bool
  | .transaction fn faults _, db => faults.commits (fn.apply faults.statement db).2
  | .execute _ throws _, _ => !throws
  | .query _ throws _, _ => !throws

/-- Nothing throws after the commit. -/
def reports : Call Db Rows → Bool
  | .transaction _ faults _ => !faults.setOn
  | .execute _ _ _ => true
  | .query _ _ _ => true

/-- The call is the transaction of a script or one statement, and what it commits is
this effect. -/
def Performs (effect : Db → Db) (db : Db) : Call Db Db → Prop
  | .transaction fn faults _ =>
      faults.Handled ∧ ∃ script : Script Db, fn = script.body ∧
        (faults.commits (fn.apply faults.statement db).2 = true → script.runs db = effect db)
  | .execute run throws _ => throws = false → (run db).1 = effect db
  | .query _ throws _ => throws = false → db = effect db

theorem perform_performs (call : Call Db Db) (effect : Db → Db) (db : Db)
    (performs : call.Performs effect db) :
    let outcome := call.perform { db := db, conn := {} }
    outcome.1.db = (if call.commits db then effect db else db) ∧
      outcome.2 = (call.commits db && call.reports) ∧
      outcome.1.conn.autoCommit = true ∧ outcome.1.conn.uncommitted = [] := by
  cases call with
  | transaction fn faults create =>
      obtain ⟨handled, script, rfl, same⟩ := performs
      obtain ⟨changed, normal, fresh⟩ := transaction_script script faults handled db
      refine ⟨changed.trans ?_, normal, fresh⟩
      by_cases committed : faults.commits (script.body.apply faults.statement db).2 = true
      · rw [if_pos committed, same committed]
        exact (if_pos committed).symm
      · rw [if_neg committed]
        exact (if_neg committed).symm
  | execute run throws create =>
      cases throws with
      | true => exact ⟨rfl, rfl, rfl, rfl⟩
      | false => exact ⟨performs rfl, rfl, rfl, rfl⟩
  | query read throws create =>
      cases throws with
      | true => exact ⟨rfl, rfl, rfl, rfl⟩
      | false => exact ⟨performs rfl, rfl, rfl, rfl⟩

end Call

namespace Database

variable {Job : Type} (call : Job → Call Db Db) (effect : Job → Db → Db)

/-- Jobs that each make one call. -/
def serve (database : Database Db Db) (job : Job) : Database Db Db := database.step (call job)

/-- The job, if its call is committed. -/
def commits (database : Database Db Db) (job : Job) : List Job :=
  if (database.acquire (call job).create).isSome ∧ (call job).commits database.db = true then
    [job]
  else []

/-- Connections in the pool are as they were opened. -/
def Clean (database : Database Db Db) : Prop :=
  ∀ conn ∈ database.idle, conn.autoCommit = true ∧ conn.uncommitted = []

theorem acquire_clean (database : Database Db Db) (clean : database.Clean) (create : Bool)
    (conn : Connection Db) (borrowed : Database Db Db)
    (acquired : database.acquire create = some (conn, borrowed)) :
    conn = {} ∧ borrowed.db = database.db ∧ borrowed.returned = database.returned ∧
      borrowed.Clean := by
  simp only [acquire] at acquired
  cases idle : database.idle with
  | nil =>
      simp only [idle] at acquired
      split_ifs at acquired
      cases acquired
      exact ⟨rfl, rfl, rfl, by simp [Clean]⟩
  | cons first rest =>
      simp only [idle] at acquired
      cases acquired
      simp only [Clean, idle, List.forall_mem_cons] at clean
      obtain ⟨⟨auto, none⟩, others⟩ := clean
      refine ⟨?_, rfl, rfl, others⟩
      cases conn
      cases auto
      cases none
      rfl

theorem serve_performs (database : Database Db Db) (clean : database.Clean) (job : Job)
    (performs : (call job).Performs (effect job) database.db) :
    (database.serve call job).Clean ∧
      (database.serve call job).db =
        (database.commits call job).foldl (fun db job => effect job db) database.db ∧
      (database.serve call job).returned = database.returned ++
        ((database.commits call job).filter fun job => (call job).reports).map call := by
  cases acquired : database.acquire (call job).create with
  | none =>
      have idle : database.serve call job = database := by simp only [serve, step, acquired]
      rw [idle]
      exact ⟨clean, by simp [commits, acquired], by simp [commits, acquired]⟩
  | some lent =>
      obtain ⟨conn, borrowed⟩ := lent
      -- Reused or new, the connection is as it was opened.
      obtain ⟨rfl, db, returned, others⟩ :=
        acquire_clean database clean _ conn borrowed acquired
      obtain ⟨changed, normal, fresh⟩ :=
        Call.perform_performs (call job) (effect job) database.db performs
      simp only [serve, step, acquired, db, returned, commits, Option.isSome_some, true_and]
      refine ⟨?_, ?_, ?_⟩
      · intro other member
        rcases List.mem_append.mp member with old | given
        · exact others other old
        · rw [List.mem_singleton.mp given]
          exact fresh
      · rw [changed]
        split <;> rfl
      · rw [normal]
        cases (call job).commits database.db with
        | false => rfl
        | true => cases reported : (call job).reports <;> simp [reported]

/-- Whatever fails, the database is that of the effects of the committed jobs in their
order. The calls that returned normally are theirs, but those where an error came after
the commit. -/
theorem serves_performs (db : Db) (poolSize : Nat) (jobs : List Job)
    (performs : EveryStep (serve call) (start db poolSize)
      (fun database job => (call job).Performs (effect job) database.db) jobs) :
    let database := run (serve call) (start db poolSize) jobs
    let committed := outputs (serve call) (commits call) (start db poolSize) jobs
    database.Clean ∧ database.db = committed.foldl (fun db job => effect job db) db ∧
      database.returned = (committed.filter fun job => (call job).reports).map call := by
  induction jobs using List.reverseRecOn with
  | nil => exact ⟨by simp [Clean, start], rfl, rfl⟩
  | append_singleton jobs job ih =>
      -- The last job meets the database that the committed jobs before it left.
      obtain ⟨earlier, last⟩ := (everyStep_snoc _ _ _ _ _).mp performs
      obtain ⟨clean, same, listed⟩ := ih earlier
      obtain ⟨still, after, lists⟩ := serve_performs call effect _ clean job last
      simp only [run_snoc, outputs_snoc, List.foldl_append, List.filter_append, List.map_append,
        ← same, ← listed]
      exact ⟨still, after, lists⟩

end Database

end TgLoggerd.Mysql

import TgLoggerd.SerialRun

/-!
`Database.cpp`: calls that borrow a connection, run statements on it and give it
back, while any call of the driver may throw. A statement is what it does to the
database and what it returns, as the connection sees the database; a throwing
driver call has no effect. A connection outside autocommit mode keeps its
statements to itself until they are committed.
-/

namespace TgLoggerd.Mysql

open SerialRun

variable {Db Result : Type}

structure Connection (Db : Type) where
  autoCommit : Bool := true
  uncommitted : List (Db → Db) := []

/-- A borrowed connection and the committed state of the database. -/
structure Session (Db : Type) where
  db : Db
  conn : Connection Db

namespace Session

variable (session : Session Db)

/-- The database as the connection sees it. -/
def sees : Db := session.conn.uncommitted.foldl (fun db effect => effect db) session.db

def statement (effect : Db → Db) : Session Db :=
  if session.conn.autoCommit then { session with db := effect session.db }
  else
    { session with
      conn := { session.conn with uncommitted := session.conn.uncommitted ++ [effect] } }

def commit : Session Db :=
  { db := session.sees, conn := { session.conn with uncommitted := [] } }

def rollback : Session Db := { session with conn := { session.conn with uncommitted := [] } }

/-- Autocommit mode commits what is open. -/
def setAutoCommit (on : Bool) : Session Db :=
  if on then { session.commit with conn := {} }
  else { session with conn := { session.conn with autoCommit := false } }

end Session

/-- The function a transaction runs. It goes on with the result of a statement,
or with nothing where the statement threw, and ends normally or by throwing. -/
inductive Body (Db Result : Type) where
  | finish
  | raise
  | statement (run : Db → Db × Result) (next : Option Result → Body Db Result)

namespace Body

/-- `Transaction::insert` asks for the generated id in a statement of its own. -/
def insert (run : Db → Db × Result) (next : Option Result → Body Db Result) : Body Db Result :=
  .statement run fun inserted =>
    match inserted with
    | some id => .statement (fun db => (db, id)) next
    | none => next none

/-- The statements of the body on a session; `throws` names those that fail.
The flag tells a normal end. -/
def exec : Body Db Result → (Nat → Bool) → Session Db → Session Db × Bool
  | .finish, _, session => (session, true)
  | .raise, _, session => (session, false)
  | .statement run next, throws, session =>
      if throws 0 then (next none).exec (fun place => throws (place + 1)) session
      else
        (next (some (run session.sees).2)).exec (fun place => throws (place + 1))
          (session.statement fun db => (run db).1)

/-- The same on the database itself. -/
def apply : Body Db Result → (Nat → Bool) → Db → Db × Bool
  | .finish, _, db => (db, true)
  | .raise, _, db => (db, false)
  | .statement run next, throws, db =>
      if throws 0 then (next none).apply (fun place => throws (place + 1)) db
      else (next (some (run db).2)).apply (fun place => throws (place + 1)) (run db).1

end Body

/-- Which driver calls of one `Database::transaction` throw. `setOnAgain` is the
second `setAutoCommit(true)`, of the handler. -/
structure Faults where
  setOff : Bool := false
  statement : Nat → Bool := fun _ => false
  commit : Bool := false
  setOn : Bool := false
  rollback : Bool := false
  setOnAgain : Bool := false

/-- The handler of `Database::transaction`, which keeps its own errors to itself. -/
def recover (faults : Faults) (session : Session Db) : Session Db :=
  if faults.rollback then session
  else if faults.setOnAgain then session.rollback
  else session.rollback.setAutoCommit true

/-- `Database::transaction` on its connection. The flag tells a normal return. -/
def transaction (fn : Body Db Result) (faults : Faults) (session : Session Db) :
    Session Db × Bool :=
  if faults.setOff then (recover faults session, false)
  else
    match fn.exec faults.statement (session.setAutoCommit false) with
    | (ran, false) => (recover faults ran, false)
    | (ran, true) =>
        if faults.commit then (recover faults ran, false)
        else if faults.setOn then (recover faults ran.commit, false)
        else (ran.commit.setAutoCommit true, true)

/-- A call and the driver calls that throw in it; `create` throws where the call
opens a connection. -/
inductive Call (Db Result : Type) where
  | transaction (fn : Body Db Result) (faults : Faults) (create : Bool)
  | execute (run : Db → Db × Result) (throws create : Bool)
  | query (read : Db → Result) (throws create : Bool)

namespace Call

def create : Call Db Result → Bool
  | .transaction _ _ create => create
  | .execute _ _ create => create
  | .query _ _ create => create

def perform : Call Db Result → Session Db → Session Db × Bool
  | .transaction fn faults _, session => Mysql.transaction fn faults session
  | .execute run throws _, session =>
      if throws then (session, false) else (session.statement fun db => (run db).1, true)
  | .query _ throws _, session => (session, !throws)

/-- What the call does to the database when it returns normally. -/
def effect : Call Db Result → Db → Db
  | .transaction fn faults _, db => (fn.apply faults.statement db).1
  | .execute run _ _, db => (run db).1
  | .query _ _ _, db => db

end Call

/-- The database and the pool between two calls. `returned` lists the calls that
returned normally. -/
structure Database (Db Result : Type) where
  db : Db
  idle : List (Connection Db) := []
  created : Nat := 0
  poolSize : Nat
  returned : List (Call Db Result) := []

namespace Database

def start (db : Db) (poolSize : Nat) : Database Db Result where
  db := db
  poolSize := max poolSize 1

/-- A connection for one call, unless opening it throws. -/
def acquire (database : Database Db Result) (create : Bool) :
    Option (Connection Db × Database Db Result) :=
  match database.idle with
  | conn :: idle => some (conn, { database with idle := idle })
  | [] =>
      if database.created < database.poolSize then
        if create then none
        else some ({}, { database with created := database.created + 1 })
      else none

/-- One call, from borrowing the connection to giving it back. -/
def step (database : Database Db Result) (call : Call Db Result) : Database Db Result :=
  match database.acquire call.create with
  | none => database
  | some (conn, borrowed) =>
      let (session, normal) := call.perform { db := borrowed.db, conn := conn }
      { borrowed with
        db := session.db
        idle := borrowed.idle ++ [session.conn]
        returned := borrowed.returned ++ if normal then [call] else [] }

end Database

/-- The committed state is that of the calls that returned normally, and the
connections of the pool are as they were opened. -/
structure Settled (start : Db) (database : Database Db Result) : Prop where
  committed : database.db = database.returned.foldl (fun db call => call.effect db) start
  idle : ∀ conn ∈ database.idle, conn.autoCommit = true ∧ conn.uncommitted = []

/-- Once autocommit is off, the handler of a failed transaction has both its
calls succeed, and none is needed after a commit that changed the database. -/
def Recovers (database : Database Db Result) : Call Db Result → Prop
  | .execute _ _ _ => True
  | .query _ _ _ => True
  | .transaction fn faults create =>
      (database.acquire create).isSome → faults.setOff = false →
        let (changed, normal) := fn.apply faults.statement database.db
        normal = false ∨ faults.commit = true ∨ faults.setOn = true →
          faults.rollback = false ∧ faults.setOnAgain = false ∧
            (normal = true → faults.commit = false → changed = database.db)

section

variable (faults : Faults)

theorem db_recover (session : Session Db) : (recover faults session).db = session.db := by
  simp only [recover]
  split
  · rfl
  · split <;> rfl

theorem conn_recover (session : Session Db) (manual : session.conn.autoCommit = false) :
    ((recover faults session).conn.autoCommit = true ∧
        (recover faults session).conn.uncommitted = []) ↔
      faults.rollback = false ∧ faults.setOnAgain = false := by
  cases back : faults.rollback <;> cases again : faults.setOnAgain <;>
    simp [recover, back, again, Session.rollback, Session.setAutoCommit, manual]

/-- Outside a transaction the handler does nothing. -/
theorem recover_clean (db : Db) :
    recover faults ({ db := db, conn := {} } : Session Db) = { db := db, conn := {} } := by
  cases back : faults.rollback <;> cases again : faults.setOnAgain <;>
    simp [recover, back, again, Session.rollback, Session.setAutoCommit, Session.commit,
      Session.sees]

end

/-- Outside autocommit mode the statements of a body are seen by its connection
alone. -/
theorem exec_manual (fn : Body Db Result) (throws : Nat → Bool) (session : Session Db)
    (manual : session.conn.autoCommit = false) :
    (fn.exec throws session).1.db = session.db ∧
      (fn.exec throws session).1.conn.autoCommit = false ∧
      (fn.exec throws session).1.sees = (fn.apply throws session.sees).1 ∧
      (fn.exec throws session).2 = (fn.apply throws session.sees).2 := by
  induction fn generalizing throws session with
  | finish => exact ⟨rfl, manual, rfl, rfl⟩
  | raise => exact ⟨rfl, manual, rfl, rfl⟩
  | statement run next ih =>
      simp only [Body.exec, Body.apply]
      split
      · exact ih none _ session manual
      · have kept : (session.statement fun db => (run db).1).db = session.db := by
          simp [Session.statement, manual]
        have still : (session.statement fun db => (run db).1).conn.autoCommit = false := by
          simp [Session.statement, manual]
        have seen : (session.statement fun db => (run db).1).sees = (run session.sees).1 := by
          simp [Session.statement, manual, Session.sees, List.foldl_append]
        have later := ih (some (run session.sees).2) (fun place => throws (place + 1))
          (session.statement fun db => (run db).1) still
        rw [seen, kept] at later
        exact later

section

variable (fn : Body Db Result) (faults : Faults) (db : Db)

theorem transaction_off (off : faults.setOff = true) :
    transaction fn faults { db := db, conn := {} } = ({ db := db, conn := {} }, false) := by
  simp only [transaction, off, ↓reduceIte, recover_clean]

theorem transaction_fails (off : faults.setOff = false)
    (fails : (fn.apply faults.statement db).2 = false ∨ faults.commit = true) :
    ∃ session : Session Db, session.db = db ∧ session.conn.autoCommit = false ∧
      transaction fn faults { db := db, conn := {} } = (recover faults session, false) := by
  obtain ⟨kept, still, _, normal⟩ := exec_manual fn faults.statement
    (({ db := db, conn := {} } : Session Db).setAutoCommit false) rfl
  refine ⟨_, kept, still, ?_⟩
  simp only [transaction, off, Bool.false_eq_true, ↓reduceIte]
  split
  · next ran equal => rw [equal]
  · next ran equal =>
    rw [equal] at normal
    have ended : (fn.apply faults.statement db).2 = true := normal.symm
    have thrown : faults.commit = true := by
      rcases fails with raised | thrown
      · rw [ended] at raised
        cases raised
      · exact thrown
    rw [if_pos thrown, equal]

theorem transaction_commits (off : faults.setOff = false)
    (ended : (fn.apply faults.statement db).2 = true) (commits : faults.commit = false) :
    ∃ session : Session Db, session.db = (fn.apply faults.statement db).1 ∧
      session.conn.autoCommit = false ∧ session.conn.uncommitted = [] ∧
      transaction fn faults { db := db, conn := {} } =
        if faults.setOn then (recover faults session, false)
        else (session.setAutoCommit true, true) := by
  obtain ⟨_, still, seen, normal⟩ := exec_manual fn faults.statement
    (({ db := db, conn := {} } : Session Db).setAutoCommit false) rfl
  refine ⟨(fn.exec faults.statement
    (({ db := db, conn := {} } : Session Db).setAutoCommit false)).1.commit, seen, still, rfl, ?_⟩
  simp only [transaction, off, Bool.false_eq_true, ↓reduceIte]
  split
  · next ran equal =>
    rw [equal] at normal
    have raised : (fn.apply faults.statement db).2 = false := normal.symm
    rw [ended] at raised
    cases raised
  · next ran equal => rw [commits, equal, if_neg Bool.false_ne_true]

end

/-- The database holds what the call did, if it returned normally, or is
unchanged; the connection is as it was opened. -/
structure LeavesNothing (outcome : Session Db × Bool) (before after : Db) : Prop where
  db : outcome.1.db = if outcome.2 then after else before
  conn : outcome.1.conn.autoCommit = true ∧ outcome.1.conn.uncommitted = []

/-- When a transaction on a fresh connection leaves nothing behind. -/
theorem leaves_transaction (fn : Body Db Result) (faults : Faults) (db : Db) :
    LeavesNothing (transaction fn faults { db := db, conn := {} }) db
        (fn.apply faults.statement db).1 ↔
      (faults.setOff = false →
        (fn.apply faults.statement db).2 = false ∨ faults.commit = true ∨ faults.setOn = true →
          faults.rollback = false ∧ faults.setOnAgain = false ∧
            ((fn.apply faults.statement db).2 = true → faults.commit = false →
              (fn.apply faults.statement db).1 = db)) := by
  cases off : faults.setOff with
  | true =>
      rw [transaction_off fn faults db off]
      constructor
      · intro _ contra
        cases contra
      · intro _
        exact ⟨rfl, rfl, rfl⟩
  | false =>
      by_cases fails : (fn.apply faults.statement db).2 = false ∨ faults.commit = true
      · -- Nothing was committed, and the connection is left in manual mode.
        obtain ⟨session, kept, still, outcome⟩ := transaction_fails fn faults db off fails
        have conn := conn_recover faults session still
        rw [outcome]
        constructor
        · rintro ⟨_, clean⟩ _ _
          obtain ⟨back, again⟩ := conn.mp clean
          refine ⟨back, again, ?_⟩
          intro ended commits
          rcases fails with raised | thrown
          · rw [ended] at raised
            cases raised
          · rw [commits] at thrown
            cases thrown
        · intro recovers
          obtain ⟨back, again, _⟩ := recovers rfl (fails.imp_right Or.inl)
          exact ⟨(db_recover faults session).trans kept, conn.mpr ⟨back, again⟩⟩
      · -- The statements were committed before anything could still throw.
        obtain ⟨ended, commits⟩ := not_or.mp fails
        rw [Bool.not_eq_false] at ended
        rw [Bool.not_eq_true] at commits
        obtain ⟨session, changed, still, none, outcome⟩ :=
          transaction_commits fn faults db off ended commits
        rw [outcome]
        cases on : faults.setOn with
        | false =>
            have clean : session.sees = session.db := by simp [Session.sees, none]
            refine ⟨fun _ _ contra => ?_, fun _ => ⟨clean.trans changed, rfl, rfl⟩⟩
            rcases contra with raised | thrown | thrown
            · rw [ended] at raised
              cases raised
            · rw [commits] at thrown
              cases thrown
            · cases thrown
        | true =>
            have conn := conn_recover faults session still
            constructor
            · rintro ⟨kept, clean⟩ _ _
              obtain ⟨back, again⟩ := conn.mp clean
              refine ⟨back, again, fun _ _ => ?_⟩
              exact changed.symm.trans ((db_recover faults session).symm.trans kept)
            · intro recovers
              obtain ⟨back, again, same⟩ := recovers rfl (Or.inr (Or.inr rfl))
              refine ⟨?_, conn.mpr ⟨back, again⟩⟩
              exact (db_recover faults session).trans (changed.trans (same ended commits))

theorem leaves_perform (database : Database Db Result) (call : Call Db Result)
    (borrows : (database.acquire call.create).isSome) :
    LeavesNothing (call.perform { db := database.db, conn := {} }) database.db
        (call.effect database.db) ↔ Recovers database call := by
  cases call with
  | transaction fn faults create =>
      refine (leaves_transaction fn faults database.db).trans ?_
      exact ⟨fun recovers _ => recovers, fun recovers => recovers borrows⟩
  | execute run throws create =>
      refine iff_of_true ?_ trivial
      cases throws <;> exact ⟨rfl, rfl, rfl⟩
  | query read throws create =>
      refine iff_of_true ⟨?_, rfl, rfl⟩ trivial
      cases throws <;> rfl

section

variable (start : Db) (database : Database Db Result)

/-- A settled pool lends connections as they were opened. -/
theorem acquire_settled (settled : Settled start database) (create : Bool) (conn : Connection Db)
    (borrowed : Database Db Result) (acquired : database.acquire create = some (conn, borrowed)) :
    conn = {} ∧ borrowed.db = database.db ∧ borrowed.returned = database.returned ∧
      ∀ other ∈ borrowed.idle, other.autoCommit = true ∧ other.uncommitted = [] := by
  simp only [Database.acquire] at acquired
  cases idle : database.idle with
  | nil =>
      simp only [idle] at acquired
      split at acquired
      · split at acquired
        · cases acquired
        · cases acquired
          refine ⟨rfl, rfl, rfl, ?_⟩
          intro other member
          cases member
      · cases acquired
  | cons first rest =>
      simp only [idle] at acquired
      cases acquired
      have clean := settled.idle
      rw [idle] at clean
      obtain ⟨auto, none⟩ := clean conn List.mem_cons_self
      refine ⟨?_, rfl, rfl, fun other member => clean other (List.mem_cons_of_mem _ member)⟩
      cases conn
      cases auto
      cases none
      rfl

/-- One call leaves a settled database settled exactly if it recovers. -/
theorem settled_step (settled : Settled start database) (call : Call Db Result) :
    Settled start (database.step call) ↔ Recovers database call := by
  cases acquired : database.acquire call.create with
  | none =>
      have idle : database.step call = database := by simp only [Database.step, acquired]
      rw [idle]
      refine iff_of_true settled ?_
      cases call with
      | transaction fn faults create =>
          intro borrows
          rw [show database.acquire create = none from acquired] at borrows
          cases borrows
      | execute run throws create => trivial
      | query read throws create => trivial
  | some lent =>
      obtain ⟨conn, borrowed⟩ := lent
      obtain ⟨rfl, db, returned, clean⟩ := acquire_settled start database settled _ conn borrowed
        acquired
      rw [← leaves_perform database call (by rw [acquired]; rfl)]
      have after : database.step call =
          { borrowed with
            db := (call.perform { db := database.db, conn := {} }).1.db
            idle := borrowed.idle ++ [(call.perform { db := database.db, conn := {} }).1.conn]
            returned := database.returned ++
              if (call.perform { db := database.db, conn := {} }).2 then [call] else [] } := by
        simp only [Database.step, acquired, db, returned]
      -- The calls returned so far lead to the state before, so the last one decides.
      have replayed : (database.returned ++
            if (call.perform { db := database.db, conn := {} }).2 then [call] else []).foldl
              (fun db call => call.effect db) start =
          if (call.perform { db := database.db, conn := {} }).2 then call.effect database.db
          else database.db := by
        rw [List.foldl_append, ← settled.committed]
        split <;> rfl
      rw [after]
      constructor
      · rintro ⟨committed, idle⟩
        exact ⟨committed.trans replayed, idle _ (List.mem_append_right _ List.mem_cons_self)⟩
      · rintro ⟨committed, own⟩
        refine ⟨committed.trans replayed.symm, ?_⟩
        intro other member
        rcases List.mem_append.mp member with before | last
        · exact clean other before
        · rw [List.mem_singleton.mp last]
          exact own

end

/-- In every state of a run the committed database is that of the calls that
returned normally, and the idle connections are clean, exactly if every failed
transaction of the run recovers. -/
theorem settled_exact (start : Db) (poolSize : Nat) (calls : List (Call Db Result)) :
    EveryState Database.step (Database.start start poolSize) (Settled start) calls ↔
      EveryStep Database.step (Database.start start poolSize) Recovers calls := by
  apply everyState_iff_everyStep
  · refine ⟨rfl, ?_⟩
    intro conn member
    cases member
  · intro database call settled
    exact settled_step start database settled call

/-- A transaction adds one and throws, its rollback throws as well; then ten are
added and returned as written. -/
def lostRollback : List (Call Nat Unit) :=
  [.transaction (.statement (fun db => (db + 1, ())) fun _ => .raise) { rollback := true } false,
    .execute (fun db => (db + 10, ())) false false]

theorem lost_rollback_takes_the_next_call :
    ¬ Settled 0 (run Database.step (Database.start 0 1) lostRollback) := by
  intro settled
  have committed := settled.committed
  revert committed
  decide

end TgLoggerd.Mysql

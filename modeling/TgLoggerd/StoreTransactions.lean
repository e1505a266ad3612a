import TgLoggerd.Transactions

/-!
The store under `Database.cpp`: what the jobs of `serial_` leave in the database, with
errors of the driver at any statement and in any of the calls around them.
-/

namespace TgLoggerd

open Mysql Mysql.Script SerialRun

namespace Store

variable {Key : Type} {collate : String → Key}

theorem part_users : Part (fun store : Store collate => store.entities.users)
    fun users store => { store with entities := { store.entities with users := users } } := by
  constructor <;> intros <;> rfl

theorem part_groupRows : Part (fun store : Store collate => store.entities.groups)
    fun groups store => { store with entities := { store.entities with groups := groups } } := by
  constructor <;> intros <;> rfl

theorem part_privates : Part (Store.privates : Store collate → PrivateTables)
    fun privates store => { store with privates := privates } := by
  constructor <;> intros <;> rfl

theorem part_groups : Part (Store.groups : Store collate → GroupTables)
    fun groups store => { store with groups := groups } := by
  constructor <;> intros <;> rfl

theorem part_admins : Part (Store.admins : Store collate → AdminTables)
    fun admins store => { store with admins := admins } := by
  constructor <;> intros <;> rfl

end Store

section

variable {Key : Type} [DecidableEq Key] {collate : String → Key} (order : MapOrder)
  (rowOrder : RowOrder)

def EntityOp.script : EntityOp → Script (Store collate)
  | .upsertUser u => onUsers (Transactions.upsertUser order u)
  | .upsertUserFullInfo fi => onUsers (Transactions.upsertUserFullInfo fi)
  | .setUserProfilePhoto userId fileId => onUsers (Transactions.setUserProfilePhoto userId fileId)
  | .upsertGroup g => onGroupRows (Transactions.upsertGroup order g)
  | .setGroupPhoto groupId fileId => onGroupRows (Transactions.setGroupPhoto groupId fileId)
where
  onUsers (script : Script (UserTables collate)) : Script (Store collate) :=
    script.onto (fun store => store.entities.users)
      fun users store => { store with entities := { store.entities with users := users } }
  onGroupRows (script : Script (GroupRows collate)) : Script (Store collate) :=
    script.onto (fun store => store.entities.groups)
      fun groups store => { store with entities := { store.entities with groups := groups } }

/-- A job of `serial_` with the errors of the driver while it runs. -/
structure Attempt where
  write : DbWrite
  faults : Faults := {}
  create : Bool := false

/-- The call that the job makes of `Database`: a transaction, but one statement of its
own for the file and the reply of a message. -/
def Attempt.call (attempt : Attempt) : Mysql.Call (Store collate) (Store collate) :=
  let transaction (script : Script (Store collate)) : Mysql.Call (Store collate) (Store collate) :=
    .transaction script.body attempt.faults attempt.create
  let statement (effect : Store collate → Store collate) :
      Mysql.Call (Store collate) (Store collate) :=
    .execute (fun store => (effect store, store)) (attempt.faults.statement 0) attempt.create
  match attempt.write with
  | .entity op => transaction (op.script order)
  | .onPrivate (.upsert pm) =>
      transaction ((Transactions.upsertPrivateMessage pm).onto Store.privates
        fun privates store => { store with privates := privates })
  | .onPrivate (.setFile chatId messageId fileId) =>
      statement fun store =>
        { store with
          privates := Statements.setPrivateMessageFile store.privates chatId messageId fileId }
  | .onPrivate (.setReply chatId messageId replyToChatId replyToMessageId) =>
      statement fun store =>
        { store with
          privates := Statements.setPrivateMessageReply store.privates chatId messageId
            replyToChatId replyToMessageId }
  | .onGroup (.upsert gm) =>
      transaction ((Transactions.upsertGroupMessage gm).onto Store.groups
        fun groups store => { store with groups := groups })
  | .onGroup (.setFile chatId messageId fileId) =>
      statement fun store =>
        { store with
          groups := Statements.setGroupMessageFile store.groups chatId messageId fileId }
  | .onGroup (.setReply chatId messageId replyToChatId replyToMessageId) =>
      statement fun store =>
        { store with
          groups := Statements.setGroupMessageReply store.groups chatId messageId replyToChatId
            replyToMessageId }
  | .admins list =>
      transaction ((Transactions.syncGroupAdmins rowOrder list).onto Store.admins
        fun admins store => { store with admins := admins })

theorem runs_entityScript (op : EntityOp) (store : Store collate) :
    (op.script order).runs store =
      { store with entities := entityStep order store.entities op } := by
  cases op with
  | upsertUser u =>
      exact (runs_onto _ _ Store.part_users _ store).trans
        (by rw [Transactions.runs_upsertUser]; rfl)
  | upsertUserFullInfo fi =>
      exact (runs_onto _ _ Store.part_users _ store).trans
        (by rw [Transactions.runs_upsertUserFullInfo]; rfl)
  | setUserProfilePhoto userId fileId =>
      exact (runs_onto _ _ Store.part_users _ store).trans
        (by rw [Transactions.runs_setUserProfilePhoto]; rfl)
  | upsertGroup g =>
      exact (runs_onto _ _ Store.part_groupRows _ store).trans
        (by rw [Transactions.runs_upsertGroup]; rfl)
  | setGroupPhoto groupId fileId =>
      exact (runs_onto _ _ Store.part_groupRows _ store).trans
        (by rw [Transactions.runs_setGroupPhoto]; rfl)

/-- What a job commits is what the store says. -/
theorem Attempt.performs (attempt : Attempt) (handled : attempt.faults.Handled)
    (store : Store collate) (effect : Store collate → Store collate)
    (meant : (attempt.call order rowOrder : Mysql.Call (Store collate) (Store collate)).commits
      store = true → store.apply order rowOrder attempt.write = effect store) :
    (attempt.call order rowOrder : Mysql.Call (Store collate) (Store collate)).Performs effect
      store := by
  obtain ⟨write, faults, create⟩ := attempt
  cases write with
  | entity op =>
      refine ⟨handled, _, rfl, fun committed => ?_⟩
      exact (runs_entityScript order op store).trans (meant committed)
  | onPrivate op =>
      cases op with
      | upsert pm =>
          refine ⟨handled, _, rfl, fun committed => ?_⟩
          rw [← meant committed, runs_onto _ _ Store.part_privates,
            Transactions.runs_upsertPrivateMessage]
          rfl
      | setFile chatId messageId fileId =>
          intro succeeds
          rw [← meant (congrArg not succeeds)]
          simp only [Statements.setPrivateMessageFile_eq]
          rfl
      | setReply chatId messageId replyToChatId replyToMessageId =>
          intro succeeds
          rw [← meant (congrArg not succeeds)]
          simp only [Statements.setPrivateMessageReply_eq]
          rfl
  | onGroup op =>
      cases op with
      | upsert gm =>
          refine ⟨handled, _, rfl, fun committed => ?_⟩
          rw [← meant committed, runs_onto _ _ Store.part_groups,
            Transactions.runs_upsertGroupMessage]
          rfl
      | setFile chatId messageId fileId =>
          intro succeeds
          rw [← meant (congrArg not succeeds)]
          simp only [Statements.setGroupMessageFile_eq]
          rfl
      | setReply chatId messageId replyToChatId replyToMessageId =>
          intro succeeds
          rw [← meant (congrArg not succeeds)]
          simp only [Statements.setGroupMessageReply_eq]
          rfl
  | admins list =>
      refine ⟨handled, _, rfl, fun committed => ?_⟩
      rw [← meant committed, runs_onto _ _ Store.part_admins, Transactions.runs_syncGroupAdmins]
      rfl

/-- The server lets no transaction through whose rows refer to rows that are not there. -/
def Attempt.Checked (database : Mysql.Database (Store collate) (Store collate))
    (attempt : Attempt) : Prop :=
  (attempt.call order rowOrder).commits database.db = true →
    database.db.accepts attempt.write = true

instance (database : Mysql.Database (Store collate) (Store collate)) (attempt : Attempt) :
    Decidable (attempt.Checked order rowOrder database) :=
  inferInstanceAs (Decidable
    ((attempt.call order rowOrder).commits database.db = true →
      database.db.accepts attempt.write = true))

end

/-- The transactions implement the store. With errors of the driver at any statement and
in any call around them, as long as none comes in the handler of a failed transaction,
the database is that of a serial run of the committed jobs in their order, each of them
done whole. All jobs that returned normally are among them, and one that did not is so
only if the switch back to autocommit mode failed. -/
theorem transactions_implement_store {Key : Type} [DecidableEq Key] {collate : String → Key}
    (order : MapOrder) (rowOrder : RowOrder) (poolSize : Nat) (store : Store collate)
    (attempts : List Attempt) (handled : ∀ attempt ∈ attempts, attempt.faults.Handled)
    (checked : EveryStep (Database.serve (Attempt.call order rowOrder))
      (Database.start store poolSize) (Attempt.Checked order rowOrder) attempts) :
    let call : Attempt → Mysql.Call (Store collate) (Store collate) := Attempt.call order rowOrder
    let database := run (Database.serve call) (Database.start store poolSize) attempts
    let committed :=
      outputs (Database.serve call) (Database.commits call) (Database.start store poolSize) attempts
    database.db = run (Store.commit order rowOrder) store (committed.map Attempt.write) ∧
      database.returned = (committed.filter fun attempt => (call attempt).reports).map call ∧
      database.Clean := by
  intro call database committed
  obtain ⟨clean, same, listed⟩ := Database.serves_performs call
    (fun attempt store => store.commit order rowOrder attempt.write) store poolSize attempts (by
      rintro before attempt after rfl
      apply attempt.performs order rowOrder (handled attempt (by simp))
      intro commits
      have accepted := checked before attempt after rfl commits
      rw [Store.commit, if_pos accepted])
  refine ⟨?_, listed, clean⟩
  rw [run, List.foldl_map]
  exact same

/-- A user, a new name whose upsert fails at its third statement, and a message of a chat
that nobody knows: the server refuses it, so that it fails as well. -/
def lostName : List Attempt :=
  [{ write := .entity (.upsertUser { id := 7, firstName := "Ann" }) },
    { write := .entity (.upsertUser { id := 7, firstName := "Anna" })
      faults := { statement := fun place => place = 2 } },
    { write := .onPrivate (.upsert
        { chatId := 8, messageId := 1, sender := ⟨some 8⟩ })
      faults := { statement := fun place => place = 1 } }]

theorem transactions_implement_store_lost_name :
    let call : Attempt → Mysql.Call (Store foldCase) (Store foldCase) :=
      Attempt.call insertionOrder storageOrder
    let database := run (Database.serve call) (Database.start Store.empty 1) lostName
    let committed :=
      outputs (Database.serve call) (Database.commits call) (Database.start Store.empty 1) lostName
    database.db =
        run (Store.commit insertionOrder storageOrder) Store.empty (committed.map Attempt.write) ∧
      database.returned = (committed.filter fun attempt => (call attempt).reports).map call ∧
      database.Clean :=
  transactions_implement_store insertionOrder storageOrder 1 Store.empty lostName (by decide)
    ((everyStep_snoc _ _ _ [_, _] _).mpr
      ⟨(everyStep_snoc _ _ _ [_] _).mpr
        ⟨(everyStep_snoc _ _ _ [] _).mpr ⟨everyStep_nil _ _ _, fun _ => rfl⟩, fun _ => rfl⟩,
      by decide +kernel⟩)

end TgLoggerd

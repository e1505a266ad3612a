import TgLoggerd.WorkerInvariants

/-!
The sizes `TgLoggerd::start` gives its workers and its pool of connections, from the
ints that TG_FILE_THREADS and TG_DB_POOL parse to. An int is cast to a size_t before
it is compared, so a negative one is clamped by nothing.
-/

namespace TgLoggerd

open SerialRun Threads

/-- `(size_t)` of an int. -/
def sizeOfInt (value : Int32) : UInt64 := UInt64.ofInt value.toInt

def fileThreads (requested : Int32) : UInt64 :=
  let threads := sizeOfInt requested
  if threads < 1 then 1 else threads

def dbPool (threads : UInt64) (requested : Int32) : UInt64 :=
  let pool := sizeOfInt requested
  if pool < threads + 1 then threads + 1 else pool

theorem toNat_sizeOfInt (value : Int32) :
    (sizeOfInt value).toNat = (value.toInt % 2 ^ 64).toNat := by
  have small : (value.toInt % 2 ^ 64).toNat < 2 ^ 64 := by omega
  rw [sizeOfInt, UInt64.ofInt, UInt64.toNat_ofNat', Nat.mod_eq_of_lt small]

/-- What is cast without being negative keeps its value. -/
theorem toNat_sizeOfInt_of_nonneg (value : Int32) (nonneg : 0 ≤ value.toInt) :
    (sizeOfInt value).toNat = value.toInt.toNat := by
  have below := value.toInt_lt
  rw [toNat_sizeOfInt, Int.emod_eq_of_lt nonneg (by omega)]

theorem toNat_fileThreads (requested : Int32) :
    (fileThreads requested).toNat = max 1 (sizeOfInt requested).toNat := by
  simp only [fileThreads, UInt64.lt_iff_toNat_lt]
  split
  · next small =>
    have zero : (sizeOfInt requested).toNat < 1 := small
    rw [max_eq_left (by omega)]
    rfl
  · next large =>
    have some : ¬ (sizeOfInt requested).toNat < 1 := large
    rw [max_eq_right (by omega)]

theorem toNat_dbPool (threads : UInt64) (requested : Int32) :
    (dbPool threads requested).toNat =
      max ((threads.toNat + 1) % 2 ^ 64) (sizeOfInt requested).toNat := by
  have spare : (threads + 1).toNat = (threads.toNat + 1) % 2 ^ 64 := UInt64.toNat_add threads 1
  simp only [dbPool, UInt64.lt_iff_toNat_lt, spare]
  split
  · next small => rw [max_eq_left (le_of_lt small), spare]
  · next large => rw [max_eq_right (by omega)]

section

variable {Key : Type} [DecidableEq Key] (collate : String → Key)

/-- What the sizes are for: the requested workers, at least one, and connections
enough that no writer ever waits for one, neither the borrowers alone nor the
threads of the program. -/
structure WritersServed (requested poolRequested : Int32) : Prop where
  positive : 1 ≤ (fileThreads requested).toNat
  workers : ((fileThreads requested).toNat : Int) =
    if 0 < requested.toInt then requested.toInt else 1
  spare : (fileThreads requested).toNat + 1 ≤
    (dbPool (fileThreads requested) poolRequested).toNat
  unwaited : ∀ moves (borrower : Borrower (fileThreads requested).toNat),
    (Mysql.ConnectionPool.after (dbPool (fileThreads requested) poolRequested).toNat
      moves).threads borrower ≠ .waiting
  running : ∀ config fileCap serialCap moves borrower,
    (WorkerSystem.after config fileCap serialCap
      (dbPool (fileThreads requested) poolRequested).toNat moves :
        WorkerSystem collate (fileThreads requested).toNat).conns.threads borrower ≠ .waiting

theorem card_borrower (threads : Nat) (positive : 1 ≤ threads) :
    Fintype.card (Borrower threads) = threads + 1 := by
  rw [Fintype.card_option, Fintype.card_fin, if_neg (by omega)]

/-- The borrowers of the program wait no more than any others would. -/
theorem unwaited_system (config : Config) (threads fileCap serialCap poolSize : Nat)
    (enough : Fintype.card (Borrower threads) ≤ poolSize)
    (moves : List (WorkerSystem.Move threads)) (borrower : Borrower threads) :
    (WorkerSystem.after config fileCap serialCap poolSize moves :
      WorkerSystem collate threads).conns.threads borrower ≠ .waiting := by
  have unwaited : ∀ borrower, ¬ Waits Mysql.ConnectionPool.wakes
      ((WorkerSystem.after config fileCap serialCap poolSize moves :
        WorkerSystem collate threads).conns.threads borrower) := by
    apply (attempt_invariant (fun s => WorkerSystem.step s config)
      (WorkerSystem.start fileCap serialCap poolSize) (fun s : WorkerSystem collate threads =>
        Mysql.ConnectionPool.Accounted s.conns ∧
          Fintype.card (Borrower threads) ≤ s.conns.poolSize ∧
          ∀ borrower, ¬ Waits Mysql.ConnectionPool.wakes (s.conns.threads borrower))
      ?_ ?_ moves).2.2
    · refine ⟨Mysql.ConnectionPool.accounted_start poolSize, ?_, ?_⟩
      · simp only [WorkerSystem.start, Mysql.ConnectionPool.start]
        split <;> omega
      · intro borrower waits
        cases waits
    · rintro s move next ⟨accounted, room, unwaited⟩ taken
      rcases WorkerSystem.conns_took s next config (WorkerSystem.took_step s config next move taken)
        with same | ⟨own, took⟩
      · rw [same]
        exact ⟨accounted, room, unwaited⟩
      · refine ⟨Mysql.ConnectionPool.accounted_took _ _ accounted own took, ?_,
          Mysql.ConnectionPool.unwaited_took _ _ accounted room own took unwaited⟩
        rw [Mysql.ConnectionPool.size_took _ _ own took]
        exact room
  exact fun waiting => unwaited borrower ((Mysql.ConnectionPool.waits_iff _ borrower).mpr waiting)

/-- Writers are served exactly if TG_FILE_THREADS is not negative. -/
theorem writers_served_iff (requested poolRequested : Int32) :
    WritersServed collate requested poolRequested ↔ 0 ≤ requested.toInt := by
  have least := requested.le_toInt
  have threads := toNat_fileThreads requested
  constructor
  · intro served
    have count := served.workers
    have cast := toNat_sizeOfInt requested
    by_contra negative
    -- The cast takes a negative int to the upper half of the range of a size_t.
    have large : 2 ^ 63 ≤ (requested.toInt % 2 ^ 64).toNat := by omega
    rw [if_neg (by omega), threads, cast] at count
    omega
  · intro nonneg
    have below := requested.toInt_lt
    have cast := toNat_sizeOfInt_of_nonneg requested nonneg
    have pool := toNat_dbPool (fileThreads requested) poolRequested
    rw [cast] at threads
    have positive : 1 ≤ (fileThreads requested).toNat := by omega
    have spare : (fileThreads requested).toNat + 1 ≤
        (dbPool (fileThreads requested) poolRequested).toNat := by
      rw [Nat.mod_eq_of_lt (by omega)] at pool
      omega
    have enough := (card_borrower _ positive).le.trans spare
    refine ⟨positive, ?_, spare, ?_, ?_⟩
    · rw [threads]
      split <;> omega
    · exact Mysql.ConnectionPool.unwaited_after _ enough
    · intro config fileCap serialCap
      exact unwaited_system collate config _ fileCap serialCap _ enough

/-- With TG_FILE_THREADS=-1 and TG_DB_POOL=0 the spare connection is counted past the
last size_t, and there is no connection at all. -/
theorem negative_threads_unserved :
    (fileThreads (-1)).toNat = 2 ^ 64 - 1 ∧ dbPool (fileThreads (-1)) 0 = 0 ∧
      ¬ WritersServed foldCase (-1) 0 := by
  refine ⟨by decide, by decide, ?_⟩
  intro served
  have spare := served.spare
  revert spare
  decide

end

end TgLoggerd

import TgLoggerd.SerialRun
import TgLoggerd.Threads

/-!
`ConnectionPool.cpp` under any interleaving of the steps its threads take with
the mutex held. A connection is the number under which it was opened. A thread
that waits in `acquire` goes on when it is notified, or spuriously; it then
competes for the mutex with the threads that have just called. One that borrows
several connections at a time counts as several.
-/

namespace TgLoggerd.Mysql

open Function SerialRun Threads

namespace ConnectionPool

inductive Place where
  | outside
  /-- In `acquire`, about to take the mutex. -/
  | acquiring
  | waiting
  /-- A slot is reserved, and `create` runs without the mutex. -/
  | creating
  | holding (conn : Nat)
  /-- In `release`, past the mutex, before `notify_one`. -/
  | notifying
  deriving DecidableEq, Repr

inductive Move (Thread : Type) where
  | call (thread : Thread)
  | acquire (thread : Thread)
  | create (thread : Thread)
  | createFails (thread : Thread) (woken : Option Thread)
  | release (thread : Thread)
  | notify (thread : Thread) (woken : Option Thread)
  | wake (thread : Thread)

def wakes : Place → Option Place
  | .waiting => some .acquiring
  | _ => none

end ConnectionPool

open ConnectionPool

/-- `opened` counts the connections that `create` has returned. -/
structure ConnectionPool (Thread : Type) where
  poolSize : Nat
  idle : List Nat := []
  created : Nat := 0
  opened : Nat := 0
  threads : Thread → Place := fun _ => .outside

namespace ConnectionPool

variable {Thread : Type} [Fintype Thread] [DecidableEq Thread]

def start (Thread : Type) (poolSize : Nat) : ConnectionPool Thread where
  poolSize := if poolSize = 0 then 1 else poolSize

def goes (pool : ConnectionPool Thread) (thread : Thread) (place : Place) :
    ConnectionPool Thread :=
  { pool with threads := update pool.threads thread place }

/-- One turn of the loop of `acquire`. -/
def acquire (pool : ConnectionPool Thread) (thread : Thread) : ConnectionPool Thread :=
  match pool.idle with
  | conn :: idle => { pool with idle := idle }.goes thread (.holding conn)
  | [] =>
      if pool.created < pool.poolSize then
        { pool with created := pool.created + 1 }.goes thread .creating
      else pool.goes thread .waiting

/-- A step that the state of the thread allows. -/
def step (pool : ConnectionPool Thread) : Move Thread → Option (ConnectionPool Thread)
  | .call thread =>
      if pool.threads thread = .outside then some (pool.goes thread .acquiring) else none
  | .acquire thread =>
      if pool.threads thread = .acquiring then some (pool.acquire thread) else none
  | .create thread =>
      if pool.threads thread = .creating then
        some ({ pool with opened := pool.opened + 1 }.goes thread (.holding pool.opened))
      else none
  | .createFails thread woken =>
      if pool.threads thread = .creating ∧ Chosen wakes pool.threads woken then
        some ({ pool with
          created := pool.created - 1
          threads := notifyOne wakes pool.threads woken }.goes thread .outside)
      else none
  | .release thread =>
      match pool.threads thread with
      | .holding conn => some ({ pool with idle := pool.idle ++ [conn] }.goes thread .notifying)
      | _ => none
  | .notify thread woken =>
      if pool.threads thread = .notifying ∧ Chosen wakes pool.threads woken then
        some ({ pool with threads := notifyOne wakes pool.threads woken }.goes thread .outside)
      else none
  | .wake thread =>
      if pool.threads thread = .waiting then some (pool.goes thread .acquiring) else none

/-- What a step can do. -/
inductive Took (pool : ConnectionPool Thread) : Move Thread → ConnectionPool Thread → Prop where
  | called (thread : Thread) (place : pool.threads thread = .outside) :
      Took pool (.call thread) (pool.goes thread .acquiring)
  | took (thread : Thread) (place : pool.threads thread = .acquiring) (conn : Nat)
      (idle : List Nat) (found : pool.idle = conn :: idle) :
      Took pool (.acquire thread) ({ pool with idle := idle }.goes thread (.holding conn))
  | reserved (thread : Thread) (place : pool.threads thread = .acquiring) (none : pool.idle = [])
      (room : pool.created < pool.poolSize) :
      Took pool (.acquire thread)
        ({ pool with created := pool.created + 1 }.goes thread .creating)
  | waited (thread : Thread) (place : pool.threads thread = .acquiring) (none : pool.idle = [])
      (full : pool.poolSize ≤ pool.created) :
      Took pool (.acquire thread) (pool.goes thread .waiting)
  | opened (thread : Thread) (place : pool.threads thread = .creating) :
      Took pool (.create thread)
        ({ pool with opened := pool.opened + 1 }.goes thread (.holding pool.opened))
  | failed (thread : Thread) (place : pool.threads thread = .creating) (woken : Option Thread)
      (chosen : Chosen wakes pool.threads woken) :
      Took pool (.createFails thread woken)
        ({ pool with
          created := pool.created - 1
          threads := notifyOne wakes pool.threads woken }.goes thread .outside)
  | released (thread : Thread) (conn : Nat) (place : pool.threads thread = .holding conn) :
      Took pool (.release thread) ({ pool with idle := pool.idle ++ [conn] }.goes thread .notifying)
  | notified (thread : Thread) (place : pool.threads thread = .notifying) (woken : Option Thread)
      (chosen : Chosen wakes pool.threads woken) :
      Took pool (.notify thread woken)
        ({ pool with threads := notifyOne wakes pool.threads woken }.goes thread .outside)
  | woke (thread : Thread) (place : pool.threads thread = .waiting) :
      Took pool (.wake thread) (pool.goes thread .acquiring)

theorem took_step (pool next : ConnectionPool Thread) (move : Move Thread)
    (taken : pool.step move = some next) : Took pool move next := by
  cases move with
  | call thread =>
      obtain ⟨place, same⟩ := Option.ite_none_right_eq_some.mp taken
      cases same
      exact .called thread place
  | acquire thread =>
      obtain ⟨place, same⟩ := Option.ite_none_right_eq_some.mp taken
      cases same
      simp only [acquire]
      split
      · next conn idle found => exact .took thread place conn idle found
      · next found =>
        split
        · next room => exact .reserved thread place found room
        · next full => exact .waited thread place found (Nat.le_of_not_lt full)
  | create thread =>
      obtain ⟨place, same⟩ := Option.ite_none_right_eq_some.mp taken
      cases same
      exact .opened thread place
  | createFails thread woken =>
      obtain ⟨⟨place, chosen⟩, same⟩ := Option.ite_none_right_eq_some.mp taken
      cases same
      exact .failed thread place woken chosen
  | release thread =>
      simp only [step] at taken
      split at taken
      · next conn place =>
        cases taken
        exact .released thread conn place
      · cases taken
  | notify thread woken =>
      obtain ⟨⟨place, chosen⟩, same⟩ := Option.ite_none_right_eq_some.mp taken
      cases same
      exact .notified thread place woken chosen
  | wake thread =>
      obtain ⟨place, same⟩ := Option.ite_none_right_eq_some.mp taken
      cases same
      exact .woke thread place

/-- Steps that a thread in `acquire` or `release` takes by itself. -/
def Move.free : Move Thread → Bool
  | .acquire _ | .create _ | .notify _ _ | .wake _ => true
  | .call _ | .createFails _ _ | .release _ => false

/-- How such a step moves a thread. -/
inductive Advances : Place → Place → Prop where
  | stays (place : Place) : Advances place place
  | wakes : Advances .waiting .acquiring
  | takes (conn : Nat) : Advances .acquiring (.holding conn)
  | reserves : Advances .acquiring .creating
  | waits : Advances .acquiring .waiting
  | opens (conn : Nat) : Advances .creating (.holding conn)
  | leaves : Advances .notifying .outside

section

variable (pool : ConnectionPool Thread)

omit [Fintype Thread] in
theorem advances_update (thread other : Thread) (place : Place)
    (own : Advances (pool.threads thread) place) :
    Advances (pool.threads other) (update pool.threads thread place other) := by
  rw [update_apply]
  split
  · next same => exact same ▸ own
  · exact .stays _

omit [Fintype Thread] in
theorem advances_notifyOne (woken : Option Thread) (thread : Thread) :
    Advances (pool.threads thread) (notifyOne wakes pool.threads woken thread) := by
  rcases notifyOne_apply wakes pool.threads woken thread with kept | woke
  · rw [kept]
    exact .stays _
  · rw [woke]
    cases pool.threads thread with
    | waiting => exact .wakes
    | _ => exact .stays _

omit [Fintype Thread] in
theorem advances_took (next : ConnectionPool Thread) (move : Move Thread) (free : move.free = true)
    (took : Took pool move next) (thread : Thread) :
    Advances (pool.threads thread) (next.threads thread) := by
  cases took with
  | called other place => cases free
  | failed other place woken chosen => cases free
  | released other conn place => cases free
  | took other place conn idle found =>
      exact advances_update pool other thread _ (by rw [place]; exact .takes conn)
  | reserved other place none room =>
      exact advances_update pool other thread _ (by rw [place]; exact .reserves)
  | waited other place none full =>
      exact advances_update pool other thread _ (by rw [place]; exact .waits)
  | opened other place => exact advances_update pool other thread _ (by rw [place]; exact .opens _)
  | woke other place => exact advances_update pool other thread _ (by rw [place]; exact .wakes)
  | notified other place woken chosen =>
      simp only [goes, update_apply]
      split
      · next same =>
        rw [same, place]
        exact .leaves
      · exact advances_notifyOne pool woken thread

end

def borrowing : Place → Nat
  | .holding _ => 1
  | _ => 0

def isCreating : Place → Nat
  | .creating => 1
  | _ => 0

def holds (conn : Nat) (place : Place) : Nat := if place = .holding conn then 1 else 0

/-- The threads that will look at the idle connections again, and those whose
notification is still to come. -/
def coming : Place → Nat
  | .acquiring => 1
  | .notifying => 1
  | _ => 0

/-- The connections are accounted for, and a thread waits only while every free
slot has a thread on its way to it. -/
structure Accounted (pool : ConnectionPool Thread) : Prop where
  bounded : pool.created ≤ pool.poolSize
  counted : pool.created =
    pool.idle.length + total borrowing pool.threads + total isCreating pool.threads
  single : ∀ conn, pool.idle.count conn + total (holds conn) pool.threads =
    if conn < pool.opened then 1 else 0
  covered : (∃ thread, Waits wakes (pool.threads thread)) →
    pool.idle.length + (pool.poolSize - pool.created) ≤ total coming pool.threads

theorem wakes_some (place next : Place) (waiting : wakes place = some next) :
    place = .waiting ∧ next = .acquiring := by
  cases place with
  | waiting =>
      cases waiting
      exact ⟨rfl, rfl⟩
  | _ => cases waiting

theorem counts_coming : Counts wakes coming := by
  intro place next waiting
  obtain ⟨rfl, rfl⟩ := wakes_some place next waiting
  exact ⟨rfl, rfl⟩

theorem awake_same (weight : Place → Nat) (same : weight .acquiring = weight .waiting)
    (place : Place) : weight (awake wakes place) = weight place := by
  cases place <;> first | rfl | exact same

/-- One thread has gone from one place to another; others may have been woken. -/
structure Shift (pool next : ConnectionPool Thread) (before after : Place) : Prop where
  borrow : total borrowing next.threads + borrowing before =
    total borrowing pool.threads + borrowing after
  create : total isCreating next.threads + isCreating before =
    total isCreating pool.threads + isCreating after
  hold : ∀ conn, total (holds conn) next.threads + holds conn before =
    total (holds conn) pool.threads + holds conn after

section

variable (pool : ConnectionPool Thread)

theorem shift_goes (thread : Thread) (place : Place) :
    Shift pool (pool.goes thread place) (pool.threads thread) place :=
  ⟨total_move borrowing pool.threads thread place, total_move isCreating pool.threads thread place,
    fun conn => total_move (holds conn) pool.threads thread place⟩

/-- A notification, by a thread that then leaves. -/
theorem shift_notified (thread : Thread) (busy : ¬ Waits wakes (pool.threads thread))
    (woken : Option Thread) :
    Shift pool ({ pool with threads := notifyOne wakes pool.threads woken }.goes thread .outside)
      (pool.threads thread) .outside := by
  have stays := notifyOne_of_not_waits wakes pool.threads woken thread busy
  have moved (weight : Place → Nat) (same : weight .acquiring = weight .waiting) :
      total weight (update (notifyOne wakes pool.threads woken) thread .outside) +
          weight (pool.threads thread) = total weight pool.threads + weight .outside := by
    rw [← total_notifyOne wakes pool.threads weight (awake_same weight same) woken, ← stays]
    exact total_move weight (notifyOne wakes pool.threads woken) thread .outside
  exact ⟨moved borrowing rfl, moved isCreating rfl, fun conn => moved (holds conn) rfl⟩

/-- It leaves nobody waiting, or one thread more on its way. -/
theorem coming_notified (thread : Thread) (busy : ¬ Waits wakes (pool.threads thread))
    (woken : Option Thread) (chosen : Chosen wakes pool.threads woken)
    (waiting : ∃ other, Waits wakes
      (update (notifyOne wakes pool.threads woken) thread .outside other)) :
    (∃ other, Waits wakes (pool.threads other)) ∧
      total coming (update (notifyOne wakes pool.threads woken) thread .outside) +
          coming (pool.threads thread) =
        total coming pool.threads + 1 := by
  obtain ⟨other, waits⟩ := waiting
  have still : Waits wakes (notifyOne wakes pool.threads woken other) :=
    waits_of_update wakes _ thread other .outside rfl waits
  refine ⟨⟨other, waits_of_notifyOne wakes pool.threads woken other still⟩, ?_⟩
  have moved := total_move coming (notifyOne wakes pool.threads woken) thread .outside
  rw [notifyOne_of_not_waits wakes pool.threads woken thread busy] at moved
  rcases active_notifyOne wakes pool.threads coming counts_coming woken chosen with
    ⟨_, none⟩ | more
  · exact absurd still (none other)
  · rw [more] at moved
    exact moved

omit [DecidableEq Thread] in
/-- A step keeps the account if what it does to the pool matches where its
thread has gone. -/
theorem accounted_shift (next : ConnectionPool Thread) (before after : Place)
    (accounted : Accounted pool) (shift : Shift pool next before after)
    (bounded : next.created ≤ next.poolSize)
    (counted : next.created + pool.idle.length + borrowing before + isCreating before =
      pool.created + next.idle.length + borrowing after + isCreating after)
    (single : ∀ conn, next.idle.count conn + holds conn after +
        (if conn < pool.opened then 1 else 0) =
      pool.idle.count conn + holds conn before + if conn < next.opened then 1 else 0)
    (covered : (∃ thread, Waits wakes (next.threads thread)) →
      next.idle.length + (next.poolSize - next.created) ≤ total coming next.threads) :
    Accounted next := by
  refine ⟨bounded, ?_, ?_, covered⟩
  · have old := accounted.counted
    have borrow := shift.borrow
    have create := shift.create
    omega
  · intro conn
    have old := accounted.single conn
    have hold := shift.hold conn
    have own := single conn
    omega

theorem accounted_took (next : ConnectionPool Thread) (accounted : Accounted pool)
    (move : Move Thread) (took : Took pool move next) : Accounted next := by
  have bounded := accounted.bounded
  have covered := accounted.covered
  cases took with
  | called thread place =>
      have shift := shift_goes pool thread .acquiring
      have come := total_move coming pool.threads thread .acquiring
      rw [place] at shift come
      simp only [coming] at come
      refine accounted_shift pool _ _ _ accounted shift bounded rfl (fun conn => rfl) ?_
      rintro ⟨other, waits⟩
      have before :=
        covered ⟨other, waits_of_update wakes pool.threads thread other .acquiring rfl waits⟩
      simp only [goes]
      omega
  | took thread place conn idle found =>
      have shift := shift_goes pool thread (.holding conn)
      have come := total_move coming pool.threads thread (.holding conn)
      rw [place] at shift come
      simp only [coming] at come
      refine accounted_shift pool _ _ _ accounted ⟨shift.borrow, shift.create, shift.hold⟩
        bounded ?_ ?_ ?_
      · simp only [found, goes, borrowing, isCreating, List.length_cons]
        omega
      · intro other
        by_cases own : conn = other
        · simp [found, goes, holds, own]
        · simp [found, goes, holds, own]
          rfl
      · rintro ⟨other, waits⟩
        have before := covered ⟨other, waits_of_update wakes pool.threads thread other _ rfl waits⟩
        simp only [goes]
        simp only [found, List.length_cons] at before
        omega
  | reserved thread place none room =>
      have shift := shift_goes pool thread .creating
      have come := total_move coming pool.threads thread .creating
      rw [place] at shift come
      simp only [coming] at come
      refine accounted_shift pool _ _ _ accounted ⟨shift.borrow, shift.create, shift.hold⟩
        room ?_ (fun other => rfl) ?_
      · simp only [goes, borrowing, isCreating]
        omega
      · rintro ⟨other, waits⟩
        have before := covered ⟨other, waits_of_update wakes pool.threads thread other _ rfl waits⟩
        simp only [goes]
        omega
  | waited thread place none full =>
      have shift := shift_goes pool thread .waiting
      rw [place] at shift
      refine accounted_shift pool _ _ _ accounted shift bounded rfl (fun other => rfl) ?_
      intro _
      simp only [goes, none, List.length_nil]
      omega
  | opened thread place =>
      have shift := shift_goes pool thread (.holding pool.opened)
      have come := total_move coming pool.threads thread (.holding pool.opened)
      rw [place] at shift come
      simp only [coming] at come
      refine accounted_shift pool _ _ _ accounted ⟨shift.borrow, shift.create, shift.hold⟩
        bounded ?_ ?_ ?_
      · simp only [goes, borrowing, isCreating]
      · intro other
        have later : other < pool.opened + 1 ↔ other < pool.opened ∨ pool.opened = other := by omega
        by_cases own : pool.opened = other
        · simp [goes, holds, own]
        · simp [goes, holds, later, own]
      · rintro ⟨other, waits⟩
        have before := covered ⟨other, waits_of_update wakes pool.threads thread other _ rfl waits⟩
        simp only [goes]
        omega
  | failed thread place woken chosen =>
      have busy : ¬ Waits wakes (pool.threads thread) := by simp [place, Waits, wakes]
      have shift := shift_notified pool thread busy woken
      have reserved := le_total isCreating pool.threads thread
      have counted := accounted.counted
      rw [place] at shift reserved
      simp only [isCreating] at reserved
      refine accounted_shift pool _ _ _ accounted ⟨shift.borrow, shift.create, shift.hold⟩
        ?_ ?_ (fun other => rfl) ?_
      · simp only [goes]
        omega
      · simp only [goes, borrowing, isCreating]
        omega
      · intro waiting
        obtain ⟨waited, come⟩ := coming_notified pool thread busy woken chosen waiting
        have before := covered waited
        rw [place] at come
        simp only [goes, coming] at come ⊢
        omega
  | released thread conn place =>
      have shift := shift_goes pool thread .notifying
      have come := total_move coming pool.threads thread .notifying
      rw [place] at shift come
      simp only [coming] at come
      refine accounted_shift pool _ _ _ accounted ⟨shift.borrow, shift.create, shift.hold⟩
        bounded ?_ ?_ ?_
      · simp only [goes, borrowing, isCreating, List.length_append, List.length_singleton]
        omega
      · intro other
        by_cases own : conn = other
        · simp [goes, holds, List.count_append, own]
        · simp [goes, holds, List.count_append, own]
          rfl
      · rintro ⟨other, waits⟩
        have before := covered ⟨other, waits_of_update wakes pool.threads thread other _ rfl waits⟩
        simp only [goes, List.length_append, List.length_singleton]
        omega
  | notified thread place woken chosen =>
      have busy : ¬ Waits wakes (pool.threads thread) := by simp [place, Waits, wakes]
      have shift := shift_notified pool thread busy woken
      rw [place] at shift
      refine accounted_shift pool _ _ _ accounted ⟨shift.borrow, shift.create, shift.hold⟩
        bounded rfl (fun other => rfl) ?_
      intro waiting
      obtain ⟨waited, come⟩ := coming_notified pool thread busy woken chosen waiting
      have before := covered waited
      rw [place] at come
      simp only [goes, coming] at come ⊢
      omega
  | woke thread place =>
      have shift := shift_goes pool thread .acquiring
      have come := total_move coming pool.threads thread .acquiring
      rw [place] at shift come
      simp only [coming] at come
      refine accounted_shift pool _ _ _ accounted shift bounded rfl (fun other => rfl) ?_
      rintro ⟨other, waits⟩
      have before :=
        covered ⟨other, waits_of_update wakes pool.threads thread other .acquiring rfl waits⟩
      simp only [goes]
      omega

omit [Fintype Thread] in
theorem size_took (next : ConnectionPool Thread) (move : Move Thread) (took : Took pool move next) :
    next.poolSize = pool.poolSize := by
  cases took <;> rfl

end

/-- A thread that takes a step without being woken. -/
def Place.isActive : Place → Bool
  | .acquiring | .creating | .holding _ | .notifying => true
  | .outside | .waiting => false

omit [DecidableEq Thread] in
/-- While a thread waits, another one is on its way, or holds what it waits for. -/
theorem active_of_waiting (pool : ConnectionPool Thread) (accounted : Accounted pool)
    (sized : 0 < pool.poolSize) (thread : Thread) (waiting : pool.threads thread = .waiting) :
    ∃ other, (pool.threads other).isActive = true := by
  by_contra none
  have idle (other : Thread) : (pool.threads other).isActive = false :=
    Bool.eq_false_iff.mpr fun active => none ⟨other, active⟩
  have zero (weight : Place → Nat) (same : ∀ place, place.isActive = false → weight place = 0) :
      total weight pool.threads = 0 :=
    (total_eq_zero_iff weight pool.threads).mpr fun other => same _ (idle other)
  have coming := zero coming fun place still => by cases place <;> first | rfl | cases still
  have borrowed := zero borrowing fun place still => by cases place <;> first | rfl | cases still
  have creating := zero isCreating fun place still => by cases place <;> first | rfl | cases still
  have covered := accounted.covered ⟨thread, by rw [waiting]; rfl⟩
  have counted := accounted.counted
  omega

omit [DecidableEq Thread] in
theorem accounted_start (poolSize : Nat) : Accounted (start Thread poolSize) := by
  refine ⟨Nat.zero_le _, ?_, ?_, ?_⟩
  · simp [start, total, borrowing, isCreating]
  · intro conn
    simp [start, total, holds]
  · rintro ⟨thread, waits⟩
    cases waits

/-- The pool after some moves; a thread that is not ready for its move waits. -/
def after (poolSize : Nat) (moves : List (Move Thread)) : ConnectionPool Thread :=
  run (attempt step) (start Thread poolSize) moves

theorem accounted_run (poolSize : Nat) (moves : List (Move Thread)) :
    Accounted (after poolSize moves) ∧
      (after poolSize moves).poolSize = if poolSize = 0 then 1 else poolSize := by
  apply attempt_invariant step (start Thread poolSize) (fun pool =>
    Accounted pool ∧ pool.poolSize = if poolSize = 0 then 1 else poolSize)
  · exact ⟨accounted_start poolSize, rfl⟩
  · rintro pool move next ⟨accounted, size⟩ taken
    have took := took_step pool next move taken
    exact ⟨accounted_took pool next accounted move took,
      (size_took pool next move took).trans size⟩

/-- A thread waits without having been notified, no other one is in `acquire` to
run, no notification is owed, and yet there is a connection to take or to open. -/
def Stranded (pool : ConnectionPool Thread) : Prop :=
  (∃ thread, pool.threads thread = .waiting) ∧
    (∀ thread, pool.threads thread ≠ .acquiring) ∧
    (∀ thread, pool.threads thread ≠ .notifying) ∧
    (pool.idle ≠ [] ∨ pool.created < pool.poolSize)

structure PoolSound (poolSize : Nat) (pool : ConnectionPool Thread) : Prop where
  counted : pool.created =
    pool.idle.length + total borrowing pool.threads + total isCreating pool.threads
  bounded : pool.created ≤ if poolSize = 0 then 1 else poolSize
  known : ∀ conn, (conn ∈ pool.idle ∨ ∃ thread, pool.threads thread = .holding conn) ↔
    conn < pool.opened
  unshared : ∀ conn < pool.opened,
    (pool.idle.count conn = 1 ∧ ∀ thread, pool.threads thread ≠ .holding conn) ∨
      (conn ∉ pool.idle ∧ ∃! thread, pool.threads thread = .holding conn)
  unstranded : ¬ Stranded pool

/-- One share in a connection is the share of one holder. -/
theorem held_once (places : Thread → Place) (conn : Nat) (once : total (holds conn) places = 1) :
    ∃! thread, places thread = .holding conn := by
  obtain ⟨thread, holder⟩ := exists_of_total_pos (holds conn) places (by omega)
  have own : places thread = .holding conn := by
    by_contra other
    simp [holds, other] at holder
  refine ⟨thread, own, ?_⟩
  intro other also
  by_contra differs
  have moved := total_move (holds conn) places thread .outside
  have left := le_total (holds conn) (update places thread .outside) other
  rw [update_of_ne differs, also] at left
  simp only [own, holds, ↓reduceIte, reduceCtorEq] at moved left
  omega

omit [DecidableEq Thread] in
theorem held_by_none (places : Thread → Place) (conn : Nat) (none : total (holds conn) places = 0)
    (thread : Thread) : places thread ≠ .holding conn := by
  intro own
  have zero := (total_eq_zero_iff (holds conn) places).mp none thread
  simp [holds, own] at zero

theorem sound_of_accounted (poolSize : Nat) (pool : ConnectionPool Thread)
    (accounted : Accounted pool) (size : pool.poolSize = if poolSize = 0 then 1 else poolSize) :
    PoolSound poolSize pool := by
  have single := accounted.single
  refine ⟨accounted.counted, size ▸ accounted.bounded, ?_, ?_, ?_⟩
  · intro conn
    have one := single conn
    constructor
    · intro present
      by_contra unknown
      rw [if_neg unknown] at one
      rcases present with idle | ⟨thread, held⟩
      · have some := List.count_pos_iff.mpr idle
        omega
      · exact held_by_none pool.threads conn (by omega) thread held
    · intro known
      rw [if_pos known] at one
      by_cases idle : conn ∈ pool.idle
      · exact Or.inl idle
      · rw [List.count_eq_zero_of_not_mem idle, Nat.zero_add] at one
        exact Or.inr (held_once pool.threads conn one).exists
  · intro conn known
    have one := single conn
    rw [if_pos known] at one
    by_cases idle : conn ∈ pool.idle
    · have some := List.count_pos_iff.mpr idle
      exact Or.inl ⟨by omega, held_by_none pool.threads conn (by omega)⟩
    · rw [List.count_eq_zero_of_not_mem idle, Nat.zero_add] at one
      exact Or.inr ⟨idle, held_once pool.threads conn one⟩
  · rintro ⟨⟨thread, waiting⟩, acquiring, notifying, supply⟩
    have covered := accounted.covered ⟨thread, by rw [waiting]; rfl⟩
    have nobody : total coming pool.threads = 0 := by
      rw [total_eq_zero_iff]
      intro other
      have first := acquiring other
      have second := notifying other
      cases place : pool.threads other <;> first | rfl | contradiction
    rw [nobody] at covered
    rcases supply with idle | room
    · have some := List.length_pos_iff.mpr idle
      omega
    · omega

/-- However its threads interleave, the pool never opens more connections than
it may, lends none to two threads and strands no thread. -/
theorem connection_pool_sound (poolSize : Nat) (moves : List (Move Thread)) :
    PoolSound poolSize (after poolSize moves) := by
  obtain ⟨accounted, size⟩ := accounted_run poolSize moves
  exact sound_of_accounted poolSize _ accounted size

omit [Fintype Thread] [DecidableEq Thread] in
theorem waits_iff (pool : ConnectionPool Thread) (thread : Thread) :
    Waits wakes (pool.threads thread) ↔ pool.threads thread = .waiting := by
  cases pool.threads thread <;> simp [Waits, wakes]

/-- With a connection for every thread, `acquire` always finds one to take or to open. -/
theorem unwaited_took (pool next : ConnectionPool Thread) (accounted : Accounted pool)
    (enough : Fintype.card Thread ≤ pool.poolSize) (move : Move Thread)
    (took : Took pool move next) (unwaited : ∀ thread, ¬ Waits wakes (pool.threads thread)) :
    ∀ thread, ¬ Waits wakes (next.threads thread) := by
  have moved (other : Thread) (place : Place) (busy : wakes place = none) (thread : Thread) :
      ¬ Waits wakes (update pool.threads other place thread) :=
    fun waits => unwaited thread (waits_of_update wakes pool.threads other thread place busy waits)
  have notified (woken : Option Thread) (other : Thread) (thread : Thread) :
      ¬ Waits wakes (update (notifyOne wakes pool.threads woken) other .outside thread) :=
    fun waits => unwaited thread (waits_of_notifyOne wakes pool.threads woken thread
      (waits_of_update wakes _ other thread .outside rfl waits))
  cases took with
  | called other place => exact moved other _ rfl
  | took other place conn idle found => exact moved other _ rfl
  | reserved other place none room => exact moved other _ rfl
  | waited other place none full =>
      -- The thread that asks has no connection, so the others have fewer than there may be.
      have fewer := total_lt_card (fun place => borrowing place + isCreating place) pool.threads
        (by intro place; cases place <;> simp [borrowing, isCreating]) other
        (by rw [place]; rfl)
      have parts : total (fun place => borrowing place + isCreating place) pool.threads =
          total borrowing pool.threads + total isCreating pool.threads := Finset.sum_add_distrib
      have counted := accounted.counted
      rw [none, List.length_nil] at counted
      omega
  | opened other place => exact moved other _ rfl
  | released other conn place => exact moved other _ rfl
  | woke other place => exact moved other _ rfl
  | failed other place woken chosen => exact notified woken other
  | notified other place woken chosen => exact notified woken other

theorem unwaited_after (poolSize : Nat) (enough : Fintype.card Thread ≤ poolSize)
    (moves : List (Move Thread)) (thread : Thread) :
    (after poolSize moves).threads thread ≠ .waiting := by
  have unwaited : ∀ thread, ¬ Waits wakes ((after poolSize moves).threads thread) := by
    apply (attempt_invariant step (start Thread poolSize) (fun pool =>
      Accounted pool ∧ Fintype.card Thread ≤ pool.poolSize ∧
        ∀ thread, ¬ Waits wakes (pool.threads thread)) ?_ ?_ moves).2.2
    · refine ⟨accounted_start poolSize, ?_, fun thread => by simp [start, Waits, wakes]⟩
      simp only [start]
      split <;> omega
    · rintro pool move next ⟨accounted, room, unwaited⟩ taken
      have took := took_step pool next move taken
      refine ⟨accounted_took pool next accounted move took, ?_,
        unwaited_took pool next accounted room move took unwaited⟩
      rw [size_took pool next move took]
      exact room
  exact fun waiting => unwaited thread ((waits_iff _ thread).mpr waiting)

end ConnectionPool

end TgLoggerd.Mysql

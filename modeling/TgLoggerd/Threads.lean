import Mathlib.Algebra.BigOperators.Group.Finset.Basic
import Mathlib.Algebra.Order.BigOperators.Group.Finset
import Mathlib.Data.Fintype.BigOperators
import Mathlib.Tactic.Abel

/-!
Threads that stand at places of a program, and condition variables. What the
threads hold together is a sum over their places, and a thread that moves changes
it by its own share. A notification wakes one thread of those that wait, if any
does; a broadcast wakes all of them.
-/

namespace Threads

open Function

variable {Thread Place : Type} [Fintype Thread] [DecidableEq Thread]

section

variable {Weight : Type} [AddCommMonoid Weight] (weight : Place → Weight)

def total (places : Thread → Place) : Weight := ∑ thread, weight (places thread)

theorem total_move (places : Thread → Place) (thread : Thread) (place : Place) :
    total weight (update places thread place) + weight (places thread) =
      total weight places + weight place := by
  have before := Finset.add_sum_erase Finset.univ (fun other => weight (places other))
    (Finset.mem_univ thread)
  have after := Finset.add_sum_erase Finset.univ
    (fun other => weight (update places thread place other)) (Finset.mem_univ thread)
  have others : ∑ other ∈ Finset.univ.erase thread, weight (update places thread place other) =
      ∑ other ∈ Finset.univ.erase thread, weight (places other) := by
    apply Finset.sum_congr rfl
    intro other member
    rw [update_of_ne (Finset.ne_of_mem_erase member)]
  rw [total, total, ← after, ← before, others, update_self, add_comm, add_comm (weight place),
    add_assoc]

omit [DecidableEq Thread] in
theorem total_congr (places other : Thread → Place)
    (same : ∀ thread, weight (other thread) = weight (places thread)) :
    total weight other = total weight places :=
  Finset.sum_congr rfl fun thread _ => same thread

end

/-- What is in stock has been passed on or is with the threads. It stays so if a
thread that moves takes with it what enters the stock, and gives away what is
passed on. -/
theorem stock_move {Weight : Type} [AddCancelCommMonoid Weight] (weight : Place → Weight)
    (places : Thread → Place) (thread : Thread) (place : Place)
    (stock passed stock' passed' : Weight) (before : stock = passed + total weight places)
    (balance : stock' + passed + weight (places thread) = stock + passed' + weight place) :
    stock' = passed' + total weight (update places thread place) := by
  have moved := total_move weight places thread place
  apply add_right_cancel (b := passed + weight (places thread))
  calc stock' + (passed + weight (places thread))
      = stock + passed' + weight place := by rw [← add_assoc, balance]
    _ = passed + passed' + (total weight places + weight place) := by rw [before]; abel
    _ = passed' + total weight (update places thread place) + (passed + weight (places thread)) := by
        rw [← moved]; abel

section

variable (weight : Place → Nat) (places : Thread → Place)

omit [DecidableEq Thread] in
theorem le_total (thread : Thread) : weight (places thread) ≤ total weight places :=
  Finset.single_le_sum (f := fun other => weight (places other)) (fun _ _ => Nat.zero_le _)
    (Finset.mem_univ thread)

omit [DecidableEq Thread] in
theorem total_eq_zero_iff : total weight places = 0 ↔ ∀ thread, weight (places thread) = 0 := by
  simp [total]

omit [DecidableEq Thread] in
/-- Shares of at most one each, one of them missing. -/
theorem total_lt_card (small : ∀ place, weight place ≤ 1) (thread : Thread)
    (missing : weight (places thread) = 0) : total weight places < Fintype.card Thread := by
  have below : total weight places < ∑ _other : Thread, 1 := by
    apply Finset.sum_lt_sum
    · intro other _
      exact small _
    · exact ⟨thread, Finset.mem_univ thread, by omega⟩
  simpa using below

omit [DecidableEq Thread] in
theorem exists_of_total_pos (positive : 0 < total weight places) :
    ∃ thread, 0 < weight (places thread) := by
  by_contra none
  rw [not_exists] at none
  have zero := (total_eq_zero_iff weight places).mpr fun thread => Nat.eq_zero_of_not_pos (none thread)
  omega

end

/-! `wakes` gives the place a waiting thread goes on from, and nothing for a
thread that does not wait. -/

section

variable (wakes : Place → Option Place) (places : Thread → Place)

def Waits (place : Place) : Prop := (wakes place).isSome

instance (place : Place) : Decidable (Waits wakes place) :=
  inferInstanceAs (Decidable ((wakes place).isSome = true))

/-- The threads a notification may wake. -/
def Chosen : Option Thread → Prop
  | some thread => Waits wakes (places thread)
  | none => ∀ thread, ¬ Waits wakes (places thread)

instance (chosen : Option Thread) : Decidable (Chosen wakes places chosen) :=
  match chosen with
  | some thread => inferInstanceAs (Decidable (Waits wakes (places thread)))
  | none => inferInstanceAs (Decidable (∀ thread, ¬ Waits wakes (places thread)))

def awake (place : Place) : Place := (wakes place).getD place

def notifyOne : Option Thread → Thread → Place
  | some thread => update places thread (awake wakes (places thread))
  | none => places

def notifyAll : Thread → Place := fun thread => awake wakes (places thread)

end

section

variable (wakes : Place → Option Place) (places : Thread → Place)

omit [Fintype Thread] [DecidableEq Thread] in
/-- Some thread may always be chosen. -/
theorem exists_chosen : ∃ chosen, Chosen wakes places chosen := by
  by_cases waiting : ∃ thread, Waits wakes (places thread)
  · obtain ⟨thread, waits⟩ := waiting
    exact ⟨some thread, waits⟩
  · exact ⟨none, fun thread waits => waiting ⟨thread, waits⟩⟩

omit [Fintype Thread] in
/-- A thread that goes elsewhere than to wait makes no thread wait. -/
theorem waits_of_update (thread other : Thread) (place : Place) (busy : wakes place = none)
    (waits : Waits wakes (update places thread place other)) : Waits wakes (places other) := by
  rw [update_apply] at waits
  split at waits
  · simp [Waits, busy] at waits
  · exact waits

omit [Fintype Thread] in
theorem notifyOne_apply (chosen : Option Thread) (thread : Thread) :
    notifyOne wakes places chosen thread = places thread ∨
      notifyOne wakes places chosen thread = awake wakes (places thread) := by
  cases chosen with
  | none => exact Or.inl rfl
  | some woken =>
      rw [notifyOne, update_apply]
      split
      · next same => exact Or.inr (by rw [same])
      · exact Or.inl rfl

omit [Fintype Thread] in
/-- Waking others leaves a thread that does not wait where it is. -/
theorem notifyOne_of_not_waits (chosen : Option Thread) (thread : Thread)
    (busy : ¬ Waits wakes (places thread)) :
    notifyOne wakes places chosen thread = places thread := by
  rcases notifyOne_apply wakes places chosen thread with kept | woken
  · exact kept
  · rw [woken, awake, Option.not_isSome_iff_eq_none.mp busy, Option.getD_none]

omit [Fintype Thread] in
/-- A notification makes no thread wait. -/
theorem waits_of_notifyOne (chosen : Option Thread) (thread : Thread)
    (waits : Waits wakes (notifyOne wakes places chosen thread)) :
    Waits wakes (places thread) := by
  rcases notifyOne_apply wakes places chosen thread with kept | woken
  · rw [kept] at waits
    exact waits
  · cases found : wakes (places thread) with
    | none =>
        rw [woken, awake, found, Option.getD_none] at waits
        exact waits
    | some next => rw [Waits, found]; rfl

/-- What waking does not change for any place it does not change for all threads. -/
theorem total_notifyOne {Weight : Type} [AddCommMonoid Weight] (weight : Place → Weight)
    (same : ∀ place, weight (awake wakes place) = weight place) (chosen : Option Thread) :
    total weight (notifyOne wakes places chosen) = total weight places := by
  apply total_congr
  intro thread
  rcases notifyOne_apply wakes places chosen thread with kept | woken
  · rw [kept]
  · rw [woken, same]

omit [DecidableEq Thread] in
theorem total_notifyAll {Weight : Type} [AddCommMonoid Weight] (weight : Place → Weight)
    (same : ∀ place, weight (awake wakes place) = weight place) :
    total weight (notifyAll wakes places) = total weight places :=
  total_congr weight places _ fun thread => same (places thread)

/-- Weights that tell the threads on their way, and not the waiting ones. -/
def Counts (active : Place → Nat) : Prop :=
  ∀ place next, wakes place = some next → active place = 0 ∧ active next = 1

/-- A notification adds a thread on its way, unless none waits. -/
theorem active_notifyOne (active : Place → Nat) (counts : Counts wakes active)
    (chosen : Option Thread) (allowed : Chosen wakes places chosen) :
    (chosen = none ∧ ∀ thread, ¬ Waits wakes (notifyOne wakes places chosen thread)) ∨
      total active (notifyOne wakes places chosen) = total active places + 1 := by
  cases chosen with
  | none => exact Or.inl ⟨rfl, allowed⟩
  | some thread =>
      obtain ⟨next, waits⟩ := Option.isSome_iff_exists.mp allowed
      obtain ⟨idle, moves⟩ := counts _ _ waits
      have moved := total_move active places thread next
      rw [idle, moves] at moved
      right
      rw [notifyOne, awake, waits, Option.getD_some]
      exact moved

end

end Threads

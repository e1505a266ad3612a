import Mathlib.Algebra.Order.BigOperators.Group.Finset
import Mathlib.Data.Multiset.AddSub
import Mathlib.Logic.Function.Basic

/-!
Requests that wait for their answers under the numbers they were sent with. A
weight counts what the waiting ones owe: sending adds to it, an answer takes
away what waited under its number, and nothing else changes it.
-/

namespace Requests

open Function

variable {Waiting Weight : Type} [AddCommMonoid Weight] (weight : Waiting → Weight)

/-- What waits under one number owes. -/
def owed (waiting : Option Waiting) : Weight := (waiting.map weight).getD 0

/-- What all requests with numbers below `issued` owe. -/
def outstanding (issued : Nat) (table : Nat → Option Waiting) : Weight :=
  ∑ number ∈ Finset.range issued, owed weight (table number)

/-- No number waits that was not issued yet. -/
def Fresh (issued : Nat) (table : Nat → Option Waiting) : Prop :=
  ∀ number, issued ≤ number → table number = none

section

variable (issued : Nat) (table : Nat → Option Waiting)

theorem fresh_send (waiting : Option Waiting) (fresh : Fresh issued table) :
    Fresh (issued + 1) (update table issued waiting) := by
  intro number later
  rw [update_of_ne (by omega)]
  exact fresh number (by omega)

theorem fresh_answer (number : Nat) (fresh : Fresh issued table) :
    Fresh issued (update table number none) := by
  intro other later
  by_cases same : other = number
  · rw [same, update_self]
  · rw [update_of_ne same]
    exact fresh other later

theorem outstanding_send (waiting : Option Waiting) :
    outstanding weight (issued + 1) (update table issued waiting) =
      outstanding weight issued table + owed weight waiting := by
  rw [outstanding, Finset.sum_range_succ, update_self, outstanding]
  congr 1
  apply Finset.sum_congr rfl
  intro number early
  have below := Finset.mem_range.mp early
  rw [update_of_ne (by omega)]

theorem outstanding_answer (number : Nat) (fresh : Fresh issued table) :
    outstanding weight issued (update table number none) + owed weight (table number) =
      outstanding weight issued table := by
  by_cases early : number < issued
  · have member := Finset.mem_range.mpr early
    rw [outstanding, outstanding, ← Finset.sum_erase_add _ _ member,
      ← Finset.sum_erase_add _ _ member, update_self]
    have others : ∑ other ∈ (Finset.range issued).erase number,
          owed weight (update table number none other) =
        ∑ other ∈ (Finset.range issued).erase number, owed weight (table other) := by
      apply Finset.sum_congr rfl
      intro other held
      rw [update_of_ne (Finset.ne_of_mem_erase held)]
    rw [others]
    simp [owed]
  · have none := fresh number (by omega)
    rw [none, ← none, update_eq_self, none]
    simp [owed]

theorem outstanding_of_none (none : ∀ number, owed weight (table number) = 0) :
    outstanding weight issued table = 0 :=
  Finset.sum_eq_zero fun number _ => none number

end

section

variable (count : Waiting → Nat) (issued : Nat) (table : Nat → Option Waiting)

/-- Where no more than one is owed, no two numbers owe. -/
theorem unique_of_outstanding (most : outstanding count issued table ≤ 1)
    (fresh : Fresh issued table) (number other : Nat) (first : owed count (table number) ≠ 0)
    (second : owed count (table other) ≠ 0) : number = other := by
  have early (one : Nat) (owes : owed count (table one) ≠ 0) : one ∈ Finset.range issued := by
    rw [Finset.mem_range]
    by_contra late
    rw [fresh one (Nat.le_of_not_lt late)] at owes
    exact owes rfl
  exact (Finset.sum_le_one_iff.mp most number other (early number first) (early other second) first
    second).1

theorem exists_of_outstanding (some : outstanding count issued table ≠ 0) :
    ∃ number, owed count (table number) ≠ 0 := by
  obtain ⟨number, _, owes⟩ := Finset.exists_ne_zero_of_sum_ne_zero some
  exact ⟨number, owes⟩

end

end Requests

import Mathlib.Data.List.Induction

/-!
Failures in a row. A success ends a streak of them, and what is neither leaves it
as it is. A streak grows to a limit at some point exactly if some stretch without a
success has that many failures.
-/

namespace Streaks

inductive Outcome where
  | failed
  | silent
  | succeeded
  deriving DecidableEq, Repr

def next (streak : Nat) : Outcome → Nat
  | .failed => streak + 1
  | .silent => streak
  | .succeeded => 0

/-- The failures since the last success. -/
def streak (outcomes : List Outcome) : Nat := outcomes.foldl next 0

/-- At some point so many failures had come with no success between them. -/
def Reaches (limit : Nat) (outcomes : List Outcome) : Prop :=
  ∃ before stretch after, outcomes = before ++ stretch ++ after ∧ .succeeded ∉ stretch ∧
    limit ≤ stretch.count .failed

theorem streak_snoc (outcomes : List Outcome) (outcome : Outcome) :
    streak (outcomes ++ [outcome]) = next (streak outcomes) outcome := by
  simp [streak]

theorem streak_option (outcomes : List Outcome) (outcome : Option Outcome) :
    streak (outcomes ++ outcome.toList) =
      match outcome with
      | none => streak outcomes
      | some outcome => next (streak outcomes) outcome := by
  cases outcome with
  | none => rw [Option.toList_none, List.append_nil]
  | some outcome => exact streak_snoc outcomes outcome

theorem reaches_append (limit : Nat) (outcomes later : List Outcome)
    (reaches : Reaches limit outcomes) : Reaches limit (outcomes ++ later) := by
  obtain ⟨before, stretch, after, rfl, unbroken, enough⟩ := reaches
  exact ⟨before, stretch, after ++ later, by simp, unbroken, enough⟩

theorem not_reaches_nil (limit : Nat) (positive : 0 < limit) : ¬ Reaches limit [] := by
  rintro ⟨before, stretch, after, split, _, enough⟩
  have empty : stretch = [] := by simp_all
  rw [empty] at enough
  exact Nat.not_le_of_lt positive enough

theorem count_le_streak (before stretch : List Outcome) (unbroken : .succeeded ∉ stretch) :
    stretch.count .failed ≤ streak (before ++ stretch) := by
  induction stretch using List.reverseRecOn with
  | nil => exact Nat.zero_le _
  | append_singleton stretch outcome ih =>
      rw [List.mem_append, not_or] at unbroken
      have earlier := ih unbroken.1
      rw [← List.append_assoc, streak_snoc, List.count_append]
      cases outcome with
      | failed => simpa [next] using earlier
      | silent => simpa [next] using earlier
      | succeeded => simp at unbroken

theorem stretch_of_streak (outcomes : List Outcome) :
    ∃ before stretch, outcomes = before ++ stretch ∧ .succeeded ∉ stretch ∧
      stretch.count .failed = streak outcomes := by
  induction outcomes using List.reverseRecOn with
  | nil => exact ⟨[], [], rfl, by simp, rfl⟩
  | append_singleton outcomes outcome ih =>
      obtain ⟨before, stretch, rfl, unbroken, count⟩ := ih
      rw [streak_snoc, ← count]
      cases outcome with
      | failed => exact ⟨before, stretch ++ [.failed], by simp, by simp [unbroken], by simp [next]⟩
      | silent => exact ⟨before, stretch ++ [.silent], by simp, by simp [unbroken], by simp [next]⟩
      -- The next streak starts behind the success.
      | succeeded => exact ⟨before ++ stretch ++ [.succeeded], [], by simp, by simp, rfl⟩

/-- A limit is reached first by a failure that completes a streak. -/
theorem reaches_snoc (limit : Nat) (positive : 0 < limit) (outcomes : List Outcome)
    (outcome : Outcome) :
    Reaches limit (outcomes ++ [outcome]) ↔
      Reaches limit outcomes ∨ outcome = .failed ∧ limit ≤ streak outcomes + 1 := by
  constructor
  · rintro ⟨before, stretch, after, split, unbroken, enough⟩
    rcases List.eq_nil_or_concat after with rfl | ⟨front, final, rfl⟩
    · rcases List.eq_nil_or_concat stretch with rfl | ⟨stretch, final, rfl⟩
      · exact absurd enough (Nat.not_le_of_lt positive)
      -- The stretch ends with the new outcome; without it the streak was one short at most.
      · rw [List.append_nil, List.concat_eq_append, ← List.append_assoc] at split
        rw [List.concat_eq_append] at unbroken enough
        obtain ⟨rfl, last⟩ := List.append_inj' split rfl
        cases last
        rw [List.mem_append, not_or] at unbroken
        rw [List.count_append] at enough
        cases outcome with
        | failed =>
            have most := count_le_streak before stretch unbroken.1
            simp only [List.count_singleton_self] at enough
            exact Or.inr ⟨rfl, by omega⟩
        | silent => exact Or.inl ⟨before, stretch, [], by simp, unbroken.1, by simpa using enough⟩
        | succeeded => simp at unbroken
    -- The stretch had ended before the new outcome.
    · rw [List.concat_eq_append, ← List.append_assoc] at split
      obtain ⟨rfl, _⟩ := List.append_inj' split rfl
      exact Or.inl ⟨before, stretch, front, rfl, unbroken, enough⟩
  · rintro (earlier | ⟨rfl, enough⟩)
    · exact reaches_append limit outcomes _ earlier
    · obtain ⟨before, stretch, rfl, unbroken, count⟩ := stretch_of_streak outcomes
      refine ⟨before, stretch ++ [.failed], [], by simp, by simp [unbroken], ?_⟩
      rw [List.count_append, count]
      exact enough

theorem reaches_option (limit : Nat) (positive : 0 < limit) (outcomes : List Outcome)
    (outcome : Option Outcome) :
    Reaches limit (outcomes ++ outcome.toList) ↔
      Reaches limit outcomes ∨ outcome = some .failed ∧ limit ≤ streak outcomes + 1 := by
  cases outcome with
  | none => simp
  | some outcome => simpa using reaches_snoc limit positive outcomes outcome

end Streaks

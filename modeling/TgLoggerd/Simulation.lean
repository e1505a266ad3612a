import TgLoggerd.SerialRun

/-!
Forward simulation. A concrete machine attempts actions, and each one that it is
ready for stands for some operations of an abstract machine, none for a step that
only the concrete machine has. The operations of a whole run form a schedule, and
the abstract machine follows the concrete one along it.
-/

namespace Simulation

open SerialRun

variable {Concrete Abstract Action Op : Type}

section

variable (enabled : Concrete → Action → Option Concrete)
  (means : Concrete → Action → Concrete → List Op)

/-- What an attempt means; an action that the machine is not ready for means nothing. -/
def meaning (machine : Concrete) (action : Action) : List Op :=
  match enabled machine action with
  | some next => means machine action next
  | none => []

def schedule (first : Concrete) (actions : List Action) : List Op :=
  outputs (attempt enabled) (meaning enabled means) first actions

theorem schedule_snoc (first : Concrete) (actions : List Action) (action : Action) :
    schedule enabled means first (actions ++ [action]) =
      schedule enabled means first actions ++
        meaning enabled means (run (attempt enabled) first actions) action :=
  outputs_snoc _ _ _ _ _

theorem schedule_append (first : Concrete) (before after : List Action) :
    schedule enabled means first before <+: schedule enabled means first (before ++ after) := by
  induction after using List.reverseRecOn with
  | nil => simp
  | append_singleton after action ih =>
      rw [← List.append_assoc, schedule_snoc]
      exact ih.trans (List.prefix_append _ _)

/-- Every scheduled operation comes from an action that was taken. -/
theorem of_schedule (first : Concrete) (actions : List Action) (op : Op)
    (scheduled : op ∈ schedule enabled means first actions) :
    ∃ machine, ∃ action ∈ actions, ∃ next, enabled machine action = some next ∧
      op ∈ means machine action next := by
  induction actions using List.reverseRecOn with
  | nil => cases scheduled
  | append_singleton actions action ih =>
      rw [schedule_snoc] at scheduled
      rcases List.mem_append.mp scheduled with earlier | last
      · obtain ⟨machine, other, member, taken⟩ := ih earlier
        exact ⟨machine, other, List.mem_append_left _ member, taken⟩
      · simp only [meaning] at last
        split at last
        · next next taken => exact ⟨_, action, by simp, next, taken, last⟩
        · cases last

end

/-- `sound` is what the concrete machine keeps by itself, and `related` what ties
the two together. -/
structure Simulates (enabled : Concrete → Action → Option Concrete)
    (step : Abstract → Op → Abstract) (means : Concrete → Action → Concrete → List Op)
    (sound : Concrete → Prop) (related : Concrete → Abstract → Prop) : Prop where
  keeps : ∀ machine action next, sound machine → enabled machine action = some next → sound next
  follows : ∀ machine action next abstract, sound machine → related machine abstract →
    enabled machine action = some next → related next (run step abstract (means machine action next))

namespace Simulates

variable {enabled : Concrete → Action → Option Concrete} {step : Abstract → Op → Abstract}
  {means : Concrete → Action → Concrete → List Op} {sound : Concrete → Prop}
  {related : Concrete → Abstract → Prop}

theorem sound_run (simulates : Simulates enabled step means sound related) (first : Concrete)
    (initial : sound first) (actions : List Action) :
    sound (run (attempt enabled) first actions) :=
  attempt_invariant enabled first sound initial simulates.keeps actions

theorem related_run (simulates : Simulates enabled step means sound related) (first : Concrete)
    (abstract : Abstract) (initial : sound first) (tied : related first abstract)
    (actions : List Action) :
    related (run (attempt enabled) first actions)
      (run step abstract (schedule enabled means first actions)) := by
  induction actions using List.reverseRecOn with
  | nil => exact tied
  | append_singleton actions action ih =>
      rw [run_snoc, schedule_snoc, run_append, meaning]
      have held := simulates.sound_run first initial actions
      cases taken : enabled (run (attempt enabled) first actions) action with
      | none =>
          rw [attempt, taken]
          exact ih
      | some next =>
          rw [attempt, taken]
          exact simulates.follows _ action next _ held ih taken

end Simulates

end Simulation

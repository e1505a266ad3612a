import Mathlib.Logic.Basic
import Mathlib.Data.List.Basic

/-!
Queues whose jobs need facts that earlier jobs establish. A queue is supplied
when each of its jobs, run in turn, finds what it needs: it holds at the start,
or a job before it brings it. New jobs go to the end, and supply is judged there
from what the queue as a whole will have brought.
-/

namespace Supply

variable {Job Fact : Type} (needs brings : Job → Fact → Prop)

/-- What holds once the jobs of a queue are done. -/
def Expected (held : Fact → Prop) (queue : List Job) (fact : Fact) : Prop :=
  held fact ∨ ∃ job ∈ queue, brings job fact

def Supplied (held : Fact → Prop) : List Job → Prop
  | [] => True
  | job :: rest =>
      (∀ fact, needs job fact → held fact) ∧ Supplied (fun fact => held fact ∨ brings job fact) rest

theorem expected_cons (held : Fact → Prop) (job : Job) (rest : List Job) (fact : Fact) :
    Expected brings held (job :: rest) fact ↔
      Expected brings (fun fact => held fact ∨ brings job fact) rest fact := by
  simp only [Expected, List.mem_cons, exists_eq_or_imp, or_assoc]

theorem expected_append (held : Fact → Prop) (queue later : List Job) (fact : Fact) :
    Expected brings held (queue ++ later) fact ↔
      Expected brings (Expected brings held queue) later fact := by
  simp only [Expected, List.mem_append, or_and_right, exists_or, or_assoc]

theorem supplied_mono (held wider : Fact → Prop) (more : ∀ fact, held fact → wider fact)
    (queue : List Job) (supplied : Supplied needs brings held queue) :
    Supplied needs brings wider queue := by
  induction queue generalizing held wider with
  | nil => trivial
  | cons job rest ih =>
      refine ⟨fun fact needed => more fact (supplied.1 fact needed), ?_⟩
      exact ih _ _ (fun fact known => known.imp_left (more fact)) supplied.2

theorem supplied_congr (held other : Fact → Prop) (same : ∀ fact, held fact ↔ other fact)
    (queue : List Job) : Supplied needs brings held queue ↔ Supplied needs brings other queue :=
  ⟨supplied_mono needs brings held other (fun fact => (same fact).mp) queue,
    supplied_mono needs brings other held (fun fact => (same fact).mpr) queue⟩

/-- What holds from the start supplies every queue that needs no more. -/
theorem supplied_of_held (held : Fact → Prop) (queue : List Job)
    (enough : ∀ job ∈ queue, ∀ fact, needs job fact → held fact) :
    Supplied needs brings held queue := by
  induction queue generalizing held with
  | nil => trivial
  | cons job rest ih =>
      refine ⟨enough job List.mem_cons_self, ih _ ?_⟩
      intro other member fact needed
      exact Or.inl (enough other (List.mem_cons_of_mem _ member) fact needed)

/-- Jobs at the end of a queue draw on all that the queue brings. -/
theorem supplied_append (held : Fact → Prop) (queue later : List Job) :
    Supplied needs brings held (queue ++ later) ↔
      Supplied needs brings held queue ∧
        Supplied needs brings (Expected brings held queue) later := by
  induction queue generalizing held with
  | nil =>
      have same (fact : Fact) : held fact ↔ Expected brings held [] fact := by simp [Expected]
      simp only [List.nil_append, Supplied, true_and]
      exact supplied_congr needs brings _ _ same later
  | cons job rest ih =>
      rw [List.cons_append, Supplied, ih, Supplied, and_assoc]
      have same := supplied_congr needs brings _ _ (expected_cons brings held job rest) later
      rw [same]

/-- A job that needs nothing fits in anywhere. -/
theorem supplied_insert (held : Fact → Prop) (queue later : List Job) (job : Job)
    (free : ∀ fact, ¬ needs job fact) (supplied : Supplied needs brings held (queue ++ later)) :
    Supplied needs brings held (queue ++ [job] ++ later) := by
  rw [List.append_assoc, supplied_append] at *
  refine ⟨supplied.1, fun fact needed => absurd needed (free fact), ?_⟩
  exact supplied_mono needs brings _ _ (fun _ known => Or.inl known) later supplied.2

end Supply

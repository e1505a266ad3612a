import TgLoggerd.SerialRun

/-!
Views of a machine. A view shows part of the state, and it is a machine of its
own when the operations it is about step it and the others leave it alone. A run
then shows in the view what the operations about it make of it. Where a view has
no step of its own, an equivalence of states takes its place: two runs that agree
on the operations it is about stay equivalent.
-/

namespace Projection

open SerialRun

variable {State Op View : Type}

structure Projects (step : State → Op → State) (view : State → View)
    (viewStep : View → Op → View) (about : Op → Bool) : Prop where
  own : ∀ state op, about op = true → view (step state op) = viewStep (view state) op
  other : ∀ state op, about op = false → view (step state op) = view state

/-- An equivalence that some operations respect and the others do not leave. -/
structure Indifferent (step : State → Op → State) (same : State → State → Prop)
    (about : Op → Bool) : Prop where
  equivalence : Equivalence same
  own : ∀ left right op, about op = true → same left right → same (step left op) (step right op)
  other : ∀ state op, about op = false → same (step state op) state

namespace Indifferent

variable {step : State → Op → State} {same : State → State → Prop} {about : Op → Bool}

theorem run_filter (indifferent : Indifferent step same about) (left right : State)
    (equal : same left right) (ops : List Op) :
    same (run step left ops) (run step right (ops.filter about)) := by
  induction ops using List.reverseRecOn with
  | nil => exact equal
  | append_singleton ops op ih =>
      rw [run_snoc, List.filter_append]
      cases named : about op with
      | true =>
          rw [List.filter_cons_of_pos named, List.filter_nil, run_snoc]
          exact indifferent.own _ _ op named ih
      | false =>
          rw [List.filter_cons_of_neg (by simp [named]), List.filter_nil, List.append_nil]
          exact indifferent.equivalence.trans (indifferent.other _ op named) ih

/-- Operations an equivalence is not about, and their order among the others, do
not show in it. -/
theorem run_agree (indifferent : Indifferent step same about) (left right : State)
    (equal : same left right) (ops others : List Op)
    (agree : ops.filter about = others.filter about) :
    same (run step left ops) (run step right others) := by
  have first := indifferent.run_filter left right equal ops
  have second := indifferent.run_filter right right (indifferent.equivalence.refl right) others
  rw [← agree] at second
  exact indifferent.equivalence.trans first (indifferent.equivalence.symm second)

end Indifferent

namespace Projects

variable {step : State → Op → State} {view : State → View} {viewStep : View → Op → View}
  {about : Op → Bool}

theorem indifferent (projects : Projects step view viewStep about) :
    Indifferent step (fun left right => view left = view right) about where
  equivalence := ⟨fun _ => rfl, Eq.symm, Eq.trans⟩
  own := by
    intro left right op named equal
    rw [projects.own left op named, projects.own right op named, equal]
  other := projects.other

theorem view_run (projects : Projects step view viewStep about) (start : State) (ops : List Op) :
    view (run step start ops) = run viewStep (view start) (ops.filter about) := by
  induction ops using List.reverseRecOn with
  | nil => rfl
  | append_singleton ops op ih =>
      rw [run_snoc, List.filter_append]
      cases named : about op with
      | true =>
          rw [List.filter_cons_of_pos named, List.filter_nil, run_snoc, ← ih]
          exact projects.own _ op named
      | false =>
          rw [List.filter_cons_of_neg (by simp [named]), List.filter_nil, List.append_nil, ← ih]
          exact projects.other _ op named

end Projects

/-- A machine simulated by another one, each operation by the same operation. -/
theorem run_simulates (step : State → Op → State) (viewStep : View → Op → View)
    (view : State → View) (simulates : ∀ state op, view (step state op) = viewStep (view state) op)
    (start : State) (ops : List Op) :
    view (run step start ops) = run viewStep (view start) ops := by
  have projects : Projects step view viewStep (fun _ => true) :=
    ⟨fun state op _ => simulates state op, fun state op named => by cases named⟩
  have shown := projects.view_run start ops
  rwa [List.filter_eq_self.mpr fun _ _ => rfl] at shown

/-- What quiet operations keep, a run of them keeps. -/
theorem run_keeps (step : State → Op → State) (holds : State → Prop) (quiet : Op → Prop)
    (survives : ∀ state op, holds state → quiet op → holds (step state op)) (start : State)
    (ops : List Op) (initial : holds start) (calm : ∀ op ∈ ops, quiet op) :
    holds (run step start ops) := by
  induction ops using List.reverseRecOn with
  | nil => exact initial
  | append_singleton ops op ih =>
      rw [run_snoc]
      exact survives _ op (ih fun earlier member => calm earlier (by simp [member]))
        (calm op (by simp))

/-- What one operation brings about lasts while only quiet ones follow. -/
theorem run_establishes (step : State → Op → State) (holds : State → Prop) (quiet : Op → Prop)
    (survives : ∀ state op, holds state → quiet op → holds (step state op)) (op : Op)
    (brought : ∀ state, holds (step state op)) (start : State) (before after : List Op)
    (calm : ∀ later ∈ after, quiet later) : holds (run step start (before ++ op :: after)) := by
  rw [run_append]
  exact run_keeps step holds quiet survives _ after (brought _) calm

/-- An operation that a fact about the state makes harmless can be left out
where the fact holds; the fact survives whatever is done until then. -/
theorem run_absorbed (step : State → Op → State) (start : State) (absorbs : State → Prop) (op : Op)
    (quiet : Op → Prop) (harmless : ∀ state, absorbs state → step state op = state)
    (survives : ∀ state other, absorbs state → quiet other → absorbs (step state other))
    (before middle after : List Op) (reached : absorbs (run step start before))
    (calm : ∀ other ∈ middle, quiet other) :
    run step start (before ++ middle ++ op :: after) =
      run step start (before ++ middle ++ after) := by
  have still : absorbs (run step start (before ++ middle)) := by
    rw [run_append]
    exact run_keeps step absorbs quiet survives _ middle reached calm
  rw [run_append, run_append step start (before ++ middle) after]
  change run step (step (run step start (before ++ middle)) op) after = _
  rw [harmless _ still]

end Projection

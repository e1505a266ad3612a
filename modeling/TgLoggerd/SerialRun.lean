import Mathlib.Data.List.Induction

/-!
Runs of a deterministic state machine: one operation after the other, each on
the state its predecessor left. `EveryStep` and `EveryState` speak about all
points of a run, not only about its end, and the two are tied together once
for all machines.
-/

namespace SerialRun

variable {State Op : Type} (step : State → Op → State) (start : State)

def run (ops : List Op) : State := ops.foldl step start

@[simp]
theorem run_nil : run step start [] = start := rfl

@[simp]
theorem run_snoc (ops : List Op) (op : Op) :
    run step start (ops ++ [op]) = step (run step start ops) op := by
  simp [run]

theorem run_append (before after : List Op) :
    run step start (before ++ after) = run step (run step start before) after := by
  simp [run]

theorem run_invariant (holds : State → Prop) (initial : holds start)
    (preserved : ∀ state op, holds state → holds (step state op)) (ops : List Op) :
    holds (run step start ops) := by
  induction ops using List.reverseRecOn with
  | nil => exact initial
  | append_singleton ops op ih =>
      rw [run_snoc]
      exact preserved _ op ih

theorem forall_split_nil (holds : List Op → Op → List Op → Prop) :
    ∀ before op after, [] = before ++ op :: after → holds before op after := by
  intro before op after split
  simp at split

theorem forall_split_cons (holds : List Op → Op → List Op → Prop) (first : Op) (rest : List Op)
    (here : holds [] first rest)
    (later : ∀ before op after, rest = before ++ op :: after → holds (first :: before) op after) :
    ∀ before op after, first :: rest = before ++ op :: after → holds before op after := by
  intro before op after split
  cases before with
  | nil =>
      cases split
      exact here
  | cons head front =>
      cases split
      exact later front op after rfl

/-- A point of a list is its last one or one before that. -/
theorem split_snoc (ops : List Op) (op : Op) (before : List Op) (other : Op) (after : List Op) :
    ops ++ [op] = before ++ other :: after ↔
      after = [] ∧ ops = before ∧ op = other ∨
        ∃ front, after = front ++ [op] ∧ ops = before ++ other :: front := by
  constructor
  · intro split
    rcases List.eq_nil_or_concat after with rfl | ⟨front, final, rfl⟩
    · obtain ⟨same, last⟩ := List.append_inj' split rfl
      cases last
      exact Or.inl ⟨rfl, same, rfl⟩
    · rw [List.concat_eq_append, ← List.cons_append, ← List.append_assoc] at split
      obtain ⟨same, last⟩ := List.append_inj' split rfl
      cases last
      exact Or.inr ⟨front, List.concat_eq_append, same⟩
  · rintro (⟨rfl, rfl, rfl⟩ | ⟨front, rfl, rfl⟩)
    · rfl
    · simp

/-- Every operation of the run meets `good` in the state it is applied to. -/
def EveryStep (good : State → Op → Prop) (ops : List Op) : Prop :=
  ∀ before op after, ops = before ++ op :: after → good (run step start before) op

/-- Every state the run passes through, both ends included, meets `holds`. -/
def EveryState (holds : State → Prop) (ops : List Op) : Prop :=
  ∀ before after, ops = before ++ after → holds (run step start before)

theorem everyStep_nil (good : State → Op → Prop) : EveryStep step start good [] :=
  forall_split_nil _

theorem everyStep_snoc (good : State → Op → Prop) (ops : List Op) (op : Op) :
    EveryStep step start good (ops ++ [op]) ↔
      EveryStep step start good ops ∧ good (run step start ops) op := by
  constructor
  · intro every
    constructor
    · intro before earlier after split
      exact every before earlier (after ++ [op]) (by simp [split])
    · exact every ops op [] rfl
  · rintro ⟨every, last⟩ before earlier after split
    rcases (split_snoc ops op before earlier after).mp split with
      ⟨rfl, rfl, rfl⟩ | ⟨front, rfl, rfl⟩
    · exact last
    · exact every before earlier front rfl

theorem everyStep_append (good : State → Op → Prop) (before after : List Op)
    (every : EveryStep step start good (before ++ after)) :
    EveryStep step start good before ∧ EveryStep step (run step start before) good after := by
  constructor
  · intro front op back split
    exact every front op (back ++ after) (by simp [split])
  · intro front op back split
    rw [← run_append]
    exact every (before ++ front) op back (by simp [split])

theorem everyStep_cons (good : State → Op → Prop) (op : Op) (ops : List Op)
    (every : EveryStep step start good (op :: ops)) :
    good start op ∧ EveryStep step (step start op) good ops :=
  ⟨every [] op ops rfl, (everyStep_append step start good [op] ops every).2⟩

/-- Some operation of the run meets `marked` in the state it is applied to. -/
def SomeStep (marked : State → Op → Prop) (ops : List Op) : Prop :=
  ∃ before op after, ops = before ++ op :: after ∧ marked (run step start before) op

theorem someStep_snoc (marked : State → Op → Prop) (ops : List Op) (op : Op) :
    SomeStep step start marked (ops ++ [op]) ↔
      SomeStep step start marked ops ∨ marked (run step start ops) op := by
  constructor
  · rintro ⟨before, other, after, split, here⟩
    rcases (split_snoc ops op before other after).mp split with
      ⟨rfl, rfl, rfl⟩ | ⟨front, rfl, rfl⟩
    · exact Or.inr here
    · exact Or.inl ⟨before, other, front, rfl, here⟩
  · rintro (⟨before, other, after, rfl, here⟩ | here)
    · exact ⟨before, other, after ++ [op], by simp, here⟩
    · exact ⟨ops, op, [], rfl, here⟩

theorem someStep_cons (marked : State → Op → Prop) (op : Op) (ops : List Op) :
    SomeStep step start marked (op :: ops) ↔
      marked start op ∨ SomeStep step (step start op) marked ops := by
  constructor
  · rintro ⟨before, other, after, split, here⟩
    cases before with
    | nil =>
        cases split
        exact Or.inl here
    | cons first before =>
        cases split
        exact Or.inr ⟨before, other, after, rfl, here⟩
  · rintro (here | ⟨before, other, after, rfl, here⟩)
    · exact ⟨[], op, ops, rfl, here⟩
    · exact ⟨op :: before, other, after, rfl, here⟩

instance decidableSomeStep (marked : State → Op → Prop)
    [∀ state op, Decidable (marked state op)] :
    ∀ start ops, Decidable (SomeStep step start marked ops)
  | _, [] => .isFalse (by rintro ⟨before, op, after, split, _⟩; simp at split)
  | start, op :: ops =>
      have := decidableSomeStep marked (step start op) ops
      decidable_of_iff _ (someStep_cons step start marked op ops).symm

/-- An invariant that only good steps keep. -/
theorem everyStep_invariant (holds : State → Prop) (good : State → Op → Prop)
    (initial : holds start)
    (preserved : ∀ state op, holds state → good state op → holds (step state op)) (ops : List Op)
    (every : EveryStep step start good ops) : holds (run step start ops) := by
  induction ops using List.reverseRecOn with
  | nil => exact initial
  | append_singleton ops op ih =>
      rw [everyStep_snoc] at every
      rw [run_snoc]
      exact preserved _ op (ih every.1) every.2

theorem everyState_nil (holds : State → Prop) :
    EveryState step start holds [] ↔ holds start := by
  constructor
  · intro every
    exact every [] [] rfl
  · intro initial before after split
    obtain ⟨rfl, _⟩ := List.append_eq_nil_iff.mp split.symm
    exact initial

theorem everyState_snoc (holds : State → Prop) (ops : List Op) (op : Op) :
    EveryState step start holds (ops ++ [op]) ↔
      EveryState step start holds ops ∧ holds (run step start (ops ++ [op])) := by
  constructor
  · intro every
    constructor
    · intro before after split
      exact every before (after ++ [op]) (by simp [split])
    · exact every _ [] (by simp)
  · rintro ⟨every, last⟩ before after split
    rcases List.eq_nil_or_concat after with rfl | ⟨front, final, rfl⟩
    · rw [List.append_nil] at split
      exact split ▸ last
    · rw [List.concat_eq_append, ← List.append_assoc] at split
      obtain ⟨rfl, _⟩ := List.append_inj' split rfl
      exact every before front rfl

theorem everyState_last (holds : State → Prop) (ops : List Op)
    (every : EveryState step start holds ops) : holds (run step start ops) :=
  every ops [] (by simp)

theorem everyState_cons (holds : State → Prop) (op : Op) (ops : List Op) :
    EveryState step start holds (op :: ops) ↔
      holds start ∧ EveryState step (step start op) holds ops := by
  constructor
  · intro every
    constructor
    · exact every [] (op :: ops) rfl
    · intro before after split
      exact every (op :: before) after (by simp [split])
  · rintro ⟨first, every⟩ before after split
    cases before with
    | nil => exact first
    | cons earlier before =>
        rw [List.cons_append, List.cons.injEq] at split
        rw [← split.1]
        exact every before after split.2

/-- When one step keeps a law exactly under a condition, the law holds all
along a run exactly when every step of the run meets the condition. -/
theorem everyState_iff_everyStep (law : State → Prop) (good : State → Op → Prop)
    (initial : law start)
    (exact_step : ∀ state op, law state → (law (step state op) ↔ good state op))
    (ops : List Op) :
    EveryState step start law ops ↔ EveryStep step start good ops := by
  induction ops using List.reverseRecOn with
  | nil => exact ⟨fun _ => everyStep_nil step start good,
      fun _ => (everyState_nil step start law).mpr initial⟩
  | append_singleton ops op ih =>
      rw [everyState_snoc, everyStep_snoc, ih, run_snoc]
      constructor
      · rintro ⟨every, after⟩
        have before := everyState_last step start law ops (ih.mpr every)
        exact ⟨every, (exact_step _ op before).mp after⟩
      · rintro ⟨every, last⟩
        have before := everyState_last step start law ops (ih.mpr every)
        exact ⟨every, (exact_step _ op before).mpr last⟩

/-- The same when a step keeps the law exactly only in states that meet an
invariant which every step keeps. -/
theorem everyState_iff_everyStep_of_invariant (invariant law : State → Prop)
    (good : State → Op → Prop) (sound : invariant start) (initial : law start)
    (keeps : ∀ state op, invariant state → invariant (step state op))
    (exact_step : ∀ state op, invariant state → law state → (law (step state op) ↔ good state op))
    (ops : List Op) :
    EveryState step start law ops ↔ EveryStep step start good ops := by
  have always := run_invariant step start invariant sound keeps
  have both : EveryState step start (fun state => invariant state ∧ law state) ops ↔
      EveryStep step start good ops := by
    apply everyState_iff_everyStep
    · exact ⟨sound, initial⟩
    · rintro state op ⟨held, lawful⟩
      exact (and_iff_right (keeps state op held)).trans (exact_step state op held lawful)
  rw [← both]
  constructor
  · intro every before after split
    exact ⟨always before, every before after split⟩
  · intro every before after split
    exact (every before after split).2

/-- Something picked happened, and nothing that revives came after it. -/
def Since (picks revives : Op → Prop) (ops : List Op) : Prop :=
  ∃ before op after, ops = before ++ op :: after ∧ picks op ∧ ∀ later ∈ after, ¬ revives later

theorem since_snoc (picks revives : Op → Prop) (ops : List Op) (op : Op) :
    Since picks revives (ops ++ [op]) ↔
      picks op ∨ ¬ revives op ∧ Since picks revives ops := by
  constructor
  · rintro ⟨before, picked, after, split, picks, quiet⟩
    rcases (split_snoc ops op before picked after).mp split with
      ⟨rfl, rfl, rfl⟩ | ⟨front, rfl, rfl⟩
    · exact Or.inl picks
    · exact Or.inr ⟨quiet op (by simp),
        before, picked, front, rfl, picks, fun later member => quiet later (by simp [member])⟩
  · rintro (picks | ⟨calm, before, picked, after, rfl, picks, quiet⟩)
    · exact ⟨ops, op, [], rfl, picks, by simp⟩
    · refine ⟨before, picked, after ++ [op], by simp, picks, ?_⟩
      intro later member
      rcases List.mem_append.mp member with old | fresh
      · exact quiet later old
      · exact List.mem_singleton.mp fresh ▸ calm

/-- Every item of a list is ready once those before it came. -/
def EachReady (ready : List Op → Op → Prop) (front items : List Op) : Prop :=
  ∀ before item after, items = before ++ item :: after → ready (front ++ before) item

theorem eachReady_of_forall (ready : List Op → Op → Prop) (front items : List Op)
    (always : ∀ item ∈ items, ∀ before, ready before item) : EachReady ready front items := by
  intro before item after split
  exact always item (by simp [split]) _

theorem eachReady_singleton (ready : List Op → Op → Prop) (front : List Op) (item : Op) :
    EachReady ready front [item] ↔ ready front item := by
  constructor
  · intro each
    have here := each [] item [] rfl
    rwa [List.append_nil] at here
  · intro here before other after split
    cases before with
    | nil =>
        cases split
        rwa [List.append_nil]
    | cons first before => simp at split

theorem eachReady_append (ready : List Op → Op → Prop) (front left right : List Op) :
    EachReady ready front (left ++ right) ↔
      EachReady ready front left ∧ EachReady ready (front ++ left) right := by
  constructor
  · intro each
    constructor
    · intro before item after split
      exact each before item (after ++ right) (by simp [split])
    · intro before item after split
      rw [List.append_assoc]
      exact each (left ++ before) item after (by simp [split])
  · rintro ⟨first, second⟩ before item after split
    rcases List.append_eq_append_iff.mp split with ⟨middle, rfl, rest⟩ | ⟨middle, start, rest⟩
    · rw [← List.append_assoc]
      exact second middle item after rest
    · cases middle with
      | nil =>
          rw [List.append_nil] at start
          have here := second [] item after rest.symm
          rwa [List.append_nil, start] at here
      | cons next middle =>
          rw [List.cons_append, List.cons.injEq] at rest
          rw [← rest.1] at start
          exact first before item middle start

section

variable {Out : Type} (out : State → Op → List Out)

/-- What a run emits, in order. -/
def outputs : State → List Op → List Out
  | _, [] => []
  | state, op :: rest => out state op ++ outputs (step state op) rest

theorem outputs_snoc (ops : List Op) (op : Op) :
    outputs step out start (ops ++ [op]) =
      outputs step out start ops ++ out (run step start ops) op := by
  induction ops generalizing start with
  | nil => simp [outputs]
  | cons first rest ih =>
      rw [List.cons_append, outputs, outputs, ih, List.append_assoc]
      rfl

/-- A wait that no good step loses, and that every trigger serves, is served in
any run of good steps that contains a trigger. -/
theorem served_once_triggered (waits : State → Prop) (serves : Out → Prop)
    (good : State → Op → Prop) (trigger : Op → Prop)
    (keeps : ∀ state op, good state op → waits state →
      waits (step state op) ∨ ∃ emitted ∈ out state op, serves emitted)
    (fires : ∀ state op, waits state → trigger op → ∃ emitted ∈ out state op, serves emitted)
    (ops : List Op) (every : EveryStep step start good ops) (fired : ∃ op ∈ ops, trigger op)
    (waiting : waits start) : ∃ emitted ∈ outputs step out start ops, serves emitted := by
  induction ops generalizing start with
  | nil =>
      obtain ⟨op, member, _⟩ := fired
      cases member
  | cons op rest ih =>
      obtain ⟨first, later⟩ := everyStep_cons step start good op rest every
      obtain ⟨cause, member, triggers⟩ := fired
      rcases List.mem_cons.mp member with rfl | follows
      · obtain ⟨emitted, here, serving⟩ := fires start cause waiting triggers
        exact ⟨emitted, List.mem_append_left _ here, serving⟩
      · rcases keeps start op first waiting with still | ⟨emitted, here, serving⟩
        · obtain ⟨emitted, there, serving⟩ :=
            ih (step start op) later ⟨cause, follows, triggers⟩ still
          exact ⟨emitted, List.mem_append_right _ there, serving⟩
        · exact ⟨emitted, List.mem_append_left _ here, serving⟩

end

section

variable {Machine Action : Type} (enabled : Machine → Action → Option Machine)

/-- An action that the machine is not ready for leaves it as it is. -/
def attempt (machine : Machine) (action : Action) : Machine :=
  (enabled machine action).getD machine

theorem attempt_cases (machine : Machine) (action : Action) :
    attempt enabled machine action = machine ∨
      enabled machine action = some (attempt enabled machine action) := by
  rw [attempt]
  cases enabled machine action with
  | none => exact Or.inl rfl
  | some next => exact Or.inr rfl

theorem attempt_invariant (first : Machine) (holds : Machine → Prop) (initial : holds first)
    (preserved : ∀ machine action next, holds machine → enabled machine action = some next →
      holds next) (actions : List Action) : holds (run (attempt enabled) first actions) := by
  apply run_invariant (attempt enabled) first holds initial
  intro machine action held
  rcases attempt_cases enabled machine action with same | taken
  · rw [same]
    exact held
  · exact preserved machine action _ held taken

end

end SerialRun

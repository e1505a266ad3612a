import TgLoggerd.Requests
import TgLoggerd.Wrapper

/-!
The numbers of queries. The log tells which query a number was given to, the
events tell whether it was answered, and the table of continuations holds what
these two say: what the query was sent with, until its answer comes. What the
waiting continuations owe follows from what the turns ask for.
-/

namespace TgLoggerd

open Function SerialRun Requests

def Action.sent : Action → Option (TdApi.Function × Option Continuation)
  | .hand _ => none
  | .send query handler => some (query, handler)

def sentQueries (log : List Action) : List (TdApi.Function × Option Continuation) :=
  log.filterMap Action.sent

/-- The query a number was given to, with what was to wait for its answer. Numbers
start at one. -/
def sentUnder (log : List Action) : Nat → Option (TdApi.Function × Option Continuation)
  | 0 => none
  | number + 1 => (sentQueries log)[number]?

/-- An event answers the query of a number that was given out. -/
def AnswersQuery (number : Nat) (impl : Impl) (event : Event) : Prop :=
  number ≤ impl.currentQueryId ∧ ∃ object, event = .answer number object

def QueryAnswered (config : Config) (events : List Event) (number : Nat) : Prop :=
  SomeStep (process config) Impl.initial (AnswersQuery number) events

instance (number : Nat) (impl : Impl) (event : Event) :
    Decidable (AnswersQuery number impl event) :=
  match event with
  | .update _ => .isFalse (by rintro ⟨_, _, same⟩; cases same)
  | .close => .isFalse (by rintro ⟨_, _, same⟩; cases same)
  | .answer requestId object =>
      decidable_of_iff (number ≤ impl.currentQueryId ∧ requestId = number)
        ⟨fun ⟨given, same⟩ => ⟨given, object, same ▸ rfl⟩, by
          rintro ⟨given, _, same⟩
          cases same
          exact ⟨given, rfl⟩⟩

instance (config : Config) (events : List Event) (number : Nat) :
    Decidable (QueryAnswered config events number) :=
  inferInstanceAs (Decidable (SomeStep _ _ _ _))

/-- As many numbers were given out as queries were sent, and what waits under a
number is what its query was sent with, unless it was answered. -/
structure QueriesNumbered (answered : Nat → Prop) (impl : Impl) : Prop where
  issued : impl.currentQueryId = (sentQueries impl.log).length
  early : ∀ number, answered number → number ≤ impl.currentQueryId
  waits : ∀ number waiting, impl.handlers number = some waiting ↔
    (sentUnder impl.log number).bind Prod.snd = some waiting ∧ ¬ answered number

theorem sentQueries_append (log actions : List Action) :
    sentQueries (log ++ actions) = sentQueries log ++ sentQueries actions :=
  List.filterMap_append

theorem sentUnder_late (log : List Action) (number : Nat)
    (late : (sentQueries log).length < number) : sentUnder log number = none := by
  cases number with
  | zero => rfl
  | succ number => exact List.getElem?_eq_none (Nat.lt_succ_iff.mp late)

theorem sentUnder_hand (log : List Action) (call : Call) :
    sentUnder (log ++ [.hand call]) = sentUnder log := by
  funext number
  cases number with
  | zero => rfl
  | succ number =>
      have none : sentQueries [.hand call] = [] := rfl
      rw [sentUnder, sentQueries_append, none, List.append_nil]
      rfl

theorem sentUnder_send (log : List Action) (query : TdApi.Function)
    (handler : Option Continuation) :
    sentUnder (log ++ [.send query handler]) =
      update (sentUnder log) ((sentQueries log).length + 1) (some (query, handler)) := by
  have one : sentQueries [.send query handler] = [(query, handler)] := rfl
  funext number
  cases number with
  | zero => rfl
  | succ number =>
      rw [sentUnder, sentQueries_append, one, List.getElem?_append, update_apply]
      rcases Nat.lt_trichotomy number (sentQueries log).length with early | rfl | late
      · rw [if_pos early, if_neg (by omega)]
        rfl
      · simp
      · rw [if_neg (by omega), if_neg (by omega), sentUnder_late log _ (by omega)]
        exact List.getElem?_eq_none (by simp; omega)

theorem sentUnder_mem (log : List Action) (number : Nat) (query : TdApi.Function)
    (handler : Option Continuation) (sent : sentUnder log number = some (query, handler)) :
    .send query handler ∈ log := by
  cases number with
  | zero => cases sent
  | succ number =>
      obtain ⟨action, member, same⟩ := List.mem_filterMap.mp (List.mem_of_getElem? sent)
      cases action with
      | hand call => cases same
      | send query handler =>
          cases same
          exact member

section

variable (answered : Nat → Prop) (impl : Impl)

theorem QueriesNumbered.fresh (numbered : QueriesNumbered answered impl) :
    Fresh (impl.currentQueryId + 1) impl.handlers := by
  intro number later
  rw [Option.eq_none_iff_forall_ne_some]
  intro waiting held
  have sent := ((numbered.waits number waiting).mp held).1
  rw [sentUnder_late impl.log number (by rw [← numbered.issued]; omega)] at sent
  cases sent

/-- A query nobody waits for takes a number all the same. -/
theorem handlers_send (fresh : Fresh (impl.currentQueryId + 1) impl.handlers)
    (query : TdApi.Function) (handler : Option Continuation) :
    (act impl (.send query handler)).handlers =
      update impl.handlers (impl.currentQueryId + 1) handler := by
  cases handler with
  | none =>
      have unused := fresh (impl.currentQueryId + 1) (Nat.le_refl _)
      exact (update_eq_self_iff.mpr unused.symm).symm
  | some waiting => rfl

theorem numbered_act (action : Action) (numbered : QueriesNumbered answered impl) :
    QueriesNumbered answered (act impl action) := by
  cases action with
  | hand call =>
      refine ⟨?_, numbered.early, ?_⟩
      · simp [act, sentQueries, Action.sent, numbered.issued]
      · intro number waiting
        rw [act, sentUnder_hand]
        exact numbered.waits number waiting
  | send query handler =>
      have log : (act impl (.send query handler)).log = impl.log ++ [.send query handler] := by
        rfl
      constructor
      · rw [log]
        simp [act, sentQueries, Action.sent, numbered.issued]
      · intro number done
        exact Nat.le_succ_of_le (numbered.early number done)
      · intro number waiting
        rw [log, handlers_send impl numbered.fresh, sentUnder_send, ← numbered.issued]
        by_cases own : number = impl.currentQueryId + 1
        · subst own
          have unanswered : ¬ answered (impl.currentQueryId + 1) := fun done =>
            Nat.not_succ_le_self _ (numbered.early _ done)
          simp [unanswered]
        · rw [update_of_ne own, update_of_ne own]
          exact numbered.waits number waiting

theorem numbered_acts (actions : List Action) (numbered : QueriesNumbered answered impl) :
    QueriesNumbered answered (actions.foldl act impl) := by
  induction actions generalizing impl with
  | nil => exact numbered
  | cons action rest ih => exact ih _ (numbered_act answered impl action numbered)

theorem numbered_process (config : Config) (event : Event)
    (numbered : QueriesNumbered answered impl) :
    QueriesNumbered (fun number => answered number ∨ AnswersQuery number impl event)
      (process config impl event) := by
  have plain (caches : Caches) (actions : List Action)
      (other : ∀ number object, event ≠ .answer number object) :
      QueriesNumbered (fun number => answered number ∨ AnswersQuery number impl event)
        (actions.foldl act { impl with caches := caches }) := by
    apply numbered_acts
    have same : (fun number => answered number ∨ AnswersQuery number impl event) = answered := by
      funext number
      simp [AnswersQuery, other]
    rw [same]
    exact ⟨numbered.issued, numbered.early, numbered.waits⟩
  cases event with
  | answer requestId object =>
      apply numbered_acts
      refine ⟨numbered.issued, ?_, ?_⟩
      · rintro number (done | ⟨early, _⟩)
        · exact numbered.early number done
        · exact early
      · intro number waiting
        by_cases own : number = requestId
        · subst own
          simp only [update_self, reduceCtorEq, false_iff, not_and, not_not]
          intro sent
          by_cases given : number ≤ impl.currentQueryId
          · exact Or.inr ⟨given, object, rfl⟩
          -- An answer to a number that was not given out yet answers no query.
          · rw [sentUnder_late _ number (by rw [← numbered.issued]; omega)] at sent
            cases sent
        · have others : AnswersQuery number impl (.answer requestId object) ↔ False := by
            simp [AnswersQuery, Ne.symm own]
          simp only [update_of_ne own, others, or_false]
          exact numbered.waits number waiting
  | update u => exact plain _ _ (by simp)
  | close => exact plain _ _ (by simp)

theorem numbered_initial : QueriesNumbered (fun _ => False) Impl.initial := by
  refine ⟨rfl, by simp, ?_⟩
  intro number waiting
  cases number with
  | zero => simp [Impl.initial, act, sentUnder]
  | succ number => cases number <;> simp [Impl.initial, act, sentUnder, sentQueries, Action.sent]

end

variable (config : Config)

theorem queryAnswered_snoc (events : List Event) (event : Event) (number : Nat) :
    QueryAnswered config (events ++ [event]) number ↔
      QueryAnswered config events number ∨ AnswersQuery number (runEvents config events) event :=
  someStep_snoc _ _ _ _ _

theorem numbered_run (events : List Event) :
    QueriesNumbered (QueryAnswered config events) (runEvents config events) := by
  induction events using List.reverseRecOn with
  | nil =>
      have none : QueryAnswered config [] = fun _ => False := by
        funext number
        simp [QueryAnswered, SomeStep]
      rw [none]
      exact numbered_initial
  | append_singleton events event ih =>
      have next := numbered_process _ _ config event ih
      have same : QueryAnswered config (events ++ [event]) = fun number =>
          QueryAnswered config events number ∨
            AnswersQuery number (runEvents config events) event := by
        funext number
        exact propext (queryAnswered_snoc config events event number)
      rw [same, runEvents_snoc]
      exact next

theorem fresh_run (events : List Event) :
    Fresh ((runEvents config events).currentQueryId + 1) (runEvents config events).handlers :=
  (numbered_run config events).fresh

/-! What the waiting continuations owe. -/

section

variable {Weight : Type} [AddCommMonoid Weight] (weight : Continuation → Weight)

/-- What a query is to owe until it is answered. -/
def Action.owes : Action → Weight
  | .hand _ => 0
  | .send _ handler => owed weight handler

def owes (actions : List Action) : Weight := (actions.map (Action.owes weight)).sum

def owing (impl : Impl) : Weight :=
  outstanding weight (impl.currentQueryId + 1) impl.handlers

/-- What an event pays with its answer. -/
def pays (impl : Impl) : Event → Weight
  | .answer requestId _ => owed weight (impl.handlers requestId)
  | .update _ => 0
  | .close => 0

theorem owes_append (left right : List Action) :
    owes weight (left ++ right) = owes weight left + owes weight right := by
  rw [owes, List.map_append, List.sum_append, owes, owes]

theorem owes_of_none (actions : List Action)
    (none : ∀ action ∈ actions, Action.owes weight action = 0) : owes weight actions = 0 := by
  induction actions with
  | nil => rfl
  | cons action rest ih =>
      rw [owes, List.map_cons, List.sum_cons, none action List.mem_cons_self, zero_add]
      exact ih fun other member => none other (List.mem_cons_of_mem _ member)

variable (impl : Impl) (fresh : Fresh (impl.currentQueryId + 1) impl.handlers)

include fresh

theorem owing_act (action : Action) :
    Fresh ((act impl action).currentQueryId + 1) (act impl action).handlers ∧
      owing weight (act impl action) = owing weight impl + action.owes weight := by
  cases action with
  | hand call => exact ⟨fresh, (add_zero _).symm⟩
  | send query handler =>
      have written := handlers_send impl fresh query handler
      constructor
      · rw [written]
        exact fresh_send _ impl.handlers handler fresh
      · rw [owing, written]
        exact outstanding_send weight _ impl.handlers handler

omit fresh in
theorem owing_acts (actions : List Action) (impl : Impl)
    (fresh : Fresh (impl.currentQueryId + 1) impl.handlers) :
    owing weight (actions.foldl act impl) = owing weight impl + owes weight actions := by
  induction actions generalizing impl with
  | nil => exact (add_zero _).symm
  | cons action rest ih =>
      obtain ⟨next, first⟩ := owing_act weight impl fresh action
      rw [List.foldl_cons, ih (act impl action) next, first, owes, owes, List.map_cons,
        List.sum_cons, add_assoc]

/-- What an answer pays was owed before. -/
theorem pays_of_owing (event : Event) :
    ∃ rest, rest + pays weight impl event = owing weight impl := by
  cases event with
  | answer requestId object =>
      exact ⟨_, outstanding_answer weight _ impl.handlers requestId fresh⟩
  | update u => exact ⟨_, add_zero _⟩
  | close => exact ⟨_, add_zero _⟩

/-- An answer pays what waited under its number; what is asked for starts to wait. -/
theorem owing_process (event : Event) :
    owing weight (process config impl event) + pays weight impl event =
      owing weight impl + owes weight (reaction config impl event).2 := by
  cases event with
  | answer requestId object =>
      have taken := fresh_answer _ impl.handlers requestId fresh
      have paid := outstanding_answer weight _ impl.handlers requestId fresh
      rw [process, owing_acts weight _ _ taken, pays, add_right_comm]
      exact congrArg (· + _) paid
  | update u => exact (add_zero _).trans (owing_acts weight _ _ fresh)
  | close => exact (add_zero _).trans (owing_acts weight _ _ fresh)

end

end TgLoggerd

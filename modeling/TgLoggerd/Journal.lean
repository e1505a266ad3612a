import Mathlib.Data.List.Destutter
import Mathlib.Data.List.Induction

/-!
Append-only journals. A journal of values records a quantity each time it
changes: its content is the sequence of values with consecutive duplicates
removed, `List.destutter`. A journal of changes sets or deletes one name at a
time, and `replay` reads the current assignment back from it.
-/

namespace Journal

section Values

variable {Value : Type} [DecidableEq Value]

theorem destutter'_snoc (first last : Value) (values : List Value) :
    (values ++ [last]).destutter' (· ≠ ·) first =
      if (first :: values).getLast? = some last then values.destutter' (· ≠ ·) first
      else values.destutter' (· ≠ ·) first ++ [last] := by
  induction values generalizing first with
  | nil =>
      by_cases same : first = last
      · subst same
        simp
      · simp [same]
  | cons next rest ih =>
      rw [List.getLast?_cons_cons]
      by_cases same : first = next
      · subst same
        simpa using ih first
      · have differs : first ≠ next := same
        rw [List.cons_append, List.destutter'_cons_pos (h := differs),
          List.destutter'_cons_pos (h := differs), ih next]
        split <;> simp

/-- One more observation extends the journal exactly when it differs from the
last one. -/
theorem destutter_snoc (values : List Value) (last : Value) :
    (values ++ [last]).destutter (· ≠ ·) =
      if values.getLast? = some last then values.destutter (· ≠ ·)
      else values.destutter (· ≠ ·) ++ [last] := by
  cases values with
  | nil => simp
  | cons first rest => exact destutter'_snoc first last rest

end Values

section Changes

variable {Name Value : Type} [DecidableEq Name]

/-- One journal entry: the name's new value, or its deletion. -/
abbrev Change (Name Value : Type) := Name × Option Value

def replayFrom (known : Name → Option Value) : List (Change Name Value) → Name → Option Value
  | [] => known
  | change :: rest =>
      replayFrom (fun name => if name = change.1 then change.2 else known name) rest

def replay (changes : List (Change Name Value)) : Name → Option Value :=
  replayFrom (fun _ => none) changes

theorem replayFrom_append (known : Name → Option Value) (before after : List (Change Name Value)) :
    replayFrom known (before ++ after) = replayFrom (replayFrom known before) after := by
  induction before generalizing known with
  | nil => rfl
  | cons change rest ih => exact ih _

theorem replay_append (before after : List (Change Name Value)) :
    replay (before ++ after) = replayFrom (replay before) after :=
  replayFrom_append _ before after

theorem replayFrom_agree (left right : Name → Option Value) (changes : List (Change Name Value))
    (name : Name) (same : left name = right name) :
    replayFrom left changes name = replayFrom right changes name := by
  induction changes generalizing left right with
  | nil => exact same
  | cons change rest ih =>
      apply ih
      by_cases hit : name = change.1
      · simp [hit]
      · simp [hit, same]

/-- What a replay says of one name depends on the changes of that name only. -/
theorem replayFrom_filter (known : Name → Option Value) (changes : List (Change Name Value))
    (name : Name) :
    replayFrom known (changes.filter fun change => change.1 = name) name =
      replayFrom known changes name := by
  induction changes generalizing known with
  | nil => rfl
  | cons change rest ih =>
      by_cases hit : change.1 = name
      · simp only [List.filter_cons, hit, decide_true, ↓reduceIte, replayFrom]
        exact ih _
      · simp only [List.filter_cons, hit, decide_false, Bool.false_eq_true, ↓reduceIte, replayFrom]
        rw [← ih]
        exact replayFrom_agree _ _ _ name (by simp [Ne.symm hit])

end Changes

end Journal

import TgLoggerd.Journal
import TgLoggerd.SerialRun

/-!
A live value and the append-only record of it. Each step of a machine supplies
a new value or none; a supplied value that differs from the live one replaces
it, and the replaced one goes on record. What the first value writes is left to
`opening`. Live value and record are then functions of the supplied values with
consecutive duplicates removed, whatever the machine does besides.
-/

namespace Recording

open SerialRun

variable {State Op Value : Type} [DecidableEq Value]

/-- What one supplied value puts on record. -/
def entry (opening : Value → List Value) (live : Option Value) (supplied : Value) : List Value :=
  match live with
  | none => opening supplied
  | some old => if old = supplied then [] else [old]

/-- A quantity of a machine that is recorded in this way. -/
structure Recorder (step : State → Op → State) (opening : Value → List Value) where
  live : State → Option Value
  record : State → List Value
  supplied : State → Op → Option Value
  live_step : ∀ state op, live (step state op) = (supplied state op).or (live state)
  record_step : ∀ state op, record (step state op) =
    record state ++ (supplied state op).toList.flatMap (entry opening (live state))

variable {step : State → Op → State} {opening : Value → List Value}

/-- The values supplied along a run. -/
def Recorder.values (recorder : Recorder step opening) (start : State) (ops : List Op) :
    List Value :=
  outputs step (fun state op => (recorder.supplied state op).toList) start ops

theorem getLast?_destutter (values : List Value) :
    (values.destutter (· ≠ ·)).getLast? = values.getLast? := by
  induction values using List.reverseRecOn with
  | nil => rfl
  | append_singleton values last ih =>
      rw [Journal.destutter_snoc]
      split
      · next same => rw [ih, same, List.getLast?_concat]
      · rw [List.getLast?_concat, List.getLast?_concat]

/-- What a journal of values says was put on record. -/
def recorded (opening : Value → List Value) (journal : List Value) : List Value :=
  journal.head?.toList.flatMap opening ++ journal.dropLast

omit [DecidableEq Value] in
/-- When the first value records itself, it stands before all but the last. -/
theorem recorded_singleton (journal : List Value) :
    recorded List.singleton journal = journal.head?.toList ++ journal.dropLast := by
  cases journal <;> rfl

theorem recorded_snoc (journal : List Value) (supplied : Value)
    (differs : journal.getLast? ≠ some supplied) :
    recorded opening (journal ++ [supplied]) =
      recorded opening journal ++ entry opening journal.getLast? supplied := by
  rcases List.eq_nil_or_concat journal with rfl | ⟨front, last, rfl⟩
  · simp [recorded, entry]
  · rw [List.concat_eq_append, List.getLast?_concat] at *
    have other : last ≠ supplied := fun same => differs (congrArg some same)
    have head : (front ++ [last] ++ [supplied]).head? = (front ++ [last]).head? := by
      rw [List.head?_append_of_ne_nil _ (by simp)]
    simp only [recorded, head, entry, other, ↓reduceIte, List.dropLast_concat]
    rw [List.append_assoc]

/-- The live value is the last of the journal and the record holds the others,
after what the first one writes. -/
theorem recorder_run (recorder : Recorder step opening) (start : State)
    (unset : recorder.live start = none) (blank : recorder.record start = []) (ops : List Op) :
    recorder.live (run step start ops) =
        ((recorder.values start ops).destutter (· ≠ ·)).getLast? ∧
      recorder.record (run step start ops) =
        recorded opening ((recorder.values start ops).destutter (· ≠ ·)) := by
  induction ops using List.reverseRecOn with
  | nil => exact ⟨unset, blank⟩
  | append_singleton ops op ih =>
      obtain ⟨live, record⟩ := ih
      rw [run_snoc, recorder.live_step, recorder.record_step, live, record]
      cases given : recorder.supplied (run step start ops) op with
      | none =>
          have same : recorder.values start (ops ++ [op]) = recorder.values start ops := by
            simp [Recorder.values, outputs_snoc, given]
          simp [same]
      | some value =>
          have more : recorder.values start (ops ++ [op]) = recorder.values start ops ++ [value] := by
            simp [Recorder.values, outputs_snoc, given]
          have last := getLast?_destutter (recorder.values start ops)
          rw [more, Journal.destutter_snoc]
          split
          · next same =>
              rw [last, same]
              simp [entry]
          · next differs =>
              rw [recorded_snoc _ _ (last.trans_ne differs)]
              simp

end Recording

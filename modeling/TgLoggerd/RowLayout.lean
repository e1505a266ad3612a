import TgLoggerd.KeyedTable

/-!
Rows by their columns. A statement binds values to columns by position; the columns an
`INSERT` does not list keep their default, and those that its `ON DUPLICATE KEY UPDATE` or
an `UPDATE` does not list keep what they held. No column that is updated is part of the key.
-/

namespace RowLayout

open KeyedTable

/-- How the columns of a table stand in its rows. -/
structure Layout (Row Column Value : Type) where
  read : Row → Column → Value
  write : Value → Row → Column → Row

namespace Layout

variable {Row Column Value Key : Type} (layout : Layout Row Column Value)

/-- The columns take the bound values, one after the other. -/
def assign (bound : List (Column × Value)) (row : Row) : Row :=
  bound.foldl (fun row binding => layout.write binding.2 row binding.1) row

/-- The row an `INSERT` proposes. -/
def proposed (columns : List Column) (params : List Value) (blank : Row) : Row :=
  layout.assign (columns.zip params) blank

/-- `column = new.column` for each of the columns. -/
def updated (columns : List Column) (new row : Row) : Row :=
  layout.assign (columns.map fun column => (column, layout.read new column)) row

/-- Writing one of these columns leaves the key as it is. -/
def Keeps (key : Row → Key) (columns : List Column) : Prop :=
  ∀ column ∈ columns, ∀ value row, key (layout.write value row column) = key row

variable {key : Row → Key}

theorem key_assign (columns : List Column) (keeps : layout.Keeps key columns)
    (bound : List (Column × Value)) (among : ∀ binding ∈ bound, binding.1 ∈ columns) (row : Row) :
    key (layout.assign bound row) = key row := by
  induction bound generalizing row with
  | nil => rfl
  | cons binding rest ih =>
      have first := keeps binding.1 (among binding List.mem_cons_self) binding.2 row
      have later := ih (fun other member => among other (List.mem_cons_of_mem _ member))
        (layout.write binding.2 row binding.1)
      exact later.trans first

theorem key_updated (columns : List Column) (keeps : layout.Keeps key columns) (new row : Row) :
    key (layout.updated columns new row) = key row := by
  apply layout.key_assign columns keeps
  intro binding member
  obtain ⟨column, listed, rfl⟩ := List.mem_map.mp member
  exact listed

/-- The row under `UPDATE ... SET columns = params WHERE hit`. -/
def changed (columns : List Column) (params : List Value) (hit : Row → Bool) (row : Row) : Row :=
  if hit row then layout.assign (columns.zip params) row else row

theorem key_changed (columns : List Column) (keeps : layout.Keeps key columns)
    (params : List Value) (hit : Row → Bool) (row : Row) :
    key (layout.changed columns params hit row) = key row := by
  unfold changed
  split
  · apply layout.key_assign columns keeps
    intro binding member
    exact (List.of_mem_zip (a := binding.1) (b := binding.2) member).1
  · rfl

variable [DecidableEq Key]

/-- `INSERT INTO ... (columns) VALUES (params) ON DUPLICATE KEY UPDATE ...`. -/
def upsert (columns updates : List Column) (keeps : layout.Keeps key updates)
    (params : List Value) (blank : Row) (table : Table key) : Table key :=
  table.insertOrUpdate (layout.proposed columns params blank)
    (layout.updated updates (layout.proposed columns params blank))
    (layout.key_updated updates keeps _)

omit [DecidableEq Key] in
/-- `UPDATE ... SET columns = params WHERE hit`. -/
def update (columns : List Column) (keeps : layout.Keeps key columns) (params : List Value)
    (hit : Row → Bool) (table : Table key) : Table key :=
  table.revise (layout.changed columns params hit) (layout.key_changed columns keeps params hit)

omit [DecidableEq Key] in
/-- `SELECT columns FROM ... WHERE hit`. -/
def selectWhere (columns : List Column) (hit : Row → Bool) (table : Table key) :
    List (List Value) :=
  (table.rows.filter hit).map fun row => columns.map (layout.read row)

/-- `SELECT columns FROM ... WHERE key = ?`. -/
def select (columns : List Column) (wanted : Key) (table : Table key) : List (List Value) :=
  (table.lookup wanted).toList.map fun row => columns.map (layout.read row)

/-- An upsert by the row it proposes and by how it overwrites. -/
theorem upsert_eq (columns updates : List Column) (keeps : layout.Keeps key updates)
    (params : List Value) (blank fresh : Row) (change : Row → Row)
    (keepsKey : ∀ row, key (change row) = key row)
    (proposes : layout.proposed columns params blank = fresh)
    (overwrites : layout.updated updates fresh = change) (table : Table key) :
    layout.upsert columns updates keeps params blank table =
      table.insertOrUpdate fresh change keepsKey := by
  subst proposes
  subst overwrites
  rfl

omit [DecidableEq Key] in
/-- An update by what it does to each row. -/
theorem update_eq (columns : List Column) (keeps : layout.Keeps key columns)
    (params : List Value) (hit : Row → Bool) (change : Row → Row)
    (keepsKey : ∀ row, key (change row) = key row)
    (changes : layout.changed columns params hit = change) (table : Table key) :
    layout.update columns keeps params hit table = table.revise change keepsKey := by
  subst changes
  rfl

end Layout

end RowLayout

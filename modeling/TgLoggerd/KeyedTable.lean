import Mathlib.Data.List.Nodup

/-!
Tables with one UNIQUE key, in the way a database server keeps them. Rows
stand in insertion order. Uniqueness of the key is a field of the table, so a
table with two rows of one key cannot be built, and every statement below is
total on tables. `AutoTable` adds an AUTO_INCREMENT column: each proposed row
takes the next number, also when the duplicate key turns the insert into an
update.
-/

namespace KeyedTable

variable {Row Key : Type} [DecidableEq Key]

structure Table (key : Row → Key) where
  rows : List Row
  unique : (rows.map key).Nodup

namespace Table

variable {key : Row → Key}

def empty : Table key := ⟨[], List.nodup_nil⟩

/-- The row of one key, as `SELECT ... WHERE key = ?` finds it. -/
def lookup (table : Table key) (wanted : Key) : Option Row :=
  table.rows.find? fun row => key row = wanted

/-- `UPDATE` of every row by a change that keeps the key. -/
def revise (table : Table key) (change : Row → Row)
    (keeps : ∀ row, key (change row) = key row) : Table key where
  rows := table.rows.map change
  unique := by simpa [Function.comp_def, keeps] using table.unique

/-- `INSERT ... ON DUPLICATE KEY UPDATE`: the row of `fresh`'s key is changed
in place, or `fresh` is appended when there is none. -/
def insertOrUpdate (table : Table key) (fresh : Row) (change : Row → Row)
    (keeps : ∀ row, key (change row) = key row) : Table key :=
  if held : key fresh ∈ table.rows.map key then
    table.revise (fun row => if key row = key fresh then change row else row)
      (by intro row; split <;> simp [keeps])
  else
    { rows := table.rows ++ [fresh]
      unique := by
        rw [List.map_append, List.nodup_append]
        refine ⟨table.unique, by simp, ?_⟩
        intro left member right single same
        simp only [List.map_cons, List.map_nil, List.mem_singleton] at single
        subst single same
        exact held member }

/-- `DELETE` of the row of one key. -/
def delete (table : Table key) (wanted : Key) : Table key where
  rows := table.rows.filter fun row => key row ≠ wanted
  unique := List.Nodup.sublist (List.Sublist.map key List.filter_sublist) table.unique

omit [DecidableEq Key] in
@[ext]
theorem table_ext (left right : Table key) (same : left.rows = right.rows) : left = right := by
  cases left
  cases right
  cases same
  rfl

omit [DecidableEq Key] in
@[simp]
theorem rows_empty : (empty : Table key).rows = [] := rfl

@[simp]
theorem lookup_empty (wanted : Key) : (empty : Table key).lookup wanted = none := rfl

omit [DecidableEq Key] in
@[simp]
theorem rows_revise (table : Table key) (change : Row → Row)
    (keeps : ∀ row, key (change row) = key row) :
    (table.revise change keeps).rows = table.rows.map change := rfl

omit [DecidableEq Key] in
theorem same_key_same_row (table : Table key) (left right : Row)
    (leftHeld : left ∈ table.rows) (rightHeld : right ∈ table.rows)
    (same : key left = key right) : left = right :=
  List.inj_on_of_nodup_map table.unique leftHeld rightHeld same

theorem lookup_some_iff (table : Table key) (wanted : Key) (row : Row) :
    table.lookup wanted = some row ↔ row ∈ table.rows ∧ key row = wanted := by
  constructor
  · intro found
    exact ⟨List.mem_of_find?_eq_some found, by simpa using List.find?_some found⟩
  · rintro ⟨member, rfl⟩
    cases found : table.lookup (key row) with
    | none =>
        have absent := List.find?_eq_none.mp found row member
        simp at absent
    | some other =>
        have otherMember := List.mem_of_find?_eq_some found
        have otherKey : key other = key row := by simpa using List.find?_some found
        rw [table.same_key_same_row other row otherMember member otherKey]

theorem lookup_isSome_iff (table : Table key) (wanted : Key) :
    (table.lookup wanted).isSome ↔ wanted ∈ table.rows.map key := by
  simp [lookup, List.find?_isSome]

theorem lookup_revise (table : Table key) (change : Row → Row)
    (keeps : ∀ row, key (change row) = key row) (wanted : Key) :
    (table.revise change keeps).lookup wanted = (table.lookup wanted).map change := by
  simp [lookup, revise, List.find?_map, Function.comp_def, keeps]

/-- An `UPDATE ... WHERE key = ?` without such a row does nothing. -/
theorem revise_absent (table : Table key) (change : Row → Row)
    (keeps : ∀ row, key (change row) = key row) (wanted : Key)
    (absent : table.lookup wanted = none)
    (only : ∀ row, key row ≠ wanted → change row = row) : table.revise change keeps = table := by
  apply table_ext
  rw [rows_revise]
  conv_rhs => rw [← List.map_id table.rows]
  apply List.map_congr_left
  intro row member
  apply only
  rintro rfl
  simp [(table.lookup_some_iff _ row).mpr ⟨member, rfl⟩] at absent

theorem lookup_delete (table : Table key) (gone wanted : Key) :
    (table.delete gone).lookup wanted = if gone = wanted then none else table.lookup wanted := by
  simp only [lookup, delete, List.find?_filter]
  split
  · next same =>
      subst same
      simp
  · next differs =>
      congr 1
      funext row
      by_cases hit : key row = wanted
      · simp [hit, Ne.symm differs]
      · simp [hit]

theorem rows_insertOrUpdate_absent (table : Table key) (fresh : Row) (change : Row → Row)
    (keeps : ∀ row, key (change row) = key row) (absent : table.lookup (key fresh) = none) :
    (table.insertOrUpdate fresh change keeps).rows = table.rows ++ [fresh] := by
  have missing : key fresh ∉ table.rows.map key := by
    intro member
    have held := (table.lookup_isSome_iff (key fresh)).mpr member
    simp [absent] at held
  simp [insertOrUpdate, missing]

theorem rows_insertOrUpdate_held (table : Table key) (fresh : Row) (change : Row → Row)
    (keeps : ∀ row, key (change row) = key row) (old : Row)
    (found : table.lookup (key fresh) = some old) :
    (table.insertOrUpdate fresh change keeps).rows =
      table.rows.map fun row => if key row = key fresh then change row else row := by
  have member : key fresh ∈ table.rows.map key :=
    (table.lookup_isSome_iff (key fresh)).mp (by simp [found])
  simp [insertOrUpdate, member]

/-- What one `INSERT ... ON DUPLICATE KEY UPDATE` leaves under every key. -/
theorem lookup_insertOrUpdate (table : Table key) (fresh : Row) (change : Row → Row)
    (keeps : ∀ row, key (change row) = key row) (wanted : Key) :
    (table.insertOrUpdate fresh change keeps).lookup wanted =
      if key fresh = wanted then some (((table.lookup wanted).map change).getD fresh)
      else table.lookup wanted := by
  cases found : table.lookup (key fresh) with
  | none =>
      have rows := table.rows_insertOrUpdate_absent fresh change keeps found
      unfold lookup at found ⊢
      rw [rows, List.find?_append]
      by_cases same : key fresh = wanted
      · subst same
        simp [found]
      · simp [same]
  | some old =>
      have rows := table.rows_insertOrUpdate_held fresh change keeps old found
      have changedKey (row : Row) :
          key (if key row = key fresh then change row else row) = key row := by
        split <;> simp [keeps]
      have mapped : (table.insertOrUpdate fresh change keeps).lookup wanted =
          (table.lookup wanted).map fun row => if key row = key fresh then change row else row := by
        unfold lookup
        rw [rows, List.find?_map]
        simp [Function.comp_def, changedKey]
      rw [mapped]
      by_cases same : key fresh = wanted
      · subst same
        have oldKey := ((table.lookup_some_iff _ old).mp found).2
        simp [found, oldKey]
      · cases other : table.lookup wanted with
        | none => simp [same]
        | some row =>
            have rowKey := ((table.lookup_some_iff _ row).mp other).2
            simp [same, rowKey, Ne.symm same]

/-- Of what the rows emit, the entries tagged with one key are what the row of
that key emits. -/
theorem filter_emitted {Out : Type} (table : Table key) (emit : Row → Option Out) (tag : Out → Key)
    (tagged : ∀ row out, emit row = some out → tag out = key row) (wanted : Key) :
    (table.rows.filterMap emit).filter (fun out => tag out = wanted) =
      ((table.lookup wanted).bind emit).toList := by
  obtain ⟨rows, unique⟩ := table
  simp only [lookup]
  induction rows with
  | nil => rfl
  | cons row rest ih =>
      rw [List.map_cons, List.nodup_cons] at unique
      have later := ih unique.2
      by_cases hit : key row = wanted
      · subst hit
        have missing : rest.find? (fun other => key other = key row) = none := by
          rw [List.find?_eq_none]
          intro other member same
          exact unique.1 (List.mem_map.mpr ⟨other, member, by simpa using same⟩)
        rw [missing] at later
        cases emits : emit row with
        | none => simpa [emits] using later
        | some out => simpa [emits, tagged row out emits] using later
      · rw [List.find?_cons_of_neg (by simpa using hit), ← later]
        cases emits : emit row with
        | none => simp [emits]
        | some out => simp [emits, tagged row out emits, hit]

/-- An upsert whose row is already as it would leave it changes nothing. -/
theorem insertOrUpdate_settled (table : Table key) (fresh : Row) (change : Row → Row)
    (keeps : ∀ row, key (change row) = key row) (old : Row)
    (found : table.lookup (key fresh) = some old) (settled : change old = old) :
    table.insertOrUpdate fresh change keeps = table := by
  have held := (table.lookup_some_iff (key fresh) old).mp found
  apply table_ext
  rw [table.rows_insertOrUpdate_held fresh change keeps old found]
  conv_rhs => rw [← List.map_id table.rows]
  apply List.map_congr_left
  intro row member
  by_cases same : key row = key fresh
  · rw [if_pos same,
      table.same_key_same_row row old member held.1 (same.trans held.2.symm), settled]
    rfl
  · rw [if_neg same]
    rfl

/-- The table seen through a view of its rows that keeps the key. -/
def view {Seen : Type} {seenKey : Seen → Key} (table : Table key) (look : Row → Seen)
    (keeps : ∀ row, seenKey (look row) = key row) : Table seenKey where
  rows := table.rows.map look
  unique := by simpa [Function.comp_def, keeps] using table.unique

section

variable {Seen : Type} {seenKey : Seen → Key} (table : Table key) (look : Row → Seen)
  (keeps : ∀ row, seenKey (look row) = key row)

include keeps in
theorem lookup_view (wanted : Key) :
    (table.view look keeps).lookup wanted = (table.lookup wanted).map look := by
  simp [lookup, view, List.find?_map, Function.comp_def, keeps]

/-- A view of an upsert is the upsert of what is seen of it. -/
theorem insertOrUpdate_view (fresh : Row) (change : Row → Row)
    (keepsKey : ∀ row, key (change row) = key row) (seenFresh : Seen) (seenChange : Seen → Seen)
    (seenKeeps : ∀ row, seenKey (seenChange row) = seenKey row) (same : look fresh = seenFresh)
    (changes : ∀ row, look (change row) = seenChange (look row)) :
    (table.insertOrUpdate fresh change keepsKey).view look keeps =
      (table.view look keeps).insertOrUpdate seenFresh seenChange seenKeeps := by
  subst same
  apply table_ext
  cases found : table.lookup (key fresh) with
  | none =>
      have absent : (table.view look keeps).lookup (seenKey (look fresh)) = none := by
        rw [lookup_view, keeps, found]
        rfl
      rw [rows_insertOrUpdate_absent _ _ _ _ absent]
      simp only [view, rows_insertOrUpdate_absent _ _ _ keepsKey found, List.map_append,
        List.map_cons, List.map_nil]
  | some old =>
      have held : (table.view look keeps).lookup (seenKey (look fresh)) = some (look old) := by
        rw [lookup_view, keeps, found]
        rfl
      rw [rows_insertOrUpdate_held _ _ _ _ (look old) held]
      simp only [view, rows_insertOrUpdate_held _ _ _ keepsKey old found, List.map_map]
      apply List.map_congr_left
      intro row _
      simp only [Function.comp_apply, keeps]
      split
      · exact changes row
      · rfl

end

end Table

/-- A keyed table with an AUTO_INCREMENT column. `next` is the number the next
proposed row takes; a number is never handed out twice. -/
structure AutoTable (key : Row → Key) (ident : Row → Nat) extends Table key where
  next : Nat
  distinct : (rows.map ident).Nodup
  below : ∀ row ∈ rows, ident row < next

namespace AutoTable

variable {key : Row → Key} {ident : Row → Nat}

def empty : AutoTable key ident where
  toTable := Table.empty
  next := 1
  distinct := List.nodup_nil
  below := by simp

/-- `UPDATE` by a change that keeps key and number. -/
def reviseRows (table : AutoTable key ident) (change : Row → Row)
    (keepsKey : ∀ row, key (change row) = key row)
    (keepsIdent : ∀ row, ident (change row) = ident row) : AutoTable key ident where
  toTable := table.toTable.revise change keepsKey
  next := table.next
  distinct := by simpa [Function.comp_def, keepsIdent] using table.distinct
  below := by
    intro row member
    obtain ⟨old, held, rfl⟩ := List.mem_map.mp member
    simpa [keepsIdent] using table.below old held

/-- `INSERT ... ON DUPLICATE KEY UPDATE` of the row `make` builds around the
next number. The number is used up on both branches. -/
def proposeRow (table : AutoTable key ident) (make : Nat → Row) (change : Row → Row)
    (numbered : ∀ number, ident (make number) = number)
    (keepsKey : ∀ row, key (change row) = key row)
    (keepsIdent : ∀ row, ident (change row) = ident row) : AutoTable key ident where
  toTable := table.toTable.insertOrUpdate (make table.next) change keepsKey
  next := table.next + 1
  distinct := by
    cases found : table.lookup (key (make table.next)) with
    | none =>
        rw [Table.rows_insertOrUpdate_absent _ _ _ _ found, List.map_append, List.nodup_append]
        refine ⟨table.distinct, by simp, ?_⟩
        intro number member other single same
        obtain ⟨row, held, rfl⟩ := List.mem_map.mp member
        simp only [List.map_cons, List.map_nil, List.mem_singleton, numbered] at single
        have bound := table.below row held
        omega
    | some old =>
        rw [Table.rows_insertOrUpdate_held _ _ _ _ old found, List.map_map]
        have kept : (ident ∘ fun row =>
            if key row = key (make table.next) then change row else row) = ident := by
          funext row
          simp only [Function.comp_apply]
          split <;> simp [keepsIdent]
        rw [kept]
        exact table.distinct
  below := by
    intro row member
    cases found : table.lookup (key (make table.next)) with
    | none =>
        rw [Table.rows_insertOrUpdate_absent _ _ _ _ found] at member
        rcases List.mem_append.mp member with held | fresh
        · exact Nat.lt_succ_of_lt (table.below row held)
        · simp only [List.mem_singleton] at fresh
          simp [fresh, numbered]
    | some old =>
        rw [Table.rows_insertOrUpdate_held _ _ _ _ old found] at member
        obtain ⟨before, held, rfl⟩ := List.mem_map.mp member
        have bound := table.below before held
        split
        · rw [keepsIdent]
          omega
        · omega

theorem rows_proposeRow_absent (table : AutoTable key ident) (make : Nat → Row)
    (change : Row → Row) (numbered : ∀ number, ident (make number) = number)
    (keepsKey : ∀ row, key (change row) = key row)
    (keepsIdent : ∀ row, ident (change row) = ident row)
    (absent : table.lookup (key (make table.next)) = none) :
    (table.proposeRow make change numbered keepsKey keepsIdent).rows =
      table.rows ++ [make table.next] :=
  Table.rows_insertOrUpdate_absent _ _ _ keepsKey absent

omit [DecidableEq Key] in
theorem same_ident_same_row (table : AutoTable key ident) (left right : Row)
    (leftHeld : left ∈ table.rows) (rightHeld : right ∈ table.rows)
    (same : ident left = ident right) : left = right :=
  List.inj_on_of_nodup_map table.distinct leftHeld rightHeld same

omit [DecidableEq Key] in
/-- `SELECT ... WHERE id = ?` finds the row of a held number. -/
theorem find_ident (table : AutoTable key ident) (row : Row) (held : row ∈ table.rows) :
    (table.rows.find? fun other => ident other = ident row) = some row := by
  cases found : table.rows.find? fun other => ident other = ident row with
  | none =>
      have absent := List.find?_eq_none.mp found row held
      simp at absent
  | some other =>
      have same : ident other = ident row := by simpa using List.find?_some found
      rw [table.same_ident_same_row other row (List.mem_of_find?_eq_some found) held same]

section

variable {Seen : Type} {seenKey : Seen → Key} {seenIdent : Seen → Nat}
  (table : AutoTable key ident) (look : Row → Seen) (keeps : ∀ row, seenKey (look row) = key row)
  (numbers : ∀ row, seenIdent (look row) = ident row)

omit [DecidableEq Key] in
@[ext]
theorem autoTable_ext (left right : AutoTable key ident) (same : left.toTable = right.toTable)
    (next : left.next = right.next) : left = right := by
  cases left
  cases right
  cases same
  cases next
  rfl

def view : AutoTable seenKey seenIdent where
  toTable := table.toTable.view look keeps
  next := table.next
  distinct := by simpa [Table.view, Function.comp_def, numbers] using table.distinct
  below := by
    intro row member
    obtain ⟨old, held, rfl⟩ := List.mem_map.mp member
    rw [numbers]
    exact table.below old held

theorem proposeRow_view (make : Nat → Row) (change : Row → Row)
    (numbered : ∀ number, ident (make number) = number)
    (keepsKey : ∀ row, key (change row) = key row)
    (keepsIdent : ∀ row, ident (change row) = ident row) (seenMake : Nat → Seen)
    (seenChange : Seen → Seen) (seenNumbered : ∀ number, seenIdent (seenMake number) = number)
    (seenKeeps : ∀ row, seenKey (seenChange row) = seenKey row)
    (seenKeepsIdent : ∀ row, seenIdent (seenChange row) = seenIdent row)
    (made : ∀ number, look (make number) = seenMake number)
    (changes : ∀ row, look (change row) = seenChange (look row)) :
    (table.proposeRow make change numbered keepsKey keepsIdent).view look keeps numbers =
      (table.view look keeps numbers).proposeRow seenMake seenChange seenNumbered seenKeeps
        seenKeepsIdent := by
  apply autoTable_ext
  · exact table.toTable.insertOrUpdate_view look keeps _ change keepsKey _ seenChange seenKeeps
      (made table.next) changes
  · rfl

omit [DecidableEq Key] in
theorem reviseRows_view (change : Row → Row) (keepsKey : ∀ row, key (change row) = key row)
    (keepsIdent : ∀ row, ident (change row) = ident row) (seenChange : Seen → Seen)
    (seenKeeps : ∀ row, seenKey (seenChange row) = seenKey row)
    (seenKeepsIdent : ∀ row, seenIdent (seenChange row) = seenIdent row)
    (changes : ∀ row, look (change row) = seenChange (look row)) :
    (table.reviseRows change keepsKey keepsIdent).view look keeps numbers =
      (table.view look keeps numbers).reviseRows seenChange seenKeeps seenKeepsIdent := by
  apply autoTable_ext
  · apply Table.table_ext
    simp only [reviseRows, view, Table.view, Table.revise, List.map_map]
    exact List.map_congr_left fun row _ => changes row
  · rfl

end

end AutoTable

end KeyedTable

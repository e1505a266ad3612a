import Mathlib.Data.List.Induction
import TgLoggerd.KeyedTable

/-!
The username tables of migrations 000003, 000004 and 000005 and the diff that
`DB::syncUsernames` and `DB::syncGroupUsernames` run inside an upsert. `collate`
is the collation of the username column: the UNIQUE key and every `username = ?`
compare by it, while the C++ maps compare the bytes of the name. `MapOrder` is
the iteration order of a `std::unordered_map`. The surrogate ids and created_at,
which nothing reads, are left out.
-/

namespace TgLoggerd

open KeyedTable

inductive UsernameKind where
  | active
  | disabled
  | collectible
  deriving DecidableEq, Repr

inductive UsernameAction where
  | added
  | removed
  | reordered
  | kindChanged
  deriving DecidableEq, Repr

structure Entry where
  kind : UsernameKind
  position : Nat
  deriving DecidableEq, Repr

structure UsernameRow where
  ownerId : Option Int
  username : String
  kind : UsernameKind
  position : Nat
  deriving DecidableEq, Repr

structure UsernameEvent where
  ownerId : Int
  username : String
  action : UsernameAction
  kind : Option UsernameKind
  position : Option Nat
  deriving DecidableEq, Repr

/-- The three username lists one entity brings. -/
structure Snapshot where
  ownerId : Int
  activeUsernames : List String
  disabledUsernames : List String
  collectibleUsernames : List String
  deriving DecidableEq, Repr

/-- An order in which the entries of a map are visited. -/
structure MapOrder where
  visit : List (String × Entry) → List (String × Entry)
  perm : ∀ entries, (visit entries).Perm entries

/-- Maps that are visited in the order of insertion. -/
def insertionOrder : MapOrder where
  visit := id
  perm := List.Perm.refl

/-- What the collation does to ASCII letters. -/
def foldCase (name : String) : List Char := name.toList.map Char.toLower

def UsernameRow.entry (row : UsernameRow) : Entry := ⟨row.kind, row.position⟩

def collect (kind : UsernameKind) (names : List String) : List (String × Entry) :=
  names.mapIdx fun i name => (name, ⟨kind, i⟩)

def Snapshot.newList (snapshot : Snapshot) : List (String × Entry) :=
  collect .active snapshot.activeUsernames ++ collect .disabled snapshot.disabledUsernames ++
    collect .collectible snapshot.collectibleUsernames

/-- `unordered_map::find`. -/
def findEntry (entries : List (String × Entry)) (name : String) : Option Entry :=
  (entries.find? fun entry => entry.1 = name).map Prod.snd

section

variable {Key : Type} [DecidableEq Key] {collate : String → Key}

abbrev UsernameRow.key (collate : String → Key) (row : UsernameRow) : Key := collate row.username

/-- *_usernames with its UNIQUE key, and *_hist_usernames_events. -/
structure UsernameTables (collate : String → Key) where
  usernames : Table (UsernameRow.key collate)
  events : List UsernameEvent

namespace UsernameTables

def empty : UsernameTables collate := ⟨Table.empty, []⟩

def lookup (tables : UsernameTables collate) (key : Key) : Option UsernameRow :=
  tables.usernames.lookup key

end UsernameTables

/-- The usernames an owner holds, as `SELECT ... WHERE user_id = ?` reads them. -/
def oldMap (tables : UsernameTables collate) (ownerId : Int) : List (String × Entry) :=
  (tables.usernames.rows.filter fun row => row.ownerId = some ownerId).map fun row =>
    (row.username, row.entry)

def insertEvent (tables : UsernameTables collate) (event : UsernameEvent) :
    UsernameTables collate :=
  { tables with events := tables.events ++ [event] }

/-- Additions, kind changes and reorders. -/
def changeEvent (ownerId : Int) (old : List (String × Entry)) (new : String × Entry) :
    Option UsernameEvent :=
  match findEntry old new.1 with
  | none => some ⟨ownerId, new.1, .added, some new.2.kind, some new.2.position⟩
  | some before =>
      if before.kind ≠ new.2.kind then
        some ⟨ownerId, new.1, .kindChanged, some new.2.kind, some new.2.position⟩
      else if before.position ≠ new.2.position then
        some ⟨ownerId, new.1, .reordered, some new.2.kind, some new.2.position⟩
      else none

def recordChange (ownerId : Int) (old : List (String × Entry)) (tables : UsernameTables collate)
    (new : String × Entry) : UsernameTables collate :=
  match changeEvent ownerId old new with
  | some event => insertEvent tables event
  | none => tables

/-- `UPDATE ... SET user_id = NULL WHERE user_id = ? AND username = ?`. -/
def releaseUsername (tables : UsernameTables collate) (ownerId : Int) (name : String) :
    UsernameTables collate :=
  { tables with
    usernames := tables.usernames.revise
      (fun row =>
        if row.ownerId = some ownerId ∧ collate row.username = collate name then
          { row with ownerId := none }
        else row)
      (by intro row; split <;> rfl) }

def releaseMissing (ownerId : Int) (new : List (String × Entry)) (tables : UsernameTables collate)
    (old : String × Entry) : UsernameTables collate :=
  if (findEntry new old.1).isSome then tables
  else releaseUsername (insertEvent tables ⟨ownerId, old.1, .removed, none, none⟩) ownerId old.1

/-- The row keeps its spelling: the update does not assign username. -/
def claimUsername (ownerId : Int) (tables : UsernameTables collate) (new : String × Entry) :
    UsernameTables collate :=
  { tables with
    usernames := tables.usernames.insertOrUpdate
      { ownerId := some ownerId
        username := new.1
        kind := new.2.kind
        position := new.2.position }
      (fun row =>
        { row with
          ownerId := some ownerId
          kind := new.2.kind
          position := new.2.position })
      (fun _ => rfl) }

/-- The body shared by `DB::syncUsernames` and `DB::syncGroupUsernames`. -/
def syncSnapshot (order : MapOrder) (tables : UsernameTables collate) (snapshot : Snapshot) :
    UsernameTables collate :=
  let old := oldMap tables snapshot.ownerId
  let new := snapshot.newList
  let recorded := new.foldl (recordChange snapshot.ownerId old) tables
  let released := (order.visit old).foldl (releaseMissing snapshot.ownerId new) recorded
  new.foldl (claimUsername snapshot.ownerId) released

/-! What one sync leaves under each key and in the event log. Callers use
`lookup_sync` and `events_sync` and never unfold the three loops. -/

/-- The entries of a list that the column takes for one username. -/
def listed (collate : String → Key) (key : Key) (entries : List (String × Entry)) :
    List (String × Entry) :=
  entries.filter fun entry => collate entry.1 = key

def release (ownerId : Int) (row : UsernameRow) : UsernameRow :=
  if row.ownerId = some ownerId then { row with ownerId := none } else row

/-- The row of a key after the three loops: claimed by its last occurrence
under the spelling it had, or released by its owner. -/
def settle (ownerId : Int) (occurrences : List (String × Entry)) (stored : Option UsernameRow) :
    Option UsernameRow :=
  match occurrences with
  | [] => stored.map (release ownerId)
  | first :: rest =>
      let last := rest.getLast?.getD first
      some
        { ownerId := some ownerId
          username := (stored.map UsernameRow.username).getD first.1
          kind := last.2.kind
          position := last.2.position }

def removalEvent (ownerId : Int) (new : List (String × Entry)) (old : String × Entry) :
    Option UsernameEvent :=
  if (findEntry new old.1).isSome then none else some ⟨ownerId, old.1, .removed, none, none⟩

theorem collect_places (kind : UsernameKind) (names : List String) :
    (collect kind names).map Prod.snd = (List.range names.length).map fun i => ⟨kind, i⟩ := by
  apply List.ext_getElem
  · simp [collect]
  · intro i _ _
    simp [collect]

theorem kind_collect (kind : UsernameKind) (names : List String) (entry : Entry)
    (member : entry ∈ (collect kind names).map Prod.snd) : entry.kind = kind := by
  rw [collect_places] at member
  obtain ⟨i, _, rfl⟩ := List.mem_map.mp member
  rfl

/-- No two occurrences of a snapshot share kind and position. -/
theorem newList_places (snapshot : Snapshot) : (snapshot.newList.map Prod.snd).Nodup := by
  have single (kind : UsernameKind) (names : List String) :
      ((collect kind names).map Prod.snd).Nodup := by
    rw [collect_places]
    apply List.Nodup.map _ List.nodup_range
    intro left right same
    exact (Entry.mk.inj same).2
  simp only [Snapshot.newList, List.map_append]
  rw [List.nodup_append, List.nodup_append]
  refine ⟨⟨single _ _, single _ _, ?_⟩, single _ _, ?_⟩
  · intro left leftMember right rightMember same
    have kinds := (kind_collect _ _ left leftMember).symm.trans
      (same ▸ kind_collect _ _ right rightMember)
    cases kinds
  · intro left leftMember right rightMember same
    have last := kind_collect _ _ right rightMember
    rcases List.mem_append.mp leftMember with active | disabled
    · cases ((kind_collect _ _ left active).symm.trans (same ▸ last))
    · cases ((kind_collect _ _ left disabled).symm.trans (same ▸ last))

theorem findEntry_isSome (entries : List (String × Entry)) (name : String) :
    (findEntry entries name).isSome ↔ name ∈ entries.map Prod.fst := by
  simp [findEntry, List.find?_isSome]

omit [DecidableEq Key] in
theorem recordChanges (ownerId : Int) (old new : List (String × Entry))
    (tables : UsernameTables collate) :
    new.foldl (recordChange ownerId old) tables =
      { tables with events := tables.events ++ new.filterMap (changeEvent ownerId old) } := by
  induction new generalizing tables with
  | nil => simp
  | cons entry rest ih =>
      rw [List.foldl_cons, ih, recordChange, List.filterMap_cons]
      cases changeEvent ownerId old entry with
      | none => rfl
      | some event => simp [insertEvent]

theorem events_releases (ownerId : Int) (new old : List (String × Entry))
    (tables : UsernameTables collate) :
    (old.foldl (releaseMissing ownerId new) tables).events =
      tables.events ++ old.filterMap (removalEvent ownerId new) := by
  induction old generalizing tables with
  | nil => simp
  | cons entry rest ih =>
      rw [List.foldl_cons, ih, releaseMissing, List.filterMap_cons, removalEvent]
      split
      · rfl
      · simp [releaseUsername, insertEvent]

theorem events_claims (ownerId : Int) (new : List (String × Entry))
    (tables : UsernameTables collate) :
    (new.foldl (claimUsername ownerId) tables).events = tables.events := by
  induction new generalizing tables with
  | nil => rfl
  | cons entry rest ih => rw [List.foldl_cons, ih, claimUsername]

/-- The events one sync writes. -/
def syncEvents (order : MapOrder) (tables : UsernameTables collate) (snapshot : Snapshot) :
    List UsernameEvent :=
  snapshot.newList.filterMap (changeEvent snapshot.ownerId (oldMap tables snapshot.ownerId)) ++
    (order.visit (oldMap tables snapshot.ownerId)).filterMap
      (removalEvent snapshot.ownerId snapshot.newList)

theorem events_sync (order : MapOrder) (tables : UsernameTables collate) (snapshot : Snapshot) :
    (syncSnapshot order tables snapshot).events =
      tables.events ++ syncEvents order tables snapshot := by
  simp only [syncSnapshot, syncEvents]
  rw [events_claims, events_releases, recordChanges, List.append_assoc]

theorem lookup_release (tables : UsernameTables collate) (ownerId : Int) (name : String)
    (key : Key) :
    (releaseUsername tables ownerId name).lookup key =
      (tables.lookup key).map fun row =>
        if row.ownerId = some ownerId ∧ collate row.username = collate name then
          { row with ownerId := none }
        else row :=
  Table.lookup_revise tables.usernames _ (by intro row; split <;> rfl) key

theorem spelled (tables : UsernameTables collate) (key : Key) (row : UsernameRow)
    (found : tables.lookup key = some row) : collate row.username = key :=
  ((Table.lookup_some_iff _ _ _).mp found).2

/-- One of the visited names collates to the key and is not listed. -/
def Missing (collate : String → Key) (key : Key) (new old : List (String × Entry)) : Prop :=
  ∃ entry ∈ old, collate entry.1 = key ∧ findEntry new entry.1 = none

instance (key : Key) (new old : List (String × Entry)) : Decidable (Missing collate key new old) :=
  inferInstanceAs (Decidable (∃ entry ∈ old, collate entry.1 = key ∧ findEntry new entry.1 = none))

omit [DecidableEq Key] in
theorem missing_cons (key : Key) (new rest : List (String × Entry)) (entry : String × Entry) :
    Missing collate key new (entry :: rest) ↔
      (collate entry.1 = key ∧ findEntry new entry.1 = none) ∨ Missing collate key new rest := by
  simp [Missing]

theorem lookup_releases (ownerId : Int) (new old : List (String × Entry))
    (tables : UsernameTables collate) (key : Key) :
    (old.foldl (releaseMissing ownerId new) tables).lookup key =
      (tables.lookup key).map fun row =>
        if Missing collate key new old then release ownerId row else row := by
  induction old generalizing tables with
  | nil => simp [Missing]
  | cons entry rest ih =>
      rw [List.foldl_cons, ih, releaseMissing]
      cases kept : findEntry new entry.1 with
      | some listedEntry => simp [missing_cons, kept]
      | none =>
          simp only [Option.isSome_none, Bool.false_eq_true, ↓reduceIte, lookup_release]
          change Option.map _ (Option.map _ (tables.lookup key)) = _
          cases found : tables.lookup key with
          | none => rfl
          | some row =>
              have rowKey := spelled tables key row found
              by_cases same : collate entry.1 = key
              · by_cases own : row.ownerId = some ownerId
                · simp [missing_cons, rowKey, same, own, release, kept]
                · simp [own, release]
              · simp [missing_cons, rowKey, same, Ne.symm same]

theorem lookup_claim (ownerId : Int) (tables : UsernameTables collate) (new : String × Entry)
    (key : Key) :
    (claimUsername ownerId tables new).lookup key =
      if collate new.1 = key then
        some
          { ownerId := some ownerId
            username := ((tables.lookup key).map UsernameRow.username).getD new.1
            kind := new.2.kind
            position := new.2.position }
      else tables.lookup key := by
  have inserted := Table.lookup_insertOrUpdate tables.usernames
    { ownerId := some ownerId
      username := new.1
      kind := new.2.kind
      position := new.2.position }
    (fun row =>
      { row with
        ownerId := some ownerId
        kind := new.2.kind
        position := new.2.position })
    (fun _ => rfl) key
  simp only [claimUsername, UsernameTables.lookup, inserted]
  split
  · cases Table.lookup tables.usernames key <;> rfl
  · rfl

theorem lookup_claims (ownerId : Int) (new : List (String × Entry))
    (tables : UsernameTables collate) (key : Key) :
    (new.foldl (claimUsername ownerId) tables).lookup key =
      match listed collate key new with
      | [] => tables.lookup key
      | first :: rest => settle ownerId (first :: rest) (tables.lookup key) := by
  induction new using List.reverseRecOn with
  | nil => rfl
  | append_singleton new entry ih =>
      rw [List.foldl_append, List.foldl_cons, List.foldl_nil, lookup_claim, ih]
      by_cases same : collate entry.1 = key
      · have snoc : listed collate key (new ++ [entry]) = listed collate key new ++ [entry] := by
          simp [listed, same]
        rw [if_pos same, snoc]
        cases listed collate key new with
        | nil => rfl
        | cons first rest => simp [settle]
      · have snoc : listed collate key (new ++ [entry]) = listed collate key new := by
          simp [listed, same]
        rw [if_neg same, snoc]

theorem mem_oldMap (tables : UsernameTables collate) (ownerId : Int) (entry : String × Entry) :
    entry ∈ oldMap tables ownerId ↔
      ∃ row, tables.lookup (collate entry.1) = some row ∧ row.ownerId = some ownerId ∧
        row.username = entry.1 ∧ row.entry = entry.2 := by
  simp only [oldMap, List.mem_map, List.mem_filter, decide_eq_true_eq]
  constructor
  · rintro ⟨row, ⟨member, owned⟩, rfl⟩
    exact ⟨row, (Table.lookup_some_iff _ _ _).mpr ⟨member, rfl⟩, owned, rfl, rfl⟩
  · rintro ⟨row, found, owned, name, same⟩
    exact ⟨row, ⟨((Table.lookup_some_iff _ _ _).mp found).1, owned⟩, Prod.ext name same⟩

/-- What an owner holds under one exact spelling. -/
def owned (tables : UsernameTables collate) (ownerId : Int) (name : String) : Option Entry :=
  (tables.lookup (collate name)).bind fun row =>
    if row.ownerId = some ownerId ∧ row.username = name then some row.entry else none

theorem owned_eq_some (tables : UsernameTables collate) (ownerId : Int) (name : String)
    (entry : Entry) :
    owned tables ownerId name = some entry ↔
      ∃ row, tables.lookup (collate name) = some row ∧ row.ownerId = some ownerId ∧
        row.username = name ∧ row.entry = entry := by
  simp [owned, Option.bind_eq_some_iff, and_assoc]

theorem findEntry_member (entries : List (String × Entry)) (name : String) (entry : Entry)
    (found : findEntry entries name = some entry) : (name, entry) ∈ entries := by
  obtain ⟨pair, hit, rfl⟩ := Option.map_eq_some_iff.mp found
  have same : pair.1 = name := by simpa using List.find?_some hit
  exact same ▸ List.mem_of_find?_eq_some hit

/-- The map of old usernames reads the owner's rows. -/
theorem findEntry_oldMap (tables : UsernameTables collate) (ownerId : Int) (name : String) :
    findEntry (oldMap tables ownerId) name = owned tables ownerId name := by
  cases found : findEntry (oldMap tables ownerId) name with
  | some entry =>
      have row := (mem_oldMap tables ownerId _).mp (findEntry_member _ name entry found)
      exact ((owned_eq_some tables ownerId name entry).mpr row).symm
  | none =>
      cases held : owned tables ownerId name with
      | none => rfl
      | some entry =>
          have row := (owned_eq_some tables ownerId name entry).mp held
          have member := (mem_oldMap tables ownerId (name, entry)).mpr row
          have known := (findEntry_isSome (oldMap tables ownerId) name).mpr
            (List.mem_map_of_mem member)
          simp [found] at known

theorem listed_eq_nil (key : Key) (entries : List (String × Entry)) :
    listed collate key entries = [] ↔ ∀ entry ∈ entries, collate entry.1 ≠ key := by
  simp [listed]

theorem findEntry_unlisted (key : Key) (entries : List (String × Entry)) (name : String)
    (same : collate name = key) (unlisted : listed collate key entries = []) :
    findEntry entries name = none := by
  rw [← Option.not_isSome_iff_eq_none, findEntry_isSome]
  intro member
  obtain ⟨entry, held, rfl⟩ := List.mem_map.mp member
  exact (listed_eq_nil key entries).mp unlisted entry held same

/-- The row of every key after a sync. -/
theorem lookup_sync (order : MapOrder) (tables : UsernameTables collate) (snapshot : Snapshot)
    (key : Key) :
    (syncSnapshot order tables snapshot).lookup key =
      settle snapshot.ownerId (listed collate key snapshot.newList) (tables.lookup key) := by
  simp only [syncSnapshot]
  rw [lookup_claims, recordChanges, lookup_releases]
  change (match listed collate key snapshot.newList with
    | [] => Option.map _ (tables.lookup key)
    | first :: rest => settle _ (first :: rest) (Option.map _ (tables.lookup key))) = _
  cases occurrences : listed collate key snapshot.newList with
  | cons first rest =>
      cases tables.lookup key with
      | none => rfl
      | some row =>
          simp only [settle, Option.map_some, Option.getD_some]
          split
          · simp only [release]
            split <;> rfl
          · rfl
  | nil =>
      cases found : tables.lookup key with
      | none => rfl
      | some row =>
          simp only [settle, Option.map_some, Option.some.injEq]
          have rowKey := spelled tables key row found
          -- An unlisted name is released exactly when the owner holds it.
          by_cases owned : row.ownerId = some snapshot.ownerId
          · rw [if_pos]
            refine ⟨(row.username, row.entry), ?_, rowKey,
              findEntry_unlisted key _ _ rowKey occurrences⟩
            rw [(order.perm _).mem_iff, mem_oldMap]
            exact ⟨row, by rw [rowKey, found], owned, rfl, rfl⟩
          · simp [release, owned]

end

end TgLoggerd

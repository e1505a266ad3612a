import TgLoggerd.Recording
import TgLoggerd.SerialRun
import TgLoggerd.Usernames

/-!
The group tables of migration 000005 and the transactions of `Group.cpp` on
them, in the manner of the user tables.
-/

namespace TgLoggerd

open KeyedTable SerialRun

inductive GroupType where
  | basicGroup
  | supergroup
  | channel
  deriving DecidableEq, Repr

/-- `models::Group`; photo_file_id is filled in by another statement. -/
structure Group where
  id : Int := 0
  type : GroupType := .basicGroup
  title : String := ""
  description : String := ""
  activeUsernames : List String := []
  disabledUsernames : List String := []
  collectibleUsernames : List String := []
  deriving DecidableEq, Repr

structure GroupRow where
  id : Int
  type : GroupType
  title : String
  description : String
  photoFileId : Option Nat
  deriving DecidableEq, Repr

structure GroupHistTitle where
  groupId : Int
  title : String
  deriving DecidableEq, Repr

structure GroupHistDescription where
  groupId : Int
  description : String
  deriving DecidableEq, Repr

structure GroupHistPhoto where
  groupId : Int
  fileId : Nat
  deriving DecidableEq, Repr

def Group.snapshot (g : Group) : Snapshot where
  ownerId := g.id
  activeUsernames := g.activeUsernames
  disabledUsernames := g.disabledUsernames
  collectibleUsernames := g.collectibleUsernames

section

variable {Key : Type} [DecidableEq Key]

structure GroupRows (collate : String → Key) where
  groups : Table GroupRow.id
  histTitle : List GroupHistTitle
  histDescription : List GroupHistDescription
  histPhoto : List GroupHistPhoto
  usernames : UsernameTables collate

variable {collate : String → Key}

def GroupRows.empty : GroupRows collate where
  groups := Table.empty
  histTitle := []
  histDescription := []
  histPhoto := []
  usernames := UsernameTables.empty

def newGroupRow (g : Group) : GroupRow where
  id := g.id
  type := g.type
  title := g.title
  description := g.description
  photoFileId := none

/-- The `ON DUPLICATE KEY UPDATE` assignments of `DB::upsertGroup`. -/
def overwriteGroup (g : Group) (row : GroupRow) : GroupRow :=
  { row with
    type := g.type
    title := g.title
    description := g.description }

def syncGroupUsernames (order : MapOrder) (tables : GroupRows collate) (g : Group) :
    GroupRows collate :=
  { tables with usernames := syncSnapshot order tables.usernames g.snapshot }

def upsertGroup (order : MapOrder) (tables : GroupRows collate) (g : Group) : GroupRows collate :=
  let old := tables.groups.lookup g.id
  let written :=
    { tables with
      groups := tables.groups.insertOrUpdate (newGroupRow g) (overwriteGroup g) (fun _ => rfl) }
  let recorded :=
    match old with
    | none =>
        { written with
          histTitle := written.histTitle ++ [⟨g.id, g.title⟩]
          histDescription := written.histDescription ++ [⟨g.id, g.description⟩] }
    | some row =>
        { written with
          histTitle :=
            if row.title ≠ g.title then written.histTitle ++ [⟨g.id, row.title⟩]
            else written.histTitle
          histDescription :=
            if row.description ≠ g.description then
              written.histDescription ++ [⟨g.id, row.description⟩]
            else written.histDescription }
  syncGroupUsernames order recorded g

def trackGroupPhotoChange (tables : GroupRows collate) (groupId : Int) (fileId : Nat) :
    GroupRows collate :=
  match tables.groups.lookup groupId with
  | none => tables
  | some row =>
      match row.photoFileId with
      | none => { tables with histPhoto := tables.histPhoto ++ [⟨groupId, fileId⟩] }
      | some oldId =>
          if oldId = fileId then tables
          else { tables with histPhoto := tables.histPhoto ++ [⟨groupId, oldId⟩] }

def setGroupPhoto (tables : GroupRows collate) (groupId : Int) (fileId : Nat) :
    GroupRows collate :=
  let tracked := trackGroupPhotoChange tables groupId fileId
  { tracked with
    groups := tracked.groups.revise
      (fun row => if row.id = groupId then { row with photoFileId := some fileId } else row)
      (by intro row; split <;> rfl) }

def groupsStore (order : MapOrder) (gs : List Group) : GroupRows collate :=
  run (upsertGroup order) GroupRows.empty gs

theorem usernames_upsertGroup (order : MapOrder) (tables : GroupRows collate) (g : Group) :
    (upsertGroup order tables g).usernames = syncSnapshot order tables.usernames g.snapshot := by
  simp only [upsertGroup, syncGroupUsernames]
  cases tables.groups.lookup g.id <;> rfl

theorem groups_upsertGroup (order : MapOrder) (tables : GroupRows collate) (g : Group) :
    (upsertGroup order tables g).groups =
      tables.groups.insertOrUpdate (newGroupRow g) (overwriteGroup g) (fun _ => rfl) := by
  simp only [upsertGroup, syncGroupUsernames]
  cases tables.groups.lookup g.id <;> rfl

/-- The row of the group after its upsert. -/
theorem lookup_upsertGroup (order : MapOrder) (tables : GroupRows collate) (g : Group) :
    (upsertGroup order tables g).groups.lookup g.id =
      some (((tables.groups.lookup g.id).map (overwriteGroup g)).getD (newGroupRow g)) := by
  rw [groups_upsertGroup]
  exact (Table.lookup_insertOrUpdate tables.groups (newGroupRow g) (overwriteGroup g)
    (fun _ => rfl) g.id).trans (if_pos rfl)

/-- An upsert of the stored values reaches only the username tables. -/
theorem upsertGroup_known (order : MapOrder) (tables : GroupRows collate) (g : Group)
    (row : GroupRow) (found : tables.groups.lookup g.id = some row)
    (known : overwriteGroup g row = row) :
    upsertGroup order tables g =
      { tables with usernames := syncSnapshot order tables.usernames g.snapshot } := by
  have groups := Table.insertOrUpdate_settled tables.groups (newGroupRow g) (overwriteGroup g)
    (fun _ => rfl) row found known
  have title : row.title = g.title := by rw [← known]; rfl
  have description : row.description = g.description := by rw [← known]; rfl
  simp only [upsertGroup, syncGroupUsernames, found, groups, title, description, ne_eq,
    not_true_eq_false, ↓reduceIte]

theorem lookup_upsertGroup_any (order : MapOrder) (tables : GroupRows collate) (g : Group)
    (groupId : Int) :
    (upsertGroup order tables g).groups.lookup groupId =
      if g.id = groupId then
        some (((tables.groups.lookup groupId).map (overwriteGroup g)).getD (newGroupRow g))
      else tables.groups.lookup groupId := by
  rw [groups_upsertGroup]
  exact Table.lookup_insertOrUpdate tables.groups (newGroupRow g) (overwriteGroup g)
    (fun _ => rfl) groupId

theorem histTitle_upsertGroup (order : MapOrder) (tables : GroupRows collate) (g : Group) :
    (upsertGroup order tables g).histTitle =
      tables.histTitle ++ (Recording.entry List.singleton
        ((tables.groups.lookup g.id).map GroupRow.title) g.title).map fun title => ⟨g.id, title⟩ := by
  simp only [upsertGroup, syncGroupUsernames, Recording.entry]
  cases tables.groups.lookup g.id with
  | none => rfl
  | some row => by_cases same : row.title = g.title <;> simp [same]

theorem histDescription_upsertGroup (order : MapOrder) (tables : GroupRows collate) (g : Group) :
    (upsertGroup order tables g).histDescription =
      tables.histDescription ++ (Recording.entry List.singleton
        ((tables.groups.lookup g.id).map GroupRow.description) g.description).map
          fun description => ⟨g.id, description⟩ := by
  simp only [upsertGroup, syncGroupUsernames, Recording.entry]
  cases tables.groups.lookup g.id with
  | none => rfl
  | some row => by_cases same : row.description = g.description <;> simp [same]

@[simp]
theorem histPhoto_upsertGroup (order : MapOrder) (tables : GroupRows collate) (g : Group) :
    (upsertGroup order tables g).histPhoto = tables.histPhoto := by
  simp only [upsertGroup, syncGroupUsernames]
  cases tables.groups.lookup g.id <;> rfl

omit [DecidableEq Key] in
/-- Only a stored group has a photo to track. -/
theorem setGroupPhoto_absent (tables : GroupRows collate) (groupId : Int) (fileId : Nat)
    (absent : tables.groups.lookup groupId = none) :
    setGroupPhoto tables groupId fileId = tables := by
  simp only [setGroupPhoto, trackGroupPhotoChange, absent]
  rw [Table.revise_absent _ _ _ groupId absent]
  intro row other
  exact if_neg other

omit [DecidableEq Key] in
theorem lookup_setGroupPhoto (tables : GroupRows collate) (subject groupId : Int) (fileId : Nat) :
    (setGroupPhoto tables subject fileId).groups.lookup groupId =
      (tables.groups.lookup groupId).map fun row =>
        if subject = groupId then { row with photoFileId := some fileId } else row := by
  have tracked : (trackGroupPhotoChange tables subject fileId).groups = tables.groups := by
    simp only [trackGroupPhotoChange]
    split
    · rfl
    · split
      · rfl
      · split <;> rfl
  simp only [setGroupPhoto, Table.lookup_revise, tracked]
  cases found : tables.groups.lookup groupId with
  | none => rfl
  | some row =>
      have rowId := ((Table.lookup_some_iff _ _ _).mp found).2
      simp [rowId, eq_comm]

omit [DecidableEq Key] in
theorem histPhoto_set (tables : GroupRows collate) (groupId : Int) (fileId : Nat)
    (row : GroupRow) (found : tables.groups.lookup groupId = some row) :
    (setGroupPhoto tables groupId fileId).histPhoto =
      tables.histPhoto ++ (Recording.entry List.singleton row.photoFileId fileId).map
        fun fileId => ⟨groupId, fileId⟩ := by
  simp only [setGroupPhoto, trackGroupPhotoChange, found, Recording.entry]
  cases row.photoFileId with
  | none => rfl
  | some oldId => by_cases same : oldId = fileId <;> simp [same]

omit [DecidableEq Key] in
theorem setGroupPhoto_others (tables : GroupRows collate) (groupId : Int) (fileId : Nat) :
    (setGroupPhoto tables groupId fileId).histTitle = tables.histTitle ∧
      (setGroupPhoto tables groupId fileId).histDescription = tables.histDescription := by
  simp only [setGroupPhoto, trackGroupPhotoChange]
  split
  · exact ⟨rfl, rfl⟩
  · split
    · exact ⟨rfl, rfl⟩
    · split <;> exact ⟨rfl, rfl⟩

theorem usernames_groupsStore (order : MapOrder) (gs : List Group) :
    (groupsStore order gs : GroupRows collate).usernames =
      run (syncSnapshot order) UsernameTables.empty (gs.map Group.snapshot) := by
  induction gs using List.reverseRecOn with
  | nil => rfl
  | append_singleton gs g ih =>
      rw [groupsStore, run_snoc, usernames_upsertGroup, List.map_append, List.map_singleton,
        run_snoc, ← ih, groupsStore]

end

end TgLoggerd

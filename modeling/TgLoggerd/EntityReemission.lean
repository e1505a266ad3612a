import TgLoggerd.UsernameReplay

/-!
Upserting an unchanged entity again. The entity columns and their histories
reach a fixed point after one call, since old and new values then agree. The
username diff does so only when no username is listed twice: its map of old
entries keeps one entry for a name, and so does the table.
-/

namespace TgLoggerd

open KeyedTable SerialRun

section

variable {Key : Type} [DecidableEq Key] {collate : String → Key}

/-- A snapshot one sync settles: no username stands in it twice, and every name
is spelled as it is stored. -/
structure Settles (tables : UsernameTables collate) (snapshot : Snapshot) : Prop where
  once : ∀ key, (listed collate key snapshot.newList).length ≤ 1
  spelling : ∀ new ∈ snapshot.newList, ∀ row, tables.lookup (collate new.1) = some row →
    row.username = new.1

/-- Nothing to write: every listing is held as it is, and all held is listed. -/
def UpToDate (tables : UsernameTables collate) (snapshot : Snapshot) : Prop :=
  (∀ new ∈ snapshot.newList, owned tables snapshot.ownerId new.1 = some new.2) ∧
    ∀ name, (owned tables snapshot.ownerId name).isSome → ∃ new ∈ snapshot.newList, new.1 = name

theorem changeEvent_eq_none (ownerId : Int) (old : List (String × Entry)) (new : String × Entry) :
    changeEvent ownerId old new = none ↔ findEntry old new.1 = some new.2 := by
  have change := change_changeEvent ownerId old new
  constructor
  · intro silent
    rw [silent] at change
    by_contra differs
    rw [if_neg differs] at change
    cases change
  · intro held
    rw [if_pos held] at change
    exact Option.map_eq_none_iff.mp change

theorem syncEvents_eq_nil (order : MapOrder) (tables : UsernameTables collate)
    (snapshot : Snapshot) :
    syncEvents order tables snapshot = [] ↔ UpToDate tables snapshot := by
  simp only [syncEvents, List.append_eq_nil_iff, List.filterMap_eq_nil_iff, changeEvent_eq_none,
    findEntry_oldMap, UpToDate]
  apply and_congr_right
  intro _
  constructor
  · intro silent name held
    rw [← findEntry_oldMap] at held
    obtain ⟨entry, found⟩ := Option.isSome_iff_exists.mp held
    have member := findEntry_member _ name entry found
    have removal := silent (name, entry) ((order.perm _).mem_iff.mpr member)
    have kept : (findEntry snapshot.newList name).isSome := by
      by_contra missing
      simp [removalEvent, missing] at removal
    obtain ⟨new, listing, same⟩ := List.mem_map.mp ((findEntry_isSome _ _).mp kept)
    exact ⟨new, listing, same⟩
  · intro known old visited
    have member := (order.perm _).mem_iff.mp visited
    have held : (owned tables snapshot.ownerId old.1).isSome := by
      rw [← findEntry_oldMap, findEntry_isSome]
      exact List.mem_map_of_mem member
    obtain ⟨new, listing, same⟩ := known old.1 held
    have kept := (findEntry_isSome snapshot.newList old.1).mpr (List.mem_map.mpr ⟨new, listing, same⟩)
    simp [removalEvent, kept]

theorem claim_held (ownerId : Int) (tables : UsernameTables collate) (new : String × Entry)
    (held : owned tables ownerId new.1 = some new.2) : claimUsername ownerId tables new = tables := by
  obtain ⟨row, found, owner, name, place⟩ := (owned_eq_some _ _ _ _).mp held
  have settled := Table.insertOrUpdate_settled tables.usernames
    { ownerId := some ownerId
      username := new.1
      kind := new.2.kind
      position := new.2.position }
    (fun row =>
      { row with
        ownerId := some ownerId
        kind := new.2.kind
        position := new.2.position })
    (fun _ => rfl) row found (by rw [← place, ← owner]; rfl)
  rw [claimUsername, settled]

theorem claims_held (ownerId : Int) (tables : UsernameTables collate)
    (new : List (String × Entry))
    (held : ∀ entry ∈ new, owned tables ownerId entry.1 = some entry.2) :
    new.foldl (claimUsername ownerId) tables = tables := by
  induction new with
  | nil => rfl
  | cons entry rest ih =>
      rw [List.foldl_cons, claim_held ownerId tables entry (held entry List.mem_cons_self)]
      exact ih fun other member => held other (List.mem_cons_of_mem _ member)

theorem releases_none (ownerId : Int) (new old : List (String × Entry))
    (tables : UsernameTables collate)
    (kept : ∀ entry ∈ old, removalEvent ownerId new entry = none) :
    old.foldl (releaseMissing ownerId new) tables = tables := by
  induction old with
  | nil => rfl
  | cons entry rest ih =>
      have isListed : (findEntry new entry.1).isSome := by
        by_contra missing
        simpa [removalEvent, missing] using kept entry List.mem_cons_self
      rw [List.foldl_cons, releaseMissing, if_pos isListed]
      exact ih fun other member => kept other (List.mem_cons_of_mem _ member)

/-- A sync without events changes nothing, and a sync that changes nothing
writes no event. -/
theorem sync_fixed (order : MapOrder) (tables : UsernameTables collate) (snapshot : Snapshot) :
    syncSnapshot order tables snapshot = tables ↔ UpToDate tables snapshot := by
  rw [← syncEvents_eq_nil order]
  constructor
  · intro same
    have events := events_sync order tables snapshot
    rw [same] at events
    exact List.self_eq_append_right.mp events
  · intro silent
    have held := ((syncEvents_eq_nil order tables snapshot).mp silent).1
    obtain ⟨changes, removals⟩ := List.append_eq_nil_iff.mp silent
    simp only [syncSnapshot]
    rw [recordChanges, changes, List.append_nil,
      releases_none _ _ _ tables (List.filterMap_eq_nil_iff.mp removals),
      claims_held _ tables _ held]

/-- After a sync that leaves nothing to write, each listing has its spelling and
the place of its key's last listing. -/
theorem last_listing_held (order : MapOrder) (tables : UsernameTables collate)
    (snapshot : Snapshot) (upToDate : UpToDate (syncSnapshot order tables snapshot) snapshot)
    (new : String × Entry) (member : new ∈ snapshot.newList) (first : String × Entry)
    (rest : List (String × Entry))
    (occurrences : listed collate (collate new.1) snapshot.newList = first :: rest) :
    ((tables.lookup (collate new.1)).map UsernameRow.username).getD first.1 = new.1 ∧
      (rest.getLast?.getD first).2 = new.2 := by
  have value := upToDate.1 new member
  rw [owned_own, occurrences] at value
  by_cases name : ((tables.lookup (collate new.1)).map UsernameRow.username).getD first.1 = new.1
  · simp only [name, ↓reduceIte, Option.some.injEq] at value
    exact ⟨name, value⟩
  · simp only [if_neg name] at value
    cases value

theorem settles_of_upToDate (order : MapOrder) (tables : UsernameTables collate)
    (snapshot : Snapshot) (upToDate : UpToDate (syncSnapshot order tables snapshot) snapshot) :
    Settles tables snapshot := by
  have last := last_listing_held order tables snapshot upToDate
  constructor
  · intro key
    by_contra several
    obtain ⟨first, rest, occurrences⟩ := List.exists_cons_of_ne_nil
      (List.ne_nil_of_length_pos (by omega : 0 < (listed collate key snapshot.newList).length))
    obtain ⟨second, others, more⟩ := List.exists_cons_of_ne_nil
      (show rest ≠ [] by rintro rfl; simp [occurrences] at several)
    have firstHeld : first ∈ listed collate key snapshot.newList := by simp [occurrences]
    have secondHeld : second ∈ listed collate key snapshot.newList := by
      simp [occurrences, more]
    have firstIn := (mem_listed key snapshot.newList first).mp firstHeld
    have secondIn := (mem_listed key snapshot.newList second).mp secondHeld
    have firstLast := (last first firstIn.1 first rest (by rw [firstIn.2, occurrences])).2
    have secondLast := (last second secondIn.1 first rest (by rw [secondIn.2, occurrences])).2
    -- Both would have the last place, but no two listings share a place.
    have places := (newList_places snapshot).sublist
      ((List.filter_sublist (p := fun entry => collate entry.1 = key)).map Prod.snd)
    change ((listed collate key snapshot.newList).map Prod.snd).Nodup at places
    rw [occurrences, more, List.map_cons, List.map_cons] at places
    have same : first.2 = second.2 := firstLast.symm.trans secondLast
    exact (List.nodup_cons.mp places).1 (same ▸ List.mem_cons_self)
  · intro new member row found
    obtain ⟨first, rest, occurrences⟩ := listed_occurs collate _ new member
    simpa [found] using (last new member first rest occurrences).1

theorem upToDate_of_settles (order : MapOrder) (tables : UsernameTables collate)
    (snapshot : Snapshot) (settles : Settles tables snapshot) :
    UpToDate (syncSnapshot order tables snapshot) snapshot := by
  have alone (new : String × Entry) (member : new ∈ snapshot.newList) :
      listed collate (collate new.1) snapshot.newList = [new] := by
    obtain ⟨first, rest, occurrences⟩ := listed_occurs collate _ new member
    have bound := settles.once (collate new.1)
    have held := (mem_listed (collate new.1) _ new).mpr ⟨member, rfl⟩
    rw [occurrences] at bound held ⊢
    have single : rest = [] := List.length_eq_zero_iff.mp (by simpa using bound)
    subst single
    rw [List.mem_singleton.mp held]
  constructor
  · intro new member
    rw [owned_own, alone new member]
    cases found : tables.lookup (collate new.1) with
    | none => simp
    | some row => simp [settles.spelling new member row found]
  · intro name held
    rw [owned_own] at held
    cases occurrences : listed collate (collate name) snapshot.newList with
    | nil => simp [occurrences] at held
    | cons first rest =>
        obtain ⟨member, same⟩ := (mem_listed (collate name) _ first).mp
          (occurrences ▸ List.mem_cons_self)
        -- The owned name is the stored spelling, and that is the listed one.
        refine ⟨first, member, ?_⟩
        rw [occurrences] at held
        cases found : tables.lookup (collate name) with
        | none =>
            by_contra differs
            simp [found, differs] at held
        | some row =>
            have spelling := settles.spelling first member row (by rw [same, found])
            by_contra differs
            simp [found, spelling, differs] at held

/-- After one sync the snapshot is up to date exactly when it settles. -/
theorem upToDate_sync (order : MapOrder) (tables : UsernameTables collate) (snapshot : Snapshot) :
    UpToDate (syncSnapshot order tables snapshot) snapshot ↔ Settles tables snapshot :=
  ⟨settles_of_upToDate order tables snapshot, upToDate_of_settles order tables snapshot⟩

/-- A second sync of one snapshot is idle exactly when the snapshot settles. -/
theorem sync_twice (order : MapOrder) (tables : UsernameTables collate) (snapshot : Snapshot) :
    syncSnapshot order (syncSnapshot order tables snapshot) snapshot =
      syncSnapshot order tables snapshot ↔ Settles tables snapshot := by
  rw [sync_fixed, upToDate_sync]

theorem upsertUser_twice (order : MapOrder) (tables : UserTables collate) (u : User) :
    upsertUser order (upsertUser order tables u) u = upsertUser order tables u ↔
      Settles tables.usernames u.snapshot := by
  have found := lookup_upsertUser order tables u
  have known : overwriteUser u (((tables.users.lookup u.id).map (overwriteUser u)).getD
      (newUserRow u)) = ((tables.users.lookup u.id).map (overwriteUser u)).getD (newUserRow u) := by
    cases tables.users.lookup u.id <;> rfl
  rw [upsertUser_known order _ u _ found known, ← sync_twice order, usernames_upsertUser]
  constructor
  · intro same
    have usernames := congrArg UserTables.usernames same
    rwa [usernames_upsertUser] at usernames
  · intro same
    rw [same, ← usernames_upsertUser]

theorem upsertGroup_twice (order : MapOrder) (tables : GroupRows collate) (g : Group) :
    upsertGroup order (upsertGroup order tables g) g = upsertGroup order tables g ↔
      Settles tables.usernames g.snapshot := by
  have found := lookup_upsertGroup order tables g
  have known : overwriteGroup g (((tables.groups.lookup g.id).map (overwriteGroup g)).getD
      (newGroupRow g)) =
        ((tables.groups.lookup g.id).map (overwriteGroup g)).getD (newGroupRow g) := by
    cases tables.groups.lookup g.id <;> rfl
  rw [upsertGroup_known order _ g _ found known, ← sync_twice order, usernames_upsertGroup]
  constructor
  · intro same
    have usernames := congrArg GroupRows.usernames same
    rwa [usernames_upsertGroup] at usernames
  · intro same
    rw [same, ← usernames_upsertGroup]

/-- In every state, an entity upserted twice leaves all tables as upserted once
exactly when its usernames settle. -/
theorem reemission_exact (collate : String → Key) (order : MapOrder) :
    (∀ (tables : UserTables collate) (u : User),
      upsertUser order (upsertUser order tables u) u = upsertUser order tables u ↔
        Settles tables.usernames u.snapshot) ∧
    (∀ (tables : GroupRows collate) (g : Group),
      upsertGroup order (upsertGroup order tables g) g = upsertGroup order tables g ↔
        Settles tables.usernames g.snapshot) :=
  ⟨upsertUser_twice order, upsertGroup_twice order⟩

end

/-- A username in two lists: each further upsert logs another kind change. -/
theorem shared_username_logged_again :
    let u : User := { id := 1, activeUsernames := ["alice"], collectibleUsernames := ["alice"] }
    let once : UserTables foldCase := userStore insertionOrder [u]
    let twice : UserTables foldCase := userStore insertionOrder [u, u]
    once.usernames.events.map UsernameEvent.action = [.added, .added] ∧
      twice.usernames.events.map UsernameEvent.action = [.added, .added, .kindChanged] := by
  decide

end TgLoggerd

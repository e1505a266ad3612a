import TgLoggerd.GroupStore
import TgLoggerd.UserStore

/-!
Who owns a username after a run of upserts. A sync claims what it lists and
releases what its owner held and no longer lists; every other row it leaves
alone. So the latest listing of a name decides its row, and only a later
snapshot of the same owner can take the ownership off it again.
-/

namespace TgLoggerd

open KeyedTable SerialRun

section

variable {Key : Type} [DecidableEq Key]

/-- The snapshot names the username, in one of its lists. -/
def Lists (collate : String → Key) (key : Key) (snapshot : Snapshot) : Prop :=
  listed collate key snapshot.newList ≠ []

instance (collate : String → Key) (key : Key) (snapshot : Snapshot) :
    Decidable (Lists collate key snapshot) :=
  inferInstanceAs (Decidable (listed collate key snapshot.newList ≠ []))

variable {collate : String → Key}

/-- No two owners list one username. -/
def DisjointLists (collate : String → Key) (snapshots : List Snapshot) : Prop :=
  ∀ left ∈ snapshots, ∀ right ∈ snapshots, left.ownerId ≠ right.ownerId →
    ∀ key, Lists collate key left → ¬ Lists collate key right

/-- What a store that syncs one snapshot per entity knows about usernames. -/
structure OwnershipLaw {Entity : Type} (snapshot : Entity → Snapshot)
    (store : List Entity → UsernameTables collate) : Prop where
  unique : ∀ entities, ((store entities).usernames.rows.map (UsernameRow.key collate)).Nodup
  present : ∀ entities key, ((store entities).lookup key).isSome ↔
    ∃ entity ∈ entities, Lists collate key (snapshot entity)
  latest : ∀ before entity after key, Lists collate key (snapshot entity) →
    (∀ later ∈ after, ¬ Lists collate key (snapshot later)) →
    ∃ row last, (store (before ++ entity :: after)).lookup key = some row ∧
      (listed collate key (snapshot entity).newList).getLast? = some last ∧
      row.entry = last.2 ∧
      row.ownerId =
        if ∃ later ∈ after, (snapshot later).ownerId = (snapshot entity).ownerId then none
        else some (snapshot entity).ownerId
  late : ∀ entities former key row, (store entities).lookup key = some row →
    row.ownerId ≠ some (snapshot former).ownerId → ¬ Lists collate key (snapshot former) →
    (store (entities ++ [former])).lookup key = some row
  orderless : ∀ left right, DisjointLists collate (left.map snapshot) →
    (∀ owner, left.filter (fun entity => (snapshot entity).ownerId = owner) =
      right.filter (fun entity => (snapshot entity).ownerId = owner)) →
    ∀ key, (store left).lookup key = (store right).lookup key

def usernamesAfter (collate : String → Key) (order : MapOrder) (snapshots : List Snapshot) :
    UsernameTables collate :=
  run (syncSnapshot order) UsernameTables.empty snapshots

theorem lookup_usernamesAfter_snoc (order : MapOrder) (snapshots : List Snapshot)
    (snapshot : Snapshot) (key : Key) :
    (usernamesAfter collate order (snapshots ++ [snapshot])).lookup key =
      settle snapshot.ownerId (listed collate key snapshot.newList)
        ((usernamesAfter collate order snapshots).lookup key) := by
  rw [usernamesAfter, run_snoc, lookup_sync, usernamesAfter]

/-- A sync that does not list a username at most releases it. -/
theorem lookup_unlisted_snoc (order : MapOrder) (snapshots : List Snapshot) (snapshot : Snapshot)
    (key : Key) (unlisted : ¬ Lists collate key snapshot) :
    (usernamesAfter collate order (snapshots ++ [snapshot])).lookup key =
      ((usernamesAfter collate order snapshots).lookup key).map (release snapshot.ownerId) := by
  rw [lookup_usernamesAfter_snoc, not_not.mp unlisted, settle]

/-- A sync that lists a username claims it for its owner. -/
theorem lookup_listed_snoc (order : MapOrder) (snapshots : List Snapshot) (snapshot : Snapshot)
    (key : Key) (names : Lists collate key snapshot) :
    ∃ row last, (usernamesAfter collate order (snapshots ++ [snapshot])).lookup key = some row ∧
      (listed collate key snapshot.newList).getLast? = some last ∧ row.entry = last.2 ∧
      row.ownerId = some snapshot.ownerId := by
  rw [lookup_usernamesAfter_snoc]
  unfold Lists at names
  cases occurrences : listed collate key snapshot.newList with
  | nil => exact absurd occurrences names
  | cons first rest => exact ⟨_, rest.getLast?.getD first, rfl, List.getLast?_cons, rfl, rfl⟩

theorem release_other (ownerId : Int) (row : UsernameRow) (other : row.ownerId ≠ some ownerId) :
    release ownerId row = row := by
  rw [release, if_neg other]

theorem present_run (order : MapOrder) (snapshots : List Snapshot) (key : Key) :
    ((usernamesAfter collate order snapshots).lookup key).isSome ↔
      ∃ snapshot ∈ snapshots, Lists collate key snapshot := by
  induction snapshots using List.reverseRecOn with
  | nil => simp [usernamesAfter, UsernameTables.empty, UsernameTables.lookup]
  | append_singleton snapshots snapshot ih =>
      by_cases names : Lists collate key snapshot
      · obtain ⟨row, last, found, _⟩ := lookup_listed_snoc order snapshots snapshot key names
        rw [found]
        exact iff_of_true rfl ⟨snapshot, by simp, names⟩
      · rw [lookup_unlisted_snoc order snapshots snapshot key names, Option.isSome_map, ih]
        simp [or_and_right, exists_or, names]

/-- The latest listing decides kind and position; a later snapshot of its owner
takes the ownership away, and no other one does. -/
theorem latest_run (order : MapOrder) (before after : List Snapshot) (snapshot : Snapshot)
    (key : Key) (names : Lists collate key snapshot)
    (silent : ∀ later ∈ after, ¬ Lists collate key later) :
    ∃ row last, (usernamesAfter collate order (before ++ snapshot :: after)).lookup key = some row ∧
      (listed collate key snapshot.newList).getLast? = some last ∧ row.entry = last.2 ∧
      row.ownerId =
        if ∃ later ∈ after, later.ownerId = snapshot.ownerId then none
        else some snapshot.ownerId := by
  induction after using List.reverseRecOn with
  | nil => simpa using lookup_listed_snoc order before snapshot key names
  | append_singleton after next ih =>
      have earlier : ∀ later ∈ after, ¬ Lists collate key later :=
        fun later member => silent later (List.mem_append_left _ member)
      obtain ⟨row, last, found, isLast, entry, owner⟩ := ih earlier
      have unlisted := silent next (by simp)
      -- A later sync that does not list the name can only release it.
      refine ⟨release next.ownerId row, last, ?_, isLast, ?_, ?_⟩
      · rw [← List.cons_append, ← List.append_assoc,
          lookup_unlisted_snoc order _ next key unlisted, found, Option.map_some]
      · rw [← entry, release]
        split <;> rfl
      · by_cases gone : ∃ later ∈ after, later.ownerId = snapshot.ownerId
        · rw [if_pos gone] at owner
          obtain ⟨later, member, same⟩ := gone
          rw [release_other _ _ (by simp [owner]), owner,
            if_pos ⟨later, List.mem_append_left _ member, same⟩]
        · rw [if_neg gone] at owner
          by_cases same : next.ownerId = snapshot.ownerId
          · rw [release, if_pos (by rw [owner, same]), if_pos ⟨next, by simp, same⟩]
          · have other : snapshot.ownerId ≠ next.ownerId := Ne.symm same
            rw [release_other _ _ (by simp [owner, other]), owner, if_neg]
            rintro ⟨later, member, equal⟩
            rcases List.mem_append.mp member with held | new
            · exact gone ⟨later, held, equal⟩
            · exact same (List.mem_singleton.mp new ▸ equal)

/-- A username that one owner alone lists depends on that owner's snapshots. -/
theorem lookup_own_snapshots (order : MapOrder) (snapshots : List Snapshot) (key : Key)
    (owner : Int)
    (only : ∀ snapshot ∈ snapshots, Lists collate key snapshot → snapshot.ownerId = owner) :
    (usernamesAfter collate order snapshots).lookup key =
        (usernamesAfter collate order (snapshots.filter fun s => s.ownerId = owner)).lookup key ∧
      ∀ row, (usernamesAfter collate order snapshots).lookup key = some row →
        row.ownerId = none ∨ row.ownerId = some owner := by
  induction snapshots using List.reverseRecOn with
  | nil => exact ⟨rfl, by simp [usernamesAfter, UsernameTables.empty, UsernameTables.lookup]⟩
  | append_singleton snapshots next ih =>
      obtain ⟨same, owned⟩ := ih fun snapshot member =>
        only snapshot (List.mem_append_left _ member)
      by_cases own : next.ownerId = owner
      · have kept : (snapshots ++ [next]).filter (fun s => s.ownerId = owner) =
            snapshots.filter (fun s => s.ownerId = owner) ++ [next] := by
          simp [own]
        rw [kept, lookup_usernamesAfter_snoc, lookup_usernamesAfter_snoc, same]
        refine ⟨rfl, ?_⟩
        intro row found
        by_cases names : Lists collate key next
        · obtain ⟨claimed, _, held, _, _, claimedOwner⟩ :=
            lookup_listed_snoc order snapshots next key names
          rw [lookup_usernamesAfter_snoc, same, found] at held
          rw [Option.some.inj held, claimedOwner, own]
          exact Or.inr rfl
        · rw [not_not.mp names, settle, ← same] at found
          obtain ⟨old, oldFound, rfl⟩ := Option.map_eq_some_iff.mp found
          rw [release]
          split
          · exact Or.inl rfl
          · exact owned old oldFound
      · have dropped : (snapshots ++ [next]).filter (fun s => s.ownerId = owner) =
            snapshots.filter (fun s => s.ownerId = owner) := by
          simp [own]
        -- A foreign snapshot neither lists the name nor holds it.
        have unlisted : ¬ Lists collate key next := fun names => own (only next (by simp) names)
        have untouched : (usernamesAfter collate order (snapshots ++ [next])).lookup key =
            (usernamesAfter collate order snapshots).lookup key := by
          rw [lookup_unlisted_snoc order snapshots next key unlisted]
          cases found : (usernamesAfter collate order snapshots).lookup key with
          | none => rfl
          | some row =>
              have other : row.ownerId ≠ some next.ownerId := by
                rcases owned row found with free | held
                · simp [free]
                · simp [held, Ne.symm own]
              rw [Option.map_some, release_other _ _ other]
        rw [dropped, untouched]
        exact ⟨same, owned⟩

theorem orderless_run (order : MapOrder) (left right : List Snapshot)
    (disjoint : DisjointLists collate left)
    (same : ∀ owner, left.filter (fun s => s.ownerId = owner) =
      right.filter (fun s => s.ownerId = owner)) (key : Key) :
    (usernamesAfter collate order left).lookup key =
      (usernamesAfter collate order right).lookup key := by
  have shared (snapshot : Snapshot) : snapshot ∈ left ↔ snapshot ∈ right := by
    have members := congrArg (snapshot ∈ ·) (same snapshot.ownerId)
    simpa using members
  by_cases some : ∃ snapshot ∈ left, Lists collate key snapshot
  · obtain ⟨snapshot, member, names⟩ := some
    have only : ∀ other ∈ left, Lists collate key other → other.ownerId = snapshot.ownerId := by
      intro other otherMember otherNames
      by_contra different
      exact disjoint other otherMember snapshot member different key otherNames names
    have leftOwn := (lookup_own_snapshots order left key snapshot.ownerId only).1
    have rightOwn := (lookup_own_snapshots order right key snapshot.ownerId
      fun other member => only other ((shared other).mpr member)).1
    rw [leftOwn, rightOwn, same snapshot.ownerId]
  · have leftNone := (present_run order left key).not.mpr some
    have rightNone := (present_run order right key).not.mpr (by simpa [shared] using some)
    rw [Option.not_isSome_iff_eq_none] at leftNone rightNone
    rw [leftNone, rightNone]

theorem ownership_law {Entity : Type} (order : MapOrder) (snapshot : Entity → Snapshot)
    (store : List Entity → UsernameTables collate)
    (syncs : ∀ entities, store entities = usernamesAfter collate order (entities.map snapshot)) :
    OwnershipLaw snapshot store where
  unique entities := (store entities).usernames.unique
  present entities key := by
    rw [syncs, present_run]
    simp
  latest before entity after key names silent := by
    have law := latest_run order (before.map snapshot) (after.map snapshot) (snapshot entity) key
      names (by simpa using silent)
    rw [syncs, List.map_append, List.map_cons]
    simpa using law
  late entities former key row found other unlisted := by
    rw [syncs] at found ⊢
    rw [List.map_append, List.map_singleton, lookup_unlisted_snoc order _ _ key unlisted, found,
      Option.map_some, release_other _ _ other]
  orderless left right disjoint same key := by
    rw [syncs, syncs]
    apply orderless_run order _ _ disjoint
    intro owner
    have mapped := congrArg (List.map snapshot) (same owner)
    simpa [List.filter_map, Function.comp_def] using mapped

/-- Ownership of usernames over every run of user upserts and every run of
group upserts. -/
theorem username_ownership (collate : String → Key) (order : MapOrder) :
    OwnershipLaw User.snapshot
        (fun us => (userStore order us : UserTables collate).usernames) ∧
      OwnershipLaw Group.snapshot
        (fun gs => (groupsStore order gs : GroupRows collate).usernames) :=
  ⟨ownership_law order User.snapshot _ (usernames_userStore order),
    ownership_law order Group.snapshot _ (usernames_groupsStore order)⟩

end

end TgLoggerd

import TgLoggerd.Journal
import TgLoggerd.UsernameOwnership

/-!
The audit log of usernames against the rows it audits. Events come from a diff
against the rows the owner still holds; the claims that follow are not limited
to these. Where a claim meets a row of another owner, a row of another
spelling or a name it has just claimed, log and rows part.
-/

namespace TgLoggerd

open KeyedTable SerialRun Journal

/-- One event as a change of its username: removed deletes the name, every
other action sets kind and position. -/
def UsernameEvent.change (event : UsernameEvent) : Change String Entry :=
  (event.username,
    match event.action with
    | .removed => none
    | .added | .reordered | .kindChanged =>
        event.kind.bind fun kind => event.position.map fun position => ⟨kind, position⟩)

section

variable {Key : Type} [DecidableEq Key] {collate : String → Key}

/-- The events of one owner, replayed in insertion order. -/
def replayed (tables : UsernameTables collate) (ownerId : Int) : String → Option Entry :=
  replay ((tables.events.filter fun event => event.ownerId = ownerId).map UsernameEvent.change)

def ReplaysToOwned (tables : UsernameTables collate) : Prop :=
  ∀ ownerId name entry, replayed tables ownerId name = some entry ↔
    ∃ row ∈ tables.usernames.rows,
      row.ownerId = some ownerId ∧ row.username = name ∧ row.entry = entry

/-- A snapshot the audit log can follow: it lists no username of another owner,
every name as it is stored and in one spelling, and no name twice whose last
place is the stored one. -/
structure Followed (tables : UsernameTables collate) (snapshot : Snapshot) : Prop where
  unowned : ∀ new ∈ snapshot.newList, ∀ row, tables.lookup (collate new.1) = some row →
    row.ownerId = none ∨ row.ownerId = some snapshot.ownerId
  spelling : ∀ new ∈ snapshot.newList, ∀ row, tables.lookup (collate new.1) = some row →
    row.username = new.1
  variants : ∀ left ∈ snapshot.newList, ∀ right ∈ snapshot.newList,
    collate left.1 = collate right.1 → left.1 = right.1
  repeats : ∀ name, 1 < (listed id name snapshot.newList).length →
    owned tables snapshot.ownerId name ≠ (listed id name snapshot.newList).getLast?.map Prod.snd

theorem replaysToOwned_iff (tables : UsernameTables collate) :
    ReplaysToOwned tables ↔
      ∀ ownerId name, replayed tables ownerId name = owned tables ownerId name := by
  have rows (ownerId : Int) (name : String) (entry : Entry) :
      (∃ row ∈ tables.usernames.rows,
        row.ownerId = some ownerId ∧ row.username = name ∧ row.entry = entry) ↔
      owned tables ownerId name = some entry := by
    rw [owned_eq_some]
    constructor
    · rintro ⟨row, member, held, rfl, place⟩
      exact ⟨row, (Table.lookup_some_iff _ _ _).mpr ⟨member, rfl⟩, held, rfl, place⟩
    · rintro ⟨row, found, rest⟩
      exact ⟨row, ((Table.lookup_some_iff _ _ _).mp found).1, rest⟩
  simp only [ReplaysToOwned, rows]
  constructor
  · intro law ownerId name
    exact Option.ext (law ownerId name)
  · intro law ownerId name entry
    rw [law]

/-- An event is written exactly for a listing that differs from what is held. -/
theorem change_changeEvent (ownerId : Int) (old : List (String × Entry)) (new : String × Entry) :
    (changeEvent ownerId old new).map UsernameEvent.change =
      if findEntry old new.1 = some new.2 then none else some (new.1, some new.2) := by
  simp only [changeEvent]
  cases held : findEntry old new.1 with
  | none => rfl
  | some before =>
      by_cases kinds : before.kind = new.2.kind
      · by_cases places : before.position = new.2.position
        · have same : before = new.2 := by
            cases before
            cases new
            simp_all
          simp [same]
        · have differs : before ≠ new.2 := fun same => places (congrArg Entry.position same)
          simp [kinds, places, differs, UsernameEvent.change]
      · have differs : before ≠ new.2 := fun same => kinds (congrArg Entry.kind same)
        simp [kinds, differs, UsernameEvent.change]

theorem change_removalEvent (ownerId : Int) (new : List (String × Entry)) (old : String × Entry) :
    (removalEvent ownerId new old).map UsernameEvent.change =
      if (findEntry new old.1).isSome then none else some (old.1, none) := by
  simp only [removalEvent]
  split <;> rfl

theorem owner_changeEvent (ownerId : Int) (old : List (String × Entry)) (new : String × Entry)
    (event : UsernameEvent) (written : changeEvent ownerId old new = some event) :
    event.ownerId = ownerId := by
  simp only [changeEvent] at written
  split at written
  · cases written
    rfl
  · split at written
    · cases written
      rfl
    · split at written
      · cases written
        rfl
      · cases written

theorem owner_removalEvent (ownerId : Int) (new : List (String × Entry)) (old : String × Entry)
    (event : UsernameEvent) (written : removalEvent ownerId new old = some event) :
    event.ownerId = ownerId := by
  simp only [removalEvent] at written
  split at written
  · cases written
  · cases written
    rfl

omit [DecidableEq Key] in
/-- A sync writes events of its own owner alone. -/
theorem owner_syncEvents (order : MapOrder) (tables : UsernameTables collate)
    (snapshot : Snapshot) (event : UsernameEvent)
    (member : event ∈ syncEvents order tables snapshot) :
    event.ownerId = snapshot.ownerId := by
  rcases List.mem_append.mp member with changed | removed
  · obtain ⟨new, _, written⟩ := List.mem_filterMap.mp changed
    exact owner_changeEvent _ _ new event written
  · obtain ⟨old, _, written⟩ := List.mem_filterMap.mp removed
    exact owner_removalEvent _ _ old event written

theorem replayed_other (order : MapOrder) (tables : UsernameTables collate) (snapshot : Snapshot)
    (ownerId : Int) (other : snapshot.ownerId ≠ ownerId) :
    replayed (syncSnapshot order tables snapshot) ownerId = replayed tables ownerId := by
  have foreign : (syncEvents order tables snapshot).filter
      (fun event => event.ownerId = ownerId) = [] := by
    apply List.filter_eq_nil_iff.mpr
    intro event member
    simpa [owner_syncEvents order tables snapshot event member] using other
  rw [replayed, events_sync, List.filter_append, foreign, List.append_nil, replayed]

/-- Replaying the changes of a list leaves each name at its last listing that
was written, or as it was. -/
theorem replayFrom_changes (ownerId : Int) (old new : List (String × Entry))
    (known : String → Option Entry) (name : String) :
    replayFrom known ((new.filterMap (changeEvent ownerId old)).map UsernameEvent.change) name =
      ((((listed id name new).filter fun entry => findEntry old name ≠ some entry.2).getLast?).map
        Prod.snd).or (known name) := by
  induction new using List.reverseRecOn with
  | nil => rfl
  | append_singleton new entry ih =>
      rw [List.filterMap_append, List.map_append, replayFrom_append, List.map_filterMap,
        List.map_filterMap]
      rw [List.map_filterMap] at ih
      simp only [List.filterMap_cons, List.filterMap_nil, change_changeEvent]
      simp only [change_changeEvent] at ih
      -- Only an event of this name counts, and an unchanged listing has none.
      by_cases same : entry.1 = name
      · subst same
        have snoc : listed id entry.1 (new ++ [entry]) = listed id entry.1 new ++ [entry] := by
          simp [listed]
        rw [snoc]
        by_cases held : findEntry old entry.1 = some entry.2
        · simpa [held, replayFrom] using ih
        · simp [held, replayFrom]
      · have snoc : listed id name (new ++ [entry]) = listed id name new := by
          simp [listed, same]
        rw [snoc]
        by_cases held : findEntry old entry.1 = some entry.2
        · simpa [held, replayFrom] using ih
        · simpa [held, replayFrom, Ne.symm same] using ih

/-- Replaying the removals deletes the visited names that are not listed. -/
theorem replayFrom_removals (ownerId : Int) (new old : List (String × Entry))
    (known : String → Option Entry) (name : String) :
    replayFrom known ((old.filterMap (removalEvent ownerId new)).map UsernameEvent.change) name =
      if name ∈ old.map Prod.fst ∧ findEntry new name = none then none else known name := by
  rw [List.map_filterMap]
  simp only [change_removalEvent]
  induction old generalizing known with
  | nil => simp [replayFrom]
  | cons entry rest ih =>
      cases kept : findEntry new entry.1 with
      | some place =>
          by_cases same : name = entry.1
          · subst same
            simp [kept, ih]
          · have member : name ∈ (entry :: rest).map Prod.fst ↔ name ∈ rest.map Prod.fst := by
              simp [same]
            simp only [member]
            simpa [kept] using ih known
      | none =>
          by_cases same : name = entry.1
          · subst same
            simp [kept, replayFrom, ih]
          · have member : name ∈ (entry :: rest).map Prod.fst ↔ name ∈ rest.map Prod.fst := by
              simp [same]
            simp only [member]
            simp only [List.filterMap_cons, kept, Option.isSome_none, Bool.false_eq_true,
              ↓reduceIte, replayFrom, ih, same]

/-- The replayed value of a name after its owner's sync: the last listing that
differs from what is held, or what is held; nothing for an unlisted name. -/
theorem replayed_own (order : MapOrder) (tables : UsernameTables collate) (snapshot : Snapshot)
    (name : String)
    (law : replayed tables snapshot.ownerId name = owned tables snapshot.ownerId name) :
    replayed (syncSnapshot order tables snapshot) snapshot.ownerId name =
      if listed id name snapshot.newList = [] then none
      else ((((listed id name snapshot.newList).filter fun entry =>
        owned tables snapshot.ownerId name ≠ some entry.2).getLast?).map Prod.snd).or
          (owned tables snapshot.ownerId name) := by
  have changed := replayFrom_changes snapshot.ownerId (oldMap tables snapshot.ownerId)
    snapshot.newList (replayed tables snapshot.ownerId) name
  rw [findEntry_oldMap, law] at changed
  have own : (syncEvents order tables snapshot).filter
      (fun event => event.ownerId = snapshot.ownerId) = syncEvents order tables snapshot := by
    apply List.filter_eq_self.mpr
    intro event member
    simpa using owner_syncEvents order tables snapshot event member
  rw [replayed, events_sync, List.filter_append, own, syncEvents, List.map_append,
    List.map_append, replay_append, replayFrom_append, replayFrom_removals]
  -- The removals visit the names held before, in whatever order.
  have visited : name ∈ (order.visit (oldMap tables snapshot.ownerId)).map Prod.fst ↔
      (owned tables snapshot.ownerId name).isSome := by
    rw [← findEntry_oldMap, findEntry_isSome]
    exact ((order.perm _).map Prod.fst).mem_iff
  by_cases unlisted : listed id name snapshot.newList = []
  · have missing : findEntry snapshot.newList name = none :=
      @findEntry_unlisted String _ id name snapshot.newList name rfl unlisted
    rw [if_pos unlisted]
    by_cases held : (owned tables snapshot.ownerId name).isSome
    · rw [if_pos ⟨visited.mpr held, missing⟩]
    · rw [if_neg (fun both => held (visited.mp both.1))]
      refine changed.trans ?_
      rw [Option.not_isSome_iff_eq_none.mp held, unlisted]
      rfl
  · have kept : findEntry snapshot.newList name ≠ none := by
      rw [← Option.isSome_iff_ne_none, findEntry_isSome]
      obtain ⟨entry, member⟩ := List.exists_mem_of_ne_nil _ unlisted
      have hit : entry ∈ snapshot.newList ∧ entry.1 = name := by simpa [listed] using member
      exact List.mem_map.mpr ⟨entry, hit⟩
    rw [if_neg unlisted, if_neg (fun both => kept both.2)]
    exact changed

/-- What another owner holds of a name after a sync. -/
theorem owned_other (order : MapOrder) (tables : UsernameTables collate) (snapshot : Snapshot)
    (ownerId : Int) (name : String) (other : snapshot.ownerId ≠ ownerId) :
    owned (syncSnapshot order tables snapshot) ownerId name =
      if Lists collate (collate name) snapshot then none else owned tables ownerId name := by
  by_cases unlisted : listed collate (collate name) snapshot.newList = []
  · have silent : ¬ Lists collate (collate name) snapshot := not_not.mpr unlisted
    rw [if_neg silent, owned, owned, lookup_sync, unlisted, settle]
    cases tables.lookup (collate name) with
    | none => rfl
    | some row =>
        by_cases own : row.ownerId = some snapshot.ownerId
        · simp [release, own, other]
        · simp [release, own]
  · obtain ⟨first, rest, occurrences⟩ := List.exists_cons_of_ne_nil unlisted
    have names : Lists collate (collate name) snapshot := unlisted
    rw [if_pos names, owned, lookup_sync, occurrences]
    simp [settle, other]

/-- What the owner holds of a name after its sync. -/
theorem owned_own (order : MapOrder) (tables : UsernameTables collate) (snapshot : Snapshot)
    (name : String) :
    owned (syncSnapshot order tables snapshot) snapshot.ownerId name =
      match listed collate (collate name) snapshot.newList with
      | [] => none
      | first :: rest =>
          if ((tables.lookup (collate name)).map UsernameRow.username).getD first.1 = name then
            some (rest.getLast?.getD first).2
          else none := by
  simp only [owned, lookup_sync]
  cases occurrences : listed collate (collate name) snapshot.newList with
  | cons first rest => simp [settle, UsernameRow.entry]
  | nil =>
      cases tables.lookup (collate name) with
      | none => rfl
      | some row =>
          by_cases own : row.ownerId = some snapshot.ownerId
          · simp [settle, release, own]
          · simp [settle, release, own]

theorem mem_listed (key : Key) (entries : List (String × Entry)) (entry : String × Entry) :
    entry ∈ listed collate key entries ↔ entry ∈ entries ∧ collate entry.1 = key := by
  simp [listed]

theorem listed_occurs (collate : String → Key) (entries : List (String × Entry))
    (entry : String × Entry) (member : entry ∈ entries) :
    ∃ first rest, listed collate (collate entry.1) entries = first :: rest :=
  List.exists_cons_of_ne_nil (List.ne_nil_of_mem ((mem_listed _ _ entry).mpr ⟨member, rfl⟩))

omit [DecidableEq Key] in
theorem mem_named (name : String) (entries : List (String × Entry)) (entry : String × Entry) :
    entry ∈ listed id name entries ↔ entry ∈ entries ∧ entry.1 = name :=
  @mem_listed String _ id name entries entry

theorem lists_iff (key : Key) (snapshot : Snapshot) :
    Lists collate key snapshot ↔ ∃ new ∈ snapshot.newList, collate new.1 = key := by
  simp [Lists, listed]

/-- Other owners keep their law exactly when none of their names is listed. -/
theorem other_laws (order : MapOrder) (tables : UsernameTables collate) (snapshot : Snapshot)
    (law : ∀ ownerId name, replayed tables ownerId name = owned tables ownerId name) :
    (∀ ownerId, snapshot.ownerId ≠ ownerId → ∀ name,
        replayed (syncSnapshot order tables snapshot) ownerId name =
          owned (syncSnapshot order tables snapshot) ownerId name) ↔
      ∀ new ∈ snapshot.newList, ∀ row, tables.lookup (collate new.1) = some row →
        row.ownerId = none ∨ row.ownerId = some snapshot.ownerId := by
  constructor
  · intro after new member row found
    cases held : row.ownerId with
    | none => exact Or.inl rfl
    | some holder =>
        by_contra foreign
        have other : snapshot.ownerId ≠ holder := by
          intro same
          exact foreign (Or.inr (by rw [same]))
        have key := spelled tables _ row found
        have names : Lists collate (collate row.username) snapshot :=
          (lists_iff _ snapshot).mpr ⟨new, member, key.symm⟩
        have before : owned tables holder row.username = some row.entry :=
          (owned_eq_some _ _ _ _).mpr ⟨row, by rw [key, found], held, rfl, rfl⟩
        -- The sync takes the name over but writes no event for its holder.
        have kept := after holder other row.username
        rw [replayed_other order tables snapshot holder other, law, before,
          owned_other order tables snapshot holder _ other, if_pos names] at kept
        cases kept
  · intro unowned ownerId other name
    rw [replayed_other order tables snapshot ownerId other, law,
      owned_other order tables snapshot ownerId name other]
    split
    · rename_i names
      obtain ⟨new, member, same⟩ := (lists_iff _ snapshot).mp names
      rw [← Option.not_isSome_iff_eq_none, Option.isSome_iff_exists]
      rintro ⟨entry, held⟩
      obtain ⟨row, found, owner, _⟩ := (owned_eq_some _ _ _ _).mp held
      rw [← same] at found
      rcases unowned new member row found with free | own
      · rw [owner] at free
        cases free
      · rw [owner] at own
        exact other (Option.some.inj own).symm
    · rfl

omit [DecidableEq Key] in
/-- Among places that never repeat, the last one that differs from what is held
is the last of all, unless that one is held and others stand before it. -/
theorem last_differing (occurrences : List (String × Entry)) (held : Option Entry)
    (places : (occurrences.map Prod.snd).Nodup) (some_listed : occurrences ≠ []) :
    (((occurrences.filter fun entry => held ≠ some entry.2).getLast?).map Prod.snd).or held =
        occurrences.getLast?.map Prod.snd ↔
      (1 < occurrences.length → held ≠ occurrences.getLast?.map Prod.snd) := by
  rcases List.eq_nil_or_concat occurrences with rfl | ⟨front, last, rfl⟩
  · exact absurd rfl some_listed
  · rw [List.concat_eq_append] at places ⊢
    rw [List.map_append, List.nodup_append] at places
    by_cases holds : held = some last.2
    · have others : front.filter (fun entry => held ≠ some entry.2) = front := by
        apply List.filter_eq_self.mpr
        intro entry member
        have differs := places.2.2 entry.2 (List.mem_map_of_mem member) last.2 (by simp)
        simp [holds, Ne.symm differs]
      have whole : (front ++ [last]).filter (fun entry => held ≠ some entry.2) = front := by
        rw [List.filter_append, others]
        simp [holds]
      rw [whole]
      rcases List.eq_nil_or_concat front with rfl | ⟨start, previous, rfl⟩
      · simp [holds]
      · rw [List.concat_eq_append] at places ⊢
        have differs := places.2.2 previous.2 (by simp) last.2 (by simp)
        simp [holds, differs]
    · simp [holds]

omit [DecidableEq Key] in
theorem last_differing_isSome (occurrences : List (String × Entry)) (held : Option Entry)
    (some_listed : occurrences ≠ []) :
    ((((occurrences.filter fun entry => held ≠ some entry.2).getLast?).map Prod.snd).or
      held).isSome := by
  cases held with
  | some entry => simp
  | none => simpa [List.getLast?_isSome] using some_listed

/-- In one spelling per name, the column and the byte maps see the same
occurrences. -/
theorem listed_spelling (snapshot : Snapshot) (name : String)
    (variants : ∀ left ∈ snapshot.newList, ∀ right ∈ snapshot.newList,
      collate left.1 = collate right.1 → left.1 = right.1)
    (some_listed : listed id name snapshot.newList ≠ []) :
    listed collate (collate name) snapshot.newList = listed id name snapshot.newList := by
  obtain ⟨new, member⟩ := List.exists_mem_of_ne_nil _ some_listed
  obtain ⟨held, rfl⟩ := (mem_named name _ new).mp member
  apply List.filter_congr
  intro entry entryMember
  simp only [id, decide_eq_decide]
  constructor
  · exact variants entry entryMember new held
  · intro same
    exact congrArg collate same

/-- Where the log replays to what is owned, the row of a listed name carries the
name as it is listed: its key is owned under no other spelling. -/
theorem stored_spelling (order : MapOrder) (tables : UsernameTables collate) (snapshot : Snapshot)
    (law : ∀ name, replayed tables snapshot.ownerId name = owned tables snapshot.ownerId name)
    (after : ∀ name, replayed (syncSnapshot order tables snapshot) snapshot.ownerId name =
      owned (syncSnapshot order tables snapshot) snapshot.ownerId name)
    (new : String × Entry) (member : new ∈ snapshot.newList) (first : String × Entry)
    (rest : List (String × Entry))
    (occurrences : listed collate (collate new.1) snapshot.newList = first :: rest) :
    ((tables.lookup (collate new.1)).map UsernameRow.username).getD first.1 = new.1 := by
  have some_listed : listed id new.1 snapshot.newList ≠ [] :=
    List.ne_nil_of_mem ((mem_named _ _ new).mpr ⟨member, rfl⟩)
  have value := after new.1
  rw [replayed_own order tables snapshot new.1 (law new.1), if_neg some_listed, owned_own,
    occurrences] at value
  -- Under another spelling nothing is owned, but the log still replays to a place.
  by_contra differs
  simp only [if_neg differs] at value
  have present := last_differing_isSome (listed id new.1 snapshot.newList)
    (owned tables snapshot.ownerId new.1) some_listed
  rw [value] at present
  cases present

/-- The owner keeps its law exactly under the other three conditions. -/
theorem own_law (order : MapOrder) (tables : UsernameTables collate) (snapshot : Snapshot)
    (law : ∀ name, replayed tables snapshot.ownerId name = owned tables snapshot.ownerId name) :
    (∀ name, replayed (syncSnapshot order tables snapshot) snapshot.ownerId name =
        owned (syncSnapshot order tables snapshot) snapshot.ownerId name) ↔
      (∀ new ∈ snapshot.newList, ∀ row, tables.lookup (collate new.1) = some row →
        row.username = new.1) ∧
      (∀ left ∈ snapshot.newList, ∀ right ∈ snapshot.newList,
        collate left.1 = collate right.1 → left.1 = right.1) ∧
      (∀ name, 1 < (listed id name snapshot.newList).length →
        owned tables snapshot.ownerId name ≠
          (listed id name snapshot.newList).getLast?.map Prod.snd) := by
  have places (name : String) : ((listed id name snapshot.newList).map Prod.snd).Nodup :=
    (newList_places snapshot).sublist (List.filter_sublist.map _)
  constructor
  · intro after
    have stored := stored_spelling order tables snapshot law after
    have variants : ∀ left ∈ snapshot.newList, ∀ right ∈ snapshot.newList,
        collate left.1 = collate right.1 → left.1 = right.1 := by
      intro left leftMember right rightMember same
      obtain ⟨first, rest, occurrences⟩ := listed_occurs collate _ left leftMember
      have leftName := stored left leftMember first rest occurrences
      rw [same] at occurrences leftName
      exact leftName.symm.trans (stored right rightMember first rest occurrences)
    refine ⟨?_, variants, ?_⟩
    · intro new member row found
      obtain ⟨first, rest, occurrences⟩ := listed_occurs collate _ new member
      simpa [found] using stored new member first rest occurrences
    · intro name several
      have some_listed : listed id name snapshot.newList ≠ [] := by
        intro none
        simp [none] at several
      obtain ⟨new, member⟩ := List.exists_mem_of_ne_nil _ some_listed
      obtain ⟨held, rfl⟩ := (mem_named name _ new).mp member
      obtain ⟨first, rest, occurrences⟩ := listed_occurs collate _ new held
      have value := after new.1
      rw [replayed_own order tables snapshot new.1 (law new.1), if_neg some_listed, owned_own,
        occurrences] at value
      simp only [stored new held first rest occurrences, ↓reduceIte] at value
      have lastListed : (listed id new.1 snapshot.newList).getLast?.map Prod.snd =
          some (rest.getLast?.getD first).2 := by
        rw [← listed_spelling snapshot new.1 variants some_listed, occurrences,
          List.getLast?_cons]
        rfl
      -- With several listings the log ends at the last one that differs from what was held.
      have equal := value.trans lastListed.symm
      exact (last_differing _ _ (places new.1) some_listed).mp equal several
  · rintro ⟨spelling, variants, repeats⟩ name
    rw [replayed_own order tables snapshot name (law name), owned_own]
    have stored (first : String × Entry) (member : first ∈ snapshot.newList)
        (same : collate first.1 = collate name) :
        ((tables.lookup (collate name)).map UsernameRow.username).getD first.1 = first.1 := by
      rw [← same]
      cases found : tables.lookup (collate first.1) with
      | none => rfl
      | some row => exact spelling first member row found
    by_cases unlisted : listed id name snapshot.newList = []
    · rw [if_pos unlisted]
      cases occurrences : listed collate (collate name) snapshot.newList with
      | nil => rfl
      | cons first rest =>
          have member := (mem_listed (collate name) _ first).mp
            (occurrences ▸ List.mem_cons_self)
          have differs : first.1 ≠ name :=
            (@listed_eq_nil String _ id name _).mp unlisted first member.1
          simp only [stored first member.1 member.2, if_neg differs]
    · rw [if_neg unlisted, listed_spelling snapshot name variants unlisted]
      obtain ⟨first, rest, occurrences⟩ := List.exists_cons_of_ne_nil unlisted
      obtain ⟨member, rfl⟩ := (mem_named name _ first).mp
        (occurrences ▸ List.mem_cons_self)
      have last := (last_differing _ (owned tables snapshot.ownerId first.1)
        (places first.1) unlisted).mpr (repeats first.1)
      rw [last, occurrences]
      simp only [stored first member rfl, ↓reduceIte, List.getLast?_cons, Option.map_some]

/-- One sync keeps the audit log exact exactly when the log can follow it. -/
theorem followed_exact (order : MapOrder) (tables : UsernameTables collate) (snapshot : Snapshot)
    (law : ReplaysToOwned tables) :
    ReplaysToOwned (syncSnapshot order tables snapshot) ↔ Followed tables snapshot := by
  rw [replaysToOwned_iff] at law ⊢
  have others := other_laws order tables snapshot law
  have own := own_law order tables snapshot (law snapshot.ownerId)
  constructor
  · intro after
    obtain ⟨spelling, variants, repeats⟩ := own.mp (after snapshot.ownerId)
    exact ⟨others.mp fun ownerId _ => after ownerId, spelling, variants, repeats⟩
  · intro followed ownerId name
    by_cases same : snapshot.ownerId = ownerId
    · subst same
      exact own.mpr ⟨followed.spelling, followed.variants, followed.repeats⟩ name
    · exact others.mpr followed.unowned ownerId same name

theorem replaysToOwned_empty : ReplaysToOwned (UsernameTables.empty : UsernameTables collate) := by
  rw [replaysToOwned_iff]
  intro ownerId name
  rfl

/-- Over every run of user upserts, and of group upserts, the audit log replays
to the owned usernames all along exactly when it can follow every upsert. -/
theorem username_replay_exact (collate : String → Key) (order : MapOrder) :
    (∀ us : List User,
      EveryState (upsertUser order) (UserTables.empty : UserTables collate)
          (fun tables => ReplaysToOwned tables.usernames) us ↔
        EveryStep (upsertUser order) (UserTables.empty : UserTables collate)
          (fun tables u => Followed tables.usernames u.snapshot) us) ∧
    (∀ gs : List Group,
      EveryState (upsertGroup order) (GroupRows.empty : GroupRows collate)
          (fun tables => ReplaysToOwned tables.usernames) gs ↔
        EveryStep (upsertGroup order) (GroupRows.empty : GroupRows collate)
          (fun tables g => Followed tables.usernames g.snapshot) gs) := by
  constructor
  · apply everyState_iff_everyStep
    · exact replaysToOwned_empty
    · intro tables u law
      rw [usernames_upsertUser]
      exact followed_exact order tables.usernames u.snapshot law
  · apply everyState_iff_everyStep
    · exact replaysToOwned_empty
    · intro tables g law
      rw [usernames_upsertGroup]
      exact followed_exact order tables.usernames g.snapshot law

end

/-- A username that user 2 takes over: user 1's log still holds it. -/
theorem transfer_leaves_stale_log :
    let us : List User :=
      [{ id := 1, activeUsernames := ["alice"] }, { id := 2, activeUsernames := ["alice"] }]
    let tables : UserTables foldCase := userStore insertionOrder us
    replayed tables.usernames 1 "alice" = some ⟨.active, 0⟩ ∧
      (tables.usernames.lookup (foldCase "alice")).map UsernameRow.ownerId = some (some 2) ∧
      ¬ ReplaysToOwned tables.usernames := by
  intro us tables
  have log : replayed tables.usernames 1 "alice" = some ⟨.active, 0⟩ := by decide
  have holders : tables.usernames.usernames.rows.map UsernameRow.ownerId = [some 2] := by decide
  refine ⟨log, by decide, ?_⟩
  intro law
  obtain ⟨row, member, owner, _⟩ := (law 1 "alice" ⟨.active, 0⟩).mp log
  have held := List.mem_map_of_mem (f := UsernameRow.ownerId) member
  rw [holders, owner] at held
  simp at held

end TgLoggerd

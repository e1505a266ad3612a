import Mathlib.Algebra.BigOperators.Fin
import Mathlib.Algebra.Order.BigOperators.Group.Finset
import TgLoggerd.FileStore
import TgLoggerd.SerialRun
import TgLoggerd.Threads
import TgLoggerd.Usernames

/-!
`upsertFile` transactions for one digest, each on its own connection, in any
order of their statements. A SELECT reads what was committed before it. A write
to the digest's row waits while another transaction has written it and not
committed. A refused statement rolls its transaction back.
-/

namespace TgLoggerd

open Function KeyedTable SerialRun

section

variable {Key : Type}

/-- How far a transaction got. What it wrote stands in a table of its own until
the COMMIT. -/
inductive Phase (collate : String → Key) where
  | ready
  | selected (found : Option Nat)
  | wrote (id : Nat) (table : FileTable collate)
  | finished (result : Except DbError Nat)

variable {collate : String → Key} {n : Nat}

def Phase.writes : Phase collate → Bool
  | .wrote _ _ => true
  | _ => false

/-- Statements still to come. -/
def Phase.remaining : Phase collate → Nat
  | .ready => 3
  | .selected _ => 2
  | .wrote _ _ => 1
  | .finished _ => 0

def Phase.ended : Phase collate → Nat
  | .finished _ => 1
  | _ => 0

def Phase.refusal : Phase collate → Option DbError
  | .finished (.error refused) => some refused
  | _ => none

structure Race (collate : String → Key) (n : Nat) where
  committed : FileTable collate
  phases : Fin n → Phase collate

def raceStart (table : FileTable collate) : Race collate n := ⟨table, fun _ => .ready⟩

def Race.locked (race : Race collate n) : Bool := decide (∃ i, (race.phases i).writes)

def Race.enter (race : Race collate n) (i : Fin n) (phase : Phase collate) : Race collate n :=
  { race with phases := update race.phases i phase }

/-- The hit count of a digest. -/
def hits (table : FileTable collate) (digest : Digest) : Nat :=
  ((table.lookup digest).map FileRow.hitCount).getD 0

/-- The UPDATE of a row the SELECT found, or the INSERT after it found none. -/
def writeStatement [DecidableEq Key] (f : File) (race : Race collate n) (i : Fin n) :
    Option Nat → Race collate n
  | some id =>
      match updateFile race.committed f id with
      | (.ok _, table) => race.enter i (.wrote id table)
      | (.error refused, _) => race.enter i (.finished (.error refused))
  | none =>
      match insertFile race.committed f with
      | (.ok id, table) => race.enter i (.wrote id table)
      | (.error refused, table) =>
          { race.enter i (.finished (.error refused)) with committed := table }

/-- The next statement of a transaction. -/
def raceStep [DecidableEq Key] (digest : Digest) (downloads : Fin n → Download)
    (race : Race collate n) (i : Fin n) : Race collate n :=
  match race.phases i with
  | .ready => race.enter i (.selected (selectFile race.committed (fileOf digest (downloads i))))
  | .selected found =>
      if race.locked then race else writeStatement (fileOf digest (downloads i)) race i found
  | .wrote id table => { race.enter i (.finished (.ok id)) with committed := table }
  | .finished _ => race

/-- Every finished call succeeded with the id of the only row of the digest,
which counts the finished calls, and every call can still finish. -/
structure Agreed [DecidableEq Key] (start : FileTable collate) (digest : Digest)
    (downloads : Fin n → Download) (race : Race collate n) : Prop where
  succeeds : ∀ i result, race.phases i = .finished result →
    ∃ row, race.committed.rows.filter (fun row => row.sha256 = digest) = [row] ∧
      result = .ok row.id
  counted : ∀ row ∈ race.committed.rows, row.sha256 = digest →
    row.hitCount = hits start digest + ∑ i, (race.phases i).ended
  completes : ∃ rest, ∀ i, ∃ result,
    (run (raceStep digest downloads) race rest).phases i = .finished result

/-- What the table demands of a write: an INSERT finds no row of its digest and
what else it needs, an UPDATE finds room for a hit and for the name. -/
def Writable [DecidableEq Key] (table : FileTable collate) (digest : Digest) (d : Download) :
    Option Nat → Prop
  | some id => ∀ row ∈ table.rows, row.id = id → row.hitCount < maxHitCount ∧
      (filledName collate row.origFileName d.origFileName).isSome
  | none => table.lookup digest = none ∧ RemoteUnused table d ∧ Fits d

/-- Whenever a write is executed, the committed rows allow it. -/
def Admitted [DecidableEq Key] (digest : Digest) (downloads : Fin n → Download)
    (race : Race collate n) (i : Fin n) : Prop :=
  ∀ found, race.phases i = .selected found → race.locked = false →
    Writable race.committed digest (downloads i) found

/-- The digest has its row under this id. -/
def Stands (table : FileTable collate) (digest : Digest) (id : Nat) : Prop :=
  ∃ row, table.lookup digest = some row ∧ row.id = id

/-- What a transaction that got so far knows of the committed rows. -/
def PhaseSound (committed : FileTable collate) (digest : Digest) : Phase collate → Prop
  | .ready => True
  | .selected none => True
  | .selected (some id) => Stands committed digest id
  | .wrote id table => Stands table digest id ∧ hits table digest = hits committed digest + 1 ∧
      ∀ other, Stands committed digest other → other = id
  | .finished (.ok id) => Stands committed digest id
  | .finished (.error _) => True

/-- One call that ended well is one hit. -/
def Phase.succeeded : Phase collate → Nat
  | .finished (.ok _) => 1
  | _ => 0

structure RaceSound (start : FileTable collate) (digest : Digest) (race : Race collate n) :
    Prop where
  phases : ∀ i, PhaseSound race.committed digest (race.phases i)
  single : ∀ i j, (race.phases i).writes → (race.phases j).writes → i = j
  counted : hits race.committed digest = hits start digest + ∑ i, (race.phases i).succeeded

/-- A transaction that wrote nothing yet keeps what it knows while the row keeps
its id. -/
theorem phaseSound_transfer (before after : FileTable collate) (digest : Digest)
    (phase : Phase collate) (keeps : ∀ id, Stands before digest id → Stands after digest id)
    (reads : phase.writes = false) (sound : PhaseSound before digest phase) :
    PhaseSound after digest phase := by
  cases phase with
  | ready => trivial
  | selected found =>
      cases found with
      | none => trivial
      | some id => exact keeps id sound
  | wrote id table => cases reads
  | finished result =>
      cases result with
      | error refused => trivial
      | ok id => exact keeps id sound

/-- A transaction moves on while the committed rows stay. -/
theorem sound_enter (start : FileTable collate) (digest : Digest) (race : Race collate n)
    (i : Fin n) (phase : Phase collate) (sound : RaceSound start digest race)
    (next : PhaseSound race.committed digest phase)
    (free : phase.writes → race.locked = false)
    (same : phase.succeeded = (race.phases i).succeeded) :
    RaceSound start digest (race.enter i phase) := by
  constructor
  · intro j
    by_cases own : j = i
    · subst own
      simpa [Race.enter] using next
    · simpa [Race.enter, own] using sound.phases j
  · have quiet (j : Fin n) (writes : phase.writes) : ¬ (race.phases j).writes := by
      have none := free writes
      rw [Race.locked, decide_eq_false_iff_not] at none
      exact fun busy => none ⟨j, busy⟩
    intro j k jWrites kWrites
    by_cases jOwn : j = i <;> by_cases kOwn : k = i
    · exact jOwn.trans kOwn.symm
    · simp only [Race.enter, jOwn, update_self, update_of_ne kOwn] at jWrites kWrites
      exact absurd kWrites (quiet k jWrites)
    · simp only [Race.enter, kOwn, update_self, update_of_ne jOwn] at jWrites kWrites
      exact absurd jWrites (quiet j kWrites)
    · simp only [Race.enter, update_of_ne jOwn, update_of_ne kOwn] at jWrites kWrites
      exact sound.single j k jWrites kWrites
  · have total := Threads.total_move Phase.succeeded race.phases i phase
    simp only [Threads.total] at total
    have counted := sound.counted
    simp only [Race.enter]
    omega

theorem refusal_iff (phase : Phase collate) :
    phase.refusal = none ↔ ∀ refused, phase ≠ .finished (.error refused) := by
  cases phase with
  | finished result => cases result <;> simp [Phase.refusal]
  | _ => simp [Phase.refusal]

theorem lookup_same_rows (before after : FileTable collate) (same : after.rows = before.rows)
    (digest : Digest) : after.lookup digest = before.lookup digest := by
  rw [Table.lookup, same]
  rfl

/-- A number that a refused INSERT used up changes nothing a call knows. -/
theorem sound_burn (start : FileTable collate) (digest : Digest) (race : Race collate n)
    (after : FileTable collate) (same : after.rows = race.committed.rows)
    (sound : RaceSound start digest race) :
    RaceSound start digest { race with committed := after } := by
  have found := lookup_same_rows race.committed after same digest
  have stands (id : Nat) : Stands after digest id ↔ Stands race.committed digest id := by
    rw [Stands, found]
    rfl
  have hit : hits after digest = hits race.committed digest := by rw [hits, found]; rfl
  constructor
  · intro j
    have known := sound.phases j
    cases phase : race.phases j with
    | wrote id table =>
        rw [phase] at known
        obtain ⟨own, more, only⟩ := known
        exact ⟨own, by rw [hit]; exact more, fun other held => only other ((stands other).mp held)⟩
    | _ =>
        rw [phase] at known
        exact phaseSound_transfer race.committed after digest _ (fun id => (stands id).mpr) rfl
          known
  · exact sound.single
  · exact hit.trans sound.counted

/-- A COMMIT makes the row of its table the row of the digest. -/
theorem sound_commit (start : FileTable collate) (digest : Digest) (race : Race collate n)
    (i : Fin n) (id : Nat) (table : FileTable collate) (wrote : race.phases i = .wrote id table)
    (sound : RaceSound start digest race) :
    RaceSound start digest
      { race.enter i (.finished (.ok id)) with committed := table } := by
  have own := sound.phases i
  rw [wrote] at own
  obtain ⟨stands, more, only⟩ := own
  have quiet (j : Fin n) (other : j ≠ i) : (race.phases j).writes = false := by
    rw [Bool.eq_false_iff]
    intro writes
    exact other (sound.single j i writes (by rw [wrote]; rfl))
  constructor
  · intro j
    by_cases same : j = i
    · subst same
      simpa [Race.enter, PhaseSound] using stands
    · simp only [Race.enter, update_of_ne same]
      apply phaseSound_transfer race.committed table digest _ _ (quiet j same) (sound.phases j)
      intro other held
      exact only other held ▸ stands
  · intro j k jWrites kWrites
    by_cases jOwn : j = i
    · simp [Race.enter, jOwn, Phase.writes] at jWrites
    · simp [Race.enter, jOwn, quiet j jOwn] at jWrites
  · have total := Threads.total_move Phase.succeeded race.phases i (.finished (.ok id))
    simp only [Threads.total] at total
    have counted := sound.counted
    have before : (race.phases i).succeeded = 0 := by rw [wrote]; rfl
    have after : (Phase.finished (.ok id) : Phase collate).succeeded = 1 := rfl
    simp only [Race.enter, more]
    omega

theorem stands_iff (table : FileTable collate) (digest : Digest) (id : Nat) :
    Stands table digest id ↔ (table.lookup digest).map FileRow.id = some id := by
  rw [Stands, Option.map_eq_some_iff]

section

variable [DecidableEq Key] (digest : Digest) (downloads : Fin n → Download)

/-- A write of what its SELECT found is done exactly if the table allows it, and
is otherwise the end of its call. -/
theorem write_cases (race : Race collate n) (i : Fin n) (found : Option Nat)
    (known : PhaseSound race.committed digest (.selected found)) :
    (∃ id table, writeStatement (fileOf digest (downloads i)) race i found =
        race.enter i (.wrote id table) ∧
      PhaseSound race.committed digest (.wrote id table) ∧
      Writable race.committed digest (downloads i) found) ∨
    (∃ refused after, writeStatement (fileOf digest (downloads i)) race i found =
        { race.enter i (.finished (.error refused)) with committed := after } ∧
      after.rows = race.committed.rows ∧
      ¬ Writable race.committed digest (downloads i) found) := by
  cases found with
  | some id =>
      obtain ⟨row, held, rfl⟩ := known
      have member := ((race.committed.lookup_some_iff digest row).mp held).1
      simp only [writeStatement]
      rcases updateFile_cases race.committed digest (downloads i) row member with
        ⟨name, updated, room, filled⟩ | ⟨refused, failed, noRoom⟩
      · rw [updated]
        refine Or.inl ⟨_, _, rfl, ⟨⟨{ row with hitCount := row.hitCount + 1, origFileName := name },
          ?_, rfl⟩, ?_, ?_⟩, ?_⟩
        · simp [FileTable.lookup_hit, held]
        · simp [hits, FileTable.lookup_hit, held]
        · rintro other ⟨same, found, rfl⟩
          rw [held] at found
          cases found
          rfl
        · intro same sameHeld ids
          obtain rfl := race.committed.same_ident_same_row same row sameHeld member ids
          exact ⟨room, by rw [filled]; rfl⟩
      · rw [failed]
        exact Or.inr ⟨refused, race.committed, rfl, rfl, fun all => noRoom (all row member rfl)⟩
  | none =>
      simp only [writeStatement]
      rcases insertFile_cases race.committed digest (downloads i) with
        ⟨fresh, newDigest, newRemote, inserted, own, once, _, _, absent, unused, fits⟩ |
        ⟨refused, after, failed, same, against⟩
      · rw [inserted]
        have added := race.committed.lookup_add fresh newDigest newRemote digest
        rw [if_pos own] at added
        refine Or.inl ⟨_, _, rfl, ⟨⟨_, added, rfl⟩, ?_, ?_⟩, absent, unused, fits⟩
        · simp [hits, added, absent, once]
        · rintro other ⟨row, held, _⟩
          rw [absent] at held
          cases held
      · rw [failed]
        exact Or.inr ⟨refused, after, rfl, same, against⟩

theorem sound_step (start : FileTable collate) (race : Race collate n) (i : Fin n)
    (sound : RaceSound start digest race) :
    RaceSound start digest (raceStep digest downloads race i) := by
  have known := sound.phases i
  simp only [raceStep]
  cases phase : race.phases i with
  | ready =>
      apply sound_enter start digest race i _ sound
      · rw [selectFile_fileOf]
        cases found : (race.committed.lookup digest).map FileRow.id with
        | none => trivial
        | some id => exact (stands_iff race.committed digest id).mpr found
      · intro writes
        cases writes
      · rw [phase]
        rfl
  | selected found =>
      by_cases locked : race.locked
      · simpa [locked] using sound
      · simp only [locked, Bool.false_eq_true, ↓reduceIte]
        have free : race.locked = false := Bool.eq_false_iff.mpr locked
        rw [phase] at known
        rcases write_cases digest downloads race i found known with
          ⟨id, table, written, knows, _⟩ | ⟨refused, after, failed, same, _⟩
        · rw [written]
          exact sound_enter start digest race i _ sound knows (fun _ => free) (by rw [phase]; rfl)
        · rw [failed]
          refine sound_burn start digest (race.enter i (.finished (.error refused))) after same ?_
          exact sound_enter start digest race i _ sound trivial (fun _ => free) (by rw [phase]; rfl)
  | wrote id table => exact sound_commit start digest race i id table phase sound
  | finished result => exact sound

/-- A statement that neither waits nor has ended brings its transaction on. -/
theorem remaining_step (start : FileTable collate) (race : Race collate n) (i : Fin n)
    (sound : RaceSound start digest race) (unended : (race.phases i).remaining ≠ 0)
    (free : ∀ found, race.phases i = .selected found → race.locked = false) :
    ∑ j, ((raceStep digest downloads race i).phases j).remaining <
      ∑ j, (race.phases j).remaining := by
  have moved (phase : Phase collate) (less : phase.remaining < (race.phases i).remaining) :
      ∑ j, (update race.phases i phase j).remaining < ∑ j, (race.phases j).remaining := by
    have total := Threads.total_move Phase.remaining race.phases i phase
    simp only [Threads.total] at total
    omega
  have known := sound.phases i
  simp only [raceStep]
  cases phase : race.phases i with
  | ready => exact moved _ (by rw [phase]; simp [Phase.remaining])
  | selected found =>
      rw [phase] at known
      simp only [free found phase, Bool.false_eq_true, ↓reduceIte]
      rcases write_cases digest downloads race i found known with
        ⟨id, table, written, _⟩ | ⟨refused, after, failed, _⟩
      · rw [written]
        exact moved _ (by rw [phase]; simp [Phase.remaining])
      · rw [failed]
        exact moved _ (by rw [phase]; simp [Phase.remaining])
  | wrote id table => exact moved _ (by rw [phase]; simp [Phase.remaining])
  | finished result => simp [phase, Phase.remaining] at unended

/-- Nothing waits for ever: some transaction can always be brought on. -/
theorem race_completes (start : FileTable collate) (left : Nat) (race : Race collate n)
    (sound : RaceSound start digest race) (bound : ∑ j, (race.phases j).remaining ≤ left) :
    ∃ rest, ∀ i, ∃ result,
      (run (raceStep digest downloads) race rest).phases i = .finished result := by
  induction left generalizing race with
  | zero =>
      refine ⟨[], fun i => ?_⟩
      have single := Finset.single_le_sum (f := fun j => (race.phases j).remaining)
        (fun j _ => Nat.zero_le _) (Finset.mem_univ i)
      have none : (race.phases i).remaining = 0 := by omega
      rw [run_nil]
      cases phase : race.phases i with
      | finished result => exact ⟨result, rfl⟩
      | _ =>
          rw [phase] at none
          cases none
  | succ left ih =>
      by_cases ended : ∀ i, (race.phases i).remaining = 0
      · exact ih race sound (by simp [ended])
      · -- The writer goes first; without one any transaction may.
        obtain ⟨i, unended, free⟩ : ∃ i, (race.phases i).remaining ≠ 0 ∧
            ∀ found, race.phases i = .selected found → race.locked = false := by
          by_cases locked : race.locked
          · obtain ⟨i, writes⟩ := of_decide_eq_true locked
            refine ⟨i, ?_, ?_⟩
            · cases phase : race.phases i <;> simp_all [Phase.writes, Phase.remaining]
            · intro found selected
              rw [selected] at writes
              cases writes
          · obtain ⟨i, unended⟩ := not_forall.mp ended
            exact ⟨i, unended, fun _ _ => Bool.eq_false_iff.mpr locked⟩
        have less := remaining_step digest downloads start race i sound unended free
        obtain ⟨rest, done⟩ := ih (raceStep digest downloads race i)
          (sound_step digest downloads start race i sound) (by omega)
        exact ⟨i :: rest, done⟩

/-- All agree exactly as long as no call was refused. -/
theorem agreed_iff (start : FileTable collate) (race : Race collate n)
    (sound : RaceSound start digest race) :
    Agreed start digest downloads race ↔ ∀ i, (race.phases i).refusal = none := by
  constructor
  · intro agreed i
    rw [refusal_iff]
    intro refused failed
    obtain ⟨row, _, result⟩ := agreed.succeeds i _ failed
    cases result
  · intro none
    have ended (i : Fin n) : (race.phases i).ended = (race.phases i).succeeded := by
      have accepted := none i
      cases phase : race.phases i with
      | finished result =>
          cases result with
          | ok id => rfl
          | error refused => simp [phase, Phase.refusal] at accepted
      | _ => rfl
    refine ⟨?_, ?_, race_completes digest downloads start _ race sound le_rfl⟩
    · intro i result finished
      have known := sound.phases i
      rw [finished] at known
      cases result with
      | error refused =>
          have accepted := none i
          rw [finished] at accepted
          cases accepted
      | ok id =>
          obtain ⟨row, held, rfl⟩ := known
          refine ⟨row, ?_, rfl⟩
          have only := race.committed.filter_emitted some FileRow.sha256
            (fun row out same => by cases same; rfl) digest
          rw [List.filterMap_some, held] at only
          exact only
    · intro row member own
      have held := (race.committed.lookup_some_iff digest row).mpr ⟨member, own⟩
      have counted := sound.counted
      simp only [hits, held, Option.map_some, Option.getD_some] at counted
      rw [Finset.sum_congr rfl fun i _ => ended i]
      exact counted

/-- A statement refuses no call exactly if the committed rows admit it. -/
theorem unrefused_step (start : FileTable collate) (race : Race collate n) (i : Fin n)
    (sound : RaceSound start digest race) (before : ∀ j, (race.phases j).refusal = none) :
    (∀ j, ((raceStep digest downloads race i).phases j).refusal = none) ↔
      Admitted digest downloads race i := by
  have moved (phase : Phase collate) (fine : phase.refusal = none) :
      ∀ j, (update race.phases i phase j).refusal = none := by
    intro j
    by_cases own : j = i
    · simp [own, fine]
    · simp [own, before j]
  have known := sound.phases i
  simp only [raceStep, Admitted]
  cases phase : race.phases i with
  | ready => simpa [Race.enter] using moved (.selected (selectFile race.committed _)) rfl
  | selected found =>
      rw [phase] at known
      simp only [Phase.selected.injEq, forall_eq']
      by_cases locked : race.locked
      · simpa [locked] using before
      · simp only [locked, Bool.false_eq_true, ↓reduceIte, forall_const]
        rcases write_cases digest downloads race i found known with
          ⟨id, table, written, _, writable⟩ | ⟨refused, after, failed, _, against⟩
        · rw [written]
          exact iff_of_true (moved _ rfl) writable
        · rw [failed]
          refine iff_of_false (fun all => ?_) against
          have own := all i
          simp [Race.enter, Phase.refusal] at own
  | wrote id table => simpa [Race.enter] using moved (.finished (.ok id)) rfl
  | finished result => simpa using before

/-- Exactly the schedules in which every write is admitted make all calls agree. -/
theorem concurrent_calls_agree (start : FileTable collate) (schedule : List (Fin n)) :
    EveryState (raceStep digest downloads) (raceStart start)
        (Agreed start digest downloads) schedule ↔
      EveryStep (raceStep digest downloads) (raceStart start)
        (Admitted digest downloads) schedule := by
  have sound : RaceSound start digest (raceStart start : Race collate n) := by
    constructor
    · exact fun i => trivial
    · intro i j writes
      cases writes
    · simp [raceStart, Phase.succeeded]
  apply everyState_iff_everyStep_of_invariant _ _ (RaceSound start digest)
  · exact sound
  · exact (agreed_iff digest downloads start _ sound).mpr fun i => rfl
  · exact fun race i held => sound_step digest downloads start race i held
  · intro race i held agreed
    rw [agreed_iff digest downloads start _ (sound_step digest downloads start race i held)]
    rw [agreed_iff digest downloads start race held] at agreed
    exact unrefused_step digest downloads start race i held agreed

end

end

/-- The same new file downloaded twice. -/
def sameContent (i : Fin 2) : Download :=
  { localPath := "photos/1.jpg"
    tgFileId := if i = 0 then "first" else "second"
    fileSize := 10
    fileType := .photo }

/-- Both transactions select before either inserts. -/
def bothSelect : List (Fin 2) := [0, 1, 0, 0, 1]

theorem second_insert_refused :
    ¬ EveryState (raceStep ⟨List.replicate 32 0, rfl⟩ sameContent)
        (raceStart (FileTable.empty : FileTable foldCase))
        (Agreed FileTable.empty ⟨List.replicate 32 0, rfl⟩ sameContent) bothSelect := by
  intro every
  have law := everyState_last _ _ _ _ every
  have refused : ((run (raceStep ⟨List.replicate 32 0, rfl⟩ sameContent)
      (raceStart (FileTable.empty : FileTable foldCase)) bothSelect).phases 1).refusal =
      some (.duplicateEntry .sha256) := by decide
  cases phase : (run (raceStep ⟨List.replicate 32 0, rfl⟩ sameContent)
      (raceStart (FileTable.empty : FileTable foldCase)) bothSelect).phases 1 with
  | finished result =>
      obtain ⟨row, _, rfl⟩ := law.succeeds 1 result phase
      rw [phase] at refused
      cases refused
  | _ =>
      rw [phase] at refused
      cases refused

end TgLoggerd

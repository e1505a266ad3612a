import TgLoggerd.FileStore
import TgLoggerd.SerialRun
import TgLoggerd.Usernames

/-!
Serial sequences of `storeDownloadedFile` calls whose hashing and copying
succeed, from an empty files table.
-/

namespace TgLoggerd

open KeyedTable SerialRun

/-- A call with the digest of the file it is given. -/
structure StoreCall where
  digest : Digest
  download : Download
  deriving DecidableEq, Repr

section

variable {Key : Type} {collate : String → Key}

/-- The table, and the calls made so far with what each returned. -/
structure Filing (collate : String → Key) where
  table : FileTable collate
  calls : List (StoreCall × Except DbError (Option Nat))

def Filing.initial : Filing collate := ⟨FileTable.empty, []⟩

/-- The first name that is not empty. -/
def firstNonEmpty : List String → String
  | [] => ""
  | name :: rest => if name = "" then firstNonEmpty rest else name

/-- The names supplied for a digest, in order. -/
def suppliedNames (calls : List (StoreCall × Except DbError (Option Nat))) (digest : Digest) :
    List String :=
  (calls.filter fun call => call.1.digest = digest).map fun call => call.1.download.origFileName

/-- Every call returned the id of a row of its digest, and each row counts the
calls of its digest and has the first name supplied. -/
structure Deduplicated (filing : Filing collate) : Prop where
  stored : ∀ call ∈ filing.calls, ∃ row ∈ filing.table.rows,
    row.sha256 = call.1.digest ∧ call.2 = .ok (some row.id)
  same : ∀ left ∈ filing.calls, ∀ right ∈ filing.calls,
    left.2 = right.2 ↔ left.1.digest = right.1.digest
  counted : ∀ row ∈ filing.table.rows,
    row.hitCount = (filing.calls.filter fun call => call.1.digest = row.sha256).length
  named : ∀ row ∈ filing.table.rows,
    row.origFileName = firstNonEmpty (suppliedNames filing.calls row.sha256)

section

variable [DecidableEq Key]

def filingStep (filing : Filing collate) (call : StoreCall) : Filing collate :=
  let (result, table) := storeDownloadedFile filing.table (some call.digest) true call.download
  ⟨table, filing.calls ++ [(call, result)]⟩

/-- A known digest can take one more hit, and its row's name stays the first
one. A fresh one brings a remote id that no row has and texts that fit. -/
def Storable (filing : Filing collate) (call : StoreCall) : Prop :=
  match filing.table.lookup call.digest with
  | some row =>
      row.hitCount < maxHitCount ∧
        filledName collate row.origFileName call.download.origFileName =
          some (if row.origFileName = "" then call.download.origFileName else row.origFileName)
  | none =>
      RemoteUnused filing.table call.download ∧
      (varchar 10 (storedExtension call.download.localPath)).isSome ∧
      varchar 255 call.download.origFileName = some call.download.origFileName

end

theorem firstNonEmpty_snoc (names : List String) (name : String) :
    firstNonEmpty (names ++ [name]) =
      if firstNonEmpty names = "" then name else firstNonEmpty names := by
  induction names with
  | nil => by_cases empty : name = "" <;> simp [firstNonEmpty, empty]
  | cons first rest ih =>
      by_cases empty : first = ""
      · simpa [firstNonEmpty, empty] using ih
      · simp [firstNonEmpty, empty]

section

variable (filing : Filing collate) (call : StoreCall)

/-- Rows are told apart by digest and by id, so calls are told apart by what
they returned. -/
theorem same_of_stored
    (stored : ∀ call ∈ filing.calls, ∃ row ∈ filing.table.rows,
      row.sha256 = call.1.digest ∧ call.2 = .ok (some row.id)) :
    ∀ left ∈ filing.calls, ∀ right ∈ filing.calls,
      left.2 = right.2 ↔ left.1.digest = right.1.digest := by
  intro left leftMade right rightMade
  obtain ⟨leftRow, leftHeld, leftDigest, leftResult⟩ := stored left leftMade
  obtain ⟨rightRow, rightHeld, rightDigest, rightResult⟩ := stored right rightMade
  rw [← leftDigest, ← rightDigest, leftResult, rightResult]
  constructor
  · intro same
    have ids : leftRow.id = rightRow.id := Option.some.inj (Except.ok.inj same)
    rw [filing.table.same_ident_same_row leftRow rightRow leftHeld rightHeld ids]
  · intro same
    rw [filing.table.same_key_same_row leftRow rightRow leftHeld rightHeld same]

theorem refused_not_deduplicated (table : FileTable collate) (refused : DbError) :
    ¬ Deduplicated (⟨table, filing.calls ++ [(call, .error refused)]⟩ : Filing collate) := by
  intro law
  obtain ⟨row, _, _, result⟩ := law.stored (call, .error refused) (by simp)
  cases result

theorem count_snoc (result : Except DbError (Option Nat)) (digest : Digest) :
    ((filing.calls ++ [(call, result)]).filter fun call => call.1.digest = digest).length =
      (filing.calls.filter fun call => call.1.digest = digest).length +
        if call.digest = digest then 1 else 0 := by
  by_cases own : call.digest = digest <;> simp [own]

theorem suppliedNames_snoc (result : Except DbError (Option Nat)) (digest : Digest) :
    suppliedNames (filing.calls ++ [(call, result)]) digest =
      suppliedNames filing.calls digest ++
        if call.digest = digest then [call.download.origFileName] else [] := by
  by_cases own : call.digest = digest <;> simp [suppliedNames, own]

/-- A further hit keeps the law exactly if it leaves the first name. -/
theorem deduplicated_hit (law : Deduplicated filing) (row : FileRow)
    (found : filing.table.lookup call.digest = some row) (name : String) :
    Deduplicated (⟨filing.table.hit row.id name,
        filing.calls ++ [(call, .ok (some row.id))]⟩ : Filing collate) ↔
      name = if row.origFileName = "" then call.download.origFileName else row.origFileName := by
  obtain ⟨held, own⟩ := (filing.table.lookup_some_iff call.digest row).mp found
  have supplied : firstNonEmpty (suppliedNames (filing.calls ++ [(call, .ok (some row.id))])
      row.sha256) =
      if row.origFileName = "" then call.download.origFileName else row.origFileName := by
    rw [suppliedNames_snoc, if_pos own.symm, firstNonEmpty_snoc, ← law.named row held]
  -- The row is the only one with its id, and the only one of the digest.
  have only (other : FileRow) (member : other ∈ filing.table.rows) :
      other.id = row.id ↔ call.digest = other.sha256 := by
    rw [← own]
    constructor
    · intro ids
      rw [filing.table.same_ident_same_row other row member held ids]
    · intro digests
      rw [filing.table.same_key_same_row other row member held digests.symm]
  constructor
  · intro after
    have named := after.named { row with hitCount := row.hitCount + 1, origFileName := name }
      (List.mem_map.mpr ⟨row, held, if_pos rfl⟩)
    exact named.trans supplied
  · intro first
    have stored : ∀ made ∈ filing.calls ++ [(call, .ok (some row.id))],
        ∃ other ∈ (filing.table.hit row.id name).rows,
          other.sha256 = made.1.digest ∧ made.2 = .ok (some other.id) := by
      intro made member
      have earlier : ∃ other ∈ filing.table.rows,
          other.sha256 = made.1.digest ∧ made.2 = .ok (some other.id) := by
        rcases List.mem_append.mp member with old | new
        · exact law.stored made old
        · rw [List.mem_singleton.mp new]
          exact ⟨row, held, own, rfl⟩
      obtain ⟨other, otherHeld, digest, result⟩ := earlier
      refine ⟨_, List.mem_map_of_mem otherHeld, ?_, ?_⟩
      · rw [← digest]
        split <;> rfl
      · rw [result]
        split <;> rfl
    refine ⟨stored, same_of_stored _ stored, ?_, ?_⟩
    · intro hit member
      obtain ⟨other, otherHeld, rfl⟩ := List.mem_map.mp member
      have counted := law.counted other otherHeld
      by_cases struck : other.id = row.id
      · simp only [struck, ↓reduceIte]
        rw [count_snoc, if_pos ((only other otherHeld).mp struck), ← counted]
      · simp only [struck, ↓reduceIte]
        rw [count_snoc, if_neg fun same => struck ((only other otherHeld).mpr same), ← counted,
          Nat.add_zero]
    · intro hit member
      obtain ⟨other, otherHeld, rfl⟩ := List.mem_map.mp member
      by_cases struck : other.id = row.id
      · obtain rfl := filing.table.same_ident_same_row other row otherHeld held struck
        simp only [↓reduceIte]
        exact first.trans supplied.symm
      · simp only [struck, ↓reduceIte]
        rw [suppliedNames_snoc, if_neg fun same => struck ((only other otherHeld).mpr same),
          List.append_nil]
        exact law.named other otherHeld

/-- A new row keeps the law exactly if it has the name supplied. -/
theorem deduplicated_add (law : Deduplicated filing) (fresh : FileRow)
    (newDigest : filing.table.lookup fresh.sha256 = none)
    (newRemote : ∀ row ∈ filing.table.rows, collate row.tgFileId ≠ collate fresh.tgFileId)
    (own : fresh.sha256 = call.digest) (once : fresh.hitCount = 1) :
    Deduplicated (⟨filing.table.add fresh newDigest newRemote,
        filing.calls ++ [(call, .ok (some filing.table.next))]⟩ : Filing collate) ↔
      fresh.origFileName = call.download.origFileName := by
  have unknown (row : FileRow) (held : row ∈ filing.table.rows) : call.digest ≠ row.sha256 := by
    intro same
    have found := (filing.table.lookup_some_iff fresh.sha256 row).mpr
      ⟨held, same.symm.trans own.symm⟩
    rw [newDigest] at found
    cases found
  have uncalled : filing.calls.filter (fun call => call.1.digest = fresh.sha256) = [] := by
    rw [List.filter_eq_nil_iff]
    intro made member same
    obtain ⟨row, held, digest, _⟩ := law.stored made member
    exact unknown row held
      (own.symm.trans ((of_decide_eq_true same).symm.trans digest.symm))
  have supplied : firstNonEmpty (suppliedNames
      (filing.calls ++ [(call, .ok (some filing.table.next))]) fresh.sha256) =
      call.download.origFileName := by
    rw [suppliedNames_snoc, if_pos own.symm, firstNonEmpty_snoc]
    simp [suppliedNames, uncalled, firstNonEmpty]
  have rows := filing.table.rows_add fresh newDigest newRemote
  constructor
  · intro after
    have named := after.named { fresh with id := filing.table.next } (by rw [rows]; simp)
    exact named.trans supplied
  · intro first
    have stored : ∀ made ∈ filing.calls ++ [(call, .ok (some filing.table.next))],
        ∃ row ∈ (filing.table.add fresh newDigest newRemote).rows,
          row.sha256 = made.1.digest ∧ made.2 = .ok (some row.id) := by
      intro made member
      rw [rows]
      rcases List.mem_append.mp member with old | new
      · obtain ⟨row, held, result⟩ := law.stored made old
        exact ⟨row, List.mem_append_left _ held, result⟩
      · rw [List.mem_singleton.mp new]
        exact ⟨_, List.mem_append_right _ (List.mem_singleton_self _), own, rfl⟩
    refine ⟨stored, same_of_stored _ stored, ?_, ?_⟩
    · intro row member
      rw [rows] at member
      rcases List.mem_append.mp member with held | new
      · rw [count_snoc, if_neg (unknown row held), law.counted row held, Nat.add_zero]
      · rw [List.mem_singleton.mp new, count_snoc, if_pos own.symm, uncalled]
        exact once
    · intro row member
      rw [rows] at member
      rcases List.mem_append.mp member with held | new
      · rw [suppliedNames_snoc, if_neg (unknown row held), List.append_nil]
        exact law.named row held
      · rw [List.mem_singleton.mp new]
        exact first.trans supplied.symm

end

variable [DecidableEq Key]

/-- A call keeps the law exactly if the file is storable. -/
theorem deduplicated_step (filing : Filing collate) (call : StoreCall)
    (law : Deduplicated filing) :
    Deduplicated (filingStep filing call) ↔ Storable filing call := by
  simp only [filingStep, storeDownloadedFile, upsertFile, selectFile_fileOf, Storable]
  cases found : filing.table.lookup call.digest with
  | some row =>
      have held := ((filing.table.lookup_some_iff call.digest row).mp found).1
      simp only [Option.map_some]
      rcases updateFile_cases filing.table call.digest call.download row held with
        ⟨name, updated, room, filled⟩ | ⟨refused, failed, noRoom⟩
      · rw [updated, filled, Option.some.injEq]
        refine (deduplicated_hit filing call law row found name).trans ?_
        exact ⟨fun named => ⟨room, named⟩, And.right⟩
      · rw [failed]
        refine iff_of_false (refused_not_deduplicated filing call _ _) ?_
        rintro ⟨room, filled⟩
        exact noRoom ⟨room, by rw [filled]; rfl⟩
  | none =>
      simp only [Option.map_none]
      rcases insertFile_cases filing.table call.digest call.download with
        ⟨fresh, newDigest, newRemote, inserted, own, once, named, _, _, unused, fits⟩ |
        ⟨refused, after, failed, _, against⟩
      · rw [inserted, named, Option.some.injEq]
        refine (deduplicated_add filing call law fresh newDigest newRemote own once).trans ?_
        exact ⟨fun same => ⟨unused, fits.1, same⟩, fun all => all.2.2⟩
      · rw [failed]
        refine iff_of_false (refused_not_deduplicated filing call _ _) ?_
        rintro ⟨unused, fitsExt, named⟩
        exact against ⟨found, unused, fitsExt, by rw [named]; rfl⟩

/-- Exactly the sequences whose calls are all storable are de-duplicated. -/
theorem contents_deduplicated (calls : List StoreCall) :
    EveryState filingStep (Filing.initial : Filing collate) Deduplicated calls ↔
      EveryStep filingStep (Filing.initial : Filing collate) Storable calls := by
  apply everyState_iff_everyStep
  · constructor
    · intro call made
      cases made
    · intro left made
      cases made
    · intro row held
      cases held
    · intro row held
      cases held
  · exact deduplicated_step

end

/-- Two contents for which TDLib gives no remote file. -/
def unnamedRemotes : List StoreCall :=
  [⟨⟨List.replicate 32 0, rfl⟩, ⟨"photos/1.jpg", "", 10, .photo, ""⟩⟩,
    ⟨⟨List.replicate 32 1, rfl⟩, ⟨"photos/2.jpg", "", 10, .photo, ""⟩⟩]

theorem empty_remote_id_refused :
    ¬ EveryState filingStep (Filing.initial : Filing foldCase) Deduplicated unnamedRemotes := by
  intro every
  have law := everyState_last _ _ _ _ every
  obtain ⟨row, _, _, stored⟩ := law.stored (unnamedRemotes.get ⟨1, by decide⟩,
    .error (.duplicateEntry .tgFileId)) (by decide)
  cases stored

end TgLoggerd

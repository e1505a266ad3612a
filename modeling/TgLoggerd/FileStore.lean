import TgLoggerd.HexCodec
import TgLoggerd.KeyedTable

/-!
The files table of migration 000001, the statements of `DB::upsertFile` on it,
and `TgLoggerd::storeDownloadedFile` over both. `collate` is the collation of the
text columns: their UNIQUE key and the comparison with '' go by it. Texts and
numbers too wide for a column are refused, as in strict mode. created_at and
updated_at are left out.
-/

namespace TgLoggerd

open KeyedTable

/-- A SHA-256 digest, as the BINARY(32) column holds it. -/
structure Digest where
  octets : List UInt8
  complete : octets.length = 32
  deriving DecidableEq, Repr

inductive FileType where
  | photo
  | video
  | document
  | audio
  | voice
  | sticker
  | animation
  | unknown
  deriving DecidableEq, Repr

/-- `models::File`. -/
structure File where
  tgFileId : String
  fileType : FileType := .unknown
  fileSize : Nat := 0
  sha256Hex : String
  fileExt : Option String := none
  origFileName : String
  deriving DecidableEq, Repr

structure FileRow where
  id : Nat
  tgFileId : String
  fileType : FileType
  fileSize : Nat
  sha256 : Digest
  fileExt : Option String
  origFileName : String
  hitCount : Nat
  deriving DecidableEq, Repr

inductive FileColumn where
  | tgFileId
  | fileExt
  | origFileName
  deriving DecidableEq, Repr

inductive FileKey where
  | tgFileId
  | sha256
  deriving DecidableEq, Repr

inductive DbError where
  | nullDigest
  | dataTooLong (column : FileColumn)
  | hitCountOutOfRange
  | duplicateEntry (key : FileKey)
  deriving DecidableEq, Repr

/-- The largest INT UNSIGNED. -/
def maxHitCount : Nat := 4294967295

/-- What sha256_file_hex writes for a digest. -/
def Digest.hex (digest : Digest) : String := String.ofList (HexCodec.encode digest.octets)

/-- `UNHEX(?)`, for the 64 digits of a `models::File`. -/
def unhex (text : String) : Option Digest :=
  (HexCodec.decode text.toList).bind fun octets =>
    if complete : octets.length = 32 then some ⟨octets, complete⟩ else none

/-- VARCHAR: spaces beyond the width are cut, any other text beyond it is
refused. -/
def varchar (width : Nat) (text : String) : Option String :=
  if (text.toList.drop width).all (· = ' ') then some (String.ofList (text.toList.take width))
  else none

def nullable (column : String → Option String) : Option String → Option (Option String)
  | some text => (column text).map some
  | none => some none

def column {Value : Type} (name : FileColumn) : Option Value → Except DbError Value
  | some value => .ok value
  | none => .error (.dataTooLong name)

section

variable {Key : Type}

structure FileTable (collate : String → Key) extends AutoTable FileRow.sha256 FileRow.id where
  remote : (rows.map fun row => collate row.tgFileId).Nodup

variable {collate : String → Key}

namespace FileTable

def empty : FileTable collate where
  toAutoTable := AutoTable.empty
  remote := List.nodup_nil

/-- A refused insert uses up its number. -/
def burn (table : FileTable collate) : FileTable collate :=
  { table with
    next := table.next + 1
    below := fun row member => Nat.lt_succ_of_lt (table.below row member) }

def add (table : FileTable collate) (fresh : FileRow)
    (newDigest : table.lookup fresh.sha256 = none)
    (newRemote : ∀ row ∈ table.rows, collate row.tgFileId ≠ collate fresh.tgFileId) :
    FileTable collate where
  toAutoTable := table.proposeRow (fun id => { fresh with id := id }) id
    (fun _ => rfl) (fun _ => rfl) (fun _ => rfl)
  remote := by
    rw [AutoTable.rows_proposeRow_absent table.toAutoTable _ _ _ _ _ newDigest, List.map_append,
      List.nodup_append]
    refine ⟨table.remote, by simp, ?_⟩
    intro left member right single same
    obtain ⟨row, held, rfl⟩ := List.mem_map.mp member
    simp only [List.map_cons, List.map_nil, List.mem_singleton] at single
    exact newRemote row held (same.trans single)

/-- The row of one id under a further hit and the name it now has. -/
def hit (table : FileTable collate) (id : Nat) (name : String) : FileTable collate where
  toAutoTable := table.reviseRows
    (fun row =>
      if row.id = id then { row with hitCount := row.hitCount + 1, origFileName := name } else row)
    (by intro row; split <;> rfl) (by intro row; split <;> rfl)
  remote := by
    have kept : ((fun row : FileRow => collate row.tgFileId) ∘ fun row =>
        if row.id = id then { row with hitCount := row.hitCount + 1, origFileName := name }
        else row) = fun row => collate row.tgFileId := by
      funext row
      simp only [Function.comp_apply]
      split <;> rfl
    change ((table.rows.map _).map _).Nodup
    rw [List.map_map, kept]
    exact table.remote

@[simp]
theorem rows_burn (table : FileTable collate) : table.burn.rows = table.rows := rfl

@[simp]
theorem next_burn (table : FileTable collate) : table.burn.next = table.next + 1 := rfl

theorem rows_add (table : FileTable collate) (fresh : FileRow)
    (newDigest : table.lookup fresh.sha256 = none)
    (newRemote : ∀ row ∈ table.rows, collate row.tgFileId ≠ collate fresh.tgFileId) :
    (table.add fresh newDigest newRemote).rows =
      table.rows ++ [{ fresh with id := table.next }] :=
  AutoTable.rows_proposeRow_absent _ _ _ _ _ _ newDigest

@[simp]
theorem rows_hit (table : FileTable collate) (id : Nat) (name : String) :
    (table.hit id name).rows = table.rows.map fun row =>
      if row.id = id then { row with hitCount := row.hitCount + 1, origFileName := name }
      else row := rfl

theorem lookup_add (table : FileTable collate) (fresh : FileRow)
    (newDigest : table.lookup fresh.sha256 = none)
    (newRemote : ∀ row ∈ table.rows, collate row.tgFileId ≠ collate fresh.tgFileId)
    (digest : Digest) :
    (table.add fresh newDigest newRemote).lookup digest =
      if fresh.sha256 = digest then some { fresh with id := table.next }
      else table.lookup digest := by
  have found := table.toTable.lookup_insertOrUpdate { fresh with id := table.next } id
    (fun _ => rfl) digest
  refine found.trans ?_
  by_cases own : fresh.sha256 = digest
  · subst own
    simp [newDigest]
  · simp [own]

theorem lookup_hit (table : FileTable collate) (id : Nat) (name : String) (digest : Digest) :
    (table.hit id name).lookup digest = (table.lookup digest).map fun row =>
      if row.id = id then { row with hitCount := row.hitCount + 1, origFileName := name }
      else row :=
  table.toTable.lookup_revise _ (by intro row; split <;> rfl) digest

end FileTable

variable [DecidableEq Key]

/-- `SELECT id FROM files WHERE sha256 = UNHEX(?)`. -/
def selectFile (table : FileTable collate) (f : File) : Option Nat :=
  (unhex f.sha256Hex).bind fun digest => (table.lookup digest).map FileRow.id

/-- `IF(orig_file_name = '', ?, orig_file_name)`, as the column takes it. -/
def filledName (collate : String → Key) (stored given : String) : Option String :=
  if collate stored = collate "" then varchar 255 given else some stored

/-- `UPDATE files SET hit_count = hit_count + 1, orig_file_name = ... WHERE id = ?`. -/
def updateFile (table : FileTable collate) (f : File) (id : Nat) :
    Except DbError Unit × FileTable collate :=
  match table.rows.find? fun row => row.id = id with
  | none => (.ok (), table)
  | some row =>
      if maxHitCount ≤ row.hitCount then (.error .hitCountOutOfRange, table)
      else
        match filledName collate row.origFileName f.origFileName with
        | some name => (.ok (), table.hit id name)
        | none => (.error (.dataTooLong .origFileName), table)

/-- The row an INSERT proposes, before it has its number. -/
def proposedRow (f : File) : Except DbError FileRow := do
  let tgFileId ← column .tgFileId (varchar 255 f.tgFileId)
  let sha256 ←
    match unhex f.sha256Hex with
    | some digest => .ok digest
    | none => .error .nullDigest
  let fileExt ← column .fileExt (nullable (varchar 10) f.fileExt)
  let origFileName ← column .origFileName (varchar 255 f.origFileName)
  return {
    id := 0
    tgFileId := tgFileId
    fileType := f.fileType
    fileSize := f.fileSize
    sha256 := sha256
    fileExt := fileExt
    origFileName := origFileName
    hitCount := 1 }

/-- `INSERT INTO files`, which gives the id of the new row. -/
def insertFile (table : FileTable collate) (f : File) : Except DbError Nat × FileTable collate :=
  match proposedRow f with
  | .error refused => (.error refused, table)
  | .ok fresh =>
      if newRemote : ∀ row ∈ table.rows, collate row.tgFileId ≠ collate fresh.tgFileId then
        if newDigest : table.lookup fresh.sha256 = none then
          (.ok table.next, table.add fresh newDigest newRemote)
        else (.error (.duplicateEntry .sha256), table.burn)
      else (.error (.duplicateEntry .tgFileId), table.burn)

/-- `DB::upsertFile`. -/
def upsertFile (table : FileTable collate) (f : File) : Except DbError Nat × FileTable collate :=
  match selectFile table f with
  | some id =>
      let (updated, hit) := updateFile table f id
      (updated.map fun _ => id, hit)
  | none => insertFile table f

end

/-- `fs::path::extension` with its dot: of the last component, from its last dot
on, unless that dot comes first. -/
def pathExtension (path : String) : List Char :=
  let backwards := path.toList.reverse.takeWhile (· ≠ '/')
  let suffix := backwards.takeWhile (· ≠ '.')
  match backwards.drop suffix.length with
  | [] => []
  | [_] => []
  | _ :: stem => if suffix = [] ∧ stem = ['.'] then [] else '.' :: suffix.reverse

/-- The extension under which a file is stored. -/
def storedExtension (localPath : String) : String :=
  String.ofList (((pathExtension localPath).drop 1).map Char.toLower)

/-- The name in the storage directory. -/
def storedName (digest : Digest) (ext : String) : String :=
  if ext = "" then digest.hex else digest.hex ++ ("." ++ ext)

/-- Where the storage directory keeps a file: five levels down, then its name. -/
def storedPath (digest : Digest) (ext : String) : List String :=
  ((List.range 5).map fun i => String.ofList ((digest.hex.toList.drop (i * 2)).take 2)) ++
    [storedName digest ext]

/-- The parameters of `storeDownloadedFile`. -/
structure Download where
  localPath : String
  tgFileId : String
  fileSize : Int
  fileType : FileType
  origFileName : String := ""
  deriving DecidableEq, Repr

def fileOf (digest : Digest) (d : Download) : File where
  tgFileId := d.tgFileId
  fileType := d.fileType
  fileSize := d.fileSize.toNat
  sha256Hex := digest.hex
  fileExt := if storedExtension d.localPath = "" then none else some (storedExtension d.localPath)
  origFileName := d.origFileName

/-- `TgLoggerd::storeDownloadedFile`: `hashed` is what `sha256_file_hex` gave,
`copied` whether the storage directory then has the file. -/
def storeDownloadedFile {Key : Type} [DecidableEq Key] {collate : String → Key}
    (table : FileTable collate) (hashed : Option Digest) (copied : Bool) (d : Download) :
    Except DbError (Option Nat) × FileTable collate :=
  match hashed, copied with
  | some digest, true =>
      let (stored, after) := upsertFile table (fileOf digest d)
      (stored.map some, after)
  | _, _ => (.ok none, table)

/-! What the statements do, for callers that do not look into them. -/

theorem bind_ok_iff {Value Result : Type} (value : Except DbError Value)
    (next : Value → Except DbError Result) (result : Result) :
    (value >>= next) = .ok result ↔ ∃ held, value = .ok held ∧ next held = .ok result := by
  cases value with
  | error refused => simp [bind, Except.bind]
  | ok held => simp [bind, Except.bind]

theorem column_ok_iff {Value : Type} (name : FileColumn) (value : Option Value) (held : Value) :
    column name value = .ok held ↔ value = some held := by
  cases value <;> simp [column]

@[simp]
theorem unhex_hex (digest : Digest) : unhex digest.hex = some digest := by
  simp [unhex, Digest.hex, HexCodec.decode_encode, digest.complete]

/-- What an INSERT proposes for a file with this digest. -/
theorem proposedRow_ok_iff (f : File) (digest : Digest) (hex : unhex f.sha256Hex = some digest)
    (fresh : FileRow) :
    proposedRow f = .ok fresh ↔
      ∃ remote ext name, varchar 255 f.tgFileId = some remote ∧
        nullable (varchar 10) f.fileExt = some ext ∧ varchar 255 f.origFileName = some name ∧
        fresh =
          { id := 0
            tgFileId := remote
            fileType := f.fileType
            fileSize := f.fileSize
            sha256 := digest
            fileExt := ext
            origFileName := name
            hitCount := 1 } := by
  simp only [proposedRow, bind_ok_iff, column_ok_iff, hex, Except.ok.injEq]
  constructor
  · rintro ⟨remote, fitsRemote, _, rfl, ext, fitsExt, name, fitsName, proposed⟩
    exact ⟨remote, ext, name, fitsRemote, fitsExt, fitsName, (Except.ok.inj proposed).symm⟩
  · rintro ⟨remote, ext, name, fitsRemote, fitsExt, fitsName, rfl⟩
    exact ⟨remote, fitsRemote, digest, rfl, ext, fitsExt, name, fitsName, rfl⟩

/-- The extension and the name of a download fit their columns. -/
def Fits (d : Download) : Prop :=
  (varchar 10 (storedExtension d.localPath)).isSome ∧ (varchar 255 d.origFileName).isSome

section

variable {Key : Type} {collate : String → Key}

/-- The remote id fits its column and no row has it. -/
def RemoteUnused (table : FileTable collate) (d : Download) : Prop :=
  ∃ remote, varchar 255 d.tgFileId = some remote ∧
    ∀ row ∈ table.rows, collate row.tgFileId ≠ collate remote

theorem ext_fits_iff (digest : Digest) (d : Download) :
    (nullable (varchar 10) (fileOf digest d).fileExt).isSome ↔
      (varchar 10 (storedExtension d.localPath)).isSome := by
  by_cases bare : storedExtension d.localPath = ""
  · have fits : (varchar 10 "").isSome := by decide
    simpa [fileOf, bare, nullable] using fits
  · simp [fileOf, bare, nullable]

theorem selectFile_fileOf (table : FileTable collate) (digest : Digest) (d : Download) :
    selectFile table (fileOf digest d) = (table.lookup digest).map FileRow.id := by
  simp [selectFile, fileOf]

variable [DecidableEq Key]

/-- An INSERT adds its row exactly if nothing stands against it, and otherwise
leaves the rows as they are. -/
theorem insertFile_cases (table : FileTable collate) (digest : Digest) (d : Download) :
    (∃ fresh newDigest newRemote, insertFile table (fileOf digest d) =
        (.ok table.next, table.add fresh newDigest newRemote) ∧
      fresh.sha256 = digest ∧ fresh.hitCount = 1 ∧
      varchar 255 d.origFileName = some fresh.origFileName ∧
      nullable (varchar 10) (fileOf digest d).fileExt = some fresh.fileExt ∧
      table.lookup digest = none ∧ RemoteUnused table d ∧ Fits d) ∨
    (∃ refused after, insertFile table (fileOf digest d) = (.error refused, after) ∧
      after.rows = table.rows ∧
      ¬ (table.lookup digest = none ∧ RemoteUnused table d ∧ Fits d)) := by
  have accepts := proposedRow_ok_iff (fileOf digest d) digest (unhex_hex digest)
  rw [insertFile]
  cases proposed : proposedRow (fileOf digest d) with
  | error refused =>
      refine Or.inr ⟨refused, table, rfl, rfl, ?_⟩
      rintro ⟨_, ⟨remote, fitsRemote, _⟩, fitsExt, fitsName⟩
      obtain ⟨ext, fits⟩ := Option.isSome_iff_exists.mp ((ext_fits_iff digest d).mpr fitsExt)
      obtain ⟨name, named⟩ := Option.isSome_iff_exists.mp fitsName
      have accepted := (accepts _).mpr ⟨remote, ext, name, fitsRemote, fits, named, rfl⟩
      rw [accepted] at proposed
      cases proposed
  | ok fresh =>
      obtain ⟨remote, ext, name, fitsRemote, fits, named, shape⟩ := (accepts fresh).mp proposed
      have own : fresh.sha256 = digest := by rw [shape]
      have carried : fresh.tgFileId = remote := by rw [shape]
      have fitsDownload : Fits d :=
        ⟨(ext_fits_iff digest d).mp (by rw [fits]; rfl), Option.isSome_iff_exists.mpr ⟨name, named⟩⟩
      by_cases unused : ∀ row ∈ table.rows, collate row.tgFileId ≠ collate fresh.tgFileId
      · by_cases absent : table.lookup fresh.sha256 = none
        · refine Or.inl ⟨fresh, absent, unused, ?_, own, by rw [shape], ?_, ?_, own ▸ absent,
            ⟨remote, fitsRemote, carried ▸ unused⟩, fitsDownload⟩
          · simp only [dif_pos unused, dif_pos absent]
          · rw [shape]
            exact named
          · rw [shape]
            exact fits
        · refine Or.inr ⟨.duplicateEntry .sha256, table.burn, ?_, rfl, ?_⟩
          · simp only [dif_pos unused, dif_neg absent]
          · rintro ⟨missing, _⟩
            exact absent (own ▸ missing)
      · refine Or.inr ⟨.duplicateEntry .tgFileId, table.burn, ?_, rfl, ?_⟩
        · simp only [dif_neg unused]
        · rintro ⟨_, ⟨other, fitsOther, free⟩, _⟩
          have same : remote = other := Option.some.inj (fitsRemote.symm.trans fitsOther)
          exact unused (carried.trans same ▸ free)

/-- An UPDATE of a held row changes it exactly if hit count and name allow it. -/
theorem updateFile_cases (table : FileTable collate) (digest : Digest) (d : Download)
    (row : FileRow) (held : row ∈ table.rows) :
    (∃ name, updateFile table (fileOf digest d) row.id = (.ok (), table.hit row.id name) ∧
      row.hitCount < maxHitCount ∧
      filledName collate row.origFileName d.origFileName = some name) ∨
    (∃ refused, updateFile table (fileOf digest d) row.id = (.error refused, table) ∧
      ¬ (row.hitCount < maxHitCount ∧
        (filledName collate row.origFileName d.origFileName).isSome)) := by
  have given : (fileOf digest d).origFileName = d.origFileName := rfl
  simp only [updateFile, table.find_ident row held, given]
  by_cases full : maxHitCount ≤ row.hitCount
  · exact Or.inr ⟨.hitCountOutOfRange, if_pos full, fun room => Nat.not_lt.mpr full room.1⟩
  · rw [if_neg full]
    cases filled : filledName collate row.origFileName d.origFileName with
    | some name => exact Or.inl ⟨name, rfl, Nat.lt_of_not_le full, rfl⟩
    | none => exact Or.inr ⟨_, rfl, fun room => by simp at room⟩

/-- A call hits the row of its digest, adds one, or fails and leaves the rows. -/
theorem upsertFile_cases (table : FileTable collate) (digest : Digest) (d : Download) :
    (∃ row name, row ∈ table.rows ∧ row.sha256 = digest ∧
      upsertFile table (fileOf digest d) = (.ok row.id, table.hit row.id name)) ∨
    (∃ fresh newDigest newRemote, upsertFile table (fileOf digest d) =
        (.ok table.next, table.add fresh newDigest newRemote) ∧
      table.lookup digest = none ∧ fresh.sha256 = digest ∧
      nullable (varchar 10) (fileOf digest d).fileExt = some fresh.fileExt) ∨
    ∃ refused after, upsertFile table (fileOf digest d) = (.error refused, after) ∧
      after.rows = table.rows := by
  simp only [upsertFile, selectFile_fileOf]
  cases found : table.lookup digest with
  | some row =>
      obtain ⟨held, own⟩ := (table.lookup_some_iff digest row).mp found
      simp only [Option.map_some]
      rcases updateFile_cases table digest d row held with
        ⟨name, updated, _⟩ | ⟨refused, failed, _⟩
      · rw [updated]
        exact Or.inl ⟨row, name, held, own, rfl⟩
      · rw [failed]
        exact Or.inr (Or.inr ⟨refused, table, rfl, rfl⟩)
  | none =>
      simp only [Option.map_none]
      rcases insertFile_cases table digest d with
        ⟨fresh, newDigest, newRemote, inserted, own, _, _, ext, _⟩ |
        ⟨refused, after, failed, same, _⟩
      · rw [inserted]
        exact Or.inr (Or.inl ⟨fresh, newDigest, newRemote, rfl, trivial, own, ext⟩)
      · rw [failed]
        exact Or.inr (Or.inr ⟨refused, after, rfl, same⟩)

end

theorem hex_length (digest : Digest) : digest.hex.toList.length = 64 := by
  rw [Digest.hex, String.toList_ofList, HexCodec.length_encode, digest.complete]

theorem hex_injective (left right : Digest) (same : left.hex = right.hex) : left = right := by
  have read := congrArg unhex same
  rw [unhex_hex, unhex_hex] at read
  exact Option.some.inj read

theorem storedName_toList (digest : Digest) (ext : String) :
    (storedName digest ext).toList =
      digest.hex.toList ++ if ext = "" then [] else '.' :: ext.toList := by
  unfold storedName
  split
  · simp
  · simp [String.toList_append]

/-- No two contents or extensions share a place. -/
theorem storedPath_injective (left right : Digest) (leftExt rightExt : String)
    (same : storedPath left leftExt = storedPath right rightExt) :
    left = right ∧ leftExt = rightExt := by
  have names := (List.append_inj' same rfl).2
  have texts := congrArg String.toList (List.singleton_inj.mp names)
  rw [storedName_toList, storedName_toList] at texts
  obtain ⟨hexes, suffixes⟩ :=
    List.append_inj texts ((hex_length left).trans (hex_length right).symm)
  refine ⟨hex_injective left right (String.toList_inj.mp hexes), ?_⟩
  by_cases bare : leftExt = "" <;> by_cases other : rightExt = ""
  · rw [bare, other]
  · simp [bare, other] at suffixes
  · simp [bare, other] at suffixes
  · simpa [bare, other, String.toList_inj] using suffixes

example : storedExtension "photos/a.b/IMG_1.JPEG" = "jpeg" := by decide

example : storedExtension "photos/a.b/readme" = "" := by decide

end TgLoggerd

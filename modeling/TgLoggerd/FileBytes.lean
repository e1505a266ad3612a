import TgLoggerd.FileStore
import TgLoggerd.SerialRun
import TgLoggerd.Usernames

/-!
`storeDownloadedFile` on several workers over one storage directory, by the
steps at which they meet: hashing, the start of the copy, each write of it, its
end, and the transaction. The copy goes to a file it creates itself, bit by bit;
a destination that exists is taken as it is. A failure ends a call where it
stands, a crash ends them all; directory and table stay. `sha256` is what
OpenSSL computes.
-/

namespace TgLoggerd

open Function KeyedTable SerialRun

/-- A downloaded file that a worker is to store. -/
structure LocalFile where
  content : List UInt8
  download : Download
  deriving DecidableEq, Repr

inductive Worker where
  | idle
  | hashed (file : LocalFile)
  | copying (file : LocalFile) (rest : List UInt8)
  | copied (file : LocalFile)
  deriving DecidableEq, Repr

inductive StorageOp where
  | take (worker : Nat) (file : LocalFile)
  | openDestination (worker : Nat)
  | write (worker : Nat) (count : Nat)
  | close (worker : Nat)
  | upsert (worker : Nat)
  | fail (worker : Nat)
  | crash
  deriving DecidableEq, Repr

section

variable {Key : Type}

structure Storage (collate : String → Key) where
  disk : List String → Option (List UInt8)
  table : FileTable collate
  workers : Nat → Worker

variable {collate : String → Key} (sha256 : List UInt8 → Digest)

def Storage.initial : Storage collate := ⟨fun _ => none, FileTable.empty, fun _ => .idle⟩

def Storage.set (storage : Storage collate) (i : Nat) (worker : Worker) : Storage collate :=
  { storage with workers := update storage.workers i worker }

def Storage.put (storage : Storage collate) (path : List String) (content : List UInt8) :
    Storage collate :=
  { storage with disk := update storage.disk path (some content) }

def LocalFile.destination (file : LocalFile) : List String :=
  storedPath (sha256 file.content) (storedExtension file.download.localPath)

/-- Where the bytes of a row belong. -/
def FileRow.path (row : FileRow) : List String := storedPath row.sha256 (row.fileExt.getD "")

def storageStep [DecidableEq Key] (storage : Storage collate) : StorageOp → Storage collate
  | .take i file =>
      match storage.workers i with
      | .idle => storage.set i (.hashed file)
      | _ => storage
  | .openDestination i =>
      match storage.workers i with
      | .hashed file =>
          -- skip_existing
          if (storage.disk (file.destination sha256)).isSome then storage.set i (.copied file)
          else (storage.set i (.copying file file.content)).put (file.destination sha256) []
      | _ => storage
  | .write i count =>
      match storage.workers i with
      | .copying file rest =>
          (storage.set i (.copying file (rest.drop count))).put (file.destination sha256)
            ((storage.disk (file.destination sha256)).getD [] ++ rest.take count)
      | _ => storage
  | .close i =>
      match storage.workers i with
      | .copying file [] => storage.set i (.copied file)
      | _ => storage
  | .upsert i =>
      match storage.workers i with
      | .copied file =>
          { storage.set i .idle with
            table := (storeDownloadedFile storage.table (some (sha256 file.content)) true
              file.download).2 }
      | _ => storage
  | .fail i => storage.set i .idle
  | .crash => { storage with workers := fun _ => .idle }

/-- Every row has its bytes. -/
def RowsStored (storage : Storage collate) : Prop :=
  ∀ row ∈ storage.table.rows, ∃ content,
    storage.disk row.path = some content ∧ sha256 content = row.sha256

/-- A file with this digest, and no worker still writes it. -/
def Complete (storage : Storage collate) (path : List String) (digest : Digest) : Prop :=
  (∃ content, storage.disk path = some content ∧ sha256 content = digest) ∧
    ∀ i file rest, storage.workers i = .copying file rest → file.destination sha256 ≠ path

/-- A copy that finds its destination finds it complete, and an INSERT does not
cut the extension. -/
def FindsComplete (storage : Storage collate) : StorageOp → Prop
  | .openDestination i => ∀ file, storage.workers i = .hashed file →
      (storage.disk (file.destination sha256)).isSome →
        Complete sha256 storage (file.destination sha256) (sha256 file.content)
  | .upsert i => ∀ file, storage.workers i = .copied file →
      storage.table.lookup (sha256 file.content) = none →
        ∀ cut, varchar 10 (storedExtension file.download.localPath) = some cut →
          cut = storedExtension file.download.localPath
  | _ => True

/-- Rows and finished copies are complete, and every copy under way has written
the beginning of its content to a file of its own. -/
structure StorageSound (storage : Storage collate) : Prop where
  rows : ∀ row ∈ storage.table.rows, Complete sha256 storage row.path row.sha256
  copied : ∀ i file, storage.workers i = .copied file →
    Complete sha256 storage (file.destination sha256) (sha256 file.content)
  copying : ∀ i file rest, storage.workers i = .copying file rest →
    ∃ written, storage.disk (file.destination sha256) = some written ∧
      written ++ rest = file.content
  exclusive : ∀ i j left right leftRest rightRest, storage.workers i = .copying left leftRest →
    storage.workers j = .copying right rightRest →
      left.destination sha256 = right.destination sha256 → i = j

section

variable (storage : Storage collate) (i : Nat)

theorem workers_set (worker : Worker) (j : Nat) :
    (storage.set i worker).workers j = if j = i then worker else storage.workers j := by
  simp [Storage.set, update_apply]

/-- A worker that stops writing leaves every complete file complete. -/
theorem complete_set (worker : Worker) (still : ∀ file rest, worker ≠ .copying file rest)
    (path : List String) (digest : Digest) (complete : Complete sha256 storage path digest) :
    Complete sha256 (storage.set i worker) path digest := by
  refine ⟨complete.1, ?_⟩
  intro j file rest writes
  rw [workers_set] at writes
  split at writes
  · exact absurd writes (still file rest)
  · exact complete.2 j file rest writes

theorem sound_set (worker : Worker) (still : ∀ file rest, worker ≠ .copying file rest)
    (done : ∀ file, worker = .copied file → Complete sha256 (storage.set i worker)
      (file.destination sha256) (sha256 file.content))
    (sound : StorageSound sha256 storage) : StorageSound sha256 (storage.set i worker) := by
  have keeps := complete_set sha256 storage i worker still
  have other (j : Nat) (file : LocalFile) (rest : List UInt8)
      (writes : (storage.set i worker).workers j = .copying file rest) :
      storage.workers j = .copying file rest := by
    rw [workers_set] at writes
    split at writes
    · exact absurd writes (still file rest)
    · exact writes
  constructor
  · intro row held
    exact keeps _ _ (sound.rows row held)
  · intro j file finished
    have copied := finished
    rw [workers_set] at copied
    split at copied
    · exact done file copied
    · exact keeps _ _ (sound.copied j file copied)
  · intro j file rest writes
    exact sound.copying j file rest (other j file rest writes)
  · intro j k left right leftRest rightRest leftWrites rightWrites same
    exact sound.exclusive j k left right leftRest rightRest (other j left leftRest leftWrites)
      (other k right rightRest rightWrites) same

/-- A worker that writes to a file of its own disturbs no complete one. -/
theorem sound_put (file : LocalFile) (written rest : List UInt8)
    (whole : written ++ rest = file.content)
    (own : ∀ j other otherRest, j ≠ i → storage.workers j = .copying other otherRest →
      other.destination sha256 ≠ file.destination sha256)
    (free : ∀ path digest, Complete sha256 storage path digest → file.destination sha256 ≠ path)
    (sound : StorageSound sha256 storage) :
    StorageSound sha256
      ((storage.set i (.copying file rest)).put (file.destination sha256) written) := by
  have elsewhere (path : List String) (apart : path ≠ file.destination sha256) :
      ((storage.set i (.copying file rest)).put (file.destination sha256) written).disk path =
        storage.disk path := update_of_ne apart _ _
  have workers (j : Nat) :
      ((storage.set i (.copying file rest)).put (file.destination sha256) written).workers j =
        if j = i then .copying file rest else storage.workers j := workers_set storage i _ j
  have keeps (path : List String) (digest : Digest)
      (complete : Complete sha256 storage path digest) :
      Complete sha256 ((storage.set i (.copying file rest)).put (file.destination sha256) written)
        path digest := by
    have apart := free path digest complete
    obtain ⟨⟨content, held, digested⟩, quiet⟩ := complete
    refine ⟨⟨content, (elsewhere path apart.symm).trans held, digested⟩, ?_⟩
    intro j other otherRest writes
    rw [workers] at writes
    split at writes
    · cases writes
      exact apart
    · exact quiet j other otherRest writes
  constructor
  · intro row held
    exact keeps _ _ (sound.rows row held)
  · intro j other finished
    rw [workers] at finished
    split at finished
    · cases finished
    · exact keeps _ _ (sound.copied j other finished)
  · intro j other otherRest writes
    rw [workers] at writes
    split at writes
    · cases writes
      have put : ((storage.set i (.copying file rest)).put (file.destination sha256) written).disk
          (file.destination sha256) = some written := by
        simp [Storage.put]
      exact ⟨written, put, whole⟩
    · next foreign =>
      rw [elsewhere _ (own j other otherRest foreign writes)]
      exact sound.copying j other otherRest writes
  · intro j k left right leftRest rightRest leftWrites rightWrites same
    rw [workers] at leftWrites rightWrites
    by_cases jOwn : j = i <;> by_cases kOwn : k = i
    · exact jOwn.trans kOwn.symm
    · rw [if_pos jOwn] at leftWrites
      rw [if_neg kOwn] at rightWrites
      cases leftWrites
      exact absurd same.symm (own k right rightRest kOwn rightWrites)
    · rw [if_neg jOwn] at leftWrites
      rw [if_pos kOwn] at rightWrites
      cases rightWrites
      exact absurd same (own j left leftRest jOwn leftWrites)
    · rw [if_neg jOwn] at leftWrites
      rw [if_neg kOwn] at rightWrites
      exact sound.exclusive j k left right leftRest rightRest leftWrites rightWrites same

/-- After a crash only the rows matter. -/
theorem sound_idle (quiet : ∀ j, storage.workers j = .idle)
    (rows : ∀ row ∈ storage.table.rows, ∃ content, storage.disk row.path = some content ∧
      sha256 content = row.sha256) : StorageSound sha256 storage := by
  constructor
  · intro row held
    refine ⟨rows row held, ?_⟩
    intro j file rest writes
    rw [quiet] at writes
    cases writes
  · intro j file finished
    rw [quiet] at finished
    cases finished
  · intro j file rest writes
    rw [quiet] at writes
    cases writes
  · intro j k left right leftRest rightRest writes
    rw [quiet] at writes
    cases writes

theorem sound_open [DecidableEq Key] (finds : FindsComplete sha256 storage (.openDestination i))
    (sound : StorageSound sha256 storage) :
    StorageSound sha256 (storageStep sha256 storage (.openDestination i)) := by
  simp only [storageStep]
  cases worker : storage.workers i with
  | hashed file =>
      by_cases present : (storage.disk (file.destination sha256)).isSome
      · simp only [present, ↓reduceIte]
        have complete := finds file worker present
        apply sound_set sha256 storage i _ (fun _ _ same => by cases same) ?_ sound
        intro other same
        cases same
        exact complete_set sha256 storage i _ (fun _ _ same => by cases same) _ _ complete
      · simp only [present, Bool.false_eq_true, ↓reduceIte]
        apply sound_put sha256 storage i file [] file.content rfl ?_ ?_ sound
        · intro j other otherRest _ writes same
          obtain ⟨written, held, _⟩ := sound.copying j other otherRest writes
          rw [same] at held
          simp [held] at present
        · rintro path digest ⟨⟨content, held, _⟩, _⟩ rfl
          simp [held] at present
  | idle => exact sound
  | copying file rest => exact sound
  | copied file => exact sound

theorem sound_write [DecidableEq Key] (count : Nat) (sound : StorageSound sha256 storage) :
    StorageSound sha256 (storageStep sha256 storage (.write i count)) := by
  simp only [storageStep]
  cases worker : storage.workers i with
  | copying file rest =>
      obtain ⟨written, held, whole⟩ := sound.copying i file rest worker
      simp only [held, Option.getD_some]
      apply sound_put sha256 storage i file _ _ ?_ ?_ ?_ sound
      · rw [List.append_assoc, List.take_append_drop, whole]
      · intro j other otherRest foreign writes same
        exact foreign (sound.exclusive j i other file otherRest rest writes worker same)
      · intro path digest complete
        exact complete.2 i file rest worker
  | idle => exact sound
  | hashed file => exact sound
  | copied file => exact sound

theorem sound_close [DecidableEq Key] (sound : StorageSound sha256 storage) :
    StorageSound sha256 (storageStep sha256 storage (.close i)) := by
  simp only [storageStep]
  cases worker : storage.workers i with
  | copying file rest =>
      cases rest with
      | nil =>
          apply sound_set sha256 storage i _ (fun _ _ same => by cases same) ?_ sound
          intro other same
          cases same
          obtain ⟨written, held, whole⟩ := sound.copying i file [] worker
          rw [List.append_nil] at whole
          refine ⟨⟨written, held, congrArg sha256 whole⟩, ?_⟩
          intro j other otherRest writes same
          rw [workers_set] at writes
          split at writes
          · cases writes
          · next foreign =>
            exact foreign (sound.exclusive j i other file otherRest [] writes worker same)
      | cons byte rest => exact sound
  | idle => exact sound
  | hashed file => exact sound
  | copied file => exact sound

/-- The rows after a call: those before it, each under its digest and extension,
and perhaps one for the file itself. -/
theorem rows_stored [DecidableEq Key] (table : FileTable collate) (digest : Digest) (d : Download)
    (row : FileRow) (held : row ∈ (storeDownloadedFile table (some digest) true d).2.rows) :
    (∃ before ∈ table.rows, row.sha256 = before.sha256 ∧ row.fileExt = before.fileExt) ∨
      table.lookup digest = none ∧ row.sha256 = digest ∧
        nullable (varchar 10) (fileOf digest d).fileExt = some row.fileExt := by
  simp only [storeDownloadedFile] at held
  rcases upsertFile_cases table digest d with
    ⟨old, name, _, _, hit⟩ | ⟨fresh, newDigest, newRemote, added, absent, own, ext⟩ |
    ⟨refused, after, failed, same⟩
  · rw [hit, FileTable.rows_hit] at held
    obtain ⟨before, beforeHeld, rfl⟩ := List.mem_map.mp held
    refine Or.inl ⟨before, beforeHeld, ?_⟩
    split <;> exact ⟨rfl, rfl⟩
  · rw [added, FileTable.rows_add] at held
    rcases List.mem_append.mp held with old | new
    · exact Or.inl ⟨row, old, rfl, rfl⟩
    · rw [List.mem_singleton.mp new]
      exact Or.inr ⟨absent, own, ext⟩
  · rw [failed] at held
    exact Or.inl ⟨row, same ▸ held, rfl, rfl⟩

/-- A row that is not cut belongs where its file was copied. -/
theorem path_uncut (digest : Digest) (d : Download) (row : FileRow) (own : row.sha256 = digest)
    (ext : nullable (varchar 10) (fileOf digest d).fileExt = some row.fileExt)
    (uncut : ∀ cut, varchar 10 (storedExtension d.localPath) = some cut →
      cut = storedExtension d.localPath) :
    row.path = storedPath digest (storedExtension d.localPath) := by
  have extension : row.fileExt.getD "" = storedExtension d.localPath := by
    by_cases bare : storedExtension d.localPath = ""
    · simp only [fileOf, bare, ↓reduceIte, nullable, Option.some.injEq] at ext
      rw [← ext, bare]
      rfl
    · simp only [fileOf, bare, ↓reduceIte, nullable, Option.map_eq_some_iff] at ext
      obtain ⟨cut, fits, same⟩ := ext
      rw [← same]
      exact uncut cut fits
  rw [FileRow.path, own, extension]

theorem sound_upsert [DecidableEq Key] (finds : FindsComplete sha256 storage (.upsert i))
    (sound : StorageSound sha256 storage) :
    StorageSound sha256 (storageStep sha256 storage (.upsert i)) := by
  simp only [storageStep]
  cases worker : storage.workers i with
  | copied file =>
      have still : StorageSound sha256 (storage.set i .idle) :=
        sound_set sha256 storage i _ (fun _ _ same => by cases same)
          (fun _ same => by cases same) sound
      have done := complete_set sha256 storage i .idle (fun _ _ same => by cases same) _ _
        (sound.copied i file worker)
      refine ⟨?_, still.copied, still.copying, still.exclusive⟩
      intro row held
      rcases rows_stored storage.table (sha256 file.content) file.download row held with
        ⟨before, beforeHeld, digest, ext⟩ | ⟨fresh, own, ext⟩
      · have kept := still.rows before beforeHeld
        rw [FileRow.path, digest, ext]
        exact kept
      · rw [path_uncut _ file.download row own ext (finds file worker fresh), own]
        exact done
  | idle => exact sound
  | hashed file => exact sound
  | copying file rest => exact sound

theorem sound_storage [DecidableEq Key] (op : StorageOp) (sound : StorageSound sha256 storage)
    (finds : FindsComplete sha256 storage op) :
    StorageSound sha256 (storageStep sha256 storage op) := by
  cases op with
  | take i file =>
      simp only [storageStep]
      cases storage.workers i with
      | idle =>
          exact sound_set sha256 storage i _ (fun _ _ same => by cases same)
            (fun _ same => by cases same) sound
      | _ => exact sound
  | openDestination i => exact sound_open sha256 storage i finds sound
  | write i count => exact sound_write sha256 storage i count sound
  | close i => exact sound_close sha256 storage i sound
  | upsert i => exact sound_upsert sha256 storage i finds sound
  | fail i =>
      exact sound_set sha256 storage i _ (fun _ _ same => by cases same)
        (fun _ same => by cases same) sound
  | crash => exact sound_idle sha256 _ (fun _ => rfl) fun row held => (sound.rows row held).1

theorem sound_run [DecidableEq Key] (ops : List StorageOp)
    (finds : EveryStep (storageStep sha256) (Storage.initial : Storage collate)
      (FindsComplete sha256) ops) :
    StorageSound sha256 (run (storageStep sha256) (Storage.initial : Storage collate) ops) := by
  apply everyStep_invariant _ _ _ (FindsComplete sha256) ?_ ?_ ops finds
  · exact sound_idle sha256 _ (fun _ => rfl) fun row held => by cases held
  · exact fun storage op => sound_storage sha256 storage op

/-- Rows have their bytes in every run whose copies only ever find complete
destinations. -/
theorem rows_have_bytes [DecidableEq Key] (ops : List StorageOp)
    (finds : EveryStep (storageStep sha256) (Storage.initial : Storage collate)
      (FindsComplete sha256) ops) :
    EveryState (storageStep sha256) (Storage.initial : Storage collate) (RowsStored sha256)
      ops := by
  intro before after split
  rw [split] at finds
  have sound := sound_run sha256 before (everyStep_append _ _ _ before after finds).1
  intro row held
  exact (sound.rows row held).1

end

end

/-- SHA-256 of no bytes and, wherever else it is asked, of "abc". -/
def sampleSha256 (content : List UInt8) : Digest :=
  if content = [] then
    ⟨[0xe3, 0xb0, 0xc4, 0x42, 0x98, 0xfc, 0x1c, 0x14, 0x9a, 0xfb, 0xf4, 0xc8,
      0x99, 0x6f, 0xb9, 0x24, 0x27, 0xae, 0x41, 0xe4, 0x64, 0x9b, 0x93, 0x4c,
      0xa4, 0x95, 0x99, 0x1b, 0x78, 0x52, 0xb8, 0x55], rfl⟩
  else
    ⟨[0xba, 0x78, 0x16, 0xbf, 0x8f, 0x01, 0xcf, 0xea, 0x41, 0x41, 0x40, 0xde,
      0x5d, 0xae, 0x22, 0x23, 0xb0, 0x03, 0x61, 0xa3, 0x96, 0x17, 0x7a, 0x9c,
      0xb4, 0x10, 0xff, 0x61, 0xf2, 0x00, 0x15, 0xad], rfl⟩

def abc : LocalFile where
  content := [97, 98, 99]
  download := ⟨"photos/abc.jpg", "remote", 3, .photo, ""⟩

/-- One worker copies the file, another finds it. -/
def copiedThenFound : List StorageOp :=
  [.take 0 abc, .openDestination 0, .write 0 2, .write 0 2, .close 0, .take 1 abc] ++
    [.openDestination 1] ++ [.upsert 0] ++ [.upsert 1]

theorem rows_have_bytes_at_second_copy :
    EveryState (storageStep sampleSha256) (Storage.initial : Storage foldCase)
      (RowsStored sampleSha256) copiedThenFound := by
  apply rows_have_bytes
  have uncut : ∀ cut, varchar 10 (storedExtension abc.download.localPath) = some cut →
      cut = storedExtension abc.download.localPath := by
    intro cut fits
    have kept : varchar 10 (storedExtension abc.download.localPath) =
        some (storedExtension abc.download.localPath) := by decide
    exact Option.some.inj (fits.symm.trans kept)
  have creates : FindsComplete sampleSha256 (run (storageStep sampleSha256)
      (Storage.initial : Storage foldCase) [.take 0 abc]) (.openDestination 0) := by
    intro file worker present
    obtain rfl : abc = file := Worker.hashed.inj worker
    cases present
  have first : EveryStep (storageStep sampleSha256) (Storage.initial : Storage foldCase)
      (FindsComplete sampleSha256)
      [.take 0 abc, .openDestination 0, .write 0 2, .write 0 2, .close 0, .take 1 abc] :=
    forall_split_cons _ _ _ trivial (forall_split_cons _ _ _ creates
      (forall_split_cons _ _ _ trivial (forall_split_cons _ _ _ trivial
        (forall_split_cons _ _ _ trivial (forall_split_cons _ _ _ trivial
          (forall_split_nil _))))))
  have copied := (sound_run sampleSha256 _ first).copied 0 abc (by decide)
  rw [copiedThenFound, everyStep_snoc, everyStep_snoc, everyStep_snoc]
  refine ⟨⟨⟨first, ?_⟩, ?_⟩, ?_⟩
  · intro file worker _
    obtain rfl : abc = file := Worker.hashed.inj worker
    exact copied
  · intro file worker _
    obtain rfl : abc = file := Worker.copied.inj worker
    exact uncut
  · intro file worker _
    obtain rfl : abc = file := Worker.copied.inj worker
    exact uncut

/-- The first copy is interrupted right after it created its destination. -/
def interrupted : List StorageOp :=
  [.take 0 abc, .openDestination 0, .crash, .take 0 abc, .openDestination 0, .upsert 0]

theorem interrupted_copy_taken_for_complete :
    ¬ EveryState (storageStep sampleSha256) (Storage.initial : Storage foldCase)
      (RowsStored sampleSha256) interrupted := by
  intro every
  have law := everyState_last _ _ _ _ every
  obtain ⟨content, held, digested⟩ := law
    { id := 1
      tgFileId := "remote"
      fileType := .photo
      fileSize := 3
      sha256 := sampleSha256 abc.content
      fileExt := some "jpg"
      origFileName := ""
      hitCount := 1 } (by decide)
  have unfinished : (run (storageStep sampleSha256) (Storage.initial : Storage foldCase)
      interrupted).disk (abc.destination sampleSha256) = some [] := by decide
  have same : content = [] := Option.some.inj (held.symm.trans unfinished)
  rw [same] at digested
  revert digested
  decide

end TgLoggerd

import TgLoggerd.FileBytes

/-!
`sha256_file_hex` over every course the reads of a file can take. A read fills the
buffer, or it stops the loop: at the end of the file, or because reading failed. The
loop does not ask which, so what was read is hashed either way.
-/

namespace TgLoggerd

/-- The reads of a file with this content, each with the bytes it delivers. -/
inductive Reads : List UInt8 → Type where
  | filled (bytes rest : List UInt8) (later : Reads rest) : Reads (bytes ++ rest)
  | ended (bytes : List UInt8) : Reads bytes
  /-- The stream goes bad, and the rest is never read. -/
  | failed (bytes rest : List UInt8) : Reads (bytes ++ rest)

/-- The functions of EVP that are called, `none` where one reports a failure. -/
structure Evp (Ctx : Type) where
  new : Option Ctx
  init : Ctx → Option Ctx
  update : Ctx → List UInt8 → Ctx
  final : Ctx → Option (List UInt8)

section

variable {Ctx : Type} (evp : Evp Ctx)

/-- One turn of the loop past the read. -/
def Evp.take (ctx : Ctx) (bytes : List UInt8) : Ctx :=
  if 0 < bytes.length then evp.update ctx bytes else ctx

/-- `while (f)`: a stream that has ended or failed is read no more. -/
def hashReads : {content : List UInt8} → Ctx → Reads content → Ctx
  | _, ctx, .filled bytes _ later => hashReads (evp.take ctx bytes) later
  | _, ctx, .ended bytes => evp.take ctx bytes
  | _, ctx, .failed bytes _ => evp.take ctx bytes

/-- `opened` are the reads of the stream, if the file could be opened. -/
def sha256FileHex {content : List UInt8} (opened : Option (Reads content)) : Option String :=
  opened.bind fun reads =>
    (evp.new.bind evp.init).bind fun ctx =>
      (evp.final (hashReads evp ctx reads)).bind fun digest =>
        if digest.length ≠ 32 then none else some (String.ofList (HexCodec.encode digest))

/-- What the reads deliver together. -/
def Reads.delivered : {content : List UInt8} → Reads content → List UInt8
  | _, .filled bytes _ later => bytes ++ later.delivered
  | _, .ended bytes => bytes
  | _, .failed bytes _ => bytes

/-- What EVP makes of some bytes at once. -/
def Evp.digest (bytes : List UInt8) : Option (List UInt8) :=
  (evp.new.bind evp.init).bind fun ctx => evp.final (evp.update ctx bytes)

/-- What OpenSSL documents: updates over chunks are one update over all of them, and
a digest that is given out is the SHA-256 of what it was updated with. -/
structure Evp.Computes (sha256 : List UInt8 → Digest) : Prop where
  nothing : ∀ ctx, evp.update ctx [] = ctx
  chunks : ∀ ctx left right, evp.update (evp.update ctx left) right = evp.update ctx (left ++ right)
  digest : ∀ bytes digest, evp.digest bytes = some digest → digest = (sha256 bytes).octets

theorem delivered_initial {content : List UInt8} (reads : Reads content) :
    reads.delivered <+: content := by
  induction reads with
  | filled bytes rest later ih => exact (List.prefix_append_right_inj bytes).mpr ih
  | ended bytes => exact List.prefix_refl bytes
  | failed bytes rest => exact List.prefix_append bytes rest

variable (sha256 : List UInt8 → Digest)

theorem take_update (computes : evp.Computes sha256) (ctx : Ctx) (bytes : List UInt8) :
    evp.take ctx bytes = evp.update ctx bytes := by
  simp only [Evp.take]
  split
  · rfl
  · next empty =>
    rw [List.eq_nil_of_length_eq_zero (Nat.eq_zero_of_not_pos empty), computes.nothing]

/-- However the reads are cut, the loop hashes what they deliver. -/
theorem hashReads_update (computes : evp.Computes sha256) {content : List UInt8}
    (reads : Reads content) (ctx : Ctx) :
    hashReads evp ctx reads = evp.update ctx reads.delivered := by
  induction reads generalizing ctx with
  | filled bytes rest later ih =>
      rw [hashReads, ih, take_update evp sha256 computes, computes.chunks, Reads.delivered]
  | ended bytes => exact take_update evp sha256 computes ctx bytes
  | failed bytes rest => exact take_update evp sha256 computes ctx bytes

/-- The result is the digest of what was read, if EVP gives one. -/
theorem sha256FileHex_eq (computes : evp.Computes sha256) {content : List UInt8}
    (opened : Option (Reads content)) :
    sha256FileHex evp opened = opened.bind fun reads =>
      (evp.digest reads.delivered).map fun _ => (sha256 reads.delivered).hex := by
  cases opened with
  | none => rfl
  | some reads =>
      simp only [sha256FileHex, Option.bind_some, hashReads_update evp sha256 computes]
      have given := computes.digest reads.delivered
      simp only [Evp.digest] at given ⊢
      cases ready : evp.new.bind evp.init with
      | none => rfl
      | some ctx =>
          simp only [ready, Option.bind_some] at given ⊢
          cases done : evp.final (evp.update ctx reads.delivered) with
          | none => rfl
          | some digest =>
              have same := given digest done
              -- A SHA-256 has 32 octets, so the check of the length refuses none.
              rw [Option.bind_some, same, if_neg (by simp [(sha256 _).complete])]
              rfl

/-- Whatever `sha256_file_hex` gives is the digest of the whole content, as 64 small
hexadecimal digits, and no row is recorded under another one. -/
structure DigestsWhole {content : List UInt8} (opened : Option (Reads content)) : Prop where
  whole : ∀ hex, sha256FileHex evp opened = some hex → hex = (sha256 content).hex
  digits : ∀ hex, sha256FileHex evp opened = some hex →
    hex.toList.length = 64 ∧ ∀ c ∈ hex.toList, c ∈ "0123456789abcdef".toList
  uncut : ∀ bytes, bytes <+: content → bytes ≠ content →
    sha256FileHex evp opened ≠ some (sha256 bytes).hex
  recorded : ∀ {Key : Type} [DecidableEq Key] {collate : String → Key} (table : FileTable collate)
    (copied : Bool) (d : Download),
    ∀ row ∈ (storeDownloadedFile table ((sha256FileHex evp opened).bind unhex) copied d).2.rows,
      (∃ before ∈ table.rows, row.sha256 = before.sha256) ∨ row.sha256 = sha256 content

theorem digit_small (half : Nat) : HexCodec.digit half ∈ "0123456789abcdef".toList := by
  by_cases small : half < 16
  · have every : ∀ half < 16, HexCodec.digit half ∈ "0123456789abcdef".toList := by decide
    exact every half small
  · rw [HexCodec.digit, List.getD_eq_getElem?_getD,
      List.getElem?_eq_none (Nat.le_of_not_lt small), Option.getD_none]
    decide

theorem hex_digits (digest : Digest) :
    digest.hex.toList.length = 64 ∧ ∀ c ∈ digest.hex.toList, c ∈ "0123456789abcdef".toList := by
  refine ⟨hex_length digest, ?_⟩
  intro c member
  rw [Digest.hex, String.toList_ofList, HexCodec.encode, List.mem_flatMap] at member
  obtain ⟨octet, _, written⟩ := member
  rcases List.mem_pair.mp written with rfl | rfl
  · exact digit_small _
  · exact digit_small _

/-- A file that is stored under a digest is recorded under it, if at all. -/
theorem recorded_under {Key : Type} [DecidableEq Key] {collate : String → Key}
    (table : FileTable collate) (digest : Digest) (copied : Bool) (d : Download) (row : FileRow)
    (held : row ∈ (storeDownloadedFile table (some digest) copied d).2.rows) :
    (∃ before ∈ table.rows, row.sha256 = before.sha256) ∨ row.sha256 = digest := by
  cases copied with
  | false => exact Or.inl ⟨row, held, rfl⟩
  | true =>
      rcases rows_stored table digest d row held with ⟨before, old, same, _⟩ | ⟨_, own, _⟩
      · exact Or.inl ⟨before, old, same⟩
      · exact Or.inr own

/-- The digest is that of the whole content exactly if the reads that EVP gives a
digest of deliver all of it. -/
theorem digests_whole_iff (computes : evp.Computes sha256) {content : List UInt8}
    (noCollision : ∀ bytes, bytes <+: content → sha256 bytes = sha256 content → bytes = content)
    (opened : Option (Reads content)) :
    DigestsWhole evp sha256 opened ↔
      ∀ reads, opened = some reads → (evp.digest reads.delivered).isSome →
        reads.delivered = content := by
  have result := sha256FileHex_eq evp sha256 computes opened
  constructor
  · rintro digests reads rfl given
    obtain ⟨digest, given⟩ := Option.isSome_iff_exists.mp given
    rw [Option.bind_some, given, Option.map_some] at result
    -- What was read is a prefix with the digest of the whole, so it is the whole.
    exact noCollision _ (delivered_initial reads)
      (hex_injective _ _ (digests.whole _ result))
  · intro delivers
    have whole (hex : String) (gives : sha256FileHex evp opened = some hex) :
        hex = (sha256 content).hex := by
      rw [result] at gives
      obtain ⟨reads, found, gives⟩ := Option.bind_eq_some_iff.mp gives
      obtain ⟨digest, given, rfl⟩ := Option.map_eq_some_iff.mp gives
      rw [delivers reads found (by rw [given]; rfl)]
    refine ⟨whole, ?_, ?_, ?_⟩
    · intro hex gives
      rw [whole hex gives]
      exact hex_digits _
    · intro bytes initial cut gives
      exact cut (noCollision bytes initial (hex_injective _ _ (whole _ gives)))
    · intro Key _ collate table copied d row held
      cases gives : sha256FileHex evp opened with
      | none =>
          rw [gives] at held
          exact Or.inl ⟨row, held, rfl⟩
      | some hex =>
          rw [gives, whole hex gives, Option.bind_some, unhex_hex] at held
          exact recorded_under table _ copied d row held

end

/-- SHA-256 of no bytes and, wherever else it is asked, of "a". -/
def letterSha256 (content : List UInt8) : Digest :=
  if content = [] then sampleSha256 []
  else
    ⟨[0xca, 0x97, 0x81, 0x12, 0xca, 0x1b, 0xbd, 0xca, 0xfa, 0xc2, 0x31, 0xb3,
      0x9a, 0x23, 0xdc, 0x4d, 0xa7, 0x86, 0xef, 0xf8, 0x14, 0x7c, 0x4e, 0x72,
      0xb9, 0x80, 0x77, 0x85, 0xaf, 0xee, 0x48, 0xbb], rfl⟩

/-- A context that keeps what it was updated with. -/
def letterEvp : Evp (List UInt8) where
  new := some []
  init := some
  update := fun ctx bytes => ctx ++ bytes
  final := fun ctx => some (letterSha256 ctx).octets

theorem letterEvp_computes : letterEvp.Computes letterSha256 := by
  refine ⟨List.append_nil, List.append_assoc, ?_⟩
  rintro bytes digest ⟨⟩
  rfl

/-- The file "a" fills no buffer and ends. -/
theorem digests_whole_at_letter :
    DigestsWhole letterEvp letterSha256 (some (.ended [97])) := by
  refine (digests_whole_iff letterEvp letterSha256 letterEvp_computes ?_ _).mpr ?_
  · intro bytes initial same
    rcases List.prefix_cons_iff.mp initial with rfl | ⟨rest, rfl, nothing⟩
    · revert same
      decide
    · rw [List.prefix_nil.mp nothing]
  · rintro reads ⟨⟩ _
    rfl

/-- The first read of the file "a" fails, and it is taken for an empty one. -/
theorem failed_read_digested :
    ¬ DigestsWhole letterEvp letterSha256 (some (.failed [] [97])) := by
  intro digests
  have same := digests.whole (letterSha256 []).hex (by decide)
  revert same
  decide

end TgLoggerd

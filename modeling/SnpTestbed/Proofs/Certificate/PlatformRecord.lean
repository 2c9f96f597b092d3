import SnpTestbed.Error
import SnpTestbed.Proofs.Certificate.Grammar

/-!
# The record of a platform

Two lengths guard a record. The bytes have to reach over the record, and the size that
the record claims for itself has to cover it; the claimed size is not compared with the
bytes, so a record may claim more than there is. What passes both guards is written
again as the first eight bytes, and what is written passes them if its size does.
-/
namespace SnpTestbed.PlatformInfo

variable {bytes : Bytes} {info : PlatformInfo}

@[simp] theorem length_bytes (info : PlatformInfo) : info.bytes.length = recordSize := by
  rw [PlatformInfo.bytes, List.length_append, LittleEndian.length_encode,
    LittleEndian.length_encode]
  rfl

theorem parse_of_short (short : bytes.length < recordSize) :
    parse bytes = .error (.tooShort bytes.length) :=
  if_pos short

theorem parse_of_long (long : recordSize ≤ bytes.length) :
    parse bytes =
      if (LittleEndian.word32 bytes).toNat < recordSize then
        .error (.sizeTooSmall (LittleEndian.word32 bytes))
      else .ok ⟨LittleEndian.word32 bytes, LittleEndian.word32 (bytes.drop 4)⟩ :=
  if_neg (Nat.not_lt_of_le long)

/-- The words of a record are written as they stand in the bytes. -/
theorem bytes_words (long : recordSize ≤ bytes.length) :
    PlatformInfo.bytes ⟨LittleEndian.word32 bytes, LittleEndian.word32 (bytes.drop 4)⟩ =
      bytes.take recordSize := by
  have long : 8 ≤ bytes.length := long
  have behind : 4 ≤ (bytes.drop 4).length := by
    rw [List.length_drop]
    omega
  rw [PlatformInfo.bytes, LittleEndian.encode_word32 (by omega), LittleEndian.encode_word32 behind]
  exact List.take_add.symm

/-- The words of a record are read where they were written. -/
theorem words_bytes_append (info : PlatformInfo) (rest : Bytes) :
    LittleEndian.word32 (info.bytes ++ rest) = info.size ∧
      LittleEndian.word32 ((info.bytes ++ rest).drop 4) = info.signature := by
  rw [PlatformInfo.bytes, List.append_assoc, LittleEndian.word32_encode_append,
    List.drop_left' (LittleEndian.length_encode 4 info.size.toNat),
    LittleEndian.word32_encode_append]
  exact ⟨rfl, rfl⟩

/-- What begins with the bytes of a record reaches over one, so the size that the record claims
decides. -/
theorem parse_bytes (info : PlatformInfo) (rest : Bytes) :
    parse (info.bytes ++ rest) =
      if info.size.toNat < recordSize then .error (.sizeTooSmall info.size) else .ok info := by
  have long : recordSize ≤ (info.bytes ++ rest).length := by
    rw [List.length_append, length_bytes]
    exact Nat.le_add_right ..
  obtain ⟨size, signature⟩ := words_bytes_append info rest
  rw [parse_of_long long, size, signature]

/-- A record that claims no less than its size reads back, whatever follows it. -/
theorem parse_bytes_append (claims : recordSize ≤ info.size.toNat) (rest : Bytes) :
    parse (info.bytes ++ rest) = .ok info := by
  rw [parse_bytes, if_neg (Nat.not_lt_of_le claims)]

/-- What is read is the record whose bytes stand first, under both guards. -/
theorem parse_eq_ok_iff :
    parse bytes = .ok info ↔
      (recordSize ≤ bytes.length ∧ recordSize ≤ LittleEndian.decode (bytes.take 4)) ∧
        info.bytes = bytes.take recordSize := by
  rw [← LittleEndian.toNat_word32]
  constructor
  · intro read
    rcases Nat.lt_or_ge bytes.length recordSize with short | long
    · rw [parse_of_short short] at read
      contradiction
    · rw [parse_of_long long] at read
      split at read
      · contradiction
      · next claims =>
        injection read with same
        rw [← same]
        exact ⟨⟨long, Nat.le_of_not_lt claims⟩, bytes_words long⟩
  · rintro ⟨⟨-, claims⟩, taken⟩
    have begins : bytes = info.bytes ++ bytes.drop recordSize := by
      rw [taken, List.take_append_drop]
    rw [begins, (words_bytes_append info _).1] at claims
    rw [begins]
    exact parse_bytes_append claims _

/-- Reads a record with every access checked: where one would reach beyond the bytes, nothing is
given. -/
def parseChecked? (bytes : Bytes) : Option (Except Fault PlatformInfo) :=
  if bytes.length < recordSize then some (.error (.tooShort bytes.length))
  else do
    let size ← Block.window? 4 bytes 0
    if LittleEndian.decode size.val < recordSize then
      return .error (.sizeTooSmall (.ofNat (LittleEndian.decode size.val)))
    else
      let signature ← Block.window? 4 bytes 4
      return .ok
        ⟨.ofNat (LittleEndian.decode size.val), .ofNat (LittleEndian.decode signature.val)⟩

/-- Behind the guard on the length no check fails. -/
theorem parseChecked?_eq (bytes : Bytes) : parseChecked? bytes = some (parse bytes) := by
  unfold parseChecked?
  rcases Nat.lt_or_ge bytes.length recordSize with short | long
  · rw [if_pos short, parse_of_short short]
  · have long' : 8 ≤ bytes.length := long
    have sizeInside : 0 + 4 ≤ bytes.length := by omega
    have signatureInside : 4 + 4 ≤ bytes.length := by omega
    rw [if_neg (Nat.not_lt_of_le long), parse_of_long long, Block.window?_of_le sizeInside,
      Block.window?_of_le signatureInside, LittleEndian.toNat_word32]
    simp only [Option.bind_eq_bind, Option.bind_some, Block.val_ofWindow, Bytes.slice,
      List.drop_zero]
    split
    · rfl
    · rfl

/-- Bytes are read as a record exactly if they reach over one and its first word covers it, and the
record is then the one whose bytes stand first. So a record of a sufficient size is read back from
whatever begins with its bytes, and one of a smaller size is an error of the certificate table
there. Nothing beyond the bytes is looked at. -/
theorem record_readBack :
    (∀ bytes : Bytes, (∃ info, parse bytes = .ok info) ↔
      8 ≤ bytes.length ∧ 8 ≤ LittleEndian.decode (bytes.take 4)) ∧
    (∀ (bytes : Bytes) (info : PlatformInfo), parse bytes = .ok info →
      info.bytes = bytes.take 8) ∧
    (∀ (info : PlatformInfo) (rest : Bytes),
      8 ≤ info.size.toNat → parse (info.bytes ++ rest) = .ok info) ∧
    (∀ (info : PlatformInfo) (rest : Bytes), info.size.toNat < 8 →
      (parse (info.bytes ++ rest)).mapError (GuestError.certificateTable ∘ .platformInfo) =
        .error (.certificateTable (.platformInfo (.sizeTooSmall info.size)))) ∧
    ∀ bytes : Bytes, parseChecked? bytes = some (parse bytes) := by
  refine ⟨fun bytes => ⟨?guarded, ?passes⟩, fun bytes info read => (parse_eq_ok_iff.mp read).2,
    fun info rest claims => parse_bytes_append claims rest, fun info rest small => ?small,
    parseChecked?_eq⟩
  case guarded =>
    rintro ⟨info, read⟩
    exact (parse_eq_ok_iff.mp read).1
  case passes =>
    intro guards
    exact ⟨_, parse_eq_ok_iff.mpr ⟨guards, bytes_words guards.1⟩⟩
  case small =>
    have small : info.size.toNat < recordSize := small
    rw [parse_bytes, if_pos small]
    rfl

theorem record_readBack_overclaiming :
    let record : Bytes := [8, 0, 0, 1, 0x10, 0x0F, 0xA0, 0, 0xFF]
    let info : PlatformInfo := ⟨0x01000008, 0x00A00F10⟩
    let small : PlatformInfo := ⟨7, 0x00A00F10⟩
    8 ≤ info.size.toNat ∧ small.size.toNat < 8 ∧ parse record = .ok info ∧
      info.bytes = record.take 8 ∧
      (parse (small.bytes ++ record)).mapError (GuestError.certificateTable ∘ .platformInfo) =
        .error (.certificateTable (.platformInfo (.sizeTooSmall 7))) := by
  intro record info small
  obtain ⟨_, written, readBack, refused, _⟩ := record_readBack
  have claims : 8 ≤ info.size.toNat := by decide
  have claimsLess : small.size.toNat < 8 := by decide
  have begins : record = info.bytes ++ [0xFF] := by decide
  have read : parse record = .ok info := begins ▸ readBack info [0xFF] claims
  exact ⟨claims, claimsLess, read, written record info read, refused small record claimsLess⟩

end SnpTestbed.PlatformInfo

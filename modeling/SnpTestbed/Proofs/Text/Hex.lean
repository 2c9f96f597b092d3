import SnpTestbed.Proofs.FirstFailure
import SnpTestbed.Text.Hex

/-!
# Hexadecimal text tells byte strings apart

Every byte takes two digits, so the text of a byte string can be cut where the string
can, and no two byte strings share a text. Reading allows digits of either case and nothing
else: `decode_eq_ok_iff` says that a text is read as the byte string whose text it is in
lower case. The reader works on octets, so this goes through the octets of single characters.
-/
namespace SnpTestbed.Hex

/-- The sixteen digits differ. -/
theorem digit_inj {left right : Nat} (small : left < 16) (small' : right < 16) :
    digit left = digit right ↔ left = right := by
  have table : ∀ left right : Fin 16, digit left = digit right → left = right := by decide
  constructor
  · intro same
    exact Fin.mk.inj_iff.mp (table ⟨left, small⟩ ⟨right, small'⟩ same)
  · rintro rfl
    rfl

theorem digitPair_inj {left right : UInt8} : digitPair left = digitPair right ↔ left = right := by
  constructor
  · intro same
    have bounded := left.toNat_lt
    have bounded' := right.toNat_lt
    obtain ⟨upper, lower⟩ := List.cons_eq_cons.mp same
    have upperSame : left.toNat / 16 = right.toNat / 16 :=
      (digit_inj (by omega) (by omega)).mp upper
    have lowerSame : left.toNat % 16 = right.toNat % 16 :=
      (digit_inj (by omega) (by omega)).mp (List.head_eq_of_cons_eq lower)
    apply UInt8.toNat_inj.mp
    omega
  · rintro rfl
    rfl

@[simp] theorem toList_encode (bytes : Bytes) :
    (encode bytes).toList = bytes.flatMap digitPair :=
  String.toList_ofList

/-- Every character of a text is one of sixteen digits. -/
theorem exists_digit_of_mem_encode {bytes : Bytes} {c : Char}
    (inside : c ∈ (encode bytes).toList) : ∃ value : Fin 16, c = digit value := by
  rw [toList_encode] at inside
  obtain ⟨byte, _, digits⟩ := List.mem_flatMap.mp inside
  have bounded := byte.toNat_lt
  rcases List.mem_cons.mp digits with upper | lower
  · exact ⟨⟨byte.toNat / 16, by omega⟩, upper⟩
  · exact ⟨⟨byte.toNat % 16, by omega⟩, List.mem_singleton.mp lower⟩

theorem length_flatMap_digitPair (bytes : Bytes) :
    (bytes.flatMap digitPair).length = 2 * bytes.length := by
  induction bytes with
  | nil => rfl
  | cons byte rest hypothesis =>
    rw [List.flatMap_cons, List.length_append, hypothesis, List.length_cons]
    show 2 + 2 * rest.length = 2 * (rest.length + 1)
    omega

theorem flatMap_digitPair_inj {left right : Bytes} :
    left.flatMap digitPair = right.flatMap digitPair ↔ left = right := by
  constructor
  · intro same
    induction left generalizing right with
    | nil =>
      have lengths := congrArg List.length same
      rw [length_flatMap_digitPair, length_flatMap_digitPair, List.length_nil] at lengths
      exact (List.eq_nil_of_length_eq_zero (by omega)).symm
    | cons byte rest hypothesis =>
      cases right with
      | nil => contradiction
      | cons other others =>
        obtain ⟨first, later⟩ := List.append_inj same rfl
        rw [digitPair_inj.mp first, hypothesis later]
  · rintro rfl
    rfl

/-- Byte strings with the same text are the same. -/
theorem encode_inj {left right : Bytes} : encode left = encode right ↔ left = right := by
  rw [← String.toList_inj, toList_encode, toList_encode, flatMap_digitPair_inj]

/-- The values of a byte's two digits. -/
def digitValues (byte : UInt8) : List Nat :=
  [byte.toNat / 16, byte.toNat % 16]

theorem digitValue?_lt {octet : UInt8} {value : Nat} (read : digitValue? octet = some value) :
    value < 16 := by
  simp only [digitValue?] at read
  split at read
  · cases read
    omega
  · split at read
    · cases read
      omega
    · split at read
      · cases read
        omega
      · contradiction

/-- A byte is made of the values of its two digits. -/
theorem ofNat_eq_iff {upper lower : Nat} (small : upper < 16) (small' : lower < 16)
    {byte : UInt8} :
    UInt8.ofNat (16 * upper + lower) = byte ↔
      upper = byte.toNat / 16 ∧ lower = byte.toNat % 16 := by
  have bounded := byte.toNat_lt
  have whole : 16 * upper + lower < UInt8.size := by
    show _ < 256
    omega
  rw [← UInt8.toNat_inj, UInt8.toNat_ofNat_of_lt' whole]
  omega

theorem length_flatMap_digitValues (bytes : Bytes) :
    (bytes.flatMap digitValues).length = 2 * bytes.length := by
  rw [List.length_flatMap, show (fun byte => (digitValues byte).length) = fun _ => 2 from rfl,
    List.map_const', List.sum_replicate_nat, Nat.mul_comm]

/-- Octets are read as the bytes whose digit values they are. -/
theorem decodePairs_eq_ok_iff {index : Nat} {octets bytes : Bytes} :
    decodePairs index octets = .ok bytes ↔
      octets.map digitValue? = (bytes.flatMap digitValues).map some := by
  fun_induction decodePairs index octets generalizing bytes with
  | case1 index =>
    cases bytes with
    | nil => exact iff_of_true rfl rfl
    | cons byte rest => exact iff_of_false nofun nofun
  | case2 index octet =>
    refine iff_of_false nofun fun same => ?_
    have lengths := congrArg List.length same
    rw [List.length_map, List.length_map, length_flatMap_digitValues,
      List.length_singleton] at lengths
    omega
  | case3 index high low rest unread =>
    refine iff_of_false nofun ?_
    cases bytes with
    | nil => exact nofun
    | cons byte others => simp [digitValues, unread]
  | case4 index high low rest upper unread read =>
    refine iff_of_false nofun ?_
    cases bytes with
    | nil => exact nofun
    | cons byte others => simp [digitValues, unread]
  | case5 index high low rest upper lower read read' hypothesis =>
    rw [FirstFailure.map_eq_ok_iff, List.map_cons, List.map_cons, read, read']
    cases bytes with
    | nil => exact iff_of_false nofun nofun
    | cons byte others =>
      have first := @ofNat_eq_iff upper lower (digitValue?_lt read') (digitValue?_lt read) byte
      have later := @hypothesis others
      show _ ↔ some upper :: some lower :: rest.map digitValue? =
        some (byte.toNat / 16) :: some (byte.toNat % 16) :: (others.flatMap digitValues).map some
      simp only [List.cons.injEq, Option.some_inj, ← later, first]
      constructor
      · rintro ⟨tail, made, ⟨upperSame, lowerSame⟩, rfl⟩
        exact ⟨upperSame, lowerSame, made⟩
      · rintro ⟨upperSame, lowerSame, made⟩
        exact ⟨others, made, ⟨upperSame, lowerSame⟩, rfl⟩

/-- An octet beyond ASCII is no digit. -/
theorem digitValue?_of_high {value : Nat} (high : 128 ≤ value) (fits : value < 256) :
    digitValue? (UInt8.ofNat value) = none := by
  have exact : (UInt8.ofNat value).toNat = value := UInt8.toNat_ofNat_of_lt' fits
  simp only [digitValue?, exact]
  rw [if_neg (by omega), if_neg (by omega), if_neg (by omega)]

theorem utf8EncodeChar_of_ascii {c : Char} (ascii : c.toNat < 128) :
    String.utf8EncodeChar c = [UInt8.ofNat c.toNat] :=
  if_pos (Nat.le_of_lt_succ ascii)

/-- What a character beyond ASCII starts with is no digit. -/
theorem utf8EncodeChar_of_high {c : Char} (high : 128 ≤ c.toNat) :
    ∃ octet rest, String.utf8EncodeChar c = octet :: rest ∧ digitValue? octet = none := by
  have beyond : ¬ c.val.toNat ≤ 0x7f := Nat.not_le_of_lt high
  unfold String.utf8EncodeChar
  simp only [if_neg beyond]
  split
  · exact ⟨_, _, rfl, digitValue?_of_high (by omega) (by omega)⟩
  · split
    · exact ⟨_, _, rfl, digitValue?_of_high (by omega) (by omega)⟩
    · exact ⟨_, _, rfl, digitValue?_of_high (by omega) (by omega)⟩

/-- The octet of an ASCII character has the value of the digit that the character is in lower
case. -/
theorem digitValue?_eq_some_iff {c : Char} {value : Nat} (ascii : c.toNat < 128)
    (small : value < 16) :
    digitValue? (UInt8.ofNat c.toNat) = some value ↔ c.toLower = digit value := by
  have table : ∀ code < 128, ∀ value < 16,
      digitValue? (UInt8.ofNat code) = some value ↔ (Char.ofNat code).toLower = digit value := by
    decide +kernel
  have entry := table c.toNat ascii value small
  rwa [Char.ofNat_toNat] at entry

theorem toLower_ne_digit {c : Char} {value : Nat} (high : 128 ≤ c.toNat) (small : value < 16) :
    c.toLower ≠ digit value := by
  have table : ∀ value < 16, (digit value).toNat < 128 := by decide
  have lower : c.toLower = c := by
    refine dif_neg fun upper => ?_
    have bounded : c.toNat ≤ 90 := upper.2
    omega
  rintro same
  have ascii := table value small
  rw [← same, lower] at ascii
  omega

/-- Characters are encoded as octets with these digit values if they are these digits in lower
case. -/
theorem map_digitValue?_eq_iff {characters : List Char} {values : List Nat}
    (small : ∀ value ∈ values, value < 16) :
    (characters.flatMap String.utf8EncodeChar).map digitValue? = values.map some ↔
      characters.map Char.toLower = values.map digit := by
  induction characters generalizing values with
  | nil => cases values <;> simp
  | cons c rest hypothesis =>
    cases values with
    | nil => simp [String.utf8EncodeChar_ne_nil]
    | cons value others =>
      obtain ⟨first, later⟩ := List.forall_mem_cons.mp small
      rw [List.flatMap_cons, List.map_cons, List.map_cons, List.map_cons, List.map_append]
      rcases Nat.lt_or_ge c.toNat 128 with ascii | high
      · rw [utf8EncodeChar_of_ascii ascii]
        show digitValue? _ :: List.map digitValue? _ = _ ↔ _
        rw [List.cons_eq_cons, List.cons_eq_cons, digitValue?_eq_some_iff ascii first,
          hypothesis later]
      · -- Neither the first octet nor the character is a digit, so both sides fail here.
        obtain ⟨octet, octets, encoded, unread⟩ := utf8EncodeChar_of_high high
        rw [encoded, List.map_cons, unread]
        refine iff_of_false nofun fun same => ?_
        exact toLower_ne_digit high first (List.head_eq_of_cons_eq same)

theorem ofText_eq_flatMap (text : String) :
    Bytes.ofText text = text.toList.flatMap String.utf8EncodeChar := by
  rw [Bytes.ofText, ← String.utf8Encode_toList, List.utf8Encode, List.toList_data_toByteArray]

theorem digitValues_lt {bytes : Bytes} {value : Nat} (inside : value ∈ bytes.flatMap digitValues) :
    value < 16 := by
  obtain ⟨byte, _, digits⟩ := List.mem_flatMap.mp inside
  have bounded := byte.toNat_lt
  rcases List.mem_cons.mp digits with rfl | lower
  · omega
  · rw [List.mem_singleton.mp lower]
    omega

theorem toList_toLower (text : String) : text.toLower.toList = text.toList.map Char.toLower :=
  String.toList_map

/-- The digits of a text may be of either case: in lower case it is the text of its bytes. -/
theorem decode_eq_ok_iff {text : String} {bytes : Bytes} :
    decode text = .ok bytes ↔ text.toLower = encode bytes := by
  have digits : text.toLower = encode bytes ↔
      (Bytes.ofText text).map digitValue? = (bytes.flatMap digitValues).map some := by
    have pairs : bytes.flatMap digitPair = (bytes.flatMap digitValues).map digit := by
      rw [List.map_flatMap]
      rfl
    rw [ofText_eq_flatMap, map_digitValue?_eq_iff fun _ => digitValues_lt, ← String.toList_inj,
      toList_toLower, toList_encode, pairs]
  rw [digits, decode]
  split
  · next odd =>
    refine iff_of_false nofun fun same => ?_
    have lengths := congrArg List.length same
    rw [List.length_map, List.length_map, length_flatMap_digitValues] at lengths
    omega
  · exact decodePairs_eq_ok_iff

theorem toLower_encode (bytes : Bytes) : (encode bytes).toLower = encode bytes := by
  have table : ∀ value : Fin 16, (digit value).toLower = digit value := by decide
  rw [← String.toList_inj, toList_toLower]
  refine (List.map_congr_left fun c inside => ?_).trans (List.map_id _)
  obtain ⟨value, rfl⟩ := exists_digit_of_mem_encode inside
  exact table value

@[simp] theorem decode_encode (bytes : Bytes) : decode (encode bytes) = .ok bytes :=
  decode_eq_ok_iff.mpr (toLower_encode bytes)

end SnpTestbed.Hex

/-!
# Byte strings

Byte strings are lists of octets, so that everything below is ordinary list
reasoning. `Block size` carries its length in its type, and the two operations
on a window of a larger string, `Bytes.slice` and `Bytes.overwrite`, come with
the length facts their callers need.

Words are read and written little-endian by `LittleEndian`; a big-endian word is
the reverse.
-/
namespace SnpTestbed

/-- A byte string of any length. -/
abbrev Bytes := List UInt8

/-- A byte string of a fixed length. -/
abbrev Block (size : Nat) := { bytes : Bytes // bytes.length = size }

namespace Bytes

/-- The `length` bytes from `offset` on; fewer where the string ends early. -/
def slice (bytes : Bytes) (offset length : Nat) : Bytes :=
  (bytes.drop offset).take length

/-- `bytes` with `patch` written over its window that starts at `offset`. -/
def overwrite (bytes : Bytes) (offset : Nat) (patch : Bytes) : Bytes :=
  bytes.take offset ++ (patch ++ bytes.drop (offset + patch.length))

/-- The UTF-8 octets of a text. -/
def ofText (text : String) : Bytes :=
  text.toByteArray.data.toList

/-- The text whose UTF-8 octets these are, if they are well formed. -/
def toText? (bytes : Bytes) : Option String :=
  String.fromUTF8? ⟨bytes.toArray⟩

/-- The bytes without the zeros at their end. -/
def trimZeros (bytes : Bytes) : Bytes :=
  (bytes.reverse.dropWhile (· == 0)).reverse

@[simp] theorem length_slice (bytes : Bytes) (offset length : Nat) :
    (slice bytes offset length).length = min length (bytes.length - offset) := by
  simp [slice]

theorem length_slice_of_le {bytes : Bytes} {offset length : Nat}
    (inside : offset + length ≤ bytes.length) : (slice bytes offset length).length = length := by
  simp only [length_slice]
  omega

theorem length_overwrite_of_le {bytes : Bytes} {offset : Nat} {patch : Bytes}
    (inside : offset + patch.length ≤ bytes.length) :
    (overwrite bytes offset patch).length = bytes.length := by
  simp only [overwrite, List.length_append, List.length_take, List.length_drop]
  omega

/-- The window of a string over one of its parts is that part. -/
theorem slice_append_append (before patch after : Bytes) :
    slice (before ++ (patch ++ after)) before.length patch.length = patch := by
  simp [slice]

/-- A window of two parts is one window behind the other. -/
theorem slice_add (bytes : Bytes) (offset first second : Nat) :
    slice bytes offset (first + second) =
      slice bytes offset first ++ slice bytes (offset + first) second := by
  rw [slice, slice, slice, List.take_add, List.drop_drop]

/-- A window into a window is a window of the string. -/
theorem slice_slice {bytes : Bytes} {offset outer start length : Nat}
    (inside : start + length ≤ outer) :
    slice (slice bytes offset outer) start length = slice bytes (offset + start) length := by
  have fits : length ≤ outer - start := by omega
  rw [slice, slice, slice, List.drop_take, List.drop_drop, List.take_take, Nat.min_eq_left fits]

/-- What stands behind a string is in none of its windows. -/
theorem slice_append_of_le {bytes : Bytes} {offset length : Nat}
    (inside : offset + length ≤ bytes.length) (rest : Bytes) :
    slice (bytes ++ rest) offset length = slice bytes offset length := by
  have begins : offset ≤ bytes.length := by omega
  have ends : length ≤ (bytes.drop offset).length := by
    rw [List.length_drop]
    omega
  rw [slice, slice, List.drop_append_of_le_length begins, List.take_append_of_le_length ends]

/-- A window shows the same bytes in strings that start with the same bytes. -/
theorem slice_congr {left right : Bytes} {count offset length : Nat}
    (same : left.take count = right.take count) (inside : offset + length ≤ count) :
    slice left offset length = slice right offset length := by
  have fits : length ≤ count - offset := by omega
  have windowed (whole : Bytes) :
      slice whole offset length = slice (whole.take count) offset length := by
    rw [slice, slice, List.drop_take, List.take_take, Nat.min_eq_left fits]
  rw [windowed left, windowed right, same]

/-- Overwriting at the start leaves what stands behind the patch. -/
theorem overwrite_zero (bytes patch : Bytes) :
    overwrite bytes 0 patch = patch ++ bytes.drop patch.length := by
  rw [overwrite, List.take_zero, List.nil_append, Nat.zero_add]

/-- Overwriting leaves what stands before the patch. -/
theorem take_overwrite {bytes : Bytes} {offset count : Nat} (patch : Bytes)
    (before : count ≤ offset) (reaches : offset ≤ bytes.length) :
    (overwrite bytes offset patch).take count = bytes.take count := by
  have room : count ≤ (bytes.take offset).length := by
    rw [List.length_take]
    omega
  rw [overwrite, List.take_append_of_le_length room, List.take_take, Nat.min_eq_left before]

/-- Overwriting leaves what stands behind the patch. -/
theorem drop_overwrite {bytes : Bytes} {offset count : Nat} {patch : Bytes}
    (behind : offset + patch.length ≤ count) (reaches : offset ≤ bytes.length) :
    (overwrite bytes offset patch).drop count = bytes.drop count := by
  obtain ⟨more, rfl⟩ := Nat.exists_eq_add_of_le behind
  have taken : (bytes.take offset).length = offset := List.length_take_of_le reaches
  rw [overwrite, ← List.append_assoc, ← List.drop_drop, List.drop_left' (by simp [taken]),
    List.drop_drop]

/-- A window before the patch shows what it showed. -/
theorem slice_overwrite_of_before {bytes : Bytes} {offset start length : Nat} (patch : Bytes)
    (before : start + length ≤ offset) (reaches : offset ≤ bytes.length) :
    slice (overwrite bytes offset patch) start length = slice bytes start length := by
  have windowed (whole : Bytes) :
      slice whole start length = (whole.take (start + length)).drop start := by
    rw [slice, List.drop_take, Nat.add_sub_cancel_left]
  rw [windowed, windowed, take_overwrite patch before reaches]

/-- A window over the patch shows the patch. -/
theorem slice_overwrite_of_inside {bytes : Bytes} {offset start length : Nat} {patch : Bytes}
    (inside : start + length ≤ patch.length) (reaches : offset ≤ bytes.length) :
    slice (overwrite bytes offset patch) (offset + start) length = slice patch start length := by
  have taken : (bytes.take offset).length = offset := List.length_take_of_le reaches
  have begins : start ≤ patch.length := by omega
  have ends : length ≤ (patch.drop start).length := by
    rw [List.length_drop]
    omega
  rw [slice, slice, overwrite, ← List.drop_drop, List.drop_left' taken,
    List.drop_append_of_le_length begins, List.take_append_of_le_length ends]

/-- Two patches side by side are one patch. -/
theorem overwrite_append {bytes : Bytes} {offset : Nat} (first second : Bytes)
    (reaches : offset ≤ bytes.length) :
    overwrite (overwrite bytes offset first) (offset + first.length) second =
      overwrite bytes offset (first ++ second) := by
  have taken : (bytes.take offset).length = offset := List.length_take_of_le reaches
  have begins : (overwrite bytes offset first).take (offset + first.length) =
      bytes.take offset ++ first := by
    rw [overwrite, ← List.append_assoc, List.take_left' (by rw [List.length_append, taken])]
  have ends : (overwrite bytes offset first).drop (offset + first.length + second.length) =
      bytes.drop (offset + first.length + second.length) :=
    drop_overwrite (Nat.le_add_right _ _) reaches
  rw [overwrite, begins, ends, overwrite, List.length_append, List.append_assoc, List.append_assoc,
    Nat.add_assoc]

/-- Writing over a window what it shows changes nothing. -/
theorem overwrite_slice {bytes : Bytes} {offset length : Nat}
    (inside : offset + length ≤ bytes.length) :
    overwrite bytes offset (slice bytes offset length) = bytes := by
  rw [overwrite, length_slice_of_le inside, slice, ← List.drop_drop, List.take_append_drop,
    List.take_append_drop]

theorem ofText_inj {left right : String} (same : ofText left = ofText right) : left = right := by
  apply String.toByteArray_inj.mp
  apply ByteArray.ext
  exact Array.toList_inj.mp same

end Bytes

namespace Block

variable {size : Nat}

/-- The block of `size` zero bytes. -/
def zeros (size : Nat) : Block size :=
  ⟨List.replicate size 0, List.length_replicate⟩

/-- The block of these bytes, if there are exactly `size` of them. -/
def ofBytes? (size : Nat) (bytes : Bytes) : Option (Block size) :=
  if exact : bytes.length = size then some ⟨bytes, exact⟩ else none

/-- The window of `size` bytes at `offset` of a string that reaches that far. -/
def ofWindow (bytes : Bytes) (offset : Nat) (inside : offset + size ≤ bytes.length) : Block size :=
  ⟨Bytes.slice bytes offset size, Bytes.length_slice_of_le inside⟩

/-- The block read from its other end. -/
def reverse (block : Block size) : Block size :=
  ⟨block.val.reverse, by rw [List.length_reverse, block.property]⟩

/-- The block with `patch` written at `offset`, where the patch fits. -/
def overwrite (block : Block size) (offset : Nat) (patch : Bytes)
    (inside : offset + patch.length ≤ size) : Block size :=
  ⟨Bytes.overwrite block.val offset patch, by
    rw [Bytes.length_overwrite_of_le (by rw [block.property]; exact inside), block.property]⟩

@[simp] theorem val_zeros : (zeros size).val = List.replicate size 0 := rfl

@[simp] theorem val_ofWindow (bytes : Bytes) (offset : Nat)
    (inside : offset + size ≤ bytes.length) :
    (ofWindow bytes offset inside).val = Bytes.slice bytes offset size := rfl

@[simp] theorem val_reverse (block : Block size) : block.reverse.val = block.val.reverse := rfl

end Block

namespace LittleEndian

/-- The number whose base-256 digits these are, least significant first. -/
def decode : Bytes → Nat
  | [] => 0
  | byte :: rest => byte.toNat + 256 * decode rest

/-- The `width` least significant base-256 digits of a number. -/
def encode : (width : Nat) → Nat → Bytes
  | 0, _ => []
  | width + 1, value => UInt8.ofNat value :: encode width (value / 256)

@[simp] theorem length_encode (width value : Nat) : (encode width value).length = width := by
  induction width generalizing value with
  | zero => rfl
  | succ width hypothesis => simp [encode, hypothesis]

/-- The digits of a number are its quotients by the powers of the base. -/
theorem getElem?_encode {width index : Nat} (inside : index < width) (value : Nat) :
    (encode width value)[index]? = some (UInt8.ofNat (value / Nat.pow 256 index)) := by
  induction width generalizing index value with
  | zero => contradiction
  | succ width hypothesis =>
    cases index with
    | zero =>
      rw [encode, List.getElem?_cons_zero]
      exact congrArg (some <| UInt8.ofNat ·) (Nat.div_one value).symm
    | succ index =>
      rw [encode, List.getElem?_cons_succ, hypothesis (Nat.lt_of_succ_lt_succ inside),
        Nat.div_div_eq_div_mul, Nat.mul_comm]
      rfl

theorem decode_encode (width value : Nat) :
    decode (encode width value) = value % Nat.pow 256 width := by
  induction width generalizing value with
  | zero => simp [encode, decode, Nat.mod_one]
  | succ width hypothesis =>
    have split : value % Nat.pow 256 (width + 1) =
        value % 256 + 256 * (value / 256 % Nat.pow 256 width) := by
      rw [show Nat.pow 256 (width + 1) = 256 * Nat.pow 256 width from Nat.mul_comm _ _, Nat.mod_mul]
    rw [split, encode, decode, hypothesis, UInt8.toNat_ofNat']

theorem decode_encode_of_lt {width value : Nat} (fits : value < Nat.pow 256 width) :
    decode (encode width value) = value := by
  rw [decode_encode, Nat.mod_eq_of_lt fits]

theorem encode_decode (bytes : Bytes) : encode bytes.length (decode bytes) = bytes := by
  induction bytes with
  | nil => rfl
  | cons byte rest hypothesis =>
    have quotient : (byte.toNat + 256 * decode rest) / 256 = decode rest := by
      have bounded := byte.toNat_lt
      omega
    have digit : UInt8.ofNat (byte.toNat + 256 * decode rest) = byte := by
      apply UInt8.toNat_inj.mp
      have bounded := byte.toNat_lt
      simp only [UInt8.toNat_ofNat']
      omega
    simp only [List.length_cons, encode, decode, quotient, digit, hypothesis]

theorem decode_lt (bytes : Bytes) : decode bytes < Nat.pow 256 bytes.length := by
  induction bytes with
  | nil => simp [decode]
  | cons byte rest hypothesis =>
    have bounded := byte.toNat_lt
    have step : Nat.pow 256 (rest.length + 1) = Nat.pow 256 rest.length * 256 := rfl
    simp only [decode, List.length_cons, step]
    omega

/-- The first four bytes as a 32-bit word. -/
def word32 (bytes : Bytes) : UInt32 :=
  UInt32.ofNat (decode (bytes.take 4))

theorem toNat_word32 (bytes : Bytes) : (word32 bytes).toNat = decode (bytes.take 4) := by
  have short : (bytes.take 4).length ≤ 4 := List.length_take_le ..
  have bounded : decode (bytes.take 4) < UInt32.size :=
    Nat.lt_of_lt_of_le (decode_lt _) (Nat.pow_le_pow_right (by decide) short)
  exact UInt32.toNat_ofNat_of_lt' bounded

/-- The word at the start of a string is written as it stands there. -/
theorem encode_word32 {bytes : Bytes} (long : 4 ≤ bytes.length) :
    encode 4 (word32 bytes).toNat = bytes.take 4 := by
  have digits := encode_decode (bytes.take 4)
  rwa [List.length_take_of_le long, ← toNat_word32] at digits

/-- A word reads back from the start of a string. -/
theorem word32_encode_append (word : UInt32) (rest : Bytes) :
    word32 (encode 4 word.toNat ++ rest) = word := by
  have fits : word.toNat < Nat.pow 256 4 := word.toNat_lt
  rw [word32, List.take_left' (length_encode 4 word.toNat), decode_encode_of_lt fits,
    UInt32.ofNat_toNat]

end LittleEndian

namespace BigEndian

/-- The number whose base-256 digits these are, most significant first. -/
def decode (bytes : Bytes) : Nat :=
  LittleEndian.decode bytes.reverse

/-- The `width` least significant base-256 digits of a number, most significant first. -/
def encode (width value : Nat) : Bytes :=
  (LittleEndian.encode width value).reverse

@[simp] theorem length_encode (width value : Nat) : (encode width value).length = width := by
  simp [encode]

theorem decode_encode_of_lt {width value : Nat} (fits : value < Nat.pow 256 width) :
    decode (encode width value) = value := by
  rw [decode, encode, List.reverse_reverse, LittleEndian.decode_encode_of_lt fits]

/-- A number as a block of its digits. -/
def block (width value : Nat) : Block width :=
  ⟨encode width value, length_encode width value⟩

end BigEndian

end SnpTestbed

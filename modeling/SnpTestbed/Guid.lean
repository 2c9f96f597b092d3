import SnpTestbed.Text.Hex

/-!
# GUIDs

A GUID is sixteen octets. Its text is lower-case and hyphenated; it is read in
either case, also without hyphens, in braces, or as a `urn:uuid:` name, which may
be in either case too.
-/
namespace SnpTestbed

/-- A globally unique identifier. -/
structure Guid where
  octets : Block 16
  deriving DecidableEq

namespace Guid

/-- The GUID of sixteen zeros. -/
def nil : Guid := ⟨Block.zeros 16⟩

/-- The GUID with this big-endian value. -/
def ofNat (value : Nat) : Guid := ⟨BigEndian.block 16 value⟩

instance : Inhabited Guid := ⟨nil⟩

/-- Whether all octets are zero. -/
def isNil (guid : Guid) : Bool := guid == nil

theorem isNil_iff {guid : Guid} : guid.isNil = true ↔ guid = nil := by
  simp [isNil]

theorem isNil_eq_false_iff {guid : Guid} : guid.isNil = false ↔ guid ≠ nil := by
  rw [Ne, ← isNil_iff, Bool.not_eq_true]

/-- GUIDs are ordered by their octets, from the first on. -/
instance : Ord Guid := ⟨fun left right => compare left.octets.val right.octets.val⟩

/-- The lower-case text in groups of 8, 4, 4, 4 and 12 digits. -/
def text (guid : Guid) : String :=
  let group (offset length : Nat) := Hex.encode (Bytes.slice guid.octets.val offset length)
  "-".intercalate [group 0 4, group 4 2, group 6 2, group 8 2, group 10 6]

/-- Drops the hyphens of a hyphenated text, if they stand where they belong. -/
def withoutHyphens? (digits : List Char) : Option (List Char) :=
  let at? (index : Nat) := digits[index]? == some '-'
  if digits.length = 36 ∧ at? 8 ∧ at? 13 ∧ at? 18 ∧ at? 23 then
    some (digits.take 8 ++ (digits.drop 9).take 4 ++ (digits.drop 14).take 4 ++
      (digits.drop 19).take 4 ++ digits.drop 24)
  else none

/-- The 32 digits inside the accepted spellings. -/
def bareDigits? (spelling : List Char) : Option (List Char) :=
  match spelling.length with
  | 32 => some spelling
  | 36 => withoutHyphens? spelling
  | 38 =>
    if spelling.head? = some '\x7b' ∧ spelling.getLast? = some '\x7d' then
      withoutHyphens? ((spelling.drop 1).take 36)
    else none
  | 45 =>
    if (spelling.take 9).map Char.toLower = "urn:uuid:".toList then
      withoutHyphens? (spelling.drop 9)
    else none
  | _ => none

/-- Reads a GUID in any accepted spelling. -/
def ofText? (spelling : String) : Option Guid := do
  let digits ← bareDigits? spelling.toList
  match Hex.decode (String.ofList digits) with
  | .ok bytes => (Block.ofBytes? 16 bytes).map Guid.mk
  | .error _ => none

end Guid

end SnpTestbed

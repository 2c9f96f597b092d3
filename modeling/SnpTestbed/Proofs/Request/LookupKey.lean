import SnpTestbed.Proofs.Text.Hex
import SnpTestbed.Request

/-!
# Lookup keys of derived keys

A lookup key writes all five fields of a request in digits of fixed width, which no
number of the field's type exceeds. So the fields can be cut out of the key again, and
requests that differ in a field have different keys.
-/
namespace SnpTestbed

namespace BigEndian

/-- Numbers that fit a width are told apart by their digits. -/
theorem encode_inj_of_lt {width left right : Nat} (fits : left < Nat.pow 256 width)
    (fits' : right < Nat.pow 256 width) :
    encode width left = encode width right ↔ left = right := by
  constructor
  · intro same
    have decoded := congrArg decode same
    rwa [decode_encode_of_lt fits, decode_encode_of_lt fits'] at decoded
  · rintro rfl
    rfl

theorem encode_word32_inj {left right : UInt32} :
    encode 4 left.toNat = encode 4 right.toNat ↔ left = right :=
  (encode_inj_of_lt left.toNat_lt right.toNat_lt).trans UInt32.toNat_inj

theorem encode_word64_inj {left right : UInt64} :
    encode 8 left.toNat = encode 8 right.toNat ↔ left = right :=
  (encode_inj_of_lt left.toNat_lt right.toNat_lt).trans UInt64.toNat_inj

end BigEndian

namespace Hex

/-- A number of fixed width and what follows it can be told apart in a text. -/
theorem digits_append_inj {width left right : Nat} {rest rest' : List Char} :
    (BigEndian.encode width left).flatMap digitPair ++ rest =
        (BigEndian.encode width right).flatMap digitPair ++ rest' ↔
      BigEndian.encode width left = BigEndian.encode width right ∧ rest = rest' := by
  have lengths : ((BigEndian.encode width left).flatMap digitPair).length =
      ((BigEndian.encode width right).flatMap digitPair).length := by
    simp only [length_flatMap_digitPair, BigEndian.length_encode]
  constructor
  · intro same
    obtain ⟨first, later⟩ := List.append_inj same lengths
    exact ⟨flatMap_digitPair_inj.mp first, later⟩
  · rintro ⟨first, rfl⟩
    rw [first]

end Hex

namespace DerivedKeyRequest

theorem toList_lookupKey (request : DerivedKeyRequest) :
    request.lookupKey.toList =
      (BigEndian.encode 4 request.root.toNat).flatMap Hex.digitPair ++ ' ' ::
      ((BigEndian.encode 8 request.fields.toNat).flatMap Hex.digitPair ++ ' ' ::
      ((BigEndian.encode 4 request.vmpl.toNat).flatMap Hex.digitPair ++ ' ' ::
      ((BigEndian.encode 4 request.guestVersion.toNat).flatMap Hex.digitPair ++ ' ' ::
      (BigEndian.encode 8 request.tcbVersion.toNat).flatMap Hex.digitPair))) := by
  simp [lookupKey]

/-- Requests share a lookup key exactly if all their fields agree. -/
theorem lookupKey_inj {first second : DerivedKeyRequest} :
    first.lookupKey = second.lookupKey ↔ first = second := by
  rw [← String.toList_inj, toList_lookupKey, toList_lookupKey]
  simp only [Hex.digits_append_inj, List.cons_eq_cons, true_and, Hex.flatMap_digitPair_inj,
    BigEndian.encode_word32_inj, BigEndian.encode_word64_inj]
  cases first
  cases second
  simp

end DerivedKeyRequest

end SnpTestbed

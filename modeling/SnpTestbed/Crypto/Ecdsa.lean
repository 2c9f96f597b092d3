import SnpTestbed.Crypto.Curve
import SnpTestbed.Crypto.Hmac

/-!
# ECDSA with P-384 and SHA-384

Signatures are pairs of big-endian scalars. The nonce of a signature is derived
from the key and the digest as RFC 6979 says, so signing is a function; neither
signing nor verifying asks for the smaller of the two possible `s`.
-/
namespace SnpTestbed

/-- A signature: two big-endian scalars, not yet checked for their range. -/
structure Signature where
  r : Block Curve.scalarSize
  s : Block Curve.scalarSize
  deriving DecidableEq

/-- A secret scalar between 1 and the group order. -/
structure SecretKey where
  scalar : Nat
  positive : 0 < scalar
  below : scalar < Curve.order
  deriving DecidableEq

/-- A public point, by its coordinates. -/
structure PublicKey where
  x : Nat
  y : Nat
  deriving DecidableEq

namespace SecretKey

/-- The key with this big-endian scalar, unless it is zero or not below the group order. -/
def ofBytes? (bytes : Block Curve.scalarSize) : Option SecretKey :=
  let scalar := BigEndian.decode bytes.val
  if valid : 0 < scalar ∧ scalar < Curve.order then some ⟨scalar, valid.1, valid.2⟩ else none

/-- A key that depends on all of a seed. -/
def ofSeed (seed : Bytes) : SecretKey where
  scalar := BigEndian.decode (Sha384.hash seed).val % (Curve.order - 1) + 1
  positive := Nat.succ_pos _
  below := by
    have bounded := Nat.mod_lt (BigEndian.decode (Sha384.hash seed).val)
      (show 0 < Curve.order - 1 by decide)
    have large : 1 < Curve.order := by decide
    omega

/-- The point that belongs to a secret scalar. -/
def publicKey (key : SecretKey) : PublicKey :=
  match (Curve.Point.generator.multiply key.scalar).affine? with
  | some (x, y) => ⟨x, y⟩
  | none => ⟨0, 0⟩

end SecretKey

namespace PublicKey

/-- The encoding that gives one coordinate and the parity of the other. -/
def compressed (key : PublicKey) : Bytes :=
  (if key.y % 2 = 0 then 2 else 3) :: BigEndian.encode Curve.scalarSize key.x

/-- The encoding that gives both coordinates. -/
def uncompressed (key : PublicKey) : Bytes :=
  4 :: (BigEndian.encode Curve.scalarSize key.x ++ BigEndian.encode Curve.scalarSize key.y)

/-- One of the two second coordinates that belong to a first one; the other is its negative. -/
def secondCoordinate? (x : Nat) : Option Nat := do
  guard (x < Curve.fieldSize)
  Curve.squareRoot? (Curve.cubic x)

/-- The key with this first coordinate whose second has the given parity. -/
def ofParity? (parity x : Nat) : Option PublicKey :=
  (secondCoordinate? x).map fun y => ⟨x, if y % 2 = parity then y else Curve.fieldSize - y⟩

/-- The key with this first coordinate whose second is the smaller of the two. -/
def ofFirst? (x : Nat) : Option PublicKey :=
  (secondCoordinate? x).map fun y => ⟨x, min y (Curve.fieldSize - y)⟩

/-- Reads a point on the curve: both coordinates behind a 4, or the first one behind the parity of
the second plus 2, or behind a 5. -/
def ofBytes? (bytes : Bytes) : Option PublicKey :=
  match bytes with
  | [] => none
  | form :: coordinates =>
    let x := BigEndian.decode (coordinates.take Curve.scalarSize)
    let y := BigEndian.decode (coordinates.drop Curve.scalarSize)
    if form = 4 ∧ coordinates.length = 2 * Curve.scalarSize then
      if x < Curve.fieldSize ∧ y < Curve.fieldSize ∧ Curve.times y y = Curve.cubic x then
        some ⟨x, y⟩
      else none
    else if coordinates.length = Curve.scalarSize then
      if form = 2 ∨ form = 3 then ofParity? (form.toNat - 2) x
      else if form = 5 then ofFirst? x
      else none
    else none

end PublicKey

namespace Ecdsa

/-- The number that is signed for a message. -/
def digestNumber (message : Bytes) : Nat :=
  BigEndian.decode (Sha384.hash message).val % Curve.order

/-- The state from which nonces are drawn. -/
structure NonceState where
  key : Bytes
  value : Bytes

/-- The state after mixing `input` in. -/
def NonceState.mix (state : NonceState) (input : Bytes) : NonceState :=
  let key := (Hmac.code state.key (state.value ++ input)).val
  ⟨key, (Hmac.code key state.value).val⟩

/-- The state that belongs to a key and a number to sign. -/
def nonceState (key : SecretKey) (number : Nat) : NonceState :=
  let material := BigEndian.encode Curve.scalarSize key.scalar ++
    BigEndian.encode Curve.scalarSize number
  let start : NonceState :=
    ⟨List.replicate Sha384.digestSize 0, List.replicate Sha384.digestSize 1⟩
  (start.mix (0 :: material)).mix (1 :: material)

/-- The first usable nonce among `attempts` draws. -/
def drawNonce? : (attempts : Nat) → NonceState → Option Nat
  | 0, _ => none
  | attempts + 1, state =>
    let value := (Hmac.code state.key state.value).val
    let nonce := BigEndian.decode value
    if 0 < nonce ∧ nonce < Curve.order then some nonce
    else drawNonce? attempts (NonceState.mix ⟨state.key, value⟩ [0])

/-- The nonce for a number to sign; a draw fails with a chance below `2 ^ -190`. -/
def nonce? (key : SecretKey) (number : Nat) : Option Nat :=
  drawNonce? 16 (nonceState key number)

/-- Signs a message; there is no signature if no nonce serves or a scalar comes out zero. -/
def sign? (key : SecretKey) (message : Bytes) : Option Signature := do
  let number := digestNumber message
  let nonce ← nonce? key number
  let (x, _) ← (Curve.Point.generator.multiply nonce).affine?
  let r := x % Curve.order
  let s := Curve.inverse Curve.order nonce * (number + r * key.scalar) % Curve.order
  guard (r ≠ 0 ∧ s ≠ 0)
  return ⟨BigEndian.block _ r, BigEndian.block _ s⟩

/-- Whether both scalars are between 1 and the group order. -/
def inRange (signature : Signature) : Bool :=
  let r := BigEndian.decode signature.r.val
  let s := BigEndian.decode signature.s.val
  0 < r && r < Curve.order && 0 < s && s < Curve.order

/-- Whether a signature in range is one of this message under the key. -/
def verifies (key : PublicKey) (message : Bytes) (signature : Signature) : Bool :=
  let r := BigEndian.decode signature.r.val
  let scale := Curve.inverse Curve.order (BigEndian.decode signature.s.val)
  let fromMessage := digestNumber message * scale % Curve.order
  let fromKey := r * scale % Curve.order
  let sum := (Curve.Point.generator.multiply fromMessage).add
    (Curve.Point.multiply fromKey ⟨key.x, key.y, 1⟩)
  match sum.affine? with
  | some (x, _) => x % Curve.order == r
  | none => false

end Ecdsa

end SnpTestbed

import SnpTestbed.Bytes

/-!
# SHA-384

The hash of FIPS 180-4 with 64-bit words, 80 rounds to a block and a digest of
48 bytes. The message schedule is kept as a sliding window of sixteen words:
each round uses the oldest and appends the next.
-/
namespace SnpTestbed.Sha384

/-- Bytes in a message block. -/
def blockSize : Nat := 128

/-- Bytes in a digest. -/
def digestSize : Nat := 48

/-- The first 64 bits of the fractional parts of the cube roots of the first 80 primes. -/
def roundConstants : List UInt64 := [
  0x428a2f98d728ae22, 0x7137449123ef65cd, 0xb5c0fbcfec4d3b2f,
  0xe9b5dba58189dbbc, 0x3956c25bf348b538, 0x59f111f1b605d019,
  0x923f82a4af194f9b, 0xab1c5ed5da6d8118, 0xd807aa98a3030242,
  0x12835b0145706fbe, 0x243185be4ee4b28c, 0x550c7dc3d5ffb4e2,
  0x72be5d74f27b896f, 0x80deb1fe3b1696b1, 0x9bdc06a725c71235,
  0xc19bf174cf692694, 0xe49b69c19ef14ad2, 0xefbe4786384f25e3,
  0x0fc19dc68b8cd5b5, 0x240ca1cc77ac9c65, 0x2de92c6f592b0275,
  0x4a7484aa6ea6e483, 0x5cb0a9dcbd41fbd4, 0x76f988da831153b5,
  0x983e5152ee66dfab, 0xa831c66d2db43210, 0xb00327c898fb213f,
  0xbf597fc7beef0ee4, 0xc6e00bf33da88fc2, 0xd5a79147930aa725,
  0x06ca6351e003826f, 0x142929670a0e6e70, 0x27b70a8546d22ffc,
  0x2e1b21385c26c926, 0x4d2c6dfc5ac42aed, 0x53380d139d95b3df,
  0x650a73548baf63de, 0x766a0abb3c77b2a8, 0x81c2c92e47edaee6,
  0x92722c851482353b, 0xa2bfe8a14cf10364, 0xa81a664bbc423001,
  0xc24b8b70d0f89791, 0xc76c51a30654be30, 0xd192e819d6ef5218,
  0xd69906245565a910, 0xf40e35855771202a, 0x106aa07032bbd1b8,
  0x19a4c116b8d2d0c8, 0x1e376c085141ab53, 0x2748774cdf8eeb99,
  0x34b0bcb5e19b48a8, 0x391c0cb3c5c95a63, 0x4ed8aa4ae3418acb,
  0x5b9cca4f7763e373, 0x682e6ff3d6b2b8a3, 0x748f82ee5defb2fc,
  0x78a5636f43172f60, 0x84c87814a1f0ab72, 0x8cc702081a6439ec,
  0x90befffa23631e28, 0xa4506cebde82bde9, 0xbef9a3f7b2c67915,
  0xc67178f2e372532b, 0xca273eceea26619c, 0xd186b8c721c0c207,
  0xeada7dd6cde0eb1e, 0xf57d4f7fee6ed178, 0x06f067aa72176fba,
  0x0a637dc5a2c898a6, 0x113f9804bef90dae, 0x1b710b35131c471b,
  0x28db77f523047d84, 0x32caab7b40c72493, 0x3c9ebe0a15c9bebc,
  0x431d67c49c100d4c, 0x4cc5d4becb3e42b6, 0x597f299cfc657e2a,
  0x5fcb6fab3ad6faec, 0x6c44198c4a475817]

/-- The eight words that a block changes. -/
structure Chain where
  a : UInt64
  b : UInt64
  c : UInt64
  d : UInt64
  e : UInt64
  f : UInt64
  g : UInt64
  h : UInt64

/-- The words before the first block: fractional parts of the square roots of the ninth to the
sixteenth prime. -/
def initial : Chain :=
  ⟨0xcbbb9d5dc1059ed8, 0x629a292a367cd507, 0x9159015a3070dd17,
    0x152fecd8f70e5939, 0x67332667ffc00b31, 0x8eb44a8768581511,
    0xdb0c2e0d64f98fa7, 0x47b5481dbefa4fa4⟩

/-- A word turned right. -/
def rotate (word amount : UInt64) : UInt64 := (word >>> amount) ||| (word <<< (64 - amount))

/-- The next word of the schedule after a window of sixteen. -/
def nextWord (window : List UInt64) : UInt64 :=
  let back (age : Nat) := window.getD (16 - age) 0
  let small0 (word : UInt64) := rotate word 1 ^^^ rotate word 8 ^^^ (word >>> 7)
  let small1 (word : UInt64) := rotate word 19 ^^^ rotate word 61 ^^^ (word >>> 6)
  small1 (back 2) + back 7 + small0 (back 15) + back 16

/-- One round with one word of the schedule. -/
def round (chain : Chain) (constant word : UInt64) : Chain :=
  let big1 := rotate chain.e 14 ^^^ rotate chain.e 18 ^^^ rotate chain.e 41
  let choice := (chain.e &&& chain.f) ^^^ ((~~~chain.e) &&& chain.g)
  let first := chain.h + big1 + choice + constant + word
  let big0 := rotate chain.a 28 ^^^ rotate chain.a 34 ^^^ rotate chain.a 39
  let majority := (chain.a &&& chain.b) ^^^ (chain.a &&& chain.c) ^^^ (chain.b &&& chain.c)
  ⟨first + (big0 + majority), chain.a, chain.b, chain.c, chain.d + first, chain.e, chain.f, chain.g⟩

/-- The rounds with the given constants, over a schedule whose next sixteen words are `window`. -/
def rounds : List UInt64 → List UInt64 → Chain → Chain
  | [], _, chain => chain
  | constant :: constants, window, chain =>
    rounds constants (window.drop 1 ++ [nextWord window]) (round chain constant (window.getD 0 0))

/-- The sixteen words of a block. -/
def blockWords (block : Bytes) : List UInt64 :=
  (List.range 16).map fun index => UInt64.ofNat (BigEndian.decode (Bytes.slice block (8 * index) 8))

/-- The words after one more block. -/
def compress (chain : Chain) (block : Bytes) : Chain :=
  let after := rounds roundConstants (blockWords block) chain
  ⟨chain.a + after.a, chain.b + after.b, chain.c + after.c, chain.d + after.d,
    chain.e + after.e, chain.f + after.f, chain.g + after.g, chain.h + after.h⟩

/-- A message with the padding that fills its last block and ends in its length in bits. -/
def pad (message : Bytes) : Bytes :=
  let zeros := (blockSize - (message.length + 17) % blockSize) % blockSize
  message ++ 0x80 :: (List.replicate zeros 0 ++ BigEndian.encode 16 (8 * message.length))

/-- The words after the first `count` blocks of a padded message. -/
def absorb : (count : Nat) → Bytes → Chain → Chain
  | 0, _, chain => chain
  | count + 1, padded, chain =>
    absorb count (padded.drop blockSize) (compress chain (padded.take blockSize))

/-- The digest that the first six words make. -/
def Chain.digest (chain : Chain) : Block digestSize :=
  let word (value : UInt64) : Bytes := BigEndian.encode 8 value.toNat
  let upper := word chain.a ++ (word chain.b ++ word chain.c)
  let lower := word chain.d ++ (word chain.e ++ word chain.f)
  ⟨upper ++ lower, by simp [upper, lower, word, digestSize]⟩

/-- The digest of a message. -/
def hash (message : Bytes) : Block digestSize :=
  let padded := pad message
  (absorb (padded.length / blockSize) padded initial).digest

end SnpTestbed.Sha384

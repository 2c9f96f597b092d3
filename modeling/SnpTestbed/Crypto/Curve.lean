/-!
# The curve P-384

Points of `y² = x³ - 3x + b` over the field of `fieldSize` elements, which form a
group of prime order `order`. Sums are taken in Jacobian coordinates, where a
point is `(x / z², y / z³)` and `z = 0` is the neutral point.
-/
namespace SnpTestbed.Curve

/-- The number of field elements. -/
def fieldSize : Nat :=
  0xfffffffffffffffffffffffffffffffffffffffffffffffffffffffffffffffeffffffff0000000000000000ffffffff

/-- The number of points of the group. -/
def order : Nat :=
  0xffffffffffffffffffffffffffffffffffffffffffffffffc7634d81f4372ddf581a0db248b0a77aecec196accc52973

/-- The constant term of the equation. -/
def constantTerm : Nat :=
  0xb3312fa7e23ee7e4988e056be3f82d19181d9c6efe8141120314088f5013875ac656398d8a2ed19d2a85c8edd3ec2aef

/-- Bytes in a scalar and in a coordinate. -/
def scalarSize : Nat := 48

/-- Bits in a scalar. -/
def scalarBits : Nat := 384

/-- The bits of a scalar, most significant first. -/
def bits (scalar : Nat) : List Bool :=
  (List.range scalarBits).reverse.map scalar.testBit

/-- A power modulo `modulus`, for exponents of at most `scalarBits` bits. -/
def power (modulus base exponent : Nat) : Nat :=
  (bits exponent).foldl (fun result bit =>
    let square := result * result % modulus
    if bit then square * base % modulus else square) 1

/-- The inverse modulo a prime; the inverse of zero is zero. -/
def inverse (modulus value : Nat) : Nat := power modulus value (modulus - 2)

/-- The difference of two field elements. -/
def minus (left right : Nat) : Nat := (left + (fieldSize - right % fieldSize)) % fieldSize

/-- The product of two field elements. -/
def times (left right : Nat) : Nat := left * right % fieldSize

/-- A point in Jacobian coordinates. -/
structure Point where
  x : Nat
  y : Nat
  z : Nat

namespace Point

/-- The neutral point. -/
def neutral : Point := ⟨1, 1, 0⟩

/-- The generator of the group. -/
def generator : Point where
  x :=
    0xaa87ca22be8b05378eb1c71ef320ad746e1d3b628ba79b9859f741e082542a385502f25dbf55296c3a545e3872760ab7
  y :=
    0x3617de4a96262c6f5d9e98bf9292dc29f8f41dbd289a147ce9da3113b5f0b8c00a60b1ce1d7e819d7a431d7c90ea0e5f
  z := 1

/-- A point added to itself. -/
def double (point : Point) : Point :=
  if point.z = 0 ∨ point.y = 0 then neutral
  else
    let zSquare := times point.z point.z
    let ySquare := times point.y point.y
    let crossed := times point.x ySquare
    let slope := times 3 (times (minus point.x zSquare) (point.x + zSquare))
    let x := minus (times slope slope) (8 * crossed)
    let sum := point.y + point.z
    ⟨x, minus (times slope (minus (4 * crossed) x)) (8 * times ySquare ySquare),
      minus (minus (times sum sum) ySquare) zSquare⟩

/-- The sum of two points. -/
def add (left right : Point) : Point :=
  if left.z = 0 then right
  else if right.z = 0 then left
  else
    let leftZ := times left.z left.z
    let rightZ := times right.z right.z
    let leftX := times left.x rightZ
    let rightX := times right.x leftZ
    let leftY := times left.y (times rightZ right.z)
    let rightY := times right.y (times leftZ left.z)
    let run := minus rightX leftX
    let rise := minus rightY leftY
    if run = 0 then if rise = 0 then double left else neutral
    else
      let runSquare := times run run
      let runCube := times runSquare run
      let base := times leftX runSquare
      let x := minus (minus (times rise rise) runCube) (2 * base)
      ⟨x, minus (times rise (minus base x)) (times leftY runCube), times run (times left.z right.z)⟩

/-- A point added to itself `scalar` times. -/
def multiply (scalar : Nat) (point : Point) : Point :=
  (bits scalar).foldl (fun sum bit => if bit then (double sum).add point else double sum) neutral

/-- The coordinates `(x, y)` of a point other than the neutral one. -/
def affine? (point : Point) : Option (Nat × Nat) :=
  if point.z = 0 then none
  else
    let scale := inverse fieldSize point.z
    let square := times scale scale
    some (times point.x square, times point.y (times square scale))

end Point

/-- The right-hand side of the equation. -/
def cubic (x : Nat) : Nat :=
  (times (times x x) x + (fieldSize - times 3 x) + constantTerm) % fieldSize

/-- A square root in the field, if there is one. -/
def squareRoot? (value : Nat) : Option Nat :=
  let root := power fieldSize value ((fieldSize + 1) / 4)
  if times root root = value % fieldSize then some root else none

end SnpTestbed.Curve

/-!
# The curve P-256

The points of y² = x³ − 3x + b over a field of prime order, and the multiples of its base point.
The base point settles b, which no sum of points needs.
Points are kept with a common denominator, so that adding them needs no division: the triple
(x, y, z) stands for (x/z², y/z³), and one whose z is zero for the neutral point.
-/

namespace Courier.Crypto.P256

/-- The order of the field. -/
def fieldOrder : Nat :=
  0xffffffff00000001000000000000000000000000ffffffffffffffffffffffff

/-- The order of the base point. -/
def order : Nat :=
  0xffffffff00000000ffffffffffffffffbce6faada7179e84f3b9cac2fc632551

/-! ### Arithmetic -/

/-- The power of a number by squaring, modulo `m`. -/
def powMod (base exponent m : Nat) : Nat :=
  ((List.range (exponent.log2 + 1)).reverse).foldl
    (fun acc i =>
      let square := acc * acc % m
      if exponent.testBit i then square * base % m else square) (1 % m)

/-- The inverse modulo a prime. -/
def inverse (a prime : Nat) : Nat :=
  powMod a (prime - 2) prime

/-- The difference modulo `m` of numbers below `m`. -/
def subMod (a b m : Nat) : Nat :=
  (a + (m - b)) % m

/-! ### Points -/

/-- A point with a common denominator. -/
structure Point where
  /-- The numerator of the first coordinate. -/
  x : Nat
  /-- The numerator of the second coordinate. -/
  y : Nat
  /-- The denominator. -/
  z : Nat

namespace Point

/-- The neutral point. -/
def zero : Point := ⟨1, 1, 0⟩

/-- The base point. -/
def base : Point :=
  ⟨0x6b17d1f2e12c4247f8bce6e563a440f277037d812deb33a0f4a13945d898c296,
    0x4fe342e2fe1a7f9b8ee7eb4a7c0f9e162bce33576b315ececbb6406837bf51f5, 1⟩

/-- Whether the point is the neutral one. -/
def isZero (p : Point) : Bool :=
  p.z == 0

/-- Twice the point. -/
def double (p : Point) : Point :=
  let m := fieldOrder
  if p.isZero || p.y == 0 then zero
  else
    let ySquared := p.y * p.y % m
    let s := 4 * p.x * ySquared % m
    let zSquared := p.z * p.z % m
    let slope := 3 * subMod p.x zSquared m * (p.x + zSquared) % m
    let x := subMod (slope * slope % m) (2 * s % m) m
    let y := subMod (slope * subMod s x m % m) (8 * (ySquared * ySquared) % m) m
    ⟨x, y, 2 * p.y * p.z % m⟩

/-- The sum of two points. -/
def add (p q : Point) : Point :=
  let m := fieldOrder
  if p.isZero then q
  else if q.isZero then p
  else
    let pSquared := p.z * p.z % m
    let qSquared := q.z * q.z % m
    let u := p.x * qSquared % m
    let v := q.x * pSquared % m
    let s := p.y * (qSquared * q.z % m) % m
    let t := q.y * (pSquared * p.z % m) % m
    if u = v then if s = t then p.double else zero
    else
      let h := subMod v u m
      let r := subMod t s m
      let hSquared := h * h % m
      let hCubed := hSquared * h % m
      let w := u * hSquared % m
      let x := subMod (r * r % m) ((hCubed + 2 * w) % m) m
      let y := subMod (r * subMod w x m % m) (s * hCubed % m) m
      ⟨x, y, h * (p.z * q.z % m) % m⟩

/-- The multiple of the point by a number below 2²⁵⁶. -/
def scale (n : Nat) (p : Point) : Point :=
  ((List.range 256).reverse).foldl
    (fun acc i => if n.testBit i then acc.double.add p else acc.double) zero

/-- The coordinates, unless the point is the neutral one. -/
def affine? (p : Point) : Option (Nat × Nat) :=
  if p.isZero then none
  else
    let i := inverse p.z fieldOrder
    let iSquared := i * i % fieldOrder
    some (p.x * iSquared % fieldOrder, p.y * (iSquared * i % fieldOrder) % fieldOrder)

end Point

end Courier.Crypto.P256

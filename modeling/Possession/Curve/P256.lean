import Possession.Curve.Residue

/-!
# The curve P-256

In Jacobian coordinates `(x, y, z)` stands for the point `(x / z², y / z³)` and `z = 0` for the
point at infinity, so a scalar multiplication inverts only once, at its end.
-/

namespace Possession.Curve.P256

def prime : Nat := 0xffffffff00000001000000000000000000000000ffffffffffffffffffffffff

def order : Nat := 0xffffffff00000000ffffffffffffffffbce6faada7179e84f3b9cac2fc632551

abbrev Element := Residue prime

def constantTerm : Element :=
  ⟨0x5ac635d8aa3a93e7b3ebbd55769886bc651d06b0cc53b0f63bce3c3e27d2604b⟩

/-- Whether two numbers are the coordinates of a point of the curve; both must be reduced. -/
def isOnCurve (x y : Nat) : Bool :=
  let fx : Element := ⟨x⟩
  let fy : Element := ⟨y⟩
  decide (x < prime) && decide (y < prime) &&
    decide (fy * fy = fx * fx * fx - 3 * fx + constantTerm)

/-- A point other than the one at infinity. -/
structure Point where
  x : Nat
  y : Nat
  onCurve : isOnCurve x y = true
  deriving DecidableEq, Repr

def Point.ofCoordinates? (x y : Nat) : Option Point :=
  if h : isOnCurve x y = true then some ⟨x, y, h⟩ else none

/-- Jacobian coordinates of a point, which may be the one at infinity. -/
structure Jacobian where
  /-- The first coordinate times `z²`. -/
  x : Element
  /-- The second coordinate times `z³`. -/
  y : Element
  z : Element
  deriving DecidableEq, Repr

namespace Jacobian

def infinity : Jacobian := ⟨1, 1, 0⟩

/-- A point at scale one. -/
def ofPoint (p : Point) : Jacobian := ⟨⟨p.x⟩, ⟨p.y⟩, 1⟩

def generator : Jacobian :=
  ⟨⟨0x6b17d1f2e12c4247f8bce6e563a440f277037d812deb33a0f4a13945d898c296⟩,
    ⟨0x4fe342e2fe1a7f9b8ee7eb4a7c0f9e162bce33576b315ececbb6406837bf51f5⟩, 1⟩

def double (p : Jacobian) : Jacobian :=
  let delta := p.z * p.z
  let gamma := p.y * p.y
  let beta := p.x * gamma
  let alpha := 3 * ((p.x - delta) * (p.x + delta))
  let x := alpha * alpha - 8 * beta
  let sum := p.y + p.z
  ⟨x, alpha * (4 * beta - x) - 8 * (gamma * gamma), sum * sum - gamma - delta⟩

def add (p q : Jacobian) : Jacobian :=
  if p.z.rep = 0 then q
  else if q.z.rep = 0 then p
  else
    let pz := p.z * p.z
    let qz := q.z * q.z
    let px := p.x * qz
    let qx := q.x * pz
    let py := p.y * (qz * q.z)
    let qy := q.y * (pz * p.z)
    if px = qx then if py = qy then p.double else infinity
    else
      let h := qx - px
      let r := qy - py
      let h2 := h * h
      let h3 := h2 * h
      let v := px * h2
      let x := r * r - h3 - 2 * v
      ⟨x, r * (v - x) - py * h3, p.z * q.z * h⟩

/-- The sum of `m` times `p` and `n` times `q`, where both scalars are below `2 ^ width`. -/
def combineBits (p q sum : Jacobian) : (width m n : Nat) → Jacobian
  | 0, _, _ => infinity
  | width + 1, m, n =>
    let twice := (combineBits p q sum width (m / 2) (n / 2)).double
    match m % 2, n % 2 with
    | 0, 0 => twice
    | _, 0 => twice.add p
    | 0, _ => twice.add q
    | _, _ => twice.add sum

/-- The sum of `m` times `p` and `n` times `q` for scalars below `2 ^ 256`. -/
def combine (m : Nat) (p : Jacobian) (n : Nat) (q : Jacobian) : Jacobian :=
  combineBits p q (p.add q) 256 m n

def multiple (n : Nat) : Jacobian := combine n generator 0 infinity

/-- The coordinates of a point other than the one at infinity. -/
def coordinates? (p : Jacobian) : Option (Nat × Nat) :=
  if p.z.rep = 0 then none
  else
    let inverse := p.z.inverse
    let square := inverse * inverse
    some ((p.x * square).rep, (p.y * (square * inverse)).rep)

end Jacobian

end Possession.Curve.P256

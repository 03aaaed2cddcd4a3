import Possession.Curve.Residue
import Possession.Bytes

/-!
# The twisted Edwards curve of Ed25519

In extended coordinates `(x, y, z, t)` stands for the point `(x / z, y / z)` and `t = x y / z`; the
addition law has no exceptions, so it also doubles. Reading a point takes the second coordinate
modulo the prime, and the parity as it comes where the first coordinate is zero.
-/

namespace Possession.Curve.Edwards

def prime : Nat := Nat.pow 2 255 - 19

def order : Nat := Nat.pow 2 252 + 27742317777372353535851937790883648493

abbrev Element := Residue prime

/-- The coefficient `d` of the curve. -/
def coefficient : Element :=
  ⟨37095705934669439343138083508754565189542113879843219016388785533085940283555⟩

def rootOfMinusOne : Element :=
  ⟨19681161376707505956807079304988542015446066515923890162744021073123829784752⟩

/-- Extended coordinates of a point. -/
structure Point where
  /-- The first coordinate times `z`. -/
  x : Element
  /-- The second coordinate times `z`. -/
  y : Element
  z : Element
  /-- The product of the coordinates times `z`. -/
  t : Element
  deriving DecidableEq, Repr

namespace Point

def identity : Point := ⟨0, 1, 1, 0⟩

def ofCoordinates (x y : Element) : Point := ⟨x, y, 1, x * y⟩

def base : Point :=
  ofCoordinates
    ⟨15112221349535400772501151409588531511454012693041857206046113283949847762202⟩
    ⟨46316835694926478169428394003475163141307993866256225615783033603165251855960⟩

def add (p q : Point) : Point :=
  let a := (p.y - p.x) * (q.y - q.x)
  let b := (p.y + p.x) * (q.y + q.x)
  let c := 2 * coefficient * (p.t * q.t)
  let d := 2 * (p.z * q.z)
  let e := b - a
  let f := d - c
  let g := d + c
  let h := b + a
  ⟨e * f, g * h, f * g, e * h⟩

def neg (p : Point) : Point := ⟨-p.x, p.y, p.z, -p.t⟩

/-- The sum of `m` times `p` and `n` times `q`, where both scalars are below `2 ^ width`. -/
def combineBits (p q sum : Point) : (width m n : Nat) → Point
  | 0, _, _ => identity
  | width + 1, m, n =>
    let half := combineBits p q sum width (m / 2) (n / 2)
    let twice := half.add half
    match m % 2, n % 2 with
    | 0, 0 => twice
    | _, 0 => twice.add p
    | 0, _ => twice.add q
    | _, _ => twice.add sum

/-- The sum of `m` times `p` and `n` times `q` for scalars below `2 ^ 253`. -/
def combine (m : Nat) (p : Point) (n : Nat) (q : Point) : Point :=
  combineBits p q (p.add q) 253 m n

/-- The thirty-two bytes of a point. -/
def encode (p : Point) : Bytes :=
  let inverse := p.z.inverse
  let x := (p.x * inverse).rep
  let y := (p.y * inverse).rep
  Bytes.ofNatLittle 32 (y + x % 2 * Nat.pow 2 255)

/-- A square root of `u / v`, if there is one. -/
def rootOfRatio? (u v : Element) : Option Element :=
  let v3 := v * v * v
  let root := u * v3 * (u * (v3 * v3 * v)).pow ((prime - 5) / 8)
  let check := v * (root * root)
  if check = u then some root
  else if check = -u then some (root * rootOfMinusOne)
  else none

/-- The point that thirty-two bytes stand for, if any. -/
def decode? (bytes : Bytes) : Option Point := do
  let n := Bytes.toNatLittle bytes
  let y : Element := Residue.ofNat (n % Nat.pow 2 255)
  let square := y * y
  let root ← rootOfRatio? (square - 1) (coefficient * square + 1)
  return ofCoordinates (if root.rep % 2 = n / Nat.pow 2 255 % 2 then root else -root) y

end Point

end Possession.Curve.Edwards

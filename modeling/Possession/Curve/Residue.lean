/-!
# Arithmetic modulo a number

A residue is kept by a representative below the modulus. Inverses come from Fermat's little theorem,
so they are right for a prime modulus.
-/

namespace Possession.Curve

structure Residue (m : Nat) where
  rep : Nat
  deriving DecidableEq, Repr

namespace Residue

variable {m : Nat}

def ofNat (n : Nat) : Residue m := ⟨n % m⟩

instance {n : Nat} : OfNat (Residue m) n := ⟨ofNat n⟩

instance : Add (Residue m) := ⟨fun x y => ⟨(x.rep + y.rep) % m⟩⟩

instance : Sub (Residue m) := ⟨fun x y => ⟨(x.rep + (m - y.rep)) % m⟩⟩

instance : Mul (Residue m) := ⟨fun x y => ⟨x.rep * y.rep % m⟩⟩

instance : Neg (Residue m) := ⟨fun x => ⟨(m - x.rep) % m⟩⟩

/-- The power whose exponent is the number that the last `width` bits of `exponent` stand for. -/
def powBits (x : Residue m) : (width exponent : Nat) → Residue m
  | 0, _ => 1
  | width + 1, exponent =>
    let root := powBits x width (exponent / 2)
    let square := root * root
    if exponent % 2 = 1 then square * x else square

/-- A power with an exponent below `2 ^ 256`. -/
def pow (x : Residue m) (exponent : Nat) : Residue m := powBits x 256 exponent

/-- The inverse, if `m` is a prime; the inverse of zero is zero. -/
def inverse (x : Residue m) : Residue m := x.pow (m - 2)

end Residue

end Possession.Curve

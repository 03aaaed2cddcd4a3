/-!
# Double-precision numbers

`ofRatio` rounds to the nearest number of the format, to the one with the even mantissa where two
are equally near; each operation is an exact one followed by one rounding.
-/

namespace Possession.Decimal

/-- Where a number goes that lies halfway between two integers. -/
inductive Tie
  /-- To the even one. -/
  | even
  /-- To the larger one. -/
  | up
  deriving DecidableEq, Repr

/-- The quotient rounded to the nearest integer. -/
def roundQuotient (tie : Tie) (numerator denominator : Nat) : Nat :=
  let quotient := numerator / denominator
  let twice := 2 * (numerator % denominator)
  let tieGoesUp := tie = .up ∨ quotient % 2 = 1
  if denominator < twice ∨ (twice = denominator ∧ tieGoesUp) then quotient + 1 else quotient

/-- A number of the double-precision format. -/
inductive Binary64
  /-- The number `mantissa * 2 ^ exponent` with a sign, which zero has, too. -/
  | finite (negative : Bool) (mantissa : Nat) (exponent : Int)
  | infinite (negative : Bool)
  | nan
  deriving DecidableEq, Repr, Inhabited

namespace Binary64

/-- The exponent of the smallest positive number. -/
def leastExponent : Int := -1074

/-- The exponent of the largest finite numbers. -/
def greatestExponent : Int := 971

/-- The ratio divided by `2 ^ exponent`, as a numerator and a denominator. -/
def scale (numerator denominator : Nat) (exponent : Int) : Nat × Nat :=
  (numerator * Nat.pow 2 (-exponent).toNat, denominator * Nat.pow 2 exponent.toNat)

/-- The exponent at which the integer part of the ratio has 53 binary digits, or the least one. -/
def exponentFor (numerator denominator : Nat) : Int :=
  let guess := max leastExponent ((numerator.log2 : Int) - denominator.log2 - 53)
  let (n, d) := scale numerator denominator guess
  if n / d < Nat.pow 2 53 then guess else guess + 1

/-- The number nearest to the ratio of `numerator` to a positive `denominator`. -/
def ofRatio (negative : Bool) (numerator denominator : Nat) : Binary64 :=
  if numerator = 0 then .finite negative 0 leastExponent
  else
    let exponent := exponentFor numerator denominator
    let (n, d) := scale numerator denominator exponent
    let mantissa := roundQuotient .even n d
    let (mantissa, exponent) :=
      if mantissa = Nat.pow 2 53 then (Nat.pow 2 52, exponent + 1) else (mantissa, exponent)
    if greatestExponent < exponent then .infinite negative else .finite negative mantissa exponent

/-- An exponent of ten without the excess that cannot change the result: beyond these bounds a
number with the given mantissa is infinite or zero anyway. -/
def boundExponent (mantissa : Nat) (exponent : Int) : Int :=
  max (-(400 + mantissa.log2 : Int)) (min 400 exponent)

/-- The number nearest to `mantissa * 10 ^ exponent`. -/
def ofDecimal (negative : Bool) (mantissa : Nat) (exponent : Int) : Binary64 :=
  let exponent := boundExponent mantissa exponent
  ofRatio negative (mantissa * Nat.pow 10 exponent.toNat) (Nat.pow 10 (-exponent).toNat)

/-- The absolute value of a finite number as a numerator and a denominator. -/
def ratio? : Binary64 → Option (Nat × Nat)
  | .finite _ mantissa exponent =>
    some (mantissa * Nat.pow 2 exponent.toNat, Nat.pow 2 (-exponent).toNat)
  | _ => none

def isZero : Binary64 → Bool
  | .finite _ mantissa _ => mantissa == 0
  | _ => false

/-- The nearest natural number up to `limit`: halves go up, negative numbers and no number at all
give zero. -/
def toNatUpTo (limit : Nat) : Binary64 → Nat
  | .finite false mantissa exponent =>
    let (n, d) := scale mantissa 1 (-exponent)
    min limit ((2 * n + d) / (2 * d))
  | .finite true _ _ => 0
  | .infinite negative => if negative then 0 else limit
  | .nan => 0

end Binary64

end Possession.Decimal

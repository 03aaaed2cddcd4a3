import Possession.Decimal.Binary64

/-!
# Shortest decimals

A number of a binary format is written with the fewest decimal digits that read back as it, and of
those with the nearest. `shortest` tries one digit, then two, and so on.
-/

namespace Possession.Decimal

/-- A positive decimal `digits * 10 ^ exponent`. -/
structure Digits where
  /-- The digits, read as a number. -/
  digits : Nat
  /-- The power of ten of the last digit. -/
  exponent : Int
  deriving DecidableEq, Repr

def countDigits (n : Nat) : Nat := (Nat.toDigits 10 n).length

/-- The exponent of the power of ten at the first digit. -/
def Digits.magnitude (d : Digits) : Int := d.exponent + countDigits d.digits - 1

/-- Whether `n / d` lies between two bounds over the same denominator; the bounds count if
`closed`. -/
def within (closed : Bool) (low high n d scale : Nat) : Bool :=
  if closed then low * d ≤ n * scale && n * scale ≤ high * d
  else low * d < n * scale && n * scale < high * d

/-- The neighbours of a positive number `mantissa * 2 ^ exponent` that bound the decimals reading
back as it, and the number itself, as numerators over one denominator: `(low, value, high, scale)`.
Below a power of two the numbers of the format are twice as dense. -/
def interval (mantissa : Nat) (exponent : Int) : Nat × Nat × Nat × Nat :=
  let up := Nat.pow 2 exponent.toNat
  let scale := 4 * Nat.pow 2 (-exponent).toNat
  let below := if mantissa = Nat.pow 2 52 ∧ exponent ≠ Binary64.leastExponent then 1 else 2
  ((4 * mantissa - below) * up, 4 * mantissa * up, (4 * mantissa + 2) * up, scale)

/-- The decimal of at most `count` digits next to `value / scale` that reads back, if there is one;
of two the nearer. -/
def candidate (tie : Tie) (closed : Bool) (low value high scale : Nat) (unit : Int) :
    Option Digits :=
  let up := Nat.pow 10 unit.toNat
  let down := Nat.pow 10 (-unit).toNat
  let floor := value * down / (scale * up)
  let isIn := fun (n : Nat) => within closed low high (n * up) down scale
  let nearer := roundQuotient tie (value * down) (scale * up)
  if isIn nearer && nearer != 0 then some ⟨nearer, unit⟩
  else if isIn floor && floor != 0 then some ⟨floor, unit⟩
  else if isIn (floor + 1) then some ⟨floor + 1, unit⟩
  else none

/-- Searches the decimals whose last digit has the place `top`, then `top - 1`, and so on. -/
def search (tie : Tie) (closed : Bool) (low value high scale : Nat) (top : Int) :
    (tries : Nat) → Digits
  | 0 => ⟨value / scale, 0⟩
  | tries + 1 =>
    match candidate tie closed low value high scale top with
    | some digits => digits
    | none => search tie closed low value high scale (top - 1) tries

/-- The shortest decimal that reads back as the positive number `mantissa * 2 ^ exponent`. -/
def shortest (tie : Tie) (mantissa : Nat) (exponent : Int) : Digits :=
  let (low, value, high, scale) := interval mantissa exponent
  let top : Int := (countDigits (value / scale) : Int)
  let first : Int :=
    if value / scale = 0 then 1 - (countDigits (scale / value) : Int) else top
  search tie (mantissa % 2 = 0) low value high scale first 24

/-! ## Layouts -/

def digitChars (n : Nat) : List Char := Nat.toDigits 10 n

/-- Positional notation: no fraction for an integer. -/
def Digits.positional (d : Digits) : List Char :=
  let chars := digitChars d.digits
  if 0 ≤ d.exponent then chars ++ List.replicate d.exponent.toNat '0'
  else
    let places := (-d.exponent).toNat
    if places < chars.length then
      chars.take (chars.length - places) ++ '.' :: chars.drop (chars.length - places)
    else '0' :: '.' :: List.replicate (places - chars.length) '0' ++ chars

/-- Scientific notation with the sign of the exponent always written. -/
def Digits.scientific (d : Digits) : List Char :=
  let chars := digitChars d.digits
  let sign := if 0 ≤ d.magnitude then '+' else '-'
  chars.take 1 ++ (if chars.length = 1 then [] else '.' :: chars.drop 1) ++
    'e' :: sign :: digitChars d.magnitude.natAbs

/-- A number in positional notation: no exponent, no point for an integer, and words for what is not
finite. Of two equally near decimals it is the larger one. -/
def Binary64.plain : Binary64 → String
  | .finite negative mantissa exponent =>
    let sign := if negative then ['-'] else []
    let digits := if mantissa = 0 then ['0'] else (shortest .up mantissa exponent).positional
    String.ofList (sign ++ digits)
  | .infinite negative => if negative then "-inf" else "inf"
  | .nan => "NaN"

end Possession.Decimal

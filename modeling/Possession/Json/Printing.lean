import Possession.Decimal.Shortest
import Possession.Json

/-!
# Writing JSON

Strings escape the quote, the backslash and the control characters. Double-precision numbers are
written positionally for magnitudes from `10 ^ -5` to `10 ^ 16`, scientifically beyond.
-/

namespace Possession.Json

/-! ## Strings -/

def escapeChar (c : Char) : List Char :=
  if c = '"' then ['\\', '"']
  else if c = '\\' then ['\\', '\\']
  else if c = '\x08' then ['\\', 'b']
  else if c = '\t' then ['\\', 't']
  else if c = '\n' then ['\\', 'n']
  else if c = '\x0c' then ['\\', 'f']
  else if c = '\r' then ['\\', 'r']
  else if c.toNat < 0x20 then
    ['\\', 'u', '0', '0', Bytes.hexDigit (c.toNat / 16), Bytes.hexDigit (c.toNat % 16)]
  else [c]

def stringChars (text : String) : List Char := '"' :: text.toList.flatMap escapeChar ++ ['"']

/-! ## Numbers -/

/-- A number in positional notation with at least one place after the point, or in scientific
notation where the first digit stands outside the places from `10 ^ -5` to `10 ^ 15`. -/
def layout (digits : Decimal.Digits) : List Char :=
  if -5 ≤ digits.magnitude ∧ digits.magnitude ≤ 15 then
    if 0 ≤ digits.exponent then digits.positional ++ ['.', '0'] else digits.positional
  else digits.scientific

/-- A double-precision number. What is not finite has no notation and is written as `null`. -/
def doubleChars : Decimal.Binary64 → List Char
  | .finite negative mantissa exponent =>
    let sign := if negative then ['-'] else []
    if mantissa = 0 then sign ++ ['0', '.', '0']
    else sign ++ layout (Decimal.shortest .even mantissa exponent)
  | _ => ['n', 'u', 'l', 'l']

def integerChars (n : Int) : List Char :=
  if n < 0 then '-' :: Nat.toDigits 10 n.natAbs else Nat.toDigits 10 n.natAbs

def numberChars : Number → List Char
  | .integer value => integerChars value
  | .double value => doubleChars value

/-! ## Values -/

mutual

def chars : Json → List Char
  | .null => ['n', 'u', 'l', 'l']
  | .bool true => ['t', 'r', 'u', 'e']
  | .bool false => ['f', 'a', 'l', 's', 'e']
  | .number value => numberChars value
  | .string value => stringChars value
  | .array [] => ['[', ']']
  | .array (item :: items) => '[' :: chars item ++ itemChars items
  | .object [] => ['\x7b', '\x7d']
  | .object ((name, value) :: members) =>
    '\x7b' :: stringChars name ++ ':' :: chars value ++ memberChars members

/-- The items after the first one, and the closing bracket. -/
def itemChars : List Json → List Char
  | [] => [']']
  | item :: items => ',' :: chars item ++ itemChars items

/-- The members after the first one, and the closing brace. -/
def memberChars : List (String × Json) → List Char
  | [] => ['\x7d']
  | (name, value) :: members =>
    ',' :: stringChars name ++ ':' :: chars value ++ memberChars members

end

def print (value : Json) : String := String.ofList (chars value)

end Possession.Json

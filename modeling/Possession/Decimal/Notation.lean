import Possession.Decimal.Binary64
import Possession.Text.Character

/-!
# Decimal notation

The formats of settings and of environment variables differ in which parts of a number may be left
out; `Numeral.value` is the same for all of them.
-/

namespace Possession.Decimal

def digitValue (c : Char) : Nat := c.toNat - 48

def ofDigits (digits : List Char) : Nat := digits.foldl (fun n c => n * 10 + digitValue c) 0

def isDigits (text : List Char) : Bool := !text.isEmpty && text.all Text.isAsciiDigit

/-- A sign and the text after it; `true` stands for minus. -/
def readSign : List Char → Bool × List Char
  | '-' :: rest => (true, rest)
  | '+' :: rest => (false, rest)
  | text => (false, text)

def readInteger? (text : List Char) : Option Int :=
  let (negative, digits) := readSign text
  if isDigits digits then
    some (if negative then -(ofDigits digits : Int) else (ofDigits digits : Int))
  else none

/-- A number in decimal notation. -/
structure Numeral where
  negative : Bool
  /-- The digits before the point. -/
  whole : List Char
  /-- The digits after the point. -/
  fraction : List Char
  exponent : Int
  deriving DecidableEq, Repr

namespace Numeral

def value (numeral : Numeral) : Binary64 :=
  .ofDecimal numeral.negative (ofDigits (numeral.whole ++ numeral.fraction))
    (numeral.exponent - numeral.fraction.length)

/-- The digits before and after a point, which may be missing, and what follows. -/
def readParts (text : List Char) : List Char × Option (List Char) × List Char :=
  let whole := text.takeWhile Text.isAsciiDigit
  match text.dropWhile Text.isAsciiDigit with
  | '.' :: rest =>
    (whole, some (rest.takeWhile Text.isAsciiDigit), rest.dropWhile Text.isAsciiDigit)
  | rest => (whole, none, rest)

/-- The power of ten after its mark; without a mark the text must end. -/
def readExponent? : List Char → Option (Option Int)
  | [] => some none
  | 'e' :: digits | 'E' :: digits => (readInteger? digits).map some
  | _ => none

end Numeral

def ofWord? (negative : Bool) (text : List Char) : Option Binary64 :=
  if text = "inf".toList then some (.infinite negative)
  else if text = "nan".toList then some .nan
  else none

end Possession.Decimal

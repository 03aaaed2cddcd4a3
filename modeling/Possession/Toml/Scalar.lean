import Possession.Json
import Possession.Toml

/-!
# TOML scalars

A scalar that is not a string is a run of characters without space: a truth value, a date or time,
an integer in one of four bases, or a decimal number. Single underscores may stand between digits.
-/

namespace Possession.Toml

def isScalarChar (c : Char) : Bool :=
  Text.isAsciiLetter c || Text.isAsciiDigit c || ['+', '-', '_', '.', ':'].contains c

/-- Digits without the single underscores between them. -/
def dropUnderscores? (isDigit : Char → Bool) : List Char → Option (List Char)
  | [] => none
  | [c] => if isDigit c then some [c] else none
  | c :: '_' :: rest => if isDigit c then (dropUnderscores? isDigit rest).map (c :: ·) else none
  | c :: rest => if isDigit c then (dropUnderscores? isDigit rest).map (c :: ·) else none

def ofBase? (base : Nat) (text : List Char) : Option Int := do
  let isDigit := fun c => ((Bytes.hexValue? c).map (decide <| · < base)).getD false
  let digits ← dropUnderscores? isDigit text
  let n := digits.foldl (fun n c => n * base + (Bytes.hexValue? c).getD 0) 0
  return (n : Int)

/-- Decimal digits; a zero in front of others is allowed only if `padded` is set. -/
def readDecimal? (padded : Bool) (text : List Char) : Option (List Char) := do
  let digits ← dropUnderscores? Text.isAsciiDigit text
  if !padded && 1 < digits.length && digits.head? == some '0' then none else some digits

def readInteger? : List Char → Option Int
  | '0' :: 'x' :: digits => ofBase? 16 digits
  | '0' :: 'o' :: digits => ofBase? 8 digits
  | '0' :: 'b' :: digits => ofBase? 2 digits
  | text => do
    let (negative, digits) := Decimal.readSign text
    let n : Int := Decimal.ofDigits (← readDecimal? false digits)
    return if negative then -n else n

def cutExponent (text : List Char) : List Char × Option (List Char) :=
  let isMark := fun c => c == 'e' || c == 'E'
  match text.dropWhile (!isMark ·) with
  | [] => (text, none)
  | _ :: exponent => (text.takeWhile (!isMark ·), some exponent)

def readExponent? : Option (List Char) → Option Int
  | none => some 0
  | some text => do
    let (negative, digits) := Decimal.readSign text
    let n : Int := Decimal.ofDigits (← readDecimal? true digits)
    return if negative then -n else n

/-- A decimal number that is not an integer: it has a fraction or an exponent. -/
def readNumeral? (text : List Char) : Option Decimal.Numeral := do
  let (negative, unsigned) := Decimal.readSign text
  let (mantissa, exponentText) := cutExponent unsigned
  let exponent ← readExponent? exponentText
  match Text.cut? '.' mantissa with
  | none => return ⟨negative, ← readDecimal? false mantissa, [], exponent⟩
  | some (whole, fraction) =>
    return ⟨negative, ← readDecimal? false whole, ← readDecimal? true fraction, exponent⟩

/-- A number that is not an integer. Finite ones must be in range. -/
def readFloat? (text : List Char) : Option Decimal.Binary64 :=
  let (negative, unsigned) := Decimal.readSign text
  match Decimal.ofWord? negative unsigned with
  | some word => some word
  | none => do
    match (← readNumeral? text).value with
    | .infinite _ => none
    | x => some x

def readScalar? (text : List Char) : Option Item :=
  if text = "true".toList then some (.boolean true)
  else if text = "false".toList then some (.boolean false)
  else
    match Moment.parse? text, readInteger? text with
    | some moment, _ => some (.moment moment)
    | none, some n => if Json.fitsInt64 n then some (.integer n) else none
    | none, none => (readFloat? text).map .float

/-- The characters of the scalar at the start of a text, and what follows them. A space between a
date and a time belongs to the scalar. -/
def takeScalar (text : List Char) : List Char × List Char :=
  let front := text.takeWhile isScalarChar
  let rest := text.dropWhile isScalarChar
  match readDate? front, rest with
  | some (_, []), ' ' :: next :: after =>
    if Text.isAsciiDigit next then
      (front ++ ' ' :: (next :: after).takeWhile isScalarChar,
        (next :: after).dropWhile isScalarChar)
    else (front, rest)
  | _, _ => (front, rest)

end Possession.Toml

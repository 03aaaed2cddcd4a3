import Possession.Json
import Possession.Json.Tree

/-!
# Reading JSON

A tree is read as a value if its strings are well-formed text, its numbers are in range and it is
nested at most 127 levels deep. A number that is not an integer is the significand, cut to what fits
64 bits, times or divided by a power of ten, each rounded once.
-/

namespace Possession.Json

/-! ## Strings -/

/-- The value of a hexadecimal digit given as its byte. -/
def hexByteValue (byte : UInt8) : Nat := (Bytes.hexValue? (Char.ofNat byte.toNat)).getD 0

/-- The number that four hexadecimal digits stand for. -/
def unitOf (a b c d : UInt8) : Nat :=
  ((hexByteValue a * 16 + hexByteValue b) * 16 + hexByteValue c) * 16 + hexByteValue d

def isHighSurrogate (unit : Nat) : Bool := 0xD800 ≤ unit && unit < 0xDC00

def isLowSurrogate (unit : Nat) : Bool := 0xDC00 ≤ unit && unit < 0xE000

/-- The byte that an escape of two characters stands for. -/
def simpleEscape (byte : UInt8) : UInt8 :=
  if byte = 0x62 then 0x08
  else if byte = 0x66 then 0x0C
  else if byte = 0x6E then 0x0A
  else if byte = 0x72 then 0x0D
  else if byte = 0x74 then 0x09
  else byte

/-- The content of a string with its escapes resolved. Halves of surrogate pairs must come in
pairs. -/
def unescape? : Bytes → Option Bytes
  | [] => some []
  | 0x5C :: 0x75 :: a :: b :: c :: d :: 0x5C :: 0x75 :: e :: f :: g :: h :: rest =>
    let high := unitOf a b c d
    let low := unitOf e f g h
    if isHighSurrogate high then
      if isLowSurrogate low then
        (unescape? rest).map fun bytes =>
          String.utf8EncodeChar (Char.ofNat (0x10000 + (high - 0xD800) * 1024 + (low - 0xDC00))) ++
            bytes
      else none
    else if isLowSurrogate high then none
    else
      (unescape? (0x5C :: 0x75 :: e :: f :: g :: h :: rest)).map fun bytes =>
        String.utf8EncodeChar (Char.ofNat high) ++ bytes
  | 0x5C :: 0x75 :: a :: b :: c :: d :: rest =>
    let unit := unitOf a b c d
    if isHighSurrogate unit || isLowSurrogate unit then none
    else (unescape? rest).map fun bytes => String.utf8EncodeChar (Char.ofNat unit) ++ bytes
  | 0x5C :: escape :: rest => (unescape? rest).map (simpleEscape escape :: ·)
  | byte :: rest => (unescape? rest).map (byte :: ·)

def stringText? (content : Bytes) : Option String := do
  Bytes.toText? (← unescape? content)

/-! ## Numbers -/

def greatestSignificand : Nat := Nat.pow 2 64 - 1

/-- The significand of the digits before the point and the number of digits that no longer fit. -/
def readSignificand : (significand surplus : Nat) → List Nat → Nat × Nat
  | significand, surplus, [] => (significand, surplus)
  | significand, surplus, digit :: digits =>
    if surplus = 0 ∧ significand * 10 + digit ≤ greatestSignificand then
      readSignificand (significand * 10 + digit) 0 digits
    else readSignificand significand (surplus + 1) digits

/-- The significand extended by the digits after the point, as far as they fit, and their
number. -/
def extendSignificand : (significand places : Nat) → List Nat → Nat × Nat
  | significand, places, [] => (significand, places)
  | significand, places, digit :: digits =>
    if significand * 10 + digit ≤ greatestSignificand then
      extendSignificand (significand * 10 + digit) (places + 1) digits
    else (significand, places)

def ofDigits (digits : List Nat) : Nat := digits.foldl (fun n digit => n * 10 + digit) 0

/-- The power of ten as a number of the format. -/
def powerOfTen (exponent : Nat) : Decimal.Binary64 := .ofDecimal false 1 exponent

/-- The quotient of two finite numbers, the second one positive. -/
def quotient (x y : Decimal.Binary64) : Decimal.Binary64 :=
  match x.ratio?, y.ratio? with
  | some (a, b), some (c, d) => .ofRatio false (a * d) (b * c)
  | _, _ => .nan

def product (x y : Decimal.Binary64) : Decimal.Binary64 :=
  match x.ratio?, y.ratio? with
  | some (a, b), some (c, d) => .ofRatio false (a * c) (b * d)
  | _, _ => .nan

/-- A number divided by a power of ten, in steps of `10 ^ 308` while the exponent is larger. -/
def divideByPower : (steps : Nat) → Decimal.Binary64 → Nat → Decimal.Binary64
  | 0, x, _ => x
  | steps + 1, x, exponent =>
    if exponent ≤ 308 then quotient x (powerOfTen exponent)
    else if x.isZero then x
    else divideByPower steps (quotient x (powerOfTen 308)) (exponent - 308)

/-- The significand times a power of ten, or `none` if the product is out of range. -/
def scaled? (significand : Nat) (exponent : Int) : Option Decimal.Binary64 :=
  let x := Decimal.Binary64.ofRatio false significand 1
  if exponent < 0 then some (divideByPower 4 x (-exponent).toNat)
  else if 308 < exponent then if x.isZero then some x else none
  else
    match product x (powerOfTen exponent.toNat) with
    | .infinite _ => none
    | result => some result

def withSign (negative : Bool) : Decimal.Binary64 → Decimal.Binary64
  | .finite _ mantissa exponent => .finite negative mantissa exponent
  | x => x

/-- The value of a number, or `none` if it is out of range. -/
def Numeral.value? (numeral : Numeral) : Option Number :=
  let (significand, surplus) := readSignificand 0 0 numeral.whole
  match numeral.fraction, numeral.exponent with
  | none, none =>
    if surplus = 0 ∧ ¬ numeral.negative then some (.integer significand)
    else if surplus = 0 ∧ 0 < significand ∧ significand ≤ Nat.pow 2 63 then
      some (.integer (-significand))
    else (scaled? significand surplus).map fun x => .double (withSign numeral.negative x)
  | fraction, exponent =>
    let (significand, places) := extendSignificand significand 0 (fraction.getD [])
    let power : Int :=
      match exponent with
      | none => 0
      | some (negative, digits) => if negative then -ofDigits digits else ofDigits digits
    (scaled? significand (surplus - places + power)).map fun x =>
      .double (withSign numeral.negative x)

/-! ## Values -/

/-- How the members of the objects in a value are kept. -/
inductive Arrangement
  /-- Sorted by name, where the last of several members of one name counts. -/
  | byName
  /-- In the order of the text, repeated names included. -/
  | asWritten
  deriving DecidableEq, Repr

/-- The members of an object as they are kept. -/
def Arrangement.arrange : Arrangement → List (String × Json) → List (String × Json)
  | byName, members => Members.ofList members
  | asWritten, members => members

mutual

/-- The value of a tree with at most `depth` levels of brackets. -/
def ofTree? (kept : Arrangement) : (depth : Nat) → Tree → Option Json
  | _, .null => some .null
  | _, .bool value => some (.bool value)
  | _, .number numeral => numeral.value?.map .number
  | _, .string content => (stringText? content).map .string
  | 0, .array _ => none
  | depth + 1, .array items => (ofItems? kept depth items).map .array
  | 0, .object _ => none
  | depth + 1, .object members =>
    (ofMembers? kept depth members).map fun members => .object (kept.arrange members)

def ofItems? (kept : Arrangement) : (depth : Nat) → List Tree → Option (List Json)
  | _, [] => some []
  | depth, item :: items => do
    let value ← ofTree? kept depth item
    let values ← ofItems? kept depth items
    return value :: values

/-- The members of an object in the order of the text. -/
def ofMembers? (kept : Arrangement) :
    (depth : Nat) → List (Bytes × Tree) → Option (List (String × Json))
  | _, [] => some []
  | depth, (name, tree) :: members => do
    let name ← stringText? name
    let value ← ofTree? kept depth tree
    let others ← ofMembers? kept depth members
    return (name, value) :: others

end

def depthLimit : Nat := 127

def parse? (text : Bytes) : Option Json := do
  ofTree? .byName depthLimit (← Tree.parse? text)

/-- The members of a text that is an object, in the order of the text and with repeated names;
`kept` says how the members of objects inside are kept. -/
def parseMembers? (kept : Arrangement) (text : Bytes) : Option (List (String × Json)) := do
  match ← Tree.parse? text with
  | .object members => ofMembers? kept (depthLimit - 1) members
  | _ => none

/-- The value of a member that may occur once; `none` if the name is repeated. -/
def single? (name : String) (members : List (String × Json)) : Option (Option Json) :=
  match members.filter fun (other, _) => other == name with
  | [] => some none
  | [(_, value)] => some (some value)
  | _ => none

end Possession.Json

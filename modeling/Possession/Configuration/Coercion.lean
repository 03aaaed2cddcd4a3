import Possession.Configuration
import Possession.Decimal.Notation
import Possession.Decimal.Shortest
import Possession.Text.Character

/-!
# Typed settings

Values of other types are turned into the type of a setting where that makes sense: a number into
its text, a word such as `yes` into a truth value, a number into the nearest whole one.
-/

namespace Possession.Configuration

def yesWords : List String := ["true", "on", "yes"]

def noWords : List String := ["false", "off", "no"]

/-- A text in lower case, as far as it is ASCII. -/
def fold (text : String) : String := String.ofList (Text.asciiLower text.toList)

/-- The largest integer of 64 bits without a sign. -/
def greatestNatural : Nat := Nat.pow 2 64 - 1

/-- The number of a text that is digits after an optional plus sign. -/
def readNatural? (text : String) : Option Nat :=
  let digits := match text.toList with
    | '+' :: rest => rest
    | chars => chars
  let n := Decimal.ofDigits digits
  if Decimal.isDigits digits && n ≤ greatestNatural then some n else none

namespace Value

def asText? : Value → Option String
  | text value => some value
  | boolean value => some (if value then "true" else "false")
  | integer value => some (toString value)
  | float value => some value.plain
  | _ => none

def asNatural? : Value → Option Nat
  | integer value => if 0 ≤ value then some value.toNat else none
  | float value => some (value.toNatUpTo greatestNatural)
  | boolean value => some (if value then 1 else 0)
  | text value =>
    let word := fold value
    if yesWords.contains word then some 1
    else if noWords.contains word then some 0
    else readNatural? value
  | _ => none

def asBool? : Value → Option Bool
  | boolean value => some value
  | integer value => some (value != 0)
  | float value => some !value.isZero
  | text value =>
    let word := fold value
    if word = "1" || yesWords.contains word then some true
    else if word = "0" || noWords.contains word then some false
    else none
  | _ => none

def asTexts? : Value → Option (List String)
  | list items => items.mapM asText?
  | _ => none

end Value

end Possession.Configuration

import Possession.Configuration
import Possession.Decimal.Notation
import Possession.Json

/-!
# Configuration paths

A path is a name, then names after dots and indices in brackets. Any other text stands for the entry
of that name at the root.
-/

namespace Possession.Configuration

def isNameChar (c : Char) : Bool :=
  Text.isAsciiLetter c || Text.isAsciiDigit c || c == '_' || c == '-'

def readName? (text : List Char) : Option (String × List Char) :=
  let name := text.takeWhile isNameChar
  if name.isEmpty then none else some (String.ofList name, text.dropWhile isNameChar)

def skipSpace (text : List Char) : List Char := text.dropWhile fun c => c == ' ' || c == '\t'

/-- The number of an index, and what follows it. -/
def readNumber? (text : List Char) : Option (Int × List Char) := do
  let (negative, digits) := match text with
    | '-' :: rest => (true, rest)
    | text => (false, text)
  let front := digits.takeWhile Text.isAsciiDigit
  let n : Int := Decimal.ofDigits front
  let value := if negative then -n else n
  if front.isEmpty || !Json.fitsInt64 value then none
  else some (value, digits.dropWhile Text.isAsciiDigit)

/-- An index after its opening bracket, and what follows the closing one. -/
def readIndex? (text : List Char) : Option (Int × List Char) := do
  let (position, rest) ← readNumber? (skipSpace text)
  match skipSpace rest with
  | ']' :: rest => some (position, rest)
  | _ => none

/-- The steps after the first name. The first argument bounds their number. -/
def readSteps? : Nat → List Char → Option Path
  | _, [] => some []
  | 0, _ => none
  | fuel + 1, '.' :: text => do
    let (name, rest) ← readName? text
    return .key name :: (← readSteps? fuel rest)
  | fuel + 1, '[' :: text => do
    let (position, rest) ← readIndex? text
    return .index position :: (← readSteps? fuel rest)
  | _, _ => none

def readPath? (text : List Char) : Option Path := do
  let (name, rest) ← readName? text
  return .key name :: (← readSteps? rest.length rest)

def placeOf (name : String) : Path := (readPath? name.toList).getD [.key name]

/-- Lays a source over a configuration: named values, each at its place, in the order of the source.
The order counts only where two places do not part at a name, as that of a quoted key `"a.b"` and
that of a table `a`. -/
def overlay (source : List (String × Value)) (root : Value) : Value :=
  source.foldl (fun root (name, value) => set (placeOf name) value root) root

end Possession.Configuration

import Possession.Configuration.Path
import Possession.Text.Split

/-!
# Environment variables

Two underscores in the name of a variable separate the steps of a path. The value is read as a truth
value, an integer or a number if it looks like one.
-/

namespace Possession.Configuration.Environment

/-- What the name of an override starts with. -/
def marker : List Char := "pop_auth__".toList

/-- The one setting whose text is a list, separated by commas. -/
def listName : String := "signature.required_components"

/-- A text with a dot for each two underscores. -/
def dotted : List Char → List Char
  | '_' :: '_' :: rest => '.' :: dotted rest
  | c :: rest => c :: dotted rest
  | [] => []

/-- The name of the setting that a variable overrides. -/
def settingName? (name : String) : Option String :=
  (Text.after? marker (Text.lower name.toList)).map fun rest => String.ofList (dotted rest)

/-! ## Values -/

def readBool? (text : List Char) : Option Bool :=
  let word := Text.asciiLower text
  if word = "true".toList then some true else if word = "false".toList then some false else none

def readInteger? (text : List Char) : Option Int :=
  (Decimal.readInteger? text).filter Json.fitsInt64

/-- A number with digits before or after the point. -/
def readNumeral? (negative : Bool) (text : List Char) : Option Decimal.Numeral := do
  let (whole, fraction, rest) := Decimal.Numeral.readParts text
  let exponent ← Decimal.Numeral.readExponent? rest
  let fraction := fraction.getD []
  if whole.isEmpty && fraction.isEmpty then none
  else some ⟨negative, whole, fraction, exponent.getD 0⟩

/-- A number, or a word for what is not finite, in any case. -/
def readFloat? (text : List Char) : Option Decimal.Binary64 :=
  let (negative, unsigned) := Decimal.readSign text
  let word := Text.asciiLower unsigned
  if word = "infinity".toList then some (.infinite negative)
  else
    match Decimal.ofWord? negative word with
    | some value => some value
    | none => (readNumeral? negative unsigned).map Decimal.Numeral.value

/-- The value of a variable that overrides the setting of the given name. -/
def readValue (name value : String) : Value :=
  let text := value.toList
  match readBool? text, readInteger? text, readFloat? text with
  | some value, _, _ => .boolean value
  | none, some value, _ => .integer value
  | none, none, some value => .float value
  | none, none, none =>
    if name = listName then
      .list ((Text.pieces ',' text).map fun item => .text (String.ofList item))
    else .text value

def overrides (environment : List (String × String)) : List (String × Value) :=
  environment.filterMap fun (name, value) =>
    (settingName? name).map fun setting => (setting, readValue setting value)

end Possession.Configuration.Environment

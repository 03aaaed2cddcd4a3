import Possession.Text.Character
import Possession.Unicode.Joining
import Possession.Unicode.Permitted

/-!
# Labels of names

A label that starts with `xn--` stands for a label with characters outside ASCII, which must be in
normal form. Behind the mark stand the ASCII characters of that label, a hyphen, and digits to the
base 36. The digits hold a number for each other character: how many places to go on until it is
inserted, for each character of the alphabet once through all gaps of the text so far.
-/

namespace Possession.Url

/-! ## Characters outside ASCII in ASCII -/

namespace Punycode

/-- The value of a digit: letters, then decimal digits. -/
def digit? (c : Char) : Option Nat :=
  if Text.isAsciiLower c then some (c.toNat - 97)
  else if Text.isAsciiDigit c then some (c.toNat - 22)
  else none

/-- Every number and every weight of a digit is below this bound. -/
def bound : Nat := Nat.pow 2 32

/-- The value below which the digit at a place is the last one of its number. -/
def threshold (bias place : Nat) : Nat := max 1 (min 26 (place - bias))

/-- A number and the text after its digits. The digit at a place counts `weight`; places are counted
in steps of 36. -/
def readNumber? (bias : Nat) : (place weight sum : Nat) → List Char → Option (Nat × List Char)
  | _, _, _, [] => none
  | place, weight, sum, c :: rest => do
    let digit ← digit? c
    let sum := sum + digit * weight
    if bound ≤ sum then none
    if digit < threshold bias place then some (sum, rest)
    else
      let weight := weight * (36 - threshold bias place)
      if bound ≤ weight then none else readNumber? bias (place + 36) weight sum rest

/-- How far a number exceeds the size that gets the fewest digits, in steps of 36, and what is left
of it. The first argument bounds the steps. -/
def reduce : (steps : Nat) → (place number : Nat) → Nat × Nat
  | 0, place, number => (place, number)
  | steps + 1, place, number =>
    if 455 < number then reduce steps (place + 36) (number / 35) else (place, number)

/-- The bias after a number, where the text has `length` characters. -/
def adapt (number length : Nat) (isFirst : Bool) : Nat :=
  let scaled := if isFirst then number / 700 else number / 2
  let (place, rest) := reduce 8 0 (scaled + scaled / length)
  place + 36 * rest / (rest + 38)

/-- A label as far as it is read. -/
structure State where
  text : List Char
  /-- The last character inserted. -/
  code : Nat
  /-- The place after the last character inserted. -/
  place : Nat
  bias : Nat

/-- Inserts the character to which a number leads. -/
def State.insert? (state : State) (number : Nat) : Option State :=
  let gaps := state.text.length + 1
  let target := state.place + number
  let code := state.code + target / gaps
  if h : code.isValidChar then
    let place := target % gaps
    some {
      text := state.text.take place ++ Char.ofNatAux code h :: state.text.drop place
      code := code
      place := place + 1
      bias := adapt number gaps (state.place == 0) }
  else none

/-- Reads the numbers of a label. The first argument bounds their count. -/
def readNumbers? : (count : Nat) → State → List Char → Option (List Char)
  | _, state, [] => some state.text
  | 0, _, _ => none
  | count + 1, state, text => do
    let (sum, rest) ← readNumber? state.bias 36 1 state.place text
    readNumbers? count (← state.insert? (sum - state.place)) rest

/-- The text that a label in small letters stands for. The last hyphen separates its ASCII
characters from the numbers; where there are none of the former, there is no hyphen either. -/
def decode? (label : List Char) : Option (List Char) :=
  match Text.cutLast? '-' label with
  | some ([], _) => none
  | some (ascii, numbers) => readNumbers? numbers.length ⟨ascii, 0x80, 0, 72⟩ numbers
  | none => readNumbers? label.length ⟨[], 0x80, 0, 72⟩ label

end Punycode

/-! ## Labels -/

/-- What a label starts with that stands for another one. -/
def internationalMark : List Char := "xn--".toList

def longestLabel : Nat := 2000

/-- Whether a decoded label may hold a character. -/
def isLabelChar (c : Char) : Bool :=
  c.toNat < 0x80 || Unicode.isJoiner c || Unicode.isPermitted c

/-- Whether a decoded label is in normal form: permitted characters, composed, no mark at the start,
and no joiner without effect. -/
def isNormal (label : List Char) : Bool :=
  label.all isLabelChar && Unicode.isComposed label && !(label.head?.any Unicode.isMark) &&
    Unicode.joinersShow [] label

/-- What a label in small letters stands for: itself, unless it has the mark. A label that has the
mark without need is refused. -/
def decodeLabel? (label : List Char) : Option (List Char) :=
  match Text.after? internationalMark label with
  | none => some label
  | some encoded =>
    if encoded.getLast?.all (· == '-') || longestLabel < encoded.length then none
    else (Punycode.decode? encoded).filter isNormal

/-- Whether the labels of a name in small letters are acceptable. -/
def areLabelsValid (labels : List (List Char)) : Bool :=
  match labels.mapM decodeLabel? with
  | none => false
  | some labels => !labels.any Unicode.hasRight || labels.all Unicode.isWellDirected

end Possession.Url

import Possession.Bytes

/-!
# The grammar of JSON

`Tree.parse?` keeps a text as it was written: escapes, digits, repeated names. Which trees are too
deep, too large or not text at all is decided where a tree is read as a value, so a part of a text
that nobody reads only has to follow the grammar.
-/

namespace Possession.Json

structure Numeral where
  negative : Bool
  /-- The digits before the point. -/
  whole : List Nat
  /-- The digits after the point, if there is one. -/
  fraction : Option (List Nat)
  /-- The sign and the digits of the exponent, if there is one; `true` stands for minus. -/
  exponent : Option (Bool × List Nat)
  deriving DecidableEq, Repr

/-- A text of the grammar. -/
inductive Tree
  | null
  | bool (value : Bool)
  | number (numeral : Numeral)
  /-- A string, by the bytes between its quotes. -/
  | string (content : Bytes)
  | array (items : List Tree)
  /-- Members between braces, in the order of the text. -/
  | object (members : List (Bytes × Tree))
  deriving Repr, Inhabited

namespace Tree

/-! ## Lexical elements -/

def isSpace (byte : UInt8) : Bool :=
  byte == 0x20 || byte == 0x09 || byte == 0x0A || byte == 0x0D

def skipSpace (text : Bytes) : Bytes := text.dropWhile isSpace

def isDigit (byte : UInt8) : Bool := 0x30 ≤ byte && byte ≤ 0x39

def isHexDigit (byte : UInt8) : Bool :=
  isDigit byte || (0x61 ≤ byte && byte ≤ 0x66) || (0x41 ≤ byte && byte ≤ 0x46)

/-- The bytes that follow a backslash in an escape of two characters. -/
def simpleEscapes : Bytes := [0x22, 0x5C, 0x2F, 0x62, 0x66, 0x6E, 0x72, 0x74]

/-- The content of a string up to its closing quote, and the text after that. -/
def readString? : Bytes → Option (Bytes × Bytes)
  | [] => none
  | 0x22 :: rest => some ([], rest)
  | 0x5C :: 0x75 :: a :: b :: c :: d :: rest =>
    if [a, b, c, d].all isHexDigit then
      (readString? rest).map fun (content, rest) =>
        (0x5C :: 0x75 :: a :: b :: c :: d :: content, rest)
    else none
  | 0x5C :: escape :: rest =>
    if simpleEscapes.contains escape then
      (readString? rest).map fun (content, rest) => (0x5C :: escape :: content, rest)
    else none
  | byte :: rest =>
    if byte < 0x20 ∨ byte = 0x5C then none
    else (readString? rest).map fun (content, rest) => (byte :: content, rest)

/-- The values of the leading digits, and the text after them. -/
def readDigits (text : Bytes) : List Nat × Bytes :=
  ((text.takeWhile isDigit).map fun byte => byte.toNat - 48, text.dropWhile isDigit)

/-- The digits before the point: a zero stands alone. -/
def readWhole? (text : Bytes) : Option (List Nat × Bytes) :=
  match readDigits text with
  | ([], _) => none
  | (0 :: _ :: _, _) => none
  | (digits, rest) => some (digits, rest)

/-- A point and the digits after it, if there is one. -/
def readFraction? : Bytes → Option (Option (List Nat) × Bytes)
  | 0x2E :: rest =>
    match readDigits rest with
    | ([], _) => none
    | (digits, rest) => some (some digits, rest)
  | text => some (none, text)

def readSign : Bytes → Bool × Bytes
  | 0x2B :: rest => (false, rest)
  | 0x2D :: rest => (true, rest)
  | text => (false, text)

/-- An exponent, if there is one. -/
def readExponent? (text : Bytes) : Option (Option (Bool × List Nat) × Bytes) :=
  match text with
  | mark :: rest =>
    if mark = 0x65 ∨ mark = 0x45 then
      let (negative, rest) := readSign rest
      match readDigits rest with
      | ([], _) => none
      | (digits, rest) => some (some (negative, digits), rest)
    else some (none, text)
  | [] => some (none, [])

/-- A number without its sign. -/
def readNumeral? (negative : Bool) (text : Bytes) : Option (Numeral × Bytes) := do
  let (whole, text) ← readWhole? text
  let (fraction, text) ← readFraction? text
  let (exponent, text) ← readExponent? text
  return (⟨negative, whole, fraction, exponent⟩, text)

def readWord? (word : String) (text : Bytes) : Option Bytes :=
  let expected := Bytes.ofText word
  if expected.isPrefixOf text then some (text.drop expected.length) else none

/-! ## Values -/

mutual

/-- A value, and the text after it. The first argument bounds the number of values and brackets
read. -/
def readValue? : Nat → Bytes → Option (Tree × Bytes)
  | 0, _ => none
  | fuel + 1, text =>
    match skipSpace text with
    | 0x6E :: rest => (readWord? "ull" rest).map fun rest => (null, rest)
    | 0x74 :: rest => (readWord? "rue" rest).map fun rest => (bool true, rest)
    | 0x66 :: rest => (readWord? "alse" rest).map fun rest => (bool false, rest)
    | 0x22 :: rest => (readString? rest).map fun (content, rest) => (string content, rest)
    | 0x2D :: rest => (readNumeral? true rest).map fun (numeral, rest) => (number numeral, rest)
    | 0x5B :: rest =>
      match skipSpace rest with
      | 0x5D :: rest => some (array [], rest)
      | rest => (readItems? fuel rest).map fun (items, rest) => (array items, rest)
    | 0x7B :: rest =>
      match skipSpace rest with
      | 0x7D :: rest => some (object [], rest)
      | rest => (readMembers? fuel rest).map fun (members, rest) => (object members, rest)
    | rest => (readNumeral? false rest).map fun (numeral, rest) => (number numeral, rest)

/-- Items up to the closing bracket; at least one. -/
def readItems? : Nat → Bytes → Option (List Tree × Bytes)
  | 0, _ => none
  | fuel + 1, text => do
    let (item, rest) ← readValue? fuel text
    match skipSpace rest with
    | 0x5D :: rest => return ([item], rest)
    | 0x2C :: rest =>
      let (items, rest) ← readItems? fuel rest
      return (item :: items, rest)
    | _ => none

/-- Members up to the closing brace; at least one. -/
def readMembers? : Nat → Bytes → Option (List (Bytes × Tree) × Bytes)
  | 0, _ => none
  | fuel + 1, text =>
    match skipSpace text with
    | 0x22 :: rest => do
      let (name, rest) ← readString? rest
      match skipSpace rest with
      | 0x3A :: rest =>
        let (value, rest) ← readValue? fuel rest
        match skipSpace rest with
        | 0x7D :: rest => return ([(name, value)], rest)
        | 0x2C :: rest =>
          let (members, rest) ← readMembers? fuel rest
          return ((name, value) :: members, rest)
        | _ => none
      | _ => none
    | _ => none

end

/-- The tree of a text that is one value with space around it. -/
def parse? (text : Bytes) : Option Tree := do
  let (tree, rest) ← readValue? (text.length + 1) text
  if skipSpace rest = [] then some tree else none

end Tree

end Possession.Json

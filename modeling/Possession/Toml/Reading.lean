import Possession.Toml.Scalar
import Possession.Toml.Text

/-!
# Reading TOML

A document is read line by line, but arrays and inline tables may stretch over several lines. Each
table is given once, by a header, by dotted keys or between braces.
-/

namespace Possession.Toml

/-- The deepest nesting of values, and the largest number of parts of a key. -/
def depthLimit : Nat := 80

/-! ## Space and comments -/

def skipBlanks (text : List Char) : List Char := text.dropWhile isBlankChar

/-- The text after space, line breaks and comments. -/
def skipTrivia? : (inComment : Bool) → List Char → Option (List Char)
  | _, [] => some []
  | _, '\r' :: '\n' :: rest | _, '\n' :: rest => skipTrivia? false rest
  | true, c :: rest => if isPlain c then skipTrivia? true rest else none
  | false, '#' :: rest => skipTrivia? true rest
  | false, c :: rest => if isBlankChar c then skipTrivia? false rest else some (c :: rest)

/-- The text after the end of a line, before which only space and a comment may stand. -/
def endLine? (text : List Char) : Option (List Char) :=
  let rest := match skipBlanks text with
    | '#' :: comment => comment.dropWhile isPlain
    | rest => rest
  match rest with
  | [] => some []
  | '\r' :: '\n' :: rest | '\n' :: rest => some rest
  | _ => none

/-! ## Keys -/

def isKeyChar (c : Char) : Bool :=
  Text.isAsciiLetter c || Text.isAsciiDigit c || c == '_' || c == '-'

/-- A key without dots, and what follows it. -/
def readSimpleKey? (text : List Char) : Option (String × List Char) :=
  match text with
  | '"' :: rest => (readBasic? rest).map fun (key, rest) => (String.ofList key, rest)
  | '\'' :: rest => (readLiteral? rest).map fun (key, rest) => (String.ofList key, rest)
  | _ =>
    let key := text.takeWhile isKeyChar
    if key.isEmpty then none else some (String.ofList key, text.dropWhile isKeyChar)

/-- At most `count` parts of a key between dots, and what follows them and the space after them. -/
def readParts? : (count : Nat) → List Char → Option (List String × List Char)
  | 0, _ => none
  | count + 1, text => do
    let (key, rest) ← readSimpleKey? (skipBlanks text)
    match skipBlanks rest with
    | '.' :: rest => (readParts? count rest).map fun (keys, rest) => (key :: keys, rest)
    | rest => return ([key], rest)

def readKey? (text : List Char) : Option (List String × List Char) := readParts? depthLimit text

/-! ## Values -/

mutual

/-- A value nested at most `depth` levels deep, and what follows it. The first argument bounds the
number of values and brackets read. -/
def readValue? : Nat → (depth : Nat) → List Char → Option (Item × List Char)
  | 0, _, _ => none
  | fuel + 1, depth, text =>
    match readString? text with
    | some read => read.map fun (content, rest) => (.text (String.ofList content), rest)
    | none =>
      match depth, text with
      | 0, '[' :: _ | 0, '\x7b' :: _ => none
      | depth + 1, '[' :: rest =>
        (readItems? fuel depth rest).map fun (items, rest) => (.list items, rest)
      | depth + 1, '\x7b' :: rest =>
        (readEntries? fuel depth [] rest).map fun (entries, rest) => (.table .inline entries, rest)
      | _, _ =>
        let (scalar, rest) := takeScalar text
        (readScalar? scalar).map fun item => (item, rest)

def readItems? : Nat → (depth : Nat) → List Char → Option (List Item × List Char)
  | 0, _, _ => none
  | fuel + 1, depth, text => do
    match ← skipTrivia? false text with
    | ']' :: rest => return ([], rest)
    | text =>
      let (item, rest) ← readValue? fuel depth text
      match ← skipTrivia? false rest with
      | ']' :: rest => return ([item], rest)
      | ',' :: rest =>
        (readItems? fuel depth rest).map fun (items, rest) => (item :: items, rest)
      | _ => none

/-- Adds entries up to the closing brace, and returns what follows it. Lines may break around each
sign, but not within a key. -/
def readEntries? : Nat → (depth : Nat) → Entries → List Char → Option (Entries × List Char)
  | 0, _, _, _ => none
  | fuel + 1, depth, entries, text => do
    match ← skipTrivia? false text with
    | '\x7d' :: rest => return (entries, rest)
    | text =>
      let (key, rest) ← readKey? text
      let rest ← Text.after? ['='] (← skipTrivia? false rest)
      let (item, rest) ← readValue? fuel depth (← skipTrivia? false rest)
      let entries ← entries.addDotted item key
      match ← skipTrivia? false rest with
      | '\x7d' :: rest => return (entries, rest)
      | ',' :: rest => readEntries? fuel depth entries rest
      | _ => none

end

/-! ## Documents -/

structure Document where
  root : Entries
  /-- The path of the table that new entries belong to. -/
  current : List String

def readHeader? (document : Document) (text : List Char) : Option (Document × List Char) :=
  match text with
  | '[' :: rest => do
    let (path, rest) ← readKey? rest
    let rest ← Text.after? [']', ']'] rest
    return (⟨← document.root.declare Entries.openElement path, path⟩, rest)
  | _ => do
    let (path, rest) ← readKey? text
    let rest ← Text.after? [']'] rest
    return (⟨← document.root.declare Entries.openTable path, path⟩, rest)

def readAssignment? (document : Document) (text : List Char) : Option (Document × List Char) := do
  let (key, rest) ← readKey? text
  let rest ← Text.after? ['='] rest
  let (item, rest) ← readValue? (rest.length + 1) depthLimit (skipBlanks rest)
  let root ← document.root.within (Entries.addDotted item key) document.current
  return (⟨root, document.current⟩, rest)

def readLine? (document : Document) (text : List Char) : Option (Document × List Char) := do
  let (document, rest) ←
    match skipBlanks text with
    | '[' :: rest => readHeader? document rest
    | '#' :: _ | '\r' :: _ | '\n' :: _ | [] => some (document, text)
    | text => readAssignment? document text
  return (document, ← endLine? rest)

/-- The lines of a document. The first argument bounds their number. -/
def readLines? : Nat → Document → List Char → Option Entries
  | _, document, [] => some document.root
  | 0, _, _ => none
  | fuel + 1, document, text => do
    let (document, rest) ← readLine? document text
    readLines? fuel document rest

/-- Reads a document, before which a byte order mark may stand. -/
def parse? (text : String) : Option Entries :=
  let chars := match text.toList with
    | '\ufeff' :: rest => rest
    | chars => chars
  readLines? (chars.length + 1) ⟨[], []⟩ chars

end Possession.Toml

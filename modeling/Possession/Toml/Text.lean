import Possession.Bytes
import Possession.Decimal.Notation

/-!
# TOML strings

Each reader takes the text after the opening quotes and returns the content and the text after the
closing ones.
-/

namespace Possession.Toml

def isBlankChar (c : Char) : Bool := c == ' ' || c == '\t'

def startsLine : List Char → Bool
  | '\n' :: _ | '\r' :: '\n' :: _ => true
  | _ => false

/-- Whether strings and comments may hold a character: no control character except the tab. -/
def isPlain (c : Char) : Bool := c == '\t' || (0x20 ≤ c.toNat && c.toNat != 0x7F)

/-- The character that a backslash and a letter stand for. -/
def simpleEscape? (c : Char) : Option Char :=
  match c with
  | 'b' => some '\x08'
  | 't' => some '\t'
  | 'n' => some '\n'
  | 'f' => some '\x0c'
  | 'r' => some '\r'
  | 'e' => some '\x1b'
  | '"' => some '"'
  | '\\' => some '\\'
  | _ => none

def ofHexDigits? (digits : List Char) : Option Char := do
  let n ← digits.foldlM (fun n c => (Bytes.hexValue? c).map (n * 16 + ·)) 0
  if h : n.isValidChar then some (Char.ofNatAux n h) else none

/-- A string with another character in front. -/
def push (c : Char) (read : Option (List Char × List Char)) : Option (List Char × List Char) :=
  read.map fun (content, rest) => (c :: content, rest)

def readBasic? : List Char → Option (List Char × List Char)
  | [] => none
  | '"' :: rest => some ([], rest)
  | '\\' :: 'x' :: a :: b :: rest => do push (← ofHexDigits? [a, b]) (readBasic? rest)
  | '\\' :: 'u' :: a :: b :: c :: d :: rest => do
    push (← ofHexDigits? [a, b, c, d]) (readBasic? rest)
  | '\\' :: 'U' :: a :: b :: c :: d :: e :: f :: g :: h :: rest => do
    push (← ofHexDigits? [a, b, c, d, e, f, g, h]) (readBasic? rest)
  | '\\' :: c :: rest => do push (← simpleEscape? c) (readBasic? rest)
  | c :: rest => if isPlain c && c != '\\' then push c (readBasic? rest) else none

def readLiteral? : List Char → Option (List Char × List Char)
  | [] => none
  | '\'' :: rest => some ([], rest)
  | c :: rest => if isPlain c then push c (readLiteral? rest) else none

/-- Reads a basic string on several lines. While `skipping` is set, space and line breaks are
dropped. -/
def readBasicLines? : (skipping : Bool) → List Char → Option (List Char × List Char)
  | _, [] => none
  | _, '"' :: '"' :: '"' :: '"' :: '"' :: rest => some (['"', '"'], rest)
  | _, '"' :: '"' :: '"' :: '"' :: rest => some (['"'], rest)
  | _, '"' :: '"' :: '"' :: rest => some ([], rest)
  | skipping, '\r' :: '\n' :: rest =>
    if skipping then readBasicLines? true rest
    else push '\r' (push '\n' (readBasicLines? false rest))
  | skipping, '\n' :: rest =>
    if skipping then readBasicLines? true rest else push '\n' (readBasicLines? false rest)
  | _, '\\' :: 'x' :: a :: b :: rest => do push (← ofHexDigits? [a, b]) (readBasicLines? false rest)
  | _, '\\' :: 'u' :: a :: b :: c :: d :: rest => do
    push (← ofHexDigits? [a, b, c, d]) (readBasicLines? false rest)
  | _, '\\' :: 'U' :: a :: b :: c :: d :: e :: f :: g :: h :: rest => do
    push (← ofHexDigits? [a, b, c, d, e, f, g, h]) (readBasicLines? false rest)
  | _, '\\' :: c :: rest =>
    if startsLine ((c :: rest).dropWhile isBlankChar) then readBasicLines? true (c :: rest)
    else do push (← simpleEscape? c) (readBasicLines? false rest)
  | skipping, c :: rest =>
    if skipping && isBlankChar c then readBasicLines? true rest
    else if isPlain c && c != '\\' then push c (readBasicLines? false rest)
    else none

def readLiteralLines? : List Char → Option (List Char × List Char)
  | [] => none
  | '\'' :: '\'' :: '\'' :: '\'' :: '\'' :: rest => some (['\'', '\''], rest)
  | '\'' :: '\'' :: '\'' :: '\'' :: rest => some (['\''], rest)
  | '\'' :: '\'' :: '\'' :: rest => some ([], rest)
  | '\r' :: '\n' :: rest => push '\r' (push '\n' (readLiteralLines? rest))
  | c :: rest => if isPlain c || c == '\n' then push c (readLiteralLines? rest) else none

def dropLineBreak : List Char → List Char
  | '\r' :: '\n' :: rest | '\n' :: rest => rest
  | text => text

/-- Reads a string with its quotes; `none` if the text does not start with a quote, and otherwise
the string or its failure. -/
def readString? : List Char → Option (Option (List Char × List Char))
  | '"' :: '"' :: '"' :: rest => some (readBasicLines? false (dropLineBreak rest))
  | '"' :: rest => some (readBasic? rest)
  | '\'' :: '\'' :: '\'' :: rest => some (readLiteralLines? (dropLineBreak rest))
  | '\'' :: rest => some (readLiteral? rest)
  | _ => none

end Possession.Toml

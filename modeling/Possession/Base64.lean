import Possession.Bytes

/-!
# Base64

An `Encoding` chooses the last two symbols of the alphabet and whether a short last group is filled
up with `=`. Decoding accepts the canonical form only and reports the first fault in this order: a
foreign byte at the very end, the groups from left to right, the length, the padding, the unused
bits.
-/

namespace Possession.Base64

/-- The two alphabets, which differ in the symbols for 62 and 63. -/
inductive Alphabet
  /-- `+` and `/`. -/
  | standard
  /-- `-` and `_`, which need no escape in a URL. -/
  | urlSafe
  deriving DecidableEq, Repr

/-- How a last group of fewer than four symbols is written. -/
inductive Padding
  /-- It is filled up with `=`. -/
  | required
  /-- It stays short, and `=` is not allowed. -/
  | forbidden
  deriving DecidableEq, Repr

structure Encoding where
  alphabet : Alphabet
  padding : Padding
  deriving DecidableEq, Repr

/-- Digests and signatures in header fields. -/
def standard : Encoding := ⟨.standard, .required⟩

/-- Signatures in header fields, written without padding. -/
def standardUnpadded : Encoding := ⟨.standard, .forbidden⟩

/-- Thumbprints, members of keys and the parts of tokens. -/
def urlUnpadded : Encoding := ⟨.urlSafe, .forbidden⟩

def pad : UInt8 := 61

/-- The symbols for 62 and 63. -/
def Alphabet.lastSymbols : Alphabet → Char × Char
  | .standard => ('+', '/')
  | .urlSafe => ('-', '_')

def Alphabet.symbol (alphabet : Alphabet) (value : Nat) : Char :=
  if value < 26 then Char.ofNat (65 + value)
  else if value < 52 then Char.ofNat (71 + value)
  else if value < 62 then Char.ofNat (value - 4)
  else if value = 62 then alphabet.lastSymbols.1
  else alphabet.lastSymbols.2

/-- The value of a symbol given as its byte, or `none` if the byte is not in the alphabet. -/
def Alphabet.value? (alphabet : Alphabet) (byte : UInt8) : Option Nat :=
  let n := byte.toNat
  if 65 ≤ n ∧ n ≤ 90 then some (n - 65)
  else if 97 ≤ n ∧ n ≤ 122 then some (n - 71)
  else if 48 ≤ n ∧ n ≤ 57 then some (n + 4)
  else if n = alphabet.lastSymbols.1.toNat then some 62
  else if n = alphabet.lastSymbols.2.toNat then some 63
  else none

/-! ## Encoding -/

/-- The padding of a last group that lacks `missing` symbols. -/
def Padding.fill (padding : Padding) (missing : Nat) : List Char :=
  match padding with
  | .required => List.replicate missing '='
  | .forbidden => []

def encodeChars (encoding : Encoding) : Bytes → List Char
  | [] => []
  | [a] =>
    let n := a.toNat
    encoding.alphabet.symbol (n / 4) :: encoding.alphabet.symbol (n % 4 * 16) ::
      encoding.padding.fill 2
  | [a, b] =>
    let n := a.toNat * 256 + b.toNat
    encoding.alphabet.symbol (n / 1024) :: encoding.alphabet.symbol (n / 16 % 64) ::
      encoding.alphabet.symbol (n % 16 * 4) :: encoding.padding.fill 1
  | a :: b :: c :: rest =>
    let n := (a.toNat * 256 + b.toNat) * 256 + c.toNat
    encoding.alphabet.symbol (n / 262144) :: encoding.alphabet.symbol (n / 4096 % 64) ::
      encoding.alphabet.symbol (n / 64 % 64) :: encoding.alphabet.symbol (n % 64) ::
      encodeChars encoding rest

def encode (encoding : Encoding) (bytes : Bytes) : String :=
  String.ofList (encodeChars encoding bytes)

/-! ## Decoding -/

inductive Fault
  /-- A byte outside the alphabet, or padding out of place. -/
  | symbol (byte : UInt8) (offset : Nat)
  /-- A last group of a single symbol, or of none but padding. -/
  | length (count : Nat)
  /-- The last symbol carries bits that no byte uses. -/
  | lastSymbol (byte : UInt8) (offset : Nat)
  /-- Padding is missing, or present although it is forbidden. -/
  | padding
  deriving DecidableEq, Repr

def Fault.message : Fault → String
  | .symbol byte offset => s!"Invalid symbol {byte.toNat}, offset {offset}."
  | .length count => s!"Invalid input length: {count}"
  | .lastSymbol byte offset => s!"Invalid last symbol {byte.toNat}, offset {offset}."
  | .padding => "Invalid padding"

/-- The values of symbols that stand at `offset` and after it. -/
def values (alphabet : Alphabet) : (offset : Nat) → Bytes → Except Fault (List Nat)
  | _, [] => .ok []
  | offset, byte :: rest =>
    match alphabet.value? byte with
    | none => .error (.symbol byte offset)
    | some value => do
      let others ← values alphabet (offset + 1) rest
      return value :: others

/-- The bytes that complete groups of four values stand for. -/
def ofGroups : List Nat → Bytes
  | a :: b :: c :: d :: rest =>
    let n := ((a * 64 + b) * 64 + c) * 64 + d
    UInt8.ofNat (n / 65536) :: UInt8.ofNat (n / 256) :: UInt8.ofNat n :: ofGroups rest
  | _ => []

/-- Splits off the last group: it holds between one and four bytes unless the input is empty. -/
def bodyLength (count : Nat) : Nat := if count % 4 = 0 then count - 4 else count - count % 4

/-- The amount of padding after the `count` symbols of the last group, which starts at `start`.
Padding begins at the third place at the earliest, and nothing follows it. -/
def paddingLength (start count : Nat) (padding : Bytes) : Except Fault Nat :=
  if padding ≠ [] ∧ (count < 2 ∨ padding.any (· != pad)) then
    .error (.symbol pad (start + count))
  else .ok padding.length

/-- Whether the last group has the padding that the rule asks for. -/
def Padding.admits (padding : Padding) (symbols pads : Nat) : Bool :=
  match padding with
  | .required => (symbols + pads) % 4 == 0
  | .forbidden => pads == 0

/-- The bytes of a last group of two to four values, or `none` if bits are left over. -/
def ofLastGroup? : List Nat → Option Bytes
  | [a, b] => if b % 16 = 0 then some [UInt8.ofNat ((a * 64 + b) / 16)] else none
  | [a, b, c] =>
    if c % 4 = 0 then
      let n := (a * 64 + b) * 64 + c
      some [UInt8.ofNat (n / 1024), UInt8.ofNat (n / 4)]
    else none
  | group => some (ofGroups group)

/-- Decodes the last group, which starts at `start`. -/
def decodeLast (encoding : Encoding) (start : Nat) (group : Bytes) : Except Fault Bytes := do
  let symbols := group.takeWhile (· != pad)
  let front ← values encoding.alphabet start symbols
  let pads ← paddingLength start symbols.length (group.dropWhile (· != pad))
  if symbols.length < 2 then throw (.length (start + symbols.length))
  if !encoding.padding.admits symbols.length pads then throw .padding
  match ofLastGroup? front with
  | some bytes => return bytes
  | none => throw (.lastSymbol (symbols.getLastD pad) (start + symbols.length - 1))

/-- The byte string that a text, given as its bytes, encodes. -/
def decode (encoding : Encoding) (input : Bytes) : Except Fault Bytes := do
  let count := input.length
  if count = 0 then return []
  let last := input.getLastD pad
  if count % 4 = 1 ∧ last ≠ pad ∧ encoding.alphabet.value? last = none then
    throw (.symbol last (count - 1))
  let start := bodyLength count
  let body ← values encoding.alphabet 0 (input.take start)
  let tail ← decodeLast encoding start (input.drop start)
  return ofGroups body ++ tail

def decodeText (encoding : Encoding) (text : String) : Except Fault Bytes :=
  decode encoding (Bytes.ofText text)

def decode? (encoding : Encoding) (text : String) : Option Bytes :=
  (decodeText encoding text).toOption

example : encode standard [0xfb, 0xff] = "+/8=" := by decide
example : encode urlUnpadded [0xfb, 0xff] = "-_8" := by decide
example : decode? standard "+/8=" = some [0xfb, 0xff] := by decide
example : (decodeText standard "+/9=").toOption = none := by decide

end Possession.Base64

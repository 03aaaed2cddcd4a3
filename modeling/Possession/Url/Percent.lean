import Possession.Bytes
import Possession.Text.Printable

/-!
# Percent-encoding

Each part of a URL has a set of ASCII characters that it may not hold, beside the control
characters; bytes outside ASCII are always encoded. So an encoded text is printable.
-/

namespace Possession.Url

/-- The characters to encode in a fragment. -/
def fragmentSet : List Char := [' ', '"', '<', '>', '\x60']

def pathSet : List Char := fragmentSet ++ ['#', '?', '\x7b', '\x7d']

def credentialSet : List Char :=
  pathSet ++ ['/', ':', ';', '=', '@', '[', '\\', ']', '^', '|']

def querySet : List Char := [' ', '"', '#', '<', '>']

def specialQuerySet : List Char := '\'' :: querySet

/-- The hexadecimal digit with the value `n < 16`, in upper case. -/
def upperHexDigit (n : Nat) : Char :=
  if n < 10 then Char.ofNat (48 + n) else Char.ofNat (55 + n)

def encodeByte (byte : UInt8) : List Char :=
  ['%', upperHexDigit (byte.toNat / 16), upperHexDigit (byte.toNat % 16)]

/-- A text with the characters of a set, the control characters and everything outside ASCII
encoded. -/
def percentEncode (set : List Char) (text : List Char) : List Char :=
  text.flatMap fun c =>
    if c.toNat < 0x20 ∨ 0x7E < c.toNat ∨ set.contains c then
      (String.utf8EncodeChar c).flatMap encodeByte
    else [c]

/-- The bytes of a text with encoded bytes decoded; a percent sign without two digits stands for
itself. -/
def percentDecode : List Char → Bytes
  | [] => []
  | '%' :: high :: low :: rest =>
    match Bytes.hexValue? high, Bytes.hexValue? low with
    | some h, some l => UInt8.ofNat (16 * h + l) :: percentDecode rest
    | _, _ => 0x25 :: percentDecode (high :: low :: rest)
  | c :: rest => String.utf8EncodeChar c ++ percentDecode rest

theorem printable_upperHexDigit {n : Nat} (h : n < 16) : Text.IsPrintable (upperHexDigit n) := by
  revert n
  decide

theorem printable_encodeByte (byte : UInt8) : Text.Printable (encodeByte byte) := by
  have hbyte : byte.toNat < 256 := byte.toNat_lt
  have hhigh := printable_upperHexDigit (by omega : byte.toNat / 16 < 16)
  have hlow := printable_upperHexDigit (by omega : byte.toNat % 16 < 16)
  simpa [encodeByte, hhigh, hlow] using (by decide : Text.IsPrintable '%')

/-- Encoding leaves printable characters only, whatever the set. -/
theorem printable_percentEncode (set text : List Char) :
    Text.Printable (percentEncode set text) := by
  apply Text.printable_flatMap
  intro c _
  split
  · exact Text.printable_flatMap fun byte _ => printable_encodeByte byte
  · next h => simp only [Text.printable_cons, Text.printable_nil, and_true, Text.IsPrintable]; omega

end Possession.Url

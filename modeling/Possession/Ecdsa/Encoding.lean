import Possession.Ecdsa

/-!
# Byte layouts of ECDSA signatures

A signature is a DER sequence of two integers or two halves of thirty-two bytes. DER is read
strictly: lengths and integers take the fewest bytes, and nothing follows the sequence.
-/

namespace Possession.Ecdsa

namespace Signature

/-! ## Fixed width -/

/-- The two halves, most significant byte first. -/
def toFixed (signature : Signature) : Bytes :=
  Bytes.ofNat 32 signature.r.val ++ Bytes.ofNat 32 signature.s.val

def ofFixed? (bytes : Bytes) : Option Signature :=
  if bytes.length = 64 then
    Signature.ofNats? (Bytes.toNat (bytes.take 32)) (Bytes.toNat (bytes.drop 32))
  else none

/-! ## DER -/

/-- The content of a DER integer: the fewest bytes whose first one is below 128. -/
def derContent (n : Nat) : Bytes :=
  let digits := (Bytes.ofNat 33 n).dropWhile (· == 0)
  match digits with
  | [] => [0]
  | first :: _ => if first < 0x80 then digits else 0 :: digits

/-- A tagged value with a content of fewer than 128 bytes. -/
def derValue (tag : UInt8) (content : Bytes) : Bytes :=
  tag :: UInt8.ofNat content.length :: content

def toDer (signature : Signature) : Bytes :=
  derValue 0x30
    (derValue 0x02 (derContent signature.r.val) ++ derValue 0x02 (derContent signature.s.val))

/-- Reads a value with the given tag and fewer than 128 bytes of content; also what follows it. -/
def readDerValue? (tag : UInt8) : Bytes → Option (Bytes × Bytes)
  | t :: length :: rest =>
    if t = tag ∧ length < 0x80 ∧ length.toNat ≤ rest.length then
      some (rest.take length.toNat, rest.drop length.toNat)
    else none
  | _ => none

/-- Reads the content of an integer that is not negative and takes no byte too many. -/
def readDerContent? : Bytes → Option Nat
  | [] => none
  | [byte] => if byte < 0x80 then some byte.toNat else none
  | first :: second :: rest =>
    if first < 0x80 ∧ (first = 0 → 0x80 ≤ second) then some (Bytes.toNat (first :: second :: rest))
    else none

/-- Reads a sequence of two integers that nothing follows. -/
def ofDer? (bytes : Bytes) : Option Signature := do
  let (sequence, after) ← readDerValue? 0x30 bytes
  let (r, rest) ← readDerValue? 0x02 sequence
  let (s, surplus) ← readDerValue? 0x02 rest
  if after ≠ [] ∨ surplus ≠ [] then none
  else Signature.ofNats? (← readDerContent? r) (← readDerContent? s)

end Signature

end Possession.Ecdsa

import Possession.Url
import Possession.Url.Label
import Possession.Url.Percent

/-!
# Reading hosts

A host in brackets is an address of eight units. A special scheme decodes any other host and reads
it as a 32-bit address if its last label is a number; any other scheme keeps the host as it is.
-/

namespace Possession.Url

/-! ## Addresses of 32 bits -/

/-- The number that digits stand for, if all of them are digits to the base. -/
def ofDigits? (base : Nat) (text : List Char) : Option Nat :=
  text.foldlM (fun n c => do
    let digit ← Bytes.hexValue? c
    if digit < base then some (n * base + digit) else none) 0

/-- A number in decimal, in octal after a zero, or in hexadecimal after `0x`; nothing after the
mark of the base counts as zero. -/
def readNumber? : List Char → Option Nat
  | [] => none
  | '0' :: 'x' :: digits | '0' :: 'X' :: digits => ofDigits? 16 digits
  | '0' :: digit :: digits => ofDigits? 8 (digit :: digits)
  | digits => ofDigits? 10 digits

/-- The labels of a name without an empty last one. -/
def labels (name : List Char) : List (List Char) :=
  let labels := Text.pieces '.' name
  if 1 < labels.length ∧ labels.getLast? = some [] then labels.dropLast else labels

/-- Whether the last label of a name is a number, so that the name is an address. -/
def endsInNumber (name : List Char) : Bool :=
  match (labels name).getLast? with
  | none => false
  | some label => (!label.isEmpty && label.all Text.isAsciiDigit) || (readNumber? label).isSome

/-- The address whose leading bytes are given and whose last number fills the remaining bytes. -/
def ofNumbers? : (place : Nat) → List Nat → Option Nat
  | _, [] => none
  | place, [last] => if last < Nat.pow 256 (4 - place) then some last else none
  | place, byte :: rest =>
    if byte < 256 ∧ place < 3 then
      (ofNumbers? (place + 1) rest).map (byte * Nat.pow 256 (3 - place) + ·)
    else none

def readIpv4? (name : List Char) : Option Nat := do
  ofNumbers? 0 (← (labels name).mapM readNumber?)

/-! ## Addresses of eight units -/

/-- A byte in decimal without a leading zero. -/
def readByte? (text : List Char) : Option Nat := do
  if text.isEmpty ∨ (1 < text.length ∧ text.head? = some '0') then none
  let n ← ofDigits? 10 text
  if n < 256 then some n else none

/-- Four bytes separated by dots, as two units. -/
def readDotted? (text : List Char) : Option (List Nat) := do
  match ← (Text.pieces '.' text).mapM readByte? with
  | [a, b, c, d] => some [a * 256 + b, c * 256 + d]
  | _ => none

/-- A unit of one to four hexadecimal digits. -/
def readUnit? (text : List Char) : Option Nat :=
  if text.isEmpty ∨ 4 < text.length then none else ofDigits? 16 text

/-- Units separated by colons; where `dotted` allows it the last one may be written as four
bytes. -/
def readUnits? (dotted : Bool) : List (List Char) → Option (List Nat)
  | [] => some []
  | [last] =>
    if dotted && last.contains '.' then readDotted? last else (readUnit? last).map ([·])
  | unit :: rest => do
    let value ← readUnit? unit
    let others ← readUnits? dotted rest
    return value :: others

/-- The parts before and after the first two colons in a row, if there are such. -/
def cutAtDoubleColon? : List Char → Option (List Char × List Char)
  | ':' :: ':' :: rest => some ([], rest)
  | c :: rest => (cutAtDoubleColon? rest).map fun (front, back) => (c :: front, back)
  | [] => none

/-- The pieces between colons; an empty text has none. -/
def colonPieces (text : List Char) : List (List Char) :=
  if text.isEmpty then [] else Text.pieces ':' text

/-- Reads an address; two colons in a row stand for at least one unit that is zero. -/
def readIpv6? (text : List Char) : Option (List Nat) := do
  match cutAtDoubleColon? text with
  | none =>
    let units ← readUnits? true (colonPieces text)
    if units.length = 8 then some units else none
  | some (front, back) =>
    let first ← readUnits? false (colonPieces front)
    let last ← readUnits? true (colonPieces back)
    if first.length + last.length < 8 then
      some (first ++ List.replicate (8 - first.length - last.length) 0 ++ last)
    else none

/-! ## Names -/

/-- The ASCII characters that no name of a special scheme holds, beside the control characters and
the space. -/
def forbiddenInNames : List Char :=
  ['%', '#', '/', ':', '<', '>', '?', '@', '[', '\\', ']', '^', '|']

/-- The ASCII characters that no host of any other scheme holds. -/
def forbiddenInHosts : List Char :=
  ['\x00', '\t', '\n', '\r', ' ', '#', '/', ':', '<', '>', '?', '@', '[', '\\', ']', '^', '|']

/-- The text inside the brackets of a host that starts with one. -/
def bracketed? : List Char → Option (Option (List Char))
  | '[' :: rest => some (Text.before? [']'] rest)
  | _ => none

/-- The name that bytes spell, in lower case, if it holds no forbidden character and its labels are
valid. -/
def readName? (bytes : Bytes) : Option (List Char) :=
  let name := Text.asciiLower (bytes.map fun byte => Char.ofNat byte.toNat)
  if name.all (fun c => 0x20 < c.toNat && c.toNat < 0x7F && !forbiddenInNames.contains c) &&
      areLabelsValid (Text.pieces '.' name) then
    some name
  else none

def readSpecialHost? (text : List Char) : Option Host :=
  match bracketed? text with
  | some inside => (inside.bind readIpv6?).map .ipv6
  | none => do
    let name ← readName? (percentDecode text)
    if name.isEmpty then none
    else if endsInNumber name then (readIpv4? name).map .ipv4
    else some (.name (String.ofList name))

/-- The host of any other scheme; an empty one is none. -/
def readOtherHost? (text : List Char) : Option (Option Host) :=
  match bracketed? text with
  | some inside => (inside.bind readIpv6?).map fun units => some (.ipv6 units)
  | none =>
    if text.any forbiddenInHosts.contains then none
    else if text.isEmpty then some none
    else some (some (.name (String.ofList (percentEncode [] text))))

/-! ## Printable names -/

theorem printable_readName? {bytes : Bytes} {name : List Char} (h : readName? bytes = some name) :
    Text.Printable name := by
  simp only [readName?, Option.ite_none_right_eq_some, Option.some.injEq, Bool.and_eq_true] at h
  obtain ⟨⟨hall, _⟩, rfl⟩ := h
  intro c hc
  have hchar := List.all_eq_true.mp hall c hc
  simp only [Bool.and_eq_true, decide_eq_true_eq] at hchar
  exact ⟨by omega, by omega⟩

/-- The name of a host in a special scheme is printable. -/
theorem printable_readSpecialHost? {text : List Char} {name : String}
    (h : readSpecialHost? text = some (.name name)) : Text.Printable name.toList := by
  unfold readSpecialHost? at h
  split at h
  · obtain ⟨units, _, hunits⟩ := Option.map_eq_some_iff.mp h
    cases hunits
  · simp only [Option.bind_eq_bind, Option.bind_eq_some_iff] at h
    obtain ⟨found, hfound, h⟩ := h
    split at h
    · simp at h
    split at h
    · simp at h
    · simp only [Option.some.injEq, Host.name.injEq] at h
      subst h
      simpa using printable_readName? hfound

/-- So is that in any other scheme. -/
theorem printable_readOtherHost? {text : List Char} {name : String}
    (h : readOtherHost? text = some (some (.name name))) : Text.Printable name.toList := by
  unfold readOtherHost? at h
  split at h
  · obtain ⟨units, _, hunits⟩ := Option.map_eq_some_iff.mp h
    cases hunits
  · split at h
    · simp at h
    split at h
    · simp at h
    · simp only [Option.some.injEq, Host.name.injEq] at h
      subst h
      simpa using printable_percentEncode [] text

end Possession.Url

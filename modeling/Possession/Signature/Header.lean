import Possession.Base64
import Possession.Failure
import Possession.Signature.Params
import Possession.Text.Character

/-!
# Signature headers

Two headers are dictionaries with a member for each signature. `select` picks the first label of the
one that also occurs in the other; the other members only need to have the form of a member.
-/

namespace Possession.Signature

inductive InnerListFault
  /-- It does not start with a parenthesis. -/
  | notInnerList
  /-- The parenthesis is not closed. -/
  | unterminated
  /-- Something other than a parameter follows. -/
  | trailingData
  | notQuoted
  | notLowercase
  | duplicate
  deriving DecidableEq, Repr

def InnerListFault.message : InnerListFault → String
  | .notInnerList => "expected an inner list"
  | .unterminated => "unterminated inner list"
  | .trailingData => "unexpected data after inner list"
  | .notQuoted => "components must be quoted strings"
  | .notLowercase => "component names must be lowercase"
  | .duplicate => "duplicate component"

inductive HeaderFault
  /-- The header that lists what is covered is missing or unreadable. -/
  | inputMissing
  /-- The header that holds the signatures is missing or unreadable. -/
  | signatureMissing
  | noValue (member : String)
  /-- The label of a member is empty or holds a character that labels may not hold. -/
  | invalidLabel (label : String)
  | noCommonLabel
  | innerList (label : String) (fault : InnerListFault)
  /-- The signature does not stand between colons. -/
  | notByteSequence
  | notBase64 (fault : Base64.Fault)
  deriving DecidableEq, Repr

def HeaderFault.message : HeaderFault → String
  | .inputMissing => "Signature-Input header is missing"
  | .signatureMissing => "Signature header is missing"
  | .noValue member => "dictionary member '" ++ member ++ "' has no value"
  | .invalidLabel label => "invalid signature label '" ++ label ++ "'"
  | .noCommonLabel => "no signature label appears in both Signature-Input and Signature"
  | .innerList label fault => "Signature-Input '" ++ label ++ "': " ++ fault.message
  | .notByteSequence => "signature must be a byte sequence (:base64:)"
  | .notBase64 fault => "signature is not base64: " ++ fault.message

def HeaderFault.refusal (fault : HeaderFault) : Refusal :=
  .of (.malformedSignatureHeader fault.message)

/-! ## Dictionaries -/

def isLabelChar (c : Char) : Bool :=
  Text.isAsciiLower c || Text.isAsciiDigit c || ['_', '-', '.', '*'].contains c

def isLabel (text : List Char) : Bool := !text.isEmpty && text.all isLabelChar

/-- Reads a member: a label, an equals sign and a value. -/
def readMember (member : List Char) : Except HeaderFault (String × List Char) :=
  match Text.cut? '=' member with
  | none => .error (.noValue (String.ofList member))
  | some (label, value) =>
    let label := Text.trim label
    if isLabel label then .ok (String.ofList label, Text.trim value)
    else .error (.invalidLabel (String.ofList label))

def readDictionary (text : String) : Except HeaderFault (List (String × List Char)) :=
  (StructuredField.split ',' text.toList).mapM readMember

/-! ## Values -/

/-- The name between the quotes of a component. -/
def unquote? (item : List Char) : Option (List Char) := do
  let name ← Text.before? ['"'] (← Text.after? ['"'] item)
  if name.isEmpty || name.contains '"' then none else some name

/-- Reads the components of an inner list; `earlier` holds those before. -/
def readComponents (earlier : List String) :
    List (List Char) → Except InnerListFault (List String)
  | [] => .ok []
  | item :: rest =>
    match unquote? item with
    | none => .error .notQuoted
    | some name =>
      let component := String.ofList name
      if name.any Text.isAsciiUpper then .error .notLowercase
      else if earlier.contains component then .error .duplicate
      else (readComponents (earlier ++ [component]) rest).map (component :: ·)

/-- Reads a list of quoted components in parentheses, and the parameters after it. -/
def readInnerList (label : String) (value : List Char) : Except InnerListFault Params :=
  match Text.after? ['('] value with
  | none => .error .notInnerList
  | some inner =>
    match StructuredField.cutAtUnquoted? ')' inner with
    | none => .error .unterminated
    | some (items, after) =>
      let parameters := Text.trim after
      if !parameters.isEmpty && (Text.after? [';'] parameters).isNone then .error .trailingData
      else
        (readComponents [] (Text.words Text.isAsciiBlank items)).map fun components =>
          ⟨label, components, String.ofList parameters⟩

/-- Reads bytes in base64 between colons, with padding or without. -/
def readByteSequence (value : List Char) : Except HeaderFault Bytes :=
  match (Text.after? [':'] value).bind (Text.before? [':']) with
  | none => .error .notByteSequence
  | some encoded =>
    let text := String.ofList encoded
    match Base64.decodeText Base64.standard text with
    | .ok bytes => .ok bytes
    | .error _ => (Base64.decodeText Base64.standardUnpadded text).mapError .notBase64

def lookup? (label : String) (members : List (String × List Char)) : Option (List Char) :=
  (members.find? fun (other, _) => other == label).map Prod.snd

/-- The first label that occurs in both dictionaries, with its two values. -/
def firstCommon? (signatures : List (String × List Char)) :
    List (String × List Char) → Option (String × List Char × List Char)
  | [] => none
  | (label, input) :: rest =>
    match lookup? label signatures with
    | some signature => some (label, input, signature)
    | none => firstCommon? signatures rest

/-- Picks the first signature that both headers describe, and reads it. -/
def select (input signature : String) : Except HeaderFault (Params × Bytes) := do
  let signatures ← readDictionary signature
  let inputs ← readDictionary input
  match firstCommon? signatures inputs with
  | none => throw .noCommonLabel
  | some (label, list, bytes) =>
    let params ← (readInnerList label list).mapError (HeaderFault.innerList label)
    return (params, ← readByteSequence bytes)

end Possession.Signature

import Possession.Base64
import Possession.Ecdsa.Encoding
import Possession.Failure
import Possession.Text.Split
import Possession.Token.Claims
import Possession.Token.Header

/-!
# Compact tokens

A token is three parts in base64url, joined by dots. `decode` checks its form, its header, its
signature and its claims, in this order.
-/

namespace Possession.Token

/-- Why a token cannot be accepted as signed by a key. -/
inductive Fault
  /-- The text has fewer than three parts. -/
  | form
  /-- A part is not base64url. -/
  | base64 (fault : Base64.Fault)
  /-- A part is not the JSON that it should be. -/
  | json
  /-- The header names another algorithm than that of the key. -/
  | algorithm (named : Algorithm)
  /-- The signature does not belong to the key and the text. -/
  | signature
  /-- The expiry is not a time. -/
  | expiry
  deriving DecidableEq, Repr

namespace Fault

def message : Fault → String
  | form => "InvalidToken"
  | base64 fault => "Base64 error: " ++ fault.message
  | json => "JSON error"
  | algorithm _ => "InvalidAlgorithm"
  | signature => "InvalidSignature"
  | expiry => "Missing required claim: exp"

def failure : Fault → Failure
  | signature => .invalidSignature
  | algorithm named => .unsupportedAlgorithm named.name
  | fault => .malformedToken fault.message

def refusal (fault : Fault) : Refusal := (Refusal.of fault.failure).note fault.message

end Fault

/-- The parts of a token, still encoded. -/
structure Parts where
  header : List Char
  claims : List Char
  signature : List Char
  deriving DecidableEq, Repr

namespace Parts

/-- Splits a token at its last two dots. -/
def ofText? (text : List Char) : Option Parts := do
  let (signed, signature) ← Text.cutLast? '.' text
  let (header, claims) ← Text.cutLast? '.' signed
  return ⟨header, claims, signature⟩

/-- The text that the signature covers. -/
def signedText (parts : Parts) : List Char := parts.header ++ '.' :: parts.claims

def print (parts : Parts) : String := String.ofList (parts.signedText ++ '.' :: parts.signature)

end Parts

/-- The message that the signature covers. -/
def Parts.message (parts : Parts) : Bytes := Bytes.ofText (String.ofList parts.signedText)

def decodePart (part : List Char) : Except Fault Bytes :=
  (Base64.decodeText Base64.urlUnpadded (String.ofList part)).mapError .base64

def encodePart (bytes : Bytes) : List Char := Base64.encodeChars Base64.urlUnpadded bytes

/-- Reads the header and demands the algorithm of P-256 keys. -/
def checkHeader (part : List Char) : Except Fault Unit := do
  match Header.parse? (← decodePart part) with
  | none => throw .json
  | some header =>
    if header.algorithm = .es256 then return () else throw (.algorithm header.algorithm)

def checkSignature (point : Curve.P256.Point) (parts : Parts) : Except Fault Unit := do
  match Ecdsa.Signature.ofFixed? (← decodePart parts.signature) with
  | none => throw .signature
  | some signature =>
    if Ecdsa.verify point parts.message signature then return () else throw .signature

/-- Whether a value has content between brackets. -/
def isFilled : Json → Bool
  | .array items => !items.isEmpty
  | .object members => !members.isEmpty
  | _ => false

def isBracketed : Json → Bool
  | .array _ | .object _ => true
  | _ => false

/-- Whether the registered claims that tokens do not use have an acceptable form: none of them is
repeated, the subject does not stand between brackets, and the start of validity holds nothing
between brackets. -/
def areRegisteredClaimsSound (members : List (String × Json)) : Bool :=
  match Json.single? "sub" members, Json.single? "nbf" members, Json.single? "aud" members with
  | some subject, some notBefore, some _ =>
    !(subject.map isBracketed).getD false && !(notBefore.map isFilled).getD false
  | _, _, _ => false

def readClaims (part : List Char) : Except Fault Claims := do
  match Json.parseMembers? .byName (← decodePart part) with
  | none => throw .json
  | some members =>
    match Claims.ofMembers? members with
    | none => throw .json
    | some claims =>
      if !areRegisteredClaimsSound members then throw .json
      if claims.expiresAt < 0 then throw .expiry
      return claims

/-- The claims of a token that is signed by a key. -/
def decode (point : Curve.P256.Point) (token : String) : Except Fault Claims :=
  match Parts.ofText? token.toList with
  | none => .error .form
  | some parts => do
    checkHeader parts.header
    checkSignature point parts
    readClaims parts.claims

end Possession.Token

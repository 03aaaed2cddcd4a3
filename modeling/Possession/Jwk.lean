import Possession.Base64
import Possession.Json.Members
import Possession.Json.Printing

/-!
# JSON web keys

Reading demands the right form of every known member and passes over unknown ones; whether the
material is a key that can be used is decided elsewhere.
-/

namespace Possession

namespace Jwk

inductive EcCurve
  | p256
  | p384
  | p521
  | secp256k1
  deriving DecidableEq, Repr

def EcCurve.name : EcCurve → String
  | .p256 => "P-256"
  | .p384 => "P-384"
  | .p521 => "P-521"
  | .secp256k1 => "secp256k1"

def EcCurve.ofName? (name : String) : Option EcCurve :=
  [p256, p384, p521, secp256k1].find? fun curve => curve.name == name

inductive OkpCurve
  /-- Signatures. -/
  | ed25519
  /-- Signatures. -/
  | ed448
  /-- Key agreement. -/
  | x25519
  /-- Key agreement. -/
  | x448
  deriving DecidableEq, Repr

def OkpCurve.name : OkpCurve → String
  | .ed25519 => "Ed25519"
  | .ed448 => "Ed448"
  | .x25519 => "X25519"
  | .x448 => "X448"

def OkpCurve.ofName? (name : String) : Option OkpCurve :=
  [ed25519, ed448, x25519, x448].find? fun curve => curve.name == name

inductive Material
  /-- An elliptic-curve key; `d` is its private component. -/
  | ec (curve : EcCurve) (x y : Bytes) (d : Option Bytes)
  | rsa (n e : Bytes)
  | oct (k : Bytes)
  /-- An octet key pair; `d` is its private component. -/
  | okp (curve : OkpCurve) (x : Bytes) (d : Option Bytes)
  deriving DecidableEq, Repr

def algorithms : List String :=
  ["EdDSA", "ES256", "ES256K", "ES384", "ES512", "HS256", "HS384", "HS512", "PS256", "PS384",
    "PS512", "RS256", "RS384", "RS512", "none"]

/-- The operations that a key may be restricted to. -/
def operations : List String :=
  ["sign", "verify", "encrypt", "decrypt", "wrapKey", "unwrapKey", "deriveKey", "deriveBits"]

/-- The uses that a key may be restricted to. -/
def uses : List String := ["sig", "enc"]

end Jwk

/-- A key as it is exchanged. -/
structure Jwk where
  material : Jwk.Material
  algorithm : Option String
  keyId : Option String
  deriving DecidableEq, Repr

namespace Jwk

/-! ## Reading -/

/-- A byte string in unpadded base64url. -/
def asBytes? (value : Json) : Option Bytes := do
  Base64.decode? Base64.urlUnpadded (← value.asString?)

/-- A byte string of the given length in unpadded base64url. -/
def asBytesOfLength? (length : Nat) (value : Json) : Option Bytes :=
  (asBytes? value).filter (·.length == length)

/-- A certificate in padded base64. -/
def asCertificate? (value : Json) : Option Bytes := do
  Base64.decode? Base64.standard (← value.asString?)

/-- One of the given names. -/
def asOneOf? (names : List String) (value : Json) : Option String :=
  value.asName?.filter names.contains

def types : List String := ["EC", "RSA", "oct", "OKP"]

/-- The material of a key of the given type. -/
def readMaterial? (type : String) (members : List (String × Json)) : Option Material :=
  if type = "EC" then do
    let curve ← Json.required? "crv" (·.asOpenName?.bind EcCurve.ofName?) members
    let x ← Json.required? "x" asBytes? members
    let y ← Json.required? "y" asBytes? members
    return .ec curve x y (← Json.optional? "d" asBytes? members)
  else if type = "RSA" then do
    return .rsa (← Json.required? "n" asBytes? members) (← Json.required? "e" asBytes? members)
  else if type = "oct" then do
    return .oct (← Json.required? "k" asBytes? members)
  else if type = "OKP" then do
    let curve ← Json.required? "crv" (·.asOpenName?.bind OkpCurve.ofName?) members
    let x ← Json.required? "x" asBytes? members
    return .okp curve x (← Json.optional? "d" asBytes? members)
  else none

/-- Reads a key from the members of an object. The type may also be given by its position among
`types`. -/
def ofMembers? (members : List (String × Json)) : Option Jwk := do
  let type ← Json.required? "kty" (Json.asNameOrIndex? types) members
  let material ← readMaterial? type members
  let algorithm ← Json.optional? "alg" (asOneOf? algorithms) members
  let keyId ← Json.optional? "kid" Json.asString? members
  let _ ← Json.optional? "use" (asOneOf? uses) members
  let _ ← Json.optional? "key_ops" (Json.asListOf? (asOneOf? operations)) members
  let _ ← Json.optional? "x5c" (Json.asListOf? asCertificate?) members
  let _ ← Json.optional? "x5t" (asBytesOfLength? 20) members
  let _ ← Json.optional? "x5t#S256" (asBytesOfLength? 32) members
  return ⟨material, algorithm, keyId⟩

def parse? (text : Bytes) : Option Jwk := do
  ofMembers? (← Json.parseMembers? .asWritten text)

/-- Reads the keys of a set one by one. -/
def ofTrees? (keys : List Json.Tree) : Option (List Jwk) :=
  keys.mapM fun key => (Json.treeMembers? (Json.depthLimit - 2) key).bind ofMembers?

/-- Reads a set of keys from an object with one member `keys`, whose other members are passed over,
or from a list of that one value. -/
def parseSet? (text : Bytes) : Option (List Jwk) := do
  match ← Json.Tree.parse? text with
  | .object members =>
    match (← Json.nameMembers? members).filter fun (name, _) => name == "keys" with
    | [(_, .array keys)] => ofTrees? keys
    | _ => none
  | .array [.array keys] => ofTrees? keys
  | _ => none

/-! ## Writing -/

def ofBytes (bytes : Bytes) : Json := .string (Base64.encode Base64.urlUnpadded bytes)

def Material.members : Material → List (String × Json)
  | .ec curve x y d =>
    [("kty", .string "EC"), ("crv", .string curve.name), ("x", ofBytes x), ("y", ofBytes y)] ++
      Json.optionalMember "d" ofBytes d
  | .rsa n e => [("kty", .string "RSA"), ("n", ofBytes n), ("e", ofBytes e)]
  | .oct k => [("kty", .string "oct"), ("k", ofBytes k)]
  | .okp curve x d =>
    [("kty", .string "OKP"), ("crv", .string curve.name), ("x", ofBytes x)] ++
      Json.optionalMember "d" ofBytes d

/-- The key as a JSON value: the material, then the algorithm, then the identifier. -/
def toJson (jwk : Jwk) : Json :=
  .object (jwk.material.members ++ Json.optionalMember "alg" Json.string jwk.algorithm ++
    Json.optionalMember "kid" Json.string jwk.keyId)

def print (jwk : Jwk) : String := jwk.toJson.print

def printSet (keys : List Jwk) : String :=
  (Json.object [("keys", .array (keys.map toJson))]).print

end Jwk

end Possession

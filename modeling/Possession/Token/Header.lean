import Possession.Json.Members
import Possession.Json.Printing

/-!
# Token headers

Some members of a header must have the right form if they are present, among them a key; all others
only have to follow the grammar. A header may also be the list of the values of its known members.
-/

namespace Possession.Token

/-- The algorithms that a header may name. -/
inductive Algorithm
  | hs256
  | hs384
  | hs512
  | es256
  | es384
  | rs256
  | rs384
  | rs512
  | ps256
  | ps384
  | ps512
  | edDsa
  deriving DecidableEq, Repr

namespace Algorithm

def all : List Algorithm :=
  [hs256, hs384, hs512, es256, es384, rs256, rs384, rs512, ps256, ps384, ps512, edDsa]

def name : Algorithm → String
  | hs256 => "HS256"
  | hs384 => "HS384"
  | hs512 => "HS512"
  | es256 => "ES256"
  | es384 => "ES384"
  | rs256 => "RS256"
  | rs384 => "RS384"
  | rs512 => "RS512"
  | ps256 => "PS256"
  | ps384 => "PS384"
  | ps512 => "PS512"
  | edDsa => "EdDSA"

def ofName? (name : String) : Option Algorithm := all.find? fun algorithm => algorithm.name == name

/-- The name of an algorithm names it. -/
@[simp] theorem ofName?_name (algorithm : Algorithm) : ofName? algorithm.name = some algorithm := by
  cases algorithm <;> decide

end Algorithm

/-- What a token says about its signature. -/
structure Header where
  type : Option String
  algorithm : Algorithm
  keyId : Option String
  deriving DecidableEq, Repr

/-! ## Keys in headers -/

namespace HeaderKey

def algorithms : List String :=
  Algorithm.all.map Algorithm.name ++ ["RSA1_5", "RSA-OAEP", "RSA-OAEP-256"]

def curves : List String := ["P-256", "P-384", "P-521", "Ed25519"]

def asOneOf? (names : List String) (value : Json) : Option String :=
  value.asName?.filter names.contains

/-- The members of the material of a key of the given type, each with its reader, or `none` if there
is no such type. -/
def material? (type : String) : Option (List (String × (Json → Option String))) :=
  if type = "EC" then
    some [("crv", asOneOf? curves), ("x", Json.asString?), ("y", Json.asString?)]
  else if type = "RSA" then some [("n", Json.asString?), ("e", Json.asString?)]
  else if type = "oct" then some [("k", Json.asString?)]
  else if type = "OKP" then some [("crv", asOneOf? curves), ("x", Json.asString?)]
  else none

/-- Whether members are those of a key. -/
def isValid (members : List (String × Json)) : Bool :=
  (do
    let type ← Json.required? "kty" (·.asName?) members
    let material ← material? type
    let _ ← material.mapM fun (member : String × (Json → Option String)) =>
      Json.required? member.1 member.2 members
    let _ ← Json.optional? "use" Json.asString? members
    let _ ← Json.optional? "key_ops" (Json.asListOf? Json.asString?) members
    let _ ← Json.optional? "alg" (·.asOpenName?.filter algorithms.contains) members
    let _ ← ["kid", "x5u", "x5t", "x5t#S256"].mapM fun name =>
      Json.optional? name Json.asString? members
    Json.optional? "x5c" (Json.asListOf? Json.asString?) members).isSome

end HeaderKey

namespace Header

/-! ## Reading -/

/-- The deepest nesting inside of a header. -/
def innerDepth : Nat := Json.depthLimit - 1

/-- The known members, in the order of the list form. -/
def memberNames : List String :=
  ["typ", "alg", "cty", "jku", "jwk", "kid", "x5u", "x5c", "x5t", "x5t#S256"]

/-- The known members of a header with their values, in the order of the text. -/
def knownMembers? : Json.Tree → Option (List (String × Json.Tree))
  | .object members =>
    (Json.nameMembers? members).map fun members =>
      members.filter fun (name, _) => memberNames.contains name
  | .array items =>
    if items.length = memberNames.length then some (memberNames.zip items) else none
  | _ => none

/-- Whether a tree is null or a key. -/
def isKeyOrNull : Json.Tree → Bool
  | .null => true
  | tree => ((Json.treeMembers? innerDepth tree).map HeaderKey.isValid).getD false

def ofTree? (tree : Json.Tree) : Option Header := do
  let known ← knownMembers? tree
  let (keys, others) := known.partition fun (name, _) => name == "jwk"
  if 1 < keys.length ∨ !keys.all (fun (_, key) => isKeyOrNull key) then none
  let members ← others.mapM fun (name, tree) =>
    (Json.ofTree? .asWritten innerDepth tree).map fun value => (name, value)
  let type ← Json.optional? "typ" Json.asString? members
  let algorithm ← Json.required? "alg" (·.asName?.bind Algorithm.ofName?) members
  let keyId ← Json.optional? "kid" Json.asString? members
  let _ ← ["cty", "jku", "x5u", "x5t", "x5t#S256"].mapM fun name =>
    Json.optional? name Json.asString? members
  let _ ← Json.optional? "x5c" (Json.asListOf? Json.asString?) members
  return ⟨type, algorithm, keyId⟩

def parse? (text : Bytes) : Option Header := do
  ofTree? (← Json.Tree.parse? text)

/-! ## Writing -/

def toJson (header : Header) : Json :=
  .object (Json.optionalMember "typ" Json.string header.type ++
    [("alg", .string header.algorithm.name)] ++
    Json.optionalMember "kid" Json.string header.keyId)

def print (header : Header) : String := header.toJson.print

end Header

end Possession.Token

import Possession.Json.Members
import Possession.Json.Printing

/-!
# Token claims

The four names of the standard claims never occur in a payload. An issuer that is missing counts as
empty.
-/

namespace Possession.Token

/-- What a token states. -/
structure Claims where
  /-- Who issued the token; empty if the token does not say. -/
  issuer : String
  /-- When it was issued, in seconds since the start of 1970. -/
  issuedAt : Int
  /-- When it expires, in seconds since the start of 1970. -/
  expiresAt : Int
  id : String
  /-- The other members. -/
  payload : Members
  deriving Repr

def reservedNames : List String := ["iss", "iat", "exp", "jti"]

namespace Claims

/-- Reads an integer of 64 bits with a sign. -/
def asTimestamp? : Json → Option Int
  | .number (.integer n) => if Json.fitsInt64 n then some n else none
  | _ => none

/-- Reads the issuer, which may be absent but not null. -/
def readIssuer? (members : List (String × Json)) : Option String :=
  match Json.single? "iss" members with
  | none => none
  | some none => some ""
  | some (some value) => value.asString?

/-- Reads claims from the members of an object. The last of several payload members of one name
counts. -/
def ofMembers? (members : List (String × Json)) : Option Claims := do
  let issuer ← readIssuer? members
  let issuedAt ← Json.required? "iat" asTimestamp? members
  let expiresAt ← Json.required? "exp" asTimestamp? members
  let id ← Json.required? "jti" Json.asString? members
  return ⟨issuer, issuedAt, expiresAt, id, (Members.ofList members).without reservedNames⟩

def parse? (text : Bytes) : Option Claims := do
  ofMembers? (← Json.parseMembers? .byName text)

/-- The standard claims in the order in which they are written. -/
def standardMembers (claims : Claims) : List (String × Json) :=
  [("iss", .string claims.issuer), ("iat", .ofInt claims.issuedAt),
    ("exp", .ofInt claims.expiresAt), ("jti", .string claims.id)]

/-- The payload together with the standard claims. -/
def merged (claims : Claims) : Members :=
  claims.standardMembers.foldl (fun members (name, value) => members.insert name value)
    claims.payload

/-- The text of the claims: the standard ones, then the payload. -/
def print (claims : Claims) : String :=
  (Json.object (claims.standardMembers ++ claims.payload)).print

end Claims

end Possession.Token

import Possession.Base64
import Possession.Failure
import Possession.Sha2
import Possession.Text.Character
import Possession.Text.Split

/-!
# The Content-Digest header field

A body matches a header value if at least one member has a known key and all of those carry the
digest of the body. Members with other keys only have to have the form of a member.
-/

namespace Possession.ContentDigest

inductive Algorithm
  | sha256
  | sha512
  deriving DecidableEq, Repr

namespace Algorithm

def key : Algorithm → String
  | .sha256 => "sha-256"
  | .sha512 => "sha-512"

def ofKey? (key : List Char) : Option Algorithm :=
  [sha256, sha512].find? fun algorithm => algorithm.key.toList == key

def digest : Algorithm → Bytes → Bytes
  | .sha256 => Sha2.sha256.hash
  | .sha512 => Sha2.sha512.hash

end Algorithm

/-- The member that declares the digest of a body. -/
def member (algorithm : Algorithm) (body : Bytes) : String :=
  algorithm.key ++ "=:" ++ Base64.encode Base64.standard (algorithm.digest body) ++ ":"

/-! ## Reading -/

/-- The key of a member and the text between its colons, or `none` if it has another form. -/
def readMember? (text : List Char) : Option (List Char × List Char) := do
  let (key, value) ← Text.cut? '=' (Text.trim text)
  let opened ← Text.after? [':'] (Text.trim value)
  let encoded ← Text.before? [':'] opened
  return (Text.trim key, encoded)

/-- The digests that known members declare. -/
def readMembers? : List (List Char) → Option (List (Algorithm × Bytes))
  | [] => some []
  | text :: rest => do
    let (key, encoded) ← readMember? text
    match Algorithm.ofKey? key with
    | none => readMembers? rest
    | some algorithm =>
      let declared ← Base64.decode? Base64.standard (String.ofList encoded)
      let others ← readMembers? rest
      return (algorithm, declared) :: others

/-- The digests that a header value declares, or `none` if the value is malformed. -/
def declared? (header : String) : Option (List (Algorithm × Bytes)) :=
  readMembers? (Text.pieces ',' header.toList)

/-- Whether there is a header value that declares digests, all of them those of the body. -/
def isValid (header : Option String) (body : Bytes) : Bool :=
  match header.bind declared? with
  | none => false
  | some entries =>
    !entries.isEmpty && entries.all fun (algorithm, declared) => algorithm.digest body == declared

/-! ## Deciding about a request -/

/-- How to treat requests that carry neither a body nor a digest. -/
structure Policy where
  /-- Whether they pass without a digest. -/
  allowBodylessWithoutDigest : Bool
  deriving DecidableEq, Repr

/-- They pass unless settings say otherwise. -/
def Policy.standard : Policy := ⟨true⟩

/-- How an acceptable request stands with its digest. -/
inductive Verdict
  | verified
  /-- There is neither a body nor a digest, and the policy allows it. -/
  | skipped
  deriving DecidableEq, Repr

def Verdict.name : Verdict → String
  | .verified => "verified"
  | .skipped => "skipped"

/-- Decides about a request with the given header value and body; an absent body counts as empty
where a digest is present. -/
def check (header : Option String) (body : Option Bytes) (policy : Policy) : Outcome Verdict :=
  match header, body with
  | none, none =>
    if policy.allowBodylessWithoutDigest then .ok .skipped else .refuse .digestMissing
  | none, some _ => .refuse .digestMissing
  | some header, body =>
    if isValid (some header) (body.getD []) then .ok .verified else .refuse .digestMismatch

end Possession.ContentDigest

import Possession.Ecdsa
import Possession.PublicKey.Jwk

/-!
# Key pairs of the server

A key set holds the primary pair, which signs, and while keys are being rotated also the secondary
pair, whose tokens are still accepted.
-/

namespace Possession

/-! ## Private JSON web keys -/

namespace Ecdsa.SigningKey

/-- The members of a private key, in the order of its list form. -/
def memberNames : List String := ["kty", "crv", "x", "y", "d"]

/-- The members of a private key: those of an object that has no others, or the items of a list of
five. -/
def membersOf? : Json.Tree → Option (List (String × Json))
  | .object members => do
    let members ← Json.treeMembers? Json.depthLimit (.object members)
    if members.all fun (name, _) => memberNames.contains name then some members else none
  | .array items => do
    let values ← Json.ofItems? .asWritten (Json.depthLimit - 1) items
    if values.length = memberNames.length then some (memberNames.zip values) else none
  | _ => none

/-- The members without those that say that there is no scalar before the one that gives it. -/
def dropNoScalar : List (String × Json) → List (String × Json)
  | [] => []
  | ("d", .null) :: members => dropNoScalar members
  | (name, value) :: members =>
    if name = "d" then (name, value) :: members else (name, value) :: dropNoScalar members

/-- Reads a number of thirty-two bytes, of which zeros at the end may be left out. -/
def asNumber? (value : Json) : Option Nat := do
  let bytes ← Jwk.asBytes? value
  if bytes.length ≤ 32 then some (Bytes.toNat (bytes ++ List.replicate (32 - bytes.length) 0))
  else none

/-- Reads a signing key from the text of a private JSON web key. The public coordinates must be
those of the private scalar. -/
def parse? (text : String) : Option SigningKey := do
  let members ← membersOf? (← Json.Tree.parse? (Bytes.ofText text))
  let type ← Json.required? "kty" Json.asString? members
  let curve ← Json.required? "crv" Json.asString? members
  let x ← Json.required? "x" asNumber? members
  let y ← Json.required? "y" asNumber? members
  let d ← Json.required? "d" asNumber? (dropNoScalar members)
  if type ≠ "EC" ∨ curve ≠ "P-256" then none
  let key ← SigningKey.ofScalar? (← Scalar.ofNat? d)
  if key.point.x = x ∧ key.point.y = y then some key else none

/-- What logs show of a private key: nothing that belongs to it. -/
def debugText : SigningKey → String := fun _ => "PrivateKey \x7b .. \x7d"

end Ecdsa.SigningKey

/-! ## Pairs and sets -/

/-- A signing key with its identifier. -/
structure KeyPair where
  keyId : String
  signingKey : Ecdsa.SigningKey
  deriving DecidableEq, Repr

namespace KeyPair

def publicKey (pair : KeyPair) : PublicKey := .p256 pair.signingKey.point

def jwk (pair : KeyPair) : Jwk := pair.publicKey.toJwk (some pair.keyId)

def parse (keyId text : String) : Outcome KeyPair :=
  match Ecdsa.SigningKey.parse? text with
  | none => .error KeyFault.notPrivateJwk.refusal
  | some key => .ok ⟨keyId, key⟩

end KeyPair

/-- The pairs in use by one issuer. -/
structure KeySet where
  issuer : String
  /-- The pair that signs. -/
  primary : KeyPair
  /-- The pair whose tokens are accepted besides. -/
  secondary : Option KeyPair
  deriving DecidableEq, Repr

namespace KeySet

/-- The pairs in use, the primary one first. -/
def active (keys : KeySet) : List KeyPair := keys.primary :: keys.secondary.toList

def jwks (keys : KeySet) : List Jwk := keys.active.map KeyPair.jwk

def printJwks (keys : KeySet) : String := Jwk.printSet keys.jwks

/-- A new pair signs, and the pair that signed becomes the secondary one. -/
def rotate (keys : KeySet) (pair : KeyPair) : KeySet :=
  { keys with primary := pair, secondary := some keys.primary }

/-- The secondary pair is no longer accepted. -/
def retire (keys : KeySet) : KeySet := { keys with secondary := none }

@[simp] theorem issuer_rotate (keys : KeySet) (pair : KeyPair) :
    (keys.rotate pair).issuer = keys.issuer := rfl

@[simp] theorem issuer_retire (keys : KeySet) : keys.retire.issuer = keys.issuer := rfl

/-- A rotation keeps one pair besides the new one, and it drops the secondary pair of before. -/
@[simp] theorem active_rotate (keys : KeySet) (pair : KeyPair) :
    (keys.rotate pair).active = [pair, keys.primary] := rfl

@[simp] theorem active_retire (keys : KeySet) : keys.retire.active = [keys.primary] := rfl

end KeySet

end Possession

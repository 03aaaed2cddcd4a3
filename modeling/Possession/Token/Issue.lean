import Possession.KeyPair
import Possession.Token.Clock
import Possession.Token.Compact

/-!
# Issuing tokens

A lifetime that leads beyond the integers of 64 bits is refused instead of wrapping around.
Randomness comes in as arguments: the identifier of the token and the nonce of the signature.
-/

namespace Possession.Token

/-- The time at which a token issued at `issuedAt` expires, if it can be stated. -/
def expiry? (issuedAt : Int) (lifetime : Duration) : Option Int :=
  let seconds : Int := lifetime.seconds
  if Json.fitsInt64 seconds && Json.fitsInt64 (issuedAt + seconds) then some (issuedAt + seconds)
  else none

def lifetimeRefusal (lifetime : Duration) : Refusal :=
  .of (.configuration ("token ttl of " ++ toString lifetime.seconds ++ "s is out of range"))

def headerFor (pair : KeyPair) : Header := ⟨some "JWT", .es256, some pair.keyId⟩

/-- The header and the claims as parts, with no signature yet. -/
def unsigned (header : Header) (claims : Claims) : Parts :=
  ⟨encodePart (Bytes.ofText header.print), encodePart (Bytes.ofText claims.print), []⟩

def sign (pair : KeyPair) (nonce : Ecdsa.Scalar) (claims : Claims) : Option String :=
  let parts := unsigned (headerFor pair) claims
  (pair.signingKey.sign nonce parts.message).map fun signature =>
    { parts with signature := encodePart signature.toFixed }.print

/-- The claims of a token issued at a moment, if its lifetime can be stated. Payload members with
the name of a standard claim are dropped. -/
def claimsAt? (issuer id : String) (payload : Members) (lifetime : Duration) (now : Instant) :
    Option Claims :=
  (expiry? now.seconds lifetime).map fun expiresAt =>
    ⟨issuer, now.seconds, expiresAt, id, payload.without reservedNames⟩

def issueAt (issuer : String) (pair : KeyPair) (payload : Members) (lifetime : Duration)
    (now : Instant) (id : String) (nonce : Ecdsa.Scalar) : Outcome String :=
  match claimsAt? issuer id payload lifetime now with
  | none => .error (lifetimeRefusal lifetime)
  | some claims =>
    match sign pair nonce claims with
    | none => .refuse (.internalCryptoError "failed to sign token")
    | some token => .ok token

end Possession.Token

import Possession.PublicKey.Jwk
import Possession.Token.Clock
import Possession.Token.Compact

/-!
# Validating tokens

A token is tried under the primary key and, if it is only the signature that fails there, under the
secondary one. Each attempt reads the clock for itself; `validate` uses one moment for both.
-/

namespace Possession.Token

/-- The place of a key in a rotation. -/
inductive KeySlot
  /-- The key that signs. -/
  | primary
  /-- The key that signed before. -/
  | secondary
  deriving DecidableEq, Repr

def KeySlot.name : KeySlot → String
  | .primary => "primary"
  | .secondary => "secondary"

/-- What follows an attempt. -/
inductive Transition
  | success
  | retryWithSecondary
  | fail
  deriving DecidableEq, Repr

def Transition.name : Transition → String
  | .success => "success"
  | .retryWithSecondary => "retry-with-secondary"
  | .fail => "fail"

/-- Decides what follows an attempt with the key of the given place. Only a signature that fails
under the primary key leads to another attempt; any other failure stands. -/
def transition (slot : KeySlot) (failure : Option Failure) (hasSecondary : Bool) : Transition :=
  match slot, failure with
  | _, none => .success
  | .primary, some failure =>
    if hasSecondary && failure.isInvalidSignature then .retryWithSecondary else .fail
  | .secondary, some _ => .fail

structure Validated where
  claims : Claims
  /-- The place of the key that verified it. -/
  verifiedBy : KeySlot
  attempts : Nat
  deriving Repr

def failure? {α : Type} : Outcome α → Option Failure
  | .ok _ => none
  | .error refusal => some refusal.failure

/-- Demands that claims name the issuer and have not expired. -/
def checkClaims (issuer : String) (now : Instant) (claims : Claims) : Outcome Claims :=
  if claims.issuer = "" ∨ claims.issuer ≠ issuer then
    .error ((Refusal.of .issuerMismatch).note
      ("expected '" ++ issuer ++ "', got '" ++ claims.issuer ++ "'"))
  else if claims.expiresAt < now.seconds then
    .error ((Refusal.of .expiredToken).note ("expired at " ++ toString claims.expiresAt))
  else .ok claims

def attempt (issuer : String) (key : PublicKey) (now : Instant) (token : String) : Outcome Claims :=
  match key with
  | .ed25519 _ => .error KeyFault.notTokenKey.refusal
  | .p256 point => (decode point token).mapError Fault.refusal >>= checkClaims issuer now

/-- Validates a token under the primary key, and under the secondary one where a retry is due;
`clock` tells the moment of each attempt. -/
def validateWith (clock : KeySlot → Instant) (issuer : String) (primary : PublicKey)
    (secondary : Option PublicKey) (token : String) : Outcome Validated :=
  let first := attempt issuer primary (clock .primary) token
  match transition .primary (failure? first) secondary.isSome, secondary with
  | .retryWithSecondary, some secondary =>
    match attempt issuer secondary (clock .secondary) token with
    | .ok claims => .ok ⟨claims, .secondary, 2⟩
    | .error refusal => .error (refusal.note "primary key: invalid signature")
  | _, _ => first.map fun claims => ⟨claims, .primary, 1⟩

def validate (issuer : String) (primary : PublicKey) (secondary : Option PublicKey)
    (now : Instant) (token : String) : Outcome Validated :=
  validateWith (fun _ => now) issuer primary secondary token

end Possession.Token

import Possession.Jwk
import Possession.PublicKey

/-!
# Public keys as JSON web keys

`PublicKey.parse` accepts keys without a private component; faults are reported in the order of
`KeyFault`.
-/

namespace Possession

/-- Why key material cannot be used. -/
inductive KeyFault
  | notJwk
  /-- A public key carries a private component. -/
  | privateComponent
  | xLength
  | yLength
  | notOnCurve
  | ed25519Length
  /-- The bytes of an Ed25519 key are not a point. -/
  | notEd25519
  /-- The key is of another type or on another curve. -/
  | unsupportedKind
  | notPrivateJwk
  /-- Tokens cannot be checked with a key of this kind. -/
  | notTokenKey
  deriving DecidableEq, Repr

namespace KeyFault

def message : KeyFault → String
  | notJwk => "public key is not a valid JWK"
  | privateComponent => "public JWK must not carry a private component"
  | xLength => "P-256 'x' coordinate must be 32 bytes"
  | yLength => "P-256 'y' coordinate must be 32 bytes"
  | notOnCurve => "P-256 coordinates are not a point on the curve"
  | ed25519Length => "Ed25519 public key must be 32 bytes"
  | notEd25519 => "invalid Ed25519 public key"
  | unsupportedKind => "only EC P-256 and OKP Ed25519 keys are supported"
  | notPrivateJwk => "private key is not an EC P-256 JWK"
  | notTokenKey => "session tokens require a P-256 key"

def refusal (fault : KeyFault) : Refusal := .of (.unsupportedKey fault.message)

end KeyFault

namespace PublicKey

/-- The key with the given coordinates of P-256. -/
def ofCoordinates (x y : Bytes) : Except KeyFault PublicKey :=
  if x.length ≠ 32 then .error .xLength
  else if y.length ≠ 32 then .error .yLength
  else
    match Curve.P256.Point.ofCoordinates? (Bytes.toNat x) (Bytes.toNat y) with
    | none => .error .notOnCurve
    | some point => .ok (.p256 point)

/-- The Ed25519 key with the given encoding. -/
def ofEd25519 (bytes : Bytes) : Except KeyFault PublicKey :=
  if h : bytes.length = 32 then
    match Ed25519.PublicKey.ofBytes? bytes h with
    | none => .error .notEd25519
    | some key => .ok (.ed25519 key)
  else .error .ed25519Length

def ofJwk (jwk : Jwk) : Except KeyFault PublicKey :=
  match jwk.material with
  | .ec .p256 x y d => if d.isSome then .error .privateComponent else ofCoordinates x y
  | .okp .ed25519 x d => if d.isSome then .error .privateComponent else ofEd25519 x
  | _ => .error .unsupportedKind

/-- Reads a public key from the text of a JSON web key. -/
def read (text : String) : Except KeyFault PublicKey :=
  match Jwk.parse? (Bytes.ofText text) with
  | none => .error .notJwk
  | some jwk => ofJwk jwk

/-- Reads a public key from the text of a JSON web key, or refuses it. -/
def parse (text : String) : Outcome PublicKey := (read text).mapError KeyFault.refusal

theorem failure_of_parse_eq_error {text : String} {refusal : Refusal}
    (h : parse text = .error refusal) : ∃ message, refusal.failure = .unsupportedKey message := by
  obtain ⟨fault, _, rfl⟩ := Outcome.mapError_eq_error_iff.mp h
  exact ⟨fault.message, rfl⟩

/-- The key as a JSON web key, with an identifier if one is given. -/
def toJwk (key : PublicKey) (keyId : Option String) : Jwk :=
  match key with
  | p256 point =>
    ⟨.ec .p256 (Bytes.ofNat 32 point.x) (Bytes.ofNat 32 point.y) none, some "ES256", keyId⟩
  | ed25519 key => ⟨.okp .ed25519 key.bytes none, some "EdDSA", keyId⟩

end PublicKey

end Possession

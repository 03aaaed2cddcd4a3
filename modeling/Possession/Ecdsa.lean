import Possession.Curve.P256
import Possession.Sha2

/-!
# ECDSA over P-256 with SHA-256

A signing key carries its public point, so the two always belong together. Signing takes the secret
nonce as an argument and has no other source of randomness.
-/

namespace Possession.Ecdsa

open Curve

structure Scalar where
  val : Nat
  pos : 0 < val
  lt : val < P256.order
  deriving DecidableEq, Repr

def Scalar.ofNat? (n : Nat) : Option Scalar :=
  if h : 0 < n ∧ n < P256.order then some ⟨n, h.1, h.2⟩ else none

structure Signature where
  /-- The first coordinate of the nonce's multiple of the generator. -/
  r : Scalar
  /-- The proof of knowledge of the private key. -/
  s : Scalar
  deriving DecidableEq, Repr

def Signature.ofNats? (r s : Nat) : Option Signature := do
  return ⟨← Scalar.ofNat? r, ← Scalar.ofNat? s⟩

/-- A private key with its public point. -/
structure SigningKey where
  scalar : Scalar
  point : P256.Point
  multiple_eq : (P256.Jacobian.multiple scalar.val).coordinates? = some (point.x, point.y)
  deriving DecidableEq, Repr

def SigningKey.ofScalar? (scalar : Scalar) : Option SigningKey :=
  match h : (P256.Jacobian.multiple scalar.val).coordinates? with
  | none => none
  | some (x, y) =>
    if onCurve : P256.isOnCurve x y = true then some ⟨scalar, ⟨x, y, onCurve⟩, h⟩ else none

abbrev Exponent := Residue P256.order

/-- The message as a residue modulo the order: its digest read as a number. -/
def digestExponent (message : Bytes) : Exponent :=
  Residue.ofNat (Bytes.toNat (Sha2.sha256.hash message))

def verify (point : P256.Point) (message : Bytes) (signature : Signature) : Bool :=
  let w := Residue.inverse (⟨signature.s.val⟩ : Exponent)
  let u := digestExponent message * w
  let v := (⟨signature.r.val⟩ : Exponent) * w
  match (P256.Jacobian.combine u.rep .generator v.rep (.ofPoint point)).coordinates? with
  | none => false
  | some (x, _) => x % P256.order == signature.r.val

/-- Signs a message with a nonce. Fails for the few nonces that make a half of the signature
zero. -/
def SigningKey.sign (key : SigningKey) (nonce : Scalar) (message : Bytes) : Option Signature := do
  let (x, _) ← (P256.Jacobian.multiple nonce.val).coordinates?
  let r : Exponent := Residue.ofNat x
  let k : Exponent := ⟨nonce.val⟩
  let s := k.inverse * (digestExponent message + r * ⟨key.scalar.val⟩)
  Signature.ofNats? r.rep s.rep

end Possession.Ecdsa

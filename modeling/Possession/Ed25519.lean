import Possession.Curve.Edwards
import Possession.Sha2

/-!
# Ed25519

The bytes of a key are kept as they came, because thumbprints and signatures hash them. Verification
compares the first half of a signature byte by byte; keys of small order are not singled out.
-/

namespace Possession.Ed25519

open Curve

structure PublicKey where
  /-- The encoding of the point, as given. -/
  bytes : Bytes
  length_eq : bytes.length = 32
  isPoint : (Edwards.Point.decode? bytes).isSome = true
  deriving DecidableEq

def PublicKey.ofBytes? (bytes : Bytes) (length_eq : bytes.length = 32) : Option PublicKey :=
  if isPoint : (Edwards.Point.decode? bytes).isSome = true then some ⟨bytes, length_eq, isPoint⟩
  else none

def PublicKey.point (key : PublicKey) : Edwards.Point :=
  (Edwards.Point.decode? key.bytes).get key.isPoint

/-- A signature: two halves of thirty-two bytes. -/
structure Signature where
  /-- The encoding of a point. -/
  commitment : Bytes
  /-- A number, least significant byte first. -/
  response : Bytes
  deriving DecidableEq, Repr

def Signature.ofBytes? (bytes : Bytes) : Option Signature :=
  if bytes.length = 64 then some ⟨bytes.take 32, bytes.drop 32⟩ else none

/-- Why a signature of the right length is rejected. -/
inductive Rejection
  /-- The response is not below the order of the base point. -/
  | unreducedResponse
  /-- The commitment is not the point that the equation asks for. -/
  | equation
  deriving DecidableEq, Repr

/-- The number that binds the commitment, the key and the message together. -/
def challenge (key : PublicKey) (commitment message : Bytes) : Nat :=
  Bytes.toNatLittle (Sha2.sha512.hash (commitment ++ key.bytes ++ message)) % Edwards.order

def verify (key : PublicKey) (message : Bytes) (signature : Signature) : Except Rejection Unit :=
  let response := Bytes.toNatLittle signature.response
  if Edwards.order ≤ response then .error .unreducedResponse
  else
    let k := challenge key signature.commitment message
    let expected := Edwards.Point.combine response .base k key.point.neg
    if expected.encode = signature.commitment then .ok () else .error .equation

end Possession.Ed25519

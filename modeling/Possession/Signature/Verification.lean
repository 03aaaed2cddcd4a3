import Possession.Ecdsa.Encoding
import Possession.PublicKey
import Possession.Signature.Base
import Possession.Signature.Header

/-!
# Verifying request signatures

Signers disagree about the layout of ECDSA signatures, so DER is tried first and the fixed layout
second; key, algorithm and signed text are the same in both attempts.
-/

namespace Possession.Signature

/-- A layout of signature bytes. -/
inductive Encoding
  /-- A DER sequence of two integers. -/
  | der
  /-- Two halves of thirty-two bytes. -/
  | fixed
  deriving DecidableEq, Repr

def Encoding.name : Encoding → String
  | .der => "der"
  | .fixed => "ieee-p1363"

/-- Why bytes are not a signature in some layout. -/
inductive AttemptFault
  /-- Keys of this kind do not use the layout. -/
  | notApplicable
  /-- The bytes do not have the layout. -/
  | undecodable
  | rejected
  | rejectedEd25519 (rejection : Ed25519.Rejection)
  deriving DecidableEq, Repr

def rejectionMessage : Ed25519.Rejection → String
  | .unreducedResponse => "Cannot use scalar with high-bit set"
  | .equation => "Verification equation was not satisfied"

def AttemptFault.message : AttemptFault → String
  | .notApplicable => "encoding does not apply to this key type"
  | .undecodable => "signature bytes do not decode: signature error"
  | .rejected => "signature rejected: signature error"
  | .rejectedEd25519 rejection =>
    "signature rejected: signature error: " ++ rejectionMessage rejection

/-- The two scalars that bytes hold in a layout. -/
def Encoding.decode? : Encoding → Bytes → Option Ecdsa.Signature
  | .der => Ecdsa.Signature.ofDer?
  | .fixed => Ecdsa.Signature.ofFixed?

/-- Verifies bytes under a key in one layout. -/
def attempt (key : PublicKey) (encoding : Encoding) (message bytes : Bytes) :
    Except AttemptFault Unit :=
  match key, encoding with
  | .p256 point, encoding =>
    match encoding.decode? bytes with
    | none => .error .undecodable
    | some signature =>
      if Ecdsa.verify point message signature then .ok () else .error .rejected
  | .ed25519 _, .der => .error .notApplicable
  | .ed25519 key, .fixed =>
    match Ed25519.Signature.ofBytes? bytes with
    | none => .error .undecodable
    | some signature => (Ed25519.verify key message signature).mapError .rejectedEd25519

def attemptNote (encoding : Encoding) (fault : AttemptFault) : String :=
  encoding.name ++ ": " ++ fault.message

/-- Verifies bytes under a key in DER, then in the fixed layout. -/
def verifyBytes (key : PublicKey) (message bytes : Bytes) : Outcome Encoding :=
  match attempt key .der message bytes with
  | .ok () => .ok .der
  | .error first =>
    match attempt key .fixed message bytes with
    | .ok () => .ok .fixed
    | .error last =>
      .error (((Refusal.of .invalidSignature).note (attemptNote .der first)).note
        (attemptNote .fixed last))

structure Verified where
  params : Params
  encoding : Encoding
  deriving DecidableEq, Repr

/-- The signature that the headers of a request hold. -/
def ofRequest (request : Request) : Except HeaderFault (Params × Bytes) :=
  match request.signatureInput, request.signature with
  | none, _ => .error .inputMissing
  | some _, none => .error .signatureMissing
  | some input, some signature => select input signature

/-- Demands that every required component is covered. -/
def checkCovered (params : Params) : (required : List String) → Outcome Unit
  | [] => .ok ()
  | component :: rest =>
    if params.components.contains component then checkCovered params rest
    else .refuse (.missingCoveredField component)

/-- Demands that the signature names no other algorithm than that of the key. -/
def checkAlgorithm (key : PublicKey) (params : Params) : Outcome Unit :=
  match params.algorithm? with
  | none => .ok ()
  | some algorithm =>
    if algorithm = key.signatureAlgorithm then .ok ()
    else
      .error ((Refusal.of (.unsupportedAlgorithm algorithm)).note
        ("key expects '" ++ key.signatureAlgorithm ++ "'"))

/-- Verifies the signature of a request under a key. The signature must cover the required
components and may cover others. -/
def verify (request : Request) (key : PublicKey) (required : List String) : Outcome Verified := do
  let (params, bytes) ← (ofRequest request).mapError HeaderFault.refusal
  checkCovered params required
  checkAlgorithm key params
  let text ← base request params
  return ⟨params, ← verifyBytes key (Bytes.ofText text) bytes⟩

end Possession.Signature

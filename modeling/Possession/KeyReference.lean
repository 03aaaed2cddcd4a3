import Possession.PublicKey
import Possession.Text.Split

/-!
# Key references

A thumbprint may contain a hyphen itself, so the tag of a reference is matched from the front.
-/

namespace Possession

structure KeyReference where
  algorithm : ThumbprintAlgorithm
  /-- The thumbprint in unpadded base64url. -/
  thumbprint : String
  deriving DecidableEq, Repr

namespace KeyReference

inductive Fault
  /-- The text does not start with a tag and a hyphen. -/
  | unknownTag
  | emptyThumbprint
  | notBase64 (fault : Base64.Fault)
  | wrongLength (algorithm : ThumbprintAlgorithm) (count : Nat)
  deriving DecidableEq, Repr

def Fault.message : Fault → String
  | unknownTag => "reference must start with one of sha256-, sha384-, sha512-"
  | emptyThumbprint => "thumbprint is empty"
  | notBase64 fault => "thumbprint is not base64url: " ++ fault.message
  | wrongLength algorithm count =>
    algorithm.tag ++ " thumbprint must be " ++ toString algorithm.digestLength ++ " bytes, got " ++
      toString count

def print (reference : KeyReference) : String :=
  reference.algorithm.tag ++ "-" ++ reference.thumbprint

/-- The reference that names a key. -/
def forKey (key : PublicKey) (algorithm : ThumbprintAlgorithm) : KeyReference :=
  ⟨algorithm, key.thumbprint algorithm⟩

/-- The algorithm whose tag and a hyphen start the text, and the text after them. -/
def splitTag? (text : List Char) : Option (ThumbprintAlgorithm × List Char) :=
  ThumbprintAlgorithm.all.findSome? fun algorithm =>
    (Text.after? (algorithm.tag.toList ++ ['-']) text).map fun rest => (algorithm, rest)

def read (text : String) : Except Fault KeyReference :=
  match splitTag? text.toList with
  | none => .error .unknownTag
  | some (algorithm, rest) =>
    let thumbprint := String.ofList rest
    if rest = [] then .error .emptyThumbprint
    else
      match Base64.decodeText Base64.urlUnpadded thumbprint with
      | .error fault => .error (.notBase64 fault)
      | .ok digest =>
        if digest.length = algorithm.digestLength then .ok ⟨algorithm, thumbprint⟩
        else .error (.wrongLength algorithm digest.length)

def parse (text : String) : Outcome KeyReference :=
  (read text).mapError fun fault => .of (.malformedReference fault.message)

theorem failure_of_parse_eq_error {text : String} {refusal : Refusal}
    (h : parse text = .error refusal) :
    ∃ message, refusal.failure = .malformedReference message := by
  obtain ⟨fault, _, rfl⟩ := Outcome.mapError_eq_error_iff.mp h
  exact ⟨fault.message, rfl⟩

def names (reference : KeyReference) (key : PublicKey) : Bool :=
  key.thumbprint reference.algorithm == reference.thumbprint

/-- A reference names the key that it was made for. -/
@[simp] theorem names_forKey (key : PublicKey) (algorithm : ThumbprintAlgorithm) :
    (forKey key algorithm).names key = true := by
  simp [names, forKey]

end KeyReference

end Possession

import Possession.Failure
import Possession.Sha2

/-!
# Thumbprint algorithms

The hash functions that a key may be named by. Each has a tag, which starts a key reference, and a
digest of fixed length.
-/

namespace Possession

/-- A hash function for thumbprints. -/
inductive ThumbprintAlgorithm
  | sha256
  | sha384
  | sha512
  deriving DecidableEq, Repr

namespace ThumbprintAlgorithm

def all : List ThumbprintAlgorithm := [sha256, sha384, sha512]

def tag : ThumbprintAlgorithm → String
  | sha256 => "sha256"
  | sha384 => "sha384"
  | sha512 => "sha512"

def digestLength : ThumbprintAlgorithm → Nat
  | sha256 => 32
  | sha384 => 48
  | sha512 => 64

def digest : ThumbprintAlgorithm → Bytes → Bytes
  | sha256 => Sha2.sha256.hash
  | sha384 => Sha2.sha384.hash
  | sha512 => Sha2.sha512.hash

theorem length_digest (algorithm : ThumbprintAlgorithm) (message : Bytes) :
    (algorithm.digest message).length = algorithm.digestLength := by
  cases algorithm with
  | sha256 => exact Sha2.sha256.length_hash message (by decide)
  | sha384 => exact Sha2.sha384.length_hash message (by decide)
  | sha512 => exact Sha2.sha512.length_hash message (by decide)

def ofTag? (tag : String) : Option ThumbprintAlgorithm :=
  all.find? fun algorithm => algorithm.tag == tag

def parse (name : String) : Outcome ThumbprintAlgorithm :=
  match ofTag? name with
  | some algorithm => .ok algorithm
  | none => .refuse (.malformedReference ("unknown thumbprint algorithm '" ++ name ++ "'"))

end ThumbprintAlgorithm

end Possession

import Possession.Base64
import Possession.Curve.P256
import Possession.Ed25519
import Possession.Thumbprint

/-!
# Public keys

A key is a point of P-256 or an Ed25519 key. It is named by its thumbprint: the digest of a fixed
JSON text that holds the required members of the key in the order of their names and nothing else.
-/

namespace Possession

inductive PublicKey
  | p256 (point : Curve.P256.Point)
  | ed25519 (key : Ed25519.PublicKey)
  deriving DecidableEq

namespace PublicKey

/-- The encoding of a coordinate in keys and thumbprints. -/
def encodeCoordinate (n : Nat) : String := Base64.encode Base64.urlUnpadded (Bytes.ofNat 32 n)

/-- The text whose digest is the thumbprint. -/
def thumbprintInput : PublicKey → String
  | p256 point =>
    "\x7b\"crv\":\"P-256\",\"kty\":\"EC\",\"x\":\"" ++ encodeCoordinate point.x ++ "\",\"y\":\"" ++
      encodeCoordinate point.y ++ "\"\x7d"
  | ed25519 key =>
    "\x7b\"crv\":\"Ed25519\",\"kty\":\"OKP\",\"x\":\"" ++
      Base64.encode Base64.urlUnpadded key.bytes ++ "\"\x7d"

def thumbprint (key : PublicKey) (algorithm : ThumbprintAlgorithm) : String :=
  Base64.encode Base64.urlUnpadded (algorithm.digest (Bytes.ofText key.thumbprintInput))

/-- The name by which a signature header refers to the algorithm of the key. -/
def signatureAlgorithm : PublicKey → String
  | p256 _ => "ecdsa-p256-sha256"
  | ed25519 _ => "ed25519"

/-- A short name of the kind of key. -/
def kind : PublicKey → String
  | p256 _ => "EC P-256"
  | ed25519 _ => "OKP Ed25519"

/-- What logs show of a key: its kind and its thumbprint, neither of which needs an escape. -/
def debugText (key : PublicKey) : String :=
  "PublicKey \x7b kind: \"" ++ key.kind ++ "\", thumbprint: \"" ++ key.thumbprint .sha256 ++
    "\" \x7d"

end PublicKey

end Possession

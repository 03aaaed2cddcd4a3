import Possession.KeyPair
import Possession.KeyReference
import Possession.Settings
import Possession.Signature.Verification
import Possession.Token.Issue
import Possession.Token.Validation

/-!
# Authenticators

An authenticator joins settings and key pairs. A request goes through its checks in a fixed order,
in which the first failure ends it.
-/

namespace Possession

/-- Settings and key pairs of one issuer. -/
structure Authenticator where
  keys : KeySet
  lifetime : Duration
  /-- The components that every signature must cover. -/
  requiredComponents : List String
  /-- Whether a key must have the thumbprint that the reference names. -/
  enforceThumbprintBinding : Bool
  digestPolicy : ContentDigest.Policy

/-- A request whose signature verified. -/
structure Authenticated where
  reference : KeyReference
  key : PublicKey
  digest : ContentDigest.Verdict
  signature : Signature.Verified
  deriving DecidableEq

namespace Authenticator

/-- An authenticator for settings and key pairs of the same issuer. -/
def make (settings : Settings) (keys : KeySet) : Outcome Authenticator :=
  if keys.issuer = settings.issuer then
    .ok ⟨keys, settings.lifetime, settings.requiredComponents, settings.enforceThumbprintBinding,
      settings.digestPolicy⟩
  else
    .refuse (.configuration ("key pairs belong to issuer '" ++ keys.issuer ++
      "' but settings name '" ++ settings.issuer ++ "'"))

/-! ## Requests -/

/-- The component that stands for the body. -/
def digestComponent : String := "content-digest"

/-- The components that the signature of a request must cover: the digest, too, if the request has a
body or declares one. -/
def coveredFields (authenticator : Authenticator) (request : Request) : List String :=
  let required := authenticator.requiredComponents
  let hasContent := request.body.isSome || request.contentDigest.isSome
  if hasContent && !required.contains digestComponent then
    required ++ [digestComponent]
  else required

/-- Demands that the reference names the key, if that is enforced. -/
def checkBinding (authenticator : Authenticator) (reference : KeyReference) (key : PublicKey) :
    Outcome Unit :=
  if authenticator.enforceThumbprintBinding && !reference.names key then .refuse .thumbprintMismatch
  else .ok ()

/-- Authenticates a request as signed by the key that a reference names; the key itself is given as
the text of a JSON web key. -/
def authenticate (authenticator : Authenticator) (request : Request) (reference jwk : String) :
    Outcome Authenticated := do
  let reference ← KeyReference.parse reference
  let digest ← ContentDigest.check request.contentDigest request.body authenticator.digestPolicy
  let key ← PublicKey.parse jwk
  authenticator.checkBinding reference key
  let signature ← Signature.verify request key (authenticator.coveredFields request)
  return ⟨reference, key, digest, signature⟩

/-! ## Tokens -/

def issue (authenticator : Authenticator) (payload : Members) (now : Instant) (id : String)
    (nonce : Ecdsa.Scalar) : Outcome String :=
  Token.issueAt authenticator.keys.issuer authenticator.keys.primary payload authenticator.lifetime
    now id nonce

def validate (authenticator : Authenticator) (now : Instant) (token : String) :
    Outcome Token.Validated :=
  Token.validate authenticator.keys.issuer authenticator.keys.primary.publicKey
    (authenticator.keys.secondary.map KeyPair.publicKey) now token

/-! ## Keys -/

def jwks (authenticator : Authenticator) : List Jwk := authenticator.keys.jwks

def rotate (authenticator : Authenticator) (pair : KeyPair) : Authenticator :=
  { authenticator with keys := authenticator.keys.rotate pair }

def retire (authenticator : Authenticator) : Authenticator :=
  { authenticator with keys := authenticator.keys.retire }

end Authenticator

end Possession

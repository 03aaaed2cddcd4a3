import Possession.Authenticator
import Possession.Url.Parsing
import Possession.Proofs.BodyBinding
import Possession.Proofs.Signature.Signing
import Possession.Proofs.Base64.Canonical
import Possession.Proofs.Json.Text
import Possession.Proofs.Json.Number
import Possession.Proofs.Json.Double
import Possession.Proofs.Json.Printing
import Possession.Proofs.Json.Members
import Possession.Proofs.Json.RoundTrip
import Possession.Proofs.Json.Normal
import Possession.Proofs.Token.Phases
import Possession.Proofs.Token.Rotation
import Possession.Proofs.Token.Header
import Possession.Proofs.Token.Soundness
import Possession.Proofs.Ecdsa.Encoding
import Possession.Proofs.Token.Claims
import Possession.Proofs.Token.Encoding
import Possession.Proofs.Token.Issued
import Possession.Proofs.Token.Issuing
import Possession.Proofs.Token.Decision
import Possession.Proofs.Token.Algorithms
import Possession.Proofs.Token.Acceptance
import Possession.Proofs.PublicKey
import Possession.Proofs.KeyBinding
import Possession.Proofs.DigestPresence
import Possession.Proofs.Token.Isolation
import Possession.Proofs.Token.Succession
import Possession.Proofs.Token.Expiry
import Possession.Proofs.Jwk
import Possession.Proofs.Permissiveness
import Possession.Proofs.Publication
import Possession.Proofs.Text.Words
import Possession.Proofs.Signature.InnerList
import Possession.Proofs.Ecdsa.Der
import Possession.Proofs.KeyReference
import Possession.Proofs.PublicKey.Spelling
import Possession.Proofs.Signature.Layouts
import Possession.Proofs.ContentDigest.Members
import Possession.Proofs.StructuredField.Items
import Possession.Proofs.Signature.FieldLines
import Possession.Proofs.Signature.Parameters
import Possession.Proofs.Configuration
import Possession.Proofs.Configuration.Order
import Possession.Proofs.Settings
import Possession.Proofs.Settings.Overrides
import Possession.Proofs.Settings.Order
import Possession.Proofs.Settings.Sources
import Possession.Proofs.StructuredField.Pieces
import Possession.Proofs.Base64.Bits
import Possession.Proofs.Signature.ByteSequence

import Possession.Authenticator
import Possession.Proofs.Jwk
import Possession.Proofs.PublicKey

/-!
# Published keys

A server publishes the public halves of its pairs, and a relying party checks tokens with the keys
that it reads there. Nothing is lost on the way, so it answers as the server does.
-/

namespace Possession

namespace Curve.P256.Point

/-- Thirty-two bytes have room for a coordinate. -/
theorem coordinates_lt_pow (point : Point) :
    point.x < Nat.pow 256 32 ∧ point.y < Nat.pow 256 32 := by
  have hroom : prime < Nat.pow 256 32 := by decide
  obtain ⟨hx, hy⟩ := point.coordinates_lt
  exact ⟨Nat.lt_trans hx hroom, Nat.lt_trans hy hroom⟩

/-- A point is read back from its coordinates. -/
theorem ofCoordinates?_coordinates (point : Point) :
    ofCoordinates? point.x point.y = some point := by
  rw [ofCoordinates?, dif_pos point.onCurve]

end Curve.P256.Point

namespace PublicKey

theorem ofCoordinates_ofNat (point : Curve.P256.Point) :
    ofCoordinates (Bytes.ofNat 32 point.x) (Bytes.ofNat 32 point.y) = .ok (.p256 point) := by
  obtain ⟨hx, hy⟩ := point.coordinates_lt_pow
  have hlength (n : Nat) : ¬ (Bytes.ofNat 32 n).length ≠ 32 := by simp
  rw [ofCoordinates, if_neg (hlength _), if_neg (hlength _), Bytes.toNat_ofNat hx,
    Bytes.toNat_ofNat hy, Curve.P256.Point.ofCoordinates?_coordinates]

/-- A key is read back from its JSON web key, whatever its identifier is. -/
theorem ofJwk_toJwk (key : PublicKey) (keyId : Option String) :
    ofJwk (key.toJwk keyId) = .ok key := by
  cases key with
  | p256 point => exact ofCoordinates_ofNat point
  | ed25519 key =>
    have hkey : Ed25519.PublicKey.ofBytes? key.bytes key.length_eq = some key :=
      dif_pos key.isPoint
    change ofEd25519 key.bytes = _
    rw [ofEd25519, dif_pos key.length_eq, hkey]

/-- The algorithm that a key is written with is a known one. -/
theorem mem_algorithms_of_toJwk (key : PublicKey) (keyId : Option String) :
    ∀ name, (key.toJwk keyId).algorithm = some name → name ∈ Jwk.algorithms := by
  cases key <;> simp [toJwk, Jwk.algorithms]

end PublicKey

namespace KeySet

/-- The set of keys that a server publishes is read as it was written. -/
theorem parseSet?_printJwks (keys : KeySet) :
    Jwk.parseSet? (Bytes.ofText keys.printJwks) = some keys.jwks := by
  refine Jwk.parseSet?_printSet fun jwk hjwk => ?_
  obtain ⟨pair, _, rfl⟩ := List.mem_map.mp hjwk
  exact pair.publicKey.mem_algorithms_of_toJwk (some pair.keyId)

end KeySet

namespace RelyingParty

/-- The keys of a published set, if all of them can be used. -/
def readKeys? (document : String) : Option (List PublicKey) := do
  let jwks ← Jwk.parseSet? (Bytes.ofText document)
  jwks.mapM fun jwk => (PublicKey.ofJwk jwk).toOption

/-- Validates a token with the keys of a published set: the first one as the primary key, the second
one, if there is one, as the secondary key. There is no answer without a key. -/
def validate? (issuer document : String) (now : Instant) (token : String) :
    Option (Outcome Token.Validated) :=
  match readKeys? document with
  | some (primary :: others) => some (Token.validate issuer primary others.head? now token)
  | _ => none

/-- A relying party reads the public keys of the pairs in use, in their order. -/
theorem readKeys?_printJwks (keys : KeySet) :
    readKeys? keys.printJwks = some (keys.active.map KeyPair.publicKey) := by
  have hread (pairs : List KeyPair) :
      (pairs.map KeyPair.jwk).mapM (fun jwk => (PublicKey.ofJwk jwk).toOption) =
        some (pairs.map KeyPair.publicKey) := by
    induction pairs with
    | nil => rfl
    | cons pair pairs ih =>
      rw [List.map_cons, List.mapM_cons, ih, KeyPair.jwk, PublicKey.ofJwk_toJwk]
      rfl
  rw [readKeys?, keys.parseSet?_printJwks]
  exact hread keys.active

end RelyingParty

/-- What a server publishes is a set of keys without private components: those of the primary and
then of the secondary pair, with their identifiers. A relying party that checks tokens with them
answers as the server does. -/
theorem Authenticator.validate?_printJwks (authenticator : Authenticator) :
    (∃ jwks, Jwk.parseSet? (Bytes.ofText authenticator.keys.printJwks) = some jwks ∧
      jwks.map (fun jwk => (PublicKey.ofJwk jwk, jwk.keyId)) =
        authenticator.keys.active.map (fun pair => (.ok pair.publicKey, some pair.keyId)) ∧
      ∀ jwk ∈ jwks, ∃ x y, jwk.material = .ec .p256 x y none) ∧
    ∀ now token,
      RelyingParty.validate? authenticator.keys.issuer authenticator.keys.printJwks now token =
        some (authenticator.validate now token) := by
  refine ⟨⟨_, authenticator.keys.parseSet?_printJwks, ?_, ?_⟩, fun now token => ?_⟩
  · rw [KeySet.jwks, List.map_map]
    refine List.map_congr_left fun pair _ => ?_
    exact Prod.ext (PublicKey.ofJwk_toJwk pair.publicKey (some pair.keyId)) rfl
  · intro jwk hjwk
    obtain ⟨pair, _, rfl⟩ := List.mem_map.mp hjwk
    exact ⟨_, _, rfl⟩
  · rw [RelyingParty.validate?, RelyingParty.readKeys?_printJwks]
    obtain ⟨⟨issuer, primary, secondary⟩, _, _, _, _⟩ := authenticator
    cases secondary <;> rfl

end Possession

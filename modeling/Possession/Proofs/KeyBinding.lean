import Possession.Proofs.BodyBinding
import Possession.Proofs.PublicKey

/-!
# A reference is bound to a key

Requests that are authenticated under the same reference were signed by the same key, or two texts
are at hand whose digests collide.
-/

namespace Possession.Authenticator

open Signature

section

variable {authenticator authenticator' : Authenticator} {request request' : Request}
  {reference jwk jwk' : String} {accepted accepted' : Authenticated}

/-- The key of an authenticated request has the thumbprint that the reference names. -/
theorem thumbprint_eq_of_authenticate (henforced : authenticator.enforceThumbprintBinding = true)
    (h : authenticator.authenticate request reference jwk = .ok accepted) :
    KeyReference.parse reference = .ok accepted.reference ∧
      accepted.key.thumbprint accepted.reference.algorithm = accepted.reference.thumbprint := by
  have haccepts := authenticate_eq_ok_iff.mp h
  exact ⟨haccepts.reference, haccepts.binding henforced⟩

/-- Two requests that are authenticated under one reference text have the same key, or else the
texts behind the thumbprints of their keys are a collision under the algorithm of the reference. -/
theorem key_eq_or_collision_of_authenticate
    (henforced : authenticator.enforceThumbprintBinding = true)
    (henforced' : authenticator'.enforceThumbprintBinding = true)
    (h : authenticator.authenticate request reference jwk = .ok accepted)
    (h' : authenticator'.authenticate request' reference jwk' = .ok accepted') :
    ∃ named, KeyReference.parse reference = .ok named ∧
      (accepted.key = accepted'.key ∨
        named.algorithm.Collision accepted.key.thumbprintInput accepted'.key.thumbprintInput) := by
  obtain ⟨hnamed, hthumbprint⟩ := thumbprint_eq_of_authenticate henforced h
  obtain ⟨hnamed', hthumbprint'⟩ := thumbprint_eq_of_authenticate henforced' h'
  have hsame : accepted.reference = accepted'.reference :=
    Except.ok.inj (hnamed.symm.trans hnamed')
  rw [← hsame] at hthumbprint'
  exact ⟨accepted.reference, hnamed,
    PublicKey.eq_or_collision_of_thumbprint_eq (hthumbprint.trans hthumbprint'.symm)⟩

end

/-- The lenient authenticator, except that it enforces the binding of keys. -/
def enforcing : Authenticator := { lenient with enforceThumbprintBinding := true }

/-- What the request without a body is found to be under a reference that names the neutral key. -/
def boundAccepted : Authenticated :=
  ⟨⟨.sha256, "eV9frzBXPTP92MWWMpoFOh0WI_kJLvGlhcNs15APU_s"⟩, .ed25519 neutralKey, .verified,
    emptyAccepted.signature⟩

/-- The neutral key, written as a JSON web key in another way. -/
def namedNeutralJwk : String :=
  "\x7b\"crv\":\"Ed25519\",\"kid\":\"neutral\",\"kty\":\"OKP\"," ++
    "\"x\":\"AQAAAAAAAAAAAAAAAAAAAAAAAAAAAAAAAAAAAAAAAAA\"\x7d"

theorem key_eq_or_collision_boundAccepted :
    enforcing.authenticate emptyRequest boundAccepted.reference.print neutralJwk =
        .ok boundAccepted ∧
      enforcing.authenticate { emptyRequest with body := some [] } boundAccepted.reference.print
        namedNeutralJwk = .ok boundAccepted ∧
      ∃ named, KeyReference.parse boundAccepted.reference.print = .ok named ∧
        (boundAccepted.key = boundAccepted.key ∨ named.algorithm.Collision
          boundAccepted.key.thumbprintInput boundAccepted.key.thumbprintInput) := by
  have h : enforcing.authenticate emptyRequest boundAccepted.reference.print neutralJwk =
      .ok boundAccepted := by decide +kernel
  have hkey : PublicKey.parse namedNeutralJwk = PublicKey.parse neutralJwk := by decide +kernel
  have h' : enforcing.authenticate { emptyRequest with body := some [] }
      boundAccepted.reference.print namedNeutralJwk = .ok boundAccepted := by
    rw [authenticate_nil_body (by decide +kernel), authenticate, hkey]
    exact h
  exact ⟨h, h', key_eq_or_collision_of_authenticate rfl rfl h h'⟩

end Possession.Authenticator

import Possession.Proofs.KeyBinding

/-!
# Looser policies

Each demand of a policy is made at one stage and is met under a looser policy if it is met under a
stricter one; the other stages do not look at the policy.
-/

namespace Possession.Authenticator

open Signature

/-- Whether an authenticator demands nothing of requests that a stricter one does not demand. -/
structure IsLooserThan (looser stricter : Authenticator) : Prop where
  components : looser.requiredComponents ⊆ stricter.requiredComponents
  binding : looser.enforceThumbprintBinding = true → stricter.enforceThumbprintBinding = true
  digest : stricter.digestPolicy.allowBodylessWithoutDigest = true →
    looser.digestPolicy.allowBodylessWithoutDigest = true

section

variable {looser stricter : Authenticator} {request : Request} {reference jwk : String}
  {accepted : Authenticated}

/-- Whether the digest must be covered is a matter of the request alone. -/
theorem Covers.of_isLooserThan {params : Params} (hlooser : looser.IsLooserThan stricter)
    (h : stricter.Covers request params) : looser.Covers request params := by
  obtain ⟨hrequired, hdigest⟩ := h
  exact ⟨fun component hcomponent => hrequired component (hlooser.components hcomponent), hdigest⟩

theorem Accepts.of_isLooserThan (hlooser : looser.IsLooserThan stricter)
    (h : stricter.Accepts request reference jwk accepted) :
    looser.Accepts request reference jwk accepted where
  reference := h.reference
  digest := by
    rcases h.digest with ⟨hskipped, hheader, hbody, hallowed⟩ | hverified
    · exact .inl ⟨hskipped, hheader, hbody, hlooser.digest hallowed⟩
    · exact .inr hverified
  key := h.key
  binding := fun henforced => h.binding (hlooser.binding henforced)
  coverage := h.coverage.of_isLooserThan hlooser
  algorithm := h.algorithm
  signature := h.signature

/-- A request that is authenticated under a stricter policy is authenticated under a looser one,
with the same reference, key, digest, parameters and layout. -/
theorem authenticate_of_isLooserThan (hlooser : looser.IsLooserThan stricter)
    (h : stricter.authenticate request reference jwk = .ok accepted) :
    looser.authenticate request reference jwk = .ok accepted :=
  authenticate_eq_ok_iff.mpr ((authenticate_eq_ok_iff.mp h).of_isLooserThan hlooser)

end

/-- An authenticator that makes all three demands. -/
def demanding : Authenticator :=
  { lenient with
    requiredComponents := [digestComponent]
    enforceThumbprintBinding := true
    digestPolicy := ⟨false⟩ }

theorem authenticate_demanding_lenient :
    demanding.authenticate emptyRequest boundAccepted.reference.print neutralJwk =
        .ok boundAccepted ∧
      lenient.IsLooserThan demanding ∧
      lenient.authenticate emptyRequest boundAccepted.reference.print neutralJwk =
        .ok boundAccepted := by
  have h : demanding.authenticate emptyRequest boundAccepted.reference.print neutralJwk =
      .ok boundAccepted := by decide +kernel
  have hlooser : lenient.IsLooserThan demanding :=
    ⟨List.nil_subset _, nofun, fun _ => rfl⟩
  exact ⟨h, hlooser, authenticate_of_isLooserThan hlooser h⟩

end Possession.Authenticator

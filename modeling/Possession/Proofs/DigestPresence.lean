import Possession.Proofs.BodyBinding

/-!
# When the digest is not looked at

The check of the digest sees the header as a text. It does not tell a header that is missing from
one that is not visible ASCII, so a digest that cannot be read is treated as if there were none.
-/

namespace Possession

/-- The check is skipped exactly if the policy allows it, there is no body, and the header has no
text: because there is no digest, or because one of its values cannot be read. -/
theorem Request.check_contentDigest_eq_skipped_iff {request : Request}
    {policy : ContentDigest.Policy} :
    ContentDigest.check request.contentDigest request.body policy = .ok .skipped ↔
      policy.allowBodylessWithoutDigest = true ∧ request.body = none ∧
        ((∀ field ∈ request.fields, field.name ≠ "content-digest") ∨
          ∃ field ∈ request.fields, field.name = "content-digest" ∧
            field.value.all isVisible = false) := by
  have hname : foldName "content-digest" = "content-digest" := foldName_eq_self (by decide)
  have hnone := @text?_header_eq_none_iff request "content-digest"
  rw [hname, ← contentDigest] at hnone
  rw [ContentDigest.check_eq_ok_iff, ← hnone]
  constructor
  · rintro (⟨_, hheader, hbody, hallow⟩ | ⟨hverdict, _⟩)
    · exact ⟨hallow, hbody, hheader⟩
    · cases hverdict
  · rintro ⟨hallow, hbody, hheader⟩
    exact .inl ⟨rfl, hheader, hbody, hallow⟩

namespace Authenticator

open Signature

theorem isToken_contentDigest : Request.isToken "content-digest" = true := by decide

theorem isToken_signatureInput : Request.isToken "signature-input" = true := by decide

/-- A request whose only digest is a byte that is not ASCII. The neutral signature covers nothing.
-/
def unreadableRequest : Request :=
  { emptyRequest with
    fields :=
      [⟨"content-digest", [0xFF], isToken_contentDigest, by decide⟩,
        ⟨"signature-input", "sig=()".toList.map Char.toUInt8, isToken_signatureInput, by decide⟩] ++
        emptyRequest.fields.drop 2 }

/-- The request is authenticated although it declares a digest that nobody has compared and that the
signature does not cover. -/
theorem skipped_unreadableRequest :
    lenient.authenticate unreadableRequest emptyReference neutralJwk =
        .ok ⟨emptyAccepted.reference, .ed25519 neutralKey, .skipped, ⟨⟨"sig", [], ""⟩, .fixed⟩⟩ ∧
      ContentDigest.check unreadableRequest.contentDigest unreadableRequest.body .standard =
        .ok .skipped ∧
      ∃ field ∈ unreadableRequest.fields, field.name = "content-digest" := by
  have h : lenient.authenticate unreadableRequest emptyReference neutralJwk =
      .ok ⟨emptyAccepted.reference, .ed25519 neutralKey, .skipped, ⟨⟨"sig", [], ""⟩, .fixed⟩⟩ := by
    decide +kernel
  have hskipped : ContentDigest.check unreadableRequest.contentDigest unreadableRequest.body
      .standard = .ok .skipped := by
    rcases (authenticate_eq_ok_iff.mp h).digest with hdigest | ⟨hverified, _⟩
    · exact ContentDigest.check_eq_ok_iff.mpr (.inl hdigest)
    · cases hverified
  exact ⟨h, hskipped, ⟨_, List.mem_cons_self, rfl⟩⟩

end Authenticator

end Possession

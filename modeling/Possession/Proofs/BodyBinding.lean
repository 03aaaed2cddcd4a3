import Possession.Proofs.Authentication

/-!
# A signature is bound to a body

A signature never covers the body itself. Where there is a body the digest must be covered, and the
value that the signature covers is the value that the body was checked against.
-/

namespace Possession.Authenticator

open Signature

/-- The digest that a signature covers is the header that the body is checked against. -/
theorem contentDigest_eq_of_componentValue {request : Request} {value : String}
    (h : componentValue request digestComponent = .ok value) :
    request.contentDigest = some value := by
  rcases componentValue_eq_ok_iff.mp h with ⟨derived, hname, _⟩ | ⟨_, _, hheader⟩
  · have hnone : Derived.ofName? digestComponent = none := by decide
    rw [hnone] at hname
    cases hname
  · rw [Request.contentDigest, ← digestComponent, hheader]
    rfl

/-- Where a digest is declared, an accepted request has passed the check against it. -/
theorem Accepts.isValid {authenticator : Authenticator} {request : Request}
    {reference jwk value : String} {accepted : Authenticated}
    (h : authenticator.Accepts request reference jwk accepted)
    (hvalue : request.contentDigest = some value) :
    accepted.digest = .verified ∧
      ContentDigest.isValid (some value) (request.body.getD []) = true := by
  rcases h.digest with ⟨_, hnone, _⟩ | ⟨hverdict, declared, hdeclared, hvalid⟩
  · rw [hnone] at hvalue
    cases hvalue
  · rw [hvalue] at hdeclared
    obtain rfl := Option.some.inj hdeclared
    exact ⟨hverdict, hvalid⟩

/-- Two accepted requests with the same signature base, of which one has a body, both cover the
digest and have been checked against it. The value that is covered names an algorithm, and under
every algorithm that it names the bodies have the same digest. -/
theorem body_digest_eq_of_base_eq {authenticator authenticator' : Authenticator}
    {request request' : Request} {reference reference' jwk jwk' : String}
    {accepted accepted' : Authenticated} {body : Bytes}
    (h : authenticator.authenticate request reference jwk = .ok accepted)
    (h' : authenticator'.authenticate request' reference' jwk' = .ok accepted')
    (hbase : base request accepted.signature.params = base request' accepted'.signature.params)
    (hbody : request.body = some body) :
    digestComponent ∈ accepted.signature.params.components ∧
      digestComponent ∈ accepted'.signature.params.components ∧
      accepted.digest = .verified ∧ accepted'.digest = .verified ∧
      ∃ value, componentValue request digestComponent = .ok value ∧
        componentValue request' digestComponent = .ok value ∧
        (∃ algorithm, ContentDigest.Names value algorithm) ∧
        ∀ algorithm, ContentDigest.Names value algorithm →
          algorithm.digest body = algorithm.digest (request'.body.getD []) := by
  have haccepts := authenticate_eq_ok_iff.mp h
  have haccepts' := authenticate_eq_ok_iff.mp h'
  have hcovered := haccepts.coverage.2 (.inl (by simp [hbody]))
  obtain ⟨_, text, _, htext, _⟩ := haccepts.signature
  obtain ⟨hcomponents, _, hvalues⟩ := covered_eq_of_base_eq htext (hbase ▸ htext)
  obtain ⟨value, hvalue, hvalue'⟩ := hvalues digestComponent hcovered
  obtain ⟨hverdict, hvalid⟩ := haccepts.isValid (contentDigest_eq_of_componentValue hvalue)
  obtain ⟨hverdict', hvalid'⟩ := haccepts'.isValid (contentDigest_eq_of_componentValue hvalue')
  rw [hbody, Option.getD_some] at hvalid
  exact ⟨hcovered, hcomponents ▸ hcovered, hverdict, hverdict', value, hvalue, hvalue',
    ContentDigest.exists_names_of_isValid hvalid,
    fun _ hnames => ContentDigest.digest_eq_of_isValid hvalid hvalid' hnames⟩

/-! ## What authentication does not look at -/

/-- Requests with the same body that differ in what the signature does not cover are authenticated
alike. -/
theorem authenticate_congr {request other : Request} (hbody : other.body = request.body)
    (hdigest : other.contentDigest = request.contentDigest)
    (hheaders : ofRequest other = ofRequest request)
    (hvalues : ∀ params bytes, ofRequest request = .ok (params, bytes) →
      ∀ component ∈ params.components,
        componentValue other component = componentValue request component)
    (authenticator : Authenticator) (reference jwk : String) :
    authenticator.authenticate other reference jwk =
      authenticator.authenticate request reference jwk := by
  simp only [authenticate, coveredFields, hbody, hdigest, verify_congr hheaders hvalues]

/-- Where a digest is declared, a request without a body is authenticated like one with an empty
body. -/
theorem authenticate_nil_body {authenticator : Authenticator} {request : Request}
    {reference jwk : String} (h : request.contentDigest.isSome) :
    authenticator.authenticate { request with body := some [] } reference jwk =
      authenticator.authenticate { request with body := none } reference jwk := by
  have hdigest (body : Option Bytes) :
      Request.contentDigest { request with body := body } = request.contentDigest := rfl
  obtain ⟨value, hvalue⟩ := Option.isSome_iff_exists.mp h
  simp only [authenticate, coveredFields, hdigest, hvalue, ContentDigest.check, verify_setBody,
    Option.isSome_some, Bool.or_true, Option.getD_some, Option.getD_none]

/-- An authenticator that neither enforces the binding of keys nor requires a component. -/
def lenient : Authenticator where
  keys := ⟨"issuer", ⟨"1", ⟨⟨1, by decide, by decide⟩,
    ⟨0x6b17d1f2e12c4247f8bce6e563a440f277037d812deb33a0f4a13945d898c296,
      0x4fe342e2fe1a7f9b8ee7eb4a7c0f9e162bce33576b315ececbb6406837bf51f5, by decide +kernel⟩,
    by decide +kernel⟩⟩, none⟩
  lifetime := ⟨0⟩
  requiredComponents := []
  enforceThumbprintBinding := false
  digestPolicy := .standard

def neutralJwk : String :=
  "\x7b\"kty\":\"OKP\",\"crv\":\"Ed25519\"," ++
    "\"x\":\"AQAAAAAAAAAAAAAAAAAAAAAAAAAAAAAAAAAAAAAAAAA\"\x7d"

set_option maxRecDepth 8000 in
/-- A request that declares the digest of the empty text and covers it with the neutral signature.
-/
def emptyRequest : Request where
  method := ⟨"POST", by decide⟩
  url := noteRequest.url
  fields :=
    [⟨"content-digest",
        "sha-256=:47DEQpj8HBSa+/TImW+5JCeuQeRkm5NMpJWZG3hSuFU=:".toList.map Char.toUInt8,
        by decide, by decide⟩,
      ⟨"signature-input", "sig=(\"content-digest\")".toList.map Char.toUInt8, by decide,
        by decide⟩,
      ⟨"signature",
        ("sig=:AQAAAAAAAAAAAAAAAAAAAAAAAAAAAAAAAAAAAAAAAAAAAAAAAAAAAAAAAAAAAAAAAAAAAAAAAAAAAAAA" ++
          "AAAAAA==:").toList.map Char.toUInt8, by decide, by decide⟩]
  body := none

/-- What the request is found to be, with an empty body and without one. -/
def emptyAccepted : Authenticated :=
  ⟨⟨.sha256, "AQAAAAAAAAAAAAAAAAAAAAAAAAAAAAAAAAAAAAAAAAA"⟩, .ed25519 neutralKey, .verified,
    ⟨⟨"sig", ["content-digest"], ""⟩, .fixed⟩⟩

def emptyReference : String := emptyAccepted.reference.print

set_option maxRecDepth 8000 in
/-- A request with a body of two bytes, whose digest the neutral signature covers. -/
def bracesRequest : Request :=
  { emptyRequest with
    fields :=
      ⟨"content-digest",
        "sha-256=:RBNvo1WzZ4oRRq0W9+hknpT7T8If536DEMBg9hyq/4o=:".toList.map Char.toUInt8,
        by decide, by decide⟩ :: emptyRequest.fields.drop 1
    body := some (Bytes.ofText "\x7b\x7d") }

/-- The same request in what the signature covers, with another method and one more field. -/
def movedRequest : Request :=
  { bracesRequest.addField
      ⟨"x-hop", "2".toList.map Char.toUInt8, by decide, by decide⟩ with
    method := ⟨"PUT", by decide⟩ }

theorem authenticate_movedRequest :
    lenient.authenticate movedRequest emptyReference neutralJwk =
      lenient.authenticate bracesRequest emptyReference neutralJwk := by
  have hheader (name : String) (h : "x-hop" ≠ Request.foldName name) :
      movedRequest.header name = bracesRequest.header name := Request.header_addField h
  have hbody : movedRequest.body = bracesRequest.body := rfl
  have hdigest : movedRequest.contentDigest = bracesRequest.contentDigest := by
    rw [Request.contentDigest, hheader _ (by decide), ← Request.contentDigest]
  have hheaders : ofRequest movedRequest = ofRequest bracesRequest := by
    simp only [ofRequest, Request.signatureInput, Request.signature,
      hheader "signature-input" (by decide), hheader "signature" (by decide)]
  have hselected : ofRequest bracesRequest =
      .ok (emptyAccepted.signature.params, neutralBytes) := by decide +kernel
  refine authenticate_congr hbody hdigest hheaders ?_ lenient emptyReference neutralJwk
  intro params bytes h
  cases hselected.symm.trans h
  decide +kernel

theorem body_digest_eq_sampleRequests :
    (lenient.authenticate emptyRequest emptyReference neutralJwk = .ok emptyAccepted ∧
      ∃ value, componentValue { emptyRequest with body := some [] } digestComponent = .ok value ∧
        componentValue emptyRequest digestComponent = .ok value ∧
        (∃ algorithm, ContentDigest.Names value algorithm) ∧
        ∀ algorithm, ContentDigest.Names value algorithm →
          algorithm.digest [] = algorithm.digest (emptyRequest.body.getD [])) ∧
    lenient.authenticate bracesRequest emptyReference neutralJwk = .ok emptyAccepted ∧
      lenient.authenticate movedRequest emptyReference neutralJwk = .ok emptyAccepted ∧
      ∃ value, componentValue bracesRequest digestComponent = .ok value ∧
        componentValue movedRequest digestComponent = .ok value ∧
        (∃ algorithm, ContentDigest.Names value algorithm) ∧
        ∀ algorithm, ContentDigest.Names value algorithm →
          algorithm.digest (Bytes.ofText "\x7b\x7d") =
            algorithm.digest (movedRequest.body.getD []) := by
  have hnone : lenient.authenticate emptyRequest emptyReference neutralJwk = .ok emptyAccepted := by
    decide +kernel
  have hempty : lenient.authenticate { emptyRequest with body := some [] } emptyReference
      neutralJwk = .ok emptyAccepted := by
    rw [authenticate_nil_body (by decide +kernel)]
    exact hnone
  have hbraces : lenient.authenticate bracesRequest emptyReference neutralJwk =
      .ok emptyAccepted := by decide +kernel
  have hmoved := authenticate_movedRequest.trans hbraces
  have hbase : base { emptyRequest with body := some [] } emptyAccepted.signature.params =
      base emptyRequest emptyAccepted.signature.params := base_congr fun _ _ => rfl
  have hbase' : base bracesRequest emptyAccepted.signature.params =
      base movedRequest emptyAccepted.signature.params := by decide +kernel
  exact ⟨⟨hnone, (body_digest_eq_of_base_eq hempty hnone hbase rfl).2.2.2.2⟩, hbraces, hmoved,
    (body_digest_eq_of_base_eq hbraces hmoved hbase' rfl).2.2.2.2⟩

end Possession.Authenticator

import Possession.Proofs.Token.Encoding
import Possession.Proofs.Token.Issued

/-!
# What is decided after the signature

The claims are decoded twice, and a token that the second decoding refuses is malformed. All others
are decided by the issuer and then by the expiry. A negative expiry is not taken for a time in the
second decoding, so the order is stated for expiries from 1970 on.
-/

namespace Possession.Token

/-! ## The second decoding -/

/-- Whether the registered claims that tokens do not use have an acceptable form. -/
structure AreRegistered (members : List (String × Json)) : Prop where
  once : ∀ name ∈ ["sub", "nbf", "aud"], (members.map Prod.fst).count name ≤ 1
  subject : ∀ value, ("sub", value) ∈ members → isBracketed value = false
  notBefore : ∀ value, ("nbf", value) ∈ members → isFilled value = false

theorem forall_mem_iff_of_single? {name : String} {members : List (String × Json)}
    {found : Option Json} (h : Json.single? name members = some found) (p : Json → Bool) :
    (found.map p).getD false = false ↔ ∀ value, (name, value) ∈ members → p value = false := by
  rw [getD_map_eq_false_iff]
  exact forall_congr' fun value => imp_congr_left (Json.mem_iff_of_single? h value).symm

theorem areRegisteredClaimsSound_iff {members : List (String × Json)} :
    areRegisteredClaimsSound members = true ↔ AreRegistered members := by
  have honce {name : String} {found : Option Json} (h : Json.single? name members = some found) :
      (members.map Prod.fst).count name ≤ 1 := by
    rw [← Nat.not_lt, ← Json.single?_eq_none_iff, h]
    simp
  have hfound {name : String} (h : (members.map Prod.fst).count name ≤ 1) :
      ∃ found, Json.single? name members = some found := by
    rw [← Option.ne_none_iff_exists', ne_eq, Json.single?_eq_none_iff, Nat.not_lt]
    exact h
  constructor
  · intro h
    rw [areRegisteredClaimsSound] at h
    split at h
    · next hsubject hnotBefore haudience =>
      rw [Bool.and_eq_true, Bool.not_eq_true', Bool.not_eq_true',
        forall_mem_iff_of_single? hsubject, forall_mem_iff_of_single? hnotBefore] at h
      refine ⟨?_, h.1, h.2⟩
      simp [honce hsubject, honce hnotBefore, honce haudience]
    · cases h
  · intro h
    obtain ⟨subject, hsubject⟩ := hfound (h.once "sub" (by simp))
    obtain ⟨notBefore, hnotBefore⟩ := hfound (h.once "nbf" (by simp))
    obtain ⟨audience, haudience⟩ := hfound (h.once "aud" (by simp))
    rw [areRegisteredClaimsSound, hsubject, hnotBefore, haudience]
    rw [Bool.and_eq_true, Bool.not_eq_true', Bool.not_eq_true',
      forall_mem_iff_of_single? hsubject, forall_mem_iff_of_single? hnotBefore]
    exact ⟨h.subject, h.notBefore⟩

/-! ## Signed tokens -/

/-- Whether a token states the claims of a text over the signature of a key. -/
def IsSigned (key : Curve.P256.Point) (token : String) (text : Bytes) : Prop :=
  ∃ header decoded signature,
    token = Parts.print ⟨encodePart header, encodePart text, encodePart signature.toFixed⟩ ∧
    Header.parse? header = some decoded ∧ decoded.algorithm = .es256 ∧
    Ecdsa.verify key (Bytes.ofText (String.ofList (signedChars header text))) signature = true

section

variable {issuer token : String} {key : Curve.P256.Point} {text : Bytes} {now : Instant}
  {claims : Claims} {members : List (String × Json)}

/-- The key has nothing to say about a token that it has signed: only the claims are left. -/
theorem attempt_of_isSigned (h : IsSigned key token text) :
    attempt issuer (.p256 key) now token =
      (readClaims (encodePart text)).mapError Fault.refusal >>= checkClaims issuer now := by
  obtain ⟨header, decoded, signature, rfl, hheader, halgorithm, hverify⟩ := h
  have hopened := opened_print hheader halgorithm text signature
  have hsigned : (Opened.mk ⟨encodePart header, encodePart text, encodePart signature.toFixed⟩
      signature).isSignedBy key = true := hverify
  rw [attempt_p256, hopened]
  simp only [hsigned, if_true]
  rfl

/-- Claims that were decoded once are decoded twice if the registered claims allow it. -/
theorem readClaims_of_ofMembers? (hmembers : Json.parseMembers? .byName text = some members)
    (hclaims : Claims.ofMembers? members = some claims) :
    readClaims (encodePart text) =
      if areRegisteredClaimsSound members = true then
        if claims.expiresAt < 0 then .error .expiry else .ok claims
      else .error .json := by
  rw [readClaims_eq, decodePart_encodePart, Outcome.bind_ok, soundClaims?, hmembers]
  simp only [Option.bind_eq_bind, Option.bind_some, hclaims]
  cases areRegisteredClaimsSound members <;> rfl

theorem readClaims_print (h : claims.IsKept) :
    readClaims (encodePart (Bytes.ofText claims.print)) =
      if areRegisteredClaimsSound (claims.standardMembers ++ claims.payload) = true then
        if claims.expiresAt < 0 then .error .expiry else .ok claims
      else .error .json :=
  readClaims_of_ofMembers? h.parseMembers?_print
    (Claims.ofMembers?_of_fits h.payload h.issuedAt h.expiresAt)

/-! ## The decision -/

/-- Whether an outcome is the one that the issuer and then the expiry call for. -/
structure IsDecided (issuer : String) (now : Instant) (claims : Claims)
    (outcome : Outcome Validated) : Prop where
  mismatch : claims.issuer = "" ∨ claims.issuer ≠ issuer →
    failure? outcome = some .issuerMismatch
  expired : claims.issuer ≠ "" → claims.issuer = issuer → claims.expiresAt < now.seconds →
    failure? outcome = some .expiredToken
  accepted : claims.issuer ≠ "" → claims.issuer = issuer → now.seconds ≤ claims.expiresAt →
    outcome = .ok ⟨claims, .primary, 1⟩

/-- An attempt that ends with the checks of the claims decides, whatever other key there is. -/
theorem isDecided_of_attempt (secondary : Option PublicKey)
    (h : attempt issuer (.p256 key) now token = checkClaims issuer now claims) :
    IsDecided issuer now claims (validate issuer (.p256 key) secondary now token) := by
  have hrefused {refusal : Refusal} (hcheck : checkClaims issuer now claims = .error refusal) :
      failure? (validate issuer (.p256 key) secondary now token) = some refusal.failure := by
    rw [validate_of_final (h.trans hcheck) (.inr (checkClaims_ne_invalidSignature hcheck))]
    rfl
  refine ⟨fun hmismatch => ?_, fun hne heq hexpired => ?_, fun hne heq hle => ?_⟩
  · exact hrefused (by rw [checkClaims, if_pos hmismatch])
  · have hissuer : ¬ (claims.issuer = "" ∨ claims.issuer ≠ issuer) :=
      not_or.mpr ⟨hne, not_not_intro heq⟩
    exact hrefused (by rw [checkClaims, if_neg hissuer, if_pos hexpired])
  · exact validate_of_attempt_eq_ok secondary
      (h.trans (checkClaims_eq_ok_iff.mpr ⟨rfl, hne, heq, hle⟩))

/-- A fault of the claims is final. -/
theorem failure?_of_readClaims (secondary : Option PublicKey) {fault : Fault}
    (hsigned : IsSigned key token text) (hread : readClaims (encodePart text) = .error fault) :
    failure? (validate issuer (.p256 key) secondary now token) = some fault.failure := by
  have hattempt : attempt issuer (.p256 key) now token = .error fault.refusal := by
    rw [attempt_of_isSigned hsigned, hread]
    rfl
  have hfinal : fault.refusal.failure ≠ .invalidSignature := fun heq =>
    readClaims_ne_signature hread (Fault.failure_eq_invalidSignature_iff.mp heq)
  rw [validate_of_final hattempt (.inr hfinal)]
  rfl

/-- What a signed token states decides about it, in the order of the questions: a token whose
registered claims are refused is malformed; of the others, one of another issuer or of none is
mismatched, one of this issuer that has expired is expired, and the rest is accepted with the claims
that it states. This is so for every expiry from 1970 on; one that lies before is never accepted
once it has passed. -/
theorem isDecided_validate (hsigned : IsSigned key token text)
    (hparse : Claims.parse? text = some claims) (secondary : Option PublicKey) :
    ∃ members, Json.parseMembers? .byName text = some members ∧
      (0 ≤ claims.expiresAt → AreRegistered members →
        IsDecided issuer now claims (validate issuer (.p256 key) secondary now token)) ∧
      (0 ≤ claims.expiresAt → ¬ AreRegistered members →
        failure? (validate issuer (.p256 key) secondary now token) =
          some (.malformedToken "JSON error")) ∧
      (claims.expiresAt < 0 → claims.expiresAt < now.seconds →
        ∀ accepted, validate issuer (.p256 key) secondary now token ≠ .ok accepted) := by
  obtain ⟨members, hmembers, hclaims⟩ := Option.bind_eq_some_iff.mp hparse
  have hread := readClaims_of_ofMembers? hmembers hclaims
  refine ⟨members, hmembers, fun hexpiry hregistered => ?_, fun _ hregistered => ?_,
    fun hnegative _ accepted haccepted => ?_⟩
  · rw [if_pos (areRegisteredClaimsSound_iff.mpr hregistered), if_neg (Int.not_lt.mpr hexpiry)]
      at hread
    refine isDecided_of_attempt secondary ?_
    rw [attempt_of_isSigned hsigned, hread]
    rfl
  · rw [if_neg fun hsound => hregistered (areRegisteredClaimsSound_iff.mp hsound)] at hread
    exact failure?_of_readClaims secondary hsigned hread
  · have hfault : ∃ fault, readClaims (encodePart text) = .error fault := by
      rw [hread, if_pos hnegative]
      split <;> exact ⟨_, rfl⟩
    obtain ⟨fault, hfault⟩ := hfault
    have hfailure :=
      @failure?_of_readClaims issuer token key text now secondary fault hsigned hfault
    rw [haccepted] at hfailure
    cases hfailure

end

/-- What a key pair signed is signed by the key under which the signature verifies. -/
theorem isSigned_signedParts {pair : KeyPair} {claims : Claims} {signature : Ecdsa.Signature}
    {key : Curve.P256.Point}
    (h : Ecdsa.verify key (unsigned (headerFor pair) claims).message signature = true) :
    IsSigned key (signedParts pair claims signature).print (Bytes.ofText claims.print) :=
  ⟨_, _, signature, rfl, Header.parse?_print (headerFor pair), rfl, h⟩

/-- Claims that expired in the last second before 1970. -/
def lapsedClaims : Claims := ⟨"https://a", -61, -1, "id-1", []⟩

def lapsedSignature : Ecdsa.Signature :=
  ⟨sampleSignature.r,
    ⟨0x1631869a8983797c601c1c9fb0e596848c51ca4b3ac4815a911fa1ad4ab405ce, by decide, by decide⟩⟩

theorem isSigned_lapsedClaims :
    IsSigned generatorPoint (signedParts generatorPair lapsedClaims lapsedSignature).print
      (Bytes.ofText lapsedClaims.print) := by
  refine isSigned_signedParts ?_
  rw [message_unsigned]
  decide +kernel

theorem isKept_lapsedClaims : lapsedClaims.IsKept :=
  ⟨⟨⟨List.Pairwise.nil, trivial⟩, trivial, by simp [lapsedClaims]⟩, by decide, by decide, by decide⟩

/-- Claims whose subject is an object. -/
def bracketedClaims : Claims := ⟨"https://a", 0, 60, "id-1", [("sub", .object [])]⟩

def bracketedSignature : Ecdsa.Signature :=
  ⟨sampleSignature.r,
    ⟨0x45de90065e5feaa053e500bc63db427e4dc2fb9d632e81aad26c6ddb980eebbd, by decide, by decide⟩⟩

theorem isSigned_bracketedClaims :
    IsSigned generatorPoint (signedParts generatorPair bracketedClaims bracketedSignature).print
      (Bytes.ofText bracketedClaims.print) := by
  refine isSigned_signedParts ?_
  rw [message_unsigned]
  decide +kernel

theorem isKept_bracketedClaims : bracketedClaims.IsKept :=
  ⟨⟨⟨List.pairwise_singleton _ _, ⟨List.Pairwise.nil, trivial⟩, trivial⟩, ⟨trivial, trivial⟩,
    by simp [bracketedClaims, reservedNames]⟩, by decide, by decide, by decide⟩

/-- Issuer and expiry do not decide alone: a token that expired before 1970 is not called expired,
and one whose subject is an object is refused though it is the issuer's own and has not expired. -/
theorem not_isDecided_lapsed_bracketed :
    (IsSigned generatorPoint (signedParts generatorPair lapsedClaims lapsedSignature).print
        (Bytes.ofText lapsedClaims.print) ∧
      Claims.parse? (Bytes.ofText lapsedClaims.print) = some lapsedClaims ∧
      ¬ IsDecided "https://a" ⟨0⟩ lapsedClaims (validate "https://a" (.p256 generatorPoint) none ⟨0⟩
        (signedParts generatorPair lapsedClaims lapsedSignature).print)) ∧
    IsSigned generatorPoint (signedParts generatorPair bracketedClaims bracketedSignature).print
        (Bytes.ofText bracketedClaims.print) ∧
      Claims.parse? (Bytes.ofText bracketedClaims.print) = some bracketedClaims ∧
      ¬ IsDecided "https://a" ⟨0⟩ bracketedClaims (validate "https://a" (.p256 generatorPoint) none
        ⟨0⟩ (signedParts generatorPair bracketedClaims bracketedSignature).print) := by
  refine ⟨⟨isSigned_lapsedClaims, isKept_lapsedClaims.parse?_print, fun hdecided => ?_⟩,
    isSigned_bracketedClaims, isKept_bracketedClaims.parse?_print, fun hdecided => ?_⟩
  · have hfailure := hdecided.expired (by decide) rfl (by decide)
    rw [failure?_of_readClaims none isSigned_lapsedClaims (readClaims_print isKept_lapsedClaims)]
      at hfailure
    cases hfailure
  · have haccepted := hdecided.accepted (by decide) rfl (by decide)
    have hfailure := congrArg failure? haccepted
    rw [failure?_of_readClaims none isSigned_bracketedClaims
      (readClaims_print isKept_bracketedClaims)] at hfailure
    cases hfailure

theorem isSigned_sampleParts :
    IsSigned generatorPoint sampleParts.print (Bytes.ofText sampleClaims.print) :=
  ⟨_, _, sampleSignature, rfl, Header.parse?_print _, rfl, isSignedBy_sampleParts.1⟩

theorem isKept_sampleClaims : sampleClaims.IsKept :=
  ⟨isPayload_without isNormal_samplePayload holdsNoDouble_samplePayload, by decide, by decide,
    by decide⟩

/-- One token, asked about at two times and for two issuers. -/
theorem isDecided_sampleParts :
    IsSigned generatorPoint sampleParts.print (Bytes.ofText sampleClaims.print) ∧
      Claims.parse? (Bytes.ofText sampleClaims.print) = some sampleClaims ∧
      validate "https://a" (.p256 generatorPoint) none sampleMoment sampleParts.print =
        .ok ⟨sampleClaims, .primary, 1⟩ ∧
      failure? (validate "https://a" (.p256 generatorPoint) none ⟨59000000000⟩ sampleParts.print) =
        some .expiredToken ∧
      failure? (validate "https://b" (.p256 generatorPoint) none ⟨59000000000⟩ sampleParts.print) =
        some .issuerMismatch := by
  have hsigned := isSigned_sampleParts
  have hparse := isKept_sampleClaims.parse?_print
  have hdecided (issuer : String) (now : Instant) : IsDecided issuer now sampleClaims
      (validate issuer (.p256 generatorPoint) none now sampleParts.print) := by
    obtain ⟨members, hmembers, hregistered, _⟩ :=
      @isDecided_validate issuer _ _ _ now _ hsigned hparse none
    obtain rfl := Option.some.inj (hmembers.symm.trans isKept_sampleClaims.parseMembers?_print)
    exact hregistered (by decide) (areRegisteredClaimsSound_iff.mp (by decide))
  exact ⟨hsigned, hparse, (hdecided "https://a" sampleMoment).accepted (by decide) rfl (by decide),
    (hdecided "https://a" ⟨59000000000⟩).expired (by decide) rfl (by decide),
    (hdecided "https://b" ⟨59000000000⟩).mismatch (.inr (by decide))⟩

end Possession.Token

import Possession.Proofs.Token.Issued

/-!
# Issued tokens are accepted

A token is accepted under the public key of the pair that signed it until it expires, provided that
its payload is readable. Issuing does not ask whether it is.
-/

namespace Possession.Token

/-- Whether what a key pair makes of a message with a nonce verifies under its own public key. -/
def VerifiesOwn (pair : KeyPair) (nonce : Ecdsa.Scalar) (message : Bytes) : Prop :=
  ∀ signature, pair.signingKey.sign nonce message = some signature →
    Ecdsa.verify pair.signingKey.point message signature = true

section

variable {issuer id token : String} {pair : KeyPair} {payload : Members} {lifetime : Duration}
  {now later : Instant} {nonce : Ecdsa.Scalar}

/-- The parts of an issued token are signed by the pair. -/
theorem isSignedBy_signedParts {claims : Claims} {signature : Ecdsa.Signature}
    (hverifies : VerifiesOwn pair nonce (unsigned (headerFor pair) claims).message)
    (hsign : pair.signingKey.sign nonce (unsigned (headerFor pair) claims).message =
      some signature) :
    (Opened.mk (signedParts pair claims signature) signature).isSignedBy pair.signingKey.point =
      true := by
  rw [Opened.isSignedBy, message_signedParts]
  exact hverifies signature hsign

/-- An expiry that is a time leaves 64 bits to the time of issue, since the lifetime has them. -/
theorem fitsInt64_seconds (hlifetime : Json.fitsInt64 lifetime.seconds = true)
    (hexpiresAt : Json.fitsInt64 (now.seconds + lifetime.seconds) = true)
    (hexpiry : 0 ≤ now.seconds + lifetime.seconds) : Json.fitsInt64 now.seconds = true := by
  have hbounds : Json.leastInt64 = -Json.greatestInt64 - 1 := rfl
  rw [Claims.fitsInt64_iff] at hlifetime hexpiresAt ⊢
  omega

/-- The claims of a token are read from their part if the payload is readable and the expiry is a
time. -/
theorem readClaims_issued_iff {claims read : Claims} (hnormal : (Json.object payload).IsNormal)
    (hdouble : (Json.object payload).HoldsNoDouble)
    (hclaims : claimsAt? issuer id payload lifetime now = some claims) :
    readClaims (encodePart (Bytes.ofText claims.print)) = .ok read ↔
      IsReadable payload ∧ 0 ≤ claims.expiresAt ∧ read = claims := by
  have hpayload := isPayload_without hnormal hdouble
  obtain ⟨hlifetime, hexpiresAt, heq⟩ := claimsAt?_eq_some_iff.mp hclaims
  have hwithout : claims.payload = payload.without reservedNames := by rw [heq]
  rw [← hwithout] at hpayload
  have hfits : 0 ≤ claims.expiresAt → Json.fitsInt64 claims.issuedAt = true := by
    rw [heq]
    exact fitsInt64_seconds hlifetime hexpiresAt
  have hexpiresAt' : Json.fitsInt64 claims.expiresAt = true := by rwa [heq]
  rw [readClaims_eq_ok_iff]
  constructor
  · rintro ⟨bytes, hbytes, hsound, hexpiry⟩
    obtain rfl := encodePart_inj.mp hbytes
    obtain rfl := Claims.eq_of_parse?_print hpayload (parse?_of_soundClaims? hsound)
    obtain ⟨hreadable, _⟩ := (soundClaims?_print_eq_some_iff hwithout hpayload (hfits hexpiry)
      hexpiresAt').mp hsound
    exact ⟨hreadable, hexpiry, rfl⟩
  · rintro ⟨hreadable, hexpiry, rfl⟩
    have hsound := (soundClaims?_print_eq_some_iff hwithout hpayload (hfits hexpiry)
      hexpiresAt').mpr ⟨hreadable, rfl⟩
    exact ⟨_, rfl, hsound, hexpiry⟩

/-- An issued token with a readable payload is accepted in the first attempt until it expires. -/
theorem validate_issueAt (hissuer : issuer ≠ "")
    (hnormal : (Json.object payload).IsNormal) (hdouble : (Json.object payload).HoldsNoDouble)
    (hreadable : IsReadable payload)
    (hissue : issueAt issuer pair payload lifetime now id nonce = .ok token)
    (hverifies : ∀ claims, claimsAt? issuer id payload lifetime now = some claims →
      VerifiesOwn pair nonce (unsigned (headerFor pair) claims).message)
    (hlater : 0 ≤ later.seconds) (hexpiry : later.seconds ≤ now.seconds + lifetime.seconds)
    (secondary : Option PublicKey) :
    ∃ claims, claimsAt? issuer id payload lifetime now = some claims ∧
      validate issuer pair.publicKey secondary later token = .ok ⟨claims, .primary, 1⟩ := by
  obtain ⟨claims, signature, hclaims, hsign, rfl⟩ := issueAt_eq_ok_iff.mp hissue
  refine ⟨claims, hclaims, validateWith_of_attempt_eq_ok secondary ?_⟩
  have hsigned := isSignedBy_signedParts (hverifies claims hclaims) hsign
  obtain ⟨_, _, heq⟩ := claimsAt?_eq_some_iff.mp hclaims
  have hexpiresAt : claims.expiresAt = now.seconds + lifetime.seconds := by rw [heq]
  have hissuer' : claims.issuer = issuer := by rw [heq]
  rw [← hexpiresAt] at hexpiry
  have hread := (readClaims_issued_iff hnormal hdouble hclaims).mpr
    ⟨hreadable, Int.le_trans hlater hexpiry, rfl⟩
  have hjudge := @Opened.judge_eq_ok_iff ⟨signedParts pair claims signature, signature⟩ issuer later
    claims
  exact attempt_p256_eq_ok_iff.mpr ⟨_, opened_print_signedParts pair claims signature, hsigned,
    hjudge.mpr ⟨hread, hissuer' ▸ hissuer, hissuer', hexpiry⟩⟩

/-- A token with a payload that is not readable is accepted by nobody. -/
theorem attempt_issueAt_ne_ok (hnormal : (Json.object payload).IsNormal)
    (hdouble : (Json.object payload).HoldsNoDouble) (hunreadable : ¬ IsReadable payload)
    (hissue : issueAt issuer pair payload lifetime now id nonce = .ok token)
    (expected : String) (key : PublicKey) (read : Claims) :
    attempt expected key later token ≠ .ok read := by
  intro hattempt
  obtain ⟨claims, hclaims, hread⟩ := exists_readClaims_of_attempt hissue hattempt
  exact hunreadable ((readClaims_issued_iff hnormal hdouble hclaims).mp hread).1

end

theorem verifiesOwn_sampleClaims :
    VerifiesOwn generatorPair sampleNonce
      (unsigned (headerFor generatorPair) sampleClaims).message := by
  intro signature hsign
  rw [sign_sampleClaims] at hsign
  obtain rfl := Option.some.inj hsign
  have hsigned := isSignedBy_sampleParts.1
  exact hsigned

theorem validate_issueAt_samplePayload :
    issueAt "https://a" generatorPair samplePayload ⟨60000000000⟩ ⟨-1500000000⟩ "id-1" sampleNonce =
        .ok sampleParts.print ∧
      validate "https://a" generatorPair.publicKey (some (.p256 oppositePoint)) sampleMoment
        sampleParts.print = .ok ⟨sampleClaims, .primary, 1⟩ := by
  obtain ⟨claims, hclaims, hvalidate⟩ := validate_issueAt (by decide) isNormal_samplePayload
    holdsNoDouble_samplePayload isReadable_samplePayload issueAt_samplePayload
    (fun claims hclaims => by
      rw [claimsAt?_samplePayload] at hclaims
      exact Option.some.inj hclaims ▸ verifiesOwn_sampleClaims)
    (by decide : 0 ≤ sampleMoment.seconds) (by decide) (some (.p256 oppositePoint))
  rw [claimsAt?_samplePayload] at hclaims
  exact ⟨issueAt_samplePayload, Option.some.inj hclaims ▸ hvalidate⟩

/-! ## Payloads that are not readable -/

/-- A value inside of lists of one item. -/
def nested : (levels : Nat) → Json
  | 0 => .null
  | levels + 1 => .array [nested levels]

theorem isNormal_nested (levels : Nat) : (nested levels).IsNormal := by
  induction levels with
  | zero => trivial
  | succ levels ih => exact ⟨ih, trivial⟩

theorem holdsNoDouble_nested (levels : Nat) : (nested levels).HoldsNoDouble := by
  induction levels with
  | zero => trivial
  | succ levels ih => exact ⟨ih, trivial⟩

theorem height_nested (levels : Nat) : (nested levels).height = levels := by
  induction levels with
  | zero => rfl
  | succ levels ih => simp [nested, Json.height, Json.itemsHeight, ih]

/-- Whether a payload is issued in a token that is not accepted at the time of issue, by the public
key of a pair that verifies what it signs. -/
def IsIssuedInVain (payload : Members) : Prop :=
  (Json.object payload).IsNormal ∧ (Json.object payload).HoldsNoDouble ∧
    claimsAt? "https://a" "id-1" payload ⟨60000000000⟩ ⟨0⟩ =
      some ⟨"https://a", 0, 60, "id-1", payload⟩ ∧
    VerifiesOwn generatorPair sampleNonce
      (unsigned (headerFor generatorPair) ⟨"https://a", 0, 60, "id-1", payload⟩).message ∧
    ∃ token,
      issueAt "https://a" generatorPair payload ⟨60000000000⟩ ⟨0⟩ "id-1" sampleNonce = .ok token ∧
      ∀ accepted, validate "https://a" generatorPair.publicKey none ⟨0⟩ token ≠ .ok accepted

/-- A member that is not readable is issued in vain if there is a signature to check. -/
theorem isIssuedInVain_singleton {name : String} {value : Json} (hname : name ∉ reservedNames)
    (hvalue : value.IsNormal) (hvalueDouble : value.HoldsNoDouble)
    (hunreadable : ¬ IsReadable [(name, value)])
    (hsigns : (generatorPair.signingKey.sign sampleNonce (unsigned (headerFor generatorPair)
      ⟨"https://a", 0, 60, "id-1", [(name, value)]⟩).message).any
        (Ecdsa.verify generatorPoint (unsigned (headerFor generatorPair)
          ⟨"https://a", 0, 60, "id-1", [(name, value)]⟩).message) = true) :
    IsIssuedInVain [(name, value)] := by
  obtain ⟨signature, hsign, hverify⟩ := (Option.any_eq_true _ _).mp hsigns
  have hnormal : (Json.object [(name, value)]).IsNormal :=
    ⟨List.pairwise_singleton _ _, hvalue, trivial⟩
  have hdouble : (Json.object [(name, value)]).HoldsNoDouble := ⟨hvalueDouble, trivial⟩
  have hwithout : Members.without reservedNames [(name, value)] = [(name, value)] :=
    Members.without_eq_self (by simpa using hname)
  have hclaims : claimsAt? "https://a" "id-1" [(name, value)] ⟨60000000000⟩ ⟨0⟩ =
      some ⟨"https://a", 0, 60, "id-1", [(name, value)]⟩ :=
    claimsAt?_eq_some_iff.mpr ⟨by decide, by decide, by rw [hwithout]; rfl⟩
  have hissue := issueAt_eq_ok_iff.mpr ⟨_, signature, hclaims, hsign, rfl⟩
  refine ⟨hnormal, hdouble, hclaims, ?_, _, hissue, ?_⟩
  · intro other hother
    obtain rfl := Option.some.inj (hsign.symm.trans hother)
    exact hverify
  · intro accepted hvalidate
    obtain ⟨key, _, hattempt⟩ := exists_attempt_of_validateWith hvalidate
    exact attempt_issueAt_ne_ok hnormal hdouble hunreadable hissue _ key _ hattempt

/-- A value that is too deep is issued in vain, and so are values of `sub` and `nbf` that the second
decoding refuses. -/
theorem isIssuedInVain_deep_sub_nbf :
    IsIssuedInVain [("deep", nested 127)] ∧ IsIssuedInVain [("sub", .object [])] ∧
      IsIssuedInVain [("nbf", .array [.null])] := by
  refine ⟨isIssuedInVain_singleton (by decide) (isNormal_nested 127) (holdsNoDouble_nested 127)
      (fun hreadable => ?_) ?_,
    isIssuedInVain_singleton (by decide) ⟨List.Pairwise.nil, trivial⟩ trivial
      (fun hreadable => absurd (hreadable.subject _ rfl) (by decide)) ?_,
    isIssuedInVain_singleton (by decide) ⟨trivial, trivial⟩ ⟨trivial, trivial⟩
      (fun hreadable => absurd (hreadable.notBefore _ rfl) (by decide)) ?_⟩
  · have hheight := hreadable.height_le _ (List.mem_singleton_self _) (by decide)
    rw [height_nested] at hheight
    exact absurd hheight (by decide)
  all_goals
    rw [message_unsigned]
    decide +kernel

end Possession.Token

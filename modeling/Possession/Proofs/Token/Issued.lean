import Possession.Proofs.Token.Soundness
import Possession.Token.Issue

/-!
# What issued tokens say

Whoever accepts a token, and under whichever keys, it says what it was issued for. Reserved names in
a payload neither reach the claims nor stand beside them.
-/

namespace Possession.Token

/-! ## The text of an issued token -/

/-- The parts of a token that a key pair signed. -/
def signedParts (pair : KeyPair) (claims : Claims) (signature : Ecdsa.Signature) : Parts :=
  ⟨encodePart (Bytes.ofText (headerFor pair).print), encodePart (Bytes.ofText claims.print),
    encodePart signature.toFixed⟩

/-- The signature covers what is there before it. -/
theorem message_signedParts (pair : KeyPair) (claims : Claims) (signature : Ecdsa.Signature) :
    (signedParts pair claims signature).message = (unsigned (headerFor pair) claims).message := by
  simp only [Parts.message, Parts.signedText, signedParts, unsigned]

/-- The message, character by character. -/
theorem message_unsigned (header : Header) (claims : Claims) :
    (unsigned header claims).message =
      Bytes.ofChars (encodePart (Bytes.ofChars header.toJson.chars) ++
        '.' :: encodePart
          (Bytes.ofChars (Json.object (claims.standardMembers ++ claims.payload)).chars)) := by
  simp only [Parts.message, Parts.signedText, unsigned, Claims.print, Header.print, Json.print,
    Bytes.ofText_ofList]

/-- What a key pair signed opens. -/
theorem opened_print_signedParts (pair : KeyPair) (claims : Claims)
    (signature : Ecdsa.Signature) :
    opened (signedParts pair claims signature).print =
      .ok ⟨signedParts pair claims signature, signature⟩ :=
  opened_print (Header.parse?_print (headerFor pair)) rfl _ signature

/-! ## Issuing -/

section

variable {issuer id token : String} {pair : KeyPair} {payload : Members} {lifetime : Duration}
  {now : Instant} {nonce : Ecdsa.Scalar}

/-- Claims are made of what a token is issued for, if the lifetime can be stated. -/
theorem claimsAt?_eq_some_iff {claims : Claims} :
    claimsAt? issuer id payload lifetime now = some claims ↔
      Json.fitsInt64 lifetime.seconds = true ∧
        Json.fitsInt64 (now.seconds + lifetime.seconds) = true ∧
        claims = ⟨issuer, now.seconds, now.seconds + lifetime.seconds, id,
          payload.without reservedNames⟩ := by
  simp only [claimsAt?, expiry?, Option.map_eq_some_iff]
  by_cases hfits : (Json.fitsInt64 lifetime.seconds &&
      Json.fitsInt64 (now.seconds + lifetime.seconds)) = true
  · obtain ⟨hlifetime, hexpiry⟩ := Bool.and_eq_true_iff.mp hfits
    simp [hlifetime, hexpiry, eq_comm]
  · simp only [hfits, if_false, Bool.false_eq_true, reduceCtorEq, false_and, exists_false,
      false_iff]
    rintro ⟨hlifetime, hexpiry, _⟩
    exact hfits (Bool.and_eq_true_iff.mpr ⟨hlifetime, hexpiry⟩)

/-- A token is issued if the claims can be stated and signed. -/
theorem issueAt_eq_ok_iff :
    issueAt issuer pair payload lifetime now id nonce = .ok token ↔
      ∃ claims signature, claimsAt? issuer id payload lifetime now = some claims ∧
        pair.signingKey.sign nonce (unsigned (headerFor pair) claims).message = some signature ∧
        token = (signedParts pair claims signature).print := by
  rw [issueAt]
  cases claimsAt? issuer id payload lifetime now with
  | none => simp
  | some claims =>
    have hsign : sign pair nonce claims =
        (pair.signingKey.sign nonce (unsigned (headerFor pair) claims).message).map
          fun signature => (signedParts pair claims signature).print := by
      simp only [sign, signedParts, unsigned]
    dsimp only
    rw [hsign]
    cases hsignature :
        pair.signingKey.sign nonce (unsigned (headerFor pair) claims).message with
    | none => simp [Outcome.refuse, hsignature]
    | some signature => simp [hsignature, eq_comm]

/-! ## Fidelity -/

/-- Whoever accepts an issued token has read the part with its claims. -/
theorem exists_readClaims_of_attempt
    (hissue : issueAt issuer pair payload lifetime now id nonce = .ok token)
    {expected : String} {key : PublicKey} {later : Instant} {read : Claims}
    (hattempt : attempt expected key later token = .ok read) :
    ∃ claims, claimsAt? issuer id payload lifetime now = some claims ∧
      readClaims (encodePart (Bytes.ofText claims.print)) = .ok read := by
  obtain ⟨claims, signature, hclaims, _, rfl⟩ := issueAt_eq_ok_iff.mp hissue
  obtain ⟨point, content, rfl, hopened, _, hjudge⟩ := exists_of_attempt_eq_ok hattempt
  rw [opened_print_signedParts] at hopened
  obtain rfl := Except.ok.inj hopened
  exact ⟨claims, hclaims, (Opened.judge_eq_ok_iff.mp hjudge).1⟩

/-- What they have read is what the text of the claims says. -/
theorem exists_parse?_of_attempt
    (hissue : issueAt issuer pair payload lifetime now id nonce = .ok token)
    {expected : String} {key : PublicKey} {later : Instant} {read : Claims}
    (hattempt : attempt expected key later token = .ok read) :
    ∃ claims, claimsAt? issuer id payload lifetime now = some claims ∧
      Claims.parse? (Bytes.ofText claims.print) = some read := by
  obtain ⟨claims, hclaims, hread⟩ := exists_readClaims_of_attempt hissue hattempt
  obtain ⟨bytes, hbytes, hsound, _⟩ := readClaims_eq_ok_iff.mp hread
  obtain rfl := encodePart_inj.mp hbytes
  exact ⟨claims, hclaims, parse?_of_soundClaims? hsound⟩

/-- The claims that are read from an issued token are those it was issued with. -/
theorem eq_of_attempt_issueAt (hpayload : IsPayload (payload.without reservedNames))
    (hissue : issueAt issuer pair payload lifetime now id nonce = .ok token)
    {expected : String} {key : PublicKey} {later : Instant} {read : Claims}
    (hattempt : attempt expected key later token = .ok read) :
    read = ⟨issuer, now.seconds, now.seconds + lifetime.seconds, id,
      payload.without reservedNames⟩ := by
  obtain ⟨claims, hclaims, hread⟩ := exists_parse?_of_attempt hissue hattempt
  obtain ⟨_, _, rfl⟩ := claimsAt?_eq_some_iff.mp hclaims
  exact Claims.eq_of_parse?_print hpayload hread

end

/-- What the claims of a token say that was issued at a moment with a payload and a lifetime. -/
structure Claims.Restate (issuer : String) (payload : Members) (lifetime : Duration)
    (now : Instant) (claims : Claims) : Prop where
  issuer_eq : claims.issuer = issuer
  /-- The moment lies in the second that the claims name. -/
  issuedAt_le : claims.issuedAt * 1000000000 ≤ now.nanoseconds
  lt_issuedAt_succ : now.nanoseconds < (claims.issuedAt + 1) * 1000000000
  expiresAt_sub_issuedAt : claims.expiresAt - claims.issuedAt = lifetime.seconds
  payload_eq : claims.payload = payload.without ["iss", "iat", "exp", "jti"]
  merged_sorted : claims.merged.Sorted
  find?_merged_eq : ∀ name, claims.merged.find? name =
    if name = "iss" then some (.string claims.issuer)
    else if name = "iat" then some (.ofInt claims.issuedAt)
    else if name = "exp" then some (.ofInt claims.expiresAt)
    else if name = "jti" then some (.string claims.id)
    else (payload.without ["iss", "iat", "exp", "jti"]).find? name

theorem Claims.restate {payload : Members} (h : payload.Sorted) (issuer id : String)
    (lifetime : Duration) (now : Instant) :
    Claims.Restate issuer payload lifetime now
      ⟨issuer, now.seconds, now.seconds + lifetime.seconds, id, payload.without reservedNames⟩ := by
  have hfloor : now.seconds = now.nanoseconds / 1000000000 := rfl
  exact {
    issuer_eq := rfl
    issuedAt_le := by dsimp only; omega
    lt_issuedAt_succ := by dsimp only; omega
    expiresAt_sub_issuedAt := by dsimp only; omega
    payload_eq := rfl
    merged_sorted := Claims.sorted_merged (h.without _)
    find?_merged_eq := Claims.find?_merged _ }

/-- Claims that are accepted from an issued token, at any moment and even if the clock advances from
one attempt to the next, restate what it was issued for; payloads that differ in reserved names only
lead to the same claims but for the identifier. -/
theorem restate_of_validate_issueAt {issuer id token expected : String} {pair : KeyPair}
    {payload : Members} {lifetime : Duration} {now : Instant} {nonce : Ecdsa.Scalar}
    {clock : KeySlot → Instant} {primary : PublicKey} {secondary : Option PublicKey}
    {accepted : Validated}
    (hnormal : (Json.object payload).IsNormal) (hdouble : (Json.object payload).HoldsNoDouble)
    (hissue : issueAt issuer pair payload lifetime now id nonce = .ok token)
    (hvalidate : validateWith clock expected primary secondary token = .ok accepted) :
    accepted.claims.Restate issuer payload lifetime now ∧
      ∀ other : Members, other.without reservedNames = payload.without reservedNames →
        ∀ pair' id' nonce' token' clock' expected' primary' secondary' accepted',
          issueAt issuer pair' other lifetime now id' nonce' = .ok token' →
          validateWith clock' expected' primary' secondary' token' = .ok accepted' →
          accepted'.claims = { accepted.claims with id := accepted'.claims.id } := by
  have hpayload := isPayload_without hnormal hdouble
  obtain ⟨_, _, hattempt⟩ := exists_attempt_of_validateWith hvalidate
  have hclaims := eq_of_attempt_issueAt hpayload hissue hattempt
  constructor
  · rw [hclaims]
    exact Claims.restate hnormal.1 issuer id lifetime now
  · intro other hother pair' id' nonce' token' clock' expected' primary' secondary' accepted'
      hissue' hvalidate'
    obtain ⟨_, _, hattempt'⟩ := exists_attempt_of_validateWith hvalidate'
    rw [← hother] at hpayload
    have hclaims' := eq_of_attempt_issueAt hpayload hissue' hattempt'
    rw [hclaims, hclaims', hother]

/-- The key pair of the private scalar one. -/
def generatorPair : KeyPair :=
  ⟨"k1", ⟨.one, generatorPoint, by decide +kernel⟩⟩

/-- A nonce that nobody should use. -/
def sampleNonce : Ecdsa.Scalar := .one

theorem sign_sampleClaims :
    generatorPair.signingKey.sign sampleNonce
      (unsigned (headerFor generatorPair) sampleClaims).message = some sampleSignature := by
  rw [message_unsigned]
  decide +kernel

/-- Issued a second and a half before 1970. -/
theorem claimsAt?_samplePayload :
    claimsAt? "https://a" "id-1" samplePayload ⟨60000000000⟩ ⟨-1500000000⟩ = some sampleClaims :=
  claimsAt?_eq_some_iff.mpr ⟨by decide, by decide, rfl⟩

theorem issueAt_samplePayload :
    issueAt "https://a" generatorPair samplePayload ⟨60000000000⟩ ⟨-1500000000⟩ "id-1" sampleNonce =
      .ok sampleParts.print :=
  issueAt_eq_ok_iff.mpr
    ⟨sampleClaims, sampleSignature, claimsAt?_samplePayload, sign_sampleClaims, rfl⟩

theorem restate_sampleClaims :
    validate "https://a" (.p256 oppositePoint) (some (.p256 generatorPoint)) sampleMoment
        sampleParts.print = .ok ⟨sampleClaims, .secondary, 2⟩ ∧
      sampleClaims.Restate "https://a" samplePayload ⟨60000000000⟩ ⟨-1500000000⟩ := by
  obtain ⟨hrestate, _⟩ := restate_of_validate_issueAt isNormal_samplePayload
    holdsNoDouble_samplePayload issueAt_samplePayload validate_sampleParts
  exact ⟨validate_sampleParts, hrestate⟩

end Possession.Token

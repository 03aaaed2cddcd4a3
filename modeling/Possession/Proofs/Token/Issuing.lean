import Possession.Proofs.Text.Words
import Possession.Proofs.Token.Encoding
import Possession.Proofs.Token.Issued

/-!
# What issuing leads to

A lifetime is refused exactly if it or the expiry it leads to is no integer of 64 bits. Any other
token is three parts, whatever the payload holds.
-/

namespace Possession.Token

/-! ## What a token shows -/

/-- Whether one of the members has the name and the value. -/
def Holds (members : List (String × Json.Tree)) (name : String) (value : Json) : Prop :=
  ∃ tree, (name, tree) ∈ members ∧ Json.ofTree? .asWritten 0 tree = some value

/-- What a token shows to anyone who takes it apart: its three parts, the algorithm and the key in
its header, and the issuer and the times in its claims, where no name occurs twice. -/
structure Shows (token keyId issuer : String) (issuedAt expiresAt : Int)
    (header claims signature : List Char) : Prop where
  parts : Text.pieces '.' token.toList = [header, claims, signature]
  header : ∃ text, decodePart header = .ok text ∧
    Json.parse? text =
      some (.object [("alg", .string "ES256"), ("kid", .string keyId), ("typ", .string "JWT")])
  claims : ∃ text members, decodePart claims = .ok text ∧ Json.textMembers? text = some members ∧
    Holds members "iss" (.string issuer) ∧ Holds members "iat" (.ofInt issuedAt) ∧
    Holds members "exp" (.ofInt expiresAt) ∧ (members.map Prod.fst).Nodup

theorem Parts.pieces_print {parts : Parts} (hheader : '.' ∉ parts.header)
    (hclaims : '.' ∉ parts.claims) (hsignature : '.' ∉ parts.signature) :
    Text.pieces '.' parts.print.toList = [parts.header, parts.claims, parts.signature] := by
  have hintercalate : parts.print.toList =
      ['.'].intercalate [parts.header, parts.claims, parts.signature] := by
    simp [print, signedText, List.intercalate, List.intersperse]
  rw [hintercalate]
  exact Text.pieces_intercalate (by simp) (by simp [hheader, hclaims, hsignature])

theorem parse?_print_headerFor (pair : KeyPair) :
    Json.parse? (Bytes.ofText (headerFor pair).print) =
      some (.object
        [("alg", .string "ES256"), ("kid", .string pair.keyId), ("typ", .string "JWT")]) :=
  @Json.parse?_print_object
    [("typ", .string "JWT"), ("alg", .string "ES256"), ("kid", .string pair.keyId)]
    ⟨trivial, trivial, trivial, trivial⟩ ⟨trivial, trivial, trivial, trivial⟩
    (by simp [Json.membersHeight, Json.height])

/-- Claims have a name for each member if their payload keeps away from the reserved names. -/
theorem Claims.nodup_members {claims : Claims} (hsorted : claims.payload.Sorted)
    (hpayload : ∀ member ∈ claims.payload, member.1 ∉ reservedNames) :
    ((claims.standardMembers ++ claims.payload).map Prod.fst).Nodup := by
  rw [List.map_append, List.nodup_append]
  refine ⟨?_, hsorted.nodup, ?_⟩
  · change reservedNames.Nodup
    decide
  · rintro name hname other hother rfl
    obtain ⟨member, hmember, heq⟩ := List.mem_map.mp hother
    exact hpayload member hmember (heq ▸ hname)

theorem holds_string {members : List (String × Json.Tree)} {name text : String}
    (h : (name, Json.toTree (.string text)) ∈ members) : Holds members name (.string text) :=
  ⟨_, h, by rw [Json.toTree, Json.ofTree?, Json.stringText?_contentOf]; rfl⟩

theorem holds_ofInt {members : List (String × Json.Tree)} {name : String} {n : Int}
    (hfits : Json.fitsInt64 n = true) (h : (name, Json.toTree (.ofInt n)) ∈ members) :
    Holds members name (.ofInt n) :=
  ⟨_, h, by rw [Json.ofInt, Json.toTree, Json.ofTree?, Claims.value?_of_fitsInt64 hfits]; rfl⟩

/-! ## Issuing -/

section

variable {issuer id : String} {pair : KeyPair} {payload : Members} {lifetime : Duration}
  {now : Instant} {nonce : Ecdsa.Scalar}

/-- Whether a lifetime or the expiry it leads to is beyond the integers of 64 bits. -/
def IsBeyondTime (now : Instant) (lifetime : Duration) : Prop :=
  Json.greatestInt64 < lifetime.seconds ∨ Json.greatestInt64 < now.seconds + lifetime.seconds

instance : Decidable (IsBeyondTime now lifetime) := inferInstanceAs (Decidable (_ ∨ _))

def claimsAt (issuer id : String) (payload : Members) (lifetime : Duration) (now : Instant) :
    Claims :=
  ⟨issuer, now.seconds, now.seconds + lifetime.seconds, id, payload.without reservedNames⟩

theorem fits_iff_not_isBeyondTime (hnow : Json.leastInt64 ≤ now.seconds) :
    (Json.fitsInt64 lifetime.seconds = true ∧
      Json.fitsInt64 (now.seconds + lifetime.seconds) = true) ↔ ¬ IsBeyondTime now lifetime := by
  have hleast : Json.leastInt64 ≤ 0 := by decide
  rw [IsBeyondTime, Claims.fitsInt64_iff, Claims.fitsInt64_iff]
  omega

theorem issueAt_of_isBeyondTime (hnow : Json.leastInt64 ≤ now.seconds)
    (h : IsBeyondTime now lifetime) :
    issueAt issuer pair payload lifetime now id nonce = .error (lifetimeRefusal lifetime) := by
  have hclaims : claimsAt? issuer id payload lifetime now = none := by
    refine Option.eq_none_iff_forall_ne_some.mpr fun claims hclaims => ?_
    obtain ⟨hlifetime, hexpiry, -⟩ := claimsAt?_eq_some_iff.mp hclaims
    exact (fits_iff_not_isBeyondTime hnow).mp ⟨hlifetime, hexpiry⟩ h
  rw [issueAt, hclaims]

/-- With a lifetime in range, signing decides. -/
theorem issueAt_of_not_isBeyondTime (hnow : Json.leastInt64 ≤ now.seconds)
    (h : ¬ IsBeyondTime now lifetime) :
    issueAt issuer pair payload lifetime now id nonce =
      match sign pair nonce (claimsAt issuer id payload lifetime now) with
      | none => .refuse (.internalCryptoError "failed to sign token")
      | some token => .ok token := by
  obtain ⟨hlifetime, hexpiry⟩ := (fits_iff_not_isBeyondTime hnow).mpr h
  have hclaims : claimsAt? issuer id payload lifetime now =
      some (claimsAt issuer id payload lifetime now) :=
    claimsAt?_eq_some_iff.mpr ⟨hlifetime, hexpiry, rfl⟩
  cases hsign : sign pair nonce (claimsAt issuer id payload lifetime now) with
  | none => simp only [issueAt, hclaims, hsign]
  | some token => simp only [issueAt, hclaims, hsign]

/-- Issuing fails for its settings exactly if the lifetime is out of range. -/
theorem exists_configuration_iff (hnow : Json.leastInt64 ≤ now.seconds) :
    (∃ refusal message, issueAt issuer pair payload lifetime now id nonce = .error refusal ∧
      refusal.failure = .configuration message) ↔ IsBeyondTime now lifetime := by
  by_cases h : IsBeyondTime now lifetime
  · rw [issueAt_of_isBeyondTime hnow h]
    exact ⟨fun _ => h, fun _ => ⟨_, _, rfl, rfl⟩⟩
  · rw [issueAt_of_not_isBeyondTime hnow h]
    refine ⟨?_, fun hbeyond => absurd hbeyond h⟩
    rintro ⟨refusal, message, hrefusal, hfailure⟩
    cases hsign : sign pair nonce (claimsAt issuer id payload lifetime now) with
    | none =>
      rw [hsign] at hrefusal
      cases hrefusal
      cases hfailure
    | some token =>
      rw [hsign] at hrefusal
      cases hrefusal

/-- A token that a key pair signed shows what its claims state. -/
theorem shows_signedParts {claims : Claims} (hsorted : claims.payload.Sorted)
    (hpayload : ∀ member ∈ claims.payload, member.1 ∉ reservedNames)
    (hissuedAt : Json.fitsInt64 claims.issuedAt = true)
    (hexpiresAt : Json.fitsInt64 claims.expiresAt = true) (signature : Ecdsa.Signature) :
    Shows (signedParts pair claims signature).print pair.keyId claims.issuer claims.issuedAt
      claims.expiresAt (signedParts pair claims signature).header
      (signedParts pair claims signature).claims
      (signedParts pair claims signature).signature where
  parts := Parts.pieces_print (dot_notMem_encodePart _) (dot_notMem_encodePart _)
    (dot_notMem_encodePart _)
  header := ⟨_, decodePart_encodePart _, parse?_print_headerFor pair⟩
  claims := by
    refine ⟨_, _, decodePart_encodePart _, Json.textMembers?_print _, holds_string ?_,
      holds_ofInt hissuedAt ?_, holds_ofInt hexpiresAt ?_, ?_⟩
    · simp [Claims.standardMembers]
    · simp [Claims.standardMembers]
    · simp [Claims.standardMembers]
    · rw [List.map_map]
      exact Claims.nodup_members hsorted hpayload

/-- Issuing never wraps around. It fails for its settings exactly if the lifetime or the expiry it
leads to is beyond the integers of 64 bits. Otherwise, if signing succeeds, it leads to a token with
the exact times and no name twice, whatever key it names and whatever its payload holds. Clocks that
show seconds before the least integer of 64 bits are left out; there are none. -/
theorem issueAt_exact (hnow : Json.leastInt64 ≤ now.seconds) (hpayload : payload.Sorted) :
    ((∃ refusal message, issueAt issuer pair payload lifetime now id nonce = .error refusal ∧
        refusal.failure = .configuration message) ↔ IsBeyondTime now lifetime) ∧
      (¬ IsBeyondTime now lifetime →
        (sign pair nonce (claimsAt issuer id payload lifetime now)).isSome = true →
        ∃ token header claims signature,
          issueAt issuer pair payload lifetime now id nonce = .ok token ∧
            Shows token pair.keyId issuer now.seconds (now.seconds + lifetime.seconds) header claims
              signature) := by
  refine ⟨exists_configuration_iff hnow, fun hwithin hsign => ?_⟩
  obtain ⟨token, htoken⟩ := Option.isSome_iff_exists.mp hsign
  have hissue : issueAt issuer pair payload lifetime now id nonce = .ok token := by
    rw [issueAt_of_not_isBeyondTime hnow hwithin, htoken]
  obtain ⟨claims, signature, hclaims, -, rfl⟩ := issueAt_eq_ok_iff.mp hissue
  obtain ⟨-, hexpiry, rfl⟩ := claimsAt?_eq_some_iff.mp hclaims
  have hissuedAt : Json.fitsInt64 now.seconds = true := by
    have hupper := (Claims.fitsInt64_iff.mp hexpiry).2
    exact Claims.fitsInt64_iff.mpr ⟨hnow, by omega⟩
  exact ⟨_, _, _, _, hissue, shows_signedParts (hpayload.without _)
    (fun member hmember => (Members.mem_without.mp hmember).2) hissuedAt hexpiry signature⟩

end

/-- A token issued before 1970, with reserved names in its payload, and a lifetime that is one
second too long. -/
theorem issueAt_exact_samplePayload :
    (∃ token header claims signature,
      issueAt "https://a" generatorPair samplePayload ⟨60000000000⟩ ⟨-1500000000⟩ "id-1"
        sampleNonce = .ok token ∧
      Shows token "k1" "https://a" (-2) 58 header claims signature) ∧
    ∃ refusal message,
      issueAt "https://a" generatorPair samplePayload (.of 0x8000000000000000 0) ⟨-1500000000⟩
        "id-1" sampleNonce = .error refusal ∧ refusal.failure = .configuration message := by
  have hclaims : claimsAt "https://a" "id-1" samplePayload ⟨60000000000⟩ ⟨-1500000000⟩ =
      sampleClaims := rfl
  have hsign : (sign generatorPair sampleNonce
      (claimsAt "https://a" "id-1" samplePayload ⟨60000000000⟩ ⟨-1500000000⟩)).isSome = true := by
    simp only [hclaims, sign, Option.isSome_map, sign_sampleClaims, Option.isSome_some]
  constructor
  · exact (issueAt_exact (by decide) isNormal_samplePayload.1).2 (by decide) hsign
  · exact (issueAt_exact (by decide) isNormal_samplePayload.1).1.mpr (.inl (by decide))

end Possession.Token

import Possession.Proofs.Token.Claims
import Possession.Proofs.Token.Header

/-!
# What an accepted token proves

Acceptance says how the text of a token is built, which algorithm its header names, which key signed
which bytes, and that its claims are those of its text.
-/

namespace Possession.Token

/-- The text that the signature of a token covers. -/
def signedChars (header claims : Bytes) : List Char :=
  encodePart header ++ '.' :: encodePart claims

/-- What holds of an accepted token with the given bytes in its parts. -/
structure Attested (issuer : String) (primary : Curve.P256.Point)
    (secondary : Option Curve.P256.Point) (now : Instant) (token : String) (accepted : Validated)
    (header claims bytes : Bytes) (signature : Ecdsa.Signature) : Prop where
  /-- The text is three parts in canonical base64url without padding. -/
  chars : token.toList = signedChars header claims ++ '.' :: encodePart bytes
  dots : token.toList.count '.' = 2
  namesAlgorithm : Header.NamesAlgorithm header "ES256"
  algorithm : ∃ decoded, Header.parse? header = some decoded ∧ decoded.algorithm = .es256
  length : bytes.length = 64
  ofFixed : Ecdsa.Signature.ofFixed? bytes = some signature
  signedByPrimary : accepted.verifiedBy = .primary →
    accepted.attempts = 1 ∧
      Ecdsa.verify primary (Bytes.ofText (String.ofList (signedChars header claims))) signature =
        true
  signedBySecondary : accepted.verifiedBy = .secondary →
    accepted.attempts = 2 ∧
      Ecdsa.verify primary (Bytes.ofText (String.ofList (signedChars header claims))) signature =
        false ∧
      ∃ key, secondary = some key ∧
        Ecdsa.verify key (Bytes.ofText (String.ofList (signedChars header claims))) signature = true
  parse_claims : Claims.parse? claims = some accepted.claims
  issuer_eq : accepted.claims.issuer = issuer
  issuer_ne : accepted.claims.issuer ≠ ""
  notExpired : now.seconds ≤ accepted.claims.expiresAt

section

variable {issuer token : String} {primary : Curve.P256.Point}
  {secondary : Option Curve.P256.Point} {now : Instant} {accepted : Validated}

/-- An attempt that reports the signature of a token that opens was made with a key that did not
sign it. -/
theorem isSignedBy_eq_false {content : Opened} {refusal : Refusal}
    (h : attempt issuer (.p256 primary) now token = .error refusal)
    (hfailure : refusal.failure = .invalidSignature) (hopened : opened token = .ok content) :
    content.isSignedBy primary = false := by
  rw [attempt_p256, hopened] at h
  refine Bool.eq_false_iff.mpr fun hsigned => ?_
  simp only [hsigned, if_true] at h
  exact Opened.judge_ne_invalidSignature h hfailure

/-- An accepted token opens and its claims are accepted; the place that is reported tells which key
signed it. -/
theorem exists_opened_of_validate
    (h : validate issuer (.p256 primary) (secondary.map .p256) now token = .ok accepted) :
    ∃ content, opened token = .ok content ∧ content.judge issuer now = .ok accepted.claims ∧
      (accepted.verifiedBy = .primary →
        accepted.attempts = 1 ∧ content.isSignedBy primary = true) ∧
      (accepted.verifiedBy = .secondary →
        accepted.attempts = 2 ∧ content.isSignedBy primary = false ∧
          ∃ key, secondary = some key ∧ content.isSignedBy key = true) := by
  rcases validateWith_eq_ok_iff.mp h with ⟨claims, hfirst, rfl⟩ |
    ⟨refusal, _, claims, hfirst, hfailure, hsecondary, hsecond, rfl⟩
  · obtain ⟨content, hopened, hsigned, hjudge⟩ := attempt_p256_eq_ok_iff.mp hfirst
    exact ⟨content, hopened, hjudge, fun _ => ⟨rfl, hsigned⟩, nofun⟩
  · obtain ⟨key, hkey, rfl⟩ := Option.map_eq_some_iff.mp hsecondary
    obtain ⟨content, hopened, hsigned, hjudge⟩ := attempt_p256_eq_ok_iff.mp hsecond
    have hnot := isSignedBy_eq_false hfirst hfailure hopened
    exact ⟨content, hopened, hjudge, nofun, fun _ => ⟨rfl, hnot, key, hkey, hsigned⟩⟩

theorem count_dot_encodePart (bytes : Bytes) : (encodePart bytes).count '.' = 0 :=
  List.count_eq_zero.mpr (dot_notMem_encodePart bytes)

theorem parse?_of_soundClaims? {text : Bytes} {claims : Claims}
    (h : soundClaims? text = some claims) : Claims.parse? text = some claims := by
  obtain ⟨members, hmembers, hclaims, _⟩ := soundClaims?_eq_some_iff.mp h
  exact Option.bind_eq_some_iff.mpr ⟨members, hmembers, hclaims⟩

/-- Whatever is accepted under P-256 keys is a canonical token that one of them signed, with claims
of the issuer that have not expired. -/
theorem exists_attested_of_validate
    (h : validate issuer (.p256 primary) (secondary.map .p256) now token = .ok accepted) :
    ∃ header claims bytes signature,
      Attested issuer primary secondary now token accepted header claims bytes signature := by
  obtain ⟨⟨parts, signature⟩, hopened, hjudge, hprimary, hsecondary⟩ := exists_opened_of_validate h
  obtain ⟨hparts, hheader, bytes, hbytes, hfixed⟩ := opened_eq_ok_iff.mp hopened
  obtain ⟨header, decoded, hencoded, hparse, halgorithm⟩ := checkHeader_eq_ok_iff.mp hheader
  obtain ⟨hread, hne, hissuer, hexpiry⟩ := Opened.judge_eq_ok_iff.mp hjudge
  obtain ⟨claims, hclaims, hsound, _⟩ := readClaims_eq_ok_iff.mp hread
  obtain ⟨headerPart, claimsPart, signaturePart⟩ := parts
  dsimp only at hencoded hclaims hbytes hparse hfixed
  subst hencoded hclaims hbytes
  have htoken : token.toList = signedChars header claims ++ '.' :: encodePart bytes := by
    rw [Parts.eq_print_of_ofText? hparts, Parts.print, String.toList_ofList]
    rfl
  have hnamed := Header.namesAlgorithm_of_parse? hparse
  rw [halgorithm] at hnamed
  refine ⟨header, claims, bytes, signature, ?_⟩
  exact {
    chars := htoken
    dots := by
      rw [htoken, signedChars]
      simp [count_dot_encodePart]
    namesAlgorithm := hnamed
    algorithm := ⟨decoded, hparse, halgorithm⟩
    length := Ecdsa.Signature.length_of_ofFixed? hfixed
    ofFixed := hfixed
    signedByPrimary := hprimary
    signedBySecondary := hsecondary
    parse_claims := parse?_of_soundClaims? hsound
    issuer_eq := hissuer
    issuer_ne := hne
    notExpired := hexpiry }

end

/-- The public point of the private scalar one. -/
def generatorPoint : Curve.P256.Point :=
  ⟨Curve.P256.Jacobian.generator.x.rep, Curve.P256.Jacobian.generator.y.rep, by decide +kernel⟩

/-- The point opposite to that of the private scalar one. -/
def oppositePoint : Curve.P256.Point :=
  ⟨generatorPoint.x, Curve.P256.prime - generatorPoint.y, by decide +kernel⟩

/-- A payload with escapes and brackets inside and with names that are reserved. -/
def samplePayload : Members :=
  [("exp", .ofInt 7), ("iss", .string "https://b"),
    ("list", .array [.object [("k", .null)], .ofInt (-5)]), ("note", .string "a \"b\"\n"),
    ("sub", .string "x")]

theorem isNormal_samplePayload : (Json.object samplePayload).IsNormal := by
  refine ⟨by decide, ?_⟩
  simp only [samplePayload, Json.MembersNormal, Json.IsNormal, Json.ItemsNormal, Json.ofInt]
  decide

theorem holdsNoDouble_samplePayload : (Json.object samplePayload).HoldsNoDouble := by
  simp [samplePayload, Json.HoldsNoDouble, Json.MembersHoldNoDouble, Json.ItemsHoldNoDouble,
    Json.ofInt]

theorem isReadable_samplePayload : IsReadable samplePayload where
  height_le := by decide
  subject := getD_map_eq_false_iff.mp (by decide)
  notBefore := getD_map_eq_false_iff.mp (by decide)

/-- Claims of a token issued before 1970 for a minute. -/
def sampleClaims : Claims := ⟨"https://a", -2, 58, "id-1", samplePayload.without reservedNames⟩

theorem soundClaims?_sampleClaims :
    soundClaims? (Bytes.ofText sampleClaims.print) = some sampleClaims := by
  have hpayload := isPayload_without isNormal_samplePayload holdsNoDouble_samplePayload
  exact (soundClaims?_print_eq_some_iff rfl hpayload (by decide) (by decide)).mpr
    ⟨isReadable_samplePayload, rfl⟩

def sampleSignature : Ecdsa.Signature :=
  ⟨⟨0x6b17d1f2e12c4247f8bce6e563a440f277037d812deb33a0f4a13945d898c296, by decide, by decide⟩,
    ⟨0x6a514186a1d49d13157dddbc007c8cf387203fd34ed6358ed62874c7169167c1, by decide, by decide⟩⟩

/-- The parts of a token that the private scalar one signed. -/
def sampleParts : Parts :=
  ⟨encodePart (Bytes.ofText (Header.print ⟨some "JWT", .es256, some "k1"⟩)),
    encodePart (Bytes.ofText sampleClaims.print), encodePart sampleSignature.toFixed⟩

theorem opened_sampleParts : opened sampleParts.print = .ok ⟨sampleParts, sampleSignature⟩ :=
  opened_print (Header.parse?_print _) rfl _ sampleSignature

theorem isSignedBy_sampleParts :
    (Opened.mk sampleParts sampleSignature).isSignedBy generatorPoint = true ∧
      (Opened.mk sampleParts sampleSignature).isSignedBy oppositePoint = false := by
  decide +kernel

/-- A moment in the last second of the token. -/
def sampleMoment : Instant := ⟨58500000000⟩

theorem judge_sampleParts :
    (Opened.mk sampleParts sampleSignature).judge "https://a" sampleMoment = .ok sampleClaims := by
  have hread : readClaims sampleParts.claims = .ok sampleClaims :=
    readClaims_eq_ok_iff.mpr ⟨_, rfl, soundClaims?_sampleClaims, by decide⟩
  exact Opened.judge_eq_ok_iff.mpr ⟨hread, by decide, rfl, by decide⟩

theorem validate_sampleParts :
    validate "https://a" (.p256 oppositePoint) (some (.p256 generatorPoint)) sampleMoment
      sampleParts.print = .ok ⟨sampleClaims, .secondary, 2⟩ := by
  obtain ⟨hsigned, hnot⟩ := isSignedBy_sampleParts
  have hfirst : attempt "https://a" (.p256 oppositePoint) sampleMoment sampleParts.print =
      .error Fault.signature.refusal := by
    rw [attempt_p256, opened_sampleParts]
    simp [hnot]
  have hsecond : attempt "https://a" (.p256 generatorPoint) sampleMoment sampleParts.print =
      .ok sampleClaims :=
    attempt_p256_eq_ok_iff.mpr ⟨_, opened_sampleParts, hsigned, judge_sampleParts⟩
  exact validateWith_eq_ok_iff.mpr (.inr ⟨_, _, _, hfirst, rfl, rfl, hsecond, rfl⟩)

theorem exists_attested_sampleParts :
    validate "https://a" (.p256 oppositePoint) (some (.p256 generatorPoint)) sampleMoment
        sampleParts.print = .ok ⟨sampleClaims, .secondary, 2⟩ ∧
      ∃ header claims bytes signature, Attested "https://a" oppositePoint (some generatorPoint)
        sampleMoment sampleParts.print ⟨sampleClaims, .secondary, 2⟩ header claims bytes
        signature :=
  ⟨validate_sampleParts, exists_attested_of_validate validate_sampleParts⟩

end Possession.Token

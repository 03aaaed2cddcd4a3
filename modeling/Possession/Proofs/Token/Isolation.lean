import Possession.Authenticator
import Possession.Proofs.Token.Issued

/-!
# Issuers are isolated from each other

The issuer takes no part in the checks before its own, and expiry is asked about after it. So a
token that one issuer accepts is refused by every other one in the same attempt and for no other
reason.
-/

namespace Possession.Token

/-! ## Accepted by one issuer -/

theorem issuer_eq_of_attempt {issuer token : String} {key : PublicKey} {now : Instant}
    {claims : Claims} (h : attempt issuer key now token = .ok claims) : claims.issuer = issuer := by
  obtain ⟨_, _, _, _, _, hjudge⟩ := exists_of_attempt_eq_ok h
  exact (Opened.judge_eq_ok_iff.mp hjudge).2.2.1

section

variable {issuer other token : String} {key : PublicKey} {now : Instant} {claims : Claims}

/-- Another issuer refuses the claims that one has accepted, before it asks about expiry. -/
theorem Opened.judge_of_issuer_ne {content : Opened} (later : Instant) (hother : other ≠ issuer)
    (h : content.judge issuer now = .ok claims) :
    ∃ refusal, content.judge other later = .error refusal ∧ refusal.failure = .issuerMismatch := by
  obtain ⟨hread, _, hissuer, _⟩ := Opened.judge_eq_ok_iff.mp h
  rw [← hissuer] at hother
  rw [judge, hread, Outcome.mapError_ok]
  change ∃ refusal, checkClaims other later claims = .error refusal ∧ _
  rw [checkClaims, if_pos (.inr hother.symm)]
  exact ⟨_, rfl, rfl⟩

theorem attempt_of_issuer_ne (later : Instant) (hother : other ≠ issuer)
    (h : attempt issuer key now token = .ok claims) :
    ∃ refusal, attempt other key later token = .error refusal ∧
      refusal.failure = .issuerMismatch := by
  obtain ⟨point, content, rfl, hopened, hsigned, hjudge⟩ := exists_of_attempt_eq_ok h
  obtain ⟨refusal, hrefusal, hmismatch⟩ := content.judge_of_issuer_ne later hother hjudge
  refine ⟨refusal, ?_, hmismatch⟩
  rw [attempt_p256, hopened]
  simp only [hsigned, if_true, hrefusal]

/-- A signature that fails under a key fails for every issuer and at every time. -/
theorem attempt_eq_error_of_invalidSignature {refusal : Refusal} (other : String) (later : Instant)
    (h : attempt issuer key now token = .error refusal)
    (hfailure : refusal.failure = .invalidSignature) :
    attempt other key later token = .error refusal := by
  cases key with
  | ed25519 key => exact h
  | p256 point =>
    rcases Outcome.bind_eq_error_iff.mp h with hdecode | ⟨claims, _, hcheck⟩
    · exact Outcome.bind_eq_error_iff.mpr (.inl hdecode)
    · exact absurd hfailure (checkClaims_ne_invalidSignature hcheck)

end

/-- What one issuer accepts, with one attempt or two, every other issuer refuses for its issuer, at
any time. -/
theorem validateWith_of_issuer_ne {clock : KeySlot → Instant} {issuer other token : String}
    {primary : PublicKey} {secondary : Option PublicKey} {accepted : Validated}
    (later : KeySlot → Instant) (hother : other ≠ issuer)
    (h : validateWith clock issuer primary secondary token = .ok accepted) :
    ∃ refusal, validateWith later other primary secondary token = .error refusal ∧
      refusal.failure = .issuerMismatch := by
  rcases validateWith_eq_ok_iff.mp h with ⟨claims, hfirst, _⟩ |
    ⟨refusal, key, claims, hfirst, hfailure, rfl, hsecond, _⟩
  · obtain ⟨refusal, hrefusal, hmismatch⟩ := attempt_of_issuer_ne (later .primary) hother hfirst
    have hfinal : refusal.failure ≠ .invalidSignature := by simp [hmismatch]
    exact ⟨refusal, validateWith_of_final hrefusal (.inr hfinal), hmismatch⟩
  · have hretry := attempt_eq_error_of_invalidSignature other (later .primary) hfirst hfailure
    obtain ⟨second, hrefusal, hmismatch⟩ := attempt_of_issuer_ne (later .secondary) hother hsecond
    refine ⟨second.note "primary key: invalid signature", ?_, hmismatch⟩
    rw [validateWith_of_retry hretry hfailure, hrefusal]
    rfl

/-! ## Issued by one issuer -/

/-- Claims that are read from an issued token name the issuer, whatever its payload was. -/
theorem issuer_eq_of_attempt_issueAt {issuer id token expected : String} {pair : KeyPair}
    {payload : Members} {lifetime : Duration} {now later : Instant} {nonce : Ecdsa.Scalar}
    {key : PublicKey} {read : Claims}
    (hissue : issueAt issuer pair payload lifetime now id nonce = .ok token)
    (hattempt : attempt expected key later token = .ok read) : read.issuer = issuer := by
  obtain ⟨claims, hclaims, hread⟩ := exists_parse?_of_attempt hissue hattempt
  obtain ⟨_, _, rfl⟩ := claimsAt?_eq_some_iff.mp hclaims
  exact Claims.issuer_eq_of_parse?_print hread

/-- Whoever accepts an issued token expects the issuer that it was issued for. -/
theorem issuer_eq_of_validate_issueAt {issuer id token expected : String} {pair : KeyPair}
    {payload : Members} {lifetime : Duration} {now later : Instant} {nonce : Ecdsa.Scalar}
    {primary : PublicKey} {secondary : Option PublicKey} {accepted : Validated}
    (hissue : issueAt issuer pair payload lifetime now id nonce = .ok token)
    (h : validate expected primary secondary later token = .ok accepted) : expected = issuer := by
  obtain ⟨key, _, hattempt⟩ := exists_attempt_of_validateWith h
  have hissued := issuer_eq_of_attempt_issueAt hissue hattempt
  have hexpected := issuer_eq_of_attempt hattempt
  exact hexpected.symm.trans hissued

end Possession.Token

namespace Possession.Authenticator

/-- Settings and key pairs of an authenticator belong to one issuer. -/
theorem make_eq_ok_iff {settings : Settings} {keys : KeySet} {authenticator : Authenticator} :
    make settings keys = .ok authenticator ↔ keys.issuer = settings.issuer ∧
      authenticator = ⟨keys, settings.lifetime, settings.requiredComponents,
        settings.enforceThumbprintBinding, settings.digestPolicy⟩ := by
  rw [make]
  split <;> simp_all [Outcome.refuse, eq_comm]

theorem issuer_eq_of_make {settings : Settings} {keys : KeySet} {authenticator : Authenticator}
    (h : make settings keys = .ok authenticator) : authenticator.keys.issuer = settings.issuer := by
  obtain ⟨hissuer, rfl⟩ := make_eq_ok_iff.mp h
  exact hissuer

/-- A token that is accepted for one issuer is refused for every other issuer under the same keys,
at any time and because of the issuer. So no authenticator accepts what another one has issued whose
settings name another issuer, whichever key pairs they use and whatever the payload holds. -/
theorem refused_by_other_issuers :
    (∀ {clock later : Token.KeySlot → Instant} {issuer other token : String}
        {primary : PublicKey} {secondary : Option PublicKey} {accepted : Token.Validated},
      Token.validateWith clock issuer primary secondary token = .ok accepted → other ≠ issuer →
      ∃ refusal, Token.validateWith later other primary secondary token = .error refusal ∧
        refusal.failure = .issuerMismatch) ∧
      ∀ {settings settings' : Settings} {keys keys' : KeySet} {server other : Authenticator}
        {payload : Members} {now : Instant} {id token : String} {nonce : Ecdsa.Scalar},
      make settings keys = .ok server → make settings' keys' = .ok other →
      settings'.issuer ≠ settings.issuer → server.issue payload now id nonce = .ok token →
      ∀ later accepted, other.validate later token ≠ .ok accepted := by
  constructor
  · intro clock later issuer other token primary secondary accepted h hother
    exact Token.validateWith_of_issuer_ne later hother h
  · intro settings settings' keys keys' server other payload now id token nonce hserver hother
      hissuer hissue later accepted h
    have hsame := Token.issuer_eq_of_validate_issueAt hissue h
    rw [issuer_eq_of_make hserver, issuer_eq_of_make hother] at hsame
    exact hissuer hsame

/-- Settings for tokens that last a minute. -/
def sampleSettings (issuer : String) : Settings := ⟨issuer, 60, [], false, true, "info"⟩

/-- The pair of the private scalar one, in use by an issuer. -/
def sampleKeys (issuer : String) : KeySet := ⟨issuer, Token.generatorPair, none⟩

def sampleServer (issuer : String) : Authenticator :=
  ⟨sampleKeys issuer, ⟨60000000000⟩, [], false, ⟨true⟩⟩

theorem make_sampleServer (issuer : String) :
    make (sampleSettings issuer) (sampleKeys issuer) = .ok (sampleServer issuer) := by
  have hlifetime : Duration.of 60 0 = ⟨60000000000⟩ := by decide
  refine make_eq_ok_iff.mpr ⟨rfl, ?_⟩
  rw [Settings.lifetime, sampleSettings, hlifetime]
  rfl

theorem refused_by_other_issuers_samplePayload :
    (Token.validate "https://a" (.p256 Token.oppositePoint) (some (.p256 Token.generatorPoint))
        Token.sampleMoment Token.sampleParts.print = .ok ⟨Token.sampleClaims, .secondary, 2⟩ ∧
      ∃ refusal, Token.validate "https://b" (.p256 Token.oppositePoint)
          (some (.p256 Token.generatorPoint)) ⟨100000000000⟩ Token.sampleParts.print =
            .error refusal ∧
        refusal.failure = .issuerMismatch) ∧
      (sampleServer "https://a").issue Token.samplePayload ⟨-1500000000⟩ "id-1"
          Token.sampleNonce = .ok Token.sampleParts.print ∧
        ∀ later accepted,
          (sampleServer "https://b").validate later Token.sampleParts.print ≠ .ok accepted := by
  obtain ⟨hrefused, hnever⟩ := refused_by_other_issuers
  exact ⟨⟨Token.validate_sampleParts, hrefused Token.validate_sampleParts (by decide)⟩,
    Token.issueAt_samplePayload,
    hnever (make_sampleServer "https://a") (make_sampleServer "https://b") (by decide)
      Token.issueAt_samplePayload⟩

end Possession.Authenticator

import Possession.Proofs.Token.Phases

/-!
# Tokens during a rotation

It does not matter which of two keys is the primary one. The key that verified a token, the number
of attempts and the notes for the log are left out of `verdict`, since they do depend on the order.
-/

namespace Possession.Token

/-- What a caller learns about the token itself: its claims, or what is wrong with it. -/
def verdict (outcome : Outcome Validated) : Except Failure Claims :=
  match outcome with
  | .ok accepted => .ok accepted.claims
  | .error refusal => .error refusal.failure

/-- The verdict of one attempt stands unless it is about the signature and there is another key. -/
theorem verdict_validate (issuer : String) (primary : PublicKey) (secondary : Option PublicKey)
    (now : Instant) (token : String) :
    verdict (validate issuer primary secondary now token) =
      match (attempt issuer primary now token).mapError Refusal.failure, secondary with
      | .error .invalidSignature, some key =>
        (attempt issuer key now token).mapError Refusal.failure
      | first, _ => first := by
  cases hfirst : attempt issuer primary now token with
  | ok claims =>
    rw [validate_of_attempt_eq_ok secondary hfirst]
    rfl
  | error refusal =>
    by_cases hfailure : refusal.failure = .invalidSignature
    · cases secondary with
      | none =>
        rw [validate_of_final hfirst (.inl rfl)]
        simp [verdict]
      | some key =>
        rw [validate_of_retry hfirst hfailure]
        cases hsecond : attempt issuer key now token <;>
          simp [verdict, Except.map, hfailure, hsecond]
    · rw [validate_of_final hfirst (.inr hfailure)]
      cases hkind : refusal.failure <;> simp_all [verdict]

/-- The verdict where `isSigned` tells whether one of the keys in use signed a token. -/
def verdictBy (isSigned : Opened → Bool) (issuer : String) (now : Instant) (token : String) :
    Except Failure Claims :=
  match opened token with
  | .error fault => .error fault.failure
  | .ok content =>
    if isSigned content then (content.judge issuer now).mapError Refusal.failure
    else .error .invalidSignature

theorem mapError_attempt_p256 (issuer : String) (key : Curve.P256.Point) (now : Instant)
    (token : String) :
    (attempt issuer (.p256 key) now token).mapError Refusal.failure =
      verdictBy (·.isSignedBy key) issuer now token := by
  rw [attempt_p256, verdictBy]
  cases opened token with
  | error fault => rfl
  | ok content =>
    by_cases hsigned : content.isSignedBy key = true
    · simp [hsigned]
    · simp only [hsigned, Bool.false_eq_true, if_false]
      rfl

/-- A second key is asked only after the first one said no, so together they say yes if one does. -/
theorem verdictBy_or (first second : Opened → Bool) (issuer : String) (now : Instant)
    (token : String) :
    (match verdictBy first issuer now token with
      | .error .invalidSignature => verdictBy second issuer now token
      | verdict => verdict) =
      verdictBy (fun content => first content || second content) issuer now token := by
  simp only [verdictBy]
  cases opened token with
  | error fault => cases fault <;> rfl
  | ok content =>
    cases hfirst : first content with
    | false => simp [hfirst]
    | true =>
      cases hjudge : content.judge issuer now with
      | ok claims => simp [hfirst, hjudge]
      | error refusal =>
        have hfailure := Opened.judge_ne_invalidSignature hjudge
        cases hkind : refusal.failure <;> simp_all

theorem verdictBy_eq_ok_iff {isSigned : Opened → Bool} {issuer token : String} {now : Instant}
    {claims : Claims} :
    verdictBy isSigned issuer now token = .ok claims ↔ ∃ content, opened token = .ok content ∧
      isSigned content = true ∧ content.judge issuer now = .ok claims := by
  rw [verdictBy]
  cases opened token with
  | error fault => simp
  | ok content =>
    by_cases hsigned : isSigned content = true <;>
      simp [hsigned, Outcome.mapError_eq_ok_iff]

/-- With one key, that key decides. -/
theorem verdict_validate_one (issuer : String) (key : Curve.P256.Point) (now : Instant)
    (token : String) :
    verdict (validate issuer (.p256 key) none now token) =
      verdictBy (·.isSignedBy key) issuer now token := by
  rw [verdict_validate, mapError_attempt_p256]
  split <;> simp_all

/-- With two keys, each of them can say yes. -/
theorem verdict_validate_two (issuer : String) (first second : Curve.P256.Point) (now : Instant)
    (token : String) :
    verdict (validate issuer (.p256 first) (some (.p256 second)) now token) =
      verdictBy (fun content => content.isSignedBy first || content.isSignedBy second)
        issuer now token := by
  rw [verdict_validate, mapError_attempt_p256, ← verdictBy_or]
  cases verdictBy (·.isSignedBy first) issuer now token with
  | ok claims => rfl
  | error failure =>
    cases failure with
    | invalidSignature => exact mapError_attempt_p256 issuer second now token
    | _ => rfl

/-- Two keys accept together what either of them accepts alone, with the same claims; and neither
the claims nor the failure depend on which of them is the primary one. -/
theorem verdict_validate_rotation (issuer : String) (first second : Curve.P256.Point)
    (now : Instant) (token : String) :
    (∀ claims,
      verdict (validate issuer (.p256 first) (some (.p256 second)) now token) = .ok claims ↔
        verdict (validate issuer (.p256 first) none now token) = .ok claims ∨
          verdict (validate issuer (.p256 second) none now token) = .ok claims) ∧
      verdict (validate issuer (.p256 first) (some (.p256 second)) now token) =
        verdict (validate issuer (.p256 second) (some (.p256 first)) now token) := by
  constructor
  · intro claims
    rw [verdict_validate_two, verdict_validate_one, verdict_validate_one]
    simp only [verdictBy_eq_ok_iff, Bool.or_eq_true]
    constructor
    · rintro ⟨content, hopened, hsigned | hsigned, hjudge⟩
      · exact .inl ⟨content, hopened, hsigned, hjudge⟩
      · exact .inr ⟨content, hopened, hsigned, hjudge⟩
    · rintro (⟨content, hopened, hsigned, hjudge⟩ | ⟨content, hopened, hsigned, hjudge⟩)
      · exact ⟨content, hopened, .inl hsigned, hjudge⟩
      · exact ⟨content, hopened, .inr hsigned, hjudge⟩
  · rw [verdict_validate_two, verdict_validate_two]
    simp only [Bool.or_comm]

end Possession.Token

import Possession.Proofs.Token.Isolation

/-!
# Time only expires tokens

The clock enters an attempt at its very end, so a later moment can only turn claims that are
accepted into a refusal for their expiry. `Ages` relates the outcomes at two moments, and each step
of a validation keeps the relation.
-/

namespace Possession.Token

/-! ## Outcomes at two moments -/

/-- How an outcome at one moment is related to that at a later one: they are the same, or a value
was accepted that has expired since. `IsPast` tells which values have. -/
inductive Ages {α : Type} (IsPast : α → Prop) : Outcome α → Outcome α → Prop
  | same (outcome : Outcome α) : Ages IsPast outcome outcome
  | expired {value : α} {refusal : Refusal} (hfailure : refusal.failure = .expiredToken)
      (hpast : IsPast value) : Ages IsPast (.ok value) (.error refusal)

namespace Ages

variable {α β : Type} {IsPast : α → Prop} {IsPast' : β → Prop} {before after : Outcome α}
  {value : α} {refusal : Refusal}

theorem eq_ok (h : Ages IsPast before after) (hafter : after = .ok value) : before = .ok value := by
  cases h with
  | same => exact hafter
  | expired => cases hafter

theorem eq_error (h : Ages IsPast before after) (hbefore : before = .error refusal) :
    after = .error refusal := by
  cases h with
  | same => exact hbefore
  | expired => cases hbefore

/-- What is refused although it was accepted before has expired. -/
theorem isPast (h : Ages IsPast before after) (hbefore : before = .ok value)
    (hafter : after = .error refusal) : refusal.failure = .expiredToken ∧ IsPast value := by
  cases h with
  | same =>
    rw [hbefore] at hafter
    cases hafter
  | expired hfailure hpast =>
    cases hbefore
    cases hafter
    exact ⟨hfailure, hpast⟩

/-- A first step that does not look at the clock. -/
theorem bind (first : Outcome β) {next later : β → Outcome α}
    (h : ∀ value, Ages IsPast (next value) (later value)) :
    Ages IsPast (first >>= next) (first >>= later) := by
  cases first with
  | ok value => exact h value
  | error refusal => exact .same _

theorem map (h : Ages IsPast before after) (f : α → β)
    (hpast : ∀ value, IsPast value → IsPast' (f value)) :
    Ages IsPast' (before.map f) (after.map f) := by
  cases h with
  | same => exact .same _
  | expired hfailure hvalue => exact .expired hfailure (hpast _ hvalue)

theorem note (h : Ages IsPast before after) (text : String) :
    Ages IsPast (before.mapError (·.note text)) (after.mapError (·.note text)) := by
  cases h with
  | same => exact .same _
  | expired hfailure hvalue => exact .expired hfailure hvalue

end Ages

/-! ## The steps of a validation -/

section

variable {issuer token : String} {now later : Instant}

/-- The issuer is checked without the clock, and expired claims stay expired. -/
theorem checkClaims_ages (h : now ≤ later) (claims : Claims) :
    Ages (·.expiresAt < later.seconds) (checkClaims issuer now claims)
      (checkClaims issuer later claims) := by
  have hseconds := Instant.seconds_le_seconds h
  unfold checkClaims
  by_cases hissuer : claims.issuer = "" ∨ claims.issuer ≠ issuer
  · rw [if_pos hissuer, if_pos hissuer]
    exact .same _
  rw [if_neg hissuer, if_neg hissuer]
  by_cases hnow : claims.expiresAt < now.seconds
  · rw [if_pos hnow, if_pos (by omega)]
    exact .same _
  rw [if_neg hnow]
  by_cases hlater : claims.expiresAt < later.seconds
  · rw [if_pos hlater]
    exact .expired rfl hlater
  · rw [if_neg hlater]
    exact .same _

theorem attempt_ages (h : now ≤ later) (key : PublicKey) :
    Ages (·.expiresAt < later.seconds) (attempt issuer key now token)
      (attempt issuer key later token) := by
  cases key with
  | ed25519 key => exact .same _
  | p256 point => exact .bind _ (checkClaims_ages h)

end

section

variable {issuer token : String} {primary : PublicKey} {secondary : Option PublicKey}

/-- A token that has expired under the primary key is refused without another attempt, so the
relation between first attempts is handed on; where there is another attempt, its outcomes are
related. -/
theorem validateWith_ages {clock later : KeySlot → Instant} (h : ∀ slot, clock slot ≤ later slot) :
    Ages (fun accepted => accepted.claims.expiresAt < (later accepted.verifiedBy).seconds)
      (validateWith clock issuer primary secondary token)
      (validateWith later issuer primary secondary token) := by
  cases hbefore : attempt issuer primary (clock .primary) token with
  | ok claims =>
    rw [validateWith_of_attempt_eq_ok secondary hbefore]
    cases hafter : attempt issuer primary (later .primary) token with
    | ok claims' =>
      have hsame := (attempt_ages (h .primary) primary).eq_ok hafter
      obtain rfl := Except.ok.inj (hbefore.symm.trans hsame)
      rw [validateWith_of_attempt_eq_ok secondary hafter]
      exact .same _
    | error refusal =>
      obtain ⟨hfailure, hpast⟩ := (attempt_ages (h .primary) primary).isPast hbefore hafter
      have hfinal : refusal.failure ≠ .invalidSignature := by simp [hfailure]
      rw [validateWith_of_final hafter (.inr hfinal)]
      exact .expired hfailure hpast
  | error refusal =>
    have hafter := (attempt_ages (h .primary) primary).eq_error hbefore
    by_cases hfinal : secondary = none ∨ refusal.failure ≠ .invalidSignature
    · rw [validateWith_of_final hbefore hfinal, validateWith_of_final hafter hfinal]
      exact .same _
    · obtain ⟨hsecond, hfailure⟩ := not_or.mp hfinal
      obtain ⟨key, rfl⟩ := Option.ne_none_iff_exists'.mp hsecond
      have hretry := Decidable.not_not.mp hfailure
      rw [validateWith_of_retry hbefore hretry, validateWith_of_retry hafter hretry]
      refine Ages.note (Ages.map (attempt_ages (h .secondary) key) _ ?_) _
      exact fun _ hpast => hpast

/-- An outcome without a failing signature under the primary key is that of the first attempt. -/
theorem validateWith_of_ne_invalidSignature {clock : KeySlot → Instant}
    (h : ∀ refusal, attempt issuer primary (clock .primary) token = .error refusal →
      refusal.failure ≠ .invalidSignature) :
    validateWith clock issuer primary secondary token =
      (attempt issuer primary (clock .primary) token).map fun claims => ⟨claims, .primary, 1⟩ := by
  cases hfirst : attempt issuer primary (clock .primary) token with
  | ok claims => rw [validateWith_of_attempt_eq_ok secondary hfirst, Except.map]
  | error refusal => rw [validateWith_of_final hfirst (.inr (h refusal hfirst)), Except.map]

/-- One of the two readings of the clock is all that a validation depends on: that of the second
attempt if the signature fails under the primary key, which it does at every time or never, and
otherwise that of the first one. -/
theorem exists_slot_of_validateWith (issuer : String) (primary : PublicKey)
    (secondary : Option PublicKey) (token : String) :
    ∃ slot, ∀ clock reading : KeySlot → Instant, clock slot = reading slot →
      validateWith clock issuer primary secondary token =
        validateWith reading issuer primary secondary token := by
  by_cases hinvalid : ∃ now refusal, attempt issuer primary now token = .error refusal ∧
      refusal.failure = .invalidSignature
  · obtain ⟨now, refusal, hfirst, hfailure⟩ := hinvalid
    have hevery (moment : Instant) : attempt issuer primary moment token = .error refusal :=
      attempt_eq_error_of_invalidSignature issuer moment hfirst hfailure
    refine ⟨.secondary, fun clock reading hslot => ?_⟩
    cases secondary with
    | none =>
      rw [validateWith_of_final (hevery _) (.inl rfl), validateWith_of_final (hevery _) (.inl rfl)]
    | some key =>
      rw [validateWith_of_retry (hevery _) hfailure, validateWith_of_retry (hevery _) hfailure,
        hslot]
  · have hnever (moment : Instant) (refusal : Refusal)
        (h : attempt issuer primary moment token = .error refusal) :
        refusal.failure ≠ .invalidSignature :=
      fun hfailure => hinvalid ⟨moment, refusal, h, hfailure⟩
    refine ⟨.primary, fun clock reading hslot => ?_⟩
    rw [validateWith_of_ne_invalidSignature (hnever _),
      validateWith_of_ne_invalidSignature (hnever _), hslot]

/-- What is accepted at some moment was accepted at every earlier one, with the same claims, key and
number of attempts; what is refused is refused for the same reason ever after; and what is accepted
first and refused later has expired. This holds for a moment of each attempt, and so for `validate`,
where both have one moment; and only one of the two moments matters. -/
theorem eq_or_expired_of_le {clock later : KeySlot → Instant} (h : ∀ slot, clock slot ≤ later slot)
    (issuer : String) (primary : PublicKey) (secondary : Option PublicKey) (token : String) :
    (∀ accepted, validateWith later issuer primary secondary token = .ok accepted →
      validateWith clock issuer primary secondary token = .ok accepted) ∧
    (∀ refusal, validateWith clock issuer primary secondary token = .error refusal →
      validateWith later issuer primary secondary token = .error refusal) ∧
    (∀ accepted refusal, validateWith clock issuer primary secondary token = .ok accepted →
      validateWith later issuer primary secondary token = .error refusal →
      refusal.failure = .expiredToken ∧
        accepted.claims.expiresAt < (later accepted.verifiedBy).seconds) ∧
    ∃ slot, ∀ clock reading : KeySlot → Instant, clock slot = reading slot →
      validateWith clock issuer primary secondary token =
        validateWith reading issuer primary secondary token :=
  have hages := validateWith_ages h
  ⟨fun _ => hages.eq_ok, fun _ => hages.eq_error, fun _ _ => hages.isPast,
    exists_slot_of_validateWith issuer primary secondary token⟩

end

/-- The first moment after the sample token has expired. -/
def expiredMoment : Instant := ⟨59000000000⟩

theorem expired_sampleParts :
    sampleMoment ≤ expiredMoment ∧
      validate "https://a" (.p256 oppositePoint) (some (.p256 generatorPoint)) sampleMoment
        sampleParts.print = .ok ⟨sampleClaims, .secondary, 2⟩ ∧
      ∃ refusal, validate "https://a" (.p256 oppositePoint) (some (.p256 generatorPoint))
          expiredMoment sampleParts.print = .error refusal ∧
        refusal.failure = .expiredToken ∧ sampleClaims.expiresAt < expiredMoment.seconds := by
  have hle : sampleMoment ≤ expiredMoment := by decide
  obtain ⟨hok, _, hexpired, _⟩ := eq_or_expired_of_le (fun _ : KeySlot => hle) "https://a"
    (.p256 oppositePoint) (some (.p256 generatorPoint)) sampleParts.print
  refine ⟨hle, validate_sampleParts, ?_⟩
  cases hlater : validate "https://a" (.p256 oppositePoint) (some (.p256 generatorPoint))
      expiredMoment sampleParts.print with
  | ok accepted =>
    -- no attempt accepts claims that have expired
    obtain ⟨_, _, hattempt⟩ := exists_attempt_of_validateWith hlater
    obtain ⟨_, _, _, _, _, hjudge⟩ := exists_of_attempt_eq_ok hattempt
    obtain rfl := Except.ok.inj (validate_sampleParts.symm.trans (hok accepted hlater))
    exact absurd (Opened.judge_eq_ok_iff.mp hjudge).2.2.2 (by decide)
  | error refusal => exact ⟨refusal, rfl, hexpired _ refusal validate_sampleParts hlater⟩

end Possession.Token

import Possession.Proofs.Token.Isolation

/-!
# Rotation over whole histories

After any number of rotations, retirements and replacements the answer about a token depends on the
pairs in use at that time alone. What is not about keys stands from the first acceptance on, and the
pairs in use at the end occur in the history, about whose keys the signature is known.
-/

namespace Possession

/-! ## Histories -/

namespace KeySet

inductive Change
  | rotate (pair : KeyPair)
  | retire
  | replace (keys : KeySet)
  deriving DecidableEq, Repr

def change (keys : KeySet) : Change → KeySet
  | .rotate pair => keys.rotate pair
  | .retire => keys.retire
  | .replace other => other

theorem mem_active_iff {keys : KeySet} {pair : KeyPair} :
    pair ∈ keys.active ↔ pair = keys.primary ∨ keys.secondary = some pair := by
  simp [active]

end KeySet

namespace Authenticator

/-- A step in the history of an authenticator: the settings of the next one and the change that
leads to its key pairs. -/
structure Step where
  settings : Settings
  change : KeySet.Change

/-- The authenticator after a step. It stays in use if none can be made from the settings and the
changed pairs. -/
def succeed (authenticator : Authenticator) (step : Step) : Authenticator :=
  match make step.settings (authenticator.keys.change step.change) with
  | .ok next => next
  | .error _ => authenticator

def run (authenticator : Authenticator) (steps : List Step) : Authenticator :=
  steps.foldl succeed authenticator

/-- The pairs that are in use at some time from the first authenticator to the last. -/
def pairsOf (authenticator : Authenticator) : List Step → List KeyPair
  | [] => authenticator.keys.active
  | step :: steps => authenticator.keys.active ++ (authenticator.succeed step).pairsOf steps

theorem run_cons (authenticator : Authenticator) (step : Step) (steps : List Step) :
    authenticator.run (step :: steps) = (authenticator.succeed step).run steps := rfl

theorem succeed_of_make {authenticator next : Authenticator} {step : Step}
    (h : make step.settings (authenticator.keys.change step.change) = .ok next) :
    authenticator.succeed step = next := by
  rw [succeed, h]

/-- To rotate and to retire are steps with the settings that the authenticator was made from. -/
theorem succeed_rotate_retire {authenticator : Authenticator} {settings : Settings}
    (h : make settings authenticator.keys = .ok authenticator) (pair : KeyPair) :
    authenticator.succeed ⟨settings, .rotate pair⟩ = authenticator.rotate pair ∧
      authenticator.succeed ⟨settings, .retire⟩ = authenticator.retire := by
  obtain ⟨hissuer, heq⟩ := make_eq_ok_iff.mp h
  have hmake (keys : KeySet) (hkeys : keys.issuer = authenticator.keys.issuer) :
      make settings keys = .ok { authenticator with keys := keys } :=
    make_eq_ok_iff.mpr ⟨hkeys.trans hissuer, by rw [heq]⟩
  exact ⟨succeed_of_make (hmake _ rfl), succeed_of_make (hmake _ rfl)⟩

theorem active_succeed_rotate {authenticator : Authenticator} {settings : Settings}
    (h : make settings authenticator.keys = .ok authenticator) (pair : KeyPair) :
    (authenticator.succeed ⟨settings, .rotate pair⟩).keys.active =
      [pair, authenticator.keys.primary] := by
  rw [(succeed_rotate_retire h pair).1]
  exact authenticator.keys.active_rotate pair

theorem active_succeed_retire {authenticator : Authenticator} {settings : Settings}
    (h : make settings authenticator.keys = .ok authenticator) :
    (authenticator.succeed ⟨settings, .retire⟩).keys.active = [authenticator.keys.primary] := by
  rw [(succeed_rotate_retire h authenticator.keys.primary).2]
  exact authenticator.keys.active_retire

/-- The pairs in use at the end occur in the history. -/
theorem active_run_subset (authenticator : Authenticator) (steps : List Step) :
    (authenticator.run steps).keys.active ⊆ authenticator.pairsOf steps := by
  induction steps generalizing authenticator with
  | nil => exact List.Subset.refl _
  | cons step steps ih =>
    rw [run_cons, pairsOf]
    exact List.subset_append_of_subset_right _ (ih (authenticator.succeed step))

end Authenticator

/-! ## The key of a token -/

namespace Token

/-- Whether the signature of a token verifies under a key. -/
def IsSignedBy (token : String) : PublicKey → Prop
  | .p256 point => ∃ parts, Parts.ofText? token.toList = some parts ∧
    checkSignature point parts = .ok ()
  | .ed25519 _ => False

theorem checkSignature_eq_ok_iff {point : Curve.P256.Point} {parts : Parts} :
    checkSignature point parts = .ok () ↔ ∃ bytes signature, parts.signature = encodePart bytes ∧
      Ecdsa.Signature.ofFixed? bytes = some signature ∧
      Ecdsa.verify point parts.message signature = true := by
  simp only [checkSignature, Outcome.bind_eq_ok_iff, decodePart_eq_ok_iff]
  refine exists_congr fun bytes => ?_
  cases Ecdsa.Signature.ofFixed? bytes with
  | none => simp [throw, throwThe, MonadExceptOf.throw]
  | some signature =>
    cases hverify : Ecdsa.verify point parts.message signature <;>
      simp [hverify, throw, throwThe, MonadExceptOf.throw, pure, Except.pure]

/-- Once a token is open, its signature is at hand. -/
theorem isSignedBy_iff_of_opened {token : String} {content : Opened} {point : Curve.P256.Point}
    (h : opened token = .ok content) :
    IsSignedBy token (.p256 point) ↔ content.isSignedBy point = true := by
  obtain ⟨hparts, _, bytes, hbytes, hsignature⟩ := opened_eq_ok_iff.mp h
  simp only [IsSignedBy, checkSignature_eq_ok_iff]
  constructor
  · rintro ⟨parts, hparts', bytes', signature, hbytes', hsignature', hverify⟩
    obtain rfl := Option.some.inj (hparts.symm.trans hparts')
    obtain rfl := encodePart_inj.mp (hbytes.symm.trans hbytes')
    obtain rfl := Option.some.inj (hsignature.symm.trans hsignature')
    exact hverify
  · intro hverify
    exact ⟨content.parts, hparts, bytes, content.signature, hbytes, hsignature, hverify⟩

/-- Where all but the key is settled, the key pair decides. -/
theorem attempt_publicKey {issuer token : String} {now : Instant} {content : Opened}
    {claims : Claims} (hopened : opened token = .ok content)
    (hjudge : content.judge issuer now = .ok claims) (pair : KeyPair) :
    attempt issuer pair.publicKey now token =
      if content.isSignedBy pair.signingKey.point then .ok claims
      else .error Fault.signature.refusal := by
  rw [KeyPair.publicKey, attempt_p256, hopened]
  dsimp only
  rw [hjudge]

/-- A signature that fails under all keys in use is reported as such. -/
theorem exists_invalidSignature_of_validate {issuer token : String} {primary : PublicKey}
    {secondary : Option PublicKey} {now : Instant} {refusal : Refusal}
    (hfirst : attempt issuer primary now token = .error refusal)
    (hfailure : refusal.failure = .invalidSignature)
    (hsecond : ∀ key, secondary = some key → attempt issuer key now token = .error refusal) :
    ∃ refusal, validate issuer primary secondary now token = .error refusal ∧
      refusal.failure = .invalidSignature := by
  cases secondary with
  | none => exact ⟨refusal, validate_of_final hfirst (.inl rfl), hfailure⟩
  | some key =>
    refine ⟨refusal.note "primary key: invalid signature", ?_, hfailure⟩
    rw [validate_of_retry hfirst hfailure, hsecond key rfl]
    rfl

end Token

/-! ## The answer of the pairs in use -/

namespace Authenticator

/-- What an authenticator answers about a token with these claims that one key has signed. -/
structure Answers (authenticator : Authenticator) (now : Instant) (token : String)
    (claims : Token.Claims) (key : PublicKey) : Prop where
  accepts_iff : (∃ accepted, authenticator.validate now token = .ok accepted) ↔
    ∃ pair ∈ authenticator.keys.active, pair.publicKey = key
  /-- A key that is both the primary and the secondary one counts as the primary one. -/
  of_primary : authenticator.keys.primary.publicKey = key →
    authenticator.validate now token = .ok ⟨claims, .primary, 1⟩
  of_secondary : ∀ pair, authenticator.keys.secondary = some pair → pair.publicKey = key →
    authenticator.keys.primary.publicKey ≠ key →
    authenticator.validate now token = .ok ⟨claims, .secondary, 2⟩
  of_inactive : (∀ pair ∈ authenticator.keys.active, pair.publicKey ≠ key) →
    ∃ refusal, authenticator.validate now token = .error refusal ∧
      refusal.failure = .invalidSignature

section

variable {authenticator : Authenticator} {now : Instant} {token : String}
  {claims : Token.Claims} {key : PublicKey}

/-- The answer is known once it is known for each place that the key can have. -/
theorem Answers.of_places
    (hprimary : authenticator.keys.primary.publicKey = key →
      authenticator.validate now token = .ok ⟨claims, .primary, 1⟩)
    (hsecondary : ∀ pair, authenticator.keys.secondary = some pair → pair.publicKey = key →
      authenticator.keys.primary.publicKey ≠ key →
      authenticator.validate now token = .ok ⟨claims, .secondary, 2⟩)
    (hinactive : (∀ pair ∈ authenticator.keys.active, pair.publicKey ≠ key) →
      ∃ refusal, authenticator.validate now token = .error refusal ∧
        refusal.failure = .invalidSignature) :
    authenticator.Answers now token claims key := by
  refine ⟨⟨?_, ?_⟩, hprimary, hsecondary, hinactive⟩
  · rintro ⟨accepted, haccepted⟩
    refine Classical.byContradiction fun hnone => ?_
    obtain ⟨refusal, hrefusal, _⟩ :=
      hinactive fun pair hpair hkey => hnone ⟨pair, hpair, hkey⟩
    rw [hrefusal] at haccepted
    cases haccepted
  · rintro ⟨pair, hpair, hkey⟩
    by_cases hfirst : authenticator.keys.primary.publicKey = key
    · exact ⟨_, hprimary hfirst⟩
    · rcases KeySet.mem_active_iff.mp hpair with rfl | hsecond
      · exact absurd hkey hfirst
      · exact ⟨_, hsecondary pair hsecond hkey hfirst⟩

/-- The pairs in use decide about a token whose other parts are in order. -/
theorem answers_of_judge {content : Token.Opened} (hopened : Token.opened token = .ok content)
    (hjudge : content.judge authenticator.keys.issuer now = .ok claims)
    (hsigned : ∀ pair ∈ authenticator.keys.active,
      content.isSignedBy pair.signingKey.point = true ↔ pair.publicKey = key) :
    authenticator.Answers now token claims key := by
  have hyes : ∀ pair ∈ authenticator.keys.active, pair.publicKey = key →
      Token.attempt authenticator.keys.issuer pair.publicKey now token = .ok claims := by
    intro pair hpair hkey
    rw [Token.attempt_publicKey hopened hjudge, if_pos ((hsigned pair hpair).mpr hkey)]
  have hno : ∀ pair ∈ authenticator.keys.active, pair.publicKey ≠ key →
      Token.attempt authenticator.keys.issuer pair.publicKey now token =
        .error Token.Fault.signature.refusal := by
    intro pair hpair hkey
    rw [Token.attempt_publicKey hopened hjudge, if_neg (mt (hsigned pair hpair).mp hkey)]
  have hfirst : authenticator.keys.primary ∈ authenticator.keys.active :=
    KeySet.mem_active_iff.mpr (.inl rfl)
  refine .of_places (fun hkey => ?_) (fun pair hpair hkey hne => ?_) fun hnone => ?_
  · exact Token.validate_of_attempt_eq_ok _ (hyes _ hfirst hkey)
  · have hsecond := hyes pair (KeySet.mem_active_iff.mpr (.inr hpair)) hkey
    rw [validate, hpair, Option.map_some,
      Token.validate_of_retry (hno _ hfirst hne) rfl, hsecond]
    rfl
  · refine Token.exists_invalidSignature_of_validate (hno _ hfirst (hnone _ hfirst)) rfl ?_
    intro other hother
    obtain ⟨pair, hpair, rfl⟩ := Option.map_eq_some_iff.mp hother
    have hactive := KeySet.mem_active_iff.mpr (.inr hpair)
    exact hno pair hactive (hnone pair hactive)

/-- Nothing but the key and the clock can change the mind of an issuer that has accepted a token. -/
theorem exists_judge_of_validate {moment : Instant} {accepted : Token.Validated}
    (h : authenticator.validate moment token = .ok accepted)
    (hnow : now.seconds ≤ accepted.claims.expiresAt) :
    ∃ content, Token.opened token = .ok content ∧
      content.judge authenticator.keys.issuer now = .ok accepted.claims := by
  rw [validate, Token.validate] at h
  obtain ⟨key, slot, hattempt⟩ := Token.exists_attempt_of_validateWith h
  obtain ⟨_, content, _, hopened, _, hjudge⟩ := Token.exists_of_attempt_eq_ok hattempt
  obtain ⟨hread, hne, hissuer, _⟩ := Token.Opened.judge_eq_ok_iff.mp hjudge
  exact ⟨content, hopened, Token.Opened.judge_eq_ok_iff.mpr ⟨hread, hne, hissuer, hnow⟩⟩

/-- After any history that ends with the same issuer, an accepted token is accepted until it expires
if and only if the key that signed it, such as that of the pair it was issued with, is in use: with
the same claims, under the primary key in one attempt or else under the secondary one in two. If the
key is not in use, it is the signature that fails. -/
theorem answers_run {moment : Instant} {accepted : Token.Validated} {steps : List Step}
    (haccepted : authenticator.validate moment token = .ok accepted)
    (hsigned : ∀ pair ∈ authenticator.pairsOf steps,
      Token.IsSignedBy token pair.publicKey ↔ pair.publicKey = key)
    (hissuer : (authenticator.run steps).keys.issuer = authenticator.keys.issuer)
    (hnow : now.seconds ≤ accepted.claims.expiresAt) :
    (authenticator.run steps).Answers now token accepted.claims key := by
  obtain ⟨content, hopened, hjudge⟩ := exists_judge_of_validate haccepted hnow
  rw [← hissuer] at hjudge
  refine answers_of_judge hopened hjudge fun pair hpair => ?_
  have hpairs := hsigned pair (active_run_subset authenticator steps hpair)
  rw [KeyPair.publicKey, Token.isSignedBy_iff_of_opened hopened] at hpairs
  exact hpairs

end

/-- The pair whose public point is opposite to that of the private scalar one. -/
def oppositePair : KeyPair :=
  ⟨"k2",
    ⟨⟨0xffffffff00000000ffffffffffffffffbce6faada7179e84f3b9cac2fc632550, by decide, by decide⟩,
      Token.oppositePoint, by decide +kernel⟩⟩

/-- A history in which the first pair is rotated out, retired, brought back alone and rotated out
again. -/
def sampleHistory : List Step :=
  [.rotate oppositePair, .retire, .replace ⟨"https://a", Token.generatorPair, none⟩,
    .rotate oppositePair].map (Step.mk (sampleSettings "https://a"))

theorem mem_pairsOf_sampleHistory :
    ∀ count < 5, ∀ pair ∈ (sampleServer "https://a").pairsOf (sampleHistory.take count),
      pair = Token.generatorPair ∨ pair = oppositePair := by
  decide +kernel

theorem isSignedBy_samplePair {pair : KeyPair}
    (h : pair = Token.generatorPair ∨ pair = oppositePair) :
    Token.IsSignedBy Token.sampleParts.print pair.publicKey ↔
      pair.publicKey = Token.generatorPair.publicKey := by
  obtain ⟨hgenerator, hopposite⟩ := Token.isSignedBy_sampleParts
  rcases h with rfl | rfl
  · exact iff_of_true ((Token.isSignedBy_iff_of_opened Token.opened_sampleParts).mpr hgenerator) rfl
  · refine iff_of_false (fun hsigned => ?_) (by decide +kernel)
    have hcontent := (Token.isSignedBy_iff_of_opened Token.opened_sampleParts).mp hsigned
    exact Bool.false_ne_true (hopposite.symm.trans hcontent)

theorem validate_sampleServer :
    (sampleServer "https://a").validate Token.sampleMoment Token.sampleParts.print =
      .ok ⟨Token.sampleClaims, .primary, 1⟩ := by
  have hattempt : Token.attempt "https://a" Token.generatorPair.publicKey Token.sampleMoment
      Token.sampleParts.print = .ok Token.sampleClaims :=
    Token.attempt_p256_eq_ok_iff.mpr
      ⟨_, Token.opened_sampleParts, Token.isSignedBy_sampleParts.1, Token.judge_sampleParts⟩
  exact Token.validate_of_attempt_eq_ok none hattempt

/-- A token of the first pair: rotated out the pair is the secondary one, retired it is none, and a
second rotation makes it the secondary one again. -/
theorem answers_run_sampleHistory :
    (sampleServer "https://a").issue Token.samplePayload ⟨-1500000000⟩ "id-1" Token.sampleNonce =
        .ok Token.sampleParts.print ∧
      (sampleServer "https://a").validate Token.sampleMoment Token.sampleParts.print =
        .ok ⟨Token.sampleClaims, .primary, 1⟩ ∧
      ((sampleServer "https://a").run (sampleHistory.take 1)).validate Token.sampleMoment
          Token.sampleParts.print = .ok ⟨Token.sampleClaims, .secondary, 2⟩ ∧
      (∃ refusal, ((sampleServer "https://a").run (sampleHistory.take 2)).validate
          Token.sampleMoment Token.sampleParts.print = .error refusal ∧
        refusal.failure = .invalidSignature) ∧
      ((sampleServer "https://a").run sampleHistory).validate Token.sampleMoment
          Token.sampleParts.print = .ok ⟨Token.sampleClaims, .secondary, 2⟩ := by
  have hissuer : ∀ count < 5,
      ((sampleServer "https://a").run (sampleHistory.take count)).keys.issuer =
        (sampleServer "https://a").keys.issuer := by decide +kernel
  have hanswers (count : Nat) (hcount : count < 5) :=
    answers_run validate_sampleServer
      (fun pair hpair => isSignedBy_samplePair (mem_pairsOf_sampleHistory count hcount pair hpair))
      (hissuer count hcount) (by decide : Token.sampleMoment.seconds ≤ Token.sampleClaims.expiresAt)
  refine ⟨Token.issueAt_samplePayload, validate_sampleServer, ?_, ?_, ?_⟩
  · exact (hanswers 1 (by decide)).of_secondary Token.generatorPair (by decide +kernel) rfl
      (by decide +kernel)
  · exact (hanswers 2 (by decide)).of_inactive (by decide +kernel)
  · exact (hanswers 4 (by decide)).of_secondary Token.generatorPair (by decide +kernel) rfl
      (by decide +kernel)

end Authenticator

end Possession

import Possession.Authenticator
import Possession.Proofs.ContentDigest
import Possession.Proofs.Signature.Verification

/-!
# When a request is authenticated

`Holds` says what each of the nine stages demands, without saying how it is checked. A request is
accepted exactly when all stages hold; otherwise the first stage that does not is reported.
-/

namespace Possession.Authenticator

open Signature

/-! ## The stages -/

inductive Stage
  | reference
  | digest
  | key
  | binding
  | headers
  | coverage
  | algorithm
  | components
  | signature
  deriving DecidableEq, Repr

def Stage.position : Stage → Nat
  | reference => 0
  | digest => 1
  | key => 2
  | binding => 3
  | headers => 4
  | coverage => 5
  | algorithm => 6
  | components => 7
  | signature => 8

theorem Stage.position_inj {stage other : Stage} (h : stage.position = other.position) :
    stage = other := by
  cases stage <;> cases other <;> first | rfl | cases h

section

variable (authenticator : Authenticator) (request : Request) (reference jwk : String)

/-- Whether a signature covers what it must: the components that policy requires, and the digest if
the request has a body or declares a digest. -/
def Covers (params : Params) : Prop :=
  (∀ component ∈ authenticator.requiredComponents, component ∈ params.components) ∧
    (request.body.isSome ∨ request.contentDigest.isSome → digestComponent ∈ params.components)

/-- Whether a signature names no other algorithm than that of a key. -/
def NamesAlgorithmOf (params : Params) (key : PublicKey) : Prop :=
  ∀ name, params.algorithm? = some name → name = key.signatureAlgorithm

def Holds : Stage → Prop
  | .reference => ∃ named, KeyReference.parse reference = .ok named
  | .digest =>
    (request.contentDigest = none ∧ request.body = none ∧
        authenticator.digestPolicy.allowBodylessWithoutDigest = true) ∨
      ∃ value, request.contentDigest = some value ∧
        ContentDigest.isValid (some value) (request.body.getD []) = true
  | .key => ∃ key, PublicKey.parse jwk = .ok key
  | .binding => authenticator.enforceThumbprintBinding = true →
    ∃ named key, KeyReference.parse reference = .ok named ∧ PublicKey.parse jwk = .ok key ∧
      key.thumbprint named.algorithm = named.thumbprint
  | .headers => ∃ params bytes, Selects request params bytes
  | .coverage => ∃ params bytes, Selects request params bytes ∧ authenticator.Covers request params
  | .algorithm => ∃ params bytes key, Selects request params bytes ∧
    PublicKey.parse jwk = .ok key ∧ NamesAlgorithmOf params key
  | .components => ∃ params bytes, Selects request params bytes ∧
    ∀ component ∈ params.components, ∃ value, componentValue request component = .ok value
  | .signature => ∃ params bytes key text, Selects request params bytes ∧
    PublicKey.parse jwk = .ok key ∧ base request params = .ok text ∧
    (VerifiesAs (Bytes.ofText text) bytes key .der ∨
      VerifiesAs (Bytes.ofText text) bytes key .fixed)

/-- Whether the stages before a position hold. -/
def HoldsBefore (position : Nat) : Prop :=
  ∀ stage : Stage, stage.position < position → authenticator.Holds request reference jwk stage

/-- Whether a stage is the first one that does not hold. -/
def FailsFirst (stage : Stage) : Prop :=
  authenticator.HoldsBefore request reference jwk stage.position ∧
    ¬ authenticator.Holds request reference jwk stage

/-- What an authenticated request has been found to be. DER is reported wherever the bytes verify
in DER. -/
structure Accepts (accepted : Authenticated) : Prop where
  reference : KeyReference.parse reference = .ok accepted.reference
  /-- The digest is checked, or there is nothing to check and no need to. -/
  digest : (accepted.digest = .skipped ∧ request.contentDigest = none ∧ request.body = none ∧
      authenticator.digestPolicy.allowBodylessWithoutDigest = true) ∨
    (accepted.digest = .verified ∧ ∃ value, request.contentDigest = some value ∧
      ContentDigest.isValid (some value) (request.body.getD []) = true)
  key : PublicKey.parse jwk = .ok accepted.key
  /-- The reference names the key, if it must. -/
  binding : authenticator.enforceThumbprintBinding = true →
    accepted.key.thumbprint accepted.reference.algorithm = accepted.reference.thumbprint
  coverage : authenticator.Covers request accepted.signature.params
  algorithm : NamesAlgorithmOf accepted.signature.params accepted.key
  /-- The bytes in the headers are a signature of the base. -/
  signature : ∃ bytes text, Selects request accepted.signature.params bytes ∧
    base request accepted.signature.params = .ok text ∧
    VerifiesAs (Bytes.ofText text) bytes accepted.key accepted.signature.encoding ∧
    (accepted.signature.encoding = .fixed →
      ¬ VerifiesAs (Bytes.ofText text) bytes accepted.key .der)

end

variable {authenticator : Authenticator} {request : Request} {reference jwk : String}

/-! ## The steps -/

theorem checkBinding_eq_ok_iff {named : KeyReference} {key : PublicKey} :
    authenticator.checkBinding named key = .ok () ↔
      (authenticator.enforceThumbprintBinding = true →
        key.thumbprint named.algorithm = named.thumbprint) := by
  unfold checkBinding
  cases authenticator.enforceThumbprintBinding <;> simp [KeyReference.names, Outcome.refuse]

theorem mem_coveredFields_iff {component : String} :
    component ∈ authenticator.coveredFields request ↔
      component ∈ authenticator.requiredComponents ∨
        (component = digestComponent ∧ (request.body.isSome ∨ request.contentDigest.isSome)) := by
  by_cases hmem : digestComponent ∈ authenticator.requiredComponents
  · have hsame : authenticator.coveredFields request = authenticator.requiredComponents := by
      simp [coveredFields, hmem]
    rw [hsame]
    constructor
    · exact .inl
    · rintro (hrequired | ⟨rfl, _⟩)
      · exact hrequired
      · exact hmem
  · by_cases hcontent : request.body.isSome ∨ request.contentDigest.isSome <;>
      simp [coveredFields, hcontent, hmem]

theorem checkCovered_coveredFields_iff {params : Params} :
    checkCovered params (authenticator.coveredFields request) = .ok () ↔
      authenticator.Covers request params := by
  simp only [checkCovered_eq_ok_iff, mem_coveredFields_iff, Covers]
  constructor
  · intro h
    exact ⟨fun component hrequired => h component (.inl hrequired),
      fun hcontent => h digestComponent (.inr ⟨rfl, hcontent⟩)⟩
  · rintro ⟨hrequired, hdigest⟩ component (hmem | ⟨rfl, hcontent⟩)
    · exact hrequired component hmem
    · exact hdigest hcontent

theorem authenticate_eq_ok_iff {accepted : Authenticated} :
    authenticator.authenticate request reference jwk = .ok accepted ↔
      authenticator.Accepts request reference jwk accepted := by
  simp only [authenticate, Outcome.bind_eq_ok_iff]
  constructor
  · rintro ⟨named, hnamed, verdict, hdigest, key, hkey, ⟨⟩, hbinding, verified, hverify, h⟩
    cases h
    obtain ⟨bytes, text, hselects, hcovers, halgorithm, hbase, hverifies, hder⟩ :=
      verify_eq_ok_iff.mp hverify
    exact {
      reference := hnamed
      digest := ContentDigest.check_eq_ok_iff.mp hdigest
      key := hkey
      binding := checkBinding_eq_ok_iff.mp hbinding
      coverage := checkCovered_coveredFields_iff.mp (checkCovered_eq_ok_iff.mpr hcovers)
      algorithm := halgorithm
      signature := ⟨bytes, text, hselects, hbase, hverifies, hder⟩ }
  · intro h
    obtain ⟨bytes, text, hselects, hbase, hverifies, hder⟩ := h.signature
    have hcovers := checkCovered_eq_ok_iff.mp (checkCovered_coveredFields_iff.mpr h.coverage)
    exact ⟨accepted.reference, h.reference, accepted.digest,
      ContentDigest.check_eq_ok_iff.mpr h.digest, accepted.key, h.key, (),
      checkBinding_eq_ok_iff.mpr h.binding, accepted.signature,
      verify_eq_ok_iff.mpr ⟨bytes, text, hselects, hcovers, h.algorithm, hbase, hverifies, hder⟩,
      rfl⟩

/-- One more stage holds. -/
theorem HoldsBefore.succ (stage : Stage)
    (h : authenticator.HoldsBefore request reference jwk stage.position)
    (hstage : authenticator.Holds request reference jwk stage) :
    authenticator.HoldsBefore request reference jwk (stage.position + 1) := by
  intro earlier hearlier
  rcases Nat.lt_succ_iff_lt_or_eq.mp hearlier with hlt | heq
  · exact h earlier hlt
  · rw [Stage.position_inj heq]
    exact hstage

/-- No other stage is the first one that does not hold. -/
theorem FailsFirst.unique {stage other : Stage}
    (h : authenticator.FailsFirst request reference jwk stage)
    (h' : authenticator.FailsFirst request reference jwk other) : stage = other := by
  rcases Nat.lt_trichotomy stage.position other.position with hlt | heq | hgt
  · exact absurd (h'.1 stage hlt) h.2
  · exact Stage.position_inj heq
  · exact absurd (h.1 other hgt) h'.2

end Possession.Authenticator

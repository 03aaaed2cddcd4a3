import Possession.Proofs.Ecdsa.Der
import Possession.Proofs.Signature.Verification

/-!
# The layout that is reported

Each layout has one text for each pair of scalars. Bytes that can be read both ways are no exception
to what is reported, because what counts is whether the pair verifies that was read.
-/

namespace Possession.Signature

/-- Whether bytes are a signature of a message under a point, written in the given way. -/
def IsWritten (write : Ecdsa.Signature → Bytes) (point : Curve.P256.Point)
    (message bytes : Bytes) : Prop :=
  ∃ signature, bytes = write signature ∧ Ecdsa.verify point message signature = true

section

variable {point : Curve.P256.Point} {key : Ed25519.PublicKey} {message bytes : Bytes}

/-! ## P-256 -/

theorem verifiesAs_der_iff :
    VerifiesAs message bytes (.p256 point) .der ↔
      IsWritten Ecdsa.Signature.toDer point message bytes := by
  simp only [VerifiesAs, IsWritten, Ecdsa.Signature.ofDer?_eq_some_iff]

theorem verifiesAs_fixed_iff :
    VerifiesAs message bytes (.p256 point) .fixed ↔
      IsWritten Ecdsa.Signature.toFixed point message bytes := by
  simp only [VerifiesAs, IsWritten, Ecdsa.Signature.ofFixed?_eq_some_iff]

/-! ## Ed25519 -/

theorem verifiesAs_ed25519_iff :
    VerifiesAs message bytes (.ed25519 key) .fixed ↔
      bytes.length = 64 ∧
        Ed25519.verify key message ⟨bytes.take 32, bytes.drop 32⟩ = .ok () := by
  simp only [VerifiesAs, Ed25519.Signature.ofBytes?, Option.ite_none_right_eq_some,
    Option.some.injEq]
  constructor
  · rintro ⟨_, ⟨hlength, rfl⟩, hverify⟩
    exact ⟨hlength, hverify⟩
  · rintro ⟨hlength, hverify⟩
    exact ⟨_, ⟨hlength, rfl⟩, hverify⟩

/-! ## Reports -/

/-- Bytes that verify in neither layout are refused as an invalid signature. -/
theorem exists_invalidSignature_iff {key : PublicKey} :
    (∃ refusal, verifyBytes key message bytes = .error refusal ∧
        refusal.failure = .invalidSignature) ↔
      ¬ VerifiesAs message bytes key .der ∧ ¬ VerifiesAs message bytes key .fixed := by
  rw [← not_or, ← exists_verifyBytes_iff]
  constructor
  · rintro ⟨refusal, hrefused, -⟩ ⟨encoding, haccepted⟩
    rw [hrefused] at haccepted
    cases haccepted
  · intro hnone
    cases houtcome : verifyBytes key message bytes with
    | ok encoding => exact absurd ⟨encoding, houtcome⟩ hnone
    | error refusal => exact ⟨refusal, rfl, failure_of_verifyBytes_eq_error houtcome⟩

end

/-- Under a P-256 key, DER is reported for exactly the bytes that are a signature in DER, the fixed
layout for those that are one in the fixed layout only, and all other bytes are refused as an
invalid signature; so what is written for a signature that verifies is accepted in both layouts.
Under an Ed25519 key, exactly the signatures of sixty-four bytes that verify are accepted, never as
DER. -/
theorem verifyBytes_layouts (message bytes : Bytes) :
    (∀ point : Curve.P256.Point,
      (verifyBytes (.p256 point) message bytes = .ok .der ↔
        IsWritten Ecdsa.Signature.toDer point message bytes) ∧
      (verifyBytes (.p256 point) message bytes = .ok .fixed ↔
        ¬ IsWritten Ecdsa.Signature.toDer point message bytes ∧
          IsWritten Ecdsa.Signature.toFixed point message bytes) ∧
      ((∃ refusal, verifyBytes (.p256 point) message bytes = .error refusal ∧
          refusal.failure = .invalidSignature) ↔
        ¬ IsWritten Ecdsa.Signature.toDer point message bytes ∧
          ¬ IsWritten Ecdsa.Signature.toFixed point message bytes) ∧
      ∀ signature, Ecdsa.verify point message signature = true →
        verifyBytes (.p256 point) message signature.toDer = .ok .der ∧
          ∃ encoding, verifyBytes (.p256 point) message signature.toFixed = .ok encoding) ∧
    ∀ key : Ed25519.PublicKey,
      (∀ encoding, verifyBytes (.ed25519 key) message bytes = .ok encoding ↔
        encoding = .fixed ∧ bytes.length = 64 ∧
          Ed25519.verify key message ⟨bytes.take 32, bytes.drop 32⟩ = .ok ()) ∧
      ((∃ refusal, verifyBytes (.ed25519 key) message bytes = .error refusal ∧
          refusal.failure = .invalidSignature) ↔
        ¬ (bytes.length = 64 ∧
          Ed25519.verify key message ⟨bytes.take 32, bytes.drop 32⟩ = .ok ())) := by
  constructor
  · intro point
    refine ⟨?_, ?_, ?_, fun signature hverify => ⟨?_, ?_⟩⟩
    · rw [verifyBytes_eq_ok_iff, verifiesAs_der_iff]
      simp
    · rw [verifyBytes_eq_ok_iff, verifiesAs_der_iff, verifiesAs_fixed_iff]
      simp [and_comm]
    · rw [exists_invalidSignature_iff, verifiesAs_der_iff, verifiesAs_fixed_iff]
    · apply verifyBytes_eq_ok_iff.mpr
      exact ⟨verifiesAs_der_iff.mpr ⟨signature, rfl, hverify⟩, nofun⟩
    · apply exists_verifyBytes_iff.mpr
      exact .inr (verifiesAs_fixed_iff.mpr ⟨signature, rfl, hverify⟩)
  · intro key
    have hder : ¬ VerifiesAs message bytes (.ed25519 key) .der := id
    rw [exists_invalidSignature_iff, ← verifiesAs_ed25519_iff]
    refine ⟨fun encoding => ?_, by simp [hder]⟩
    rw [verifyBytes_eq_ok_iff]
    cases encoding with
    | der => simp [hder]
    | fixed => simp [hder]

/-- The public key of the private scalar two. -/
def doublePoint : Curve.P256.Point :=
  ⟨0x7cf27b188d034f7e8a52380304b51ac3c08969e277f21b35a60b48fc47669978,
    0x07775510db8ed040293d9ac69f7430dbba7dade63ce982299e04b79d227873d1, by decide +kernel⟩

def sampleMessage : Bytes := [0x02, 0x57]

/-- A signature whose first half has its top bit set and whose second half is a byte short. -/
def sampleSignature : Ecdsa.Signature where
  r := ⟨0xe2534a3532d08fbba02dde659ee62bd0031fe2db785596ef509302446b030852, by decide, by decide⟩
  s := ⟨0x159170ae26ec98e4afd9e17b2f80b0dbfba4354b3d08e008592197ab7225f2, by decide, by decide⟩

theorem verifyBytes_sampleSignature :
    Ecdsa.verify doublePoint sampleMessage sampleSignature = true ∧
      verifyBytes (.p256 doublePoint) sampleMessage sampleSignature.toDer = .ok .der ∧
      sampleSignature.toDer.length = 70 ∧
      ∃ encoding, verifyBytes (.p256 doublePoint) sampleMessage sampleSignature.toFixed =
        .ok encoding := by
  have hverify : Ecdsa.verify doublePoint sampleMessage sampleSignature = true := by
    decide +kernel
  obtain ⟨-, -, -, hwritten⟩ :=
    (verifyBytes_layouts sampleMessage sampleSignature.toDer).1 doublePoint
  obtain ⟨hder, hfixed⟩ := hwritten sampleSignature hverify
  exact ⟨hverify, hder, by decide +kernel, hfixed⟩

end Possession.Signature

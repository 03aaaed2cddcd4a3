import Possession.Ecdsa.Encoding
import Possession.Proofs.Bytes

/-!
# Signatures read back

A scalar has room in thirty-two bytes, so the two halves of a signature come back from their fixed
layout.
-/

namespace Possession.Ecdsa

theorem Scalar.ofNat?_val (scalar : Scalar) : Scalar.ofNat? scalar.val = some scalar :=
  dif_pos ⟨scalar.pos, scalar.lt⟩

theorem Scalar.lt_pow (scalar : Scalar) : scalar.val < Nat.pow 256 32 :=
  Nat.lt_trans scalar.lt (by decide)

theorem Scalar.one_lt_order : 1 < Curve.P256.order := by decide

/-- The least scalar. -/
def Scalar.one : Scalar := ⟨1, Nat.one_pos, Scalar.one_lt_order⟩

namespace Signature

theorem ofNats?_val (signature : Signature) :
    ofNats? signature.r.val signature.s.val = some signature := by
  rw [ofNats?, Scalar.ofNat?_val, Scalar.ofNat?_val]
  rfl

@[simp] theorem length_toFixed (signature : Signature) : signature.toFixed.length = 64 := by
  rw [toFixed, List.length_append, Bytes.length_ofNat, Bytes.length_ofNat]

theorem ofFixed?_toFixed (signature : Signature) :
    ofFixed? signature.toFixed = some signature := by
  have hfirst : (Bytes.ofNat 32 signature.r.val).length = 32 := Bytes.length_ofNat ..
  rw [ofFixed?, if_pos signature.length_toFixed, toFixed, List.take_left' hfirst,
    List.drop_left' hfirst, Bytes.toNat_ofNat signature.r.lt_pow,
    Bytes.toNat_ofNat signature.s.lt_pow, ofNats?_val]

theorem length_of_ofFixed? {bytes : Bytes} {signature : Signature}
    (h : ofFixed? bytes = some signature) : bytes.length = 64 := by
  rw [ofFixed?] at h
  split at h
  · assumption
  · cases h

end Signature

end Possession.Ecdsa

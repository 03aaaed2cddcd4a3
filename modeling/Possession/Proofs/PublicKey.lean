import Possession.Proofs.Base64
import Possession.Proofs.Text
import Possession.PublicKey

/-!
# What a thumbprint pins down

The text behind a thumbprint is injective: it holds the coordinates in base64url and between quotes,
and no symbol is a quote. So two keys with one thumbprint are the same key, or their texts are a
collision.
-/

namespace Possession

/-- Whether two texts are a collision: different, with the same digest. -/
def ThumbprintAlgorithm.Collision (algorithm : ThumbprintAlgorithm) (text other : String) : Prop :=
  text ≠ other ∧ algorithm.digest (Bytes.ofText text) = algorithm.digest (Bytes.ofText other)

theorem Curve.P256.Point.coordinates_lt (point : Point) : point.x < prime ∧ point.y < prime := by
  have h := point.onCurve
  simp only [isOnCurve, Bool.and_eq_true, decide_eq_true_eq] at h
  exact h.1

/-- A point is known by its coordinates. -/
theorem Curve.P256.Point.eq_of_coordinates {point other : Point} (hx : point.x = other.x)
    (hy : point.y = other.y) : point = other := by
  cases point
  cases other
  simp_all

/-- A key is known by its bytes. -/
theorem Ed25519.PublicKey.eq_of_bytes {key other : Ed25519.PublicKey}
    (h : key.bytes = other.bytes) : key = other := by
  cases key
  cases other
  simp_all

namespace PublicKey

/-- A coordinate is known by its encoding. -/
theorem encodeCoordinate_inj {n m : Nat} (hn : n < Curve.P256.prime) (hm : m < Curve.P256.prime) :
    encodeCoordinate n = encodeCoordinate m ↔ n = m := by
  have hroom : Curve.P256.prime < Nat.pow 256 32 := by decide
  rw [encodeCoordinate, encodeCoordinate, Base64.encode_inj,
    Bytes.ofNat_inj (Nat.lt_trans hn hroom) (Nat.lt_trans hm hroom)]

theorem quote_notMem_encode (bytes : Bytes) :
    '"' ∉ (Base64.encode Base64.urlUnpadded bytes).toList := by
  rw [Base64.encode, String.toList_ofList]
  exact Base64.notMem_encodeChars (by decide) (by decide) bytes

/-- An encoded value ends at the quote after it. -/
theorem encode_append_quote_inj {bytes other : Bytes} {back back' : List Char}
    (h : (Base64.encode Base64.urlUnpadded bytes).toList ++ '"' :: back =
      (Base64.encode Base64.urlUnpadded other).toList ++ '"' :: back') :
    Base64.encode Base64.urlUnpadded bytes = Base64.encode Base64.urlUnpadded other ∧
      back = back' := by
  obtain ⟨hfront, hback⟩ :=
    Text.append_cons_inj (quote_notMem_encode bytes) (quote_notMem_encode other) h
  exact ⟨String.toList_inj.mp hfront, hback⟩

/-! ## The text of each kind -/

theorem toList_thumbprintInput_p256 (point : Curve.P256.Point) :
    (p256 point).thumbprintInput.toList =
      "\x7b\"crv\":\"P-256\",\"kty\":\"EC\",\"x\":\"".toList ++
        ((encodeCoordinate point.x).toList ++ '"' :: (",\"y\":\"".toList ++
          ((encodeCoordinate point.y).toList ++ '"' :: ['\x7d']))) := by
  have hbetween : "\",\"y\":\"".toList = '"' :: ",\"y\":\"".toList := by decide
  have hend : "\"\x7d".toList = ['"', '\x7d'] := by decide
  unfold thumbprintInput
  simp only [String.toList_append, List.append_assoc, hbetween, hend, List.cons_append]

theorem toList_thumbprintInput_ed25519 (key : Ed25519.PublicKey) :
    (ed25519 key).thumbprintInput.toList =
      "\x7b\"crv\":\"Ed25519\",\"kty\":\"OKP\",\"x\":\"".toList ++
        ((Base64.encode Base64.urlUnpadded key.bytes).toList ++ '"' :: ['\x7d']) := by
  have hend : "\"\x7d".toList = ['"', '\x7d'] := by decide
  unfold thumbprintInput
  simp only [String.toList_append, List.append_assoc, hend]

/-- The two kinds differ in the name of the curve, which comes first. -/
theorem thumbprintInput_p256_ne_ed25519 (point : Curve.P256.Point) (key : Ed25519.PublicKey) :
    (p256 point).thumbprintInput ≠ (ed25519 key).thumbprintInput := by
  intro h
  have htake := congrArg (List.take 9 ∘ String.toList) h
  rw [Function.comp_apply, Function.comp_apply, toList_thumbprintInput_p256,
    toList_thumbprintInput_ed25519, List.take_append_of_le_length (by decide),
    List.take_append_of_le_length (by decide)] at htake
  exact absurd htake (by decide)

/-- A point is known by the text behind its thumbprint. -/
theorem point_eq_of_thumbprintInput_eq {point other : Curve.P256.Point}
    (h : (p256 point).thumbprintInput = (p256 other).thumbprintInput) : point = other := by
  have hchars := congrArg String.toList h
  rw [toList_thumbprintInput_p256, toList_thumbprintInput_p256] at hchars
  obtain ⟨hx, hrest⟩ := encode_append_quote_inj (List.append_cancel_left hchars)
  obtain ⟨hy, _⟩ := encode_append_quote_inj (List.append_cancel_left hrest)
  have hlt := point.coordinates_lt
  have hlt' := other.coordinates_lt
  exact Curve.P256.Point.eq_of_coordinates ((encodeCoordinate_inj hlt.1 hlt'.1).mp hx)
    ((encodeCoordinate_inj hlt.2 hlt'.2).mp hy)

/-- An Ed25519 key is known by the text behind its thumbprint. -/
theorem key_eq_of_thumbprintInput_eq {key other : Ed25519.PublicKey}
    (h : (ed25519 key).thumbprintInput = (ed25519 other).thumbprintInput) : key = other := by
  have hchars := congrArg String.toList h
  rw [toList_thumbprintInput_ed25519, toList_thumbprintInput_ed25519] at hchars
  obtain ⟨hbytes, _⟩ := encode_append_quote_inj (List.append_cancel_left hchars)
  exact Ed25519.PublicKey.eq_of_bytes (Base64.encode_inj.mp hbytes)

/-- A key of either kind is known by the text behind its thumbprint. -/
theorem thumbprintInput_inj {key other : PublicKey} :
    key.thumbprintInput = other.thumbprintInput ↔ key = other := by
  refine ⟨fun h => ?_, fun h => h ▸ rfl⟩
  cases key with
  | p256 point =>
    cases other with
    | p256 point' => rw [point_eq_of_thumbprintInput_eq h]
    | ed25519 key' => exact absurd h (thumbprintInput_p256_ne_ed25519 point key')
  | ed25519 key =>
    cases other with
    | p256 point' => exact absurd h.symm (thumbprintInput_p256_ne_ed25519 point' key)
    | ed25519 key' => rw [key_eq_of_thumbprintInput_eq h]

/-! ## Thumbprints -/

theorem thumbprint_eq_iff {key other : PublicKey} {algorithm : ThumbprintAlgorithm} :
    key.thumbprint algorithm = other.thumbprint algorithm ↔
      algorithm.digest (Bytes.ofText key.thumbprintInput) =
        algorithm.digest (Bytes.ofText other.thumbprintInput) := by
  rw [thumbprint, thumbprint, Base64.encode_inj]

/-- Keys with the same thumbprint are the same key, or else their texts are a collision. -/
theorem eq_or_collision_of_thumbprint_eq {key other : PublicKey} {algorithm : ThumbprintAlgorithm}
    (h : key.thumbprint algorithm = other.thumbprint algorithm) :
    key = other ∨ algorithm.Collision key.thumbprintInput other.thumbprintInput := by
  by_cases hsame : key = other
  · exact .inl hsame
  · exact .inr ⟨fun hinput => hsame (thumbprintInput_inj.mp hinput), thumbprint_eq_iff.mp h⟩

end PublicKey

end Possession

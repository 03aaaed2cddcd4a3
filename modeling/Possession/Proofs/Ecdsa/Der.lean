import Possession.Proofs.Ecdsa.Encoding

/-!
# Strict DER

DER has one text for each signature, so reading is the exact inverse of writing. An integer is seen
as the digits of its number without leading zeros, before which the sign may ask for one.
-/

namespace Possession.Ecdsa

theorem Scalar.lt_pow_succ (scalar : Scalar) : scalar.val < Nat.pow 256 33 :=
  Nat.lt_trans scalar.lt_pow (by decide)

namespace Signature

/-! ## Integers -/

/-- The content of a DER integer with the given digits, which have no leading zeros. -/
def signed : Bytes → Bytes
  | [] => [0]
  | first :: rest => if first < 0x80 then first :: rest else 0 :: first :: rest

/-- Only the digits of a number matter, whatever width they were taken from. -/
theorem derContent_toNat (bytes : Bytes) (h : Bytes.toNat bytes < Nat.pow 256 33) :
    derContent (Bytes.toNat bytes) = signed (bytes.dropWhile (· == 0)) := by
  have hdigits : (Bytes.ofNat 33 (Bytes.toNat bytes)).dropWhile (· == 0) =
      bytes.dropWhile (· == 0) :=
    Bytes.dropWhile_zero_eq_of_toNat_eq (Bytes.toNat_ofNat h)
  rw [derContent, hdigits]
  cases bytes.dropWhile (· == 0) <;> rfl

theorem readDerContent?_signed {digits : Bytes} (hhead : digits.head? ≠ some 0) :
    readDerContent? (signed digits) = some (Bytes.toNat digits) := by
  cases digits with
  | nil => rfl
  | cons first rest =>
    have hne : first ≠ 0 := by
      rintro rfl
      exact hhead rfl
    by_cases hfirst : first < 0x80
    · cases rest with
      | nil => simp [signed, readDerContent?, hfirst, Bytes.toNat]
      | cons second rest => simp [signed, readDerContent?, hfirst, hne]
    · have htop : 0x80 ≤ first := UInt8.not_lt.mp hfirst
      simp [signed, readDerContent?, hfirst, htop, Bytes.toNat]

/-- An integer that is read is written with the same bytes. -/
theorem signed_of_readDerContent? {content : Bytes} {n : Nat}
    (h : readDerContent? content = some n) :
    Bytes.toNat content = n ∧ signed (content.dropWhile (· == 0)) = content := by
  match content with
  | [] => cases h
  | [byte] =>
    simp only [readDerContent?, Option.ite_none_right_eq_some, Option.some.injEq] at h
    obtain ⟨hbyte, rfl⟩ := h
    refine ⟨by simp [Bytes.toNat], ?_⟩
    by_cases hzero : byte = 0
    · subst hzero
      rfl
    · simp [signed, hzero, hbyte]
  | first :: second :: rest =>
    simp only [readDerContent?, Option.ite_none_right_eq_some, Option.some.injEq] at h
    obtain ⟨⟨hfirst, hsign⟩, rfl⟩ := h
    refine ⟨rfl, ?_⟩
    by_cases hzero : first = 0
    · have htop := hsign hzero
      have hsecond : second ≠ 0 := by
        rintro rfl
        exact absurd htop (by decide)
      simp [signed, hzero, hsecond, UInt8.not_lt.mpr htop]
    · simp [signed, hzero, hfirst]

/-- An integer of at most thirty-three bytes is read exactly from the bytes that it is written
with. -/
theorem readDerContent?_eq_some_iff {content : Bytes} {n : Nat} (hn : n < Nat.pow 256 33) :
    readDerContent? content = some n ↔ content = derContent n := by
  constructor
  · intro h
    obtain ⟨rfl, hcontent⟩ := signed_of_readDerContent? h
    rw [derContent_toNat content hn, hcontent]
  · rintro rfl
    have hvalue : Bytes.toNat (Bytes.ofNat 33 n) = n := Bytes.toNat_ofNat hn
    have hwritten := derContent_toNat (Bytes.ofNat 33 n) (hvalue.symm ▸ hn)
    rw [hvalue] at hwritten
    rw [hwritten, readDerContent?_signed (Bytes.head?_dropWhile_zero _),
      Bytes.toNat_dropWhile_zero, hvalue]

theorem length_derContent_le (n : Nat) : (derContent n).length ≤ 34 := by
  have hdigits : ((Bytes.ofNat 33 n).dropWhile (· == 0)).length ≤ 33 := by
    have hsuffix : (Bytes.ofNat 33 n).dropWhile (· == 0) <:+ Bytes.ofNat 33 n :=
      List.dropWhile_suffix _
    rw [← Bytes.length_ofNat 33 n]
    exact hsuffix.length_le
  rw [derContent]
  cases hcase : (Bytes.ofNat 33 n).dropWhile (· == 0) with
  | nil => simp
  | cons first rest =>
    rw [hcase] at hdigits
    dsimp only
    split
    · omega
    · rw [List.length_cons]
      omega

/-! ## Values -/

theorem length_derValue (tag : UInt8) (content : Bytes) :
    (derValue tag content).length = content.length + 2 := rfl

theorem readDerValue?_derValue (tag : UInt8) {content : Bytes} (h : content.length < 0x80)
    (rest : Bytes) : readDerValue? tag (derValue tag content ++ rest) = some (content, rest) := by
  have hlength : (UInt8.ofNat content.length).toNat = content.length := by
    rw [UInt8.toNat_ofNat']
    omega
  have hshort : UInt8.ofNat content.length < 0x80 := by
    rw [UInt8.lt_iff_toNat_lt, hlength]
    exact h
  simp [derValue, readDerValue?, hlength, hshort]

/-- What is read as a value, and what is left, are the bytes that were there. -/
theorem eq_of_readDerValue? {tag : UInt8} {bytes content rest : Bytes}
    (h : readDerValue? tag bytes = some (content, rest)) :
    bytes = derValue tag content ++ rest := by
  match bytes with
  | [] | [_] => cases h
  | first :: length :: behind =>
    simp only [readDerValue?, Option.ite_none_right_eq_some, Option.some.injEq,
      Prod.mk.injEq] at h
    obtain ⟨⟨rfl, -, hroom⟩, rfl, rfl⟩ := h
    have hlength : (behind.take length.toNat).length = length.toNat := by
      rw [List.length_take, Nat.min_eq_left hroom]
    rw [derValue, hlength, UInt8.ofNat_toNat, List.cons_append, List.cons_append,
      List.take_append_drop]

/-! ## Signatures -/

theorem ofNats?_eq_some_iff {r s : Nat} {signature : Signature} :
    ofNats? r s = some signature ↔ r = signature.r.val ∧ s = signature.s.val := by
  have hscalar : ∀ {n : Nat} {scalar : Scalar}, Scalar.ofNat? n = some scalar → n = scalar.val := by
    intro n scalar h
    rw [Scalar.ofNat?] at h
    split at h
    · cases h
      rfl
    · cases h
  constructor
  · intro h
    simp only [ofNats?, Option.bind_eq_bind, Option.bind_eq_some_iff, Option.pure_def,
      Option.some.injEq] at h
    obtain ⟨r', hr, s', hs, rfl⟩ := h
    exact ⟨hscalar hr, hscalar hs⟩
  · rintro ⟨rfl, rfl⟩
    exact ofNats?_val signature

theorem ofFixed?_eq_some_iff {bytes : Bytes} {signature : Signature} :
    ofFixed? bytes = some signature ↔ bytes = signature.toFixed := by
  constructor
  · intro h
    have hlength := length_of_ofFixed? h
    rw [ofFixed?, if_pos hlength, ofNats?_eq_some_iff] at h
    have hfirst : (bytes.take 32).length = 32 := by simp [hlength]
    have hsecond : (bytes.drop 32).length = 32 := by simp [hlength]
    have hr := Bytes.ofNat_toNat (bytes.take 32)
    have hs := Bytes.ofNat_toNat (bytes.drop 32)
    rw [hfirst, h.1] at hr
    rw [hsecond, h.2] at hs
    rw [toFixed, hr, hs, List.take_append_drop]
  · rintro rfl
    exact ofFixed?_toFixed signature

/-- Bytes are read as a signature in DER exactly if they are what is written for it. -/
theorem ofDer?_eq_some_iff {bytes : Bytes} {signature : Signature} :
    ofDer? bytes = some signature ↔ bytes = signature.toDer := by
  have hr := length_derContent_le signature.r.val
  have hs := length_derContent_le signature.s.val
  constructor
  · intro h
    simp only [ofDer?, Option.bind_eq_bind, Option.bind_eq_some_iff, Prod.exists] at h
    obtain ⟨sequence, after, hsequence, r, rest, hfirst, s, surplus, hsecond, h⟩ := h
    split at h
    · cases h
    · next hends =>
      simp only [not_or, Decidable.not_not] at hends
      obtain ⟨rfl, rfl⟩ := hends
      simp only [Option.bind_eq_some_iff, ofNats?_eq_some_iff] at h
      obtain ⟨_, hr', _, hs', rfl, rfl⟩ := h
      rw [readDerContent?_eq_some_iff (Scalar.lt_pow_succ _)] at hr' hs'
      rw [eq_of_readDerValue? hsequence, eq_of_readDerValue? hfirst, eq_of_readDerValue? hsecond,
        toDer, hr', hs', List.append_nil, List.append_nil]
  · rintro rfl
    have hlength : (derValue 0x02 (derContent signature.r.val) ++
        derValue 0x02 (derContent signature.s.val)).length < 0x80 := by
      rw [List.length_append, length_derValue, length_derValue]
      omega
    have hsequence := readDerValue?_derValue 0x30 hlength []
    have hfirst := readDerValue?_derValue 0x02 (Nat.lt_of_le_of_lt hr (by decide))
      (derValue 0x02 (derContent signature.s.val))
    have hsecond := readDerValue?_derValue 0x02 (Nat.lt_of_le_of_lt hs (by decide)) []
    rw [List.append_nil] at hsequence hsecond
    have hr' := (readDerContent?_eq_some_iff signature.r.lt_pow_succ).mpr rfl
    have hs' := (readDerContent?_eq_some_iff signature.s.lt_pow_succ).mpr rfl
    simp [ofDer?, toDer, hsequence, hfirst, hsecond, hr', hs', ofNats?_val]

end Signature

end Possession.Ecdsa

import Possession.Proofs.Json.Number

/-!
# Doubles as texts

Whatever a decimal is, its layout is the text of a number; all that is needed of the search for the
shortest one is that it does not put zeros after a leading zero.
-/

namespace Possession

namespace Decimal

theorem candidate_digits_ne_zero {tie : Tie} {closed : Bool} {low value high scale : Nat}
    {unit : Int} {digits : Digits}
    (h : candidate tie closed low value high scale unit = some digits) : digits.digits ≠ 0 := by
  simp only [candidate] at h
  split at h
  · next hnearer =>
    cases h
    simpa using (Bool.and_eq_true_iff.mp hnearer).2
  · split at h
    · next hfloor =>
      cases h
      simpa using (Bool.and_eq_true_iff.mp hfloor).2
    · split at h
      · cases h
        exact Nat.succ_ne_zero _
      · cases h

/-- The digits that are found are no zero with a place of its own. -/
theorem search_digits_ne_zero (tie : Tie) (closed : Bool) (low value high scale : Nat) (top : Int)
    (tries : Nat) :
    (search tie closed low value high scale top tries).digits ≠ 0 ∨
      (search tie closed low value high scale top tries).exponent = 0 := by
  induction tries generalizing top with
  | zero => exact .inr rfl
  | succ tries ih =>
    rw [search]
    cases hcandidate : candidate tie closed low value high scale top with
    | some digits => exact .inl (candidate_digits_ne_zero hcandidate)
    | none => exact ih (top - 1)

theorem shortest_digits_ne_zero (tie : Tie) (mantissa : Nat) (exponent : Int) :
    (shortest tie mantissa exponent).digits ≠ 0 ∨ (shortest tie mantissa exponent).exponent = 0 :=
  search_digits_ne_zero _ _ _ _ _ _ _ _

end Decimal

namespace Json

namespace DigitRun

def zero : DigitRun := ofNat 0

/-- A run with zeros after it. -/
def padRight (run : DigitRun) (count : Nat) : DigitRun where
  chars := run.chars ++ List.replicate count '0'
  ne_nil := by simp [run.ne_nil]
  isDigit := by
    refine List.forall_mem_append.mpr ⟨run.isDigit, fun c hc => ?_⟩
    rw [List.eq_of_mem_replicate hc]
    decide

/-- A run with zeros before it. -/
def padLeft (run : DigitRun) (count : Nat) : DigitRun where
  chars := List.replicate count '0' ++ run.chars
  ne_nil := by simp [run.ne_nil]
  isDigit := by
    refine List.forall_mem_append.mpr ⟨fun c hc => ?_, run.isDigit⟩
    rw [List.eq_of_mem_replicate hc]
    decide

def take (run : DigitRun) (count : Nat) (h : 0 < count) : DigitRun where
  chars := run.chars.take count
  ne_nil := by simp [run.ne_nil, Nat.ne_of_gt h]
  isDigit c hc := run.isDigit c (List.mem_of_mem_take hc)

def drop (run : DigitRun) (count : Nat) (h : count < run.chars.length) : DigitRun where
  chars := run.chars.drop count
  ne_nil := by simpa using h
  isDigit c hc := run.isDigit c (List.mem_of_mem_drop hc)

end DigitRun

/-- Only zero and its multiples are padded to a run with the digit zero first. -/
theorem DigitRun.head?_padRight {n count : Nat}
    (h : ((DigitRun.ofNat n).padRight count).chars.head? = some '0') : n = 0 := by
  have hhead : ((DigitRun.ofNat n).padRight count).chars.head? = (Nat.toDigits 10 n).head? := by
    rw [padRight, ofNat, List.head?_append, Option.or_of_isSome (by simp [Nat.toDigits_ne_nil])]
  exact head?_toDigits (hhead ▸ h)

theorem DigitRun.head?_take {n count : Nat} (hpos : 0 < count)
    (h : ((DigitRun.ofNat n).take count hpos).chars.head? = some '0') : n = 0 := by
  rw [take, List.head?_take, if_neg (Nat.ne_of_gt hpos)] at h
  exact head?_toDigits h

namespace NumeralText

open Decimal (digitChars)

variable (d : Decimal.Digits)

/-- A whole number with a zero after the point. -/
def integral (h : d.digits ≠ 0 ∨ d.exponent = 0) : NumeralText where
  whole := (DigitRun.ofNat d.digits).padRight d.exponent.toNat
  zero hzero := by
    have hdigits := DigitRun.head?_padRight hzero
    have hexponent := h.resolve_left (not_not_intro hdigits)
    rw [DigitRun.padRight, DigitRun.ofNat, hdigits, hexponent]
    rfl
  fraction := some .zero
  exponent := none

/-- Digits on both sides of the point. -/
def mixed (count : Nat) (hpos : 0 < count) (h : count < (digitChars d.digits).length) :
    NumeralText where
  whole := (DigitRun.ofNat d.digits).take count hpos
  zero hzero := by
    have hsingle : (digitChars d.digits).length = 1 := by
      rw [DigitRun.head?_take hpos hzero]
      rfl
    omega
  fraction := some ((DigitRun.ofNat d.digits).drop count h)
  exponent := none

/-- Digits after the point only. -/
def fractional (zeros : Nat) : NumeralText where
  whole := .zero
  zero _ := rfl
  fraction := some ((DigitRun.ofNat d.digits).padLeft zeros)
  exponent := none

/-- One digit before the point, if there is one, and an exponent. -/
def scientific : NumeralText where
  whole := (DigitRun.ofNat d.digits).take 1 Nat.one_pos
  zero hzero := by
    rw [DigitRun.take, DigitRun.ofNat, DigitRun.head?_take _ hzero]
    rfl
  fraction :=
    if h : 1 < (digitChars d.digits).length then some ((DigitRun.ofNat d.digits).drop 1 h) else none
  exponent := some (decide (d.magnitude < 0), .ofNat d.magnitude.natAbs)

theorem chars_integral (h : d.digits ≠ 0 ∨ d.exponent = 0) (hexponent : 0 ≤ d.exponent) :
    (integral d h).chars = d.positional ++ ['.', '0'] := by
  simp [chars, integral, fractionChars, exponentChars, Decimal.Digits.positional, hexponent,
    DigitRun.padRight, DigitRun.ofNat, DigitRun.zero, digitChars]

theorem chars_mixed (hexponent : d.exponent < 0)
    (h : (-d.exponent).toNat < (digitChars d.digits).length) :
    (mixed d ((digitChars d.digits).length - (-d.exponent).toNat) (by omega) (by omega)).chars =
      d.positional := by
  have hneg : ¬ 0 ≤ d.exponent := by omega
  rw [Decimal.Digits.positional, if_neg hneg]
  dsimp only
  rw [if_pos h]
  simp [chars, mixed, fractionChars, exponentChars, DigitRun.take, DigitRun.drop, DigitRun.ofNat,
    digitChars]

theorem chars_fractional (hexponent : d.exponent < 0)
    (h : ¬ (-d.exponent).toNat < (digitChars d.digits).length) :
    (fractional d ((-d.exponent).toNat - (digitChars d.digits).length)).chars = d.positional := by
  have hneg : ¬ 0 ≤ d.exponent := by omega
  rw [Decimal.Digits.positional, if_neg hneg]
  dsimp only
  rw [if_neg h]
  simp [chars, fractional, fractionChars, exponentChars, DigitRun.padLeft,
    DigitRun.ofNat, DigitRun.zero, digitChars]

theorem chars_scientific : (scientific d).chars = d.scientific := by
  have hpos : 0 < (digitChars d.digits).length := List.length_pos_iff.mpr Nat.toDigits_ne_nil
  have hsign : (if decide (d.magnitude < 0) then '-' else '+') =
      if 0 ≤ d.magnitude then '+' else '-' := by
    by_cases h : d.magnitude < 0
    · simp [h]
    · simp [h, Int.not_lt.mp h]
  rw [Decimal.Digits.scientific, chars, scientific, exponentChars, hsign]
  dsimp only
  by_cases h : 1 < (digitChars d.digits).length
  · rw [dif_pos h, if_neg (Nat.ne_of_gt h)]
    rfl
  · have hsingle : (digitChars d.digits).length = 1 := by omega
    rw [dif_neg h, if_pos hsingle]
    rfl

/-- A decimal as it is laid out. -/
def ofDigits (h : d.digits ≠ 0 ∨ d.exponent = 0) : NumeralText :=
  if -5 ≤ d.magnitude ∧ d.magnitude ≤ 15 then
    if 0 ≤ d.exponent then integral d h
    else if hplaces : (-d.exponent).toNat < (digitChars d.digits).length ∧ d.exponent < 0 then
      mixed d ((digitChars d.digits).length - (-d.exponent).toNat) (by omega) (by omega)
    else fractional d ((-d.exponent).toNat - (digitChars d.digits).length)
  else scientific d

theorem chars_ofDigits (h : d.digits ≠ 0 ∨ d.exponent = 0) : (ofDigits d h).chars = layout d := by
  rw [ofDigits, layout]
  by_cases hmagnitude : -5 ≤ d.magnitude ∧ d.magnitude ≤ 15
  · rw [if_pos hmagnitude, if_pos hmagnitude]
    by_cases hexponent : 0 ≤ d.exponent
    · rw [if_pos hexponent, if_pos hexponent, chars_integral d h hexponent]
    · rw [if_neg hexponent, if_neg hexponent]
      have hnegative : d.exponent < 0 := by omega
      split
      · next hplaces => exact chars_mixed d hnegative hplaces.1
      · next hplaces => exact chars_fractional d hnegative fun h => hplaces ⟨h, hnegative⟩
  · rw [if_neg hmagnitude, if_neg hmagnitude, chars_scientific]

/-- The sign and the text of a number of the format, if it has a notation. -/
def ofDouble? : Decimal.Binary64 → Option (Bool × NumeralText)
  | .finite negative mantissa exponent =>
    some (negative,
      if mantissa = 0 then fractional ⟨0, 0⟩ 0
      else ofDigits _ (Decimal.shortest_digits_ne_zero .even mantissa exponent))
  | _ => none

theorem doubleChars_eq (x : Decimal.Binary64) :
    doubleChars x =
      match ofDouble? x with
      | some (negative, text) => signedChars negative text
      | none => Json.chars .null := by
  cases x with
  | finite negative mantissa exponent =>
    simp only [doubleChars, ofDouble?, signedChars]
    by_cases h : mantissa = 0
    · rw [if_pos h, if_pos h]
      rfl
    · rw [if_neg h, if_neg h, chars_ofDigits]
  | _ => rfl

end NumeralText

end Json

end Possession

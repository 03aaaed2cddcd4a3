import Possession.Json.Printing
import Possession.Json.Reading
import Possession.Proofs.Bytes

/-!
# Numbers as texts

The scanner takes each run of digits as far as it goes, so what follows must not continue a number.
An integer that fits 64 bits reads back as itself, and nothing that reads as an integer is another
one.
-/

namespace Possession.Json

/-! ## Digits -/

def digitsOf (n : Nat) : List Nat := (Nat.toDigits 10 n).map fun c => c.toNat - 48

theorem toNat_of_mem_toDigits {n : Nat} {c : Char} (h : c ∈ Nat.toDigits 10 n) :
    48 ≤ c.toNat ∧ c.toNat ≤ 57 := by
  have hdigit := Nat.isDigit_of_mem_toDigits (by decide) (by decide) h
  simpa [Char.isDigit, UInt32.le_iff_toNat_le] using hdigit

theorem foldl_digitsOf (n : Nat) : (digitsOf n).foldl (fun m digit => m * 10 + digit) 0 = n := by
  have h := @Nat.ofDigitChars_toDigits 10 n (by decide) (by decide)
  rw [Nat.ofDigitChars_eq_foldl] at h
  rw [digitsOf, List.foldl_map]
  simpa [Nat.mul_comm] using h

/-- Only zero begins with the digit zero. -/
theorem head?_digitsOf {n : Nat} (h : (digitsOf n).head? = some 0) : n = 0 := by
  induction n using Nat.strongRecOn with
  | ind n ih =>
    rw [digitsOf, Nat.toDigits_eq_if (by decide)] at h
    split at h
    · next hlt =>
      have hall : ∀ m < 10, m.digitChar.toNat - 48 = m := by decide
      simpa [hall n hlt] using h
    · next hge =>
      rw [List.map_append, List.head?_append, Option.or_of_isSome (by simp)] at h
      have hzero := ih (n / 10) (by omega) h
      omega

/-- Only zero is written with the digit zero first. -/
theorem head?_toDigits {n : Nat} (h : (Nat.toDigits 10 n).head? = some '0') : n = 0 := by
  refine head?_digitsOf ?_
  rw [digitsOf, List.head?_map, h]
  rfl

/-- One or more decimal digits. -/
structure DigitRun where
  chars : List Char
  ne_nil : chars ≠ []
  isDigit : ∀ c ∈ chars, 48 ≤ c.toNat ∧ c.toNat ≤ 57

namespace DigitRun

def values (run : DigitRun) : List Nat := run.chars.map fun c => c.toNat - 48

def ofNat (n : Nat) : DigitRun where
  chars := Nat.toDigits 10 n
  ne_nil := Nat.toDigits_ne_nil
  isDigit _ := toNat_of_mem_toDigits

variable (run : DigitRun)

theorem values_ne_nil : run.values ≠ [] := by
  simp [values, run.ne_nil]

/-- Only the digit zero has the value zero. -/
theorem head?_chars (h : run.values.head? = some 0) : run.chars.head? = some '0' := by
  rw [values, List.head?_map, Option.map_eq_some_iff] at h
  obtain ⟨c, hc, hzero⟩ := h
  obtain ⟨hlower, -⟩ := run.isDigit c (List.mem_of_mem_head? hc)
  have hcode : c.toNat = ('0' : Char).toNat := by
    change c.toNat = 48
    omega
  rw [hc, Char.ext (UInt32.toNat_inj.mp hcode)]

theorem ofChars_chars : Bytes.ofChars run.chars = run.chars.map Char.toUInt8 := by
  rw [← Bytes.ofText_ofList, Bytes.ofText_eq_map, String.toList_ofList]
  intro c hc
  rw [String.toList_ofList] at hc
  have hdigit := run.isDigit c hc
  omega

end DigitRun

/-- A number without its sign as it is written: digits before the point, where a zero stands alone,
digits after it, and the sign and the digits of an exponent. -/
structure NumeralText where
  whole : DigitRun
  zero : whole.chars.head? = some '0' → whole.chars = ['0']
  fraction : Option DigitRun
  /-- A minus sign is `true`. -/
  exponent : Option (Bool × DigitRun)

namespace NumeralText

def fractionChars : Option DigitRun → List Char
  | none => []
  | some digits => '.' :: digits.chars

def exponentChars : Option (Bool × DigitRun) → List Char
  | none => []
  | some (negative, digits) => 'e' :: (if negative then '-' else '+') :: digits.chars

def chars (text : NumeralText) : List Char :=
  text.whole.chars ++ fractionChars text.fraction ++ exponentChars text.exponent

/-- The characters of a number with its sign. -/
def signedChars (negative : Bool) (text : NumeralText) : List Char :=
  (if negative then ['-'] else []) ++ text.chars

/-- What is read of the text. -/
def numeral (negative : Bool) (text : NumeralText) : Numeral where
  negative := negative
  whole := text.whole.values
  fraction := text.fraction.map DigitRun.values
  exponent := text.exponent.map fun (negative, digits) => (negative, digits.values)

def ofNat (n : Nat) : NumeralText where
  whole := .ofNat n
  zero h := by
    rw [head?_toDigits h]
    rfl
  fraction := none
  exponent := none

end NumeralText

/-! ## The scanner -/

namespace Tree

open Bytes (ofChars)

/-- Whether a number ends where the text begins. -/
def EndsNumber (rest : Bytes) : Prop :=
  ∀ byte, rest.head? = some byte →
    isDigit byte = false ∧ byte ≠ 0x2E ∧ byte ≠ 0x65 ∧ byte ≠ 0x45

theorem endsNumber_nil : EndsNumber [] := nofun

theorem endsNumber_cons {byte : UInt8} (rest : Bytes)
    (h : isDigit byte = false ∧ byte ≠ 0x2E ∧ byte ≠ 0x65 ∧ byte ≠ 0x45) :
    EndsNumber (byte :: rest) := by
  intro other hother
  exact Option.some.inj hother ▸ h

theorem isDigit_toUInt8 {c : Char} (h : 48 ≤ c.toNat ∧ c.toNat ≤ 57) :
    isDigit c.toUInt8 = true := by
  have hnat := Bytes.toNat_toUInt8 (c := c) (by omega)
  simp only [isDigit, Bool.and_eq_true, decide_eq_true_eq, UInt8.le_iff_toNat_le, hnat,
    UInt8.reduceToNat]
  omega

variable {rest : Bytes}

/-- A run of digits ends where no digit follows. -/
theorem readDigits_run (run : DigitRun)
    (h : ∀ byte, rest.head? = some byte → isDigit byte = false) :
    readDigits (ofChars run.chars ++ rest) = (run.values, rest) := by
  have hall : ∀ byte ∈ ofChars run.chars, isDigit byte = true := by
    intro byte hbyte
    rw [run.ofChars_chars] at hbyte
    obtain ⟨c, hc, rfl⟩ := List.mem_map.mp hbyte
    exact isDigit_toUInt8 (run.isDigit c hc)
  have hrest : rest.takeWhile isDigit = [] ∧ rest.dropWhile isDigit = rest := by
    cases rest with
    | nil => exact ⟨rfl, rfl⟩
    | cons byte rest =>
      have hbyte := h byte rfl
      exact ⟨List.takeWhile_cons_of_neg (by simp [hbyte]),
        List.dropWhile_cons_of_neg (by simp [hbyte])⟩
  rw [readDigits, List.takeWhile_append_of_pos hall, List.dropWhile_append_of_pos hall, hrest.1,
    hrest.2, List.append_nil, run.ofChars_chars, List.map_map]
  refine Prod.ext (List.map_congr_left fun c hc => ?_) rfl
  have hdigit := run.isDigit c hc
  exact congrArg (· - 48) (Bytes.toNat_toUInt8 (by omega))

/-- The digits before the point are read up to what is no digit. -/
theorem readWhole?_text (text : NumeralText)
    (h : ∀ byte, rest.head? = some byte → isDigit byte = false) :
    readWhole? (ofChars text.whole.chars ++ rest) = some (text.whole.values, rest) := by
  rw [readWhole?, readDigits_run _ h]
  split
  · next hnil => exact absurd (Prod.mk.inj hnil).1 text.whole.values_ne_nil
  · next hzero =>
    -- a leading zero would have to stand alone
    obtain ⟨hdigits, _⟩ := Prod.mk.inj hzero
    have hchars := text.zero (text.whole.head?_chars (by rw [hdigits]; rfl))
    rw [DigitRun.values, hchars] at hdigits
    cases hdigits
  · next heq =>
    obtain ⟨rfl, rfl⟩ := Prod.mk.inj heq
    rfl

theorem readFraction?_text (fraction : Option DigitRun)
    (h : ∀ byte, rest.head? = some byte → isDigit byte = false ∧ byte ≠ 0x2E) :
    readFraction? (ofChars (NumeralText.fractionChars fraction) ++ rest) =
      some (fraction.map DigitRun.values, rest) := by
  cases fraction with
  | none =>
    change readFraction? rest = _
    unfold readFraction?
    split
    · exact absurd rfl (h _ rfl).2
    · rfl
  | some digits =>
    have hpoint : ('.' : Char).toUInt8 = 0x2E := rfl
    have hdigits := readDigits_run digits fun byte hbyte => (h byte hbyte).1
    rw [NumeralText.fractionChars, Bytes.ofChars_cons_of_lt (by decide), List.cons_append, hpoint,
      readFraction?]
    simp only [hdigits]
    cases hvalues : digits.values with
    | nil => exact absurd hvalues digits.values_ne_nil
    | cons value values => simp [hvalues]

theorem readExponent?_text (exponent : Option (Bool × DigitRun)) (h : EndsNumber rest) :
    readExponent? (ofChars (NumeralText.exponentChars exponent) ++ rest) =
      some (exponent.map fun (negative, digits) => (negative, digits.values), rest) := by
  cases exponent with
  | none =>
    change readExponent? rest = _
    cases rest with
    | nil => rfl
    | cons byte rest =>
      obtain ⟨_, _, hlower, hupper⟩ := h byte rfl
      simp [readExponent?, hlower, hupper]
  | some exponent =>
    obtain ⟨negative, digits⟩ := exponent
    have hsign : readSign (ofChars ((if negative then '-' else '+') :: digits.chars) ++ rest) =
        (negative, ofChars digits.chars ++ rest) := by
      cases negative <;> rfl
    have hdigits := readDigits_run digits fun byte hbyte => (h byte hbyte).1
    rw [NumeralText.exponentChars, Bytes.ofChars_cons_of_lt (by decide), List.cons_append,
      readExponent?, if_pos (by decide)]
    simp only [hsign, hdigits]
    cases hvalues : digits.values with
    | nil => exact absurd hvalues digits.values_ne_nil
    | cons value values => simp [hvalues]

/-- What follows a fraction does not continue it. -/
theorem head?_exponent (exponent : Option (Bool × DigitRun)) (h : EndsNumber rest) (byte : UInt8)
    (hbyte : (ofChars (NumeralText.exponentChars exponent) ++ rest).head? = some byte) :
    isDigit byte = false ∧ byte ≠ 0x2E := by
  cases exponent with
  | none => exact ⟨(h byte hbyte).1, (h byte hbyte).2.1⟩
  | some exponent =>
    obtain rfl : 0x65 = byte := Option.some.inj hbyte
    decide

/-- What follows the digits before the point is no digit. -/
theorem head?_fraction (fraction : Option DigitRun)
    (h : ∀ byte, rest.head? = some byte → isDigit byte = false) (byte : UInt8)
    (hbyte : (ofChars (NumeralText.fractionChars fraction) ++ rest).head? = some byte) :
    isDigit byte = false := by
  cases fraction with
  | none => exact h byte hbyte
  | some digits =>
    obtain rfl : 0x2E = byte := Option.some.inj hbyte
    decide

/-- A number ends where nothing continues it. -/
theorem readNumeral?_text (negative : Bool) (text : NumeralText) (h : EndsNumber rest) :
    readNumeral? negative (ofChars text.chars ++ rest) = some (text.numeral negative, rest) := by
  have hexponent := head?_exponent text.exponent h
  have hfraction := head?_fraction text.fraction fun byte hbyte => (hexponent byte hbyte).1
  rw [NumeralText.chars, Bytes.ofChars_append, Bytes.ofChars_append, List.append_assoc,
    List.append_assoc]
  simp [readNumeral?, readWhole?_text text hfraction, readFraction?_text text.fraction hexponent,
    readExponent?_text text.exponent h, NumeralText.numeral]

end Tree

/-! ## The value -/

def Numeral.ofInt (n : Int) : Numeral := ⟨decide (n < 0), digitsOf n.natAbs, none, none⟩

theorem integerChars_eq (n : Int) :
    integerChars n = NumeralText.signedChars (decide (n < 0)) (.ofNat n.natAbs) := by
  have hchars : (NumeralText.ofNat n.natAbs).chars = Nat.toDigits 10 n.natAbs := by
    simp [NumeralText.chars, NumeralText.ofNat, DigitRun.ofNat, NumeralText.fractionChars,
      NumeralText.exponentChars]
  rw [integerChars, NumeralText.signedChars, hchars]
  by_cases h : n < 0 <;> simp [h]

/-- Digits that no longer fit stay without effect on the significand. -/
theorem readSignificand_surplus (significand surplus : Nat) (h : 0 < surplus) (digits : List Nat) :
    readSignificand significand surplus digits = (significand, surplus + digits.length) := by
  induction digits generalizing surplus with
  | nil => rfl
  | cons digit digits ih =>
    rw [readSignificand, if_neg (by omega), ih _ (by omega), List.length_cons]
    congr 1
    omega

theorem le_foldl_digits (digits : List Nat) (start : Nat) :
    start ≤ digits.foldl (fun m digit => m * 10 + digit) start := by
  induction digits generalizing start with
  | nil => exact Nat.le_refl _
  | cons digit digits ih =>
    have := ih (start * 10 + digit)
    rw [List.foldl_cons]
    omega

/-- Digits that fit are added up. -/
theorem readSignificand_of_le {digits : List Nat} {start : Nat}
    (h : digits.foldl (fun m digit => m * 10 + digit) start ≤ greatestSignificand) :
    readSignificand start 0 digits =
      (digits.foldl (fun m digit => m * 10 + digit) start, 0) := by
  induction digits generalizing start with
  | nil => rfl
  | cons digit digits ih =>
    rw [List.foldl_cons] at h ⊢
    have hstart := le_foldl_digits digits (start * 10 + digit)
    rw [readSignificand, if_pos ⟨rfl, by omega⟩, ih h]

/-- Where no digit is left over, all of them fit. -/
theorem foldl_eq_of_readSignificand {digits : List Nat} {start significand : Nat}
    (h : readSignificand start 0 digits = (significand, 0)) :
    digits.foldl (fun m digit => m * 10 + digit) start = significand := by
  induction digits generalizing start with
  | nil => exact (Prod.mk.inj h).1
  | cons digit digits ih =>
    rw [readSignificand] at h
    split at h
    · exact ih h
    · rw [readSignificand_surplus _ _ (by omega)] at h
      have := (Prod.mk.inj h).2
      omega

/-- An integer of 64 bits, with a sign or without, reads back. -/
theorem value?_ofInt {n : Int} (hlower : leastInt64 ≤ n) (hupper : n ≤ greatestSignificand) :
    (Numeral.ofInt n).value? = some (.integer n) := by
  have hleast : leastInt64 = -(2 : Int) ^ 63 := rfl
  have hgreatest : greatestSignificand = 2 ^ 64 - 1 := rfl
  have hread := @readSignificand_of_le (digitsOf n.natAbs) 0 (by rw [foldl_digitsOf]; omega)
  rw [foldl_digitsOf] at hread
  simp only [Numeral.value?, Numeral.ofInt, hread]
  by_cases hnegative : n < 0
  · have hmagnitude : 0 < n.natAbs ∧ n.natAbs ≤ Nat.pow 2 63 := by
      change _ ∧ n.natAbs ≤ 2 ^ 63
      omega
    simp only [hnegative, decide_true, not_true, and_false, if_false, hmagnitude, true_and, if_true]
    congr 2
    omega
  · simp only [hnegative, decide_false, Bool.false_eq_true, not_false_iff, and_true, if_true]
    congr 2
    omega

/-- Only the integer itself is read from its notation; one that does not fit reads as another kind
of number, if at all. -/
theorem eq_of_value?_ofInt {n m : Int} (h : (Numeral.ofInt n).value? = some (.integer m)) :
    m = n := by
  obtain ⟨significand, surplus, hread⟩ : ∃ significand surplus,
      readSignificand 0 0 (digitsOf n.natAbs) = (significand, surplus) := ⟨_, _, rfl⟩
  simp only [Numeral.value?, Numeral.ofInt, hread] at h
  by_cases hsurplus : surplus = 0
  · subst hsurplus
    have hmagnitude := foldl_eq_of_readSignificand hread
    rw [foldl_digitsOf] at hmagnitude
    by_cases hnegative : n < 0
    · simp only [hnegative, decide_true, not_true, and_false, if_false, true_and] at h
      split at h
      · simp only [Option.some.injEq, Number.integer.injEq] at h
        omega
      · simp at h
    · simp only [hnegative, decide_false, Bool.false_eq_true, not_false_iff, and_true, if_true,
        Option.some.injEq, Number.integer.injEq] at h
      omega
  · simp [hsurplus] at h

end Possession.Json

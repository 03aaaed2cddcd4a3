import Mathlib.Algebra.Group.Nat.Defs
import Possession.Proofs.Base64.Canonical

/-!
# The bits of a base64 text

Encoding regroups the bits of bytes, eight at a time, into those of symbols, six at a time. The
symbols do not depend on the padding, so a text is canonical with and without padding only where no
padding is due.
-/

namespace Possession.Base64

/-! ## Bits of numbers -/

/-- The bits of a number at a fixed width, the highest first. -/
def bits : (width value : Nat) → List Bool
  | 0, _ => []
  | width + 1, value => value.testBit width :: bits width value

/-- The bits of a number are those of its high part and then those of its low part. -/
theorem bits_add (high low value : Nat) :
    bits (high + low) value = bits high (value / 2 ^ low) ++ bits low value := by
  induction high with
  | zero => rw [Nat.zero_add, bits, List.nil_append]
  | succ high ih =>
    rw [Nat.succ_add, bits, bits, List.cons_append, ih, Nat.testBit_div_two_pow]

/-- Only the low part of a number shows at a small width. -/
theorem bits_mod {width bound : Nat} (h : width ≤ bound) (value : Nat) :
    bits width (value % 2 ^ bound) = bits width value := by
  induction width with
  | zero => rfl
  | succ width ih =>
    have hbit : (value % 2 ^ bound).testBit width = value.testBit width := by
      rw [Nat.testBit_mod_two_pow, decide_eq_true (Nat.lt_of_succ_le h), Bool.true_and]
    rw [bits, bits, hbit, ih (by omega)]

theorem bits_zero (width : Nat) : bits width 0 = List.replicate width false := by
  induction width with
  | zero => rfl
  | succ width ih => rw [bits, ih, Nat.zero_testBit, List.replicate_succ]

/-- The bits of a number and of a byte behind it. -/
theorem bits_byte (width front : Nat) (byte : UInt8) :
    bits (width + 8) (front * 256 + byte.toNat) = bits width front ++ bits 8 byte.toNat := by
  have hbyte := byte.toNat_lt
  have hfront : (front * 256 + byte.toNat) / 2 ^ 8 = front := by omega
  have hlow : (front * 256 + byte.toNat) % 2 ^ 8 = byte.toNat := by omega
  rw [bits_add, hfront, ← bits_mod (Nat.le_refl 8) (front * 256 + byte.toNat), hlow]

/-- The bits of a number and of zeros behind it. -/
theorem bits_shift (width fill value : Nat) :
    bits (width + fill) (value * 2 ^ fill) = bits width value ++ List.replicate fill false := by
  rw [bits_add, Nat.mul_div_cancel value (Nat.two_pow_pos fill),
    ← bits_mod (Nat.le_refl fill) (value * 2 ^ fill), Nat.mul_mod_left, bits_zero]

/-- The bits of a number and of a symbol behind it. -/
theorem bits_sextet (width value : Nat) :
    bits (width + 6) value = bits width (value / 64) ++ bits 6 (value % 64) := by
  have hpow : 2 ^ 6 = 64 := rfl
  rw [bits_add, ← bits_mod (Nat.le_refl 6) value, hpow]

theorem flatMap_bits_pair (value : Nat) :
    [value / 64, value % 64].flatMap (bits 6) = bits 12 value := by
  rw [bits_sextet 6]
  simp

theorem flatMap_bits_triple (value : Nat) :
    [value / 4096, value / 64 % 64, value % 64].flatMap (bits 6) = bits 18 value := by
  have hfront : value / 4096 = value / 64 / 64 := by rw [Nat.div_div_eq_div_mul]
  rw [bits_sextet 12, ← flatMap_bits_pair (value / 64), hfront]
  simp

theorem flatMap_bits_quadruple (value : Nat) :
    [value / 262144, value / 4096 % 64, value / 64 % 64, value % 64].flatMap (bits 6) =
      bits 24 value := by
  have hfront : value / 262144 = value / 64 / 4096 := by rw [Nat.div_div_eq_div_mul]
  have hnext : value / 4096 = value / 64 / 64 := by rw [Nat.div_div_eq_div_mul]
  rw [bits_sextet 18, ← flatMap_bits_triple (value / 64), hfront, hnext]
  simp

/-! ## Bits of texts -/

/-- Whether the bits of numbers, six of each, are those of bytes and zeros that fill up the last
number. -/
structure Regroups (bytes : Bytes) (sextets : List Nat) : Prop where
  areSextets : AreSextets sextets
  bits_eq : ∃ fill < 6, sextets.flatMap (bits 6) =
    bytes.flatMap (fun byte => bits 8 byte.toNat) ++ List.replicate fill false

theorem regroups_single (a : UInt8) : Regroups [a] [a.toNat / 4, a.toNat % 4 * 16] := by
  have ha := a.toNat_lt
  constructor
  · simp only [AreSextets, List.forall_mem_cons]
    exact ⟨by omega, by omega, by simp⟩
  · refine ⟨4, by omega, ?_⟩
    have hfirst : a.toNat / 4 = a.toNat * 2 ^ 4 / 64 := by omega
    have hsecond : a.toNat % 4 * 16 = a.toNat * 2 ^ 4 % 64 := by omega
    rw [hfirst, hsecond, flatMap_bits_pair, bits_shift 8 4, List.flatMap_singleton]

theorem regroups_pair (a b : UInt8) :
    let n := a.toNat * 256 + b.toNat
    Regroups [a, b] [n / 1024, n / 16 % 64, n % 16 * 4] := by
  intro n
  have ha := a.toNat_lt
  have hb := b.toNat_lt
  constructor
  · simp only [AreSextets, List.forall_mem_cons]
    exact ⟨by omega, by omega, by omega, by simp⟩
  · refine ⟨2, by omega, ?_⟩
    have hfirst : n / 1024 = n * 2 ^ 2 / 4096 := by omega
    have hsecond : n / 16 % 64 = n * 2 ^ 2 / 64 % 64 := by omega
    have hthird : n % 16 * 4 = n * 2 ^ 2 % 64 := by omega
    rw [hfirst, hsecond, hthird, flatMap_bits_triple, bits_shift 16 2, bits_byte 8]
    simp

/-- Three bytes are regrouped without zeros, so what follows them is regrouped on its own. -/
theorem Regroups.triple_cons {rest : Bytes} {sextets : List Nat} (h : Regroups rest sextets)
    (a b c : UInt8) :
    let n := (a.toNat * 256 + b.toNat) * 256 + c.toNat
    Regroups (a :: b :: c :: rest)
      (n / 262144 :: n / 4096 % 64 :: n / 64 % 64 :: n % 64 :: sextets) := by
  intro n
  have ha := a.toNat_lt
  have hb := b.toNat_lt
  have hc := c.toNat_lt
  obtain ⟨hsextets, fill, hfill, hbits⟩ := h
  constructor
  · simp only [AreSextets, List.forall_mem_cons]
    exact ⟨by omega, by omega, by omega, by omega, hsextets⟩
  · refine ⟨fill, hfill, ?_⟩
    have hgroup := flatMap_bits_quadruple n
    rw [bits_byte 16, bits_byte 8] at hgroup
    calc (n / 262144 :: n / 4096 % 64 :: n / 64 % 64 :: n % 64 :: sextets).flatMap (bits 6)
        = [n / 262144, n / 4096 % 64, n / 64 % 64, n % 64].flatMap (bits 6) ++
            sextets.flatMap (bits 6) := by simp
      _ = _ := by rw [hgroup, hbits]; simp

/-- A text consists of the symbols for the bits of its bytes, and of the padding that its rule asks
for. The recursion is that of the encoder, which takes three bytes at a time. -/
theorem exists_regroups (alphabet : Alphabet) : (bytes : Bytes) →
    ∃ sextets, Regroups bytes sextets ∧ ∀ padding, encodeChars ⟨alphabet, padding⟩ bytes =
      sextets.map alphabet.symbol ++ padding.fill ((4 - sextets.length % 4) % 4)
  | [] => by
    refine ⟨[], ⟨by simp [AreSextets], 0, by omega, rfl⟩, fun padding => ?_⟩
    cases padding <;> rfl
  | [a] => ⟨_, regroups_single a, fun _ => rfl⟩
  | [a, b] => ⟨_, regroups_pair a b, fun _ => rfl⟩
  | a :: b :: c :: rest => by
    obtain ⟨sextets, hregroups, htext⟩ := exists_regroups alphabet rest
    refine ⟨_, hregroups.triple_cons a b c, fun padding => ?_⟩
    have hlength : (sextets.length + 1 + 1 + 1 + 1) % 4 = sextets.length % 4 := by omega
    simp only [encodeChars, htext padding, List.length_cons, hlength, List.map_cons,
      List.cons_append]

/-- The symbols in the order of their numbers. -/
example : (List.range 64).map Alphabet.standard.symbol =
    "ABCDEFGHIJKLMNOPQRSTUVWXYZabcdefghijklmnopqrstuvwxyz0123456789+/".toList := by decide

/-! ## With padding and without -/

section

variable {alphabet : Alphabet}

theorem pad_notMem_symbols {sextets : List Nat} (h : AreSextets sextets) :
    '=' ∉ sextets.map alphabet.symbol := by
  intro hmem
  obtain ⟨sextet, hsextet, hsymbol⟩ := List.mem_map.mp hmem
  refine symbol_ne_pad alphabet sextet (h sextet hsextet) ?_
  rw [hsymbol]
  rfl

/-- A text with padding is a text without it only where no padding is due, and then both are the
text of the same bytes. -/
theorem eq_of_encodeChars_required_eq {bytes other : Bytes}
    (h : encodeChars ⟨alphabet, .required⟩ bytes = encodeChars ⟨alphabet, .forbidden⟩ other) :
    bytes = other := by
  obtain ⟨sextets, -, htext⟩ := exists_regroups alphabet bytes
  obtain ⟨sextets', hsextets', htext'⟩ := exists_regroups alphabet other
  have hpad : '=' ∉ encodeChars ⟨alphabet, .forbidden⟩ other := by
    rw [htext', Padding.fill, List.append_nil]
    exact pad_notMem_symbols hsextets'.areSextets
  have hnone : (4 - sextets.length % 4) % 4 = 0 := by
    rw [← h, htext, Padding.fill, List.mem_append, List.mem_replicate, not_or] at hpad
    exact Decidable.byContradiction fun hne => hpad.2 ⟨hne, rfl⟩
  have hsame : encodeChars ⟨alphabet, .forbidden⟩ bytes =
      encodeChars ⟨alphabet, .required⟩ bytes := by
    rw [htext, htext, hnone]
    rfl
  exact encodeChars_inj.mp (hsame.trans h)

end

end Possession.Base64

import Possession.Failure
import Possession.Proofs.Base64

/-!
# One text for each byte string

A text that decodes is the very text that the encoder writes for the bytes, so whoever compares
decoded parts compares texts.
-/

namespace Possession.Base64

/-! ## Symbols -/

/-- A byte that has a value is the symbol for that value. -/
theorem eq_symbol_of_value? {alphabet : Alphabet} {byte : UInt8} {value : Nat}
    (h : alphabet.value? byte = some value) :
    value < 64 ∧ byte = (alphabet.symbol value).toUInt8 := by
  have hall : ∀ n < 256, ∀ v ∈ alphabet.value? (UInt8.ofNat n),
      v < 64 ∧ UInt8.ofNat n = (alphabet.symbol v).toUInt8 := by
    cases alphabet <;> decide +kernel
  have hbyte := hall byte.toNat byte.toNat_lt
  rw [UInt8.ofNat_toNat] at hbyte
  exact hbyte value h

theorem eq_symbols_of_values {alphabet : Alphabet} {offset : Nat} {input : Bytes}
    {sextets : List Nat} (h : values alphabet offset input = .ok sextets) :
    AreSextets sextets ∧ input = symbols alphabet sextets := by
  induction input generalizing offset sextets with
  | nil =>
    cases h
    exact ⟨by simp [AreSextets], rfl⟩
  | cons byte rest ih =>
    rw [values] at h
    split at h
    · cases h
    · next value hvalue =>
      obtain ⟨others, hothers, hsextets⟩ := Outcome.bind_eq_ok_iff.mp h
      cases hsextets
      obtain ⟨hlt, hbyte⟩ := eq_symbol_of_value? hvalue
      obtain ⟨hall, hrest⟩ := ih hothers
      refine ⟨?_, ?_⟩
      · simpa [AreSextets, hlt] using hall
      · rw [symbols, List.map_cons, ← symbols, ← hrest, ← hbyte]

/-! ## Groups -/

/-- Padding that is admitted after a last group is the padding that is written there. -/
theorem fill_eq_of_admits {padding : Padding} {count pads : Nat} (hcount : 2 ≤ count)
    (hupper : count + pads ≤ 4) (h : padding.admits count pads = true) :
    (padding.fill (4 - count)).map Char.toUInt8 = List.replicate pads pad := by
  cases padding with
  | required =>
    have hmod : (count + pads) % 4 = 0 := by simpa [Padding.admits] using h
    have hpads : 4 - count = pads := by omega
    rw [Padding.fill, hpads, List.map_replicate]
    rfl
  | forbidden =>
    have hpads : pads = 0 := by simpa [Padding.admits] using h
    rw [hpads]
    rfl

/-- What follows the symbols of a last group is padding only. -/
theorem eq_replicate_of_paddingLength {start count pads : Nat} {padding : Bytes}
    (h : paddingLength start count padding = .ok pads) : padding = List.replicate pads pad := by
  rw [paddingLength] at h
  split at h
  · cases h
  · next hfault =>
    cases h
    refine List.eq_replicate_of_mem fun byte hbyte => Decidable.byContradiction fun hne => hfault ?_
    have hany : padding.any (· != pad) = true :=
      List.any_eq_true.mpr ⟨byte, hbyte, by simpa using hne⟩
    exact ⟨List.ne_nil_of_mem hbyte, .inr hany⟩

/-- A last group that decodes is symbols with the right padding after them. -/
theorem exists_sextets_of_decodeLast {encoding : Encoding} {start : Nat} {group bytes : Bytes}
    (h : decodeLast encoding start group = .ok bytes) :
    ∃ sextets pads, AreSextets sextets ∧ 2 ≤ sextets.length ∧
      group = symbols encoding.alphabet sextets ++ List.replicate pads pad ∧
      encoding.padding.admits sextets.length pads = true ∧ ofLastGroup? sextets = some bytes := by
  obtain ⟨sextets, hvalues, h⟩ := Outcome.bind_eq_ok_iff.mp h
  obtain ⟨pads, hpads, h⟩ := Outcome.bind_eq_ok_iff.mp h
  obtain ⟨hsextets, hsymbols⟩ := eq_symbols_of_values hvalues
  have hlength : (group.takeWhile (· != pad)).length = sextets.length := by
    rw [hsymbols, symbols, List.length_map]
  have hgroup : group = symbols encoding.alphabet sextets ++ List.replicate pads pad := by
    rw [← hsymbols, ← eq_replicate_of_paddingLength hpads, List.takeWhile_append_dropWhile]
  rw [hlength] at h
  -- the three checks after the symbols: enough of them, the right padding, no bits left over
  dsimp only at h
  split at h
  · cases h
  · next hshort =>
    split at h
    · cases h
    · next hadmits =>
      split at h
      · next hlast =>
        cases h
        exact ⟨sextets, pads, hsextets, by omega, hgroup, by simpa using hadmits, hlast⟩
      · cases h

/-! ## Encoding what was decoded -/

/-- Three bytes that four values stand for are written as the symbols of these values. -/
theorem encodeChars_quadruple (encoding : Encoding) {a b c d : Nat}
    (h : AreSextets [a, b, c, d]) (rest : Bytes) :
    encodeChars encoding (ofGroups [a, b, c, d] ++ rest) =
      [a, b, c, d].map encoding.alphabet.symbol ++ encodeChars encoding rest := by
  simp only [AreSextets, List.forall_mem_cons] at h
  obtain ⟨ha, hb, hc, hd, _⟩ := h
  simp only [ofGroups, List.cons_append, List.nil_append, encodeChars, UInt8.toNat_ofNat',
    Nat.reducePow, List.map_cons, List.map_nil]
  -- the number behind the four values is the number behind the three bytes
  have hn : (((((a * 64 + b) * 64 + c) * 64 + d) / 65536 % 256 * 256 +
      (((a * 64 + b) * 64 + c) * 64 + d) / 256 % 256) * 256 +
      (((a * 64 + b) * 64 + c) * 64 + d) % 256) = ((a * 64 + b) * 64 + c) * 64 + d := by omega
  rw [hn]
  have h₁ : (((a * 64 + b) * 64 + c) * 64 + d) / 262144 = a := by omega
  have h₂ : (((a * 64 + b) * 64 + c) * 64 + d) / 4096 % 64 = b := by omega
  have h₃ : (((a * 64 + b) * 64 + c) * 64 + d) / 64 % 64 = c := by omega
  have h₄ : (((a * 64 + b) * 64 + c) * 64 + d) % 64 = d := by omega
  rw [h₁, h₂, h₃, h₄]

/-- The bytes of complete groups are written as the symbols of those groups. -/
theorem encodeChars_ofGroups (encoding : Encoding) {sextets : List Nat}
    (h : AreSextets sextets) (hlength : sextets.length % 4 = 0) (rest : Bytes) :
    encodeChars encoding (ofGroups sextets ++ rest) =
      sextets.map encoding.alphabet.symbol ++ encodeChars encoding rest := by
  fun_induction ofGroups sextets with
  | case1 a b c d others n ih =>
    have hsplit : AreSextets ([a, b, c, d] ++ others) := h
    obtain ⟨hgroup, hothers⟩ := List.forall_mem_append.mp hsplit
    have hquadruple := encodeChars_quadruple encoding hgroup (ofGroups others ++ rest)
    rw [ih hothers (by simp only [List.length_cons] at hlength; omega)] at hquadruple
    exact hquadruple
  | case2 sextets hshort =>
    have hnil : sextets = [] := by
      match sextets, hlength, hshort with
      | [], _, _ => rfl
      | a :: b :: c :: d :: others, _, hshort => exact absurd rfl (hshort a b c d others)
    rw [hnil]
    rfl

/-- The bytes of a last group are written as its symbols and the padding. -/
theorem encodeChars_of_ofLastGroup? (encoding : Encoding) {sextets : List Nat} {bytes : Bytes}
    (h : AreSextets sextets) (hlower : 2 ≤ sextets.length) (hupper : sextets.length ≤ 4)
    (hbytes : ofLastGroup? sextets = some bytes) :
    encodeChars encoding bytes =
      sextets.map encoding.alphabet.symbol ++ encoding.padding.fill (4 - sextets.length) := by
  match sextets, hlower, hupper with
  | [a, b], _, _ =>
    simp only [AreSextets, List.forall_mem_cons] at h
    obtain ⟨ha, hb, _⟩ := h
    rw [ofLastGroup?] at hbytes
    split at hbytes
    · next hbits =>
      cases hbytes
      have h₁ : (a * 64 + b) / 16 % 256 / 4 = a := by omega
      have h₂ : (a * 64 + b) / 16 % 256 % 4 * 16 = b := by omega
      simp only [encodeChars, UInt8.toNat_ofNat', Nat.reducePow, h₁, h₂]
      rfl
    · cases hbytes
  | [a, b, c], _, _ =>
    simp only [AreSextets, List.forall_mem_cons] at h
    obtain ⟨ha, hb, hc, _⟩ := h
    rw [ofLastGroup?] at hbytes
    split at hbytes
    · next hbits =>
      cases hbytes
      have hn : ((a * 64 + b) * 64 + c) / 1024 % 256 * 256 + ((a * 64 + b) * 64 + c) / 4 % 256 =
          ((a * 64 + b) * 64 + c) / 4 := by omega
      have h₁ : ((a * 64 + b) * 64 + c) / 4 / 1024 = a := by omega
      have h₂ : ((a * 64 + b) * 64 + c) / 4 / 16 % 64 = b := by omega
      have h₃ : ((a * 64 + b) * 64 + c) / 4 % 16 * 4 = c := by omega
      simp only [encodeChars, UInt8.toNat_ofNat', Nat.reducePow, hn, h₁, h₂, h₃]
      rfl
    · cases hbytes
  | [a, b, c, d], _, _ =>
    cases hbytes
    have hquadruple := encodeChars_quadruple encoding h []
    rw [List.append_nil] at hquadruple
    rw [hquadruple]
    cases encoding.padding <;> rfl

/-! ## The canonical text -/

/-- A text that decodes is the text that is written for its bytes. -/
theorem eq_encodeChars_of_decode {encoding : Encoding} {input bytes : Bytes}
    (h : decode encoding input = .ok bytes) :
    input = (encodeChars encoding bytes).map Char.toUInt8 := by
  rw [decode] at h
  dsimp only at h
  split at h
  · next hempty =>
    cases h
    exact List.eq_nil_of_length_eq_zero hempty
  · next hne =>
    split at h
    · cases h
    · obtain ⟨front, hfront, h⟩ := Outcome.bind_eq_ok_iff.mp h
      obtain ⟨tail, htail, h⟩ := Outcome.bind_eq_ok_iff.mp h
      cases h
      obtain ⟨hsextets, hbody⟩ := eq_symbols_of_values hfront
      obtain ⟨last, pads, hlast, hlower, hdrop, hadmits, hbytes⟩ :=
        exists_sextets_of_decodeLast htail
      -- the cut is at a multiple of four, with one to four bytes behind it
      have hstart : bodyLength input.length % 4 = 0 ∧
          bodyLength input.length ≤ input.length ∧
          input.length - bodyLength input.length ≤ 4 := by
        unfold bodyLength
        split <;> omega
      have hfrontLength : front.length = bodyLength input.length := by
        have := congrArg List.length hbody
        simp only [List.length_take, symbols, List.length_map] at this
        omega
      have hlastLength : last.length + pads ≤ 4 := by
        have := congrArg List.length hdrop
        simp only [List.length_drop, symbols, List.length_append, List.length_map,
          List.length_replicate] at this
        omega
      have hfill := fill_eq_of_admits hlower hlastLength hadmits
      rw [encodeChars_ofGroups encoding hsextets (hfrontLength ▸ hstart.1),
        encodeChars_of_ofLastGroup? encoding hlast hlower (by omega) hbytes,
        List.map_append, List.map_append, hfill]
      calc input = input.take (bodyLength input.length) ++ input.drop (bodyLength input.length) :=
            (List.take_append_drop _ _).symm
        _ = _ := by rw [hbody, hdrop]; simp [symbols, Function.comp_def]

/-- A text decodes to a byte string exactly if it is what is written for that byte string. -/
theorem decodeText_eq_ok_iff {encoding : Encoding} {text : String} {bytes : Bytes} :
    decodeText encoding text = .ok bytes ↔ text = encode encoding bytes := by
  constructor
  · intro h
    have hbytes := eq_encodeChars_of_decode h
    rw [← ofText_encode] at hbytes
    exact Bytes.ofText_inj.mp hbytes
  · rintro rfl
    exact decodeText_encode encoding bytes

theorem decodeText_ofList_eq_ok_iff {encoding : Encoding} {chars : List Char} {bytes : Bytes} :
    decodeText encoding (String.ofList chars) = .ok bytes ↔ chars = encodeChars encoding bytes := by
  rw [decodeText_eq_ok_iff, encode, String.ofList_inj]

end Possession.Base64

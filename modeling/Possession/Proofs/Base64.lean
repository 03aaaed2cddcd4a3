import Possession.Base64
import Possession.Proofs.Bytes
import Possession.Text.Printable

/-!
# Base64 texts read back

What `encode` writes, `decode` reads back. The text is seen as groups of symbols, which is the
division that the decoder makes, so the two meet group by group.
-/

namespace Possession.Base64

/-! ## Symbols -/

def symbols (alphabet : Alphabet) (sextets : List Nat) : Bytes :=
  sextets.map fun sextet => (alphabet.symbol sextet).toUInt8

/-- Whether every number is the value of a symbol. -/
def AreSextets (sextets : List Nat) : Prop := ∀ sextet ∈ sextets, sextet < 64

theorem AreSextets.append {front back : List Nat} (hfront : AreSextets front)
    (hback : AreSextets back) : AreSextets (front ++ back) :=
  List.forall_mem_append.mpr ⟨hfront, hback⟩

theorem value?_symbol (alphabet : Alphabet) :
    ∀ sextet < 64, alphabet.value? (alphabet.symbol sextet).toUInt8 = some sextet := by
  cases alphabet <;> decide

theorem symbol_ne_pad (alphabet : Alphabet) :
    ∀ sextet < 64, (alphabet.symbol sextet).toUInt8 ≠ pad := by
  cases alphabet <;> decide

theorem values_symbols (alphabet : Alphabet) {sextets : List Nat} (h : AreSextets sextets)
    (offset : Nat) : values alphabet offset (symbols alphabet sextets) = .ok sextets := by
  induction sextets generalizing offset with
  | nil => rfl
  | cons sextet rest ih =>
    have hvalue := value?_symbol alphabet sextet (h sextet (by simp))
    have hrest := ih (fun other hother => h other (by simp [hother])) (offset + 1)
    rw [symbols, List.map_cons, values, hvalue, ← symbols, hrest]
    rfl

/-! ## The last group -/

/-- The padding that is written after a last group is the padding that is asked for there. -/
theorem exists_fill (padding : Padding) {count : Nat} (h : count ≤ 4) :
    ∃ pads, (padding.fill (4 - count)).map Char.toUInt8 = List.replicate pads pad ∧
      padding.admits count pads = true := by
  cases padding with
  | required =>
    refine ⟨4 - count, by rw [Padding.fill, List.map_replicate]; rfl, ?_⟩
    rw [Padding.admits, Nat.add_sub_cancel' h]
    rfl
  | forbidden => exact ⟨0, rfl, rfl⟩

/-- The symbols end where the padding begins. -/
theorem takeWhile_symbols (alphabet : Alphabet) {sextets : List Nat} (h : AreSextets sextets)
    (pads : Nat) :
    (symbols alphabet sextets ++ List.replicate pads pad).takeWhile (· != pad) =
        symbols alphabet sextets ∧
      (symbols alphabet sextets ++ List.replicate pads pad).dropWhile (· != pad) =
        List.replicate pads pad := by
  have hall : ∀ byte ∈ symbols alphabet sextets, (byte != pad) = true := by
    intro byte hbyte
    obtain ⟨sextet, hsextet, rfl⟩ := List.mem_map.mp hbyte
    simpa using symbol_ne_pad alphabet sextet (h sextet hsextet)
  rw [List.takeWhile_append_of_pos hall, List.dropWhile_append_of_pos hall]
  cases pads <;> simp [List.replicate_succ]

theorem paddingLength_replicate {count : Nat} (h : 2 ≤ count) (start pads : Nat) :
    paddingLength start count (List.replicate pads pad) = .ok pads := by
  have hcount : ¬ count < 2 := by omega
  simp [paddingLength, hcount]

/-- A last group is read back if it leaves no bits over. -/
theorem decodeLast_symbols (encoding : Encoding) {group : List Nat} {bytes : Bytes}
    (h : AreSextets group) (hlower : 2 ≤ group.length) (hupper : group.length ≤ 4)
    (hgroup : ofLastGroup? group = some bytes) (start : Nat) :
    decodeLast encoding start (symbols encoding.alphabet group ++
      (encoding.padding.fill (4 - group.length)).map Char.toUInt8) = .ok bytes := by
  obtain ⟨pads, hpads, hadmits⟩ := exists_fill encoding.padding hupper
  obtain ⟨htake, hdrop⟩ := takeWhile_symbols encoding.alphabet h pads
  have hcount : (symbols encoding.alphabet group).length = group.length := by simp [symbols]
  have hnot : ¬ group.length < 2 := by omega
  simp [decodeLast, bind, Except.bind, hpads, htake, hdrop, values_symbols encoding.alphabet h,
    hcount, paddingLength_replicate hlower, hnot, hadmits, hgroup]
  rfl

theorem length_fill_le (padding : Padding) (missing : Nat) :
    (padding.fill missing).length ≤ missing := by
  cases padding <;> simp [Padding.fill]

/-! ## All groups -/

/-- What is before the last group is read as complete groups. -/
theorem decode_append {encoding : Encoding} {front : List Nat} {last bytes : Bytes}
    (hfront : AreSextets front) (hlength : front.length % 4 = 0)
    (hlower : 2 ≤ last.length) (hupper : last.length ≤ 4)
    (hlast : decodeLast encoding front.length last = .ok bytes) :
    decode encoding (symbols encoding.alphabet front ++ last) = .ok (ofGroups front ++ bytes) := by
  have hfrontLength : (symbols encoding.alphabet front).length = front.length := by simp [symbols]
  have hstart : bodyLength (front.length + last.length) = front.length := by
    unfold bodyLength
    split <;> omega
  have hne : ¬ front.length + last.length = 0 := by omega
  have hone : ¬ (front.length + last.length) % 4 = 1 := by omega
  simp only [decode, List.length_append, hfrontLength, hstart, hne, hone, if_false, false_and, bind,
    Except.bind]
  rw [List.take_left' hfrontLength, List.drop_left' hfrontLength,
    values_symbols encoding.alphabet hfront, hlast]
  rfl

/-- The numbers behind the symbols of a byte string that is not empty: complete groups, and a last
one that leaves no bits over. -/
structure Groups (bytes : Bytes) where
  front : List Nat
  last : List Nat
  lastBytes : Bytes
  areSextets_front : AreSextets front
  areSextets_last : AreSextets last
  length_front : front.length % 4 = 0
  two_le : 2 ≤ last.length
  le_four : last.length ≤ 4
  ofLastGroup : ofLastGroup? last = some lastBytes
  ofGroups : Base64.ofGroups front ++ lastBytes = bytes

theorem ofNat_eq_of_mod_eq {n : Nat} {byte : UInt8} (h : n % 256 = byte.toNat) :
    UInt8.ofNat n = byte := by
  apply UInt8.toNat_inj.mp
  rw [UInt8.toNat_ofNat']
  exact h

/-- The four numbers of three bytes, and the bytes that they stand for. -/
theorem ofGroups_triple (a b c : UInt8) (rest : List Nat) :
    let n := (a.toNat * 256 + b.toNat) * 256 + c.toNat
    Base64.ofGroups (n / 262144 :: n / 4096 % 64 :: n / 64 % 64 :: n % 64 :: rest) =
      a :: b :: c :: Base64.ofGroups rest := by
  intro n
  have ha := a.toNat_lt
  have hb := b.toNat_lt
  have hc := c.toNat_lt
  have hn : ((n / 262144 * 64 + n / 4096 % 64) * 64 + n / 64 % 64) * 64 + n % 64 = n := by omega
  simp only [Base64.ofGroups, hn]
  have h₁ : UInt8.ofNat (n / 65536) = a := ofNat_eq_of_mod_eq (by omega)
  have h₂ : UInt8.ofNat (n / 256) = b := ofNat_eq_of_mod_eq (by omega)
  have h₃ : UInt8.ofNat n = c := ofNat_eq_of_mod_eq (by omega)
  rw [h₁, h₂, h₃]

/-- A byte string is written by groups. The induction follows the encoder, which takes three bytes
at a time; the last three, two or one make the last group. -/
theorem exists_groups (encoding : Encoding) {bytes : Bytes} (h : bytes ≠ []) :
    ∃ groups : Groups bytes, encodeChars encoding bytes =
      (groups.front ++ groups.last).map encoding.alphabet.symbol ++
        encoding.padding.fill (4 - groups.last.length) := by
  fun_induction encodeChars encoding bytes with
  | case1 => exact absurd rfl h
  | case2 a n =>
    have ha := a.toNat_lt
    have hread : ofLastGroup? [n / 4, n % 4 * 16] = some [a] := by
      have hbits : n % 4 * 16 % 16 = 0 := by omega
      have hn : (n / 4 * 64 + n % 4 * 16) / 16 = n := by omega
      rw [ofLastGroup?, if_pos hbits, hn, UInt8.ofNat_toNat]
    refine ⟨⟨[], [n / 4, n % 4 * 16], [a], by simp [AreSextets], ?_, rfl, by simp, by simp, hread,
      rfl⟩, rfl⟩
    simp only [AreSextets, List.forall_mem_cons]
    refine ⟨by omega, by omega, by simp⟩
  | case3 a b n =>
    have ha := a.toNat_lt
    have hb := b.toNat_lt
    have hread : ofLastGroup? [n / 1024, n / 16 % 64, n % 16 * 4] = some [a, b] := by
      have hbits : n % 16 * 4 % 4 = 0 := by omega
      have hn : (n / 1024 * 64 + n / 16 % 64) * 64 + n % 16 * 4 = n * 4 := by omega
      have h₁ : UInt8.ofNat (n * 4 / 1024) = a := ofNat_eq_of_mod_eq (by omega)
      have h₂ : UInt8.ofNat (n * 4 / 4) = b := ofNat_eq_of_mod_eq (by omega)
      simp only [ofLastGroup?, if_pos hbits, hn, h₁, h₂]
    refine ⟨⟨[], [n / 1024, n / 16 % 64, n % 16 * 4], [a, b], by simp [AreSextets], ?_, rfl,
      by simp, by simp, hread, rfl⟩, rfl⟩
    simp only [AreSextets, List.forall_mem_cons]
    refine ⟨by omega, by omega, by omega, by simp⟩
  | case4 a b c rest n ih =>
    have ha := a.toNat_lt
    have hb := b.toNat_lt
    have hc := c.toNat_lt
    have hgroup : AreSextets [n / 262144, n / 4096 % 64, n / 64 % 64, n % 64] := by
      simp only [AreSextets, List.forall_mem_cons]
      refine ⟨by omega, by omega, by omega, by omega, by simp⟩
    by_cases hrest : rest = []
    · subst hrest
      refine ⟨⟨[], [n / 262144, n / 4096 % 64, n / 64 % 64, n % 64], [a, b, c],
        by simp [AreSextets], hgroup, rfl, by simp, by simp, ?_, rfl⟩, ?_⟩
      · exact congrArg some (ofGroups_triple a b c [])
      · cases encoding with
        | mk alphabet padding => cases padding <;> rfl
    · obtain ⟨groups, hencode⟩ := ih hrest
      refine ⟨⟨n / 262144 :: n / 4096 % 64 :: n / 64 % 64 :: n % 64 :: groups.front, groups.last,
        groups.lastBytes, hgroup.append groups.areSextets_front, groups.areSextets_last, ?_,
        groups.two_le, groups.le_four, groups.ofLastGroup, ?_⟩, ?_⟩
      · have := groups.length_front
        simp only [List.length_cons]
        omega
      · rw [ofGroups_triple a b c groups.front, List.cons_append, List.cons_append,
          List.cons_append, groups.ofGroups]
      · rw [hencode]
        rfl

/-- Every character of an encoded text is a symbol or padding. -/
theorem mem_encodeChars {encoding : Encoding} {bytes : Bytes} {c : Char}
    (h : c ∈ encodeChars encoding bytes) :
    c = '=' ∨ ∃ sextet < 64, c = encoding.alphabet.symbol sextet := by
  by_cases hbytes : bytes = []
  · subst hbytes
    cases h
  · obtain ⟨groups, hencode⟩ := exists_groups encoding hbytes
    rw [hencode, List.mem_append] at h
    rcases h with h | h
    · obtain ⟨sextet, hsextet, rfl⟩ := List.mem_map.mp h
      have hall := groups.areSextets_front.append groups.areSextets_last
      exact .inr ⟨sextet, hall sextet hsextet, rfl⟩
    · left
      cases hpadding : encoding.padding with
      | required =>
        rw [hpadding, Padding.fill] at h
        exact List.eq_of_mem_replicate h
      | forbidden =>
        rw [hpadding] at h
        cases h

theorem isPrintable_symbol (alphabet : Alphabet) :
    ∀ sextet < 64, Text.IsPrintable (alphabet.symbol sextet) := by
  cases alphabet <;> decide

theorem printable_encodeChars (encoding : Encoding) (bytes : Bytes) :
    Text.Printable (encodeChars encoding bytes) := by
  intro c hc
  rcases mem_encodeChars hc with rfl | ⟨sextet, hsextet, rfl⟩
  · decide
  · exact isPrintable_symbol encoding.alphabet sextet hsextet

/-- What is neither a symbol nor padding does not occur in an encoded text. -/
theorem notMem_encodeChars {encoding : Encoding} {c : Char} (hpad : c ≠ '=')
    (hsymbol : ∀ sextet < 64, encoding.alphabet.symbol sextet ≠ c) (bytes : Bytes) :
    c ∉ encodeChars encoding bytes := by
  intro hc
  rcases mem_encodeChars hc with rfl | ⟨sextet, hsextet, rfl⟩
  · exact hpad rfl
  · exact hsymbol sextet hsextet rfl

theorem comma_notMem_encodeChars (encoding : Encoding) (bytes : Bytes) :
    ',' ∉ encodeChars encoding bytes :=
  notMem_encodeChars (by decide) (by cases encoding.alphabet <;> decide) bytes

theorem ofText_encode (encoding : Encoding) (bytes : Bytes) :
    Bytes.ofText (encode encoding bytes) = (encodeChars encoding bytes).map Char.toUInt8 := by
  have hprintable := printable_encodeChars encoding bytes
  rw [Bytes.ofText_eq_map, encode, String.toList_ofList]
  intro c hc
  rw [encode, String.toList_ofList] at hc
  have := (hprintable c hc).2
  omega

/-- An encoded byte string is read back. -/
theorem decodeText_encode (encoding : Encoding) (bytes : Bytes) :
    decodeText encoding (encode encoding bytes) = .ok bytes := by
  rw [decodeText, ofText_encode]
  by_cases hbytes : bytes = []
  · subst hbytes
    rfl
  · obtain ⟨groups, hencode⟩ := exists_groups encoding hbytes
    have hlast := decodeLast_symbols encoding groups.areSextets_last groups.two_le groups.le_four
      groups.ofLastGroup groups.front.length
    have hlength := length_fill_le encoding.padding (4 - groups.last.length)
    have hdecode := decode_append groups.areSextets_front groups.length_front
      (by simp [symbols]; have := groups.two_le; omega)
      (by simp [symbols]; have := groups.le_four; omega) hlast
    rw [groups.ofGroups] at hdecode
    rw [hencode]
    simpa [symbols, Function.comp_def] using hdecode

/-- A byte string is known by its text. -/
theorem encode_inj {encoding : Encoding} {bytes other : Bytes} :
    encode encoding bytes = encode encoding other ↔ bytes = other := by
  constructor
  · intro h
    have hdecode := decodeText_encode encoding bytes
    rw [h, decodeText_encode] at hdecode
    exact (Except.ok.inj hdecode).symm
  · rintro rfl
    rfl

theorem encodeChars_inj {encoding : Encoding} {bytes other : Bytes} :
    encodeChars encoding bytes = encodeChars encoding other ↔ bytes = other := by
  rw [← @encode_inj encoding, encode, encode, String.ofList_inj]

end Possession.Base64

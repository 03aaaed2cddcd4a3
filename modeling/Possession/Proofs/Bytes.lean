import Possession.Bytes

/-!
# Bytes of texts and numbers

For ASCII the way from text to bytes and back is the identity on numbers, one byte for each
character. A byte string is known by its number up to leading zeros.
-/

namespace Possession.Bytes

/-- The number of the character that a byte stands for is the byte. -/
@[simp] theorem toNat_charOfByte (byte : UInt8) : (Char.ofNat byte.toNat).toNat = byte.toNat := by
  have hvalid : byte.toNat.isValidChar := .inl (by have := byte.toNat_lt; omega)
  rw [Char.ofNat, dif_pos hvalid]
  rfl

theorem charOfByte_inj {byte other : UInt8}
    (h : Char.ofNat byte.toNat = Char.ofNat other.toNat) : byte = other := by
  have hnat := congrArg Char.toNat h
  rw [toNat_charOfByte, toNat_charOfByte] at hnat
  exact UInt8.toNat_inj.mp hnat

theorem toNat_toUInt8 {c : Char} (h : c.toNat < 0x80) : c.toUInt8.toNat = c.toNat := by
  change c.toNat % 2 ^ 8 = c.toNat
  omega

theorem charOfByte_toUInt8 {c : Char} (h : c.toNat < 0x80) :
    Char.ofNat c.toUInt8.toNat = c := by
  rw [toNat_toUInt8 h, Char.ofNat_toNat]

theorem ofText_eq_flatMap (text : String) :
    ofText text = text.toList.flatMap String.utf8EncodeChar := by
  rw [ofText, String.toUTF8_eq_toByteArray, ← String.utf8Encode_toList]
  simp [List.utf8Encode]

/-- A text is known by its bytes. -/
theorem ofText_inj {text other : String} : ofText text = ofText other ↔ text = other := by
  constructor
  · intro h
    have htext := toText?_ofText text
    rw [h, toText?_ofText] at htext
    exact (Option.some.inj htext).symm
  · rintro rfl
    rfl

/-! ## Characters -/

/-- An ASCII character has one byte. -/
theorem utf8EncodeChar_of_lt {c : Char} (h : c.toNat < 0x80) :
    String.utf8EncodeChar c = [c.toUInt8] := by
  have hsize : c.utf8Size = 1 := Char.utf8Size_eq_one_iff.mpr (Nat.le_of_lt_succ h)
  rw [String.utf8EncodeChar_eq_singleton hsize]
  rfl

/-- The bytes of a character that is not ASCII are not ASCII either. -/
theorem le_of_mem_utf8EncodeChar {c : Char} (h : 0x80 ≤ c.toNat) {byte : UInt8}
    (hbyte : byte ∈ String.utf8EncodeChar c) : 0x80 ≤ byte.toNat := by
  have hlt : c.toNat < 0x110000 := by
    have hvalid := c.valid
    simp only [UInt32.isValidChar, Nat.isValidChar] at hvalid
    change c.val.toNat < _
    omega
  change 0x80 ≤ c.val.toNat at h
  change c.val.toNat < 0x110000 at hlt
  simp only [String.utf8EncodeChar] at hbyte
  split at hbyte
  · omega
  · split at hbyte
    · simp only [List.mem_cons, List.not_mem_nil, or_false] at hbyte
      rcases hbyte with rfl | rfl <;> simp only [UInt8.toNat_ofNat'] <;> omega
    · split at hbyte
      · simp only [List.mem_cons, List.not_mem_nil, or_false] at hbyte
        rcases hbyte with rfl | rfl | rfl <;> simp only [UInt8.toNat_ofNat'] <;> omega
      · simp only [List.mem_cons, List.not_mem_nil, or_false] at hbyte
        rcases hbyte with rfl | rfl | rfl | rfl <;> simp only [UInt8.toNat_ofNat'] <;> omega

def ofChars (chars : List Char) : Bytes := chars.flatMap String.utf8EncodeChar

@[simp] theorem ofChars_nil : ofChars [] = [] := rfl

@[simp] theorem ofChars_append (front back : List Char) :
    ofChars (front ++ back) = ofChars front ++ ofChars back := by
  simp [ofChars]

theorem ofChars_cons (c : Char) (chars : List Char) :
    ofChars (c :: chars) = String.utf8EncodeChar c ++ ofChars chars := rfl

theorem ofChars_cons_of_lt {c : Char} (h : c.toNat < 0x80) (chars : List Char) :
    ofChars (c :: chars) = c.toUInt8 :: ofChars chars := by
  rw [ofChars_cons, utf8EncodeChar_of_lt h, List.singleton_append]

theorem ofText_ofList (chars : List Char) : ofText (String.ofList chars) = ofChars chars := by
  rw [ofText_eq_flatMap, String.toList_ofList, ofChars]

/-- An ASCII text has one byte for each character. -/
theorem ofText_eq_map {text : String} (h : ∀ c ∈ text.toList, c.toNat < 0x80) :
    ofText text = text.toList.map Char.toUInt8 := by
  rw [ofText_eq_flatMap]
  generalize text.toList = chars at h
  induction chars with
  | nil => rfl
  | cons c chars ih =>
    rw [List.flatMap_cons, List.map_cons, utf8EncodeChar_of_lt (h c (by simp)),
      ih fun d hd => h d (by simp [hd])]
    rfl

/-! ## Numbers -/

/-- The digits of a number continue what was read before them. -/
theorem foldl_ofNat (width n start : Nat) :
    (ofNat width n).foldl (fun m byte => m * 256 + byte.toNat) start =
      start * Nat.pow 256 width + n % Nat.pow 256 width := by
  induction width generalizing start with
  | zero => simp [ofNat, Nat.mod_one]
  | succ width ih =>
    have hpow : Nat.pow 256 (width + 1) = Nat.pow 256 width * 256 := rfl
    rw [ofNat, List.foldl_cons, ih, UInt8.toNat_ofNat', hpow, Nat.mod_mul, Nat.add_mul,
      Nat.mul_assoc, Nat.mul_comm 256, Nat.add_assoc, Nat.add_comm (n % _),
      Nat.mul_comm (Nat.pow 256 width) (_ % 256)]

/-- A number is read back if there is room for all of its digits. -/
theorem toNat_ofNat {width n : Nat} (h : n < Nat.pow 256 width) : toNat (ofNat width n) = n := by
  rw [toNat, foldl_ofNat, Nat.zero_mul, Nat.zero_add, Nat.mod_eq_of_lt h]

/-- Numbers are known by their digits where there is room for all of them. -/
theorem ofNat_inj {width n m : Nat} (hn : n < Nat.pow 256 width) (hm : m < Nat.pow 256 width) :
    ofNat width n = ofNat width m ↔ n = m := by
  constructor
  · intro h
    rw [← toNat_ofNat hn, h, toNat_ofNat hm]
  · rintro rfl
    rfl

/-- The bytes of a number continue what was read before them. -/
theorem foldl_eq (bytes : Bytes) (start : Nat) :
    bytes.foldl (fun n byte => n * 256 + byte.toNat) start =
      start * Nat.pow 256 bytes.length + toNat bytes := by
  induction bytes generalizing start with
  | nil => simp [toNat]
  | cons byte rest ih =>
    have hpow : Nat.pow 256 (rest.length + 1) = Nat.pow 256 rest.length * 256 := rfl
    rw [toNat, List.foldl_cons, List.foldl_cons, ih, ih, List.length_cons, hpow, Nat.zero_mul,
      Nat.zero_add, Nat.add_mul, Nat.mul_assoc, Nat.mul_comm 256, Nat.add_assoc]

theorem toNat_cons (byte : UInt8) (rest : Bytes) :
    toNat (byte :: rest) = byte.toNat * Nat.pow 256 rest.length + toNat rest := by
  rw [toNat, List.foldl_cons, foldl_eq, Nat.zero_mul, Nat.zero_add]

theorem toNat_lt (bytes : Bytes) : toNat bytes < Nat.pow 256 bytes.length := by
  induction bytes with
  | nil => exact Nat.one_pos
  | cons byte rest ih =>
    have hpow : Nat.pow 256 (rest.length + 1) = 256 * Nat.pow 256 rest.length := Nat.mul_comm ..
    have hbyte : (byte.toNat + 1) * Nat.pow 256 rest.length ≤ 256 * Nat.pow 256 rest.length :=
      Nat.mul_le_mul_right _ byte.toNat_lt
    rw [toNat_cons, List.length_cons, hpow]
    rw [Nat.succ_mul] at hbyte
    omega

/-- A byte string is known by its number and its length. -/
theorem eq_of_toNat_eq {bytes other : Bytes} (hlength : bytes.length = other.length)
    (h : toNat bytes = toNat other) : bytes = other := by
  induction bytes generalizing other with
  | nil => exact (List.eq_nil_of_length_eq_zero hlength.symm).symm
  | cons byte rest ih =>
    cases other with
    | nil => cases hlength
    | cons byte' rest' =>
      have hrest : rest.length = rest'.length := Nat.succ.inj hlength
      rw [toNat_cons, toNat_cons, hrest] at h
      have hlt := toNat_lt rest
      have hlt' := toNat_lt rest'
      rw [hrest] at hlt
      have hpos : 0 < Nat.pow 256 rest'.length := Nat.pow_pos (by decide)
      have hdiv := congrArg (· / Nat.pow 256 rest'.length) h
      have hmod := congrArg (· % Nat.pow 256 rest'.length) h
      simp only [Nat.mul_comm _ (Nat.pow 256 _), Nat.mul_add_div hpos, Nat.div_eq_of_lt hlt,
        Nat.div_eq_of_lt hlt', Nat.add_zero] at hdiv
      simp only [Nat.mul_comm _ (Nat.pow 256 _), Nat.mul_add_mod, Nat.mod_eq_of_lt hlt,
        Nat.mod_eq_of_lt hlt'] at hmod
      rw [UInt8.toNat_inj.mp hdiv, ih hrest hmod]

/-- A byte string is the number's digits in its own width. -/
theorem ofNat_toNat (bytes : Bytes) : ofNat bytes.length (toNat bytes) = bytes :=
  eq_of_toNat_eq (length_ofNat ..) (toNat_ofNat (toNat_lt bytes))

/-! ## Leading zeros -/

theorem head?_dropWhile_zero (bytes : Bytes) : (bytes.dropWhile (· == 0)).head? ≠ some 0 := by
  intro hzero
  have hnot := List.head?_dropWhile_not (· == 0) bytes
  rw [hzero] at hnot
  cases hnot

theorem toNat_dropWhile_zero (bytes : Bytes) :
    toNat (bytes.dropWhile (· == 0)) = toNat bytes := by
  induction bytes with
  | nil => rfl
  | cons byte rest ih =>
    by_cases hbyte : byte = 0
    · rw [List.dropWhile_cons_of_pos (by simpa using hbyte), ih, toNat_cons, hbyte]
      simp
    · rw [List.dropWhile_cons_of_neg (by simpa using hbyte)]

/-- A byte string without leading zeros is the shortest one for its number. -/
theorem length_le_of_toNat_eq {bytes other : Bytes} (hhead : bytes.head? ≠ some 0)
    (h : toNat bytes = toNat other) : bytes.length ≤ other.length := by
  cases bytes with
  | nil => exact Nat.zero_le _
  | cons byte rest =>
    apply Decidable.byContradiction
    intro hlonger
    have hpos : 0 < byte.toNat := by
      apply Nat.pos_of_ne_zero
      intro hzero
      exact hhead (congrArg some (UInt8.toNat_inj.mp hzero))
    have hpow : Nat.pow 256 other.length ≤ Nat.pow 256 rest.length :=
      Nat.pow_le_pow_right (by decide) (by rw [List.length_cons] at hlonger; omega)
    have hfirst : Nat.pow 256 rest.length ≤ byte.toNat * Nat.pow 256 rest.length :=
      Nat.le_mul_of_pos_left _ hpos
    have hlt := toNat_lt other
    rw [← h, toNat_cons] at hlt
    omega

/-- Only leading zeros tell byte strings of the same number apart. -/
theorem dropWhile_zero_eq_of_toNat_eq {bytes other : Bytes} (h : toNat bytes = toNat other) :
    bytes.dropWhile (· == 0) = other.dropWhile (· == 0) := by
  have hsame : toNat (bytes.dropWhile (· == 0)) = toNat (other.dropWhile (· == 0)) := by
    rw [toNat_dropWhile_zero, toNat_dropWhile_zero, h]
  apply eq_of_toNat_eq _ hsame
  exact Nat.le_antisymm (length_le_of_toNat_eq (head?_dropWhile_zero _) hsame)
    (length_le_of_toNat_eq (head?_dropWhile_zero _) hsame.symm)

end Possession.Bytes

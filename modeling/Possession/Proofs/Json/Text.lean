import Possession.Json.Printing
import Possession.Json.Reading
import Possession.Proofs.Bytes

/-!
# Strings read back

`Written` says which bytes between quotes stand for which. The scanner that looks for the closing
quote and the reader that resolves escapes both go by these pieces.
-/

namespace Possession.Json

/-! ## One character -/

/-- Bytes between quotes that are one piece there, and the bytes that they stand for. -/
inductive Written : Bytes → Bytes → Prop
  /-- Bytes that stand for themselves. -/
  | plain {bytes : Bytes}
      (h : ∀ byte ∈ bytes, ¬ byte < 0x20 ∧ byte ≠ 0x22 ∧ byte ≠ 0x5C) : Written bytes bytes
  /-- A backslash and a letter. -/
  | short {escape : UInt8} (h : escape ∈ Tree.simpleEscapes) :
      Written [0x5C, escape] [simpleEscape escape]
  /-- The number of a character; no half of a surrogate pair is one. -/
  | unit {a b c d : UInt8} (hdigits : [a, b, c, d].all Tree.isHexDigit = true)
      (hhigh : isHighSurrogate (unitOf a b c d) = false)
      (hlow : isLowSurrogate (unitOf a b c d) = false) :
      Written [0x5C, 0x75, a, b, c, d] (String.utf8EncodeChar (Char.ofNat (unitOf a b c d)))

/-- An ASCII character that is written with a letter. -/
theorem Written.letter {c letter : Char} (hc : c.toNat < 0x80) (hletter : letter.toNat < 0x80)
    (h : letter.toUInt8 ∈ Tree.simpleEscapes) (hmeaning : simpleEscape letter.toUInt8 = c.toUInt8) :
    Written (Bytes.ofChars ['\\', letter]) (String.utf8EncodeChar c) := by
  have hpiece : Bytes.ofChars ['\\', letter] = [0x5C, letter.toUInt8] := by
    rw [Bytes.ofChars_cons_of_lt (by decide), Bytes.ofChars_cons_of_lt hletter]
    rfl
  rw [hpiece, Bytes.utf8EncodeChar_of_lt hc, ← hmeaning]
  exact .short h

/-- A control character that is written by its number. -/
theorem written_control {c : Char} (hc : c.toNat < 0x20) :
    Written (Bytes.ofChars
      ['\\', 'u', '0', '0', Bytes.hexDigit (c.toNat / 16), Bytes.hexDigit (c.toNat % 16)])
      (String.utf8EncodeChar c) := by
  have hall : ∀ n < 0x20, ∃ high low : UInt8,
      Bytes.ofChars ['\\', 'u', '0', '0', Bytes.hexDigit (n / 16), Bytes.hexDigit (n % 16)] =
        [0x5C, 0x75, 0x30, 0x30, high, low] ∧
      [0x30, 0x30, high, low].all Tree.isHexDigit = true ∧ unitOf 0x30 0x30 high low = n := by
    intro n hn
    refine ⟨(Bytes.hexDigit (n / 16)).toUInt8, (Bytes.hexDigit (n % 16)).toUInt8, ?_⟩
    revert n
    decide +kernel
  obtain ⟨high, low, hpiece, hdigits, hunit⟩ := hall c.toNat hc
  have hsurrogate : isHighSurrogate (unitOf 0x30 0x30 high low) = false ∧
      isLowSurrogate (unitOf 0x30 0x30 high low) = false := by
    simp only [hunit, isHighSurrogate, isLowSurrogate, Bool.and_eq_false_iff,
      decide_eq_false_iff_not]
    omega
  have hwritten := Written.unit hdigits hsurrogate.1 hsurrogate.2
  rwa [hunit, Char.ofNat_toNat, ← hpiece] at hwritten

theorem written_self {c : Char} (hquote : c ≠ '"') (hescape : c ≠ '\\') (hc : ¬ c.toNat < 0x20) :
    Written (Bytes.ofChars [c]) (String.utf8EncodeChar c) := by
  rw [Bytes.ofChars_cons, Bytes.ofChars_nil, List.append_nil]
  have hquote' : c.toNat ≠ 0x22 := fun h => hquote (Char.toNat_inj.mp h)
  have hescape' : c.toNat ≠ 0x5C := fun h => hescape (Char.toNat_inj.mp h)
  refine .plain fun byte hbyte => ?_
  have hbytes : byte.toNat = c.toNat ∨ 0x80 ≤ byte.toNat := by
    by_cases hascii : c.toNat < 0x80
    · rw [Bytes.utf8EncodeChar_of_lt hascii, List.mem_singleton] at hbyte
      exact .inl (hbyte ▸ Bytes.toNat_toUInt8 hascii)
    · exact .inr (Bytes.le_of_mem_utf8EncodeChar (by omega) hbyte)
  simp only [UInt8.lt_iff_toNat_lt, ne_eq, ← UInt8.toNat_inj, UInt8.reduceToNat]
  omega

/-- Every character is written as one piece. -/
theorem written_escapeChar (c : Char) :
    Written (Bytes.ofChars (escapeChar c)) (String.utf8EncodeChar c) := by
  unfold escapeChar
  -- seven characters have a letter of their own
  iterate 7
    split
    · next h =>
      subst h
      exact .letter (by decide) (by decide) (by decide) (by decide)
  split
  · next h => exact written_control h
  · next hquote hescape _ _ _ _ _ hc => exact written_self hquote hescape hc

/-! ## The scanner -/

/-- The scanner passes over a piece. -/
theorem Written.readString? {piece meaning : Bytes} (h : Written piece meaning) (rest : Bytes) :
    Tree.readString? (piece ++ rest) =
      (Tree.readString? rest).map fun (content, after) => (piece ++ content, after) := by
  cases h with
  | plain h =>
    induction piece with
    | nil => simp
    | cons byte bytes ih =>
      obtain ⟨hcontrol, hquote, hescape⟩ := h byte (by simp)
      rw [List.cons_append, Tree.readString?, if_neg (by simp [hcontrol, hescape]),
        ih fun other hother => h other (by simp [hother]), Option.map_map]
      · rfl
      · exact hquote
      · exact fun _ _ _ _ _ h _ => hescape h
      · exact fun _ _ h _ => hescape h
  | short h =>
    rw [List.cons_append, List.cons_append, Tree.readString?, if_pos (by simpa using h)]
    · rfl
    · rintro _ _ _ _ _ rfl _
      exact absurd h (by decide)
  | unit hdigits =>
    simp only [List.cons_append, List.nil_append, Tree.readString?, if_pos hdigits]

/-! ## Escapes -/

/-- A piece is resolved to what it stands for. -/
theorem Written.unescape? {piece meaning : Bytes} (h : Written piece meaning) (rest : Bytes) :
    Json.unescape? (piece ++ rest) = (Json.unescape? rest).map (meaning ++ ·) := by
  cases h with
  | plain h =>
    induction piece with
    | nil => simp
    | cons byte bytes ih =>
      obtain ⟨_, _, hescape⟩ := h byte (by simp)
      rw [List.cons_append, Json.unescape?, ih fun other hother => h other (by simp [hother]),
        Option.map_map]
      · rfl
      · exact fun _ _ _ _ _ _ _ _ _ h _ => hescape h
      · exact fun _ _ _ _ _ h _ => hescape h
      · exact fun _ _ h _ => hescape h
  | short h =>
    have hne : ∀ escape ∈ Tree.simpleEscapes, escape ≠ 0x75 := by simp [Tree.simpleEscapes]
    rw [List.cons_append, List.cons_append, Json.unescape?]
    · rfl
    · exact fun _ _ _ _ _ _ _ _ _ heq _ => hne _ h heq
    · exact fun _ _ _ _ _ heq _ => hne _ h heq
  | @unit a b c d _ hhigh hlow =>
    -- the number of another character may follow, which the reader looks at together with this one
    by_cases hnext : ∃ e f g h after, rest = 0x5C :: 0x75 :: e :: f :: g :: h :: after
    · obtain ⟨e, f, g, h, after, rfl⟩ := hnext
      simp [Json.unescape?, hhigh, hlow]
    · rw [List.cons_append]
      simp only [List.cons_append, List.nil_append]
      rw [Json.unescape?, hhigh, hlow]
      · rfl
      · exact fun e f g h after heq => hnext ⟨e, f, g, h, after, heq⟩

/-! ## Strings -/

/-- The bytes of a string between its quotes, as it is written. -/
def contentOf (text : String) : Bytes := Bytes.ofChars (text.toList.flatMap escapeChar)

theorem readString?_escaped (chars : List Char) (rest : Bytes) :
    Tree.readString? (Bytes.ofChars (chars.flatMap escapeChar) ++ 0x22 :: rest) =
      some (Bytes.ofChars (chars.flatMap escapeChar), rest) := by
  induction chars with
  | nil => rfl
  | cons c chars ih =>
    rw [List.flatMap_cons, Bytes.ofChars_append, List.append_assoc,
      (written_escapeChar c).readString?, ih]
    rfl

theorem unescape?_escaped (chars : List Char) :
    unescape? (Bytes.ofChars (chars.flatMap escapeChar)) = some (Bytes.ofChars chars) := by
  induction chars with
  | nil => rfl
  | cons c chars ih =>
    rw [List.flatMap_cons, Bytes.ofChars_append, (written_escapeChar c).unescape?, ih]
    rfl

/-- A written string ends at its closing quote. -/
theorem readString?_contentOf (text : String) (rest : Bytes) :
    Tree.readString? (contentOf text ++ 0x22 :: rest) = some (contentOf text, rest) :=
  readString?_escaped text.toList rest

/-- A written string stands for the string. -/
@[simp] theorem stringText?_contentOf (text : String) :
    stringText? (contentOf text) = some text := by
  rw [stringText?, contentOf, unescape?_escaped]
  change Bytes.toText? (Bytes.ofChars text.toList) = some text
  rw [← Bytes.ofText_ofList, String.ofList_toList, Bytes.toText?_ofText]

end Possession.Json

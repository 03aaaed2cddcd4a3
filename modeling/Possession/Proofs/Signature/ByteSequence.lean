import Possession.Proofs.Base64.Bits
import Possession.Proofs.Signature.Header

/-!
# Bytes between colons

For each byte string there is one text that the reader with padding accepts and one that the reader
without it does. A text that both accept is read as the same bytes by both.
-/

namespace Possession.Signature

/-- Bytes in base64 without padding between colons. -/
def unpaddedText (bytes : Bytes) : List Char :=
  ':' :: Base64.encodeChars Base64.standardUnpadded bytes ++ [':']

section

variable {value encoded : List Char} {bytes : Bytes}

/-- The colons are the first and the last character, whatever is between them. -/
theorem betweenColons_eq_some_iff :
    (Text.after? [':'] value).bind (Text.before? [':']) = some encoded ↔
      value = ':' :: encoded ++ [':'] := by
  simp only [Option.bind_eq_some_iff, Text.after?_eq_some_iff, Text.before?_eq_some_iff]
  constructor
  · rintro ⟨inner, rfl, rfl⟩
    rfl
  · rintro rfl
    exact ⟨_, rfl, rfl⟩

/-- What is read between colons is in base64, with padding or without. -/
theorem readByteSequence_eq_ok_iff :
    readByteSequence value = .ok bytes ↔ ∃ encoded, value = ':' :: encoded ++ [':'] ∧
      (encoded = Base64.encodeChars Base64.standard bytes ∨
        encoded = Base64.encodeChars Base64.standardUnpadded bytes) := by
  simp only [← betweenColons_eq_some_iff]
  rw [readByteSequence]
  cases (Text.after? [':'] value).bind (Text.before? [':']) with
  | none => simp
  | some encoded =>
    simp only [Option.some.injEq, exists_eq_left']
    cases hpadded : Base64.decodeText Base64.standard (String.ofList encoded) with
    | ok other =>
      have hencoded := Base64.decodeText_ofList_eq_ok_iff.mp hpadded
      constructor
      · intro h
        cases h
        exact .inl hencoded
      · intro h
        have hsame : other = bytes := by
          rcases h with h | h
          · exact Base64.encodeChars_inj.mp (hencoded.symm.trans h)
          · exact Base64.eq_of_encodeChars_required_eq (hencoded.symm.trans h)
        exact congrArg Except.ok hsame
    | error fault =>
      have hnone : encoded ≠ Base64.encodeChars Base64.standard bytes := by
        intro h
        rw [Base64.decodeText_ofList_eq_ok_iff.mpr h] at hpadded
        cases hpadded
      dsimp only
      rw [Outcome.mapError_eq_ok_iff, Base64.decodeText_ofList_eq_ok_iff, or_iff_right hnone]

end

/-- A byte string is read from its base64 between colons, with padding or without, and from no other
text. The symbols carry the bits of the bytes, six each, with zeros behind the last bit, and the
padding brings their number to a multiple of four. -/
theorem readByteSequence_spellings (bytes : Bytes) :
    (∀ value, readByteSequence value = .ok bytes ↔
      value = bytesText bytes ∨ value = unpaddedText bytes) ∧
    ∃ sextets, Base64.Regroups bytes sextets ∧
      unpaddedText bytes = ':' :: sextets.map Base64.Alphabet.standard.symbol ++ [':'] ∧
      bytesText bytes = ':' :: (sextets.map Base64.Alphabet.standard.symbol ++
        List.replicate ((4 - sextets.length % 4) % 4) '=') ++ [':'] := by
  constructor
  · intro value
    rw [readByteSequence_eq_ok_iff, bytesText, unpaddedText]
    constructor
    · rintro ⟨encoded, rfl, rfl | rfl⟩
      · exact .inl rfl
      · exact .inr rfl
    · rintro (rfl | rfl)
      · exact ⟨_, rfl, .inl rfl⟩
      · exact ⟨_, rfl, .inr rfl⟩
  · obtain ⟨sextets, hregroups, htext⟩ := Base64.exists_regroups .standard bytes
    refine ⟨sextets, hregroups, ?_, ?_⟩
    · rw [unpaddedText, Base64.standardUnpadded, htext, Base64.Padding.fill, List.append_nil]
    · rw [bytesText, Base64.standard, htext, Base64.Padding.fill]

end Possession.Signature

import Possession.KeyReference
import Possession.Proofs.Base64.Canonical
import Possession.Proofs.Text

/-!
# One reference for each digest

No tag continues another one, and base64url is read in its canonical form only. So no digest has a
second spelling, and different references name different digests.
-/

namespace Possession.KeyReference

/-- Whether a text is the thumbprint that a digest of the algorithm has. -/
def IsThumbprint (algorithm : ThumbprintAlgorithm) (thumbprint : String) : Prop :=
  ∃ digest : Bytes, digest.length = algorithm.digestLength ∧
    thumbprint = Base64.encode Base64.urlUnpadded digest

def digest? (reference : KeyReference) : Option Bytes :=
  Base64.decode? Base64.urlUnpadded reference.thumbprint

/-! ## Tags -/

theorem splitTag?_eq_some_iff {text rest : List Char} {algorithm : ThumbprintAlgorithm} :
    splitTag? text = some (algorithm, rest) ↔ text = algorithm.tag.toList ++ '-' :: rest := by
  constructor
  · intro h
    obtain ⟨found, -, hfound⟩ := List.exists_of_findSome?_eq_some h
    obtain ⟨rest', hrest, hsame⟩ := Option.map_eq_some_iff.mp hfound
    cases hsame
    simpa using Text.after?_eq_some_iff.mp hrest
  · rintro rfl
    cases algorithm <;> rfl

theorem toList_print (reference : KeyReference) :
    reference.print.toList =
      reference.algorithm.tag.toList ++ '-' :: reference.thumbprint.toList := by
  simp [print]

/-! ## Thumbprints -/

theorem IsThumbprint.ne_empty {algorithm : ThumbprintAlgorithm} {thumbprint : String}
    (h : IsThumbprint algorithm thumbprint) : thumbprint.toList ≠ [] := by
  obtain ⟨digest, hlength, rfl⟩ := h
  intro hempty
  have hnil : Base64.encode Base64.urlUnpadded digest = Base64.encode Base64.urlUnpadded [] :=
    String.toList_inj.mp hempty
  rw [Base64.encode_inj.mp hnil] at hlength
  cases algorithm <;> cases hlength

/-- A digest is read out of a thumbprint in one way only. -/
theorem digest?_eq_some_iff {reference : KeyReference} {digest : Bytes} :
    reference.digest? = some digest ↔
      reference.thumbprint = Base64.encode Base64.urlUnpadded digest := by
  rw [← Base64.decodeText_eq_ok_iff, digest?, Base64.decode?]
  cases Base64.decodeText Base64.urlUnpadded reference.thumbprint <;> simp [Except.toOption]

/-! ## References -/

theorem read_eq_ok_iff {text : String} {reference : KeyReference} :
    read text = .ok reference ↔
      text = reference.print ∧ IsThumbprint reference.algorithm reference.thumbprint := by
  have htag : text = reference.print ↔
      splitTag? text.toList = some (reference.algorithm, reference.thumbprint.toList) := by
    rw [splitTag?_eq_some_iff, ← toList_print, String.toList_inj]
  rw [htag, read]
  constructor
  · intro h
    split at h
    · cases h
    · next algorithm rest hsplit =>
      dsimp only at h
      split at h
      · cases h
      · split at h
        · cases h
        · next digest hdigest =>
          split at h
          · next hlength =>
            cases h
            exact ⟨by rw [hsplit, String.toList_ofList], digest, hlength,
              Base64.decodeText_eq_ok_iff.mp hdigest⟩
          · cases h
  · rintro ⟨hsplit, hthumbprint⟩
    have hne := hthumbprint.ne_empty
    obtain ⟨digest, hlength, hencode⟩ := hthumbprint
    have hdigest := Base64.decodeText_eq_ok_iff.mpr hencode
    rw [hsplit]
    simp only [if_neg hne, String.ofList_toList, hdigest, if_pos hlength]

theorem parse_eq_ok_iff {text : String} {reference : KeyReference} :
    parse text = .ok reference ↔
      text = reference.print ∧ IsThumbprint reference.algorithm reference.thumbprint := by
  rw [parse, Outcome.mapError_eq_ok_iff, read_eq_ok_iff]

theorem print_inj {reference other : KeyReference} :
    reference.print = other.print ↔ reference = other := by
  constructor
  · intro h
    have hsplit := splitTag?_eq_some_iff.mpr (toList_print reference)
    rw [h, splitTag?_eq_some_iff.mpr (toList_print other)] at hsplit
    obtain ⟨halgorithm, hthumbprint⟩ := Prod.mk.inj (Option.some.inj hsplit)
    cases reference
    cases other
    simp_all [String.toList_inj]
  · rintro rfl
    rfl

theorem exists_digest?_of_parse {text : String} {reference : KeyReference}
    (h : parse text = .ok reference) :
    ∃ digest, reference.digest? = some digest ∧
      digest.length = reference.algorithm.digestLength := by
  obtain ⟨-, digest, hlength, hencode⟩ := parse_eq_ok_iff.mp h
  exact ⟨digest, digest?_eq_some_iff.mpr hencode, hlength⟩

/-- References that name the same digest under the same algorithm are the same text. -/
theorem text_eq_of_digest?_eq {text other : String} {reference reference' : KeyReference}
    (h : parse text = .ok reference) (h' : parse other = .ok reference')
    (halgorithm : reference.algorithm = reference'.algorithm)
    (hdigest : reference.digest? = reference'.digest?) : text = other := by
  obtain ⟨digest, hread, -⟩ := exists_digest?_of_parse h
  have hthumbprint : reference.thumbprint = reference'.thumbprint :=
    (digest?_eq_some_iff.mp hread).trans (digest?_eq_some_iff.mp (hdigest ▸ hread)).symm
  rw [(parse_eq_ok_iff.mp h).1, (parse_eq_ok_iff.mp h').1, print, print, halgorithm, hthumbprint]

/-- The texts that are read as references are a tag, a hyphen and a thumbprint, and every other text
is refused as malformed. What is read is written as it was, a reference is read back exactly if its
thumbprint is one of its algorithm, and different texts name different digests. -/
theorem parse_grammar (text : String) :
    (∀ algorithm thumbprint, parse text = .ok ⟨algorithm, thumbprint⟩ ↔
      text = algorithm.tag ++ "-" ++ thumbprint ∧ IsThumbprint algorithm thumbprint) ∧
    ((∀ algorithm thumbprint, text = algorithm.tag ++ "-" ++ thumbprint →
        ¬ IsThumbprint algorithm thumbprint) →
      ∃ refusal message, parse text = .error refusal ∧
        refusal.failure = .malformedReference message) ∧
    (∀ reference, parse text = .ok reference → reference.print = text) ∧
    (∀ reference other : KeyReference, parse reference.print = .ok other ↔
      other = reference ∧ IsThumbprint reference.algorithm reference.thumbprint) ∧
    ∀ other reference reference', parse text = .ok reference → parse other = .ok reference' →
      text ≠ other → ∃ digest digest', reference.digest? = some digest ∧
        reference'.digest? = some digest' ∧
        (reference.algorithm, digest) ≠ (reference'.algorithm, digest') := by
  refine ⟨fun _ _ => parse_eq_ok_iff, fun hnone => ?_,
    fun _ hparse => (parse_eq_ok_iff.mp hparse).1.symm, fun reference other => ?_,
    fun other reference reference' h h' hne => ?_⟩
  · cases hparse : parse text with
    | ok reference =>
      obtain ⟨htext, hthumbprint⟩ := parse_eq_ok_iff.mp hparse
      exact absurd hthumbprint (hnone _ _ htext)
    | error refusal =>
      obtain ⟨message, hfailure⟩ := failure_of_parse_eq_error hparse
      exact ⟨refusal, message, rfl, hfailure⟩
  · rw [parse_eq_ok_iff, print_inj]
    constructor
    · rintro ⟨rfl, hthumbprint⟩
      exact ⟨rfl, hthumbprint⟩
    · rintro ⟨rfl, hthumbprint⟩
      exact ⟨rfl, hthumbprint⟩
  · obtain ⟨digest, hdigest, -⟩ := exists_digest?_of_parse h
    obtain ⟨digest', hdigest', -⟩ := exists_digest?_of_parse h'
    refine ⟨digest, digest', hdigest, hdigest', fun hsame => hne ?_⟩
    obtain ⟨halgorithm, rfl⟩ := Prod.mk.inj hsame
    exact text_eq_of_digest?_eq h h' halgorithm (hdigest.trans hdigest'.symm)

/-- A digest whose thumbprint is all hyphens but for its last symbol. -/
def sampleDigest : Bytes :=
  (List.replicate 10 [0xFB, 0xEF, 0xBE]).flatten ++ [0xFB, 0xE0]

def sampleReference : KeyReference := ⟨.sha256, "------------------------------------------A"⟩

/-- The reference of hyphens is read. Its spelling with a spare bit in the last symbol is not. -/
theorem parse_sampleReference :
    parse "sha256-------------------------------------------A" = .ok sampleReference ∧
      ∃ refusal message, parse "sha256-------------------------------------------B" =
        .error refusal ∧ refusal.failure = .malformedReference message := by
  have hread : parse "sha256-------------------------------------------A" = .ok sampleReference :=
    ((parse_grammar _).1 _ _).mpr ⟨by decide, sampleDigest, by decide, by decide⟩
  refine ⟨hread, (parse_grammar _).2.1 fun algorithm thumbprint htext hthumbprint => ?_⟩
  have hok := ((parse_grammar _).1 algorithm thumbprint).mpr ⟨htext, hthumbprint⟩
  have hnone : (parse "sha256-------------------------------------------B").toOption = none := by
    decide +kernel
  rw [hok] at hnone
  cases hnone

end Possession.KeyReference

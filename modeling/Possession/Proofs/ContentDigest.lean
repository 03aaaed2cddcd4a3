import Possession.ContentDigest

/-!
# What a valid digest header says about a body

A value that is valid for a body names at least one algorithm, and two bodies for which one value is
valid have the same digests under all that it names.
-/

namespace Possession.ContentDigest

/-- Whether a header value has a member with the key of an algorithm. -/
def Names (value : String) (algorithm : Algorithm) : Prop :=
  ∃ member ∈ Text.pieces ',' value.toList, ∃ key rest,
    Text.cut? '=' (Text.trim member) = some (key, rest) ∧ Text.trim key = algorithm.key.toList

/-! ## Members -/

theorem ofKey?_eq_some_iff {key : List Char} {algorithm : Algorithm} :
    Algorithm.ofKey? key = some algorithm ↔ key = algorithm.key.toList := by
  constructor
  · intro h
    have hkey : algorithm.key.toList = key := by simpa using List.find?_some h
    exact hkey.symm
  · rintro rfl
    cases algorithm <;> decide

/-- The key of a member that can be read is the trimmed text before its equals sign. -/
theorem readMember?_eq_some {text key encoded : List Char}
    (h : readMember? text = some (key, encoded)) :
    ∃ front rest, Text.cut? '=' (Text.trim text) = some (front, rest) ∧ key = Text.trim front := by
  simp only [readMember?, Option.bind_eq_bind, Option.bind_eq_some_iff, Option.pure_def,
    Option.some.injEq, Prod.mk.injEq, Prod.exists] at h
  obtain ⟨front, rest, hcut, _, _, _, _, rfl, _⟩ := h
  exact ⟨front, rest, hcut, rfl⟩

/-- A list of members declares a digest for exactly the algorithms whose keys occur in it: a member
with a known key is never passed over. -/
theorem exists_mem_readMembers?_iff {texts : List (List Char)} {entries : List (Algorithm × Bytes)}
    (h : readMembers? texts = some entries) (algorithm : Algorithm) :
    (∃ digest, (algorithm, digest) ∈ entries) ↔
      ∃ text ∈ texts, ∃ key rest, Text.cut? '=' (Text.trim text) = some (key, rest) ∧
        Text.trim key = algorithm.key.toList := by
  induction texts generalizing entries with
  | nil =>
    cases h
    simp
  | cons text texts ih =>
    simp only [readMembers?, Option.bind_eq_bind, Option.bind_eq_some_iff, Prod.exists] at h
    obtain ⟨key, encoded, hmember, h⟩ := h
    obtain ⟨front, rest, hcut, rfl⟩ := readMember?_eq_some hmember
    cases hkey : Algorithm.ofKey? (Text.trim front) with
    | none =>
      rw [hkey] at h
      have hother : Text.trim front ≠ algorithm.key.toList := by
        intro heq
        rw [ofKey?_eq_some_iff.mpr heq] at hkey
        cases hkey
      simp [ih h, hcut, hother]
    | some found =>
      simp only [hkey, Option.bind_eq_some_iff, Option.pure_def, Option.some.injEq] at h
      obtain ⟨declared, _, others, hothers, rfl⟩ := h
      have hfound := ofKey?_eq_some_iff.mp hkey
      have hsame : algorithm = found ↔ Text.trim front = algorithm.key.toList := by
        rw [hfound]
        cases found <;> cases algorithm <;> decide
      simp [ih hothers, hcut, ← hsame, exists_or]

/-! ## Values -/

theorem isValid_eq_true_iff {value : String} {body : Bytes} :
    isValid (some value) body = true ↔
      ∃ entries, declared? value = some entries ∧ entries ≠ [] ∧
        ∀ algorithm digest, (algorithm, digest) ∈ entries → algorithm.digest body = digest := by
  rw [isValid, Option.bind_some]
  cases declared? value with
  | none => simp
  | some entries => simp [List.all_eq_true]

/-- A value that is valid for some body names an algorithm. -/
theorem exists_names_of_isValid {value : String} {body : Bytes}
    (h : isValid (some value) body = true) : ∃ algorithm, Names value algorithm := by
  obtain ⟨entries, hdeclared, hne, _⟩ := isValid_eq_true_iff.mp h
  obtain ⟨⟨algorithm, digest⟩, rest, rfl⟩ := List.exists_cons_of_ne_nil hne
  exact ⟨algorithm, (exists_mem_readMembers?_iff hdeclared algorithm).mp ⟨digest, by simp⟩⟩

/-- One value is valid for two bodies only if they have the same digest under every algorithm that
it names. -/
theorem digest_eq_of_isValid {value : String} {body other : Bytes} {algorithm : Algorithm}
    (h : isValid (some value) body = true) (h' : isValid (some value) other = true)
    (hnames : Names value algorithm) : algorithm.digest body = algorithm.digest other := by
  obtain ⟨entries, hdeclared, _, hall⟩ := isValid_eq_true_iff.mp h
  obtain ⟨entries', hdeclared', _, hall'⟩ := isValid_eq_true_iff.mp h'
  obtain rfl : entries = entries' := by simpa [hdeclared] using hdeclared'
  obtain ⟨digest, hmem⟩ := (exists_mem_readMembers?_iff hdeclared algorithm).mpr hnames
  rw [hall algorithm digest hmem, hall' algorithm digest hmem]

/-! ## Decisions -/

/-- A request passes with a digest that is valid for its body, an absent body counting as empty, or
without one if it has no body and the policy allows it. -/
theorem check_eq_ok_iff {header : Option String} {body : Option Bytes} {policy : Policy}
    {verdict : Verdict} :
    check header body policy = .ok verdict ↔
      (verdict = .skipped ∧ header = none ∧ body = none ∧
        policy.allowBodylessWithoutDigest = true) ∨
      (verdict = .verified ∧ ∃ value, header = some value ∧
        isValid (some value) (body.getD []) = true) := by
  cases header with
  | none =>
    cases body <;> cases hallow : policy.allowBodylessWithoutDigest <;> cases verdict <;>
      simp [check, Outcome.refuse, hallow]
  | some value =>
    cases hvalid : isValid (some value) (body.getD []) <;> cases verdict <;>
      simp [check, Outcome.refuse, hvalid]

end Possession.ContentDigest

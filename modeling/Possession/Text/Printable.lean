import Possession.Text.Character
import Possession.Text.Split

/-!
# Printable texts

URLs are written in the visible characters of ASCII and the space. Texts of such characters are
closed under joining, so what is put together from printable parts is printable.
-/

namespace Possession.Text

/-- Whether a character is visible ASCII or the space. -/
def IsPrintable (c : Char) : Prop := 0x20 ≤ c.toNat ∧ c.toNat ≤ 0x7E

instance (c : Char) : Decidable (IsPrintable c) :=
  inferInstanceAs (Decidable (0x20 ≤ c.toNat ∧ c.toNat ≤ 0x7E))

/-- Whether a text holds printable characters only. -/
def Printable (text : List Char) : Prop := ∀ c ∈ text, IsPrintable c

instance (text : List Char) : Decidable (Printable text) :=
  List.decidableBAll IsPrintable text

@[simp] theorem printable_nil : Printable [] := by simp [Printable]

@[simp] theorem printable_cons {c : Char} {text : List Char} :
    Printable (c :: text) ↔ IsPrintable c ∧ Printable text := by
  simp [Printable]

@[simp] theorem printable_append {front back : List Char} :
    Printable (front ++ back) ↔ Printable front ∧ Printable back := by
  simp only [Printable, List.mem_append]
  exact ⟨fun h => ⟨fun c hc => h c (.inl hc), fun c hc => h c (.inr hc)⟩,
    fun h c hc => hc.elim (h.1 c) (h.2 c)⟩

/-- Part of a printable text is printable. -/
theorem Printable.mono {text part : List Char} (h : Printable text) (hsub : part ⊆ text) :
    Printable part := fun c hc => h c (hsub hc)

theorem printable_flatMap {α : Type} {items : List α} {f : α → List Char}
    (h : ∀ item ∈ items, Printable (f item)) : Printable (items.flatMap f) := by
  intro c hc
  obtain ⟨item, hitem, hc⟩ := List.mem_flatMap.mp hc
  exact h item hitem c hc

/-- A text between printable ones is printable. -/
theorem printable_intercalate {sep : List Char} {items : List (List Char)}
    (hsep : Printable sep) (h : ∀ item ∈ items, Printable item) :
    Printable (sep.intercalate items) := by
  intro c hc
  rcases mem_intercalate hc with hc | ⟨item, hitem, hc⟩
  · exact hsep c hc
  · exact h item hitem c hc

theorem printable_digitChar (n : Nat) : IsPrintable n.digitChar := by
  by_cases h : n < 16
  · revert n
    decide
  · rw [Nat.digitChar_eq_star.mpr (by omega)]
    decide

/-- A number is printable to any base. -/
theorem printable_toDigits {base : Nat} (h : 1 < base) (n : Nat) :
    Printable (Nat.toDigits base n) := by
  induction n using Nat.strongRecOn with
  | ind n ih =>
    rw [Nat.toDigits_eq_if h]
    split
    · simp [printable_digitChar]
    · have hlt : n / base < n := Nat.div_lt_self (by omega) h
      simpa [printable_digitChar] using ih _ hlt

theorem printable_of_isAsciiLetter {c : Char} (h : isAsciiLetter c = true) :
    IsPrintable c := by
  simp only [isAsciiLetter, isAsciiUpper, isAsciiLower, Bool.or_eq_true,
    Bool.and_eq_true, decide_eq_true_eq, Char.le_def] at h
  rcases h with ⟨hlow, hhigh⟩ | ⟨hlow, hhigh⟩
  · have hl : 65 ≤ c.toNat := hlow
    have hh : c.toNat ≤ 90 := hhigh
    exact ⟨by omega, by omega⟩
  · have hl : 97 ≤ c.toNat := hlow
    have hh : c.toNat ≤ 122 := hhigh
    exact ⟨by omega, by omega⟩

theorem printable_of_isAsciiDigit {c : Char} (h : isAsciiDigit c = true) :
    IsPrintable c := by
  simp only [isAsciiDigit, Bool.and_eq_true, decide_eq_true_eq, Char.le_def] at h
  have hl : 48 ≤ c.toNat := h.1
  have hh : c.toNat ≤ 57 := h.2
  exact ⟨by omega, by omega⟩

theorem printable_asciiLowerChar {c : Char} (h : IsPrintable c) :
    IsPrintable (asciiLowerChar c) := by
  unfold asciiLowerChar
  split
  · next hupper =>
    simp only [isAsciiUpper, Bool.and_eq_true, decide_eq_true_eq, Char.le_def] at hupper
    have hlow : 65 ≤ c.toNat := hupper.1
    have hhigh : c.toNat ≤ 90 := hupper.2
    have hvalid : (c.toNat + 32).isValidChar := .inl (by omega)
    rw [IsPrintable, Char.ofNat, dif_pos hvalid]
    exact ⟨by change 0x20 ≤ c.toNat + 32; omega, by change c.toNat + 32 ≤ 0x7E; omega⟩
  · exact h

theorem printable_asciiLower {text : List Char} (h : Printable text) :
    Printable (asciiLower text) := by
  intro c hc
  obtain ⟨original, horiginal, rfl⟩ := List.mem_map.mp hc
  exact printable_asciiLowerChar (h _ horiginal)

/-- A printable text has one line. -/
theorem Printable.newline_notMem {text : List Char} (h : Printable text) : '\n' ∉ text :=
  fun hc => absurd (h _ hc) (by decide)

end Possession.Text

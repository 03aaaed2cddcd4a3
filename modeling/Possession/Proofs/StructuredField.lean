import Possession.Proofs.Text
import Possession.StructuredField

/-!
# Scanning a structured field

Whether a character stands inside a string depends on the scan up to it, so the facts about a text
are put together from those about its parts and from the state in which the scan leaves each part.
-/

namespace Possession.StructuredField

/-! ## States -/

/-- A text leaves a state alone if each of its characters does. -/
theorem foldl_eq_self {σ : Type} {step : σ → Char → σ} {state : σ} {text : List Char}
    (h : ∀ c ∈ text, step state c = state) : text.foldl step state = state := by
  induction text with
  | nil => rfl
  | cons c text ih => rw [List.foldl_cons, h c (by simp), ih fun d hd => h d (by simp [hd])]

/-- Outside of strings, nothing but quotes and parentheses changes the state. -/
theorem Scan.after_plain {scan : Scan} {text : List Char} (hscan : scan.quoting = .outside)
    (h : ∀ c ∈ text, c ≠ '"' ∧ c ≠ '(' ∧ c ≠ ')') : scan.after text = scan := by
  obtain ⟨quoting, depth⟩ := scan
  cases hscan
  refine foldl_eq_self fun c hc => ?_
  obtain ⟨hquote, hopen, hclose⟩ := h c hc
  simp [Scan.step, Scan.stepDepth, Quoting.step, hquote, hopen, hclose]

/-- Inside a string, nothing but quotes and backslashes changes the state. -/
theorem Scan.after_inside {scan : Scan} {text : List Char} (hscan : scan.quoting = .quoted)
    (h : ∀ c ∈ text, c ≠ '"' ∧ c ≠ '\\') : scan.after text = scan := by
  obtain ⟨quoting, depth⟩ := scan
  cases hscan
  refine foldl_eq_self fun c hc => ?_
  obtain ⟨hquote, hescape⟩ := h c hc
  simp [Scan.step, Scan.stepDepth, Quoting.step, hquote, hescape]

/-- A string leaves the state as it was before. -/
theorem Scan.after_string {scan : Scan} {text : List Char} (hscan : scan.quoting = .outside)
    (h : ∀ c ∈ text, c ≠ '"' ∧ c ≠ '\\') : scan.after ('"' :: text ++ ['"']) = scan := by
  cases scan with
  | mk quoting depth =>
    cases hscan
    have hopened : (Scan.mk .outside depth).step '"' = ⟨.quoted, depth⟩ := rfl
    have hclosed : (Scan.mk .quoted depth).step '"' = ⟨.outside, depth⟩ := rfl
    rw [List.cons_append, Scan.after_cons, hopened, Scan.after_append, Scan.after_inside rfl h,
      Scan.after_cons, hclosed, Scan.after_nil]

/-! ## Texts of one piece -/

/-- Whether no separator of a text separates, if the scan is in the given state before it. -/
def Closed (sep : Char) (scan : Scan) (text : List Char) : Prop :=
  ∀ front back, text = front ++ sep :: back → (scan.after front).isOpen = false

theorem closed_of_notMem {sep : Char} {text : List Char} (h : sep ∉ text) (scan : Scan) :
    Closed sep scan text := by
  rintro front back rfl
  simp at h

theorem closed_cons_iff {sep c : Char} {scan : Scan} {text : List Char} :
    Closed sep scan (c :: text) ↔
      (scan.isOpen && c == sep) = false ∧ Closed sep (scan.step c) text := by
  have hfirst : (c = sep → scan.isOpen = false) ↔ (scan.isOpen && c == sep) = false := by
    cases scan.isOpen <;> simp
  rw [← hfirst]
  exact Text.forall_front_cons_iff

theorem Closed.append {sep : Char} {scan : Scan} {front back : List Char}
    (hfront : Closed sep scan front) (hback : Closed sep (scan.after front) back) :
    Closed sep scan (front ++ back) := by
  induction front generalizing scan with
  | nil => exact hback
  | cons c front ih =>
    obtain ⟨hc, hrest⟩ := closed_cons_iff.mp hfront
    exact closed_cons_iff.mpr ⟨hc, ih hrest hback⟩

instance Closed.decidable (sep : Char) :
    (scan : Scan) → (text : List Char) → Decidable (Closed sep scan text)
  | scan, [] => .isTrue (closed_of_notMem List.not_mem_nil scan)
  | scan, c :: text =>
    have := Closed.decidable sep (scan.step c) text
    decidable_of_iff' _ closed_cons_iff

theorem splitFrom_eq_singleton {sep : Char} {scan : Scan} {text : List Char}
    (h : Closed sep scan text) : splitFrom sep scan text = [text] := by
  induction text generalizing scan with
  | nil => rfl
  | cons c text ih =>
    obtain ⟨hc, htext⟩ := closed_cons_iff.mp h
    rw [splitFrom, if_neg (by simp [hc]), ih htext, Text.extendFirst]

/-- A trimmed text without an open separator is the only piece. -/
theorem split_eq_singleton {sep : Char} {text : List Char} (h : Closed sep .start text)
    (hne : text ≠ []) (htrim : Text.trim text = text) : split sep text = [text] := by
  rw [split, splitFrom_eq_singleton h, List.map_singleton, htrim]
  simpa using hne

/-! ## Cutting -/

/-- Whether every `target` of a text stands inside a string, if the scan is in the given state
before the text. -/
def Hides (target : Char) (quoting : Quoting) (text : List Char) : Prop :=
  ∀ front back, text = front ++ target :: back → front.foldl Quoting.step quoting ≠ .outside

section

variable {target : Char} {quoting : Quoting}

theorem hides_of_notMem {text : List Char} (h : target ∉ text) (quoting : Quoting) :
    Hides target quoting text := by
  rintro front back rfl
  simp at h

theorem hides_cons_iff {c : Char} {text : List Char} :
    Hides target quoting (c :: text) ↔
      ¬ (quoting = .outside ∧ c = target) ∧ Hides target (quoting.step c) text := by
  rw [not_and']
  exact Text.forall_front_cons_iff

theorem Hides.append {front back : List Char} (hfront : Hides target quoting front)
    (hback : Hides target (front.foldl Quoting.step quoting) back) :
    Hides target quoting (front ++ back) := by
  induction front generalizing quoting with
  | nil => exact hback
  | cons c front ih =>
    obtain ⟨hc, hrest⟩ := hides_cons_iff.mp hfront
    exact hides_cons_iff.mpr ⟨hc, ih hrest hback⟩

/-- A text is cut behind the front that hides each `target` and ends outside of strings. -/
theorem cutFrom?_eq_some_iff {text front back : List Char} :
    cutFrom? target quoting text = some (front, back) ↔
      text = front ++ target :: back ∧ Hides target quoting front ∧
        front.foldl Quoting.step quoting = .outside := by
  induction text generalizing quoting front with
  | nil => simp [cutFrom?]
  | cons c text ih =>
    rw [cutFrom?]
    split
    · next hc =>
      obtain ⟨rfl, rfl⟩ := hc
      cases front with
      | nil => simp [hides_of_notMem]
      | cons first front =>
        constructor
        · nofun
        · rintro ⟨htext, hhides, -⟩
          obtain ⟨rfl, -⟩ := List.cons.inj htext
          exact absurd ⟨rfl, rfl⟩ (hides_cons_iff.mp hhides).1
    · next hc =>
      constructor
      · intro h
        obtain ⟨⟨front, back⟩, hcut, heq⟩ := Option.map_eq_some_iff.mp h
        cases heq
        obtain ⟨rfl, hhides, hend⟩ := ih.mp hcut
        exact ⟨rfl, hides_cons_iff.mpr ⟨hc, hhides⟩, hend⟩
      · rintro ⟨htext, hhides, hend⟩
        cases front with
        | nil =>
          obtain ⟨rfl, -⟩ := List.cons.inj htext
          exact absurd ⟨hend, rfl⟩ hc
        | cons first front =>
          obtain ⟨rfl, hrest⟩ := List.cons.inj htext
          exact Option.map_eq_some_iff.mpr
            ⟨(front, back), ih.mpr ⟨hrest, (hides_cons_iff.mp hhides).2, hend⟩, rfl⟩

end

/-! ## Strings without quotes -/

/-- The number of backslashes that a text ends with. -/
def trailingBackslashes (text : List Char) : Nat := (text.reverse.takeWhile (· == '\\')).length

theorem trailingBackslashes_concat (text : List Char) (c : Char) :
    trailingBackslashes (text ++ [c]) =
      if c = '\\' then trailingBackslashes text + 1 else 0 := by
  by_cases hc : c = '\\' <;> simp [trailingBackslashes, hc]

theorem trailingBackslashes_of_notMem {text : List Char} (h : '\\' ∉ text) :
    trailingBackslashes text = 0 := by
  rcases List.eq_nil_or_concat text with rfl | ⟨front, c, rfl⟩
  · rfl
  · rw [List.concat_eq_append] at h ⊢
    have hc : c ≠ '\\' := fun hc => h (by simp [hc])
    rw [trailingBackslashes_concat, if_neg hc]

theorem foldl_outside {text : List Char} (h : '"' ∉ text) :
    text.foldl Quoting.step .outside = .outside := by
  refine foldl_eq_self fun c hc => ?_
  have hquote : c ≠ '"' := fun hquote => h (hquote ▸ hc)
  simp [Quoting.step, hquote]

/-- A quote behind a text is escaped if the text ends in an odd number of backslashes. -/
theorem foldl_quoted {text : List Char} (h : '"' ∉ text) :
    text.foldl Quoting.step .quoted =
      if trailingBackslashes text % 2 = 0 then .quoted else .escaped := by
  -- the last character decides, so the induction takes characters away from the end
  obtain ⟨reversed, rfl⟩ : ∃ reversed : List Char, text = reversed.reverse :=
    ⟨text.reverse, text.reverse_reverse.symm⟩
  induction reversed with
  | nil => rfl
  | cons c reversed ih =>
    simp only [List.mem_reverse, List.mem_cons, not_or] at h
    have hfront := ih (by simpa using h.2)
    rw [List.reverse_cons, List.foldl_append, hfront, trailingBackslashes_concat]
    by_cases hc : c = '\\'
    · subst hc
      by_cases heven : trailingBackslashes reversed.reverse % 2 = 0
      · have hodd : (trailingBackslashes reversed.reverse + 1) % 2 ≠ 0 := by omega
        simp [Quoting.step, heven, hodd]
      · have heven' : (trailingBackslashes reversed.reverse + 1) % 2 = 0 := by omega
        simp [Quoting.step, heven, heven']
    · split <;> simp [Quoting.step, hc, Ne.symm h.1]

/-- No character of a string without quotes stands outside of strings. -/
theorem hides_quoted {text : List Char} (h : '"' ∉ text) (target : Char) :
    Hides target .quoted text := by
  rintro front back rfl hfront
  have hquote : '"' ∉ front := fun hmem => h (by simp [hmem])
  rw [foldl_quoted hquote] at hfront
  split at hfront <;> cases hfront

end Possession.StructuredField

import Possession.Text.Split

/-!
# Words and what separates them

`Spaced` says from the side of the words what it is to take a text apart at the characters of some
kind. Words of other characters are told apart in one way only, and so are the pieces between single
separators, some of which may be empty.
-/

namespace Possession.Text

/-- Whether a text consists of words in order, with characters that satisfy `p` before, between and
after them. -/
inductive Spaced (p : Char → Bool) : List Char → List (List Char) → Prop
  | nil {gap : List Char} (hgap : ∀ c ∈ gap, p c = true) : Spaced p gap []
  | cons {gap word rest : List Char} {words : List (List Char)} (hgap : ∀ c ∈ gap, p c = true)
      (hends : ∀ c, rest.head? = some c → p c = true) (hrest : Spaced p rest words) :
      Spaced p (gap ++ word ++ rest) (word :: words)

/-- Whether a text can be told apart from what separates words. -/
def IsWord (p : Char → Bool) (word : List Char) : Prop := word ≠ [] ∧ ∀ c ∈ word, p c = false

section

variable {p : Char → Bool}

/-! ## Single steps -/

theorem piecesWhere_of_forall {text : List Char} (h : ∀ c ∈ text, p c = false) :
    piecesWhere p text = [text] := by
  induction text with
  | nil => rfl
  | cons c text ih =>
    have hc : p c = false := h c (by simp)
    rw [piecesWhere, if_neg (by simp [hc]), ih fun d hd => h d (by simp [hd]), extendFirst]

theorem piecesWhere_append_cons {front : List Char} {sep : Char}
    (h : ∀ c ∈ front, p c = false) (hsep : p sep = true) (back : List Char) :
    piecesWhere p (front ++ sep :: back) = front :: piecesWhere p back := by
  induction front with
  | nil => simp [piecesWhere, hsep]
  | cons c front ih =>
    have hc : p c = false := h c (by simp)
    rw [List.cons_append, piecesWhere, if_neg (by simp [hc]), ih fun d hd => h d (by simp [hd]),
      extendFirst]

theorem words_cons_of_pos {c : Char} (hc : p c = true) (text : List Char) :
    words p (c :: text) = words p text := by
  rw [words, piecesWhere, if_pos hc]
  rfl

theorem words_gap_append {gap : List Char} (hgap : ∀ c ∈ gap, p c = true) (text : List Char) :
    words p (gap ++ text) = words p text := by
  induction gap with
  | nil => rfl
  | cons c gap ih =>
    rw [List.cons_append, words_cons_of_pos (hgap c (by simp))]
    exact ih fun d hd => hgap d (by simp [hd])

/-- A word ends at the first separating character. -/
theorem words_word_append {word rest : List Char} (hword : IsWord p word)
    (hends : ∀ c, rest.head? = some c → p c = true) :
    words p (word ++ rest) = word :: words p rest := by
  obtain ⟨hne, hchars⟩ := hword
  cases rest with
  | nil => simp [words, piecesWhere_of_forall hchars, piecesWhere, hne]
  | cons c rest =>
    have hc : p c = true := hends c rfl
    rw [words_cons_of_pos hc, words, piecesWhere_append_cons hchars hc,
      List.filter_cons_of_pos (by simpa using hne), words]

theorem Spaced.gap_append {gap text : List Char} {words : List (List Char)}
    (hgap : ∀ c ∈ gap, p c = true) (h : Spaced p text words) : Spaced p (gap ++ text) words := by
  cases h with
  | nil hgap' =>
    exact .nil fun c hc => (List.mem_append.mp hc).elim (hgap c) (hgap' c)
  | cons hgap' hends hrest =>
    rw [← List.append_assoc, ← List.append_assoc]
    exact .cons (fun c hc => (List.mem_append.mp hc).elim (hgap c) (hgap' c)) hends hrest

/-- A text that begins with another character begins with a word. -/
theorem exists_word {c : Char} (hc : p c = false) (text : List Char) :
    ∃ word rest, IsWord p word ∧ (∀ d, rest.head? = some d → p d = true) ∧
      c :: text = word ++ rest := by
  refine ⟨(c :: text).takeWhile (!p ·), (c :: text).dropWhile (!p ·),
    ⟨by simp [hc], fun d hd => ?_⟩, fun d hd => ?_, List.takeWhile_append_dropWhile.symm⟩
  · simpa using List.all_eq_true.mp List.all_takeWhile d hd
  · have hnot := List.head?_dropWhile_not (!p ·) (c :: text)
    rw [hd] at hnot
    simpa using hnot

/-! ## The words of a text -/

theorem Spaced.words_eq {text : List Char} {words : List (List Char)} (h : Spaced p text words)
    (hwords : ∀ word ∈ words, IsWord p word) : Text.words p text = words := by
  induction h with
  | nil hgap =>
    have hnone := words_gap_append hgap []
    rw [List.append_nil] at hnone
    exact hnone
  | cons hgap hends _ ih =>
    obtain ⟨hfirst, hothers⟩ := List.forall_mem_cons.mp hwords
    rw [List.append_assoc, words_gap_append hgap, words_word_append hfirst hends, ih hothers]

/-- Every text consists of its words. -/
theorem spaced_words (p : Char → Bool) (text : List Char) :
    Spaced p text (words p text) ∧ ∀ word ∈ words p text, IsWord p word := by
  -- the induction is on the length, because a step takes a whole word away
  generalize hlength : text.length = length
  induction length using Nat.strongRecOn generalizing text with
  | ind length ih =>
    cases text with
    | nil => exact ⟨.nil nofun, nofun⟩
    | cons c text =>
      by_cases hc : p c = true
      · have hgap : ∀ d ∈ [c], p d = true := by simpa using hc
        obtain ⟨hspaced, hwords⟩ := ih text.length (by rw [← hlength]; simp) text rfl
        rw [words_cons_of_pos hc]
        exact ⟨hspaced.gap_append hgap, hwords⟩
      · obtain ⟨word, rest, hword, hends, htext⟩ := exists_word (by simpa using hc) text
        have hshorter : rest.length < length := by
          have hpos := List.length_pos_iff.mpr hword.1
          rw [← hlength, htext, List.length_append]
          omega
        obtain ⟨hspaced, hwords⟩ := ih rest.length hshorter rest rfl
        have hfirst : Spaced p ([] ++ word ++ rest) (word :: words p rest) :=
          .cons (by simp) hends hspaced
        rw [htext, words_word_append hword hends]
        exact ⟨hfirst, List.forall_mem_cons.mpr ⟨hword, hwords⟩⟩

/-- The words of a text are those that it consists of. -/
theorem words_eq_iff {text : List Char} {items : List (List Char)} :
    words p text = items ↔ Spaced p text items ∧ ∀ word ∈ items, IsWord p word := by
  constructor
  · rintro rfl
    exact spaced_words p text
  · rintro ⟨hspaced, hwords⟩
    exact hspaced.words_eq hwords

/-- Words with one separating character between them. -/
theorem spaced_intercalate {sep : Char} (hsep : p sep = true) (items : List (List Char)) :
    Spaced p ([sep].intercalate items) items := by
  induction items with
  | nil => exact .nil nofun
  | cons item rest ih =>
    cases rest with
    | nil =>
      have hitem : Spaced p ([] ++ item ++ []) [item] := .cons nofun nofun (.nil nofun)
      simpa using hitem
    | cons next rest =>
      have hrest : Spaced p ([sep] ++ [sep].intercalate (next :: rest)) (next :: rest) :=
        ih.gap_append (by simpa using hsep)
      have hitems : Spaced p ([] ++ item ++ ([sep] ++ [sep].intercalate (next :: rest)))
          (item :: next :: rest) := .cons nofun (by simpa using hsep) hrest
      simpa [List.intercalate_cons_cons] using hitems

/-! ## Single separators -/

/-- Whether the separating characters of a text are single `sep`s before other characters. -/
structure HasSingleGaps (p : Char → Bool) (sep : Char) (text : List Char) : Prop where
  only : ∀ c ∈ text, p c = true → c = sep
  alone : ∀ front back, text ≠ front ++ sep :: sep :: back
  last : ∀ c, text.getLast? = some c → p c = false

/-- Whether the separating characters of a text are single `sep`s between other characters. -/
structure IsSingleSpaced (p : Char → Bool) (sep : Char) (text : List Char) : Prop
    extends HasSingleGaps p sep text where
  head : ∀ c, text.head? = some c → p c = false

variable {sep : Char} {text : List Char} {items : List (List Char)}

theorem HasSingleGaps.of_append {front back : List Char}
    (h : HasSingleGaps p sep (front ++ back)) : HasSingleGaps p sep back where
  only c hc := h.only c (List.mem_append_right front hc)
  alone before behind := by
    rintro rfl
    exact h.alone (front ++ before) behind (List.append_assoc ..).symm
  last c hc := h.last c (by simp [List.getLast?_append, hc])

/-- A gap at the end is empty. -/
theorem HasSingleGaps.eq_nil {gap : List Char} (h : HasSingleGaps p sep gap)
    (hgap : ∀ c ∈ gap, p c = true) : gap = [] := by
  cases hlast : gap.getLast? with
  | none => exact List.getLast?_eq_none_iff.mp hlast
  | some c => exact absurd (hgap c (List.mem_of_getLast? hlast)) (by simp [h.last c hlast])

theorem IsWord.notMem {word : List Char} (hword : IsWord p word) {c : Char} (hc : p c = true) :
    c ∉ word := fun hmem => by simp [hword.2 c hmem] at hc

theorem IsWord.head_append {word : List Char} (hword : IsWord p word) (rest : List Char) :
    ∃ c, (word ++ rest).head? = some c ∧ p c = false := by
  obtain ⟨c, tail, rfl⟩ := List.exists_cons_of_ne_nil hword.1
  exact ⟨c, rfl, hword.2 c (by simp)⟩

theorem intercalate_cons (item : List Char) (rest : List (List Char)) :
    [sep].intercalate (item :: rest) = item ++ rest.flatMap (sep :: ·) := by
  induction rest generalizing item with
  | nil => simp
  | cons next rest ih => simp [List.intercalate_cons_cons, ih]

/-- Words that do not stand at the beginning are preceded by one `sep` each. -/
theorem Spaced.eq_flatMap (h : Spaced p text items) (hitems : ∀ item ∈ items, IsWord p item)
    (hends : ∀ c, text.head? = some c → p c = true) (hgaps : HasSingleGaps p sep text) :
    text = items.flatMap (sep :: ·) := by
  induction h with
  | nil hgap => exact hgaps.eq_nil hgap
  | @cons gap word rest others hgap hends' _ ih =>
    obtain ⟨hword, hothers⟩ := List.forall_mem_cons.mp hitems
    have hrest := ih hothers hends' hgaps.of_append
    rw [List.append_assoc] at hends hgaps ⊢
    match gap with
    | [] =>
      obtain ⟨c, hc, hnot⟩ := hword.head_append rest
      exact absurd (hends c hc) (by simp [hnot])
    | [c] =>
      obtain rfl : c = sep := hgaps.only c (by simp) (hgap c (by simp))
      rw [List.flatMap_cons, ← hrest]
      rfl
    | c :: d :: gap =>
      obtain rfl : c = sep := hgaps.only c (by simp) (hgap c (by simp))
      obtain rfl : d = c := hgaps.only d (by simp) (hgap d (by simp))
      exact absurd rfl (hgaps.alone [] (gap ++ (word ++ rest)))

theorem IsWord.isSingleSpaced {word : List Char} (hword : IsWord p word) (hsep : p sep = true) :
    IsSingleSpaced p sep word where
  only _ hc hblank := absurd hc (hword.notMem hblank)
  alone front back := by
    rintro rfl
    exact hword.notMem hsep (by simp)
  last c hc := hword.2 c (List.mem_of_getLast? hc)
  head c hc := hword.2 c (List.mem_of_head? hc)

/-- A word and a `sep` may be put before a single-spaced text that is not empty. -/
theorem IsSingleSpaced.word_append {word : List Char} (h : IsSingleSpaced p sep text)
    (hne : text ≠ []) (hword : IsWord p word) (hsep : p sep = true) :
    IsSingleSpaced p sep (word ++ sep :: text) where
  only c hc hblank := by
    rcases List.mem_append.mp hc with hc | hc
    · exact (hword.isSingleSpaced hsep).only c hc hblank
    · rcases List.mem_cons.mp hc with rfl | hc
      · rfl
      · exact h.only c hc hblank
  alone front back heq := by
    have hnext : ∀ rest, text ≠ sep :: rest := by
      rintro rest rfl
      exact absurd (h.head sep rfl) (by simp [hsep])
    rcases List.append_eq_append_iff.mp heq with ⟨middle, rfl, hmiddle⟩ | ⟨middle, rfl, hmiddle⟩
    · cases middle with
      | nil => exact hnext _ (List.cons.inj hmiddle).2
      | cons c middle => exact h.alone middle back (List.cons.inj hmiddle).2
    · cases middle with
      | nil => exact hnext _ (List.cons.inj hmiddle).2.symm
      | cons c middle =>
        obtain ⟨rfl, -⟩ := List.cons.inj hmiddle
        exact hword.notMem hsep (by simp)
  last c hc := by
    refine h.last c ?_
    obtain ⟨first, rest, rfl⟩ := List.exists_cons_of_ne_nil hne
    simpa [List.getLast?_append, List.getLast?_cons] using hc
  head c hc := by
    obtain ⟨first, hfirst, hnot⟩ := hword.head_append (sep :: text)
    rw [hfirst] at hc
    obtain rfl := Option.some.inj hc
    exact hnot

/-- Words with single separators between them are single-spaced. -/
theorem isSingleSpaced_intercalate (hsep : p sep = true) (hitems : ∀ item ∈ items, IsWord p item) :
    IsSingleSpaced p sep ([sep].intercalate items) := by
  induction items with
  | nil => exact { only := nofun, alone := by simp, last := nofun, head := nofun }
  | cons item rest ih =>
    obtain ⟨hitem, hrest⟩ := List.forall_mem_cons.mp hitems
    cases rest with
    | nil => simpa using hitem.isSingleSpaced hsep
    | cons next rest =>
      have hne : [sep].intercalate (next :: rest) ≠ [] := by
        obtain ⟨c, hc, -⟩ := (hrest next (by simp)).head_append (rest.flatMap (sep :: ·))
        rw [intercalate_cons]
        rintro heq
        rw [heq] at hc
        cases hc
      rw [List.intercalate_cons_cons, List.append_assoc]
      exact (ih hrest).word_append hne hitem hsep

/-- Words stand in a text with one `sep` between them exactly when the text is single-spaced. -/
theorem Spaced.eq_intercalate_iff (hsep : p sep = true) (h : Spaced p text items)
    (hitems : ∀ item ∈ items, IsWord p item) :
    text = [sep].intercalate items ↔ IsSingleSpaced p sep text := by
  constructor
  · rintro rfl
    exact isSingleSpaced_intercalate hsep hitems
  · intro hspaced
    cases h with
    | nil hgap => exact hspaced.toHasSingleGaps.eq_nil hgap
    | @cons gap word rest others hgap hends hrest =>
      obtain ⟨hword, hothers⟩ := List.forall_mem_cons.mp hitems
      have hnone : gap = [] := by
        cases gap with
        | nil => rfl
        | cons c gap => exact absurd (hspaced.head c rfl) (by simp [hgap c])
      subst hnone
      rw [List.nil_append, intercalate_cons,
        ← hrest.eq_flatMap hothers hends hspaced.toHasSingleGaps.of_append]

end

/-! ## Pieces -/

/-- Even the empty text is a piece. -/
theorem piecesWhere_ne_nil (p : Char → Bool) (text : List Char) : piecesWhere p text ≠ [] := by
  cases text with
  | nil => simp [piecesWhere]
  | cons c text =>
    rw [piecesWhere]
    split
    · simp
    · cases piecesWhere p text <;> simp [extendFirst]

theorem notMem_of_mem_pieces {sep : Char} {text piece : List Char} (h : piece ∈ pieces sep text) :
    sep ∉ piece := by
  rw [pieces] at h
  induction text generalizing piece with
  | nil =>
    obtain rfl := List.mem_singleton.mp h
    exact List.not_mem_nil
  | cons c text ih =>
    rw [piecesWhere] at h
    split at h
    · rcases List.mem_cons.mp h with rfl | h
      · exact List.not_mem_nil
      · exact ih h
    · next hc =>
      obtain ⟨first, rest, hpieces⟩ :=
        List.exists_cons_of_ne_nil (piecesWhere_ne_nil (· == sep) text)
      rw [hpieces, extendFirst] at h
      rw [hpieces] at ih
      rcases List.mem_cons.mp h with rfl | h
      · rw [List.mem_cons, not_or]
        exact ⟨fun heq => hc (by simp [heq]), ih (by simp)⟩
      · exact ih (List.mem_cons_of_mem _ h)

/-- Texts without separators are the pieces of what they are joined to. -/
theorem pieces_intercalate {sep : Char} {items : List (List Char)} (hne : items ≠ [])
    (h : ∀ item ∈ items, sep ∉ item) : pieces sep ([sep].intercalate items) = items := by
  induction items with
  | nil => exact absurd rfl hne
  | cons item rest ih =>
    have hfirst : ∀ c ∈ item, (c == sep) = false := by
      intro c hc
      have hne : c ≠ sep := fun heq => h item (by simp) (heq ▸ hc)
      simpa using hne
    cases rest with
    | nil => simpa [pieces] using piecesWhere_of_forall hfirst
    | cons next rest =>
      have hrest := ih (by simp) fun other hother => h other (by simp [hother])
      rw [List.intercalate_cons_cons, List.append_assoc, List.singleton_append, pieces,
        piecesWhere_append_cons hfirst (by simp), ← pieces, hrest]

/-- The pieces of a text are joined to that text. -/
theorem intercalate_pieces (sep : Char) (text : List Char) :
    [sep].intercalate (pieces sep text) = text := by
  rw [pieces]
  induction text with
  | nil => rfl
  | cons c text ih =>
    obtain ⟨first, rest, hpieces⟩ := List.exists_cons_of_ne_nil (piecesWhere_ne_nil (· == sep) text)
    rw [hpieces] at ih
    rw [piecesWhere, hpieces]
    split
    · next hc =>
      obtain rfl : c = sep := by simpa using hc
      rw [List.intercalate_cons_cons, ih]
      rfl
    · rw [extendFirst, intercalate_cons, List.cons_append, ← intercalate_cons, ih]

end Possession.Text

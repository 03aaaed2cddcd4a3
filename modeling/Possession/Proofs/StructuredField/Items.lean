import Possession.Proofs.StructuredField

/-!
# The items of a structured field

Where a text closes all its strings and parentheses, cutting it at the separators is the same as
listing its items. A separator after such a text always separates, so two of them list the items of
the one and then those of the other.
-/

namespace Possession.StructuredField

/-- Whether a text ends with its strings and parentheses closed. -/
def Balanced (text : List Char) : Prop := Scan.start.after text = .start

instance (text : List Char) : Decidable (Balanced text) :=
  inferInstanceAs (Decidable (Scan.start.after text = .start))

/-- Whether a character can separate items: it has no other meaning in a field. -/
structure IsSeparator (sep : Char) : Prop where
  not_blank : Text.isBlank sep = false
  not_quote : sep ≠ '"'
  not_paren : sep ≠ '(' ∧ sep ≠ ')'

theorem isSeparator_comma : IsSeparator ',' := ⟨by decide, by decide, by decide⟩

/-- Whether a text can be an item: no separator cuts it, and it closes what it opens. -/
structure IsItem (sep : Char) (item : List Char) : Prop where
  ne_nil : item ≠ []
  trimmed : Text.trim item = item
  closed : Closed sep .start item
  balanced : Balanced item

/-- Whether a text lists items in order. -/
inductive Lists (sep : Char) : List Char → List (List Char) → Prop
  | blank {gap : List Char} (hgap : ∀ c ∈ gap, Text.isBlank c = true) : Lists sep gap []
  | item {text item : List Char} (hitem : IsItem sep item) (htext : Text.Padded item text) :
      Lists sep text [item]
  | append {front back : List Char} {items others : List (List Char)}
      (hfront : Lists sep front items) (hback : Lists sep back others) :
      Lists sep (front ++ sep :: back) (items ++ others)

/-! ## Scanning blank characters and separators -/

theorem Scan.isOpen_iff {scan : Scan} : scan.isOpen = true ↔ scan = .start := by
  obtain ⟨quoting, depth⟩ := scan
  simp [isOpen, start]

/-- A text either has no separator that separates, or there is a first one. -/
theorem closed_or_exists_cut (sep : Char) (scan : Scan) (text : List Char) :
    Closed sep scan text ∨ ∃ front back, text = front ++ sep :: back ∧ Closed sep scan front ∧
      scan.after front = .start := by
  induction text generalizing scan with
  | nil => exact .inl (closed_of_notMem List.not_mem_nil scan)
  | cons c text ih =>
    by_cases hcut : (scan.isOpen && c == sep) = true
    · obtain ⟨hopen, hc⟩ : scan.isOpen = true ∧ c = sep := by simpa using hcut
      exact .inr ⟨[], text, by rw [hc, List.nil_append], closed_of_notMem List.not_mem_nil scan,
        Scan.isOpen_iff.mp hopen⟩
    · have hc : (scan.isOpen && c == sep) = false := by simpa using hcut
      rcases ih (scan.step c) with hclosed | ⟨front, back, rfl, hclosed, hafter⟩
      · exact .inl (closed_cons_iff.mpr ⟨hc, hclosed⟩)
      · exact .inr ⟨c :: front, back, rfl, closed_cons_iff.mpr ⟨hc, hclosed⟩, hafter⟩

theorem Balanced.after_append {front : List Char} (h : Balanced front) (back : List Char) :
    Scan.start.after (front ++ back) = Scan.start.after back := by
  rw [Scan.after_append, h]

theorem plain_of_isBlank {gap : List Char} (h : ∀ c ∈ gap, Text.isBlank c = true) :
    ∀ c ∈ gap, c ≠ '"' ∧ c ≠ '(' ∧ c ≠ ')' := by
  intro c hc
  have hblank := h c hc
  exact ⟨Text.ne_of_apply hblank (by decide), Text.ne_of_apply hblank (by decide),
    Text.ne_of_apply hblank (by decide)⟩

theorem balanced_of_isBlank {gap : List Char} (h : ∀ c ∈ gap, Text.isBlank c = true) :
    Balanced gap :=
  Scan.after_plain rfl (plain_of_isBlank h)

/-- Blank characters close nothing. -/
theorem eq_start_of_after_isBlank {scan : Scan} {gap : List Char}
    (h : ∀ c ∈ gap, Text.isBlank c = true) (hafter : scan.after gap = .start) : scan = .start := by
  have hinside : ∀ (more : List Char) (depth : Nat), (∀ c ∈ more, Text.isBlank c = true) →
      (Scan.mk .quoted depth).after more ≠ .start := by
    intro more depth hmore hstart
    rw [Scan.after_inside rfl] at hstart
    · cases hstart
    · intro c hc
      exact ⟨Text.ne_of_apply (hmore c hc) (by decide), Text.ne_of_apply (hmore c hc) (by decide)⟩
  obtain ⟨quoting, depth⟩ := scan
  cases quoting with
  | outside => rwa [Scan.after_plain rfl (plain_of_isBlank h)] at hafter
  | quoted => exact absurd hafter (hinside gap depth h)
  | escaped =>
    cases gap with
    | nil => exact hafter
    | cons c gap =>
      -- whatever is escaped, the string goes on behind it
      exact absurd hafter (hinside gap depth fun d hd => h d (List.mem_cons_of_mem c hd))

theorem Balanced.of_padded {text core : List Char} (h : Balanced text)
    (htext : Text.Padded core text) : Balanced core := by
  obtain ⟨front, back, hfront, hback, rfl⟩ := htext
  rw [Balanced, List.append_assoc, (balanced_of_isBlank hfront).after_append,
    Scan.after_append] at h
  exact eq_start_of_after_isBlank hback h

theorem IsSeparator.step {sep : Char} (hsep : IsSeparator sep) : Scan.start.step sep = .start := by
  have hplain : ∀ c ∈ [sep], c ≠ '"' ∧ c ≠ '(' ∧ c ≠ ')' := by
    intro c hc
    obtain rfl := List.mem_singleton.mp hc
    exact ⟨hsep.not_quote, hsep.not_paren⟩
  exact Scan.after_plain rfl hplain

/-! ## Cutting -/

theorem splitFrom_ne_nil (sep : Char) (scan : Scan) (text : List Char) :
    splitFrom sep scan text ≠ [] := by
  cases text with
  | nil => simp [splitFrom]
  | cons c text =>
    rw [splitFrom]
    split
    · simp
    · cases splitFrom sep (scan.step c) text <;> simp [Text.extendFirst]

theorem extendFirst_append (c : Char) {pieces : List (List Char)} (h : pieces ≠ [])
    (others : List (List Char)) :
    Text.extendFirst c (pieces ++ others) = Text.extendFirst c pieces ++ others := by
  cases pieces with
  | nil => exact absurd rfl h
  | cons piece rest => rfl

/-- A separator behind a front that closes everything separates. -/
theorem splitFrom_append_cons {sep : Char} (hsep : IsSeparator sep) {scan : Scan}
    {front : List Char} (h : scan.after front = .start) (back : List Char) :
    splitFrom sep scan (front ++ sep :: back) =
      splitFrom sep scan front ++ splitFrom sep .start back := by
  induction front generalizing scan with
  | nil =>
    obtain rfl : scan = .start := h
    simp [splitFrom, Scan.isOpen, Scan.start]
  | cons c front ih =>
    rw [List.cons_append, splitFrom, splitFrom]
    split
    · next hcut =>
      obtain ⟨hopen, hc⟩ : scan.isOpen = true ∧ c = sep := by simpa using hcut
      obtain rfl := Scan.isOpen_iff.mp hopen
      rw [Scan.after_cons, hc, hsep.step] at h
      rw [ih h, List.cons_append]
    · rw [ih h, extendFirst_append c (splitFrom_ne_nil sep _ front)]

theorem split_append_cons {sep : Char} (hsep : IsSeparator sep) {front : List Char}
    (h : Balanced front) (back : List Char) :
    split sep (front ++ sep :: back) = split sep front ++ split sep back := by
  rw [split, splitFrom_append_cons hsep h, List.map_append, List.filter_append, ← split, ← split]

/-! ## Lists and cuts -/

section

variable {sep : Char} {text : List Char} {items : List (List Char)}

theorem Lists.balanced (hsep : IsSeparator sep) (h : Lists sep text items) : Balanced text := by
  induction h with
  | blank hgap => exact balanced_of_isBlank hgap
  | item hitem htext =>
    obtain ⟨front, back, hfront, hback, rfl⟩ := htext
    rw [Balanced, List.append_assoc, (balanced_of_isBlank hfront).after_append,
      hitem.balanced.after_append]
    exact balanced_of_isBlank hback
  | append _ _ hfront hback =>
    rw [Balanced, hfront.after_append, Scan.after_cons, hsep.step]
    exact hback

theorem Lists.split_eq (hsep : IsSeparator sep) (h : Lists sep text items) :
    split sep text = items := by
  have hgaps : ∀ {gap : List Char}, (∀ c ∈ gap, Text.isBlank c = true) → ∀ scan,
      Closed sep scan gap :=
    fun hgap scan => closed_of_notMem (Text.notMem_of_isBlank hgap hsep.not_blank) scan
  induction h with
  | @blank gap hgap =>
    have hnone : Text.trim gap = [] := by
      have hskip := Text.trimWhile_append_left hgap []
      rwa [List.append_nil] at hskip
    rw [split, splitFrom_eq_singleton (hgaps hgap _), List.map_singleton, hnone]
    rfl
  | @item text item hitem htext =>
    have htrim : Text.trim text = item := Text.trim_eq_iff.mpr ⟨hitem.trimmed, htext⟩
    obtain ⟨front, back, hfront, hback, rfl⟩ := htext
    have hclosed : Closed sep .start (front ++ item ++ back) := by
      refine ((hgaps hfront _).append ?_).append (hgaps hback _)
      rw [balanced_of_isBlank hfront]
      exact hitem.closed
    rw [split, splitFrom_eq_singleton hclosed, List.map_singleton, htrim]
    simp [hitem.ne_nil]
  | append hfront _ ih ih' => rw [split_append_cons hsep (hfront.balanced hsep), ih, ih']

theorem Closed.of_append {scan : Scan} {front back : List Char}
    (h : Closed sep scan (front ++ back)) :
    Closed sep scan front ∧ Closed sep (scan.after front) back := by
  constructor
  · rintro before behind rfl
    exact h before (behind ++ back) (by simp)
  · rintro before behind rfl
    rw [← Scan.after_append]
    exact h (front ++ before) behind (by simp)

/-- Blank characters around a text do not change what its separators do. -/
theorem Closed.of_padded {core : List Char} (h : Closed sep .start text)
    (htext : Text.Padded core text) : Closed sep .start core := by
  obtain ⟨front, back, hfront, -, rfl⟩ := htext
  rw [List.append_assoc] at h
  have hcore := h.of_append.2
  rw [balanced_of_isBlank hfront] at hcore
  exact hcore.of_append.1

/-- A text that no separator cuts lists the one item that is left when it is trimmed, or none. -/
theorem exists_lists_of_closed (hclosed : Closed sep .start text) (h : Balanced text) :
    ∃ items, Lists sep text items := by
  have hpadded := Text.padded_trim text
  by_cases hnone : Text.trim text = []
  · obtain ⟨front, back, hfront, hback, htext⟩ := hpadded
    refine ⟨[], .blank ?_⟩
    rw [htext, hnone, List.append_nil]
    exact List.forall_mem_append.mpr ⟨hfront, hback⟩
  · exact ⟨_, .item ⟨hnone, Text.trim_trim text, hclosed.of_padded hpadded,
      h.of_padded hpadded⟩ hpadded⟩

/-- A text that closes everything lists items. The induction cuts it at the first separator that
separates; both parts close everything again. -/
theorem exists_lists (hsep : IsSeparator sep) (h : Balanced text) :
    ∃ items, Lists sep text items := by
  generalize hlength : text.length = length
  induction length using Nat.strongRecOn generalizing text with
  | ind length ih =>
    rcases closed_or_exists_cut sep .start text with hclosed | ⟨front, back, rfl, hclosed, hfront⟩
    · exact exists_lists_of_closed hclosed h
    · have hback : Balanced back := by
        rwa [Balanced, Balanced.after_append hfront, Scan.after_cons, hsep.step] at h
      rw [List.length_append, List.length_cons] at hlength
      obtain ⟨items, hitems⟩ := exists_lists_of_closed hclosed hfront
      obtain ⟨others, hothers⟩ := ih back.length (by omega) hback rfl
      exact ⟨items ++ others, hitems.append hothers⟩

/-- What is cut out of a text that closes everything is what it lists. -/
theorem lists_split (hsep : IsSeparator sep) (h : Balanced text) :
    Lists sep text (split sep text) := by
  obtain ⟨items, hitems⟩ := exists_lists hsep h
  rwa [hitems.split_eq hsep]

/-! ## Blank characters around a list -/

theorem Lists.gap_append (h : Lists sep text items) {gap : List Char}
    (hgap : ∀ c ∈ gap, Text.isBlank c = true) : Lists sep (gap ++ text) items := by
  induction h with
  | blank hgap' => exact .blank (List.forall_mem_append.mpr ⟨hgap, hgap'⟩)
  | item hitem htext =>
    obtain ⟨front, back, hfront, hback, rfl⟩ := htext
    have hfront' := List.forall_mem_append.mpr ⟨hgap, hfront⟩
    exact .item hitem ⟨gap ++ front, back, hfront', hback, by simp⟩
  | append _ hback ih _ =>
    rw [← List.append_assoc]
    exact ih.append hback

theorem Lists.append_gap (h : Lists sep text items) {gap : List Char}
    (hgap : ∀ c ∈ gap, Text.isBlank c = true) : Lists sep (text ++ gap) items := by
  induction h with
  | blank hgap' => exact .blank (List.forall_mem_append.mpr ⟨hgap', hgap⟩)
  | item hitem htext =>
    obtain ⟨front, back, hfront, hback, rfl⟩ := htext
    have hback' := List.forall_mem_append.mpr ⟨hback, hgap⟩
    exact .item hitem ⟨front, back ++ gap, hfront, hback', by simp⟩
  | append hfront _ _ ih =>
    rw [List.append_assoc, List.cons_append]
    exact hfront.append ih

/-- The blank characters around a text are no part of its items. -/
theorem Lists.trim (hsep : IsSeparator sep) (h : Lists sep text items) :
    Lists sep (Text.trim text) items := by
  have hpadded := Text.padded_trim text
  obtain ⟨others, hothers⟩ := exists_lists hsep ((h.balanced hsep).of_padded hpadded)
  obtain ⟨front, back, hfront, hback, htext⟩ := hpadded
  have hwhole := (hothers.gap_append hfront).append_gap hback
  rw [← htext] at hwhole
  rwa [← h.split_eq hsep, hwhole.split_eq hsep]

end

end Possession.StructuredField

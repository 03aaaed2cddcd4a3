import Possession.Text.Character
import Possession.Text.Printable

/-!
# Trimming and cutting

Trimming leaves a part of the text and changes nothing about a text that has no such characters at
its ends; a text is cut at the first separator or at the last one.
-/

namespace Possession.Text

/-! ## Kinds of characters -/

/-- A character of a kind is none of another kind. -/
theorem ne_of_apply {p : Char → Bool} {c other : Char} (h : p c = true) (hother : p other = false) :
    c ≠ other := by
  rintro rfl
  rw [hother] at h
  cases h

/-! ## Trimming -/

theorem dropEndWhile_eq_reverse (p : Char → Bool) (text : List Char) :
    dropEndWhile p text = (text.reverse.dropWhile p).reverse := by
  induction text with
  | nil => rfl
  | cons c text ih =>
    rw [dropEndWhile_cons, ih, List.reverse_cons, List.dropWhile_append]
    by_cases hrest : text.reverse.dropWhile p = []
    · by_cases hc : p c = true
      · simp [hrest, hc]
      · simp [hrest, hc]
    · simp [hrest]

theorem dropEndWhile_isPrefix (p : Char → Bool) (text : List Char) :
    dropEndWhile p text <+: text := by
  rw [dropEndWhile_eq_reverse, ← List.reverse_suffix, List.reverse_reverse]
  exact List.dropWhile_suffix p

theorem trimWhile_subset (p : Char → Bool) (text : List Char) : trimWhile p text ⊆ text :=
  fun _ hc => (List.dropWhile_suffix p).subset ((dropEndWhile_isPrefix p _).subset hc)

/-- A trimmed text does not begin with a character that trimming takes away. -/
theorem head?_trimWhile {p : Char → Bool} {text : List Char} {c : Char}
    (hc : (trimWhile p text).head? = some c) : p c = false := by
  obtain ⟨rest, hrest⟩ := dropEndWhile_isPrefix p (text.dropWhile p)
  have hhead : (text.dropWhile p).head? = some c := by
    rw [← hrest, List.head?_append]
    change (trimWhile p text).head?.or _ = _
    simp [hc]
  have hnot := List.head?_dropWhile_not p text
  rw [hhead] at hnot
  simpa using hnot

theorem getLast?_trimWhile {p : Char → Bool} {text : List Char} {c : Char}
    (hc : (trimWhile p text).getLast? = some c) : p c = false := by
  rw [trimWhile, dropEndWhile_eq_reverse, List.getLast?_reverse] at hc
  have hnot := List.head?_dropWhile_not p (text.dropWhile p).reverse
  rw [hc] at hnot
  simpa using hnot

theorem dropWhile_eq_self {p : Char → Bool} {text : List Char}
    (h : ∀ c, text.head? = some c → p c = false) : text.dropWhile p = text := by
  cases text with
  | nil => rfl
  | cons c text => rw [List.dropWhile_cons_of_neg (by simp [h c rfl])]

/-- Trimming leaves exactly the texts alone that have nothing to trim at either end. -/
theorem trimWhile_eq_self_iff {p : Char → Bool} {text : List Char} :
    trimWhile p text = text ↔
      (∀ c, text.head? = some c → p c = false) ∧ ∀ c, text.getLast? = some c → p c = false := by
  constructor
  · intro h
    exact ⟨fun c hc => head?_trimWhile (h.symm ▸ hc), fun c hc => getLast?_trimWhile (h.symm ▸ hc)⟩
  · rintro ⟨hhead, hlast⟩
    rw [trimWhile, dropWhile_eq_self hhead, dropEndWhile_eq_reverse, dropWhile_eq_self]
    · simp
    · simpa [List.head?_reverse] using hlast

theorem trimWhile_trimWhile (p : Char → Bool) (text : List Char) :
    trimWhile p (trimWhile p text) = trimWhile p text :=
  trimWhile_eq_self_iff.mpr ⟨fun _ => head?_trimWhile, fun _ => getLast?_trimWhile⟩

@[simp] theorem trim_trim (text : List Char) : trim (trim text) = trim text :=
  trimWhile_trimWhile isBlank text

theorem trimWhile_of_forall {p : Char → Bool} {text : List Char} (h : ∀ c ∈ text, p c = false) :
    trimWhile p text = text :=
  trimWhile_eq_self_iff.mpr ⟨fun c hc => h c (List.mem_of_head? hc),
    fun c hc => h c (List.mem_of_getLast? hc)⟩

/-- Trimming looks at the ends only. -/
theorem trimWhile_enclosed {p : Char → Bool} {first last : Char} (hfirst : p first = false)
    (hlast : p last = false) (middle : List Char) :
    trimWhile p (first :: middle ++ [last]) = first :: middle ++ [last] := by
  refine trimWhile_eq_self_iff.mpr ⟨fun c hc => ?_, fun c hc => ?_⟩
  · obtain rfl : first = c := by simpa using hc
    exact hfirst
  · rw [List.getLast?_concat] at hc
    obtain rfl := Option.some.inj hc
    exact hlast

/-- Two trimmed texts make a trimmed one; what is between them is not looked at. -/
theorem trimWhile_append {p : Char → Bool} {front back : List Char} (hne : front ≠ [])
    (hne' : back ≠ []) (hfront : trimWhile p front = front) (hback : trimWhile p back = back) :
    trimWhile p (front ++ back) = front ++ back := by
  obtain ⟨first, rest, rfl⟩ := List.exists_cons_of_ne_nil hne
  refine trimWhile_eq_self_iff.mpr
    ⟨by simpa using (trimWhile_eq_self_iff.mp hfront).1, fun c hc => ?_⟩
  rw [List.getLast?_append, Option.or_of_isSome (by simpa using hne')] at hc
  exact (trimWhile_eq_self_iff.mp hback).2 c hc

/-- Trimming passes over what it takes away. -/
theorem trimWhile_append_left {p : Char → Bool} {gap : List Char} (h : ∀ c ∈ gap, p c = true)
    (text : List Char) : trimWhile p (gap ++ text) = trimWhile p text := by
  rw [trimWhile, List.dropWhile_append_of_pos h, ← trimWhile]

theorem dropEndWhile_append_right {p : Char → Bool} {gap : List Char} (h : ∀ c ∈ gap, p c = true)
    (text : List Char) : dropEndWhile p (text ++ gap) = dropEndWhile p text := by
  rw [dropEndWhile_eq_reverse, dropEndWhile_eq_reverse, List.reverse_append,
    List.dropWhile_append_of_pos (by simpa using h)]

theorem trimWhile_append_right {p : Char → Bool} {gap : List Char} (h : ∀ c ∈ gap, p c = true)
    (text : List Char) : trimWhile p (text ++ gap) = trimWhile p text := by
  rw [trimWhile, List.dropWhile_append]
  split
  · next hempty =>
    have hnil : text.dropWhile p = [] := by simpa using hempty
    have hgap : gap.dropWhile p = [] := by
      rw [← List.append_nil gap, List.dropWhile_append_of_pos h, List.dropWhile_nil]
    rw [trimWhile, hnil, hgap]
  · rw [dropEndWhile_append_right h, ← trimWhile]

theorem forall_mem_takeWhile (p : Char → Bool) (text : List Char) :
    ∀ c ∈ text.takeWhile p, p c = true :=
  List.all_eq_true.mp List.all_takeWhile

theorem exists_append_dropEndWhile (p : Char → Bool) (text : List Char) :
    ∃ gap, (∀ c ∈ gap, p c = true) ∧ text = dropEndWhile p text ++ gap := by
  refine ⟨(text.reverse.takeWhile p).reverse, ?_, ?_⟩
  · intro c hc
    exact forall_mem_takeWhile p _ c (List.mem_reverse.mp hc)
  · rw [dropEndWhile_eq_reverse, ← List.reverse_append, List.takeWhile_append_dropWhile,
      List.reverse_reverse]

/-- What trimming takes away stands around what it leaves. -/
theorem exists_append_trimWhile (p : Char → Bool) (text : List Char) :
    ∃ front back, (∀ c ∈ front, p c = true) ∧ (∀ c ∈ back, p c = true) ∧
      text = front ++ trimWhile p text ++ back := by
  obtain ⟨back, hback, hend⟩ := exists_append_dropEndWhile p (text.dropWhile p)
  refine ⟨text.takeWhile p, back, forall_mem_takeWhile p text, hback, ?_⟩
  rw [List.append_assoc, trimWhile, ← hend, List.takeWhile_append_dropWhile]

/-- A text is trimmed to what stands in it between characters that are taken away. -/
theorem trimWhile_eq_iff {p : Char → Bool} {text core : List Char} :
    trimWhile p text = core ↔ trimWhile p core = core ∧
      ∃ front back, (∀ c ∈ front, p c = true) ∧ (∀ c ∈ back, p c = true) ∧
        text = front ++ core ++ back := by
  constructor
  · rintro rfl
    exact ⟨trimWhile_trimWhile p text, exists_append_trimWhile p text⟩
  · rintro ⟨hcore, front, back, hfront, hback, rfl⟩
    rw [trimWhile_append_right hback, trimWhile_append_left hfront, hcore]

theorem notMem_of_isBlank {gap : List Char} (h : ∀ c ∈ gap, isBlank c = true) {c : Char}
    (hc : isBlank c = false) : c ∉ gap := by
  intro hmem
  rw [h c hmem] at hc
  cases hc

/-- Whether a text consists of another one and blank characters around it. -/
def Padded (core text : List Char) : Prop :=
  ∃ front back, (∀ c ∈ front, isBlank c = true) ∧ (∀ c ∈ back, isBlank c = true) ∧
    text = front ++ core ++ back

theorem trim_eq_iff {text core : List Char} :
    trim text = core ↔ trim core = core ∧ Padded core text :=
  trimWhile_eq_iff

theorem padded_trim (text : List Char) : Padded (trim text) text := exists_append_trimWhile _ _

theorem Padded.refl (text : List Char) : Padded text text := ⟨[], [], by simp, by simp, by simp⟩

theorem Padded.notMem {core text : List Char} (h : Padded core text) {c : Char}
    (hc : isBlank c = false) (hcore : c ∉ core) : c ∉ text := by
  obtain ⟨front, back, hfront, hback, rfl⟩ := h
  simp [hcore, notMem_of_isBlank hfront hc, notMem_of_isBlank hback hc]

theorem dropEndWhile_append_cons {p : Char → Bool} {sep : Char} (hsep : p sep = false)
    (front back : List Char) :
    dropEndWhile p (front ++ sep :: back) = front ++ sep :: dropEndWhile p back := by
  induction front with
  | nil => simp [dropEndWhile_cons, hsep]
  | cons c front ih => simp [dropEndWhile_cons, ih]

/-- A character that stays divides what is trimmed before it from what is trimmed behind it. -/
theorem exists_trimWhile_append_cons {p : Char → Bool} {sep : Char} (hsep : p sep = false)
    (front back : List Char) : ∃ front' back',
      trimWhile p (front ++ sep :: back) = front' ++ sep :: back' ∧ front' ⊆ front ∧
        trimWhile p front' = trimWhile p front ∧ trimWhile p back' = trimWhile p back := by
  have hfront : (front ++ sep :: back).dropWhile p = front.dropWhile p ++ sep :: back := by
    rw [List.dropWhile_append]
    split
    · next hempty =>
      have hnil : front.dropWhile p = [] := by simpa using hempty
      rw [hnil, List.dropWhile_cons_of_neg (by simp [hsep]), List.nil_append]
    · rfl
  refine ⟨front.dropWhile p, dropEndWhile p back, ?_, (List.dropWhile_suffix p).subset, ?_, ?_⟩
  · rw [trimWhile, hfront, dropEndWhile_append_cons hsep]
  · rw [← trimWhile_append_left (forall_mem_takeWhile p front) (front.dropWhile p),
      List.takeWhile_append_dropWhile]
  · obtain ⟨gap, hgap, hback⟩ := exists_append_dropEndWhile p back
    rw [← trimWhile_append_right hgap (dropEndWhile p back), ← hback]

/-- The space is the only printable blank character. -/
theorem isBlank_of_isPrintable {c : Char} (h : IsPrintable c) (hne : c ≠ ' ') :
    isBlank c = false := by
  have hspace : c.toNat ≠ 0x20 := fun hc => hne (Char.toNat_inj.mp hc)
  obtain ⟨hlower, hupper⟩ := h
  simp only [isBlank, Bool.or_eq_false_iff, Bool.and_eq_false_iff, decide_eq_false_iff_not,
    beq_eq_false_iff_ne]
  omega

/-! ## Cutting -/

/-- The first separator is the one after a front that holds none. -/
theorem cut?_append_cons {sep : Char} {front : List Char} (h : sep ∉ front) (back : List Char) :
    cut? sep (front ++ sep :: back) = some (front, back) := by
  induction front with
  | nil => simp [cut?]
  | cons c front ih =>
    simp only [List.mem_cons, not_or] at h
    simp [cut?, Ne.symm h.1, ih h.2]

theorem cut?_eq_some_iff {sep : Char} {text front back : List Char} :
    cut? sep text = some (front, back) ↔ text = front ++ sep :: back ∧ sep ∉ front := by
  constructor
  · intro h
    refine ⟨append_of_cut? h, ?_⟩
    induction text generalizing front with
    | nil => cases h
    | cons c text ih =>
      rw [cut?] at h
      split at h
      · cases h
        exact List.not_mem_nil
      · next hc =>
        obtain ⟨⟨front, _⟩, hcut, hsame⟩ := Option.map_eq_some_iff.mp h
        cases hsame
        rw [List.mem_cons, not_or]
        exact ⟨Ne.symm hc, ih hcut⟩
  · rintro ⟨rfl, hfront⟩
    exact cut?_append_cons hfront back

/-- What is said of the fronts before a separator is said of them one character at a time. -/
theorem forall_front_cons_iff {sep c : Char} {text : List Char} {P : List Char → Prop} :
    (∀ front back, c :: text = front ++ sep :: back → P front) ↔
      (c = sep → P []) ∧ ∀ front back, text = front ++ sep :: back → P (c :: front) := by
  constructor
  · intro h
    refine ⟨?_, ?_⟩
    · rintro rfl
      exact h [] text rfl
    · rintro front back rfl
      exact h (c :: front) back rfl
  · rintro ⟨hc, htext⟩ front back h
    cases front with
    | nil => exact hc (List.cons.inj h).1
    | cons first front =>
      obtain ⟨rfl, hrest⟩ := List.cons.inj h
      exact htext front back hrest

/-- A text is cut in one way only. -/
theorem append_cons_inj {sep : Char} {front front' back back' : List Char}
    (hfront : sep ∉ front) (hfront' : sep ∉ front')
    (h : front ++ sep :: back = front' ++ sep :: back') : front = front' ∧ back = back' := by
  have hcut := cut?_append_cons hfront back
  rw [h, cut?_append_cons hfront'] at hcut
  simpa [eq_comm] using hcut

theorem cutLast?_of_notMem {sep : Char} {text : List Char} (h : sep ∉ text) :
    cutLast? sep text = none := by
  induction text with
  | nil => rfl
  | cons c text ih =>
    simp only [List.mem_cons, not_or] at h
    simp [cutLast?, ih h.2, Ne.symm h.1]

/-- The last separator is the one before a back that holds none. -/
theorem cutLast?_append_cons {sep : Char} {back : List Char} (h : sep ∉ back)
    (front : List Char) : cutLast? sep (front ++ sep :: back) = some (front, back) := by
  induction front with
  | nil => simp [cutLast?, cutLast?_of_notMem h]
  | cons c front ih => simp [cutLast?, ih]

theorem append_of_cutLast? {sep : Char} {text front back : List Char}
    (h : cutLast? sep text = some (front, back)) : text = front ++ sep :: back := by
  induction text generalizing front with
  | nil => cases h
  | cons c rest ih =>
    rw [cutLast?] at h
    split at h
    · next hcut =>
      cases h
      rw [ih hcut, List.cons_append]
    · split at h
      · next hc =>
        cases h
        rw [hc, List.nil_append]
      · cases h

theorem after?_append (start rest : List Char) : after? start (start ++ rest) = some rest :=
  after?_eq_some_iff.mpr rfl

theorem before?_eq_some_iff {finish text front : List Char} :
    before? finish text = some front ↔ text = front ++ finish := by
  rw [before?, Option.map_eq_some_iff]
  constructor
  · rintro ⟨reversed, hreversed, rfl⟩
    have htext := congrArg List.reverse (after?_eq_some_iff.mp hreversed)
    simpa using htext
  · rintro rfl
    exact ⟨front.reverse, after?_eq_some_iff.mpr (by simp), front.reverse_reverse⟩

theorem before?_append (text finish : List Char) : before? finish (text ++ finish) = some text :=
  before?_eq_some_iff.mpr rfl

end Possession.Text

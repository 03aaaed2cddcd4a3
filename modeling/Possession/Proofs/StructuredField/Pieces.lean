import Possession.Proofs.StructuredField.Items
import Possession.Proofs.Text.Words

/-!
# The parts of any text

A piece goes up to the first separator that separates, and behind it the scan starts afresh. So each
piece but the last closes what it opens, and the last one takes all that an open string or
parenthesis hides.
-/

namespace Possession.StructuredField

/-! ## Pieces -/

/-- Whether a text is cut into pieces: no separator of a piece separates, and the separator behind a
piece does, because the piece closes what it opens. -/
inductive Cuts (sep : Char) : List Char → List (List Char) → Prop
  | last {piece : List Char} (hclosed : Closed sep .start piece) : Cuts sep piece [piece]
  | cons {piece rest : List Char} {pieces : List (List Char)} (hclosed : Closed sep .start piece)
      (hbalanced : Balanced piece) (hrest : Cuts sep rest pieces) :
      Cuts sep (piece ++ sep :: rest) (piece :: pieces)

section

variable {sep : Char}

/-- The first piece ends at the first separator that separates. -/
theorem splitFrom_closed_append_cons {scan : Scan} {front : List Char}
    (hclosed : Closed sep scan front) (h : scan.after front = .start) (back : List Char) :
    splitFrom sep scan (front ++ sep :: back) = front :: splitFrom sep .start back := by
  induction front generalizing scan with
  | nil =>
    obtain rfl : scan = .start := h
    simp [splitFrom, Scan.isOpen, Scan.start]
  | cons c front ih =>
    obtain ⟨hc, hfront⟩ := closed_cons_iff.mp hclosed
    rw [List.cons_append, splitFrom, if_neg (by simp [hc]), ih hfront h, Text.extendFirst]

theorem Cuts.splitFrom_eq {text : List Char} {pieces : List (List Char)}
    (h : Cuts sep text pieces) : splitFrom sep .start text = pieces := by
  induction h with
  | last hclosed => exact splitFrom_eq_singleton hclosed
  | cons hclosed hbalanced _ ih => rw [splitFrom_closed_append_cons hclosed hbalanced, ih]

/-- Every text is cut. The induction is on the length, because a step takes a whole piece away. -/
theorem cuts_splitFrom (sep : Char) (text : List Char) :
    Cuts sep text (splitFrom sep .start text) := by
  generalize hlength : text.length = length
  induction length using Nat.strongRecOn generalizing text with
  | ind length ih =>
    rcases closed_or_exists_cut sep .start text with hclosed | ⟨front, back, rfl, hclosed, hafter⟩
    · rw [splitFrom_eq_singleton hclosed]
      exact .last hclosed
    · rw [List.length_append, List.length_cons] at hlength
      rw [splitFrom_closed_append_cons hclosed hafter]
      exact .cons hclosed hafter (ih back.length (by omega) back rfl)

/-- The pieces of a text are those that it is cut into. -/
theorem splitFrom_eq_iff {text : List Char} {pieces : List (List Char)} :
    splitFrom sep .start text = pieces ↔ Cuts sep text pieces := by
  constructor
  · rintro rfl
    exact cuts_splitFrom sep text
  · exact Cuts.splitFrom_eq

theorem Cuts.closed {text : List Char} {pieces : List (List Char)} (h : Cuts sep text pieces) :
    ∀ piece ∈ pieces, Closed sep .start piece := by
  induction h with
  | last hclosed => simpa using hclosed
  | cons hclosed _ _ ih => exact List.forall_mem_cons.mpr ⟨hclosed, ih⟩

/-- Pieces that could be cut out of a text are cut out of the one that they make up. -/
theorem cuts_intercalate {pieces : List (List Char)} (hne : pieces ≠ [])
    (hclosed : ∀ piece ∈ pieces, Closed sep .start piece)
    (hbalanced : ∀ piece ∈ pieces.dropLast, Balanced piece) :
    Cuts sep ([sep].intercalate pieces) pieces := by
  induction pieces with
  | nil => exact absurd rfl hne
  | cons piece rest ih =>
    obtain ⟨hfirst, hothers⟩ := List.forall_mem_cons.mp hclosed
    cases rest with
    | nil =>
      rw [List.intercalate_singleton]
      exact .last hfirst
    | cons next rest =>
      rw [List.dropLast_cons_cons, List.forall_mem_cons] at hbalanced
      rw [List.intercalate_cons_cons, List.append_assoc, List.singleton_append]
      exact .cons hfirst hbalanced.1 (ih (List.cons_ne_nil _ _) hothers hbalanced.2)

end

/-! ## Parts -/

/-- What is left of pieces: each without the blank characters around it, if there is more. -/
def kept (pieces : List (List Char)) : List (List Char) :=
  (pieces.map Text.trim).filter (!·.isEmpty)

theorem split_eq_kept (sep : Char) (text : List Char) :
    split sep text = kept (splitFrom sep .start text) := rfl

theorem kept_cons_of_blank {piece : List Char} (h : Text.trim piece = [])
    (pieces : List (List Char)) : kept (piece :: pieces) = kept pieces := by
  simp [kept, h]

theorem kept_cons {piece : List Char} (h : Text.trim piece ≠ []) (pieces : List (List Char)) :
    kept (piece :: pieces) = Text.trim piece :: kept pieces := by
  simp [kept, h]

theorem mem_kept_iff {pieces : List (List Char)} {part : List Char} :
    part ∈ kept pieces ↔ part ≠ [] ∧ ∃ piece ∈ pieces, Text.trim piece = part := by
  simp [kept, and_comm]

/-- Parts stay as they are. -/
theorem kept_eq_self {parts : List (List Char)}
    (h : ∀ part ∈ parts, part ≠ [] ∧ Text.trim part = part) : kept parts = parts := by
  have htrim : parts.map Text.trim = parts := by
    rw [List.map_congr_left fun part hpart => (h part hpart).2, List.map_id']
  rw [kept, htrim, List.filter_eq_self]
  intro part hpart
  simpa using (h part hpart).1

/-- What stands between parts: separators and blank characters. -/
def isBetween (sep : Char) (c : Char) : Bool := c == sep || Text.isBlank c

theorem isBetween_of_isBlank {sep : Char} {gap : List Char}
    (h : ∀ c ∈ gap, Text.isBlank c = true) : ∀ c ∈ gap, isBetween sep c = true := by
  intro c hc
  rw [isBetween, h c hc, Bool.or_true]

/-- A piece adds what is left of it to the parts of what follows. -/
theorem spaced_piece_append {sep : Char} (piece : List Char) {rest : List Char}
    {pieces : List (List Char)} (hends : ∀ c, rest.head? = some c → isBetween sep c = true)
    (h : Text.Spaced (isBetween sep) rest (kept pieces)) :
    Text.Spaced (isBetween sep) (piece ++ rest) (kept (piece :: pieces)) := by
  obtain ⟨front, back, hfront, hback, hpiece⟩ := Text.padded_trim piece
  have hgap : ∀ c ∈ front, isBetween sep c = true := isBetween_of_isBlank hfront
  have hgap' : ∀ c ∈ back, isBetween sep c = true := isBetween_of_isBlank hback
  have htext : piece ++ rest = front ++ Text.trim piece ++ (back ++ rest) := by
    rw [← List.append_assoc, ← hpiece]
  have hrest : Text.Spaced (isBetween sep) (back ++ rest) (kept pieces) := h.gap_append hgap'
  by_cases hnone : Text.trim piece = []
  · rw [kept_cons_of_blank hnone, htext, hnone, List.append_nil]
    exact hrest.gap_append hgap
  · rw [kept_cons hnone, htext]
    refine .cons hgap (fun c hc => ?_) hrest
    cases back with
    | nil => exact hends c hc
    | cons d back =>
      obtain rfl : d = c := by simpa using hc
      exact hgap' d List.mem_cons_self

section

variable {sep : Char} {text : List Char} {pieces : List (List Char)}

/-- The parts stand in the text in order. -/
theorem Cuts.spaced_kept (h : Cuts sep text pieces) :
    Text.Spaced (isBetween sep) text (kept pieces) := by
  induction h with
  | @last piece _ =>
    have hends : ∀ c, ([] : List Char).head? = some c → isBetween sep c = true := nofun
    have hnothing : Text.Spaced (isBetween sep) [] (kept []) := .nil nofun
    simpa using spaced_piece_append piece hends hnothing
  | @cons piece rest pieces _ _ _ ih =>
    have hsep : ∀ c ∈ [sep], isBetween sep c = true := by simp [isBetween]
    exact spaced_piece_append piece (by simp [isBetween]) (ih.gap_append hsep)

/-- Parts before the last come from pieces before the last. -/
theorem Cuts.balanced_kept (h : Cuts sep text pieces) :
    ∀ part ∈ (kept pieces).dropLast, Balanced part := by
  induction h with
  | @last piece _ =>
    by_cases hnone : Text.trim piece = []
    · rw [kept_cons_of_blank hnone]
      nofun
    · rw [kept_cons hnone]
      nofun
  | @cons piece rest pieces _ hbalanced _ ih =>
    by_cases hnone : Text.trim piece = []
    · rwa [kept_cons_of_blank hnone]
    · rw [kept_cons hnone]
      cases hkept : kept pieces with
      | nil => nofun
      | cons next others =>
        rw [List.dropLast_cons_cons, List.forall_mem_cons, ← hkept]
        exact ⟨hbalanced.of_padded (Text.padded_trim piece), ih⟩

end

/-- Whether a text can be a part: there is something in it, nothing to trim, and no separator that
cuts it. -/
structure IsPart (sep : Char) (part : List Char) : Prop where
  ne_nil : part ≠ []
  trimmed : Text.trim part = part
  closed : Closed sep .start part

theorem Cuts.isPart_kept {sep : Char} {text : List Char} {pieces : List (List Char)}
    (h : Cuts sep text pieces) : ∀ part ∈ kept pieces, IsPart sep part := by
  intro part hpart
  obtain ⟨hne, piece, hpiece, rfl⟩ := mem_kept_iff.mp hpart
  exact ⟨hne, Text.trim_trim piece, (h.closed piece hpiece).of_padded (Text.padded_trim piece)⟩

theorem IsPart.split_eq {sep : Char} {part : List Char} (h : IsPart sep part) :
    split sep part = [part] :=
  split_eq_singleton h.closed h.ne_nil h.trimmed

/-- Parts that could be cut out of a text are cut out of the one that they make up. -/
theorem split_intercalate {sep : Char} {parts : List (List Char)}
    (hparts : ∀ part ∈ parts, IsPart sep part)
    (hbalanced : ∀ part ∈ parts.dropLast, Balanced part) :
    split sep ([sep].intercalate parts) = parts := by
  by_cases hne : parts = []
  · subst hne
    rfl
  · have hcuts := cuts_intercalate hne (fun part hpart => (hparts part hpart).closed) hbalanced
    rw [split_eq_kept, splitFrom_eq_iff.mpr hcuts]
    exact kept_eq_self fun part hpart => ⟨(hparts part hpart).ne_nil, (hparts part hpart).trimmed⟩

/-- Whatever text is cut, it is cut into pieces up to the separators that separate, and its parts
are what is left of them. No part is empty or has blank characters at its ends, and none is cut any
further. All of them but the last close their strings and parentheses. They stand in the text in
order, with nothing but separators and blank characters around them, and when they are joined by the
separator, the same parts are cut out again. -/
theorem split_stable (sep : Char) (text : List Char) :
    (∃ pieces, Cuts sep text pieces ∧ split sep text = kept pieces) ∧
    (∀ part ∈ split sep text, part ≠ [] ∧ Text.trim part = part ∧ split sep part = [part]) ∧
    (∀ part ∈ (split sep text).dropLast, Balanced part) ∧
    Text.Spaced (isBetween sep) text (split sep text) ∧
    split sep ([sep].intercalate (split sep text)) = split sep text := by
  have hcuts := cuts_splitFrom sep text
  have hparts : ∀ part ∈ split sep text, IsPart sep part := hcuts.isPart_kept
  refine ⟨⟨_, hcuts, rfl⟩, fun part hpart => ?_, hcuts.balanced_kept, hcuts.spaced_kept,
    split_intercalate hparts hcuts.balanced_kept⟩
  exact ⟨(hparts part hpart).ne_nil, (hparts part hpart).trimmed, (hparts part hpart).split_eq⟩

example : split ',' "a);(b,c) , , \"d,\\\" , e\\".toList =
    ["a);(b,c)".toList, "\"d,\\\" , e\\".toList] := by decide

end Possession.StructuredField

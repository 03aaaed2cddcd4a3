/-!
# Cutting texts at a character

`cut?` cuts once, `pieces` at every occurrence. Neither knows about quoting; the members of a
signature header are cut by `Possession.StructuredField` instead.
-/

namespace Possession.Text

/-- The parts before and after the first `sep`, or `none` if the text holds no `sep`. -/
def cut? (sep : Char) : List Char → Option (List Char × List Char)
  | [] => none
  | c :: rest =>
    if c = sep then some ([], rest) else (cut? sep rest).map fun (front, back) => (c :: front, back)

def cutLast? (sep : Char) : List Char → Option (List Char × List Char)
  | [] => none
  | c :: rest =>
    match cutLast? sep rest with
    | some (front, back) => some (c :: front, back)
    | none => if c = sep then some ([], rest) else none

def extendFirst (c : Char) : List (List Char) → List (List Char)
  | [] => [[c]]
  | piece :: rest => (c :: piece) :: rest

/-- The pieces between the characters that satisfy `p`; a text without one is a single piece. -/
def piecesWhere (p : Char → Bool) : List Char → List (List Char)
  | [] => [[]]
  | c :: rest => if p c then [] :: piecesWhere p rest else extendFirst c (piecesWhere p rest)

def pieces (sep : Char) : List Char → List (List Char) := piecesWhere (· == sep)

/-- The non-empty runs of characters that do not satisfy `p`. -/
def words (p : Char → Bool) (text : List Char) : List (List Char) :=
  (piecesWhere p text).filter (!·.isEmpty)

def join (sep : List Char) : List (List Char) → List Char
  | [] => []
  | [piece] => piece
  | piece :: rest => piece ++ sep ++ join sep rest

/-- The text after `start`, if it begins with `start`. -/
def after? : (start text : List Char) → Option (List Char)
  | [], text => some text
  | _ :: _, [] => none
  | s :: start, c :: text => if s = c then after? start text else none

/-- The text before `finish`, if it ends with `finish`. -/
def before? (finish text : List Char) : Option (List Char) :=
  (after? finish.reverse text.reverse).map List.reverse

theorem append_of_cut? {sep : Char} {text front back : List Char}
    (h : cut? sep text = some (front, back)) : text = front ++ sep :: back := by
  induction text generalizing front with
  | nil => simp [cut?] at h
  | cons c rest ih =>
    by_cases hc : c = sep
    · simp [cut?, hc] at h
      simp [hc, ← h.1, ← h.2]
    · simp only [cut?, hc, if_false, Option.map_eq_some_iff] at h
      obtain ⟨⟨f, b⟩, hb, heq⟩ := h
      simp only [Prod.mk.injEq] at heq
      obtain ⟨rfl, rfl⟩ := heq
      simpa using ih hb

theorem after?_eq_some_iff {start text rest : List Char} :
    after? start text = some rest ↔ text = start ++ rest := by
  induction start generalizing text with
  | nil => simp [after?, eq_comm]
  | cons s start ih =>
    cases text with
    | nil => simp [after?]
    | cons c text =>
      by_cases h : s = c
      · simp [after?, h, ih]
      · simp [after?, h, Ne.symm h]

/-- A character of joined texts comes from what joins them or from one of them. -/
theorem mem_intercalate {sep : List Char} {items : List (List Char)} {c : Char}
    (h : c ∈ sep.intercalate items) : c ∈ sep ∨ ∃ item ∈ items, c ∈ item := by
  induction items with
  | nil => simp at h
  | cons item rest ih =>
    cases rest with
    | nil => exact .inr ⟨item, by simp, by simpa using h⟩
    | cons next rest =>
      simp only [List.intercalate_cons_cons, List.mem_append] at h
      rcases h with (h | h) | h
      · exact .inr ⟨item, by simp, h⟩
      · exact .inl h
      · rcases ih h with h | ⟨other, hother, h⟩
        · exact .inl h
        · exact .inr ⟨other, by simp [hother], h⟩

end Possession.Text

import Possession.Url.Percent
import Possession.Url.Scheme

/-!
# Path segments

A segment of one dot is dropped and one of two dots takes the segment before it away, except for the
letter of a drive. In a file URL a drive may stand first, and the URL has no host then.
-/

namespace Possession.Url

abbrev Segment : Type := List Char

/-- The segment that means the current one: a dot, encoded or not. -/
def isSingleDot (segment : Segment) : Bool :=
  [".", "%2e"].contains (String.ofList (Text.asciiLower segment))

/-- The segment that means the one above: two dots, encoded or not. -/
def isDoubleDot (segment : Segment) : Bool :=
  ["..", ".%2e", "%2e.", "%2e%2e"].contains (String.ofList (Text.asciiLower segment))

/-- Whether a segment is the letter of a drive: a letter and a colon, or a bar in its place. -/
def isDriveLetter : Segment → Bool
  | [letter, mark] => Text.isAsciiLetter letter && (mark == ':' || mark == '|')
  | _ => false

/-- A drive with a colon after its letter. -/
def writeDrive (drive : Segment) : Segment := drive.take 1 ++ [':']

/-- Whether a segment is a drive, or a drive and more after a backslash that is not a slash. -/
def isDrive (segment : Segment) : Bool :=
  isDriveLetter (segment.take 2) && (segment[2]?.all (· == '\\'))

/-- The way through a path so far. -/
structure Walk where
  /-- The segments, last first. -/
  segments : List Segment
  /-- Whether the first segment was written as the drive of a file. -/
  onDrive : Bool

/-- One segment further. -/
def Walk.enter (walk : Walk) (segment : Segment) : Walk :=
  { walk with segments := segment :: walk.segments }

/-- One segment back, unless that segment is a drive. -/
def Walk.leave (walk : Walk) : Walk :=
  match walk.segments with
  | [] => walk
  | last :: before => if isDrive last then walk else { walk with segments := before }

/-- The letter of a drive with its colon, and the text that follows in the same segment, if a tab or
a line break separates the two. -/
def cutAfterDrive? (text : List Char) : Option (Segment × List Char) := do
  let letter :: text := text.dropWhile isBreak | none
  let ':' :: text := text.dropWhile isBreak | none
  let rest := dropBreaks text
  if Text.isAsciiLetter letter && (text.head?.any isBreak) && !rest.isEmpty then
    some ([letter, ':'], rest)
  else none

/-- The first piece of a file path. A drive may stand there; a drive that a tab or a line break
separates from more text is a segment of its own, but leaves the host alone. -/
def Walk.start (piece : List Char) : Walk :=
  let segment := percentEncode pathSet (dropBreaks piece)
  if isDriveLetter segment then ⟨[writeDrive segment], true⟩
  else
    match cutAfterDrive? piece with
    | some (drive, rest) => ⟨[percentEncode pathSet rest, drive], false⟩
    | none => ⟨[segment], false⟩

/-- Follows one piece of a path. -/
def Walk.follow (rules : Syntactic) (walk : Walk) (piece : List Char) : Walk :=
  let segment := percentEncode pathSet (dropBreaks piece)
  if isDoubleDot segment then walk.leave
  else if isSingleDot segment then walk
  else if rules = .file ∧ walk.segments = [] then Walk.start piece
  else walk.enter segment

/-- Follows all pieces of a path; after a dot at the end the last segment is empty. -/
def Walk.followAll (rules : Syntactic) (walk : Walk) (pieces : List (List Char)) : Walk :=
  let finish := pieces.foldl (Walk.follow rules) walk
  let last := percentEncode pathSet (dropBreaks (pieces.getLast?.getD []))
  if isDoubleDot last || isSingleDot last then finish.enter [] else finish

/-- The way through a path text; a slash at its start is taken away first. `before` holds segments
that precede those of the text. -/
def walkPath (rules : Syntactic) (before : List Segment) (text : List Char) : Walk :=
  let pieces := Text.piecesWhere rules.isSlash text
  Walk.followAll rules ⟨before, false⟩ <|
    match pieces with
    | first :: second :: rest => if (dropBreaks first).isEmpty then second :: rest else pieces
    | _ => pieces

def readSegments (rules : Syntactic) (text : List Char) : List Segment :=
  (walkPath rules [] text).segments.reverse

/-! ## Printable segments -/

open Text (Printable)

def Walk.IsPrintable (walk : Walk) : Prop := ∀ segment ∈ walk.segments, Printable segment

namespace Walk

variable {walk : Walk}

theorem IsPrintable.enter (h : walk.IsPrintable) {segment : Segment}
    (hsegment : Printable segment) : (walk.enter segment).IsPrintable := by
  intro other hother
  rcases List.mem_cons.mp hother with rfl | hother
  · exact hsegment
  · exact h other hother

theorem IsPrintable.leave (h : walk.IsPrintable) : walk.leave.IsPrintable := by
  unfold Walk.leave
  split
  · exact h
  · next last before hsegments =>
    split
    · exact h
    · intro segment hsegment
      exact h segment (by simp [hsegments, hsegment])

theorem printable_cutAfterDrive? {text rest : List Char} {drive : Segment}
    (h : cutAfterDrive? text = some (drive, rest)) : Printable drive := by
  unfold cutAfterDrive? at h
  split at h
  · split at h
    · simp only [Option.ite_none_right_eq_some, Option.some.injEq, Prod.mk.injEq,
        Bool.and_eq_true] at h
      obtain ⟨⟨⟨hletter, _⟩, _⟩, rfl, _⟩ := h
      simpa [Text.printable_of_isAsciiLetter hletter] using (by decide : Text.IsPrintable ':')
    · simp at h
  · simp at h

theorem isPrintable_start (piece : List Char) : (Walk.start piece).IsPrintable := by
  have hsegment := printable_percentEncode pathSet (dropBreaks piece)
  simp only [Walk.start]
  split
  · intro segment hmem
    obtain rfl := List.mem_singleton.mp hmem
    simp only [writeDrive, Text.printable_append]
    exact ⟨hsegment.mono (List.take_subset 1 _), by decide⟩
  · split
    · next drive rest hdrive =>
      intro segment hmem
      rcases List.mem_cons.mp hmem with rfl | hmem
      · exact printable_percentEncode pathSet rest
      · obtain rfl := List.mem_singleton.mp hmem
        exact printable_cutAfterDrive? hdrive
    · intro segment hmem
      obtain rfl := List.mem_singleton.mp hmem
      exact hsegment

/-- One piece further, the segments are still printable. -/
theorem IsPrintable.follow (h : walk.IsPrintable) (rules : Syntactic) (piece : List Char) :
    (walk.follow rules piece).IsPrintable := by
  simp only [Walk.follow]
  split
  · exact h.leave
  split
  · exact h
  split
  · exact isPrintable_start piece
  · exact h.enter (printable_percentEncode pathSet _)

theorem IsPrintable.foldl_follow (h : walk.IsPrintable) (rules : Syntactic)
    (pieces : List (List Char)) : (pieces.foldl (Walk.follow rules) walk).IsPrintable := by
  induction pieces generalizing walk with
  | nil => exact h
  | cons piece rest ih => exact ih (h.follow rules piece)

theorem IsPrintable.followAll (h : walk.IsPrintable) (rules : Syntactic)
    (pieces : List (List Char)) : (walk.followAll rules pieces).IsPrintable := by
  simp only [Walk.followAll]
  split
  · exact (h.foldl_follow rules pieces).enter Text.printable_nil
  · exact h.foldl_follow rules pieces

end Walk

/-- Every segment of a path text that was followed is printable, if those before it are. -/
theorem isPrintable_walkPath (rules : Syntactic) {before : List Segment} (text : List Char)
    (h : ∀ segment ∈ before, Printable segment) : (walkPath rules before text).IsPrintable := by
  have hwalk : Walk.IsPrintable ⟨before, false⟩ := h
  exact hwalk.followAll rules _

theorem printable_readSegments (rules : Syntactic) (text : List Char) :
    ∀ segment ∈ readSegments rules text, Printable segment := by
  intro segment hsegment
  have hwalk : (walkPath rules [] text).IsPrintable := isPrintable_walkPath rules text (by simp)
  exact hwalk segment (by simpa [readSegments] using hsegment)

end Possession.Url

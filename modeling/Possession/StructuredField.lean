import Possession.Text.Character
import Possession.Text.Split

/-!
# Structured header fields

A quote opens a string and closes it, inside a string a backslash makes the next character plain,
and outside of strings parentheses nest. A closing parenthesis without an opening one is passed
over.
-/

namespace Possession.StructuredField

/-- Where a scan stands with respect to strings. -/
inductive Quoting
  | outside
  | quoted
  /-- Inside a string, after a backslash. -/
  | escaped
  deriving DecidableEq, Repr

def Quoting.step : Quoting → Char → Quoting
  | .outside, c => if c = '"' then .quoted else .outside
  | .quoted, c => if c = '\\' then .escaped else if c = '"' then .outside else .quoted
  | .escaped, _ => .quoted

/-- Where a scan stands with respect to strings and parentheses. -/
structure Scan where
  quoting : Quoting
  /-- The number of open parentheses. -/
  depth : Nat
  deriving DecidableEq, Repr

namespace Scan

def start : Scan := ⟨.outside, 0⟩

/-- Whether a separator at this place separates. -/
def isOpen (scan : Scan) : Bool := scan.quoting == .outside && scan.depth == 0

/-- The number of open parentheses after another character. -/
def stepDepth (scan : Scan) (c : Char) : Nat :=
  if scan.quoting ≠ .outside then scan.depth
  else if c = '(' then scan.depth + 1
  else if c = ')' then scan.depth - 1
  else scan.depth

def step (scan : Scan) (c : Char) : Scan := ⟨scan.quoting.step c, scan.stepDepth c⟩

def after (scan : Scan) (text : List Char) : Scan := text.foldl step scan

@[simp] theorem after_nil (scan : Scan) : scan.after [] = scan := rfl

@[simp] theorem after_cons (scan : Scan) (c : Char) (text : List Char) :
    scan.after (c :: text) = (scan.step c).after text := rfl

theorem after_append (scan : Scan) (front back : List Char) :
    scan.after (front ++ back) = (scan.after front).after back := by
  simp [after]

end Scan

/-- The pieces between the separators outside of strings and parentheses, from a state on. -/
def splitFrom (sep : Char) : Scan → List Char → List (List Char)
  | _, [] => [[]]
  | scan, c :: rest =>
    if scan.isOpen && c == sep then [] :: splitFrom sep scan rest
    else Text.extendFirst c (splitFrom sep (scan.step c) rest)

/-- The pieces between the separators outside of strings and parentheses, without the blank
characters around them; empty pieces are dropped. -/
def split (sep : Char) (text : List Char) : List (List Char) :=
  ((splitFrom sep .start text).map Text.trim).filter (!·.isEmpty)

/-- The parts before and after the first `target` outside of strings, from a state on. -/
def cutFrom? (target : Char) : Quoting → List Char → Option (List Char × List Char)
  | _, [] => none
  | quoting, c :: rest =>
    if quoting = .outside ∧ c = target then some ([], rest)
    else
      (cutFrom? target (quoting.step c) rest).map fun (front, back) => (c :: front, back)

/-- The parts before and after the first `target` outside of strings. -/
def cutAtUnquoted? (target : Char) (text : List Char) : Option (List Char × List Char) :=
  cutFrom? target .outside text

end Possession.StructuredField

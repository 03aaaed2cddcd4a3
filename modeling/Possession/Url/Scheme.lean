import Possession.Text.Printable
import Possession.Text.Split

/-!
# Schemes

The scheme decides how the rest of a URL is read. The special schemes share one syntax, and the
scheme of files is one of them with rules of its own for hosts and drives.
-/

namespace Possession.Url

/-- How the rest of a URL is read. -/
inductive Syntactic
  /-- A special scheme with a default port. -/
  | special (port : Nat)
  | file
  | other
  deriving DecidableEq, Repr

def rulesOf (scheme : String) : Syntactic :=
  if scheme = "http" ∨ scheme = "ws" then .special 80
  else if scheme = "https" ∨ scheme = "wss" then .special 443
  else if scheme = "ftp" then .special 21
  else if scheme = "file" then .file
  else .other

/-- Whether backslashes count as slashes. -/
def Syntactic.isSpecial (rules : Syntactic) : Bool := rules != .other

/-- The port that is not written. -/
def Syntactic.defaultPort? : Syntactic → Option Nat
  | .special port => some port
  | _ => none

/-- Whether a character separates segments. -/
def Syntactic.isSlash (rules : Syntactic) (c : Char) : Bool :=
  c == '/' || (rules.isSpecial && c == '\\')

/-- Whether a character ends the authority. -/
def Syntactic.endsAuthority (rules : Syntactic) (c : Char) : Bool :=
  rules.isSlash c || c == '?' || c == '#'

/-- Whether a character is left out of a URL wherever it stands: a tab or a line break. -/
def isBreak (c : Char) : Bool := c == '\t' || c == '\n' || c == '\r'

def dropBreaks (text : List Char) : List Char := text.filter (!isBreak ·)

/-- Whether a scheme may hold a character after its first one. -/
def isSchemeChar (c : Char) : Bool :=
  Text.isAsciiLetter c || Text.isAsciiDigit c || c == '+' || c == '-' || c == '.'

/-- A scheme and what follows its colon; tabs and line breaks within it do not count. -/
def readScheme? (text : List Char) : Option (String × List Char) := do
  let (front, rest) ← Text.cut? ':' text
  let scheme := dropBreaks front
  match scheme with
  | first :: others =>
    if Text.isAsciiLetter first && others.all isSchemeChar then
      some (String.ofList (Text.asciiLower scheme), rest)
    else none
  | [] => none

theorem printable_of_isSchemeChar {c : Char} (h : isSchemeChar c = true) :
    Text.IsPrintable c := by
  simp only [isSchemeChar, Bool.or_eq_true, beq_iff_eq] at h
  rcases h with (((h | h) | rfl) | rfl) | rfl
  · exact Text.printable_of_isAsciiLetter h
  · exact Text.printable_of_isAsciiDigit h
  all_goals decide

theorem printable_readScheme? {text rest : List Char} {scheme : String}
    (h : readScheme? text = some (scheme, rest)) : Text.Printable scheme.toList := by
  simp only [readScheme?, Option.bind_eq_bind, Option.bind_eq_some_iff, Prod.exists] at h
  obtain ⟨front, back, _, h⟩ := h
  split at h
  · next first others hscheme =>
    simp only [Option.ite_none_right_eq_some, Option.some.injEq, Prod.mk.injEq,
      Bool.and_eq_true] at h
    obtain ⟨⟨hfirst, hothers⟩, rfl, _⟩ := h
    rw [String.toList_ofList, hscheme]
    apply Text.printable_asciiLower
    rw [Text.printable_cons]
    refine ⟨Text.printable_of_isAsciiLetter hfirst, fun c hc => ?_⟩
    exact printable_of_isSchemeChar (List.all_eq_true.mp hothers c hc)
  · simp at h

end Possession.Url

import Possession.Text.Character
import Possession.Text.Printable
import Possession.Text.Split

/-!
# URLs

Each part of a URL is in normal form and printable, and the type of URLs keeps this rule: no part
can start a new line.
-/

namespace Possession

namespace Url

inductive Host
  /-- A registered name, or whatever a scheme without rules of its own writes there. -/
  | name (text : String)
  /-- An address of 32 bits. -/
  | ipv4 (address : Nat)
  /-- An address of eight units of 16 bits. -/
  | ipv6 (units : List Nat)
  deriving DecidableEq, Repr

/-- What stands between the double slash and the path. -/
structure Authority where
  username : String
  /-- The password, empty if there is none. -/
  password : String
  /-- The host, unless it is empty. -/
  host : Option Host
  /-- The port, unless it is the default of the scheme. -/
  port : Option Nat
  deriving DecidableEq, Repr

inductive Path
  /-- Segments, each after a slash. -/
  | rooted (segments : List String)
  /-- A text without structure, after the colon of the scheme. -/
  | verbatim (text : String)
  deriving DecidableEq, Repr

/-- What a URL consists of. -/
structure Parts where
  /-- The scheme, in lower case. -/
  scheme : String
  authority : Option Authority
  path : Path
  /-- The part between the question mark and the number sign. -/
  query : Option String
  /-- The part after the number sign. -/
  fragment : Option String
  deriving DecidableEq, Repr

/-! ## Hosts -/

/-- The four bytes of an address, in decimal and separated by dots. -/
def ipv4Text (address : Nat) : String :=
  ".".intercalate
    ([address / 0x1000000, address / 0x10000 % 256, address / 0x100 % 256, address % 256].map
      toString)

/-- The number of zeros that a list begins with. -/
def leadingZeros (units : List Nat) : Nat := (units.takeWhile (· == 0)).length

/-- The start and the length of the longest run of zeros, the first one of several. -/
def longestZeros : (start : Nat) → List Nat → Nat × Nat
  | start, [] => (start, 0)
  | start, unit :: units =>
    let here := leadingZeros (unit :: units)
    let later := longestZeros (start + 1) units
    if here < later.2 then later else (start, here)

/-- Units in hexadecimal, separated by colons. -/
def unitsText (units : List Nat) : String :=
  ":".intercalate (units.map fun unit => String.ofList (Nat.toDigits 16 unit))

/-- An address of eight units, with two colons for the longest run of at least two zeros. -/
def ipv6Text (units : List Nat) : String :=
  let (start, count) := longestZeros 0 units
  if count < 2 then unitsText units
  else unitsText (units.take start) ++ "::" ++ unitsText (units.drop (start + count))

/-- The text of a host; an address of units stands in brackets. -/
def Host.print : Host → String
  | .name text => text
  | .ipv4 address => ipv4Text address
  | .ipv6 units => "[" ++ ipv6Text units ++ "]"

/-! ## The parts as texts -/

/-- The user name and password with the sign that ends them. -/
def Authority.credentials (authority : Authority) : String :=
  if authority.username = "" ∧ authority.password = "" then ""
  else if authority.password = "" then authority.username ++ "@"
  else authority.username ++ ":" ++ authority.password ++ "@"

def Authority.hostText (authority : Authority) : String :=
  match authority.host with
  | none => ""
  | some host => host.print

/-- The port after a colon, or nothing. -/
def Authority.portText (authority : Authority) : String :=
  match authority.port with
  | none => ""
  | some port => ":" ++ toString port

def Path.print : Path → String
  | .rooted segments => String.join (segments.map fun segment => "/" ++ segment)
  | .verbatim text => text

/-- A part with the sign that introduces it, or nothing. -/
def part (sign : String) : Option String → String
  | none => ""
  | some text => sign ++ text

namespace Parts

/-- What stands before the path: the authority, or a dot segment where the path would otherwise be
read as one. -/
def beforePath (url : Parts) : String :=
  match url.authority with
  | some authority =>
    "//" ++ authority.credentials ++ authority.hostText ++ authority.portText
  | none => if (Text.after? ['/', '/'] url.path.print.toList).isSome then "/." else ""

def print (url : Parts) : String :=
  url.scheme ++ ":" ++ url.beforePath ++ url.path.print ++ part "?" url.query ++
    part "#" url.fragment

/-- The host in lower case and the port, if it is written. -/
def authorityText (url : Parts) : String :=
  match url.authority with
  | none => ""
  | some authority =>
    String.ofList (Text.asciiLower authority.hostText.toList) ++ authority.portText

/-- The query after a question mark; without a query the question mark alone. -/
def queryText (url : Parts) : String := "?" ++ url.query.getD ""

end Parts

/-! ## Printable texts -/

open Text (Printable printable_append)

theorem printable_ipv4Text (address : Nat) : Printable (ipv4Text address).toList := by
  rw [ipv4Text, String.toList_intercalate]
  apply Text.printable_intercalate (by decide)
  simp [Text.printable_toDigits]

theorem printable_unitsText (units : List Nat) : Printable (unitsText units).toList := by
  rw [unitsText, String.toList_intercalate]
  apply Text.printable_intercalate (by decide)
  simp [Text.printable_toDigits]

theorem printable_ipv6Text (units : List Nat) : Printable (ipv6Text units).toList := by
  simp only [ipv6Text]
  split
  · exact printable_unitsText units
  · simp [printable_unitsText]
    decide

/-- Whether the texts in an authority are printable; its numbers always are. -/
structure Authority.IsPrintable (authority : Authority) : Prop where
  username : Printable authority.username.toList
  password : Printable authority.password.toList
  host : ∀ name, authority.host = some (.name name) → Printable name.toList

namespace Authority

variable {authority : Authority}

theorem IsPrintable.credentials (h : authority.IsPrintable) :
    Printable authority.credentials.toList := by
  unfold Authority.credentials
  split
  · simp
  · split
    · simp [h.username]
      decide
    · simp [h.username, h.password]
      decide

theorem IsPrintable.hostText (h : authority.IsPrintable) :
    Printable authority.hostText.toList := by
  unfold Authority.hostText
  split
  · simp
  · next host hhost =>
    cases host with
    | name text => exact h.host text hhost
    | ipv4 address => exact printable_ipv4Text address
    | ipv6 units =>
      simp [Host.print, printable_ipv6Text]
      decide

theorem printable_portText (authority : Authority) : Printable authority.portText.toList := by
  unfold portText
  split
  · simp
  · simp [Text.printable_toDigits]
    decide

end Authority

def Path.IsPrintable : Path → Prop
  | .rooted segments => ∀ segment ∈ segments, Printable segment.toList
  | .verbatim text => Printable text.toList

theorem Path.IsPrintable.print {path : Path} (h : path.IsPrintable) :
    Printable path.print.toList := by
  cases path with
  | rooted segments =>
    simp only [Path.print, String.toList_join]
    apply Text.printable_flatMap
    intro piece hpiece
    obtain ⟨segment, hsegment, rfl⟩ := List.mem_map.mp hpiece
    simpa using ⟨by decide, h segment hsegment⟩
  | verbatim text => exact h

theorem printable_part {sign : String} {text : Option String} (hsign : Printable sign.toList)
    (h : ∀ value ∈ text, Printable value.toList) : Printable (part sign text).toList := by
  cases text with
  | none => simp [part]
  | some value => simpa [part] using ⟨hsign, h value rfl⟩

structure Parts.IsPrintable (parts : Parts) : Prop where
  scheme : Printable parts.scheme.toList
  authority : ∀ authority ∈ parts.authority, authority.IsPrintable
  path : parts.path.IsPrintable
  query : ∀ query ∈ parts.query, Printable query.toList
  fragment : ∀ fragment ∈ parts.fragment, Printable fragment.toList

/-- Printable parts make a printable text. -/
theorem Parts.IsPrintable.print {parts : Parts} (h : parts.IsPrintable) :
    Printable parts.print.toList := by
  have hbefore : Printable parts.beforePath.toList := by
    unfold Parts.beforePath
    split
    · next authority hauthority =>
      have ha := h.authority authority hauthority
      simp [ha.credentials, ha.hostText, authority.printable_portText]
      decide
    · split <;> decide
  have hquery : Printable (part "?" parts.query).toList := printable_part (by decide) h.query
  have hfragment : Printable (part "#" parts.fragment).toList :=
    printable_part (by decide) h.fragment
  simp [Parts.print, h.scheme, hbefore, h.path.print, hquery, hfragment]
  decide

end Url

/-- A URL: parts that are printable together. -/
structure Url extends Url.Parts where
  printable : Text.Printable toParts.print.toList
  deriving DecidableEq, Repr

namespace Url

/-! Every value that a signature can take from a URL is printable. -/

theorem printable_scheme (url : Url) : Text.Printable url.scheme.toList := by
  have h := url.printable
  simp only [Parts.print, String.toList_append, Text.printable_append] at h
  exact h.1.1.1.1.1

theorem printable_path (url : Url) : Text.Printable url.path.print.toList := by
  have h := url.printable
  simp only [Parts.print, String.toList_append, Text.printable_append] at h
  exact h.1.1.2

theorem printable_queryText (url : Url) : Text.Printable url.queryText.toList := by
  have h := url.printable
  simp only [Parts.print, String.toList_append, Text.printable_append] at h
  have hquery := h.1.2
  unfold Parts.queryText
  cases hq : url.query with
  | none => decide
  | some query => simpa [hq, part] using hquery

theorem printable_authorityText (url : Url) : Text.Printable url.authorityText.toList := by
  have h := url.printable
  simp only [Parts.print, Parts.beforePath, String.toList_append, Text.printable_append] at h
  unfold Parts.authorityText
  split
  · simp
  · next authority hauthority =>
    have hbefore := h.1.1.1.2
    simp only [hauthority, String.toList_append, Text.printable_append] at hbefore
    simp only [String.toList_append, String.toList_ofList, Text.printable_append]
    exact ⟨Text.printable_asciiLower hbefore.1.2, hbefore.2⟩

end Url

end Possession

import Possession.Text.Character
import Possession.Url.Host
import Possession.Url.Segments

/-!
# Reading URLs

In the special schemes slashes and backslashes are alike, any number of them introduces the
authority, and a host is required, except for files. Any other scheme has an authority only after
two slashes. Whatever the text holds, each part that is read is encoded, mapped to ASCII, or
refused.
-/

namespace Possession.Url

/-! ## Authorities -/

/-- A user name and a password, encoded; the first colon separates them. -/
def readCredentials (text : List Char) : String × String :=
  let encode := fun part => String.ofList (percentEncode credentialSet part)
  match Text.cut? ':' text with
  | none => (encode text, "")
  | some (username, password) => (encode username, encode password)

/-- The host text, up to a colon outside brackets, and what follows it. -/
def splitHost (rules : Syntactic) : (inBrackets : Bool) → List Char → List Char × List Char
  | _, [] => ([], [])
  | inBrackets, c :: rest =>
    if rules.endsAuthority c || (c == ':' && !inBrackets) then ([], c :: rest)
    else
      let inside := if c = '[' then true else if c = ']' then false else inBrackets
      let (host, after) := splitHost rules inside rest
      (c :: host, after)

/-- The port after a colon, if one is written that is not the default, and what follows it. -/
def readPort? (rules : Syntactic) (text : List Char) : Option (Option Nat × List Char) :=
  let digits := text.takeWhile Text.isAsciiDigit
  let rest := text.dropWhile Text.isAsciiDigit
  let port := digits.foldl (fun n c => n * 10 + (c.toNat - 48)) 0
  let ended := match rest with
    | [] => true
    | c :: _ => c == '/' || c == '\\' || c == '?' || c == '#'
  if !ended || 65535 < port then none
  else if digits.isEmpty || some port == rules.defaultPort? then some (none, rest)
  else some (some port, rest)

/-- The credentials before the last at sign of the authority, if there is one, and what follows
them. Credentials need a host, and so does an at sign before which nothing stands if the path
follows at once. -/
def splitCredentials? (rules : Syntactic) (text : List Char) :
    Option (Option (List Char) × List Char) :=
  let authority := text.takeWhile fun c => !rules.endsAuthority c
  let rest := text.dropWhile fun c => !rules.endsAuthority c
  match Text.cutLast? '@' authority with
  | none => some (none, text)
  | some (credentials, host) =>
    if credentials.isEmpty && host.isEmpty && !rest.isEmpty then none
    else some (some credentials, host ++ rest)

def readHost? (rules : Syntactic) (text : List Char) : Option (Option Host) :=
  if rules.isSpecial then (readSpecialHost? text).map some else readOtherHost? text

/-- The authority after its slashes, and what follows it. -/
def readAuthority? (rules : Syntactic) (text : List Char) : Option (Authority × List Char) := do
  let (credentials, text) ← splitCredentials? rules text
  let (username, password) := readCredentials (credentials.getD [])
  let (hostText, rest) := splitHost rules false text
  let host ← readHost? rules hostText
  let hasCredentials := username ≠ "" ∨ password ≠ ""
  match rest with
  | ':' :: afterColon =>
    if host.isNone then none
    let (port, rest) ← readPort? rules afterColon
    return (⟨username, password, host, port⟩, rest)
  | _ =>
    if host.isNone ∧ hasCredentials then none
    else some (⟨username, password, host, none⟩, rest)

/-! ## Whole URLs -/

/-- The text up to a question mark or number sign, the query and the fragment. -/
def splitTail (rules : Syntactic) (text : List Char) :
    List Char × Option String × Option String :=
  let encode := fun set part => String.ofList (percentEncode set (dropBreaks part))
  let (front, fragment) := match Text.cut? '#' text with
    | none => (text, none)
    | some (front, fragment) => (front, some (encode fragmentSet fragment))
  let set := if rules.isSpecial then specialQuerySet else querySet
  match Text.cut? '?' front with
  | none => (front, none, fragment)
  | some (front, query) => (front, some (encode set query), fragment)

def rooted (segments : List Segment) : Path := .rooted (segments.map String.ofList)

/-- The path of a URL that is not one of a file: a special scheme always has a segment, any other
scheme only if there is a text. -/
def readPath (rules : Syntactic) (text : List Char) : Path :=
  rooted (if text.isEmpty && !rules.isSpecial then [] else readSegments rules text)

/-- A URL with an authority, from the text after the slashes. -/
def readWithAuthority? (rules : Syntactic) (scheme : String) (text : List Char) :
    Option Parts := do
  let (authority, rest) ← readAuthority? rules text
  let (path, query, fragment) := splitTail rules rest
  return ⟨scheme, some authority, readPath rules path, query, fragment⟩

/-- The text after two slashes, if it begins with them; tabs and line breaks may stand between. -/
def afterTwoSlashes? (rules : Syntactic) (text : List Char) : Option (List Char) := do
  let first :: text := text.dropWhile isBreak | none
  let second :: text := text.dropWhile isBreak | none
  if rules.isSlash first && rules.isSlash second then some text else none

/-- The host of a file URL, the segments that precede its path, and the text of the path. A host
that is the letter of a drive belongs to the path. Where no host is written, or only the own
machine, the path begins with a segment that is empty. -/
def readFileHost? (text : List Char) : Option (Option Host × List Segment × List Char) :=
  match afterTwoSlashes? .file text with
  | none => some (none, [], text)
  | some text =>
    let hostText := dropBreaks (text.takeWhile fun c => !Syntactic.file.isSlash c)
    let rest := text.dropWhile fun c => !Syntactic.file.isSlash c
    if isDriveLetter hostText then some (none, [], text)
    else if hostText.isEmpty then some (none, [[]], rest)
    else
      (readSpecialHost? hostText).map fun host =>
        if host = .name "localhost" then (none, [[]], rest) else (some host, [], rest)

/-- The segments of a file path without the empty ones at its start; one segment is left. -/
def fileSegments (walk : Walk) : List Segment :=
  match walk.segments.reverse.dropWhile List.isEmpty with
  | [] => [[]]
  | segments => segments

/-- The host and the path of a file URL, from the text between the colon and the query. A drive at
the start of the path leaves no host. -/
def readFilePath? (text : List Char) : Option (Option Host × Path) :=
  (readFileHost? text).map fun (host, before, text) =>
    let walk := walkPath .file before text
    (if walk.onDrive then none else host, rooted (fileSegments walk))

/-- A file URL, from the text after the colon. -/
def readFile? (scheme : String) (text : List Char) : Option Parts := do
  let (text, query, fragment) := splitTail .file text
  let (host, path) ← readFilePath? text
  return ⟨scheme, some ⟨"", "", host, none⟩, path, query, fragment⟩

/-- A URL of a scheme without rules of its own, from the text after the colon. -/
def readOther? (scheme : String) (text : List Char) : Option Parts :=
  match text with
  | '/' :: '/' :: rest => readWithAuthority? .other scheme rest
  | _ =>
    let (path, query, fragment) := splitTail .other text
    match path with
    | '/' :: _ => some ⟨scheme, none, readPath .other path, query, fragment⟩
    | _ =>
      some ⟨scheme, none, .verbatim (String.ofList (percentEncode [] path)), query, fragment⟩

/-- The text without control characters and spaces at its ends. -/
def trim (text : List Char) : List Char :=
  Text.trimWhile (fun c => decide (c.toNat ≤ 0x20)) text

def readParts? (text : String) : Option Parts := do
  let (scheme, rest) ← readScheme? (trim text.toList)
  match rulesOf scheme with
  | .file => readFile? scheme rest
  | .other => readOther? scheme (dropBreaks rest)
  | .special port =>
    let rules := Syntactic.special port
    readWithAuthority? rules scheme ((dropBreaks rest).dropWhile rules.isSlash)

/-! ## What is read is printable -/

open Text (Printable)

theorem printable_readCredentials (text : List Char) :
    Printable (readCredentials text).1.toList ∧ Printable (readCredentials text).2.toList := by
  unfold readCredentials
  split <;> simp [printable_percentEncode]

theorem printable_readHost? {rules : Syntactic} {text : List Char} {name : String}
    (h : readHost? rules text = some (some (.name name))) : Printable name.toList := by
  unfold readHost? at h
  split at h
  · simp only [Option.map_eq_some_iff, Option.some.injEq] at h
    obtain ⟨host, hhost, rfl⟩ := h
    exact printable_readSpecialHost? hhost
  · exact printable_readOtherHost? h

theorem isPrintable_readAuthority? {rules : Syntactic} {text rest : List Char}
    {authority : Authority} (h : readAuthority? rules text = some (authority, rest)) :
    authority.IsPrintable := by
  simp only [readAuthority?, Option.bind_eq_bind, Option.bind_eq_some_iff, Prod.exists] at h
  obtain ⟨credentials, after, _, host, hhost, h⟩ := h
  have hcredentials := printable_readCredentials (credentials.getD [])
  -- With a port or without, the credentials and the host are the ones that were read.
  have hfields : ∃ port, authority = ⟨(readCredentials (credentials.getD [])).1,
      (readCredentials (credentials.getD [])).2, host, port⟩ := by
    split at h
    · split at h
      · simp at h
      · simp only [Option.pure_def, Option.bind_eq_some_iff, Prod.exists, Option.some.injEq,
          Prod.mk.injEq] at h
        obtain ⟨port, _, _, rfl, _⟩ := h
        exact ⟨port, rfl⟩
    · split at h
      · simp at h
      · simp only [Option.some.injEq, Prod.mk.injEq] at h
        exact ⟨none, h.1.symm⟩
  obtain ⟨port, rfl⟩ := hfields
  refine ⟨hcredentials.1, hcredentials.2, fun name hname => ?_⟩
  subst hname
  exact printable_readHost? hhost

theorem printable_splitTail (rules : Syntactic) (text : List Char) :
    (∀ query ∈ (splitTail rules text).2.1, Printable query.toList) ∧
      ∀ fragment ∈ (splitTail rules text).2.2, Printable fragment.toList := by
  unfold splitTail
  cases Text.cut? '#' text with
  | none => dsimp only; constructor <;> split <;> simp [printable_percentEncode]
  | some parts => dsimp only; constructor <;> split <;> simp [printable_percentEncode]

theorem isPrintable_rooted {segments : List Segment} (h : ∀ segment ∈ segments, Printable segment) :
    (rooted segments).IsPrintable := by
  intro segment hsegment
  obtain ⟨original, horiginal, rfl⟩ := List.mem_map.mp hsegment
  simpa using h original horiginal

theorem isPrintable_readPath (rules : Syntactic) (text : List Char) :
    (readPath rules text).IsPrintable := by
  apply isPrintable_rooted
  split
  · simp
  · exact printable_readSegments rules text

theorem isPrintable_readWithAuthority? {rules : Syntactic} {scheme : String} {text : List Char}
    {parts : Parts} (hscheme : Printable scheme.toList)
    (h : readWithAuthority? rules scheme text = some parts) : parts.IsPrintable := by
  simp only [readWithAuthority?, Option.bind_eq_bind, Option.bind_eq_some_iff, Prod.exists,
    Option.pure_def, Option.some.injEq] at h
  obtain ⟨authority, rest, hauthority, rfl⟩ := h
  have htail := printable_splitTail rules rest
  refine ⟨hscheme, ?_, isPrintable_readPath rules _, htail.1, htail.2⟩
  rintro _ ⟨⟩
  exact isPrintable_readAuthority? hauthority

theorem printable_readFileHost? {text rest : List Char} {host : Option Host}
    {before : List Segment} (h : readFileHost? text = some (host, before, rest)) :
    (∀ name, host = some (.name name) → Printable name.toList) ∧
      ∀ segment ∈ before, Printable segment := by
  unfold readFileHost? at h
  split at h
  · cases h
    simp
  · dsimp only at h
    split at h
    · cases h
      simp
    split at h
    · cases h
      simp
    · obtain ⟨found, hfound, h⟩ := Option.map_eq_some_iff.mp h
      split at h
      · cases h
        simp
      · cases h
        refine ⟨fun name hname => ?_, by simp⟩
        cases hname
        exact printable_readSpecialHost? hfound

theorem printable_fileSegments {walk : Walk} (h : walk.IsPrintable) :
    ∀ segment ∈ fileSegments walk, Printable segment := by
  unfold fileSegments
  split
  · simp
  · intro segment hsegment
    have hmem := (List.dropWhile_suffix _).subset hsegment
    exact h segment (List.mem_reverse.mp hmem)

theorem isPrintable_readFilePath? {text : List Char} {host : Option Host} {path : Path}
    (h : readFilePath? text = some (host, path)) :
    (∀ name, host = some (.name name) → Printable name.toList) ∧ path.IsPrintable := by
  obtain ⟨⟨found, before, rest⟩, hread, h⟩ := Option.map_eq_some_iff.mp h
  obtain ⟨hfound, hbefore⟩ := printable_readFileHost? hread
  simp only [Prod.mk.injEq] at h
  obtain ⟨rfl, rfl⟩ := h
  refine ⟨fun name hname => ?_, ?_⟩
  · split at hname
    · cases hname
    · exact hfound name hname
  · exact isPrintable_rooted (printable_fileSegments (isPrintable_walkPath .file rest hbefore))

theorem isPrintable_readFile? {scheme : String} {text : List Char} {parts : Parts}
    (hscheme : Printable scheme.toList) (h : readFile? scheme text = some parts) :
    parts.IsPrintable := by
  simp only [readFile?, Option.bind_eq_bind, Option.bind_eq_some_iff, Prod.exists,
    Option.pure_def, Option.some.injEq] at h
  obtain ⟨host, path, hread, rfl⟩ := h
  have htail := printable_splitTail .file text
  have hpath := isPrintable_readFilePath? hread
  refine ⟨hscheme, ?_, hpath.2, htail.1, htail.2⟩
  rintro _ ⟨⟩
  exact ⟨by simp, by simp, hpath.1⟩

theorem isPrintable_readOther? {scheme : String} {text : List Char} {parts : Parts}
    (hscheme : Printable scheme.toList) (h : readOther? scheme text = some parts) :
    parts.IsPrintable := by
  have htail := printable_splitTail .other text
  unfold readOther? at h
  split at h
  · exact isPrintable_readWithAuthority? hscheme h
  · dsimp only at h
    split at h
    · cases h
      exact ⟨hscheme, by simp, isPrintable_readPath .other _, htail.1, htail.2⟩
    · cases h
      refine ⟨hscheme, by simp, ?_, htail.1, htail.2⟩
      simpa [Path.IsPrintable] using printable_percentEncode [] _

/-- The text of the parts that were read is printable, whatever the text was that they were read
from. -/
theorem printable_readParts? {text : String} {parts : Parts} (h : readParts? text = some parts) :
    Printable parts.print.toList := by
  simp only [readParts?, Option.bind_eq_bind, Option.bind_eq_some_iff, Prod.exists] at h
  obtain ⟨scheme, rest, hread, h⟩ := h
  have hscheme := printable_readScheme? hread
  apply Parts.IsPrintable.print
  split at h
  · exact isPrintable_readFile? hscheme h
  · exact isPrintable_readOther? hscheme h
  · exact isPrintable_readWithAuthority? hscheme h

def parse? (text : String) : Option Url :=
  match h : readParts? text with
  | none => none
  | some parts => some ⟨parts, printable_readParts? h⟩

end Possession.Url

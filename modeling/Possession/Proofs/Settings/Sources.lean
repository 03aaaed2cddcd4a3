import Possession.Proofs.Settings.Overrides

/-!
# The issuer from two sources

`settle` is what a variable leaves of a text that looks like a truth value or a number. `Parallel`
relates the configurations of two documents that differ in the issuer; laying one more entry over
both of them preserves it, as long as issuers are given by name.
-/

namespace Possession

open Possession.Configuration

/-! ## What a variable makes of a text -/

/-- The text that is left of a text that looks like a truth value or a number. -/
def Configuration.Environment.settle (text : String) : String :=
  match readBool? text.toList, readInteger? text.toList, readFloat? text.toList with
  | some value, _, _ => if value then "true" else "false"
  | none, some value, _ => toString value
  | none, none, some value => value.plain
  | none, none, none => text

theorem Decimal.Digits.positional_ne_nil (d : Decimal.Digits) : d.positional ≠ [] := by
  have hchars : digitChars d.digits ≠ [] := Nat.toDigits_ne_nil
  by_cases hwhole : 0 ≤ d.exponent
  · simp [positional, hwhole, hchars]
  · rw [positional, if_neg hwhole]
    dsimp only
    split <;> simp

theorem Decimal.Binary64.plain_ne_empty (x : Decimal.Binary64) : x.plain ≠ "" := by
  cases x with
  | finite negative mantissa exponent =>
    have hdigits : (if mantissa = 0 then ['0']
        else (shortest .up mantissa exponent).positional) ≠ [] := by
      split <;> simp [Digits.positional_ne_nil]
    simp [plain, hdigits]
  | infinite negative => cases negative <;> decide
  | nan => decide

namespace Configuration.Environment

theorem toString_ne_empty (n : Int) : toString n ≠ "" := by
  cases n <;> simp [toString, Int.repr, Nat.repr, ← String.toList_inj]

variable {text : String}

theorem settle_eq_self (hbool : readBool? text.toList = none)
    (hinteger : readInteger? text.toList = none) (hfloat : readFloat? text.toList = none) :
    settle text = text := by
  simp only [settle, hbool, hinteger, hfloat]

theorem settle_ne_empty (h : text ≠ "") : settle text ≠ "" := by
  rw [settle]
  split
  · split <;> decide
  · exact toString_ne_empty _
  · exact Decimal.Binary64.plain_ne_empty _
  · exact h

end Configuration.Environment

theorem Setting.asText?_said_issuer (text : String) :
    (Setting.issuer.said text).asText? = some (Environment.settle text) := by
  have hname : Setting.issuer.fullName ≠ Environment.listName := by decide
  simp only [said, Environment.readValue, Environment.settle]
  generalize Environment.readBool? text.toList = bool?
  generalize Environment.readInteger? text.toList = integer?
  generalize Environment.readFloat? text.toList = float?
  cases bool? with
  | some value => rfl
  | none =>
    cases integer? with
    | some value => rfl
    | none =>
      cases float? with
      | some value => rfl
      | none => simp [Value.asText?, hname]

/-! ## Documents with another issuer -/

namespace Sources

variable {text : String}

def sectionPlace : Path := [.key Setting.issuer.sectionName]

def issuerPlace : Path := [.key Setting.issuer.sectionName, .key Setting.issuer.name]

/-- A table with a text for the issuer where it gives one. -/
def restateIn (text : String) (entries : List (String × Value)) : List (String × Value) :=
  entries.map fun entry =>
    (entry.1, if entry.1 = Setting.issuer.name then .text text else entry.2)

/-- A section about tokens with a text for the issuer, given by name or by position. -/
def restateSection (text : String) : Value → Value
  | .table entries => .table (restateIn text entries)
  | .list (_ :: items) => .list (.text text :: items)
  | other => other

/-- A value at a place with a text for the issuer: at the place of the section about tokens or at
that of the issuer. -/
def restateAt (text : String) (place : Path) (value : Value) : Value :=
  if place = sectionPlace then restateSection text value
  else if place = issuerPlace then .text text
  else value

/-- The entries of a document with a text for the issuer. The section about tokens is an entry, and
a quoted name may spell the place of the issuer as well. -/
def restate (text : String) (entries : List (String × Value)) : List (String × Value) :=
  entries.map fun entry => (entry.1, restateAt text (placeOf entry.1) entry.2)

/-- Whether a value at a place says nothing about tokens by position: the section about tokens is a
table, and the place is not at an index of it. -/
def IsByName : Path → Value → Prop
  | [.key table], value => table = Setting.issuer.sectionName → ∃ entries, value = .table entries
  | .key table :: .index _ :: _, _ => table ≠ Setting.issuer.sectionName
  | _, _ => True

theorem restateAt_section (value : Value) :
    restateAt text [.key Setting.issuer.sectionName] value = restateSection text value :=
  if_pos rfl

theorem restateAt_issuer (value : Value) :
    restateAt text [.key Setting.issuer.sectionName, .key Setting.issuer.name] value =
      .text text := by
  have hplace : [.key Setting.issuer.sectionName, .key Setting.issuer.name] = issuerPlace := rfl
  rw [restateAt, if_neg (by decide), if_pos hplace]

theorem restateAt_of_ne {place : Path} (hsection : place ≠ sectionPlace)
    (hissuer : place ≠ issuerPlace) (value : Value) : restateAt text place value = value := by
  rw [restateAt, if_neg hsection, if_neg hissuer]

/-- The place that a name stands for begins with a key. -/
theorem exists_placeOf_eq_cons (name : String) :
    ∃ table rest, placeOf name = .key table :: rest := by
  rw [placeOf]
  cases hpath : readPath? name.toList with
  | none => exact ⟨name, [], rfl⟩
  | some path =>
    simp only [readPath?, Option.bind_eq_bind, Option.bind_eq_some_iff] at hpath
    obtain ⟨⟨table, _⟩, -, rest, -, hpath⟩ := hpath
    exact ⟨table, rest, (Option.some.inj hpath).symm⟩

/-! ## Tables that differ in the issuer -/

/-- Two tables that differ in the issuer only, which is the given text in the second one if it is
one in the first. -/
structure Restates (text : String) (first second : List (String × Value)) : Prop where
  others : ∀ name, name ≠ Setting.issuer.name → find? name second = find? name first
  issuer : ((find? Setting.issuer.name first).bind Value.asText?).isSome = true →
    find? Setting.issuer.name second = some (.text text)

namespace Restates

variable {first second : List (String × Value)}

theorem nil : Restates text [] [] := ⟨fun _ _ => rfl, nofun⟩

/-- The same change of another entry. -/
theorem updateEntry_other (h : Restates text first second) {name : String}
    (hname : name ≠ Setting.issuer.name) (change : Value → Value) :
    Restates text (updateEntry name change first) (updateEntry name change second) := by
  refine ⟨fun other hother => ?_, fun hissuer => ?_⟩
  · rw [find?_updateEntry, find?_updateEntry, h.others name hname, h.others other hother]
  · rw [find?_updateEntry_of_ne hname.symm] at hissuer ⊢
    exact h.issuer hissuer

/-- A change of the first issuer to what is not a text. -/
theorem updateEntry_within (h : Restates text first second) {change : Value → Value}
    (hchange : ∀ value, (change value).asText? = none) :
    Restates text (updateEntry Setting.issuer.name change first)
      (updateEntry Setting.issuer.name change second) := by
  refine ⟨fun other hother => ?_, fun hissuer => ?_⟩
  · rw [find?_updateEntry_of_ne hother, find?_updateEntry_of_ne hother, h.others other hother]
  · rw [find?_updateEntry_self, Option.bind_some, hchange] at hissuer
    cases hissuer

/-- The text for the issuer where the first table gets any value. -/
theorem updateEntry_issuer (h : Restates text first second) (value : Value) :
    Restates text (updateEntry Setting.issuer.name (merge value) first)
      (updateEntry Setting.issuer.name (merge (.text text)) second) := by
  refine ⟨fun other hother => ?_, fun _ => ?_⟩
  · rw [find?_updateEntry_of_ne hother, find?_updateEntry_of_ne hother, h.others other hother]
  · have hreplaces : (Value.text text).Replaces := fun _ => nofun
    rw [find?_updateEntry_self, hreplaces.merge_eq]

theorem mergeEntries (h : Restates text first second) (given : List (String × Value)) :
    Restates text (mergeEntries given first) (mergeEntries (restateIn text given) second) := by
  induction given generalizing first second with
  | nil => exact h
  | cons entry given ih =>
    obtain ⟨name, value⟩ := entry
    simp only [restateIn, List.map_cons, Configuration.mergeEntries]
    by_cases hname : name = Setting.issuer.name
    · rw [if_pos hname, hname]
      exact ih (h.updateEntry_issuer value)
    · rw [if_neg hname]
      exact ih (h.updateEntry_other hname _)

end Restates

/-! ## Configurations that differ in the issuer -/

/-- What a configuration holds about tokens by name. -/
def tokens (root : Value) : List (String × Value) :=
  ((find? Setting.issuer.sectionName root.entries).getD .empty).entries

/-- Two configurations that differ in the issuer only, with a table about tokens in both of them or
in none. -/
structure Parallel (text : String) (first second : Value) : Prop where
  others : ∀ name, name ≠ Setting.issuer.sectionName →
    find? name second.entries = find? name first.entries
  tokens : Restates text (tokens first) (tokens second)
  tables : (find? Setting.issuer.sectionName first.entries = none ∧
      find? Setting.issuer.sectionName second.entries = none) ∨
    IsTable Setting.issuer.sectionName first ∧ IsTable Setting.issuer.sectionName second

namespace Parallel

variable {first second : Value}

theorem empty : Parallel text (.table []) (.table []) :=
  ⟨fun _ _ => rfl, .nil, .inl ⟨rfl, rfl⟩⟩

/-- The same change of another section. -/
theorem updateEntry_other (h : Parallel text first second) {name : String}
    (hname : name ≠ Setting.issuer.sectionName) (change : Value → Value) :
    Parallel text (.table (updateEntry name change first.entries))
      (.table (updateEntry name change second.entries)) := by
  have hsection : ∀ root : Value, find? Setting.issuer.sectionName
      (Value.table (updateEntry name change root.entries)).entries =
        find? Setting.issuer.sectionName root.entries :=
    fun root => find?_updateEntry_of_ne hname.symm
  refine ⟨fun other hother => ?_, ?_, ?_⟩
  · rw [Value.entries, Value.entries, find?_updateEntry, find?_updateEntry, h.others name hname,
      h.others other hother]
  · rw [Sources.tokens, Sources.tokens, hsection, hsection]
    exact h.tokens
  · simp only [IsTable, hsection]
    exact h.tables

/-- Changes of the tables about tokens that keep them different in the issuer only. -/
theorem updateEntry_tokens (h : Parallel text first second)
    {change change' : List (String × Value) → List (String × Value)}
    (hchange : Restates text (change (Sources.tokens first)) (change' (Sources.tokens second))) :
    Parallel text
      (.table (updateEntry Setting.issuer.sectionName (fun value => .table (change value.entries))
        first.entries))
      (.table (updateEntry Setting.issuer.sectionName (fun value => .table (change' value.entries))
        second.entries)) := by
  refine ⟨fun other hother => ?_, ?_, .inr ⟨?_, ?_⟩⟩
  · rw [Value.entries, Value.entries, find?_updateEntry_of_ne hother,
      find?_updateEntry_of_ne hother, h.others other hother]
  · simpa [Sources.tokens, Value.entries] using hchange
  · exact ⟨_, find?_updateEntry_self⟩
  · exact ⟨_, find?_updateEntry_self⟩

/-- One more value in the section about tokens of both configurations. -/
theorem set_tokens (h : Parallel text first second) {rest : Path} {value : Value}
    (hname : IsByName (.key Setting.issuer.sectionName :: rest) value) :
    Parallel text (set (.key Setting.issuer.sectionName :: rest) value first)
      (set (.key Setting.issuer.sectionName :: rest)
        (restateAt text (.key Setting.issuer.sectionName :: rest) value) second) := by
  match rest, hname with
  | [], hname =>
    obtain ⟨given, rfl⟩ := hname rfl
    rw [restateAt_section]
    exact h.updateEntry_tokens (h.tokens.mergeEntries given)
  | .index position :: rest, hname => exact absurd rfl hname
  | .key name :: rest, _ =>
    by_cases hissuer : name = Setting.issuer.name
    · subst hissuer
      cases rest with
      | nil =>
        rw [restateAt_issuer]
        exact h.updateEntry_tokens (h.tokens.updateEntry_issuer value)
      | cons step rest =>
        -- what has parts is not a text
        rw [restateAt_of_ne (by simp [sectionPlace]) (by simp [issuerPlace])]
        refine h.updateEntry_tokens (h.tokens.updateEntry_within fun _ => ?_)
        cases step <;> rfl
    · rw [restateAt_of_ne (by simp [sectionPlace]) (by simp [issuerPlace, hissuer])]
      exact h.updateEntry_tokens (h.tokens.updateEntry_other hissuer _)

/-- One more value in both configurations, with the text for the issuer in the second one. -/
theorem set (h : Parallel text first second) {table : String} {rest : Path} {value : Value}
    (hname : IsByName (.key table :: rest) value) :
    Parallel text (set (.key table :: rest) value first)
      (set (.key table :: rest) (restateAt text (.key table :: rest) value) second) := by
  by_cases htable : table = Setting.issuer.sectionName
  · subst htable
    exact h.set_tokens hname
  · rw [restateAt_of_ne (by simp [sectionPlace, htable]) (by simp [issuerPlace, htable])]
    exact h.updateEntry_other htable _

theorem overlay (h : Parallel text first second) {entries : List (String × Value)}
    (hentries : ∀ entry ∈ entries, IsByName (placeOf entry.1) entry.2) :
    Parallel text (overlay entries first) (overlay (restate text entries) second) := by
  induction entries generalizing first second with
  | nil => exact h
  | cons entry entries ih =>
    rw [List.forall_mem_cons] at hentries
    obtain ⟨table, rest, hplace⟩ := exists_placeOf_eq_cons entry.1
    have hset := h.set (hplace ▸ hentries.1)
    rw [← hplace] at hset
    exact ih hset hentries.2

/-- There is a table about tokens if settings can be read. -/
theorem isTable (h : Parallel text first second) {settings : Settings}
    (hread : ∀ setting : Setting,
      (setting.value? first).bind setting.read? = some (setting.get settings)) :
    IsTable Setting.issuer.sectionName first ∧ IsTable Setting.issuer.sectionName second := by
  refine h.tables.resolve_left fun hnone => ?_
  have hissuer := hread .issuer
  rw [Setting.value?, Setting.section?, hnone.1] at hissuer
  cases hissuer

/-- Settings that are read from the first configuration are read from the second one, with the text
for their issuer. -/
theorem read (h : Parallel text first second) {settings : Settings}
    (hread : ∀ setting : Setting,
      (setting.value? first).bind setting.read? = some (setting.get settings)) (setting : Setting) :
    (setting.value? second).bind setting.read? =
      some (setting.get { settings with issuer := text }) := by
  have htables := h.isTable hread
  have hfirst := hread setting
  cases setting with
  | issuer =>
    rw [htables.1.value?_eq, Option.bind_some] at hfirst
    rw [htables.2.value?_eq, Option.bind_some]
    have hgiven : ((Setting.issuer.found? first).bind Value.asText?).isSome = true := by
      cases hfound : Setting.issuer.found? first with
      | none =>
        rw [hfound] at hfirst
        cases hfirst
      | some value =>
        rw [hfound] at hfirst
        exact Option.isSome_iff_exists.mpr ⟨_, hfirst⟩
    have hfound : Setting.issuer.found? second = some (.text text) := h.tokens.issuer hgiven
    rw [hfound]
    rfl
  | lifetime =>
    have hlifetime : IsTable Setting.lifetime.sectionName first ∧
        IsTable Setting.lifetime.sectionName second := htables
    have hfound : Setting.lifetime.found? second = Setting.lifetime.found? first :=
      h.tokens.others _ (by decide)
    rw [hlifetime.1.value?_eq, Option.bind_some] at hfirst
    rw [hlifetime.2.value?_eq, Option.bind_some, hfound, hfirst]
    rfl
  | components | binding | bodyless | logLevel =>
    rw [Setting.value?_congr (h.others _ (by decide)), hfirst]
    rfl

end Parallel

end Sources

/-! ## Loading -/

namespace Settings

open Sources

variable {document restated : String} {entries : List (String × Value)} {settings : Settings}
  {text : String}

/-- Settings with another issuer are complete if that issuer is not empty. -/
theorem isComplete_with_issuer (h : settings.isComplete = true) {issuer : String}
    (hissuer : issuer ≠ "") : { settings with issuer := issuer }.isComplete = true := by
  obtain ⟨-, hlifetime, hcomponents⟩ := isComplete_iff.mp h
  exact isComplete_iff.mpr ⟨hissuer, hlifetime, hcomponents⟩

/-- Settings that load from a document are read from its entries. -/
theorem ofConfiguration?_of_load (hread : Document.read? document = some entries)
    (hload : load document [] = .ok settings) :
    ofConfiguration? (overlay entries (.table [])) = some settings ∧
      settings.isComplete = true := by
  obtain ⟨root, hroot, hsettings, hcomplete⟩ := load_eq_ok_iff.mp hload
  rw [configuration?, hread] at hroot
  obtain rfl : overlay entries (.table []) = root := Option.some.inj hroot
  exact ⟨hsettings, hcomplete⟩

/-- A document with another issuer leads to the settings with that issuer. -/
theorem load_restated (hread : Document.read? document = some entries)
    (hentries : ∀ entry ∈ entries, IsByName (placeOf entry.1) entry.2)
    (hrestated : Document.read? restated = some (restate text entries))
    (hload : load document [] = .ok settings) (htext : text ≠ "") :
    load restated [] = .ok { settings with issuer := text } := by
  obtain ⟨hsettings, hcomplete⟩ := ofConfiguration?_of_load hread hload
  have hconfiguration : configuration? restated [] =
      some (overlay (restate text entries) (.table [])) := by
    rw [configuration?, hrestated]
    rfl
  have hparallel : Parallel text _ _ := Parallel.empty.overlay hentries
  exact load_eq_ok_iff.mpr ⟨_, hconfiguration,
    ofConfiguration?_eq_some_iff.mpr (hparallel.read (ofConfiguration?_eq_some_iff.mp hsettings)),
    isComplete_with_issuer hcomplete htext⟩

/-- The variable of the issuer leads to the settings with what is left of its text. -/
theorem load_overridden (hread : Document.read? document = some entries)
    (hentries : ∀ entry ∈ entries, IsByName (placeOf entry.1) entry.2)
    (hload : load document [] = .ok settings) (htext : text ≠ "") :
    load document [(Setting.issuer.variableName, text)] =
      .ok { settings with issuer := Environment.settle text } := by
  obtain ⟨hsettings, hcomplete⟩ := ofConfiguration?_of_load hread hload
  rw [ofConfiguration?_eq_some_iff] at hsettings
  have hparallel : Parallel text _ _ := Parallel.empty.overlay hentries
  have hconfiguration : configuration? document [(Setting.issuer.variableName, text)] =
      some (overlay (Environment.overrides [(Setting.issuer.variableName, text)])
        (overlay entries (.table []))) := by
    rw [configuration?, hread]
    rfl
  have hoverrides : Overrides [(Setting.issuer.variableName, text)] := Overrides.nil.cons rfl text
  refine load_eq_ok_iff.mpr ⟨_, hconfiguration, ofConfiguration?_eq_some_iff.mpr fun setting => ?_,
    isComplete_with_issuer hcomplete (Environment.settle_ne_empty htext)⟩
  have hsetting := hsettings setting
  have htouches : ∀ name, Overrides.Touches [(Setting.issuer.variableName, text)] name ↔
      Setting.issuer.sectionName = name := Overrides.touches_singleton .issuer text
  cases setting with
  | issuer =>
    rw [hoverrides.value?_of_text? (Setting.text?_singleton .issuer .issuer text)]
    exact Setting.asText?_said_issuer text
  | lifetime =>
    have htable : IsTable Setting.lifetime.sectionName _ := (hparallel.isTable hsettings).1
    have hnone : Setting.lifetime.text? [(Setting.issuer.variableName, text)] = none :=
      Setting.text?_singleton .lifetime .issuer text
    rw [hoverrides.value?_of_touches ((htouches Setting.lifetime.sectionName).mpr rfl), hnone,
      Option.map_none, Option.none_or, ← htable.value?_eq, hsetting]
    rfl
  | components | binding | bodyless | logLevel =>
    rw [hoverrides.value?_of_not_touches fun h => absurd ((htouches _).mp h) (by decide), hsetting]
    rfl

/-- One issuer from two sources. A document with another issuer and the document under the variable
of the issuer lead to the same settings up to the issuer, which is the text itself from the document
and what is left of it from the variable. So they agree exactly for the texts of which all is left,
as it is of any text that looks neither like a truth value nor like a number. -/
theorem load_sources (hread : Document.read? document = some entries)
    (hentries : ∀ entry ∈ entries, IsByName (placeOf entry.1) entry.2)
    (hrestated : Document.read? restated = some (restate text entries))
    (hload : load document [] = .ok settings) (htext : text ≠ "") :
    load restated [] = .ok { settings with issuer := text } ∧
      load document [(Setting.issuer.variableName, text)] =
        .ok { settings with issuer := Environment.settle text } ∧
      (load restated [] = load document [(Setting.issuer.variableName, text)] ↔
        Environment.settle text = text) ∧
      (Environment.readBool? text.toList = none → Environment.readInteger? text.toList = none →
        Environment.readFloat? text.toList = none → Environment.settle text = text) := by
  have hfirst := load_restated hread hentries hrestated hload htext
  have hsecond := load_overridden hread hentries hload htext
  refine ⟨hfirst, hsecond, ?_, Environment.settle_eq_self⟩
  rw [hfirst, hsecond, Except.ok.injEq]
  constructor
  · intro h
    exact (congrArg Settings.issuer h).symm
  · intro h
    rw [h]

/-- A document with an issuer and a lifetime. -/
def issuedBy (issuer : String) : String := "[token]\nissuer = '" ++ issuer ++ "'\nttl_secs = 5"

/-- An issuer that is a text comes back as it is from both sources. -/
theorem load_issuedBy :
    load (issuedBy "https://j") [] =
        load (issuedBy "i") [(Setting.issuer.variableName, "https://j")] ∧
      load (issuedBy "https://j") [] =
        .ok ⟨"https://j", 5, standardComponents, true, true, standardLogLevel⟩ := by
  have hentries : Document.read? (issuedBy "i") =
      some [("token", .table [("issuer", .text "i"), ("ttl_secs", .integer 5)])] := by
    decide +kernel
  have hload : load (issuedBy "i") [] =
      .ok ⟨"i", 5, standardComponents, true, true, standardLogLevel⟩ := by decide +kernel
  obtain ⟨hdocument, -, hiff, hsettle⟩ :=
    @load_sources (issuedBy "i") (issuedBy "https://j") _ _ "https://j" hentries
      (by simp [IsByName, show placeOf "token" = [.key "token"] by decide]) (by decide +kernel)
      hload (by decide)
  exact ⟨hiff.mpr (hsettle (by decide +kernel) (by decide +kernel) (by decide +kernel)), hdocument⟩

/-- The sources do not agree on all documents and texts. A variable loses the leading zeros of a
text that looks like a number. Even with a text that is left as it is, it makes a table of the
section about tokens, in which a lifetime that was given by position is missing. -/
theorem not_forall_load_restated_eq :
    (¬ ∀ (document restated : String) (entries : List (String × Value)) (settings : Settings)
      (text : String), Document.read? document = some entries →
      Document.read? restated = some (restate text entries) → load document [] = .ok settings →
      text ≠ "" → '\x00' ∉ text.toList →
      load restated [] = load document [(Setting.issuer.variableName, text)]) ∧
    ¬ ∀ (document restated : String) (entries : List (String × Value)) (settings : Settings)
      (text : String), Document.read? document = some entries →
      Document.read? restated = some (restate text entries) → load document [] = .ok settings →
      text ≠ "" → '\x00' ∉ text.toList → Environment.settle text = text →
      load restated [] = load document [(Setting.issuer.variableName, text)] := by
  constructor
  · intro hsame
    have hentries : Document.read? (issuedBy "i") =
        some [("token", .table [("issuer", .text "i"), ("ttl_secs", .integer 5)])] := by
      decide +kernel
    have hload : load (issuedBy "i") [] =
        .ok ⟨"i", 5, standardComponents, true, true, standardLogLevel⟩ := by decide +kernel
    have hdifferent : load (issuedBy "007") [] ≠
        load (issuedBy "i") [(Setting.issuer.variableName, "007")] := by decide +kernel
    exact hdifferent (hsame _ _ _ _ "007" hentries (by decide +kernel) hload (by decide)
      (by decide))
  · intro hsame
    have hentries : Document.read? "token = ['i', 5]" =
        some [("token", .list [.text "i", .integer 5])] := by decide +kernel
    have hload : load "token = ['i', 5]" [] =
        .ok ⟨"i", 5, standardComponents, true, true, standardLogLevel⟩ := by decide +kernel
    have hdifferent : load "token = ['j', 5]" [] ≠
        load "token = ['i', 5]" [(Setting.issuer.variableName, "j")] := by decide +kernel
    exact hdifferent (hsame _ _ _ _ "j" hentries (by decide +kernel) hload (by decide) (by decide)
      (by decide +kernel))

end Settings

end Possession

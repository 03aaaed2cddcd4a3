import Possession.Proofs.StructuredField
import Possession.Proofs.Text
import Possession.Proofs.Text.Words
import Possession.Signature.Header

/-!
# What is an inner list

One scan follows strings and escapes to the closing parenthesis; another separates items at blank
characters and knows nothing of strings. An item that ends in an odd number of backslashes escapes
its closing quote, and then the first scan finds no end of the list.
-/

namespace Possession.Signature

open StructuredField

/-! ## Lists of components -/

/-- A component between quotes, as it stands in a list. -/
def quoted (component : String) : List Char := '"' :: component.toList ++ ['"']

theorem mem_quoted_iff {component : String} {c : Char} :
    c ∈ quoted component ↔ c = '"' ∨ c ∈ component.toList := by
  simp only [quoted, List.mem_append, List.mem_cons, List.not_mem_nil, or_false]
  constructor
  · rintro ((hquote | hname) | hquote)
    · exact .inl hquote
    · exact .inr hname
    · exact .inl hquote
  · exact .inl

/-- The components of a list, as they stand between the parentheses. -/
def itemsText (components : List String) : List Char := [' '].intercalate (components.map quoted)

theorem toList_serialize (params : Params) :
    params.serialize.toList =
      '(' :: itemsText params.components ++ ')' :: params.parameters.toList := by
  have hquote (component : String) : (Params.quote component).toList = quoted component := by
    simp [Params.quote, quoted]
  simp [Params.serialize, itemsText, String.toList_intercalate, hquote, Function.comp_def]

/-! ## The grammar -/

/-- Whether a name can be read out of an item. -/
structure IsPlain (name : String) : Prop where
  ne_empty : name ≠ ""
  quote : '"' ∉ name.toList
  lower : ∀ c ∈ name.toList, Text.isAsciiUpper c = false

/-- Whether a list can name a component. -/
structure IsListed (name : String) : Prop extends IsPlain name where
  blank : ∀ c ∈ name.toList, Text.isAsciiBlank c = false
  /-- The quote after the name is not escaped. -/
  closes : trailingBackslashes name.toList % 2 = 0

/-- Whether a text is an inner list of the given names, with `items` between the parentheses and
`rest` behind them. -/
structure IsInnerList (text items rest : List Char) (names : List String) : Prop where
  text_eq : text = '(' :: items ++ ')' :: rest
  spaced : Text.Spaced Text.isAsciiBlank items (names.map quoted)
  listed : ∀ name ∈ names, IsListed name
  nodup : names.Nodup
  /-- Nothing but parameters follows. -/
  parameters : Text.trim rest = [] ∨ ∃ more, Text.trim rest = ';' :: more

/-! ## Items -/

theorem unquote?_eq_some_iff {item name : List Char} :
    unquote? item = some name ↔
      item = quoted (String.ofList name) ∧ name ≠ [] ∧ '"' ∉ name := by
  have hquoted : quoted (String.ofList name) = ['"'] ++ (name ++ ['"']) := by simp [quoted]
  simp only [unquote?, Option.bind_eq_bind, Option.bind_eq_some_iff, Text.after?_eq_some_iff,
    Text.before?_eq_some_iff]
  constructor
  · rintro ⟨_, rfl, inside, rfl, hname⟩
    split at hname
    · cases hname
    · next hplain =>
      obtain rfl := Option.some.inj hname
      exact ⟨hquoted.symm, by simpa using hplain⟩
  · rintro ⟨rfl, hne, hquote⟩
    exact ⟨name ++ ['"'], hquoted, name, rfl, by simp [hne, hquote]⟩

theorem unquote?_quoted {name : String} (h : IsPlain name) :
    unquote? (quoted name) = some name.toList :=
  unquote?_eq_some_iff.mpr ⟨by rw [String.ofList_toList], by simpa using h.ne_empty, h.quote⟩

/-- An item is read as the name between its quotes, if that is none of the earlier ones. -/
theorem readComponents_cons_eq_ok_iff {earlier components : List String} {item : List Char}
    {rest : List (List Char)} :
    readComponents earlier (item :: rest) = .ok components ↔
      ∃ name others, components = name :: others ∧ item = quoted name ∧ IsPlain name ∧
        name ∉ earlier ∧ readComponents (earlier ++ [name]) rest = .ok others := by
  rw [readComponents]
  constructor
  · intro h
    cases hitem : unquote? item with
    | none => simp [hitem] at h
    | some inside =>
      obtain ⟨hquoted, hne, hquote⟩ := unquote?_eq_some_iff.mp hitem
      simp only [hitem] at h
      split at h
      · cases h
      · next hlower =>
        split at h
        · cases h
        · next hnew =>
          obtain ⟨others, hrest, rfl⟩ := Outcome.map_eq_ok_iff.mp h
          exact ⟨String.ofList inside, others, rfl, hquoted,
            ⟨by simpa using hne, by simpa using hquote, by simpa using hlower⟩,
            by simpa using hnew, hrest⟩
  · rintro ⟨name, others, rfl, rfl, hname, hnew, hrest⟩
    have hlower : name.toList.any Text.isAsciiUpper = false := by simpa using hname.lower
    have hearlier : earlier.contains name = false := by simpa using hnew
    simp only [unquote?_quoted hname, hlower, String.ofList_toList, hearlier, hrest]
    rfl

/-- Items are read as the names between their quotes, if no two are the same. -/
theorem readComponents_eq_ok_iff {earlier components : List String} {items : List (List Char)}
    (hearlier : earlier.Nodup) :
    readComponents earlier items = .ok components ↔
      items = components.map quoted ∧ (earlier ++ components).Nodup ∧
        ∀ name ∈ components, IsPlain name := by
  induction items generalizing earlier components with
  | nil =>
    constructor
    · rintro ⟨⟩
      exact ⟨rfl, by simpa using hearlier, nofun⟩
    · rintro ⟨hitems, -, -⟩
      obtain rfl := List.map_eq_nil_iff.mp hitems.symm
      rfl
  | cons item rest ih =>
    rw [readComponents_cons_eq_ok_iff]
    constructor
    · rintro ⟨name, others, rfl, rfl, hname, hnew, hrest⟩
      have hextended : (earlier ++ [name]).Nodup := by
        simpa [List.nodup_append, hearlier] using
          fun other hother => ne_of_mem_of_not_mem hother hnew
      obtain ⟨rfl, hnodup, hplain⟩ := (ih hextended).mp hrest
      exact ⟨rfl, by simpa using hnodup, List.forall_mem_cons.mpr ⟨hname, hplain⟩⟩
    · rintro ⟨hitems, hnodup, hplain⟩
      obtain ⟨name, others, rfl, rfl, rfl⟩ := List.map_eq_cons_iff.mp hitems.symm
      obtain ⟨hname, hothers⟩ := List.forall_mem_cons.mp hplain
      have hnew : name ∉ earlier :=
        fun hmem => (List.nodup_append.mp hnodup).2.2 name hmem name (by simp) rfl
      rw [List.append_cons] at hnodup
      have hextended := hnodup.sublist (List.sublist_append_left _ _)
      exact ⟨name, others, rfl, rfl, hname, hnew, (ih hextended).mpr ⟨rfl, hnodup, hothers⟩⟩

/-! ## Scanning the items -/

theorem foldl_outside_quoted {name : String} (h : '"' ∉ name.toList) :
    (quoted name).foldl Quoting.step .outside =
      if trailingBackslashes name.toList % 2 = 0 then .outside else .quoted := by
  have hopened : Quoting.step .outside '"' = .quoted := rfl
  rw [quoted, List.cons_append, List.foldl_cons, hopened, List.foldl_append, foldl_quoted h]
  split <;> rfl

/-- Inside a string, the first quote of an item closes it and the second opens another. -/
theorem foldl_quoted_quoted {name : String} (h : '"' ∉ name.toList) :
    (quoted name).foldl Quoting.step .quoted = .quoted := by
  have hclosed : Quoting.step .quoted '"' = .outside := rfl
  rw [quoted, List.cons_append, List.foldl_cons, hclosed, List.foldl_append, foldl_outside h]
  rfl

theorem hides_quoted_quoted {name : String} (h : '"' ∉ name.toList) :
    Hides ')' .outside (quoted name) := by
  have hquote : Hides ')' (name.toList.foldl Quoting.step .quoted) ['"'] :=
    hides_of_notMem (by decide) _
  exact hides_cons_iff.mpr ⟨by decide, (hides_quoted h ')').append hquote⟩

theorem foldl_blanks {gap : List Char} (h : ∀ c ∈ gap, Text.isAsciiBlank c = true)
    {quoting : Quoting} (hquoting : quoting ≠ .escaped) :
    gap.foldl Quoting.step quoting = quoting := by
  refine foldl_eq_self fun c hc => ?_
  have hquote : c ≠ '"' := Text.ne_of_apply (h c hc) (by decide)
  have hescape : c ≠ '\\' := Text.ne_of_apply (h c hc) (by decide)
  cases quoting <;> simp [Quoting.step, hquote, hescape] at hquoting ⊢

section

variable {names : List String} {items : List Char}

/-- A scan that is inside a string before the items is inside one behind them. -/
theorem foldl_quoted_items (h : Text.Spaced Text.isAsciiBlank items (names.map quoted))
    (hquote : ∀ name ∈ names, '"' ∉ name.toList) : items.foldl Quoting.step .quoted = .quoted := by
  induction names generalizing items with
  | nil =>
    cases h with
    | nil hgap => exact foldl_blanks hgap (by decide)
  | cons name others ih =>
    obtain ⟨hname, hothers⟩ := List.forall_mem_cons.mp hquote
    rw [List.map_cons] at h
    cases h with
    | cons hgap _ hrest =>
      rw [List.foldl_append, List.foldl_append, foldl_blanks hgap (by decide),
        foldl_quoted_quoted hname, ih hrest hothers]

/-- The scan of the items ends outside of strings if every item closes the string that it opens. -/
theorem foldl_outside_items_iff (h : Text.Spaced Text.isAsciiBlank items (names.map quoted))
    (hquote : ∀ name ∈ names, '"' ∉ name.toList) :
    items.foldl Quoting.step .outside = .outside ↔
      ∀ name ∈ names, trailingBackslashes name.toList % 2 = 0 := by
  induction names generalizing items with
  | nil =>
    cases h with
    | nil hgap => simp [foldl_blanks hgap]
  | cons name others ih =>
    obtain ⟨hname, hothers⟩ := List.forall_mem_cons.mp hquote
    rw [List.map_cons] at h
    cases h with
    | cons hgap _ hrest =>
      rw [List.foldl_append, List.foldl_append, foldl_blanks hgap (by decide),
        foldl_outside_quoted hname, List.forall_mem_cons]
      by_cases heven : trailingBackslashes name.toList % 2 = 0
      · simp [heven, ih hrest hothers]
      · simp [heven, foldl_quoted_items hrest hothers]

/-- Items that close their strings hide the parentheses of their names. -/
theorem hides_items (h : Text.Spaced Text.isAsciiBlank items (names.map quoted))
    (hquote : ∀ name ∈ names, '"' ∉ name.toList)
    (hcloses : ∀ name ∈ names, trailingBackslashes name.toList % 2 = 0) :
    Hides ')' .outside items := by
  have hblanks {gap : List Char} (hgap : ∀ c ∈ gap, Text.isAsciiBlank c = true) :
      Hides ')' .outside gap :=
    hides_of_notMem (fun hmem => Text.ne_of_apply (hgap _ hmem) (by decide) rfl) _
  induction names generalizing items with
  | nil =>
    cases h with
    | nil hgap => exact hblanks hgap
  | cons name others ih =>
    obtain ⟨hname, hothers⟩ := List.forall_mem_cons.mp hquote
    obtain ⟨heven, hcloses'⟩ := List.forall_mem_cons.mp hcloses
    rw [List.map_cons] at h
    cases h with
    | cons hgap _ hrest =>
      refine ((hblanks hgap).append ?_).append ?_
      · rw [foldl_blanks hgap (by decide)]
        exact hides_quoted_quoted hname
      · rw [List.foldl_append, foldl_blanks hgap (by decide), foldl_outside_quoted hname,
          if_pos heven]
        exact ih hrest hothers hcloses'

/-- The list of items ends at the parenthesis behind them if every item closes its string. -/
theorem cutAtUnquoted?_items_iff (h : Text.Spaced Text.isAsciiBlank items (names.map quoted))
    (hquote : ∀ name ∈ names, '"' ∉ name.toList) (rest : List Char) :
    cutAtUnquoted? ')' (items ++ ')' :: rest) = some (items, rest) ↔
      ∀ name ∈ names, trailingBackslashes name.toList % 2 = 0 := by
  rw [cutAtUnquoted?, cutFrom?_eq_some_iff, foldl_outside_items_iff h hquote]
  exact ⟨fun hcut => hcut.2.2, fun hcloses => ⟨rfl, hides_items h hquote hcloses, hcloses⟩⟩

end

/-! ## The list -/

theorem isWord_quoted {name : String} (h : ∀ c ∈ name.toList, Text.isAsciiBlank c = false) :
    Text.IsWord Text.isAsciiBlank (quoted name) := by
  refine ⟨by simp [quoted], fun c hc => ?_⟩
  rcases mem_quoted_iff.mp hc with rfl | hname
  · decide
  · exact h c hname

theorem isWord_of_isListed {names : List String} (h : ∀ name ∈ names, IsListed name) :
    ∀ item ∈ names.map quoted, Text.IsWord Text.isAsciiBlank item := by
  intro item hitem
  obtain ⟨name, hname, rfl⟩ := List.mem_map.mp hitem
  exact isWord_quoted (h name hname).blank

/-- Nothing but parameters may follow a list. -/
theorem trailing_eq_false_iff {parameters : List Char} :
    (!parameters.isEmpty && (Text.after? [';'] parameters).isNone) = false ↔
      parameters = [] ∨ ∃ more, parameters = ';' :: more := by
  cases parameters with
  | nil => simp
  | cons c more => by_cases hc : c = ';' <;> simp [Text.after?, hc, Ne.symm]

/-- The two scans agree on what the items are. -/
theorem cut_and_readComponents_iff {items rest : List Char} {names : List String} :
    cutAtUnquoted? ')' (items ++ ')' :: rest) = some (items, rest) ∧
        readComponents [] (Text.words Text.isAsciiBlank items) = .ok names ↔
      Text.Spaced Text.isAsciiBlank items (names.map quoted) ∧
        (∀ name ∈ names, IsListed name) ∧ names.Nodup := by
  rw [readComponents_eq_ok_iff .nil, List.nil_append]
  constructor
  · rintro ⟨hcut, hwords, hnodup, hplain⟩
    obtain ⟨hspaced, hisWord⟩ := Text.words_eq_iff.mp hwords
    have hcloses :=
      (cutAtUnquoted?_items_iff hspaced (fun name hname => (hplain name hname).quote) rest).mp hcut
    refine ⟨hspaced, fun name hname => ?_, hnodup⟩
    have hchars := (hisWord (quoted name) (List.mem_map_of_mem hname)).2
    exact ⟨hplain name hname, fun c hc => hchars c (mem_quoted_iff.mpr (.inr hc)),
      hcloses name hname⟩
  · rintro ⟨hspaced, hlisted, hnodup⟩
    have hcut :=
      (cutAtUnquoted?_items_iff hspaced (fun name hname => (hlisted name hname).quote) rest).mpr
        fun name hname => (hlisted name hname).closes
    exact ⟨hcut, hspaced.words_eq (isWord_of_isListed hlisted), hnodup,
      fun name hname => (hlisted name hname).toIsPlain⟩

/-- A list is read if it begins with a parenthesis, the scan finds its end, nothing but parameters
follows and the items are components. -/
theorem readInnerList_eq_ok_iff_stages {label : String} {value : List Char} {params : Params} :
    readInnerList label value = .ok params ↔
      params.label = label ∧ ∃ items rest, value = '(' :: items ++ ')' :: rest ∧
        (Text.trim rest = [] ∨ ∃ more, Text.trim rest = ';' :: more) ∧
        (cutAtUnquoted? ')' (items ++ ')' :: rest) = some (items, rest) ∧
          readComponents [] (Text.words Text.isAsciiBlank items) = .ok params.components) ∧
        params.parameters.toList = Text.trim rest := by
  constructor
  · intro h
    rw [readInnerList] at h
    cases hopened : Text.after? ['('] value with
    | none => simp [hopened] at h
    | some inner =>
      cases hcut : cutAtUnquoted? ')' inner with
      | none => simp [hopened, hcut] at h
      | some parts =>
        obtain ⟨items, rest⟩ := parts
        simp only [hopened, hcut] at h
        split at h
        · cases h
        · next htrailing =>
          obtain ⟨components, hread, rfl⟩ := Outcome.map_eq_ok_iff.mp h
          obtain rfl := Text.after?_eq_some_iff.mp hopened
          obtain ⟨rfl, -, -⟩ := cutFrom?_eq_some_iff.mp hcut
          rw [Bool.not_eq_true, trailing_eq_false_iff] at htrailing
          exact ⟨rfl, items, rest, rfl, htrailing, ⟨hcut, hread⟩, String.toList_ofList⟩
  · rintro ⟨rfl, items, rest, rfl, htrailing, ⟨hcut, hread⟩, hparameters⟩
    have hopened : Text.after? ['('] ('(' :: items ++ ')' :: rest) = some (items ++ ')' :: rest) :=
      Text.after?_append ['('] _
    simp only [readInnerList, hopened, hcut, trailing_eq_false_iff.mpr htrailing, hread]
    simp [Except.map, ← hparameters]

/-- What is read as an inner list. -/
theorem readInnerList_eq_ok_iff {label : String} {value : List Char} {params : Params} :
    readInnerList label value = .ok params ↔
      params.label = label ∧ ∃ items rest, IsInnerList value items rest params.components ∧
        params.parameters.toList = Text.trim rest := by
  simp only [readInnerList_eq_ok_iff_stages, cut_and_readComponents_iff]
  constructor
  · rintro ⟨hlabel, items, rest, htext, htrailing, ⟨hspaced, hlisted, hnodup⟩, hparameters⟩
    exact ⟨hlabel, items, rest, ⟨htext, hspaced, hlisted, hnodup, htrailing⟩, hparameters⟩
  · rintro ⟨hlabel, items, rest, ⟨htext, hspaced, hlisted, hnodup, htrailing⟩, hparameters⟩
    exact ⟨hlabel, items, rest, htext, htrailing, ⟨hspaced, hlisted, hnodup⟩, hparameters⟩

/-! ## Writing the list again -/

/-- What is written is a list of the same names and parameters. -/
theorem isInnerList_serialize {params : Params}
    (hlisted : ∀ component ∈ params.components, IsListed component)
    (hnodup : params.components.Nodup)
    (hbegins : Text.trim params.parameters.toList = [] ∨
      ∃ more, Text.trim params.parameters.toList = ';' :: more) :
    IsInnerList params.serialize.toList (itemsText params.components) params.parameters.toList
      params.components where
  text_eq := toList_serialize params
  spaced := Text.spaced_intercalate (by decide) _
  listed := hlisted
  nodup := hnodup
  parameters := hbegins

/-- What is read out of a list makes a list again. -/
theorem IsInnerList.serialize {value items rest : List Char} {params : Params}
    (h : IsInnerList value items rest params.components)
    (hparameters : params.parameters.toList = Text.trim rest) :
    IsInnerList params.serialize.toList (itemsText params.components) params.parameters.toList
      params.components := by
  refine isInnerList_serialize h.listed h.nodup ?_
  rw [hparameters, Text.trim_trim]
  exact h.parameters

theorem readInnerList_serialize_of_readInnerList {label : String} {value : List Char}
    {params : Params} (h : readInnerList label value = .ok params) :
    readInnerList label params.serialize.toList = .ok params := by
  obtain ⟨hlabel, items, rest, hlist, hparameters⟩ := readInnerList_eq_ok_iff.mp h
  have htrim : Text.trim params.parameters.toList = params.parameters.toList := by
    rw [hparameters, Text.trim_trim]
  exact readInnerList_eq_ok_iff.mpr ⟨hlabel, _, _, hlist.serialize hparameters, htrim.symm⟩

/-- The scan finds the end of a list. -/
theorem IsInnerList.cut {text items rest : List Char} {names : List String}
    (h : IsInnerList text items rest names) :
    (Text.after? ['('] text).bind (cutAtUnquoted? ')') = some (items, rest) := by
  have hopened : Text.after? ['('] ('(' :: items ++ ')' :: rest) = some (items ++ ')' :: rest) :=
    Text.after?_append ['('] _
  rw [h.text_eq, hopened, Option.bind_some]
  exact (cut_and_readComponents_iff.mpr ⟨h.spaced, h.listed, h.nodup⟩).1

/-- A list is written as it was read exactly when single spaces separate its items and nothing is
around its parts. -/
theorem IsInnerList.serialize_eq_iff {value items rest : List Char} {params : Params}
    (h : IsInnerList value items rest params.components)
    (hparameters : params.parameters.toList = Text.trim rest) :
    params.serialize.toList = value ↔
      Text.IsSingleSpaced Text.isAsciiBlank ' ' items ∧ Text.trim rest = rest := by
  have hblank : Text.isAsciiBlank ' ' = true := by decide
  rw [← h.spaced.eq_intercalate_iff hblank (isWord_of_isListed h.listed)]
  constructor
  · intro hserialize
    have hwritten := (h.serialize hparameters).cut
    rw [hserialize, h.cut] at hwritten
    obtain ⟨hitems, hrest⟩ := Prod.mk.inj (Option.some.inj hwritten)
    exact ⟨hitems, by rw [← hparameters, ← hrest]⟩
  · rintro ⟨hitems, hrest⟩
    rw [toList_serialize, itemsText, ← hitems, hparameters, hrest, h.text_eq]

/-- The texts that are read as an inner list are those of the grammar, and what is read is their
names and their parameters without the blank characters around them. It can be written and read
again; what is written is the text itself if single spaces separate the names and no blank character
stands elsewhere. -/
theorem readInnerList_grammar (label : String) (value : List Char) :
    (∀ params, readInnerList label value = .ok params ↔
      params.label = label ∧ ∃ items rest, IsInnerList value items rest params.components ∧
        params.parameters.toList = Text.trim rest) ∧
    (∀ params, readInnerList label value = .ok params →
      readInnerList label params.serialize.toList = .ok params) ∧
    ∀ params items rest, readInnerList label value = .ok params →
      IsInnerList value items rest params.components →
      (params.serialize.toList = value ↔
        Text.IsSingleSpaced Text.isAsciiBlank ' ' items ∧ Text.trim rest = rest) := by
  refine ⟨fun _ => readInnerList_eq_ok_iff, fun _ => readInnerList_serialize_of_readInnerList,
    fun params items rest hread hlist => ?_⟩
  obtain ⟨-, items', rest', hlist', hparameters⟩ := readInnerList_eq_ok_iff.mp hread
  have hsame := hlist'.cut
  rw [hlist.cut] at hsame
  obtain ⟨-, rfl⟩ := Prod.mk.inj (Option.some.inj hsame)
  exact hlist.serialize_eq_iff hparameters

/-- Items with several kinds of blank characters around them, whose names hold a closing
parenthesis, a semicolon and two backslashes before the quote. -/
def sampleItems : List Char := "  \"a)\\\\\" \t\"b;c\" ".toList

def sampleRest : List Char := " ; keyid=\"k\" ".toList

/-- What is read out of the list of `sampleItems` before `sampleRest`. -/
def sampleListed : Params := ⟨"sig1", ["a)\\\\", "b;c"], "; keyid=\"k\""⟩

theorem readInnerList_sampleItems :
    readInnerList "sig1" ('(' :: sampleItems ++ ')' :: sampleRest) = .ok sampleListed ∧
      readInnerList "sig1" sampleListed.serialize.toList = .ok sampleListed ∧
      sampleListed.serialize.toList ≠ '(' :: sampleItems ++ ')' :: sampleRest := by
  obtain ⟨hread, hagain, hwritten⟩ :=
    readInnerList_grammar "sig1" ('(' :: sampleItems ++ ')' :: sampleRest)
  have hitems : cutAtUnquoted? ')' (sampleItems ++ ')' :: sampleRest) =
        some (sampleItems, sampleRest) ∧
      readComponents [] (Text.words Text.isAsciiBlank sampleItems) =
        .ok sampleListed.components := by
    constructor <;> rfl
  obtain ⟨hspaced, hlisted, hnodup⟩ := cut_and_readComponents_iff.mp hitems
  have hlist : IsInnerList ('(' :: sampleItems ++ ')' :: sampleRest) sampleItems sampleRest
      sampleListed.components := ⟨rfl, hspaced, hlisted, hnodup, .inr ⟨_, rfl⟩⟩
  have hok := (hread sampleListed).mpr ⟨rfl, _, _, hlist, rfl⟩
  refine ⟨hok, hagain sampleListed hok, fun hsame => ?_⟩
  have hhead := ((hwritten sampleListed _ _ hok hlist).mp hsame).1.head ' ' rfl
  cases hhead

end Possession.Signature

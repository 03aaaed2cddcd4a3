import Possession.Proofs.Settings

/-!
# Overrides

What is found for a setting is what its variable says or, without one, what the document says. A
variable has one more effect: it makes a table of its section, and `load_overrides` says that this
is the only way in which it reaches a neighbouring setting.
-/

namespace Possession

open Possession.Configuration

namespace Setting

/-! ## Variables -/

def variableName : Setting → String
  | issuer => "POP_AUTH__TOKEN__ISSUER"
  | lifetime => "POP_AUTH__TOKEN__TTL_SECS"
  | components => "POP_AUTH__SIGNATURE__REQUIRED_COMPONENTS"
  | binding => "POP_AUTH__SIGNATURE__ENFORCE_THUMBPRINT_BINDING"
  | bodyless => "POP_AUTH__SIGNATURE__ALLOW_BODYLESS_WITHOUT_DIGEST"
  | logLevel => "POP_AUTH__LOGGING__LEVEL"

/-- The name of a setting with that of its section. -/
def fullName (setting : Setting) : String := setting.sectionName ++ "." ++ setting.name

/-- What a variable says about its setting. -/
def said (setting : Setting) (text : String) : Value :=
  Environment.readValue setting.fullName text

variable {setting other : Setting}

theorem settingName?_variableName (setting : Setting) :
    Environment.settingName? setting.variableName = some setting.fullName := by
  cases setting <;> decide

theorem placeOf_fullName (setting : Setting) :
    placeOf setting.fullName = [.key setting.sectionName, .key setting.name] := by
  cases setting <;> decide

theorem variableName_inj : setting.variableName = other.variableName ↔ setting = other := by
  cases setting <;> cases other <;> decide

theorem eq_of_place (hsection : setting.sectionName = other.sectionName)
    (hname : setting.name = other.name) : setting = other := by
  cases setting <;> cases other <;> simp_all [sectionName, name]

/-- A variable never gives a table. -/
theorem said_replaces (setting : Setting) (text : String) : (setting.said text).Replaces := by
  intro entries
  rw [said, Environment.readValue]
  split
  · simp
  · simp
  · simp
  · split <;> simp

/-! ## What is found for a setting -/

/-- What is found under the name of a setting in its section. -/
def found? (setting : Setting) (root : Value) : Option Value :=
  Configuration.foundIn? setting.sectionName setting.name root

def put (setting : Setting) (value root : Value) : Value :=
  set [.key setting.sectionName, .key setting.name] value root

theorem found?_put {value : Value} (hvalue : value.Replaces) (root : Value) :
    setting.found? (other.put value root) =
      if setting = other then some value else setting.found? root := by
  rw [found?, put, foundIn?_set, hvalue.merge_eq]
  by_cases h : setting = other
  · simp [h]
  · rw [if_neg (fun hplace => h (eq_of_place hplace.1 hplace.2)), if_neg h, found?]

theorem find?_put_of_ne {name : String} (h : name ≠ setting.sectionName) (value root : Value) :
    find? name (setting.put value root).entries = find? name root.entries := by
  rw [put, find?_set, if_neg h]

end Setting

/-- Whether a configuration has a table of the given name. -/
def IsTable (name : String) (root : Value) : Prop :=
  ∃ entries, find? name root.entries = some (.table entries)

theorem isTable_put (setting : Setting) (value root : Value) :
    IsTable setting.sectionName (setting.put value root) :=
  ⟨_, by rw [Setting.put, find?_set, if_pos rfl]⟩

theorem IsTable.put {name : String} {root : Value} (h : IsTable name root) (setting : Setting)
    (value : Value) : IsTable name (setting.put value root) := by
  by_cases hname : name = setting.sectionName
  · exact hname ▸ isTable_put setting value root
  · rwa [IsTable, Setting.find?_put_of_ne hname]

theorem IsTable.value?_eq {setting : Setting} {root : Value}
    (h : IsTable setting.sectionName root) : setting.value? root = some (setting.found? root) := by
  obtain ⟨entries, hentries⟩ := h
  rw [Setting.value?, Setting.section?, hentries, Setting.found?, Configuration.foundIn?, hentries]
  rfl

/-! ## Environments -/

/-- Whether an environment sets variables of settings only, each of them once. -/
structure Overrides (environment : List (String × String)) : Prop where
  names : ∀ entry ∈ environment, ∃ setting : Setting, entry.1 = setting.variableName
  distinct : (environment.map Prod.fst).Nodup

/-- What an environment sets the variable of a setting to. -/
def Setting.text? (setting : Setting) (environment : List (String × String)) : Option String :=
  environment.lookup setting.variableName

theorem Setting.text?_cons (setting other : Setting) (text : String)
    (environment : List (String × String)) :
    setting.text? ((other.variableName, text) :: environment) =
      if setting = other then some text else setting.text? environment := by
  rw [text?, List.lookup_cons]
  by_cases h : setting = other
  · simp [h]
  · have hne : (setting.variableName == other.variableName) = false := by
      rw [beq_eq_false_iff_ne, ne_eq, variableName_inj]
      exact h
    simp [h, hne, text?]

theorem Setting.text?_singleton (setting other : Setting) (text : String) :
    setting.text? [(other.variableName, text)] = if setting = other then some text else none :=
  text?_cons setting other text []

theorem overrides_cons (setting : Setting) (text : String) (environment : List (String × String)) :
    Environment.overrides ((setting.variableName, text) :: environment) =
      (setting.fullName, setting.said text) :: Environment.overrides environment := by
  simp only [Environment.overrides, List.filterMap_cons, Setting.settingName?_variableName,
    Option.map_some, Setting.said]

/-- The overrides of an environment are put in one after the other. -/
theorem overlay_overrides_cons (setting : Setting) (text : String)
    (environment : List (String × String)) (root : Value) :
    overlay (Environment.overrides ((setting.variableName, text) :: environment)) root =
      overlay (Environment.overrides environment) (setting.put (setting.said text) root) := by
  simp only [overlay, overrides_cons, List.foldl_cons, Setting.placeOf_fullName, Setting.put]

namespace Overrides

variable {environment : List (String × String)}

theorem nil : Overrides [] := ⟨nofun, List.nodup_nil⟩

theorem cons {setting : Setting} (h : Overrides environment)
    (hnew : setting.text? environment = none) (text : String) :
    Overrides ((setting.variableName, text) :: environment) := by
  rw [Setting.text?, List.lookup_eq_none_iff] at hnew
  refine ⟨?_, List.nodup_cons.mpr ⟨?_, h.distinct⟩⟩
  · intro entry hentry
    rcases List.mem_cons.mp hentry with rfl | hentry
    · exact ⟨setting, rfl⟩
    · exact h.names entry hentry
  · rw [List.mem_map]
    rintro ⟨entry, hentry, hname⟩
    have hne := hnew entry hentry
    rw [hname, bne_self_eq_false] at hne
    cases hne

/-- An environment sets a variable and others. -/
theorem exists_of_cons {entry : String × String} (h : Overrides (entry :: environment)) :
    ∃ setting : Setting, entry = (setting.variableName, entry.2) ∧
      setting.text? environment = none ∧ Overrides environment := by
  obtain ⟨setting, hname⟩ := h.names entry (by simp)
  obtain ⟨hnew, hdistinct⟩ := List.nodup_cons.mp h.distinct
  refine ⟨setting, Prod.ext hname rfl, ?_,
    ⟨fun other hother => h.names other (by simp [hother]), hdistinct⟩⟩
  rw [Setting.text?, List.lookup_eq_none_iff]
  intro other hother
  rw [bne_iff_ne, ← hname]
  intro heq
  exact hnew (heq ▸ List.mem_map_of_mem hother)

/-- What is found for a setting is what its variable says, or else what was found before. -/
theorem found?_overlay (h : Overrides environment) (setting : Setting) (root : Value) :
    setting.found? (overlay (Environment.overrides environment) root) =
      ((setting.text? environment).map setting.said).or (setting.found? root) := by
  induction environment generalizing root with
  | nil => rfl
  | cons entry environment ih =>
    obtain ⟨other, hentry, hnew, hrest⟩ := h.exists_of_cons
    rw [hentry, overlay_overrides_cons, ih hrest, Setting.found?_put (other.said_replaces _),
      Setting.text?_cons]
    by_cases hother : setting = other
    · simp [hother, hnew]
    · simp [hother]

theorem isTable_overlay (h : Overrides environment) {name : String} {root : Value}
    (htable : IsTable name root) :
    IsTable name (overlay (Environment.overrides environment) root) := by
  induction environment generalizing root with
  | nil => exact htable
  | cons entry environment ih =>
    obtain ⟨other, hentry, -, hrest⟩ := h.exists_of_cons
    rw [hentry, overlay_overrides_cons]
    exact ih hrest (htable.put other _)

/-- A variable makes a table of the section of its setting. -/
theorem isTable_overlay_of_text? (h : Overrides environment) {setting : Setting}
    (htext : (setting.text? environment).isSome = true) (root : Value) :
    IsTable setting.sectionName (overlay (Environment.overrides environment) root) := by
  induction environment generalizing root with
  | nil => simp [Setting.text?] at htext
  | cons entry environment ih =>
    obtain ⟨other, hentry, -, hrest⟩ := h.exists_of_cons
    rw [hentry, Setting.text?_cons] at htext
    rw [hentry, overlay_overrides_cons]
    by_cases hother : setting = other
    · subst hother
      exact hrest.isTable_overlay (isTable_put setting _ root)
    · rw [if_neg hother] at htext
      exact ih hrest htext _

/-- A section of which no setting has a variable stays as it is. -/
theorem find?_overlay (h : Overrides environment) {name : String}
    (hnone : ∀ setting : Setting, setting.sectionName = name → setting.text? environment = none)
    (root : Value) :
    find? name (overlay (Environment.overrides environment) root).entries =
      find? name root.entries := by
  induction environment generalizing root with
  | nil => rfl
  | cons entry environment ih =>
    obtain ⟨other, hentry, -, hrest⟩ := h.exists_of_cons
    have hcons : ∀ setting : Setting, setting.sectionName = name →
        setting ≠ other ∧ setting.text? environment = none := by
      intro setting hsection
      have hsetting := hnone setting hsection
      rw [hentry, Setting.text?_cons] at hsetting
      split at hsetting
      · cases hsetting
      · next hne => exact ⟨hne, hsetting⟩
    have hname : name ≠ other.sectionName := fun heq => (hcons other heq.symm).1 rfl
    rw [hentry, overlay_overrides_cons, ih hrest fun setting hsection => (hcons setting hsection).2,
      Setting.find?_put_of_ne hname]

/-- Whether an environment sets a variable of a section. -/
def Touches (environment : List (String × String)) (name : String) : Prop :=
  ∃ setting : Setting, setting.sectionName = name ∧ (setting.text? environment).isSome = true

theorem touches_singleton (setting : Setting) (text name : String) :
    Touches [(setting.variableName, text)] name ↔ setting.sectionName = name := by
  constructor
  · rintro ⟨other, hsection, htext⟩
    rw [Setting.text?_singleton] at htext
    split at htext
    · next heq => rwa [← heq]
    · cases htext
  · intro hsection
    exact ⟨setting, hsection, by simp [Setting.text?_singleton]⟩

/-- In a section that variables touch, a setting is what is found under its name. -/
theorem value?_of_touches (h : Overrides environment) {setting : Setting}
    (htouches : Touches environment setting.sectionName) (root : Value) :
    setting.value? (overlay (Environment.overrides environment) root) =
      some (((setting.text? environment).map setting.said).or (setting.found? root)) := by
  obtain ⟨other, hsection, htext⟩ := htouches
  have htable := h.isTable_overlay_of_text? htext root
  rw [hsection] at htable
  rw [htable.value?_eq, h.found?_overlay]

theorem value?_of_not_touches (h : Overrides environment) {setting : Setting}
    (htouches : ¬ Touches environment setting.sectionName) (root : Value) :
    setting.value? (overlay (Environment.overrides environment) root) = setting.value? root := by
  have hnone : ∀ other : Setting, other.sectionName = setting.sectionName →
      other.text? environment = none := by
    intro other hother
    have htext : ¬ (other.text? environment).isSome = true :=
      fun htext => htouches ⟨other, hother, htext⟩
    simpa using htext
  exact Setting.value?_congr (h.find?_overlay hnone root)

theorem value?_of_text? (h : Overrides environment) {setting : Setting} {text : String}
    (htext : setting.text? environment = some text) (root : Value) :
    setting.value? (overlay (Environment.overrides environment) root) =
      some (some (setting.said text)) := by
  rw [h.value?_of_touches ⟨setting, rfl, by simp [htext]⟩, htext]
  rfl

end Overrides

/-! ## Settings given by position -/

/-- Whether a configuration gives a setting by its position in a list. -/
def Setting.IsPositional (setting : Setting) (root : Value) : Prop :=
  ∃ items, find? setting.sectionName root.entries = some (.list items) ∧
    setting.position < items.length

/-- A setting that can be read with and without a variable of a neighbour is the same both times, if
it is not given by position in a section whose settings have defaults. -/
theorem Setting.value?_eq_found? {setting other : Setting} {root : Value}
    {value neighboured : setting.Carrier} (hother : other ≠ setting)
    (hsection : other.sectionName = setting.sectionName)
    (hpositional : setting.sectionName = "signature" → ¬ setting.IsPositional root)
    (hvalue : (setting.value? root).bind setting.read? = some value)
    (hneighboured : setting.read? (setting.found? root) = some neighboured) :
    setting.value? root = some (setting.found? root) := by
  cases hgiven : find? setting.sectionName root.entries with
  | none =>
    have hfound : setting.found? root = none := by
      rw [found?, Configuration.foundIn?, hgiven]
      rfl
    by_cases htoken : setting.sectionName = "token"
    · rw [value?, section?, hgiven, if_pos htoken] at hvalue
      cases hvalue
    · rw [value?_eq_given? setting htoken, hgiven, hfound]
      rfl
  | some given =>
    have hgivenValue : setting.value? root = setting.given? given := by
      rw [value?, section?, hgiven]
      rfl
    cases given with
    | table entries => exact IsTable.value?_eq ⟨entries, hgiven⟩
    | list items =>
      have hfound : setting.found? root = none := by
        rw [found?, Configuration.foundIn?, hgiven]
        rfl
      have hshort : items.length ≤ setting.position := by
        refine Nat.le_of_not_lt fun hlong => ?_
        have hposition : setting.IsPositional root := ⟨items, hgiven, hlong⟩
        -- without a default there is nothing to read, and a lonely setting has no neighbour
        cases setting with
        | issuer | lifetime =>
          rw [hfound] at hneighboured
          cases hneighboured
        | components | binding | bodyless => exact hpositional rfl hposition
        | logLevel => cases other <;> simp_all [sectionName]
      rw [hgivenValue, hfound, given?, List.getElem?_eq_none hshort]
    | _ =>
      rw [hgivenValue] at hvalue
      cases hvalue

/-! ## Loaded settings -/

namespace Settings

variable {document : String} {environment : List (String × String)} {settings : Settings}

/-- Loaded settings are read from the document with the overrides on it. -/
theorem exists_root_of_load (h : load document environment = .ok settings) :
    ∃ root, configuration? document [] = some root ∧
      ∀ setting : Setting,
        (setting.value? (overlay (Environment.overrides environment) root)).bind setting.read? =
          some (setting.get settings) := by
  obtain ⟨_, hroot, hread, -⟩ := load_eq_ok_iff.mp h
  rw [configuration?_eq] at hroot
  obtain ⟨root, hdocument, rfl⟩ := Option.map_eq_some_iff.mp hroot
  exact ⟨root, hdocument, ofConfiguration?_eq_some_iff.mp hread⟩

/-- A setting with a variable is what the variable says. -/
theorem read?_said_of_load (hoverrides : Overrides environment) {setting : Setting} {text : String}
    (htext : setting.text? environment = some text) (h : load document environment = .ok settings) :
    setting.read? (some (setting.said text)) = some (setting.get settings) := by
  obtain ⟨root, -, hread⟩ := exists_root_of_load h
  have hsetting := hread setting
  rwa [hoverrides.value?_of_text? htext, Option.bind_some] at hsetting

end Settings

/-- Variables of neighbours only do not change what a configuration holds for a setting. -/
theorem Overrides.value?_of_text?_eq_none {environment : List (String × String)}
    (h : Overrides environment) {setting : Setting} {root : Value} {value other : setting.Carrier}
    (htext : setting.text? environment = none)
    (hpositional : setting.sectionName = "signature" → ¬ setting.IsPositional root)
    (hvalue : (setting.value? root).bind setting.read? = some value)
    (hother : (setting.value? (overlay (Environment.overrides environment) root)).bind
      setting.read? = some other) :
    setting.value? (overlay (Environment.overrides environment) root) = setting.value? root := by
  by_cases htouches : Touches environment setting.sectionName
  · have hoverlay := h.value?_of_touches htouches root
    rw [htext, Option.map_none, Option.none_or] at hoverlay
    rw [hoverlay, Option.bind_some] at hother
    obtain ⟨neighbour, hsection, hneighbour⟩ := htouches
    have hne : neighbour ≠ setting := by
      rintro rfl
      rw [htext] at hneighbour
      cases hneighbour
    rw [hoverlay, Setting.value?_eq_found? hne hsection hpositional hvalue hother]
  · exact h.value?_of_not_touches htouches root

namespace Settings

/-- With the same variable, a setting is the same under any two environments. -/
theorem get_eq_of_text?_eq {document : String} {first second : List (String × String)}
    {settings others : Settings} {setting : Setting} (hfirst : Overrides first)
    (hsecond : Overrides second) (hsame : setting.text? first = setting.text? second)
    (hpositional : setting.sectionName = "signature" →
      ∀ root, configuration? document [] = some root → ¬ setting.IsPositional root)
    (hload : load document first = .ok settings) (hother : load document second = .ok others) :
    setting.get settings = setting.get others := by
  cases htext : setting.text? first with
  | some text =>
    have hsettings := read?_said_of_load hfirst htext hload
    have hothers := read?_said_of_load hsecond (hsame ▸ htext) hother
    exact Option.some.inj (hsettings.symm.trans hothers)
  | none =>
    obtain ⟨root, hroot, hsettings⟩ := exists_root_of_load hload
    obtain ⟨_, hroot', hothers⟩ := exists_root_of_load hother
    obtain rfl := Option.some.inj (hroot.symm.trans hroot')
    have hnone : setting.text? second = none := hsame ▸ htext
    have hvalue := hsettings setting
    have hvalue' := hothers setting
    have hsamePlace : setting.value? (overlay (Environment.overrides first) root) =
        setting.value? (overlay (Environment.overrides second) root) := by
      by_cases htouches : Overrides.Touches first setting.sectionName
      · by_cases htouches' : Overrides.Touches second setting.sectionName
        · rw [hfirst.value?_of_touches htouches, hsecond.value?_of_touches htouches', htext, hnone]
        · have hdocument := hsecond.value?_of_not_touches htouches' root
          rw [hdocument] at hvalue' ⊢
          exact hfirst.value?_of_text?_eq_none htext (fun h => hpositional h root hroot)
            hvalue' hvalue
      · have hdocument := hfirst.value?_of_not_touches htouches root
        rw [hdocument] at hvalue ⊢
        exact (hsecond.value?_of_text?_eq_none hnone (fun h => hpositional h root hroot) hvalue
          hvalue').symm
    rw [hsamePlace, hvalue'] at hvalue
    exact (Option.some.inj hvalue).symm

/-- Overrides stay local and win. Two environments that agree on the variable of a setting lead to
the same value of it, unless the document gives it by position in the section about signatures.
With its variable set, a setting does not depend on the document. Settings that load are complete,
whatever they come from. -/
theorem load_overrides (setting : Setting) :
    (∀ document first second settings others, Overrides first → Overrides second →
      first.lookup setting.variableName = second.lookup setting.variableName →
      (setting.sectionName = "signature" →
        ∀ root, configuration? document [] = some root → ¬ setting.IsPositional root) →
      load document first = .ok settings → load document second = .ok others →
      setting.get settings = setting.get others) ∧
    (∀ document document' environment settings others, Overrides environment →
      (environment.lookup setting.variableName).isSome = true →
      load document environment = .ok settings → load document' environment = .ok others →
      setting.get settings = setting.get others) ∧
    ∀ document environment settings, load document environment = .ok settings →
      settings.issuer ≠ "" ∧ 1 ≤ settings.lifetimeSeconds ∧ settings.requiredComponents ≠ [] := by
  refine ⟨?_, ?_, ?_⟩
  · intro document first second settings others hfirst hsecond hsame hpositional hload hother
    exact get_eq_of_text?_eq hfirst hsecond hsame hpositional hload hother
  · intro document document' environment settings others hoverrides hset hload hother
    obtain ⟨text, htext⟩ := Option.isSome_iff_exists.mp hset
    have hsettings := read?_said_of_load hoverrides htext hload
    have hothers := read?_said_of_load hoverrides htext hother
    exact Option.some.inj (hsettings.symm.trans hothers)
  · intro document environment settings hload
    obtain ⟨_, _, _, hcomplete⟩ := load_eq_ok_iff.mp hload
    exact isComplete_iff.mp hcomplete

/-- A document that switches the binding to a key off. -/
def looseDocument : String :=
  "[token]\nissuer = 'i'\nttl_secs = 5\n[signature]\nenforce_thumbprint_binding = false"

/-- A document that gives the settings about signatures by position. -/
def positionalDocument : String :=
  "signature = [['@path'], false, false]\n[token]\nissuer = 'k'\nttl_secs = 9"

theorem not_isPositional_looseDocument {root : Value}
    (hroot : configuration? looseDocument [] = some root) :
    ¬ Setting.binding.IsPositional root := by
  have hconfiguration : configuration? looseDocument [] = some (.table
      [("token", .table [("issuer", .text "i"), ("ttl_secs", .integer 5)]),
        ("signature", .table [("enforce_thumbprint_binding", .boolean false)])]) := by
    decide +kernel
  rintro ⟨items, hitems, -⟩
  cases hconfiguration.symm.trans hroot
  cases hitems

/-- What is said about its neighbours leaves the binding to a key switched off, and its own variable
switches it on for both documents. -/
theorem load_looseDocument :
    (load looseDocument [(Setting.issuer.variableName, "j")] =
        .ok ⟨"j", 5, standardComponents, false, true, "info"⟩ ∧
      load looseDocument [(Setting.components.variableName, "@path")] =
        .ok ⟨"i", 5, ["@path"], false, true, "info"⟩ ∧
      Setting.binding.get ⟨"j", 5, standardComponents, false, true, "info"⟩ =
        Setting.binding.get ⟨"i", 5, ["@path"], false, true, "info"⟩) ∧
    (load looseDocument [(Setting.binding.variableName, "true")] =
        .ok ⟨"i", 5, standardComponents, true, true, "info"⟩ ∧
      load positionalDocument [(Setting.binding.variableName, "true")] =
        .ok ⟨"k", 9, standardComponents, true, true, "info"⟩ ∧
      Setting.binding.get ⟨"i", 5, standardComponents, true, true, "info"⟩ =
        Setting.binding.get ⟨"k", 9, standardComponents, true, true, "info"⟩) ∧
    "j" ≠ "" ∧ 1 ≤ 5 ∧ standardComponents ≠ [] := by
  obtain ⟨hlocal, hwins, hcomplete⟩ := load_overrides .binding
  have hissuer : load looseDocument [(Setting.issuer.variableName, "j")] =
      .ok ⟨"j", 5, standardComponents, false, true, "info"⟩ := by decide +kernel
  have hcomponents : load looseDocument [(Setting.components.variableName, "@path")] =
      .ok ⟨"i", 5, ["@path"], false, true, "info"⟩ := by decide +kernel
  have hloose : load looseDocument [(Setting.binding.variableName, "true")] =
      .ok ⟨"i", 5, standardComponents, true, true, "info"⟩ := by decide +kernel
  have hpositional : load positionalDocument [(Setting.binding.variableName, "true")] =
      .ok ⟨"k", 9, standardComponents, true, true, "info"⟩ := by decide +kernel
  have honly : ∀ (setting : Setting) text, Overrides [(setting.variableName, text)] :=
    fun setting text => Overrides.nil.cons (show setting.text? [] = none from rfl) text
  exact ⟨⟨hissuer, hcomponents, hlocal looseDocument _ _ _ _ (honly .issuer _)
      (honly .components _) (by decide) (fun _ _ => not_isPositional_looseDocument) hissuer
      hcomponents⟩,
    ⟨hloose, hpositional, hwins _ _ _ _ _ (honly .binding _) (by decide) hloose hpositional⟩,
    hcomplete _ _ _ hissuer⟩

/-- With settings given by position, a variable reaches a neighbour: it makes the section a table,
in which nothing has a position. -/
theorem not_forall_get_eq_of_lookup_eq :
    ¬ ∀ (setting : Setting) (document : String) (first second : List (String × String))
      (settings others : Settings), Overrides first → Overrides second →
      first.lookup setting.variableName = second.lookup setting.variableName →
      load document first = .ok settings → load document second = .ok others →
      setting.get settings = setting.get others := by
  intro hlocal
  have hsame := hlocal .binding positionalDocument [] [(Setting.bodyless.variableName, "true")]
    ⟨"k", 9, ["@path"], false, false, "info"⟩ ⟨"k", 9, standardComponents, true, true, "info"⟩
    .nil (Overrides.nil.cons (by decide) _) (by decide) (by decide +kernel) (by decide +kernel)
  exact absurd hsame (by decide)

end Settings

end Possession

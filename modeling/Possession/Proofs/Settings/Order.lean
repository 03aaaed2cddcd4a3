import Possession.Proofs.Configuration.Order
import Possession.Proofs.Settings.Overrides

/-!
# Settings in any order

Nothing that reads settings tells configurations apart that are alike. So the order of a document
and that of the environment matter only where places do not part at a name; those of the settings
themselves always do.
-/

namespace Possession

open Possession.Configuration

/-! ## Reading settings from configurations that are alike -/

namespace Configuration.Alike

variable {first second : Value}

theorem read?_eq (h : Alike first second) (setting : Setting) :
    setting.read? (some first) = setting.read? (some second) := by
  rcases h.eq_or_tables with rfl | ⟨_, _, rfl, rfl⟩
  · rfl
  · cases setting <;> rfl

theorem given?_bind_read? (h : Alike first second) (setting : Setting) :
    (setting.given? first).bind setting.read? = (setting.given? second).bind setting.read? := by
  rcases h.eq_or_tables with rfl | ⟨entries, entries', rfl, rfl⟩
  · rfl
  · change setting.read? (Configuration.find? setting.name entries) =
      setting.read? (Configuration.find? setting.name entries')
    rcases h.find? setting.name with ⟨hfirst, hsecond⟩ | ⟨_, _, hfirst, hsecond, hvalue⟩
    · rw [Value.entries] at hfirst hsecond
      rw [hfirst, hsecond]
    · rw [Value.entries] at hfirst hsecond
      rw [hfirst, hsecond, hvalue.read?_eq]

theorem value?_bind_read? (h : Alike first second) (setting : Setting) :
    (setting.value? first).bind setting.read? = (setting.value? second).bind setting.read? := by
  rcases h.find? setting.sectionName with ⟨hfirst, hsecond⟩ | ⟨_, _, hfirst, hsecond, hgiven⟩
  · rw [Setting.value?_congr (hfirst.trans hsecond.symm)]
  · rw [Setting.value?, Setting.value?, Setting.section?, Setting.section?, hfirst, hsecond,
      Option.bind_some, Option.bind_some, hgiven.given?_bind_read?]

theorem ofConfiguration?_eq (h : Alike first second) :
    Settings.ofConfiguration? first = Settings.ofConfiguration? second := by
  refine Option.ext fun settings => ?_
  simp only [Settings.ofConfiguration?_eq_some_iff, h.value?_bind_read?]

end Configuration.Alike

/-! ## The places of settings -/

theorem Setting.apart {setting other : Setting} (h : setting ≠ other) :
    Apart (placeOf setting.fullName) (placeOf other.fullName) := by
  rw [placeOf_fullName, placeOf_fullName]
  by_cases hsection : setting.sectionName = other.sectionName
  · rw [hsection]
    exact .there _ (.here (fun hname => h (eq_of_place hsection hname)) [] [])
  · exact .here hsection _ _

/-- The places of different variables part. -/
theorem Overrides.parted {environment : List (String × String)} (h : Overrides environment) :
    Parted (Environment.overrides environment) := by
  induction environment with
  | nil => exact .nil
  | cons entry environment ih =>
    obtain ⟨setting, hentry, hnew, hrest⟩ := h.exists_of_cons
    rw [hentry, overrides_cons]
    refine List.pairwise_cons.mpr ⟨fun override hoverride => ?_, ih hrest⟩
    obtain ⟨⟨name, text⟩, hvariable, hsetting⟩ := List.mem_filterMap.mp hoverride
    obtain ⟨other, rfl⟩ := hrest.names _ hvariable
    simp only [Setting.settingName?_variableName, Option.map_some, Option.some.injEq] at hsetting
    rw [← hsetting]
    refine Setting.apart ?_
    rintro rfl
    -- the variable of a setting does not occur twice
    have hne := List.lookup_eq_none_iff.mp hnew _ hvariable
    simp at hne

/-! ## Loading -/

namespace Settings

variable {document reordered : String} {environment environment' : List (String × String)}

theorem load_eq_of_alike {root root' : Value}
    (hroot : configuration? document environment = some root)
    (hroot' : configuration? reordered environment' = some root') (h : Alike root root') :
    load document environment = load reordered environment' := by
  rw [load, load, read, read, hroot, hroot']
  dsimp only
  rw [h.ofConfiguration?_eq]

/-- The entries of a document and the variables of an environment may come in any order if their
places part. -/
theorem load_eq_of_perm {entries entries' : List (String × Value)}
    (hread : Document.read? document = some entries)
    (hread' : Document.read? reordered = some entries') (hentries : entries.Perm entries')
    (hparted : Parted entries) (henvironment : environment.Perm environment')
    (hoverrides : Parted (Environment.overrides environment)) :
    load document environment = load reordered environment' := by
  have hdocument : Alike (overlay entries (.table [])) (overlay entries' (.table [])) :=
    hparted.overlay_perm hentries _
  have hperm : (Environment.overrides environment).Perm (Environment.overrides environment') :=
    henvironment.filterMap _
  refine load_eq_of_alike (by rw [configuration?, hread]; rfl) (by rw [configuration?, hread']; rfl)
    ((hdocument.overlay _).trans (hoverrides.overlay_perm hperm _))

/-- Two sections without quoted keys. -/
example :
    load "[logging]\nlevel = 'warn'\n[token]\nissuer = 'i'\nttl_secs = 5" [] =
      load "[token]\nissuer = 'i'\nttl_secs = 5\n[logging]\nlevel = 'warn'" [] := by
  have hread : Document.read? "[logging]\nlevel = 'warn'\n[token]\nissuer = 'i'\nttl_secs = 5" =
      some [("logging", .table [("level", .text "warn")]),
        ("token", .table [("issuer", .text "i"), ("ttl_secs", .integer 5)])] := by decide +kernel
  exact load_eq_of_perm hread (by decide +kernel) (.swap _ _ [])
    (parted_of_nodup (by decide) (by decide)) (.refl _) .nil

/-- Variables of settings may come in any order, whatever the document is. -/
theorem load_eq_of_perm_overrides (h : Overrides environment)
    (hperm : environment.Perm environment') (document : String) :
    load document environment = load document environment' := by
  cases hroot : configuration? document [] with
  | none =>
    rw [load, load, read, read, configuration?_eq, configuration?_eq _ environment', hroot]
    rfl
  | some root =>
    refine load_eq_of_alike (by rw [configuration?_eq, hroot]; rfl)
      (by rw [configuration?_eq, hroot]; rfl) ?_
    exact h.parted.overlay_perm (hperm.filterMap _) root

end Settings

end Possession

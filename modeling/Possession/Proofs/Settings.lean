import Possession.Proofs.Configuration
import Possession.Settings

/-!
# Settings one at a time

`Setting.value?` is what a configuration holds for a setting, `Setting.read?` what is read from
that. Settings are read if each of them is, so every lemma can be about one of the six.
-/

namespace Possession

open Possession.Configuration

inductive Setting
  | issuer
  | lifetime
  | components
  | binding
  | bodyless
  | logLevel
  deriving DecidableEq

namespace Setting

def sectionName : Setting → String
  | issuer | lifetime => "token"
  | components | binding | bodyless => "signature"
  | logLevel => "logging"

def name : Setting → String
  | issuer => "issuer"
  | lifetime => "ttl_secs"
  | components => "required_components"
  | binding => "enforce_thumbprint_binding"
  | bodyless => "allow_bodyless_without_digest"
  | logLevel => "level"

/-- The position of a setting in a section that is a list. -/
def position : Setting → Nat
  | issuer | components | logLevel => 0
  | lifetime | binding => 1
  | bodyless => 2

abbrev Carrier : Setting → Type
  | issuer | logLevel => String
  | lifetime => Nat
  | components => List String
  | binding | bodyless => Bool

/-- The value of a setting among all of them. -/
def get (settings : Settings) : (setting : Setting) → setting.Carrier
  | issuer => settings.issuer
  | lifetime => settings.lifetimeSeconds
  | components => settings.requiredComponents
  | binding => settings.enforceThumbprintBinding
  | bodyless => settings.allowBodylessWithoutDigest
  | logLevel => settings.logLevel

/-- Reads a setting from what is given for it, if anything is. -/
def read? : (setting : Setting) → Option Value → Option setting.Carrier
  | issuer => Settings.demand? Value.asText?
  | lifetime => Settings.demand? Value.asNatural?
  | components => Settings.orElse? Settings.standardComponents Value.asTexts?
  | binding | bodyless => Settings.orElse? true Value.asBool?
  | logLevel => Settings.orElse? Settings.standardLogLevel Value.asText?

/-- The section of a setting. Only the one about tokens has to be there; any other counts as empty
if it is missing. -/
def section? (setting : Setting) (root : Value) : Option Value :=
  match find? setting.sectionName root.entries with
  | some given => some given
  | none => if setting.sectionName = "token" then none else some (.table [])

/-- What a section holds for a setting, if it can be a section at all. -/
def given? (setting : Setting) : Value → Option (Option Value)
  | .table entries => some (find? setting.name entries)
  | .list items => some items[setting.position]?
  | _ => none

/-- What a configuration holds for a setting, if its section can be read. -/
def value? (setting : Setting) (root : Value) : Option (Option Value) :=
  (setting.section? root).bind setting.given?

theorem value?_congr {setting : Setting} {root other : Value}
    (h : find? setting.sectionName root.entries = find? setting.sectionName other.entries) :
    setting.value? root = setting.value? other := by
  rw [value?, section?, h, ← section?, ← value?]

/-- A section that may be missing counts as empty then. -/
theorem value?_eq_given? (setting : Setting) (h : setting.sectionName ≠ "token") (root : Value) :
    setting.value? root =
      setting.given? ((find? setting.sectionName root.entries).getD (.table [])) := by
  rw [value?, section?]
  cases find? setting.sectionName root.entries <;> simp [h]

theorem forall_iff {P : Setting → Prop} :
    (∀ setting, P setting) ↔
      (P issuer ∧ P lifetime) ∧ (P components ∧ P binding ∧ P bodyless) ∧ P logLevel := by
  constructor
  · intro h
    exact ⟨⟨h _, h _⟩, ⟨h _, h _, h _⟩, h _⟩
  · rintro ⟨⟨hissuer, hlifetime⟩, ⟨hcomponents, hbinding, hbodyless⟩, hlevel⟩ setting
    cases setting <;> assumption

end Setting

namespace Settings

/-! ## Reading -/

section

variable {root : Value}

theorem readTokens?_eq_some_iff {issuer : String} {lifetime : Nat} :
    readTokens? root = some (issuer, lifetime) ↔
      (Setting.issuer.value? root).bind Setting.issuer.read? = some issuer ∧
        (Setting.lifetime.value? root).bind Setting.lifetime.read? = some lifetime := by
  simp only [readTokens?, Setting.value?, Setting.section?, Setting.sectionName]
  cases find? "token" root.entries with
  | none => simp
  | some given =>
    cases given <;>
      simp [sectionValues?, Setting.given?, Setting.name, Setting.position, Setting.read?,
        List.range, List.range.loop, Option.bind_eq_some_iff]

theorem readSignatures?_eq_some_iff {components : List String} {binding bodyless : Bool} :
    readSignatures? root = some (components, binding, bodyless) ↔
      (Setting.components.value? root).bind Setting.components.read? = some components ∧
        (Setting.binding.value? root).bind Setting.binding.read? = some binding ∧
        (Setting.bodyless.value? root).bind Setting.bodyless.read? = some bodyless := by
  rw [Setting.value?_eq_given? .components (by decide),
    Setting.value?_eq_given? .binding (by decide), Setting.value?_eq_given? .bodyless (by decide)]
  simp only [readSignatures?, Setting.sectionName]
  generalize (find? "signature" root.entries).getD (.table []) = given
  have hthree : ∀ (first : Option (List String)) (second third : Option Bool),
      (do return (← first, ← second, ← third)) = some (components, binding, bodyless) ↔
        first = some components ∧ second = some binding ∧ third = some bodyless := by
    intro first second third
    cases first <;> cases second <;> cases third <;> simp
  cases given with
  | table entries => exact hthree _ _ _
  | list items => exact hthree _ _ _
  | _ => simp [sectionValues?, Setting.given?]

theorem readLogging?_eq_some_iff {level : String} :
    readLogging? root = some level ↔
      (Setting.logLevel.value? root).bind Setting.logLevel.read? = some level := by
  rw [Setting.value?_eq_given? .logLevel (by decide)]
  simp only [readLogging?, Setting.sectionName]
  generalize (find? "logging" root.entries).getD (.table []) = given
  cases given <;>
    simp [sectionValues?, Setting.given?, Setting.name, Setting.position, Setting.read?,
      List.range, List.range.loop]

/-- Settings are read if each of them is. -/
theorem ofConfiguration?_eq_some_iff {settings : Settings} :
    ofConfiguration? root = some settings ↔
      ∀ setting : Setting,
        (setting.value? root).bind setting.read? = some (setting.get settings) := by
  rw [Setting.forall_iff]
  simp only [Setting.get]
  rw [← readTokens?_eq_some_iff, ← readSignatures?_eq_some_iff, ← readLogging?_eq_some_iff]
  obtain ⟨issuer, lifetime, components, binding, bodyless, level⟩ := settings
  simp only [ofConfiguration?, Option.bind_eq_bind, Option.bind_eq_some_iff, Prod.exists]
  constructor
  · rintro ⟨_, _, htokens, _, _, _, hsignatures, _, hlevel, h⟩
    cases h
    exact ⟨htokens, hsignatures, hlevel⟩
  · rintro ⟨htokens, hsignatures, hlevel⟩
    exact ⟨_, _, htokens, _, _, _, hsignatures, _, hlevel, rfl⟩

end

/-! ## Loading -/

/-- A document is laid out first, and the overrides on it. -/
theorem configuration?_eq (document : String) (environment : List (String × String)) :
    configuration? document environment =
      (configuration? document []).map (overlay (Environment.overrides environment)) := by
  simp only [configuration?]
  cases Document.read? document <;> rfl

theorem isComplete_iff {settings : Settings} :
    settings.isComplete = true ↔ settings.issuer ≠ "" ∧ 1 ≤ settings.lifetimeSeconds ∧
      settings.requiredComponents ≠ [] := by
  simp [isComplete, Nat.one_le_iff_ne_zero, and_assoc]

theorem load_eq_ok_iff {document : String} {environment : List (String × String)}
    {settings : Settings} :
    load document environment = .ok settings ↔
      ∃ root, configuration? document environment = some root ∧
        ofConfiguration? root = some settings ∧ settings.isComplete = true := by
  rw [load, Outcome.mapError_eq_ok_iff, read]
  cases configuration? document environment with
  | none => simp
  | some root =>
    cases hread : ofConfiguration? root with
    | none => simp [hread]
    | some read =>
      by_cases hcomplete : read.isComplete = true
      · simp only [hread, hcomplete, if_true, Except.ok.injEq, Option.some.injEq]
        constructor
        · rintro rfl
          exact ⟨root, rfl, hread, hcomplete⟩
        · rintro ⟨_, rfl, h, _⟩
          exact Option.some.inj (hread.symm.trans h)
      · simp only [hread, hcomplete, Bool.false_eq_true, if_false, reduceCtorEq, false_iff]
        rintro ⟨_, hroot, h, hcomplete'⟩
        cases hroot
        rw [hread] at h
        cases h
        exact hcomplete hcomplete'

end Settings

end Possession

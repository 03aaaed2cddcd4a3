import Possession.Configuration.Coercion
import Possession.Configuration.Document
import Possession.Configuration.Environment
import Possession.Configuration.Path
import Possession.ContentDigest
import Possession.Failure
import Possession.Logging
import Possession.Token.Clock

/-!
# Settings

Settings come from a TOML document that environment variables override. A section is a table, or a
list of its settings in order; a setting that is missing has a default where there is one.
-/

namespace Possession

open Possession.Configuration

namespace Settings

inductive Fault
  /-- The document is not TOML. -/
  | build
  /-- A setting is missing or of the wrong type. -/
  | deserialize
  /-- A setting is empty or zero that must not be. -/
  | validation
  deriving DecidableEq, Repr

def Fault.message : Fault → String
  | .build => "Failed to build configuration"
  | .deserialize => "Failed to deserialize configuration"
  | .validation => "Settings failed validation"

def Fault.refusal (fault : Fault) : Refusal := .of (.configuration fault.message)

end Settings

structure Settings where
  issuer : String
  lifetimeSeconds : Nat
  requiredComponents : List String
  enforceThumbprintBinding : Bool
  /-- Whether a request with neither body nor digest passes without a digest. -/
  allowBodylessWithoutDigest : Bool
  /-- The name of the level up to which messages are logged. -/
  logLevel : String
  deriving DecidableEq, Repr

namespace Settings

def lifetime (settings : Settings) : Duration := .of settings.lifetimeSeconds 0

def digestPolicy (settings : Settings) : ContentDigest.Policy :=
  ⟨settings.allowBodylessWithoutDigest⟩

/-! ## Sections -/

def standardComponents : List String := ["@method", "@target-uri"]

def standardLogLevel : String := "info"

/-- The values of the named settings of a section: by name in a table, by position in a list. -/
def sectionValues? (names : List String) : Value → Option (List (Option Value))
  | .table entries => some (names.map fun name => find? name entries)
  | .list items => some ((List.range names.length).map fun position => items[position]?)
  | _ => none

/-- A setting that must be there. -/
def demand? {α : Type} (read : Value → Option α) : Option Value → Option α
  | none => none
  | some value => read value

/-- A setting with a default. -/
def orElse? {α : Type} (standard : α) (read : Value → Option α) : Option Value → Option α
  | none => some standard
  | some value => read value

/-- The issuer and the lifetime. -/
def readTokens? (root : Value) : Option (String × Nat) := do
  match ← sectionValues? ["issuer", "ttl_secs"] (← find? "token" root.entries) with
  | [issuer, lifetime] =>
    return (← demand? Value.asText? issuer, ← demand? Value.asNatural? lifetime)
  | _ => none

/-- The required components and the two switches. -/
def readSignatures? (root : Value) : Option (List String × Bool × Bool) := do
  match ← sectionValues?
    ["required_components", "enforce_thumbprint_binding", "allow_bodyless_without_digest"]
    ((find? "signature" root.entries).getD (.table [])) with
  | [components, binding, bodyless] =>
    return (← orElse? standardComponents Value.asTexts? components,
      ← orElse? true Value.asBool? binding, ← orElse? true Value.asBool? bodyless)
  | _ => none

def readLogging? (root : Value) : Option String := do
  match ← sectionValues? ["level"] ((find? "logging" root.entries).getD (.table [])) with
  | [level] => orElse? standardLogLevel Value.asText? level
  | _ => none

def ofConfiguration? (root : Value) : Option Settings := do
  let (issuer, lifetime) ← readTokens? root
  let (components, binding, bodyless) ← readSignatures? root
  return ⟨issuer, lifetime, components, binding, bodyless, ← readLogging? root⟩

/-- Whether settings are complete: an issuer, a lifetime and components to cover. -/
def isComplete (settings : Settings) : Bool :=
  settings.issuer != "" && settings.lifetimeSeconds != 0 && !settings.requiredComponents.isEmpty

/-! ## Loading -/

/-- The configuration of a document under the overrides among environment variables. Entries and
variables are taken as they come. -/
def configuration? (document : String) (environment : List (String × String)) : Option Value := do
  let entries ← Document.read? document
  return overlay (Environment.overrides environment) (overlay entries (.table []))

def read (document : String) (environment : List (String × String)) : Except Fault Settings :=
  match configuration? document environment with
  | none => .error .build
  | some root =>
    match ofConfiguration? root with
    | none => .error .deserialize
    | some settings => if settings.isComplete then .ok settings else .error .validation

def load (document : String) (environment : List (String × String)) : Outcome Settings :=
  (read document environment).mapError Fault.refusal

/-- The level up to which messages are logged, if there is one of that name. -/
def logFilter (settings : Settings) : Outcome LogLevel := LogLevel.parse settings.logLevel

end Settings

end Possession

import Possession.Json.Reading

/-!
# Reading members

A reader takes the members of an object in the order of the text, where a name may be repeated, and
returns `none` if the one it asks for is repeated or has the wrong form.
-/

namespace Possession.Json

def asString? : Json → Option String
  | .string value => some value
  | _ => none

/-- One of a fixed set of names. A name is written as a string or as the only member of an object,
with the value null. -/
def asName? : Json → Option String
  | .string value => some value
  | .object [(name, .null)] => some name
  | _ => none

/-- One of a fixed set of names, where the value of the only member may be an empty object as
well. -/
def asOpenName? : Json → Option String
  | .object [(name, .object [])] => some name
  | value => value.asName?

/-- One of a list of names, given by the name or by its position in the list. -/
def asNameOrIndex? (names : List String) : Json → Option String
  | .string value => if names.contains value then some value else none
  | .number (.integer (.ofNat index)) => names[index]?
  | _ => none

def asListOf? {α : Type} (read : Json → Option α) : Json → Option (List α)
  | .array items => items.mapM read
  | _ => none

/-- The value of a member that must be present once. -/
def required? {α : Type} (name : String) (read : Json → Option α)
    (members : List (String × Json)) : Option α :=
  match single? name members with
  | some (some value) => read value
  | _ => none

/-- The value of a member that may be absent or null, and is not repeated. -/
def optional? {α : Type} (name : String) (read : Json → Option α)
    (members : List (String × Json)) : Option (Option α) :=
  match single? name members with
  | none => none
  | some none | some (some .null) => some none
  | some (some value) => (read value).map some

/-- The members of a tree that is an object nested at most `depth` levels deep, as written. -/
def treeMembers? (depth : Nat) : Tree → Option (List (String × Json))
  | .object members => if depth = 0 then none else ofMembers? .asWritten (depth - 1) members
  | _ => none

/-- The members of a tree in the order of the text, with the values as trees. -/
def nameMembers? (members : List (Bytes × Tree)) : Option (List (String × Tree)) :=
  members.mapM fun (name, tree) => (stringText? name).map fun name => (name, tree)

/-- A member that is left out if it has no value. -/
def optionalMember {α : Type} (name : String) (write : α → Json) :
    Option α → List (String × Json)
  | none => []
  | some value => [(name, write value)]

end Possession.Json

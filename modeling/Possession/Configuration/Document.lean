import Possession.Configuration
import Possession.Toml.Reading

/-!
# Documents as configurations

Dates and times of a TOML document become their text. A table may also spell a date or time, by one
name that is set aside for this.
-/

namespace Possession.Configuration.Document

/-- The name of the entry that makes a table a date or time. -/
def momentName : String := "$__toml_private_datetime"

/-- The first of two entries by name, an earlier one of two with the same name. -/
def lesser (first second : String × Toml.Item) : String × Toml.Item :=
  if second.1 < first.1 then second else first

def leastEntry? : Toml.Entries → Option (String × Toml.Item)
  | [] => none
  | entry :: rest => some (rest.foldl lesser entry)

/-- The date or time that a table spells, or its failure, if the least of its names is the one set
aside. -/
def spelled? (entries : Toml.Entries) : Option (Option Toml.Moment) :=
  match leastEntry? entries with
  | none => none
  | some (name, item) =>
    if name = momentName then
      match item with
      | .text text => some (Toml.Moment.parse? text.toList)
      | _ => some none
    else none

mutual

def ofItem? : Toml.Item → Option Value
  | .text value => some (.text value)
  | .integer value => some (.integer value)
  | .float value => some (.float value)
  | .boolean value => some (.boolean value)
  | .moment value => some (.text value.print)
  | .list items => (ofItems? items).map .list
  | .table _ entries =>
    match spelled? entries with
    | some moment => moment.map fun moment => .text moment.print
    | none => (ofEntries? entries).map .table
  | .tables elements => (ofTables? elements).map .list

def ofItems? : List Toml.Item → Option (List Value)
  | [] => some []
  | item :: rest => do return (← ofItem? item) :: (← ofItems? rest)

def ofEntries? : List (String × Toml.Item) → Option (List (String × Value))
  | [] => some []
  | (key, item) :: rest => do return (key, ← ofItem? item) :: (← ofEntries? rest)

def ofTables? : List (List (String × Toml.Item)) → Option (List Value)
  | [] => some []
  | entries :: rest => do
    let first ← match spelled? entries with
      | some moment => moment.map fun moment => .text moment.print
      | none => (ofEntries? entries).map .table
    return first :: (← ofTables? rest)

end

/-- Reads a document, which must not be a date or time itself. -/
def read? (document : String) : Option (List (String × Value)) := do
  let entries ← Toml.parse? document
  if (spelled? entries).isSome then none else ofEntries? entries

end Possession.Configuration.Document

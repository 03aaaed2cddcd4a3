import Possession.Decimal.Binary64
import Possession.Toml.Moment

/-!
# TOML documents

A document is a tree of tables. While it is read, each table remembers how it came to be, because
that decides which later statements may still add to it; afterwards only the entries matter.
-/

namespace Possession.Toml

/-- How a table came to be. -/
inductive Origin
  /-- It has a header of its own. -/
  | header
  /-- It lies on the way to a table with a header. -/
  | ancestor
  /-- It lies on the way to a value with a dotted key. -/
  | dotted
  /-- It is written between braces, and complete. -/
  | inline
  deriving DecidableEq, Repr

/-- A value, or a table of values. -/
inductive Item
  | text (value : String)
  /-- An integer of 64 bits. -/
  | integer (value : Int)
  | float (value : Decimal.Binary64)
  | boolean (value : Bool)
  | moment (value : Moment)
  | list (items : List Item)
  | table (origin : Origin) (entries : List (String × Item))
  /-- Tables that have a header each. -/
  | tables (elements : List (List (String × Item)))
  deriving Repr

/-- The entries of a table, in the order of the document. -/
abbrev Entries := List (String × Item)

namespace Entries

/-! ## Building tables -/

/-- Changes the entry with the given key, or adds one; `change` receives what is there so far. -/
def alter (key : String) (change : Option Item → Option Item) : Entries → Option Entries
  | [] => (change none).map fun item => [(key, item)]
  | (other, item) :: rest =>
    if key = other then (change (some item)).map fun item => (key, item) :: rest
    else (alter key change rest).map ((other, item) :: ·)

def alterLast (change : Entries → Option Entries) : List Entries → Option (List Entries)
  | [] => none
  | [last] => (change last).map ([·])
  | first :: rest => (alterLast change rest).map (first :: ·)

/-- Adds a value, unless the key is taken. -/
def add (key : String) (item : Item) (entries : Entries) : Option Entries :=
  entries.alter key fun
    | none => some item
    | some _ => none

/-- Adds a value under a dotted key. The tables on the way must have come about through dotted keys
or on the way to a header; from then on they count as tables of dotted keys. Of several tables the
last one is on the way, but it does not take the value itself. -/
def addDotted (item : Item) : List String → Entries → Option Entries
  | [], _ => none
  | [key], entries => entries.add key item
  | key :: rest, entries =>
    entries.alter key fun
      | none => (addDotted item rest []).map (.table .dotted)
      | some (.table origin inner) =>
        if origin = .dotted ∨ origin = .ancestor then
          (addDotted item rest inner).map (.table .dotted)
        else none
      | some (.tables elements) =>
        if 1 < rest.length then (alterLast (addDotted item rest) elements).map .tables else none
      | some _ => none

/-- What a header does to the entry that it names. -/
abbrev Declaration := Option Item → Option Item

/-- A header in single brackets opens a table that has none yet. -/
def openTable : Declaration
  | none => some (.table .header [])
  | some (.table .ancestor entries) => some (.table .header entries)
  | some _ => none

/-- A header in double brackets opens another table of several. -/
def openElement : Declaration
  | none => some (.tables [[]])
  | some (.tables elements) => some (.tables (elements ++ [[]]))
  | some _ => none

/-- Declares the table with the given path. Of several tables the last one is meant. -/
def declare (declaration : Declaration) : List String → Entries → Option Entries
  | [], _ => none
  | [key], entries => entries.alter key declaration
  | key :: rest, entries =>
    entries.alter key fun
      | none => (declare declaration rest []).map (.table .ancestor)
      | some (.table .inline _) => none
      | some (.table origin inner) => (declare declaration rest inner).map (.table origin)
      | some (.tables elements) => (alterLast (declare declaration rest) elements).map .tables
      | some _ => none

def within (change : Entries → Option Entries) : List String → Entries → Option Entries
  | [], entries => change entries
  | key :: rest, entries =>
    entries.alter key fun
      | some (.table origin inner) => (within change rest inner).map (.table origin)
      | some (.tables elements) => (alterLast (within change rest) elements).map .tables
      | _ => none

end Entries

end Possession.Toml

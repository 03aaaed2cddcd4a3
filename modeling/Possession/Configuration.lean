import Possession.Decimal.Binary64

/-!
# Layered configuration

A configuration is a tree of values in which later sources override earlier ones. Tables are merged
entry by entry; any other value replaces what stood there.
-/

namespace Possession.Configuration

inductive Value
  /-- Nothing: a place that was made but not filled. -/
  | empty
  | boolean (value : Bool)
  /-- An integer of 64 bits. -/
  | integer (value : Int)
  | float (value : Decimal.Binary64)
  | text (value : String)
  | list (items : List Value)
  | table (entries : List (String × Value))
  deriving Repr, Inhabited

namespace Value

/-- The entries of a table; any other value has none. -/
def entries : Value → List (String × Value)
  | table entries => entries
  | _ => []

/-- The items of a list; any other value has none. -/
def items : Value → List Value
  | list items => items
  | _ => []

end Value

def find? (key : String) : List (String × Value) → Option Value
  | [] => none
  | (other, value) :: rest => if key = other then some value else find? key rest

/-! ## Paths -/

/-- A step from a value to one of its parts. -/
inductive Step
  | key (name : String)
  /-- The item at an index; a negative one counts from the end. -/
  | index (position : Int)
  deriving DecidableEq, Repr

/-- The way from the root to a value. -/
abbrev Path := List Step

/-- Changes the entry with the given key; an entry that is missing is added, empty at first. -/
def updateEntry (key : String) (change : Value → Value) :
    List (String × Value) → List (String × Value)
  | [] => [(key, change .empty)]
  | (other, value) :: rest =>
    if key = other then (other, change value) :: rest
    else (other, value) :: updateEntry key change rest

/-- Changes the item at a position; missing items before it are empty. -/
def updateItem (change : Value → Value) : (position : Nat) → List Value → List Value
  | 0, [] => [change .empty]
  | 0, item :: rest => change item :: rest
  | position + 1, [] => .empty :: updateItem change position []
  | position + 1, item :: rest => item :: updateItem change position rest

/-- Changes the item at an index. An index that reaches beyond the start makes room there. -/
def updateIndex (change : Value → Value) (index : Int) (items : List Value) : List Value :=
  if 0 ≤ index then updateItem change index.toNat items
  else if index.natAbs ≤ items.length then updateItem change (items.length - index.natAbs) items
  else
    updateItem change 0 (List.replicate (index.natAbs - items.length) .empty ++ items)

def update (change : Value → Value) : Path → Value → Value
  | [], value => change value
  | .key name :: rest, value => .table (updateEntry name (update change rest) value.entries)
  | .index position :: rest, value => .list (updateIndex (update change rest) position value.items)

/-! ## Merging -/

mutual

/-- The first value where it is not a table; a table is merged into the second value. -/
def merge : (incoming existing : Value) → Value
  | .table entries, existing => .table (mergeEntries entries existing.entries)
  | incoming, _ => incoming

/-- Merges entries one after the other into those of a table. -/
def mergeEntries : (incoming existing : List (String × Value)) → List (String × Value)
  | [], existing => existing
  | (key, value) :: rest, existing =>
    mergeEntries rest (updateEntry key (merge value) existing)

end

def set (path : Path) (incoming : Value) (root : Value) : Value :=
  update (merge incoming) path root

end Possession.Configuration

import Possession.Bytes
import Possession.Decimal.Binary64

/-!
# JSON values

The members of an object are sorted by name, each name once, so that equal objects are equal lists.
-/

namespace Possession

inductive Json.Number
  /-- An integer between `-2 ^ 63` and `2 ^ 64 - 1`. -/
  | integer (value : Int)
  | double (value : Decimal.Binary64)
  deriving DecidableEq, Repr, Inhabited

inductive Json
  | null
  | bool (value : Bool)
  | number (value : Json.Number)
  | string (value : String)
  | array (items : List Json)
  | object (members : List (String × Json))
  deriving Repr, Inhabited

namespace Json

def ofInt (n : Int) : Json := .number (.integer n)

def leastInt64 : Int := -Int.pow 2 63

def greatestInt64 : Int := Int.pow 2 63 - 1

def fitsInt64 (n : Int) : Bool := leastInt64 ≤ n && n ≤ greatestInt64

end Json

/-- The members of an object, sorted by name. -/
abbrev Members := List (String × Json)

namespace Members

/-- Puts a member in its place; a member of that name is replaced. -/
def insert (name : String) (value : Json) : Members → Members
  | [] => [(name, value)]
  | (other, old) :: rest =>
    if name < other then (name, value) :: (other, old) :: rest
    else if name = other then (name, value) :: rest
    else (other, old) :: insert name value rest

/-- The members of a list in which a later member replaces an earlier one of the same name. -/
def ofList (members : List (String × Json)) : Members :=
  members.foldl (fun sorted (name, value) => sorted.insert name value) []

def find? (name : String) : Members → Option Json
  | [] => none
  | (other, value) :: rest => if name = other then some value else find? name rest

def without (names : List String) (members : Members) : Members :=
  members.filter fun (name, _) => !names.contains name

def Sorted (members : Members) : Prop :=
  members.Pairwise fun first second => first.1 < second.1

end Members

/-- The value of a member, if the value is an object that has it. -/
def Json.member? (name : String) : Json → Option Json
  | .object members => Members.find? name members
  | _ => none

end Possession

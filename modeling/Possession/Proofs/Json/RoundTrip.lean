import Possession.Json.Members
import Possession.Proofs.Json.Members
import Possession.Proofs.Json.Printing

/-!
# Values read back

A value without doubles that is in normal form reads back from its text as itself if it is not
nested too deep, and not at all if it is: that is the only limit.
-/

namespace Possession.Json

/-! ## Normal form and depth -/

mutual

/-- Whether a value is as values are kept: its integers fit 64 bits, with a sign or without, and the
members of its objects are sorted. -/
def IsNormal : Json → Prop
  | .null | .bool _ | .string _ | .number (.double _) => True
  | .number (.integer n) => leastInt64 ≤ n ∧ n ≤ greatestSignificand
  | .array items => ItemsNormal items
  | .object members => Members.Sorted members ∧ MembersNormal members

def ItemsNormal : List Json → Prop
  | [] => True
  | item :: items => IsNormal item ∧ ItemsNormal items

def MembersNormal : List (String × Json) → Prop
  | [] => True
  | (_, value) :: members => IsNormal value ∧ MembersNormal members

end

mutual

/-- The levels of brackets of a value. -/
def height : Json → Nat
  | .array items => itemsHeight items + 1
  | .object members => membersHeight members + 1
  | _ => 0

def itemsHeight : List Json → Nat
  | [] => 0
  | item :: items => max (height item) (itemsHeight items)

def membersHeight : List (String × Json) → Nat
  | [] => 0
  | (_, value) :: members => max (height value) (membersHeight members)

end

/-! ### Members, one by one -/

section

variable {members : List (String × Json)}

theorem membersHoldNoDouble_iff :
    MembersHoldNoDouble members ↔ ∀ member ∈ members, member.2.HoldsNoDouble := by
  induction members with
  | nil => simp [MembersHoldNoDouble]
  | cons member members ih => simp [MembersHoldNoDouble, ih]

theorem membersNormal_iff : MembersNormal members ↔ ∀ member ∈ members, member.2.IsNormal := by
  induction members with
  | nil => simp [MembersNormal]
  | cons member members ih => simp [MembersNormal, ih]

theorem membersHeight_le_iff {depth : Nat} :
    membersHeight members ≤ depth ↔ ∀ member ∈ members, member.2.height ≤ depth := by
  induction members with
  | nil => simp [membersHeight]
  | cons member members ih => simp only [membersHeight, Nat.max_le, ih, List.forall_mem_cons]

end

/-! ## Trees -/

/-- Two parts are both within the limit or the whole is not. -/
theorem ite_max_le {α : Type} {m n depth : Nat} (value : α) :
    (if max m n ≤ depth then some value else none) =
      if m ≤ depth then if n ≤ depth then some value else none else none := by
  simp only [Nat.max_le]
  by_cases hm : m ≤ depth <;> simp [hm]

mutual

/-- A value is read from its tree exactly if it has no more levels than are allowed. -/
theorem ofTree?_toTree : ∀ (value : Json) (depth : Nat), value.HoldsNoDouble → value.IsNormal →
    ofTree? .byName depth (toTree value) = if value.height ≤ depth then some value else none
  | .null, _, _, _ => by simp [toTree, ofTree?, height]
  | .bool _, _, _, _ => by simp [toTree, ofTree?, height]
  | .number (.integer n), _, _, hnormal => by
    simp [toTree, ofTree?, height, value?_ofInt hnormal.1 hnormal.2]
  | .number (.double _), _, hdouble, _ => hdouble.elim
  | .string text, _, _, _ => by simp [toTree, ofTree?, height]
  | .array items, 0, _, _ => by simp [toTree, ofTree?, height]
  | .array items, depth + 1, hdouble, hnormal => by
    rw [toTree, ofTree?, ofItems?_itemTrees items depth hdouble hnormal, height]
    by_cases hdepth : itemsHeight items ≤ depth <;> simp [hdepth]
  | .object members, 0, _, _ => by simp [toTree, ofTree?, height]
  | .object members, depth + 1, hdouble, hnormal => by
    rw [toTree, ofTree?, ofMembers?_memberTrees members depth hdouble hnormal.2, height]
    by_cases hdepth : membersHeight members ≤ depth
    · simp [hdepth, Arrangement.arrange, Members.ofList_of_sorted hnormal.1]
    · simp [hdepth]

theorem ofItems?_itemTrees : ∀ (items : List Json) (depth : Nat), ItemsHoldNoDouble items →
    ItemsNormal items →
    ofItems? .byName depth (itemTrees items) =
      if itemsHeight items ≤ depth then some items else none
  | [], _, _, _ => by simp [itemTrees, ofItems?, itemsHeight]
  | item :: items, depth, hdouble, hnormal => by
    rw [itemTrees, ofItems?, ofTree?_toTree item depth hdouble.1 hnormal.1,
      ofItems?_itemTrees items depth hdouble.2 hnormal.2, itemsHeight, ite_max_le]
    by_cases hitem : item.height ≤ depth <;> by_cases hitems : itemsHeight items ≤ depth <;>
      simp [hitem, hitems]

/-- The members of an object come back in the order of the text. -/
theorem ofMembers?_memberTrees : ∀ (members : List (String × Json)) (depth : Nat),
    MembersHoldNoDouble members → MembersNormal members →
    ofMembers? .byName depth (memberTrees members) =
      if membersHeight members ≤ depth then some members else none
  | [], _, _, _ => by simp [memberTrees, ofMembers?, membersHeight]
  | (name, value) :: members, depth, hdouble, hnormal => by
    rw [memberTrees, ofMembers?, ofTree?_toTree value depth hdouble.1 hnormal.1,
      ofMembers?_memberTrees members depth hdouble.2 hnormal.2, membersHeight, ite_max_le]
    by_cases hvalue : value.height ≤ depth <;> by_cases hmembers : membersHeight members ≤ depth <;>
      simp [hvalue, hmembers]

end

/-- The members of an object are named in its tree. -/
theorem nameMembers?_memberTrees (members : List (String × Json)) :
    nameMembers? (memberTrees members) =
      some (members.map fun member => (member.1, toTree member.2)) := by
  induction members with
  | nil => rfl
  | cons member members ih =>
    obtain ⟨name, value⟩ := member
    rw [nameMembers?] at ih
    rw [memberTrees, nameMembers?, List.mapM_cons, ih]
    dsimp only
    rw [stringText?_contentOf]
    rfl

/-- Members that are strings are read from their trees at any depth and in any arrangement. -/
theorem ofMembers?_strings (kept : Arrangement) (depth : Nat) (texts : List (String × String)) :
    ofMembers? kept depth (memberTrees (texts.map fun text => (text.1, .string text.2))) =
      some (texts.map fun text => (text.1, .string text.2)) := by
  induction texts with
  | nil => rfl
  | cons text texts ih =>
    simp only [List.map_cons, memberTrees, ofMembers?, toTree, ofTree?, stringText?_contentOf, ih]
    rfl

/-! ## Texts -/

/-- The members of the text of an object are those of its tree. -/
theorem parseMembers?_print (members : List (String × Json)) :
    parseMembers? .byName (Bytes.ofText (Json.object members).print) =
      ofMembers? .byName (depthLimit - 1) (memberTrees members) := by
  rw [parseMembers?, Tree.parse?_print, toTree]
  rfl

/-- The members of a text that is an object, with their values as written. -/
def textMembers? (text : Bytes) : Option (List (String × Tree)) :=
  match Tree.parse? text with
  | some (.object members) => nameMembers? members
  | _ => none

theorem textMembers?_print (members : List (String × Json)) :
    textMembers? (Bytes.ofText (Json.object members).print) =
      some (members.map fun member => (member.1, toTree member.2)) := by
  rw [textMembers?, Tree.parse?_print, toTree]
  exact nameMembers?_memberTrees members

end Possession.Json

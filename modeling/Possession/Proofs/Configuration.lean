import Possession.Configuration.Path

/-!
# Looking into a configuration

What a change does to a configuration is said by what can be looked up afterwards: setting a value
changes what is found at its place and nowhere else.
-/

namespace Possession.Configuration

/-! ## Equality -/

mutual

def Value.same : Value → Value → Bool
  | .empty, .empty => true
  | .boolean first, .boolean second => first == second
  | .integer first, .integer second => first == second
  | .float first, .float second => first == second
  | .text first, .text second => first == second
  | .list first, .list second => sameItems first second
  | .table first, .table second => sameEntries first second
  | _, _ => false

def sameItems : List Value → List Value → Bool
  | [], [] => true
  | item :: first, other :: second => item.same other && sameItems first second
  | _, _ => false

def sameEntries : List (String × Value) → List (String × Value) → Bool
  | [], [] => true
  | (name, value) :: first, (other, value') :: second =>
    name == other && value.same value' && sameEntries first second
  | _, _ => false

end

mutual

theorem Value.same_iff : ∀ first second : Value, first.same second = true ↔ first = second
  | .list items, second => by cases second <;> simp [Value.same, sameItems_iff items]
  | .table entries, second => by cases second <;> simp [Value.same, sameEntries_iff entries]
  | .empty, second | .boolean _, second | .integer _, second | .float _, second
  | .text _, second => by cases second <;> simp [Value.same]

theorem sameItems_iff : ∀ first second : List Value, sameItems first second = true ↔ first = second
  | [], second => by cases second <;> simp [sameItems]
  | item :: first, second => by
    cases second <;> simp [sameItems, Value.same_iff item, sameItems_iff first]

theorem sameEntries_iff :
    ∀ first second : List (String × Value), sameEntries first second = true ↔ first = second
  | [], second => by cases second <;> simp [sameEntries]
  | (_, value) :: first, second => by
    cases second <;>
      simp [sameEntries, Value.same_iff value, sameEntries_iff first, Prod.ext_iff, and_assoc]

end

instance : DecidableEq Value := fun first second => decidable_of_iff _ (Value.same_iff first second)

variable {entries : List (String × Value)} {key other : String} {change : Value → Value}

/-! ## One table -/

theorem find?_updateEntry :
    find? other (updateEntry key change entries) =
      if other = key then some (change ((find? key entries).getD .empty))
      else find? other entries := by
  induction entries with
  | nil => rfl
  | cons entry entries ih =>
    obtain ⟨name, value⟩ := entry
    rw [updateEntry]
    by_cases hkey : key = name
    · subst hkey
      by_cases hother : other = key <;> simp [find?, hother]
    · by_cases hother : other = key
      · subst hother
        simp [find?, hkey, ih]
      · rw [if_neg hkey, if_neg hother]
        simp only [find?, ih, if_neg hother]

theorem find?_updateEntry_of_ne (h : other ≠ key) :
    find? other (updateEntry key change entries) = find? other entries := by
  rw [find?_updateEntry, if_neg h]

@[simp] theorem find?_updateEntry_self :
    find? key (updateEntry key change entries) =
      some (change ((find? key entries).getD .empty)) := by
  rw [find?_updateEntry, if_pos rfl]

/-! ## A name in a table of the root -/

/-- The value under a name in a table of the root. -/
def foundIn? (table name : String) (root : Value) : Option Value :=
  find? name ((find? table root.entries).getD .empty).entries

variable {table name : String} {value root : Value}

/-- Setting a value at a name makes its table one, whatever it was before. -/
theorem find?_set :
    find? other (set [.key table, .key name] value root).entries =
      if other = table then
        some (.table (updateEntry name (merge value)
          ((find? table root.entries).getD .empty).entries))
      else find? other root.entries :=
  find?_updateEntry

/-- Setting a value changes what is found at its place only. -/
theorem foundIn?_set (table' name' : String) :
    foundIn? table' name' (set [.key table, .key name] value root) =
      if table' = table ∧ name' = name then
        some (merge value ((foundIn? table name root).getD .empty))
      else foundIn? table' name' root := by
  rw [foundIn?, find?_set]
  by_cases htable : table' = table
  · subst htable
    rw [if_pos rfl, Option.getD_some, Value.entries, find?_updateEntry]
    by_cases hname : name' = name <;> simp [hname, foundIn?]
  · rw [if_neg htable, if_neg (fun h => htable h.1), foundIn?]

/-! ## Values that replace -/

/-- Whether a value replaces what it meets: it is not a table. -/
def Value.Replaces (value : Value) : Prop := ∀ entries, value ≠ .table entries

theorem Value.Replaces.merge_eq (h : value.Replaces) (existing : Value) :
    merge value existing = value := by
  cases value with
  | table entries => exact absurd rfl (h entries)
  | _ => rfl

end Possession.Configuration

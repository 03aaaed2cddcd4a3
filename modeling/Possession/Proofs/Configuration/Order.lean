import Mathlib.Data.List.TakeWhile
import Possession.Proofs.Configuration

/-!
# The order of a source

Values at places that part at a name can be set in either order, up to the order of the entries in
tables. So a source depends on its order only if one of its places reaches into another one, or two
of them lead to an index of one list.
-/

namespace Possession.Configuration

/-! ## Configurations up to the order of entries -/

/-- What stands at the end of a path of names. Of a table this says only that it is one. -/
def standsAt? : List String → Value → Option Value
  | [], .table _ => some (.table [])
  | [], value => some value
  | name :: names, value => (find? name value.entries).bind (standsAt? names)

/-- Whether the same stands at every path of names. -/
def Alike (first second : Value) : Prop :=
  ∀ names, standsAt? names first = standsAt? names second

theorem standsAt?_nil_ne_none (value : Value) : standsAt? [] value ≠ none := by
  cases value <;> simp [standsAt?]

namespace Alike

variable {first second third : Value}

theorem refl (value : Value) : Alike value value := fun _ => rfl

theorem trans (h : Alike first second) (h' : Alike second third) : Alike first third :=
  fun names => (h names).trans (h' names)

/-- Values that are alike are the same, or both are tables. -/
theorem eq_or_tables (h : Alike first second) :
    first = second ∨ ∃ entries entries', first = .table entries ∧ second = .table entries' := by
  have hnil := h []
  cases first with
  | table entries =>
    cases second with
    | table entries' => exact .inr ⟨entries, entries', rfl, rfl⟩
    | _ => cases hnil
  | _ =>
    cases second with
    | table entries' => cases hnil
    | _ => exact .inl (Option.some.inj hnil)

theorem items_eq (h : Alike first second) : first.items = second.items := by
  rcases h.eq_or_tables with rfl | ⟨_, _, rfl, rfl⟩ <;> rfl

/-- Under one name there is nothing in both, or values that are alike. -/
theorem find? (h : Alike first second) (name : String) :
    (find? name first.entries = none ∧ find? name second.entries = none) ∨
      ∃ value other, Configuration.find? name first.entries = some value ∧
        Configuration.find? name second.entries = some other ∧ Alike value other := by
  have hname (names : List String) :
      (Configuration.find? name first.entries).bind (standsAt? names) =
        (Configuration.find? name second.entries).bind (standsAt? names) := h (name :: names)
  cases hfirst : Configuration.find? name first.entries with
  | none =>
    cases hsecond : Configuration.find? name second.entries with
    | none => exact .inl ⟨rfl, rfl⟩
    | some other =>
      rw [hfirst, hsecond] at hname
      exact absurd (hname []).symm (standsAt?_nil_ne_none other)
  | some value =>
    cases hsecond : Configuration.find? name second.entries with
    | none =>
      rw [hfirst, hsecond] at hname
      exact absurd (hname []) (standsAt?_nil_ne_none value)
    | some other =>
      rw [hfirst, hsecond] at hname
      exact .inr ⟨value, other, rfl, rfl, hname⟩

theorem getD (h : Alike first second) (name : String) :
    Alike ((Configuration.find? name first.entries).getD .empty)
      ((Configuration.find? name second.entries).getD .empty) := by
  rcases h.find? name with ⟨hfirst, hsecond⟩ | ⟨_, _, hfirst, hsecond, hvalue⟩
  · rw [hfirst, hsecond]
    exact .refl _
  · rw [hfirst, hsecond]
    exact hvalue

end Alike

/-! ## Changes keep configurations alike -/

theorem standsAt?_updateEntry {entries : List (String × Value)} {key name : String}
    {names : List String} {change : Value → Value} :
    standsAt? (name :: names) (.table (updateEntry key change entries)) =
      if name = key then standsAt? names (change ((find? key entries).getD .empty))
      else (find? name entries).bind (standsAt? names) := by
  rw [standsAt?, Value.entries, find?_updateEntry]
  split <;> rfl

namespace Alike

variable {first second : Value}

theorem updateEntry {change : Value → Value}
    (hchange : ∀ value other, Alike value other → Alike (change value) (change other))
    (name : String) (h : Alike first second) :
    Alike (.table (updateEntry name change first.entries))
      (.table (updateEntry name change second.entries)) := by
  intro names
  cases names with
  | nil => rfl
  | cons other names =>
    rw [standsAt?_updateEntry, standsAt?_updateEntry]
    split
    · exact hchange _ _ (h.getD name) names
    · exact h (other :: names)

mutual

theorem merge : ∀ (incoming : Value) {first second : Value}, Alike first second →
    Alike (Configuration.merge incoming first) (Configuration.merge incoming second)
  | .table entries, _, _, h => by
    simpa only [Configuration.merge] using mergeEntries entries h
  | .empty, _, _, _ | .boolean _, _, _, _ | .integer _, _, _, _ | .float _, _, _, _
  | .text _, _, _, _ | .list _, _, _, _ => .refl _

theorem mergeEntries : ∀ (incoming : List (String × Value)) {first second : Value},
    Alike first second → Alike (.table (Configuration.mergeEntries incoming first.entries))
      (.table (Configuration.mergeEntries incoming second.entries))
  | [], first, second, h => by
    intro names
    cases names with
    | nil => rfl
    | cons name names => exact h (name :: names)
  | (key, value) :: rest, _, _, h =>
    mergeEntries rest (h.updateEntry (fun _ _ hvalue => merge value hvalue) key)

end

theorem update {change : Value → Value}
    (hchange : ∀ value other, Alike value other → Alike (change value) (change other))
    (path : Path) (h : Alike first second) :
    Alike (update change path first) (update change path second) := by
  induction path generalizing first second with
  | nil => exact hchange _ _ h
  | cons step path ih =>
    cases step with
    | key name => exact h.updateEntry (fun _ _ hvalue => ih hvalue) name
    | index position =>
      rw [Configuration.update, Configuration.update, h.items_eq]
      exact .refl _

theorem set (path : Path) (value : Value) (h : Alike first second) :
    Alike (set path value first) (set path value second) :=
  h.update (fun _ _ hvalue => hvalue.merge value) path

theorem overlay (source : List (String × Value)) (h : Alike first second) :
    Alike (overlay source first) (overlay source second) := by
  induction source generalizing first second with
  | nil => exact h
  | cons entry source ih => exact ih (h.set (placeOf entry.1) entry.2)

end Alike

/-! ## Places that part -/

/-- Whether two places part at a name: none of them lies in the other one. -/
inductive Apart : Path → Path → Prop
  | here {name other : String} (h : name ≠ other) (rest rest' : Path) :
    Apart (.key name :: rest) (.key other :: rest')
  | there (name : String) {rest rest' : Path} (h : Apart rest rest') :
    Apart (.key name :: rest) (.key name :: rest')

theorem Apart.symm {place other : Path} (h : Apart place other) : Apart other place := by
  induction h with
  | here hname rest rest' => exact .here hname.symm rest' rest
  | there name _ ih => exact .there name ih

/-- Changes at places that part can be made in either order. -/
theorem Apart.update_comm {place other : Path} (h : Apart place other)
    (change change' : Value → Value) (root : Value) :
    Alike (update change place (update change' other root))
      (update change' other (update change place root)) := by
  induction h generalizing root with
  | @here name other hname rest rest' =>
    intro names
    cases names with
    | nil => rfl
    | cons third names =>
      simp only [update, Value.entries, standsAt?_updateEntry, find?_updateEntry_of_ne hname,
        find?_updateEntry_of_ne hname.symm]
      by_cases hfirst : third = name
      · subst hfirst
        rw [if_pos rfl, if_neg hname, find?_updateEntry_self, Option.bind_some]
      · by_cases hsecond : third = other
        · subst hsecond
          rw [if_neg hfirst, if_pos rfl, find?_updateEntry_self, Option.bind_some]
        · rw [if_neg hfirst, if_neg hsecond, find?_updateEntry_of_ne hfirst,
            find?_updateEntry_of_ne hsecond]
  | there name _ ih =>
    intro names
    cases names with
    | nil => rfl
    | cons third names =>
      simp only [update, Value.entries, standsAt?_updateEntry, find?_updateEntry_self,
        Option.getD_some]
      by_cases hthird : third = name
      · rw [if_pos hthird, if_pos hthird]
        exact ih _ names
      · rw [if_neg hthird, if_neg hthird, find?_updateEntry_of_ne hthird,
          find?_updateEntry_of_ne hthird]

/-- Whether the places of a source part from each other. -/
def Parted (source : List (String × Value)) : Prop :=
  source.Pairwise fun entry other => Apart (placeOf entry.1) (placeOf other.1)

/-- A source whose places part leads to the same configuration in any order. -/
theorem Parted.overlay_perm {source reordered : List (String × Value)} (hparted : Parted source)
    (hperm : source.Perm reordered) (root : Value) :
    Alike (overlay source root) (overlay reordered root) := by
  induction hperm generalizing root with
  | nil => exact .refl _
  | cons entry _ ih => exact ih (List.pairwise_cons.mp hparted).2 _
  | swap entry other source =>
    have happart := (List.pairwise_cons.mp hparted).1 entry List.mem_cons_self
    exact (happart.symm.update_comm (merge entry.2) (merge other.2) root).overlay source
  | trans hfirst _ ih ih' =>
    exact (ih hparted root).trans (ih' (hparted.perm hfirst fun h => h.symm) root)

/-! ## Names without dots -/

/-- A name of letters, digits, underscores and hyphens stands for the entry of that name. -/
theorem placeOf_of_isNameChar {name : String} (hne : name ≠ "")
    (h : name.toList.all isNameChar = true) : placeOf name = [.key name] := by
  rw [List.all_eq_true] at h
  have htake : name.toList.takeWhile isNameChar = name.toList := List.takeWhile_eq_self_iff.mpr h
  have hdrop : name.toList.dropWhile isNameChar = [] := List.dropWhile_eq_nil_iff.mpr h
  have hlist : name.toList.isEmpty = false := by simpa using hne
  simp [placeOf, readPath?, readName?, htake, hdrop, hlist, readSteps?]

/-- The places of a source part if its names are different and need no quotes. -/
theorem parted_of_nodup {source : List (String × Value)} (hnodup : (source.map Prod.fst).Nodup)
    (hnames : ∀ entry ∈ source, entry.1 ≠ "" ∧ entry.1.toList.all isNameChar = true) :
    Parted source := by
  have hplace : ∀ entry ∈ source, placeOf entry.1 = [.key entry.1] := fun entry hentry =>
    placeOf_of_isNameChar (hnames entry hentry).1 (hnames entry hentry).2
  rw [List.Nodup, List.pairwise_map] at hnodup
  refine hnodup.imp_of_mem fun {entry other} hentry hother hne => ?_
  rw [hplace entry hentry, hplace other hother]
  exact .here hne [] []

/-- A table and a place in it do not part, and the later one counts. -/
example :
    overlay [("a.b", .integer 1), ("a", .table [("b", .integer 2)])] (.table []) ≠
      overlay [("a", .table [("b", .integer 2)]), ("a.b", .integer 1)] (.table []) := by
  decide

end Possession.Configuration

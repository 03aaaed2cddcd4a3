import Possession.Json.Members

/-!
# Sorted members

Putting a member in its place keeps the order and is seen by looking it up, and by nothing else.
Where the names ascend already, sorting changes nothing.
-/

namespace Possession.Members

instance (members : Members) : Decidable (Sorted members) :=
  inferInstanceAs (Decidable (List.Pairwise _ _))

/-- A name after all others is put at the end. -/
theorem insert_of_forall_lt {name : String} {members : Members}
    (h : ∀ member ∈ members, member.1 < name) (value : Json) :
    members.insert name value = members ++ [(name, value)] := by
  induction members with
  | nil => rfl
  | cons member rest ih =>
    obtain ⟨other, old⟩ := member
    have hlt : other < name := h (other, old) (by simp)
    have hne : name ≠ other := fun heq => String.lt_irrefl _ (heq ▸ hlt)
    rw [insert, if_neg (String.lt_asymm hlt), if_neg hne,
      ih fun member hmember => h member (by simp [hmember])]
    rfl

theorem foldl_insert_of_sorted {front back : Members} (h : Sorted (front ++ back)) :
    back.foldl (fun sorted (name, value) => sorted.insert name value) front = front ++ back := by
  induction back generalizing front with
  | nil => simp
  | cons member back ih =>
    obtain ⟨name, value⟩ := member
    have hlast : ∀ other ∈ front, other.1 < name := fun other hother =>
      (List.pairwise_append.mp h).2.2 other hother (name, value) (by simp)
    have hsorted : Sorted (front ++ [(name, value)] ++ back) := by simpa using h
    have hinsert := insert_of_forall_lt hlast value
    simp only [List.foldl_cons, hinsert, ih hsorted, List.append_assoc, List.singleton_append]

/-- Sorted members stay as they are. -/
theorem ofList_of_sorted {members : Members} (h : members.Sorted) : ofList members = members :=
  @foldl_insert_of_sorted [] members h

/-- Sorted members have a name each. -/
theorem Sorted.nodup {members : Members} (h : members.Sorted) : (members.map Prod.fst).Nodup := by
  refine List.pairwise_map.mpr (h.imp fun {first second} hlt heq => ?_)
  exact absurd (heq ▸ hlt) (String.lt_irrefl _)

theorem Sorted.without {members : Members} (h : members.Sorted) (names : List String) :
    (members.without names).Sorted :=
  List.Pairwise.filter _ h

theorem mem_insert {name : String} {value : Json} {members : Members} {member : String × Json}
    (h : member ∈ members.insert name value) : member = (name, value) ∨ member ∈ members := by
  induction members with
  | nil => exact .inl (List.mem_singleton.mp h)
  | cons first rest ih =>
    obtain ⟨other, old⟩ := first
    rw [insert] at h
    split at h
    · exact (List.mem_cons.mp h)
    split at h
    · exact (List.mem_cons.mp h).imp_right (List.mem_cons_of_mem _)
    · rcases List.mem_cons.mp h with h | h
      · exact .inr (h ▸ List.mem_cons_self)
      · exact (ih h).imp_right (List.mem_cons_of_mem _)

theorem Sorted.insert {members : Members} (h : members.Sorted) (name : String) (value : Json) :
    (members.insert name value).Sorted := by
  induction members with
  | nil => exact List.pairwise_singleton _ _
  | cons first rest ih =>
    obtain ⟨other, old⟩ := first
    obtain ⟨hfirst, hrest⟩ := List.pairwise_cons.mp h
    rw [Members.insert]
    split
    · next hlt =>
      refine List.pairwise_cons.mpr ⟨fun member hmember => ?_, h⟩
      rcases List.mem_cons.mp hmember with rfl | hmember
      · exact hlt
      · exact String.lt_trans hlt (hfirst member hmember)
    split
    · next heq =>
      subst heq
      exact List.pairwise_cons.mpr ⟨hfirst, hrest⟩
    · next hnot hne =>
      refine List.pairwise_cons.mpr ⟨fun member hmember => ?_, ih hrest⟩
      rcases mem_insert hmember with rfl | hmember
      · exact Decidable.byContradiction fun hle => hne (String.le_antisymm hle hnot)
      · exact hfirst member hmember

/-- A member that was put in is found, and no other one is touched. -/
theorem find?_insert (name other : String) (value : Json) (members : Members) :
    (members.insert name value).find? other =
      if other = name then some value else members.find? other := by
  induction members with
  | nil => rfl
  | cons first rest ih =>
    obtain ⟨key, old⟩ := first
    rw [insert]
    split
    · rfl
    split
    · next heq =>
      subst heq
      by_cases hother : other = name <;> simp [find?, hother]
    · next _ hne =>
      rw [find?, ih, find?]
      by_cases hkey : other = key
      · have hname : other ≠ name := fun heq => hne (heq ▸ hkey)
        simp [hkey, hkey ▸ hname]
      · simp [hkey]

/-! ### Many members, one after the other -/

section

variable {members : Members}

theorem Sorted.foldl_insert (added : List (String × Json)) (h : members.Sorted) :
    Sorted (added.foldl (fun sorted (name, value) => sorted.insert name value) members) := by
  induction added generalizing members with
  | nil => exact h
  | cons member added ih => exact ih (h.insert _ _)

theorem sorted_ofList (added : List (String × Json)) : (ofList added).Sorted :=
  @Sorted.foldl_insert [] added List.Pairwise.nil

theorem mem_foldl_insert {added : List (String × Json)} {member : String × Json}
    (h : member ∈ added.foldl (fun sorted (name, value) => sorted.insert name value) members) :
    member ∈ added ∨ member ∈ members := by
  induction added generalizing members with
  | nil => exact .inr h
  | cons first added ih =>
    rcases ih h with hadded | hmembers
    · exact .inl (List.mem_cons_of_mem _ hadded)
    · rcases mem_insert hmembers with rfl | hmembers
      · exact .inl List.mem_cons_self
      · exact .inr hmembers

/-- Sorting makes up no members. -/
theorem mem_of_mem_ofList {added : List (String × Json)} {member : String × Json}
    (h : member ∈ ofList added) : member ∈ added :=
  (mem_foldl_insert h).resolve_right (List.not_mem_nil)

theorem find?_of_forall_ne {name : String} (h : ∀ member ∈ members, member.1 ≠ name) :
    find? name members = none := by
  induction members with
  | nil => rfl
  | cons first rest ih =>
    obtain ⟨hfirst, hrest⟩ := List.forall_mem_cons.mp h
    rw [find?, if_neg (Ne.symm hfirst), ih hrest]

/-- A name before all others is not found. -/
theorem find?_of_forall_lt {name : String} (h : ∀ member ∈ members, name < member.1) :
    find? name members = none :=
  find?_of_forall_ne fun member hmember heq => String.lt_irrefl _ (heq ▸ h member hmember)

theorem Sorted.forall_lt {name : String} {first : String × Json} {rest : Members}
    (h : Sorted (first :: rest)) (hlt : name < first.1) :
    ∀ member ∈ first :: rest, name < member.1 := by
  intro member hmember
  rcases List.mem_cons.mp hmember with rfl | hmember
  · exact hlt
  · exact String.lt_trans hlt ((List.pairwise_cons.mp h).1 member hmember)

/-- Members that are put in hide those of the same names that were there. -/
theorem find?_foldl_insert {added : Members} (h : added.Sorted) (members : Members)
    (name : String) :
    find? name (added.foldl (fun sorted (name, value) => sorted.insert name value) members) =
      (find? name added).or (find? name members) := by
  induction added generalizing members with
  | nil => rfl
  | cons first added ih =>
    obtain ⟨key, value⟩ := first
    obtain ⟨hfirst, hrest⟩ := List.pairwise_cons.mp h
    rw [List.foldl_cons, ih hrest, find?_insert, find?]
    by_cases hname : name = key
    · have hnone : find? name added = none := find?_of_forall_lt (hname ▸ hfirst)
      simp [hname, hname ▸ hnone]
    · simp [hname]

/-- Sorted members are known by what is found in them. -/
theorem eq_of_find?_eq {other : Members} (h : members.Sorted) (hother : other.Sorted)
    (hfind : ∀ name, find? name members = find? name other) : members = other := by
  induction members generalizing other with
  | nil =>
    cases other with
    | nil => rfl
    | cons first rest => simpa [find?] using hfind first.1
  | cons first rest ih =>
    obtain ⟨key, value⟩ := first
    cases other with
    | nil => simpa [find?] using hfind key
    | cons first' rest' =>
      obtain ⟨key', value'⟩ := first'
      -- a least name is found on both sides, so neither side starts before the other
      have hnot : ¬ key < key' := fun hlt => by
        have hnone := hfind key
        rw [find?_of_forall_lt (hother.forall_lt hlt), find?, if_pos rfl] at hnone
        cases hnone
      have hnot' : ¬ key' < key := fun hlt => by
        have hnone := hfind key'
        rw [find?_of_forall_lt (h.forall_lt hlt), find?, if_pos rfl] at hnone
        cases hnone
      obtain rfl : key = key' := String.le_antisymm hnot' hnot
      obtain rfl : value = value' := by simpa [find?] using hfind key
      obtain ⟨hfirst, hrest⟩ := List.pairwise_cons.mp h
      obtain ⟨hfirst', hrest'⟩ := List.pairwise_cons.mp hother
      have hfindRest : ∀ name, find? name rest = find? name rest' := fun name => by
        by_cases hname : name = key
        · rw [hname, find?_of_forall_lt hfirst, find?_of_forall_lt hfirst']
        · simpa [find?, hname] using hfind name
      rw [ih hrest hrest' hfindRest]

end

/-! ## Leaving out names -/

section

variable {names : List String} {members : Members}

theorem mem_without {member : String × Json} :
    member ∈ members.without names ↔ member ∈ members ∧ member.1 ∉ names := by
  simp [without]

theorem without_eq_self (h : ∀ member ∈ members, member.1 ∉ names) :
    members.without names = members :=
  List.filter_eq_self.mpr fun member hmember => by simpa using h member hmember

theorem without_append (front back : Members) :
    (front ++ back).without names = front.without names ++ back.without names :=
  List.filter_append ..

theorem without_eq_nil (h : ∀ member ∈ members, member.1 ∈ names) : members.without names = [] :=
  List.filter_eq_nil_iff.mpr fun member hmember => by simpa using h member hmember

theorem without_cons_of_mem {member : String × Json} (h : member.1 ∈ names) :
    without names (member :: members) = members.without names :=
  List.filter_cons_of_neg (by simpa using h)

theorem without_cons_of_notMem {member : String × Json} (h : member.1 ∉ names) :
    without names (member :: members) = member :: members.without names :=
  List.filter_cons_of_pos (by simpa using h)

theorem find?_without {name : String} (h : name ∉ names) (members : Members) :
    (members.without names).find? name = members.find? name := by
  induction members with
  | nil => rfl
  | cons first rest ih =>
    obtain ⟨other, value⟩ := first
    by_cases hother : other ∈ names
    · have hne : name ≠ other := fun heq => h (heq ▸ hother)
      rw [without_cons_of_mem hother, ih, find?, if_neg hne]
    · rw [without_cons_of_notMem hother, find?, ih, find?]

/-- A member with a name that is left out leaves no trace. -/
theorem without_insert_of_mem {name : String} (h : name ∈ names) (value : Json) :
    (members.insert name value).without names = members.without names := by
  induction members with
  | nil => exact without_cons_of_mem h
  | cons first rest ih =>
    obtain ⟨other, old⟩ := first
    rw [insert]
    split
    · exact without_cons_of_mem h
    split
    · next heq =>
      rw [without_cons_of_mem h, without_cons_of_mem (heq ▸ h)]
    · by_cases hother : other ∈ names
      · rw [without_cons_of_mem hother, without_cons_of_mem hother, ih]
      · rw [without_cons_of_notMem hother, without_cons_of_notMem hother, ih]

/-- A member before all others is put in front. -/
theorem insert_of_forall_gt {name : String} (h : ∀ member ∈ members, name < member.1)
    (value : Json) : members.insert name value = (name, value) :: members := by
  cases members with
  | nil => rfl
  | cons first rest => exact if_pos (h first (by simp))

theorem without_insert_of_notMem (hsorted : members.Sorted) {name : String} (h : name ∉ names)
    (value : Json) :
    (members.insert name value).without names = (members.without names).insert name value := by
  induction members with
  | nil => exact without_cons_of_notMem h
  | cons first rest ih =>
    obtain ⟨other, old⟩ := first
    obtain ⟨hfirst, hrest⟩ := List.pairwise_cons.mp hsorted
    rw [insert]
    split
    · next hlt =>
      -- all that is left comes after the new member
      have hall : ∀ member ∈ without names ((other, old) :: rest), name < member.1 :=
        fun member hmember => hsorted.forall_lt hlt member (mem_without.mp hmember).1
      rw [without_cons_of_notMem h, insert_of_forall_gt hall]
    split
    · next heq =>
      subst heq
      rw [without_cons_of_notMem h, without_cons_of_notMem h, insert, if_neg (String.lt_irrefl _),
        if_pos rfl]
    · next hlt hne =>
      by_cases hother : other ∈ names
      · rw [without_cons_of_mem hother, without_cons_of_mem hother, ih hrest]
      · rw [without_cons_of_notMem hother, without_cons_of_notMem hother, ih hrest, insert,
          if_neg hlt, if_neg hne]

theorem without_foldl_insert (added : List (String × Json)) (hsorted : members.Sorted) :
    without names (added.foldl (fun sorted (name, value) => sorted.insert name value) members) =
      (without names added).foldl (fun sorted (name, value) => sorted.insert name value)
        (members.without names) := by
  induction added generalizing members with
  | nil => rfl
  | cons member added ih =>
    obtain ⟨name, value⟩ := member
    rw [List.foldl_cons, ih (hsorted.insert name value)]
    by_cases hname : name ∈ names
    · rw [without_insert_of_mem hname, without_cons_of_mem hname]
    · rw [without_insert_of_notMem hsorted hname, without_cons_of_notMem hname, List.foldl_cons]

/-- Sorting what is left is the same as leaving out from what is sorted. -/
theorem without_ofList (added : List (String × Json)) :
    (ofList added).without names = ofList (without names added) :=
  @without_foldl_insert names [] added List.Pairwise.nil

end

end Possession.Members

namespace Possession.Json

/-! ## Single members -/

section

variable {name : String} {members : List (String × Json)}

theorem single?_append_of_forall_ne (front : List (String × Json)) {back : List (String × Json)}
    (h : ∀ member ∈ back, member.1 ≠ name) :
    single? name (front ++ back) = single? name front := by
  have hback : back.filter (fun (other, _) => other == name) = [] :=
    List.filter_eq_nil_iff.mpr fun member hmember => by simpa using h member hmember
  rw [single?, List.filter_append, hback, List.append_nil, single?]

theorem single?_append_of_forall_ne' {front : List (String × Json)} (back : List (String × Json))
    (h : ∀ member ∈ front, member.1 ≠ name) :
    single? name (front ++ back) = single? name back := by
  have hfront : front.filter (fun (other, _) => other == name) = [] :=
    List.filter_eq_nil_iff.mpr fun member hmember => by simpa using h member hmember
  rw [single?, List.filter_append, hfront, List.nil_append, single?]

/-- Sorted members repeat no name. -/
theorem single?_of_sorted (h : Members.Sorted members) :
    single? name members = some (Members.find? name members) := by
  induction members with
  | nil => rfl
  | cons first rest ih =>
    obtain ⟨other, value⟩ := first
    obtain ⟨hfirst, hrest⟩ := List.pairwise_cons.mp h
    by_cases hname : name = other
    · subst hname
      have hne : ∀ member ∈ rest, member.1 ≠ name := by
        intro member hmember heq
        exact String.lt_irrefl _ (heq ▸ hfirst member hmember)
      have hsingle := single?_append_of_forall_ne [(name, value)] hne
      rw [List.singleton_append] at hsingle
      rw [hsingle, Members.find?, if_pos rfl]
      simp [single?]
    · have hne : ∀ member ∈ [(other, value)], member.1 ≠ name := by simpa using Ne.symm hname
      have hsingle := single?_append_of_forall_ne' rest hne
      rw [List.singleton_append] at hsingle
      rw [hsingle, ih hrest, Members.find?, if_neg hname]

theorem length_filter_name (name : String) (members : List (String × Json)) :
    (members.filter fun (other, _) => other == name).length =
      (members.map Prod.fst).count name := by
  rw [List.count_eq_countP, List.countP_map, List.countP_eq_length_filter]
  rfl

/-- Only a name that is repeated has no single member. -/
theorem single?_eq_none_iff :
    single? name members = none ↔ 1 < (members.map Prod.fst).count name := by
  rw [← length_filter_name, single?]
  split
  · next hfilter => simp [hfilter]
  · next hfilter => simp [hfilter]
  · next hnil hone =>
    refine ⟨fun _ => ?_, fun _ => rfl⟩
    cases hfilter : members.filter fun (other, _) => other == name with
    | nil => exact absurd hfilter hnil
    | cons first rest =>
      cases rest with
      | nil => exact absurd hfilter (hone first.1 first.2)
      | cons second rest => simp

/-- The members of a name that is not repeated are the one that is found. -/
theorem mem_iff_of_single? {found : Option Json} (h : single? name members = some found)
    (value : Json) : (name, value) ∈ members ↔ found = some value := by
  have hmem : (name, value) ∈ members ↔
      (name, value) ∈ members.filter fun (other, _) => other == name := by
    simp [List.mem_filter]
  rw [hmem]
  rw [single?] at h
  split at h
  · next hfilter =>
    cases h
    simp [hfilter]
  · next other value' hfilter =>
    cases h
    have hname : other = name := by
      have hfirst : (other, value') ∈ members.filter fun (other, _) => other == name := by
        rw [hfilter]
        exact List.mem_singleton_self _
      exact beq_iff_eq.mp (List.mem_filter.mp hfirst).2
    rw [hfilter]
    simp [hname, eq_comm]
  · cases h

theorem mem_of_single? {value : Json} (h : single? name members = some (some value)) :
    (name, value) ∈ members :=
  (mem_iff_of_single? h value).mpr rfl

/-- A member of another name is passed over. -/
theorem single?_append_cons_of_ne {other : String} (hne : other ≠ name) (value : Json)
    (front back : List (String × Json)) :
    single? name (front ++ (other, value) :: back) = single? name (front ++ back) := by
  rw [single?, single?, List.filter_append, List.filter_append,
    List.filter_cons_of_neg (by simpa using hne)]

/-- A member that is single is so with any other value. -/
theorem single?_append_cons {value : Json} {front back : List (String × Json)}
    (h : single? name (front ++ (name, value) :: back) ≠ none) (other : Json) :
    single? name (front ++ (name, other) :: back) = some (some other) := by
  have hother : single? name (front ++ (name, other) :: back) ≠ none := by
    simpa [single?_eq_none_iff] using h
  obtain ⟨found, hfound⟩ := Option.ne_none_iff_exists'.mp hother
  rw [hfound, (mem_iff_of_single? hfound other).mp (by simp)]

/-- Under the name of the first member nothing but its value is found. -/
theorem eq_of_single?_cons {value : Json} {found : Option Json}
    (h : single? name ((name, value) :: members) = some found) : found = some value := by
  rw [single?, List.filter_cons_of_pos (by simp)] at h
  cases hrest : members.filter fun (other, _) => other == name with
  | nil =>
    rw [hrest] at h
    exact (Option.some.inj h).symm
  | cons other rest =>
    rw [hrest] at h
    cases h

theorem exists_mem_of_required? {α : Type} {read : Json → Option α} {result : α}
    (h : required? name read members = some result) :
    ∃ value, (name, value) ∈ members ∧ read value = some result := by
  rw [required?] at h
  split at h
  · next value hsingle => exact ⟨value, mem_of_single? hsingle, h⟩
  · cases h

/-- Readers of a member compose. -/
theorem required?_bind {α β : Type} (read : Json → Option α) (f : α → Option β) :
    required? name (fun value => (read value).bind f) members =
      (required? name read members).bind f := by
  rw [required?, required?]
  split <;> rfl

/-- A member that is read as absent is absent or null. -/
theorem eq_null_of_optional? {α : Type} {read : Json → Option α}
    (h : optional? name read members = some none) {value : Json}
    (hvalue : (name, value) ∈ members) :
    value = .null := by
  rw [optional?] at h
  split at h
  · cases h
  · next hsingle => cases (mem_iff_of_single? hsingle value).mp hvalue
  · next hsingle => exact (Option.some.inj ((mem_iff_of_single? hsingle value).mp hvalue)).symm
  · obtain ⟨_, _, hsome⟩ := Option.map_eq_some_iff.mp h
    cases hsome

end

end Possession.Json

import Possession.Proofs.Json.RoundTrip

/-!
# What is read is in normal form

Whatever a text holds, a value that is read from it is in normal form. These are the conditions
under which a value reads back from its own text.
-/

namespace Possession.Json

/-! ## Integers -/

/-- A significand never outgrows 64 bits. -/
theorem readSignificand_le {digits : List Nat} {start surplus : Nat}
    (h : start ≤ greatestSignificand) :
    (readSignificand start surplus digits).1 ≤ greatestSignificand := by
  induction digits generalizing start surplus with
  | nil => exact h
  | cons digit digits ih =>
    rw [readSignificand]
    split
    · next hfits => exact ih hfits.2
    · exact ih h

theorem bounds_of_value? {numeral : Numeral} {n : Int} (h : numeral.value? = some (.integer n)) :
    leastInt64 ≤ n ∧ n ≤ greatestSignificand := by
  have hleast : leastInt64 = -(2 : Int) ^ 63 := rfl
  have hgreatest : greatestSignificand = 2 ^ 64 - 1 := rfl
  have hbound := @readSignificand_le numeral.whole 0 0 (Nat.zero_le _)
  rw [Numeral.value?] at h
  generalize readSignificand 0 0 numeral.whole = read at h hbound
  obtain ⟨significand, surplus⟩ := read
  dsimp only at h hbound
  split at h
  · split at h
    · cases h
      omega
    · split at h
      · next hnegative =>
        have hmagnitude : significand ≤ 2 ^ 63 := hnegative.2.2
        cases h
        omega
      · simp at h
  · simp at h

/-! ## Values -/

mutual

/-- A value that is read is in normal form and has the levels of brackets that were allowed. -/
theorem isNormal_of_ofTree? : ∀ (tree : Tree) (depth : Nat) (value : Json),
    ofTree? .byName depth tree = some value → value.IsNormal ∧ value.height ≤ depth
  | .null, _, _, h | .bool _, _, _, h => by
    cases h
    exact ⟨trivial, Nat.zero_le _⟩
  | .number numeral, depth, value, h => by
    obtain ⟨number, hnumber, rfl⟩ := Option.map_eq_some_iff.mp h
    refine ⟨?_, Nat.zero_le _⟩
    cases number with
    | integer n => exact bounds_of_value? hnumber
    | double _ => trivial
  | .string content, depth, value, h => by
    obtain ⟨text, _, rfl⟩ := Option.map_eq_some_iff.mp h
    exact ⟨trivial, Nat.zero_le _⟩
  | .array _, 0, _, h | .object _, 0, _, h => by cases h
  | .array items, depth + 1, value, h => by
    obtain ⟨values, hvalues, rfl⟩ := Option.map_eq_some_iff.mp h
    obtain ⟨hnormal, hheight⟩ := itemsNormal_of_ofItems? items depth values hvalues
    exact ⟨hnormal, Nat.succ_le_succ hheight⟩
  | .object members, depth + 1, value, h => by
    obtain ⟨read, hread, rfl⟩ := Option.map_eq_some_iff.mp h
    obtain ⟨hnormal, hheight⟩ := membersNormal_of_ofMembers? members depth read hread
    have hsubset : ∀ member ∈ Members.ofList read, member ∈ read :=
      fun _ => Members.mem_of_mem_ofList
    refine ⟨⟨Members.sorted_ofList read, membersNormal_iff.mpr fun member hmember => ?_⟩,
      Nat.succ_le_succ (membersHeight_le_iff.mpr fun member hmember => ?_)⟩
    · exact membersNormal_iff.mp hnormal member (hsubset member hmember)
    · exact membersHeight_le_iff.mp hheight member (hsubset member hmember)

theorem itemsNormal_of_ofItems? : ∀ (items : List Tree) (depth : Nat) (values : List Json),
    ofItems? .byName depth items = some values →
    ItemsNormal values ∧ itemsHeight values ≤ depth
  | [], _, _, h => by
    cases h
    exact ⟨trivial, Nat.zero_le _⟩
  | item :: items, depth, values, h => by
    simp only [ofItems?, Option.bind_eq_bind, Option.bind_eq_some_iff] at h
    obtain ⟨first, hfirst, rest, hrest, h⟩ := h
    cases h
    obtain ⟨hnormal, hheight⟩ := isNormal_of_ofTree? item depth first hfirst
    obtain ⟨hnormals, hheights⟩ := itemsNormal_of_ofItems? items depth rest hrest
    exact ⟨⟨hnormal, hnormals⟩, Nat.max_le.mpr ⟨hheight, hheights⟩⟩

theorem membersNormal_of_ofMembers? : ∀ (members : List (Bytes × Tree)) (depth : Nat)
    (read : List (String × Json)), ofMembers? .byName depth members = some read →
    MembersNormal read ∧ membersHeight read ≤ depth
  | [], _, _, h => by
    cases h
    exact ⟨trivial, Nat.zero_le _⟩
  | (name, tree) :: members, depth, read, h => by
    simp only [ofMembers?, Option.bind_eq_bind, Option.bind_eq_some_iff] at h
    obtain ⟨text, _, value, hvalue, rest, hrest, h⟩ := h
    cases h
    obtain ⟨hnormal, hheight⟩ := isNormal_of_ofTree? tree depth value hvalue
    obtain ⟨hnormals, hheights⟩ := membersNormal_of_ofMembers? members depth rest hrest
    exact ⟨⟨hnormal, hnormals⟩, Nat.max_le.mpr ⟨hheight, hheights⟩⟩

end

/-! ## Texts -/

/-- The members that are read from a text are in normal form. -/
theorem membersNormal_of_parseMembers? {text : Bytes} {members : List (String × Json)}
    (h : parseMembers? .byName text = some members) :
    MembersNormal members ∧ membersHeight members ≤ depthLimit - 1 := by
  obtain ⟨tree, _, h⟩ := Option.bind_eq_some_iff.mp h
  cases tree with
  | object trees => exact membersNormal_of_ofMembers? trees _ members h
  | _ => cases h

/-- The object that is read from the text of members holds them sorted by name. -/
theorem parse?_print_object {members : List (String × Json)} (hdouble : MembersHoldNoDouble members)
    (hnormal : MembersNormal members) (hheight : membersHeight members ≤ depthLimit - 1) :
    parse? (Bytes.ofText (Json.object members).print) =
      some (.object (Members.ofList members)) := by
  have hmembers := ofMembers?_memberTrees members (depthLimit - 1) hdouble hnormal
  rw [if_pos hheight] at hmembers
  rw [parse?, Tree.parse?_print, Option.bind_eq_bind, Option.bind_some, toTree]
  change (ofMembers? .byName (depthLimit - 1) (memberTrees members)).map _ = _
  rw [hmembers]
  rfl

end Possession.Json

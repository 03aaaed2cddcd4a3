import Possession.Proofs.Json.Normal
import Possession.Proofs.Token.Claims

/-!
# Claims and their text

Claims that are read from some text, in whatever order and spelling, come back from the text that is
written for them. Read as a plain object, that text holds the payload with the standard claims
merged in.
-/

namespace Possession.Token.Claims

/-- Whether claims have the form in which they come back from their text. -/
structure IsKept (claims : Claims) : Prop where
  payload : IsPayload claims.payload
  height_le : Json.membersHeight claims.payload ≤ Json.depthLimit - 1
  issuedAt : Json.fitsInt64 claims.issuedAt = true
  expiresAt : Json.fitsInt64 claims.expiresAt = true

/-! ## What is read -/

theorem fitsInt64_of_asTimestamp? {value : Json} {time : Int} (h : asTimestamp? value = some time) :
    Json.fitsInt64 time = true := by
  rw [asTimestamp?.eq_def] at h
  split at h
  · split at h
    · next hfits => exact Option.some.inj h ▸ hfits
    · cases h
  · cases h

/-- Claims are made of the members they are read from. -/
theorem ofMembers?_eq_some {members : List (String × Json)} {claims : Claims}
    (h : ofMembers? members = some claims) :
    Json.fitsInt64 claims.issuedAt = true ∧ Json.fitsInt64 claims.expiresAt = true ∧
      claims.payload = (Members.ofList members).without reservedNames := by
  simp only [ofMembers?, Option.bind_eq_bind, Option.bind_eq_some_iff] at h
  obtain ⟨issuer, _, issuedAt, hissuedAt, expiresAt, hexpiresAt, id, _, h⟩ := h
  cases h
  obtain ⟨_, _, hissuedAt⟩ := Json.exists_mem_of_required? hissuedAt
  obtain ⟨_, _, hexpiresAt⟩ := Json.exists_mem_of_required? hexpiresAt
  exact ⟨fitsInt64_of_asTimestamp? hissuedAt, fitsInt64_of_asTimestamp? hexpiresAt, rfl⟩

/-- Whatever claims are read, they have the form of claims. -/
theorem isKept_of_parse? {text : Bytes} {claims : Claims} (h : parse? text = some claims)
    (hdouble : (Json.object claims.payload).HoldsNoDouble) : claims.IsKept := by
  obtain ⟨members, hmembers, hclaims⟩ := Option.bind_eq_some_iff.mp h
  obtain ⟨hnormal, hheight⟩ := Json.membersNormal_of_parseMembers? hmembers
  obtain ⟨hissuedAt, hexpiresAt, hpayload⟩ := ofMembers?_eq_some hclaims
  have hmem : ∀ member ∈ claims.payload, member ∈ members ∧ member.1 ∉ reservedNames := by
    intro member hmember
    rw [hpayload, Members.mem_without] at hmember
    exact hmember.imp_left Members.mem_of_mem_ofList
  have hsorted : Members.Sorted claims.payload := by
    rw [hpayload]
    exact (Members.sorted_ofList members).without reservedNames
  exact {
    payload := {
      normal := ⟨hsorted, Json.membersNormal_iff.mpr fun member hmember =>
        Json.membersNormal_iff.mp hnormal member (hmem member hmember).1⟩
      holdsNoDouble := hdouble
      notReserved := fun member hmember => (hmem member hmember).2 }
    height_le := Json.membersHeight_le_iff.mpr fun member hmember =>
      Json.membersHeight_le_iff.mp hheight member (hmem member hmember).1
    issuedAt := hissuedAt
    expiresAt := hexpiresAt }

/-! ## What is written -/

/-- Merging the standard claims into a payload that keeps away from them gives the members of the
text, sorted. -/
theorem merged_eq_ofList {claims : Claims} (h : IsPayload claims.payload) :
    claims.merged = Members.ofList (claims.standardMembers ++ claims.payload) := by
  refine Members.eq_of_find?_eq (sorted_merged h.normal.1) (Members.sorted_ofList _) fun name => ?_
  have hstandard : Members.find? name (Members.ofList claims.standardMembers) =
      if name = "jti" then some (.string claims.id)
      else if name = "exp" then some (.ofInt claims.expiresAt)
      else if name = "iat" then some (.ofInt claims.issuedAt)
      else if name = "iss" then some (.string claims.issuer)
      else none := by
    simp only [Members.ofList, standardMembers, List.foldl_cons, List.foldl_nil,
      Members.find?_insert, Members.find?]
  have hpayload : name ∈ reservedNames → Members.find? name claims.payload = none :=
    fun hname => Members.find?_of_forall_ne (h.ne_of_mem hname)
  rw [find?_merged, Members.ofList, List.foldl_append, Members.find?_foldl_insert h.normal.1]
  change _ = (Members.find? name claims.payload).or
    (Members.find? name (Members.ofList claims.standardMembers))
  rw [hstandard]
  by_cases hname : name ∈ reservedNames
  · rw [hpayload hname, Option.none_or]
    simp only [reservedNames, List.mem_cons, List.not_mem_nil, or_false] at hname
    rcases hname with rfl | rfl | rfl | rfl <;> rfl
  · simp only [reservedNames, List.mem_cons, List.not_mem_nil, or_false, not_or] at hname
    simp [hname]

section

variable {claims : Claims} (h : claims.IsKept)

include h

theorem IsKept.parseMembers?_print :
    Json.parseMembers? .byName (Bytes.ofText claims.print) =
      some (claims.standardMembers ++ claims.payload) := by
  rw [parseMembers?_print_of_fits h.payload h.issuedAt h.expiresAt, if_pos h.height_le]
  rfl

theorem IsKept.parse?_print : parse? (Bytes.ofText claims.print) = some claims := by
  rw [parse?, h.parseMembers?_print]
  exact ofMembers?_of_fits h.payload h.issuedAt h.expiresAt

/-- As a plain object, the text of claims is the payload with the standard claims merged in. -/
theorem IsKept.parse?_print_merged :
    Json.parse? (Bytes.ofText claims.print) = some (.object claims.merged) := by
  have hdouble : Json.MembersHoldNoDouble (claims.standardMembers ++ claims.payload) :=
    ⟨trivial, trivial, trivial, trivial, h.payload.holdsNoDouble⟩
  have hnormal : Json.MembersNormal (claims.standardMembers ++ claims.payload) :=
    ⟨trivial, bounds_of_fitsInt64 h.issuedAt, bounds_of_fitsInt64 h.expiresAt, trivial,
      h.payload.normal.2⟩
  have hheight : Json.membersHeight (claims.standardMembers ++ claims.payload) ≤
      Json.depthLimit - 1 := by
    have := h.height_le
    simp only [standardMembers, List.cons_append, List.nil_append, Json.membersHeight, Json.height,
      Json.ofInt]
    omega
  rw [print, Json.parse?_print_object hdouble hnormal hheight, merged_eq_ofList h.payload]

/-- A reserved name is written once. -/
theorem IsKept.count_reserved {name : String} (hname : name ∈ reservedNames) :
    ((claims.standardMembers ++ claims.payload).map Prod.fst).count name = 1 := by
  have hpayload : (claims.payload.map Prod.fst).count name = 0 := by
    refine List.count_eq_zero.mpr fun hmem => ?_
    obtain ⟨member, hmember, heq⟩ := List.mem_map.mp hmem
    exact h.payload.ne_of_mem hname member hmember heq
  rw [List.map_append, List.count_append, hpayload]
  simp only [reservedNames, List.mem_cons, List.not_mem_nil, or_false] at hname
  rcases hname with rfl | rfl | rfl | rfl <;> rfl

end

/-- Claims that are read from any text hold none of the reserved names in their payload. The text
that is written for them is read as the same claims, and as a plain object it is the payload with
the standard claims merged in, whose names it holds once each. -/
theorem views_print_of_parse? {text : Bytes} {claims : Claims} (hparse : parse? text = some claims)
    (hdouble : (Json.object claims.payload).HoldsNoDouble) :
    (∀ member ∈ claims.payload, member.1 ∉ reservedNames) ∧
    parse? (Bytes.ofText claims.print) = some claims ∧
    Json.parse? (Bytes.ofText claims.print) = some (.object claims.merged) ∧
    ∃ members, Json.parseMembers? .byName (Bytes.ofText claims.print) = some members ∧
      ∀ name ∈ reservedNames, (members.map Prod.fst).count name = 1 := by
  have hkept := isKept_of_parse? hparse hdouble
  exact ⟨hkept.payload.notReserved, hkept.parse?_print, hkept.parse?_print_merged, _,
    hkept.parseMembers?_print, fun _ => hkept.count_reserved⟩

/-- Claims in disorder: no issuer, times at their limits, a name that is repeated and one that is
repeated inside, an escape that nobody needs. -/
def disorderedText : Bytes :=
  Bytes.ofText
    ("\x7b \"n\":1,\"exp\":9223372036854775807,\"jti\":\"\\u0041\\n\"," ++
      "\"n\":18446744073709551615,\"iat\":-9223372036854775808," ++
      "\"a\":[\x7b\"y\":null,\"x\":\x7b\x7d,\"y\":true\x7d]\x7d")

def disorderedClaims : Claims :=
  ⟨"", -0x8000000000000000, 0x7fffffffffffffff, "A\n",
    [("a", .array [.object [("x", .object []), ("y", .bool true)]]),
      ("n", .ofInt 0xffffffffffffffff)]⟩

set_option maxRecDepth 100000 in
theorem parse?_disorderedText : parse? disorderedText = some disorderedClaims := by rfl

theorem holdsNoDouble_disorderedClaims :
    (Json.object disorderedClaims.payload).HoldsNoDouble := by
  simp [disorderedClaims, Json.HoldsNoDouble, Json.MembersHoldNoDouble, Json.ItemsHoldNoDouble,
    Json.ofInt]

theorem views_print_disorderedClaims :
    parse? disorderedText = some disorderedClaims ∧
      (Json.object disorderedClaims.payload).HoldsNoDouble ∧
      parse? (Bytes.ofText disorderedClaims.print) = some disorderedClaims ∧
      Json.parse? (Bytes.ofText disorderedClaims.print) = some (.object
        [("a", .array [.object [("x", .object []), ("y", .bool true)]]),
          ("exp", .ofInt 0x7fffffffffffffff), ("iat", .ofInt (-0x8000000000000000)),
          ("iss", .string ""), ("jti", .string "A\n"), ("n", .ofInt 0xffffffffffffffff)]) := by
  obtain ⟨_, hparse, hmerged, _⟩ :=
    views_print_of_parse? parse?_disorderedText holdsNoDouble_disorderedClaims
  exact ⟨parse?_disorderedText, holdsNoDouble_disorderedClaims, hparse, hmerged⟩

end Possession.Token.Claims

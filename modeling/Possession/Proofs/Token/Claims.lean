import Possession.Proofs.Json.RoundTrip
import Possession.Proofs.Token.Phases

/-!
# Claims read back

Claims read back as themselves from their text, and nothing else is ever read from it. `IsReadable`
is what this asks of a payload: nesting, and the form of two registered claims that tokens do not
use.
-/

namespace Possession.Token

/-! ## Payloads -/

/-- Whether members can be the payload of claims. -/
structure IsPayload (members : Members) : Prop where
  normal : (Json.object members).IsNormal
  holdsNoDouble : (Json.object members).HoldsNoDouble
  notReserved : ∀ member ∈ members, member.1 ∉ reservedNames

/-- Without the reserved names any object is a payload. -/
theorem isPayload_without {members : Members} (hnormal : (Json.object members).IsNormal)
    (hdouble : (Json.object members).HoldsNoDouble) :
    IsPayload (members.without reservedNames) := by
  have hleft : ∀ member ∈ members.without reservedNames,
      member ∈ members ∧ member.1 ∉ reservedNames := fun _ => Members.mem_without.mp
  refine ⟨⟨hnormal.1.without _, Json.membersNormal_iff.mpr fun member hmember => ?_⟩, ?_,
    fun member hmember => (hleft member hmember).2⟩
  · exact Json.membersNormal_iff.mp hnormal.2 member (hleft member hmember).1
  · apply Json.membersHoldNoDouble_iff.mpr
    intro member hmember
    exact Json.membersHoldNoDouble_iff.mp hdouble member (hleft member hmember).1

namespace IsPayload

variable {members : Members}

theorem ne_of_mem (h : IsPayload members) {name : String} (hname : name ∈ reservedNames) :
    ∀ member ∈ members, member.1 ≠ name :=
  fun member hmember heq => h.notReserved member hmember (heq ▸ hname)

theorem without_eq_self (h : IsPayload members) : members.without reservedNames = members :=
  Members.without_eq_self h.notReserved

end IsPayload

namespace Claims

/-! ## The members of claims -/

/-- The members of claims whose times are any values. -/
def membersWith (issuer id : String) (issuedAt expiresAt : Json) (payload : Members) :
    List (String × Json) :=
  [("iss", .string issuer), ("iat", issuedAt), ("exp", expiresAt), ("jti", .string id)] ++ payload

section

variable {issuer id : String} {issuedAt expiresAt : Json} {payload : Members}

/-- A reserved name is looked for among the standard claims only. -/
theorem single?_membersWith {name : String} (h : IsPayload payload)
    (hname : name ∈ reservedNames) :
    Json.single? name (membersWith issuer id issuedAt expiresAt payload) =
      Json.single? name
        [("iss", .string issuer), ("iat", issuedAt), ("exp", expiresAt), ("jti", .string id)] :=
  Json.single?_append_of_forall_ne _ (h.ne_of_mem hname)

/-- Any other name is looked for in the payload only. -/
theorem single?_membersWith_of_notMem {name : String} (h : IsPayload payload)
    (hname : name ∉ reservedNames) :
    Json.single? name (membersWith issuer id issuedAt expiresAt payload) =
      some (payload.find? name) := by
  have hne : ∀ member ∈ [("iss", Json.string issuer), ("iat", issuedAt), ("exp", expiresAt),
      ("jti", Json.string id)], member.1 ≠ name := by
    simp only [reservedNames, List.mem_cons, List.not_mem_nil, not_or] at hname
    simp [Ne.symm hname.1, Ne.symm hname.2.1, Ne.symm hname.2.2.1, Ne.symm hname.2.2.2.1]
  rw [membersWith, Json.single?_append_of_forall_ne' payload hne, Json.single?_of_sorted h.normal.1]

/-- All that is left without the reserved names is the payload. -/
theorem without_membersWith (h : IsPayload payload) :
    (Members.ofList (membersWith issuer id issuedAt expiresAt payload)).without reservedNames =
      payload := by
  have hstandard : Members.without reservedNames
      [("iss", .string issuer), ("iat", issuedAt), ("exp", expiresAt), ("jti", .string id)] = [] :=
    Members.without_eq_nil (by simp [reservedNames])
  rw [Members.without_ofList, membersWith, Members.without_append, hstandard, List.nil_append,
    h.without_eq_self, Members.ofList_of_sorted h.normal.1]

/-- Claims are read from their members if both times are. -/
theorem ofMembers?_membersWith (h : IsPayload payload) :
    ofMembers? (membersWith issuer id issuedAt expiresAt payload) =
      (asTimestamp? issuedAt).bind fun issuedAt =>
        (asTimestamp? expiresAt).map fun expiresAt =>
          ⟨issuer, issuedAt, expiresAt, id, payload⟩ := by
  have hissuer : readIssuer? (membersWith issuer id issuedAt expiresAt payload) = some issuer := by
    rw [readIssuer?, single?_membersWith h (by decide)]
    rfl
  have hissuedAt : Json.required? "iat" asTimestamp?
      (membersWith issuer id issuedAt expiresAt payload) = asTimestamp? issuedAt := by
    rw [Json.required?, single?_membersWith h (by decide)]
    rfl
  have hexpiresAt : Json.required? "exp" asTimestamp?
      (membersWith issuer id issuedAt expiresAt payload) = asTimestamp? expiresAt := by
    rw [Json.required?, single?_membersWith h (by decide)]
    rfl
  have hid : Json.required? "jti" Json.asString?
      (membersWith issuer id issuedAt expiresAt payload) = some id := by
    rw [Json.required?, single?_membersWith h (by decide)]
    rfl
  rw [ofMembers?, hissuer, hissuedAt, hexpiresAt, hid, without_membersWith h]
  cases asTimestamp? issuedAt <;> cases asTimestamp? expiresAt <;> rfl

end

/-! ## The text of claims -/

/-- The members that are read from the text of claims: none if the payload is too deep. -/
theorem parseMembers?_print {claims : Claims} (h : IsPayload claims.payload) :
    Json.parseMembers? .byName (Bytes.ofText claims.print) =
      (Json.Numeral.ofInt claims.issuedAt).value?.bind fun issuedAt =>
        (Json.Numeral.ofInt claims.expiresAt).value?.bind fun expiresAt =>
          if Json.membersHeight claims.payload ≤ Json.depthLimit - 1 then
            some (membersWith claims.issuer claims.id (.number issuedAt) (.number expiresAt)
              claims.payload)
          else none := by
  have hpayload := Json.ofMembers?_memberTrees claims.payload (Json.depthLimit - 1)
    h.holdsNoDouble h.normal.2
  rw [print, Json.parseMembers?_print]
  simp only [standardMembers, List.cons_append, List.nil_append, Json.memberTrees, Json.toTree,
    Json.ofInt, Json.ofMembers?, Json.ofTree?, Json.stringText?_contentOf, hpayload]
  cases (Json.Numeral.ofInt claims.issuedAt).value? with
  | none => rfl
  | some issuedAt =>
    cases (Json.Numeral.ofInt claims.expiresAt).value? with
    | none => rfl
    | some expiresAt =>
      by_cases hheight : Json.membersHeight claims.payload ≤ Json.depthLimit - 1
      · simp [hheight, membersWith]
      · simp [hheight]

theorem fitsInt64_iff {n : Int} :
    Json.fitsInt64 n = true ↔ Json.leastInt64 ≤ n ∧ n ≤ Json.greatestInt64 := by
  simp [Json.fitsInt64]

/-- A time is within the bounds of integers. -/
theorem bounds_of_fitsInt64 {n : Int} (h : Json.fitsInt64 n = true) :
    Json.leastInt64 ≤ n ∧ n ≤ Json.greatestSignificand := by
  obtain ⟨hlower, hupper⟩ := fitsInt64_iff.mp h
  exact ⟨hlower, Int.le_trans hupper (by decide)⟩

theorem value?_of_fitsInt64 {n : Int} (h : Json.fitsInt64 n = true) :
    (Json.Numeral.ofInt n).value? = some (.integer n) :=
  Json.value?_ofInt (bounds_of_fitsInt64 h).1 (bounds_of_fitsInt64 h).2

/-- Where the times have 64 bits, only the depth of the payload stands against reading members. -/
theorem parseMembers?_print_of_fits {claims : Claims} (h : IsPayload claims.payload)
    (hissuedAt : Json.fitsInt64 claims.issuedAt = true)
    (hexpiresAt : Json.fitsInt64 claims.expiresAt = true) :
    Json.parseMembers? .byName (Bytes.ofText claims.print) =
      if Json.membersHeight claims.payload ≤ Json.depthLimit - 1 then
        some (membersWith claims.issuer claims.id (.ofInt claims.issuedAt)
          (.ofInt claims.expiresAt) claims.payload)
      else none := by
  rw [parseMembers?_print h, value?_of_fitsInt64 hissuedAt, value?_of_fitsInt64 hexpiresAt]
  rfl

theorem ofMembers?_of_fits {claims : Claims} (h : IsPayload claims.payload)
    (hissuedAt : Json.fitsInt64 claims.issuedAt = true)
    (hexpiresAt : Json.fitsInt64 claims.expiresAt = true) :
    ofMembers? (membersWith claims.issuer claims.id (.ofInt claims.issuedAt)
      (.ofInt claims.expiresAt) claims.payload) = some claims := by
  rw [ofMembers?_membersWith h]
  simp [Json.ofInt, asTimestamp?, hissuedAt, hexpiresAt]

/-- A time is read from the notation of that time only. -/
theorem eq_of_asTimestamp? {n time : Int} {number : Json.Number}
    (hnumber : (Json.Numeral.ofInt n).value? = some number)
    (h : asTimestamp? (.number number) = some time) : time = n := by
  cases number with
  | double value => cases h
  | integer m =>
    rw [asTimestamp?] at h
    split at h
    · cases h
      exact Json.eq_of_value?_ofInt hnumber
    · cases h

/-- What is read from the text of claims are these claims. -/
theorem eq_of_parse?_print {claims read : Claims} (h : IsPayload claims.payload)
    (hread : parse? (Bytes.ofText claims.print) = some read) : read = claims := by
  obtain ⟨members, hmembers, hread⟩ := Option.bind_eq_some_iff.mp hread
  rw [parseMembers?_print h] at hmembers
  obtain ⟨issuedAtNumber, hissuedAt, hmembers⟩ := Option.bind_eq_some_iff.mp hmembers
  obtain ⟨expiresAtNumber, hexpiresAt, hmembers⟩ := Option.bind_eq_some_iff.mp hmembers
  split at hmembers
  · cases hmembers
    rw [ofMembers?_membersWith h] at hread
    obtain ⟨issuedAt, hfirst, hread⟩ := Option.bind_eq_some_iff.mp hread
    obtain ⟨expiresAt, hsecond, rfl⟩ := Option.map_eq_some_iff.mp hread
    rw [eq_of_asTimestamp? hissuedAt hfirst, eq_of_asTimestamp? hexpiresAt hsecond]
  · cases hmembers

/-- The issuer is the value of the first member, so it is read as it was written if anything is. The
payload has no say in it: a second member of that name would leave nothing to read. -/
theorem issuer_eq_of_parse?_print {claims read : Claims}
    (hread : parse? (Bytes.ofText claims.print) = some read) : read.issuer = claims.issuer := by
  obtain ⟨members, hmembers, hread⟩ := Option.bind_eq_some_iff.mp hread
  obtain ⟨tree, htree, hmembers⟩ := Option.bind_eq_some_iff.mp hmembers
  rw [print, Json.Tree.parse?_print, standardMembers, List.cons_append] at htree
  obtain rfl := Option.some.inj htree
  simp only [Json.toTree, Json.memberTrees, Json.ofMembers?, Json.ofTree?,
    Json.stringText?_contentOf, Option.map_some, Option.bind_eq_bind, Option.bind_some] at hmembers
  obtain ⟨rest, _, hmembers⟩ := Option.bind_eq_some_iff.mp hmembers
  cases hmembers
  simp only [ofMembers?, Option.bind_eq_bind, Option.bind_eq_some_iff] at hread
  obtain ⟨issuer, hissuer, _, _, _, _, _, _, hread⟩ := hread
  cases hread
  rw [readIssuer?] at hissuer
  split at hissuer
  · cases hissuer
  · next hsingle => cases Json.eq_of_single?_cons hsingle
  · next hsingle =>
    obtain rfl := Option.some.inj (Json.eq_of_single?_cons hsingle)
    exact (Option.some.inj hissuer).symm

/-! ## Claims and payload as one object -/

theorem sorted_merged {claims : Claims} (h : claims.payload.Sorted) : claims.merged.Sorted :=
  Members.Sorted.foldl_insert claims.standardMembers h

/-- The merged object holds the standard claims, and under all other names what the payload holds.
-/
theorem find?_merged (claims : Claims) (name : String) :
    claims.merged.find? name =
      if name = "iss" then some (.string claims.issuer)
      else if name = "iat" then some (.ofInt claims.issuedAt)
      else if name = "exp" then some (.ofInt claims.expiresAt)
      else if name = "jti" then some (.string claims.id)
      else claims.payload.find? name := by
  simp only [merged, standardMembers, List.foldl_cons, List.foldl_nil, Members.find?_insert]
  by_cases hiss : name = "iss"
  · simp [hiss]
  · by_cases hiat : name = "iat"
    · simp [hiat]
    · by_cases hexp : name = "exp"
      · simp [hexp]
      · simp [hiss, hiat, hexp]

end Claims

/-! ## Payloads that are read back -/

/-- Whether a payload is read back from claims that are made with it. -/
structure IsReadable (payload : Members) : Prop where
  height_le : ∀ member ∈ payload, member.1 ∉ reservedNames →
    member.2.height ≤ Json.depthLimit - 1
  subject : ∀ value, payload.find? "sub" = some value → isBracketed value = false
  notBefore : ∀ value, payload.find? "nbf" = some value → isFilled value = false

section

variable {issuer id : String} {payload : Members}

theorem membersHeight_without_le_iff {depth : Nat} :
    Json.membersHeight (payload.without reservedNames) ≤ depth ↔
      ∀ member ∈ payload, member.1 ∉ reservedNames → member.2.height ≤ depth := by
  rw [Json.membersHeight_le_iff]
  constructor
  · intro h member hmember hname
    exact h member (Members.mem_without.mpr ⟨hmember, hname⟩)
  · intro h member hmember
    obtain ⟨hmem, hname⟩ := Members.mem_without.mp hmember
    exact h member hmem hname

theorem getD_map_eq_false_iff {value? : Option Json} {p : Json → Bool} :
    (value?.map p).getD false = false ↔ ∀ value, value? = some value → p value = false := by
  cases value? with
  | none => simp
  | some value => simp

/-- The second decoding looks at two members of the payload. -/
theorem areRegisteredClaimsSound_membersWith (h : IsPayload (payload.without reservedNames))
    (issuedAt expiresAt : Json) :
    areRegisteredClaimsSound
        (Claims.membersWith issuer id issuedAt expiresAt (payload.without reservedNames)) = true ↔
      (∀ value, payload.find? "sub" = some value → isBracketed value = false) ∧
        ∀ value, payload.find? "nbf" = some value → isFilled value = false := by
  have hsingle : ∀ name ∉ reservedNames,
      Json.single? name (Claims.membersWith issuer id issuedAt expiresAt
        (payload.without reservedNames)) = some (payload.find? name) := by
    intro name hname
    rw [Claims.single?_membersWith_of_notMem h hname, Members.find?_without hname]
  rw [areRegisteredClaimsSound, hsingle "sub" (by decide), hsingle "nbf" (by decide),
    hsingle "aud" (by decide)]
  simp only [Bool.and_eq_true, Bool.not_eq_true', getD_map_eq_false_iff]

/-- Claims pass both decodings if their payload is readable, and come out as they are. -/
theorem soundClaims?_print_eq_some_iff {claims read : Claims}
    (hclaims : claims.payload = payload.without reservedNames) (h : IsPayload claims.payload)
    (hissuedAt : Json.fitsInt64 claims.issuedAt = true)
    (hexpiresAt : Json.fitsInt64 claims.expiresAt = true) :
    soundClaims? (Bytes.ofText claims.print) = some read ↔
      IsReadable payload ∧ read = claims := by
  have hmembersRead := Claims.ofMembers?_of_fits h hissuedAt hexpiresAt
  have hregistered := @areRegisteredClaimsSound_membersWith claims.issuer claims.id payload
    (hclaims ▸ h) (.ofInt claims.issuedAt) (.ofInt claims.expiresAt)
  rw [← hclaims] at hregistered
  rw [soundClaims?_eq_some_iff, Claims.parseMembers?_print_of_fits h hissuedAt hexpiresAt]
  constructor
  · rintro ⟨members, hmembers, hread, hsound⟩
    split at hmembers
    · next hheight =>
      cases hmembers
      obtain ⟨hsubject, hnotBefore⟩ := hregistered.mp hsound
      rw [hclaims] at hheight
      have hreadable : IsReadable payload :=
        ⟨membersHeight_without_le_iff.mp hheight, hsubject, hnotBefore⟩
      exact ⟨hreadable, Option.some.inj (hread.symm.trans hmembersRead)⟩
    · cases hmembers
  · rintro ⟨hreadable, rfl⟩
    have hheight := membersHeight_without_le_iff.mpr hreadable.height_le
    rw [← hclaims] at hheight
    exact ⟨_, if_pos hheight, hmembersRead,
      hregistered.mpr ⟨hreadable.subject, hreadable.notBefore⟩⟩

end

end Possession.Token

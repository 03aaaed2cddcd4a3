import Possession.Proofs.Base64.Canonical
import Possession.Proofs.ContentDigest
import Possession.Proofs.Text
import Possession.Proofs.Text.Words

/-!
# The members of a digest header

A header value is judged member by member, so nothing depends on the order of the members or on how
often one of them occurs. What is left over members is that one of them must be known.
-/

namespace Possession.ContentDigest

/-! ## The form of a member -/

/-- Whether a member has the form `key=:text:`, with blank characters around the key and around the
text in its colons. The key itself holds no equals sign and has no blank characters at its ends. -/
structure IsMember (member key text : List Char) : Prop where
  noEquals : '=' ∉ key
  trimmed : Text.trim key = key
  form : ∃ front back, member = front ++ '=' :: back ∧ Text.Padded key front ∧
    Text.Padded (':' :: text ++ [':']) back

/-- A member is cut at its first equals sign; the blank characters around the whole of it do not
matter, because they are around one of the two parts. -/
theorem readMember?_eq_some_iff_cut {member key text : List Char} :
    readMember? member = some (key, text) ↔
      ∃ front back, member = front ++ '=' :: back ∧ '=' ∉ front ∧ Text.trim front = key ∧
        Text.trim back = ':' :: text ++ [':'] := by
  simp only [readMember?, Option.bind_eq_bind, Option.bind_eq_some_iff, Option.pure_def,
    Option.some.injEq, Prod.mk.injEq, Prod.exists, Text.after?_eq_some_iff,
    Text.before?_eq_some_iff, Text.cut?_eq_some_iff]
  have hequals : Text.isBlank '=' = false := by decide
  constructor
  · rintro ⟨front, back, ⟨hmember, hfront⟩, _, hback, _, rfl, rfl, rfl⟩
    obtain ⟨before, behind, hbefore, hbehind, htext⟩ :=
      Text.exists_append_trimWhile Text.isBlank member
    have hnone := Text.notMem_of_isBlank hbefore hequals
    rw [← Text.trim, hmember] at htext
    refine ⟨before ++ front, back ++ behind, by simp [htext], by simp [hnone, hfront], ?_, ?_⟩
    · exact Text.trimWhile_append_left hbefore front
    · rw [Text.trim, Text.trimWhile_append_right hbehind, ← Text.trim, hback]
      rfl
  · rintro ⟨front, back, rfl, hfront, rfl, hback⟩
    obtain ⟨front', back', hmember, hsubset, hkey, hvalue⟩ :=
      Text.exists_trimWhile_append_cons hequals front back
    refine ⟨front', back', ⟨hmember, fun hmem => hfront (hsubset hmem)⟩, text ++ [':'], ?_, text,
      rfl, hkey, rfl⟩
    exact hvalue.trans hback

/-- What is read as a member has the form of a member. -/
theorem readMember?_eq_some_iff {member key text : List Char} :
    readMember? member = some (key, text) ↔ IsMember member key text := by
  have hvalue : Text.trim (':' :: text ++ [':']) = ':' :: text ++ [':'] :=
    Text.trimWhile_enclosed (by decide) (by decide) text
  rw [readMember?_eq_some_iff_cut]
  constructor
  · rintro ⟨front, back, hmember, hfront, hkey, hback⟩
    obtain ⟨htrimmed, hpadded⟩ := Text.trim_eq_iff.mp hkey
    refine ⟨?_, htrimmed, front, back, hmember, hpadded, (Text.trim_eq_iff.mp hback).2⟩
    intro hmem
    rw [← hkey] at hmem
    exact hfront (Text.trimWhile_subset _ _ hmem)
  · rintro ⟨hequals, htrimmed, front, back, hmember, hpadded, hback⟩
    exact ⟨front, back, hmember, hpadded.notMem (by decide) hequals,
      Text.trim_eq_iff.mpr ⟨htrimmed, hpadded⟩, Text.trim_eq_iff.mpr ⟨hvalue, hback⟩⟩

/-- A member has one key and one text. -/
theorem IsMember.unique {member key text key' text' : List Char} (h : IsMember member key text)
    (h' : IsMember member key' text') : key = key' ∧ text = text' := by
  have hsame := (readMember?_eq_some_iff.mpr h).symm.trans (readMember?_eq_some_iff.mpr h')
  simpa using hsame

/-! ## Judging members -/

/-- Whether a member has its form and, if its key is known, carries the digest of a body. -/
def Fits (body : Bytes) (member : List Char) : Prop :=
  (∃ key text, IsMember member key text) ∧
    ∀ algorithm text, IsMember member (Algorithm.key algorithm).toList text →
      text = Base64.encodeChars Base64.standard (algorithm.digest body)

def IsKnown (member : List Char) : Prop :=
  ∃ algorithm text, IsMember member (Algorithm.key algorithm).toList text

theorem decode?_eq_some_iff {encoded : List Char} {digest : Bytes} :
    Base64.decode? Base64.standard (String.ofList encoded) = some digest ↔
      encoded = Base64.encodeChars Base64.standard digest := by
  rw [← Base64.decodeText_ofList_eq_ok_iff, Base64.decode?]
  cases Base64.decodeText Base64.standard (String.ofList encoded) <;> simp [Except.toOption]

theorem key_inj {algorithm other : Algorithm} :
    algorithm.key.toList = other.key.toList ↔ algorithm = other := by
  constructor
  · intro h
    have hsame := ofKey?_eq_some_iff.mpr h
    rw [ofKey?_eq_some_iff.mpr rfl] at hsame
    exact Option.some.inj hsame
  · rintro rfl
    rfl

theorem ofKey?_eq_none_iff {key : List Char} :
    Algorithm.ofKey? key = none ↔ ∀ algorithm : Algorithm, key ≠ algorithm.key.toList := by
  rw [Option.eq_none_iff_forall_ne_some]
  simp only [ne_eq, ofKey?_eq_some_iff]

/-- The first member either has another key and is passed over, or it declares a digest. -/
theorem readMembers?_cons_eq_some_iff {member : List Char} {members : List (List Char)}
    {entries : List (Algorithm × Bytes)} :
    readMembers? (member :: members) = some entries ↔ ∃ key text, IsMember member key text ∧
      (((∀ algorithm : Algorithm, key ≠ algorithm.key.toList) ∧
          readMembers? members = some entries) ∨
        ∃ algorithm digest others, key = (Algorithm.key algorithm).toList ∧
          text = Base64.encodeChars Base64.standard digest ∧
          readMembers? members = some others ∧ entries = (algorithm, digest) :: others) := by
  simp only [readMembers?, Option.bind_eq_bind, Option.bind_eq_some_iff, Prod.exists,
    readMember?_eq_some_iff]
  refine exists_congr fun key => exists_congr fun text => and_congr_right fun _ => ?_
  cases hkey : Algorithm.ofKey? key with
  | none =>
    have hother := ofKey?_eq_none_iff.mp hkey
    constructor
    · intro h
      exact .inl ⟨hother, h⟩
    · rintro (⟨-, h⟩ | ⟨algorithm, _, _, heq, _⟩)
      · exact h
      · exact absurd heq (hother algorithm)
  | some found =>
    have hfound := ofKey?_eq_some_iff.mp hkey
    simp only [Option.bind_eq_some_iff, decode?_eq_some_iff, Option.pure_def, Option.some.injEq]
    constructor
    · rintro ⟨digest, htext, others, hothers, rfl⟩
      exact .inr ⟨found, digest, others, hfound, htext, hothers, rfl⟩
    · rintro (⟨hother, -⟩ | ⟨algorithm, digest, others, heq, htext, hothers, rfl⟩)
      · exact absurd hfound (hother found)
      · obtain rfl := key_inj.mp (hfound.symm.trans heq)
        exact ⟨digest, htext, others, hothers, rfl⟩

/-- Whether the declared digests are all those of a body. -/
def AllMatch (body : Bytes) (entries : List (Algorithm × Bytes)) : Prop :=
  ∀ algorithm digest, (algorithm, digest) ∈ entries → algorithm.digest body = digest

theorem allMatch_cons_iff {body digest : Bytes} {algorithm : Algorithm}
    {entries : List (Algorithm × Bytes)} :
    AllMatch body ((algorithm, digest) :: entries) ↔
      algorithm.digest body = digest ∧ AllMatch body entries := by
  simp only [AllMatch, List.mem_cons, Prod.mk.injEq]
  constructor
  · intro h
    exact ⟨h _ _ (.inl ⟨rfl, rfl⟩), fun _ _ hmem => h _ _ (.inr hmem)⟩
  · rintro ⟨hfirst, hothers⟩ _ _ (⟨rfl, rfl⟩ | hmem)
    · exact hfirst
    · exact hothers _ _ hmem

/-- The members of a list can all be read, and declare nothing but digests of a body, exactly if
each of them fits the body. -/
theorem exists_readMembers?_iff {body : Bytes} {members : List (List Char)} :
    (∃ entries, readMembers? members = some entries ∧ AllMatch body entries) ↔
      ∀ member ∈ members, Fits body member := by
  induction members with
  | nil => simp [readMembers?, AllMatch]
  | cons member members ih =>
    rw [List.forall_mem_cons, ← ih]
    simp only [readMembers?_cons_eq_some_iff]
    constructor
    · rintro ⟨entries, ⟨key, text, hmember, ⟨hother, hread⟩ | h⟩, hmatch⟩
      · refine ⟨⟨⟨key, text, hmember⟩, fun algorithm _ hknown => ?_⟩, entries, hread, hmatch⟩
        exact absurd (hmember.unique hknown).1 (hother algorithm)
      · obtain ⟨algorithm, digest, others, rfl, htext, hread, rfl⟩ := h
        obtain ⟨hdigest, hothers⟩ := allMatch_cons_iff.mp hmatch
        refine ⟨⟨⟨_, text, hmember⟩, fun algorithm' text' hknown => ?_⟩, others, hread, hothers⟩
        obtain ⟨hkey, rfl⟩ := hmember.unique hknown
        obtain rfl := key_inj.mp hkey
        rw [htext, hdigest]
    · rintro ⟨⟨⟨key, text, hmember⟩, hfits⟩, entries, hread, hmatch⟩
      by_cases hknown : ∃ algorithm : Algorithm, key = algorithm.key.toList
      · obtain ⟨algorithm, rfl⟩ := hknown
        exact ⟨(algorithm, algorithm.digest body) :: entries, ⟨_, text, hmember,
          .inr ⟨algorithm, _, entries, rfl, hfits algorithm text hmember, hread, rfl⟩⟩,
          allMatch_cons_iff.mpr ⟨rfl, hmatch⟩⟩
      · exact ⟨entries, ⟨key, text, hmember, .inl ⟨not_exists.mp hknown, hread⟩⟩, hmatch⟩

/-- A list of members declares something exactly if one of them has a known key. -/
theorem ne_nil_iff_of_readMembers? {members : List (List Char)} {entries : List (Algorithm × Bytes)}
    (h : readMembers? members = some entries) :
    entries ≠ [] ↔ ∃ member ∈ members, IsKnown member := by
  induction members generalizing entries with
  | nil =>
    cases h
    simp
  | cons member members ih =>
    obtain ⟨key, text, hmember, ⟨hother, hread⟩ | h⟩ := readMembers?_cons_eq_some_iff.mp h
    · have hunknown : ¬ IsKnown member := by
        rintro ⟨algorithm, text', hknown⟩
        exact hother algorithm (hmember.unique hknown).1
      simp [ih hread, hunknown]
    · obtain ⟨algorithm, digest, others, rfl, -, -, rfl⟩ := h
      have hknown : IsKnown member := ⟨algorithm, text, hmember⟩
      simp [hknown]

/-! ## Verdicts -/

def membersOf (header : String) : List (List Char) := Text.pieces ',' header.toList

def ofMembers (members : List (List Char)) : String := String.ofList ([','].intercalate members)

theorem ofMembers_membersOf (header : String) : ofMembers (membersOf header) = header := by
  rw [ofMembers, membersOf, Text.intercalate_pieces, String.ofList_toList]

theorem membersOf_ofMembers {members : List (List Char)} (hne : members ≠ [])
    (h : ∀ member ∈ members, ',' ∉ member) : membersOf (ofMembers members) = members := by
  rw [ofMembers, membersOf, String.toList_ofList, Text.pieces_intercalate hne h]

theorem comma_notMem_membersOf {header : String} : ∀ member ∈ membersOf header, ',' ∉ member :=
  fun _ => Text.notMem_of_mem_pieces

/-- A header value is valid for a body if each of its members fits the body and one of them has a
known key. -/
theorem isValid_iff_members {header : String} {body : Bytes} :
    isValid (some header) body = true ↔
      (∀ member ∈ membersOf header, Fits body member) ∧
        ∃ member ∈ membersOf header, IsKnown member := by
  rw [isValid_eq_true_iff, ← exists_readMembers?_iff]
  constructor
  · rintro ⟨entries, hread, hne, hmatch⟩
    exact ⟨⟨entries, hread, hmatch⟩, (ne_nil_iff_of_readMembers? hread).mp hne⟩
  · rintro ⟨⟨entries, hread, hmatch⟩, hknown⟩
    exact ⟨entries, hread, (ne_nil_iff_of_readMembers? hread).mpr hknown, hmatch⟩

/-- The verdict depends on which members there are, not on their order or number. -/
theorem isValid_ofMembers_of_mem_iff {header : String} {members : List (List Char)}
    (h : ∀ member, member ∈ members ↔ member ∈ membersOf header) (body : Bytes) :
    isValid (some (ofMembers members)) body = isValid (some header) body := by
  have hne : members ≠ [] := by
    obtain ⟨first, rest, hmembers⟩ :=
      List.exists_cons_of_ne_nil (Text.piecesWhere_ne_nil (· == ',') header.toList)
    apply List.ne_nil_of_mem
    apply (h first).mpr
    rw [membersOf, Text.pieces, hmembers]
    exact List.mem_cons_self
  have hcomma : ∀ member ∈ members, ',' ∉ member := by
    intro member hmember
    exact comma_notMem_membersOf member ((h member).mp hmember)
  rw [Bool.eq_iff_iff, isValid_iff_members, isValid_iff_members, membersOf_ofMembers hne hcomma]
  simp only [h]

theorem IsMember.comma_notMem {member key text : List Char} (h : IsMember member key text)
    (hkey : ',' ∉ key) (htext : ',' ∉ text) : ',' ∉ member := by
  obtain ⟨front, back, rfl, hfront, hback⟩ := h.form
  have hnone : ',' ∉ front := hfront.notMem (by decide) hkey
  have hnone' : ',' ∉ back := hback.notMem (by decide) (by simp [htext])
  simp [hnone, hnone']

/-- A member with another key has no part in the verdict. -/
theorem isValid_ofMembers_insert {header : String} {before after : List (List Char)}
    {member key text : List Char} (hmembers : membersOf header = before ++ after)
    (hform : IsMember member key text) (hcomma : ',' ∉ member)
    (hother : ∀ algorithm : Algorithm, key ≠ algorithm.key.toList) (body : Bytes) :
    isValid (some (ofMembers (before ++ member :: after))) body = isValid (some header) body := by
  have hunknown : ¬ IsKnown member := by
    rintro ⟨algorithm, text', hknown⟩
    exact hother algorithm (hform.unique hknown).1
  have hfits : Fits body member := by
    refine ⟨⟨key, text, hform⟩, fun algorithm text' hknown => ?_⟩
    exact absurd ⟨algorithm, text', hknown⟩ hunknown
  have hfree : ∀ other ∈ before ++ member :: after, ',' ∉ other := by
    intro other hmem
    rcases List.perm_middle.mem_iff.mp hmem with _ | ⟨_, hmem⟩
    · exact hcomma
    · exact comma_notMem_membersOf other (hmembers ▸ hmem)
  rw [Bool.eq_iff_iff, isValid_iff_members, isValid_iff_members,
    membersOf_ofMembers (by simp) hfree, hmembers]
  simp only [List.perm_middle.mem_iff, List.mem_cons, forall_eq_or_imp, exists_eq_or_imp, hfits,
    hunknown, true_and, false_or]

/-! ## The member that is written for a body -/

theorem isMember_member (algorithm : Algorithm) (body : Bytes) :
    IsMember (member algorithm body).toList algorithm.key.toList
      (Base64.encodeChars Base64.standard (algorithm.digest body)) := by
  have htext : (member algorithm body).toList = algorithm.key.toList ++
      '=' :: (':' :: Base64.encodeChars Base64.standard (algorithm.digest body) ++ [':']) := by
    simp [member, Base64.encode]
  have hequals : '=' ∉ algorithm.key.toList := by cases algorithm <;> decide
  have htrimmed : Text.trim algorithm.key.toList = algorithm.key.toList := by
    cases algorithm <;> decide
  exact ⟨hequals, htrimmed, _, _, htext, Text.Padded.refl _, Text.Padded.refl _⟩

theorem membersOf_member (algorithm : Algorithm) (body : Bytes) :
    membersOf (member algorithm body) = [(member algorithm body).toList] := by
  have hkey : ',' ∉ algorithm.key.toList := by cases algorithm <;> decide
  have hcomma := (isMember_member algorithm body).comma_notMem hkey
    (Base64.comma_notMem_encodeChars Base64.standard _)
  have hmembers := membersOf_ofMembers (List.cons_ne_nil (member algorithm body).toList [])
    (by simpa using hcomma)
  rwa [ofMembers, List.intercalate_singleton, String.ofList_toList] at hmembers

theorem isValid_member_iff {algorithm : Algorithm} {body other : Bytes} :
    isValid (some (member algorithm body)) other = true ↔
      algorithm.digest body = algorithm.digest other := by
  have hform := isMember_member algorithm body
  have hknown : IsKnown (member algorithm body).toList := ⟨algorithm, _, hform⟩
  simp only [isValid_iff_members, membersOf_member, List.mem_singleton, forall_eq,
    exists_eq_left, hknown, and_true]
  constructor
  · rintro ⟨-, hfits⟩
    exact Base64.encodeChars_inj.mp (hfits algorithm _ hform)
  · intro hdigest
    refine ⟨⟨_, _, hform⟩, fun algorithm' text hknown' => ?_⟩
    obtain ⟨hkey, rfl⟩ := hform.unique hknown'
    obtain rfl := key_inj.mp hkey
    rw [hdigest]

/-- A header value is its members with commas between them. It is valid for a body if each member
has its form, those with a known key carry the digest of the body in base64, and there is such a
member. So the verdict is the same for the members in any order, with one of them repeated, and with
further members of other keys; and the value that is written for a body is valid for exactly the
bodies of the same digest. -/
theorem isValid_verdict (header : String) (body : Bytes) :
    ofMembers (membersOf header) = header ∧
    (isValid (some header) body = true ↔
      (∀ member ∈ membersOf header, ∃ key text, IsMember member key text) ∧
      (∀ member ∈ membersOf header, ∀ algorithm text,
        IsMember member (Algorithm.key algorithm).toList text →
          text = Base64.encodeChars Base64.standard (algorithm.digest body)) ∧
      ∃ member ∈ membersOf header, ∃ algorithm text,
        IsMember member (Algorithm.key algorithm).toList text) ∧
    (∀ members, members.Perm (membersOf header) →
      isValid (some (ofMembers members)) body = isValid (some header) body) ∧
    (∀ before after member, membersOf header = before ++ after → member ∈ membersOf header →
      isValid (some (ofMembers (before ++ member :: after))) body =
        isValid (some header) body) ∧
    (∀ before after member key text, membersOf header = before ++ after →
      IsMember member key text → ',' ∉ key → ',' ∉ text →
      (∀ algorithm : Algorithm, key ≠ algorithm.key.toList) →
        isValid (some (ofMembers (before ++ member :: after))) body =
          isValid (some header) body) ∧
    ∀ algorithm other, isValid (some (member algorithm body)) other = true ↔
      algorithm.digest body = algorithm.digest other := by
  refine ⟨ofMembers_membersOf header, ?_, fun members hperm => ?_,
    fun before after member hmembers hmember => ?_,
    fun before after member key text hmembers hform hkey htext hother => ?_,
    fun _ _ => isValid_member_iff⟩
  · rw [isValid_iff_members]
    simp only [Fits, IsKnown, forall_and, and_assoc]
  · exact isValid_ofMembers_of_mem_iff (fun _ => hperm.mem_iff) body
  · refine isValid_ofMembers_of_mem_iff (fun other => ?_) body
    rw [List.perm_middle.mem_iff, List.mem_cons, ← hmembers]
    exact or_iff_right_of_imp fun heq => heq ▸ hmember
  · exact isValid_ofMembers_insert hmembers hform (hform.comma_notMem hkey htext) hother body

/-- A member with blank characters in its places and a colon in its text. -/
def otherMember : List Char := " md5 = :a:b: ".toList

def sampleBody : Bytes := Bytes.ofText "\x7b\"a\": 1\x7d"

/-- The value that is written for a body stays valid with another member before it, and is valid for
no other body than one with the same digest, such as the empty one. -/
theorem isValid_otherMember :
    isValid (some (ofMembers (otherMember :: membersOf (member .sha256 sampleBody)))) sampleBody =
        true ∧
      isValid (some (ofMembers (otherMember :: membersOf (member .sha256 sampleBody)))) [] =
        false := by
  have hform : IsMember otherMember "md5".toList "a:b".toList :=
    readMember?_eq_some_iff.mp (by decide)
  have hother : ∀ algorithm : Algorithm, "md5".toList ≠ algorithm.key.toList := by
    intro algorithm
    cases algorithm <;> decide
  have hinsert (body : Bytes) :
      isValid (some (ofMembers (otherMember :: membersOf (member .sha256 sampleBody)))) body =
          true ↔ Algorithm.sha256.digest sampleBody = Algorithm.sha256.digest body := by
    obtain ⟨-, -, -, -, hinsert, -⟩ := isValid_verdict (member .sha256 sampleBody) body
    obtain ⟨-, -, -, -, -, hwritten⟩ := isValid_verdict (member .sha256 sampleBody) sampleBody
    have hsame := hinsert [] _ otherMember _ _ (List.nil_append _).symm hform (by decide)
      (by decide) hother
    exact (Bool.eq_iff_iff.mp hsame).trans (hwritten .sha256 body)
  refine ⟨(hinsert _).mpr rfl, ?_⟩
  rw [← Bool.not_eq_true, hinsert]
  decide +kernel

end Possession.ContentDigest

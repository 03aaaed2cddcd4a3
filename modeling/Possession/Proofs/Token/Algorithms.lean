import Possession.Proofs.Token.Soundness

/-!
# Tokens that name another algorithm

The header is looked at before anything else, so a token that names another algorithm is refused in
the first attempt. The argument replaces one value in the tree of a header: what is read apart from
the algorithm stays as it is.
-/

namespace Possession.Token

namespace Header

/-! ## Reading in stages -/

def isKeyMember (member : String × Json.Tree) : Bool := member.1 == "jwk"

def readMember? (member : String × Json.Tree) : Option (String × Json) :=
  (Json.ofTree? .asWritten innerDepth member.2).map fun value => (member.1, value)

/-- The header that is read from the known members of an object. -/
def ofKnown? (known : List (String × Json.Tree)) : Option Header :=
  let keys := known.filter isKeyMember
  if 1 < keys.length ∨ !keys.all (fun member => isKeyOrNull member.2) then none
  else ((known.filter fun member => !isKeyMember member).mapM readMember?).bind ofMembers?

theorem ofTree?_eq (tree : Json.Tree) : ofTree? tree = (knownMembers? tree).bind ofKnown? := by
  rw [ofTree?]
  cases knownMembers? tree with
  | none => rfl
  | some known =>
    simp only [Option.bind_eq_bind, Option.bind_some, List.partition_eq_filter_filter, ofKnown?]
    rfl

/-! ## One value in the place of another -/

theorem mapM_append_cons_eq_some_iff {α β : Type} {f : α → Option β} {front back : List α}
    {item : α} {results : List β} :
    (front ++ item :: back).mapM f = some results ↔
      ∃ front' result back', front.mapM f = some front' ∧ f item = some result ∧
        back.mapM f = some back' ∧ results = front' ++ result :: back' := by
  simp only [List.mapM_append, List.mapM_cons, Option.bind_eq_bind, Option.pure_def,
    Option.bind_eq_some_iff, Option.some.injEq]
  constructor
  · rintro ⟨front', hfront, _, ⟨result, hresult, back', hback, rfl⟩, rfl⟩
    exact ⟨front', result, back', hfront, hresult, hback, rfl⟩
  · rintro ⟨front', result, back', hfront, hresult, hback, rfl⟩
    exact ⟨front', hfront, _, ⟨result, hresult, back', hback, rfl⟩, rfl⟩

section

variable {before after : List (Bytes × Json.Tree)} {key : Bytes} {tree : Json.Tree}
  {front back : List (String × Json.Tree)} {decoded : Header}

/-- The known members of an object stay known, in their places, whatever its algorithm is. -/
theorem exists_knownMembers?_object {known : List (String × Json.Tree)}
    (hkey : Json.stringText? key = some "alg")
    (h : knownMembers? (.object (before ++ (key, tree) :: after)) = some known) :
    ∃ front back, ∀ other, knownMembers? (.object (before ++ (key, other) :: after)) =
      some (front ++ ("alg", other) :: back) := by
  rw [knownMembers?, Json.nameMembers?] at h
  obtain ⟨named, hnamed, -⟩ := Option.map_eq_some_iff.mp h
  obtain ⟨front, _, back, hfront, -, hback, -⟩ := mapM_append_cons_eq_some_iff.mp hnamed
  refine ⟨front.filter fun member => memberNames.contains member.1,
    back.filter fun member => memberNames.contains member.1, fun other => ?_⟩
  have hother : Json.nameMembers? (before ++ (key, other) :: after) =
      some (front ++ ("alg", other) :: back) :=
    mapM_append_cons_eq_some_iff.mpr ⟨front, _, back, hfront, by simp [hkey], hback, rfl⟩
  rw [knownMembers?, hother, Option.map_some, List.filter_append,
    List.filter_cons_of_pos (by simp [memberNames])]

/-- Apart from the value of its algorithm, a header is read from the same members. -/
theorem exists_ofKnown?_eq (h : ofKnown? (front ++ ("alg", tree) :: back) = some decoded) :
    ∃ front' back' value, ofMembers? (front' ++ ("alg", value) :: back') = some decoded ∧
      ∀ other value', Json.ofTree? .asWritten innerDepth other = some value' →
        ofKnown? (front ++ ("alg", other) :: back) =
          ofMembers? (front' ++ ("alg", value') :: back') := by
  have hkeys (other : Json.Tree) : (front ++ ("alg", other) :: back).filter isKeyMember =
      front.filter isKeyMember ++ back.filter isKeyMember := by
    rw [List.filter_append, List.filter_cons_of_neg (by simp [isKeyMember])]
  have hothers (other : Json.Tree) :
      (front ++ ("alg", other) :: back).filter (fun member => !isKeyMember member) =
        front.filter (fun member => !isKeyMember member) ++
          ("alg", other) :: back.filter fun member => !isKeyMember member := by
    rw [List.filter_append, List.filter_cons_of_pos (by simp [isKeyMember])]
  simp only [ofKnown?, hkeys, hothers] at h ⊢
  split at h
  · cases h
  · next hsound =>
    obtain ⟨members, hmembers, hread⟩ := Option.bind_eq_some_iff.mp h
    obtain ⟨front', _, back', hfront, hvalue, hback, rfl⟩ :=
      mapM_append_cons_eq_some_iff.mp hmembers
    obtain ⟨value, _, rfl⟩ := Option.map_eq_some_iff.mp hvalue
    refine ⟨front', back', value, hread, fun other value' hother => ?_⟩
    have hmember : readMember? ("alg", other) = some ("alg", value') := by
      rw [readMember?, hother, Option.map_some]
    have hplaced := mapM_append_cons_eq_some_iff.mpr
      ⟨front', _, back', hfront, hmember, hback, rfl⟩
    rw [if_neg hsound, hplaced, Option.bind_some]

end

/-- A header is read with the algorithm that stands in its place, if that is one. -/
theorem ofMembers?_of_name {front back : List (String × Json)} {value : Json} {decoded : Header}
    (h : ofMembers? (front ++ ("alg", value) :: back) = some decoded) (name : String) :
    ofMembers? (front ++ ("alg", .string name) :: back) =
      (Algorithm.ofName? name).map fun algorithm => { decoded with algorithm := algorithm } := by
  -- every other member is looked up past the one that is replaced
  have hother {α : Type} {other : String} (hne : "alg" ≠ other) (read : Json → Option α)
      (value : Json) : Json.optional? other read (front ++ ("alg", value) :: back) =
        Json.optional? other read (front ++ back) := by
    rw [Json.optional?, Json.optional?, Json.single?_append_cons_of_ne hne]
  have hothers (value : Json) :
      ["cty", "jku", "x5u", "x5t", "x5t#S256"].mapM (fun name =>
        Json.optional? name Json.asString? (front ++ ("alg", value) :: back)) =
      ["cty", "jku", "x5u", "x5t", "x5t#S256"].mapM (fun name =>
        Json.optional? name Json.asString? (front ++ back)) := by
    simp only [List.mapM_cons, List.mapM_nil, hother (by decide : "alg" ≠ "cty"),
      hother (by decide : "alg" ≠ "jku"), hother (by decide : "alg" ≠ "x5u"),
      hother (by decide : "alg" ≠ "x5t"), hother (by decide : "alg" ≠ "x5t#S256")]
  simp only [ofMembers?, hothers, hother (by decide : "alg" ≠ "typ"),
    hother (by decide : "alg" ≠ "kid"), hother (by decide : "alg" ≠ "x5c"),
    Option.bind_eq_bind, Option.bind_eq_some_iff] at h ⊢
  obtain ⟨type, htype, algorithm, halgorithm, keyId, hkeyId, texts, htexts, chain, hchain, h⟩ := h
  obtain rfl := Option.some.inj h
  -- the header was read, so its algorithm stands there once, with any value
  have hsingle : Json.single? "alg" (front ++ ("alg", value) :: back) ≠ none := by
    intro hnone
    rw [Json.required?, hnone] at halgorithm
    cases halgorithm
  rw [htype, hkeyId, htexts, hchain, Json.required?, Json.single?_append_cons hsingle]
  simp only [Option.bind_some, Json.asName?]
  cases Algorithm.ofName? name <;> rfl

/-! ## Headers with another name -/

theorem ofName?_eq_some_iff {name : String} {algorithm : Algorithm} :
    Algorithm.ofName? name = some algorithm ↔ algorithm.name = name := by
  constructor
  · exact fun h => (eq_name_of_ofName? h).symm
  · rintro rfl
    exact Algorithm.ofName?_name algorithm

/-- Whether a text gives a name where `decoded` is read with the name for P-256 keys: it is an
object with a string as its algorithm, and with that other string there it would be this header. -/
def NamesInPlace (text : Bytes) (name : String) (decoded : Header) : Prop :=
  ∃ before key content after,
    Json.Tree.parse? text = some (.object (before ++ (key, .string content) :: after)) ∧
    Json.stringText? key = some "alg" ∧ Json.stringText? content = some name ∧
    ofTree? (.object (before ++ (key, .string (Json.contentOf "ES256")) :: after)) = some decoded

/-- A text with a name in the place of the algorithm is a header if and only if the name is that of
an algorithm. -/
theorem NamesInPlace.parse?_eq {text : Bytes} {name : String} {decoded : Header}
    (h : NamesInPlace text name decoded) :
    parse? text =
      (Algorithm.ofName? name).map fun algorithm => { decoded with algorithm := algorithm } := by
  obtain ⟨before, key, content, after, htree, hkey, hcontent, hdecoded⟩ := h
  rw [ofTree?_eq] at hdecoded
  obtain ⟨known, hknown, hread⟩ := Option.bind_eq_some_iff.mp hdecoded
  obtain ⟨front, back, hplaced⟩ := exists_knownMembers?_object hkey hknown
  obtain rfl := Option.some.inj (hknown.symm.trans (hplaced _))
  -- `value` is what was read in the place of the name, and nothing else depends on it
  obtain ⟨front', back', value, hmembers, hread'⟩ := exists_ofKnown?_eq hread
  have hvalue : Json.ofTree? .asWritten innerDepth (.string content) = some (.string name) := by
    rw [Json.ofTree?, hcontent, Option.map_some]
  rw [parse?, htree]
  change ofTree? _ = _
  rw [ofTree?_eq, hplaced, Option.bind_some, hread' _ _ hvalue, ofMembers?_of_name hmembers]

end Header

/-! ## How they are refused -/

section

variable {text : Bytes} {name : String} {decoded : Header} {claims signature : List Char}
  {fault : Fault}

/-- A fault of the header is the outcome, whatever the other parts, the issuer and the keys are. -/
theorem validateWith_of_checkHeader (hheader : checkHeader (encodePart text) = .error fault)
    (hfault : fault ≠ .signature) (hclaims : '.' ∉ claims) (hsignature : '.' ∉ signature)
    (clock : KeySlot → Instant) (issuer : String) (primary : Curve.P256.Point)
    (secondary : Option PublicKey) :
    validateWith clock issuer (.p256 primary) secondary
      (Parts.print ⟨encodePart text, claims, signature⟩) = .error fault.refusal := by
  have hparts : Parts.ofText? (Parts.print ⟨encodePart text, claims, signature⟩).toList =
      some ⟨encodePart text, claims, signature⟩ := Parts.ofText?_print hclaims hsignature
  have hopened : opened (Parts.print ⟨encodePart text, claims, signature⟩) = .error fault := by
    rw [opened, hparts]
    simp only [hheader]
    rfl
  refine validateWith_of_final ?_ (.inr fun hfailure =>
    hfault (Fault.failure_eq_invalidSignature_iff.mp hfailure))
  rw [attempt_p256, hopened]

theorem Header.NamesInPlace.checkHeader_eq (h : Header.NamesInPlace text name decoded)
    (hname : name ≠ "ES256") :
    checkHeader (encodePart text) =
      .error (((Algorithm.ofName? name).map Fault.algorithm).getD .json) := by
  rw [checkHeader, decodePart_encodePart, Outcome.bind_ok, h.parse?_eq]
  cases hofName : Algorithm.ofName? name with
  | none => rfl
  | some algorithm =>
    have hne : algorithm ≠ .es256 := fun heq => by
      rw [heq] at hofName
      exact hname (Header.eq_name_of_ofName? hofName)
    simp only [Option.map_some, hne, if_false]
    rfl

/-- A token whose header gives another name than that for P-256 keys has one fixed outcome, with any
issuer, clock and keys and whatever its other parts hold, and it is settled in the first attempt.
If the name is known, the outcome names the algorithm as one that is not supported; any other name
makes the header unreadable. -/
theorem exists_refusal_of_namesInPlace (h : Header.NamesInPlace text name decoded)
    (hname : name ≠ "ES256") :
    ∃ refusal : Refusal,
      (∀ claims signature, '.' ∉ claims → '.' ∉ signature →
        ∀ clock issuer (primary : Curve.P256.Point) (secondary : Option PublicKey),
          validateWith clock issuer (.p256 primary) secondary
            (Parts.print ⟨encodePart text, claims, signature⟩) = .error refusal) ∧
      (∀ hasSecondary, transition .primary (some refusal.failure) hasSecondary = .fail) ∧
      ((∃ algorithm : Algorithm, algorithm.name = name) →
        refusal.failure = .unsupportedAlgorithm name) ∧
      ((∀ algorithm : Algorithm, algorithm.name ≠ name) →
        refusal.failure = .malformedToken "JSON error") := by
  have hheader := h.checkHeader_eq hname
  have hstep {fault : Fault} (hfault : fault ≠ .signature) (hasSecondary : Bool) :
      transition .primary (some fault.failure) hasSecondary = .fail := by
    cases fault <;> simp_all [transition, Fault.failure, Failure.isInvalidSignature]
  cases hofName : Algorithm.ofName? name with
  | some algorithm =>
    rw [hofName] at hheader
    have hfault : Fault.algorithm algorithm ≠ .signature := by simp
    refine ⟨_, fun _ _ => validateWith_of_checkHeader hheader hfault, hstep hfault, fun _ => ?_,
      fun hunknown => absurd (Header.ofName?_eq_some_iff.mp hofName) (hunknown algorithm)⟩
    rw [Header.eq_name_of_ofName? hofName]
    rfl
  | none =>
    rw [hofName] at hheader
    have hfault : Fault.json ≠ .signature := by simp
    refine ⟨_, fun _ _ => validateWith_of_checkHeader hheader hfault, hstep hfault, ?_,
      fun _ => rfl⟩
    rintro ⟨algorithm, halgorithm⟩
    rw [Header.ofName?_eq_some_iff.mpr halgorithm] at hofName
    cases hofName

end

/-- A header that names another algorithm in escapes, with a key and a chain that are not used. -/
def escapedHeader : String :=
  "\x7b\"typ\":\"JWT\", \"a\\u006cg\":\"HS\\u0032\\u0035\\u0036\",\"jwk\":null," ++
    "\"x5c\":[\"a\"],\"b\":[]\x7d"

theorem namesInPlace_escapedHeader :
    Header.NamesInPlace (Bytes.ofText escapedHeader) "HS256" ⟨some "JWT", .es256, none⟩ :=
  ⟨[(_, _)], _, _, [(_, _), (_, _), (_, _)], by rfl, by decide +kernel, by decide +kernel,
    by decide +kernel⟩

/-- A token that claims nothing and is not signed is refused for its algorithm. -/
theorem refused_escapedHeader :
    Header.NamesInPlace (Bytes.ofText escapedHeader) "HS256" ⟨some "JWT", .es256, none⟩ ∧
      "HS256" ≠ "ES256" ∧
      failure? (validateWith (fun _ => sampleMoment) "https://a" (.p256 oppositePoint)
        (some (.p256 generatorPoint))
        (Parts.print ⟨encodePart (Bytes.ofText escapedHeader), ['!'], []⟩)) =
        some (.unsupportedAlgorithm "HS256") := by
  have hne : "HS256" ≠ "ES256" := by decide
  obtain ⟨refusal, hrefused, _, hknown, _⟩ :=
    exists_refusal_of_namesInPlace namesInPlace_escapedHeader hne
  refine ⟨namesInPlace_escapedHeader, hne, ?_⟩
  rw [hrefused ['!'] [] (by decide) (by decide)]
  exact congrArg some (hknown ⟨.hs256, rfl⟩)

/-- The header of a token that is not signed. -/
def unsignedHeader : String := "\x7b\"alg\":\"none\"\x7d"

theorem namesInPlace_unsignedHeader :
    Header.NamesInPlace (Bytes.ofText unsignedHeader) "none" ⟨none, .es256, none⟩ :=
  ⟨[], _, _, [], by rfl, by decide +kernel, by decide +kernel, by decide +kernel⟩

/-- A token that says that it is not signed is not refused for its algorithm: its header is not read
in the first place. -/
theorem not_unsupported_unsignedHeader :
    Header.NamesInPlace (Bytes.ofText unsignedHeader) "none" ⟨none, .es256, none⟩ ∧
      "none" ≠ "ES256" ∧
      ∀ algorithm, failure? (validate "https://a" (.p256 generatorPoint) none sampleMoment
        (Parts.print ⟨encodePart (Bytes.ofText unsignedHeader), [], []⟩)) ≠
        some (.unsupportedAlgorithm algorithm) := by
  refine ⟨namesInPlace_unsignedHeader, by decide, fun algorithm => ?_⟩
  have hheader := namesInPlace_unsignedHeader.checkHeader_eq (by decide)
  rw [validate, validateWith_of_checkHeader hheader (by decide) (by decide) (by decide)]
  intro heq
  cases heq

end Possession.Token

import Possession.Proofs.Json.RoundTrip
import Possession.Token.Header

/-!
# Headers read back

A header reads back from its text as itself. Conversely, a text that reads as a header says so: what
the header gives as its algorithm is the value of the member `alg` of the text.
-/

namespace Possession.Token.Header

/-! ## What is written is read -/

/-- The header that is read from members other than a key. -/
def ofMembers? (members : List (String × Json)) : Option Header := do
  let type ← Json.optional? "typ" Json.asString? members
  let algorithm ← Json.required? "alg" (·.asName?.bind Algorithm.ofName?) members
  let keyId ← Json.optional? "kid" Json.asString? members
  let _ ← ["cty", "jku", "x5u", "x5t", "x5t#S256"].mapM fun name =>
    Json.optional? name Json.asString? members
  let _ ← Json.optional? "x5c" (Json.asListOf? Json.asString?) members
  return ⟨type, algorithm, keyId⟩

/-- A header without a key is read from its members. -/
theorem ofTree?_of_known {tree : Json.Tree} {known : List (String × Json.Tree)}
    {members : List (String × Json)} (hknown : knownMembers? tree = some known)
    (hkey : known.partition (fun (name, _) => name == "jwk") = ([], known))
    (hmembers : known.mapM (fun (name, tree) =>
      (Json.ofTree? .asWritten innerDepth tree).map fun value => (name, value)) = some members) :
    ofTree? tree = ofMembers? members := by
  simp only [ofTree?, hknown, Option.bind_eq_bind, Option.bind_some, hkey, List.length_nil,
    List.all_nil, hmembers]
  rfl

/-- Strings are read from their trees. -/
theorem mapM_ofTree?_strings (texts : List (String × String)) :
    (texts.map fun text => (text.1, Json.toTree (.string text.2))).mapM (fun (name, tree) =>
        (Json.ofTree? .asWritten innerDepth tree).map fun value => (name, value)) =
      some (texts.map fun text => (text.1, .string text.2)) := by
  induction texts with
  | nil => rfl
  | cons text texts ih =>
    rw [List.map_cons, List.mapM_cons, ih]
    dsimp only
    rw [Json.toTree, Json.ofTree?, Json.stringText?_contentOf]
    rfl

/-- The members of a header, all of which are strings. -/
def texts (header : Header) : List (String × String) :=
  (header.type.map fun type => ("typ", type)).toList ++ [("alg", header.algorithm.name)] ++
    (header.keyId.map fun keyId => ("kid", keyId)).toList

theorem toJson_eq (header : Header) :
    header.toJson = .object (header.texts.map fun text => (text.1, .string text.2)) := by
  obtain ⟨type, algorithm, keyId⟩ := header
  cases type <;> cases keyId <;> rfl

theorem ofMembers?_texts (header : Header) :
    ofMembers? (header.texts.map fun text => (text.1, .string text.2)) = some header := by
  obtain ⟨type, algorithm, keyId⟩ := header
  have halgorithm : (Json.string algorithm.name).asName?.bind Algorithm.ofName? = some algorithm :=
    Algorithm.ofName?_name algorithm
  cases type <;> cases keyId <;>
    simp [ofMembers?, texts, Json.optional?, Json.required?, Json.single?, Json.asString?,
      halgorithm]

theorem parse?_print (header : Header) : parse? (Bytes.ofText header.print) = some header := by
  rw [print, parse?, Json.Tree.parse?_print]
  have hknown : knownMembers? (Json.toTree header.toJson) =
      some (header.texts.map fun text => (text.1, Json.toTree (.string text.2))) := by
    rw [toJson_eq, Json.toTree, knownMembers?, Json.nameMembers?_memberTrees]
    obtain ⟨type, algorithm, keyId⟩ := header
    cases type <;> cases keyId <;> rfl
  have hkey : (header.texts.map fun text => (text.1, Json.toTree (.string text.2))).partition
      (fun (name, _) => name == "jwk") =
      ([], header.texts.map fun text => (text.1, Json.toTree (.string text.2))) := by
    obtain ⟨type, algorithm, keyId⟩ := header
    cases type <;> cases keyId <;> rfl
  change ofTree? (Json.toTree header.toJson) = some header
  rw [ofTree?_of_known hknown hkey (mapM_ofTree?_strings header.texts), ofMembers?_texts]

/-! ## What is read was written -/

/-- Whether the header that a text holds names an algorithm: the value of its member `alg` is that
name. -/
def NamesAlgorithm (text : Bytes) (name : String) : Prop :=
  ∃ tree known member value, Json.Tree.parse? text = some tree ∧ knownMembers? tree = some known ∧
    ("alg", member) ∈ known ∧ Json.ofTree? .asWritten innerDepth member = some value ∧
    value.asName? = some name

theorem mem_of_mapM {α β : Type} {f : α → Option β} {items : List α} {results : List β}
    (h : items.mapM f = some results) {result : β} (hresult : result ∈ results) :
    ∃ item ∈ items, f item = some result := by
  induction items generalizing results with
  | nil =>
    cases h
    cases hresult
  | cons item items ih =>
    simp only [List.mapM_cons, Option.bind_eq_bind, Option.bind_eq_some_iff] at h
    obtain ⟨first, hfirst, others, hothers, h⟩ := h
    cases h
    rcases List.mem_cons.mp hresult with rfl | hresult
    · exact ⟨item, by simp, hfirst⟩
    · obtain ⟨other, hother, hread⟩ := ih hothers hresult
      exact ⟨other, by simp [hother], hread⟩

theorem eq_name_of_ofName? {name : String} {algorithm : Algorithm}
    (h : Algorithm.ofName? name = some algorithm) : name = algorithm.name := by
  have hname := List.find?_some h
  exact (beq_iff_eq.mp hname).symm

/-- A header is read with the algorithm that its text names. -/
theorem namesAlgorithm_of_parse? {text : Bytes} {header : Header}
    (h : parse? text = some header) : NamesAlgorithm text header.algorithm.name := by
  obtain ⟨tree, htree, h⟩ := Option.bind_eq_some_iff.mp h
  simp only [ofTree?, Option.bind_eq_bind, Option.bind_eq_some_iff] at h
  obtain ⟨known, hknown, h⟩ := h
  split at h
  · cases h
  · simp only [Option.bind_eq_some_iff] at h
    obtain ⟨members, hmembers, _, _, algorithm, halgorithm, _, _, _, _, _, _, h⟩ := h
    cases h
    obtain ⟨value, hvalue, hread⟩ := Json.exists_mem_of_required? halgorithm
    obtain ⟨name, hname, hofName⟩ := Option.bind_eq_some_iff.mp hread
    obtain ⟨⟨key, member⟩, hmember, hmap⟩ := mem_of_mapM hmembers hvalue
    obtain ⟨_, hofTree, heq⟩ := Option.map_eq_some_iff.mp hmap
    cases heq
    have hknownMember : ("alg", member) ∈ known := by simpa using hmember
    rw [eq_name_of_ofName? hofName] at hname
    exact ⟨tree, known, member, value, htree, hknown, hknownMember, hofTree, hname⟩

end Possession.Token.Header

import Possession.Jwk
import Possession.Proofs.Base64
import Possession.Proofs.Json.RoundTrip

/-!
# JSON web keys read back

All members of a key are strings, so its text has one tree, whatever the identifier holds, and each
member is found there under its name.
-/

namespace Possession.Jwk

/-! ## Names and byte strings -/

theorem EcCurve.ofName?_name (curve : EcCurve) : ofName? curve.name = some curve := by
  cases curve <;> decide

theorem OkpCurve.ofName?_name (curve : OkpCurve) : ofName? curve.name = some curve := by
  cases curve <;> decide

theorem EcCurve.eq_name_of_ofName? {name : String} {curve : EcCurve}
    (h : ofName? name = some curve) : name = curve.name := by
  have hname := List.find?_some h
  exact (beq_iff_eq.mp hname).symm

theorem OkpCurve.eq_name_of_ofName? {name : String} {curve : OkpCurve}
    (h : ofName? name = some curve) : name = curve.name := by
  have hname := List.find?_some h
  exact (beq_iff_eq.mp hname).symm

theorem asBytes?_ofBytes (bytes : Bytes) : asBytes? (ofBytes bytes) = some bytes := by
  change Base64.decode? Base64.urlUnpadded (Base64.encode Base64.urlUnpadded bytes) = some bytes
  rw [Base64.decode?, Base64.decodeText_encode]
  rfl

/-! ## Members -/

/-- The members of the material of a key, by their texts. -/
def Material.texts : Material → List (String × String)
  | .ec curve x y d =>
    [("kty", "EC"), ("crv", curve.name), ("x", Base64.encode Base64.urlUnpadded x),
      ("y", Base64.encode Base64.urlUnpadded y)] ++
      (d.map fun d => ("d", Base64.encode Base64.urlUnpadded d)).toList
  | .rsa n e =>
    [("kty", "RSA"), ("n", Base64.encode Base64.urlUnpadded n),
      ("e", Base64.encode Base64.urlUnpadded e)]
  | .oct k => [("kty", "oct"), ("k", Base64.encode Base64.urlUnpadded k)]
  | .okp curve x d =>
    [("kty", "OKP"), ("crv", curve.name), ("x", Base64.encode Base64.urlUnpadded x)] ++
      (d.map fun d => ("d", Base64.encode Base64.urlUnpadded d)).toList

/-- The members of a key, by their texts. -/
def texts (jwk : Jwk) : List (String × String) :=
  jwk.material.texts ++ (jwk.algorithm.map fun name => ("alg", name)).toList ++
    (jwk.keyId.map fun keyId => ("kid", keyId)).toList

theorem toJson_eq (jwk : Jwk) :
    jwk.toJson = .object (jwk.texts.map fun text => (text.1, .string text.2)) := by
  obtain ⟨material, algorithm, keyId⟩ := jwk
  cases material with
  | ec curve x y d => cases d <;> cases algorithm <;> cases keyId <;> rfl
  | okp curve x d => cases d <;> cases algorithm <;> cases keyId <;> rfl
  | rsa n e => cases algorithm <;> cases keyId <;> rfl
  | oct k => cases algorithm <;> cases keyId <;> rfl

/-- The material of a key is read from the members of its type, and no other member of a key is
taken for one of them. -/
theorem readMaterial?_texts (jwk : Jwk) :
    ∃ type, Json.required? "kty" (Json.asNameOrIndex? types)
        (jwk.texts.map fun text => (text.1, .string text.2)) = some type ∧
      readMaterial? type (jwk.texts.map fun text => (text.1, .string text.2)) =
        some jwk.material := by
  have hbytes (bytes : Bytes) :
      asBytes? (.string (Base64.encode Base64.urlUnpadded bytes)) = some bytes :=
    asBytes?_ofBytes bytes
  obtain ⟨material, algorithm, keyId⟩ := jwk
  cases material with
  | ec curve x y d =>
    refine ⟨"EC", ?_, ?_⟩ <;> cases d <;> cases algorithm <;> cases keyId <;>
      simp [texts, Material.texts, types, readMaterial?, Json.required?, Json.optional?,
        Json.single?, Json.asNameOrIndex?, Json.asOpenName?, Json.asName?, EcCurve.ofName?_name,
        hbytes]
  | rsa n e =>
    refine ⟨"RSA", ?_, ?_⟩ <;> cases algorithm <;> cases keyId <;>
      simp [texts, Material.texts, types, readMaterial?, Json.required?, Json.single?,
        Json.asNameOrIndex?, hbytes]
  | oct k =>
    refine ⟨"oct", ?_, ?_⟩ <;> cases algorithm <;> cases keyId <;>
      simp [texts, Material.texts, types, readMaterial?, Json.required?, Json.single?,
        Json.asNameOrIndex?, hbytes]
  | okp curve x d =>
    refine ⟨"OKP", ?_, ?_⟩ <;> cases d <;> cases algorithm <;> cases keyId <;>
      simp [texts, Material.texts, types, readMaterial?, Json.required?, Json.optional?,
        Json.single?, Json.asNameOrIndex?, Json.asOpenName?, Json.asName?, OkpCurve.ofName?_name,
        hbytes]

def Material.names : List String := ["kty", "crv", "x", "y", "d", "n", "e", "k"]

theorem Material.mem_names_of_mem_texts {material : Material} {text : String × String}
    (h : text ∈ material.texts) : text.1 ∈ names := by
  revert text
  cases material with
  | ec curve x y d => cases d <;> simp [texts, names]
  | rsa n e => simp [texts, names]
  | oct k => simp [texts, names]
  | okp curve x d => cases d <;> simp [texts, names]

/-- The members that describe a key stand behind those of its material and are found there. -/
theorem single?_texts {name : String} (h : name ∉ Material.names) (jwk : Jwk) :
    Json.single? name (jwk.texts.map fun text => (text.1, .string text.2)) =
      Json.single? name (((jwk.algorithm.map fun name => ("alg", name)).toList ++
        (jwk.keyId.map fun keyId => ("kid", keyId)).toList).map fun text =>
          (text.1, .string text.2)) := by
  rw [texts, List.append_assoc, List.map_append]
  refine Json.single?_append_of_forall_ne' _ ?_
  rintro member hmember rfl
  obtain ⟨text, htext, rfl⟩ := List.mem_map.mp hmember
  exact h (Material.mem_names_of_mem_texts htext)

/-- A member that no key has is read as absent. -/
theorem optional?_texts_of_notMem {α : Type} {name : String}
    (h : name ∉ "alg" :: "kid" :: Material.names) (jwk : Jwk) (read : Json → Option α) :
    Json.optional? name read (jwk.texts.map fun text => (text.1, .string text.2)) = some none := by
  simp only [List.mem_cons, not_or] at h
  obtain ⟨halgorithm, hkeyId, hmaterial⟩ := h
  rw [Json.optional?, single?_texts hmaterial]
  cases jwk.algorithm <;> cases jwk.keyId <;>
    simp [Json.single?, Ne.symm halgorithm, Ne.symm hkeyId]

/-- A key whose algorithm is a known one is read from its members. -/
theorem ofMembers?_texts {jwk : Jwk} (h : ∀ name, jwk.algorithm = some name → name ∈ algorithms) :
    ofMembers? (jwk.texts.map fun text => (text.1, .string text.2)) = some jwk := by
  obtain ⟨type, htype, hmaterial⟩ := readMaterial?_texts jwk
  have halgorithm : Json.optional? "alg" (asOneOf? algorithms)
      (jwk.texts.map fun text => (text.1, .string text.2)) = some jwk.algorithm := by
    rw [Json.optional?, single?_texts (by decide)]
    cases hname : jwk.algorithm with
    | none => cases jwk.keyId <;> simp [Json.single?]
    | some name =>
      have hknown : asOneOf? algorithms (.string name) = some name := by
        simp [asOneOf?, Json.asName?, h name hname]
      cases jwk.keyId <;> simp [Json.single?, hknown]
  have hkeyId : Json.optional? "kid" Json.asString?
      (jwk.texts.map fun text => (text.1, .string text.2)) = some jwk.keyId := by
    rw [Json.optional?, single?_texts (by decide)]
    cases jwk.algorithm <;> cases jwk.keyId <;> simp [Json.single?, Json.asString?]
  simp only [ofMembers?, htype, hmaterial, halgorithm, hkeyId, Option.bind_eq_bind,
    Option.bind_some, optional?_texts_of_notMem (by decide : "use" ∉ _),
    optional?_texts_of_notMem (by decide : "key_ops" ∉ _),
    optional?_texts_of_notMem (by decide : "x5c" ∉ _),
    optional?_texts_of_notMem (by decide : "x5t" ∉ _),
    optional?_texts_of_notMem (by decide : "x5t#S256" ∉ _)]
  rfl

/-! ## What the material is read from -/

def Material.type : Material → String
  | .ec .. => "EC"
  | .rsa .. => "RSA"
  | .oct _ => "oct"
  | .okp .. => "OKP"

section

variable {type : String} {members : List (String × Json)} {x : Bytes} {d : Option Bytes}

theorem type_eq_of_readMaterial? {material : Material}
    (h : readMaterial? type members = some material) : type = material.type := by
  rw [readMaterial?] at h
  -- each type builds material of its own only
  repeat' split at h
  all_goals simp only [Option.bind_eq_bind, Option.bind_eq_some_iff, reduceCtorEq] at h
  all_goals grind [Material.type]

/-- Material on an elliptic curve is read from the members of such a key. -/
theorem of_readMaterial?_ec {curve : EcCurve} {y : Bytes}
    (h : readMaterial? type members = some (.ec curve x y d)) :
    type = "EC" ∧ Json.required? "crv" Json.asOpenName? members = some curve.name ∧
      Json.required? "x" asBytes? members = some x ∧
      Json.required? "y" asBytes? members = some y ∧
      Json.optional? "d" asBytes? members = some d := by
  obtain rfl := type_eq_of_readMaterial? h
  simp only [readMaterial?, Material.type, if_pos, Json.required?_bind, Option.bind_eq_bind,
    Option.bind_eq_some_iff] at h
  obtain ⟨_, ⟨name, hname, hcurve⟩, _, hx, _, hy, _, hd, h⟩ := h
  cases h
  exact ⟨rfl, EcCurve.eq_name_of_ofName? hcurve ▸ hname, hx, hy, hd⟩

/-- The material of an octet key pair is read from the members of such a key. -/
theorem of_readMaterial?_okp {curve : OkpCurve}
    (h : readMaterial? type members = some (.okp curve x d)) :
    type = "OKP" ∧ Json.required? "crv" Json.asOpenName? members = some curve.name ∧
      Json.required? "x" asBytes? members = some x ∧
      Json.optional? "d" asBytes? members = some d := by
  obtain rfl := type_eq_of_readMaterial? h
  rw [readMaterial?, Material.type, if_neg (by decide), if_neg (by decide), if_neg (by decide),
    if_pos rfl] at h
  simp only [Json.required?_bind, Option.bind_eq_bind, Option.bind_eq_some_iff] at h
  obtain ⟨_, ⟨name, hname, hcurve⟩, _, hx, _, hd, h⟩ := h
  cases h
  exact ⟨rfl, OkpCurve.eq_name_of_ofName? hcurve ▸ hname, hx, hd⟩

theorem readMaterial?_of_ofMembers? {jwk : Jwk} (h : ofMembers? members = some jwk) :
    ∃ type, Json.required? "kty" (Json.asNameOrIndex? types) members = some type ∧
      readMaterial? type members = some jwk.material := by
  simp only [ofMembers?, Option.bind_eq_bind, Option.bind_eq_some_iff] at h
  obtain ⟨type, htype, material, hmaterial, _, _, _, _, _, _, _, _, _, _, _, _, _, _, h⟩ := h
  cases h
  exact ⟨type, htype, hmaterial⟩

end

/-! ## One key -/

/-- A key whose algorithm is a known one is read back from its text. -/
theorem parse?_print {jwk : Jwk} (h : ∀ name, jwk.algorithm = some name → name ∈ algorithms) :
    parse? (Bytes.ofText jwk.print) = some jwk := by
  have hmembers : Json.parseMembers? .asWritten (Bytes.ofText jwk.print) =
      some (jwk.texts.map fun text => (text.1, .string text.2)) := by
    rw [print, Json.parseMembers?, Json.Tree.parse?_print, toJson_eq, Json.toTree]
    exact Json.ofMembers?_strings .asWritten (Json.depthLimit - 1) jwk.texts
  rw [parse?, hmembers]
  exact ofMembers?_texts h

/-! ## Sets -/

/-- A key is read from its tree, wherever the tree stands. -/
theorem ofMembers?_toTree {jwk : Jwk} (h : ∀ name, jwk.algorithm = some name → name ∈ algorithms)
    (depth : Nat) :
    (Json.treeMembers? (depth + 1) (Json.toTree jwk.toJson)).bind ofMembers? = some jwk := by
  rw [toJson_eq, Json.toTree, Json.treeMembers?, if_neg (Nat.succ_ne_zero depth),
    Json.ofMembers?_strings, Option.bind_some, ofMembers?_texts h]

section

variable {keys : List Jwk}
  (h : ∀ jwk ∈ keys, ∀ name, jwk.algorithm = some name → name ∈ algorithms)

include h

theorem ofTrees?_itemTrees : ofTrees? (Json.itemTrees (keys.map toJson)) = some keys := by
  induction keys with
  | nil => rfl
  | cons jwk keys ih =>
    obtain ⟨hfirst, hrest⟩ := List.forall_mem_cons.mp h
    have hkey := ofMembers?_toTree hfirst (Json.depthLimit - 3)
    have hkeys := ih hrest
    rw [ofTrees?] at hkeys
    rw [List.map_cons, Json.itemTrees, ofTrees?, List.mapM_cons, hkeys]
    change ((Json.treeMembers? (Json.depthLimit - 3 + 1) _).bind ofMembers?).bind _ = _
    rw [hkey]
    rfl

/-- A set of keys with known algorithms is read back from its text. -/
theorem parseSet?_printSet : parseSet? (Bytes.ofText (printSet keys)) = some keys := by
  have hname := Json.nameMembers?_memberTrees [("keys", .array (keys.map toJson))]
  rw [parseSet?, printSet, Json.Tree.parse?_print, Json.toTree]
  simp only [Option.bind_eq_bind, Option.bind_some, hname]
  exact ofTrees?_itemTrees h

end

end Possession.Jwk

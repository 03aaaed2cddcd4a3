import Possession.Proofs.Signature.Base
import Possession.Signature.Verification

/-!
# What a verified signature has gone through

Each step of verification is characterised by a condition on its input and by the failure that it
ends in otherwise.
-/

namespace Possession.Signature

/-! ## Selecting a signature -/

abbrev Dictionary : Type := List (String × List Char)

/-- Whether a value belongs to the first member with the given label. -/
def FirstWith (members : Dictionary) (label : String) (value : List Char) : Prop :=
  ∃ before after, members = before ++ (label, value) :: after ∧
    ∀ member ∈ before, member.1 ≠ label

theorem lookup?_eq_some_iff {label : String} {members : Dictionary} {value : List Char} :
    lookup? label members = some value ↔ FirstWith members label value := by
  simp only [lookup?, Option.map_eq_some_iff, List.find?_eq_some_iff_append, FirstWith]
  constructor
  · rintro ⟨⟨other, _⟩, ⟨hlabel, before, after, hmembers, hbefore⟩, rfl⟩
    obtain rfl : other = label := by simpa using hlabel
    exact ⟨before, after, hmembers, by simpa using hbefore⟩
  · rintro ⟨before, after, hmembers, hbefore⟩
    exact ⟨(label, value), ⟨by simp, before, after, hmembers, by simpa using hbefore⟩, rfl⟩

theorem lookup?_eq_none_iff {label : String} {members : Dictionary} :
    lookup? label members = none ↔ ∀ member ∈ members, member.1 ≠ label := by
  simp [lookup?]

/-- Whether a label is the first one of `inputs` that also occurs in `signatures`, and what stands
there under it. -/
def FirstCommon (inputs signatures : Dictionary) (label : String) (list bytes : List Char) : Prop :=
  (∃ before after, inputs = before ++ (label, list) :: after ∧
    ∀ earlier ∈ before, ∀ member ∈ signatures, member.1 ≠ earlier.1) ∧
  FirstWith signatures label bytes

theorem firstCommon?_eq_findSome? (signatures inputs : Dictionary) :
    firstCommon? signatures inputs = inputs.findSome? fun member =>
      (lookup? member.1 signatures).map fun bytes => (member.1, member.2, bytes) := by
  induction inputs with
  | nil => rfl
  | cons member rest ih =>
    rw [firstCommon?, List.findSome?_cons]
    cases lookup? member.1 signatures with
    | none => exact ih
    | some bytes => rfl

theorem firstCommon?_eq_some_iff {inputs signatures : Dictionary} {label : String}
    {list bytes : List Char} :
    firstCommon? signatures inputs = some (label, list, bytes) ↔
      FirstCommon inputs signatures label list bytes := by
  simp only [firstCommon?_eq_findSome?, List.findSome?_eq_some_iff, Option.map_eq_some_iff,
    Option.map_eq_none_iff, lookup?_eq_some_iff, lookup?_eq_none_iff, FirstCommon]
  constructor
  · rintro ⟨before, ⟨_, _⟩, after, hinputs, ⟨_, hbytes, hsame⟩, hbefore⟩
    cases hsame
    exact ⟨⟨before, after, hinputs, hbefore⟩, hbytes⟩
  · rintro ⟨⟨before, after, hinputs, hbefore⟩, hbytes⟩
    exact ⟨before, (label, list), after, hinputs, ⟨bytes, hbytes, rfl⟩, hbefore⟩

/-- Whether the headers of a request select a signature: both can be read as dictionaries, and the
first label of the one that also occurs in the other has a list of components there and bytes
here. -/
def Selects (request : Request) (params : Params) (bytes : Bytes) : Prop :=
  ∃ input signature inputs signatures,
    request.signatureInput = some input ∧ request.signature = some signature ∧
    readDictionary input = .ok inputs ∧ readDictionary signature = .ok signatures ∧
    ∃ label list text, FirstCommon inputs signatures label list text ∧
      readInnerList label list = .ok params ∧ readByteSequence text = .ok bytes

theorem select_eq_ok_iff {input signature : String} {params : Params} {bytes : Bytes} :
    select input signature = .ok (params, bytes) ↔
      ∃ inputs signatures, readDictionary input = .ok inputs ∧
        readDictionary signature = .ok signatures ∧
        ∃ label list text, FirstCommon inputs signatures label list text ∧
          readInnerList label list = .ok params ∧ readByteSequence text = .ok bytes := by
  simp only [select, Outcome.bind_eq_ok_iff]
  constructor
  · rintro ⟨signatures, hsignatures, inputs, hinputs, h⟩
    refine ⟨inputs, signatures, hinputs, hsignatures, ?_⟩
    split at h
    · cases h
    · next label list text hcommon =>
      simp only [Outcome.bind_eq_ok_iff, Outcome.mapError_eq_ok_iff] at h
      obtain ⟨found, hlist, read, hbytes, hsame⟩ := h
      cases hsame
      exact ⟨label, list, text, firstCommon?_eq_some_iff.mp hcommon, hlist, hbytes⟩
  · rintro ⟨inputs, signatures, hinputs, hsignatures, label, list, text, hcommon, hlist, hbytes⟩
    refine ⟨signatures, hsignatures, inputs, hinputs, ?_⟩
    rw [firstCommon?_eq_some_iff.mpr hcommon]
    simp only [Outcome.bind_eq_ok_iff, Outcome.mapError_eq_ok_iff]
    exact ⟨params, hlist, bytes, hbytes, rfl⟩

theorem ofRequest_eq_ok_iff {request : Request} {params : Params} {bytes : Bytes} :
    ofRequest request = .ok (params, bytes) ↔ Selects request params bytes := by
  unfold ofRequest Selects
  cases request.signatureInput with
  | none => simp
  | some input =>
    cases request.signature with
    | none => simp
    | some signature => simp [select_eq_ok_iff]

/-- A request selects one signature at most. -/
theorem Selects.unique {request : Request} {params params' : Params} {bytes bytes' : Bytes}
    (h : Selects request params bytes) (h' : Selects request params' bytes') :
    params = params' ∧ bytes = bytes' := by
  have hsame := (ofRequest_eq_ok_iff.mpr h).symm.trans (ofRequest_eq_ok_iff.mpr h')
  simpa using hsame

theorem checkCovered_eq_ok_iff {params : Params} {required : List String} :
    checkCovered params required = .ok () ↔
      ∀ component ∈ required, component ∈ params.components := by
  induction required with
  | nil => simp [checkCovered]
  | cons component rest ih =>
    by_cases hmem : component ∈ params.components
    · simp [checkCovered, hmem, ih]
    · simp [checkCovered, hmem, Outcome.refuse]

theorem checkAlgorithm_eq_ok_iff {key : PublicKey} {params : Params} :
    checkAlgorithm key params = .ok () ↔
      ∀ algorithm, params.algorithm? = some algorithm → algorithm = key.signatureAlgorithm := by
  unfold checkAlgorithm
  cases params.algorithm? with
  | none => simp
  | some algorithm => by_cases h : algorithm = key.signatureAlgorithm <;> simp [h]

/-- Whether bytes in a layout are a signature of a message under a key. -/
def VerifiesAs (message bytes : Bytes) : PublicKey → Encoding → Prop
  | .p256 point, .der => ∃ signature, Ecdsa.Signature.ofDer? bytes = some signature ∧
      Ecdsa.verify point message signature = true
  | .p256 point, .fixed => ∃ signature, Ecdsa.Signature.ofFixed? bytes = some signature ∧
      Ecdsa.verify point message signature = true
  | .ed25519 _, .der => False
  | .ed25519 key, .fixed => ∃ signature, Ed25519.Signature.ofBytes? bytes = some signature ∧
      Ed25519.verify key message signature = .ok ()

theorem attempt_eq_ok_iff {key : PublicKey} {encoding : Encoding} {message bytes : Bytes} :
    attempt key encoding message bytes = .ok () ↔ VerifiesAs message bytes key encoding := by
  cases key with
  | p256 point =>
    cases encoding with
    | der =>
      cases hread : Ecdsa.Signature.ofDer? bytes <;>
        simp [attempt, VerifiesAs, Encoding.decode?, hread]
    | fixed =>
      cases hread : Ecdsa.Signature.ofFixed? bytes <;>
        simp [attempt, VerifiesAs, Encoding.decode?, hread]
  | ed25519 key =>
    cases encoding with
    | der => simp [attempt, VerifiesAs]
    | fixed =>
      cases hread : Ed25519.Signature.ofBytes? bytes <;>
        simp [attempt, VerifiesAs, hread, Outcome.mapError_eq_ok_iff]

/-- The layout that is reported is DER wherever the bytes verify in DER. -/
theorem verifyBytes_eq_ok_iff {key : PublicKey} {message bytes : Bytes} {encoding : Encoding} :
    verifyBytes key message bytes = .ok encoding ↔
      VerifiesAs message bytes key encoding ∧
        (encoding = .fixed → ¬ VerifiesAs message bytes key .der) := by
  simp only [← attempt_eq_ok_iff]
  unfold verifyBytes
  cases hder : attempt key .der message bytes with
  | ok =>
    cases encoding <;> simp [hder]
  | error first =>
    cases hfixed : attempt key .fixed message bytes <;> cases encoding <;> simp [hder, hfixed]

theorem exists_verifyBytes_iff {key : PublicKey} {message bytes : Bytes} :
    (∃ encoding, verifyBytes key message bytes = .ok encoding) ↔
      VerifiesAs message bytes key .der ∨ VerifiesAs message bytes key .fixed := by
  constructor
  · rintro ⟨encoding, hencoding⟩
    have hverifies := (verifyBytes_eq_ok_iff.mp hencoding).1
    cases encoding with
    | der => exact .inl hverifies
    | fixed => exact .inr hverifies
  · intro h
    by_cases hder : VerifiesAs message bytes key .der
    · exact ⟨.der, verifyBytes_eq_ok_iff.mpr ⟨hder, by simp⟩⟩
    · exact ⟨.fixed, verifyBytes_eq_ok_iff.mpr ⟨h.resolve_left hder, fun _ => hder⟩⟩

theorem failure_of_verifyBytes_eq_error {key : PublicKey} {message bytes : Bytes}
    {refusal : Refusal} (h : verifyBytes key message bytes = .error refusal) :
    refusal.failure = .invalidSignature := by
  unfold verifyBytes at h
  split at h
  · cases h
  · split at h
    · cases h
    · cases h
      rfl

/-- The neutral element of the curve as a key. -/
def neutralKey : Ed25519.PublicKey := ⟨1 :: List.replicate 31 0, by decide, by decide +kernel⟩

/-- The neutral element with the response zero. -/
def neutralBytes : Bytes := 1 :: List.replicate 63 0

/-! ## The whole verification -/

theorem verify_eq_ok_iff {request : Request} {key : PublicKey} {required : List String}
    {verified : Verified} :
    verify request key required = .ok verified ↔
      ∃ bytes text, Selects request verified.params bytes ∧
        (∀ component ∈ required, component ∈ verified.params.components) ∧
        (∀ algorithm, verified.params.algorithm? = some algorithm →
          algorithm = key.signatureAlgorithm) ∧
        base request verified.params = .ok text ∧
        VerifiesAs (Bytes.ofText text) bytes key verified.encoding ∧
        (verified.encoding = .fixed → ¬ VerifiesAs (Bytes.ofText text) bytes key .der) := by
  simp only [verify, Outcome.bind_eq_ok_iff, Outcome.mapError_eq_ok_iff, Prod.exists,
    ofRequest_eq_ok_iff]
  constructor
  · rintro
      ⟨params, bytes, hselects, ⟨⟩, hcovered, ⟨⟩, halgorithm, text, hbase, encoding, hverify, h⟩
    cases h
    exact ⟨bytes, text, hselects, checkCovered_eq_ok_iff.mp hcovered,
      checkAlgorithm_eq_ok_iff.mp halgorithm, hbase, verifyBytes_eq_ok_iff.mp hverify⟩
  · rintro ⟨bytes, text, hselects, hcovered, halgorithm, hbase, hverify⟩
    exact ⟨verified.params, bytes, hselects, (), checkCovered_eq_ok_iff.mpr hcovered, (),
      checkAlgorithm_eq_ok_iff.mpr halgorithm, text, hbase, verified.encoding,
      verifyBytes_eq_ok_iff.mpr hverify, rfl⟩

/-- Verification looks at the two headers and the covered components, and at nothing else of a
request. -/
theorem verify_congr {request other : Request} (hheaders : ofRequest other = ofRequest request)
    (hvalues : ∀ params bytes, ofRequest request = .ok (params, bytes) →
      ∀ component ∈ params.components,
        componentValue other component = componentValue request component)
    (key : PublicKey) (required : List String) :
    verify other key required = verify request key required := by
  rw [verify, verify, hheaders]
  cases hselected : ofRequest request with
  | error fault => rfl
  | ok selected =>
    dsimp only [Except.mapError, bind, Except.bind]
    rw [base_congr (hvalues selected.1 selected.2 hselected)]

/-- What binds a signature to the body is the digest that it covers. -/
theorem verify_setBody (request : Request) (body : Option Bytes) (key : PublicKey)
    (required : List String) :
    verify { request with body := body } key required = verify request key required := by
  have hheaders : ofRequest { request with body := body } = ofRequest request := rfl
  exact verify_congr hheaders (fun _ _ _ _ _ => rfl) key required

end Possession.Signature

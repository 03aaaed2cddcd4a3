import Possession.Proofs.Signature.Header
import Possession.Proofs.Signature.Verification
import Possession.Signature.Base

/-!
# Signer and verifier agree

The verifier rebuilds the base on the request with two more fields and finds the same text, because
neither field is covered.
-/

namespace Possession.Signature

open Request (Field foldName)

/-! ## What a signature may cover -/

/-- Whether the two headers can carry parameters: what the headers require of the label and of the
list, and of the parameters that they begin where the list ends and hold no comma that separates.
The signature does not cover the two headers themselves. -/
structure Params.Sendable (params : Params) : Prop where
  label : isLabel params.label.toList = true
  nodup : params.components.Nodup
  lower : ∀ component ∈ params.components, component.toList.any Text.isAsciiUpper = false
  other : ∀ component ∈ params.components, component ≠ "signature" ∧ component ≠ "signature-input"
  visible : Request.Visible params.parameters.toList
  trimmed : Text.trim params.parameters.toList = params.parameters.toList
  /-- The parameters begin with a semicolon. -/
  begins : params.parameters.toList = [] ∨ ∃ rest, params.parameters.toList = ';' :: rest
  /-- Every comma of the parameters stands inside a string or a parenthesis. -/
  closed : StructuredField.Closed ',' .start params.parameters.toList

/-! ## The base on the longer request -/

/-- An added field changes no component but the one of its name. -/
theorem componentValue_addField {request : Request} {field : Field} {component : String}
    (h : field.name ≠ foldName component) :
    componentValue (request.addField field) component = componentValue request component := by
  unfold componentValue
  rw [Request.header_addField h]
  rfl

theorem base_addField {request : Request} {field : Field} {params : Params}
    (h : ∀ component ∈ params.components, field.name ≠ foldName component) :
    base (request.addField field) params = base request params :=
  base_congr fun component hcomponent => componentValue_addField (h component hcomponent)

/-! ## The two fields -/

theorem toList_member (params : Params) :
    params.member.toList = params.label.toList ++ '=' :: params.serialize.toList := by
  simp [Params.member]

theorem toList_bytesMember (label : String) (bytes : Bytes) :
    (bytesMember label bytes).toList = label.toList ++ '=' :: bytesText bytes := by
  simp [bytesMember, bytesText, Base64.encode]

theorem visible_label {label : String} (h : isLabel label.toList = true) :
    Request.Visible label.toList :=
  Request.visible_of_printable fun c hc => isPrintable_of_isLabelChar ((isLabel_iff.mp h).2 c hc)

theorem Params.Sendable.visible_member {params : Params} (h : params.Sendable)
    (hnames : ∀ component ∈ params.components, IsName component) :
    Request.Visible params.member.toList := by
  have hmarks : Text.IsPrintable '=' ∧ Text.IsPrintable '(' ∧ Text.IsPrintable ')' := by decide
  have hlist : Text.Printable ('=' :: ('(' :: itemsText params.components ++ [')'])) := by
    simp [hmarks, printable_itemsText hnames]
  rw [toList_member, toList_serialize_eq_append, ← List.cons_append]
  exact (visible_label h.label).append ((Request.visible_of_printable hlist).append h.visible)

theorem visible_bytesMember {label : String} (h : isLabel label.toList = true) (bytes : Bytes) :
    Request.Visible (bytesMember label bytes).toList := by
  have hmarks : Text.IsPrintable '=' ∧ Text.IsPrintable ':' := by decide
  have hbytes : Text.Printable ('=' :: bytesText bytes) := by
    simp [hmarks, bytesText, Base64.printable_encodeChars]
  rw [toList_bytesMember]
  exact (visible_label h).append (Request.visible_of_printable hbytes)

/-- A dictionary of one member is read back from a field that was added for it. -/
theorem exists_field_of_member {name label text : String} {value : List Char}
    (hname : Request.isToken (foldName name) = true) (hlabel : isLabel label.toList = true)
    (htext : text.toList = label.toList ++ '=' :: value) (hvisible : Request.Visible text.toList)
    (hne : value ≠ []) (htrim : Text.trim value = value)
    (hclosed : StructuredField.Closed ',' .start value) :
    ∃ field, Field.ofText name text = .ok field ∧ field.name = foldName name ∧
      Request.visibleText? field.value = some text ∧
        readDictionary text = .ok [(label, value)] := by
  obtain ⟨field, hfield, hfieldName, hvalue⟩ := Request.exists_ofText hname hvisible
  refine ⟨field, hfield, hfieldName, ?_, ?_⟩
  · rw [hvalue, Request.visibleText?_ofText hvisible, htext, trim_member hlabel hne htrim, ← htext,
      String.ofList_toList]
  · rw [← String.ofList_toList (s := text), htext]
    exact readDictionary_member hlabel hne htrim hclosed

theorem firstCommon_single (label : String) (list bytes : List Char) :
    FirstCommon [(label, list)] [(label, bytes)] label list bytes :=
  ⟨⟨[], [], rfl, by simp⟩, [], [], rfl, by simp⟩

/-! ## The verifier -/

section

variable {request : Request} {params : Params} {bytes : Bytes}

/-- Attaching a signature succeeds, and the longer request describes just that signature on the same
base. -/
theorem exists_attach (h : params.Sendable)
    (hfresh : ∀ field ∈ request.fields,
      field.name ≠ "signature" ∧ field.name ≠ "signature-input")
    (hnames : ∀ component ∈ params.components, IsName component) :
    ∃ signed, attach request params bytes = .ok signed ∧ Selects signed params bytes ∧
      base signed params = base request params := by
  obtain ⟨input, hinput, hinputName, hinputText, hinputs⟩ :=
    exists_field_of_member (by decide : Request.isToken (foldName "signature-input") = true)
      h.label (toList_member params) (h.visible_member hnames) (serialize_ne_nil params)
      (trim_serialize h.trimmed) (closed_serialize hnames h.closed)
  obtain ⟨signature, hsignature, hsignatureName, hsignatureText, hsignatures⟩ :=
    exists_field_of_member (by decide : Request.isToken (foldName "signature") = true)
      h.label (toList_bytesMember params.label bytes) (visible_bytesMember h.label bytes)
      (by simp [bytesText]) (trim_bytesText bytes) (closed_bytesText bytes)
  have hinputFold : foldName "signature-input" = "signature-input" := by decide
  have hsignatureFold : foldName "signature" = "signature" := by decide
  have hdiffer : "signature" ≠ "signature-input" := by decide
  refine ⟨(request.addField input).addField signature, ?_, ?_, ?_⟩
  · simp only [attach, hinput, hsignature]
    rfl
  · have hheader : ((request.addField input).addField signature).header "signature-input" =
        .text params.member := by
      rw [Request.header_addField
        (by rw [hsignatureName, hsignatureFold, hinputFold]; exact hdiffer)]
      refine Request.header_addField_of_new (fun field hfield => ?_) hinputName hinputText
      rw [hinputFold]
      exact (hfresh field hfield).2
    have hheader' : ((request.addField input).addField signature).header "signature" =
        .text (bytesMember params.label bytes) := by
      refine Request.header_addField_of_new (fun field hfield => ?_) hsignatureName hsignatureText
      rw [hsignatureFold]
      rcases List.mem_append.mp hfield with hfield | hfield
      · exact (hfresh field hfield).1
      · rw [List.mem_singleton.mp hfield, hinputName, hinputFold]
        exact hdiffer.symm
    have hlist := readInnerList_serialize hnames h.lower h.nodup h.trimmed h.begins
    exact ⟨params.member, bytesMember params.label bytes, _, _,
      by rw [Request.signatureInput, hheader]; rfl, by rw [Request.signature, hheader']; rfl,
      hinputs, hsignatures, params.label, _, _, firstCommon_single _ _ _, hlist,
      readByteSequence_bytesText bytes⟩
  · rw [base_addField, base_addField]
    · intro component hcomponent
      rw [hinputName, hinputFold, Request.foldName_eq_self (h.lower component hcomponent)]
      exact (h.other component hcomponent).2.symm
    · intro component hcomponent
      rw [hsignatureName, hsignatureFold, Request.foldName_eq_self (h.lower component hcomponent)]
      exact (h.other component hcomponent).1.symm

/-- A signature that verifies over the base of a request is accepted once it is attached, whichever
of its components must be covered, and is reported with the parameters that were sent. The layout
that is reported is one in which the bytes verify. -/
theorem verify_attach {key : PublicKey} {text : String} (h : params.Sendable)
    (hfresh : ∀ field ∈ request.fields,
      field.name ≠ "signature" ∧ field.name ≠ "signature-input")
    (halgorithm : ∀ algorithm, params.algorithm? = some algorithm →
      algorithm = key.signatureAlgorithm)
    (hbase : base request params = .ok text)
    (hverifies : VerifiesAs (Bytes.ofText text) bytes key .der ∨
      VerifiesAs (Bytes.ofText text) bytes key .fixed) :
    ∃ signed encoding, attach request params bytes = .ok signed ∧
      VerifiesAs (Bytes.ofText text) bytes key encoding ∧
      ∀ required, (∀ component ∈ required, component ∈ params.components) →
        verify signed key required = .ok ⟨params, encoding⟩ := by
  have hnames : ∀ component ∈ params.components, IsName component := by
    intro component hcomponent
    obtain ⟨value, hvalue⟩ := exists_base_iff.mp ⟨text, hbase⟩ component hcomponent
    exact isName_of_componentValue hvalue
  obtain ⟨signed, hattach, hselects, hsame⟩ := exists_attach h hfresh hnames
  obtain ⟨encoding, hencoding⟩ := exists_verifyBytes_iff.mpr hverifies
  obtain ⟨hverifies', hder⟩ := verifyBytes_eq_ok_iff.mp hencoding
  refine ⟨signed, encoding, hattach, hverifies', fun required hrequired => ?_⟩
  exact verify_eq_ok_iff.mpr
    ⟨bytes, text, hselects, hrequired, halgorithm, hsame.trans hbase, hverifies', hder⟩

end

/-- Parameters with a comma inside a string, and an algorithm. -/
def noteParams : Params := ⟨"one", ["@method", "x-note"], ";tag=\"a, b\";alg=\"ed25519\""⟩

theorem verify_attach_noteRequest :
    ∃ signed encoding, attach noteRequest noteParams neutralBytes = .ok signed ∧
      verify signed (.ed25519 neutralKey) ["x-note"] = .ok ⟨noteParams, encoding⟩ := by
  have hsendable : noteParams.Sendable := {
    label := by decide
    nodup := by decide
    lower := by decide
    other := by decide
    visible := by decide
    trimmed := by decide
    begins := .inr ⟨_, rfl⟩
    closed := by decide }
  have hbase : base noteRequest noteParams =
      .ok ("\"@method\": GET\n\"x-note\": first, second\n" ++
        "\"@signature-params\": (\"@method\" \"x-note\");tag=\"a, b\";alg=\"ed25519\"") := by
    decide +kernel
  obtain ⟨signed, encoding, hattach, _, hverify⟩ :=
    verify_attach hsendable (by decide) (by decide) hbase
      (.inr (attempt_eq_ok_iff.mp (by decide +kernel) :
        VerifiesAs _ neutralBytes (.ed25519 neutralKey) .fixed))
  exact ⟨signed, encoding, hattach, hverify ["x-note"] (by decide)⟩

end Possession.Signature

import Possession.Proofs.Request
import Possession.Proofs.Signature.Verification
import Possession.Proofs.StructuredField.Items

/-!
# Signature headers on several lines

If each line of a header closes its strings and parentheses, the comma between two lines separates,
so it makes no difference how the members are spread over lines. A member whose label the other
header does not have is never selected.
-/

namespace Possession.Outcome

variable {ε α β : Type} {step : α → Except ε β}

/-- Items are all read unless one of them fails. -/
theorem exists_mapM_eq_error_iff {items : List α} :
    (∃ cause, items.mapM step = .error cause) ↔
      ∃ item ∈ items, ∃ cause, step item = .error cause := by
  induction items with
  | nil => simp [pure, Except.pure]
  | cons item items ih =>
    rw [List.mapM_cons]
    cases hitem : step item with
    | error cause => simp [hitem, bind, Except.bind]
    | ok result =>
      simp only [List.mem_cons, exists_eq_or_imp, hitem, reduceCtorEq, exists_false, false_or, ← ih]
      cases items.mapM step <;> simp [bind, Except.bind, pure, Except.pure]

/-- An item that can be read adds its result where it stands, and changes no failure. -/
theorem mapM_insert {item : α} {result : β} (h : step item = .ok result) (before after : List α) :
    (∃ front back, (before ++ after).mapM step = .ok (front ++ back) ∧
      (before ++ item :: after).mapM step = .ok (front ++ result :: back)) ∨
    ∃ cause, (before ++ after).mapM step = .error cause ∧
      (before ++ item :: after).mapM step = .error cause := by
  simp only [List.mapM_append, List.mapM_cons, h]
  cases before.mapM step with
  | error cause => exact .inr ⟨cause, rfl, rfl⟩
  | ok front =>
    cases after.mapM step with
    | error cause => exact .inr ⟨cause, rfl, rfl⟩
    | ok back => exact .inl ⟨front, back, rfl, rfl⟩

end Possession.Outcome

namespace Possession.Signature

open StructuredField

/-! ## Lines and their members -/

/-- The text of a header with the given lines: each without the blank characters around it, with a
comma and a space between two of them. -/
def joinLines (lines : List String) : String :=
  Request.joinValues (lines.map fun line => String.ofList (Text.trim line.toList))

/-- Whether lines hold members, in order: each line closes what it opens and lists some of them. -/
inductive Hold : List String → List (List Char) → Prop
  | nil : Hold [] []
  | cons {line : String} {lines : List String} {members others : List (List Char)}
      (hline : Lists ',' line.toList members) (hlines : Hold lines others) :
      Hold (line :: lines) (members ++ others)

/-- Visible lines are joined to the text of their header. -/
theorem header_eq_joinLines {request : Request} {name : String} {lines : List String}
    (hne : lines ≠ []) (hvisible : ∀ line ∈ lines, Request.Visible line.toList)
    (hvalues : request.values name = lines.map Bytes.ofText) :
    request.header name = .text (joinLines lines) := by
  obtain ⟨line, others, rfl⟩ := List.exists_cons_of_ne_nil hne
  apply Request.header_eq_text_iff.mpr
  rw [hvalues]
  exact ⟨_, _, Request.mapM_visibleText?_ofText hvisible, rfl⟩

theorem toList_joinLines_cons_cons (line next : String) (lines : List String) :
    (joinLines (line :: next :: lines)).toList =
      Text.trim line.toList ++ ',' :: ([' '] ++ (joinLines (next :: lines)).toList) := by
  simp [joinLines, Request.joinValues, String.toList_intercalate]

/-- Lines that close what they open hold the members that are cut out of each of them. -/
theorem hold_split {lines : List String} (h : ∀ line ∈ lines, Balanced line.toList) :
    Hold lines (lines.flatMap fun line => split ',' line.toList) := by
  induction lines with
  | nil => exact .nil
  | cons line lines ih =>
    obtain ⟨hline, hlines⟩ := List.forall_mem_cons.mp h
    exact .cons (lists_split isSeparator_comma hline) (ih hlines)

section

variable {lines : List String} {members : List (List Char)}

/-- The header lists the members of its lines: each comma between lines separates, and the space
behind it belongs to no member. -/
theorem Hold.lists_joinLines (h : Hold lines members) :
    Lists ',' (joinLines lines).toList members := by
  have hspace : ∀ c ∈ [' '], Text.isBlank c = true := by
    intro c hc
    obtain rfl := List.mem_singleton.mp hc
    decide
  induction h with
  | nil => exact .blank nofun
  | @cons line lines members others hline hlines ih =>
    have hfirst := hline.trim isSeparator_comma
    cases hlines with
    | nil => simpa [joinLines, Request.joinValues] using hfirst
    | cons hnext hrest =>
      rw [toList_joinLines_cons_cons]
      exact hfirst.append (ih.gap_append hspace)

/-- The members of the lines are read one after the other. -/
theorem Hold.readDictionary_eq (h : Hold lines members) :
    readDictionary (joinLines lines) = members.mapM readMember := by
  rw [readDictionary, h.lists_joinLines.split_eq isSeparator_comma]

/-- Reading line by line comes to the same. -/
theorem Hold.mapM_readDictionary_eq (h : Hold lines members) :
    (lines.mapM readDictionary).map List.flatten = members.mapM readMember := by
  induction h with
  | nil => rfl
  | cons hline _ ih =>
    rw [List.mapM_cons, List.mapM_append, readDictionary, hline.split_eq isSeparator_comma, ← ih]
    cases List.mapM readMember _ with
    | error fault => rfl
    | ok front => cases List.mapM readDictionary _ <;> rfl

end

/-! ## Members that are not selected -/

/-- Whether no member of a header has the given label. A header that cannot be read has none. -/
def Lacks (header label : String) : Prop :=
  ∀ members, readDictionary header = .ok members → ∀ member ∈ members, member.1 ≠ label

section

variable {front back : Dictionary} {label : String} {value : List Char}

theorem lookup?_insert {other : String} (h : label ≠ other) :
    lookup? other (front ++ (label, value) :: back) = lookup? other (front ++ back) := by
  simp [lookup?, List.find?_append, h]

/-- A label that is not looked up does not matter among the signatures. -/
theorem firstCommon?_insert_signature {inputs : Dictionary}
    (h : ∀ member ∈ inputs, member.1 ≠ label) :
    firstCommon? (front ++ (label, value) :: back) inputs =
      firstCommon? (front ++ back) inputs := by
  induction inputs with
  | nil => rfl
  | cons member inputs ih =>
    obtain ⟨hmember, hinputs⟩ := List.forall_mem_cons.mp h
    rw [firstCommon?, firstCommon?, lookup?_insert hmember.symm, ih hinputs]

/-- A label without a signature does not matter among the lists of components. -/
theorem firstCommon?_insert_input {signatures : Dictionary}
    (h : ∀ member ∈ signatures, member.1 ≠ label) :
    firstCommon? signatures (front ++ (label, value) :: back) =
      firstCommon? signatures (front ++ back) := by
  simp [firstCommon?_eq_findSome?, List.findSome?_append, lookup?_eq_none_iff.mpr h]

end

section

variable {lines lines' : List String} {before after : List (List Char)} {member : List Char}
  {label : String} {value : List Char}

/-- The dictionary of a header with one more member. -/
theorem readDictionary_insert (hlines : Hold lines (before ++ after))
    (hlines' : Hold lines' (before ++ member :: after))
    (hmember : readMember member = .ok (label, value)) :
    (∃ front back, readDictionary (joinLines lines) = .ok (front ++ back) ∧
      readDictionary (joinLines lines') = .ok (front ++ (label, value) :: back)) ∨
    ∃ fault, readDictionary (joinLines lines) = .error fault ∧
      readDictionary (joinLines lines') = .error fault := by
  rw [hlines.readDictionary_eq, hlines'.readDictionary_eq]
  exact Outcome.mapM_insert hmember before after

theorem select_insert_input {signature : String} (hlines : Hold lines (before ++ after))
    (hlines' : Hold lines' (before ++ member :: after))
    (hmember : readMember member = .ok (label, value)) (hlacks : Lacks signature label) :
    select (joinLines lines') signature = select (joinLines lines) signature := by
  unfold select
  cases hsignature : readDictionary signature with
  | error fault => rfl
  | ok signatures =>
    rcases readDictionary_insert hlines hlines' hmember with
      ⟨front, back, hread, hread'⟩ | ⟨fault, hread, hread'⟩
    · have hcommon : firstCommon? signatures (front ++ (label, value) :: back) =
          firstCommon? signatures (front ++ back) :=
        firstCommon?_insert_input (hlacks signatures hsignature)
      simp only [hread, hread', bind, Except.bind, hcommon]
    · rw [hread, hread']

theorem select_insert_signature {input : String} (hlines : Hold lines (before ++ after))
    (hlines' : Hold lines' (before ++ member :: after))
    (hmember : readMember member = .ok (label, value)) (hlacks : Lacks input label) :
    select input (joinLines lines') = select input (joinLines lines) := by
  unfold select
  rcases readDictionary_insert hlines hlines' hmember with
    ⟨front, back, hread, hread'⟩ | ⟨fault, hread, hread'⟩
  · rw [hread, hread']
    cases hinput : readDictionary input with
    | error fault => rfl
    | ok inputs =>
      simp only [bind, Except.bind, firstCommon?_insert_signature (hlacks inputs hinput)]
  · rw [hread, hread']

end

/-- The lines of a header are joined to its text, and the dictionary in it is that of the lines, one
after the other, if each line closes what it opens; it cannot be read exactly if one of the lines
cannot be read. So what is selected depends on the members of the two headers and not on their
lines. It does not depend either on a member whose label the other header lacks. -/
theorem select_joinLines :
    (∀ (request : Request) name lines, lines ≠ [] →
      (∀ line ∈ lines, Request.Visible line.toList) →
      request.values name = lines.map Bytes.ofText →
      request.header name = .text (joinLines lines)) ∧
    (∀ lines, (∀ line ∈ lines, Balanced line.toList) →
      (∃ members, Hold lines members) ∧
      readDictionary (joinLines lines) = (lines.mapM readDictionary).map List.flatten ∧
      ((∃ fault, readDictionary (joinLines lines) = .error fault) ↔
        ∃ line ∈ lines, ∃ fault, readDictionary line = .error fault)) ∧
    (∀ inputs inputs' lists signatures signatures' sequences,
      Hold inputs lists → Hold inputs' lists →
      Hold signatures sequences → Hold signatures' sequences →
      select (joinLines inputs') (joinLines signatures') =
        select (joinLines inputs) (joinLines signatures)) ∧
    ∀ lines lines' before member after label value other,
      Hold lines (before ++ after) → Hold lines' (before ++ member :: after) →
      readMember member = .ok (label, value) → Lacks other label →
      select (joinLines lines') other = select (joinLines lines) other ∧
        select other (joinLines lines') = select other (joinLines lines) := by
  refine ⟨fun _ _ _ => header_eq_joinLines, ?_, ?_, ?_⟩
  · intro lines hbalanced
    have hmembers := hold_split hbalanced
    have hread : readDictionary (joinLines lines) = (lines.mapM readDictionary).map List.flatten :=
      hmembers.readDictionary_eq.trans hmembers.mapM_readDictionary_eq.symm
    refine ⟨⟨_, hmembers⟩, hread, ?_⟩
    rw [← Outcome.exists_mapM_eq_error_iff, hread]
    simp only [Outcome.map_eq_error_iff]
  · intro inputs inputs' lists signatures signatures' sequences hinputs hinputs' hsignatures
      hsignatures'
    rw [select, select, hinputs.readDictionary_eq, hinputs'.readDictionary_eq,
      hsignatures.readDictionary_eq, hsignatures'.readDictionary_eq]
  · intro lines lines' before member after label value other hlines hlines' hmember hlacks
    exact ⟨select_insert_input hlines hlines' hmember hlacks,
      select_insert_signature hlines hlines' hmember hlacks⟩

/-- The line of a signer, whose component holds a comma. -/
def signerLines : List String := ["sig1=(\"a,b\");created=1"]

/-- The same line after that of a proxy, whose parameter holds a parenthesis and a comma and which
ends with a comma of its own. -/
def proxyLines : List String := ["proxy=(\"c\");k=\"),\" , ", "sig1=(\"a,b\");created=1"]

theorem select_proxyLines :
    noteRequest.header "x-note" = .text (joinLines ["first", "second"]) ∧
      readDictionary (joinLines proxyLines) = (proxyLines.mapM readDictionary).map List.flatten ∧
      select (joinLines proxyLines) (joinLines ["old=:AA==:", "sig1=:AAAA:"]) =
        .ok (⟨"sig1", ["a,b"], ";created=1"⟩, [0, 0, 0]) := by
  obtain ⟨hheader, hread, hspread, hinsert⟩ := select_joinLines
  have hsigner : Hold signerLines ([] ++ ["sig1=(\"a,b\");created=1".toList]) :=
    hold_split (by decide)
  have hproxy : Hold proxyLines
      ([] ++ "proxy=(\"c\");k=\"),\"".toList :: ["sig1=(\"a,b\");created=1".toList]) :=
    hold_split (by decide)
  have hsequences : Hold ["old=:AA==:", "sig1=:AAAA:"]
      ["old=:AA==:".toList, "sig1=:AAAA:".toList] :=
    hold_split (by decide)
  have hsequences' : Hold ["old=:AA==:,sig1=:AAAA:"]
      ["old=:AA==:".toList, "sig1=:AAAA:".toList] :=
    hold_split (by decide)
  have hlacks : Lacks (joinLines ["old=:AA==:,sig1=:AAAA:"]) "proxy" := by
    intro members hmembers
    rw [hsequences'.readDictionary_eq] at hmembers
    cases hmembers
    decide
  refine ⟨hheader _ _ _ (by decide) (by decide) (by decide +kernel), (hread _ ?_).2.1, ?_⟩
  · decide
  · rw [hspread _ _ _ _ _ _ hproxy hproxy hsequences' hsequences,
      (hinsert _ _ _ _ _ _ _ _ hsigner hproxy rfl hlacks).1]
    decide +kernel

end Possession.Signature

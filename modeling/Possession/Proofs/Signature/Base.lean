import Possession.Proofs.Request
import Possession.Signature.Base

/-!
# A signature base has one reading

The base is put together from texts that a signer chooses, with nothing but quotes, colons and line
breaks between them. It can be read in one way only: no component that has a value holds a quote, no
value holds a line break, and no component is called like the last line.
-/

namespace Possession.Signature

/-! ## Components and their values -/

theorem name_of_ofName? {component : String} {derived : Derived}
    (h : Derived.ofName? component = some derived) : derived.name = component := by
  simpa using List.find?_some h

/-- A component has a value if it is derived, or if it is no name for a derived one and the request
has a header of that name. -/
theorem componentValue_eq_ok_iff {request : Request} {component value : String} :
    componentValue request component = .ok value ↔
      (∃ derived, Derived.ofName? component = some derived ∧ value = derived.value request) ∨
      (Derived.ofName? component = none ∧ Text.after? ['@'] component.toList = none ∧
        request.header component = .text value) := by
  unfold componentValue
  cases hname : Derived.ofName? component with
  | some derived => simp [eq_comm]
  | none =>
    cases hreserved : Text.after? ['@'] component.toList with
    | some rest => simp
    | none => cases hheader : request.header component <;> simp

/-- A value is a single line, whatever component it is the value of. -/
theorem newline_notMem_of_componentValue {request : Request} {component value : String}
    (h : componentValue request component = .ok value) : '\n' ∉ value.toList := by
  rcases componentValue_eq_ok_iff.mp h with ⟨derived, _, rfl⟩ | ⟨_, _, hheader⟩
  · cases derived with
    | method => exact Request.newline_notMem_method request.method
    | targetUri => exact request.url.printable.newline_notMem
    | authority => exact request.url.printable_authorityText.newline_notMem
    | scheme => exact request.url.printable_scheme.newline_notMem
    | path => exact request.url.printable_path.newline_notMem
    | query => exact request.url.printable_queryText.newline_notMem
  · exact Request.newline_notMem_of_header_eq_text hheader

/-- Whether a component can be written between quotes as it is: it is not empty and holds only
characters of field names and of derived components. -/
def IsName (component : String) : Prop :=
  component ≠ "" ∧ ∀ c ∈ component.toList, c = '@' ∨ Request.isTokenChar c = true

theorem isName_derived (derived : Derived) : IsName derived.name := by
  have hall : derived.name.toList.all (fun c => c == '@' || Request.isTokenChar c) = true := by
    cases derived <;> decide
  refine ⟨by cases derived <;> decide, fun c hc => ?_⟩
  simpa using List.all_eq_true.mp hall c hc

/-- A component with a value can be written between quotes. -/
theorem isName_of_componentValue {request : Request} {component value : String}
    (h : componentValue request component = .ok value) : IsName component := by
  rcases componentValue_eq_ok_iff.mp h with ⟨derived, hname, _⟩ | ⟨_, _, hheader⟩
  · obtain rfl := name_of_ofName? hname
    exact isName_derived derived
  · refine ⟨?_, fun c hc => .inr (Request.isTokenChar_of_header_eq_text hheader hc)⟩
    rintro rfl
    exact absurd (Request.isToken_of_header_eq_text hheader) (by decide)

/-- A character of a component that has a value is none that field names cannot hold. -/
theorem IsName.ne_of_mem {component : String} (h : IsName component) {c : Char}
    (hc : c ∈ component.toList) {other : Char} (hat : other ≠ '@')
    (htoken : Request.isTokenChar other = false) : c ≠ other := by
  rintro rfl
  rcases h.2 c hc with rfl | hchar
  · exact hat rfl
  · rw [htoken] at hchar
    cases hchar

theorem quote_notMem_of_componentValue {request : Request} {component value : String}
    (h : componentValue request component = .ok value) : '"' ∉ component.toList :=
  fun hmem => (isName_of_componentValue h).ne_of_mem hmem (by decide) (by decide) rfl

/-- The name of the last line is reserved and stands for no component. -/
theorem ne_signatureParams_of_componentValue {request : Request} {component value : String}
    (h : componentValue request component = .ok value) : component ≠ "@signature-params" := by
  rintro rfl
  have hrefused : componentValue request "@signature-params" = .error .notSupported := by
    rfl
  rw [hrefused] at h
  cases h

/-! ## Lines -/

theorem toList_line (component value : String) :
    (line component value).toList =
      '"' :: (component.toList ++ '"' :: (':' :: ' ' :: value.toList)) := by
  simp [line, Params.quote]

/-- What is behind the quote that closes the component is the value. -/
theorem line_append_inj {component component' value value' : String} {rest rest' : List Char}
    (hquote : '"' ∉ component.toList) (hquote' : '"' ∉ component'.toList)
    (h : (line component value).toList ++ rest = (line component' value').toList ++ rest') :
    component = component' ∧ value.toList ++ rest = value'.toList ++ rest' := by
  simp only [toList_line, List.cons_append, List.append_assoc, List.cons.injEq, true_and] at h
  obtain ⟨hcomponent, hrest⟩ := Text.append_cons_inj hquote hquote' h
  simp only [List.cons.injEq, true_and] at hrest
  exact ⟨String.toList_inj.mp hcomponent, hrest⟩

/-- The text of component lines before a last line. -/
def linesText (lines : List String) (last : String) : List Char :=
  lines.flatMap (fun line => line.toList ++ ['\n']) ++ last.toList

theorem toList_intercalate_newline (lines : List String) (last : String) :
    ("\n".intercalate (lines ++ [last])).toList = linesText lines last := by
  induction lines with
  | nil => simp [linesText]
  | cons first rest ih =>
    have hne : rest ++ [last] ≠ [] := by simp
    rw [List.cons_append, String.intercalate_cons_of_ne_nil hne, String.toList_append, ih]
    simp [linesText]

/-! ## Reading the base -/

/-- The lines of the covered components exist if every component has a value; each line then shows
one of them. -/
theorem componentLines_cons_eq_ok_iff {request : Request} {component : String}
    {rest lines : List String} :
    componentLines request (component :: rest) = .ok lines ↔
      ∃ value others, componentValue request component = .ok value ∧
        componentLines request rest = .ok others ∧ lines = line component value :: others := by
  rw [componentLines]
  cases componentValue request component with
  | error fault => simp
  | ok value => cases componentLines request rest <;> simp [Except.map, eq_comm]

/-- A component without a value leaves no lines, and the refusal names it. -/
theorem exists_componentLines_iff {request : Request} {components : List String} :
    (∃ lines, componentLines request components = .ok lines) ↔
      ∀ component ∈ components, ∃ value, componentValue request component = .ok value := by
  induction components with
  | nil => simp [componentLines]
  | cons component rest ih =>
    simp only [componentLines_cons_eq_ok_iff, List.forall_mem_cons, ← ih]
    constructor
    · rintro ⟨_, value, others, hvalue, hothers, _⟩
      exact ⟨⟨value, hvalue⟩, others, hothers⟩
    · rintro ⟨⟨value, hvalue⟩, others, hothers⟩
      exact ⟨_, value, others, hvalue, hothers, rfl⟩

/-- The lines show the values of the components and nothing else of a request. -/
theorem componentLines_congr {request other : Request} {components : List String}
    (h : ∀ component ∈ components,
      componentValue other component = componentValue request component) :
    componentLines other components = componentLines request components := by
  induction components with
  | nil => rfl
  | cons component rest ih =>
    rw [componentLines, componentLines, h component (by simp),
      ih fun covered hcovered => h covered (by simp [hcovered])]

theorem base_congr {request other : Request} {params : Params}
    (h : ∀ component ∈ params.components,
      componentValue other component = componentValue request component) :
    base other params = base request params := by
  rw [base, componentLines_congr h, ← base]

theorem base_eq_ok_iff {request : Request} {params : Params} {text : String} :
    base request params = .ok text ↔
      ∃ lines, componentLines request params.components = .ok lines ∧
        text.toList = linesText lines (line "@signature-params" params.serialize) := by
  unfold base
  cases componentLines request params.components with
  | error refusal => simp [Except.map]
  | ok lines =>
    simp only [Except.map, Except.ok.injEq, exists_eq_left']
    rw [← toList_intercalate_newline, String.toList_inj, eq_comm]

/-- There is a base if every covered component has a value. -/
theorem exists_base_iff {request : Request} {params : Params} :
    (∃ text, base request params = .ok text) ↔
      ∀ component ∈ params.components, ∃ value, componentValue request component = .ok value := by
  simp only [← exists_componentLines_iff, base, Outcome.map_eq_ok_iff]
  constructor
  · rintro ⟨_, lines, hlines, _⟩
    exact ⟨lines, hlines⟩
  · rintro ⟨lines, hlines⟩
    exact ⟨_, lines, hlines, rfl⟩

/-- Whether a component has the same value on two requests. -/
def SameValue (request other : Request) (component : String) : Prop :=
  ∃ value, componentValue request component = .ok value ∧
    componentValue other component = .ok value

theorem SameValue.eq {request other : Request} {component : String}
    (h : SameValue request other component) :
    componentValue other component = componentValue request component := by
  obtain ⟨value, hvalue, hvalue'⟩ := h
  rw [hvalue, hvalue']

theorem linesText_cons (component value : String) (others : List String) (last : String) :
    linesText (line component value :: others) last =
      (line component value).toList ++ '\n' :: linesText others last := by
  simp [linesText]

theorem quote_notMem_signatureParams : '"' ∉ "@signature-params".toList := by decide

/-- A text that begins with the line of a component does not begin with the last line. -/
theorem linesText_ne_last {request : Request} {component : String} {rest lines : List String}
    (h : componentLines request (component :: rest) = .ok lines) (last value : String) :
    linesText lines last ≠ linesText [] (line "@signature-params" value) := by
  obtain ⟨first, others, hvalue, _, rfl⟩ := componentLines_cons_eq_ok_iff.mp h
  intro htext
  rw [linesText_cons, ← List.append_nil (linesText [] _)] at htext
  have hname := (line_append_inj (quote_notMem_of_componentValue hvalue)
    quote_notMem_signatureParams htext).1
  exact ne_signatureParams_of_componentValue hvalue hname

/-- Two texts of component lines are the same only if the components, their values and the value of
the last line are. The induction follows the lines: the quote that ends a component and the line
break that ends a value are the first ones, and a last line is no component line. -/
theorem components_eq_of_linesText_eq {request other : Request}
    {components components' lines lines' : List String} {last last' : String}
    (h : componentLines request components = .ok lines)
    (h' : componentLines other components' = .ok lines')
    (htext : linesText lines (line "@signature-params" last) =
      linesText lines' (line "@signature-params" last')) :
    components = components' ∧ last = last' ∧
      ∀ component ∈ components, SameValue request other component := by
  induction components generalizing components' lines lines' with
  | nil =>
    cases h
    cases components' with
    | nil =>
      cases h'
      have hlast := (line_append_inj quote_notMem_signatureParams quote_notMem_signatureParams
        (congrArg (· ++ []) htext)).2
      exact ⟨rfl, String.toList_inj.mp (by simpa using hlast), by simp⟩
    | cons component' rest' => exact absurd htext.symm (linesText_ne_last h' _ _)
  | cons component rest ih =>
    cases components' with
    | nil =>
      cases h'
      exact absurd htext (linesText_ne_last h _ _)
    | cons component' rest' =>
      obtain ⟨value, others, hvalue, hothers, rfl⟩ := componentLines_cons_eq_ok_iff.mp h
      obtain ⟨value', others', hvalue', hothers', rfl⟩ := componentLines_cons_eq_ok_iff.mp h'
      rw [linesText_cons, linesText_cons] at htext
      obtain ⟨rfl, hbehind⟩ := line_append_inj (quote_notMem_of_componentValue hvalue)
        (quote_notMem_of_componentValue hvalue') htext
      obtain ⟨hsame, hrest⟩ := Text.append_cons_inj (newline_notMem_of_componentValue hvalue)
        (newline_notMem_of_componentValue hvalue') hbehind
      obtain rfl := String.toList_inj.mp hsame
      obtain ⟨rfl, hlast, hvalues⟩ := ih hothers hothers' hrest
      refine ⟨rfl, hlast, fun covered hcovered => ?_⟩
      rcases List.mem_cons.mp hcovered with rfl | hcovered
      · exact ⟨value, hvalue, hvalue'⟩
      · exact hvalues covered hcovered

/-- A list of components and parameters that are written alike are the same once the components
are: nothing marks where the parameters begin but the list itself. -/
theorem serialize_eq_iff {params other : Params} (h : params.components = other.components) :
    params.serialize = other.serialize ↔ params.parameters = other.parameters := by
  simp [Params.serialize, h, ← String.toList_inj]

/-- One base for two requests: they cover the same components in the same order, with the same
values, and their parameters are written alike. -/
theorem covered_eq_of_base_eq {request other : Request} {params params' : Params} {text : String}
    (h : base request params = .ok text) (h' : base other params' = .ok text) :
    params.components = params'.components ∧ params.parameters = params'.parameters ∧
      ∀ component ∈ params.components, SameValue request other component := by
  obtain ⟨lines, hlines, htext⟩ := base_eq_ok_iff.mp h
  obtain ⟨lines', hlines', htext'⟩ := base_eq_ok_iff.mp h'
  obtain ⟨hcomponents, hlast, hvalues⟩ :=
    components_eq_of_linesText_eq hlines hlines' (htext.symm.trans htext')
  exact ⟨hcomponents, (serialize_eq_iff hcomponents).mp hlast, hvalues⟩

/-- The base of a request is the base of another one, under parameters of its own, exactly when the
two cover the same components in the same order, the parameters are written alike, and each covered
component has one value on both requests. The labels do not matter. -/
theorem base_eq_iff {request other : Request} {params params' : Params} {text : String}
    (h : base request params = .ok text) :
    base other params' = .ok text ↔
      params.components = params'.components ∧ params.parameters = params'.parameters ∧
        ∀ component ∈ params.components, SameValue request other component := by
  constructor
  · intro h'
    exact covered_eq_of_base_eq h h'
  · rintro ⟨hcomponents, hparameters, hvalues⟩
    obtain ⟨lines, hlines, htext⟩ := base_eq_ok_iff.mp h
    have hlines' : componentLines other params'.components = .ok lines := by
      rw [← hcomponents, componentLines_congr fun component hcomponent =>
        (hvalues component hcomponent).eq, hlines]
    refine base_eq_ok_iff.mpr ⟨lines, hlines', ?_⟩
    rw [htext, (serialize_eq_iff hcomponents).mpr hparameters]

/-- A request with two lines of one header. -/
def noteRequest : Request where
  method := ⟨"GET", by decide⟩
  url := ⟨⟨"https", some ⟨"", "", some (.name "example.org"), none⟩, .rooted ["a"], none, none⟩,
    by decide⟩
  fields :=
    [⟨"x-note", "first".toList.map Char.toUInt8, by decide, by decide⟩,
      ⟨"x-note", "second".toList.map Char.toUInt8, by decide, by decide⟩]
  body := none

/-- The same request with one line for the header, another header before it and a body. -/
def joinedNoteRequest : Request where
  method := noteRequest.method
  url := noteRequest.url
  fields :=
    [⟨"x-trace", "1".toList.map Char.toUInt8, by decide, by decide⟩,
      ⟨"x-note", "first, second".toList.map Char.toUInt8, by decide, by decide⟩]
  body := some [0x21]

def noteBase : String :=
  "\"@method\": GET\n\"x-note\": first, second\n" ++
    "\"@signature-params\": (\"@method\" \"x-note\");created=1"

theorem base_noteRequest :
    base noteRequest ⟨"one", ["@method", "x-note"], ";created=1"⟩ = .ok noteBase ∧
      ∀ component ∈ ["@method", "x-note"], SameValue noteRequest joinedNoteRequest component :=
  have h : base noteRequest ⟨"one", ["@method", "x-note"], ";created=1"⟩ = .ok noteBase := by
    decide +kernel
  have h' : base joinedNoteRequest ⟨"two", ["@method", "x-note"], ";created=1"⟩ = .ok noteBase := by
    decide +kernel
  ⟨h, ((base_eq_iff h).mp h').2.2⟩

end Possession.Signature

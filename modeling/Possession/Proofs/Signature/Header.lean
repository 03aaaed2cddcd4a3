import Possession.Proofs.Base64
import Possession.Proofs.Signature.Base
import Possession.Proofs.Signature.InnerList

/-!
# Reading signature headers back

Each reader is followed in turn: the dictionary has one member, because no comma of it separates;
the member is cut behind its label; the list ends at the parenthesis that was written to end it.
-/

namespace Possession.Signature

open StructuredField

/-! ## Dictionaries of one member -/

theorem isPrintable_of_isLabelChar {c : Char} (h : isLabelChar c = true) : Text.IsPrintable c := by
  simp only [isLabelChar, Bool.or_eq_true, List.contains_iff_mem] at h
  rcases h with (h | h) | h
  · exact Text.printable_of_isAsciiLetter (by simp [Text.isAsciiLetter, h])
  · exact Text.printable_of_isAsciiDigit h
  · simp only [List.mem_cons, List.not_mem_nil, or_false] at h
    rcases h with rfl | rfl | rfl | rfl <;> decide

theorem isBlank_of_isLabelChar {c : Char} (h : isLabelChar c = true) : Text.isBlank c = false :=
  Text.isBlank_of_isPrintable (isPrintable_of_isLabelChar h) (Text.ne_of_apply h (by decide))

theorem isLabel_iff {text : List Char} :
    isLabel text = true ↔ text ≠ [] ∧ ∀ c ∈ text, isLabelChar c = true := by
  simp [isLabel]

theorem trim_label {label : String} (hlabel : isLabel label.toList = true) :
    Text.trim label.toList = label.toList :=
  Text.trimWhile_of_forall fun c hc => isBlank_of_isLabelChar ((isLabel_iff.mp hlabel).2 c hc)

/-- A member is cut behind its label, which holds no equals sign. -/
theorem readMember_append {label : String} {value : List Char}
    (hlabel : isLabel label.toList = true) (hvalue : Text.trim value = value) :
    readMember (label.toList ++ '=' :: value) = .ok (label, value) := by
  obtain ⟨_, hchars⟩ := isLabel_iff.mp hlabel
  have hnotMem : '=' ∉ label.toList := fun hc => absurd (hchars '=' hc) (by decide)
  rw [readMember, Text.cut?_append_cons hnotMem]
  simp only [trim_label hlabel, hlabel, hvalue, if_true, String.ofList_toList]

/-- Labels leave the scan alone. -/
theorem after_label {label : List Char} (hlabel : isLabel label = true) {scan : Scan}
    (hscan : scan.quoting = .outside) : scan.after (label ++ ['=']) = scan := by
  obtain ⟨_, hchars⟩ := isLabel_iff.mp hlabel
  refine Scan.after_plain hscan fun c hc => ?_
  rcases List.mem_append.mp hc with hc | hc
  · have hchar := hchars c hc
    exact ⟨Text.ne_of_apply hchar (by decide), Text.ne_of_apply hchar (by decide),
      Text.ne_of_apply hchar (by decide)⟩
  · obtain rfl := List.mem_singleton.mp hc
    decide

/-- A member has the separators of its value. -/
theorem closed_member {sep : Char} (hsep : isLabelChar sep = false) (hequals : sep ≠ '=')
    {label : String} {value : List Char} (hlabel : isLabel label.toList = true)
    (h : Closed sep .start value) : Closed sep .start (label.toList ++ '=' :: value) := by
  have hnotMem : sep ∉ label.toList ++ ['='] := by
    intro hmem
    rcases List.mem_append.mp hmem with hmem | hmem
    · exact Text.ne_of_apply ((isLabel_iff.mp hlabel).2 sep hmem) hsep rfl
    · exact hequals (List.mem_singleton.mp hmem)
  have hafter : Scan.start.after (label.toList ++ ['=']) = .start := after_label hlabel rfl
  have hfront : Closed sep .start (label.toList ++ ['=']) := closed_of_notMem hnotMem _
  simpa using hfront.append (hafter.symm ▸ h)

theorem trim_member {label : String} {value : List Char} (hlabel : isLabel label.toList = true)
    (hne : value ≠ []) (hvalue : Text.trim value = value) :
    Text.trim (label.toList ++ '=' :: value) = label.toList ++ '=' :: value := by
  have hequals : Text.trim ['='] = ['='] := by decide
  have hback : Text.trim ('=' :: value) = '=' :: value :=
    Text.trimWhile_append (List.cons_ne_nil '=' []) hne hequals hvalue
  exact Text.trimWhile_append (isLabel_iff.mp hlabel).1 (List.cons_ne_nil _ _) (trim_label hlabel)
    hback

/-- A dictionary that consists of one member is read as that member. -/
theorem readDictionary_member {label : String} {value : List Char}
    (hlabel : isLabel label.toList = true) (hne : value ≠ []) (hvalue : Text.trim value = value)
    (h : Closed ',' .start value) :
    readDictionary (String.ofList (label.toList ++ '=' :: value)) = .ok [(label, value)] := by
  rw [readDictionary, String.toList_ofList, split_eq_singleton
    (closed_member (by decide) (by decide) hlabel h) (by simp) (trim_member hlabel hne hvalue)]
  simp only [List.mapM_cons, List.mapM_nil, readMember_append hlabel hvalue]
  rfl

/-! ## Lists of components -/

/-- The list and the parameters behind it. -/
theorem toList_serialize_eq_append (params : Params) :
    params.serialize.toList =
      ('(' :: itemsText params.components ++ [')']) ++ params.parameters.toList := by
  simp [toList_serialize]

/-- Names keep the characters of other kinds out of a list. -/
theorem notMem_itemsText {components : List String} (h : ∀ component ∈ components, IsName component)
    {c : Char} (hc : c ∉ [' ', '"', '@']) (htoken : Request.isTokenChar c = false) :
    c ∉ itemsText components := by
  simp only [List.mem_cons, List.not_mem_nil, or_false, not_or] at hc
  intro hmem
  rcases Text.mem_intercalate hmem with hspace | ⟨item, hitem, hmem⟩
  · exact hc.1 (List.mem_singleton.mp hspace)
  · obtain ⟨component, hcomponent, rfl⟩ := List.mem_map.mp hitem
    rcases mem_quoted_iff.mp hmem with hquote | hname
    · exact hc.2.1 hquote
    · exact (h component hcomponent).ne_of_mem hname hc.2.2 htoken rfl

theorem printable_itemsText {components : List String}
    (h : ∀ component ∈ components, IsName component) : Text.Printable (itemsText components) := by
  refine Text.printable_intercalate (by decide) fun item hitem => ?_
  obtain ⟨component, hcomponent, rfl⟩ := List.mem_map.mp hitem
  intro c hc
  rcases mem_quoted_iff.mp hc with rfl | hname
  · decide
  · rcases (h component hcomponent).2 c hname with rfl | hchar
    · decide
    · exact Request.isPrintable_of_isTokenChar hchar

/-- A list of components leaves the scan as it was. -/
theorem after_itemsText {components : List String} (h : ∀ component ∈ components, IsName component)
    {scan : Scan} (hscan : scan.quoting = .outside) : scan.after (itemsText components) = scan := by
  have hquoted : ∀ component, IsName component → scan.after (quoted component) = scan := by
    intro component hname
    exact Scan.after_string hscan fun c hc =>
      ⟨hname.ne_of_mem hc (by decide) (by decide), hname.ne_of_mem hc (by decide) (by decide)⟩
  have hspace : scan.step ' ' = scan :=
    Scan.after_plain hscan (by simp : ∀ c ∈ [' '], c ≠ '"' ∧ c ≠ '(' ∧ c ≠ ')')
  induction components with
  | nil => rfl
  | cons component rest ih =>
    have hfirst := hquoted component (h component (by simp))
    have hrest := ih fun other hother => h other (by simp [hother])
    cases rest with
    | nil => simpa [itemsText] using hfirst
    | cons next rest =>
      rw [itemsText, List.map_cons, List.map_cons, List.intercalate_cons_cons, Scan.after_append,
        Scan.after_append, hfirst, Scan.after_cons, hspace, Scan.after_nil]
      exact hrest

/-- Names without capital letters can be listed: they hold no backslashes. -/
theorem IsName.isListed {component : String} (h : IsName component)
    (hlower : component.toList.any Text.isAsciiUpper = false) : IsListed component where
  ne_empty := h.1
  quote hquote := h.ne_of_mem hquote (by decide) (by decide) rfl
  lower := by simpa using hlower
  blank c hc := by
    simp only [Text.isAsciiBlank, Bool.or_eq_false_iff, beq_eq_false_iff_ne]
    refine ⟨⟨⟨⟨?_, ?_⟩, ?_⟩, ?_⟩, ?_⟩ <;> exact h.ne_of_mem hc (by decide) (by decide)
  closes := by
    rw [trailingBackslashes_of_notMem fun hescape =>
      h.ne_of_mem hescape (by decide) (by decide) rfl]

/-- A list of names is read as it was written, with the parameters behind it. -/
theorem readInnerList_serialize {params : Params}
    (h : ∀ component ∈ params.components, IsName component)
    (hlower : ∀ component ∈ params.components, component.toList.any Text.isAsciiUpper = false)
    (hnodup : params.components.Nodup)
    (htrim : Text.trim params.parameters.toList = params.parameters.toList)
    (hbegins : params.parameters.toList = [] ∨ ∃ rest, params.parameters.toList = ';' :: rest) :
    readInnerList params.label params.serialize.toList = .ok params := by
  have hlisted : ∀ component ∈ params.components, IsListed component :=
    fun component hmem => (h component hmem).isListed (hlower component hmem)
  rw [← htrim] at hbegins
  exact readInnerList_eq_ok_iff.mpr
    ⟨rfl, _, _, isInnerList_serialize hlisted hnodup hbegins, htrim.symm⟩

/-! ## The two members -/

theorem serialize_ne_nil (params : Params) : params.serialize.toList ≠ [] := by
  rw [toList_serialize]
  simp

theorem trim_serialize {params : Params}
    (htrim : Text.trim params.parameters.toList = params.parameters.toList) :
    Text.trim params.serialize.toList = params.serialize.toList := by
  have hlist : Text.trim ('(' :: itemsText params.components ++ [')']) =
      '(' :: itemsText params.components ++ [')'] :=
    Text.trimWhile_enclosed (by decide) (by decide) _
  rw [toList_serialize_eq_append]
  by_cases hempty : params.parameters.toList = []
  · rw [hempty, List.append_nil, hlist]
  · exact Text.trimWhile_append (by simp) hempty hlist htrim

/-- No comma of a list separates: components hold none, and the parameters have none that does. -/
theorem closed_serialize {params : Params}
    (h : ∀ component ∈ params.components, IsName component)
    (hclosed : Closed ',' .start params.parameters.toList) :
    Closed ',' .start params.serialize.toList := by
  have hcomma : ',' ∉ '(' :: itemsText params.components ++ [')'] := by
    have hitems : ',' ∉ itemsText params.components := notMem_itemsText h (by decide) (by decide)
    simp [hitems]
  have hafter : Scan.start.after ('(' :: itemsText params.components ++ [')']) = .start := by
    have hinside := after_itemsText h (rfl : (Scan.start.step '(').quoting = .outside)
    rw [List.cons_append, Scan.after_cons, Scan.after_append, hinside]
    rfl
  rw [toList_serialize_eq_append]
  exact (closed_of_notMem hcomma _).append (hafter.symm ▸ hclosed)

/-- Bytes in base64 between colons. -/
def bytesText (bytes : Bytes) : List Char :=
  ':' :: Base64.encodeChars Base64.standard bytes ++ [':']

theorem readByteSequence_bytesText (bytes : Bytes) :
    readByteSequence (bytesText bytes) = .ok bytes := by
  have hopened : Text.after? [':'] (bytesText bytes) =
      some (Base64.encodeChars Base64.standard bytes ++ [':']) :=
    Text.after?_append [':'] _
  have hdecode := Base64.decodeText_encode Base64.standard bytes
  rw [Base64.encode] at hdecode
  simp only [readByteSequence, hopened, Option.bind_some, Text.before?_append, hdecode]

theorem trim_bytesText (bytes : Bytes) : Text.trim (bytesText bytes) = bytesText bytes :=
  Text.trimWhile_enclosed (by decide) (by decide) _

theorem closed_bytesText (bytes : Bytes) : Closed ',' .start (bytesText bytes) := by
  have hcomma := Base64.comma_notMem_encodeChars Base64.standard bytes
  exact closed_of_notMem (by simp [bytesText, hcomma]) _

end Possession.Signature

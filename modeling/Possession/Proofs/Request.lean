import Possession.Proofs.Bytes
import Possession.Proofs.Text
import Possession.Request

/-!
# What requests can hold

The types of methods, fields and URLs keep control characters out of a request. So the text of a
header is a single line, and a name with a quote or a line break finds none.
-/

namespace Possession.Request

/-! ## Reading headers -/

/-- What is read from each of several values is read from one of them. -/
theorem exists_visibleText?_of_mem {values : List Bytes} {texts : List String}
    (h : values.mapM visibleText? = some texts) {text : String} (htext : text ∈ texts) :
    ∃ value ∈ values, visibleText? value = some text := by
  induction values generalizing texts with
  | nil =>
    cases h
    simp at htext
  | cons value values ih =>
    simp only [List.mapM_cons, Option.bind_eq_bind, Option.bind_eq_some_iff, Option.pure_def,
      Option.some.injEq] at h
    obtain ⟨first, hfirst, rest, hrest, rfl⟩ := h
    rcases List.mem_cons.mp htext with rfl | htext
    · exact ⟨value, by simp, hfirst⟩
    · obtain ⟨other, hother, hread⟩ := ih hrest htext
      exact ⟨other, by simp [hother], hread⟩

/-- A header has a text if there are values of that name and all of them are visible. -/
theorem header_eq_text_iff {request : Request} {name value : String} :
    request.header name = .text value ↔
      ∃ first rest, (request.values name).mapM visibleText? = some (first :: rest) ∧
        value = joinValues (first :: rest) := by
  unfold header
  split
  · next hnone => simp [hnone]
  · next hnil => simp [hnil]
  · next texts hne htexts =>
    rw [htexts]
    cases texts with
    | nil => exact absurd rfl hne
    | cons first rest =>
      simp only [Header.text.injEq, Option.some.injEq, List.cons.injEq]
      constructor
      · rintro rfl
        exact ⟨first, rest, ⟨rfl, rfl⟩, rfl⟩
      · rintro ⟨_, _, ⟨rfl, rfl⟩, rfl⟩
        rfl

theorem visibleText?_eq_none_iff {value : Bytes} :
    visibleText? value = none ↔ value.all isVisible = false := by
  rw [visibleText?]
  split <;> simp_all

/-- The values of a header cannot be read if one of them cannot. -/
theorem mapM_visibleText?_eq_none_iff {values : List Bytes} :
    values.mapM visibleText? = none ↔ ∃ value ∈ values, visibleText? value = none := by
  induction values with
  | nil => simp
  | cons value values ih =>
    simp only [List.mapM_cons, List.mem_cons, exists_eq_or_imp, ← ih]
    cases hread : visibleText? value with
    | none => simp
    | some text => cases values.mapM visibleText? <;> simp

/-- A header has no text if there is no field of that name, and also if there is one that is not
visible. -/
theorem text?_header_eq_none_iff {request : Request} {name : String} :
    (request.header name).text? = none ↔
      (∀ field ∈ request.fields, field.name ≠ foldName name) ∨
        ∃ field ∈ request.fields,
          field.name = foldName name ∧ field.value.all isVisible = false := by
  have hempty : request.values name = [] ↔
      ∀ field ∈ request.fields, field.name ≠ foldName name := by
    simp [values]
  have hunreadable : (request.values name).mapM visibleText? = none ↔
      ∃ field ∈ request.fields, field.name = foldName name ∧
        field.value.all isVisible = false := by
    rw [mapM_visibleText?_eq_none_iff]
    simp only [values, List.mem_map, List.mem_filter, beq_iff_eq, visibleText?_eq_none_iff]
    constructor
    · rintro ⟨_, ⟨field, ⟨hfield, hname⟩, rfl⟩, hvisible⟩
      exact ⟨field, hfield, hname, hvisible⟩
    · rintro ⟨field, hfield, hname, hvisible⟩
      exact ⟨field.value, ⟨field, ⟨hfield, hname⟩, rfl⟩, hvisible⟩
  rw [← hempty, ← hunreadable, header]
  cases hvalues : request.values name with
  | nil => simp [Header.text?]
  | cons value values =>
    rw [List.mapM_cons]
    cases visibleText? value with
    | none => simp [Header.text?]
    | some text => cases values.mapM visibleText? <;> simp [Header.text?]

/-! ## Names -/

/-- A name that is a token in lower case holds token characters only. -/
theorem isTokenChar_of_isToken_foldName {name : String} (h : isToken (foldName name) = true)
    {c : Char} (hc : c ∈ name.toList) : isTokenChar c = true := by
  simp only [isToken, foldName, String.toList_ofList, Bool.and_eq_true, List.all_eq_true] at h
  have hlower := h.2 (Text.asciiLowerChar c) (List.mem_map.mpr ⟨c, hc, rfl⟩)
  by_cases hupper : Text.isAsciiUpper c = true
  · simp [isTokenChar, Text.isAsciiLetter, hupper]
  · simpa [Text.asciiLowerChar, hupper] using hlower

/-- A header that is present has a token for its name, because a field has that name. -/
theorem isToken_of_header_eq_text {request : Request} {name value : String}
    (h : request.header name = .text value) : isToken (foldName name) = true := by
  obtain ⟨first, rest, hread, _⟩ := header_eq_text_iff.mp h
  obtain ⟨bytes, hbytes, _⟩ := exists_visibleText?_of_mem hread (List.mem_cons_self)
  simp only [values, List.mem_map, List.mem_filter, beq_iff_eq] at hbytes
  obtain ⟨field, ⟨_, hname⟩, _⟩ := hbytes
  exact hname ▸ field.name_isToken

theorem isTokenChar_of_header_eq_text {request : Request} {name value : String}
    (h : request.header name = .text value) {c : Char} (hc : c ∈ name.toList) :
    isTokenChar c = true :=
  isTokenChar_of_isToken_foldName (isToken_of_header_eq_text h) hc

theorem isPrintable_of_isTokenChar {c : Char} (h : isTokenChar c = true) : Text.IsPrintable c := by
  simp only [isTokenChar, Bool.or_eq_true, List.contains_iff_mem] at h
  rcases h with (h | h) | h
  · exact Text.printable_of_isAsciiLetter h
  · exact Text.printable_of_isAsciiDigit h
  · exact (by decide : Text.Printable _) c h

/-- A name without capital letters is compared as it is. -/
theorem foldName_eq_self {name : String} (h : name.toList.any Text.isAsciiUpper = false) :
    foldName name = name := by
  have hchars : Text.asciiLower name.toList = name.toList := by
    refine (List.map_congr_left fun c hc => ?_).trans (List.map_id _)
    have hc' : Text.isAsciiUpper c = false := by simpa using List.any_eq_false.mp h c hc
    simp [Text.asciiLowerChar, hc']
  rw [foldName, hchars, String.ofList_toList]

/-! ## Single lines -/

theorem newline_notMem_method (method : Method) : '\n' ∉ method.name.toList := by
  intro hmem
  have h := method.name_isToken
  simp only [isToken, Bool.and_eq_true, List.all_eq_true] at h
  exact absurd (h.2 _ hmem) (by decide)

/-- The text of a visible value is a single line. -/
theorem newline_notMem_of_visibleText? {value : Bytes} {text : String}
    (h : visibleText? value = some text) : '\n' ∉ text.toList := by
  simp only [visibleText?, Option.ite_none_right_eq_some, Option.some.injEq] at h
  obtain ⟨hall, rfl⟩ := h
  intro hmem
  rw [String.toList_ofList] at hmem
  obtain ⟨byte, hbyte, hchar⟩ := List.mem_map.mp (Text.trimWhile_subset _ _ hmem)
  obtain rfl : byte = 0x0A := Bytes.charOfByte_inj hchar
  exact absurd (List.all_eq_true.mp hall _ hbyte) (by decide)

/-- The text of a header is a single line. -/
theorem newline_notMem_of_header_eq_text {request : Request} {name value : String}
    (h : request.header name = .text value) : '\n' ∉ value.toList := by
  obtain ⟨first, rest, hread, rfl⟩ := header_eq_text_iff.mp h
  intro hmem
  rw [joinValues, String.toList_intercalate] at hmem
  rcases Text.mem_intercalate hmem with hmem | ⟨text, htext, hmem⟩
  · exact absurd hmem (by decide)
  · obtain ⟨line, hline, rfl⟩ := List.mem_map.mp htext
    obtain ⟨bytes, _, hbytes⟩ := exists_visibleText?_of_mem hread hline
    exact newline_notMem_of_visibleText? hbytes hmem

/-! ## Fields of visible text -/

/-- Whether a text may be the value of a field: visible ASCII and tabs. -/
def Visible (text : List Char) : Prop := ∀ c ∈ text, Text.IsPrintable c ∨ c = '\t'

instance (text : List Char) : Decidable (Visible text) :=
  List.decidableBAll (fun c => Text.IsPrintable c ∨ c = '\t') text

theorem visible_of_printable {text : List Char} (h : Text.Printable text) : Visible text :=
  fun c hc => .inl (h c hc)

theorem Visible.append {front back : List Char} (hfront : Visible front) (hback : Visible back) :
    Visible (front ++ back) := by
  intro c hc
  rcases List.mem_append.mp hc with hc | hc
  · exact hfront c hc
  · exact hback c hc

theorem Visible.lt {text : List Char} (h : Visible text) {c : Char} (hc : c ∈ text) :
    c.toNat < 0x80 := by
  rcases h c hc with ⟨_, hupper⟩ | rfl
  · omega
  · decide

theorem Visible.ofText_eq_map {text : String} (h : Visible text.toList) :
    Bytes.ofText text = text.toList.map Char.toUInt8 :=
  Bytes.ofText_eq_map fun _ hc => h.lt hc

theorem Visible.all_isVisible {text : String} (h : Visible text.toList) :
    (Bytes.ofText text).all isVisible = true := by
  rw [h.ofText_eq_map, List.all_map, List.all_eq_true]
  intro c hc
  have hbyte : c.toUInt8.toNat = c.toNat := Bytes.toNat_toUInt8 (h.lt hc)
  rcases h c hc with ⟨hlower, hupper⟩ | rfl
  · have hlower' : (0x20 : UInt8) ≤ c.toUInt8 := by
      rw [UInt8.le_iff_toNat_le, hbyte]
      exact hlower
    have hupper' : c.toUInt8 < (0x7F : UInt8) := by
      rw [UInt8.lt_iff_toNat_lt, hbyte]
      exact Nat.lt_succ_of_le hupper
    simp [isVisible, hlower', hupper']
  · decide

theorem isFieldByte_of_isVisible {byte : UInt8} (h : isVisible byte = true) :
    isFieldByte byte = true := by
  simp only [isVisible, Bool.or_eq_true, Bool.and_eq_true, decide_eq_true_eq, beq_iff_eq] at h
  rcases h with ⟨hlower, hupper⟩ | rfl
  · have hne : byte ≠ 0x7F := by
      rintro rfl
      exact absurd hupper (by decide)
    simp [isFieldByte, hlower, hne]
  · decide

/-- A visible text makes a field of any name that is a token. -/
theorem exists_ofText {name text : String} (hname : isToken (foldName name) = true)
    (h : Visible text.toList) :
    ∃ field, Field.ofText name text = .ok field ∧ field.name = foldName name ∧
      field.value = Bytes.ofText text := by
  have hvalue : (Bytes.ofText text).all isFieldByte = true := by
    have hvisible := List.all_eq_true.mp h.all_isVisible
    exact List.all_eq_true.mpr fun byte hbyte => isFieldByte_of_isVisible (hvisible byte hbyte)
  refine ⟨⟨foldName name, Bytes.ofText text, hname, hvalue⟩, ?_, rfl, rfl⟩
  rw [Field.ofText, if_pos h.all_isVisible, Field.make, dif_pos hname, dif_pos hvalue]

/-- The value of such a field is read as the text without the blank characters around it. -/
theorem visibleText?_ofText {text : String} (h : Visible text.toList) :
    visibleText? (Bytes.ofText text) = some (String.ofList (Text.trim text.toList)) := by
  have hchars : (Bytes.ofText text).map (fun byte => Char.ofNat byte.toNat) = text.toList := by
    rw [h.ofText_eq_map, List.map_map]
    exact (List.map_congr_left fun c hc => Bytes.charOfByte_toUInt8 (h.lt hc)).trans
      (List.map_id _)
  rw [visibleText?, if_pos h.all_isVisible, hchars]

theorem mapM_visibleText?_ofText {lines : List String}
    (h : ∀ line ∈ lines, Visible line.toList) :
    (lines.map Bytes.ofText).mapM visibleText? =
      some (lines.map fun line => String.ofList (Text.trim line.toList)) := by
  induction lines with
  | nil => rfl
  | cons line lines ih =>
    obtain ⟨hline, hlines⟩ := List.forall_mem_cons.mp h
    rw [List.map_cons, List.mapM_cons, visibleText?_ofText hline, ih hlines]
    rfl

/-! ## Added fields -/

theorem values_addField (request : Request) (field : Field) (name : String) :
    (request.addField field).values name =
      request.values name ++ if field.name = foldName name then [field.value] else [] := by
  by_cases h : field.name = foldName name <;> simp [values, addField, h]

/-- A header is not touched by a field of another name. -/
theorem header_addField {request : Request} {field : Field} {name : String}
    (h : field.name ≠ foldName name) :
    (request.addField field).header name = request.header name := by
  rw [header, values_addField, if_neg h, List.append_nil, ← header]

/-- A header that was absent is what the added field says. -/
theorem header_addField_of_new {request : Request} {field : Field} {name text : String}
    (hnew : ∀ other ∈ request.fields, other.name ≠ foldName name) (h : field.name = foldName name)
    (htext : visibleText? field.value = some text) :
    (request.addField field).header name = .text text := by
  have hnone : request.values name = [] := by
    simpa [values] using hnew
  refine header_eq_text_iff.mpr ⟨text, [], ?_, rfl⟩
  rw [values_addField, if_pos h, hnone, List.nil_append]
  simp [htext]

end Possession.Request

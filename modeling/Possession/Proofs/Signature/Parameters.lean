import Mathlib.Data.List.Nodup
import Possession.Proofs.Signature.Header
import Possession.Proofs.StructuredField.Items

/-!
# Looking parameters up

A look-up takes the quotes away at both ends but no backslash, and an escaped quote at the end goes
with the closing one. So exactly the values without quotes and backslashes come back as they are.
-/

namespace Possession.Signature

open StructuredField

/-! ## Strings with escapes -/

/-- A character inside a string. -/
def escapedChar (c : Char) : List Char := if c = '"' ∨ c = '\\' then ['\\', c] else [c]

/-- The content of a string: a backslash stands before each quote and each backslash. -/
def escaped (value : List Char) : List Char := value.flatMap escapedChar

def stringText (value : List Char) : List Char := '"' :: escaped value ++ ['"']

theorem escaped_cons (c : Char) (value : List Char) :
    escaped (c :: value) = escapedChar c ++ escaped value := rfl

theorem escaped_cons_of_special {c : Char} (h : c = '"' ∨ c = '\\') (value : List Char) :
    escaped (c :: value) = '\\' :: c :: escaped value := by
  rw [escaped_cons, escapedChar, if_pos h]
  rfl

theorem escaped_cons_of_plain {c : Char} (h : ¬ (c = '"' ∨ c = '\\')) (value : List Char) :
    escaped (c :: value) = c :: escaped value := by
  rw [escaped_cons, escapedChar, if_neg h]
  rfl

/-- A character leaves the scan inside the string. -/
theorem after_escapedChar (depth : Nat) (c : Char) :
    (Scan.mk .quoted depth).after (escapedChar c) = ⟨.quoted, depth⟩ := by
  rw [escapedChar]
  split
  · rfl
  · next hc => exact Scan.after_inside rfl (by simpa using hc)

theorem closed_escapedChar (sep : Char) (depth : Nat) (c : Char) :
    Closed sep ⟨.quoted, depth⟩ (escapedChar c) := by
  have hempty : ∀ scan, Closed sep scan [] := closed_of_notMem List.not_mem_nil
  rw [escapedChar]
  split
  · exact closed_cons_iff.mpr ⟨rfl, closed_cons_iff.mpr ⟨rfl, hempty _⟩⟩
  · exact closed_cons_iff.mpr ⟨rfl, hempty _⟩

/-- The content of a string does not end it. -/
theorem after_escaped (depth : Nat) (value : List Char) :
    (Scan.mk .quoted depth).after (escaped value) = ⟨.quoted, depth⟩ := by
  induction value with
  | nil => rfl
  | cons c value ih => rw [escaped_cons, Scan.after_append, after_escapedChar, ih]

/-- No separator inside a string separates. -/
theorem closed_escaped (sep : Char) (depth : Nat) (value : List Char) :
    Closed sep ⟨.quoted, depth⟩ (escaped value) := by
  induction value with
  | nil => exact closed_of_notMem List.not_mem_nil _
  | cons c value ih =>
    rw [escaped_cons]
    exact (closed_escapedChar sep depth c).append ((after_escapedChar depth c).symm ▸ ih)

theorem after_stringText (value : List Char) : Scan.start.after (stringText value) = .start := by
  have hopening : Scan.start.step '"' = ⟨.quoted, 0⟩ := rfl
  rw [stringText, List.cons_append, Scan.after_cons, Scan.after_append, hopening, after_escaped]
  rfl

theorem closed_stringText {sep : Char} (hsep : sep ≠ '"') (value : List Char) :
    Closed sep .start (stringText value) := by
  have hquote : sep ∉ ['"'] := by simpa using hsep
  have hopening : Closed sep .start ['"'] := closed_of_notMem hquote _
  have hinside : Closed sep (Scan.start.after ['"']) (escaped value) :=
    closed_escaped sep 0 value
  exact (hopening.append hinside).append (closed_of_notMem hquote _)

/-! ## What is left of a string -/

/-- A value as a look-up shows it: as written, without the quotes at its end. -/
def shown (value : List Char) : List Char := Text.dropEndWhile (· == '"') (escaped value)

theorem head?_escaped (value : List Char) : (escaped value).head? ≠ some '"' := by
  cases value with
  | nil => simp [escaped]
  | cons c value =>
    by_cases hc : c = '"' ∨ c = '\\'
    · simp [escaped_cons_of_special hc]
    · have hquote := (not_or.mp hc).1
      simpa [escaped_cons_of_plain hc] using hquote

/-- The quotes of a string are taken away, and with the closing one those before it. -/
theorem unquote_stringText (value : List Char) :
    Params.unquote (stringText value) = shown value := by
  have hquote : ∀ c ∈ ['"'], (c == '"') = true := by simp
  have hhead : ∀ c, (escaped value).head? = some c → (c == '"') = false := by
    intro c hc
    rw [beq_eq_false_iff_ne]
    rintro rfl
    exact head?_escaped value hc
  have hstring : Text.trimWhile (· == '"') (stringText value) =
      Text.trimWhile (· == '"') (escaped value) := by
    rw [stringText, Text.trimWhile_append_right hquote]
    exact Text.trimWhile_append_left hquote (escaped value)
  rw [Params.unquote, stringText, Text.trim, Text.trimWhile_enclosed (by decide) (by decide),
    ← stringText, hstring, Text.trimWhile, Text.dropWhile_eq_self hhead, shown]

theorem escaped_of_forall_plain {value : List Char} (hquote : '"' ∉ value)
    (hescape : '\\' ∉ value) : escaped value = value := by
  induction value with
  | nil => rfl
  | cons c value ih =>
    simp only [List.mem_cons, not_or] at hquote hescape
    have hc : ¬ (c = '"' ∨ c = '\\') := not_or.mpr ⟨Ne.symm hquote.1, Ne.symm hescape.1⟩
    rw [escaped_cons_of_plain hc, ih hquote.2 hescape.2]

theorem shown_cons_of_special {c : Char} (h : c = '"' ∨ c = '\\') (value : List Char) :
    shown (c :: value) = '\\' :: Text.dropEndWhile (· == '"') (c :: escaped value) := by
  rw [shown, escaped_cons_of_special h, Text.dropEndWhile_cons]
  simp

theorem shown_cons_of_plain {c : Char} (h : ¬ (c = '"' ∨ c = '\\')) (value : List Char) :
    shown (c :: value) = c :: shown value := by
  obtain ⟨hquote, -⟩ := not_or.mp h
  rw [shown, escaped_cons_of_plain h, Text.dropEndWhile_cons]
  simp [hquote, shown]

/-- No value becomes shorter: the backslash before a quote that is lost is still there. -/
theorem length_le_shown (value : List Char) : value.length ≤ (shown value).length := by
  induction value with
  | nil => exact Nat.le_refl _
  | cons c value ih =>
    by_cases hc : c = '"' ∨ c = '\\'
    · have hrest : (shown value).length ≤
          (Text.dropEndWhile (· == '"') (c :: escaped value)).length := by
        rw [Text.dropEndWhile_cons]
        change (shown value).length ≤ (if (shown value).isEmpty && c == '"' then [] else
          c :: shown value).length
        split
        · next hempty =>
          have hnil : shown value = [] := by simpa using (Bool.and_eq_true_iff.mp hempty).1
          simp [hnil]
        · exact Nat.le_succ _
      rw [shown_cons_of_special hc, List.length_cons, List.length_cons]
      omega
    · rw [shown_cons_of_plain hc, List.length_cons, List.length_cons]
      omega

/-- A value is shown as it is if nothing in it needs a backslash. -/
theorem shown_eq_self_iff {value : List Char} :
    shown value = value ↔ '"' ∉ value ∧ '\\' ∉ value := by
  constructor
  · intro h
    induction value with
    | nil => simp
    | cons c value ih =>
      by_cases hc : c = '"' ∨ c = '\\'
      · -- the first backslash too many pushes the rest back, and the rest is no shorter
        rw [shown_cons_of_special hc] at h
        obtain ⟨rfl, hrest⟩ := List.cons.inj h
        have hlength := length_le_shown value
        have hshown : Text.dropEndWhile (· == '"') ('\\' :: escaped value) =
            '\\' :: shown value := by
          rw [Text.dropEndWhile_cons]
          simp [shown]
        rw [hshown] at hrest
        have := congrArg List.length hrest
        rw [List.length_cons] at this
        omega
      · rw [shown_cons_of_plain hc] at h
        obtain ⟨hquote, hescape⟩ := ih (List.cons.inj h).2
        obtain ⟨hne, hne'⟩ := not_or.mp hc
        simp [hquote, hescape, Ne.symm hne, Ne.symm hne']
  · rintro ⟨hquote, hescape⟩
    rw [shown, escaped_of_forall_plain hquote hescape, Text.dropEndWhile_eq_reverse,
      Text.dropWhile_eq_self, List.reverse_reverse]
    intro c hc
    rw [beq_eq_false_iff_ne]
    rintro rfl
    exact hquote (List.mem_reverse.mp (List.mem_of_head? hc))

/-! ## Parameters -/

/-- A parameter without its semicolon: a name and a string. -/
def parameterText (name value : String) : List Char :=
  name.toList ++ '=' :: stringText value.toList

/-- The text of parameters, each after a semicolon. -/
def parametersText (pairs : List (String × String)) : String :=
  String.ofList (pairs.flatMap fun (name, value) => ';' :: parameterText name value)

section

variable {name : String} (hname : isLabel name.toList = true) (value : String)

include hname

theorem balanced_parameterText : StructuredField.Balanced (parameterText name value) := by
  have hafter : Scan.start.after (name.toList ++ ['=']) = .start := after_label hname rfl
  have htext : parameterText name value = (name.toList ++ ['=']) ++ stringText value.toList := by
    simp [parameterText]
  rw [StructuredField.Balanced, htext, Scan.after_append, hafter, after_stringText]

theorem split_parameterText :
    split ';' (parameterText name value) = [parameterText name value] := by
  have htrim : Text.trim (stringText value.toList) = stringText value.toList :=
    Text.trimWhile_enclosed (by decide) (by decide) _
  exact split_eq_singleton
    (closed_member (by decide) (by decide) hname (closed_stringText (by decide) _))
    (by simp [parameterText]) (trim_member hname (by simp [stringText]) htrim)

end

theorem isSeparator_semicolon : IsSeparator ';' := ⟨by decide, by decide, by decide⟩

/-- Each semicolon between parameters separates, whatever the values hold. -/
theorem split_parameters {pairs : List (String × String)}
    (hnames : ∀ pair ∈ pairs, isLabel pair.1.toList = true) {front : List Char}
    (hfront : StructuredField.Balanced front) :
    split ';' (front ++ pairs.flatMap fun (name, value) => ';' :: parameterText name value) =
      split ';' front ++ pairs.map fun (name, value) => parameterText name value := by
  induction pairs generalizing front with
  | nil => simp
  | cons pair pairs ih =>
    obtain ⟨hname, hrest⟩ := List.forall_mem_cons.mp hnames
    have hparameter := balanced_parameterText hname pair.2
    rw [List.flatMap_cons, List.cons_append, split_append_cons isSeparator_semicolon hfront,
      ih hrest hparameter, split_parameterText hname, List.map_cons, List.singleton_append]

section

variable {params : Params} {pairs : List (String × String)}
  (hparameters : params.parameters = parametersText pairs)
  (hnames : ∀ pair ∈ pairs, isLabel pair.1.toList = true)

include hparameters hnames

/-- Every parameter is an entry under its name. -/
theorem entries_eq :
    params.entries = pairs.map fun pair => (pair.1.toList, shown pair.2.toList) := by
  have hempty : StructuredField.Balanced [] := rfl
  have hsplit := split_parameters hnames hempty
  rw [List.nil_append] at hsplit
  rw [Params.entries, hparameters, parametersText, String.toList_ofList, hsplit]
  change ([] ++ pairs.map _).filterMap _ = _
  rw [List.nil_append, List.filterMap_map, ← List.filterMap_eq_map]
  refine List.filterMap_congr fun pair hpair => ?_
  have hlabel := hnames pair hpair
  have hequals : '=' ∉ pair.1.toList :=
    fun hmem => absurd ((isLabel_iff.mp hlabel).2 '=' hmem) (by decide)
  simp only [Function.comp_apply]
  rw [parameterText, Text.cut?_append_cons hequals, Option.map_some]
  dsimp only
  rw [trim_label hlabel, unquote_stringText]

/-- A name is looked up among the names, and the value that stands with it is shown. -/
theorem parameter?_eq_find? (name : String) :
    params.parameter? name =
      (pairs.find? fun pair => pair.1 == name).map fun pair =>
        String.ofList (shown pair.2.toList) := by
  have hsame : ∀ pair : String × String, (pair.1.toList == name.toList) = (pair.1 == name) := by
    intro pair
    rw [Bool.eq_iff_iff, beq_iff_eq, beq_iff_eq, String.toList_inj]
  rw [Params.parameter?, entries_eq hparameters hnames, List.find?_map, Option.map_map]
  simp only [Function.comp_def, hsame]

end

/-- The look-up finds the parameters that were written, each with its own value and none under
another name. The value is shown as it was written, which is as it is if and only if it holds no
quote and no backslash. -/
theorem parameter?_parametersText {params : Params} {pairs : List (String × String)}
    (hparameters : params.parameters = parametersText pairs)
    (hnames : ∀ pair ∈ pairs, isLabel pair.1.toList = true)
    (hdistinct : (pairs.map Prod.fst).Nodup) :
    (∀ name value, (name, value) ∈ pairs →
      ∃ found, params.parameter? name = some found ∧ found.toList = shown value.toList ∧
        (found = value ↔ '"' ∉ value.toList ∧ '\\' ∉ value.toList)) ∧
    ∀ name ∉ pairs.map Prod.fst, params.parameter? name = none := by
  constructor
  · intro name value hmem
    have hfind : pairs.find? (fun pair => pair.1 == name) = some (name, value) := by
      obtain ⟨pair, hpair⟩ : ∃ pair, pairs.find? (fun pair => pair.1 == name) = some pair :=
        Option.isSome_iff_exists.mp (List.find?_isSome.mpr ⟨_, hmem, by simp⟩)
      have hpairName : pair.1 = name := by simpa using List.find?_some hpair
      have hfound := List.mem_of_find?_eq_some hpair
      rw [hpair, List.inj_on_of_nodup_map hdistinct hfound hmem hpairName]
    refine ⟨_, by rw [parameter?_eq_find? hparameters hnames, hfind]; rfl, String.toList_ofList, ?_⟩
    rw [← shown_eq_self_iff, ← String.toList_inj, String.toList_ofList]
  · intro name hname
    rw [parameter?_eq_find? hparameters hnames, List.find?_eq_none.mpr, Option.map_none]
    intro pair hpair
    have hne : pair.1 ≠ name := fun heq => hname (heq ▸ List.mem_map_of_mem hpair)
    simpa using hne

/-- Two parameters, the first with a value that only its string keeps together. -/
def sampleParameters : Params :=
  ⟨"sig1", ["@method"], parametersText [("nonce", " a;b=(\\"), ("alg", "ed25519")]⟩

theorem parameter?_sampleParameters :
    sampleParameters.parameters = ";nonce=\" a;b=(\\\\\";alg=\"ed25519\"" ∧
      sampleParameters.parameter? "nonce" = some " a;b=(\\\\" ∧
      sampleParameters.parameter? "alg" = some "ed25519" ∧
      sampleParameters.parameter? "keyid" = none := by
  obtain ⟨hfound, hnone⟩ := @parameter?_parametersText sampleParameters
    [("nonce", " a;b=(\\"), ("alg", "ed25519")] rfl (by decide) (by decide)
  obtain ⟨nonce, hnonce, hshown, -⟩ := hfound "nonce" " a;b=(\\" (by decide)
  obtain ⟨alg, halg, -, hplain⟩ := hfound "alg" "ed25519" (by decide)
  have hnonceText : nonce = " a;b=(\\\\" := String.toList_inj.mp (hshown.trans (by decide))
  have halgText : alg = "ed25519" := hplain.mpr (by decide)
  exact ⟨by decide, hnonceText ▸ hnonce, halgText ▸ halg, hnone "keyid" (by decide)⟩

/-- Not every printable value comes back as it is: of a quote at the end nothing is left but its
backslash. -/
theorem not_forall_parameter?_eq_value :
    ¬ ∀ pairs : List (String × String), (pairs.map Prod.fst).Nodup →
      (∀ pair ∈ pairs, isLabel pair.1.toList = true ∧ Text.Printable pair.2.toList) →
      ∀ pair ∈ pairs, (Params.mk "sig1" ["@method"] (parametersText pairs)).parameter? pair.1 =
        some pair.2 := by
  intro h
  have hvalue := h [("keyid", "a\"")] (by decide) (by decide) _ (List.mem_singleton_self _)
  have hshown : (Params.mk "sig1" ["@method"] (parametersText [("keyid", "a\"")])).parameter?
      "keyid" = some "a\\" := by decide
  rw [hshown] at hvalue
  exact absurd hvalue (by decide)

end Possession.Signature

import Possession.Proofs.Json.Double
import Possession.Proofs.Json.Text

/-!
# What is written is read

The tree of the text of a value shows the value piece by piece. The induction follows the printer;
the bound of the scanner is the length of what is left to read.
-/

namespace Possession.Json

/-! ## Values without doubles -/

mutual

/-- Whether all numbers in a value are integers. -/
def HoldsNoDouble : Json → Prop
  | .null | .bool _ | .string _ | .number (.integer _) => True
  | .number (.double _) => False
  | .array items => ItemsHoldNoDouble items
  | .object members => MembersHoldNoDouble members

def ItemsHoldNoDouble : List Json → Prop
  | [] => True
  | item :: items => HoldsNoDouble item ∧ ItemsHoldNoDouble items

def MembersHoldNoDouble : List (String × Json) → Prop
  | [] => True
  | (_, value) :: members => HoldsNoDouble value ∧ MembersHoldNoDouble members

end

def doubleTree (x : Decimal.Binary64) : Tree :=
  match NumeralText.ofDouble? x with
  | some (negative, text) => .number (text.numeral negative)
  | none => .null

mutual

def toTree : Json → Tree
  | .null => .null
  | .bool value => .bool value
  | .number (.integer n) => .number (.ofInt n)
  | .number (.double x) => doubleTree x
  | .string text => .string (contentOf text)
  | .array items => .array (itemTrees items)
  | .object members => .object (memberTrees members)

def itemTrees : List Json → List Tree
  | [] => []
  | item :: items => toTree item :: itemTrees items

def memberTrees : List (String × Json) → List (Bytes × Tree)
  | [] => []
  | (name, value) :: members => (contentOf name, toTree value) :: memberTrees members

end

namespace Tree

open Bytes (ofChars)

/-! ## The first byte -/

theorem skipSpace_cons {byte : UInt8} (h : isSpace byte = false) (rest : Bytes) :
    skipSpace (byte :: rest) = byte :: rest :=
  List.dropWhile_cons_of_neg (by simp [h])

/-- Whether a byte can begin a value: it is no space, and no bracket is closed by it. -/
def IsStart (byte : UInt8) : Prop := isSpace byte = false ∧ byte ≠ 0x5D

instance : DecidablePred IsStart := fun byte =>
  inferInstanceAs (Decidable (isSpace byte = false ∧ byte ≠ 0x5D))

theorem isStart_of_isDigit {byte : UInt8} (h : isDigit byte = true) : IsStart byte := by
  simp only [isDigit, Bool.and_eq_true, decide_eq_true_eq, UInt8.le_iff_toNat_le,
    UInt8.reduceToNat] at h
  simp only [IsStart, isSpace, Bool.or_eq_false_iff, beq_eq_false_iff_ne, ne_eq,
    ← UInt8.toNat_inj, UInt8.reduceToNat]
  omega

theorem exists_ofChars_text (text : NumeralText) :
    ∃ byte bytes, ofChars text.chars = byte :: bytes ∧ isDigit byte = true := by
  obtain ⟨c, chars, h⟩ := List.exists_cons_of_ne_nil text.whole.ne_nil
  have hdigit := text.whole.isDigit c (by simp [h])
  obtain ⟨tail, htail⟩ : ∃ tail, text.chars = c :: tail := by simp [NumeralText.chars, h]
  exact ⟨_, _, by rw [htail, Bytes.ofChars_cons_of_lt (by omega)], isDigit_toUInt8 hdigit⟩

theorem exists_ofChars_signedChars (negative : Bool) (text : NumeralText) :
    ∃ byte bytes, ofChars (NumeralText.signedChars negative text) = byte :: bytes ∧
      IsStart byte := by
  cases negative with
  | true => exact ⟨0x2D, _, rfl, by decide⟩
  | false =>
    obtain ⟨byte, bytes, hbytes, hdigit⟩ := exists_ofChars_text text
    exact ⟨byte, bytes, hbytes, isStart_of_isDigit hdigit⟩

theorem exists_ofChars_chars (value : Json) :
    ∃ byte bytes, ofChars (chars value) = byte :: bytes ∧ IsStart byte := by
  match value with
  | .null => exact ⟨0x6E, _, rfl, by decide⟩
  | .bool true => exact ⟨0x74, _, rfl, by decide⟩
  | .bool false => exact ⟨0x66, _, rfl, by decide⟩
  | .string text => exact ⟨0x22, _, rfl, by decide⟩
  | .array [] => exact ⟨0x5B, _, rfl, by decide⟩
  | .array (_ :: _) => exact ⟨0x5B, _, rfl, by decide⟩
  | .object [] => exact ⟨0x7B, _, rfl, by decide⟩
  | .object (_ :: _) => exact ⟨0x7B, _, rfl, by decide⟩
  | .number (.integer n) =>
    rw [chars, numberChars, integerChars_eq]
    exact exists_ofChars_signedChars _ _
  | .number (.double x) =>
    rw [chars, numberChars, NumeralText.doubleChars_eq]
    split
    · exact exists_ofChars_signedChars _ _
    · exact ⟨0x6E, _, rfl, by decide⟩

/-! ## Values -/

/-- A value that begins with a digit is a number. -/
theorem readValue?_of_isDigit {byte : UInt8} (h : isDigit byte = true) (fuel : Nat)
    (bytes : Bytes) :
    readValue? (fuel + 1) (byte :: bytes) =
      (readNumeral? false (byte :: bytes)).map fun (numeral, rest) => (number numeral, rest) := by
  rw [readValue?, skipSpace_cons (isStart_of_isDigit h).1]
  split
  all_goals first
    | rfl
    | next heq => obtain ⟨rfl, _⟩ := List.cons.inj heq; exact absurd h (by decide)

theorem readValue?_signedChars (negative : Bool) (text : NumeralText) (fuel : Nat) {rest : Bytes}
    (h : EndsNumber rest) :
    readValue? (fuel + 1) (ofChars (NumeralText.signedChars negative text) ++ rest) =
      some (number (text.numeral negative), rest) := by
  have hnumeral := readNumeral?_text negative text h
  cases negative with
  | true =>
    have hchars : ofChars (NumeralText.signedChars true text) = 0x2D :: ofChars text.chars := by
      rw [NumeralText.signedChars, if_pos rfl, List.singleton_append,
        Bytes.ofChars_cons_of_lt (by decide)]
      rfl
    rw [hchars, List.cons_append, readValue?, skipSpace_cons (by decide)]
    simp only [hnumeral, Option.map_some]
  | false =>
    obtain ⟨byte, bytes, hbytes, hdigit⟩ := exists_ofChars_text text
    rw [hbytes, List.cons_append] at hnumeral
    change readValue? (fuel + 1) (ofChars text.chars ++ rest) = _
    rw [hbytes, List.cons_append, readValue?_of_isDigit hdigit, hnumeral]
    rfl

theorem readValue?_doubleChars (x : Decimal.Binary64) (fuel : Nat) {rest : Bytes}
    (h : EndsNumber rest) :
    readValue? (fuel + 1) (ofChars (doubleChars x) ++ rest) = some (doubleTree x, rest) := by
  rw [NumeralText.doubleChars_eq, doubleTree]
  cases NumeralText.ofDouble? x with
  | some signed => exact readValue?_signedChars signed.1 signed.2 fuel h
  | none => rfl

theorem ofChars_stringChars (text : String) :
    ofChars (stringChars text) = 0x22 :: (contentOf text ++ [0x22]) := by
  rw [stringChars, List.cons_append, Bytes.ofChars_cons_of_lt (by decide), Bytes.ofChars_append]
  rfl

/-! ### One bracket, comma or brace at a time -/

section

variable {fuel : Nat} {text after rest : Bytes}

theorem readValue?_openBracket {byte : UInt8} (h : IsStart byte) (fuel : Nat) (bytes : Bytes) :
    readValue? (fuel + 1) (0x5B :: byte :: bytes) =
      (readItems? fuel (byte :: bytes)).map fun (items, rest) => (array items, rest) := by
  simp only [readValue?, skipSpace_cons (by decide : isSpace 0x5B = false), skipSpace_cons h.1]
  split
  · next heq => exact absurd (List.cons.inj heq).1 h.2
  · rfl

theorem readValue?_openBrace (fuel : Nat) (bytes : Bytes) :
    readValue? (fuel + 1) (0x7B :: 0x22 :: bytes) =
      (readMembers? fuel (0x22 :: bytes)).map fun (members, rest) => (object members, rest) := by
  simp only [readValue?, skipSpace_cons (by decide : isSpace 0x7B = false),
    skipSpace_cons (by decide : isSpace 0x22 = false)]
  rfl

theorem readItems?_last {item : Tree} (h : readValue? fuel text = some (item, 0x5D :: rest)) :
    readItems? (fuel + 1) text = some ([item], rest) := by
  simp [readItems?, h, skipSpace_cons (by decide : isSpace 0x5D = false)]

theorem readItems?_comma {item : Tree} {items : List Tree}
    (h : readValue? fuel text = some (item, 0x2C :: after))
    (hitems : readItems? fuel after = some (items, rest)) :
    readItems? (fuel + 1) text = some (item :: items, rest) := by
  simp [readItems?, h, hitems, skipSpace_cons (by decide : isSpace 0x2C = false)]

theorem readMembers?_last {name value} (hname : readString? text = some (name, 0x3A :: after))
    (hvalue : readValue? fuel after = some (value, 0x7D :: rest)) :
    readMembers? (fuel + 1) (0x22 :: text) = some ([(name, value)], rest) := by
  simp [readMembers?, hname, hvalue, skipSpace_cons (by decide : isSpace 0x22 = false),
    skipSpace_cons (by decide : isSpace 0x3A = false),
    skipSpace_cons (by decide : isSpace 0x7D = false)]

theorem readMembers?_comma {name value members} {next : Bytes}
    (hname : readString? text = some (name, 0x3A :: after))
    (hvalue : readValue? fuel after = some (value, 0x2C :: next))
    (hmembers : readMembers? fuel next = some (members, rest)) :
    readMembers? (fuel + 1) (0x22 :: text) = some ((name, value) :: members, rest) := by
  simp [readMembers?, hname, hvalue, hmembers, skipSpace_cons (by decide : isSpace 0x22 = false),
    skipSpace_cons (by decide : isSpace 0x3A = false),
    skipSpace_cons (by decide : isSpace 0x2C = false)]

end

/-! ### The printer in bytes -/

theorem ofChars_array (item : Json) (items : List Json) :
    ofChars (chars (.array (item :: items))) =
      0x5B :: (ofChars (chars item) ++ ofChars (itemChars items)) := by
  rw [chars, List.cons_append, Bytes.ofChars_cons_of_lt (by decide), Bytes.ofChars_append]
  rfl

theorem ofChars_itemChars (item : Json) (items : List Json) :
    ofChars (itemChars (item :: items)) =
      0x2C :: (ofChars (chars item) ++ ofChars (itemChars items)) := by
  rw [itemChars, List.cons_append, Bytes.ofChars_cons_of_lt (by decide), Bytes.ofChars_append]
  rfl

theorem ofChars_member (name : String) (value : Json) (rest : List Char) :
    ofChars (stringChars name ++ ':' :: chars value ++ rest) =
      0x22 :: (contentOf name ++ 0x22 :: 0x3A :: (ofChars (chars value) ++ ofChars rest)) := by
  rw [Bytes.ofChars_append, Bytes.ofChars_append, ofChars_stringChars,
    Bytes.ofChars_cons_of_lt (by decide)]
  simp only [List.cons_append, List.append_assoc, List.nil_append]
  rfl

theorem ofChars_object (name : String) (value : Json) (members : List (String × Json)) :
    ofChars (chars (.object ((name, value) :: members))) =
      0x7B :: 0x22 :: (contentOf name ++
        0x22 :: 0x3A :: (ofChars (chars value) ++ ofChars (memberChars members))) := by
  rw [← ofChars_member, chars, List.cons_append, List.cons_append,
    Bytes.ofChars_cons_of_lt (by decide)]
  rfl

theorem ofChars_memberChars (name : String) (value : Json) (members : List (String × Json)) :
    ofChars (memberChars ((name, value) :: members)) =
      0x2C :: 0x22 :: (contentOf name ++
        0x22 :: 0x3A :: (ofChars (chars value) ++ ofChars (memberChars members))) := by
  rw [← ofChars_member, memberChars, List.cons_append, List.cons_append,
    Bytes.ofChars_cons_of_lt (by decide)]
  rfl

/-! ### What follows a value -/

theorem length_ofChars_pos (value : Json) : 0 < (ofChars (chars value)).length := by
  obtain ⟨byte, bytes, hbytes, _⟩ := exists_ofChars_chars value
  simp [hbytes]

theorem length_itemChars_pos (items : List Json) : 0 < (ofChars (itemChars items)).length := by
  cases items with
  | nil => decide
  | cons item items => simp [ofChars_itemChars]

theorem length_memberChars_pos (members : List (String × Json)) :
    0 < (ofChars (memberChars members)).length := by
  cases members with
  | nil => decide
  | cons member members =>
    obtain ⟨name, value⟩ := member
    simp [ofChars_memberChars]

theorem endsNumber_itemChars (items : List Json) (rest : Bytes) :
    EndsNumber (ofChars (itemChars items) ++ rest) := by
  cases items with
  | nil => exact endsNumber_cons rest (by decide)
  | cons item items => exact ofChars_itemChars item items ▸ endsNumber_cons _ (by decide)

theorem endsNumber_memberChars (members : List (String × Json)) (rest : Bytes) :
    EndsNumber (ofChars (memberChars members) ++ rest) := by
  cases members with
  | nil => exact endsNumber_cons rest (by decide)
  | cons member members =>
    exact ofChars_memberChars member.1 member.2 members ▸ endsNumber_cons _ (by decide)

/-! ### All values -/

mutual

/-- A value is read up to its end. -/
theorem readValue?_chars : ∀ (value : Json) (fuel : Nat) (rest : Bytes),
    (ofChars (chars value)).length ≤ fuel → EndsNumber rest →
    readValue? fuel (ofChars (chars value) ++ rest) = some (toTree value, rest)
  | value, 0, _, hfuel, _ => absurd (length_ofChars_pos value) (Nat.not_lt_of_le hfuel)
  | .null, _ + 1, _, _, _ => rfl
  | .bool true, _ + 1, _, _, _ => rfl
  | .bool false, _ + 1, _, _, _ => rfl
  | .number (.integer n), fuel + 1, _, _, hrest => by
    rw [chars, numberChars, integerChars_eq]
    exact readValue?_signedChars _ _ fuel hrest
  | .number (.double x), fuel + 1, _, _, hrest => readValue?_doubleChars x fuel hrest
  | .string text, fuel + 1, rest, _, _ => by
    rw [chars, ofChars_stringChars, List.cons_append, List.append_assoc, readValue?,
      skipSpace_cons (by decide)]
    simp [readString?_contentOf, toTree]
  | .array [], _ + 1, _, _, _ => rfl
  | .array (item :: items), fuel + 1, rest, hfuel, _ => by
    have hpos := length_itemChars_pos items
    rw [ofChars_array] at hfuel ⊢
    simp only [List.length_cons, List.length_append] at hfuel
    obtain ⟨fuel, rfl⟩ : ∃ n, fuel = n + 1 := ⟨fuel - 1, by omega⟩
    have hitem := readValue?_chars item fuel (ofChars (itemChars items) ++ rest)
      (by omega) (endsNumber_itemChars items rest)
    have hitems := readItems?_itemChars items fuel _ rest _ (by omega) hitem
    obtain ⟨byte, bytes, hbytes, hstart⟩ := exists_ofChars_chars item
    rw [hbytes] at hitems ⊢
    simp only [List.cons_append, List.append_assoc] at hitems ⊢
    rw [readValue?_openBracket hstart, hitems]
    rfl
  | .object [], _ + 1, _, _, _ => rfl
  | .object ((name, value) :: members), fuel + 1, rest, hfuel, _ => by
    have hpos := length_memberChars_pos members
    rw [ofChars_object] at hfuel ⊢
    simp only [List.length_cons, List.length_append] at hfuel
    obtain ⟨fuel, rfl⟩ : ∃ n, fuel = n + 1 := ⟨fuel - 1, by omega⟩
    have hvalue := readValue?_chars value fuel (ofChars (memberChars members) ++ rest)
      (by omega) (endsNumber_memberChars members rest)
    have hmembers := readMembers?_memberChars members fuel _ rest _ _ _ (by omega)
      (readString?_contentOf name _) hvalue
    simp only [List.cons_append, List.append_assoc]
    rw [readValue?_openBrace, hmembers]
    rfl

/-- Once the first item is read, the items are read up to the closing bracket. -/
theorem readItems?_itemChars : ∀ (items : List Json) (fuel : Nat) (text rest : Bytes) (item : Tree),
    (ofChars (itemChars items)).length ≤ fuel + 1 →
    readValue? fuel text = some (item, ofChars (itemChars items) ++ rest) →
    readItems? (fuel + 1) text = some (item :: itemTrees items, rest)
  | [], _, _, _, _, _, hitem => readItems?_last hitem
  | next :: items, fuel, text, rest, item, hfuel, hitem => by
    have hpos := length_itemChars_pos items
    rw [ofChars_itemChars] at hfuel hitem
    simp only [List.length_cons, List.length_append] at hfuel
    have hnextPos := length_ofChars_pos next
    obtain ⟨fuel, rfl⟩ : ∃ n, fuel = n + 1 := ⟨fuel - 1, by omega⟩
    simp only [List.cons_append, List.append_assoc] at hitem
    have hnext := readValue?_chars next fuel (ofChars (itemChars items) ++ rest)
      (by omega) (endsNumber_itemChars items rest)
    exact readItems?_comma hitem (readItems?_itemChars items fuel _ rest _ (by omega) hnext)

/-- Once the first member is read, the members are read up to the closing brace. -/
theorem readMembers?_memberChars : ∀ (members : List (String × Json)) (fuel : Nat)
    (text rest after name : Bytes) (value : Tree),
    (ofChars (memberChars members)).length ≤ fuel + 1 →
    readString? text = some (name, 0x3A :: after) →
    readValue? fuel after = some (value, ofChars (memberChars members) ++ rest) →
    readMembers? (fuel + 1) (0x22 :: text) = some ((name, value) :: memberTrees members, rest)
  | [], _, _, _, _, _, _, _, hname, hvalue => readMembers?_last hname hvalue
  | (next, nextValue) :: members, fuel, text, rest, after, name, value, hfuel, hname, hvalue => by
    have hpos := length_memberChars_pos members
    rw [ofChars_memberChars] at hfuel hvalue
    simp only [List.length_cons, List.length_append] at hfuel
    have hnextPos := length_ofChars_pos nextValue
    obtain ⟨fuel, rfl⟩ : ∃ n, fuel = n + 1 := ⟨fuel - 1, by omega⟩
    simp only [List.cons_append, List.append_assoc] at hvalue
    have hnext := readValue?_chars nextValue fuel (ofChars (memberChars members) ++ rest)
      (by omega) (endsNumber_memberChars members rest)
    exact readMembers?_comma hname hvalue (readMembers?_memberChars members fuel _ rest _ _ _
      (by omega) (readString?_contentOf next _) hnext)

end

/-- The text of a value is read as its tree. -/
theorem parse?_print (value : Json) :
    parse? (Bytes.ofText value.print) = some (toTree value) := by
  have hvalue := readValue?_chars value ((ofChars (chars value)).length + 1) [] (Nat.le_succ _)
    endsNumber_nil
  rw [List.append_nil] at hvalue
  rw [print, Bytes.ofText_ofList, parse?, hvalue]
  rfl

end Tree

end Possession.Json

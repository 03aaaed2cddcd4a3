import Possession.Decimal.Notation
import Possession.Text.Split

/-!
# Dates and times

A moment is written in the standard form: a capital T between date and time, no zeros at the end of
a fraction, the offset in hours and minutes.
-/

namespace Possession.Toml

structure Date where
  year : Nat
  /-- The month, from one. -/
  month : Nat
  /-- The day of the month, from one. -/
  day : Nat
  deriving DecidableEq, Repr

structure TimeOfDay where
  hour : Nat
  minute : Nat
  /-- The second, if it is written. -/
  second : Option Nat
  /-- The fraction of the second in nanoseconds, if one is written. -/
  nanosecond : Option Nat
  deriving DecidableEq, Repr

/-- The distance of a local time from universal time. -/
inductive Offset
  /-- None, written `Z`. -/
  | universal
  /-- A number of minutes. -/
  | minutes (count : Int)
  deriving DecidableEq, Repr

/-- A date, a time or both. -/
structure Moment where
  date : Option Date
  time : Option TimeOfDay
  offset : Option Offset
  deriving DecidableEq, Repr

/-! ## Writing -/

def padded (width n : Nat) : List Char :=
  let digits := Nat.toDigits 10 n
  List.replicate (width - digits.length) '0' ++ digits

def Date.chars (date : Date) : List Char :=
  padded 4 date.year ++ '-' :: padded 2 date.month ++ '-' :: padded 2 date.day

/-- The digits of a fraction given in nanoseconds: at least one. -/
def fractionChars (nanosecond : Nat) : List Char :=
  match ((padded 9 nanosecond).reverse.dropWhile (· == '0')).reverse with
  | [] => ['0']
  | digits => digits

def TimeOfDay.chars (time : TimeOfDay) : List Char :=
  let second := match time.second with
    | none => []
    | some second => ':' :: padded 2 second
  let fraction := match time.nanosecond with
    | none => []
    | some nanosecond => '.' :: fractionChars nanosecond
  padded 2 time.hour ++ ':' :: padded 2 time.minute ++ second ++ fraction

def Offset.chars : Offset → List Char
  | .universal => ['Z']
  | .minutes count =>
    (if count < 0 then '-' else '+') :: padded 2 (count.natAbs / 60) ++
      ':' :: padded 2 (count.natAbs % 60)

def Moment.print (moment : Moment) : String :=
  let date := (moment.date.map Date.chars).getD []
  let time := (moment.time.map TimeOfDay.chars).getD []
  let offset := (moment.offset.map Offset.chars).getD []
  let mark := if moment.date.isSome ∧ moment.time.isSome then ['T'] else []
  String.ofList (date ++ mark ++ time ++ offset)

/-! ## Reading -/

/-- The number that exactly `count` leading digits stand for, and what follows them. -/
def readFixed? (count : Nat) (text : List Char) : Option (Nat × List Char) :=
  let digits := text.take count
  if digits.length = count ∧ digits.all Text.isAsciiDigit then
    some (Decimal.ofDigits digits, text.drop count)
  else none

def isLeapYear (year : Nat) : Bool := (year % 4 == 0 && year % 100 != 0) || year % 400 == 0

def daysInMonth (year month : Nat) : Nat :=
  if month = 2 then if isLeapYear year then 29 else 28
  else if [4, 6, 9, 11].contains month then 30
  else 31

def readDate? (text : List Char) : Option (Date × List Char) := do
  let (year, rest) ← readFixed? 4 text
  let (month, rest) ← readFixed? 2 (← Text.after? ['-'] rest)
  let (day, rest) ← readFixed? 2 (← Text.after? ['-'] rest)
  if 1 ≤ month ∧ month ≤ 12 ∧ 1 ≤ day ∧ day ≤ daysInMonth year month then
    some (⟨year, month, day⟩, rest)
  else none

/-- The nanoseconds of a fraction; digits beyond the ninth are dropped. -/
def nanoseconds (digits : List Char) : Nat :=
  Decimal.ofDigits ((digits ++ List.replicate 9 '0').take 9)

def readFraction? : List Char → Option (Option Nat × List Char)
  | '.' :: rest =>
    let digits := rest.takeWhile Text.isAsciiDigit
    if digits.isEmpty then none
    else some (some (nanoseconds digits), rest.dropWhile Text.isAsciiDigit)
  | text => some (none, text)

def readSeconds? : List Char → Option (Option Nat × Option Nat × List Char)
  | ':' :: rest => do
    let (second, rest) ← readFixed? 2 rest
    let (fraction, rest) ← readFraction? rest
    if second ≤ 60 then some (some second, fraction, rest) else none
  | text => some (none, none, text)

/-- A time, and what follows it. The seconds may be left out. -/
def readTime? (text : List Char) : Option (TimeOfDay × List Char) := do
  let (hour, rest) ← readFixed? 2 text
  let (minute, rest) ← readFixed? 2 (← Text.after? [':'] rest)
  let (second, nanosecond, rest) ← readSeconds? rest
  if hour ≤ 23 ∧ minute ≤ 59 then some (⟨hour, minute, second, nanosecond⟩, rest) else none

/-- The offset that a text consists of: less than a day. -/
def readOffset? : List Char → Option (Option Offset)
  | [] => some none
  | ['Z'] | ['z'] => some (some .universal)
  | sign :: digits => do
    let (hour, rest) ← readFixed? 2 digits
    let (minute, rest) ← readFixed? 2 (← Text.after? [':'] rest)
    let count := hour * 60 + minute
    if rest = [] ∧ hour ≤ 23 ∧ minute ≤ 59 then
      if sign = '+' then some (some (.minutes count))
      else if sign = '-' then some (some (.minutes (-(count : Int))))
      else none
    else none

/-- Whether a character may stand between date and time. -/
def isMark (c : Char) : Bool := c == 'T' || c == 't' || c == ' '

/-- Reads a moment: a date, a time, or a date, a time and possibly an offset. -/
def Moment.parse? (text : List Char) : Option Moment :=
  match readDate? text with
  | some (date, []) => some ⟨some date, none, none⟩
  | some (date, mark :: rest) => do
    if !isMark mark then none
    let (time, rest) ← readTime? rest
    return ⟨some date, some time, ← readOffset? rest⟩
  | none => do
    let (time, rest) ← readTime? text
    if rest = [] then some ⟨none, some time, none⟩ else none

end Possession.Toml

/-!
# Characters of texts

Names of header fields, hosts and environment variables are compared without regard to case, as far
as they are ASCII. Header values and dictionary members are trimmed at both ends.
-/

namespace Possession.Text

/-! ## Letters and digits -/

def isAsciiUpper (c : Char) : Bool := 'A' ≤ c && c ≤ 'Z'

def isAsciiLower (c : Char) : Bool := 'a' ≤ c && c ≤ 'z'

def isAsciiLetter (c : Char) : Bool := isAsciiUpper c || isAsciiLower c

def isAsciiDigit (c : Char) : Bool := '0' ≤ c && c ≤ '9'

/-- The small letter for a capital letter of ASCII, any other character as it is. -/
def asciiLowerChar (c : Char) : Char :=
  if isAsciiUpper c then Char.ofNat (c.toNat + 32) else c

def asciiLower (text : List Char) : List Char := text.map asciiLowerChar

/-- Lower case as far as it yields ASCII: the capital letters of ASCII and the Kelvin sign, whose
lower case is `k`. Any other character is left alone; its lower case is not a single ASCII
character. -/
def lower (text : List Char) : List Char :=
  text.map fun c => if c.toNat = 0x212A then 'k' else asciiLowerChar c

/-! ## Blank characters -/

/-- The characters with the Unicode property `White_Space`. -/
def isBlank (c : Char) : Bool :=
  let n := c.toNat
  (0x09 ≤ n && n ≤ 0x0D) || n == 0x20 || n == 0x85 || n == 0xA0 || n == 0x1680 ||
    (0x2000 ≤ n && n ≤ 0x200A) || n == 0x2028 || n == 0x2029 || n == 0x202F || n == 0x205F ||
    n == 0x3000

/-- The ASCII characters that separate the items of an inner list: tab, line feed, form feed,
carriage return and space. -/
def isAsciiBlank (c : Char) : Bool :=
  c == ' ' || c == '\t' || c == '\n' || c == '\x0c' || c == '\r'

/-- The text without the characters at its end that satisfy `p`. -/
def dropEndWhile (p : Char → Bool) (text : List Char) : List Char :=
  text.foldr (fun c rest => if rest.isEmpty && p c then [] else c :: rest) []

/-- The text without the characters at either end that satisfy `p`. -/
def trimWhile (p : Char → Bool) (text : List Char) : List Char :=
  dropEndWhile p (text.dropWhile p)

def trim (text : List Char) : List Char := trimWhile isBlank text

theorem dropEndWhile_cons (p : Char → Bool) (c : Char) (text : List Char) :
    dropEndWhile p (c :: text) =
      if (dropEndWhile p text).isEmpty && p c then [] else c :: dropEndWhile p text := rfl

end Possession.Text

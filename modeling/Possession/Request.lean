import Possession.Bytes
import Possession.Text.Character
import Possession.Text.Split
import Possession.Url

/-!
# Requests

Methods and field names are tokens and field values hold no control characters; the types keep these
rules, so a line break can never enter a signed text through a request.
-/

namespace Possession

namespace Request

/-! ## Tokens -/

def isTokenChar (c : Char) : Bool :=
  Text.isAsciiLetter c || Text.isAsciiDigit c ||
    ['!', '#', '$', '%', '&', '\'', '*', '+', '-', '.', '^', '_', '\x60', '|', '~'].contains c

/-- Whether a text is a token: one or more token characters. -/
def isToken (text : String) : Bool := !text.toList.isEmpty && text.toList.all isTokenChar

structure Method where
  /-- The name, whose case counts. -/
  name : String
  name_isToken : isToken name = true
  deriving DecidableEq, Repr

def Method.parse? (text : String) : Option Method :=
  if h : isToken text = true then some ⟨text, h⟩ else none

/-! ## Header fields -/

/-- Whether a field value may hold a byte: no control character except the tab. -/
def isFieldByte (byte : UInt8) : Bool := (0x20 ≤ byte && byte != 0x7F) || byte == 0x09

/-- Whether a byte is an ASCII character that may be shown, or a tab. -/
def isVisible (byte : UInt8) : Bool := (0x20 ≤ byte && byte < 0x7F) || byte == 0x09

/-- The name of a field in the case in which fields are compared. -/
def foldName (name : String) : String := String.ofList (Text.asciiLower name.toList)

structure Field where
  /-- The name in lower case. -/
  name : String
  value : Bytes
  name_isToken : isToken name = true
  /-- The value holds no control character except the tab. -/
  all_value : value.all isFieldByte = true
  deriving DecidableEq, Repr

inductive FieldFault
  /-- The name is not a token. -/
  | name
  /-- The value holds a control character. -/
  | value
  deriving DecidableEq, Repr

def Field.make (name : String) (value : Bytes) : Except FieldFault Field :=
  if hn : isToken (foldName name) = true then
    if hv : value.all isFieldByte = true then .ok ⟨foldName name, value, hn, hv⟩
    else .error .value
  else .error .name

/-- A field with a text for its value, which must be visible ASCII. -/
def Field.ofText (name value : String) : Except FieldFault Field :=
  if (Bytes.ofText value).all isVisible then Field.make name (Bytes.ofText value)
  else .error .value

/-- The text of a value that is visible ASCII, without the blank characters around it. -/
def visibleText? (value : Bytes) : Option String :=
  if value.all isVisible then
    some (String.ofList (Text.trim (value.map fun byte => Char.ofNat byte.toNat)))
  else none

end Request

structure Request where
  method : Request.Method
  url : Url
  /-- The header fields in order. -/
  fields : List Request.Field
  body : Option Bytes
  deriving DecidableEq, Repr

namespace Request

def addField (request : Request) (field : Field) : Request :=
  { request with fields := request.fields ++ [field] }

def values (request : Request) (name : String) : List Bytes :=
  (request.fields.filter fun field => field.name == foldName name).map Field.value

/-- Texts with a comma and a space between them. -/
def joinValues (texts : List String) : String := ", ".intercalate texts

/-- What a header holds. -/
inductive Header
  | absent
  /-- A field of that name is not visible ASCII. -/
  | unreadable
  /-- The values of all fields of that name, joined. -/
  | text (value : String)
  deriving DecidableEq, Repr

/-- The values of the fields with the given name, joined to one text. -/
def header (request : Request) (name : String) : Header :=
  match (request.values name).mapM visibleText? with
  | none => .unreadable
  | some [] => .absent
  | some texts => .text (joinValues texts)

def Header.text? : Header → Option String
  | .text value => some value
  | _ => none

def signatureInput (request : Request) : Option String := (request.header "signature-input").text?

def signature (request : Request) : Option String := (request.header "signature").text?

def contentDigest (request : Request) : Option String := (request.header "content-digest").text?

end Request

end Possession

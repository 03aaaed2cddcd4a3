import Possession.StructuredField

/-!
# Signature parameters

The parameters are kept as the signer wrote them, because the signature covers their text.
-/

namespace Possession.Signature

/-- What one signature covers, and its parameters. -/
structure Params where
  /-- The label that connects the two headers. -/
  label : String
  components : List String
  /-- The parameters as written, from the first semicolon on. -/
  parameters : String
  deriving DecidableEq, Repr

namespace Params

def quote (component : String) : String := "\"" ++ component ++ "\""

/-- The text that follows the label and the equals sign. -/
def serialize (params : Params) : String :=
  "(" ++ " ".intercalate (params.components.map quote) ++ ")" ++ params.parameters

/-- A value without blank characters and quotes at its ends. -/
def unquote (value : List Char) : List Char := Text.trimWhile (· == '"') (Text.trim value)

/-- The names and the values of the parameters that have a value. -/
def entries (params : Params) : List (List Char × List Char) :=
  (StructuredField.split ';' params.parameters.toList).filterMap fun entry =>
    (Text.cut? '=' entry).map fun (name, value) => (Text.trim name, unquote value)

/-- The value of the first parameter with the given name. -/
def parameter? (params : Params) (name : String) : Option String :=
  (params.entries.find? fun (key, _) => key == name.toList).map fun (_, value) =>
    String.ofList value

def keyId? (params : Params) : Option String := params.parameter? "keyid"

def algorithm? (params : Params) : Option String := params.parameter? "alg"

end Params

end Possession.Signature

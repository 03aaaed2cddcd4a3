import Possession.Base64
import Possession.Failure
import Possession.Request
import Possession.Signature.Params

/-!
# Signature bases

The signature base is the text that is signed: a line for each covered component with its value on
the request, and a last line that repeats what is covered and the parameters. A signer adds two
fields to the request: one lists what the signature covers, the other holds its bytes in base64.
-/

namespace Possession.Signature

/-- The values that a request has beside its header fields. -/
inductive Derived
  | method
  /-- The text of the URL. -/
  | targetUri
  /-- The host and port. -/
  | authority
  | scheme
  | path
  | query
  deriving DecidableEq, Repr

namespace Derived

def all : List Derived := [method, targetUri, authority, scheme, path, query]

def name : Derived → String
  | method => "@method"
  | targetUri => "@target-uri"
  | authority => "@authority"
  | scheme => "@scheme"
  | path => "@path"
  | query => "@query"

def ofName? (name : String) : Option Derived := all.find? fun derived => derived.name == name

def value (request : Request) : Derived → String
  | method => request.method.name
  | targetUri => request.url.print
  | authority => request.url.authorityText
  | scheme => request.url.scheme
  | path => request.url.path.print
  | query => request.url.queryText

end Derived

/-- Why a component has no value on a request. -/
inductive ComponentFault
  /-- Its name is reserved for derived components, but it is none of them. -/
  | notSupported
  /-- The header has a value that is not visible ASCII. -/
  | unreadable
  | absent
  deriving DecidableEq, Repr

def ComponentFault.message : ComponentFault → String
  | .notSupported => "derived component is not supported"
  | .unreadable => "header value is not visible ASCII"
  | .absent => "covered header is not present on the request"

/-- The value of a component: that of a derived component, else the header of that name. -/
def componentValue (request : Request) (component : String) : Except ComponentFault String :=
  match Derived.ofName? component with
  | some derived => .ok (derived.value request)
  | none =>
    if (Text.after? ['@'] component.toList).isSome then .error .notSupported
    else
      match request.header component with
      | .absent => .error .absent
      | .unreadable => .error .unreadable
      | .text value => .ok value

def line (component value : String) : String := Params.quote component ++ ": " ++ value

def componentLines (request : Request) : List String → Outcome (List String)
  | [] => .ok []
  | component :: rest =>
    match componentValue request component with
    | .error fault => .error ((Refusal.of (.unknownCoveredField component)).note fault.message)
    | .ok value => (componentLines request rest).map (line component value :: ·)

/-- The text that is signed. -/
def base (request : Request) (params : Params) : Outcome String :=
  (componentLines request params.components).map fun lines =>
    "\n".intercalate (lines ++ [line "@signature-params" params.serialize])

/-! ## Attaching a signature -/

/-- The member that lists what a signature covers. -/
def Params.member (params : Params) : String := params.label ++ "=" ++ params.serialize

/-- The member that holds the bytes of a signature. -/
def bytesMember (label : String) (bytes : Bytes) : String :=
  label ++ "=:" ++ Base64.encode Base64.standard bytes ++ ":"

/-- Adds the fields of a signature. -/
def attach (request : Request) (params : Params) (bytes : Bytes) :
    Except Request.FieldFault Request := do
  let input ← Request.Field.ofText "signature-input" params.member
  let signature ← Request.Field.ofText "signature" (bytesMember params.label bytes)
  return (request.addField input).addField signature

end Possession.Signature

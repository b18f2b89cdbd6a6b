import Eligibility.Field
set_option autoImplicit false

/-!
# HTTP: requests and responses

A request names its headers in small letters.  The content of a response is
JSON, plain text, or the list of the fields that a body fails in.

How deep JSON may be nested before there is no room left to read it depends on where
a request is read, so a request says of itself whether its body is too deep.
-/

namespace Eligibility.Http

/-- The names and values of headers. -/
abbrev Headers : Type := List (String × String)

/-- A request. -/
structure Request where
  method : String
  path : String
  headers : Headers := []
  body : String := ""
  /-- Whether the body is nested deeper than there is room to read. -/
  isTooDeep : Bool := false
  deriving DecidableEq, Repr

/-- The value of a header. -/
def Request.header? (r : Request) (name : String) : Option String := r.headers.lookup name

/-- The request with a header. -/
def Request.withHeader (r : Request) (name value : String) : Request :=
  { r with headers := (name, value) :: r.headers.filter (·.1 != name) }

/-- What a response holds. -/
inductive Content where
  | json (j : Json)
  | text (s : String)
  /-- The fields of a body that fail their checks. -/
  | faults (faults : List Field.Fault)
  deriving Repr

/-- A response. -/
structure Response where
  status : Nat
  content : Content
  headers : Headers := []
  deriving Repr

namespace Response

/-- A response with a text that says what is wrong. -/
def detail (status : Nat) (text : String) : Response :=
  ⟨status, .json (.object [("detail", .text text)]), []⟩

/-- A response with a JSON value; there is none for a value with a number that is not finite. -/
def json? (status : Nat) (j : Json) : Option Response :=
  if j.isFinite then some ⟨status, .json j, []⟩ else none

/-- A response of plain text. -/
def plain (status : Nat) (text : String) : Response := ⟨status, .text text, []⟩

/-- The response with headers behind its own. -/
def add (r : Response) (headers : Headers) : Response := { r with headers := r.headers ++ headers }

/-- The response to a request for the headers alone. -/
def withoutContent (r : Response) : Response := { r with content := .text "" }

end Response

end Eligibility.Http

import Eligibility.Http.Message
import Eligibility.Text.Blank
import Eligibility.Text.Case
set_option autoImplicit false

/-!
# HTTP: requests from other origins

A page of another origin may use a response only if the headers say so.  Before
some requests a browser asks first whether the origin, the method and the
headers that it is about to use are allowed.
-/

namespace Eligibility.Http

/-- What pages of other origins may do. -/
structure Cors where
  /-- The origins, a star for all of them. -/
  origins : List String
  methods : List String := ["GET", "POST"]
  /-- The headers in small letters. -/
  headers : List String :=
    ["accept", "accept-language", "authorization", "content-language", "content-type"]
  /-- The seconds for which an answer holds. -/
  maxAge : Nat := 600
  deriving DecidableEq, Repr

namespace Cors

/-- Whether every origin is allowed. -/
def allowsAll (c : Cors) : Bool := c.origins.contains "*"

/-- Whether an origin is allowed. -/
def allows (c : Cors) (origin : String) : Bool := c.allowsAll || c.origins.contains origin

/-- The header that lets pages send their credentials. -/
def credentials : String × String := ("access-control-allow-credentials", "true")

/-- The header that names the origin that is allowed. -/
def allowOrigin (origin : String) : String × String := ("access-control-allow-origin", origin)

/-- Whether the headers that a page is about to use are allowed. -/
def allowsHeaders (c : Cors) (wanted : Option String) : Bool :=
  match wanted with
  | none => true
  | some list => (Text.pieces ',' list).all fun h => c.headers.contains (Text.trim (Text.lower h))

/-- What of a request is not allowed. -/
def failures (c : Cors) (origin method : String) (wanted : Option String) : List String :=
  (if c.allows origin then [] else ["origin"]) ++
    (if c.methods.contains method then [] else ["method"]) ++
    (if c.allowsHeaders wanted then [] else ["headers"])

/-- The answer to a page that asks first. -/
def answerBefore (c : Cors) (origin method : String) (wanted : Option String) : Response :=
  let headers := (if c.allows origin then [allowOrigin origin] else []) ++
    [credentials, ("access-control-allow-methods", Text.join ", " c.methods),
      ("access-control-max-age", toString c.maxAge)]
  match c.failures origin method wanted with
  | [] => ⟨200, .text "OK", headers⟩
  | failures => ⟨400, .text ("Disallowed CORS " ++ Text.join ", " failures), headers⟩

/-- The answer to a request that asks first; none for any other one. -/
def preflight? (c : Cors) (r : Request) : Option Response := do
  let origin ← r.header? "origin"
  let method ← r.header? "access-control-request-method"
  if r.method = "OPTIONS" then
    some (c.answerBefore origin method (r.header? "access-control-request-headers"))
  else none

/-- The headers of the response to a request. -/
def headersFor (c : Cors) (r : Request) : Headers :=
  match r.header? "origin" with
  | none => []
  | some origin =>
    let allowed :=
      if c.allowsAll then
        if (r.header? "cookie").isSome then [allowOrigin origin] else [allowOrigin "*"]
      else if c.allows origin then [allowOrigin origin]
      else []
    allowed ++ [credentials]

end Cors

end Eligibility.Http

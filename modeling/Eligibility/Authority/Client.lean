import Eligibility.Authority.Answer
import Eligibility.Settings.Basic
set_option autoImplicit false

/-!
# The verification authority: its client

A client forwards a message and its signature and reads the answer.  How a
request travels is given as a function from requests to answers, so a submission
is the one request that it sends and what the answer says.
-/

namespace Eligibility.Authority

/-- A client of the authority, which needs the key of a publisher. -/
structure Client where
  /-- Where the authority is, without slashes at the end. -/
  baseUrl : String
  key : String
  /-- The seconds to wait for an answer. -/
  timeout : Binary64
  hasKey : key ≠ ""
  deriving DecidableEq, Repr

/-- Why there is no client. -/
inductive ClientFault where
  | noKey
  /-- The settings hold no key. -/
  | keyNotSet
  deriving DecidableEq, Repr

/-- The wording of a fault. -/
def ClientFault.message : ClientFault → String
  | .noKey => "A publisher key is required to call the verification authority"
  | .keyNotSet => "TRAIT_VERIFY_PUBLISHER_KEY is not set"

/-- A request to the authority. -/
structure Request where
  url : String
  body : Json
  authorization : String
  contentType : String
  timeout : Binary64
  deriving Repr

namespace Client

/-- The seconds that a client waits unless told otherwise. -/
def defaultTimeout : Binary64 := Binary64.ofInt 30

/-- The client of a location and a key. -/
def make (baseUrl : String) (key : Option String) (timeout : Binary64) :
    Except ClientFault Client :=
  match key with
  | none => .error .noKey
  | some key =>
    if h : key = "" then .error .noKey
    else .ok ⟨Text.dropTrailing '/' baseUrl, key, timeout, h⟩

/-- The client of the settings. -/
def ofSettings (settings : Settings) : Except ClientFault Client :=
  (make settings.authorityUrl settings.publisherKey settings.authorityTimeout).mapError
    fun _ => .keyNotSet

/-- The request for a message and its signature. -/
def request (c : Client) (message signature : String) : Request where
  url := c.baseUrl ++ "/base_verify_token"
  body := .object [("message", .text message), ("signature", .text signature)]
  authorization := "Bearer " ++ c.key
  contentType := "application/json"
  timeout := c.timeout

end Client

/-- A client and the way its requests travel. -/
structure Channel where
  client : Client
  send : Request → Answer

/-- What a step gives, and the requests that it sent. -/
structure Sent (α : Type) where
  result : α
  requests : List Request := []

/-- Forward a message and its signature. -/
def Channel.submit (c : Channel) (message signature : String) : Sent (Except Failure Response) :=
  let request := c.client.request message signature
  ⟨(c.send request).read, [request]⟩

end Eligibility.Authority

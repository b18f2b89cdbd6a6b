import Eligibility.Calendar.Duration
import Eligibility.Resource.Build
import Eligibility.Settings.Basic
import Eligibility.Statement.Message
import Eligibility.Statement.Nonce
set_option autoImplicit false

/-!
# Statements: building

A builder fills the fields that the caller leaves open from the settings, adds a
fresh nonce and the times of issue and of expiry, and lays the message out.
Nothing that a caller gives may bring a line of its own into the message.
-/

namespace Eligibility.Statement

variable [Uri.Idna]

/-- What a caller asks for.  What is null, and a domain or a location that is empty, is taken from
the settings. -/
structure Order where
  address : Json
  resources : Resource.Request := {}
  domain : Json := .null
  uri : Json := .null
  chainId : Json := .null
  statement : Json := .null
  issuedAt : Option Calendar.Zoned := none
  expiresIn : Option Calendar.Duration := none

/-- Why a statement cannot be built. -/
inductive BuildFault where
  | noAddress
  /-- A part that must be one line is not. -/
  | notLine (label text : String)
  | resource (fault : Trait.Fault)
  /-- A time lies outside the calendar, or a duration is too long. -/
  | outOfCalendar
  /-- Fields of the message fail their checks. -/
  | fields (address : Json) (faults : List Field.Fault)
  /-- The chain has more digits than a number is written with. -/
  | longChain (address : Json)
  deriving Repr

namespace BuildFault

/-- The wording of a fault; that of a time outside the calendar is left open. -/
def message : BuildFault → String
  | noAddress => "address must be a non-empty string"
  | notLine label _ => label ++ " must be a single line"
  | resource fault => fault.message
  | outOfCalendar => ""
  | fields _ _ => "Invalid statement field"
  | longChain _ =>
    "Invalid statement field: Exceeds the limit (4300 digits) for integer string conversion; " ++
      "use sys.set_int_max_str_digits() to increase the limit"

/-- What a fault is about, as named values. -/
def details : BuildFault → List (String × Json)
  | notLine label text => [(label, .text text)]
  | resource fault => fault.details
  | fields address _ | longChain address => [("address", address)]
  | noAddress | outOfCalendar => []

end BuildFault

/-- A new statement with what was generated for it. -/
structure Built where
  message : String
  nonce : String
  issuedAt : String
  expirationTime : String
  resources : List String
  deriving DecidableEq, Repr

/-- Whether the chain of a message has no more digits than a number is written with. -/
def Message.hasShortChain (m : Message) : Bool :=
  (Nat.toDigits 10 m.chainId.natAbs).length ≤ Decimal.maxDigits

/-- The message of a draft, laid out. -/
def render (d : Draft) : Except BuildFault String :=
  match d.check with
  | .ok m => if m.hasShortChain then .ok m.render else .error (.longChain d.address)
  | .error faults => .error (.fields d.address faults)

/-- Refuse a text of more than one line. -/
def requireLine (label : String) (given : Json) : Except BuildFault Unit :=
  match given with
  | .text s =>
    if s.toList.any fun c => c == '\n' || c == '\r' then .error (.notLine label s) else .ok ()
  | _ => .ok ()

/-- Refuse an address that is no text or has no text in it. -/
def requireAddress (given : Json) : Except BuildFault Unit :=
  match given with
  | .text s => if Text.isBlankText s then .error .noAddress else requireLine "address" given
  | _ => .error .noAddress

/-- A value, or the default if it is vacant. -/
def orVacant (given : Json) (default : String) : Json :=
  if given.isVacant then .text default else given

/-- A value, or the default if it is null. -/
def orNull (given default : Json) : Json :=
  match given with
  | .null => default
  | j => j

/-- The fields of a message that do not depend on the time or on a nonce, and the times. -/
structure Plan where
  domain : Json
  uri : Json
  chainId : Json
  statement : Json
  resources : List String
  issued : Calendar.Stamp
  expires : Calendar.Stamp

/-- The window in which a statement is valid: what the caller asks for, or what the settings say if
that is nothing or zero. -/
def window? (settings : Settings) (asked : Option Calendar.Duration) : Option Calendar.Duration :=
  match asked with
  | some d => if d = 0 then fromSettings else some d
  | none => fromSettings
where
  /-- The window of the settings. -/
  fromSettings := Calendar.Duration.ofUnits? Calendar.Duration.hour settings.statementTtlHours

/-- When a statement is issued, on the clock that the caller names, or now. -/
def Order.start (o : Order) (now : Calendar.Stamp) : Calendar.Zoned :=
  o.issuedAt.getD (.fixed now)

/-- The plan of an order. -/
def plan (settings : Settings) (now : Calendar.Stamp) (o : Order) : Except BuildFault Plan := do
  requireAddress o.address
  let domain := orVacant o.domain settings.domain
  let uri := orVacant o.uri settings.appUrl
  let statement := orNull o.statement (.text settings.statement)
  requireLine "domain" domain
  requireLine "uri" uri
  requireLine "statement" statement
  let resources ← (Resource.ofRequest o.resources).mapError .resource
  let start := o.start now
  match (window? settings o.expiresIn).bind start.add? with
  | none => .error .outOfCalendar
  | some expires =>
    return ⟨domain, uri, orNull o.chainId (.whole settings.chainId), statement, resources,
      start.stamp, expires⟩

/-- The draft of a plan with the texts of its times. -/
def Plan.draft (p : Plan) (address : Json) (nonce issuedAt expirationTime : String) : Draft where
  domain := p.domain
  address := address
  uri := p.uri
  chainId := p.chainId
  nonce := .text nonce
  issuedAt := .text issuedAt
  statement := if p.statement.isVacant then .null else p.statement
  expirationTime := .text expirationTime
  resources := p.resources.map .text

/-- The statement of a plan with a nonce. -/
def finish (address : Json) (p : Plan) (nonce : String) : Except BuildFault Built :=
  match p.issued.millis?, p.expires.millis? with
  | some issuedAt, some expirationTime => do
    let message ← render (p.draft address nonce issuedAt expirationTime)
    return ⟨message, nonce, issuedAt, expirationTime, p.resources⟩
  | _, _ => .error .outOfCalendar

/-- A new statement for an order, and the choices after it.  The nonce is chosen once the plan
stands, whether or not the message can be laid out. -/
def build (settings : Settings) (now : Calendar.Stamp) (choices : Choices) (o : Order) :
    Except BuildFault Built × Choices :=
  match plan settings now o with
  | .error fault => (.error fault, choices)
  | .ok p =>
    let (nonce, choices) := choices.nonce defaultNonceLength
    (finish o.address p nonce, choices)

end Eligibility.Statement

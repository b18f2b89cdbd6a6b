import Eligibility.Signing.Cache
import Eligibility.Statement.Build
import Eligibility.Statement.Parse
import Eligibility.Wallet.Signature
set_option autoImplicit false

/-!
# Signing: signing a statement

A statement is built and signed, by a wallet or by a key.  With a cache the
signer is spared if the cache holds a signature of the same identity and action
whose statement has the same scope.  `Run` says everything that a call does: its
result, what it asked the signer to sign, and the cache and the choices after it.

A call reads the clock of the cache when it looks into it, and once more when the
signer has answered, which may be much later.  Calls are taken one after the other:
while a signer has yet to answer, nobody else uses the cache.
-/

namespace Eligibility.Signing

open Statement (Choices)

variable [Uri.Idna]

/-- What comes of asking for a signature, at once or after a while. -/
inductive Reply where
  | signed (signature : String)
  /-- An error, with its text. -/
  | refused (reason : String)
  /-- An end that is not an error, as when whoever waits for the answer is told to stop. -/
  | abandoned
  deriving DecidableEq, Repr

/-- What signs a message. -/
abbrev Sign : Type := String → Reply

/-- A call. -/
structure Call where
  /-- The order of the statement; its address is that of the wallet. -/
  order : Statement.Order
  /-- The action, under which the signature is kept. -/
  action : Option String
  /-- The wallet that signs for the address. -/
  wallet : Option Sign := none
  /-- The key that signs if there is no wallet. -/
  key : Option Wallet.Key := none

/-- A statement with its signature. -/
structure Signed where
  address : String
  message : String
  signature : String
  nonce : String
  deriving DecidableEq, Repr

/-- The signed statement as JSON. -/
def Signed.toJson (s : Signed) : Json :=
  .object [("address", .text s.address), ("message", .text s.message),
    ("signature", .text s.signature), ("nonce", .text s.nonce)]

/-- The provider of a call that names none. -/
def defaultProvider : String := "x"

/-- The action of a call that names none. -/
def defaultAction : String := "create_verification_url"

/-- Why a statement is not signed. -/
inductive Fault where
  | noSigner
  | build (fault : Statement.BuildFault)
  | refused (reason : String)
  /-- The end of the signer's work, which is passed on as it is. -/
  | abandoned
  deriving Repr

/-- The wording of a fault. -/
def Fault.message : Fault → String
  | .noSigner => "Either key_pair or both sign_message and address must be provided"
  | .build fault => fault.message
  | .refused reason => "Failed to generate signature: " ++ reason
  | .abandoned => ""

/-- The effects of a call. -/
structure Run where
  result : Except Fault Signed
  cache : Option Cache
  choices : Choices
  /-- The messages that the signer was asked to sign. -/
  asked : List String := []

/-- Who signs: the wallet if an address comes with it, otherwise the key, and the address. -/
def signer? (c : Call) : Option (Json × Sign) :=
  match c.wallet, c.order.address.isVacant with
  | some sign, false => some (c.order.address, sign)
  | _, _ => c.key.map fun k => (.text k.address, fun message => .signed (k.sign message).text)

/-- What must agree for a signature to be used again. -/
structure Scope where
  domain : String
  address : String
  uri : String
  chainId : Int
  statement : Option String
  resources : List String
  deriving DecidableEq, Repr

/-- The scope of a statement. -/
def scopeOf (p : Statement.Parsed) : Scope :=
  ⟨p.domain, p.address, p.uri, p.chainId, p.statement, p.resources⟩

/-- The signed statement of an entry, if the entry has the scope of a new message. -/
def reuse? (e : Entry) (message : String) : Option Signed :=
  match Statement.parse e.message, Statement.parse message with
  | .ok old, .ok new =>
    if scopeOf old = scopeOf new then some ⟨e.identity, e.message, e.signature, old.nonce⟩
    else none
  | _, _ => none

/-- The signed statement that a cache holds for a new message, and the cache after that: an entry of
another scope is dropped. -/
def fromCache (c : Cache) (now : Reading) (address : String) (action : Option String)
    (message : String) : Option Signed × Cache :=
  match c.get now address action with
  | (none, c) => (none, c)
  | (some e, c) =>
    match reuse? e message with
    | some signed => (some signed, c)
    | none => (none, c.invalidate address action)

/-- Have a new statement signed.  The cache takes the signature, as of the time when it is there, or
loses its entry if the signer refuses. -/
def signAfresh (cache : Option Cache) (later : Reading) (choices : Choices) (sign : Sign)
    (address : String) (action : Option String) (built : Statement.Built) : Run :=
  match sign built.message with
  | .signed signature =>
    ⟨.ok ⟨address, built.message, signature, built.nonce⟩,
      cache.map (·.put ⟨address, action, signature, built.message, later⟩), choices,
      [built.message]⟩
  | .refused reason =>
    ⟨.error (.refused reason), cache.map (·.invalidate address action), choices, [built.message]⟩
  | .abandoned => ⟨.error .abandoned, cache, choices, [built.message]⟩

/-- Sign a statement, or take it from the cache. -/
def signBuilt (cache : Option Cache) (now later : Reading) (choices : Choices) (sign : Sign)
    (address : String) (action : Option String) (built : Statement.Built) : Run :=
  match cache with
  | none => signAfresh none later choices sign address action built
  | some c =>
    match fromCache c now address action built.message with
    | (some signed, c) => ⟨.ok signed, some c, choices, []⟩
    | (none, c) => signAfresh (some c) later choices sign address action built

/-- Build a statement and have it signed.  `time` is the time of day for the statement, `now` and
`later` are what the clock of the cache shows before and after the signer is asked. -/
def generate (settings : Settings) (time : Calendar.Stamp) (now later : Reading)
    (cache : Option Cache) (choices : Choices) (c : Call) : Run :=
  match signer? c with
  | none => ⟨.error .noSigner, cache, choices, []⟩
  | some (address, sign) =>
    match Statement.build settings time choices { c.order with address := address } with
    | (.error fault, choices) => ⟨.error (.build fault), cache, choices, []⟩
    | (.ok built, choices) =>
      signBuilt cache now later choices sign (address.text?.getD "") c.action built

end Eligibility.Signing

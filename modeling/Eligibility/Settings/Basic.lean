import Eligibility.Field
import Eligibility.Text.Case
import Eligibility.Uri.Location
set_option autoImplicit false

/-!
# Settings

The configuration of an application.  Every setting has a default, which fits a
local development setup, and the given ones are checked all at once.
-/

namespace Eligibility

/-- The configuration of an application. -/
structure Settings where
  appUrl : String := "http://localhost:3000"
  chainId : Int := 8453
  statement : String := "Claim airdrop with X Blue Checkmark"
  statementTtlHours : Binary64 := Binary64.ofInt 6
  cacheTtlSeconds : Binary64 := Binary64.ofInt 300
  authorityUrl : String := "https://verify.base.dev/v1"
  publisherKey : Option String := none
  authorityTimeout : Binary64 := Binary64.ofInt 30
  allowedOrigins : List String := ["http://localhost:3000", "http://localhost:8000"]
  trustedHosts : List String := ["localhost", "127.0.0.1", "testserver"]
  logLevel : String := "INFO"
  deriving DecidableEq, Repr

namespace Settings

open Eligibility.Field (Problem Checked)

/-- The host of the application, which is the domain of its statements. -/
def domain (s : Settings) : String :=
  match Uri.Location.read? s.appUrl with
  | some l => if l.host = "" then "localhost" else l.host
  | none => "localhost"

/-- The location of a web page, without slashes at its end. -/
def readUrl (j : Json) : Except Problem String := do
  let s ← (Field.text j).bind (Field.require Uri.Location.isWeb .refused)
  return Text.dropTrailing '/' s

/-- A text of one line. -/
def readLine (j : Json) : Except Problem String :=
  (Field.text j).bind (Field.require (fun s => !s.toList.contains '\n') .refused)

/-- A whole number above zero. -/
def readPositiveWhole (j : Json) : Except Problem Int :=
  (Field.whole j).bind (Field.require (fun n => 0 < n) .tooSmall)

/-- A number above zero. -/
def readPositive (j : Json) : Except Problem Binary64 :=
  (Field.real j).bind (Field.require Binary64.isPositive .tooSmall)

/-- The field of a name, or the default if the name is not given. -/
def field {α : Type} (given : String → Option Json) (name : String)
    (read : Json → Except Problem α) (default : α) : Checked α :=
  match given name with
  | some j => Checked.located name (read j)
  | none => .ok default

/-- The list of a name, or the default if the name is not given. -/
def listField (given : String → Option Json) (name : String) (default : List String) :
    Checked (List String) :=
  match given name with
  | some j => Field.list name Field.text j
  | none => .ok default

/-- The settings of the fields that are given; other names are passed over. -/
def ofFields (given : String → Option Json) : Checked Settings :=
  let d : Settings := {}
  Checked.start Settings.mk
    |> Checked.also (field given "app_url" readUrl d.appUrl)
    |> Checked.also (field given "chain_id" readPositiveWhole d.chainId)
    |> Checked.also (field given "statement" readLine d.statement)
    |> Checked.also (field given "statement_ttl_hours" readPositive d.statementTtlHours)
    |> Checked.also (field given "signature_cache_ttl_seconds" readPositive d.cacheTtlSeconds)
    |> Checked.also (field given "authority_url" readUrl d.authorityUrl)
    |> Checked.also (field given "publisher_key" (Field.optional Field.text) d.publisherKey)
    |> Checked.also (field given "authority_timeout" readPositive d.authorityTimeout)
    |> Checked.also (listField given "allowed_origins" d.allowedOrigins)
    |> Checked.also (listField given "trusted_hosts" d.trustedHosts)
    |> Checked.also (field given "log_level" (fun j => (Field.text j).map Text.upper) d.logLevel)

/-- The wording of settings that are refused. -/
def faultMessage : String := "Invalid configuration"

/-- The settings of an object. -/
def ofJson (j : Json) : Checked Settings := ofFields j.get?

end Settings

end Eligibility

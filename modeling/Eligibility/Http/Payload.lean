import Eligibility.Http.Message
import Eligibility.Json.Reader
import Eligibility.Text.Split
set_option autoImplicit false

/-!
# HTTP: payloads

The body of a request is read as JSON if its media type says that it is JSON.
It must then be an object with the fields of the request, which are checked one
by one.
-/

namespace Eligibility.Http

open Eligibility.Field (Problem Checked)

/-- Why a body is no payload. -/
inductive PayloadFault where
  | fields (faults : List Field.Fault)
  /-- The body is JSON that cannot be read. -/
  | unreadable
  deriving Repr

/-- The wording of a body that cannot be read. -/
def unreadableMessage : String := "There was an error parsing the body"

/-- Whether a media type is one of JSON. -/
def isJsonType (mediaType : String) : Bool :=
  let name := (Text.trim (Text.cutAt ';' mediaType).1).map Char.toLower
  match Text.pieces '/' name with
  | [kind, sort] =>
    kind == "application" && (sort == "json" || "+json".toList.isSuffixOf sort.toList)
  | _ => false

/-- The text of a body without the mark of its byte order. -/
def withoutMark (body : String) : String :=
  match body.toList with
  | c :: rest => if c.toNat = 0xFEFF then String.ofList rest else body
  | [] => body

/-- Refuse a body for one problem. -/
def refuseBody {α : Type} (location : String) (problem : Problem) : Except PayloadFault α :=
  .error (.fields [⟨location, problem⟩])

/-- The object that a body holds. -/
def objectOf (r : Request) : Except PayloadFault Json :=
  if r.body.isEmpty then refuseBody "body" .missing
  else if !((r.header? "content-type").any isJsonType) then refuseBody "body" .notRecord
  else if r.isTooDeep then .error .unreadable
  else match Json.read (withoutMark r.body) with
  | .error (.notJson position) => refuseBody ("body." ++ toString position) .notJson
  | .error .tooManyDigits => .error .unreadable
  | .ok (.object members) => .ok (.object members)
  | .ok _ => refuseBody "body" .notRecord

/-- The payload of a request. -/
def payload {α : Type} (check : Json → Checked α) (r : Request) : Except PayloadFault α := do
  let j ← objectOf r
  (check j).mapError .fields

/-- A text that is not empty. -/
def filledText (j : Json) : Except Problem String :=
  (Field.text j).bind (Field.require (fun s => !s.isEmpty) .tooShort)

/-- A field that must be there. -/
def required {α : Type} (name : String) (read : Json → Except Problem α) (j : Json) : Checked α :=
  Checked.located ("body." ++ name) <|
    match j.get? name with
    | some value => read value
    | none => .error .missing

/-- What a request for a statement says. -/
structure StatementPayload where
  address : String
  verification : Option String
  deriving DecidableEq, Repr

/-- The payload of a request for a statement. -/
def StatementPayload.check (j : Json) : Checked StatementPayload :=
  Checked.start StatementPayload.mk
    |> Checked.also (required "address" filledText j)
    |> Checked.also (Checked.located "body.verification_id"
        (Field.optional Field.text (j.get "verification_id")))

/-- What a request for a verification says. -/
structure VerifyPayload where
  message : String
  signature : String
  deriving DecidableEq, Repr

/-- The payload of a request for a verification. -/
def VerifyPayload.check (j : Json) : Checked VerifyPayload :=
  Checked.start VerifyPayload.mk
    |> Checked.also (required "message" filledText j)
    |> Checked.also (required "signature" filledText j)

end Eligibility.Http

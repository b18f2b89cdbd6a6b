import Eligibility.Json.Basic
set_option autoImplicit false

/-!
# The verification authority: its answers

The authority confirms that an account is owned and has the traits that a
statement names.  Three of its answers have an outcome that a host application
tells apart; any other answer, and none at all, is a fault.  There is one exception:
an answer whose body cannot be read at all ends a submission without a fault of the
authority being told.

How much room there is for nested JSON, and what an answer is encoded in, is known
only where answers come in, so an answer says of itself whether it was readable and
whether it can be written again.
-/

namespace Eligibility.Authority

/-- What the authority found. -/
inductive Outcome where
  | verified
  | notVerified
  /-- The account is verified and its traits miss the requirements. -/
  | requirementsUnmet
  deriving DecidableEq, Repr

/-- The word of an outcome. -/
def Outcome.word : Outcome → String
  | .verified => "verified"
  | .notVerified => "not_verified"
  | .requirementsUnmet => "requirements_unmet"

/-- The message of an answer that tells that the traits miss the requirements. -/
def unmetMessage : String := "verification_traits_not_satisfied"

/-- The outcome of a status and the members of a body. -/
def classify (status : Int) (body : Mapping Json) : Option Outcome :=
  if status = 200 then some .verified
  else if status = 404 then some .notVerified
  else if status = 400 && (body.get? "message").bind Json.text? == some unmetMessage then
    some .requirementsUnmet
  else none

/-- Why the body of an answer cannot be read. -/
inductive Unreadable where
  /-- Its bytes are no text in the encoding that the answer has. -/
  | undecodable
  /-- It is JSON that is nested deeper than there is room to read. -/
  | tooDeep
  deriving DecidableEq, Repr

/-- What comes back for a request. -/
inductive Answer where
  /-- A body of JSON.  It cannot be written again if it is nested deeper than there is room to
  write, or if a text of it holds half of a surrogate pair, which here is U+FFFD. -/
  | json (status : Int) (body : Json) (rewritable : Bool)
  /-- A body that is no JSON, or holds a whole number with more digits than are read. -/
  | text (status : Int) (body : String)
  | unreadable (status : Int) (why : Unreadable)
  /-- Nothing, for a reason. -/
  | unreachable (reason : String)
  deriving Repr

/-- The members of a body; one that is no object becomes the member `data`. -/
def membersOf : Json → Mapping Json
  | .object members => members
  | j => [("data", j)]

/-- An answer with an outcome. -/
structure Response where
  outcome : Outcome
  status : Int
  body : Mapping Json
  /-- Whether there is a text of the body in JSON, as far as its nesting and its texts go. -/
  rewritable : Bool
  deriving Repr

namespace Response

/-- The token that an answer brings. -/
def token (r : Response) : Json := (r.body.get? "token").getD .null

/-- The answer as JSON. -/
def toJson (r : Response) : Json :=
  .object [("outcome", .text r.outcome.word), ("status", .whole r.status),
    ("body", .object r.body)]

end Response

/-- What is told of the authority when there is no response. -/
inductive Fault where
  | unreachable (reason : String)
  /-- An answer without an outcome. -/
  | unexpected (status : Int) (body : Mapping Json)
  deriving Repr

namespace Fault

/-- The wording of a fault. -/
def message : Fault → String
  | unreachable reason => "Verification authority unreachable: " ++ reason
  | unexpected status _ =>
    "Unexpected response from verification authority: HTTP " ++ toString status

/-- The status that came with a fault. -/
def status? : Fault → Option Int
  | unreachable _ => none
  | unexpected status _ => some status

/-- What came with a fault, as named values. -/
def details : Fault → Mapping Json
  | unreachable _ => []
  | unexpected _ body => body

end Fault

/-- Why a submission has no response. -/
inductive Failure where
  | fault (fault : Fault)
  /-- The answer could not be read, which is told as no fault of the authority. -/
  | unreadable (why : Unreadable)
  deriving Repr

/-- The response of a status and a body. -/
def respond (status : Int) (body : Mapping Json) (rewritable : Bool) : Except Failure Response :=
  match classify status body with
  | some outcome => .ok ⟨outcome, status, body, rewritable⟩
  | none => .error (.fault (.unexpected status body))

/-- The response of an answer. -/
def Answer.read : Answer → Except Failure Response
  | .json status body rewritable => respond status (membersOf body) rewritable
  | .text status body => respond status [("raw", .text body)] true
  | .unreadable _ why => .error (.unreadable why)
  | .unreachable reason => .error (.fault (.unreachable reason))

theorem classify_eq_verified {status : Int} {body : Mapping Json} :
    classify status body = some .verified ↔ status = 200 := by
  unfold classify
  split
  · simp [*]
  · split
    · simp [*]
    · split <;> simp [*]

theorem classify_eq_notVerified {status : Int} {body : Mapping Json} :
    classify status body = some .notVerified ↔ status = 404 := by
  unfold classify
  split
  · next h => subst h; decide
  · split
    · simp [*]
    · split <;> simp [*]

theorem classify_eq_requirementsUnmet {status : Int} {body : Mapping Json} :
    classify status body = some .requirementsUnmet ↔
      status = 400 ∧ (body.get? "message").bind Json.text? = some unmetMessage := by
  unfold classify
  split
  · next h => subst h; simp
  · split
    · next h => subst h; simp
    · split <;> simp_all

end Eligibility.Authority

import Eligibility.Decimal.Notation
import Eligibility.Json.Basic
import Eligibility.Uri.Web
set_option autoImplicit false

/-!
# Fields: checking what comes from outside

A record that comes from outside is checked field by field, and every field
that fails is reported, in the order of the record.  Checks are lenient where a
value has one sensible reading: a whole number may be written as text or as a
number without a fraction.  `Checked.apply` is the rule of combination: faults of
both sides are kept.
-/

namespace Eligibility.Field

/-- What is wrong with a field. -/
inductive Problem where
  | missing
  | notText
  | tooShort
  | otherForm
  /-- A text that a rule of its own refuses. -/
  | refused
  | notAddressType
  | notAddress
  | notWholeType
  | notWhole
  | tooManyDigits
  | hasFraction
  | notFinite
  | tooSmall
  | negative
  | notRealType
  | notReal
  | notList
  | notRecord
  | notJson
  deriving DecidableEq, Repr

/-- The word of a problem. -/
def Problem.word : Problem → String
  | .missing => "missing"
  | .notText => "string_type"
  | .tooShort => "string_too_short"
  | .otherForm => "string_pattern_mismatch"
  | .refused => "value_error"
  | .notAddressType => "url_type"
  | .notAddress => "url_parsing"
  | .notWholeType => "int_type"
  | .notWhole => "int_parsing"
  | .tooManyDigits => "int_parsing_size"
  | .hasFraction => "int_from_float"
  | .notFinite => "finite_number"
  | .tooSmall => "greater_than"
  | .negative => "greater_than_equal"
  | .notRealType => "float_type"
  | .notReal => "float_parsing"
  | .notList => "list_type"
  | .notRecord => "model_attributes_type"
  | .notJson => "json_invalid"

/-- A field that fails. -/
structure Fault where
  /-- The name of the field, with the place of an item behind a dot. -/
  location : String
  problem : Problem
  deriving DecidableEq, Repr

/-- A fault as a pair of its location and its word. -/
def Fault.toJson (f : Fault) : Json := .array [.text f.location, .text f.problem.word]

/-- A checked value, or every fault of it. -/
abbrev Checked (α : Type) : Type := Except (List Fault) α

namespace Checked

variable {α β : Type}

/-- The faults of a value. -/
def faults : Checked α → List Fault
  | .ok _ => []
  | .error fs => fs

/-- A function on a value, with the faults of both. -/
def apply (f : Checked (α → β)) (a : Checked α) : Checked β :=
  match f, a with
  | .ok f, .ok a => .ok (f a)
  | f, a => .error (f.faults ++ a.faults)

/-- A function whose arguments are still to be checked. -/
def start (f : α) : Checked α := .ok f

/-- One more argument of a function. -/
def also (a : Checked α) (f : Checked (α → β)) : Checked β := f.apply a

/-- The values of a list, with the faults of all. -/
def all : List (Checked α) → Checked (List α)
  | [] => .ok []
  | a :: rest => apply (apply (.ok List.cons) a) (all rest)

/-- A value with the problem of it, as a field. -/
def located (location : String) : Except Problem α → Checked α
  | .ok a => .ok a
  | .error p => .error [⟨location, p⟩]

theorem apply_eq_ok {f : Checked (α → β)} {a : Checked α} {b : β} :
    f.apply a = .ok b ↔ ∃ g x, f = .ok g ∧ a = .ok x ∧ g x = b := by
  cases f <;> cases a <;> simp [apply]

end Checked

/-! ## Reading one value -/

/-- A text. -/
def text : Json → Except Problem String
  | .text s => .ok s
  | _ => .error .notText

/-- A whole number: as such, as a truth value, without a fraction, or as text. -/
def whole : Json → Except Problem Int
  | .whole n => .ok n
  | .boolean b => .ok (if b then 1 else 0)
  | .real (.finite negative m e _) =>
    let (n, fraction, _) := Binary64.split m e
    if fraction ≠ 0 then .error .hasFraction
    else if twoPow 63 ≤ n then .error .tooManyDigits
    else .ok (if negative then -n else n)
  | .real _ => .error .notFinite
  | .text s =>
    match Decimal.readWhole? s with
    | .ok n => .ok n
    | .error .notWhole => .error .notWhole
    | .error .tooLong => .error .tooManyDigits
  | _ => .error .notWholeType

/-- A number of the format binary64: as such, as a whole number or a truth value, or as text. -/
def real : Json → Except Problem Binary64
  | .real x => .ok x
  | .whole n => .ok (Binary64.ofInt n)
  | .boolean b => .ok (Binary64.ofInt (if b then 1 else 0))
  | .text s =>
    match Decimal.readReal? s with
    | some x => .ok x
    | none => .error .notReal
  | _ => .error .notRealType

/-- A web address. -/
def address [Uri.Idna] : Json → Except Problem String
  | .text s => if Uri.isWebAddress s then .ok s else .error .notAddress
  | _ => .error .notAddressType

/-- A value that satisfies a condition, or the problem of one that does not. -/
def require {α : Type} (p : α → Bool) (problem : Problem) (a : α) : Except Problem α :=
  if p a then .ok a else .error problem

/-- A value that may be null. -/
def optional {α : Type} (read : Json → Except Problem α) : Json → Except Problem (Option α)
  | .null => .ok none
  | j => (read j).map some

/-- The items of a list, each read by itself. -/
def items {α : Type} (location : String) (read : Json → Except Problem α) (js : List Json) :
    Checked (List α) :=
  Checked.all (js.mapIdx fun i j => Checked.located (location ++ "." ++ toString i) (read j))

/-- A list of values. -/
def list {α : Type} (location : String) (read : Json → Except Problem α) :
    Json → Checked (List α)
  | .array js => items location read js
  | _ => .error [⟨location, .notList⟩]

end Eligibility.Field

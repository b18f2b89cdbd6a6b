import Eligibility.Decimal.Binary64
import Eligibility.Mapping
set_option autoImplicit false

/-!
# JSON values

A JSON value as programs exchange it: a number without a fraction or exponent is
a whole number of any size, any other a number of the format binary64, and the
members of an object keep their order.  Values that reach this library from
outside, before anything about them is known, are JSON values.
-/

namespace Eligibility

/-- A JSON value. -/
inductive Json where
  | null
  | boolean (b : Bool)
  | whole (n : Int)
  | real (x : Binary64)
  | text (s : String)
  | array (items : List Json)
  | object (members : List (String × Json))
  deriving Repr, Inhabited

namespace Json

/-- The text, if the value is one. -/
def text? : Json → Option String
  | .text s => some s
  | _ => none

/-- Whether the value is an object. -/
def isObject : Json → Bool
  | .object _ => true
  | _ => false

/-- The value of a member, if the value is an object that has it. -/
def get? (key : String) : Json → Option Json
  | .object members => Mapping.get? key members
  | _ => none

/-- The value of a member, null if it is missing. -/
def get (j : Json) (key : String) : Json := (j.get? key).getD .null

/-- The items, if the value is an array. -/
def items? : Json → Option (List Json)
  | .array items => some items
  | _ => none

/-- Whether the value stands for an omission: null, false, zero, or something empty. -/
def isVacant : Json → Bool
  | .null => true
  | .boolean b => !b
  | .whole n => n == 0
  | .real (.finite _ m _ _) => m == 0
  | .real _ => false
  | .text s => s.isEmpty
  | .array items => items.isEmpty
  | .object members => members.isEmpty

mutual

/-- Whether every number in the value is finite; others have no standard JSON text. -/
def isFinite : Json → Bool
  | .real (.finite ..) => true
  | .real _ => false
  | .array items => itemsFinite items
  | .object members => membersFinite members
  | _ => true

/-- Whether every number in the items is finite. -/
def itemsFinite : List Json → Bool
  | [] => true
  | item :: items => item.isFinite && itemsFinite items

/-- Whether every number in the values of the members is finite. -/
def membersFinite : List (String × Json) → Bool
  | [] => true
  | (_, value) :: members => value.isFinite && membersFinite members

end

/-- A text, or null for none. -/
def ofText? : Option String → Json
  | some s => .text s
  | none => .null

/-- An array of texts. -/
def texts (ss : List String) : Json := .array (ss.map .text)

theorem text?_eq_some {j : Json} {s : String} : j.text? = some s ↔ j = .text s := by
  cases j <;> simp [text?]

end Json

end Eligibility

import Eligibility.Trait.Requirement
set_option autoImplicit false

/-!
# Traits: strictness

One requirement is at least as strict as another if an account that meets it
meets the other one too.  Bounds are compared as intervals of whole numbers and
choices by inclusion; equality is met by equality alone.
-/

namespace Eligibility.Trait

/-- An interval of whole numbers; a side without a number is open to infinity. -/
structure Bounds where
  low : Option Int
  high : Option Int
  deriving DecidableEq, Repr

namespace Bounds

/-- Whether a number lies in the interval. -/
def Mem (b : Bounds) (n : Int) : Prop :=
  (∀ l ∈ b.low, l ≤ n) ∧ (∀ h ∈ b.high, n ≤ h)

/-- The numbers that meet a bound. -/
def of (operator : Operator) (n : Int) : Bounds :=
  match operator with
  | .gt => ⟨some (n + 1), none⟩
  | .gte => ⟨some n, none⟩
  | .lt => ⟨none, some (n - 1)⟩
  | .lte => ⟨none, some n⟩
  | _ => ⟨some n, some n⟩

/-- Whether the lower side of the interval is not below that of another one. -/
def lowWithin (inner outer : Bounds) : Bool :=
  match outer.low, inner.low with
  | none, _ => true
  | some _, none => false
  | some l, some m => l ≤ m

/-- Whether the upper side of the interval is not above that of another one. -/
def highWithin (inner outer : Bounds) : Bool :=
  match outer.high, inner.high with
  | none, _ => true
  | some _, none => false
  | some h, some m => m ≤ h

/-- Whether the interval lies in another one, side by side. -/
def within (inner outer : Bounds) : Bool := lowWithin inner outer && highWithin inner outer

end Bounds

namespace Requirement

/-- The interval of a requirement on a whole number. -/
def bounds? (r : Requirement) : Option Bounds :=
  match r.value with
  | .integer n => if r.operator = .oneOf then none else some (Bounds.of r.operator n)
  | _ => none

/-- Whether a bound is met by whatever meets `found`. -/
def boundMetBy (expected found : Requirement) : Bool :=
  match expected.bounds?, found.bounds? with
  | some outer, some inner => inner.within outer
  | _, _ => false

/-- Whether a choice is met by whatever meets `found`.  An equal value counts by its text. -/
def choiceMetBy (expected found : Requirement) : Bool :=
  match expected.value, found.operator, found.value with
  | .choice allowed, .oneOf, .choice items => items.isWithin allowed
  | .choice allowed, .eq, _ => allowed.contains found.text
  | _, _, _ => false

/-- Whether whatever meets `found` meets `expected`, for requirements that are well typed. -/
def atLeastAsStrict (found expected : Requirement) : Bool :=
  match expected.operator with
  | .eq => found.operator == .eq && found.value == expected.value
  | .oneOf => expected.choiceMetBy found
  | _ => expected.boundMetBy found

end Requirement

end Eligibility.Trait

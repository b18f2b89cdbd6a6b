import Eligibility.Decimal.Notation
import Eligibility.Trait.Basic
set_option autoImplicit false

/-!
# Traits: reading a value

What a text means depends on the operator in front of it.  After `in` it is a
choice, its texts separated by commas; after any other operator it is a truth
value, a whole number in ASCII digits with an optional minus sign, or itself.
-/

namespace Eligibility.Trait

/-- The texts of a choice: cut at commas, blanks off both ends, empty ones dropped. -/
def choiceItems (s : String) : List String := Text.itemsBetween ',' s

/-- The sign and the digits of a whole number, if the characters are one. -/
def wholeDigits? (cs : List Char) : Option (Bool × List Char) :=
  let (negative, digits) := match cs with
    | '-' :: rest => (true, rest)
    | rest => (false, rest)
  if !digits.isEmpty && digits.all Char.isDigit then some (negative, digits) else none

/-- The whole number of a sign and digits. -/
def wholeValue (negative : Bool) (digits : List Char) : Int :=
  let n : Int := Decimal.digitsValue digits
  if negative then -n else n

/-- The value of a text after an operator that takes one value. -/
def readSingle (s : String) : Except Fault Value :=
  if s = "true" then .ok (.boolean true)
  else if s = "false" then .ok (.boolean false)
  else match wholeDigits? s.toList with
    | some (negative, digits) =>
      if Decimal.maxDigits < digits.length then .error (.tooManyDigits digits.length)
      else .ok (.integer (wholeValue negative digits))
    | none => .ok (.text s)

/-- The value of a text after an operator. -/
def Value.read (operator : Operator) (s : String) : Except Fault Value :=
  match operator with
  | .oneOf =>
    let items := choiceItems s
    if items.isEmpty then .error (.emptyChoice s) else .ok (.choice (Choice.ofList items))
  | _ => readSingle s

theorem Value.read_oneOf {s : String} {v : Value} (h : Value.read .oneOf s = .ok v) :
    choiceItems s ≠ [] ∧ v = .choice (Choice.ofList (choiceItems s)) := by
  simp only [Value.read] at h
  split at h
  · simp at h
  · next hne =>
    simp only [Except.ok.injEq] at h
    exact ⟨by simpa using hne, h.symm⟩

theorem Value.read_of_ne_oneOf {operator : Operator} (s : String) (h : operator ≠ .oneOf) :
    Value.read operator s = readSingle s := by
  cases operator <;> first | rfl | exact absurd rfl h

/-- A value is a choice exactly after the operator of choices. -/
theorem Value.kind_eq_choice_iff {operator : Operator} {s : String} {v : Value}
    (h : Value.read operator s = .ok v) : v.kind = .choice ↔ operator = .oneOf := by
  by_cases ho : operator = .oneOf
  · subst ho
    obtain ⟨-, rfl⟩ := Value.read_oneOf h
    simp [Value.kind]
  · rw [Value.read_of_ne_oneOf s ho] at h
    simp only [ho, iff_false]
    simp only [readSingle] at h
    repeat' split at h
    all_goals first
      | (simp only [Except.ok.injEq] at h; subst h; simp [Value.kind])
      | simp at h

end Eligibility.Trait

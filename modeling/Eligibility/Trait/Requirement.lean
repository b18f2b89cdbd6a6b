import Eligibility.Trait.Value
import Eligibility.Uri.Characters
set_option autoImplicit false

/-!
# Traits: requirements

A requirement is a name, an operator and a text with the value that the text
has after the operator.  Only the text is ever written; the value is what is
compared.  A caller writes a requirement as a raw value, where a known operator
and a colon may stand in front of the text; without them it means equality.

Raw values are texts, truth values, numbers and nothing at all; a caller who has a
member of an enumeration passes its word.  A whole number of more than 4300 digits is
never written, as it is never read.
-/

namespace Eligibility.Trait

/-- A typed requirement on one trait. -/
structure Requirement where
  name : String
  operator : Operator
  /-- The value as it was written. -/
  text : String
  value : Value
  reads : Value.read operator text = .ok value
  deriving DecidableEq, Repr

/-- A value as a caller gives it. -/
inductive Raw where
  | text (s : String)
  | flag (b : Bool)
  | whole (n : Int)
  | real (x : Binary64)
  | absent
  deriving DecidableEq, Repr, Inhabited

namespace Raw

/-- The text of a raw value, whatever its length. -/
def written : Raw → String
  | text s => s
  | flag true => "true"
  | flag false => "false"
  | whole n => toString n
  | real x => Decimal.write x
  | absent => "None"

/-- Whether a raw value is a whole number with more digits than are written. -/
def isLong : Raw → Bool
  | whole n => Decimal.maxDigits < (Nat.toDigits 10 n.natAbs).length
  | _ => false

/-- The text of a raw value, unless it is a number with more digits than are written. -/
def render (raw : Raw) : Except Fault String :=
  if raw.isLong then .error .longNumber else .ok raw.written

theorem render_eq_ok {raw : Raw} {s : String} :
    raw.render = .ok s ↔ raw.isLong = false ∧ raw.written = s := by
  unfold render
  cases raw.isLong <;> simp

theorem render_eq_error {raw : Raw} {fault : Fault} :
    raw.render = .error fault ↔ raw.isLong = true ∧ fault = .longNumber := by
  unfold render
  cases raw.isLong <;> simp [eq_comm]

@[simp] theorem render_text (s : String) : (text s).render = .ok s := rfl

end Raw

/-- The operator and the text of a comparison.  The text after a known operator must not be empty
and must not hold a line break; everything else is compared for equality as it stands. -/
def comparison (s : String) : Operator × String :=
  match Text.cutAt ':' s with
  | (word, some text) =>
    match Operator.ofText? word with
    | some operator =>
      if text.isEmpty || text.toList.contains '\n' then (.eq, s) else (operator, text)
    | none => (.eq, s)
  | (_, none) => (.eq, s)

namespace Requirement

/-- The requirement of a name, an operator and a text. -/
def read (name : String) (operator : Operator) (text : String) : Except Fault Requirement :=
  match h : Value.read operator text with
  | .ok value => .ok ⟨name, operator, text, value, h⟩
  | .error fault => .error fault

/-- The requirement that a caller's raw value stands for. -/
def parse (name : String) (raw : Raw) : Except Fault Requirement := do
  let (operator, text) := comparison (← raw.render)
  read name operator text

/-- The operator and the text, in one text. -/
def raw (r : Requirement) : String := r.operator.text ++ ":" ++ r.text

/-- The requirement in one text. -/
def encode (r : Requirement) : String := r.name ++ ":" ++ r.raw

/-- Whether the operator fits the kind of the value: equality takes a single value, a bound a whole
number, and a choice texts. -/
def isWellTyped (r : Requirement) : Bool :=
  match r.operator with
  | .eq => r.value.kind != .choice
  | .oneOf => r.value.kind == .text || r.value.kind == .choice
  | _ => r.value.kind == .integer

/-- The requirement itself, unless its operator does not fit its value. -/
def ensureWellTyped (r : Requirement) : Except Fault Requirement :=
  if r.isWellTyped then .ok r
  else .error (.unsupportedOperator r.operator r.value.kind r.name r.raw)

theorem read_eq_ok {name : String} {operator : Operator} {text : String} {r : Requirement} :
    read name operator text = .ok r ↔
      r.name = name ∧ r.operator = operator ∧ r.text = text := by
  obtain ⟨n, o, t, v, hr⟩ := r
  unfold read
  split
  · next value h =>
    simp only [Except.ok.injEq, mk.injEq]
    constructor
    · rintro ⟨rfl, rfl, rfl, -⟩; exact ⟨rfl, rfl, rfl⟩
    · rintro ⟨rfl, rfl, rfl⟩
      exact ⟨rfl, rfl, rfl, Except.ok.inj (h.symm.trans hr)⟩
  · next fault h =>
    simp only [reduceCtorEq, false_iff]
    rintro ⟨-, rfl, rfl⟩
    simp [h] at hr

theorem read_eq_error {name : String} {operator : Operator} {text : String} {fault : Fault} :
    read name operator text = .error fault ↔ Value.read operator text = .error fault := by
  unfold read
  split
  · next value h => simp [h]
  · next fault' h => simp [h]

end Requirement

/-! ## Writing -/

/-- A part of a resource: a text that is not empty and holds only what a URI can hold. -/
def uriText (label : String) (given : Json) : Except Fault String :=
  match given with
  | .text s =>
    if s.isEmpty then .error (.notText label given)
    else if Uri.isPathText s then .ok s
    else .error (.notUriText label s)
  | _ => .error (.notText label given)

/-- A part of a resource that holds no colon. -/
def token (label : String) (given : Json) : Except Fault String := do
  let s ← uriText label given
  if s.toList.contains ':' then .error (.notToken label s) else return s

/-- A trait as one text, its name, operator and value separated by colons. -/
def encode (name : Json) (raw : Raw) : Except Fault String := do
  let name ← token "trait name" name
  let (operator, text) := comparison (← raw.render)
  let text ← uriText "trait value" (.text text)
  return name ++ ":" ++ operator.text ++ ":" ++ text

end Eligibility.Trait

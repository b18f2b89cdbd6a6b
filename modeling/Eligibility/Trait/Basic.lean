import Eligibility.Json.Basic
import Eligibility.Text.Quoted
set_option autoImplicit false

/-!
# Traits: operators, values and faults

A trait requirement compares a named property of an account with a value.  The
value is typed: a truth value, a whole number, a text, or a choice of texts.  A
choice is a set, kept as the strictly increasing list of its texts, so that two
choices are equal exactly when they hold the same texts.
-/

namespace Eligibility.Trait

/-- How a requirement compares. -/
inductive Operator where
  | eq
  | gt
  | gte
  | lt
  | lte
  /-- The value is one of a choice. -/
  | oneOf
  deriving DecidableEq, Repr

namespace Operator

/-- The word of an operator. -/
def text : Operator → String
  | eq => "eq"
  | gt => "gt"
  | gte => "gte"
  | lt => "lt"
  | lte => "lte"
  | oneOf => "in"

/-- Every operator. -/
def all : List Operator := [eq, gt, gte, lt, lte, oneOf]

/-- The operator of a word. -/
def ofText? (s : String) : Option Operator := all.find? (·.text == s)

/-- Whether the operator bounds a number. -/
def isBound : Operator → Bool
  | gt | gte | lt | lte => true
  | eq | oneOf => false

theorem ofText?_text (op : Operator) : ofText? op.text = some op := by
  cases op <;> decide

theorem text_of_ofText? {s : String} {op : Operator} (h : ofText? s = some op) : op.text = s := by
  have := List.find?_some h
  simpa using this

end Operator

/-! ## Choices -/

/-- The list with `s` put in its place, unless it is there already. -/
def insertText (s : String) : List String → List String
  | [] => [s]
  | t :: rest =>
    if s < t then s :: t :: rest
    else if s = t then t :: rest
    else t :: insertText s rest

/-- The texts in increasing order, each once. -/
def increasing (ss : List String) : List String := ss.foldr insertText []

theorem mem_insertText {s t : String} {ts : List String} :
    t ∈ insertText s ts ↔ t = s ∨ t ∈ ts := by
  induction ts with
  | nil => simp [insertText]
  | cons u rest ih =>
    unfold insertText
    split
    · simp
    · split
      · next h => subst h; simp
      · simp only [List.mem_cons, ih]
        constructor
        · rintro (h | h | h) <;> simp [h]
        · rintro (h | h | h) <;> simp [h]

theorem mem_increasing {t : String} {ss : List String} : t ∈ increasing ss ↔ t ∈ ss := by
  induction ss with
  | nil => simp [increasing]
  | cons s rest ih =>
    show t ∈ insertText s (increasing rest) ↔ _
    rw [mem_insertText, ih, List.mem_cons]

theorem pairwise_insertText {s : String} {ts : List String} (h : ts.Pairwise (· < ·)) :
    (insertText s ts).Pairwise (· < ·) := by
  induction ts with
  | nil => simp [insertText]
  | cons u rest ih =>
    rw [List.pairwise_cons] at h
    unfold insertText
    split
    · next hs =>
      refine List.pairwise_cons.mpr ⟨fun t ht => ?_, List.pairwise_cons.mpr h⟩
      rcases List.mem_cons.mp ht with rfl | ht
      · exact hs
      · exact String.lt_trans hs (h.1 t ht)
    · next hs =>
      split
      · exact List.pairwise_cons.mpr h
      · next hne =>
        refine List.pairwise_cons.mpr ⟨fun t ht => ?_, ih h.2⟩
        rcases mem_insertText.mp ht with rfl | ht
        · have hle : u ≤ t := String.not_lt.mp hs
          exact Decidable.byContradiction fun hn =>
            hne (String.le_antisymm (String.not_lt.mp hn) hle)
        · exact h.1 t ht

theorem pairwise_increasing (ss : List String) : (increasing ss).Pairwise (· < ·) := by
  induction ss with
  | nil => simp [increasing]
  | cons s rest ih => exact pairwise_insertText ih

/-- A set of texts. -/
structure Choice where
  /-- The texts in increasing order. -/
  items : List String
  ordered : items.Pairwise (· < ·)
  deriving DecidableEq, Repr

namespace Choice

/-- The set of the texts of a list. -/
def ofList (ss : List String) : Choice := ⟨increasing ss, pairwise_increasing ss⟩

/-- Whether the set holds a text. -/
def contains (c : Choice) (s : String) : Bool := c.items.contains s

/-- Whether every text of the set is in another one. -/
def isWithin (c d : Choice) : Bool := c.items.all d.contains

@[simp] theorem contains_ofList {ss : List String} {s : String} :
    (ofList ss).contains s = true ↔ s ∈ ss := by
  simp [contains, ofList, mem_increasing]

theorem isWithin_iff {c d : Choice} :
    c.isWithin d = true ↔ ∀ s, c.contains s = true → d.contains s = true := by
  simp [isWithin, contains]

end Choice

/-! ## Values -/

/-- The kind of a value. -/
inductive Kind where
  | boolean
  | integer
  | text
  | choice
  deriving DecidableEq, Repr

/-- The word of a kind. -/
def Kind.word : Kind → String
  | .boolean => "boolean"
  | .integer => "integer"
  | .text => "string"
  | .choice => "string_set"

/-- The typed value of a requirement. -/
inductive Value where
  | boolean (b : Bool)
  | integer (n : Int)
  | text (s : String)
  | choice (c : Choice)
  deriving DecidableEq, Repr

/-- The kind of a value. -/
def Value.kind : Value → Kind
  | .boolean _ => .boolean
  | .integer _ => .integer
  | .text _ => .text
  | .choice _ => .choice

/-! ## Faults -/

/-- Why a line with the scope of a provider is no trait of it. -/
inductive LineFault where
  | notThreeParts
  | emptyName
  | unknownOperator (word : String)
  | emptyValue
  | notUriText
  | emptyChoice
  deriving DecidableEq, Repr

/-- The wording of a fault in a line. -/
def LineFault.reason : LineFault → String
  | .notThreeParts => "expected name:operator:value"
  | .emptyName => "empty trait name"
  | .unknownOperator word => "unknown operator " ++ Text.quoted word
  | .emptyValue => "empty value"
  | .notUriText => "characters not allowed in a URI"
  | .emptyChoice => "'in' requires at least one value"

/-- Why a trait or a resource cannot be written or read. -/
inductive Fault where
  /-- A part that must be a text with at least one character is not. -/
  | notText (label : String) (given : Json)
  /-- A part holds a character that a URI cannot hold as it is. -/
  | notUriText (label text : String)
  /-- A part that must be one token holds a colon. -/
  | notToken (label text : String)
  /-- A choice without a value. -/
  | emptyChoice (text : String)
  /-- A trait line that does not follow the grammar. -/
  | malformedLine (line : String) (why : LineFault)
  /-- An operator that does not fit the kind of its value. -/
  | unsupportedOperator (operator : Operator) (kind : Kind) (name raw : String)
  /-- A word that is no operator. -/
  | unknownOperator (word : String)
  /-- A text of a whole number with more digits than are read. -/
  | tooManyDigits (count : Nat)
  /-- A whole number with more digits than are written. -/
  | longNumber
  deriving Repr

namespace Fault

/-- The wording of a fault. -/
def message : Fault → String
  | notText label _ => label ++ " must be a non-empty string"
  | notUriText label _ =>
    label ++ " contains characters not allowed in a URI (percent-encode them)"
  | notToken label _ => label ++ " must not contain ':'"
  | emptyChoice _ => "'in' requires at least one value"
  | malformedLine line why => "Malformed resource line " ++ Text.quoted line ++ ": " ++ why.reason
  | unsupportedOperator op kind name _ =>
    "Operator '" ++ op.text ++ "' is not supported for " ++ kind.word ++ " trait '" ++ name ++ "'"
  | unknownOperator word => Text.quoted word ++ " is not a valid Operator"
  | tooManyDigits count =>
    "Exceeds the limit (4300 digits) for integer string conversion: value has " ++
      toString count ++ " digits; use sys.set_int_max_str_digits() to increase the limit"
  | longNumber =>
    "Exceeds the limit (4300 digits) for integer string conversion; " ++
      "use sys.set_int_max_str_digits() to increase the limit"

/-- What a fault is about, as named values. -/
def details : Fault → List (String × Json)
  | notText label given => [(label, given)]
  | notUriText label text => [(label, .text text)]
  | notToken label text => [(label, .text text)]
  | emptyChoice text => [("value", .text text)]
  | malformedLine line why => [("line", .text line), ("reason", .text why.reason)]
  | unsupportedOperator _ _ name raw => [("trait", .text name), ("raw", .text raw)]
  | unknownOperator _ | tooManyDigits _ | longNumber => []

/-- Whether the fault is one of the grammar, which a reader of lines steps over. -/
def isGrammar : Fault → Bool
  | unknownOperator _ | tooManyDigits _ | longNumber => false
  | _ => true

end Fault

end Eligibility.Trait

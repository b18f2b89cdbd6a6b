import Eligibility.Proofs.Outcome
import Eligibility.Proofs.Uri.Grammar
import Eligibility.Trait.Requirement
set_option autoImplicit false

/-!
# Traits: which texts have no value

A text has no value for one of two reasons only.  A choice may hold no text, which
is a fault of the grammar and which every caller foresees; or a whole number may
have more digits than are read, which is a fault of another kind, since nothing is
wrong with the form of the text.
-/

namespace Eligibility.Trait

/-- The text of a whole number in decimal digits, of which there are `count`, more than are read. -/
def IsOverlong (s : String) (count : Nat) : Prop :=
  Decimal.maxDigits < count ∧ ∃ digits : List Char,
    digits.length = count ∧ digits.all Char.isDigit = true ∧
      (s.toList = digits ∨ s.toList = '-' :: digits)

theorem IsOverlong.noColon {s : String} {count : Nat} (h : IsOverlong s count) :
    ':' ∉ s.toList := by
  obtain ⟨-, digits, -, hall, hs⟩ := h
  have hdigits : ':' ∉ digits := by
    intro hc
    exact absurd (List.all_eq_true.mp hall ':' hc) (by decide)
  rcases hs with hs | hs <;> rw [hs]
  · exact hdigits
  · intro hc
    rcases List.mem_cons.mp hc with hc | hc
    · exact absurd hc (by decide)
    · exact hdigits hc

theorem wholeDigits?_eq_some {cs digits : List Char} {negative : Bool} :
    wholeDigits? cs = some (negative, digits) ↔
      digits ≠ [] ∧ digits.all Char.isDigit = true ∧
        cs = if negative then '-' :: digits else digits := by
  have hminus : Char.isDigit '-' = false := by decide
  unfold wholeDigits?
  split
  next sign rest hcut =>
  have hcs : cs = if sign then '-' :: rest else rest := by
    split at hcut
    · obtain ⟨rfl, rfl⟩ := Prod.mk.inj hcut
      rfl
    · obtain ⟨rfl, rfl⟩ := Prod.mk.inj hcut
      rfl
  simp only [Option.ite_none_right_eq_some, Bool.and_eq_true, Bool.not_eq_true',
    List.isEmpty_eq_false_iff, Option.some.injEq, Prod.mk.injEq]
  constructor
  · rintro ⟨⟨hne, hall⟩, rfl, rfl⟩
    exact ⟨hne, hall, hcs⟩
  · rintro ⟨hne, hall, heq⟩
    -- A minus sign is no digit, so the sign is where it was taken off.
    cases negative with
    | true =>
      subst heq
      obtain ⟨rfl, rfl⟩ := Prod.mk.inj hcut
      exact ⟨⟨hne, hall⟩, rfl, rfl⟩
    | false =>
      cases sign with
      | true =>
        rw [heq] at hcs
        simp only [Bool.false_eq_true, ↓reduceIte] at hcs
        simp [hcs, hminus] at hall
      | false =>
        obtain rfl : rest = digits := hcs.symm.trans heq
        exact ⟨⟨hne, hall⟩, rfl, rfl⟩

theorem isOverlong_iff {s : String} {count : Nat} :
    IsOverlong s count ↔ Decimal.maxDigits < count ∧
      ∃ negative digits, wholeDigits? s.toList = some (negative, digits) ∧
        digits.length = count := by
  refine and_congr_right fun hcount => ?_
  simp only [wholeDigits?_eq_some]
  constructor
  · rintro ⟨digits, rfl, hall, hs | hs⟩
    · exact ⟨false, digits, ⟨List.ne_nil_of_length_pos (by omega), hall, hs⟩, rfl⟩
    · exact ⟨true, digits, ⟨List.ne_nil_of_length_pos (by omega), hall, hs⟩, rfl⟩
  · rintro ⟨negative, digits, ⟨-, hall, hs⟩, rfl⟩
    cases negative with
    | true => exact ⟨digits, rfl, hall, .inr hs⟩
    | false => exact ⟨digits, rfl, hall, .inl hs⟩

/-- A whole number may stand in the path of a URI, whatever its length. -/
theorem isPathText_of_wholeDigits? {s : String} {negative : Bool} {digits : List Char}
    (h : wholeDigits? s.toList = some (negative, digits)) : Uri.isPathText s = true := by
  obtain ⟨hne, hall, hs⟩ := wholeDigits?_eq_some.mp h
  have hdigit : ∀ c ∈ digits, c ≠ '%' ∧ Uri.isPathChar c = true := by
    intro c hc
    have hd : c.isDigit = true := List.all_eq_true.mp hall c hc
    constructor
    · rintro rfl
      simp [Char.isDigit] at hd
    · simp [Uri.isPathChar, Uri.isSegmentChar, Uri.isUnreserved, hd]
  have hminus : ∀ c ∈ '-' :: digits, c ≠ '%' ∧ Uri.isPathChar c = true :=
    List.forall_mem_cons.mpr ⟨by decide, hdigit⟩
  have hpath : Uri.allEncoded Uri.isPathChar s.toList = true := by
    rw [hs]
    split
    · exact Uri.allEncoded_of_forall hminus
    · exact Uri.allEncoded_of_forall hdigit
  have hs' : s ≠ "" := by
    rintro rfl
    cases negative with
    | true => simp at hs
    | false => exact hne hs.symm
  simp [Uri.isPathText, hs', hpath]

theorem IsOverlong.isPathText {s : String} {count : Nat} (h : IsOverlong s count) :
    Uri.isPathText s = true := by
  obtain ⟨-, negative, digits, hdigits, -⟩ := isOverlong_iff.mp h
  exact isPathText_of_wholeDigits? hdigits

/-- A single value is always read, unless it is a whole number with too many digits. -/
theorem readSingle_eq_error {s : String} {fault : Fault} :
    readSingle s = .error fault ↔ ∃ count, fault = .tooManyDigits count ∧ IsOverlong s count := by
  simp only [isOverlong_iff]
  unfold readSingle
  split
  · next h =>
    have hnone : wholeDigits? s.toList = none := by rw [h]; decide
    simp [hnone]
  · split
    · next h =>
      have hnone : wholeDigits? s.toList = none := by rw [h]; decide
      simp [hnone]
    · split
      · next negative digits hdigits =>
        simp only [hdigits, Option.some.injEq, Prod.mk.injEq]
        split
        · next hlt =>
          simp only [Except.error.injEq]
          constructor
          · rintro rfl
            exact ⟨digits.length, rfl, hlt, negative, digits, ⟨rfl, rfl⟩, rfl⟩
          · rintro ⟨_, rfl, -, _, _, ⟨rfl, rfl⟩, rfl⟩
            rfl
        · next hle =>
          simp only [reduceCtorEq, false_iff]
          rintro ⟨_, -, hlt, _, _, ⟨rfl, rfl⟩, rfl⟩
          exact hle hlt
      · next hnone => simp [hnone]

/-- A text has no value after an operator for one of two reasons. -/
theorem Value.read_eq_error {operator : Operator} {s : String} {fault : Fault} :
    Value.read operator s = .error fault ↔
      (operator = .oneOf ∧ choiceItems s = [] ∧ fault = .emptyChoice s) ∨
      (operator ≠ .oneOf ∧ ∃ count, fault = .tooManyDigits count ∧ IsOverlong s count) := by
  by_cases ho : operator = .oneOf
  · subst ho
    simp only [Value.read, List.isEmpty_iff]
    split
    · next hitems => simp [hitems, eq_comm]
    · next hitems => simp [hitems]
  · rw [Value.read_of_ne_oneOf s ho, readSingle_eq_error]
    simp [ho]

/-- A raw value stands for no requirement exactly if it is too long to be written, or the text
behind its operator has no value. -/
theorem Requirement.parse_eq_error {name : String} {raw : Raw} {fault : Fault} :
    Requirement.parse name raw = .error fault ↔
      (raw.isLong = true ∧ fault = .longNumber) ∨ (raw.isLong = false ∧
        Value.read (comparison raw.written).1 (comparison raw.written).2 = .error fault) := by
  unfold Requirement.parse
  rw [Outcome.bind_eq_error, Raw.render_eq_error]
  simp only [Raw.render_eq_ok, Requirement.read_eq_error]
  refine or_congr_right ?_
  constructor
  · rintro ⟨_, ⟨hlong, rfl⟩, h⟩
    exact ⟨hlong, h⟩
  · rintro ⟨hlong, h⟩
    exact ⟨_, ⟨hlong, rfl⟩, h⟩

end Eligibility.Trait

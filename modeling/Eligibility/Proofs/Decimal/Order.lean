import Eligibility.Decimal.Binary64
import Mathlib.Algebra.Order.Field.Rat
import Mathlib.Algebra.Order.Field.Power
import Mathlib.Order.WithBot
set_option autoImplicit false

/-!
# Decimal: the order of binary floating-point numbers

Numbers of the format binary64 are compared by their exact values, on a line that
ends in the two infinities.  What is not a number has no place on the line, so it is
neither less nor greater than any.
-/

namespace Eligibility.Binary64

/-! ## Exact values -/

theorem twoPow_eq_pow (n : Nat) : ((twoPow n : Nat) : Rat) = 2 ^ (n : Int) := by
  rw [zpow_natCast]
  exact_mod_cast rfl

theorem valueOf_eq (negative : Bool) (m : Nat) (e : Int) :
    valueOf negative m e = if negative then -(m * 2 ^ e : Rat) else m * 2 ^ e := by
  have hmagnitude : (if 0 ≤ e then mkRat ((m * twoPow e.toNat : Nat) : Int) 1
      else mkRat (m : Int) (twoPow (-e).toNat)) = (m * 2 ^ e : Rat) := by
    split
    · next he =>
      obtain ⟨n, rfl⟩ := Int.eq_ofNat_of_zero_le he
      rw [Rat.mkRat_eq_div, Int.toNat_natCast]
      push_cast
      rw [twoPow_eq_pow, div_one]
    · next he =>
      obtain ⟨n, hn⟩ := Int.eq_ofNat_of_zero_le (show 0 ≤ -e by omega)
      obtain rfl : e = -(n : Int) := by omega
      rw [Rat.mkRat_eq_div, Int.neg_neg, Int.toNat_natCast, twoPow_eq_pow, zpow_neg, div_eq_mul_inv,
        Int.cast_natCast]
  unfold valueOf
  rw [hmagnitude]

/-- The line of the quotients between two infinities. -/
abbrev Line : Type := WithBot (WithTop Rat)

/-- The place of a quotient on the line. -/
def Line.ofRat (q : Rat) : Line := ((q : WithTop Rat) : WithBot (WithTop Rat))

@[simp] theorem Line.ofRat_le_ofRat {p q : Rat} : Line.ofRat p ≤ Line.ofRat q ↔ p ≤ q := by
  simp [Line.ofRat]

@[simp] theorem Line.ofRat_lt_ofRat {p q : Rat} : Line.ofRat p < Line.ofRat q ↔ p < q := by
  simp [Line.ofRat]

@[simp] theorem Line.ofRat_lt_top (q : Rat) : Line.ofRat q < ⊤ :=
  WithBot.coe_lt_coe.mpr (WithTop.coe_lt_top q)

/-- The place of a number on the line. -/
def place? : Binary64 → Option Line
  | .finite negative m e _ => some (.ofRat (valueOf negative m e))
  | .infinite negative => some (if negative then ⊥ else ⊤)
  | .nan => none

theorem exists_place {x : Binary64} (h : x ≠ .nan) : ∃ a, x.place? = some a := by
  cases x with
  | finite | infinite => exact ⟨_, rfl⟩
  | nan => exact absurd rfl h

/-- One number is less than another one. -/
def IsLess (x y : Binary64) : Prop := ∃ a b, x.place? = some a ∧ y.place? = some b ∧ a < b

/-- The number is greater than a quotient. -/
def IsAbove (x : Binary64) (q : Rat) : Prop := ∃ a, x.place? = some a ∧ .ofRat q < a

theorem IsAbove.ne_nan {x : Binary64} {q : Rat} (h : x.IsAbove q) : x ≠ .nan := by
  rintro rfl
  obtain ⟨a, ha, -⟩ := h
  simp [place?] at ha

theorem isAbove_iff {x : Binary64} {p q : Rat} (h : x.toRat? = some p) : x.IsAbove q ↔ q < p := by
  cases x with
  | finite negative m e hformat =>
    obtain rfl := Option.some.inj h
    simp [IsAbove, place?]
  | infinite | nan => simp [toRat?] at h

/-! ## The comparison -/

theorem isAtMost_iff {x y : Binary64} {a b : Line} (hx : x.place? = some a)
    (hy : y.place? = some b) : x.isAtMost y = true ↔ a ≤ b := by
  cases x with
  | nan => simp [place?] at hx
  | finite negative m e h =>
    obtain rfl := Option.some.inj hx
    cases y with
    | nan => simp [place?] at hy
    | finite negative' m' e' h' =>
      obtain rfl := Option.some.inj hy
      simp [isAtMost]
    | infinite negative' =>
      obtain rfl := Option.some.inj hy
      cases negative'
      · simp [isAtMost]
      · simp [isAtMost, Line.ofRat]
  | infinite negative =>
    obtain rfl := Option.some.inj hx
    cases y with
    | nan => simp [place?] at hy
    | finite negative' m' e' h' =>
      obtain rfl := Option.some.inj hy
      cases negative
      · simp [isAtMost, (Line.ofRat_lt_top _).ne]
      · simp [isAtMost]
    | infinite negative' =>
      obtain rfl := Option.some.inj hy
      cases negative <;> cases negative' <;> simp [isAtMost]

/-- Of two numbers, the second is less exactly if the first is not at most the second. -/
theorem isAtMost_eq_false_iff {x y : Binary64} (hx : x ≠ .nan) (hy : y ≠ .nan) :
    x.isAtMost y = false ↔ y.IsLess x := by
  obtain ⟨a, ha⟩ := exists_place hx
  obtain ⟨b, hb⟩ := exists_place hy
  rw [← Bool.not_eq_true, isAtMost_iff ha hb, not_le]
  simp [IsLess, ha, hb]

theorem isAtMost_zero_eq_false_iff {x : Binary64} (hx : x ≠ .nan) (negative : Bool) :
    x.isAtMost (zero negative) = false ↔ x.IsAbove 0 := by
  have hzero : (zero negative).place? = some (.ofRat 0) := by
    simp [place?, zero, valueOf_eq]
  rw [isAtMost_eq_false_iff hx (by simp [zero])]
  simp [IsLess, IsAbove, hzero]

end Eligibility.Binary64

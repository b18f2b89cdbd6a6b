import Eligibility.Decimal.Notation
import Eligibility.Proofs.Text.Digit
import Eligibility.Proofs.Text.Items
import Mathlib.Algebra.Ring.Int.Defs
import Mathlib.Algebra.Ring.Nat
import Mathlib.Data.List.Basic
import Mathlib.Data.List.TakeWhile
set_option autoImplicit false

/-!
# Decimal: whole numbers read back

The lenient reader of whole numbers takes much away from what it is given: blanks, a
sign, underscores, a point with zeros, zeros in front.  The decimal digits of a number
have none of these, so the number is read back, as long as it has no more digits than
are read.
-/

namespace Eligibility.Decimal

/-! ## What the reader takes away -/

section

variable {cs : List Char} (h : ∀ c ∈ cs, c.isDigit = true)

include h

theorem trimEndsList_digits : Text.trimEndsList Text.isWhiteSpace cs = cs :=
  Text.trimEndsList_of_forall fun c hc => Text.isWhiteSpace_of_isDigit (h c hc)

theorem takeSign_digits : takeSign cs = (false, cs) := by
  unfold takeSign
  split
  · exact absurd (h '-' List.mem_cons_self) (by decide)
  · exact absurd (h '+' List.mem_cons_self) (by decide)
  · rfl

theorem withoutZeroPart_digits : withoutZeroPart cs = cs := by
  have hpoint : ∀ c ∈ cs, (c != '.') = true := by
    intro c hc
    simpa using Text.ne_of_isDigit (h c hc) (show ('.').isDigit = false by decide)
  have hdrop : cs.dropWhile (· != '.') = [] := List.dropWhile_eq_nil_iff.mpr hpoint
  rw [withoutZeroPart, hdrop]

theorem withoutUnderscores?_digits : withoutUnderscores? cs = some cs := by
  have hmark : ∀ c ∈ cs, c ≠ '_' := fun c hc => Text.ne_of_isDigit (h c hc) (by decide)
  have hhead : cs.head? ≠ some '_' := fun hc => hmark '_' (List.mem_of_head? hc) rfl
  have hlast : cs.getLast? ≠ some '_' := fun hc => hmark '_' (List.mem_of_getLast? hc) rfl
  have hdoubled : withoutUnderscores?.doubled cs = false := by
    clear hhead hlast h
    induction cs with
    | nil => rfl
    | cons c cs ih =>
      unfold withoutUnderscores?.doubled
      split
      · next heq => exact absurd (List.cons.inj heq).1 (hmark c List.mem_cons_self)
      · next heq =>
        obtain ⟨rfl, rfl⟩ := List.cons.inj heq
        exact ih fun d hd => hmark d (List.mem_cons_of_mem _ hd)
      · next heq => simp at heq
  have hfilter : cs.filter (· != '_') = cs :=
    List.filter_eq_self.mpr fun c hc => by simpa using hmark c hc
  simp [withoutUnderscores?, hhead, hlast, hdoubled, hfilter]

end

/-- No number above zero is written with a zero in front. -/
theorem head?_toDigits {n : Nat} (h : 0 < n) : (Nat.toDigits 10 n).head? ≠ some '0' := by
  induction n using Nat.strongRecOn with
  | ind n ih =>
    rw [Nat.toDigits_eq_if (by decide)]
    split
    · next hlt =>
      have hne : n.digitChar ≠ '0' := by
        intro heq
        have hzero := congrArg Char.toNat heq
        rw [Nat.toNat_digitChar_of_lt_ten hlt] at hzero
        have hnat : ('0').toNat = 48 := rfl
        omega
      simpa using hne
    · next hge =>
      have hrest := ih (n / 10) (by omega) (by omega)
      rwa [List.head?_append_of_ne_nil _ Nat.toDigits_ne_nil]

theorem withoutLeadingZeros_toDigits (n : Nat) :
    withoutLeadingZeros (Nat.toDigits 10 n) = Nat.toDigits 10 n := by
  by_cases hn : n = 0
  · subst hn
    rfl
  · have hdigits : ∀ c ∈ Nat.toDigits 10 n, c.isDigit = true :=
      fun _ hc => Nat.isDigit_of_mem_toDigits (by decide) (by decide) hc
    have hhead := head?_toDigits (Nat.pos_of_ne_zero hn)
    unfold withoutLeadingZeros
    cases htext : Nat.toDigits 10 n with
    | nil => exact absurd htext Nat.toDigits_ne_nil
    | cons c cs =>
      rw [htext] at hdigits hhead
      have hzero : c ≠ '0' := by simpa using hhead
      have hmark : c ≠ '_' := Text.ne_of_isDigit (hdigits c List.mem_cons_self) (by decide)
      rw [List.dropWhile_cons_of_neg (by simp [hzero, hmark])]

/-- A number of few digits has no more than are read. -/
theorem lt_limit_of_lt {n k : Nat} (h : n < 10 ^ k) (hk : k ≤ maxDigits) :
    (n : Int) < 10 ^ maxDigits := by
  have hnat : n < 10 ^ maxDigits := Nat.lt_of_lt_of_le h (Nat.pow_le_pow_right (by decide) hk)
  have hint := Int.ofNat_lt.mpr hnat
  rwa [Int.natCast_pow] at hint

/-- A whole number is read back from its digits unless it has more than are read. -/
theorem readWhole?_toString (n : Nat) : readWhole? (toString n) =
    if n < 10 ^ maxDigits then .ok (n : Int) else .error .tooLong := by
  have hdigits : ∀ c ∈ Nat.toDigits 10 n, c.isDigit = true :=
    fun _ hc => Nat.isDigit_of_mem_toDigits (by decide) (by decide) hc
  have hne : Nat.toDigits 10 n ≠ [] := Nat.toDigits_ne_nil
  have hall : (Nat.toDigits 10 n).all Char.isDigit = true := List.all_eq_true.mpr hdigits
  have hempty : (Nat.toDigits 10 n).isEmpty = false := by simp
  have hvalue : digitsValue (Nat.toDigits 10 n) = n := Nat.ofDigitChars_ten_toDigits
  have hlength : (Nat.toDigits 10 n).length ≤ maxDigits ↔ n < 10 ^ maxDigits :=
    Nat.length_toDigits_le_iff (by decide) (by decide)
  have hlist : (toString n).toList = Nat.toDigits 10 n := by simp
  unfold readWhole?
  simp only [hlist, trimEndsList_digits hdigits, takeSign_digits hdigits,
    withoutZeroPart_digits hdigits, withoutUnderscores?_digits hdigits, hempty, hall,
    withoutLeadingZeros_toDigits, hvalue, ← hlength]
  by_cases hlong : (Nat.toDigits 10 n).length ≤ maxDigits
  · simp [hlong, Nat.not_lt.mpr hlong]
  · simp [hlong, Nat.lt_of_not_le hlong]

end Eligibility.Decimal

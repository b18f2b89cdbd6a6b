import Eligibility.Text.Blank
set_option autoImplicit false

/-!
# Text: the digits of ASCII

There are ten of them, so what holds of each of the ten holds of a digit, and a character
that is no digit is none of them.
-/

namespace Eligibility.Text

/-- What holds of the ten digits holds of every digit. -/
theorem of_isDigit {P : Char → Prop} (hall : ∀ n < 58, 48 ≤ n → P (Char.ofNat n)) {c : Char}
    (h : c.isDigit = true) : P c := by
  simp only [Char.isDigit, ge_iff_le, Bool.and_eq_true, decide_eq_true_eq,
    UInt32.le_iff_toNat_le] at h
  have hlow : 48 ≤ c.toNat := h.1
  have hhigh : c.toNat ≤ 57 := h.2
  have hc := hall c.toNat (by omega) hlow
  rwa [Char.ofNat_toNat] at hc

theorem ne_of_isDigit {c d : Char} (h : c.isDigit = true) (hd : d.isDigit = false) : c ≠ d := by
  intro heq
  rw [heq, hd] at h
  exact Bool.false_ne_true h

theorem isWhiteSpace_of_isDigit {c : Char} (h : c.isDigit = true) : isWhiteSpace c = false :=
  of_isDigit (P := fun c => isWhiteSpace c = false) (by decide) h

end Eligibility.Text

import Eligibility.Calendar.Stamp
import Eligibility.Proofs.Text.Lines
import Mathlib.Algebra.Ring.Nat
set_option autoImplicit false

/-!
# Calendar: what a stamp is written with

A stamp is written with decimal digits and the marks between them, so it never
holds a line end.  Its numbers fill the widths that they are written in.
-/

namespace Eligibility.Calendar.Stamp

open Text (OneLine Unbroken)

/-! ## Padded numbers -/

theorem isDigit_of_mem_padded {width n : Nat} {c : Char} (h : c ∈ padded width n) :
    c.isDigit = true := by
  rcases List.mem_append.mp h with h | h
  · rw [List.eq_of_mem_replicate h]
    decide
  · exact Nat.isDigit_of_mem_toDigits (by decide) (by decide) h

/-- A number that fits its width fills it. -/
theorem length_padded {width n : Nat} (hwidth : 0 < width) (h : n < 10 ^ width) :
    (padded width n).length = width := by
  have hlength : (Nat.toDigits 10 n).length ≤ width :=
    (Nat.length_toDigits_le_iff (by decide) hwidth).mpr h
  simp only [padded, Decimal.padLeft, List.length_append, List.length_replicate]
  omega

theorem ofDigitChars_padded (width n : Nat) : Nat.ofDigitChars 10 (padded width n) 0 = n := by
  rw [padded, Decimal.padLeft, Nat.ofDigitChars_append, Nat.ofDigitChars_replicate_zero,
    Nat.mul_zero, Nat.ofDigitChars_ten_toDigits]

/-! ## Line ends -/

theorem unbroken_padded (width n : Nat) : Unbroken (padded width n) :=
  .of_digits fun _ hc => isDigit_of_mem_padded hc

theorem unbroken_clockText (minutes : Nat) : Unbroken (clockText minutes) :=
  (unbroken_padded 2 _).append (.cons (by decide) (by decide) (unbroken_padded 2 _))

theorem unbroken_secondsText (s : Stamp) : Unbroken s.secondsText := by
  unfold secondsText
  refine ((((unbroken_padded 4 _).append ?_).append ?_).append ?_).append ?_
  · exact .cons (by decide) (by decide) (unbroken_padded 2 _)
  · exact .cons (by decide) (by decide) (unbroken_padded 2 _)
  · exact .cons (by decide) (by decide) (unbroken_clockText _)
  · exact .cons (by decide) (by decide) (unbroken_padded 2 _)

theorem unbroken_utcMillis (s : Stamp) : Unbroken s.utcMillis := by
  unfold utcMillis
  refine ((unbroken_secondsText s).append ?_).append ?_
  · exact .cons (by decide) (by decide) (unbroken_padded 3 _)
  · exact .cons (by decide) (by decide) .nil

theorem oneLine_of_millis? {s : Stamp} {text : String} (h : s.millis? = some text) :
    OneLine text := by
  obtain ⟨u, -, rfl⟩ := Option.map_eq_some_iff.mp h
  rw [OneLine, String.toList_ofList]
  exact unbroken_utcMillis u

/-! ## Time in UTC -/

/-- A clock that shows UTC is written in UTC as it is. -/
theorem exists_millis? {t : Stamp} (h : t.offset = some 0) : ∃ text, t.millis? = some text := by
  have hutc : t.toUtc? = some t := ofTicks?_eq_some.mpr ⟨by simp [instant, h], h⟩
  exact ⟨_, by rw [millis?, hutc]; rfl⟩

end Eligibility.Calendar.Stamp

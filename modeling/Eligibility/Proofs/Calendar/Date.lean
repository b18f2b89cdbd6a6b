import Eligibility.Calendar.Date
import Mathlib.Algebra.Ring.Nat
set_option autoImplicit false

/-!
# Calendar: days and their dates

Every number of days has one date, whose parts fit each other, and the date has that
number of days before it.  A number is split into a year and a rest first, and then
the rest into a month and a day; each split gives back what it was given, with a rest
below the length of what holds it.
-/

namespace Eligibility.Calendar

/-! ## Years -/

theorem isLeap_iff {year : Nat} :
    isLeap year = true ↔ year % 4 = 0 ∧ (year % 100 ≠ 0 ∨ year % 400 = 0) := by
  simp [isLeap]

theorem yearLength_eq (year : Nat) :
    yearLength year = if year % 4 = 0 ∧ (year % 100 ≠ 0 ∨ year % 400 = 0) then 366 else 365 := by
  simp only [yearLength, isLeap_iff]

/-- The place of a day in cycles of 400 years, centuries, cycles of four years, and years. -/
structure YearParts (n : Nat) where
  era : Nat
  century : Nat
  cycle : Nat
  year : Nat
  rest : Nat
  eq : n = 146097 * era + 36524 * century + 1461 * cycle + 365 * year + rest
  century_le : century ≤ 3
  cycle_le : cycle ≤ 24
  year_le : year ≤ 3
  /-- The last year of a cycle has a day more, unless it ends a century that is not the last. -/
  rest_le : rest < 365 ∨ rest = 365 ∧ year = 3 ∧ (cycle = 24 → century = 3)

/-- The number of whole years in front of a day. -/
def YearParts.years {n : Nat} (p : YearParts n) : Nat :=
  p.era * 400 + p.century * 100 + p.cycle * 4 + p.year

theorem min_div_mul_le (k m n : Nat) : min k (m / n) * n ≤ m :=
  Nat.le_trans (Nat.mul_le_mul_right n (Nat.min_le_right k (m / n))) (Nat.div_mul_le_self m n)

/-- A day is split into the parts of its place. -/
theorem splitYear_eq (n : Nat) : ∃ p : YearParts n, splitYear n = (p.years + 1, p.rest) := by
  have hn := Nat.div_add_mod n 146097
  have hr400 := Nat.mod_lt n (show 146097 > 0 by decide)
  simp only [splitYear, YearParts.years]
  generalize n / 146097 = era at *
  generalize n % 146097 = r400 at *
  have hcentury : min 3 (r400 / 36524) ≤ 3 := Nat.min_le_left _ _
  have hr100 : r400 - min 3 (r400 / 36524) * 36524 < 36524 ∨
      r400 - min 3 (r400 / 36524) * 36524 = 36524 ∧ min 3 (r400 / 36524) = 3 := by omega
  have hcenturies : min 3 (r400 / 36524) * 36524 ≤ r400 := min_div_mul_le 3 r400 36524
  generalize min 3 (r400 / 36524) = century at *
  have hcycle := Nat.div_add_mod (r400 - century * 36524) 1461
  have hr4 := Nat.mod_lt (r400 - century * 36524) (show 1461 > 0 by decide)
  generalize (r400 - century * 36524) / 1461 = cycle at *
  generalize (r400 - century * 36524) % 1461 = r4 at *
  have hyear : min 3 (r4 / 365) ≤ 3 := Nat.min_le_left _ _
  have hrest : r4 - min 3 (r4 / 365) * 365 < 365 ∨
      r4 - min 3 (r4 / 365) * 365 = 365 ∧ min 3 (r4 / 365) = 3 := by omega
  have hyears : min 3 (r4 / 365) * 365 ≤ r4 := min_div_mul_le 3 r4 365
  generalize min 3 (r4 / 365) = year at *
  have hday : n = 146097 * era + 36524 * century + 1461 * cycle + 365 * year +
      (r4 - year * 365) := by omega
  have hcycles : cycle ≤ 24 := by omega
  have hlast : r4 - year * 365 < 365 ∨
      r4 - year * 365 = 365 ∧ year = 3 ∧ (cycle = 24 → century = 3) := by omega
  exact ⟨⟨era, century, cycle, year, r4 - year * 365, hday, hcentury, hcycles, hyear, hlast⟩, rfl⟩

/-- A day lies in its year. -/
theorem splitYear_spec {n year rest : Nat} (h : splitYear n = (year, rest)) :
    daysBeforeYear year + rest = n ∧ rest < yearLength year ∧ 1 ≤ year := by
  obtain ⟨p, hsplit⟩ := splitYear_eq n
  obtain ⟨rfl, rfl⟩ := Prod.mk.inj (hsplit.symm.trans h)
  obtain ⟨era, century, cycle, y, r, hn, hcentury, hcycle, hyear, hrest⟩ := p
  simp only [YearParts.years]
  have hfours : (era * 400 + century * 100 + cycle * 4 + y) / 4 =
      era * 100 + century * 25 + cycle := by omega
  have hcenturies : (era * 400 + century * 100 + cycle * 4 + y) / 100 = era * 4 + century := by
    omega
  have heras : (era * 400 + century * 100 + cycle * 4 + y) / 400 = era := by omega
  refine ⟨?_, ?_, by omega⟩
  · simp only [daysBeforeYear, Nat.add_sub_cancel, hfours, hcenturies, heras]
    omega
  · rw [yearLength_eq]
    split
    · omega
    · omega

theorem year_le_of_splitYear {n year rest : Nat} (h : splitYear n = (year, rest))
    (hn : n < dayLimit) : year ≤ 9999 := by
  obtain ⟨p, hsplit⟩ := splitYear_eq n
  obtain ⟨rfl, rfl⟩ := Prod.mk.inj (hsplit.symm.trans h)
  obtain ⟨era, century, cycle, y, r, heq, hcentury, hcycle, hyear, hrest⟩ := p
  simp only [YearParts.years, dayLimit] at hn ⊢
  omega

/-! ## Months -/

theorem sum_monthLengths (year : Nat) : (monthLengths year).sum = yearLength year := by
  unfold monthLengths yearLength
  split <;> rfl

/-- A day lies in its month. -/
theorem splitMonth_spec {lengths : List Nat} {n month day : Nat}
    (h : splitMonth lengths n = (month, day)) (hn : n < lengths.sum) :
    (lengths.take month).sum + day = n ∧ month < lengths.length ∧ day < lengths.getD month 0 := by
  induction lengths generalizing n month with
  | nil => simp at hn
  | cons length rest ih =>
    rw [List.sum_cons] at hn
    unfold splitMonth at h
    split at h
    · next hlt =>
      obtain ⟨rfl, rfl⟩ := Prod.mk.inj h
      exact ⟨by simp, by simp, by simpa using hlt⟩
    · next hge =>
      cases hsplit : splitMonth rest (n - length) with
      | mk month' day' =>
        rw [hsplit] at h
        obtain ⟨rfl, rfl⟩ := Prod.mk.inj h
        obtain ⟨hsum, hmonth, hday⟩ := ih hsplit (by omega)
        refine ⟨?_, by simpa using hmonth, by simpa using hday⟩
        rw [List.take_succ_cons, List.sum_cons]
        omega

/-! ## Dates -/

namespace Date

/-- The parts of the date of a day. -/
theorem ofDayNumber_spec (n : Nat) : ∃ year rest month day,
    splitYear n = (year, rest) ∧ splitMonth (monthLengths year) rest = (month, day) ∧
      ofDayNumber n = ⟨year, month + 1, day + 1⟩ := by
  rcases hyear : splitYear n with ⟨year, rest⟩
  rcases hmonth : splitMonth (monthLengths year) rest with ⟨month, day⟩
  refine ⟨year, rest, month, day, rfl, hmonth, ?_⟩
  rw [ofDayNumber, hyear]
  dsimp only
  rw [hmonth]

/-- The date of a day has as many days before it. -/
theorem dayNumber_ofDayNumber (n : Nat) : (ofDayNumber n).dayNumber = n := by
  obtain ⟨year, rest, month, day, hyear, hmonth, hdate⟩ := ofDayNumber_spec n
  obtain ⟨hn, hrest, -⟩ := splitYear_spec hyear
  rw [← sum_monthLengths] at hrest
  obtain ⟨hsum, -, -⟩ := splitMonth_spec hmonth hrest
  have hdays : (⟨year, month + 1, day + 1⟩ : Date).dayNumber =
      daysBeforeYear year + ((monthLengths year).take month).sum + day := rfl
  rw [hdate, hdays]
  omega

/-- The date of every day of the calendar is one of the calendar. -/
theorem isValid_ofDayNumber {n : Nat} (h : n < dayLimit) : (ofDayNumber n).isValid = true := by
  obtain ⟨year, rest, month, day, hyear, hmonth, hdate⟩ := ofDayNumber_spec n
  obtain ⟨-, hrest, hfirst⟩ := splitYear_spec hyear
  have hlast : year ≤ 9999 := year_le_of_splitYear hyear h
  rw [← sum_monthLengths] at hrest
  obtain ⟨-, hlength, hday⟩ := splitMonth_spec hmonth hrest
  have htwelve : month < 12 := hlength
  simp only [hdate, isValid, Nat.add_sub_cancel, Bool.and_eq_true, decide_eq_true_eq]
  omega

end Date

end Eligibility.Calendar

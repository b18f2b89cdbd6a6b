import Eligibility.Proofs.Decimal.Order
set_option autoImplicit false

/-!
# Decimal: what rounding keeps

Rounding a quotient to the format binary64 does not carry it past any number of the
format: what is at least such a number stays at least that number, and what is at
most it stays at most it.  So a quotient that is a number of the format is kept as it
is, and a rounded quotient that is less than such a number was less before.

The magnitude comes first.  With the exponent that `exponentFor` chooses, a number of
the format with a larger exponent is a whole number of units, and one with a smaller
exponent is less than every mantissa that has all its bits.
-/

namespace Eligibility

/-! ## Rounding to a whole number -/

section

variable {num den k : Nat}

theorem le_divideToEven (h : k * den ≤ num) (hden : 0 < den) : k ≤ divideToEven num den := by
  have hk : k ≤ num / den := (Nat.le_div_iff_mul_le hden).mpr h
  unfold divideToEven
  grind

theorem divideToEven_le (h : num ≤ k * den) (hden : 0 < den) : divideToEven num den ≤ k := by
  have hsplit := Nat.div_add_mod num den
  rcases Nat.lt_or_ge (num / den) k with hlt | hge
  · unfold divideToEven
    grind
  · -- The quotient is whole, and nothing is left to round.
    have hmul : den * k ≤ den * (num / den) := Nat.mul_le_mul_left den hge
    have hrest : num % den = 0 := by rw [Nat.mul_comm] at h; omega
    have hquotient : num / den ≤ k := Nat.div_le_of_le_mul (by rwa [Nat.mul_comm] at h)
    unfold divideToEven
    simp only [hrest, Nat.mul_zero, hden, if_true]
    exact hquotient

end

namespace Binary64

/-! ## The exponent -/

section

variable {num den : Nat}

theorem scaled_pos (num : Nat) (hden : 0 < den) (e : Int) : 0 < (scaled num den e).2 := by
  unfold scaled
  split
  · exact Nat.mul_pos hden (twoPow_pos _)
  · exact hden

theorem div_scaled (num den : Nat) (e : Int) :
    ((scaled num den e).1 : Rat) / (scaled num den e).2 = num / den / 2 ^ e := by
  unfold scaled
  split
  · next he =>
    obtain ⟨n, rfl⟩ := Int.eq_ofNat_of_zero_le he
    push_cast
    rw [twoPow_eq_pow, Int.toNat_natCast, div_div]
  · next he =>
    obtain ⟨n, hn⟩ := Int.eq_ofNat_of_zero_le (show 0 ≤ -e by omega)
    obtain rfl : e = -(n : Int) := by omega
    push_cast
    rw [twoPow_eq_pow, Int.neg_neg, Int.toNat_natCast, zpow_neg, div_inv_eq_mul, div_mul_eq_mul_div]

/-- The bounds of a quotient that its two logarithms give. -/
theorem log2_bounds (hnum : num ≠ 0) (hden : den ≠ 0) :
    (2 : Rat) ^ ((Nat.log2 num : Int) - Nat.log2 den - 1) ≤ num / den ∧
      (num / den : Rat) < 2 ^ ((Nat.log2 num : Int) - Nat.log2 den + 1) := by
  have hden' : (0 : Rat) < den := by exact_mod_cast Nat.pos_of_ne_zero hden
  have hlow : ((2 : Rat) ^ (Nat.log2 num : Int)) ≤ num := by
    rw [zpow_natCast]
    exact_mod_cast Nat.log2_self_le hnum
  have hhigh : (num : Rat) < 2 ^ ((Nat.log2 num : Int) + 1) := by
    exact_mod_cast (Nat.lt_log2_self (n := num))
  have hlow' : ((2 : Rat) ^ (Nat.log2 den : Int)) ≤ den := by
    rw [zpow_natCast]
    exact_mod_cast Nat.log2_self_le hden
  have hhigh' : (den : Rat) < 2 ^ ((Nat.log2 den : Int) + 1) := by
    exact_mod_cast (Nat.lt_log2_self (n := den))
  constructor
  · rw [le_div_iff₀ hden', sub_sub, zpow_sub₀ two_ne_zero, div_mul_eq_mul_div,
      div_le_iff₀ (by positivity)]
    exact mul_le_mul hlow hhigh'.le hden'.le (Nat.cast_nonneg _)
  · rw [div_lt_iff₀ hden', sub_add_eq_add_sub, zpow_sub₀ two_ne_zero, div_mul_eq_mul_div,
      lt_div_iff₀ (by positivity)]
    exact mul_lt_mul hhigh hlow' (zpow_pos two_pos _) (zpow_pos two_pos _).le

/-- The exponent gives the mantissa 53 bits at most, and exactly 53 unless it is the smallest
exponent. -/
theorem exponentFor_bounds (hnum : num ≠ 0) (hden : den ≠ 0) :
    minExponent ≤ exponentFor num den ∧
      (num / den : Rat) < 2 ^ (53 + exponentFor num den) ∧
      (exponentFor num den = minExponent ∨
        (2 : Rat) ^ (52 + exponentFor num den) ≤ num / den) := by
  obtain ⟨hlow, hhigh⟩ := log2_bounds hnum hden
  let guess : Int := (Nat.log2 num : Int) - Nat.log2 den - 52
  let exact : Int :=
    if (scaled num den guess).1 < twoPow 52 * (scaled num den guess).2 then guess - 1 else guess
  have heq : exponentFor num den = max minExponent exact := rfl
  have hd : (0 : Rat) < (scaled num den guess).2 := by
    exact_mod_cast scaled_pos num (Nat.pos_of_ne_zero hden) guess
  have htest : (scaled num den guess).1 < twoPow 52 * (scaled num den guess).2 ↔
      (num / den : Rat) < 2 ^ (52 + guess) := by
    rw [zpow_add₀ two_ne_zero, ← div_lt_iff₀ (by positivity), ← div_scaled, div_lt_iff₀ hd]
    norm_cast
  have hbounds : (2 : Rat) ^ (52 + exact) ≤ num / den ∧ (num / den : Rat) < 2 ^ (53 + exact) := by
    by_cases h : (num / den : Rat) < 2 ^ (52 + guess)
    · have hexact : exact = guess - 1 := if_pos (htest.mpr h)
      rw [hexact]
      refine ⟨?_, ?_⟩
      · rwa [show 52 + (guess - 1) = (Nat.log2 num : Int) - Nat.log2 den - 1 by omega]
      · rwa [show 53 + (guess - 1) = 52 + guess by omega]
    · have hexact : exact = guess := if_neg fun htests => h (htest.mp htests)
      rw [hexact]
      refine ⟨not_lt.mp h, ?_⟩
      rwa [show 53 + guess = (Nat.log2 num : Int) - Nat.log2 den + 1 by omega]
  rw [heq]
  rcases le_total exact minExponent with hle | hle
  · rw [max_eq_left hle]
    refine ⟨le_rfl, hbounds.2.trans_le ?_, .inl rfl⟩
    exact zpow_le_zpow_right₀ one_le_two (by omega)
  · rw [max_eq_right hle]
    exact ⟨hle, hbounds.2, .inr hbounds.1⟩

/-! ## The magnitude -/

/-- The value that a quotient is rounded to, however large. -/
def nearest (num den : Nat) : Rat :=
  divideToEven (scaled num den (exponentFor num den)).1
    (scaled num den (exponentFor num den)).2 * 2 ^ exponentFor num den

/-- A number of the format with a larger exponent than the chosen one is a whole number of units. -/
theorem exists_units {k : Nat} {e f : Int} (h : e ≤ f) :
    ∃ n : Nat, (k * 2 ^ f : Rat) = n * 2 ^ e := by
  refine ⟨k * 2 ^ (f - e).toNat, ?_⟩
  push_cast
  rw [mul_assoc, ← zpow_natCast, Int.toNat_of_nonneg (by omega), ← zpow_add₀ two_ne_zero]
  congr 2
  omega

/-- A number of the format with a smaller exponent than the chosen one has a bit less. -/
theorem lt_of_exponent_lt {k : Nat} {e f : Int} (hk : k < twoPow precision) (h : f < e) :
    (k * 2 ^ f : Rat) < 2 ^ (52 + e) := by
  have hk' : (k : Rat) < 2 ^ (53 : Int) := by exact_mod_cast hk
  calc (k * 2 ^ f : Rat) < 2 ^ (53 : Int) * 2 ^ f := mul_lt_mul_of_pos_right hk' (by positivity)
    _ = 2 ^ (53 + f) := (zpow_add₀ two_ne_zero _ _).symm
    _ ≤ 2 ^ (52 + e) := zpow_le_zpow_right₀ one_le_two (by omega)

variable {k : Nat} {f : Int}

/-- Whole numbers of units bound the rounded value as they bound the quotient. -/
theorem units_le_nearest (hden : den ≠ 0) {n : Nat}
    (h : (n * 2 ^ exponentFor num den : Rat) ≤ num / den) :
    (n * 2 ^ exponentFor num den : Rat) ≤ nearest num den := by
  have hd := scaled_pos num (Nat.pos_of_ne_zero hden) (exponentFor num den)
  have hd' : (0 : Rat) < (scaled num den (exponentFor num den)).2 := by exact_mod_cast hd
  have hunit : (0 : Rat) < 2 ^ exponentFor num den := by positivity
  rw [← le_div_iff₀ hunit, ← div_scaled, le_div_iff₀ hd'] at h
  exact mul_le_mul_of_nonneg_right
    (by exact_mod_cast le_divideToEven (by exact_mod_cast h) hd) hunit.le

theorem nearest_le_units (hden : den ≠ 0) {n : Nat}
    (h : (num / den : Rat) ≤ n * 2 ^ exponentFor num den) :
    nearest num den ≤ n * 2 ^ exponentFor num den := by
  have hd := scaled_pos num (Nat.pos_of_ne_zero hden) (exponentFor num den)
  have hd' : (0 : Rat) < (scaled num den (exponentFor num den)).2 := by exact_mod_cast hd
  have hunit : (0 : Rat) < 2 ^ exponentFor num den := by positivity
  rw [← div_le_iff₀ hunit, ← div_scaled, div_le_iff₀ hd'] at h
  exact mul_le_mul_of_nonneg_right
    (by exact_mod_cast divideToEven_le (by exact_mod_cast h) hd) hunit.le

/-- A quotient that gives the mantissa all its bits keeps them. -/
theorem bits_le_nearest (hden : den ≠ 0)
    (h : (2 : Rat) ^ (52 + exponentFor num den) ≤ num / den) :
    (2 : Rat) ^ (52 + exponentFor num den) ≤ nearest num den := by
  have hunits : ((2 : Rat) ^ (52 + exponentFor num den)) =
      (twoPow 52 : Nat) * 2 ^ exponentFor num den := by
    rw [zpow_add₀ two_ne_zero, twoPow_eq_pow]
    rfl
  rw [hunits] at h ⊢
  exact units_le_nearest hden h

/-- What is at least a number of the format is rounded to at least that number. -/
theorem le_nearest (hnum : num ≠ 0) (hden : den ≠ 0) (hformat : InFormat k f)
    (h : (k * 2 ^ f : Rat) ≤ num / den) : (k * 2 ^ f : Rat) ≤ nearest num den := by
  rcases le_or_gt (exponentFor num den) f with hle | hlt
  · obtain ⟨n, hn⟩ := exists_units (k := k) hle
    rw [hn] at h ⊢
    exact units_le_nearest hden h
  · obtain ⟨-, -, hsmallest | hbits⟩ := exponentFor_bounds hnum hden
    · exact absurd hformat.2.1 (by omega)
    · exact (lt_of_exponent_lt hformat.1 hlt).le.trans (bits_le_nearest hden hbits)

/-- What is at most a number of the format is rounded to at most that number. -/
theorem nearest_le (hnum : num ≠ 0) (hden : den ≠ 0) (hformat : InFormat k f)
    (h : (num / den : Rat) ≤ k * 2 ^ f) : nearest num den ≤ (k * 2 ^ f : Rat) := by
  rcases le_or_gt (exponentFor num den) f with hle | hlt
  · obtain ⟨n, hn⟩ := exists_units (k := k) hle
    rw [hn] at h ⊢
    exact nearest_le_units hden h
  · obtain ⟨-, -, hsmallest | hbits⟩ := exponentFor_bounds hnum hden
    · exact absurd hformat.2.1 (by omega)
    · exact absurd (hbits.trans h) (not_le.mpr (lt_of_exponent_lt hformat.1 hlt))

theorem rounded_eq (num den : Nat) : rounded num den =
    carried (divideToEven (scaled num den (exponentFor num den)).1
      (scaled num den (exponentFor num den)).2) (exponentFor num den) := rfl

/-- What the mantissa and the exponent of a rounded quotient stand for, and their size. -/
theorem rounded_spec (hnum : num ≠ 0) (hden : den ≠ 0) :
    ((rounded num den).1 * 2 ^ (rounded num den).2 : Rat) = nearest num den ∧
      (rounded num den).1 < twoPow precision ∧ minExponent ≤ (rounded num den).2 ∧
      ((rounded num den).2 = minExponent ∨
        (2 : Rat) ^ (52 + (rounded num den).2) ≤ nearest num den) := by
  obtain ⟨hsmallest, hbelow, hbits⟩ := exponentFor_bounds hnum hden
  have htwice : ((twoPow precision : Nat) : Rat) = (twoPow 52 : Nat) * 2 := by
    rw [precision, twoPow_succ 52, Nat.cast_mul, Nat.cast_ofNat]
  let m := divideToEven (scaled num den (exponentFor num den)).1
    (scaled num den (exponentFor num den)).2
  have hnearest : nearest num den = m * 2 ^ exponentFor num den := rfl
  have hle : m ≤ twoPow precision := by
    have hunits : nearest num den ≤ (twoPow precision : Nat) * 2 ^ exponentFor num den := by
      refine nearest_le_units hden ?_
      rw [twoPow_eq_pow, ← zpow_add₀ two_ne_zero]
      exact hbelow.le
    rw [hnearest, mul_le_mul_iff_left₀ (by positivity)] at hunits
    exact_mod_cast hunits
  by_cases hfull : m = twoPow precision
  · -- The carry: half the mantissa, and the next exponent.
    have hrounded : rounded num den = (twoPow 52, exponentFor num den + 1) := by
      rw [rounded_eq, carried, if_pos hfull]
    have hvalue : ((twoPow 52 : Nat) * 2 ^ (exponentFor num den + 1) : Rat) = nearest num den := by
      rw [hnearest, hfull, htwice, zpow_add₀ two_ne_zero, zpow_one, mul_right_comm, mul_assoc]
    rw [hrounded]
    have hless : twoPow 52 < twoPow precision := by decide
    refine ⟨hvalue, hless, hsmallest.trans (Int.le_add_one le_rfl), .inr (le_of_eq ?_)⟩
    rw [← hvalue, twoPow_eq_pow, zpow_add₀ two_ne_zero]
    rfl
  · have hrounded : rounded num den = (m, exponentFor num den) := if_neg hfull
    rw [hrounded]
    exact ⟨hnearest.symm, lt_of_le_of_ne hle hfull, hsmallest,
      hbits.imp_right (bits_le_nearest hden)⟩

/-- A rounded quotient that the format has no room for is greater than every number in it. -/
theorem lt_nearest (hnum : num ≠ 0) (hden : den ≠ 0)
    (hlarge : ¬ InFormat (rounded num den).1 (rounded num den).2) (hformat : InFormat k f) :
    (k * 2 ^ f : Rat) < nearest num den := by
  obtain ⟨-, hmantissa, hsmallest, hbits⟩ := rounded_spec hnum hden
  have hexponent : maxExponent < (rounded num den).2 :=
    not_le.mp fun hle => hlarge ⟨hmantissa, hsmallest, hle⟩
  obtain hbits : (2 : Rat) ^ (52 + (rounded num den).2) ≤ nearest num den :=
    hbits.resolve_left fun heq => absurd (heq ▸ hexponent) (by decide)
  exact (lt_of_exponent_lt hformat.1 (hformat.2.2.trans_lt hexponent)).trans_le hbits

end

/-! ## Numbers of the format -/

/-- What a quotient of whole numbers is rounded to: its magnitude with a sign, or an infinity beyond
the format. -/
theorem ofRatio_cases {num den : Nat} (hnum : num ≠ 0) (hden : den ≠ 0) (negative : Bool) :
    (ofRatio negative num den).place? =
        some (.ofRat (if negative then -nearest num den else nearest num den)) ∨
      ofRatio negative num den = .infinite negative ∧
        ∀ k f, InFormat k f → (k * 2 ^ f : Rat) < nearest num den := by
  obtain ⟨hvalue, -⟩ := rounded_spec hnum hden
  rw [ofRatio, if_neg hnum, ofParts]
  split
  · rw [place?, valueOf_eq, hvalue]
    exact .inl rfl
  · next hlarge => exact .inr ⟨rfl, fun _ _ => lt_nearest hnum hden hlarge⟩

theorem nearest_nonneg (num den : Nat) : 0 ≤ nearest num den := by
  unfold nearest
  exact mul_nonneg (Nat.cast_nonneg _) (zpow_pos two_pos _).le

theorem magnitude_nonneg (m : Nat) (e : Int) : (0 : Rat) ≤ m * 2 ^ e :=
  mul_nonneg (Nat.cast_nonneg _) (zpow_pos two_pos _).le

/-- The magnitude that a quotient is rounded to, however large. -/
def magnitudeOf (q : Rat) : Rat := nearest q.num.natAbs q.den

section

variable {negative : Bool} {m : Nat} {e : Int} {q : Rat}

theorem natAbs_num_div_den (q : Rat) : (q.num.natAbs : Rat) / q.den = |q| := by
  rw [Rat.abs_def, Rat.divInt_eq_div]
  rfl

theorem le_magnitudeOf (hq : q ≠ 0) (h : InFormat m e) (hle : (m * 2 ^ e : Rat) ≤ |q|) :
    (m * 2 ^ e : Rat) ≤ magnitudeOf q := by
  rw [← natAbs_num_div_den] at hle
  exact le_nearest (by simpa using hq) q.den_ne_zero h hle

theorem magnitudeOf_le (hq : q ≠ 0) (h : InFormat m e) (hle : |q| ≤ (m * 2 ^ e : Rat)) :
    magnitudeOf q ≤ (m * 2 ^ e : Rat) := by
  rw [← natAbs_num_div_den] at hle
  exact nearest_le (by simpa using hq) q.den_ne_zero h hle

theorem place_ofRat_zero : (ofRat 0).place? = some (.ofRat 0) := by
  have hzero : ofRat 0 = zero false := rfl
  rw [hzero, zero, place?, valueOf_eq]
  simp

/-- The place of a rounded quotient: that of its rounded magnitude, or an end of the line if the
format has no room for that. -/
theorem place_ofRat (hq : q ≠ 0) :
    (ofRat q).place? = some (.ofRat (if q < 0 then -magnitudeOf q else magnitudeOf q)) ∨
      (ofRat q).place? = some (if q < 0 then ⊥ else ⊤) ∧
        ∀ k f, InFormat k f → (k * 2 ^ f : Rat) < magnitudeOf q := by
  have hnum : q.num.natAbs ≠ 0 := by simpa using hq
  have hcases := ofRatio_cases hnum q.den_ne_zero (q < 0)
  rw [← ofRat] at hcases
  rcases hcases with hplace | ⟨hinfinite, hlarge⟩
  · exact .inl (by simpa [magnitudeOf] using hplace)
  · exact .inr ⟨by simp [hinfinite, place?], hlarge⟩

/-- What is at least a number of the format is rounded to at least that number. -/
theorem le_place_ofRat (h : InFormat m e) (hle : valueOf negative m e ≤ q) :
    ∃ b, (ofRat q).place? = some b ∧ .ofRat (valueOf negative m e) ≤ b := by
  rw [valueOf_eq] at hle ⊢
  have hmagnitude := magnitude_nonneg m e
  rcases lt_trichotomy q 0 with hneg | rfl | hpos
  · obtain rfl : negative = true := by
      by_contra hsign
      rw [if_neg hsign] at hle
      exact absurd (hmagnitude.trans hle) (not_le.mpr hneg)
    have hle' := magnitudeOf_le hneg.ne h ((abs_of_neg hneg).trans_le (neg_le.mp hle))
    rcases place_ofRat hneg.ne with hplace | ⟨-, hlarge⟩
    · exact ⟨_, hplace, by simpa [hneg] using hle'⟩
    · exact absurd (hlarge m e h) (not_lt.mpr hle')
  · exact ⟨_, place_ofRat_zero, Line.ofRat_le_ofRat.mpr hle⟩
  · have hsign : ¬ q < 0 := hpos.asymm
    rcases place_ofRat hpos.ne' with hplace | ⟨hplace, -⟩
    · refine ⟨_, hplace, Line.ofRat_le_ofRat.mpr ?_⟩
      rw [if_neg hsign]
      cases negative with
      | true => exact (neg_nonpos.mpr hmagnitude).trans (nearest_nonneg _ _)
      | false => exact le_magnitudeOf hpos.ne' h (hle.trans_eq (abs_of_pos hpos).symm)
    · rw [if_neg hsign] at hplace
      exact ⟨_, hplace, le_top⟩

/-- What is at most a number of the format is rounded to at most that number. -/
theorem place_ofRat_le (h : InFormat m e) (hle : q ≤ valueOf negative m e) :
    ∃ b, (ofRat q).place? = some b ∧ b ≤ .ofRat (valueOf negative m e) := by
  rw [valueOf_eq] at hle ⊢
  have hmagnitude := magnitude_nonneg m e
  rcases lt_trichotomy q 0 with hneg | rfl | hpos
  · rcases place_ofRat hneg.ne with hplace | ⟨hplace, -⟩
    · refine ⟨_, hplace, Line.ofRat_le_ofRat.mpr ?_⟩
      rw [if_pos hneg]
      cases negative with
      | true =>
        exact neg_le_neg
          (le_magnitudeOf hneg.ne h ((le_neg.mp hle).trans_eq (abs_of_neg hneg).symm))
      | false => exact (neg_nonpos.mpr (nearest_nonneg _ _)).trans hmagnitude
    · rw [if_pos hneg] at hplace
      exact ⟨_, hplace, bot_le⟩
  · exact ⟨_, place_ofRat_zero, Line.ofRat_le_ofRat.mpr hle⟩
  · have hsign : ¬ q < 0 := hpos.asymm
    obtain rfl : negative = false := by
      by_contra hsigned
      rw [if_pos (by simpa using hsigned)] at hle
      exact absurd (hle.trans (neg_nonpos.mpr hmagnitude)) (not_le.mpr hpos)
    have hle' := magnitudeOf_le hpos.ne' h ((abs_of_pos hpos).trans_le hle)
    rcases place_ofRat hpos.ne' with hplace | ⟨-, hlarge⟩
    · exact ⟨_, hplace, by simpa [hsign] using hle'⟩
    · exact absurd (hlarge m e h) (not_lt.mpr hle')

end

/-! ## Comparing with a rounded quotient -/

theorem ofRat_ne_nan (q : Rat) : ofRat q ≠ .nan := by
  rw [ofRat, ofRatio]
  split
  · simp [zero]
  · rw [ofParts]
    split <;> simp

/-- A rounded quotient that is less than a number was less before. -/
theorem isAbove_of_ofRat_isLess {x : Binary64} {q : Rat} (h : (ofRat q).IsLess x) :
    x.IsAbove q := by
  obtain ⟨b, a, hb, ha, hlt⟩ := h
  refine ⟨a, ha, ?_⟩
  by_contra hle
  cases x with
  | nan => simp [place?] at ha
  | infinite negative =>
    obtain rfl := Option.some.inj ha
    cases negative <;> simp at hle hlt
  | finite negative m e hformat =>
    obtain rfl := Option.some.inj ha
    rw [not_lt, Line.ofRat_le_ofRat] at hle
    obtain ⟨b', hb', hle'⟩ := le_place_ofRat hformat hle
    obtain rfl := Option.some.inj (hb.symm.trans hb')
    exact absurd hlt (not_lt.mpr hle')

/-- A quotient that is at most a number of the format below another number is rounded to less than
that one. -/
theorem ofRat_isLess_of_le {x : Binary64} {q : Rat} {negative : Bool} {m : Nat} {e : Int}
    (hformat : InFormat m e) (hle : q ≤ valueOf negative m e)
    (h : x.IsAbove (valueOf negative m e)) : (ofRat q).IsLess x := by
  obtain ⟨b, hb, hle'⟩ := place_ofRat_le hformat hle
  obtain ⟨a, ha, hlt⟩ := h
  exact ⟨b, a, hb, ha, hle'.trans_lt hlt⟩

end Binary64

end Eligibility

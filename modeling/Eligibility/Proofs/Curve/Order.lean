import Eligibility.Proofs.Curve.Lift
import Mathlib.GroupTheory.OrderOfElement
import Mathlib.GroupTheory.Perm.Cycle.Type
set_option autoImplicit false

/-!
# Curve: the order of its points

The base point has the order `n`, which is worked out on points that are scaled so that no
step divides.  There are at most two points at each coordinate, none is its own negative,
and so the group has no more than `n` points: copies of any point count modulo `n`.
-/

namespace Eligibility.Curve

/-- The coordinates of the base point. -/
def baseX : ZMod p :=
  ((0x79be667ef9dcbbac55a06295ce870b07029bfcdb2dce28d959f2815b16f81798 : Nat) : ZMod p)

def baseY : ZMod p :=
  ((0x483ada7726a3c4655da4fbfc0e1108a8fd17b448a68554199c47d08ffb10d4b8 : Nat) : ZMod p)

theorem nonsingular_base : curve.Nonsingular baseX baseY := nonsingular_of_mod (by rfl)

/-- The base point in the group. -/
def generator : curve.Point := .some baseX baseY nonsingular_base

theorem of_generator : Point.of generator = base := by
  rw [generator, of_some, base, baseX, baseY, ZMod.val_cast_of_lt, ZMod.val_cast_of_lt]
  · rw [p_eq]
    norm_num
  · rw [p_eq]
    norm_num

/-! ## Scaled points -/

/-- Coordinates that are scaled, `x` by the square of `z` and `y` by its cube. -/
structure Scaled where
  x : ZMod p
  y : ZMod p
  z : ZMod p

namespace Scaled

/-- The sum of a point with itself. -/
def double (s : Scaled) : Scaled :=
  let b := 4 * s.x * (s.y * s.y)
  let c := 3 * s.x * s.x
  let x := c * c - 2 * b
  ⟨x, c * (b - x) - 8 * (s.y * s.y) * (s.y * s.y), 2 * s.y * s.z⟩

/-- The sum of a point and the base point. -/
def addBase (s : Scaled) : Scaled :=
  let h := baseX * (s.z * s.z) - s.x
  let r := baseY * (s.z * s.z * s.z) - s.y
  let v := s.x * (h * h)
  let x := r * r - h * h * h - 2 * v
  ⟨x, r * (v - x) - s.y * (h * h * h), s.z * h⟩

/-- Copies of the base point. -/
def copies (k : Nat) : Scaled :=
  if k ≤ 1 then ⟨baseX, baseY, 1⟩
  else
    let twice := (copies (k / 2)).double
    if k % 2 = 1 then twice.addBase else twice
termination_by k
decreasing_by omega

/-- The scaled coordinates are those of a point. -/
def Stands (s : Scaled) : curve.Point → Prop
  | .zero => False
  | .some x y _ => s.x = x * s.z ^ 2 ∧ s.y = y * s.z ^ 3

variable {s : Scaled} {P : curve.Point}

theorem Stands.double (h : s.Stands P) : s.double.Stands (P + P) := by
  cases P with
  | zero => exact absurd h id
  | some x y hP =>
    obtain ⟨hx, hy⟩ := h
    have hne := ne_zero_of_nonsingular hP
    have hneg : y ≠ curve.negY x y := fun heq => hne (eq_negY_iff.mp heq)
    have htwice : 2 * y ≠ 0 := mul_ne_zero two_ne_zero hne
    have hslope : curve.slope x x y y * (2 * y) = 3 * x ^ 2 := by
      rw [WeierstrassCurve.Affine.slope_of_Y_ne rfl hneg, negY_eq, sub_neg_eq_add, ← two_mul,
        div_mul_cancel₀ _ htwice]
      simp [curve]
    rw [WeierstrassCurve.Affine.Point.add_self_of_Y_ne hneg]
    simp only [Stands, Scaled.double, WeierstrassCurve.Affine.addY,
      WeierstrassCurve.Affine.addX, WeierstrassCurve.Affine.negAddY, negY_eq, hx, hy]
    generalize curve.slope x x y y = slope at hslope ⊢
    simp only [curve]
    constructor
    · linear_combination (-s.z ^ 8 * (slope * (2 * y) + 3 * x ^ 2)) * hslope
    · linear_combination
        (-4 * y ^ 2 * s.z ^ 12 * (x - (slope ^ 2 - x - x))) * hslope +
        (3 * x ^ 2 * s.z ^ 12) * (slope * (2 * y) + 3 * x ^ 2) * hslope

/-- A point that is not at the coordinate of the base point has a sum with it. -/
theorem Stands.addBase (h : s.Stands P) (hz : s.addBase.z ≠ 0) :
    s.addBase.Stands (P + generator) := by
  cases P with
  | zero => exact absurd h id
  | some x y hP =>
    obtain ⟨hx, hy⟩ := h
    have hne : x ≠ baseX := by
      rintro rfl
      refine hz ?_
      simp only [Scaled.addBase, hx]
      ring
    have hslope : curve.slope x baseX y baseY * (x - baseX) = y - baseY := by
      rw [WeierstrassCurve.Affine.slope_of_X_ne hne, div_mul_cancel₀ _ (sub_ne_zero.mpr hne)]
    rw [generator, WeierstrassCurve.Affine.Point.add_of_X_ne hne]
    simp only [Stands, Scaled.addBase, WeierstrassCurve.Affine.addY,
      WeierstrassCurve.Affine.addX, WeierstrassCurve.Affine.negAddY, negY_eq, hx, hy]
    generalize curve.slope x baseX y baseY = slope at hslope ⊢
    have hbase : baseY = y - slope * (x - baseX) := by rw [hslope, sub_sub_cancel]
    simp only [curve, hbase]
    constructor
    · ring
    · ring

theorem Stands.unique {Q : curve.Point} (hz : s.z ≠ 0) (h : s.Stands P) (h' : s.Stands Q) :
    P = Q := by
  cases P with
  | zero => exact absurd h id
  | some x y hP =>
    cases Q with
    | zero => exact absurd h' id
    | some x' y' hQ =>
      obtain rfl := mul_right_cancel₀ (pow_ne_zero 2 hz) (h.1.symm.trans h'.1)
      obtain rfl := mul_right_cancel₀ (pow_ne_zero 3 hz) (h.2.symm.trans h'.2)
      rfl

/-- As long as no step lost the scale, copies are taken as in the group. -/
theorem stands_copies {k : Nat} (hk : 0 < k) (hz : (copies k).z ≠ 0) :
    (copies k).Stands (k • generator) := by
  induction k using Nat.strongRecOn with
  | _ k ih =>
    rw [copies] at hz ⊢
    split at hz
    · next hone =>
      have hk : k = 1 := by omega
      subst hk
      rw [if_pos hone, one_nsmul]
      exact ⟨by ring, by ring⟩
    · next hmore =>
      have hscale : (copies (k / 2)).double.z ≠ 0 := by
        intro hzero
        split at hz
        · exact hz (mul_eq_zero_of_left hzero _)
        · exact hz hzero
      have hhalf := ih (k / 2) (by omega) (by omega) (right_ne_zero_of_mul hscale)
      rw [if_neg hmore]
      split at hz
      · next hodd =>
        have hsum : k = k / 2 + k / 2 + 1 := by omega
        rw [if_pos hodd]
        conv_rhs => rw [hsum, succ_nsmul, add_nsmul]
        exact hhalf.double.addBase hz
      · next heven =>
        have hsum : k = k / 2 + k / 2 := by omega
        rw [if_neg heven]
        conv_rhs => rw [hsum, add_nsmul]
        exact hhalf.double

/-- One copy short of `n`, the base point has come to its negative. -/
theorem stands_pred : (copies (n - 1)).z ≠ 0 ∧ (copies (n - 1)).Stands (-generator) := by
  rw [generator, WeierstrassCurve.Affine.Point.neg_some]
  simp only [Stands, negY_eq]
  decide +kernel

end Scaled

theorem nsmul_generator_of_stands {k : Nat} (hk : 1 < k) (hz : (Scaled.copies (k - 1)).z ≠ 0)
    (hneg : (Scaled.copies (k - 1)).Stands (-generator)) : k • generator = 0 := by
  have hpos : 0 < k - 1 := Nat.sub_pos_of_lt hk
  have hpred := (Scaled.stands_copies hpos hz).unique hz hneg
  have hsucc := succ_nsmul generator (k - 1)
  rw [hpred, neg_add_cancel, Nat.sub_add_cancel hk.le] at hsucc
  exact hsucc

theorem addOrderOf_generator : addOrderOf generator = n := by
  obtain ⟨hz, hneg⟩ := Scaled.stands_pred
  exact addOrderOf_eq_prime (nsmul_generator_of_stands prime_n.one_lt hz hneg)
    (WeierstrassCurve.Affine.Point.some_ne_zero _)

/-! ## The number of points -/

/-- A point by its first coordinate and the parity of the other. -/
def code : curve.Point → Option (ZMod p × Bool)
  | .zero => none
  | .some x y _ => some (x, y.val % 2 == 1)

theorem code_injective : Function.Injective code := by
  intro P Q h
  cases P with
  | zero =>
    cases Q with
    | zero => rfl
    | some x y hQ => exact absurd h.symm (Option.some_ne_none _)
  | some x y hP =>
    cases Q with
    | zero => exact absurd h (Option.some_ne_none _)
    | some x' y' hQ =>
      simp only [code, Option.some.injEq, Prod.mk.injEq] at h
      have hx := ZMod.natCast_zmod_val x
      exact IsAt.unique (x := x.val) ⟨hx.symm, rfl⟩ ⟨h.1.symm.trans hx.symm, h.2.symm⟩

instance : Finite curve.Point := Finite.of_injective code code_injective

theorem natCard_le : Nat.card curve.Point ≤ 2 * p + 1 := by
  refine (Nat.card_le_card_of_injective code code_injective).trans_eq ?_
  rw [Finite.card_option, Nat.card_prod, Nat.card_zmod, Nat.card_eq_fintype_card,
    Fintype.card_bool, mul_comm]

/-- No point but the neutral one is its own negative. -/
theorem eq_zero_of_add_self {P : curve.Point} (h : P + P = 0) : P = 0 := by
  cases P with
  | zero => rfl
  | some x y hP =>
    have hneg : y ≠ curve.negY x y := fun heq => ne_zero_of_nonsingular hP (eq_negY_iff.mp heq)
    rw [WeierstrassCurve.Affine.Point.add_self_of_Y_ne hneg] at h
    exact absurd h (WeierstrassCurve.Affine.Point.some_ne_zero _)

theorem not_two_dvd_natCard : ¬ 2 ∣ Nat.card curve.Point := by
  intro htwo
  obtain ⟨P, hP⟩ := exists_prime_addOrderOf_dvd_card' 2 htwo
  have hzero : P = 0 := by
    refine eq_zero_of_add_self ?_
    rw [← two_nsmul, ← hP, addOrderOf_nsmul_eq_zero]
  rw [hzero, addOrderOf_zero] at hP
  exact absurd hP (by decide)

/-- There are `n` points: the base point makes it a multiple of `n`, three times as many are too
many, and twice as many would have one that is its own negative. -/
theorem natCard_eq : Nat.card curve.Point = n := by
  obtain ⟨m, hm⟩ : n ∣ Nat.card curve.Point :=
    addOrderOf_generator ▸ addOrderOf_dvd_natCard generator
  have hle := natCard_le
  have hpos : 0 < Nat.card curve.Point := Nat.card_pos
  have hodd := not_two_dvd_natCard
  have hthree : 2 * p + 1 < n * 3 := by
    rw [p_eq, n_eq]
    norm_num
  rw [hm] at hle hpos hodd
  have hm3 : m < 3 := Nat.lt_of_mul_lt_mul_left (hle.trans_lt hthree)
  have hm0 : 0 < m := Nat.pos_of_mul_pos_left hpos
  have hm2 : m ≠ 2 := fun heq => hodd (heq ▸ Nat.dvd_mul_left 2 n)
  have hm1 : m = 1 := by omega
  rw [hm, hm1, mul_one]

/-- Copies of any point count modulo `n`. -/
theorem nsmul_congr {a b : Nat} (h : (a : ZMod n) = b) (P : curve.Point) : a • P = b • P := by
  have hdvd : addOrderOf P ∣ n := natCard_eq ▸ addOrderOf_dvd_natCard P
  have hmod := (ZMod.natCast_eq_natCast_iff a b n).mp h
  exact nsmul_eq_nsmul_iff_modEq.mpr (hmod.of_dvd hdvd)

/-- Copies by the difference from zero are the negative. -/
theorem subMod_nsmul (k : Nat) (P : curve.Point) : subMod 0 (k % n) n • P = -(k • P) := by
  have hle : k % n ≤ n := (Nat.mod_lt k prime_n.pos).le
  have hsum : ((subMod 0 (k % n) n + k : Nat) : ZMod n) = (0 : Nat) := by
    rw [Nat.cast_add, cast_subMod hle, ZMod.natCast_mod, Nat.cast_zero, zero_sub, neg_add_cancel]
  refine eq_neg_of_add_eq_zero_left ?_
  rw [← add_nsmul, nsmul_congr hsum, zero_nsmul]

theorem sub_nsmul_neg {k : Nat} (h : k ≤ n) (P : curve.Point) : (n - k) • -P = k • P := by
  have hsum : ((n - k + k : Nat) : ZMod n) = (0 : Nat) := by
    rw [Nat.sub_add_cancel h, ZMod.natCast_self, Nat.cast_zero]
  rw [neg_nsmul, neg_eq_iff_add_eq_zero, ← add_nsmul, nsmul_congr hsum, zero_nsmul]

/-- Copies by a number below `n` are undone by its inverse. -/
theorem nsmul_eq_iff {r : Nat} (hpos : 0 < r) (hlt : r < n) {P Q : curve.Point} :
    r • Q = P ↔ Q = inverseMod r n • P := by
  have hcoprime := (Nat.coprime_of_lt_prime hpos.ne' hlt prime_n).symm
  have hinverse : ((inverseMod r n * r : Nat) : ZMod n) = (1 : Nat) := by
    rw [Nat.cast_mul, cast_inverseMod_mul prime_n.pos hcoprime, Nat.cast_one]
  constructor
  · rintro rfl
    rw [← mul_nsmul', nsmul_congr hinverse, one_nsmul]
  · rintro rfl
    rw [← mul_nsmul', mul_comm, nsmul_congr hinverse, one_nsmul]

end Eligibility.Curve

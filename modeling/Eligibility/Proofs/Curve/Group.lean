import Eligibility.Proofs.Curve.Field
import Mathlib.AlgebraicGeometry.EllipticCurve.Affine.Point
set_option autoImplicit false

/-!
# Curve: the group of its points

The points of `y² = x³ + 7` over the integers modulo `p` are a group.  Adding points and
taking copies of a point by their remainders is what the group does.
-/

namespace Eligibility.Curve

/-- The curve over the field of coordinates. -/
def curve : WeierstrassCurve.Affine (ZMod p) := ⟨0, 0, 0, 0, 7⟩

theorem equation_iff {x y : ZMod p} : curve.Equation x y ↔ y ^ 2 = x ^ 3 + 7 := by
  simp [WeierstrassCurve.Affine.equation_iff, curve]

/-- The curve has no singular point. -/
theorem nonsingular_iff {x y : ZMod p} : curve.Nonsingular x y ↔ y ^ 2 = x ^ 3 + 7 := by
  have hdiscriminant : curve.Δ ≠ 0 := by
    have hvalue : curve.Δ = -((21168 : Nat) : ZMod p) := by
      simp only [WeierstrassCurve.Δ, WeierstrassCurve.b₂, WeierstrassCurve.b₄,
        WeierstrassCurve.b₆, WeierstrassCurve.b₈, curve]
      norm_num
    rw [hvalue, neg_ne_zero]
    exact natCast_ne_zero (by decide) (lt_p (by decide))
  rw [← equation_iff, WeierstrassCurve.Affine.equation_iff_nonsingular_of_Δ_ne_zero hdiscriminant]

theorem cast_square (x : Nat) : (((x * x * x + 7) % p : Nat) : ZMod p) = (x : ZMod p) ^ 3 + 7 := by
  rw [ZMod.natCast_mod]
  push_cast
  ring

/-- Remainders that solve the equation are a point. -/
theorem nonsingular_of_mod {x y : Nat} (h : y * y % p = (x * x * x + 7) % p) :
    curve.Nonsingular (x : ZMod p) y := by
  rw [nonsingular_iff, ← cast_square, ← h, ZMod.natCast_mod, Nat.cast_mul, sq]

theorem negY_eq (x y : ZMod p) : curve.negY x y = -y := by
  simp [curve]

/-- A point by its remainders. -/
def Point.of : curve.Point → Point
  | .zero => .infinity
  | .some x y _ => .affine x.val y.val

@[simp] theorem of_zero : Point.of 0 = .infinity := rfl

@[simp] theorem of_some {x y : ZMod p} (h : curve.Nonsingular x y) :
    Point.of (.some x y h) = .affine x.val y.val := rfl

theorem of_injective : Function.Injective Point.of := by
  intro P Q h
  cases P with
  | zero =>
    cases Q with
    | zero => rfl
    | some x y hQ => exact absurd h Point.noConfusion
  | some x y hP =>
    cases Q with
    | zero => exact absurd h Point.noConfusion
    | some x' y' hQ =>
      rw [of_some, of_some, Point.affine.injEq] at h
      obtain rfl := ZMod.val_injective p h.1
      obtain rfl := ZMod.val_injective p h.2
      rfl

/-! ## The group law -/

/-- The point on a line is the one that the group law computes. -/
theorem onLine_eq {slope x y x' : Nat} (hx : x < p) (hy : y < p) (hx' : x' < p) :
    onLine slope x y x' = .affine (curve.addX (x : ZMod p) x' slope).val
      (curve.addY (x : ZMod p) x' y slope).val := by
  have hthird : ((subMod (subMod (slope * slope % p) x p) x' p : Nat) : ZMod p) =
      curve.addX (x : ZMod p) x' slope := by
    rw [cast_subMod hx'.le, cast_subMod hx.le, ZMod.natCast_mod]
    simp [curve, sq]
  have hlt : subMod (subMod (slope * slope % p) x p) x' p < p := subMod_lt p_pos
  have hvalue := eq_val hlt hthird
  refine congrArg₂ Point.affine hvalue (eq_val (subMod_lt p_pos) ?_)
  rw [cast_subMod hy.le, ZMod.natCast_mod, Nat.cast_mul, cast_subMod hlt.le, hthird]
  simp [WeierstrassCurve.Affine.addY, curve]
  ring

theorem two_ne_zero : (2 : ZMod p) ≠ 0 := by
  rw [← Nat.cast_ofNat]
  exact natCast_ne_zero (by decide) (lt_p (by decide))

theorem eq_negY_iff {x y : ZMod p} : y = curve.negY x y ↔ y = 0 := by
  rw [negY_eq, eq_neg_iff_add_eq_zero, ← two_mul, mul_eq_zero]
  simp only [two_ne_zero, false_or]

theorem double_of (Q : curve.Point) : double (.of Q) = .of (Q + Q) := by
  cases Q with
  | zero => rfl
  | some x y h =>
    rw [of_some, double]
    by_cases hy : y = 0
    · rw [WeierstrassCurve.Affine.Point.add_self_of_Y_eq (eq_negY_iff.mpr hy), of_zero, hy,
        ZMod.val_zero, if_pos rfl]
    · have hvalue : ¬ y.val = 0 := by rwa [ZMod.val_eq_zero]
      have hneg : y ≠ curve.negY x y := fun heq => hy (eq_negY_iff.mp heq)
      have hslope : ((3 * x.val * x.val * inverseMod (2 * y.val % p) p % p : Nat) : ZMod p) =
          curve.slope x x y y := by
        rw [WeierstrassCurve.Affine.slope_of_Y_ne rfl hneg, ZMod.natCast_mod, Nat.cast_mul,
          cast_inverseMod, ZMod.natCast_mod, negY_eq]
        push_cast
        rw [ZMod.natCast_zmod_val, ZMod.natCast_zmod_val]
        simp only [curve]
        ring
      rw [WeierstrassCurve.Affine.Point.add_self_of_Y_ne hneg, of_some, if_neg hvalue,
        onLine_eq x.val_lt y.val_lt x.val_lt, hslope, ZMod.natCast_zmod_val,
        ZMod.natCast_zmod_val]

/-- Points are added as in the group. -/
theorem add_of (P Q : curve.Point) : add (.of P) (.of Q) = .of (P + Q) := by
  cases P with
  | zero =>
    show _ = Point.of (0 + Q)
    rw [zero_add]
    rfl
  | some x y hP =>
    cases Q with
    | zero =>
      show _ = Point.of (_ + 0)
      rw [add_zero]
      rfl
    | some x' y' hQ =>
      rw [of_some, of_some, add]
      by_cases hx : x = x'
      · rw [if_pos (congrArg ZMod.val hx)]
        by_cases hy : y = y'
        · subst hx hy
          rw [if_pos rfl, ← of_some hP, double_of]
        · have hneg := (WeierstrassCurve.Affine.Y_eq_of_X_eq hP.1 hQ.1 hx).resolve_left hy
          rw [if_neg fun heq => hy (ZMod.val_injective p heq),
            WeierstrassCurve.Affine.Point.add_of_Y_eq hx hneg, of_zero]
      · have hslope : ((subMod y'.val y.val p * inverseMod (subMod x'.val x.val p) p % p : Nat) :
            ZMod p) = curve.slope x x' y y' := by
          rw [WeierstrassCurve.Affine.slope_of_X_ne hx, ZMod.natCast_mod, Nat.cast_mul,
            cast_inverseMod, cast_subMod y.val_lt.le, cast_subMod x.val_lt.le]
          simp only [ZMod.natCast_zmod_val]
          rw [← neg_sub y', ← neg_sub x', neg_div_neg_eq, div_eq_mul_inv]
        rw [if_neg fun heq => hx (ZMod.val_injective p heq),
          WeierstrassCurve.Affine.Point.add_of_X_ne hx, of_some,
          onLine_eq x.val_lt y.val_lt x'.val_lt, hslope, ZMod.natCast_zmod_val,
          ZMod.natCast_zmod_val, ZMod.natCast_zmod_val]

/-- Copies of a point are taken as in the group. -/
theorem multiply_of (k : Nat) (Q : curve.Point) : multiply k (.of Q) = .of (k • Q) := by
  induction k using Nat.strongRecOn generalizing Q with
  | _ k ih =>
    rw [multiply]
    by_cases hk : k = 0
    · rw [if_pos hk, hk, zero_nsmul, of_zero]
    · have htwice : (k / 2) • (Q + Q) = (2 * (k / 2)) • Q := by
        rw [← two_nsmul, mul_comm, mul_nsmul']
      rw [if_neg hk, double_of, ih (k / 2) (by omega), htwice]
      by_cases hodd : k % 2 = 1
      · have hsum : 2 * (k / 2) + 1 = k := by omega
        rw [if_pos hodd, add_of, ← succ_nsmul, hsum]
      · have hsum : 2 * (k / 2) = k := by omega
        rw [if_neg hodd, hsum]

end Eligibility.Curve

import Eligibility.Proofs.Curve.Prime
import Mathlib.FieldTheory.Finite.Basic
set_option autoImplicit false

/-!
# Curve: numbers modulo a prime

Remainders stand for elements of a field.  Differences and inverses of remainders are
those of the field, and the root that is tried for a number is one if the number has any.
-/

namespace Eligibility.Curve

theorem p_eq : p = 0xfffffffffffffffffffffffffffffffffffffffffffffffffffffffefffffc2f := by rfl

theorem n_eq : n = 0xfffffffffffffffffffffffffffffffebaaedce6af48a03bbfd25e8cd0364141 := by rfl

theorem n_lt_p : n < p := by
  rw [p_eq, n_eq]
  norm_num

instance : Fact (Nat.Prime p) := ⟨prime_p⟩

instance : Fact (Nat.Prime n) := ⟨prime_n⟩

theorem p_pos : 0 < p := prime_p.pos

theorem lt_p {k : Nat} (h : k ≤ 0xffff) : k < p := by
  rw [p_eq]
  omega

/-- A remainder is told by the element that it stands for. -/
theorem eq_val {k : Nat} {z : ZMod p} (hk : k < p) (h : (k : ZMod p) = z) : k = z.val := by
  rw [← h, ZMod.val_cast_of_lt hk]

/-- A number between zero and `p` is not zero in the field. -/
theorem natCast_ne_zero {k : Nat} (hpos : 0 < k) (hlt : k < p) : (k : ZMod p) ≠ 0 := by
  rw [ne_eq, ZMod.natCast_eq_zero_iff]
  exact Nat.not_dvd_of_pos_of_lt hpos hlt

/-! ## Differences and inverses -/

theorem cast_subMod {a b m : Nat} (h : b ≤ m) : ((subMod a b m : Nat) : ZMod m) = a - b := by
  rw [subMod, ZMod.natCast_mod, Nat.cast_add, Nat.cast_sub h, ZMod.natCast_self]
  ring

theorem subMod_lt {a b m : Nat} (hm : 0 < m) : subMod a b m < m := Nat.mod_lt _ hm

/-- The remainders of the Euclidean algorithm are multiples of `a` by the factors that it carries
along, down to the greatest common divisor. -/
theorem cast_euclid {m : Nat} {a : ZMod m} {r r' : Nat} {t t' : Int} (h : (t : ZMod m) * a = r)
    (h' : (t' : ZMod m) * a = r') : (euclid r r' t t' : ZMod m) * a = Nat.gcd r r' := by
  fun_induction euclid r r' t t' with
  | case1 r t t' => rw [Nat.gcd_zero_right, h]
  | case2 r r' t t' hne ih =>
    have hnext : ((t - (r / r' : Nat) * t' : Int) : ZMod m) * a = (r % r' : Nat) := by
      have hdivision : ((r' * (r / r') + r % r' : Nat) : ZMod m) = r := by rw [Nat.div_add_mod]
      rw [Int.cast_sub, Int.cast_mul, Int.cast_natCast, sub_mul, mul_assoc, h, h', ← hdivision]
      push_cast
      ring
    rw [ih h' hnext, Nat.gcd_comm r' (r % r'), ← Nat.gcd_rec, Nat.gcd_comm]

theorem cast_inverseMod_mul {a m : Nat} (hm : 0 < m) (h : Nat.Coprime a m) :
    ((inverseMod a m : Nat) : ZMod m) * a = 1 := by
  have hfactor : ((inverseMod a m : Nat) : ZMod m) = (euclid m (a % m) 0 1 : Int) := by
    rw [inverseMod, ← Int.cast_natCast, Int.toNat_of_nonneg
      (Int.emod_nonneg _ (Int.natCast_ne_zero.mpr hm.ne')), ZMod.intCast_mod]
  have hstart : ((0 : Int) : ZMod m) * a = (m : Nat) := by simp
  have hnext : ((1 : Int) : ZMod m) * a = (a % m : Nat) := by simp
  rw [hfactor, cast_euclid hstart hnext, Nat.gcd_comm, ← Nat.gcd_rec, Nat.gcd_comm]
  rw [h, Nat.cast_one]

/-- An inverse of remainders is the inverse of the field; that of zero is zero. -/
theorem cast_inverseMod {m : Nat} [hm : Fact m.Prime] (a : Nat) :
    ((inverseMod a m : Nat) : ZMod m) = (a : ZMod m)⁻¹ := by
  by_cases ha : (a : ZMod m) = 0
  · have hzero : a % m = 0 := Nat.mod_eq_zero_of_dvd ((ZMod.natCast_eq_zero_iff a m).mp ha)
    rw [ha, inv_zero, inverseMod, hzero, euclid]
    simp
  · refine eq_inv_of_mul_eq_one_left (cast_inverseMod_mul hm.out.pos ?_)
    rw [Nat.coprime_comm, hm.out.coprime_iff_not_dvd, ← ZMod.natCast_eq_zero_iff]
    exact ha

/-! ## Roots -/

/-- A number that has a root modulo `p` has this one, since `p` is three modulo four. -/
theorem root_mul_root {a : Nat} {y : ZMod p} (h : y * y = a) :
    ((powMod a ((p + 1) / 4) p : Nat) : ZMod p) * (powMod a ((p + 1) / 4) p : Nat) = a := by
  rw [powMod_eq, ZMod.natCast_mod, Nat.cast_pow, ← h]
  by_cases hy : y = 0
  · have hexponent : (p + 1) / 4 ≠ 0 := by
      have := p_eq
      omega
    rw [hy, mul_zero, zero_pow hexponent, mul_zero]
  · have hexponent : 2 * ((p + 1) / 4 + (p + 1) / 4) = p - 1 + 2 := by
      have := p_eq
      omega
    calc (y * y) ^ ((p + 1) / 4) * (y * y) ^ ((p + 1) / 4)
        = y ^ (2 * ((p + 1) / 4 + (p + 1) / 4)) := by rw [← pow_add, ← sq, ← pow_mul]
      _ = y ^ (p - 1) * y ^ 2 := by rw [hexponent, pow_add]
      _ = y * y := by rw [ZMod.pow_card_sub_one_eq_one hy, one_mul, sq]

end Eligibility.Curve

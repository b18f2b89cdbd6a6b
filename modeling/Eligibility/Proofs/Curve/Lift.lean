import Eligibility.Proofs.Curve.Group
set_option autoImplicit false

/-!
# Curve: a point by its first coordinate

At a coordinate `x` there are two points or none, since no point has the other coordinate
zero, and of the two one is odd and one is even.
-/

namespace Eligibility.Curve

/-- The point has the coordinate `x`, and a coordinate `y` that is odd or not. -/
def IsAt (x : Nat) (odd : Bool) : curve.Point → Prop
  | .zero => False
  | .some x' y _ => x' = x ∧ (y.val % 2 == 1) = odd

/-- Seven is the negative of no cube. -/
theorem ne_zero_of_nonsingular {x y : ZMod p} (h : curve.Nonsingular x y) : y ≠ 0 := by
  intro hy
  have hcube : x ^ 3 = ((p - 7 : Nat) : ZMod p) := by
    have hseven : 7 ≤ p := (lt_p (by decide)).le
    rw [Nat.cast_sub hseven, ZMod.natCast_self, zero_sub, eq_neg_iff_add_eq_zero, Nat.cast_ofNat,
      ← nonsingular_iff.mp h, hy, zero_pow (by decide)]
  have hx : x ≠ 0 := by
    rintro rfl
    have hpos : 0 < p - 7 := Nat.sub_pos_of_lt (lt_p (by decide))
    have hlt : p - 7 < p := Nat.sub_lt p_pos (by decide)
    rw [zero_pow (by decide)] at hcube
    exact natCast_ne_zero hpos hlt hcube.symm
  have hpower : ((p - 7 : Nat) : ZMod p) ^ ((p - 1) / 3) = 1 := by
    have hthird : 3 * ((p - 1) / 3) = p - 1 := by
      have := p_eq
      omega
    rw [← hcube, ← pow_mul, hthird, ZMod.pow_card_sub_one_eq_one hx]
  rw [pow_eq_one_iff prime_p.two_le] at hpower
  exact absurd hpower (by decide +kernel)

/-- The negative of an odd remainder is even, and the other way round. -/
theorem odd_neg {y : ZMod p} (hy : y ≠ 0) : ((-y).val % 2 == 1) = !(y.val % 2 == 1) := by
  have hodd : p % 2 = 1 := prime_p.eq_two_or_odd.resolve_left (lt_p (by decide)).ne'
  have hlt := y.val_lt
  have hpos : y.val ≠ 0 := by rwa [ne_eq, ZMod.val_eq_zero]
  rw [ZMod.neg_val, if_neg hy]
  rcases Nat.mod_two_eq_zero_or_one y.val with h | h
  · have hneg : (p - y.val) % 2 = 1 := by omega
    rw [h, hneg]
    rfl
  · have hneg : (p - y.val) % 2 = 0 := by omega
    rw [h, hneg]
    rfl

theorem IsAt.unique {x : Nat} {odd : Bool} {R R' : curve.Point} (h : IsAt x odd R)
    (h' : IsAt x odd R') : R = R' := by
  cases R with
  | zero => exact absurd h id
  | some X Y hR =>
    cases R' with
    | zero => exact absurd h' id
    | some X' Y' hR' =>
      obtain ⟨rfl, hodd⟩ := h
      obtain ⟨rfl, hodd'⟩ := h'
      have hroots : Y ^ 2 = Y' ^ 2 := by rw [nonsingular_iff.mp hR, nonsingular_iff.mp hR']
      rcases sq_eq_sq_iff_eq_or_eq_neg.mp hroots with rfl | rfl
      · rfl
      · rw [odd_neg (ne_zero_of_nonsingular hR'), hodd'] at hodd
        exact absurd hodd (by simp)

theorem IsAt.neg {x : Nat} {odd : Bool} {R : curve.Point} (h : IsAt x odd R) :
    IsAt x (!odd) (-R) := by
  cases R with
  | zero => exact absurd h id
  | some X Y hR =>
    obtain ⟨hx, rfl⟩ := h
    rw [WeierstrassCurve.Affine.Point.neg_some]
    refine ⟨hx, ?_⟩
    rw [negY_eq, odd_neg (ne_zero_of_nonsingular hR)]

/-- Of the two points at a coordinate there is one for each parity. -/
theorem exists_isAt {x : Nat} {y : ZMod p} (h : y ^ 2 = (x : ZMod p) ^ 3 + 7) (odd : Bool) :
    ∃ R, IsAt x odd R := by
  have hat : IsAt x (y.val % 2 == 1) (.some x y (nonsingular_iff.mpr h)) := ⟨rfl, rfl⟩
  by_cases hodd : (y.val % 2 == 1) = odd
  · exact ⟨_, hodd ▸ hat⟩
  · exact ⟨_, Bool.not_eq.mpr hodd ▸ hat.neg⟩

theorem exists_isAt_iff {x : Nat} {odd : Bool} :
    (∃ R, IsAt x odd R) ↔ ∃ y : ZMod p, y ^ 2 = (x : ZMod p) ^ 3 + 7 := by
  constructor
  · rintro ⟨R, hR⟩
    cases R with
    | zero => exact absurd hR id
    | some x' y h =>
      obtain ⟨rfl, -⟩ := hR
      exact ⟨y, nonsingular_iff.mp h⟩
  · rintro ⟨y, hy⟩
    exact exists_isAt hy odd

/-! ## Trying a root -/

variable {x : Nat} {odd : Bool} {q : Point}

/-- What is lifted is a point. -/
theorem isAt_of_lift? (hx : x < p) (h : lift? x odd = some q) : ∃ R, IsAt x odd R ∧ q = .of R := by
  simp only [lift?] at h
  generalize hroot : powMod ((x * x * x + 7) % p) ((p + 1) / 4) p = root at h
  have hlt : root < p := by
    rw [← hroot, powMod_eq]
    exact Nat.mod_lt _ p_pos
  split at h
  · next hsquare =>
    have hpoint := nonsingular_of_mod hsquare
    have hvalue := ZMod.val_cast_of_lt hlt
    have hxvalue := ZMod.val_cast_of_lt hx
    have hat : IsAt x (root % 2 == 1) (.some x root hpoint) := ⟨rfl, by rw [hvalue]⟩
    rw [Option.some.injEq] at h
    split at h
    · next hodd =>
      rw [beq_iff_eq.mp hodd] at hat
      refine ⟨_, hat, ?_⟩
      rw [of_some, hvalue, hxvalue, h]
    · next hodd =>
      have hother : (!(root % 2 == 1)) = odd := Bool.not_eq.mpr fun heq => hodd (beq_iff_eq.mpr heq)
      have hneg : ((subMod 0 root p : Nat) : ZMod p) = -root := by
        rw [cast_subMod hlt.le, Nat.cast_zero, zero_sub]
      refine ⟨_, hother ▸ hat.neg, ?_⟩
      rw [WeierstrassCurve.Affine.Point.neg_some, of_some, negY_eq, hxvalue,
        ← eq_val (subMod_lt p_pos) hneg, h]
  · exact absurd h (by simp)

/-- A point is lifted from its coordinate and its parity. -/
theorem lift?_of_isAt (hx : x < p) {R : curve.Point} (h : IsAt x odd R) :
    lift? x odd = some (.of R) := by
  obtain ⟨y, hy⟩ := exists_isAt_iff.mp ⟨R, h⟩
  have hsquare : y * y = ((x * x * x + 7) % p : Nat) := by rw [cast_square, ← hy, sq]
  have hroot := root_mul_root hsquare
  rw [← Nat.cast_mul, ZMod.natCast_eq_natCast_iff', Nat.mod_mod] at hroot
  have hlift : ∃ q, lift? x odd = some q := by
    simp only [lift?, hroot, if_true]
    exact ⟨_, rfl⟩
  obtain ⟨q, hq⟩ := hlift
  obtain ⟨R', hR', rfl⟩ := isAt_of_lift? hx hq
  rw [hq, h.unique hR']

theorem lift?_eq_some (hx : x < p) :
    lift? x odd = some q ↔ ∃ R, IsAt x odd R ∧ q = .of R := by
  refine ⟨isAt_of_lift? hx, ?_⟩
  rintro ⟨R, hR, rfl⟩
  exact lift?_of_isAt hx hR

end Eligibility.Curve

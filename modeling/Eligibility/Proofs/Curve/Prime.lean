import Eligibility.Curve.Secp256k1
import Mathlib.NumberTheory.LucasPrimality
set_option autoImplicit false

/-!
# Curve: the primes

Coordinates are numbers modulo `p`, and numbers of copies count modulo `n`.  Both are
prime by the test of Lucas: some base has the power 1 at the exponent one below the
number, and at no quotient of that exponent by a prime factor of it.  The large factors
are shown to be prime in the same way.
-/

namespace Eligibility.Curve

/-- Squaring and multiplying gives the power. -/
theorem powMod_eq (b e m : Nat) : powMod b e m = b ^ e % m := by
  fun_induction powMod b e m with
  | case1 b => rw [pow_zero]
  | case2 b e hne half hodd ih =>
    have hexponent : e = 2 * (e / 2) + 1 := by omega
    rw [show half = _ from ih, ← Nat.pow_mod, Nat.mod_mul_mod]
    conv_rhs => rw [hexponent, pow_succ, pow_mul, sq]
  | case3 b e hne half heven ih =>
    have hexponent : e = 2 * (e / 2) := by omega
    rw [show half = _ from ih, ← Nat.pow_mod]
    conv_rhs => rw [hexponent, pow_mul, sq]

/-- In the integers modulo `m` a power is 1 if its remainder is. -/
theorem pow_eq_one_iff {m : Nat} (hm : 2 ≤ m) (b e : Nat) :
    (b : ZMod m) ^ e = 1 ↔ powMod b e m = 1 := by
  rw [powMod_eq, ← Nat.cast_pow, ← Nat.cast_one, ZMod.natCast_eq_natCast_iff',
    Nat.mod_eq_of_lt (show 1 < m from hm)]

/-! ## Certificates -/

/-- A number, a base for it, and the prime factors of the number below it. -/
structure Certificate where
  number : Nat
  base : Nat
  factors : List Nat

/-- Whether a certificate passes the test, where some numbers are known to be prime. -/
def Certificate.holds (c : Certificate) (known : List Nat) : Bool :=
  2 ≤ c.number && c.factors.prod == c.number - 1 &&
    c.factors.all (fun q => known.contains q || (2 ≤ q && q.minFac == q)) &&
    powMod c.base (c.number - 1) c.number == 1 &&
    c.factors.all fun q => powMod c.base ((c.number - 1) / q) c.number != 1

/-- Whether every certificate passes the test, with the numbers of those behind it known. -/
def allHold : List Certificate → Bool
  | [] => true
  | c :: cs => c.holds (cs.map (·.number)) && allHold cs

theorem Certificate.prime {c : Certificate} {known : List Nat} (hknown : ∀ q ∈ known, q.Prime)
    (h : c.holds known = true) : c.number.Prime := by
  simp only [holds, Bool.and_eq_true, decide_eq_true_eq, beq_iff_eq, List.all_eq_true,
    Bool.or_eq_true, List.contains_iff_mem, bne_iff_ne, ne_eq] at h
  obtain ⟨⟨⟨⟨hnumber, hprod⟩, hfactors⟩, hone⟩, hne⟩ := h
  have hprime : ∀ q ∈ c.factors, q.Prime := by
    intro q hq
    rcases hfactors q hq with hmem | ⟨htwo, hmin⟩
    · exact hknown q hmem
    · exact Nat.prime_def_minFac.mpr ⟨htwo, hmin⟩
  refine lucas_primality c.number c.base ((pow_eq_one_iff hnumber _ _).mpr hone) ?_
  intro q hq hdvd hpow
  rw [← hprod, hq.prime.dvd_prod_iff] at hdvd
  obtain ⟨q', hmem, hdvd⟩ := hdvd
  rw [(Nat.prime_dvd_prime_iff_eq hq (hprime q' hmem)).mp hdvd] at hpow
  exact hne q' hmem ((pow_eq_one_iff hnumber _ _).mp hpow)

theorem prime_of_allHold {cs : List Certificate} (h : allHold cs = true) :
    ∀ c ∈ cs, c.number.Prime := by
  induction cs with
  | nil => exact fun c hc => absurd hc List.not_mem_nil
  | cons c cs ih =>
    rw [allHold, Bool.and_eq_true] at h
    have hrest := ih h.2
    have hknown : ∀ q ∈ cs.map (·.number), q.Prime := by
      intro q hq
      obtain ⟨c', hc', rfl⟩ := List.mem_map.mp hq
      exact hrest c' hc'
    exact List.forall_mem_cons.mpr ⟨Certificate.prime hknown h.1, hrest⟩

/-! ## The two primes -/

/-- The certificate of `p`, and those of its large factors. -/
def fieldCertificates : List Certificate := [
  ⟨p, 3, [2, 3, 7, 13441,
    205115282021455665897114700593932402728804164701536103180137503955397371]⟩,
  ⟨205115282021455665897114700593932402728804164701536103180137503955397371, 10,
    [2, 3, 5, 29, 29, 31, 7723, 132896956044521568488119,
      255515944373312847190720520512484175977]⟩,
  ⟨255515944373312847190720520512484175977, 3,
    [2, 2, 2, 7, 7, 11, 1627, 2657, 4423, 41201, 96557, 7240687, 107590001]⟩,
  ⟨132896956044521568488119, 6, [2, 3, 22149492674086928081353]⟩,
  ⟨22149492674086928081353, 5, [2, 2, 2, 3, 5323, 173378833005251801]⟩,
  ⟨173378833005251801, 6, [2, 2, 2, 5, 5, 2621, 24809, 13331831]⟩,
  ⟨107590001, 3, [2, 2, 2, 2, 5, 5, 5, 5, 7, 29, 53]⟩,
  ⟨13331831, 13, [2, 5, 971, 1373]⟩,
  ⟨7240687, 3, [2, 3, 1206781]⟩]

/-- The certificate of `n`, and those of its large factors. -/
def orderCertificates : List Certificate := [
  ⟨n, 7, [2, 2, 2, 2, 2, 2, 3, 149, 631, 107361793816595537, 174723607534414371449,
    341948486974166000522343609283189]⟩,
  ⟨341948486974166000522343609283189, 2,
    [2, 2, 3, 3, 3, 109, 29047611873442575647497758179]⟩,
  ⟨29047611873442575647497758179, 2, [2, 293, 305873, 545358713, 297159362677]⟩,
  ⟨174723607534414371449, 3, [2, 2, 2, 17, 59, 4051, 120233, 44706919]⟩,
  ⟨107361793816595537, 3, [2, 2, 2, 2, 16699, 85831, 4681609]⟩,
  ⟨297159362677, 2, [2, 2, 3, 3, 11, 461, 1627771]⟩,
  ⟨545358713, 5, [2, 2, 2, 41, 59, 28181]⟩,
  ⟨44706919, 6, [2, 3, 797, 9349]⟩,
  ⟨4681609, 23, [2, 2, 2, 3, 97, 2011]⟩]

theorem prime_p : p.Prime := by
  have hall : allHold fieldCertificates = true := by decide +kernel
  exact prime_of_allHold hall _ List.mem_cons_self

theorem prime_n : n.Prime := by
  have hall : allHold orderCertificates = true := by decide +kernel
  exact prime_of_allHold hall _ List.mem_cons_self

end Eligibility.Curve

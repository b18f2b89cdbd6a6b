import Eligibility.Proofs.Curve.Order
import Eligibility.Wallet.Signature
set_option autoImplicit false

/-!
# Wallet: the public keys that signatures recover

A signature recovers the one public key for which its equation holds in the group of the curve.
There is such a key unless one of its numbers is zero or not below the order, or no point is at
the coordinate `r`: the condition says nothing of the digest.
-/

namespace Eligibility.Wallet.Signature

/-- The numbers are below the order and not zero, and a point of the curve is at `r`. -/
structure Recoverable (g : Signature) : Prop where
  r_range : 0 < g.r ∧ g.r < Curve.n
  s_range : 0 < g.s ∧ g.s < Curve.n
  root : ∃ y : ZMod Curve.p, y ^ 2 = (g.r : ZMod Curve.p) ^ 3 + 7

/-- The signature is one of a digest by the public key: with the point that is at `r`, the
digest as a number, and the base point, the equation of signatures holds. -/
structure Recovers (g : Signature) (digest : List UInt8) (key : Curve.curve.Point) : Prop where
  r_range : 0 < g.r ∧ g.r < Curve.n
  s_range : 0 < g.s ∧ g.s < Curve.n
  equation : ∃ point, Curve.IsAt g.r g.odd point ∧
    g.s • point = Digest.ofBytes digest • Curve.generator + g.r • key

variable {g : Signature} {digest : List UInt8} {key point : Curve.curve.Point}

/-- The equation is solved by dividing by `r`. -/
theorem recovers_iff (hr : 0 < g.r ∧ g.r < Curve.n) (hs : 0 < g.s ∧ g.s < Curve.n)
    (hpoint : Curve.IsAt g.r g.odd point) :
    g.Recovers digest key ↔ key = Curve.inverseMod g.r Curve.n •
      (g.s • point + -(Digest.ofBytes digest • Curve.generator)) := by
  rw [← Curve.nsmul_eq_iff hr.1 hr.2]
  constructor
  · rintro ⟨-, -, other, hother, hequation⟩
    rw [hpoint.unique hother, hequation, add_right_comm, add_neg_cancel, zero_add]
  · intro hkey
    refine ⟨hr, hs, point, hpoint, ?_⟩
    rw [hkey, add_left_comm, add_neg_cancel, add_zero]

theorem recoverable_iff : g.Recoverable ↔ (0 < g.r ∧ g.r < Curve.n) ∧ (0 < g.s ∧ g.s < Curve.n) ∧
    ∃ point, Curve.IsAt g.r g.odd point := by
  rw [Curve.exists_isAt_iff]
  exact ⟨fun ⟨hr, hs, hroot⟩ => ⟨hr, hs, hroot⟩, fun ⟨hr, hs, hroot⟩ => ⟨hr, hs, hroot⟩⟩

theorem exists_recovers_iff : (∃ key, g.Recovers digest key) ↔ g.Recoverable := by
  rw [recoverable_iff]
  constructor
  · rintro ⟨key, hr, hs, point, hpoint, -⟩
    exact ⟨hr, hs, point, hpoint⟩
  · rintro ⟨hr, hs, point, hpoint⟩
    exact ⟨_, (recovers_iff hr hs hpoint).mpr rfl⟩

theorem Recovers.unique {other : Curve.curve.Point} (h : g.Recovers digest key)
    (h' : g.Recovers digest other) : key = other := by
  obtain ⟨hr, hs, point, hpoint, -⟩ := id h
  rw [(recovers_iff hr hs hpoint).mp h, (recovers_iff hr hs hpoint).mp h']

/-- What is recovered at a point is what solves the equation. -/
theorem recover?_of_recovers (h : g.Recovers digest key) :
    g.recover? digest = some (Curve.Point.of key).coordinates := by
  obtain ⟨hr, hs, point, hpoint, -⟩ := id h
  have hrange : ¬ (g.r = 0 ∨ g.s = 0 ∨ Curve.n ≤ g.r ∨ Curve.n ≤ g.s) := by omega
  have hlift := (Curve.lift?_eq_some (hr.2.trans Curve.n_lt_p)).mpr ⟨point, hpoint, rfl⟩
  rw [(recovers_iff hr hs hpoint).mp h, recover?, if_neg hrange, hlift, ← Curve.of_generator]
  simp only [Option.bind_eq_bind, Option.bind_some, Curve.multiply_of, Curve.add_of,
    Curve.subMod_nsmul]
  rfl

theorem recover?_of_not_recoverable (h : ¬ g.Recoverable) : g.recover? digest = none := by
  rw [recoverable_iff] at h
  rw [recover?]
  split
  · rfl
  · next hrange =>
    have hr : 0 < g.r ∧ g.r < Curve.n := by omega
    have hs : 0 < g.s ∧ g.s < Curve.n := by omega
    have hlift : Curve.lift? g.r g.odd = none := by
      rw [Option.eq_none_iff_forall_ne_some]
      intro q hq
      obtain ⟨point, hpoint, -⟩ := (Curve.lift?_eq_some (hr.2.trans Curve.n_lt_p)).mp hq
      exact h ⟨hr, hs, point, hpoint⟩
    rw [hlift]
    rfl

/-- A key is recovered from a signature exactly if it has made one. -/
theorem recover?_eq_some {coordinates : Nat × Nat} : g.recover? digest = some coordinates ↔
    ∃ key, g.Recovers digest key ∧ coordinates = (Curve.Point.of key).coordinates := by
  constructor
  · intro h
    by_cases hrecoverable : g.Recoverable
    · obtain ⟨key, hkey⟩ := exists_recovers_iff.mpr hrecoverable
      exact ⟨key, hkey, Option.some.inj (h.symm.trans (recover?_of_recovers hkey))⟩
    · rw [recover?_of_not_recoverable hrecoverable] at h
      exact absurd h.symm (Option.some_ne_none _)
  · rintro ⟨key, hkey, rfl⟩
    exact recover?_of_recovers hkey

theorem recover?_eq_none : g.recover? digest = none ↔ ¬ g.Recoverable := by
  refine ⟨?_, recover?_of_not_recoverable⟩
  intro h hrecoverable
  obtain ⟨key, hkey⟩ := exists_recovers_iff.mpr hrecoverable
  rw [recover?_of_recovers hkey] at h
  exact Option.some_ne_none _ h

end Eligibility.Wallet.Signature

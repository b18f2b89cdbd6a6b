import Eligibility.Proofs.Wallet.Verify
set_option autoImplicit false

/-!
# Wallet: the signatures that a key makes

A signature that a key makes is one of its public key, whichever of the two numbers `s` was
taken, and its text is checked with success, unless a number came out that no signature has.
-/

namespace Eligibility.Wallet

namespace Signature

variable {g : Signature}

/-- The text of a signature tells it. -/
theorem tells_text (hr : g.r < Nat.pow 256 32) (hs : g.s < Nat.pow 256 32) : Tells g.text g := by
  refine ⟨Digest.toBytes 32 g.r, Digest.toBytes 32 g.s, if g.odd then 28 else 27,
    ⟨Digest.length_toBytes 32 g.r, Digest.length_toBytes 32 g.s, _, .inr rfl, ?_⟩, ?_,
    Digest.ofBytes_toBytes hr, Digest.ofBytes_toBytes hs⟩
  · rw [Text.hex, String.toList_ofList]
    exact Text.hexPairs_hexList _
  · cases g.odd with
    | false => rfl
    | true => rfl

/-- What the number `s` is, before the smaller of the two is taken. -/
theorem nsmul_point {number : Nat} (h : number • Curve.generator ≠ 0) (z r secret : Nat) :
    (Curve.inverseMod number Curve.n * (z + r * secret) % Curve.n) • number • Curve.generator =
      z • Curve.generator + r • secret • Curve.generator := by
  have hne : (number : ZMod Curve.n) ≠ 0 := by
    intro hzero
    rw [← Nat.cast_zero] at hzero
    rw [Curve.nsmul_congr hzero, zero_nsmul] at h
    exact h rfl
  have hcongr : ((Curve.inverseMod number Curve.n * (z + r * secret) % Curve.n * number : Nat) :
      ZMod Curve.n) = (z + r * secret : Nat) := by
    rw [Nat.cast_mul, ZMod.natCast_mod, Nat.cast_mul, Curve.cast_inverseMod, mul_right_comm,
      inv_mul_cancel₀ hne, one_mul]
  rw [← mul_nsmul', Curve.nsmul_congr hcongr, add_nsmul, mul_nsmul']

/-- A signature by a secret solves its equation with the public key of the secret, if a point was
there to make it from. -/
theorem ofPoint_cases (secret z number : Nat) :
    ofPoint secret z number (.of (number • Curve.generator)) = ⟨0, 0, false⟩ ∨
    ∃ g point, ofPoint secret z number (.of (number • Curve.generator)) = g ∧
      (g.r < Curve.p ∧ g.s ≤ Curve.n) ∧ Curve.IsAt g.r g.odd point ∧
      g.s • point = z • Curve.generator + g.r • secret • Curve.generator := by
  cases hpoint : number • Curve.generator with
  | zero => exact .inl rfl
  | some x y h =>
    have hne : number • Curve.generator ≠ 0 := by
      rw [hpoint]
      exact WeierstrassCurve.Affine.Point.some_ne_zero h
    have hequation := nsmul_point hne z x.val secret
    have hat : Curve.IsAt x.val (y.val % 2 == 1) (.some x y h) :=
      ⟨(ZMod.natCast_zmod_val x).symm, rfl⟩
    have hlt := Nat.mod_lt (Curve.inverseMod number Curve.n * (z + x.val * secret))
      Curve.prime_n.pos
    rw [Curve.of_some, ofPoint]
    rw [hpoint] at hequation
    generalize Curve.inverseMod number Curve.n * (z + x.val * secret) % Curve.n = s
      at hequation hlt
    refine .inr ?_
    by_cases hsmall : 2 * s < Curve.n
    · rw [if_pos hsmall]
      exact ⟨_, _, rfl, ⟨x.val_lt, hlt.le⟩, hat, hequation⟩
    · rw [if_neg hsmall]
      refine ⟨_, _, rfl, ⟨x.val_lt, Nat.sub_le _ _⟩, hat.neg, ?_⟩
      rw [Curve.sub_nsmul_neg hlt.le]
      exact hequation

end Signature

namespace Key

variable (k : Key) (message : String)

theorem sign_eq : k.sign message =
    .ofPoint k.secret (Digest.ofBytes (messageDigest message))
      (derivedNumber k.bytes (messageDigest message))
      (.of (derivedNumber k.bytes (messageDigest message) • Curve.generator)) := by
  rw [sign, ← Curve.multiply_of, Curve.of_generator]

/-- What a key signs has numbers that are written in 32 bytes each. -/
theorem tells_sign : Signature.Tells (k.sign message).text (k.sign message) := by
  have hp : Curve.p ≤ Nat.pow 256 32 := by
    rw [Curve.p_eq]
    norm_num
  rw [sign_eq]
  obtain hzero | ⟨g, point, hg, ⟨hr, hs⟩, -⟩ := Signature.ofPoint_cases k.secret
    (Digest.ofBytes (messageDigest message)) (derivedNumber k.bytes (messageDigest message))
  · rw [hzero]
    exact Signature.tells_text (by decide) (by decide)
  · rw [hg]
    exact Signature.tells_text (hr.trans_le hp) ((hs.trans_lt Curve.n_lt_p).trans_le hp)

variable {k message}

/-- What a key signs is one of its public key. -/
theorem recovers_sign (h : (k.sign message).Recoverable) :
    (k.sign message).Recovers (messageDigest message) k.publicKey := by
  obtain ⟨hr, hs, -⟩ := h
  rw [sign_eq] at hr hs ⊢
  obtain hzero | ⟨g, point, hg, -, hpoint, hequation⟩ := Signature.ofPoint_cases k.secret
    (Digest.ofBytes (messageDigest message)) (derivedNumber k.bytes (messageDigest message))
  · rw [hzero] at hr
    exact absurd hr.1 (lt_irrefl 0)
  · rw [hg] at hr hs ⊢
    exact ⟨hr, hs, point, hpoint, hequation⟩

/-- A key accepts what it signs, as long as its numbers are in range. -/
theorem verify_sign : k.verify message (k.sign message).text = .ok true ↔
    (k.sign message).Recoverable := by
  constructor
  · intro h
    by_contra hnone
    rw [verify_of_not_recoverable (k.tells_sign message) hnone] at h
    exact nomatch h
  · intro h
    rw [verify_of_recovers (k.tells_sign message) (recovers_sign h), publicAddress_publicKey,
      beq_self_eq_true]

end Key

end Eligibility.Wallet

import Eligibility.Text.Hex
set_option autoImplicit false

/-!
# Text: bytes by pairs of hex digits

The texts that a reader of spaced hex takes are told by a grammar that mentions no reader: two
digits for each byte, and blanks between the pairs.  The reader takes these and no others.
-/

namespace Eligibility.Text

/-- The characters spell the bytes, with two hex digits for each and blanks between the pairs. -/
inductive HexPairs : List Char → List UInt8 → Prop
  | nil : HexPairs [] []
  | gap {c : Char} {cs : List Char} {bytes : List UInt8}
      (hc : unhexSpacedList.isPairGap c = true) (h : HexPairs cs bytes) : HexPairs (c :: cs) bytes
  | pair {a b : Char} {high low : Nat} {cs : List Char} {bytes : List UInt8}
      (ha : hexValue? a = some high) (hb : hexValue? b = some low) (h : HexPairs cs bytes) :
      HexPairs (a :: b :: cs) (UInt8.ofNat (high * 16 + low) :: bytes)

/-- A blank is no digit, so a reader may look for blanks first. -/
theorem isPairGap_eq_false {c : Char} {value : Nat} (h : hexValue? c = some value) :
    unhexSpacedList.isPairGap c = false := by
  rw [Bool.eq_false_iff]
  intro hgap
  simp only [unhexSpacedList.isPairGap, Bool.or_eq_true, beq_iff_eq, Bool.and_eq_true,
    decide_eq_true_eq] at hgap
  have hdigit : ¬ 48 ≤ c.toNat := by omega
  have hcapital : ¬ 65 ≤ c.toNat := by omega
  have hsmall : ¬ 97 ≤ c.toNat := by omega
  simp [hexValue?, hdigit, hcapital, hsmall] at h

theorem hexPairs_of_unhexSpacedList {cs : List Char} {bytes : List UInt8}
    (h : unhexSpacedList cs = some bytes) : HexPairs cs bytes := by
  fun_induction unhexSpacedList cs generalizing bytes with
  | case1 =>
    obtain rfl := Option.some.inj h
    exact .nil
  | case2 c hc =>
    obtain rfl := Option.some.inj h
    exact .gap hc .nil
  | case3 c hc => exact absurd h (by simp)
  | case4 a b rest hgap ih => exact .gap hgap (ih h)
  | case5 a b rest hgap ih =>
    simp only [Option.bind_eq_bind, Option.bind_eq_some_iff] at h
    obtain ⟨high, ha, low, hb, rest, hrest, hbytes⟩ := h
    obtain rfl := Option.some.inj hbytes
    exact .pair ha hb (ih hrest)

theorem unhexSpacedList_of_hexPairs {cs : List Char} {bytes : List UInt8}
    (h : HexPairs cs bytes) : unhexSpacedList cs = some bytes := by
  induction h with
  | nil => rfl
  | @gap c cs bytes hc h ih =>
    cases cs with
    | nil =>
      cases h
      rw [unhexSpacedList, if_pos hc]
    | cons a cs => rw [unhexSpacedList, if_pos hc, ih]
  | @pair a b high low cs bytes ha hb h ih =>
    have hgap : ¬ unhexSpacedList.isPairGap a = true := by
      rw [isPairGap_eq_false ha]
      exact Bool.false_ne_true
    rw [unhexSpacedList, if_neg hgap, ha, hb, ih]
    rfl

/-- The reader takes the texts of the grammar. -/
theorem unhexSpacedList_eq_some {cs : List Char} {bytes : List UInt8} :
    unhexSpacedList cs = some bytes ↔ HexPairs cs bytes :=
  ⟨hexPairs_of_unhexSpacedList, unhexSpacedList_of_hexPairs⟩

/-- The digits that are written for bytes spell them. -/
theorem hexPairs_hexList (bytes : List UInt8) : HexPairs (hexList bytes) bytes := by
  induction bytes with
  | nil => exact .nil
  | cons b bytes ih =>
    have hb := b.toNat_lt
    have hhigh := hexValue?_digitChar (show b.toNat / 16 < 16 by omega)
    have hlow := hexValue?_digitChar (show b.toNat % 16 < 16 by omega)
    have hvalue : UInt8.ofNat (b.toNat / 16 * 16 + b.toNat % 16) = b := by
      rw [Nat.div_add_mod', UInt8.ofNat_toNat]
    have hpair := HexPairs.pair hhigh hlow ih
    rw [hvalue] at hpair
    exact hpair

end Eligibility.Text

import Eligibility.Text.Case
set_option autoImplicit false

/-!
# Text: what a change of case keeps

A letter may become another letter, and one above ASCII a letter of ASCII.  No change
to lower case makes a control, a space, a digit or a mark in front of the letters of
ASCII, so none of those is in the small form of a text that is not in the text.
-/

namespace Eligibility.Text

/-- Every run of capitals moves behind the marks that stand in front of the letters of ASCII. -/
theorem le_offset_lowercaseRuns :
    lowercaseRuns.all (fun r => decide (0x40 ≤ (r.first : Int) + r.offset)) = true := by
  decide +kernel

theorem le_moveBy_lowercaseRuns {n : Nat} (h : 0x80 ≤ n) : 0x40 ≤ moveBy lowercaseRuns n := by
  unfold moveBy
  split
  · next r hr =>
    have hoffset := List.all_eq_true.mp le_offset_lowercaseRuns r (List.mem_of_find?_eq_some hr)
    have hcontains := List.find?_some hr
    simp only [Run.contains, Bool.and_eq_true, decide_eq_true_eq] at hoffset hcontains
    omega
  · omega

/-- A letter of ASCII has a small form among the letters, and other characters stay. -/
theorem toLower_of_ascii {c : Char} (h : c.toNat < 0x80) :
    c.toLower = c ∨ 0x40 ≤ c.toLower.toNat := by
  have hall : ∀ n < 0x80,
      (Char.ofNat n).toLower = Char.ofNat n ∨ 0x40 ≤ (Char.ofNat n).toLower.toNat := by decide
  have hc := hall c.toNat h
  rwa [Char.ofNat_toNat] at hc

/-- A number that is no character stands for the character zero. -/
theorem toNat_ofNat (n : Nat) : (Char.ofNat n).toNat = n ∨ (Char.ofNat n).toNat = 0 := by
  by_cases h : n.isValidChar
  · exact .inl (by rw [Char.ofNat, dif_pos h]; rfl)
  · exact .inr (by rw [Char.ofNat, dif_neg h]; rfl)

/-- A character in front of the letters of ASCII is the small form of itself alone. -/
theorem eq_of_mem_lowerChar {before after : List Char} {c d : Char}
    (hd : d ∈ lowerChar before c after) (hlt : d.toNat < 0x40) (hne : d.toNat ≠ 0) : d = c := by
  unfold lowerChar at hd
  split at hd
  · next hc =>
    obtain rfl := List.mem_singleton.mp hd
    rcases toLower_of_ascii hc with hsame | hletter
    · exact hsame
    · omega
  · next hc =>
    split at hd
    · split at hd <;> (obtain rfl := List.mem_singleton.mp hd; exact absurd hlt (by decide))
    · split at hd
      · simp only [List.mem_cons, List.not_mem_nil, or_false] at hd
        rcases hd with rfl | rfl <;> exact absurd hlt (by decide)
      · obtain rfl := List.mem_singleton.mp hd
        have hle := le_moveBy_lowercaseRuns (Nat.le_of_not_lt hc)
        rcases toNat_ofNat (moveBy lowercaseRuns c.toNat) with hnat | hzero <;> omega

theorem mem_of_mem_lowerFrom {before cs : List Char} {d : Char} (hd : d ∈ lowerFrom before cs)
    (hlt : d.toNat < 0x40) (hne : d.toNat ≠ 0) : d ∈ cs := by
  induction cs generalizing before with
  | nil => simp [lowerFrom] at hd
  | cons c cs ih =>
    rw [lowerFrom] at hd
    rcases List.mem_append.mp hd with hd | hd
    · exact eq_of_mem_lowerChar hd hlt hne ▸ List.mem_cons_self
    · exact List.mem_cons_of_mem c (ih hd)

/-- A character in front of the letters of ASCII that is in the small form of a text is in it. -/
theorem mem_of_mem_lower {s : String} {d : Char} (hd : d ∈ (lower s).toList)
    (hlt : d.toNat < 0x40) (hne : d.toNat ≠ 0) : d ∈ s.toList := by
  rw [lower, String.toList_ofList] at hd
  exact mem_of_mem_lowerFrom hd hlt hne

end Eligibility.Text

import Eligibility.Text.Split
set_option autoImplicit false

/-!
# Text: where a cut falls

A cut at a separator falls at the first one, so what is in front of it holds
none.
-/

namespace Eligibility.Text

theorem cutAtList_append {sep : Char} {before : List Char} (h : sep ∉ before)
    (after : List Char) : cutAtList sep (before ++ sep :: after) = (before, some after) := by
  induction before with
  | nil => simp [cutAtList]
  | cons c before ih =>
    simp only [List.mem_cons, not_or] at h
    simp [cutAtList, Ne.symm h.1, ih h.2]

theorem cutAtList_of_not_mem {sep : Char} {cs : List Char} (h : sep ∉ cs) :
    cutAtList sep cs = (cs, none) := by
  induction cs with
  | nil => rfl
  | cons c cs ih =>
    simp only [List.mem_cons, not_or] at h
    simp [cutAtList, Ne.symm h.1, ih h.2]

theorem cutAtList_eq_some {sep : Char} {cs before after : List Char} :
    cutAtList sep cs = (before, some after) ↔ sep ∉ before ∧ cs = before ++ sep :: after := by
  constructor
  · intro h
    induction cs generalizing before with
    | nil => simp [cutAtList] at h
    | cons c cs ih =>
      by_cases hc : c = sep
      · simp only [cutAtList, hc, ↓reduceIte, Prod.mk.injEq, Option.some.injEq] at h
        simp [← h.1, h.2, hc]
      · simp only [cutAtList, hc, ↓reduceIte, Prod.mk.injEq] at h
        obtain ⟨rfl, h2⟩ := h
        obtain ⟨hmem, heq⟩ := ih (Prod.ext rfl h2)
        refine ⟨?_, by simp [← heq]⟩
        simp only [List.mem_cons, not_or]
        exact ⟨Ne.symm hc, hmem⟩
  · rintro ⟨h, rfl⟩
    exact cutAtList_append h after

theorem cutAtList_eq_none {sep : Char} {cs before : List Char} :
    cutAtList sep cs = (before, none) ↔ sep ∉ cs ∧ before = cs := by
  constructor
  · intro h
    induction cs generalizing before with
    | nil =>
      simp only [cutAtList, Prod.mk.injEq] at h
      exact ⟨by simp, h.1.symm⟩
    | cons c cs ih =>
      by_cases hc : c = sep
      · simp [cutAtList, hc] at h
      · simp only [cutAtList, hc, ↓reduceIte, Prod.mk.injEq] at h
        obtain ⟨rfl, h2⟩ := h
        obtain ⟨hmem, heq⟩ := ih (Prod.ext rfl h2)
        refine ⟨?_, congrArg (c :: ·) heq⟩
        simp only [List.mem_cons, not_or]
        exact ⟨Ne.symm hc, hmem⟩
  · rintro ⟨h, rfl⟩
    exact cutAtList_of_not_mem h

/-- What is in front of the cut comes from the text. -/
theorem mem_of_mem_cutAtList {sep c : Char} {cs : List Char} (h : c ∈ (cutAtList sep cs).1) :
    c ∈ cs := by
  rcases hcut : cutAtList sep cs with ⟨before, _ | after⟩
  · obtain ⟨-, rfl⟩ := cutAtList_eq_none.mp hcut
    rwa [hcut] at h
  · rw [hcut] at h
    rw [(cutAtList_eq_some.mp hcut).2]
    exact List.mem_append_left _ h

/-- A cut at a text falls on the text. -/
theorem eq_append_of_cutAtTextList {mark cs before after : List Char}
    (h : cutAtTextList mark cs = some (before, after)) : cs = before ++ (mark ++ after) := by
  induction cs generalizing before with
  | nil =>
    simp only [cutAtTextList, Option.ite_none_right_eq_some, Option.some.injEq, Prod.mk.injEq,
      List.isEmpty_iff] at h
    obtain ⟨rfl, rfl, rfl⟩ := h
    rfl
  | cons c cs ih =>
    unfold cutAtTextList at h
    split at h
    · next rest hrest =>
      obtain ⟨rfl, rfl⟩ := Prod.mk.inj (Option.some.inj h)
      rw [List.nil_append]
      exact afterList?_eq_some.mp hrest
    · obtain ⟨⟨front, rest⟩, hcut, hpair⟩ := Option.map_eq_some_iff.mp h
      obtain ⟨rfl, rfl⟩ := Prod.mk.inj hpair
      rw [List.cons_append, ← ih hcut]

theorem cutAtTextList_append {m : Char} {mark before : List Char} (h : m ∉ before)
    (after : List Char) :
    cutAtTextList (m :: mark) (before ++ (m :: mark ++ after)) = some (before, after) := by
  induction before with
  | nil =>
    have hmark : afterList? (m :: mark) (m :: (mark ++ after)) = some after :=
      afterList?_eq_some.mpr rfl
    simp [cutAtTextList, hmark]
  | cons c before ih =>
    simp only [List.mem_cons, not_or] at h
    have hc : afterList? (m :: mark) (c :: (before ++ (m :: mark ++ after))) = none := by
      rw [afterList?, if_neg h.1]
    rw [List.cons_append, cutAtTextList, hc, ih h.2]
    rfl

/-- A text of which a character is missing is not cut at. -/
theorem cutAtTextList_of_not_mem {c : Char} {mark cs : List Char} (hmark : c ∈ mark) (h : c ∉ cs) :
    cutAtTextList mark cs = none := by
  cases hcut : cutAtTextList mark cs with
  | none => rfl
  | some parts =>
    have heq := eq_append_of_cutAtTextList hcut
    exact absurd (by rw [heq]; simp [hmark]) h

theorem cutAt_eq_some {sep : Char} {s before after : String} :
    cutAt sep s = (before, some after) ↔
      sep ∉ before.toList ∧ s.toList = before.toList ++ sep :: after.toList := by
  rw [← cutAtList_eq_some]
  unfold cutAt
  obtain ⟨front, back⟩ := cutAtList sep s.toList
  cases back with
  | none => simp
  | some back =>
    simp only [Option.map_some, Prod.mk.injEq, Option.some.injEq]
    constructor
    · rintro ⟨rfl, rfl⟩
      simp
    · rintro ⟨rfl, rfl⟩
      simp

theorem cutAt_eq_none {sep : Char} {s before : String} :
    cutAt sep s = (before, none) ↔ sep ∉ s.toList ∧ before = s := by
  have hlist := @cutAtList_eq_none sep s.toList before.toList
  rw [String.toList_inj] at hlist
  rw [← hlist]
  unfold cutAt
  obtain ⟨front, back⟩ := cutAtList sep s.toList
  cases back with
  | none =>
    simp only [Option.map_none, Prod.mk.injEq, and_true]
    constructor
    · rintro rfl
      simp
    · rintro rfl
      simp
  | some back => simp

end Eligibility.Text

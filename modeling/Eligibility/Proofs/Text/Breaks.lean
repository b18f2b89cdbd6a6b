import Eligibility.Proofs.Text.Lines
import Eligibility.Text.Blank
set_option autoImplicit false

/-!
# Text: when all line ends are made one

A text whose line ends are all made LF has the same lines, as long as every CR belongs to
a line end; a CR at the very end adds an empty line.  Any other CR stays inside its line
until it is made an LF, which then cuts the line in two.
-/

namespace Eligibility.Text

variable {cs : List Char}

/-! ## The lines of a text, from its front -/

theorem dropReturn_cons {c : Char} (hc : c ≠ '\r') (line : List Char) :
    dropReturn (c :: line) = c :: dropReturn line := by
  rcases List.eq_nil_or_concat line with rfl | ⟨front, d, rfl⟩
  · simp [dropReturn, hc]
  · by_cases hd : d = '\r'
    · subst hd
      rw [List.concat_eq_append, dropReturn_append_return, ← List.cons_append,
        dropReturn_append_return]
    · simp [dropReturn, hd]

theorem linesList_feed (cs : List Char) : linesList ('\n' :: cs) = [] :: linesList cs := by
  simp [linesList, piecesList, dropReturn]

theorem linesList_return_feed (cs : List Char) :
    linesList ('\r' :: '\n' :: cs) = [] :: linesList cs := by
  simp [linesList, piecesList, dropReturn]

/-- A character of no line end opens the first line. -/
theorem linesList_cons {c : Char} (hn : c ≠ '\n') (hr : c ≠ '\r') {first : List Char}
    {rest : List (List Char)} (h : linesList cs = first :: rest) :
    linesList (c :: cs) = (c :: first) :: rest := by
  unfold linesList at h ⊢
  cases hcut : piecesList '\n' cs with
  | nil => exact absurd hcut (piecesList_ne_nil '\n' cs)
  | cons piece pieces =>
    rw [hcut, List.map_cons] at h
    obtain ⟨rfl, rfl⟩ := List.cons.inj h
    simp [piecesList, hn, hcut, dropReturn_cons hr]

/-! ## Making all line ends one -/

/-- Every CR stands in front of an LF or at the very end. -/
def ReturnsEndLines (cs : List Char) : Prop :=
  ∀ before after, cs = before ++ '\r' :: after → after = [] ∨ ∃ rest, after = '\n' :: rest

theorem ReturnsEndLines.of_append {before after : List Char}
    (h : ReturnsEndLines (before ++ after)) : ReturnsEndLines after := by
  intro front back heq
  exact h (before ++ front) back (by rw [heq, List.append_assoc])

theorem linesList_unifyBreaksList (h : ReturnsEndLines cs) :
    linesList (unifyBreaksList cs) = linesList cs ∨
      linesList (unifyBreaksList cs) = linesList cs ++ [[]] := by
  fun_induction unifyBreaksList cs with
  | case1 => exact .inl rfl
  | case2 cs ih =>
    have hrest := ih (@ReturnsEndLines.of_append ['\r', '\n'] cs h)
    rw [linesList_feed, linesList_return_feed]
    exact hrest.imp (congrArg ([] :: ·)) (congrArg ([] :: ·))
  | case3 cs hne ih =>
    -- The CR does not stand in front of an LF, so it stands at the end.
    rcases h [] cs rfl with rfl | ⟨rest, rfl⟩
    · exact .inr rfl
    · exact absurd rfl (hne rest)
  | case4 c cs hpair hreturn ih =>
    have hrest := ih (@ReturnsEndLines.of_append [c] cs h)
    have hr : c ≠ '\r' := hreturn
    by_cases hn : c = '\n'
    · subst hn
      rw [linesList_feed, linesList_feed]
      exact hrest.imp (congrArg ([] :: ·)) (congrArg ([] :: ·))
    · cases hlines : linesList cs with
      | nil => simp [linesList, piecesList_ne_nil] at hlines
      | cons first rest =>
        rw [hlines] at hrest
        rw [linesList_cons hn hr hlines]
        exact hrest.imp (linesList_cons hn hr) (linesList_cons hn hr)

/-- A class that has both characters of a line end, or none, holds of all characters before and
after. -/
theorem all_unifyBreaksList {p : Char → Bool} (hp : p '\r' = p '\n') :
    (unifyBreaksList cs).all p = cs.all p := by
  fun_induction unifyBreaksList cs with
  | case1 => rfl
  | case2 cs ih => simp [ih, hp]
  | case3 cs hne ih => simp [ih, hp]
  | case4 c cs hpair hreturn ih => simp [ih]

/-- The lines stay, up to an empty one behind a CR at the very end. -/
theorem lines_unifyBreaks {s : String} (h : ReturnsEndLines s.toList) :
    lines (unifyBreaks s) = lines s ∨ lines (unifyBreaks s) = lines s ++ [""] := by
  simp only [lines, unifyBreaks, String.toList_ofList]
  rcases linesList_unifyBreaksList h with hsame | hmore
  · exact .inl (congrArg _ hsame)
  · rw [hmore, List.map_append]
    exact .inr rfl

theorem isBlankText_unifyBreaks (s : String) : isBlankText (unifyBreaks s) = isBlankText s := by
  rw [isBlankText, unifyBreaks, String.toList_ofList, all_unifyBreaksList (by decide)]
  rfl

end Eligibility.Text

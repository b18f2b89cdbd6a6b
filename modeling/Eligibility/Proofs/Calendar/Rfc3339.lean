import Eligibility.Calendar.Rfc3339
import Eligibility.Proofs.Text.Lines
set_option autoImplicit false

/-!
# Calendar: a date-time stands on one line

Every reader of the form of a date-time passes over digits and marks only, so
what it passes over holds no line end if what it leaves holds none.
-/

namespace Eligibility.Calendar

open Text (Unbroken)

variable {cs rest : List Char}

theorem unbroken_of_afterDigits? {count : Nat} (h : afterDigits? count cs = some rest)
    (hrest : Unbroken rest) : Unbroken cs := by
  induction count generalizing cs with
  | zero =>
    obtain rfl := Option.some.inj h
    exact hrest
  | succ count ih =>
    cases cs with
    | nil => simp [afterDigits?] at h
    | cons c cs =>
      simp only [afterDigits?, Option.ite_none_right_eq_some] at h
      obtain ⟨hc, h⟩ := h
      refine .cons ?_ ?_ (ih h)
      · rintro rfl
        exact absurd hc (by decide)
      · rintro rfl
        exact absurd hc (by decide)

theorem unbroken_of_mark {mark : Char} (hn : mark ≠ '\n') (hr : mark ≠ '\r')
    (h : Text.afterList? [mark] cs = some rest) (hrest : Unbroken rest) : Unbroken cs := by
  rw [Text.afterList?_eq_some.mp h]
  exact .cons hn hr hrest

theorem unbroken_of_afterPair? {mark : Char} (hn : mark ≠ '\n') (hr : mark ≠ '\r')
    (h : afterPair? mark cs = some rest) (hrest : Unbroken rest) : Unbroken cs := by
  simp only [afterPair?, Option.bind_eq_bind, Option.bind_eq_some_iff] at h
  obtain ⟨_, hfirst, _, hmark, hsecond⟩ := h
  exact unbroken_of_afterDigits? hfirst
    (unbroken_of_mark hn hr hmark (unbroken_of_afterDigits? hsecond hrest))

theorem unbroken_of_isOffsetText (h : isOffsetText cs = true) : Unbroken cs := by
  unfold isOffsetText at h
  split at h
  · exact .cons (by decide) (by decide) .nil
  · exact .cons (by decide) (by decide) .nil
  · next rest =>
    rw [beq_iff_eq] at h
    exact .cons (by decide) (by decide) (unbroken_of_afterPair? (by decide) (by decide) h .nil)
  · next rest =>
    rw [beq_iff_eq] at h
    exact .cons (by decide) (by decide) (unbroken_of_afterPair? (by decide) (by decide) h .nil)
  · simp at h

theorem unbroken_of_afterFraction? (h : afterFraction? cs = some rest) (hrest : Unbroken rest) :
    Unbroken cs := by
  unfold afterFraction? at h
  split at h
  · next fraction =>
    split at h
    · obtain rfl := Option.some.inj h
      rw [← List.takeWhile_append_dropWhile (p := Char.isDigit) (l := fraction)]
      have hdigits := List.all_eq_true.mp (List.all_takeWhile (p := Char.isDigit) (l := fraction))
      exact .cons (by decide) (by decide) (Unbroken.append (.of_digits hdigits) hrest)
    · simp at h
  · obtain rfl := Option.some.inj h
    exact hrest

theorem unbroken_of_afterTime? (h : afterTime? cs = some rest) (hrest : Unbroken rest) :
    Unbroken cs := by
  simp only [afterTime?, Option.bind_eq_bind, Option.bind_eq_some_iff] at h
  obtain ⟨_, hpair, _, hmark, _, hseconds, hfraction⟩ := h
  have hsecond := unbroken_of_afterDigits? hseconds (unbroken_of_afterFraction? hfraction hrest)
  exact unbroken_of_afterPair? (by decide) (by decide) hpair
    (unbroken_of_mark (by decide) (by decide) hmark hsecond)

theorem unbroken_of_afterDate? (h : afterDate? cs = some rest) (hrest : Unbroken rest) :
    Unbroken cs := by
  simp only [afterDate?, Option.bind_eq_bind, Option.bind_eq_some_iff] at h
  obtain ⟨_, hyear, _, hmark, hday⟩ := h
  exact unbroken_of_afterDigits? hyear (unbroken_of_mark (by decide) (by decide) hmark
    (unbroken_of_afterPair? (by decide) (by decide) hday hrest))

theorem unbroken_of_isDateTimeText (h : isDateTimeText cs = true) : Unbroken cs := by
  unfold isDateTimeText at h
  split at h
  · next t rest hdate =>
    simp only [Bool.and_eq_true, Bool.or_eq_true, beq_iff_eq] at h
    obtain ⟨ht, htime⟩ := h
    cases htimeOf : afterTime? rest with
    | none => simp [htimeOf] at htime
    | some offset =>
      have hoffset : isOffsetText offset = true := by simpa [htimeOf] using htime
      have hrest := unbroken_of_afterTime? htimeOf (unbroken_of_isOffsetText hoffset)
      refine unbroken_of_afterDate? hdate ?_
      rcases ht with rfl | rfl
      · exact .cons (by decide) (by decide) hrest
      · exact .cons (by decide) (by decide) hrest
  · simp at h

end Eligibility.Calendar

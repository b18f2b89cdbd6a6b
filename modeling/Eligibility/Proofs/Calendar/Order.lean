import Eligibility.Proofs.Calendar.Reader
import Mathlib.Data.Char
import Mathlib.Data.List.Lex
import Mathlib.Order.Monotone.Basic
set_option autoImplicit false

/-!
# Calendar: the order of texts and of times

Stamps of UTC that are written to the millisecond stand in the order of their texts as in
the order of their times.  Every number of a stamp fills its width, so two texts have
their marks at the same places and differ first in the greatest number that differs; and
of two days the earlier one has the lesser year, month or day, in this order of weight.
-/

namespace Eligibility.Calendar

open Stamp (padded clockText)

/-! ## Numbers -/

theorem toNat_of_isDigit {c : Char} (h : c.isDigit = true) :
    '0'.toNat ≤ c.toNat ∧ c.toNat ≤ '9'.toNat :=
  Text.of_isDigit (P := fun c => '0'.toNat ≤ c.toNat ∧ c.toNat ≤ '9'.toNat) (by decide) h

/-- Two rows of as many digits go on from two numbers.  If the first row comes to less, it goes on
from less, or from the same number and stands first as a text. -/
theorem lt_of_ofDigitChars_lt {ds es : List Char} (hlength : ds.length = es.length)
    (hds : ∀ c ∈ ds, c.isDigit = true) (hes : ∀ c ∈ es, c.isDigit = true) (r s : List Char)
    {a b : Nat} (h : Nat.ofDigitChars 10 ds a < Nat.ofDigitChars 10 es b) :
    a < b ∨ a = b ∧ ds ++ r < es ++ s := by
  induction ds generalizing es a b with
  | nil =>
    obtain rfl := List.eq_nil_of_length_eq_zero hlength.symm
    exact .inl h
  | cons c ds ih =>
    cases es with
    | nil => simp at hlength
    | cons d es =>
      rw [List.forall_mem_cons] at hds hes
      rw [Nat.ofDigitChars_cons, Nat.ofDigitChars_cons] at h
      obtain ⟨hc, hc'⟩ := toNat_of_isDigit hds.1
      obtain ⟨hd, hd'⟩ := toNat_of_isDigit hes.1
      have hnine : '9'.toNat = '0'.toNat + 9 := rfl
      rw [List.cons_append, List.cons_append, List.cons_lt_cons_iff, Char.lt_def]
      rcases ih (Nat.succ.inj hlength) hds.2 hes.2 h with hlt | ⟨heq, hrest⟩
      · have hcases : a < b ∨ a = b ∧ c.toNat < d.toNat := by omega
        rcases hcases with hlt | ⟨rfl, hcd⟩
        · exact .inl hlt
        · exact .inr ⟨rfl, .inl hcd⟩
      · obtain ⟨rfl, hcd⟩ : a = b ∧ c.toNat = d.toNat := by omega
        exact .inr ⟨rfl, .inr ⟨Char.toNat_inj.mp hcd, hrest⟩⟩

/-- Texts with one start stand in the order of what follows it. -/
theorem append_le_append (start : List Char) {r s : List Char} (h : r ≤ s) :
    start ++ r ≤ start ++ s := by
  induction start with
  | nil => exact h
  | cons c start ih => exact List.cons_le_cons c ih

/-- Of two numbers that fill their width the lesser one is written first, whatever follows them. -/
theorem padded_append_le {width m n : Nat} (hwidth : 0 < width) (hn : n < 10 ^ width)
    {r s : List Char} (h : m < n ∨ m = n ∧ r ≤ s) :
    padded width m ++ r ≤ padded width n ++ s := by
  rcases h with hlt | ⟨rfl, hrest⟩
  · have hm : m < 10 ^ width := Nat.lt_trans hlt hn
    have hlength : (padded width m).length = (padded width n).length := by
      rw [Stamp.length_padded hwidth hm, Stamp.length_padded hwidth hn]
    have hvalue : Nat.ofDigitChars 10 (padded width m) 0 <
        Nat.ofDigitChars 10 (padded width n) 0 := by
      rw [Stamp.ofDigitChars_padded, Stamp.ofDigitChars_padded]
      exact hlt
    have hdigits := fun k c => @Stamp.isDigit_of_mem_padded width k c
    rcases lt_of_ofDigitChars_lt hlength (hdigits m) (hdigits n) r s hvalue with hnil | ⟨-, htext⟩
    · exact absurd hnil (Nat.lt_irrefl 0)
    · exact le_of_lt htext
  · exact append_le_append _ hrest

/-! ## Days -/

theorem succ_div_eq (y n : Nat) : (y + 1) / n = y / n + if (y + 1) % n = 0 then 1 else 0 := by
  rw [Nat.succ_div]
  simp only [Nat.dvd_iff_mod_eq_zero]

theorem daysBeforeYear_succ {year : Nat} (h : 1 ≤ year) :
    daysBeforeYear (year + 1) = daysBeforeYear year + yearLength year := by
  obtain ⟨y, rfl⟩ := Nat.exists_eq_add_of_le' h
  have hcenturies : y / 100 ≤ y / 4 := Nat.div_le_div_left (by decide) (by decide)
  have hcentury : (y + 1) % 100 = 0 → (y + 1) % 4 = 0 := by omega
  have hera : (y + 1) % 400 = 0 → (y + 1) % 100 = 0 := by omega
  simp only [daysBeforeYear, yearLength_eq, Nat.add_sub_cancel, succ_div_eq]
  -- The year plays a part only through what it leaves when it is divided.
  generalize (y + 1) % 4 = m4 at *
  generalize (y + 1) % 100 = m100 at *
  generalize (y + 1) % 400 = m400 at *
  generalize y / 4 = d4 at *
  generalize y / 100 = d100 at *
  generalize y / 400 = d400 at *
  split_ifs
  all_goals omega

theorem daysBeforeYear_le {year year' : Nat} (h : year ≤ year') :
    daysBeforeYear year ≤ daysBeforeYear year' := by
  have hstep : ∀ y, daysBeforeYear y ≤ daysBeforeYear (y + 1) := by
    intro y
    cases y with
    | zero => simp [daysBeforeYear]
    | succ y =>
      rw [daysBeforeYear_succ (Nat.le_add_left 1 y)]
      exact Nat.le_add_right _ _
  exact monotone_nat_of_le_succ hstep h

/-- Of two days the earlier one lies in an earlier year, or earlier in the same year. -/
theorem splitYear_lt {m n year year' rest rest' : Nat} (hm : splitYear m = (year, rest))
    (hn : splitYear n = (year', rest')) (h : m < n) :
    year < year' ∨ year = year' ∧ rest < rest' := by
  obtain ⟨hsum, -, -⟩ := splitYear_spec hm
  obtain ⟨hsum', hrest', hfirst⟩ := splitYear_spec hn
  rcases Nat.lt_trichotomy year year' with hlt | rfl | hgt
  · exact .inl hlt
  · exact .inr ⟨rfl, by omega⟩
  · have hnext := daysBeforeYear_le hgt
    rw [daysBeforeYear_succ hfirst] at hnext
    omega

/-- Of two days of a year the earlier one lies in an earlier month, or earlier in the same month. -/
theorem splitMonth_lt {lengths : List Nat} {m n month month' day day' : Nat}
    (hm : splitMonth lengths m = (month, day)) (hn : splitMonth lengths n = (month', day'))
    (h : m < n) : month < month' ∨ month = month' ∧ day < day' := by
  induction lengths generalizing m n month month' with
  | nil =>
    obtain ⟨rfl, rfl⟩ := Prod.mk.inj hm
    obtain ⟨rfl, rfl⟩ := Prod.mk.inj hn
    exact .inr ⟨rfl, h⟩
  | cons length rest ih =>
    unfold splitMonth at hm hn
    split at hn
    · next hlt =>
      rw [if_pos (Nat.lt_trans h hlt)] at hm
      obtain ⟨rfl, rfl⟩ := Prod.mk.inj hm
      obtain ⟨rfl, rfl⟩ := Prod.mk.inj hn
      exact .inr ⟨rfl, h⟩
    · next hge =>
      obtain ⟨rfl, rfl⟩ := Prod.mk.inj hn
      split at hm
      · obtain ⟨rfl, rfl⟩ := Prod.mk.inj hm
        exact .inl (Nat.succ_pos _)
      · next hge' =>
        obtain ⟨rfl, rfl⟩ := Prod.mk.inj hm
        have hrest := ih rfl rfl (show m - length < n - length by omega)
        rcases hrest with hlt | ⟨heq, hday⟩
        · exact .inl (Nat.succ_lt_succ hlt)
        · exact .inr ⟨congrArg Nat.succ heq, hday⟩

namespace Date

/-- One date comes before another. -/
def Precedes (d e : Date) : Prop :=
  d.year < e.year ∨ d.year = e.year ∧ (d.month < e.month ∨ d.month = e.month ∧ d.day < e.day)

theorem precedes_ofDayNumber {m n : Nat} (h : m < n) :
    (ofDayNumber m).Precedes (ofDayNumber n) := by
  obtain ⟨year, rest, month, day, hyear, hmonth, hdate⟩ := ofDayNumber_spec m
  obtain ⟨year', rest', month', day', hyear', hmonth', hdate'⟩ := ofDayNumber_spec n
  rw [hdate, hdate', Precedes]
  rcases splitYear_lt hyear hyear' h with hlt | ⟨rfl, hrest⟩
  · exact .inl hlt
  · refine .inr ⟨rfl, ?_⟩
    rcases splitMonth_lt hmonth hmonth' hrest with hlt | ⟨rfl, hday⟩
    · exact .inl (Nat.succ_lt_succ hlt)
    · exact .inr ⟨rfl, Nat.succ_lt_succ hday⟩

/-- The text of an earlier date stands first, whatever follows the dates. -/
theorem text_append_le {d e : Date} (he : e.isValid = true) {r s : List Char}
    (h : d.Precedes e ∨ d = e ∧ r ≤ s) : d.text ++ r ≤ e.text ++ s := by
  obtain ⟨hyear, hmonth, hday⟩ := bounds_of_isValid he
  rcases h with hlt | ⟨rfl, hrest⟩
  · simp only [text, List.append_assoc, List.cons_append]
    apply padded_append_le (by decide) hyear
    rcases hlt with hlt | ⟨heq, hlt⟩
    · exact .inl hlt
    refine .inr ⟨heq, List.cons_le_cons _ ?_⟩
    apply padded_append_le (by decide) hmonth
    rcases hlt with hlt | ⟨heq, hlt⟩
    · exact .inl hlt
    refine .inr ⟨heq, List.cons_le_cons _ ?_⟩
    exact padded_append_le (by decide) hday (.inl hlt)
  · exact append_le_append _ hrest

end Date

/-! ## Times -/

/-- The text of an earlier time of day stands first. -/
theorem timeText_append_le {seconds seconds' millis millis' : Nat} (hseconds : seconds' < 86400)
    (hmillis : millis' < 10 ^ 3) (rest : List Char)
    (h : seconds < seconds' ∨ seconds = seconds' ∧ millis ≤ millis') :
    Reader.timeText seconds millis ++ rest ≤ Reader.timeText seconds' millis' ++ rest := by
  have hhour : seconds' / 60 / 60 < 10 ^ 2 := by omega
  have hminute : seconds' / 60 % 60 < 10 ^ 2 := by omega
  have hsecond : seconds' % 60 < 10 ^ 2 := by omega
  simp only [Reader.timeText, Reader.shortText, clockText, List.append_assoc, List.cons_append]
  apply padded_append_le (by decide) hhour
  by_cases hhours : seconds / 60 / 60 < seconds' / 60 / 60
  · exact .inl hhours
  refine .inr ⟨by omega, List.cons_le_cons _ ?_⟩
  apply padded_append_le (by decide) hminute
  by_cases hminutes : seconds / 60 % 60 < seconds' / 60 % 60
  · exact .inl hminutes
  refine .inr ⟨by omega, List.cons_le_cons _ ?_⟩
  apply padded_append_le (by decide) hsecond
  by_cases hrest : seconds % 60 < seconds' % 60
  · exact .inl hrest
  refine .inr ⟨by omega, List.cons_le_cons _ ?_⟩
  apply padded_append_le (by decide) hmillis
  by_cases hmillisLt : millis < millis'
  · exact .inl hmillisLt
  · exact .inr ⟨by omega, le_refl _⟩

namespace Stamp

/-- The text of an earlier time stands first. -/
theorem utcMillis_le {s t : Stamp} (h : s.ticks / 1000 ≤ t.ticks / 1000) :
    s.utcMillis ≤ t.utcMillis := by
  rw [utcMillis_eq, utcMillis_eq]
  apply Date.text_append_le t.date_isValid
  by_cases hday : s.ticks / dayTicks < t.ticks / dayTicks
  · exact .inl (Date.precedes_ofDayNumber hday)
  · have hdays : s.ticks / dayTicks = t.ticks / dayTicks := by
      simp only [dayTicks, secondTicks] at hday ⊢
      omega
    refine .inr ⟨congrArg Date.ofDayNumber hdays, List.cons_le_cons _ ?_⟩
    apply timeText_append_le t.seconds_lt t.millis_lt
    simp only [seconds, millis, timeTicks, dayTicks, secondTicks] at hdays ⊢
    omega

/-! ## Instants -/

/-- A time in UTC shows its instant. -/
theorem ticks_of_toUtc? {s u : Stamp} (h : s.toUtc? = some u) : (u.ticks : Int) = s.instant :=
  (ofTicks?_eq_some.mp h).1

/-- A time is written exactly if its instant lies within the calendar. -/
theorem exists_millis?_iff {s : Stamp} :
    (∃ text, s.millis? = some text) ↔ 0 ≤ s.instant ∧ s.instant < tickLimit := by
  constructor
  · intro h
    obtain ⟨text, htext⟩ := h
    obtain ⟨u, hu, -⟩ := Option.map_eq_some_iff.mp htext
    have hticks := ticks_of_toUtc? hu
    have hbounded := u.bounded
    omega
  · intro h
    have hutc : s.toUtc? = some ⟨s.instant.toNat, some 0, by omega⟩ :=
      ofTicks?_eq_some.mpr ⟨Int.toNat_of_nonneg h.1, rfl⟩
    exact ⟨_, by rw [millis?, hutc]; rfl⟩

/-- Times that show one instant are written alike. -/
theorem millis?_eq_of_instant {s t : Stamp} (h : s.instant = t.instant) :
    s.millis? = t.millis? := by
  rw [millis?, millis?, toUtc?, toUtc?, h]

/-- The texts of times stand in the order of their instants. -/
theorem millis?_le {s t : Stamp} {x y : String} (hx : s.millis? = some x)
    (hy : t.millis? = some y) (h : s.instant / 1000 ≤ t.instant / 1000) : x ≤ y := by
  obtain ⟨u, hu, rfl⟩ := Option.map_eq_some_iff.mp hx
  obtain ⟨v, hv, rfl⟩ := Option.map_eq_some_iff.mp hy
  have hticks : u.ticks / 1000 ≤ v.ticks / 1000 := by
    rw [← ticks_of_toUtc? hu, ← ticks_of_toUtc? hv] at h
    omega
  rw [← String.not_lt, String.lt_iff, String.toList_ofList, String.toList_ofList]
  exact not_lt.mpr (utcMillis_le hticks)

end Stamp

end Eligibility.Calendar

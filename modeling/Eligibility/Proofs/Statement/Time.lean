import Eligibility.Proofs.Calendar.Order
import Eligibility.Proofs.Statement.Order
set_option autoImplicit false

/-!
# Statements: times that are written

A time is written in UTC to the millisecond, whatever clock shows it.  So the text tells
the instant and nothing of the clock: it is read back as the instant, cut off below a
millisecond, and the order of two texts is the order of their instants.
-/

namespace Eligibility.Statement

open Calendar (Stamp)

/-- Only times that show one millisecond are written alike. -/
theorem instant_of_millis?_eq {s t : Stamp} {text : String} (hs : s.millis? = some text)
    (ht : t.millis? = some text) : s.instant / 1000 = t.instant / 1000 := by
  obtain ⟨u, hu, hreadFirst⟩ := readTime_of_millis? hs
  obtain ⟨v, hv, hreadSecond⟩ := readTime_of_millis? ht
  have hsame := (hreadFirst "").symm.trans (hreadSecond "")
  obtain rfl := Option.some.inj (Except.ok.inj hsame)
  have hinstant := hu.instant.symm.trans hv.instant
  omega

/-- The order of two texts is that of their times. -/
theorem instant_le_of_millis?_le {s t : Stamp} {x y : String} (hx : s.millis? = some x)
    (hy : t.millis? = some y) (h : x ≤ y) : s.instant / 1000 ≤ t.instant / 1000 := by
  by_contra hlt
  have hback : y ≤ x := Stamp.millis?_le hy hx (by omega)
  obtain rfl := String.le_antisymm h hback
  exact hlt (Int.le_of_eq (instant_of_millis?_eq hx hy))

/-- The text of a time tells its instant.  A time has a text if its instant lies within the
calendar; the text is read back as the instant in UTC, cut off below a millisecond; times that show
one instant, on whatever clocks, have one text; and the texts of two times stand in the order of
their instants. -/
theorem millis?_tells_instant :
    (∀ s : Stamp, (∃ text, s.millis? = some text) ↔
      0 ≤ s.instant ∧ s.instant < Calendar.tickLimit) ∧
    (∀ (s : Stamp) (text : String), s.millis? = some text →
      ∃ t : Stamp, t.IsUtcMillisOf s ∧ ∀ label, readTime label (.text text) = .ok (some t)) ∧
    (∀ s t : Stamp, s.instant = t.instant → s.millis? = t.millis?) ∧
    ∀ (s t : Stamp) (x y : String), s.millis? = some x → t.millis? = some y →
      (s.instant ≤ t.instant → x ≤ y) ∧ (x ≤ y → s.instant / 1000 ≤ t.instant / 1000) := by
  refine ⟨fun s => Stamp.exists_millis?_iff, fun s text h => readTime_of_millis? h,
    fun s t h => Stamp.millis?_eq_of_instant h, ?_⟩
  intro s t x y hx hy
  constructor
  · intro h
    exact Stamp.millis?_le hx hy (by omega)
  · intro h
    exact instant_le_of_millis?_le hx hy h

/-- Half an hour into the first of March of a leap year, on a clock an hour ahead of UTC. -/
def leapNight : Stamp := ⟨63844849800123999, some 3600000000, by decide⟩

/-- The first microsecond of the next millisecond, on a clock of which no offset is known. -/
def nextMilli : Stamp := ⟨63844846200124000, none, by decide⟩

theorem millis?_tells_instant_leapNight :
    ∃ t x y, leapNight.millis? = some x ∧ x = "2024-02-29T23:30:00.123Z" ∧
      nextMilli.millis? = some y ∧ y = "2024-02-29T23:30:00.124Z" ∧
      readTime "issued at" (.text x) = .ok (some t) ∧ t.instant = 63844846200123000 ∧ x ≤ y := by
  obtain ⟨-, hread, -, horder⟩ := millis?_tells_instant
  have hx : leapNight.millis? = some "2024-02-29T23:30:00.123Z" := by rfl
  have hy : nextMilli.millis? = some "2024-02-29T23:30:00.124Z" := by rfl
  obtain ⟨t, ht, htext⟩ := hread leapNight _ hx
  refine ⟨t, _, _, hx, rfl, hy, rfl, htext "issued at", ?_, ?_⟩
  · rw [ht.instant]
    decide
  · exact (horder leapNight nextMilli _ _ hx hy).1 (by decide)

end Eligibility.Statement

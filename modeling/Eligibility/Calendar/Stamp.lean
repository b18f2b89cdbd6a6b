import Eligibility.Calendar.Date
import Eligibility.Decimal.Notation
set_option autoImplicit false

/-!
# Calendar: time stamps

A stamp is a time of a day as it reads on a clock, with or without the offset of
that clock from UTC.  It is kept as the number of microseconds since the start of
the year 1 on that clock, which the calendar bounds, so moving a stamp is an
addition.  Stamps are written in two layouts: `iso` keeps everything, `millis`
is UTC to the millisecond.

The clock of a place may be put forward and back.  It is given as the offset that it
has when it shows a time, as no rules for any place are known here.  To add to such a
time is to add to what the clock shows; the clock then tells the new offset.
-/

namespace Eligibility.Calendar

/-- The microseconds of a second. -/
def secondTicks : Nat := 1000000

/-- The microseconds of a day. -/
def dayTicks : Nat := 86400 * secondTicks

/-- The microseconds of the whole calendar. -/
def tickLimit : Nat := dayLimit * dayTicks

theorem tickLimit_pos : 0 < tickLimit := by decide

/-- A time of a day. -/
structure Stamp where
  /-- The microseconds since the start of the calendar, on the clock that shows the time. -/
  ticks : Nat
  /-- How many microseconds the clock is ahead of UTC, if that is known. -/
  offset : Option Int
  bounded : ticks < tickLimit
  deriving DecidableEq, Repr

namespace Stamp

/-- The stamp of a number of microseconds, if it lies within the calendar. -/
def ofTicks? (ticks : Int) (offset : Option Int) : Option Stamp :=
  if h : 0 ≤ ticks ∧ ticks < tickLimit then some ⟨ticks.toNat, offset, by omega⟩ else none

/-- The stamp of a day number and a number of microseconds. -/
def ofDay? (day ticks : Nat) (offset : Option Int) : Option Stamp :=
  ofTicks? (day * dayTicks + ticks : Nat) offset

/-- The stamp of the fields of a date and a time. -/
def ofFields? (date : Date) (hour minute second micro : Nat) (offset : Option Int) :
    Option Stamp :=
  if date.isValid && hour < 24 && minute < 60 && second < 60 && micro < 1000000 then
    ofDay? date.dayNumber (((hour * 60 + minute) * 60 + second) * secondTicks + micro) offset
  else none

/-- The date of a stamp. -/
def date (s : Stamp) : Date := Date.ofDayNumber (s.ticks / dayTicks)

/-- The microseconds since midnight. -/
def timeTicks (s : Stamp) : Nat := s.ticks % dayTicks

/-- The microseconds since the start of the calendar in UTC; a clock without an offset shows UTC. -/
def instant (s : Stamp) : Int := s.ticks - s.offset.getD 0

/-- The same instant on a clock that shows UTC, if it lies within the calendar. -/
def toUtc? (s : Stamp) : Option Stamp := ofTicks? s.instant (some 0)

/-- The stamp a number of microseconds later on the same clock, if it lies within the calendar and
the clock is not put forward or back. -/
def add? (s : Stamp) (duration : Int) : Option Stamp := ofTicks? (s.ticks + duration) s.offset

/-! ## Layouts -/

/-- A number with zeros in front, up to a width. -/
def padded (width n : Nat) : List Char := Decimal.padLeft width (Nat.toDigits 10 n)

/-- Hours and minutes of a number of minutes. -/
def clockText (minutes : Nat) : List Char :=
  padded 2 (minutes / 60) ++ ':' :: padded 2 (minutes % 60)

/-- The date and the time up to the second. -/
def secondsText (s : Stamp) : List Char :=
  let d := s.date
  let seconds := s.timeTicks / secondTicks
  padded 4 d.year ++ '-' :: padded 2 d.month ++ '-' :: padded 2 d.day ++
    'T' :: clockText (seconds / 60) ++ ':' :: padded 2 (seconds % 60)

/-- The microseconds of a second, unless there are none. -/
def fractionText (micros : Nat) : List Char :=
  if micros = 0 then [] else '.' :: padded 6 micros

/-- The offset of a clock. -/
def offsetText (offset : Int) : List Char :=
  let n := offset.natAbs
  let seconds := n / secondTicks
  let micros := n % secondTicks
  (if offset < 0 then '-' else '+') :: clockText (seconds / 60) ++
    (if seconds % 60 = 0 ∧ micros = 0 then []
     else ':' :: padded 2 (seconds % 60) ++ fractionText micros)

/-- The whole stamp. -/
def iso (s : Stamp) : String :=
  String.ofList (s.secondsText ++ fractionText (s.timeTicks % secondTicks) ++
    match s.offset with
    | none => []
    | some offset => offsetText offset)

/-- A stamp of UTC to the millisecond. -/
def utcMillis (s : Stamp) : List Char :=
  s.secondsText ++ '.' :: padded 3 (s.timeTicks % secondTicks / 1000) ++ ['Z']

/-- The instant in UTC to the millisecond, if it lies within the calendar. -/
def millis? (s : Stamp) : Option String := s.toUtc?.map fun u => String.ofList u.utcMillis

theorem ofTicks?_eq_some {ticks : Int} {offset : Option Int} {s : Stamp} :
    ofTicks? ticks offset = some s ↔ (s.ticks : Int) = ticks ∧ s.offset = offset := by
  obtain ⟨t, o, hb⟩ := s
  unfold ofTicks?
  split
  · next h =>
    simp only [Option.some.injEq, mk.injEq]
    constructor
    · rintro ⟨ht, rfl⟩; exact ⟨by omega, rfl⟩
    · rintro ⟨ht, rfl⟩; exact ⟨by omega, rfl⟩
  · next h =>
    simp only [reduceCtorEq, false_iff]
    rintro ⟨rfl, -⟩
    exact h ⟨Int.natCast_nonneg t, by omega⟩

theorem instant_toUtc {s u : Stamp} (h : s.toUtc? = some u) : u.instant = s.instant := by
  obtain ⟨ht, ho⟩ := ofTicks?_eq_some.mp h
  simp [instant, ht, ho]

end Stamp

/-! ## Zones -/

/-- How many microseconds the clock of a place is ahead of UTC when it shows a time.  A time that
it shows twice is taken for the first of the two. -/
abbrev Zone : Type := Nat → Int

/-- A time of a day on the clock of a place. -/
structure Zoned where
  stamp : Stamp
  /-- The clock, if it is known. -/
  zone : Option Zone
  placed : stamp.offset.isSome = zone.isSome

namespace Zoned

/-- A time on a clock that is never put forward or back. -/
def fixed (s : Stamp) : Zoned where
  stamp := s
  zone := s.offset.map fun offset _ => offset
  placed := by simp

/-- What the clock shows a number of microseconds later as it is read, if it lies within the
calendar. -/
def add? (z : Zoned) (duration : Int) : Option Stamp :=
  (z.stamp.add? duration).map fun s => { s with offset := z.zone.map fun zone => zone s.ticks }

theorem add?_eq_some {z : Zoned} {duration : Int} {s : Stamp} :
    z.add? duration = some s ↔ (s.ticks : Int) = z.stamp.ticks + duration ∧
      s.offset = z.zone.map fun zone => zone s.ticks := by
  unfold add? Stamp.add?
  rw [Option.map_eq_some_iff]
  constructor
  · rintro ⟨t, ht, rfl⟩
    exact ⟨(Stamp.ofTicks?_eq_some.mp ht).1, rfl⟩
  · rintro ⟨hticks, hoffset⟩
    refine ⟨{ s with offset := z.stamp.offset }, Stamp.ofTicks?_eq_some.mpr ⟨hticks, rfl⟩, ?_⟩
    rw [← hoffset]

/-- On a clock that is never put forward or back, to add is to move the stamp. -/
theorem add?_fixed (s : Stamp) (duration : Int) : (fixed s).add? duration = s.add? duration := by
  refine Option.ext fun t => ?_
  rw [add?_eq_some, Stamp.add?, Stamp.ofTicks?_eq_some, fixed, Option.map_map]
  simp only [Function.comp_def, Option.map_id']

/-- A clock that is put back by one hour when it shows three: two hours after two o'clock it shows
four, and three hours have passed. -/
example :
    let zone : Zone := fun ticks => if ticks < 3 * 3600000000 then 7200000000 else 3600000000
    let z : Zoned := ⟨⟨2 * 3600000000, some 7200000000, by decide⟩, some zone, rfl⟩
    (z.add? 7200000000).map Stamp.instant = some (z.stamp.instant + 3 * 3600000000) := by
  decide +kernel

end Zoned

end Eligibility.Calendar

set_option autoImplicit false

/-!
# Calendar: dates

The Gregorian calendar, extended backwards.  `dayNumber` counts the days from
the first of January of the year 1, which is day 0 and a Monday, and
`ofDayNumber` is its inverse.
-/

namespace Eligibility.Calendar

/-- A day of the calendar. -/
structure Date where
  year : Nat
  month : Nat
  day : Nat
  deriving DecidableEq, Repr

/-- Whether a year has a leap day. -/
def isLeap (year : Nat) : Bool := year % 4 == 0 && (year % 100 != 0 || year % 400 == 0)

/-- The lengths of the months of a year. -/
def monthLengths (year : Nat) : List Nat :=
  [31, if isLeap year then 29 else 28, 31, 30, 31, 30, 31, 31, 30, 31, 30, 31]

/-- The number of days before the first day of a year. -/
def daysBeforeYear (year : Nat) : Nat :=
  let y := year - 1
  y * 365 + y / 4 - y / 100 + y / 400

/-- The number of days in a year. -/
def yearLength (year : Nat) : Nat := if isLeap year then 366 else 365

/-- The year that holds a day, and the number of days before it in that year. -/
def splitYear (n : Nat) : Nat × Nat :=
  let r400 := n % 146097
  let n100 := min 3 (r400 / 36524)
  let r100 := r400 - n100 * 36524
  let n4 := r100 / 1461
  let r4 := r100 % 1461
  let n1 := min 3 (r4 / 365)
  (n / 146097 * 400 + n100 * 100 + n4 * 4 + n1 + 1, r4 - n1 * 365)

/-- The place of a day among months of the given lengths: the month, from zero, and the days
before it in that month. -/
def splitMonth : (lengths : List Nat) → Nat → Nat × Nat
  | [], n => (0, n)
  | length :: rest, n =>
    if n < length then (0, n)
    else
      let (month, day) := splitMonth rest (n - length)
      (month + 1, day)

namespace Date

/-- Whether the year has the month and the month the day; years run from 1 to 9999. -/
def isValid (d : Date) : Bool :=
  1 ≤ d.year && d.year ≤ 9999 && 1 ≤ d.month && d.month ≤ 12 && 1 ≤ d.day &&
    d.day ≤ (monthLengths d.year).getD (d.month - 1) 0

/-- The number of days before the date. -/
def dayNumber (d : Date) : Nat :=
  daysBeforeYear d.year + ((monthLengths d.year).take (d.month - 1)).foldr (· + ·) 0 + (d.day - 1)

/-- The date with a number of days before it. -/
def ofDayNumber (n : Nat) : Date :=
  let (year, rest) := splitYear n
  let (month, day) := splitMonth (monthLengths year) rest
  ⟨year, month + 1, day + 1⟩

end Date

/-- The number of days up to and including the last day of the year 9999. -/
def dayLimit : Nat := 3652059

/-! ## Weeks -/

/-- The number of the Monday that opens week 1 of a year, the week of its first Thursday. -/
def firstMonday (year : Nat) : Nat :=
  let n := daysBeforeYear year
  let weekday := n % 7
  if weekday ≤ 3 then n - weekday else n + 7 - weekday

/-- Whether a year has a week 53. -/
def hasWeek53 (year : Nat) : Bool :=
  let weekday := daysBeforeYear year % 7
  weekday == 3 || (weekday == 2 && isLeap year)

/-- The day number of a day of a numbered week. -/
def ofWeek? (year week day : Nat) : Option Nat :=
  if year == 0 || week == 0 || 53 < week || (week == 53 && !hasWeek53 year) || day == 0 || 7 < day
  then none
  else
    let n := firstMonday year + (week - 1) * 7 + (day - 1)
    if n < dayLimit then some n else none

end Eligibility.Calendar

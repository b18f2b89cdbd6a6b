import Eligibility.Calendar.Stamp
import Eligibility.Text.Split
set_option autoImplicit false

/-!
# Calendar: reading ISO 8601

The reader takes dates by month or by week, with or without hyphens, and after
any one character a time down to microseconds, with or without colons, and an
offset.  Where the date ends is found before it is read, from the places of the
first hyphen and of the week mark.  One stray character in front of an offset is
let pass, and so is anything there behind six digits of a fraction.
-/

namespace Eligibility.Calendar.Reader

/-- The number of the next `count` digits and what follows them. -/
def takeNumber : (count : Nat) → (value : Nat) → List Char → Option (Nat × List Char)
  | 0, value, cs => some (value, cs)
  | _ + 1, _, [] => none
  | count + 1, value, c :: cs =>
    if c.isDigit then takeNumber count (value * 10 + (c.toNat - '0'.toNat)) cs else none

/-- Where the date ends: the number of its characters. -/
def dateLength? (cs : List Char) : Option Nat :=
  let n := cs.length
  if n < 7 then none
  else if n = 7 then some 7
  else
    let isDigitAt (i : Nat) : Bool := (cs[i]?.map Char.isDigit).getD false
    if cs[4]? = some '-' then
      if cs[5]? = some 'W' then
        if n > 8 ∧ cs[8]? = some '-' then
          if n = 9 then none else if n > 10 && isDigitAt 10 then some 8 else some 10
        else some 8
      else some 10
    else if cs[4]? = some 'W' then
      let pos := 7 + ((cs.drop 7).takeWhile Char.isDigit).length
      if pos < 9 then some pos else if pos % 2 = 0 then some 7 else some 8
    else some 8

/-- The characters after a hyphen, or after nothing if none is expected. -/
def afterHyphen? (expected : Bool) (cs : List Char) : Option (List Char) :=
  if expected then Text.afterList? ['-'] cs else some cs

/-- The day of a week and a weekday, which may be left out. -/
def weekDay? (hyphens : Bool) (year : Nat) (cs : List Char) : Option Nat := do
  let (week, rest) ← takeNumber 2 0 cs
  if rest.isEmpty then ofWeek? year week 1
  else
    let rest ← afterHyphen? hyphens rest
    let (day, _) ← takeNumber 1 0 rest
    ofWeek? year week day

/-- The day of a month and a day. -/
def monthDay? (hyphens : Bool) (year : Nat) (cs : List Char) : Option Nat := do
  let (month, rest) ← takeNumber 2 0 cs
  let rest ← afterHyphen? hyphens rest
  let (day, rest) ← takeNumber 2 0 rest
  let date : Date := ⟨year, month, day⟩
  if rest.isEmpty && date.isValid then some date.dayNumber else none

/-- The day number of a date. -/
def day? (cs : List Char) : Option Nat := do
  let (year, rest) ← takeNumber 4 0 cs
  let hyphens := rest.head? == some '-'
  let rest := if hyphens then rest.tail else rest
  match rest with
  | 'W' :: rest => weekDay? hyphens year rest
  | _ => monthDay? hyphens year rest

/-- A time of day or an offset. -/
structure Clock where
  hour : Nat := 0
  minute : Nat := 0
  second : Nat := 0
  micro : Nat := 0

/-- The seconds of a clock. -/
def Clock.seconds (c : Clock) : Nat := (c.hour * 60 + c.minute) * 60 + c.second

/-- What follows the digits of a field. -/
inductive Follow where
  /-- The end, and whether nothing stands there. -/
  | finish (clean : Bool)
  /-- Another field. -/
  | field (rest : List Char)
  /-- A fraction. -/
  | fraction (rest : List Char)

/-- What follows the digits of a field, in front of `tail`.  With colons, a colon must follow; a
point or a comma opens a fraction. -/
def follow? (tail : Char) (colons : Bool) (rest : List Char) : Option Follow :=
  let c := rest.headD tail
  if rest.length ≤ 1 then some (.finish (c == '\x00'))
  else if colons && c == ':' then some (.field rest.tail)
  else if c == '.' || c == ',' then some (.fraction rest.tail)
  else if !colons then some (.field rest)
  else none

/-- The microseconds of a fraction, six digits of it at most, and whether nothing follows it. -/
def fraction? (tail : Char) (cs : List Char) : Option (Nat × Bool) := do
  let count := min 6 cs.length
  let (value, rest) ← takeNumber count 0 cs
  let rest := rest.dropWhile Char.isDigit
  return (value * tenPow (6 - count), rest.headD tail == '\x00')

/-- A clock of up to three fields and a fraction, in front of `tail`, and whether nothing follows
it. -/
def clock? (tail : Char) (cs : List Char) : Option (Clock × Bool) := do
  let (hour, rest) ← takeNumber 2 0 cs
  let colons := rest.headD tail == ':'
  match ← follow? tail colons rest with
  | .finish clean => return ({ hour }, clean)
  | .fraction rest =>
    let (micro, clean) ← fraction? tail rest
    return ({ hour, micro }, clean)
  | .field rest =>
    let (minute, rest) ← takeNumber 2 0 rest
    match ← follow? tail colons rest with
    | .finish clean => return ({ hour, minute }, clean)
    | .fraction rest =>
      let (micro, clean) ← fraction? tail rest
      return ({ hour, minute, micro }, clean)
    | .field rest =>
      let (second, rest) ← takeNumber 2 0 rest
      match ← follow? tail colons rest with
      | .finish clean => return ({ hour, minute, second }, clean)
      | .fraction rest | .field rest =>
        let (micro, clean) ← fraction? tail rest
        return ({ hour, minute, second, micro }, clean)

/-- Whether a character opens an offset. -/
def opensOffset (c : Char) : Bool := c == '+' || c == '-' || c == 'Z'

/-- The offset behind a sign.  Less than a day; one without whole seconds is UTC. -/
def offset? (negative : Bool) (cs : List Char) : Option Int := do
  let (clock, clean) ← clock? '\x00' cs
  let micros : Int := clock.seconds * secondTicks + clock.micro
  if !clean then none
  else if clock.seconds = 0 then some 0
  else if micros < dayTicks then some (if negative then -micros else micros)
  else none

/-- A time of day and an offset, if there is one. -/
def time? (cs : List Char) : Option (Clock × Option Int) :=
  let front := cs.takeWhile fun c => !opensOffset c
  match cs.dropWhile fun c => !opensOffset c with
  | [] => do
    let (clock, clean) ← clock? '\x00' front
    if clean then return (clock, none) else none
  | mark :: rest => do
    let (clock, _) ← clock? mark front
    if mark == 'Z' then
      if rest.headD '\x00' == '\x00' then return (clock, some 0) else none
    else return (clock, some (← offset? (mark == '-') rest))

/-- The stamp of a date and a time. -/
def stampOf? (day : Nat) (time : Clock × Option Int) : Option Stamp :=
  let (c, offset) := time
  if c.hour < 24 && c.minute < 60 && c.second < 60 then
    Stamp.ofDay? day (c.seconds * secondTicks + c.micro) offset
  else none

end Reader

/-- The stamp that a text writes.  A text that is only a date means midnight. -/
def Stamp.read? (s : String) : Option Stamp := do
  let cs := s.toList
  let n ← Reader.dateLength? cs
  let day ← Reader.day? (cs.take n)
  match cs.drop n with
  | [] => Reader.stampOf? day ({}, none)
  | _ :: time => Reader.stampOf? day (← Reader.time? time)

end Eligibility.Calendar

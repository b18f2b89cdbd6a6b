import Eligibility.Text.Split
set_option autoImplicit false

/-!
# Calendar: the form of a date-time

A recogniser for the rule `date-time` of RFC 3339: a date, a `T` in either case,
a time with seconds and perhaps a fraction, and a `Z` in either case or an
offset.  Only the form counts, so a month may be 13.
-/

namespace Eligibility.Calendar

/-- What follows `count` digits. -/
def afterDigits? : (count : Nat) → List Char → Option (List Char)
  | 0, cs => some cs
  | _ + 1, [] => none
  | count + 1, c :: cs => if c.isDigit then afterDigits? count cs else none

/-- What follows two digits, a mark, and two digits. -/
def afterPair? (mark : Char) (cs : List Char) : Option (List Char) := do
  let rest ← afterDigits? 2 cs
  let rest ← Text.afterList? [mark] rest
  afterDigits? 2 rest

/-- Whether the characters are an offset. -/
def isOffsetText (cs : List Char) : Bool :=
  match cs with
  | ['Z'] | ['z'] => true
  | '+' :: rest | '-' :: rest => afterPair? ':' rest == some []
  | _ => false

/-- What follows a fraction, if one stands next. -/
def afterFraction? (cs : List Char) : Option (List Char) :=
  match cs with
  | '.' :: rest =>
    if (rest.head?.map Char.isDigit).getD false then some (rest.dropWhile Char.isDigit) else none
  | _ => some cs

/-- What follows the time of day. -/
def afterTime? (cs : List Char) : Option (List Char) := do
  let rest ← afterPair? ':' cs
  let rest ← Text.afterList? [':'] rest
  let rest ← afterDigits? 2 rest
  afterFraction? rest

/-- What follows the date. -/
def afterDate? (cs : List Char) : Option (List Char) := do
  let rest ← afterDigits? 4 cs
  let rest ← Text.afterList? ['-'] rest
  afterPair? '-' rest

/-- Whether the characters are a date-time. -/
def isDateTimeText (cs : List Char) : Bool :=
  match afterDate? cs with
  | some (t :: rest) =>
    (t == 'T' || t == 't') && ((afterTime? rest).map isOffsetText).getD false
  | _ => false

end Eligibility.Calendar

import Eligibility.Json.Basic
import Eligibility.Decimal.Notation
import Eligibility.Text.Hex
set_option autoImplicit false

/-!
# JSON: reading

The reader takes one value with blanks around it and nothing after it.  A text
that is not one is refused with the place at which reading stopped, counted in
characters from the start.  Members with the same name keep the first place and
the last value.

Texts hold characters only, so half of a surrogate pair that is escaped on its own is
read as U+FFFD.
-/

namespace Eligibility.Json

/-- Why a text is no value. -/
inductive ReadFault where
  /-- It stops being JSON at a place. -/
  | notJson (position : Nat)
  /-- A whole number has more digits than are read. -/
  | tooManyDigits
  deriving DecidableEq, Repr

/-- The rest of a text and its distance from the start. -/
structure Cursor where
  position : Nat
  rest : List Char

namespace Cursor

/-- Whether a character may stand between tokens. -/
def isGap (c : Char) : Bool := c == ' ' || c == '\t' || c == '\n' || c == '\r'

/-- Past the gap that comes next. -/
def skipGap (c : Cursor) : Cursor :=
  let gap := c.rest.takeWhile isGap
  ⟨c.position + gap.length, c.rest.dropWhile isGap⟩

/-- Refuse here. -/
def refuse {α : Type} (c : Cursor) : Except ReadFault α := .error (.notJson c.position)

end Cursor

/-- The value of four hex digits. -/
def hex4? (a b c d : Char) : Option Nat := do
  let a ← Text.hexValue? a
  let b ← Text.hexValue? b
  let c ← Text.hexValue? c
  let d ← Text.hexValue? d
  return ((a * 16 + b) * 16 + c) * 16 + d

/-- The first half of a surrogate pair. -/
def isHighSurrogate (n : Nat) : Bool := 0xD800 ≤ n && n ≤ 0xDBFF

/-- The second half of a surrogate pair. -/
def isLowSurrogate (n : Nat) : Bool := 0xDC00 ≤ n && n ≤ 0xDFFF

/-- The character of a surrogate pair. -/
def joinSurrogates (high low : Nat) : Char :=
  Char.ofNat (0x10000 + (high - 0xD800) * 0x400 + (low - 0xDC00))

/-- The character of a code unit; half a pair on its own has none. -/
def unitChar (n : Nat) : Char :=
  if isHighSurrogate n || isLowSurrogate n then Char.ofNat 0xFFFD else Char.ofNat n

/-- The characters of the code units, a surrogate pair being one. -/
def ofUnits : List Nat → List Char
  | [] => []
  | [n] => [unitChar n]
  | high :: low :: rest =>
    if isHighSurrogate high && isLowSurrogate low then joinSurrogates high low :: ofUnits rest
    else unitChar high :: ofUnits (low :: rest)

/-- The character of a one-letter escape. -/
def escapeChar? (c : Char) : Option Char :=
  if c == '"' || c == '\\' || c == '/' then some c
  else if c == 'b' then some '\x08'
  else if c == 'f' then some '\x0c'
  else if c == 'n' then some '\n'
  else if c == 'r' then some '\r'
  else if c == 't' then some '\t'
  else none

/-- Put a code unit in front of what is read next. -/
def prepend (n : Nat) : Except ReadFault (List Nat × Cursor) → Except ReadFault (List Nat × Cursor)
  | .ok (ns, next) => .ok (n :: ns, next)
  | .error e => .error e

/-- The code units of a string up to its closing quote; `start` is the place of the opening one. -/
def readUnits (start : Nat) : (position : Nat) → List Char → Except ReadFault (List Nat × Cursor)
  | _, [] => .error (.notJson start)
  | p, '"' :: rest => .ok ([], ⟨p + 1, rest⟩)
  | _, ['\\'] => .error (.notJson start)
  | p, '\\' :: 'u' :: a :: b :: c :: d :: rest =>
    match hex4? a b c d with
    | none => .error (.notJson (p + 1))
    | some n =>
      if rest.isEmpty then .error (.notJson (p + 1)) else prepend n (readUnits start (p + 6) rest)
  | p, '\\' :: 'u' :: _ => .error (.notJson (p + 1))
  | p, '\\' :: c :: rest =>
    match escapeChar? c with
    | some e => prepend e.toNat (readUnits start (p + 2) rest)
    | none => .error (.notJson p)
  | p, c :: rest =>
    if c.toNat < 32 then .error (.notJson p) else prepend c.toNat (readUnits start (p + 1) rest)

/-- The string that starts after its opening quote. -/
def readString (start : Nat) (rest : List Char) : Except ReadFault (String × Cursor) := do
  let (ns, next) ← readUnits start (start + 1) rest
  return (String.ofList (ofUnits ns), next)

/-- The digits of the fraction that comes next, if a point with a digit does. -/
def takeFraction : List Char → Option (List Char × List Char)
  | '.' :: c :: rest =>
    if c.isDigit then some (Decimal.spanDigits (c :: rest)) else none
  | _ => none

/-- The exponent that comes next, if a mark, a sign or none, and a digit do. -/
def takeExponent : List Char → Option (Int × Nat × List Char)
  | c :: rest =>
    if c == 'e' || c == 'E' then
      let (negative, body) := Decimal.takeSign rest
      let (ds, after) := Decimal.spanDigits body
      if ds.isEmpty then none
      else
        let n : Int := Decimal.digitsValue ds
        some (if negative then -n else n, 1 + (rest.length - body.length) + ds.length, after)
    else none
  | [] => none

/-- A number without its sign, which starts with a digit. -/
def readMagnitude (negative : Bool) (c : Cursor) : Except ReadFault (Json × Cursor) :=
  let (ds, rest) := match c.rest with
    | '0' :: rest => (['0'], rest)
    | cs => Decimal.spanDigits cs
  let fraction := takeFraction rest
  let (fs, behind) := fraction.getD ([], rest)
  let exponent := takeExponent behind
  let (e, len, tail) := exponent.getD (0, 0, behind)
  let position := c.position + ds.length + (if fraction.isSome then fs.length + 1 else 0) + len
  if fraction.isNone && exponent.isNone then
    if Decimal.maxDigits < ds.length then .error .tooManyDigits else
    let n : Int := Decimal.digitsValue ds
    .ok (.whole (if negative then -n else n), ⟨position, tail⟩)
  else
    .ok (.real (Binary64.ofDecimal negative (Decimal.digitsValue (ds ++ fs)) (e - fs.length)),
      ⟨position, tail⟩)

/-- A word, a number, or nothing that starts a value. -/
def readScalar (c : Cursor) : Except ReadFault (Json × Cursor) :=
  match c.rest with
  | 'n' :: 'u' :: 'l' :: 'l' :: rest => .ok (.null, ⟨c.position + 4, rest⟩)
  | 't' :: 'r' :: 'u' :: 'e' :: rest => .ok (.boolean true, ⟨c.position + 4, rest⟩)
  | 'f' :: 'a' :: 'l' :: 's' :: 'e' :: rest => .ok (.boolean false, ⟨c.position + 5, rest⟩)
  | 'N' :: 'a' :: 'N' :: rest => .ok (.real .nan, ⟨c.position + 3, rest⟩)
  | 'I' :: 'n' :: 'f' :: 'i' :: 'n' :: 'i' :: 't' :: 'y' :: rest =>
    .ok (.real (.infinite false), ⟨c.position + 8, rest⟩)
  | '-' :: 'I' :: 'n' :: 'f' :: 'i' :: 'n' :: 'i' :: 't' :: 'y' :: rest =>
    .ok (.real (.infinite true), ⟨c.position + 9, rest⟩)
  | '-' :: d :: rest =>
    if d.isDigit then readMagnitude true ⟨c.position + 1, d :: rest⟩ else c.refuse
  | d :: _ => if d.isDigit then readMagnitude false c else c.refuse
  | [] => c.refuse

mutual

/-- One value.  Each step into a value takes one unit of `fuel`. -/
def readValue : (fuel : Nat) → Cursor → Except ReadFault (Json × Cursor)
  | 0, c => c.refuse
  | fuel + 1, c =>
    match c.rest with
    | '"' :: rest => do
      let (s, next) ← readString c.position rest
      return (.text s, next)
    | '[' :: rest =>
      let inside := Cursor.skipGap ⟨c.position + 1, rest⟩
      match inside.rest with
      | ']' :: rest => .ok (.array [], ⟨inside.position + 1, rest⟩)
      | _ => do
        let (items, next) ← readItems fuel inside
        return (.array items, next)
    | '{' :: rest =>
      let inside := Cursor.skipGap ⟨c.position + 1, rest⟩
      match inside.rest with
      | '}' :: rest => .ok (.object [], ⟨inside.position + 1, rest⟩)
      | _ => do
        let (members, next) ← readMembers fuel inside
        return (.object (Mapping.ofPairs members), next)
    | _ => readScalar c

/-- The items of an array up to its closing bracket; there is at least one. -/
def readItems : (fuel : Nat) → Cursor → Except ReadFault (List Json × Cursor)
  | 0, c => c.refuse
  | fuel + 1, c => do
    let (item, next) ← readValue fuel c
    let next := next.skipGap
    match next.rest with
    | ']' :: rest => return ([item], ⟨next.position + 1, rest⟩)
    | ',' :: rest =>
      let (items, after) ← readItems fuel (Cursor.skipGap ⟨next.position + 1, rest⟩)
      return (item :: items, after)
    | _ => next.refuse

/-- The members of an object up to its closing brace; there is at least one. -/
def readMembers : (fuel : Nat) → Cursor → Except ReadFault (List (String × Json) × Cursor)
  | 0, c => c.refuse
  | fuel + 1, c =>
    match c.rest with
    | '"' :: rest => do
      let (name, next) ← readString c.position rest
      let next := next.skipGap
      match next.rest with
      | ':' :: rest =>
        let (value, next) ← readValue fuel (Cursor.skipGap ⟨next.position + 1, rest⟩)
        let next := next.skipGap
        match next.rest with
        | '}' :: rest => return ([(name, value)], ⟨next.position + 1, rest⟩)
        | ',' :: rest =>
          let (members, after) ← readMembers fuel (Cursor.skipGap ⟨next.position + 1, rest⟩)
          return ((name, value) :: members, after)
        | _ => next.refuse
      | _ => next.refuse
    | _ => c.refuse

end

/-- The value that a text holds. -/
def read (s : String) : Except ReadFault Json := do
  let cs := s.toList
  let (value, next) ← readValue (cs.length + 1) (Cursor.skipGap ⟨0, cs⟩)
  let next := next.skipGap
  if next.rest.isEmpty then return value else next.refuse

end Eligibility.Json

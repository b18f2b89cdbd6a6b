import Eligibility.Decimal.Shortest
import Eligibility.Text.Blank
set_option autoImplicit false

/-!
# Decimal: numbers as text

`Notation` says how a number of the format binary64 is laid out; `plain` is the
layout of every such number that this library writes.  `readReal?` and
`readWhole?` are the lenient readers of configuration values: blanks around the
number, a sign, and single underscores between digits are taken.
-/

namespace Eligibility.Decimal

/-- How the digits of a number are laid out. -/
structure Notation where
  /-- Positional for decimal points above this place and not above `positionalMax`. -/
  positionalMin : Int
  positionalMax : Int
  /-- The least number of digits of an exponent. -/
  exponentDigits : Nat
  /-- The texts of infinity and of not-a-number. -/
  infinity : String
  notANumber : String

/-- Positional from 0.0001 up to, but not including, 10 ^ 16, always with a digit after the point;
otherwise a signed exponent of two digits or more. -/
def plain : Notation where
  positionalMin := -4
  positionalMax := 16
  exponentDigits := 2
  infinity := "inf"
  notANumber := "nan"

/-- The digits with zeros in front, up to a width. -/
def padLeft (width : Nat) (cs : List Char) : List Char :=
  List.replicate (width - cs.length) '0' ++ cs

/-- The digits with a decimal point, a zero standing where a side has no digit. -/
def positional (d : Digits) : List Char :=
  if d.point ≤ 0 then '0' :: '.' :: (List.replicate (-d.point).toNat '0' ++ d.digits)
  else
    let n := d.point.toNat
    if d.digits.length ≤ n then
      d.digits ++ List.replicate (n - d.digits.length) '0' ++ ['.', '0']
    else d.digits.take n ++ '.' :: d.digits.drop n

/-- The digits with an exponent. -/
def scientific (n : Notation) (d : Digits) : List Char :=
  let e := d.point - 1
  let lead := match d.digits with
    | [] => ['0']
    | [c] => [c]
    | c :: rest => c :: '.' :: rest
  lead ++ 'e' :: (if e < 0 then '-' else '+') ::
    padLeft n.exponentDigits (Nat.toDigits 10 e.natAbs)

/-- The text of a number. -/
def Notation.write (n : Notation) : Binary64 → String
  | .nan => n.notANumber
  | .infinite negative => (if negative then "-" else "") ++ n.infinity
  | .finite negative m e _ =>
    let body :=
      if m = 0 then ['0', '.', '0']
      else
        let d := shortest m e
        if n.positionalMin < d.point ∧ d.point ≤ n.positionalMax then positional d
        else scientific n d
    String.ofList (if negative then '-' :: body else body)

/-- The text of a number in the plain layout. -/
def write (x : Binary64) : String := plain.write x

/-! ## Reading -/

/-- The leading ASCII digits and what follows them. -/
def spanDigits (cs : List Char) : List Char × List Char :=
  (cs.takeWhile Char.isDigit, cs.dropWhile Char.isDigit)

/-- The value of a list of ASCII digits. -/
def digitsValue (cs : List Char) : Nat := Nat.ofDigitChars 10 cs 0

/-- The text without its underscores, if each stands alone between two characters. -/
def withoutUnderscores? (cs : List Char) : Option (List Char) :=
  if cs.head? = some '_' || cs.getLast? = some '_' || doubled cs then none
  else some (cs.filter (· != '_'))
where
  /-- Whether two underscores stand side by side. -/
  doubled : List Char → Bool
    | '_' :: '_' :: _ => true
    | _ :: rest => doubled rest
    | [] => false

/-- The sign of a number and what follows it. -/
def takeSign : List Char → Bool × List Char
  | '-' :: cs => (true, cs)
  | '+' :: cs => (false, cs)
  | cs => (false, cs)

/-- The exponent that ends a number: none, or a mark and digits with an optional sign. -/
def readExponent? : List Char → Option Int
  | [] => some 0
  | c :: cs =>
    if c == 'e' || c == 'E' then
      let (negative, ds) := takeSign cs
      if ds.isEmpty || !ds.all Char.isDigit then none
      else
        let n : Int := digitsValue ds
        some (if negative then -n else n)
    else none

/-- A decimal number: digits with an optional point among or beside them, and an exponent. -/
def readUnsigned? (negative : Bool) (cs : List Char) : Option Binary64 :=
  let (whole, rest) := spanDigits cs
  let (part, rest) := match rest with
    | '.' :: rest => spanDigits rest
    | rest => ([], rest)
  if whole.isEmpty && part.isEmpty then none
  else (readExponent? rest).map fun e =>
    Binary64.ofDecimal negative (digitsValue (whole ++ part)) (e - part.length)

/-- A number with a sign, an infinity or not-a-number in any case. -/
def readSigned? (cs : List Char) : Option Binary64 :=
  let (negative, body) := takeSign cs
  let word := body.map Char.toLower
  if word = ['i', 'n', 'f'] || word = ['i', 'n', 'f', 'i', 'n', 'i', 't', 'y'] then
    some (.infinite negative)
  else if word = ['n', 'a', 'n'] then some .nan
  else readUnsigned? negative body

/-- The number of a configuration text. -/
def readReal? (s : String) : Option Binary64 :=
  let cs := Text.trimEndsList Text.isWhiteSpace s.toList
  match readSigned? cs with
  | some x => some x
  | none => (withoutUnderscores? cs).bind readSigned?

/-- Why a text is not a whole number. -/
inductive WholeFault where
  | notWhole
  | tooLong
  deriving DecidableEq, Repr

/-- The longest whole number that is read. -/
def maxDigits : Nat := 4300

/-- The digits without a point that only zeros follow. -/
def withoutZeroPart (cs : List Char) : List Char :=
  let whole := cs.takeWhile (· != '.')
  match cs.dropWhile (· != '.') with
  | '.' :: part => if part.all (· == '0') then whole else cs
  | _ => cs

/-- The digits without leading zeros; the last digit stays. -/
def withoutLeadingZeros (cs : List Char) : List Char :=
  match cs.dropWhile (fun c => c == '0' || c == '_') with
  | [] => ['0']
  | rest => rest

/-- The whole number of a configuration text: digits with an optional sign, leading zeros, single
underscores, and a point that only zeros follow. -/
def readWhole? (s : String) : Except WholeFault Int :=
  let cs := Text.trimEndsList Text.isWhiteSpace s.toList
  let (negative, body) := takeSign cs
  match withoutUnderscores? (withoutZeroPart body) with
  | none => .error .notWhole
  | some digits =>
    if digits.isEmpty || !digits.all Char.isDigit then .error .notWhole
    else
      let digits := withoutLeadingZeros digits
      if maxDigits < digits.length then .error .tooLong
      else
        let n : Int := digitsValue digits
        .ok (if negative then -n else n)

end Eligibility.Decimal

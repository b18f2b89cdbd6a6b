import Eligibility.Text.Mark
import Eligibility.Text.Printable
import Eligibility.Uri.Idna
set_option autoImplicit false

/-!
# URIs: names that are not plain ASCII

One answer to what names stand for, which the program runs with.  Characters outside
ASCII must be printable and must not be another form of one that no host holds; a
label that is written in Punycode must decode to one that is not.  Labels outside ASCII
are left as they are, since all that is asked of a name is whether it is empty or ends
in a number.

It is an approximation.  It does not compose characters, knows no characters that are
not yet assigned from those that are, and checks neither where characters that join
others may stand nor which directions of script may meet in a label.
-/

namespace Eligibility.Uri

/-- Characters whose compatible form holds a denied one. -/
def deniedFormRanges : List (Nat × Nat) :=
  [ (0xA0, 0xA0), (0xA8, 0xA8), (0xAF, 0xAF), (0xB4, 0xB4), (0xB8, 0xB8), (0x2D8, 0x2DD),
    (0x37A, 0x37A), (0x384, 0x385), (0x1FBD, 0x1FBD), (0x1FBF, 0x1FC1), (0x1FCD, 0x1FCF),
    (0x1FDD, 0x1FDF), (0x1FED, 0x1FEE), (0x1FFD, 0x1FFE), (0x2000, 0x200A), (0x2017, 0x2017),
    (0x202F, 0x202F), (0x203E, 0x203E), (0x2047, 0x2049), (0x205F, 0x205F), (0x2100, 0x2101),
    (0x2105, 0x2106), (0x2A74, 0x2A74), (0x3000, 0x3000), (0x309B, 0x309C), (0xFC5E, 0xFC63),
    (0xFDFA, 0xFDFB), (0xFE13, 0xFE13), (0xFE16, 0xFE16), (0xFE47, 0xFE4C), (0xFE55, 0xFE56),
    (0xFE5F, 0xFE5F), (0xFE64, 0xFE65), (0xFE68, 0xFE68), (0xFE6A, 0xFE6B), (0xFE70, 0xFE70),
    (0xFE72, 0xFE72), (0xFE74, 0xFE74), (0xFE76, 0xFE76), (0xFE78, 0xFE78), (0xFE7A, 0xFE7A),
    (0xFE7C, 0xFE7C), (0xFE7E, 0xFE7E), (0xFF03, 0xFF03), (0xFF05, 0xFF05), (0xFF0F, 0xFF0F),
    (0xFF1A, 0xFF1A), (0xFF1C, 0xFF1C), (0xFF1E, 0xFF20), (0xFF3B, 0xFF3E), (0xFF5C, 0xFF5C),
    (0xFFE3, 0xFFE3) ]

/-- Characters that describe or replace other ones. -/
def describingRanges : List (Nat × Nat) := [ (0x2FF0, 0x2FFF), (0xFFF9, 0xFFFD) ]

/-- Characters that leave no trace in a name. -/
def vanishingRanges : List (Nat × Nat) :=
  [ (0xAD, 0xAD), (0x34F, 0x34F), (0x180B, 0x180D), (0x180F, 0x180F), (0x200B, 0x200B),
    (0x2060, 0x2060), (0x2064, 0x2064), (0xFE00, 0xFE0F), (0xFEFF, 0xFEFF), (0xE0100, 0xE01EF) ]

/-- Characters that stand for the dot between labels. -/
def isDot (c : Char) : Bool :=
  c == '.' || c.toNat == 0x3002 || c.toNat == 0xFF0E || c.toNat == 0xFF61

/-- Whether a character may stand in a name. -/
def isNameChar (c : Char) : Bool :=
  if c.toNat < 0x80 then !isDenied c
  else Text.isPrintable c && !Text.inRanges c.toNat deniedFormRanges &&
    !Text.inRanges c.toNat describingRanges

/-- The characters that leave a trace, with one kind of dot; letters of full width become ASCII. -/
def mapName (cs : List Char) : List Char :=
  (cs.filter fun c => !Text.inRanges c.toNat vanishingRanges).map fun c =>
    if isDot c then '.'
    else if 0xFF01 ≤ c.toNat && c.toNat ≤ 0xFF5E then Char.ofNat (c.toNat - 0xFEE0)
    else c

/-! ## Punycode -/

/-- The value of a digit in base 36. -/
def punyDigit? (c : Char) : Option Nat :=
  let n := c.toNat
  if 97 ≤ n && n ≤ 122 then some (n - 97)
  else if 65 ≤ n && n ≤ 90 then some (n - 65)
  else if 48 ≤ n && n ≤ 57 then some (n - 22)
  else none

/-- How many times a difference is divided before it is small, and what is left of it. -/
def punyDivide (delta steps : Nat) : Nat × Nat :=
  if 455 < delta then punyDivide (delta / 35) (steps + 36) else (delta, steps)
termination_by delta
decreasing_by exact Nat.div_lt_self (by omega) (by omega)

/-- The bias after a difference. -/
def punyBias (delta count : Nat) (first : Bool) : Nat :=
  let d := if first then delta / 700 else delta / 2
  let (d, steps) := punyDivide (d + d / count) 0
  steps + 36 * d / (d + 38)

/-- The difference that the next digits write, and what follows them. -/
def punyDifference? (bias : Nat) : (place weight sum : Nat) → List Char → Option (Nat × List Char)
  | _, _, _, [] => none
  | place, weight, sum, c :: cs => do
    let d ← punyDigit? c
    let sum := sum + d * weight
    let threshold := if place ≤ bias then 1 else if bias + 26 ≤ place then 26 else place - bias
    if d < threshold then some (sum, cs)
    else punyDifference? bias (place + 36) (weight * (36 - threshold)) sum cs

/-- The code points of a Punycode text from a state on; each difference takes a unit of `fuel`. -/
def punyInsert : (fuel bias code index : Nat) → (first : Bool) → List Nat → List Char →
    Option (List Nat)
  | _, _, _, _, _, out, [] => some out
  | 0, _, _, _, _, _, _ => none
  | fuel + 1, bias, code, index, first, out, cs => do
    let (difference, rest) ← punyDifference? bias 36 1 0 cs
    let count := out.length + 1
    let total := index + difference
    let code := code + total / count
    let index := total % count
    if 0x10FFFF < code then none
    else
      punyInsert fuel (punyBias difference count first) code (index + 1) false
        (out.take index ++ code :: out.drop index) rest

/-- The code points of a Punycode label without its mark. -/
def punyDecode? (cs : List Char) : Option (List Nat) :=
  let (basic, extended) := Text.cutAtLastList '-' cs
  let basic := basic.getD []
  if extended.isEmpty then none
  else punyInsert extended.length 72 128 0 true (basic.map Char.toNat) extended

/-- Whether a label, in small ASCII letters, is no Punycode or good Punycode. -/
def isLabel (cs : List Char) : Bool :=
  match cs with
  | 'x' :: 'n' :: '-' :: '-' :: rest =>
    match punyDecode? rest with
    | some codes =>
      codes.any (0x80 ≤ ·) && codes.all fun n => n.isValidChar && isNameChar (Char.ofNat n)
    | none => false
  | c :: _ => !Text.isMark c
  | [] => true

/-- The answer of these tables. -/
@[reducible] def Idna.tables : Idna where
  toAscii? cs :=
    let name := mapName cs
    if name.all isNameChar && ((Text.piecesList '.' name).map (·.map Char.toLower)).all isLabel
    then some name else none

end Eligibility.Uri

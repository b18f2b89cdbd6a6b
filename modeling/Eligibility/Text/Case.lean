import Eligibility.Text.CaseTable
set_option autoImplicit false

/-!
# Text: lower and upper case

Full case mappings, so a text may grow: the capital of U+00DF is two letters.
One mapping to lower case looks at its context, the capital sigma, which at the
end of a word becomes U+03C2.
-/

namespace Eligibility.Text

/-- The code point moved by the first run that contains it. -/
def moveBy (runs : List Run) (n : Nat) : Nat :=
  match runs.find? (·.contains n) with
  | some r => (n + r.offset).toNat
  | none => n

/-- Whether case context looks through the character. -/
def isCaseIgnorable (c : Char) : Bool := inRanges c.toNat caseIgnorableRanges

/-- Whether the character is a cased letter. -/
def isCased (c : Char) : Bool := inRanges c.toNat casedRanges

/-- Whether the next character that is not looked through is a cased letter. -/
def meetsCased (cs : List Char) : Bool :=
  match cs.dropWhile isCaseIgnorable with
  | [] => false
  | c :: _ => isCased c

/-- The small form of one character, given the characters before it, nearest first, and after it. -/
def lowerChar (before : List Char) (c : Char) (after : List Char) : List Char :=
  if c.toNat < 0x80 then [c.toLower]
  else if c == 'Σ' then
    if meetsCased before && !meetsCased after then ['ς'] else ['σ']
  else if c == 'İ' then ['i', Char.ofNat 0x307]
  else [Char.ofNat (moveBy lowercaseRuns c.toNat)]

/-- The small form of `cs`, which follow `before`, nearest first. -/
def lowerFrom : (before : List Char) → List Char → List Char
  | _, [] => []
  | before, c :: cs => lowerChar before c cs ++ lowerFrom (c :: before) cs

/-- The text in lower case. -/
def lower (s : String) : String := String.ofList (lowerFrom [] s.toList)

/-- The capital form of one character. -/
def upperChar (c : Char) : List Char :=
  if c.toNat < 0x80 then [c.toUpper]
  else match uppercaseSpecials.lookup c.toNat with
    | some ns => ns.map Char.ofNat
    | none => [Char.ofNat (moveBy uppercaseRuns c.toNat)]

/-- The text in upper case. -/
def upper (s : String) : String := String.ofList (s.toList.flatMap upperChar)

end Eligibility.Text

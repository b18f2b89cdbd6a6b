set_option autoImplicit false

/-!
# Text: similar words

How much two words have in common: the longest part that both hold, and then
the same on either side of it.  A word is similar to another one if at least
three fifths of their characters are in common.
-/

namespace Eligibility.Text

/-- The number of characters with which both lists start. -/
def commonStart : List Char → List Char → Nat
  | a :: as, b :: bs => if a = b then commonStart as bs + 1 else 0
  | _, _ => 0

/-- A part that two words hold: where it starts in each of them, and its length. -/
structure CommonPart where
  left : Nat
  right : Nat
  length : Nat

/-- The longest part that both words hold, the earliest in the first word and then in the second. -/
def longestCommon (a b : List Char) : CommonPart :=
  (List.range a.length).foldl (fun best i =>
    (List.range b.length).foldl (fun best j =>
      let length := commonStart (a.drop i) (b.drop j)
      if best.length < length then ⟨i, j, length⟩ else best) best) ⟨0, 0, 0⟩

/-- The number of characters that two words have in common, with at most `fuel` cuts in a row. -/
def commonCount : (fuel : Nat) → List Char → List Char → Nat
  | 0, _, _ => 0
  | fuel + 1, a, b =>
    let part := longestCommon a b
    if part.length = 0 then 0
    else
      commonCount fuel (a.take part.left) (b.take part.right) + part.length +
        commonCount fuel (a.drop (part.left + part.length)) (b.drop (part.right + part.length))

/-- A measure of what two words have in common: the characters of both that are, and all of them. -/
def likeness (a b : String) : Nat × Nat :=
  (2 * commonCount (a.length + 1) a.toList b.toList, a.length + b.length)

/-- Whether two words are similar. -/
def isSimilar (a b : String) : Bool :=
  let (common, total) := likeness a b
  3 * total ≤ 5 * common

/-- Whether the first measure is the greater one, or the same of a later word. -/
def isLiker (a b : (Nat × Nat) × String) : Bool :=
  let left := a.1.1 * b.1.2
  let right := b.1.1 * a.1.2
  right < left || (left = right && b.2 ≤ a.2)

/-- The words, at most three of them, that are most similar to a word, in alphabetical order. -/
def similarWords (word : String) (words : List String) : List String :=
  let alike := (words.filter (isSimilar · word)).map fun w => (likeness w word, w)
  (((alike.mergeSort isLiker).take 3).map (·.2)).mergeSort fun a b => a ≤ b

end Eligibility.Text

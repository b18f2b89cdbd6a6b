import Eligibility.Terminal.EmojiTable
import Eligibility.Text.Blank
import Eligibility.Text.Case
import Eligibility.Text.Split
set_option autoImplicit false

/-!
# Terminal: emoji

A name of an emoji between colons stands for the emoji.  The name may end in the
word of a form, which picks the form in colour or the plain one.
-/

namespace Eligibility.Terminal

/-- The names of emoji, each with its emoji. -/
def emojiTable : List (String × String) :=
  (emojiRows.flatMap (Text.pieces '|')).map fun entry =>
    let (name, emoji) := Text.cutAt ' ' entry
    (name, emoji.getD "")

/-- The words of forms, each with the character that picks it. -/
def emojiForms : List (List Char × Char) :=
  [("-text".toList, Char.ofNat 0xFE0E), ("-emoji".toList, Char.ofNat 0xFE0F)]

/-- A name without the word of a form, and the character that picks the form. -/
def takeForm (name : List Char) : List Char × List Char :=
  match emojiForms.find? fun form => form.1.isSuffixOf name with
  | some (word, c) => (name.take (name.length - word.length), [c])
  | none => (name, [])

/-- The emoji of a name. -/
def emoji? (name : List Char) : Option (List Char) :=
  let (name, form) := takeForm name
  (emojiTable.lookup (Text.lower (String.ofList name))).map fun emoji => emoji.toList ++ form

/-- The name that stands next, up to a colon, and what follows the colon. -/
def takeName? (cs : List Char) : Option (List Char × List Char) :=
  let isInside (c : Char) : Bool := c != ':' && !Text.isBlank c
  match cs.dropWhile isInside with
  | ':' :: rest => some (cs.takeWhile isInside, rest)
  | _ => none

/-- A text with its names of emoji replaced; each step takes one unit of `fuel`. -/
def replaceEmoji : (fuel : Nat) → List Char → List Char
  | 0, cs => cs
  | _ + 1, [] => []
  | fuel + 1, c :: cs =>
    match if c == ':' then takeName? cs else none with
    | some (name, rest) => (emoji? name).getD (':' :: name ++ [':']) ++ replaceEmoji fuel rest
    | none => c :: replaceEmoji fuel cs

/-- A text with its names of emoji replaced. -/
def withEmoji (cs : List Char) : List Char := replaceEmoji cs.length cs

end Eligibility.Terminal

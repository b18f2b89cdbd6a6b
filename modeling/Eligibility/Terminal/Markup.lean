import Eligibility.Terminal.Emoji
import Eligibility.Terminal.Style
set_option autoImplicit false

/-!
# Terminal: markup

A text for a terminal may hold tags in brackets, which style what they enclose
and are not shown.  A backslash in front of a tag takes it for text, and a tag
with a slash closes one that is open.  Without colours nothing of a style is
left, so what counts is the text, whether every closing tag closes something, and
whether every style can be read.

A tag with an at sign says what to call where it is closed.  Only the name of what to
call is read here; one with arguments of its own, which are literals of a programming
language, is taken for one that cannot be read.
-/

namespace Eligibility.Terminal

/-- A tag: its name, and what stands behind an equals sign. -/
structure Tag where
  name : String
  parameters : Option String
  deriving DecidableEq, Repr

/-- A piece of a text with markup. -/
inductive Piece where
  | text (cs : List Char)
  | tag (t : Tag)
  deriving DecidableEq, Repr

/-- Whether a character may come first in a tag. -/
def isTagStart (c : Char) : Bool :=
  ('a' ≤ c && c ≤ 'z') || c == '#' || c == '/' || c == '@'

/-- The inside of a tag that stands next, after its opening bracket, and what follows it. -/
def tagInside? (cs : List Char) : Option (List Char × List Char) :=
  match cs with
  | first :: rest =>
    if isTagStart first then
      let inside := rest.takeWhile fun c => c != '[' && c != ']'
      match rest.dropWhile fun c => c != '[' && c != ']' with
      | ']' :: after => some (first :: inside, after)
      | _ => none
    else none
  | [] => none

/-- Backslashes and a tag that stand next: how many, the inside of the tag and what follows. -/
def escapedTag? (cs : List Char) : Option (Nat × List Char × List Char) :=
  let slashes := cs.takeWhile (· == '\\')
  match cs.dropWhile (· == '\\') with
  | '[' :: rest => (tagInside? rest).map fun (inside, after) => (slashes.length, inside, after)
  | _ => none

/-- The piece of text that ends before a tag, unless it is empty. -/
def textPiece (gathered : List Char) : List Piece :=
  if gathered.isEmpty then [] else [.text gathered.reverse]

/-- The pieces of a tag behind backslashes.  Two backslashes stand for one, and an odd one takes the
tag for text. -/
def tagPieces (slashes : Nat) (inside : List Char) : List Piece :=
  textPiece (List.replicate (slashes / 2) '\\') ++
    if slashes % 2 = 1 then [.text ('[' :: inside ++ [']'])]
    else
      let (name, parameters) := Text.cutAtList '=' inside
      [.tag ⟨String.ofList name, parameters.map String.ofList⟩]

/-- The pieces of a text, `gathered` being the text since the last tag, turned round.  Each step
takes one unit of `fuel`. -/
def piecesFrom : (fuel : Nat) → (gathered : List Char) → List Char → List Piece
  | 0, gathered, _ => textPiece gathered
  | _ + 1, gathered, [] => textPiece gathered
  | fuel + 1, gathered, c :: cs =>
    match escapedTag? (c :: cs) with
    | some (slashes, inside, after) =>
      textPiece gathered ++ tagPieces slashes inside ++ piecesFrom fuel [] after
    | none => piecesFrom fuel (c :: gathered) cs

/-- The pieces of a text. -/
def piecesOf (cs : List Char) : List Piece := piecesFrom (cs.length + 1) [] cs

/-- Whether what a tag with an at sign calls can be read: nothing, or a name. -/
def isCallable (parameters : Option String) : Bool :=
  (Text.trim (parameters.getD "")).toList.all fun c => c.isAlphanum || c == '_' || c == '.'

/-- Whether a tag can be drawn, where it is closed or at the end of the text: its style or what it
calls can be read, be it that it means nothing. -/
def Tag.isDrawn (t : Tag) (closed : Bool) : Bool :=
  if t.name.startsWith "@" then !closed || isCallable t.parameters
  else match Style.read (t.name ++ (t.parameters.map (" " ++ ·)).getD "") with
    | .error .unreadable => false
    | _ => true

/-- The first of the open tags with a name, and the others. -/
def takeTag? (name : String) (opened : List Tag) : Option (Tag × List Tag) :=
  (opened.find? (·.name = name)).map fun t => (t, opened.erase t)

/-- The tags that are open after a tag, the last one first; none if it closes nothing, or a style
cannot be read. -/
def openAfter? (opened : List Tag) (t : Tag) : Option (List Tag) :=
  match t.name.toList with
  | '/' :: rest => do
    let name := Text.trim (String.ofList rest)
    let (closed, others) ← if name.isEmpty then
        opened.head?.map fun t => (t, opened.tail)
      else takeTag? (← Style.normalize? name) opened
    if closed.isDrawn true then some others else none
  | _ => (Style.normalize? t.name).map fun name => { t with name := name } :: opened

/-- Text with a backslash in front of a bracket taken for the bracket. -/
def withoutEscapes : List Char → List Char
  | '\\' :: '[' :: cs => '[' :: withoutEscapes cs
  | c :: cs => c :: withoutEscapes cs
  | [] => []

/-- Characters that only steer a terminal. -/
def isSteering (c : Char) : Bool :=
  let n := c.toNat
  n == 7 || n == 8 || n == 11 || n == 12 || n == 13

/-- The text that a piece of text shows. -/
def shownPiece (cs : List Char) : List Char :=
  (withEmoji (withoutEscapes cs)).filter fun c => !isSteering c

/-- The text that pieces show, with some tags open before them. -/
def showPieces? (opened : List Tag) : List Piece → Option (List Char)
  | [] => if opened.all (Tag.isDrawn · false) then some [] else none
  | .text cs :: rest => (showPieces? opened rest).map (shownPiece cs ++ ·)
  | .tag t :: rest => do showPieces? (← openAfter? opened t) rest

/-- The text that a text with markup shows, if it can be shown. -/
def shown? (s : String) : Option String :=
  let cs := s.toList
  (showPieces? [] (if cs.contains '[' then piecesOf cs else [.text cs])).map String.ofList

end Eligibility.Terminal

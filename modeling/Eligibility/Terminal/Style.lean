import Eligibility.Text.Blank
import Eligibility.Text.Case
import Eligibility.Text.Digit
set_option autoImplicit false

/-!
# Terminal: styles

A style is told by words: attributes, which may be short or denied, a colour, a
colour of the ground and a link.  Styles are the same if their words say the same,
in whatever order, so a style has a normal form.  Words that tell no style are
their own normal form, in lower case.  A colour with an empty component is worse:
it cannot be read at all.
-/

namespace Eligibility.Terminal

/-- The attributes of a style, in the order in which they are written. -/
def attributeNames : List String :=
  ["bold", "dim", "italic", "underline", "blink", "blink2", "reverse", "conceal", "strike",
   "underline2", "frame", "encircle", "overline"]

/-- The attributes that have a short name. -/
def shortNames : List (String × String) :=
  [("b", "bold"), ("d", "dim"), ("i", "italic"), ("u", "underline"), ("r", "reverse"),
   ("c", "conceal"), ("s", "strike"), ("uu", "underline2"), ("o", "overline")]

/-- The attribute that a word names. -/
def attribute? (word : String) : Option String :=
  let name := (shortNames.lookup word).getD word
  if attributeNames.contains name then some name else none

/-- The names of colours. -/
def colourRows : List String :=
  ["black red green yellow blue magenta cyan white bright_black bright_red bright_green",
   "bright_yellow bright_blue bright_magenta bright_cyan bright_white grey0 gray0 navy_blue",
   "dark_blue blue3 blue1 dark_green deep_sky_blue4 dodger_blue3 dodger_blue2 green4",
   "spring_green4 turquoise4 deep_sky_blue3 dodger_blue1 green3 spring_green3 dark_cyan",
   "light_sea_green deep_sky_blue2 deep_sky_blue1 spring_green2 cyan3 dark_turquoise",
   "turquoise2 green1 spring_green1 medium_spring_green cyan2 cyan1 dark_red deep_pink4",
   "purple4 purple3 blue_violet orange4 grey37 gray37 medium_purple4 slate_blue3 royal_blue1",
   "chartreuse4 dark_sea_green4 pale_turquoise4 steel_blue steel_blue3 cornflower_blue",
   "chartreuse3 cadet_blue sky_blue3 steel_blue1 pale_green3 sea_green3 aquamarine3",
   "medium_turquoise chartreuse2 sea_green2 sea_green1 aquamarine1 dark_slate_gray2",
   "dark_magenta dark_violet purple light_pink4 plum4 medium_purple3 slate_blue1 yellow4",
   "wheat4 grey53 gray53 light_slate_grey light_slate_gray medium_purple light_slate_blue",
   "dark_olive_green3 dark_sea_green light_sky_blue3 sky_blue2 dark_sea_green3",
   "dark_slate_gray3 sky_blue1 chartreuse1 light_green pale_green1 dark_slate_gray1 red3",
   "medium_violet_red magenta3 dark_orange3 indian_red hot_pink3 medium_orchid3",
   "medium_orchid medium_purple2 dark_goldenrod light_salmon3 rosy_brown grey63 gray63",
   "medium_purple1 gold3 dark_khaki navajo_white3 grey69 gray69 light_steel_blue3",
   "light_steel_blue yellow3 dark_sea_green2 light_cyan3 light_sky_blue1 green_yellow",
   "dark_olive_green2 dark_sea_green1 pale_turquoise1 deep_pink3 magenta2 hot_pink2 orchid",
   "medium_orchid1 orange3 light_pink3 pink3 plum3 violet light_goldenrod3 tan misty_rose3",
   "thistle3 plum2 khaki3 light_goldenrod2 light_yellow3 grey84 gray84 light_steel_blue1",
   "yellow2 dark_olive_green1 honeydew2 light_cyan1 red1 deep_pink2 deep_pink1 magenta1",
   "orange_red1 indian_red1 hot_pink dark_orange salmon1 light_coral pale_violet_red1",
   "orchid2 orchid1 orange1 sandy_brown light_salmon1 light_pink1 pink1 plum1 gold1",
   "navajo_white1 misty_rose1 thistle1 yellow1 light_goldenrod1 khaki1 wheat1 cornsilk1",
   "grey100 gray100 grey3 gray3 grey7 gray7 grey11 gray11 grey15 gray15 grey19 gray19 grey23",
   "gray23 grey27 gray27 grey30 gray30 grey35 gray35 grey39 gray39 grey42 gray42 grey46",
   "gray46 grey50 gray50 grey54 gray54 grey58 gray58 grey62 gray62 grey66 gray66 grey70",
   "gray70 grey74 gray74 grey78 gray78 grey82 gray82 grey85 gray85 grey89 gray89 grey93",
   "gray93"]

/-- Why words tell no style. -/
inductive StyleFault where
  /-- A word has no meaning where it stands. -/
  | meaningless
  /-- A number in a colour cannot be read. -/
  | unreadable
  deriving DecidableEq, Repr

/-- The value of a row of decimal digits. -/
def readDigits (cs : List Char) : Except StyleFault Nat :=
  if cs.isEmpty then .error .unreadable
  else cs.foldlM (fun n c =>
    match Text.digitValue? c with
    | some d => .ok (10 * n + d)
    | none => .error .meaningless) 0

/-- What stands between a lead and a closing parenthesis at the end. -/
def between? (lead : String) (cs : List Char) : Option (List Char) :=
  match Text.afterList? lead.toList cs with
  | some rest => if rest.getLast? = some ')' then some rest.dropLast else none
  | none => none

/-- Read a colour: by its name, its six hexadecimal digits, its number or its three components. -/
def readColour (word : String) : Except StyleFault Unit :=
  let word := Text.lower word
  let cs := word.toList
  if word = "default" || (colourRows.flatMap (Text.pieces ' ')).contains word then .ok ()
  else match cs, between? "color(" cs, between? "rgb(" cs with
    | _, some number, _ =>
      if number.all (fun c => '0' ≤ c && c ≤ '9') && 1 ≤ number.length && number.length ≤ 3 then
        (readDigits number).bind fun n => if n ≤ 255 then .ok () else .error .meaningless
      else .error .meaningless
    | _, _, some components =>
      if components.isEmpty || !components.all (fun c => c == ',' || (Text.digitValue? c).isSome)
      then .error .meaningless
      else match Text.piecesList ',' components with
        | [red, green, blue] => do
          let values ← [red, green, blue].mapM readDigits
          if values.all (· ≤ 255) then .ok () else .error .meaningless
        | _ => .error .meaningless
    | '#' :: digits, _, _ =>
      if digits.length = 6 && digits.all (fun c => ('0' ≤ c && c ≤ '9') || ('a' ≤ c && c ≤ 'f'))
      then .ok () else .error .meaningless
    | _, _, _ => .error .meaningless

/-- A style. -/
structure Style where
  /-- The attributes that are given, and whether each is set or denied. -/
  attributes : List (String × Bool) := []
  colour : Option String := none
  ground : Option String := none
  link : Option String := none
  deriving DecidableEq, Repr

namespace Style

/-- A style with an attribute set or denied. -/
def withAttribute (s : Style) (name : String) (isSet : Bool) : Style :=
  { s with attributes := (name, isSet) :: s.attributes }

/-- Read the words of a style, with those before them already in it. -/
def readWords (s : Style) : List String → Except StyleFault Style
  | [] => .ok s
  | word :: rest =>
    match Text.lower word, rest with
    | "on", colour :: rest => do
      readColour colour
      readWords { s with ground := some (Text.lower colour) } rest
    | "not", word :: rest =>
      match attribute? word with
      | some name => readWords (s.withAttribute name false) rest
      | none => .error .meaningless
    | "link", target :: rest => readWords { s with link := some target } rest
    | "on", [] | "not", [] | "link", [] => .error .meaningless
    | lowered, rest =>
      match attribute? lowered with
      | some name => readWords (s.withAttribute name true) rest
      | none => do
        readColour lowered
        readWords { s with colour := some lowered } rest

/-- The words of a text. -/
def wordsOf (s : String) : List String :=
  ((s.toList.splitBy fun a b => !(Text.isBlank a || Text.isBlank b)).filter
    fun cs => !cs.all Text.isBlank).map String.ofList

/-- Read a style. -/
def read (definition : String) : Except StyleFault Style :=
  if definition.isEmpty || Text.trim definition = "none" then .ok {}
  else readWords {} (wordsOf definition)

/-- The words of a style in their order. -/
def toWords (s : Style) : List String :=
  (attributeNames.flatMap fun name =>
      match s.attributes.lookup name with
      | some true => [name]
      | some false => ["not", name]
      | none => []) ++
    s.colour.toList ++ (s.ground.toList.flatMap fun g => ["on", g]) ++
    (s.link.toList.flatMap fun l => ["link", l])

/-- The text of a style. -/
def text (s : Style) : String :=
  if s.toWords.isEmpty then "none" else Text.join " " s.toWords

/-- The normal form of a style; none if it cannot be read at all. -/
def normalize? (definition : String) : Option String :=
  match read definition with
  | .ok s => some s.text
  | .error .meaningless => some (Text.lower (Text.trim definition))
  | .error .unreadable => none

end Style

example : Style.normalize? "red Bold" = Style.normalize? "b red" := by decide +kernel

end Eligibility.Terminal

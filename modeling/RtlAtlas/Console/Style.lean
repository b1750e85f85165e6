/-
Styles of console text, as they are written: ways to look, `not` before those that are switched off,
a colour, `on` before the colour behind the text, and `link` before a target. `Style.parse` reads one;
`Style.name` writes it in one way, so that styles with the same effect have the same name.
-/
import RtlAtlas.Text.Blank
import RtlAtlas.Text.Digit
import RtlAtlas.Text.Find
import RtlAtlas.Text.Lower

namespace RtlAtlas.Console

open RtlAtlas.Text

/-- Why a style cannot be read. -/
inductive StyleFault where
  /-- It is not written as a style. -/
  | noStyle
  /-- A part of a colour is written as a number but is none. -/
  | noNumber (text : String)
  deriving DecidableEq, Repr

/-! ## Colours -/

def colourNames : String :=
"black red green yellow blue magenta cyan white bright_black bright_red bright_green bright_yellow
bright_blue bright_magenta bright_cyan bright_white grey0 gray0 navy_blue dark_blue blue3 blue1
dark_green deep_sky_blue4 dodger_blue3 dodger_blue2 green4 spring_green4 turquoise4
deep_sky_blue3 dodger_blue1 green3 spring_green3 dark_cyan light_sea_green deep_sky_blue2
deep_sky_blue1 spring_green2 cyan3 dark_turquoise turquoise2 green1 spring_green1
medium_spring_green cyan2 cyan1 dark_red deep_pink4 purple4 purple3 blue_violet orange4 grey37
gray37 medium_purple4 slate_blue3 royal_blue1 chartreuse4 dark_sea_green4 pale_turquoise4
steel_blue steel_blue3 cornflower_blue chartreuse3 cadet_blue sky_blue3 steel_blue1 pale_green3
sea_green3 aquamarine3 medium_turquoise chartreuse2 sea_green2 sea_green1 aquamarine1
dark_slate_gray2 dark_magenta dark_violet purple light_pink4 plum4 medium_purple3 slate_blue1
yellow4 wheat4 grey53 gray53 light_slate_grey light_slate_gray medium_purple light_slate_blue
dark_olive_green3 dark_sea_green light_sky_blue3 sky_blue2 dark_sea_green3 dark_slate_gray3
sky_blue1 chartreuse1 light_green pale_green1 dark_slate_gray1 red3 medium_violet_red magenta3
dark_orange3 indian_red hot_pink3 medium_orchid3 medium_orchid medium_purple2 dark_goldenrod
light_salmon3 rosy_brown grey63 gray63 medium_purple1 gold3 dark_khaki navajo_white3 grey69
gray69 light_steel_blue3 light_steel_blue yellow3 dark_sea_green2 light_cyan3 light_sky_blue1
green_yellow dark_olive_green2 dark_sea_green1 pale_turquoise1 deep_pink3 magenta2 hot_pink2
orchid medium_orchid1 orange3 light_pink3 pink3 plum3 violet light_goldenrod3 tan misty_rose3
thistle3 plum2 khaki3 light_goldenrod2 light_yellow3 grey84 gray84 light_steel_blue1 yellow2
dark_olive_green1 honeydew2 light_cyan1 red1 deep_pink2 deep_pink1 magenta1 orange_red1
indian_red1 hot_pink dark_orange salmon1 light_coral pale_violet_red1 orchid2 orchid1 orange1
sandy_brown light_salmon1 light_pink1 pink1 plum1 gold1 navajo_white1 misty_rose1 thistle1
yellow1 light_goldenrod1 khaki1 wheat1 cornsilk1 grey100 gray100 grey3 gray3 grey7 gray7 grey11
gray11 grey15 gray15 grey19 gray19 grey23 gray23 grey27 gray27 grey30 gray30 grey35 gray35 grey39
gray39 grey42 gray42 grey46 gray46 grey50 gray50 grey54 gray54 grey58 gray58 grey62 gray62 grey66
gray66 grey70 gray70 grey74 gray74 grey78 gray78 grey82 gray82 grey85 gray85 grey89 gray89 grey93
gray93"

/-- The number that a part of a colour writes. -/
def colourPart (cs : List Char) : Except StyleFault Nat :=
  if cs.isEmpty || digitLimit < cs.length then .error (.noNumber (String.ofList cs))
  else .ok (decimal cs)

/-- Reads a colour given by red, green and blue. -/
def mixedColour (cs : List Char) : Except StyleFault Unit := do
  match splitAt ',' cs with
  | [red, green, blue] =>
    let parts ← [red, green, blue].mapM colourPart
    if parts.all (· ≤ 255) then .ok () else .error .noStyle
  | _ => .error .noStyle

def isSmallHex (c : Char) : Bool := ('0' ≤ c && c ≤ '9') || ('a' ≤ c && c ≤ 'f')

/-- What a text holds between a lead and a closing bracket. -/
def inBrackets? (lead : String) (cs : List Char) : Option (List Char) :=
  match dropLead? lead.toList cs with
  | some rest => if rest.getLast? = some ')' then some rest.dropLast else none
  | none => none

/-- Reads a colour in small letters: a name, six hexadecimal digits after a hash sign, the number of a
colour in brackets, or three numbers in brackets. -/
def readColour (cs : List Char) : Except StyleFault Unit :=
  if cs == "default".toList || (words colourNames.toList).contains cs then .ok ()
  else
    match cs, inBrackets? "color(" cs, inBrackets? "rgb(" cs with
    | '#' :: digits, _, _ =>
      if digits.length = 6 && digits.all isSmallHex then .ok () else .error .noStyle
    | _, some digits, _ =>
      if 1 ≤ digits.length && digits.length ≤ 3 && digits.all (fun c => '0' ≤ c && c ≤ '9') &&
          decimal digits ≤ 255 then .ok ()
      else .error .noStyle
    | _, _, some parts =>
      if !parts.isEmpty && parts.all (fun c => isDigit c || c == ',') then mixedColour parts
      else .error .noStyle
    | _, _, _ => .error .noStyle

/-- The colour that a word names, in small letters. -/
def colour (word : List Char) : Except StyleFault String := do
  let small := lower word
  readColour small
  return String.ofList small

/-! ## Styles -/

/-- The short and the long names of the ways in which text can look, in the order in which they are
written. -/
def looks : List (String × String) :=
  [("b", "bold"), ("d", "dim"), ("i", "italic"), ("u", "underline"), ("blink", "blink"),
    ("blink2", "blink2"), ("r", "reverse"), ("c", "conceal"), ("s", "strike"),
    ("uu", "underline2"), ("frame", "frame"), ("encircle", "encircle"), ("o", "overline")]

/-- The long name of a look. -/
def look? (word : List Char) : Option String :=
  (looks.find? fun l => l.1.toList == word || l.2.toList == word).map (·.2)

/-- How text is shown. -/
structure Style where
  /-- Looks that are switched on or off; of two for one look the first counts. -/
  looks : List (String × Bool) := []
  colour : Option String := none
  background : Option String := none
  link : Option String := none
  deriving DecidableEq, Repr

namespace Style

/-- Adds the words of a style, one after the other. -/
def addWords (s : Style) : List (List Char) → Except StyleFault Style
  | [] => .ok s
  | w :: ws =>
    let small := lower w
    if small == "on".toList then
      match ws with
      | [] => .error .noStyle
      | next :: rest =>
        match Console.colour next with
        | .ok name => addWords { s with background := some name } rest
        | .error fault => .error fault
    else if small == "not".toList then
      match ws with
      | [] => .error .noStyle
      | next :: rest =>
        match look? next with
        | some name => addWords { s with looks := (name, false) :: s.looks } rest
        | none => .error .noStyle
    else if small == "link".toList then
      match ws with
      | [] => .error .noStyle
      | next :: rest => addWords { s with link := some (String.ofList next) } rest
    else
      match look? small with
      | some name => addWords { s with looks := (name, true) :: s.looks } ws
      | none =>
        match Console.colour small with
        | .ok name => addWords { s with colour := some name } ws
        | .error fault => .error fault

/-- Reads a style; no words, or the word `none` alone, write the style that changes nothing. -/
def parse (cs : List Char) : Except StyleFault Style :=
  if trim cs == "none".toList then .ok {} else addWords {} (words cs)

/-- How a look is written. -/
def lookText (s : Style) (name : String) : List String :=
  match s.looks.find? fun l => l.1 == name with
  | some (_, true) => [name]
  | some (_, false) => ["not", name]
  | none => []

def wordsOf (s : Style) : List String :=
  Console.looks.flatMap (fun l => s.lookText l.2) ++ s.colour.toList ++
    ((s.background.map fun c => ["on", c]).getD []) ++ ((s.link.map fun l => ["link", l]).getD [])

def name (s : Style) : String :=
  if s.wordsOf.isEmpty then "none" else " ".intercalate s.wordsOf

end Style

/-- The name of what is written as a style: that of the style, or what is written, in small letters. -/
def styleName (cs : List Char) : Except StyleFault String :=
  match Style.parse cs with
  | .ok s => .ok s.name
  | .error .noStyle => .ok (String.ofList (lower (trim cs)))
  | .error fault => .error fault

example : (styleName "not i  B link Q b".toList).toOption = some "bold not italic link Q" := by
  decide +kernel

end RtlAtlas.Console

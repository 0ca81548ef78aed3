import Stencil.Data.Fault
import Stencil.Text.Blank
import Stencil.Text.Case

/-!
# Styles

What a tag in a message asks for: attributes, colours and a link.  A style has
one text, whatever its words and their order were, so that the tag that closes
it may use other words than the one that opened it.
-/

namespace Stencil.Host.Console

/-- Attributes that are turned on or off, the colours of the characters and
behind them, and a link. -/
structure Style where
  attributes : List (Text × Bool)
  colour : Option Text
  background : Option Text
  link : Option Text

namespace Style

/-- The style that asks for nothing. -/
def plain : Style := ⟨[], none, none, none⟩

/-- The names of the attributes, each with its abbreviation if it has one. -/
def attributeNames : List (List Text) :=
  ["bold b", "dim d", "italic i", "underline u", "blink", "blink2", "reverse r", "conceal c",
   "strike s", "underline2 uu", "frame", "encircle", "overline o"].map fun names =>
    Text.split ' ' names.toList

def attribute? (word : Text) : Option Text :=
  (attributeNames.find? fun names => names.contains word).bind List.head?

/-- The colours with names of their own. -/
def colourNames : String :=
  "default black red green yellow blue magenta cyan white bright_black bright_red bright_green
   bright_yellow bright_blue bright_magenta bright_cyan bright_white grey0 gray0 navy_blue
   dark_blue blue3 blue1 dark_green deep_sky_blue4 dodger_blue3 dodger_blue2 green4 spring_green4
   turquoise4 deep_sky_blue3 dodger_blue1 green3 spring_green3 dark_cyan light_sea_green
   deep_sky_blue2 deep_sky_blue1 spring_green2 cyan3 dark_turquoise turquoise2 green1
   spring_green1 medium_spring_green cyan2 cyan1 dark_red deep_pink4 purple4 purple3 blue_violet
   orange4 grey37 gray37 medium_purple4 slate_blue3 royal_blue1 chartreuse4 dark_sea_green4
   pale_turquoise4 steel_blue steel_blue3 cornflower_blue chartreuse3 cadet_blue sky_blue3
   steel_blue1 pale_green3 sea_green3 aquamarine3 medium_turquoise chartreuse2 sea_green2
   sea_green1 aquamarine1 dark_slate_gray2 dark_magenta dark_violet purple light_pink4 plum4
   medium_purple3 slate_blue1 yellow4 wheat4 grey53 gray53 light_slate_grey light_slate_gray
   medium_purple light_slate_blue dark_olive_green3 dark_sea_green light_sky_blue3 sky_blue2
   dark_sea_green3 dark_slate_gray3 sky_blue1 chartreuse1 light_green pale_green1
   dark_slate_gray1 red3 medium_violet_red magenta3 dark_orange3 indian_red hot_pink3
   medium_orchid3 medium_orchid medium_purple2 dark_goldenrod light_salmon3 rosy_brown grey63
   gray63 medium_purple1 gold3 dark_khaki navajo_white3 grey69 gray69 light_steel_blue3
   light_steel_blue yellow3 dark_sea_green2 light_cyan3 light_sky_blue1 green_yellow
   dark_olive_green2 dark_sea_green1 pale_turquoise1 deep_pink3 magenta2 hot_pink2 orchid
   medium_orchid1 orange3 light_pink3 pink3 plum3 violet light_goldenrod3 tan misty_rose3
   thistle3 plum2 khaki3 light_goldenrod2 light_yellow3 grey84 gray84 light_steel_blue1 yellow2
   dark_olive_green1 honeydew2 light_cyan1 red1 deep_pink2 deep_pink1 magenta1 orange_red1
   indian_red1 hot_pink dark_orange salmon1 light_coral pale_violet_red1 orchid2 orchid1 orange1
   sandy_brown light_salmon1 light_pink1 pink1 plum1 gold1 navajo_white1 misty_rose1 thistle1
   yellow1 light_goldenrod1 khaki1 wheat1 cornsilk1 grey100 gray100 grey3 gray3 grey7 gray7
   grey11 gray11 grey15 gray15 grey19 gray19 grey23 gray23 grey27 gray27 grey30 gray30 grey35
   gray35 grey39 gray39 grey42 gray42 grey46 gray46 grey50 gray50 grey54 gray54 grey58 gray58
   grey62 gray62 grey66 gray66 grey70 gray70 grey74 gray74 grey78 gray78 grey82 gray82 grey85
   gray85 grey89 gray89 grey93 gray93"

def isNamedColour (word : Text) : Bool :=
  (colourNames.splitOn " ").any fun name => name.trimAscii.toString.toList = word

/-- The parts of a colour between commas, each a number. -/
def components : List Text → Except Fault (List Nat)
  | [] => .ok []
  | part :: parts =>
      if part = [] then .error .noDigits
      else if part.length > maxDigits then .error .tooManyDigits
      else do
        let first := Text.ofDigits 10 (part.filterMap Text.digitValue?)
        return first :: (← components parts)

/-- What is between a name with an opening bracket and a closing one. -/
def between? (name word : Text) : Option Text :=
  match Text.after? (name ++ ['(']) word with
  | some rest => if rest.getLast? = some ')' then some rest.dropLast else none
  | none => none

/-- Whether a word is a number sign and six hexadecimal digits. -/
def isHexColour (word : Text) : Bool :=
  match word with
  | '#' :: digits => digits.length = 6 && digits.all fun char => (Text.hexValue? char).isSome
  | _ => false

/-- Whether a word is a number of a colour in a table of 256. -/
def isNumberedColour (word : Text) : Bool :=
  match between? "color".toList word with
  | some digits =>
      0 < digits.length && digits.length ≤ 3 && digits.all Text.isDigit
        && Text.ofDigits 10 (digits.filterMap Text.digitValue?) ≤ 255
  | none => false

def isColour (word : Text) : Except Fault Bool :=
  if isNamedColour word || isHexColour word || isNumberedColour word then .ok true
  else match between? "rgb".toList word with
    | some inside =>
        let parts := Text.split ',' inside
        if parts.length = 3 && inside.all fun char =>
            char = ',' || (Text.digitValue? char).isSome then do
          return (← components parts).all (· ≤ 255)
        else .ok false
    | none => .ok false

/-- A colour in small letters, if a word is one. -/
def colour? (word : Text) : Except Fault (Option Text) := do
  return if ← isColour (Text.lower word) then some (Text.lower word) else none

/-- A style with what some words ask for; none if one of them means nothing. -/
def withWords : List Text → Style → Except Fault (Option Style)
  | [], style => .ok (some style)
  | first :: words, style =>
      let word := Text.lower first
      if word = "on".toList then
        match words with
        | colour :: words => do
            match ← colour? colour with
            | some colour => withWords words { style with background := some colour }
            | none => return none
        | [] => .ok none
      else if word = "not".toList then
        match words with
        | name :: words =>
            match attribute? name with
            | some name =>
                withWords words { style with attributes := (name, false) :: style.attributes }
            | none => .ok none
        | [] => .ok none
      else if word = "link".toList then
        match words with
        | link :: words => withWords words { style with link := some link }
        | [] => .ok none
      else match attribute? word with
        | some name =>
            withWords words { style with attributes := (name, true) :: style.attributes }
        | none => do
            match ← colour? word with
            | some colour => withWords words { style with colour := some colour }
            | none => return none

def attributeText (style : Style) (name : Text) : Option Text :=
  (style.attributes.lookup name).map fun isOn => if isOn then name else "not ".toList ++ name

/-- The words of a style in their order. -/
def text (style : Style) : Text :=
  let words := (attributeNames.filterMap List.head?).filterMap style.attributeText
    ++ style.colour.toList
    ++ style.background.toList.map ("on ".toList ++ ·)
    ++ style.link.toList.map ("link ".toList ++ ·)
  if words = [] then "none".toList else Text.join [' '] words

def words (text : Text) : List Text :=
  (Text.split ' ' (text.map fun char => if Text.isBlank char then ' ' else char)).filter (· ≠ [])

/-- The one text for all tags that ask for the same; what is no style is
compared in small letters. -/
def normal (text : Text) : Except Fault Text := do
  if Text.trim text = "none".toList then return "none".toList
  else match ← withWords (words text) plain with
    | some style => return style.text
    | none => return Text.lower (Text.trim text)

end Style

end Stencil.Host.Console

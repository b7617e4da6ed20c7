import BuildLauncher.Number.Digits
import BuildLauncher.Text.Blank
import BuildLauncher.Text.Digit
import BuildLauncher.Text.LowerCase

/-!
# Names of styles

A style is named by words for its attributes and colours. Two names mean one style if they have one
normal form. A name that is no style is taken as it is, in lower case.
-/
namespace BuildLauncher.Text

/-- Attributes in the order of the normal form. -/
def attributeNames : List String := [
  "bold", "dim", "italic", "underline", "blink", "blink2", "reverse", "conceal", "strike",
  "underline2", "frame", "encircle", "overline"]

/-- Short words for attributes. -/
def attributeShorts : List (String × String) := [
  ("b", "bold"), ("d", "dim"), ("i", "italic"), ("u", "underline"), ("r", "reverse"),
  ("c", "conceal"), ("s", "strike"), ("uu", "underline2"), ("o", "overline")]

def attribute? (word : String) : Option String :=
  if attributeNames.contains word then some word else attributeShorts.lookup word

/-- The colours of a terminal with 256 of them. -/
def colorNames : List String := [
  "default", "black", "red", "green", "yellow", "blue", "magenta", "cyan", "white", "bright_black",
  "bright_red", "bright_green", "bright_yellow", "bright_blue", "bright_magenta", "bright_cyan",
  "bright_white", "grey0", "gray0", "navy_blue", "dark_blue", "blue3", "blue1", "dark_green",
  "deep_sky_blue4", "dodger_blue3", "dodger_blue2", "green4", "spring_green4", "turquoise4",
  "deep_sky_blue3", "dodger_blue1", "green3", "spring_green3", "dark_cyan", "light_sea_green",
  "deep_sky_blue2", "deep_sky_blue1", "spring_green2", "cyan3", "dark_turquoise", "turquoise2",
  "green1", "spring_green1", "medium_spring_green", "cyan2", "cyan1", "dark_red", "deep_pink4",
  "purple4", "purple3", "blue_violet", "orange4", "grey37", "gray37", "medium_purple4",
  "slate_blue3", "royal_blue1", "chartreuse4", "dark_sea_green4", "pale_turquoise4", "steel_blue",
  "steel_blue3", "cornflower_blue", "chartreuse3", "cadet_blue", "sky_blue3", "steel_blue1",
  "pale_green3", "sea_green3", "aquamarine3", "medium_turquoise", "chartreuse2", "sea_green2",
  "sea_green1", "aquamarine1", "dark_slate_gray2", "dark_magenta", "dark_violet", "purple",
  "light_pink4", "plum4", "medium_purple3", "slate_blue1", "yellow4", "wheat4", "grey53", "gray53",
  "light_slate_grey", "light_slate_gray", "medium_purple", "light_slate_blue",
  "dark_olive_green3", "dark_sea_green", "light_sky_blue3", "sky_blue2", "dark_sea_green3",
  "dark_slate_gray3", "sky_blue1", "chartreuse1", "light_green", "pale_green1",
  "dark_slate_gray1", "red3", "medium_violet_red", "magenta3", "dark_orange3", "indian_red",
  "hot_pink3", "medium_orchid3", "medium_orchid", "medium_purple2", "dark_goldenrod",
  "light_salmon3", "rosy_brown", "grey63", "gray63", "medium_purple1", "gold3", "dark_khaki",
  "navajo_white3", "grey69", "gray69", "light_steel_blue3", "light_steel_blue", "yellow3",
  "dark_sea_green2", "light_cyan3", "light_sky_blue1", "green_yellow", "dark_olive_green2",
  "dark_sea_green1", "pale_turquoise1", "deep_pink3", "magenta2", "hot_pink2", "orchid",
  "medium_orchid1", "orange3", "light_pink3", "pink3", "plum3", "violet", "light_goldenrod3",
  "tan", "misty_rose3", "thistle3", "plum2", "khaki3", "light_goldenrod2", "light_yellow3",
  "grey84", "gray84", "light_steel_blue1", "yellow2", "dark_olive_green1", "honeydew2",
  "light_cyan1", "red1", "deep_pink2", "deep_pink1", "magenta1", "orange_red1", "indian_red1",
  "hot_pink", "dark_orange", "salmon1", "light_coral", "pale_violet_red1", "orchid2", "orchid1",
  "orange1", "sandy_brown", "light_salmon1", "light_pink1", "pink1", "plum1", "gold1",
  "navajo_white1", "misty_rose1", "thistle1", "yellow1", "light_goldenrod1", "khaki1", "wheat1",
  "cornsilk1", "grey100", "gray100", "grey3", "gray3", "grey7", "gray7", "grey11", "gray11",
  "grey15", "gray15", "grey19", "gray19", "grey23", "gray23", "grey27", "gray27", "grey30",
  "gray30", "grey35", "gray35", "grey39", "gray39", "grey42", "gray42", "grey46", "gray46",
  "grey50", "gray50", "grey54", "gray54", "grey58", "gray58", "grey62", "gray62", "grey66",
  "gray66", "grey70", "gray70", "grey74", "gray74", "grey78", "gray78", "grey82", "gray82",
  "grey85", "gray85", "grey89", "gray89", "grey93", "gray93"]

/-- A colour with a part that should be a number and is empty, or has too many digits. -/
inductive StyleFault
  | emptyNumber
  | hugeNumber (digits : Nat)
deriving DecidableEq, Repr

def StyleFault.message : StyleFault → String
  | .emptyNumber => "invalid literal for int() with base 10: ''"
  | .hugeNumber digits => tooManyDigits digits

/-- The text between parentheses after a word. -/
def argument? (word : String) (s : List Char) : Option (List Char) :=
  let start := word.toList ++ ['(']
  if start.isPrefixOf s && s.getLast? = some ')' then some (s.drop start.length).dropLast else none

/-- The number that a part of a colour writes. -/
def partOfColor (digits : List Char) : Except StyleFault Nat :=
  if digits.isEmpty then .error .emptyNumber
  else if digitLimit < digits.length then .error (.hugeNumber digits.length)
  else .ok (ofDecimals digits)

/-- Do digits and commas make a colour of three numbers of one octet each? -/
def isTriple (numbers : List Char) : Except StyleFault Bool :=
  let parts := numbers.splitOn ','
  if !(numbers.all fun c => c = ',' || isDecimal c) || parts.length ≠ 3 then .ok false
  else (parts.mapM partOfColor).map fun values => values.all (· ≤ 255)

/-- Is the word, in lower case, a colour: a name, six hexadecimal digits, or numbers? -/
def isColor (word : String) : Except StyleFault Bool :=
  let s := word.toList
  match argument? "rgb" s with
  | some numbers => isTriple numbers
  | none => .ok (colorNames.contains word ||
    (s.head? = some '#' && s.length = 7 && s.tail.all (isDigitOf 16)) ||
    (argument? "color" s).any fun n =>
      !n.isEmpty && n.length ≤ 3 && n.all (isDigitOf 10) && ofDigits 10 n ≤ 255)

/-- What the words of a name say. -/
structure StyleWords where
  attributes : List (String × Bool)
  color : Option String
  background : Option String
  link : Option String

namespace StyleWords

def empty : StyleWords := ⟨[], none, none, none⟩

/-- Adds words in turn. Words that make no style have none. -/
def read? (style : StyleWords) : List String → Except StyleFault (Option StyleWords)
  | [] => .ok (some style)
  | written :: rest => do
    let word := lower written
    if word = "on" then
      match rest with
      | [] => return none
      | color :: rest =>
        let color := lower color
        if ← isColor color then read? { style with background := some color } rest
        else return none
    else if word = "not" then
      match rest with
      | [] => return none
      | off :: rest =>
        match attribute? off with
        | some name => read? { style with attributes := (name, false) :: style.attributes } rest
        | none => return none
    else if word = "link" then
      match rest with
      | [] => return none
      | link :: rest => read? { style with link := some link } rest
    else
      match attribute? word with
      | some name => read? { style with attributes := (name, true) :: style.attributes } rest
      | none =>
        if ← isColor word then read? { style with color := some word } rest else return none

/-- The normal form: attributes in their order, then the colours and the link. -/
def text (style : StyleWords) : String :=
  let attributes := attributeNames.filterMap fun name =>
    (style.attributes.lookup name).map fun on => if on then name else "not " ++ name
  let parts := attributes ++ style.color.toList ++ (style.background.map ("on " ++ ·)).toList ++
    (style.link.map ("link " ++ ·)).toList
  if parts.isEmpty then "none" else " ".intercalate parts

end StyleWords

/-- The style that a name stands for, if it is one. -/
def styleOf? (name : String) : Except StyleFault (Option StyleWords) :=
  let trimmed := String.ofList (trim isBlank name.toList)
  if trimmed = "none" || trimmed = "" then .ok (some .empty)
  else StyleWords.empty.read? ((fields name.toList).map String.ofList)

/-- The normal form of a name. -/
def normalStyle (name : String) : Except StyleFault String := do
  match ← styleOf? name with
  | some style => return style.text
  | none => return lower (String.ofList (trim isBlank name.toList))

end BuildLauncher.Text

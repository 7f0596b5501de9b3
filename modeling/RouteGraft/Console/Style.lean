import RouteGraft.Text.Letters
import RouteGraft.Text.Space

/-!
# Styles

A style says how a text looks: its attributes, its colour, the colour behind it
and the address it leads to.  A style is named by words.

* An attribute goes by its name or by a letter or two.  Behind `not` it is
  switched off.
* A colour is a name, a number in `color(…)`, three components in `rgb(…)` or
  six hexadecimal digits behind `#`.  Behind `on` it is the colour of the
  background.
* An address stands behind `link`.

Later words win over earlier ones.  The words may be in capitals, except those
behind `not` and `link`.

Two names are the same style if they have the same *normal form*
(`Style.normalForm`), which lists the attributes in a fixed order in front of
the rest.  A name that is no style is its own normal form, in small letters.
-/

namespace RouteGraft.Console

/-! ## Attributes -/

/-- The attributes of a text. -/
inductive Attribute where
  | bold
  | dim
  | italic
  | underline
  | blink
  | blink2
  | reverse
  | conceal
  | strike
  | underline2
  | frame
  | encircle
  | overline
  deriving DecidableEq, Repr

namespace Attribute

/-- The attributes in the order of normal forms. -/
def all : List Attribute :=
  [bold, dim, italic, underline, blink, blink2, reverse, conceal, strike, underline2, frame,
    encircle, overline]

/-- The name of an attribute. -/
def name : Attribute → String
  | bold => "bold"
  | dim => "dim"
  | italic => "italic"
  | underline => "underline"
  | blink => "blink"
  | blink2 => "blink2"
  | reverse => "reverse"
  | conceal => "conceal"
  | strike => "strike"
  | underline2 => "underline2"
  | frame => "frame"
  | encircle => "encircle"
  | overline => "overline"

/-- The short name of an attribute, if it has one. -/
def shortName? : Attribute → Option String
  | bold => some "b"
  | dim => some "d"
  | italic => some "i"
  | underline => some "u"
  | reverse => some "r"
  | conceal => some "c"
  | strike => some "s"
  | underline2 => some "uu"
  | overline => some "o"
  | _ => none

/-- The attribute that a word names. -/
def ofWord? (w : List Char) : Option Attribute :=
  all.find? fun a => a.name.toList = w || a.shortName?.any (·.toList = w)

end Attribute

/-! ## Colours -/

/-- What keeps words from naming a style. -/
inductive StyleFault where
  /-- A word means nothing where it stands. -/
  | strangeWord
  /-- A component of a colour has no digits. -/
  | emptyComponent
  deriving DecidableEq, Repr

/-- The wording of the fault.  That a word is strange is never told. -/
def StyleFault.message : StyleFault → String
  | .strangeWord => ""
  | .emptyComponent => "invalid literal for int() with base 10: ''"

/-- The names of colours. -/
def colorTable : String :=
  "aquamarine1 aquamarine3 black blue blue1 blue3 blue_violet bright_black bright_blue
  bright_cyan bright_green bright_magenta bright_red bright_white bright_yellow cadet_blue
  chartreuse1 chartreuse2 chartreuse3 chartreuse4 cornflower_blue cornsilk1 cyan cyan1 cyan2
  cyan3 dark_blue dark_cyan dark_goldenrod dark_green dark_khaki dark_magenta
  dark_olive_green1 dark_olive_green2 dark_olive_green3 dark_orange dark_orange3 dark_red
  dark_sea_green dark_sea_green1 dark_sea_green2 dark_sea_green3 dark_sea_green4
  dark_slate_gray1 dark_slate_gray2 dark_slate_gray3 dark_turquoise dark_violet deep_pink1
  deep_pink2 deep_pink3 deep_pink4 deep_sky_blue1 deep_sky_blue2 deep_sky_blue3 deep_sky_blue4
  dodger_blue1 dodger_blue2 dodger_blue3 gold1 gold3 gray0 gray100 gray11 gray15 gray19 gray23
  gray27 gray3 gray30 gray35 gray37 gray39 gray42 gray46 gray50 gray53 gray54 gray58 gray62
  gray63 gray66 gray69 gray7 gray70 gray74 gray78 gray82 gray84 gray85 gray89 gray93 green
  green1 green3 green4 green_yellow grey0 grey100 grey11 grey15 grey19 grey23 grey27 grey3
  grey30 grey35 grey37 grey39 grey42 grey46 grey50 grey53 grey54 grey58 grey62 grey63 grey66
  grey69 grey7 grey70 grey74 grey78 grey82 grey84 grey85 grey89 grey93 honeydew2 hot_pink
  hot_pink2 hot_pink3 indian_red indian_red1 khaki1 khaki3 light_coral light_cyan1 light_cyan3
  light_goldenrod1 light_goldenrod2 light_goldenrod3 light_green light_pink1 light_pink3
  light_pink4 light_salmon1 light_salmon3 light_sea_green light_sky_blue1 light_sky_blue3
  light_slate_blue light_slate_gray light_slate_grey light_steel_blue light_steel_blue1
  light_steel_blue3 light_yellow3 magenta magenta1 magenta2 magenta3 medium_orchid
  medium_orchid1 medium_orchid3 medium_purple medium_purple1 medium_purple2 medium_purple3
  medium_purple4 medium_spring_green medium_turquoise medium_violet_red misty_rose1
  misty_rose3 navajo_white1 navajo_white3 navy_blue orange1 orange3 orange4 orange_red1 orchid
  orchid1 orchid2 pale_green1 pale_green3 pale_turquoise1 pale_turquoise4 pale_violet_red1
  pink1 pink3 plum1 plum2 plum3 plum4 purple purple3 purple4 red red1 red3 rosy_brown
  royal_blue1 salmon1 sandy_brown sea_green1 sea_green2 sea_green3 sky_blue1 sky_blue2
  sky_blue3 slate_blue1 slate_blue3 spring_green1 spring_green2 spring_green3 spring_green4
  steel_blue steel_blue1 steel_blue3 tan thistle1 thistle3 turquoise2 turquoise4 violet wheat1
  wheat4 white yellow yellow1 yellow2 yellow3 yellow4"

/-- The names of colours. -/
def colorNames : List String := "default" :: Text.entries colorTable

/-- What stands between a beginning and the closing bracket of a word. -/
def inBrackets? (opening : String) (w : List Char) : Option (List Char) :=
  if opening.toList.isPrefixOf w && w.getLast? = some ')' then
    some (w.drop opening.length).dropLast
  else none

/-- The number that decimal digits stand for. -/
def digitsValue (digits : List Char) : Nat :=
  digits.foldl (fun n c => n * 10 + (Text.digit? c).getD 0) 0

/-- Whether a word is a number of up to three digits that a colour may have. -/
def isColorNumber (digits : List Char) : Bool :=
  !digits.isEmpty && digits.length ≤ 3 && digits.all Char.isDigit && digitsValue digits ≤ 255

/-- What is wrong with the components of a colour, if anything is. -/
def componentFault? (inside : List Char) : Option StyleFault :=
  if inside.isEmpty || !inside.all (fun c => c = ',' || (Text.digit? c).isSome) then
    some .strangeWord
  else
    let components := (String.ofList inside).splitOn ","
    if components.length ≠ 3 then some .strangeWord
    else if components.contains "" then some .emptyComponent
    else if !components.all (fun c => digitsValue c.toList ≤ 255) then some .strangeWord
    else none

/-- Whether a word gives a colour in hexadecimal digits. -/
def isHexColor : List Char → Bool
  | '#' :: digits => digits.length = 6 && digits.all fun c => c.isDigit || ('a' ≤ c && c ≤ 'f')
  | _ => false

/-- The normal form of a colour: its text in small letters. -/
def colorName (w : List Char) : Except StyleFault (List Char) :=
  let c := w.map Text.lower
  if colorNames.contains (String.ofList c) || isHexColor c
      || (inBrackets? "color(" c).any isColorNumber then
    .ok c
  else
    match inBrackets? "rgb(" c with
    | none => .error .strangeWord
    | some inside =>
        match componentFault? inside with
        | some e => .error e
        | none => .ok c

/-! ## Styles -/

/-- How a text looks. -/
structure Style where
  /-- The attributes that are switched on or off, the last one first. -/
  attributes : List (Attribute × Bool) := []
  /-- The colour. -/
  color : Option (List Char) := none
  /-- The colour of the background. -/
  background : Option (List Char) := none
  /-- The address. -/
  link : Option (List Char) := none
  deriving DecidableEq, Repr

namespace Style

/-- Whether an attribute is switched on or off. -/
def attribute? (s : Style) (a : Attribute) : Option Bool :=
  (s.attributes.find? (·.1 = a)).map (·.2)

/-- A style with an attribute switched on or off. -/
def set (s : Style) (a : Attribute) (on : Bool) : Style :=
  { s with attributes := (a, on) :: s.attributes }

/-- A style with some words added. -/
def addWords (s : Style) : List (List Char) → Except StyleFault Style
  | [] => .ok s
  | w :: rest =>
      let word := w.map Text.lower
      if word = "on".toList then
        match rest with
        | [] => .error .strangeWord
        | c :: rest =>
            match colorName c with
            | .ok c => addWords { s with background := some c } rest
            | .error e => .error e
      else if word = "not".toList then
        match rest with
        | [] => .error .strangeWord
        | a :: rest =>
            match Attribute.ofWord? a with
            | some a => addWords (s.set a false) rest
            | none => .error .strangeWord
      else if word = "link".toList then
        match rest with
        | [] => .error .strangeWord
        | address :: rest => addWords { s with link := some address } rest
      else
        match Attribute.ofWord? word with
        | some a => addWords (s.set a true) rest
        | none =>
            match colorName word with
            | .ok c => addWords { s with color := some c } rest
            | .error e => .error e
termination_by structural words => words

/-- The style of a name. -/
def parse (name : List Char) : Except StyleFault Style :=
  if Text.trim name = "none".toList then .ok {} else addWords {} (Text.words name)

/-- The words of a style. -/
def words (s : Style) : List (List Char) :=
  Attribute.all.filterMap (fun a => (s.attribute? a).map fun on =>
    (if on then a.name else "not " ++ a.name).toList)
  ++ s.color.toList
  ++ (s.background.map ("on ".toList ++ ·)).toList
  ++ (s.link.map ("link ".toList ++ ·)).toList

/-- A style by its words, or `none` if it has none. -/
def text (s : Style) : List Char :=
  match s.words with
  | [] => "none".toList
  | ws => List.intercalate [' '] ws

/-- The normal form of a name. -/
def normalForm (name : List Char) : Except StyleFault (List Char) :=
  match parse name with
  | .ok s => .ok s.text
  | .error .strangeWord => .ok ((Text.trim name).map Text.lower)
  | .error e => .error e

end Style

end RouteGraft.Console

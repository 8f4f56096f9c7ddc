import Egress.Property.Conversion

/-! # Styles in markup

A tag opens a style, and a closing tag names the style that it closes. The same style can be named
in several ways: attributes have short names and may come in any order, and case does not matter.

* `Style.canonical`   the same text for all names of a style
* `Style.lookUp`      what can go wrong when a style is drawn with -/

namespace Egress.Markup

open Egress.Text

/-- The names of colours. -/
def colourNames : List (List Char) := Text.words (
  "black red green yellow blue magenta cyan white bright_black bright_red bright_green
   bright_yellow bright_blue bright_magenta bright_cyan bright_white grey0 gray0 navy_blue
   dark_blue blue3 blue1 dark_green deep_sky_blue4 dodger_blue3 dodger_blue2 green4 spring_green4
   turquoise4 deep_sky_blue3 dodger_blue1 green3 spring_green3 dark_cyan light_sea_green
   deep_sky_blue2 deep_sky_blue1 spring_green2 cyan3 dark_turquoise turquoise2 green1
   spring_green1 medium_spring_green cyan2 cyan1 dark_red deep_pink4 purple4 purple3 blue_violet
   orange4 grey37 gray37 medium_purple4 slate_blue3 royal_blue1 chartreuse4 dark_sea_green4
   pale_turquoise4 steel_blue steel_blue3 cornflower_blue chartreuse3 cadet_blue sky_blue3
   steel_blue1 pale_green3 sea_green3 aquamarine3 medium_turquoise chartreuse2 sea_green2
   sea_green1 aquamarine1 dark_slate_gray2 dark_magenta dark_violet purple light_pink4 plum4
   medium_purple3 slate_blue1 yellow4 wheat4 grey53 gray53 light_slate_grey light_slate_gray
   medium_purple light_slate_blue dark_olive_green3 dark_sea_green light_sky_blue3 sky_blue2
   dark_sea_green3 dark_slate_gray3 sky_blue1 chartreuse1 light_green pale_green1
   dark_slate_gray1 red3 medium_violet_red magenta3 dark_orange3 indian_red hot_pink3
   medium_orchid3 medium_orchid medium_purple2 dark_goldenrod light_salmon3 rosy_brown grey63
   gray63 medium_purple1 gold3 dark_khaki navajo_white3 grey69 gray69 light_steel_blue3
   light_steel_blue yellow3 dark_sea_green2 light_cyan3 light_sky_blue1 green_yellow
   dark_olive_green2 dark_sea_green1 pale_turquoise1 deep_pink3 magenta2 hot_pink2 orchid
   medium_orchid1 orange3 light_pink3 pink3 plum3 violet light_goldenrod3 tan misty_rose3
   thistle3 plum2 khaki3 light_goldenrod2 light_yellow3 grey84 gray84 light_steel_blue1 yellow2
   dark_olive_green1 honeydew2 light_cyan1 red1 deep_pink2 deep_pink1 magenta1 orange_red1
   indian_red1 hot_pink dark_orange salmon1 light_coral pale_violet_red1 orchid2 orchid1 orange1
   sandy_brown light_salmon1 light_pink1 pink1 plum1 gold1 navajo_white1 misty_rose1 thistle1
   yellow1 light_goldenrod1 khaki1 wheat1 cornsilk1 grey100 gray100 grey3 gray3 grey7 gray7
   grey11 gray11 grey15 gray15 grey19 gray19 grey23 gray23 grey27 gray27 grey30 gray30 grey35
   gray35 grey39 gray39 grey42 gray42 grey46 gray46 grey50 gray50 grey54 gray54 grey58 gray58
   grey62 gray62 grey66 gray66 grey70 gray70 grey74 gray74 grey78 gray78 grey82 gray82 grey85
   gray85 grey89 gray89 grey93 gray93"
  ).toList

/-- What a style says about letters apart from their colour. -/
inductive Attribute where
  -- Heavy letters.
  | bold
  -- Faint letters.
  | dim
  -- Slanted letters.
  | italic
  -- A line below.
  | underline
  | blink
  | blink2
  -- Colours exchanged.
  | reverse
  -- Hidden letters.
  | conceal
  -- A line across.
  | strike
  -- Two lines below.
  | underline2
  | frame
  -- A circle around.
  | encircle
  -- A line above.
  | overline
  deriving DecidableEq, Repr

namespace Attribute

def name : Attribute → String
  | bold => "bold"
  | dim => "dim"
  | italic => "italic"
  | underline => "underline"
  | blink => "blink"
  | blink2 => "blink2"
  | reverse => "reverse"
  | conceal => "conceal"
  | strike => "strike"
  | underline2 => "underline2"
  | frame => "frame"
  | encircle => "encircle"
  | overline => "overline"

/-- The short name of an attribute, if it has one. -/
def short? : Attribute → Option String
  | bold => some "b"
  | dim => some "d"
  | italic => some "i"
  | underline => some "u"
  | reverse => some "r"
  | conceal => some "c"
  | strike => some "s"
  | underline2 => some "uu"
  | overline => some "o"
  | _ => none

/-- The attributes, in the order in which they are written. -/
def all : List Attribute :=
  [bold, dim, italic, underline, blink, blink2, reverse, conceal, strike, underline2, frame,
    encircle, overline]

theorem mem_all (a : Attribute) : a ∈ all := by cases a <;> simp [all]

/-- The attribute with a name, long or short. -/
def ofName? (s : List Char) : Option Attribute :=
  all.find? fun a => a.name.toList == s || a.short?.any (·.toList == s)

end Attribute

/-- A style. -/
structure Style where
  -- Attributes that are on or off, the latest setting first.
  attributes : List (Attribute × Bool) := []
  colour : Option (List Char) := none
  -- The colour behind the letters.
  background : Option (List Char) := none
  link : Option (List Char) := none

/-- Why a text names no style. -/
inductive StyleFault where
  | unknown
  -- A component of a colour is no integer.
  | component (e : ConversionFault)

/-- What stands between an opening and a closing parenthesis at the end, after a word. -/
def argument? (word : String) (s : List Char) : Option (List Char) :=
  let opening := word.toList ++ ['(']
  if s.take opening.length = opening ∧ s.getLast? = some ')' then
    some (s.drop opening.length).dropLast
  else none

/-- Whether a text names one of the 256 numbered colours. -/
def isNumberedColour (s : List Char) : Bool :=
  match argument? "color" s with
  | none => false
  | some digits =>
    digits ≠ [] && digits.length ≤ 3 &&
      (digits.mapM Number.asciiDigit?).any (Number.ofDigits · < 256)

/-- Whether a text is a colour of three components, none of them above 255. -/
def isComponentColour (s : List Char) : Except StyleFault Bool :=
  match argument? "rgb" s with
  | none => .ok false
  | some inner =>
    if inner = [] ∨ inner.any fun c => c ≠ ',' && (Number.digitValue? c).isNone then .ok false
    else match splitBy (· = ',') inner with
      | [r, g, b] => do
        let values ← [r, g, b].mapM fun s =>
          match Conversion.toInteger (.text (String.ofList s)) with
          | .ok v => .ok v
          | .error e => .error (.component e)
        return values.all fun
          | .int n => n ≤ 255
          | _ => false
      | _ => .ok false

/-- Whether a word in lower case names a colour. -/
def isColour (s : List Char) : Except StyleFault Bool :=
  if s = "default".toList ∨ s ∈ colourNames then .ok true
  else match s with
    | '#' :: digits =>
      .ok (digits.length = 6 && digits.all fun c => ('0' ≤ c && c ≤ '9') || ('a' ≤ c && c ≤ 'f'))
    | _ => if isNumberedColour s then .ok true else isComponentColour s

namespace Style

/-- Reads the words of a style, behind those that are read already. -/
def addWords (s : Style) : List (List Char) → Except StyleFault Style
  | [] => .ok s
  | word :: rest =>
    let small := lower word
    if small = "on".toList then
      match rest with
      | [] => .error .unknown
      | next :: rest => do
        if ← isColour (lower next) then addWords { s with background := some (lower next) } rest
        else .error .unknown
    else if small = "not".toList then
      match rest with
      | [] => .error .unknown
      | next :: rest =>
        match Attribute.ofName? next with
        | some a => addWords { s with attributes := (a, false) :: s.attributes } rest
        | none => .error .unknown
    else if small = "link".toList then
      match rest with
      | [] => .error .unknown
      | next :: rest => addWords { s with link := some next } rest
    else match Attribute.ofName? small with
      | some a => addWords { s with attributes := (a, true) :: s.attributes } rest
      | none => do
        if ← isColour small then addWords { s with colour := some small } rest
        else .error .unknown

/-- The words that describe a style, in a fixed order. -/
def words (s : Style) : List (List Char) :=
  (Attribute.all.flatMap fun a => match s.attributes.lookup a with
    | some true => [a.name.toList]
    | some false => ["not".toList, a.name.toList]
    | none => []) ++
  s.colour.toList ++
  (s.background.elim [] fun c => ["on".toList, c]) ++
  (s.link.elim [] fun target => ["link".toList, target])

/-- The text that describes a style. -/
def text (s : Style) : List Char :=
  if s.words = [] then "none".toList else [' '].intercalate s.words

/-- Reads a style. -/
def ofText (s : List Char) : Except StyleFault Style :=
  if trim s = "none".toList then .ok {} else addWords {} ((splitBy isBlank s).filter (· ≠ []))

/-- The canonical form of the name of a style. A text that names no style stands for itself, in
lower case. -/
def canonical (name : List Char) : Except ConversionFault (List Char) :=
  match ofText name with
  | .ok s => .ok s.text
  | .error .unknown => .ok (lower (trim name))
  | .error (.component e) => .error e

/-- Looks up a style to draw with it. A text that names no style changes nothing. -/
def lookUp (s : List Char) : Except ConversionFault Unit :=
  match ofText s with
  | .ok _ | .error .unknown => .ok ()
  | .error (.component e) => .error e

end Style

end Egress.Markup

import CodeMetrics.Text.Integer
import CodeMetrics.Text.LowerCase

/-!
# Console styles

A style is written as words in any order: attributes such as `bold` or `not dim`, some of them with short names, a
colour, `on` with a background colour, and `link` with an address. `normalName` brings a style into one form, so that
an opening and a closing tag can be matched whatever the order and the spelling of their words are. What is no style
is a name of its own, in lower case.
-/

namespace CodeMetrics.Text.Markup

/-- Why markup cannot be shown. -/
inductive Fault where
  /-- A closing tag without an opening one, or arguments that are no values. -/
  | malformed
  /-- A part of a colour that is no number. -/
  | number (text : String) (cause : IntegerFault)
  deriving DecidableEq, Repr

/-! ## Colours -/

/-- The colours that have names. -/
def colourNames : List String :=
  [ "black", "red", "green", "yellow", "blue", "magenta", "cyan", "white", "bright_black", "bright_red",
    "bright_green", "bright_yellow", "bright_blue", "bright_magenta", "bright_cyan", "bright_white", "grey0",
    "gray0", "navy_blue", "dark_blue", "blue3", "blue1", "dark_green", "deep_sky_blue4", "dodger_blue3",
    "dodger_blue2", "green4", "spring_green4", "turquoise4", "deep_sky_blue3", "dodger_blue1", "green3",
    "spring_green3", "dark_cyan", "light_sea_green", "deep_sky_blue2", "deep_sky_blue1", "spring_green2", "cyan3",
    "dark_turquoise", "turquoise2", "green1", "spring_green1", "medium_spring_green", "cyan2", "cyan1", "dark_red",
    "deep_pink4", "purple4", "purple3", "blue_violet", "orange4", "grey37", "gray37", "medium_purple4",
    "slate_blue3", "royal_blue1", "chartreuse4", "dark_sea_green4", "pale_turquoise4", "steel_blue", "steel_blue3",
    "cornflower_blue", "chartreuse3", "cadet_blue", "sky_blue3", "steel_blue1", "pale_green3", "sea_green3",
    "aquamarine3", "medium_turquoise", "chartreuse2", "sea_green2", "sea_green1", "aquamarine1",
    "dark_slate_gray2", "dark_magenta", "dark_violet", "purple", "light_pink4", "plum4", "medium_purple3",
    "slate_blue1", "yellow4", "wheat4", "grey53", "gray53", "light_slate_grey", "light_slate_gray",
    "medium_purple", "light_slate_blue", "dark_olive_green3", "dark_sea_green", "light_sky_blue3", "sky_blue2",
    "dark_sea_green3", "dark_slate_gray3", "sky_blue1", "chartreuse1", "light_green", "pale_green1",
    "dark_slate_gray1", "red3", "medium_violet_red", "magenta3", "dark_orange3", "indian_red", "hot_pink3",
    "medium_orchid3", "medium_orchid", "medium_purple2", "dark_goldenrod", "light_salmon3", "rosy_brown", "grey63",
    "gray63", "medium_purple1", "gold3", "dark_khaki", "navajo_white3", "grey69", "gray69", "light_steel_blue3",
    "light_steel_blue", "yellow3", "dark_sea_green2", "light_cyan3", "light_sky_blue1", "green_yellow",
    "dark_olive_green2", "dark_sea_green1", "pale_turquoise1", "deep_pink3", "magenta2", "hot_pink2", "orchid",
    "medium_orchid1", "orange3", "light_pink3", "pink3", "plum3", "violet", "light_goldenrod3", "tan",
    "misty_rose3", "thistle3", "plum2", "khaki3", "light_goldenrod2", "light_yellow3", "grey84", "gray84",
    "light_steel_blue1", "yellow2", "dark_olive_green1", "honeydew2", "light_cyan1", "red1", "deep_pink2",
    "deep_pink1", "magenta1", "orange_red1", "indian_red1", "hot_pink", "dark_orange", "salmon1", "light_coral",
    "pale_violet_red1", "orchid2", "orchid1", "orange1", "sandy_brown", "light_salmon1", "light_pink1", "pink1",
    "plum1", "gold1", "navajo_white1", "misty_rose1", "thistle1", "yellow1", "light_goldenrod1", "khaki1",
    "wheat1", "cornsilk1", "grey100", "gray100", "grey3", "gray3", "grey7", "gray7", "grey11", "gray11", "grey15",
    "gray15", "grey19", "gray19", "grey23", "gray23", "grey27", "gray27", "grey30", "gray30", "grey35", "gray35",
    "grey39", "gray39", "grey42", "gray42", "grey46", "gray46", "grey50", "gray50", "grey54", "gray54", "grey58",
    "gray58", "grey62", "gray62", "grey66", "gray66", "grey70", "gray70", "grey74", "gray74", "grey78", "gray78",
    "grey82", "gray82", "grey85", "gray85", "grey89", "gray89", "grey93", "gray93" ]

def isHexDigit (c : Char) : Bool := isPlainDigit c || (decide ('a' ≤ c) && decide (c ≤ 'f'))

/-- The text between two others that a text starts and ends with. -/
def between? (first last : String) (cs : List Char) : Option (List Char) :=
  if first.toList.isPrefixOf cs && last.toList.isSuffixOf cs then
    some ((cs.drop first.length).take (cs.length - first.length - last.length))
  else none

/-- A colour by its number: `color(9)`. -/
def isNumberedColour (word : List Char) : Bool :=
  match between? "color(" ")" word with
  | some ds =>
    !ds.isEmpty && decide (ds.length ≤ 3) && ds.all isPlainDigit && decide (digitsValue 0 ds ≤ 255)
  | none => false

/-- A colour by six hexadecimal digits: `#ff8800`. -/
def isHexColour (word : List Char) : Bool :=
  match word with
  | '#' :: ds => ds.length == 6 && ds.all isHexDigit
  | _ => false

/-- The parts of a text between commas. -/
def splitCommas (cs : List Char) : List String := (String.ofList cs).splitOn ","

/-- A colour by its three components: `rgb(255,136,0)`. -/
def isMixedColour (word : List Char) : Except Fault Bool :=
  match between? "rgb(" ")" word with
  | none => .ok false
  | some body =>
    if body.isEmpty || !body.all (fun c => c == ',' || (digit? c).isSome) then .ok false
    else
      let parts := splitCommas body
      if parts.length ≠ 3 then .ok false
      else do
        let values ← parts.mapM fun part =>
          match readInteger part with
          | .ok n => Except.ok n
          | .error cause => .error (.number part cause)
        return values.all fun n => decide (n ≤ 255)

/-- The normal form of a colour, if the word is one. -/
def colour? (word : List Char) : Except Fault (Option (List Char)) := do
  let word := lower word
  let named := word == "default".toList || colourNames.contains (String.ofList word)
  if named || isHexColour word || isNumberedColour word then return some word
  return if ← isMixedColour word then some word else none

/-! ## Attributes -/

/-- The attributes, in the order of the normal form. -/
def attributeNames : List String :=
  [ "bold", "dim", "italic", "underline", "blink", "blink2", "reverse", "conceal", "strike", "underline2", "frame"
  , "encircle", "overline" ]

/-- The short names of attributes. -/
def attributeAliases : List (String × String) :=
  [ ("b", "bold"), ("d", "dim"), ("i", "italic"), ("u", "underline"), ("uu", "underline2"), ("r", "reverse")
  , ("c", "conceal"), ("s", "strike"), ("o", "overline") ]

/-- The attribute that a word names. -/
def attribute? (word : String) : Option String :=
  if attributeNames.contains word then some word else attributeAliases.lookup word

/-! ## Styles -/

/-- A style, as far as it has been read. -/
structure Styling where
  /-- Attributes that are switched on or off, latest first. -/
  attributes : List (String × Bool)
  colour : Option (List Char)
  background : Option (List Char)
  link : Option (List Char)
  deriving DecidableEq, Repr

namespace Styling

def plain : Styling := ⟨[], none, none, none⟩

def switch (s : Styling) (name : String) (on : Bool) : Styling :=
  { s with attributes := (name, on) :: s.attributes }

/-- Reads the words of a style; nothing if one of them has no meaning. -/
def read (s : Styling) : List (List Char) → Except Fault (Option Styling)
  | [] => .ok (some s)
  | word :: rest => do
    let name := String.ofList (lower word)
    if name = "on" then
      match rest with
      | [] => return none
      | next :: rest =>
        match ← colour? next with
        | some c => read { s with background := some c } rest
        | none => return none
    else if name = "not" then
      match rest with
      | [] => return none
      | next :: rest =>
        match attribute? (String.ofList next) with
        | some a => read (s.switch a false) rest
        | none => return none
    else if name = "link" then
      match rest with
      | [] => return none
      | next :: rest => read { s with link := some next } rest
    else
      match attribute? name with
      | some a => read (s.switch a true) rest
      | none =>
        match ← colour? word with
        | some c => read { s with colour := some c } rest
        | none => return none

/-- The words of a style in their normal order. -/
def words (s : Styling) : List String :=
  let attributes := attributeNames.filterMap fun name =>
    (s.attributes.lookup name).map fun on => if on then name else "not " ++ name
  let part := fun (lead : List String) (value : Option (List Char)) =>
    match value with
    | some v => lead ++ [String.ofList v]
    | none => []
  attributes ++ part [] s.colour ++ part ["on"] s.background ++ part ["link"] s.link

/-- The normal form of a style. -/
def text (s : Styling) : String := if s.words.isEmpty then "none" else String.intercalate " " s.words

end Styling

/-- The name by which an opening tag and its closing tag are matched. -/
def normalName (name : List Char) : Except Fault String := do
  let trimmed := trimBoth isSpace name
  if trimmed = "none".toList then return "none"
  match ← Styling.plain.read (Text.words name) with
  | some s => return s.text
  | none => return String.ofList (lower trimmed)

end CodeMetrics.Text.Markup

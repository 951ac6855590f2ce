import AttrLint.Text.Blank
import AttrLint.Text.Hex
import AttrLint.Text.Lower

namespace AttrLint.Markup

/-!
# Styles

A style is written as words: features, colors and a link.  Two ways to write it are the same if
they have the same canonical text.

* `Style.parse` — the style that words describe.
* `Style.text` — the canonical text of a style.
* `canonical` — the canonical text of what a tag says.
-/

/-- Why a text describes no style. -/
inductive StyleError where
  /-- A word is not understood. -/
  | unknown
  /-- A component of a color is empty. -/
  | emptyComponent
  deriving DecidableEq, Repr

/-! ### Colors -/

/-- The names of colors, other than the greys. -/
def colorNames : List String :=
  ["black", "red", "green", "yellow", "blue", "magenta", "cyan", "white", "bright_black",
   "bright_red", "bright_green", "bright_yellow", "bright_blue", "bright_magenta", "bright_cyan",
   "bright_white", "navy_blue", "dark_blue", "blue3", "blue1", "dark_green", "deep_sky_blue4",
   "dodger_blue3", "dodger_blue2", "green4", "spring_green4", "turquoise4", "deep_sky_blue3",
   "dodger_blue1", "dark_cyan", "light_sea_green", "deep_sky_blue2", "deep_sky_blue1", "green3",
   "spring_green3", "cyan3", "dark_turquoise", "turquoise2", "green1", "spring_green2",
   "spring_green1", "medium_spring_green", "cyan2", "cyan1", "purple4", "purple3", "blue_violet",
   "medium_purple4", "slate_blue3", "royal_blue1", "chartreuse4", "pale_turquoise4", "steel_blue",
   "steel_blue3", "cornflower_blue", "dark_sea_green4", "cadet_blue", "sky_blue3", "chartreuse3",
   "sea_green3", "aquamarine3", "medium_turquoise", "steel_blue1", "sea_green2", "sea_green1",
   "dark_slate_gray2", "dark_red", "dark_magenta", "orange4", "light_pink4", "plum4",
   "medium_purple3", "slate_blue1", "wheat4", "light_slate_grey", "light_slate_gray",
   "medium_purple", "light_slate_blue", "yellow4", "dark_sea_green", "light_sky_blue3",
   "sky_blue2", "chartreuse2", "pale_green3", "dark_slate_gray3", "sky_blue1", "chartreuse1",
   "light_green", "aquamarine1", "dark_slate_gray1", "deep_pink4", "medium_violet_red",
   "dark_violet", "purple", "medium_orchid3", "medium_orchid", "dark_goldenrod", "rosy_brown",
   "medium_purple2", "medium_purple1", "dark_khaki", "navajo_white3", "light_steel_blue3",
   "light_steel_blue", "dark_olive_green3", "dark_sea_green3", "light_cyan3", "light_sky_blue1",
   "green_yellow", "dark_olive_green2", "pale_green1", "dark_sea_green2", "pale_turquoise1",
   "red3", "deep_pink3", "magenta3", "dark_orange3", "indian_red", "hot_pink3", "hot_pink2",
   "orchid", "orange3", "light_salmon3", "light_pink3", "pink3", "plum3", "violet", "gold3",
   "light_goldenrod3", "tan", "misty_rose3", "thistle3", "plum2", "yellow3", "khaki3",
   "light_yellow3", "light_steel_blue1", "yellow2", "dark_olive_green1", "dark_sea_green1",
   "honeydew2", "light_cyan1", "red1", "deep_pink2", "deep_pink1", "magenta2", "magenta1",
   "orange_red1", "indian_red1", "hot_pink", "medium_orchid1", "dark_orange", "salmon1",
   "light_coral", "pale_violet_red1", "orchid2", "orchid1", "orange1", "sandy_brown",
   "light_salmon1", "light_pink1", "pink1", "plum1", "gold1", "light_goldenrod2", "navajo_white1",
   "misty_rose1", "thistle1", "yellow1", "light_goldenrod1", "khaki1", "wheat1", "cornsilk1"]

/-- The greys, by their brightness in percent. -/
def greys : List Nat :=
  [0, 37, 53, 63, 69, 84, 100, 3, 7, 11, 15, 19, 23, 27, 30, 35, 39, 42, 46, 50, 54, 58, 62, 66,
   70, 74, 78, 82, 85, 89, 93]

/-- Says that a color has the name, which is in lower case. -/
def isColorName (name : String) : Bool :=
  name = "default" || colorNames.contains name ||
    greys.any fun n => name = "grey" ++ toString n || name = "gray" ++ toString n

/-- The text between a beginning and an end. -/
def between? (front back : String) (s : List Char) : Option (List Char) :=
  let (front, back) := (front.toList, back.toList)
  if front.isPrefixOf s && back.isSuffixOf (s.drop front.length) then
    some ((s.drop front.length).dropLast)
  else none

/-- The number that decimal digits write. -/
def number (digits : List Char) : Nat :=
  digits.foldl (fun n c => 10 * n + (c.toNat - '0'.toNat)) 0

/-- Checks a word in lower case that ought to be a color: a name, `#` and six hexadecimal digits,
`color(N)`, or `rgb(R,G,B)`, each number up to 255. -/
def checkColor (s : List Char) : Except StyleError Unit :=
  let ensure (ok : Bool) : Except StyleError Unit := if ok then .ok () else .error .unknown
  if isColorName (String.ofList s) then .ok ()
  else
    match s with
    | '#' :: digits => ensure (digits.length == 6 && digits.all fun c => (Text.hexValue? c).isSome)
    | _ =>
      match between? "color(" ")" s, between? "rgb(" ")" s with
      | some digits, _ =>
        ensure (digits.all Char.isDigit && 1 ≤ digits.length && digits.length ≤ 3 &&
          number digits ≤ 255)
      | none, some body =>
        let parts := Text.fields ',' body
        if body.isEmpty || !(body.all fun c => c.isDigit || c = ',') || parts.length != 3 then
          .error .unknown
        else if parts.any List.isEmpty then .error .emptyComponent
        else ensure (parts.all fun part => number part ≤ 255)
      | none, none => .error .unknown

/-! ### Styles -/

/-- The features in canonical order, with their other names. -/
def featureNames : List (String × List String) :=
  [("bold", ["b"]), ("dim", ["d"]), ("italic", ["i"]), ("underline", ["u"]), ("blink", []),
   ("blink2", []), ("reverse", ["r"]), ("conceal", ["c"]), ("strike", ["s"]),
   ("underline2", ["uu"]), ("frame", []), ("encircle", []), ("overline", ["o"])]

/-- The feature with the given name. -/
def feature? (name : String) : Option String :=
  (featureNames.find? fun a => a.1 = name || a.2.contains name).map (·.1)

/-- What is said of the look of a text. -/
structure Style where
  /-- The features that are turned on or off, the last saying first. -/
  features : List (String × Bool) := []
  color : Option (List Char) := none
  background : Option (List Char) := none
  link : Option (List Char) := none
  deriving DecidableEq, Repr

namespace Style

/-- Turns a feature on or off. -/
def set (s : Style) (feature : String) (on : Bool) : Style :=
  { s with features := (feature, on) :: s.features }

/-- What words add to a style. -/
def parseWords (s : Style) : List (List Char) → Except StyleError Style
  | [] => .ok s
  | word :: rest =>
    let word := Text.lower word
    let name := String.ofList word
    match name, rest with
    | "on", color :: rest => do
      checkColor (Text.lower color)
      parseWords { s with background := some (Text.lower color) } rest
    | "not", feature :: rest =>
      match feature? (String.ofList feature) with
      | some feature => parseWords (s.set feature false) rest
      | none => .error .unknown
    | "link", url :: rest => parseWords { s with link := some url } rest
    | "on", [] | "not", [] | "link", [] => .error .unknown
    | name, rest =>
      match feature? name with
      | some feature => parseWords (s.set feature true) rest
      | none => do
        checkColor word
        parseWords { s with color := some word } rest

/-- The style that a text describes; `none` and no words describe a plain one. -/
def parse (s : List Char) : Except StyleError Style :=
  match Text.words s with
  | [['n', 'o', 'n', 'e']] => .ok {}
  | words => parseWords {} words

/-- The canonical words of a style: features, the color, the background and the link. -/
def words (s : Style) : List (List Char) :=
  let features := featureNames.flatMap fun (name, _) =>
    match s.features.lookup name with
    | some true => [name.toList]
    | some false => ["not".toList, name.toList]
    | none => []
  let background := (s.background.map fun color => ["on".toList, color]).getD []
  let link := (s.link.map fun url => ["link".toList, url]).getD []
  features ++ s.color.toList ++ background ++ link

/-- The canonical text of a style. -/
def text (s : Style) : List Char :=
  if s.words.isEmpty then "none".toList else [' '].intercalate s.words

end Style

/-- The text without white space at its ends. -/
def trimmed (s : List Char) : List Char :=
  ((s.dropWhile Text.isBlank).reverse.dropWhile Text.isBlank).reverse

/-- The canonical text of what a tag says; what is no style is only put into lower case.  An empty
component of a color is an error. -/
def canonical (s : List Char) : Except StyleError (List Char) :=
  match Style.parse s with
  | .ok style => .ok style.text
  | .error .unknown => .ok (Text.lower (trimmed s))
  | .error .emptyComponent => .error .emptyComponent

end AttrLint.Markup

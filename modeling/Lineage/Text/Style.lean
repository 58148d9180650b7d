import Lineage.Number.DigitLimit
import Lineage.Text.Blank
import Lineage.Text.Case
import Lineage.Text.Digit

/-!
# Styles

A mark in a text may name a style by several words: attributes such as `bold`, each possibly after
`not`, a color, a color after `on`, and a target after `link`. Words that say the same in another
order make the same style. `Style.name` is the name that all of them have in common; a name that
is not made of such words stands for itself, in small letters.
-/

namespace Lineage.Text

/-- The attributes of a style, in the order in which a style names them. -/
def attributes : List String :=
  ["bold", "dim", "italic", "underline", "blink", "blink2", "reverse", "conceal", "strike",
   "underline2", "frame", "encircle", "overline"]

/-- The short names of attributes. -/
def shortAttributes : List (String × String) :=
  [("b", "bold"), ("c", "conceal"), ("d", "dim"), ("i", "italic"), ("o", "overline"),
   ("r", "reverse"), ("s", "strike"), ("u", "underline"), ("uu", "underline2")]

/-- The attribute that a word names. -/
def attribute? (word : String) : Option String :=
  if attributes.contains word then some word else shortAttributes.lookup word

/-- The colors that have a name. -/
def colorNames : List String :=
  ["black", "red", "green", "yellow", "blue", "magenta", "cyan", "white", "bright_black",
   "bright_red", "bright_green", "bright_yellow", "bright_blue", "bright_magenta", "bright_cyan",
   "bright_white", "grey0", "gray0", "navy_blue", "dark_blue", "blue3", "blue1", "dark_green",
   "deep_sky_blue4", "dodger_blue3", "dodger_blue2", "green4", "spring_green4", "turquoise4",
   "deep_sky_blue3", "dodger_blue1", "green3", "spring_green3", "dark_cyan", "light_sea_green",
   "deep_sky_blue2", "deep_sky_blue1", "spring_green2", "cyan3", "dark_turquoise", "turquoise2",
   "green1", "spring_green1", "medium_spring_green", "cyan2", "cyan1", "dark_red", "deep_pink4",
   "purple4", "purple3", "blue_violet", "orange4", "grey37", "gray37", "medium_purple4",
   "slate_blue3", "royal_blue1", "chartreuse4", "dark_sea_green4", "pale_turquoise4", "steel_blue",
   "steel_blue3", "cornflower_blue", "chartreuse3", "cadet_blue", "sky_blue3", "steel_blue1",
   "pale_green3", "sea_green3", "aquamarine3", "medium_turquoise", "chartreuse2", "sea_green2",
   "sea_green1", "aquamarine1", "dark_slate_gray2", "dark_magenta", "dark_violet", "purple",
   "light_pink4", "plum4", "medium_purple3", "slate_blue1", "yellow4", "wheat4", "grey53", "gray53",
   "light_slate_grey", "light_slate_gray", "medium_purple", "light_slate_blue", "dark_olive_green3",
   "dark_sea_green", "light_sky_blue3", "sky_blue2", "dark_sea_green3", "dark_slate_gray3",
   "sky_blue1", "chartreuse1", "light_green", "pale_green1", "dark_slate_gray1", "red3",
   "medium_violet_red", "magenta3", "dark_orange3", "indian_red", "hot_pink3", "medium_orchid3",
   "medium_orchid", "medium_purple2", "dark_goldenrod", "light_salmon3", "rosy_brown", "grey63",
   "gray63", "medium_purple1", "gold3", "dark_khaki", "navajo_white3", "grey69", "gray69",
   "light_steel_blue3", "light_steel_blue", "yellow3", "dark_sea_green2", "light_cyan3",
   "light_sky_blue1", "green_yellow", "dark_olive_green2", "dark_sea_green1", "pale_turquoise1",
   "deep_pink3", "magenta2", "hot_pink2", "orchid", "medium_orchid1", "orange3", "light_pink3",
   "pink3", "plum3", "violet", "light_goldenrod3", "tan", "misty_rose3", "thistle3", "plum2",
   "khaki3", "light_goldenrod2", "light_yellow3", "grey84", "gray84", "light_steel_blue1",
   "yellow2", "dark_olive_green1", "honeydew2", "light_cyan1", "red1", "deep_pink2", "deep_pink1",
   "magenta1", "orange_red1", "indian_red1", "hot_pink", "dark_orange", "salmon1", "light_coral",
   "pale_violet_red1", "orchid2", "orchid1", "orange1", "sandy_brown", "light_salmon1",
   "light_pink1", "pink1", "plum1", "gold1", "navajo_white1", "misty_rose1", "thistle1", "yellow1",
   "light_goldenrod1", "khaki1", "wheat1", "cornsilk1", "grey100", "gray100", "grey3", "gray3",
   "grey7", "gray7", "grey11", "gray11", "grey15", "gray15", "grey19", "gray19", "grey23", "gray23",
   "grey27", "gray27", "grey30", "gray30", "grey35", "gray35", "grey39", "gray39", "grey42",
   "gray42", "grey46", "gray46", "grey50", "gray50", "grey54", "gray54", "grey58", "gray58",
   "grey62", "gray62", "grey66", "gray66", "grey70", "gray70", "grey74", "gray74", "grey78",
   "gray78", "grey82", "gray82", "grey85", "gray85", "grey89", "gray89", "grey93", "gray93"]

/-- Why a color is none at all. -/
inductive ColorFault where
  /-- A number has no digits. -/
  | noDigits
  /-- A number has more digits than are accepted. -/
  | manyDigits (count : Nat)
  deriving DecidableEq, Repr

/-- The report of a fault. -/
def ColorFault.message : ColorFault → String
  | noDigits => "invalid literal for int() with base 10: \x27\x27"
  | manyDigits count => digitLimitReport count

/-- The part of a text between a beginning and a closing parenthesis at its end. -/
def argument? (name : String) (word : List Char) : Option (List Char) :=
  let opening := name.toList ++ ['(']
  if opening.isPrefixOf word && word.getLast? = some ')' && opening.length < word.length then
    some ((word.drop opening.length).dropLast)
  else none

/-- The number that decimal digits of any script write. -/
def component (digits : List Char) : Except ColorFault Nat :=
  if digits.isEmpty then .error .noDigits
  else if digits.length > digitLimit then .error (.manyDigits digits.length)
  else .ok (digits.foldl (fun n d => n * 10 + (decimal? d).getD 0) 0)

/-- Whether a text of decimal digits and commas gives the three components of a color. -/
def areComponents (cs : List Char) : Except ColorFault Bool :=
  match cs.splitOn ',' with
  | [red, green, blue] => do
    let red ← component red
    let green ← component green
    let blue ← component blue
    return red ≤ 255 && green ≤ 255 && blue ≤ 255
  | _ => .ok false

/-- Whether a word is a color: a name, six hexadecimal digits, a number or three components. -/
def isColor (word : String) : Except ColorFault Bool :=
  let word := lower word
  let cs := word.toList
  if word = "default" || colorNames.contains word then .ok true
  else match cs with
    | '#' :: digits =>
      .ok (digits.length = 6 && digits.all fun c => c.isDigit || ('a' ≤ c && c ≤ 'f'))
    | _ =>
      match argument? "color" cs with
      | some digits =>
        .ok (1 ≤ digits.length && digits.length ≤ 3 && digits.all Char.isDigit &&
          digits.foldl (fun n d => n * 10 + (d.toNat - '0'.toNat)) 0 ≤ 255)
      | none =>
        match argument? "rgb" cs with
        | some components =>
          if !components.isEmpty && components.all fun c => c = ',' || (decimal? c).isSome then
            areComponents components
          else .ok false
        | none => .ok false

/-- What the words of a style say. -/
structure Style where
  /-- The attributes with their values, of which the last one counts. -/
  values : List (String × Bool) := []
  color : Option String := none
  background : Option String := none
  link : Option String := none
  deriving DecidableEq, Repr

namespace Style

/-- The words of a text. -/
def wordsAfter (word : List Char) : List Char → List String
  | [] => if word.isEmpty then [] else [String.ofList word.reverse]
  | c :: cs =>
    if isSeparating c then
      (if word.isEmpty then [] else [String.ofList word.reverse]) ++ wordsAfter [] cs
    else wordsAfter (c :: word) cs

/-- The style that some words make, if they do, on top of a style. -/
def ofWords (style : Style) : List String → Except ColorFault (Option Style)
  | [] => .ok (some style)
  | [word] => do
    match attribute? (lower word) with
    | some trait => return some { style with values := (trait, true) :: style.values }
    | none => return if ← isColor word then some { style with color := some (lower word) } else none
  | word :: next :: words => do
    match lower word with
    | "on" =>
      if ← isColor next then
        ofWords { style with background := some (lower next) } words
      else return none
    | "not" =>
      match attribute? next with
      | some trait =>
        ofWords { style with values := (trait, false) :: style.values } words
      | none => return none
    | "link" => ofWords { style with link := some next } words
    | small =>
      match attribute? small with
      | some trait =>
        ofWords { style with values := (trait, true) :: style.values } (next :: words)
      | none =>
        if ← isColor word then ofWords { style with color := some small } (next :: words)
        else return none

/-- The words of a style in their order. -/
def words (style : Style) : List String :=
  let values := attributes.filterMap fun a =>
    (style.values.lookup a).map fun value => if value then a else "not " ++ a
  values ++ style.color.toList ++
    (style.background.elim [] fun color => ["on", color]) ++
    style.link.elim [] fun target => ["link", target]

/-- The name that a style has in common with all that say the same. -/
def name (written : List Char) : Except ColorFault String := do
  match ← ofWords {} (wordsAfter [] written) with
  | some style =>
    let words := style.words
    return if words.isEmpty then "none" else String.intercalate " " words
  | none => return lower (String.ofList (strip isSeparating written))

end Style

end Lineage.Text

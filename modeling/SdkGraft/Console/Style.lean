import SdkGraft.Text.Lower
import SdkGraft.Text.WordChar
import SdkGraft.Value.Basic

/-!
# Styles

A tag names a style: attributes, a colour, a ground, a link. Two names of one style are the same tag.

* `Flaw` : why a name is no style;
* `colour` : a colour by its name or its number;
* `Style`, `Style.read` : a style word by word; `Style.text` : its usual name;
* `styleName` : the usual name of what a tag names.
-/

namespace SdkGraft.Console

inductive Flaw where
  /-- A word in it means nothing. -/
  | unknown
  /-- A part of a colour is no number at all. -/
  | noNumber
  deriving DecidableEq, Repr

/-! ## Colours -/

def colourLines : List String :=
  ["aquamarine1 aquamarine3 black blue blue1 blue3 blue_violet bright_black bright_blue",
    "bright_cyan bright_green bright_magenta bright_red bright_white bright_yellow cadet_blue",
    "chartreuse1 chartreuse2 chartreuse3 chartreuse4 cornflower_blue cornsilk1 cyan cyan1",
    "cyan2 cyan3 dark_blue dark_cyan dark_goldenrod dark_green dark_khaki dark_magenta",
    "dark_olive_green1 dark_olive_green2 dark_olive_green3 dark_orange dark_orange3 dark_red",
    "dark_sea_green dark_sea_green1 dark_sea_green2 dark_sea_green3 dark_sea_green4",
    "dark_slate_gray1 dark_slate_gray2 dark_slate_gray3 dark_turquoise dark_violet deep_pink1",
    "deep_pink2 deep_pink3 deep_pink4 deep_sky_blue1 deep_sky_blue2 deep_sky_blue3",
    "deep_sky_blue4 dodger_blue1 dodger_blue2 dodger_blue3 gold1 gold3 gray0 gray100 gray11",
    "gray15 gray19 gray23 gray27 gray3 gray30 gray35 gray37 gray39 gray42 gray46 gray50",
    "gray53 gray54 gray58 gray62 gray63 gray66 gray69 gray7 gray70 gray74 gray78 gray82",
    "gray84 gray85 gray89 gray93 green green1 green3 green4 green_yellow grey0 grey100 grey11",
    "grey15 grey19 grey23 grey27 grey3 grey30 grey35 grey37 grey39 grey42 grey46 grey50",
    "grey53 grey54 grey58 grey62 grey63 grey66 grey69 grey7 grey70 grey74 grey78 grey82",
    "grey84 grey85 grey89 grey93 honeydew2 hot_pink hot_pink2 hot_pink3 indian_red",
    "indian_red1 khaki1 khaki3 light_coral light_cyan1 light_cyan3 light_goldenrod1",
    "light_goldenrod2 light_goldenrod3 light_green light_pink1 light_pink3 light_pink4",
    "light_salmon1 light_salmon3 light_sea_green light_sky_blue1 light_sky_blue3",
    "light_slate_blue light_slate_gray light_slate_grey light_steel_blue light_steel_blue1",
    "light_steel_blue3 light_yellow3 magenta magenta1 magenta2 magenta3 medium_orchid",
    "medium_orchid1 medium_orchid3 medium_purple medium_purple1 medium_purple2 medium_purple3",
    "medium_purple4 medium_spring_green medium_turquoise medium_violet_red misty_rose1",
    "misty_rose3 navajo_white1 navajo_white3 navy_blue orange1 orange3 orange4 orange_red1",
    "orchid orchid1 orchid2 pale_green1 pale_green3 pale_turquoise1 pale_turquoise4",
    "pale_violet_red1 pink1 pink3 plum1 plum2 plum3 plum4 purple purple3 purple4 red red1",
    "red3 rosy_brown royal_blue1 salmon1 sandy_brown sea_green1 sea_green2 sea_green3",
    "sky_blue1 sky_blue2 sky_blue3 slate_blue1 slate_blue3 spring_green1 spring_green2",
    "spring_green3 spring_green4 steel_blue steel_blue1 steel_blue3 tan thistle1 thistle3",
    "turquoise2 turquoise4 violet wheat1 wheat4 white yellow yellow1 yellow2 yellow3 yellow4"]

def colourNames : List Text := colourLines.flatMap fun line => Text.splitAt ' ' line.toList

def between? (word t : Text) : Option Text :=
  (Text.dropStart? (word ++ ['(']) t).bind fun r =>
    if Text.endsWith r [')'] then some r.dropLast else none

/-- The number of decimal digits; `noNumber` if there are none, or too many of them. -/
def component (digits : Text) : Except Flaw Nat :=
  if digits.isEmpty || Value.mostDigits < digits.length then .error .noNumber
  else .ok (digits.foldl (fun n c => 10 * n + (digitValue? c).getD 0) 0)

def isMixture (t : Text) : Except Flaw Bool :=
  if t.all fun c => c = ',' || (digitValue? c).isSome then
    match Text.splitAt ',' t with
    | [red, green, blue] => do
      let parts ← [red, green, blue].mapM component
      return parts.all (· ≤ 255)
    | _ => .ok false
  else .ok false

def isIndex (t : Text) : Bool :=
  !t.isEmpty && t.length ≤ 3 && t.all Char.isDigit
    && t.foldl (fun n c => 10 * n + (c.toNat - '0'.toNat)) 0 ≤ 255

def isColour (t : Text) : Except Flaw Bool :=
  if t = "default".toList || colourNames.contains t then .ok true
  else
    match t, between? "color".toList t, between? "rgb".toList t with
    | '#' :: digits, _, _ =>
      .ok (digits.length = 6 && digits.all fun c => c.isDigit || ('a' ≤ c && c ≤ 'f'))
    | _, some index, _ => .ok (isIndex index)
    | _, none, some parts => isMixture parts
    | _, none, none => .ok false

def colour (word : Text) : Except Flaw Text := do
  let name := Text.lower word
  if ← isColour name then return name else .error .unknown

/-! ## Attributes -/

def attributes : List Text :=
  ["bold", "dim", "italic", "underline", "blink", "blink2", "reverse", "conceal", "strike",
    "underline2", "frame", "encircle", "overline"].map String.toList

def shortAttributes : List (Text × Text) :=
  [("b", "bold"), ("d", "dim"), ("i", "italic"), ("u", "underline"), ("r", "reverse"),
    ("c", "conceal"), ("s", "strike"), ("uu", "underline2"), ("o", "overline")].map fun e =>
      (e.1.toList, e.2.toList)

def attribute? (word : Text) : Option Text :=
  if attributes.contains word then some word else shortAttributes.lookup word

/-! ## Styles -/

structure Style where
  /-- Attributes switched on or off, the last one first. -/
  switches : List (Text × Bool)
  colour : Option Text
  ground : Option Text
  link : Option Text
  deriving DecidableEq, Repr

def Style.plain : Style := ⟨[], none, none, none⟩

def Style.read (s : Style) : List Text → Except Flaw Style
  | [] => .ok s
  | word :: rest =>
    let small := Text.lower word
    if small = "on".toList then
      match rest with
      | [] => .error .unknown
      | ground :: rest => do Style.read { s with ground := some (← Console.colour ground) } rest
    else if small = "not".toList then
      match rest with
      | [] => .error .unknown
      | word :: rest =>
        match attribute? word with
        | none => .error .unknown
        | some a => Style.read { s with switches := (a, false) :: s.switches } rest
    else if small = "link".toList then
      match rest with
      | [] => .error .unknown
      | link :: rest => Style.read { s with link := some link } rest
    else
      match attribute? small with
      | some a => Style.read { s with switches := (a, true) :: s.switches } rest
      | none => do Style.read { s with colour := some (← Console.colour small) } rest

def Style.words (s : Style) : List Text :=
  (attributes.flatMap fun a =>
      match s.switches.lookup a with
      | some true => [a]
      | some false => ["not".toList, a]
      | none => [])
    ++ s.colour.toList
    ++ (match s.ground with | some g => ["on".toList, g] | none => [])
    ++ match s.link with | some l => ["link".toList, l] | none => []

def noStyle : Text := "none".toList

def Style.text (s : Style) : Text :=
  if s.words.isEmpty then noStyle else Text.joinWith [' '] s.words

/-- The usual name of what a tag names: of a style, or the name itself in small letters if a word of
it means nothing. -/
def styleName (name : Text) : Except Flaw Text :=
  if Text.trim name = noStyle then .ok noStyle
  else
    match Style.read .plain (Text.words name) with
    | .ok s => .ok s.text
    | .error .unknown => .ok (Text.lower (Text.trim name))
    | .error .noNumber => .error .noNumber

end SdkGraft.Console

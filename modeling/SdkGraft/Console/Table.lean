import SdkGraft.Console.Screen
import SdkGraft.Text.Breaks

/-!
# Tables on a screen

* `Frame` : the characters of one rule of a table;
* `cellLines`, `padded` : the lines of a cell, filled and cut patch by patch;
* `Grid` : the rows of a table under their heading;
* `Grid.widths` : how wide its columns are; the last one gives way if the screen is too narrow;
* `Grid.draw` : a table as lines, its title over the middle.
-/

namespace SdkGraft.Console

/-- The characters of one rule: its left end, its line, where columns meet, its right end. -/
structure Frame where
  left : Char
  line : Char
  cross : Char
  right : Char
  deriving DecidableEq, Repr

def topRule : Frame := ⟨'┏', '━', '┳', '┓'⟩

def headRule : Frame := ⟨'┡', '━', '╇', '┩'⟩

def bottomRule : Frame := ⟨'└', '─', '┴', '┘'⟩

def headBars : Frame := ⟨'┃', ' ', '┃', '┃'⟩

def rowBars : Frame := ⟨'│', ' ', '│', '│'⟩

def Frame.around (f : Frame) (parts : List Text) : Text :=
  f.left :: Text.joinWith [f.cross] parts ++ [f.right]

def Frame.rule (f : Frame) (widths : List Nat) : Text :=
  f.around (widths.map fun w => List.replicate (w + 2) f.line)

/-! ## Cells -/

/-- A line with blanks behind it up to that width. -/
def filled (width : Nat) (line : Painted) : Painted :=
  { line with text := line.text ++ List.replicate (width - columns line.text) ' ' }

def cellLines (width : Nat) (cell : Painted) : List Painted :=
  (laidOut width cell).map (filled width)

def fitted (width : Nat) (patches : List Text) : List Text :=
  let used := total (patches.map columns)
  if used ≤ width then patches ++ [List.replicate (width - used) ' '] else cutPatches width patches

def padded (width : Nat) (line : Painted) : Text :=
  (fitted (width + 2) ([' '] :: fitted width line.patches ++ [[' ']])).flatten

def Frame.cells (f : Frame) (widths : List Nat) (lines : List Painted) : Text :=
  f.around ((widths.zip lines).map fun e => padded e.1 e.2)

/-- The lines across the columns that a row of cells takes: as many as its highest cell has. -/
def Frame.row (f : Frame) (cells : List (Nat × List Painted)) : List Text :=
  let height := (cells.map fun e => e.2.length).foldl max 1
  (List.range height).map fun i =>
    f.cells (cells.map Prod.fst) (cells.map fun e => e.2.getD i (.plain []))

/-! ## Tables -/

/-- A table: its heading and its rows, each with a cell for every column. -/
structure Grid where
  title : Text
  heading : List Painted
  rows : List (List Painted)

def cellWidth (cell : Text) : Nat := ((Text.rows cell).map columns).foldl max 0

/-- How wide the columns would like to be: each as wide as its widest cell. -/
def Grid.wishes (g : Grid) : List Nat :=
  (List.range g.heading.length).map fun i =>
    ((g.heading :: g.rows).map fun row => ((row[i]?.map Painted.text).map cellWidth).getD 0).foldl
      max 0

/-- How many columns of the screen the rules and the blanks around so many cells take. -/
def frameWidth (count : Nat) : Nat := 3 * count + 1

/-- The widths of the columns: as wide as they would like to be, and the last one only as wide as
the screen allows. -/
def Grid.widths (g : Grid) : List Nat :=
  let others := g.wishes.dropLast
  let room := screenWidth - frameWidth g.heading.length - total others
  others ++ (g.wishes.getLast?.map (min room)).toList

def centred (width : Nat) (line : Text) : Text :=
  let spare := width - columns line
  List.replicate (spare / 2) ' ' ++ line ++ List.replicate (spare - spare / 2) ' '

def Grid.laidOut (g : Grid) (row : List Painted) : List (Nat × List Painted) :=
  (g.widths.zip row).map fun e => (e.1, cellLines e.1 e.2)

/-- Every cell can be painted. -/
def Grid.isSound (g : Grid) : Bool :=
  (g.heading :: g.rows).all fun row =>
    (g.laidOut row).all fun cell => cell.2.all Painted.isSound

def Grid.lines (g : Grid) : List Text :=
  let widths := g.widths
  let top := topRule.rule widths
  [centred (columns top) g.title, top] ++ headBars.row (g.laidOut g.heading)
    ++ [headRule.rule widths] ++ (g.rows.flatMap fun row => rowBars.row (g.laidOut row))
    ++ [bottomRule.rule widths]

/-- The table as a text, if it can be painted. -/
def Grid.draw (g : Grid) : Except Trouble Text :=
  if g.isSound then .ok (g.lines.flatMap fun line => line ++ ['\n']) else .error .noNumber

end SdkGraft.Console

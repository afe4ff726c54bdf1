import SdkGraft.Text.Blank

/-!
# Indentation

* `detectUnit` : the unit of indentation that the lines of a document show, if they show one;
* `level` : how many units deep a line stands; `reindent` : a block of code moved under another
  indentation, level by level.
-/

namespace SdkGraft.Source

def sampleSize : Nat := 100

def indents (lines : List Text) : List Text :=
  (lines.filter fun line => !Text.isAllBlank line).map Text.leading

/-- The unit that the indentations show: a tab if more lines have one than have none, otherwise
four or two spaces as the narrowest indentation has it. -/
def unitOf (sample : List Text) : Option Text :=
  let tabbed := sample.filter (·.contains '\t')
  let spaced := sample.filter fun i => !i.contains '\t' && !i.isEmpty
  if spaced.length < tabbed.length then some ['\t']
  else
    match (spaced.map List.length).min? with
    | none => none
    | some width =>
      if 4 ≤ width ∧ width % 4 = 0 then some "    ".toList
      else if 2 ≤ width ∧ width % 2 = 0 then some "  ".toList
      else none

def detectUnit (lines : List Text) : Option Text := unitOf (indents (lines.take sampleSize))

/-- The unit itself, or the default where the unit is empty. -/
def orDefault (unit default : Text) : Text := if unit.isEmpty then default else unit

/-- The width of the narrowest indentation of a line that holds more than blanks. -/
def outerWidth (lines : List Text) : Nat := ((indents lines).map List.length).min?.getD 0

/-- How many source units deep a line stands below the outermost one. -/
def level (outer sourceWidth : Nat) (line : Text) : Nat :=
  ((Text.leading line).length - outer) / sourceWidth

/-- A line set at its level under `base`; a blank line becomes empty. -/
def reindentLine (base unit : Text) (outer sourceWidth : Nat) (line : Text) : Text :=
  if Text.isAllBlank line then []
  else base ++ (List.replicate (level outer sourceWidth line) unit).flatten ++ Text.trimStart line

/-- The lines of a block of code, its outermost lines at `base` and every level one `unit` deeper;
`sourceWidth` is the width of a unit in the code as it comes. -/
def reindent (code base unit : Text) (sourceWidth : Nat) : List Text :=
  let lines := Text.lines code
  lines.map (reindentLine base unit (outerWidth lines) sourceWidth)

/-- A unit of no width measures no level: it serves only code of blank lines. -/
def reindentFrom? (code base unit source : Text) : Option (List Text) :=
  if source.isEmpty && (Text.lines code).any (!Text.isAllBlank ·) then none
  else some (reindent code base unit source.length)

end SdkGraft.Source

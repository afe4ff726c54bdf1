import SdkGraft.Text.Blank

/-!
# The code on each line

What is left of source lines when string literals and comments are taken out. The lines are read
one after the other; only an open block comment is carried from line to line.

* `Segment`, `segments` : a line as characters and closed string literals;
* `literals` : the contents of the literals of a line; `eraseLiterals` : the line with them emptied;
* `keepCode` : a line without comments, and whether a block comment is open after it;
* `codeParts` : the code of every line (`codeParts_length`), `openAfter` : the comment state.
-/

namespace SdkGraft.Source

/-! ## String literals -/

/-- A piece of a line: one character, or what stands between the quotes of a literal. -/
inductive Segment where
  | char (c : Char)
  | literal (body : Text)
  deriving DecidableEq, Repr

/-- The body of the literal whose opening quote has just been read, if the literal closes: a
backslash takes the next character along, and may not end the line. -/
def literalBody? : Text → Option Text
  | [] => none
  | '\\' :: c :: r => if c = '\n' then none else (literalBody? r).map ('\\' :: c :: ·)
  | c :: r =>
    if c = '"' then some []
    else if c = '\\' then none
    else (literalBody? r).map (c :: ·)

/-- The segments of a line after its first `skip` characters. A quote that opens no closed literal
is a character like any other. -/
def segmentsFrom : (skip : Nat) → Text → List Segment
  | _, [] => []
  | skip + 1, _ :: r => segmentsFrom skip r
  | 0, c :: r =>
    if c = '"' then
      match literalBody? r with
      | some body => .literal body :: segmentsFrom (body.length + 1) r
      | none => .char c :: segmentsFrom 0 r
    else .char c :: segmentsFrom 0 r

def segments (line : Text) : List Segment := segmentsFrom 0 line

def literals (line : Text) : List Text :=
  (segments line).filterMap fun
    | .literal body => some body
    | .char _ => none

def Segment.erased : Segment → Text
  | .char c => [c]
  | .literal _ => ['"', '"']

/-- A segment as it stands in the line. -/
def Segment.written : Segment → Text
  | .char c => [c]
  | .literal body => '"' :: body ++ ['"']

def eraseLiterals (line : Text) : Text := (segments line).flatMap Segment.erased

/-! ## Comments -/

/-- The characters outside comments, given whether a block comment is open, and whether one is
open at the end. Block comments do not nest. -/
def keepCode : (inBlock : Bool) → Text → Text × Bool
  | inBlock, [] => ([], inBlock)
  | true, '*' :: '/' :: r => keepCode false r
  | true, _ :: r => keepCode true r
  | false, '/' :: '/' :: _ => ([], false)
  | false, '/' :: '*' :: r => keepCode true r
  | false, c :: r =>
    let rest := keepCode false r
    (c :: rest.1, rest.2)

/-- The code of one line, and whether a block comment is open after it. -/
def lineCode (inBlock : Bool) (line : Text) : Text × Bool :=
  let kept := keepCode inBlock (eraseLiterals (Text.trim line))
  (Text.trim kept.1, kept.2)

/-- The code of the lines that follow a place where a block comment is or is not open. -/
def codePartsFrom : (inBlock : Bool) → List Text → List Text
  | _, [] => []
  | inBlock, line :: rest =>
    let part := lineCode inBlock line
    part.1 :: codePartsFrom part.2 rest

/-- The code of each line: no comments, no blanks at the ends, nothing inside string literals. -/
def codeParts (lines : List Text) : List Text := codePartsFrom false lines

/-- Whether a block comment is open after the lines. -/
def openAfter : (inBlock : Bool) → List Text → Bool
  | inBlock, [] => inBlock
  | inBlock, line :: rest => openAfter (lineCode inBlock line).2 rest

@[simp] theorem codePartsFrom_length (inBlock : Bool) (lines : List Text) :
    (codePartsFrom inBlock lines).length = lines.length := by
  induction lines generalizing inBlock with
  | nil => rfl
  | cons line rest ih => simp [codePartsFrom, ih]

@[simp] theorem codeParts_length (lines : List Text) : (codeParts lines).length = lines.length :=
  codePartsFrom_length false lines

theorem codePartsFrom_append (inBlock : Bool) (before after : List Text) :
    codePartsFrom inBlock (before ++ after) =
      codePartsFrom inBlock before ++ codePartsFrom (openAfter inBlock before) after := by
  induction before generalizing inBlock with
  | nil => rfl
  | cons line rest ih => simp [codePartsFrom, openAfter, ih]

end SdkGraft.Source

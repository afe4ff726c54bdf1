import SdkGraft.Text.Basic

/-!
# Documents

* `LineEnding` : line feed alone, or with a carriage return before it;
* `Document` : the lines of a source file, with what is needed to write them back as they were;
* `Document.ofText` : reading; `Document.render` : writing (`ofText_text`);
* `Document.isModified` : whether an edit has changed the lines.
-/

namespace SdkGraft.Source

inductive LineEnding where
  | lf
  | crlf
  deriving DecidableEq, Repr

namespace LineEnding

def text : LineEnding → Text
  | .lf => ['\n']
  | .crlf => ['\r', '\n']

/-- One carriage-return pair is enough to take all lines to end so. -/
def detect (t : Text) : LineEnding := if Text.hasCrlf t then .crlf else .lf

def normalize (ending : LineEnding) (t : Text) : Text :=
  match ending with
  | .lf => Text.foldCrlf t
  | .crlf => Text.expandLf (Text.foldCrlf t)

end LineEnding

/-- The mark that may stand in front of a text to tell its encoding. -/
def byteOrderMark : Char := '\ufeff'

/-- The text without a byte order mark in front. -/
def dropMark : Text → Text
  | [] => []
  | c :: r => if c = byteOrderMark then r else c :: r

/-- A source file held as lines for one edit. -/
structure Document where
  /-- Where the file is, in the words of whoever asked for it. -/
  path : Text
  lines : List Text
  ending : LineEnding
  /-- A byte order mark stands in front of the first line. -/
  hasMark : Bool
  /-- The text as it was read. -/
  asRead : Text
  deriving DecidableEq, Repr

namespace Document

def text (d : Document) : Text := Text.unlines d.lines

def ofText (path read : Text) : Document where
  path := path
  lines := Text.lines (Text.foldCrlf (dropMark read))
  ending := .detect read
  hasMark := read.head? == some byteOrderMark
  asRead := read

/-- The lines differ from what was read. -/
def isModified (d : Document) : Bool := d.text != Text.foldCrlf (dropMark d.asRead)

def render (d : Document) (preserveEndings : Bool) : Text :=
  let body := if preserveEndings then d.ending.normalize d.text else d.text
  if d.hasMark then byteOrderMark :: body else body

theorem ofText_text (path read : Text) :
    (ofText path read).text = Text.foldCrlf (dropMark read) :=
  Text.unlines_lines _

end Document

end SdkGraft.Source

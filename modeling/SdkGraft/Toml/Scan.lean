import SdkGraft.Text.Basic

/-!
# Reading configuration files: the small parts

A reader takes something from the beginning of a text and gives it with the rest, or refuses.

* `Reader` : such a function; `expect` : a known beginning;
* `dropSpaces`, `dropComment?`, `dropFiller?` : what stands between the parts that matter;
* `digits` : digits in which single low lines may stand.
-/

namespace SdkGraft.Toml

/-- What is read from the beginning of a text, and the rest. -/
abbrev Reader (α : Type) := Text → Option (α × Text)

def expect (start : Text) (t : Text) : Option Text := Text.dropStart? start t

def isSpace (c : Char) : Bool := c == ' ' || c == '\t'

/-- A control character, which stands nowhere but for tabs and line feeds. -/
def isControl (c : Char) : Bool := c.toNat < 0x20 || c.toNat == 0x7F

/-- The character may stand in a text or a comment on one line. -/
def isPlain (c : Char) : Bool := !isControl c || c == '\t'

/-- The text without the spaces at its beginning. -/
def dropSpaces (t : Text) : Text := t.dropWhile isSpace

/-- The text without the spaces and line feeds at its beginning. -/
def dropLines (t : Text) : Text := t.dropWhile fun c => isSpace c || c == '\n'

/-- The text without the comment at its beginning, if there is one. -/
def dropComment? : Text → Option Text
  | '#' :: r =>
    if (r.takeWhile (· != '\n')).all isPlain then some (r.dropWhile (· != '\n')) else none
  | t => some t

/-- The text without the spaces, line feeds and comments at its beginning, in at most `n` rounds. -/
def dropFillerIn : (n : Nat) → Text → Option Text
  | 0, t => some t
  | n + 1, t =>
    match dropComment? (dropLines t) with
    | none => none
    | some rest => if rest.length < t.length then dropFillerIn n rest else some rest

/-- The text without the spaces, line feeds and comments at its beginning. -/
def dropFiller? (t : Text) : Option Text := dropFillerIn (t.length + 1) t

def moreDigits (isDigit : Char → Bool) : Text → Text × Text
  | '_' :: d :: r =>
    if isDigit d then
      let more := moreDigits isDigit r
      (d :: more.1, more.2)
    else ([], '_' :: d :: r)
  | d :: r =>
    if isDigit d then
      let more := moreDigits isDigit r
      (d :: more.1, more.2)
    else ([], d :: r)
  | [] => ([], [])

/-- One digit or more, single low lines between them dropped. -/
def digits (isDigit : Char → Bool) : Reader Text
  | d :: r =>
    if isDigit d then
      let more := moreDigits isDigit r
      some (d :: more.1, more.2)
    else none
  | [] => none

def digitValue (c : Char) : Nat :=
  if '0' ≤ c ∧ c ≤ '9' then c.toNat - '0'.toNat
  else if 'a' ≤ c ∧ c ≤ 'f' then c.toNat - 'a'.toNat + 10
  else c.toNat - 'A'.toNat + 10

def numberOf (base : Nat) (ds : Text) : Nat := ds.foldl (fun n d => n * base + digitValue d) 0

def isHexDigit (c : Char) : Bool :=
  c.isDigit || ('a' ≤ c && c ≤ 'f') || ('A' ≤ c && c ≤ 'F')

end SdkGraft.Toml

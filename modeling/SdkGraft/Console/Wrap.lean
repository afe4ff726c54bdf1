import SdkGraft.Console.Painted
import SdkGraft.Console.Width

/-!
# Lines on a screen

* `expandTabs` : tabs written as blanks up to the next stop;
* `wrapWords` : a line cut into words, each with the blanks behind it (`flatten_wordParts`);
* `brokenLine` : a line broken between words, and inside words that are wider than the screen;
* `laidOut` : a text as the lines that it takes on a screen;
* `cutPatches`, `cropped` : a painted line cut off at a column.
-/

namespace SdkGraft.Console

def screenWidth : Nat := 4000

/-! ## Tabs -/

def tabStop : Nat := 8

/-- The parts of a line, each but the last one with a blank in the place of the tab behind it. -/
def untabbed : List Text → List Text
  | [] => []
  | [part] => [part]
  | part :: next :: rest => (part ++ [' ']) :: untabbed (next :: rest)

/-- Parts of a line, each but the last one widened up to the next stop; the line so far is `column`
columns wide. -/
def expandParts (column : Nat) : List Painted → Painted
  | [] => .plain []
  | [part] => part
  | part :: next :: rest =>
    let here := column + columns part.text
    let gap := (tabStop - here % tabStop) % tabStop
    (part.widened gap).append (expandParts (here + gap) (next :: rest))

/-- The line with tabs written as blanks up to the next stop. -/
def expandTabs (line : Painted) : Painted :=
  expandParts 0 (line.intoParts 0 (untabbed (Text.splitAt '\t' line.text)))

/-! ## Words -/

/-- The line cut wherever a word begins behind a blank. -/
def wordParts : Text → List Text
  | [] => []
  | c :: r =>
    match wordParts r with
    | [] => [[c]]
    | part :: rest =>
      if isBlank c && !part.head?.any isBlank then [c] :: part :: rest else (c :: part) :: rest

/-- The words of a line, each with the blanks behind it, the first one also with those in front of
it; a line of blanks has none. -/
def wrapWords (line : Text) : List Text :=
  match wordParts line with
  | [] => []
  | [part] => if Text.isAllBlank part then [] else [part]
  | part :: next :: rest =>
    if Text.isAllBlank part then (part ++ next) :: rest else part :: next :: rest

/-- A word in pieces that are not too wide, behind a piece of `used` columns. -/
def chopClusters (width : Nat) : (used : Nat) → (piece : Text) → List Cluster → List Text
  | used, piece, [] => if used = 0 then [] else [piece]
  | used, piece, k :: rest =>
    if width < used + k.width then piece :: chopClusters width k.width k.text rest
    else chopClusters width (used + k.width) (piece ++ k.text) rest

def chop (width : Nat) (word : Text) : List Text := chopClusters width 0 [] (clusters word)

/-! ## Breaking -/

structure Broken where
  /-- The lines that are full, the last one first. -/
  full : List Text
  line : Text
  /-- How many columns the words of the last line take. -/
  used : Nat

def Broken.isEmpty (b : Broken) : Bool := b.full.isEmpty && b.line.isEmpty

/-- A piece on a line of its own; at the very beginning there is one already. -/
def Broken.onNext (b : Broken) (piece : Text) : Broken :=
  ⟨if b.isEmpty then [] else b.line :: b.full, piece, columns piece⟩

/-- One more word: on the last line if it fits there without the blanks behind it, in pieces if it
fits on no line, and on the next line otherwise. -/
def Broken.add (width : Nat) (b : Broken) (word : Text) : Broken :=
  let need := columns (Text.trimEnd word)
  if b.used + need ≤ width then ⟨b.full, b.line ++ word, b.used + columns word⟩
  else if width < need then (chop width word).foldl Broken.onNext b
  else b.onNext word

def brokenLine (width : Nat) (line : Text) : List Text :=
  match wrapWords line with
  | [] => [line]
  | ws =>
    let b := ws.foldl (Broken.add width) ⟨[], [], 0⟩
    b.full.reverse ++ [b.line]

/-- A line without as many of the blanks at its end as it has characters too many. -/
def withoutExcess (width : Nat) (line : Text) : Text :=
  line.take (line.length - min (line.length - (Text.trimEnd line).length) (line.length - width))

def fittingLine (width : Nat) (line : Painted) : Painted :=
  let line := line.shortenedTo (withoutExcess width line.text)
  line.shortenedTo (cut width line.text)

def laidOutLine (width : Nat) (line : Painted) : List Painted :=
  let line := expandTabs line
  (line.intoParts 0 (brokenLine width line.text)).map (fittingLine width)

def laidOut (width : Nat) (p : Painted) : List Painted :=
  (p.intoParts 1 (Text.lines p.text)).flatMap (laidOutLine width)

/-! ## Patches -/

def cutPatches : (room : Nat) → List Text → List Text
  | _, [] => []
  | room, patch :: rest =>
    if columns patch < room then patch :: cutPatches (room - columns patch) rest else [cut room patch]

def cropped (width : Nat) (line : Painted) : Text :=
  if total (line.patches.map columns) ≤ width then line.text else (cutPatches width line.patches).flatten

/-! ## Laws -/

/-- A line without tabs stays as it is. -/
theorem expandTabs_of_no_tab {line : Painted} (h : '\t' ∉ line.text) : expandTabs line = line := by
  have whole (t : Text) (h : '\t' ∉ t) : Text.splitAt '\t' t = [t] := by
    induction t with
    | nil => rfl
    | cons c r ih =>
      rw [List.mem_cons, not_or] at h
      rw [Text.splitAt, if_neg (Ne.symm h.1), ih h.2]
  rw [expandTabs, whole line.text h]
  rfl

/-- Nothing is lost by cutting a line where words begin. -/
theorem flatten_wordParts (line : Text) : (wordParts line).flatten = line := by
  induction line with
  | nil => rfl
  | cons c r ih =>
    rw [wordParts]
    generalize wordParts r = parts at ih
    subst ih
    cases parts with
    | nil => rfl
    | cons part rest => dsimp only; split <;> simp

end SdkGraft.Console

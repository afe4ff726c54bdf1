import SdkGraft.Ignore.Piece

/-!
# Patterns of ignored directories

A pattern is a path with wildcards and a slash at its end: it names directories, and matches them
and all that is below them. With a slash before its end it counts from the root, otherwise it holds
at any depth; an exclamation mark in front takes back what earlier patterns matched.

* `PatternFault` : what can be wrong with a pattern;
* `globPieces` : the wildcards between two slashes; `pathPieces` : a whole path of them;
* `Pattern.parse?` : a line as a pattern, `none` for comments;
* `Spec` : patterns in order, `Spec.isIgnored` : the last one that matches decides.
-/

namespace SdkGraft.Ignore

inductive PatternFault where
  /-- A backslash at the end of a part has nothing to stand in front of. -/
  | danglingEscape
  /-- A range of characters runs backwards. -/
  | badRange
  deriving DecidableEq, Repr

/-! ## Character classes -/

/-- The characters of a class up to the bracket that closes it, and the rest; a bracket in first
place is a member. -/
def closeClass? : Text → Option (Text × Text)
  | [] => none
  | c :: r => (find? r).map fun e => (c :: e.1, e.2)
where
  /-- The characters up to the first closing bracket. -/
  find? : Text → Option (Text × Text)
    | [] => none
    | c :: r => if c = ']' then some ([], r) else (find? r).map fun e => (c :: e.1, e.2)

/-- The ranges that the members of a class write: two characters around a hyphen, or one. -/
def classRanges : Text → List (Char × Char)
  | a :: '-' :: b :: r => (a, b) :: classRanges r
  | a :: r => (a, a) :: classRanges r
  | [] => []

/-- A class after its opening bracket: its set, and how many characters it takes; `none` if it is
not closed, when the bracket stands for itself. -/
def charClass? (t : Text) : Option (CharSet × Nat) :=
  let negated := t.head? == some '!' || t.head? == some '^'
  let inside := if negated then t.drop 1 else t
  (closeClass? inside).map fun e => (.ranges negated (classRanges e.1), t.length - e.2.length)

/-! ## Parts and paths -/

/-- The pieces of one part of a pattern after its first `skip` characters; `none` if a backslash
ends it. -/
def globPiecesFrom : (skip : Nat) → Text → Option (List Piece)
  | _, [] => some []
  | skip + 1, _ :: r => globPiecesFrom skip r
  | 0, '\\' :: c :: r => (globPiecesFrom 0 r).map (.one (.only c) :: ·)
  | 0, ['\\'] => none
  | 0, '*' :: r => (globPiecesFrom 0 r).map (.many .notSlash :: ·)
  | 0, '?' :: r => (globPiecesFrom 0 r).map (.one .notSlash :: ·)
  | 0, '[' :: r =>
    match charClass? r with
    | none => (globPiecesFrom 0 r).map (.one (.only '[') :: ·)
    | some (set, width) => (globPiecesFrom width r).map (.one set :: ·)
  | 0, c :: r => (globPiecesFrom 0 r).map (.one (.only c) :: ·)

/-- A name of at least one character: what a star alone stands for. -/
def anyName : List Piece := [.one .notSlash, .many .notSlash]

/-- The pieces of one part of a pattern; `none` if a backslash ends it. -/
def globPieces (part : Text) : Option (List Piece) :=
  if part = ['*'] then some anyName else globPiecesFrom 0 part

/-- Two stars alone: any directories. -/
def deep : Text := ['*', '*']

/-- Neighbouring parts of two stars count once. -/
def mergeDeep : List Text → List Text
  | a :: b :: rest => if a = deep ∧ b = deep then mergeDeep (b :: rest) else a :: mergeDeep (b :: rest)
  | parts => parts

/-- The pieces of the parts behind the first ones; `slash` if a slash is due before the next name.
Two stars at the end stand for all that is below. -/
def laterPieces (slash : Bool) : List Text → Option (List Piece)
  | [] => some []
  | part :: rest =>
    let due : List Piece := if slash then [.one (.only '/')] else []
    if part = deep then
      if rest.isEmpty then some [.one (.only '/')]
      else (laterPieces true rest).map (.directoriesAfter :: ·)
    else do return due ++ (← globPieces part) ++ (← laterPieces true rest)

def partsPieces (parts : List Text) : Option (List Piece) :=
  match parts with
  | part :: rest =>
    if part = deep then (laterPieces false rest).map (.directoriesBefore :: ·)
    else laterPieces false parts
  | [] => some []

/-- The parts of a path counted from the root: a leading slash only says so, a single name may
stand at any depth, and what ends with a slash means everything below. -/
def rootedParts (parts : List Text) : List Text :=
  let parts :=
    match parts with
    | [] :: rest => rest
    | [part] => if part = deep then [part] else [deep, part]
    | [part, []] => if part = deep then [part, []] else [deep, part, []]
    | parts => parts
  match parts.reverse with
  | [] :: before => mergeDeep (deep :: before).reverse
  | _ => mergeDeep parts

/-- The pieces of the path of a pattern. A slash alone stands for every path with something on a
line; stars alone stand for every path with a slash. -/
def pathPieces (path : Text) : Option (List Piece) :=
  if path = ['/'] then some [.many .all, .one .onLine]
  else
    let parts := rootedParts (Text.splitAt '/' path)
    if parts = [deep] ∨ parts = [deep, ['*'], deep] then some [.many .all, .one (.only '/')]
    else partsPieces parts

/-! ## Patterns -/

/-- A pattern, and whether it ignores what it matches or takes it back. -/
structure Pattern where
  ignores : Bool
  pieces : List Piece
  deriving DecidableEq, Repr

/-- The pattern with the path, if nothing is wrong with it; a backslash at an end comes before a
range that runs backwards. -/
def Pattern.ofPath (ignores : Bool) (path : Text) : Except PatternFault Pattern :=
  match pathPieces path with
  | none => .error .danglingEscape
  | some pieces => if pieces.any Piece.isBackwards then .error .badRange else .ok ⟨ignores, pieces⟩

/-- The pattern of a line, if it holds one. -/
def Pattern.parse? (line : Text) : Except PatternFault (Option Pattern) :=
  match line with
  | [] => .ok none
  | '#' :: _ => .ok none
  | '!' :: path => (Pattern.ofPath false path).map some
  | path => (Pattern.ofPath true path).map some

abbrev Spec := List Pattern

def Spec.parse (lines : List Text) : Except PatternFault Spec :=
  (lines.mapM Pattern.parse?).map (·.filterMap id)

/-- A path as patterns see it: counted from the root. -/
def relative (path : Text) : Text :=
  match path with
  | '/' :: r => r
  | '.' :: '/' :: r => r
  | t => t

/-- The last pattern that matches the path ignores it. -/
def Spec.isIgnored (spec : Spec) (path : Text) : Bool :=
  match (spec.filter fun p => startWith p.pieces (relative path)).getLast? with
  | some p => p.ignores
  | none => false

end SdkGraft.Ignore

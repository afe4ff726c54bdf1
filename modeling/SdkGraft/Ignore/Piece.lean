import SdkGraft.Text.Basic

/-!
# Pieces of a path pattern

A pattern is a row of pieces, each with the remainders it can leave of a path.

* `CharSet` : characters, a class of them, all but the slash;
* `Piece`, `Piece.rests` : what is left of a text after a piece of the pattern;
* `startWith` : the pieces together take a beginning of the path.
-/

namespace SdkGraft.Ignore

inductive CharSet where
  /-- One character. -/
  | only (c : Char)
  /-- Every character but the slash. -/
  | notSlash
  /-- The characters in closed ranges, or those in none of them. -/
  | ranges (negated : Bool) (items : List (Char × Char))
  deriving DecidableEq, Repr

def CharSet.all : CharSet := .ranges true []

/-- Every character that does not end the line. -/
def CharSet.onLine : CharSet := .ranges true [('\n', '\n')]

def CharSet.has : CharSet → Char → Bool
  | .only d, c => c == d
  | .notSlash, c => c != '/'
  | .ranges negated items, c => (items.any fun r => r.1 ≤ c && c ≤ r.2) != negated

def CharSet.isBackwards : CharSet → Bool
  | .ranges _ items => items.any fun r => r.2 < r.1
  | _ => false

inductive Piece where
  /-- One character of the set. -/
  | one (s : CharSet)
  /-- Any number of characters of the set. -/
  | many (s : CharSet)
  /-- Nothing, or some directories with a slash behind them. -/
  | directoriesBefore
  /-- Nothing, or a slash with some directories behind it. -/
  | directoriesAfter
  deriving DecidableEq, Repr

def Piece.isBackwards : Piece → Bool
  | .one s => s.isBackwards
  | .many s => s.isBackwards
  | _ => false

/-- What is left after any number of characters that `p` holds of, the whole text first. -/
def restsWhile (p : Char → Bool) : Text → List Text
  | [] => [[]]
  | c :: r => (c :: r) :: if p c then restsWhile p r else []

/-- What is left after at least one character that `p` holds of. -/
def restsWhile1 (p : Char → Bool) : Text → List Text
  | [] => []
  | c :: r => if p c then restsWhile p r else []

/-- What can be left of a text after the piece. Names of directories that a piece passes over stand
on one line. -/
def Piece.rests : Piece → Text → List Text
  | .one _, [] => []
  | .one s, c :: r => if s.has c then [r] else []
  | .many s, t => restsWhile s.has t
  | .directoriesBefore, t =>
    t :: (restsWhile1 CharSet.onLine.has t).filterMap (Text.dropStart? ['/'])
  | .directoriesAfter, '/' :: r => ('/' :: r) :: restsWhile1 CharSet.onLine.has r
  | .directoriesAfter, t => [t]

/-- The pieces one after the other take a beginning of the text. -/
def startWith : List Piece → Text → Bool
  | [], _ => true
  | p :: ps, t => (p.rests t).any (startWith ps)

end SdkGraft.Ignore

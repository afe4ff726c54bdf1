import SdkGraft.Text.Utf8

/-!
# Paths

* `Path.parts` : the names of a path, without those that lead nowhere;
* `Path.tidy` : a path as messages show it: single slashes, no dots that lead nowhere, `..` kept;
* `Path.under` : names put behind a path; `Path.name`, `Path.parent` : its two ends;
* `Path.along` : names put behind a path that is left as it is;
* `Path.resolveDots` : the names of a path with every `..` taken back.
-/

namespace SdkGraft.Path

def isAbsolute (path : Text) : Bool := path.head? == some '/'

/-- A part of a path that stays where it is. -/
def isIdle (part : Text) : Bool := part.isEmpty || part == ['.']

/-- The names of a path, `..` among them. -/
def parts (path : Text) : List Text := (Text.splitAt '/' path).filter fun p => !isIdle p

/-- What an absolute path begins with: exactly two slashes stay two. -/
def rootOf (path : Text) : Text :=
  match path with
  | '/' :: '/' :: '/' :: _ => ['/']
  | '/' :: '/' :: _ => ['/', '/']
  | '/' :: _ => ['/']
  | _ => []

/-- The path of names behind a root; without either it is the dot. -/
def ofParts (root : Text) (names : List Text) : Text :=
  if root.isEmpty && names.isEmpty then ['.'] else root ++ Text.joinWith ['/'] names

/-- A path as messages show it. -/
def tidy (path : Text) : Text := ofParts (rootOf path) (parts path)

def under (path : Text) (names : List Text) : Text := ofParts (rootOf path) (parts path ++ names)

/-- One more name behind a path, a slash before it unless the path ends with one. -/
def join (path name : Text) : Text :=
  if path.getLast? = some '/' then path ++ name else path ++ '/' :: name

/-- The names put behind a path one after the other, nothing of it tidied away. -/
def along (path : Text) (names : List Text) : Text := names.foldl join path

/-- The last name of a path, empty if it has none. -/
def name (path : Text) : Text := (parts path).getLast?.getD []

/-- The path without its last name. -/
def parent (path : Text) : Text := ofParts (rootOf path) (parts path).dropLast

/-- One more name behind the names so far: `..` takes the last one back. -/
def stepDots (names : List Text) (part : Text) : List Text :=
  if part = ['.', '.'] then names.dropLast else names ++ [part]

/-- The names of a path with every `..` taken back, by the names alone. -/
def resolveDots (names : List Text) : List Text := names.foldl stepDots []

def longestName : Nat := 255

def isTooLong (name : Text) : Bool := longestName < (Utf8.encode name).length

def longestPath : Nat := 4095

def isOverlong (path : Text) : Bool := longestPath < (Utf8.encode path).length

end SdkGraft.Path

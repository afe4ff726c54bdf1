import SdkGraft.Tree.Path
import SdkGraft.Text.Quoted

/-!
# Trees of files

* `Node` : a file or a directory with its permissions, or a symbolic link;
* `Entries` : the named nodes of a directory, in the order in which it lists them;
* `Tree` : a directory that all paths lead down from, with a place where relative paths start;
* `FileError`, `PathError` : why a path cannot be used, with its wording;
* `Tree.isReadable`, `Tree.isWritable`, `Tree.isSearchable` : what permissions allow the owner;
* `Tree.resolve` : the place a path leads to, through links;
* `Tree.readFile`, `Tree.isDirectory`, `Tree.list`, `Tree.find?` : looking at a path.

All files belong to the user.
-/

namespace SdkGraft

inductive Node where
  | file (bytes : Bytes) (mode : Nat)
  | link (goal : Text)
  | dir (entries : List (Text × Node)) (mode : Nat)

abbrev Entries := List (Text × Node)

/-- A place in a tree: the names that lead there from its top, links not followed. -/
abbrev Place := List Text

namespace Entries

def get? : Entries → Text → Option Node
  | [], _ => none
  | (n, node) :: rest, name => if n = name then some node else get? rest name

/-- The entries with `node` for `name`; a new name is listed last. -/
def put : Entries → Text → Node → Entries
  | [], name, node => [(name, node)]
  | (n, old) :: rest, name, node =>
    if n = name then (n, node) :: rest else (n, old) :: put rest name node

/-- The entries without that name. -/
def erase (entries : Entries) (name : Text) : Entries := entries.filter fun e => e.1 != name

def names (entries : Entries) : List Text := entries.map Prod.fst

end Entries

namespace Node

def entries? : Node → Option Entries
  | .dir entries _ => some entries
  | _ => none

def at? : Node → Place → Option Node
  | node, [] => some node
  | .dir entries _, name :: rest =>
    match Entries.get? entries name with
    | some child => child.at? rest
    | none => none
  | _, _ :: _ => none

/-- The node with the entries of the directory at a place below changed. -/
def onEntries (change : Entries → Entries) : Place → Node → Node
  | [], .dir entries mode => .dir (change entries) mode
  | name :: rest, .dir entries mode =>
    .dir (entries.map fun e => if e.1 = name then (e.1, onEntries change rest e.2) else e) mode
  | _, node => node

end Node

/-- A directory that all paths lead down from. -/
structure Tree where
  top : Node
  /-- The working directory, where relative paths start. -/
  here : Place
  /-- The home directory of the user. -/
  home : Place

inductive FileError where
  | notFound
  | notADirectory
  | isADirectory
  | tooManyLinks
  | nameTooLong
  /-- The path ends in a name that cannot be given to a file. -/
  | busy
  | alreadyThere
  | denied
  /-- None of the names that were tried for a new file is free. -/
  | noFreeName
  | other (number : Nat) (wording : Text)
  deriving DecidableEq, Repr

namespace FileError

def number : FileError → Nat
  | .notFound => 2
  | .denied => 13
  | .busy => 16
  | .alreadyThere | .noFreeName => 17
  | .notADirectory => 20
  | .isADirectory => 21
  | .nameTooLong => 36
  | .tooManyLinks => 40
  | .other number _ => number

def wording : FileError → Text
  | .notFound => "No such file or directory".toList
  | .denied => "Permission denied".toList
  | .busy => "Device or resource busy".toList
  | .alreadyThere => "File exists".toList
  | .notADirectory => "Not a directory".toList
  | .isADirectory => "Is a directory".toList
  | .nameTooLong => "File name too long".toList
  | .tooManyLinks => "Too many levels of symbolic links".toList
  | .noFreeName => "No usable temporary file name found".toList
  | .other _ wording => wording

/-- The error says no more than that nothing is there. -/
def isAbsence : FileError → Bool
  | .notFound | .notADirectory | .tooManyLinks => true
  | _ => false

end FileError

/-- An error with the paths that it is told about. -/
structure PathError where
  error : FileError
  paths : List Text
  deriving DecidableEq, Repr

def PathError.message (e : PathError) : Text :=
  "[Errno ".toList ++ Text.decimal e.error.number ++ "] ".toList ++ e.error.wording ++
    if e.paths.isEmpty then []
    else ": ".toList ++ Text.joinWith " -> ".toList (e.paths.map Text.quoted)

namespace Tree

/-! ## Permissions -/

def isReadable (mode : Nat) : Bool := mode.testBit 8

def isWritable (mode : Nat) : Bool := mode.testBit 7

/-- Names can be looked up in a directory with these permissions. -/
def isSearchable (mode : Nat) : Bool := mode.testBit 6

/-! ## Where paths lead -/

def node? (t : Tree) (place : Place) : Option Node := t.top.at? place

/-- The place that the parts of a path lead to from `place`; `follow` is what happens at a link,
given where it stands, its goal and the parts behind it. -/
def descend (t : Tree) (follow : Place → Text → List Text → Except FileError Place) (place : Place) :
    List Text → Except FileError Place
  | [] => .ok place
  | part :: rest =>
    match t.node? place with
    | some (.dir entries mode) =>
      -- Nothing between two slashes, or behind the last one, asks for a directory only.
      if part.isEmpty then descend t follow place rest
      else if !isSearchable mode then .error .denied
      else if part = ['.'] then descend t follow place rest
      else if part = ['.', '.'] then descend t follow place.dropLast rest
      else if Path.isTooLong part then .error .nameTooLong
      else
        match Entries.get? entries part with
        | none => .error .notFound
        | some (.link goal) => follow place goal rest
        | some _ => descend t follow (place ++ [part]) rest
    | _ => .error .notADirectory

/-- Where the parts of a path start, as seen from `place`. -/
def startOf (place : Place) (path : Text) : Place := if Path.isAbsolute path then [] else place

/-- The place that parts lead to from `place` through at most `links` links. -/
def resolveFrom (t : Tree) : (links : Nat) → Place → List Text → Except FileError Place
  | 0, place, parts => descend t (fun _ _ _ => .error .tooManyLinks) place parts
  | links + 1, place, parts =>
    descend t (fun from' goal rest =>
      resolveFrom t links (startOf from' goal) (Text.splitAt '/' goal ++ rest)) place parts

def linkLimit : Nat := 40

/-- The place that a path leads to. A slash at its end asks for a directory. -/
def resolve (t : Tree) (path : Text) : Except FileError Place :=
  if path.isEmpty then .error .notFound
  else if Path.isOverlong path then .error .nameTooLong
  else resolveFrom t linkLimit (startOf t.here path) (Text.splitAt '/' path)

def lookUp (t : Tree) (path : Text) : Except FileError Node :=
  match t.resolve path with
  | .error e => .error e
  | .ok place => match t.node? place with
    | some node => .ok node
    | none => .error .notFound

/-- What a path leads to, if it leads to anything. -/
def find? (t : Tree) (path : Text) : Except FileError (Option Node) :=
  match t.lookUp path with
  | .ok node => .ok (some node)
  | .error e => if e.isAbsence then .ok none else .error e

def file (t : Tree) (path : Text) : Except FileError (Bytes × Nat) :=
  match t.lookUp path with
  | .error e => .error e
  | .ok (.file bytes mode) => .ok (bytes, mode)
  | .ok (.dir _ _) => .error .isADirectory
  | .ok (.link _) => .error .tooManyLinks

def directory (t : Tree) (path : Text) : Except FileError (Entries × Nat) :=
  match t.lookUp path with
  | .error e => .error e
  | .ok (.dir entries mode) => .ok (entries, mode)
  | .ok _ => .error .notADirectory

def readFile (t : Tree) (path : Text) : Except FileError Bytes :=
  match t.file path with
  | .ok (bytes, mode) => if isReadable mode then .ok bytes else .error .denied
  | .error e => .error e

def list (t : Tree) (path : Text) : Except FileError Entries :=
  match t.directory path with
  | .ok (entries, mode) => if isReadable mode then .ok entries else .error .denied
  | .error e => .error e

/-- A path leads to a directory. A path with a null character leads nowhere. -/
def isDirectory (t : Tree) (path : Text) : Bool :=
  !path.contains '\x00' && (t.directory path).toOption.isSome

/-! ## Paths of places -/

def pathOf (place : Place) : Text := Path.ofParts ['/'] place

def herePath (t : Tree) : Text := pathOf t.here

end Tree

end SdkGraft

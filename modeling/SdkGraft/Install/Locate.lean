import SdkGraft.Settings.Basic
import SdkGraft.Tree.Walk

/-!
# Finding the file to edit

* `Tree.workspace?`, `Tree.workspaceAt?` : the root as a path, if it is a directory;
* `Tree.isProject` : a project bundle stands directly in the root;
* `Tree.sources` : the files below the root, in the order in which they are looked at;
* `Tree.findFile`, `Tree.findMarked` : the first file of a name, the first that holds a marker;
* `Tree.locate` : the file to edit: the delegate's if there is one anywhere, else a marked one.
-/

namespace SdkGraft

open Source (EntryKind)

/-- A file to edit, and the convention it was found by. -/
structure EntryFile where
  path : Text
  kind : EntryKind
  deriving DecidableEq, Repr

inductive Located where
  | found (file : EntryFile)
  /-- There is neither a file of this name nor one with this marker. -/
  | missing (delegateFile rootMarker : Text)
  deriving DecidableEq, Repr

/-- What is said where nothing has been found. -/
def missingMessage (delegateFile rootMarker : Text) : Text :=
  "Could not find ".toList ++ delegateFile ++ " or an ".toList ++ rootMarker ++ " file".toList

/-- What is said of a directory without a project. -/
def noProjectMessage (root : Text) : Text := "Not an Xcode project: ".toList ++ root

/-- What is said where there is no directory. -/
def noWorkspaceMessage : Text := "No workspace folder is open".toList

namespace Tree

/-- Whether a path leads to a directory, if that can be found out. -/
def asksDirectory (t : Tree) (path : Text) : Except Fault Bool :=
  if path.contains '\x00' then .ok false
  else
    match t.find? path with
    | .ok node => .ok (node.bind Node.entries?).isSome
    | .error e => .error (.unreadable e)

/-- The root as a path, if it names a directory. -/
def workspace? (t : Tree) (root : Option Text) : Except Fault (Option Text) :=
  match root with
  | none => .ok none
  | some r =>
    if Text.isAllBlank r then .ok none
    else (t.asksDirectory (Path.tidy r)).map fun is => if is then some (Path.tidy r) else none

/-- The root as a path, if what was given names a directory; it can be nothing or a text. -/
def workspaceAt? (t : Tree) (root : Value) : Except Fault (Option Text) :=
  match root with
  | .null => .ok none
  | .text r => t.workspace? (some r)
  | _ => .error .mistyped

/-- A project bundle stands directly in the directory; what cannot be listed holds none. -/
def isProject (t : Tree) (s : Settings) (root : Text) : Except Fault Bool :=
  if root.contains '\x00' then .error .nullInPath
  else
    match t.list (Path.tidy root) with
    | .error _ => .ok false
    | .ok entries => .ok (entries.names.any fun name => s.bundleSuffixes.any (Text.endsWith name))

/-- A directory that a walk leaves out. -/
def isLeftOut (spec : Ignore.Spec) (place : Place) : Bool :=
  spec.isIgnored (Text.joinWith ['/'] place ++ ['/'])

/-- The files below the root, as names that lead there from it. -/
def sources (t : Tree) (s : Settings) (root : Text) : Except Fault (List Place) :=
  match s.exclusions with
  | .error f => .error f
  | .ok spec =>
    if root.contains '\x00' then .error .nullInPath
    else .ok (t.walk (isLeftOut spec) (Path.tidy root))

/-- The last name of the place ends so. -/
def namedWith (suffix : Text) (place : Place) : Bool := Text.endsWith (place.getLast?.getD []) suffix

def files (t : Tree) (s : Settings) (root suffix : Text) : Except Fault (List Text) :=
  (t.sources s root).map fun places => (places.filter (namedWith suffix)).map (Path.under root)

def findFile (t : Tree) (s : Settings) (root name : Text) : Except Fault (Option Text) :=
  (t.sources s root).map fun places =>
    (places.find? fun place => place.getLast? == some name).map (Path.under root)

/-- The text of a file as a search sees it: faulty bytes left out, every line ended by a line
feed. -/
def searchText (bytes : Bytes) : Text := Text.foldReturns (Utf8.decodeLossy bytes)

/-- The file at a path can be read and holds the marker. -/
def holds (t : Tree) (marker path : Text) : Bool :=
  match t.readFile path with
  | .ok bytes => Text.occursIn marker (searchText bytes)
  | .error _ => false

/-- The first source file that holds the marker; an empty one stands for that of the settings. -/
def findMarked (t : Tree) (s : Settings) (root marker : Text) : Except Fault (Option Text) := do
  let marker ← if marker.isEmpty then s.rootMarker else .ok marker
  let suffix ← s.sourceSuffix
  return (← t.files s root suffix).find? (t.holds marker)

/-- The file to edit. A file named like the delegate's wins wherever it is. -/
def locate (t : Tree) (s : Settings) (root : Text) : Except Fault Located := do
  let delegateFile ← s.delegateFile
  match ← t.findFile s root delegateFile with
  | some path => return .found ⟨path, .delegateCallback⟩
  | none =>
    let marker ← s.rootMarker
    match ← t.findMarked s root marker with
    | some path => return .found ⟨path, .annotatedRoot⟩
    | none => return .missing delegateFile marker

end Tree

end SdkGraft

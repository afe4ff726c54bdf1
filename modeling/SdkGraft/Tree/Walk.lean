import SdkGraft.Tree.Basic

/-!
# Walking a tree

* `sortByName` : named things in the order of their names;
* `Found` : what a walk finds behind an entry of a directory;
* `Node.filesBelow` : the files below a directory, its own first, then those of its directories;
* `Tree.walk` : the files below the directory a path leads to.
-/

namespace SdkGraft

def insertByName {α : Type} (e : Text × α) : List (Text × α) → List (Text × α)
  | [] => [e]
  | f :: rest => if f.1 < e.1 then f :: insertByName e rest else e :: f :: rest

def sortByName {α : Type} : List (Text × α) → List (Text × α)
  | [] => []
  | e :: rest => insertByName e (sortByName rest)

/-- What a walk finds behind an entry. -/
inductive Found where
  /-- A file, or a link that leads to no directory. -/
  | file
  /-- A directory that is left out, or a link to one. -/
  | passed
  /-- A directory with the files below it. -/
  | below (files : List Place)

/-- The file of an entry at `place`, if it is one. -/
def Found.own (place : Place) : Text × Found → List Place
  | (name, .file) => [place ++ [name]]
  | _ => []

/-- The files below an entry, if it is a directory. -/
def Found.deeper : Text × Found → List Place
  | (_, .below files) => files
  | _ => []

/-- The files of a directory at `place`, then those below its directories, each in the order of
their names. -/
def Found.files (place : Place) (found : List (Text × Found)) : List Place :=
  let sorted := sortByName found
  sorted.flatMap (Found.own place) ++ sorted.flatMap Found.deeper

namespace Node

/-- The files below a node that stands at `place`, counted from where the walk began. Links to
directories are not followed, and directories that are left out are not entered. -/
def filesBelow (leadsToDirectory leftOut : Place → Bool) (place : Place) : Node → List Place
  | .dir entries _ => Found.files place (found entries)
  | _ => []
where
  /-- What the walk finds behind each entry. -/
  found : List (Text × Node) → List (Text × Found)
    | [] => []
    | (name, node) :: rest =>
      (name,
        match node with
        | .file _ _ => .file
        | .link _ => if leadsToDirectory (place ++ [name]) then .passed else .file
        | .dir entries mode =>
          if leftOut (place ++ [name]) then .passed
          else .below (filesBelow leadsToDirectory leftOut (place ++ [name]) (.dir entries mode)))
      :: found rest

end Node

namespace Tree

/-- The place leads to a directory, through links if need be, on the path of a walk that began at
`path`. -/
def leadsToDirectory (t : Tree) (path : Text) (place : Place) : Bool :=
  t.isDirectory (Path.along path place)

/-- A path leads to a directory that can be listed. -/
def canList (t : Tree) (path : Text) : Bool := (t.list path).toOption.isSome

/-- A walk that began at `path` lists each directory by its path. One that cannot be listed is passed over
like those that are left out. -/
def isPassedOver (t : Tree) (leftOut : Place → Bool) (path : Text) (place : Place) : Bool :=
  leftOut place || !t.canList (Path.along path place)

/-- The files below the directory that a path leads to, as names that lead there from it. What cannot
be listed has no files. -/
def walk (t : Tree) (leftOut : Place → Bool) (path : Text) : List Place :=
  match t.list path with
  | .error _ => []
  | .ok entries =>
    Found.files [] (Node.filesBelow.found (t.leadsToDirectory path) (t.isPassedOver leftOut path) [] entries)

end Tree

end SdkGraft

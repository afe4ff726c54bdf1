import SdkGraft.Tree.Write

/-!
# Growing and pruning trees

* `Seed`, `Tree.plant` : a file, a link or a directory put at a path, the directories on the way made
  where they are missing; `Tree.plantNode` : a node with all below it;
* `Tree.uproot` : the node at a path taken away with all below it;
* `Node.leaves`, `Tree.leaves` : the files and links below a node; `Node.isReadable` : the files can
  be read;
* `changedLeaves` : where two trees differ.
-/

namespace SdkGraft

inductive Seed where
  /-- A file; if nothing is said of its permissions it keeps those it had. -/
  | file (bytes : Bytes) (mode : Option Nat)
  | link (goal : Text)
  /-- A directory, to which the same applies. -/
  | dir (mode : Option Nat)

namespace Tree

/-! ## Planting -/

/-- Why no directory can be made of a name that leads to none: what stands there is in the way at the
end of a path, and so is a link that leads nowhere anywhere else. -/
def inTheWay (there : Option Node) (rest : List Text) (e : FileError) : FileError :=
  if there.isSome && (rest.isEmpty || e = .notFound) then .alreadyThere else e

def makeEntry (t : Tree) (place : Place) (name : Text) (node : Node) : Except FileError Tree :=
  match t.node? place with
  | some (.dir _ mode) =>
    if isSearchable mode && isWritable mode then .ok (t.putEntry place name node) else .error .denied
  | _ => .error .notADirectory

def usualDirectoryMode : Nat := 0o755

/-- The directory that names lead to from `place`, made where it is missing. -/
def ensureDirectory (t : Tree) (place : Place) : List Text → Except FileError (Tree × Place)
  | [] => .ok (t, place)
  | name :: rest => do
    let there := t.node? (place ++ [name])
    match resolveFrom t linkLimit place [name] with
    | .ok next =>
      match (t.node? next).bind Node.entries? with
      | some _ => ensureDirectory t next rest
      | none => .error (inTheWay there rest .notADirectory)
    | .error e =>
      if e = .notFound && there.isNone then
        ensureDirectory (← t.makeEntry place name (.dir [] usualDirectoryMode)) (place ++ [name]) rest
      else .error (inTheWay there rest e)

/-- The entry that a file written under a name ends up as: links are followed, at most `links` of
them, also to where nothing is yet. -/
def writtenEntry (t : Tree) : (links : Nat) → Place → Text → Except FileError (Place × Text)
  | 0, _, _ => .error .tooManyLinks
  | links + 1, place, name =>
    match t.node? (place ++ [name]) with
    | some (.link goal) => do
      let parts := Text.splitAt '/' goal
      let parent ← resolveFrom t linkLimit (startOf place goal) parts.dropLast
      match (t.node? parent).bind Node.entries?, parts.getLast? with
      | none, _ => .error .notADirectory
      | some _, none => .error .isADirectory
      | some _, some name =>
        if Path.isIdle name || name = ['.', '.'] then .error .isADirectory
        else writtenEntry t links parent name
    | _ => if Path.isTooLong name then .error .nameTooLong else .ok (place, name)

def usualMode : Nat := 0o644

def plantFile (t : Tree) (place : Place) (name : Text) (bytes : Bytes) (mode : Option Nat) :
    Except FileError Tree := do
  let (place, name) ← t.writtenEntry linkLimit place name
  match t.node? (place ++ [name]) with
  | some (.dir _ _) => .error .isADirectory
  | some (.file _ old) =>
    if isWritable old then .ok (t.putEntry place name (.file bytes (mode.getD old)))
    else .error .denied
  | _ => t.makeEntry place name (.file bytes (mode.getD usualMode))

def plantNew (t : Tree) (place : Place) (name : Text) (node : Node) : Except FileError Tree :=
  if Path.isTooLong name then .error .nameTooLong
  else
    match t.node? (place ++ [name]) with
    | some _ => .error .alreadyThere
    | none => t.makeEntry place name node

def chmod (t : Tree) (place : Place) (mode : Nat) : Tree :=
  match place.getLast?, t.node? place with
  | some name, some (.dir entries _) => t.putEntry place.dropLast name (.dir entries mode)
  | _, _ => t

/-- The tree with a seed at a path that starts at a place. A directory may be there already. -/
def plant (t : Tree) (start : Place) (path : Text) (seed : Seed) : Except FileError Tree := do
  let names := Path.parts path
  match names.getLast?, seed with
  | none, .dir mode => .ok (mode.elim t (t.chmod start))
  | none, .file _ _ => .error .isADirectory
  | none, .link _ => .error .alreadyThere
  | some _, .dir mode =>
    let (t, place) ← t.ensureDirectory start names
    return mode.elim t (t.chmod place)
  | some name, .file bytes mode =>
    let (t, place) ← t.ensureDirectory start names.dropLast
    t.plantFile place name bytes mode
  | some name, .link goal =>
    let (t, place) ← t.ensureDirectory start names.dropLast
    t.plantNew place name (.link goal)

def plantNode (t : Tree) (start : Place) (path : Text) (node : Node) : Except FileError Tree := do
  let names := Path.parts path
  match names.getLast? with
  | none => .ok t
  | some name =>
    let (t, place) ← t.ensureDirectory start names.dropLast
    return t.putEntry place name node

/-- The tree without the node at a path. -/
def uproot (t : Tree) (path : Text) : Except FileError Tree := do
  let (place, name) ← t.entryOf path
  match t.node? (place ++ [name]) with
  | some _ => .ok (t.eraseEntry place name)
  | none => .error (if Path.isTooLong name then .nameTooLong else .notFound)

end Tree

/-! ## Leaves -/

def Node.leaves (place : Place) : Node → List (Place × Node)
  | .dir entries _ => below entries
  | node => [(place, node)]
where
  /-- The files and links below the entries of a directory. -/
  below : List (Text × Node) → List (Place × Node)
    | [] => []
    | (name, node) :: rest => node.leaves (place ++ [name]) ++ below rest

/-- The node is no file, or a file that can be read. -/
def Node.isReadable : Node → Bool
  | .file _ mode => Tree.isReadable mode
  | _ => true

namespace Tree

/-- The node at a place below the working directory is a link to a directory. -/
def isDirectoryLink (t : Tree) (place : Place) : Node → Bool
  | .link _ =>
    match resolveFrom t linkLimit [] (t.here ++ place) with
    | .ok goal => ((t.node? goal).bind Node.entries?).isSome
    | .error _ => false
  | _ => false

/-- The files below the working directory and the links that lead to no directory. -/
def leaves (t : Tree) : List (Place × Node) :=
  match t.node? t.here with
  | some node => (node.leaves []).filter fun e => !t.isDirectoryLink e.1 e.2
  | none => []

/-- The files below the working directory can be read. -/
def isOpen (t : Tree) : Bool := t.leaves.all fun e => e.2.isReadable

end Tree

/-- Two files or links are the same; permissions count if asked. -/
def Node.sameLeaf (countMode : Bool) : Node → Node → Bool
  | .file bytes mode, .file bytes' mode' => bytes == bytes' && (!countMode || mode == mode')
  | .link goal, .link goal' => goal == goal'
  | _, _ => false

def changedLeaves (countMode : Bool) (before after : List (Place × Node)) : List (Place × Option Node) :=
  let gone := before.filter fun e => !after.any fun f => f.1 == e.1
  let fresh := after.filter fun f =>
    !before.any fun e => e.1 == f.1 && Node.sameLeaf countMode e.2 f.2
  gone.map (fun e => (e.1, none)) ++ fresh.map (fun f => (f.1, some f.2))

end SdkGraft

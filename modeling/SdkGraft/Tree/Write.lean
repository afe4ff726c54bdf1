import SdkGraft.Tree.Basic

/-!
# Writing a file in one piece

The new contents go into a spare file beside the old one, which then takes its place. Whatever error
comes in the way, the spare file is taken away again and the tree is as it was.

* `WriteStep`, `SpareLetters`, `Mishaps` : the steps, and what comes to them from outside the tree;
* `Tree.putEntry`, `Tree.eraseEntry` : changing one directory;
* `Tree.absolute`, `Tree.sparePath` : the path of a spare file;
* `Tree.create`, `Tree.finishReplace` : a spare file made, and put in the place of another;
* `Tree.replaceFile` : the file at a path with new contents.
-/

namespace SdkGraft

inductive WriteStep where
  | create
  | fill
  | permit
  | replace
  deriving DecidableEq, Repr

def isSpareLetter (c : Char) : Bool := c.isLower || c.isDigit || c == '_'

/-- The eight letters that make the name of a spare file a new one. -/
structure SpareLetters where
  text : Text
  length_eq : text.length = 8
  plain : text.all isSpareLetter = true
  deriving DecidableEq

/-- What comes to a write from outside the tree. -/
structure Mishaps where
  /-- The steps that fail for reasons the tree does not show, and how. -/
  fails : WriteStep → Option FileError
  /-- The letters that are tried for the spare file, one after the other. -/
  letters : List SpareLetters
  /-- The characters of a text that stand for code units which UTF-8 has no bytes for. -/
  isLone : Char → Bool

/-- Nothing fails that need not fail. -/
def noMishaps : Mishaps where
  fails _ := none
  letters := [⟨"________".toList, rfl, by decide⟩]
  isLone _ := false

namespace Tree

/-- The tree with `node` for `name` in the directory at a place. -/
def putEntry (t : Tree) (place : Place) (name : Text) (node : Node) : Tree :=
  { t with top := t.top.onEntries (fun entries => Entries.put entries name node) place }

/-- The tree without `name` in the directory at a place. -/
def eraseEntry (t : Tree) (place : Place) (name : Text) : Tree :=
  { t with top := t.top.onEntries (fun entries => Entries.erase entries name) place }

/-! ## The spare file -/

/-- A path that starts at the root, every `..` taken back by the names alone. -/
def absolute (t : Tree) (path : Text) : Text :=
  if Path.isAbsolute path then Path.ofParts (Path.rootOf path) (Path.resolveDots (Path.parts path))
  else pathOf (Path.resolveDots (t.here ++ Path.parts path))

/-- The directory where the spare file for a path is put. -/
def spareDirectory (t : Tree) (path : Text) : Text := t.absolute (Path.parent path)

/-- A name like `.name.letters.tmp`. -/
def spareName (name : Text) (letters : SpareLetters) : Text :=
  '.' :: name ++ '.' :: letters.text ++ ".tmp".toList

def sparePath (t : Tree) (path : Text) (letters : SpareLetters) : Text :=
  Path.join (t.spareDirectory path) (spareName (Path.name path) letters)

/-- A file that is to take the place of another: the directory it stands in, its name and its path. -/
structure Spare where
  place : Place
  name : Text
  path : Text

/-- The place of the directory where a file of that name can be made. -/
def roomFor (t : Tree) (directory name : Text) : Except FileError Place :=
  if Path.isOverlong (Path.join directory name) then .error .nameTooLong
  else
    match t.resolve directory with
    | .error e => .error e
    | .ok place =>
      match t.node? place with
      | some (.dir entries mode) =>
        if !isSearchable mode then .error .denied
        else if Path.isTooLong name then .error .nameTooLong
        else if (Entries.get? entries name).isSome then .error .alreadyThere
        else if !isWritable mode then .error .denied
        else .ok place
      | _ => .error .notADirectory

/-- The first of the spare files for a path that can be made. Only one whose name is taken is passed over. -/
def spareFor (t : Tree) (path : Text) : List SpareLetters → Except PathError Spare
  | [] => .error ⟨.noFreeName, []⟩
  | letters :: rest =>
    match t.roomFor (t.spareDirectory path) (spareName (Path.name path) letters) with
    | .ok place => .ok ⟨place, spareName (Path.name path) letters, t.sparePath path letters⟩
    | .error .alreadyThere => spareFor t path rest
    | .error e => .error ⟨e, [t.sparePath path letters]⟩

/-- A step that is told about some paths, unless a mishap comes in its way. -/
def attempt {α : Type} (mishaps : Mishaps) (step : WriteStep) (paths : List Text)
    (done : Except PathError α) : Except PathError α :=
  match mishaps.fails step with
  | some e => .error ⟨e, paths⟩
  | none => done

/-- The spare file for a path, still to be made. -/
def create (t : Tree) (mishaps : Mishaps) (path : Text) : Except PathError Spare :=
  attempt mishaps .create ((mishaps.letters.map (t.sparePath path)).take 1) (t.spareFor path mishaps.letters)

/-- The permissions of a file that nobody else may see. -/
def privateMode : Nat := 0o600

def putSpare (t : Tree) (spare : Spare) (bytes : Bytes) (mode : Nat) : Tree :=
  t.putEntry spare.place spare.name (.file bytes mode)

/-! ## Taking the place of a file -/

def entryOf (t : Tree) (path : Text) : Except FileError (Place × Text) :=
  match t.resolve (Path.parent path) with
  | .error e => .error e
  | .ok place =>
    match t.node? place with
    | some (.dir _ mode) =>
      let name := Path.name path
      if name.isEmpty then .error .busy
      else if !isSearchable mode then .error .denied
      else if name = ['.', '.'] then .error .busy
      else if !isWritable mode then .error .denied
      else .ok (place, name)
    | _ => .error .notADirectory

/-- The tree in which the spare file has become the entry of a path. A directory does not give way to a
file. -/
def rename (t : Tree) (spare : Spare) (bytes : Bytes) (mode : Nat) (path : Text) : Except FileError Tree :=
  match t.entryOf path with
  | .error e => .error e
  | .ok (place, name) =>
    match t.node? (place ++ [name]) with
    | some (.dir _ _) => .error .isADirectory
    | _ => .ok ((t.eraseEntry spare.place spare.name).putEntry place name (.file bytes mode))

def modeAt (t : Tree) (path : Text) : Nat :=
  match t.lookUp path with
  | .ok (.file _ mode) => mode
  | .ok (.dir _ mode) => mode
  | _ => privateMode

/-- The spare file with the permissions of the file it replaces, if there is one. -/
def permitSpare (t : Tree) (mishaps : Mishaps) (spare : Spare) (path : Text) (bytes : Bytes) :
    Except PathError (Tree × Nat) :=
  match t.find? (Path.tidy path) with
  | .error e => .error ⟨e, [Path.tidy path]⟩
  | .ok none => .ok (t, privateMode)
  | .ok (some _) =>
    let mode := t.modeAt (Path.tidy path)
    attempt mishaps .permit [spare.path] (.ok (t.putSpare spare bytes mode, mode))

/-- What follows once the spare file is there: filling it, giving it its permissions, and putting
it in the place of the file at the path. -/
def finishReplace (t : Tree) (mishaps : Mishaps) (spare : Spare) (path : Text) (bytes : Bytes) :
    Except PathError Tree := do
  let filled ← attempt mishaps .fill [] (.ok (t.putSpare spare bytes privateMode))
  let (permitted, mode) ← filled.permitSpare mishaps spare path bytes
  let both := [spare.path, Path.tidy path]
  attempt mishaps .replace both ((permitted.rename spare bytes mode path).mapError fun e => ⟨e, both⟩)

/-- The tree after an attempt to give the file at a path new contents, and how it ended. -/
def replaceFile (t : Tree) (mishaps : Mishaps) (path : Text) (bytes : Bytes) :
    Tree × Except PathError Unit :=
  match t.create mishaps path with
  | .error e => (t, .error e)
  | .ok spare =>
    let created := t.putSpare spare [] privateMode
    match created.finishReplace mishaps spare path bytes with
    | .ok done => (done, .ok ())
    | .error e => (created.eraseEntry spare.place spare.name, .error e)

end Tree

end SdkGraft

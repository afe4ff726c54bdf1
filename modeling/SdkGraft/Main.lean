import SdkGraft.CommandLine.Run
import SdkGraft.Tree.Plant

/-!
# The program

Reads the directories that a command line is about into a tree, carries the command line out on it,
writes back the files that have changed, and prints what there is to print.
-/

namespace SdkGraft.Main

/-- The entries of a directory. What cannot be read, and links that lead nowhere, are passed over. -/
partial def readDirectory (path : String) : IO Entries := do
  let found ← (← IO.FS.realPath path).readDir
  found.toList.filterMapM fun e => do
    try
      match (← e.path.symlinkMetadata).type with
      | .dir => return some (e.fileName.toList, .dir (← readDirectory e.path.toString) Tree.usualDirectoryMode)
      | .file => return some (e.fileName.toList, .file (← IO.FS.readBinFile e.path).toList Tree.usualMode)
      | .symlink => return some (e.fileName.toList, .link (← IO.FS.realPath e.path).toString.toList)
      | .other => return none
    catch _ => return none

def goals (node : Node) : List String :=
  (node.leaves []).filterMap fun e =>
    match e.2 with
    | .link goal => some (String.ofList goal)
    | _ => none

def readNode (path : String) : IO Node := do
  let real ← IO.FS.realPath path
  match (← real.metadata).type with
  | .dir => return .dir (← readDirectory real.toString) Tree.usualDirectoryMode
  | _ => return .file (← IO.FS.readBinFile real).toList Tree.usualMode

def isCovered (done : List String) (path : String) : Bool :=
  done.any fun d => d == path || (d ++ "/").isPrefixOf path

/-- The tree with what is at the paths, and where links below them lead. -/
partial def grow (t : Tree) (done : List String) : List String → IO Tree
  | [] => return t
  | path :: rest => do
    try
      let real := (← IO.FS.realPath path).toString
      if isCovered done real then grow t done rest
      else
        let node ← readNode real
        grow ((t.plantNode [] real.toList node).toOption.getD t) (real :: done) (goals node ++ rest)
    catch _ => grow t done rest

def growConfiguration (t : Tree) : List Text → IO Tree
  | [] => return t
  | path :: rest => do
    let start := if Path.isAbsolute path then [] else t.here
    try
      let node ← readNode (String.ofList path)
      growConfiguration ((t.plantNode start path node).toOption.getD t) rest
    catch _ => growConfiguration t rest

def placeOf (path : String) : Place := Path.parts path.toList

def readTree (around : Surroundings) (args : List String) : IO Tree := do
  let here := (← IO.currentDir).toString
  let home := (← IO.getEnv "HOME").getD "/"
  let bare : Tree := ⟨.dir [] Tree.usualDirectoryMode, placeOf here, placeOf home⟩
  let t ← grow bare [] (here :: args)
  growConfiguration t (t.configPaths around)

def writeLeaf (place : Place) : Option Node → IO Unit
  | some (.file bytes _) => do
    let path := String.ofList (Tree.pathOf place)
    if (← IO.FS.realPath path).toString != path then IO.FS.removeFile path
    IO.FS.writeBinFile path ⟨bytes.toArray⟩
  | _ => return ()

def run (args : List String) : IO UInt32 := do
  let configPath := (← IO.getEnv "PLENGI_CONFIG").getD ""
  let humanMode := (← IO.getEnv "PLENGI_HUMAN_MODE").getD ""
  let around : Surroundings := ⟨configPath.toList, humanMode.toList, .plenty⟩
  let before ← readTree around args
  let (after, ending) := before.runCommand noMishaps around (args.map String.toList)
  for (place, node) in changedLeaves false (before.top.leaves []) (after.top.leaves []) do
    writeLeaf place node
  IO.print (String.ofList ending.printed)
  return UInt32.ofNat ending.exit

end SdkGraft.Main

def main (args : List String) : IO UInt32 := SdkGraft.Main.run args

import SdkGraft.Install.Locate
import SdkGraft.Install.Mutation

/-!
# Looking without editing

* `Detection` : what an installation would find;
* `Tree.detect` : the same places looked at in the same order, nothing edited.
-/

namespace SdkGraft

open Source (EntryKind)

/-- What an installation would find. -/
structure Detection where
  /-- The root as it was given; empty if none was. -/
  root : Text
  /-- The root is a directory, -/
  workspace : Bool
  /-- and a project stands in it. -/
  project : Bool
  file : Option EntryFile
  /-- The number of the line that the initialization would follow, counted from one. -/
  anchorLine : Option Int
  hasConstructor : Bool
  /-- The file calls the library already. -/
  installed : Bool
  deriving DecidableEq, Repr

def Detection.blank (root : Option Text) : Detection :=
  ⟨root.getD [], false, false, none, none, false, false⟩

namespace Tree

def detectIn (t : Tree) (s : Settings) (found : Detection) (file : EntryFile) :
    Except Fault Detection := do
  let e ← s.editor
  let d ← t.readDocument file.path
  let target := Source.classify e.patterns (some file.kind) d.lines
  return { found with
    file := some file
    installed := Source.isInstalled e.plan.sdk d
    anchorLine := target.map fun target => target.anchor + 1
    hasConstructor := (target.map (·.hasConstructor)).getD false }

def detect (t : Tree) (s : Settings) (root : Option Text) : Except Fault Detection := do
  let found := Detection.blank root
  match ← t.workspace? root with
  | none => return found
  | some path =>
    let found := { found with workspace := true }
    if ← t.isProject s path then
      let found := { found with project := true }
      match ← t.locate s path with
      | .missing _ _ => return found
      | .found file => t.detectIn s found file
    else return found

end Tree

end SdkGraft

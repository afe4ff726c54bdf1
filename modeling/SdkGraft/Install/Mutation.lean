import SdkGraft.Settings.Basic
import SdkGraft.Tree.Write
import SdkGraft.Patch.Unified

/-!
# Editing one file

* `Tree.readDocument`, `Tree.writeDocument` : documents of a tree, with what can go wrong;
* `Mutation` : what an edit of one file has come to;
* `Tree.inspect` : the target in a file;
* `Tree.edit` : the edit of a file worked out, nothing written;
* `Tree.mutate` : a file edited, and written unless it is only asked for.
-/

namespace SdkGraft

open Source (Document EntryKind Target Plan EntryPatterns Edit)

namespace Tree

def readDocument (t : Tree) (path : Text) : Except Fault Document :=
  if path.contains '\x00' then .error .nullInPath
  else
    match t.readFile path with
    | .error e => .error (.document ⟨.read, path, .file ⟨e, [path]⟩⟩)
    | .ok bytes =>
      match Utf8.decode bytes with
      | .error f => .error (.document ⟨.read, path, .undecodable f⟩)
      | .ok text => .ok (.ofText path text)

/-- The tree after an attempt to write a text that cannot be encoded: the spare file is there before that is
found out, and it is left there. -/
def abandonText (t : Tree) (mishaps : Mishaps) (path : Text) : Tree × Except Fault Unit :=
  match t.create mishaps path with
  | .error e => (t, .error (.document ⟨.write, path, .file e⟩))
  | .ok spare => (t.putSpare spare [] privateMode, .error .unencodable)

def writeText (t : Tree) (mishaps : Mishaps) (path text : Text) : Tree × Except Fault Unit :=
  if path.contains '\x00' then (t, .error .nullInPath)
  else if text.any mishaps.isLone then t.abandonText mishaps path
  else
    let done := t.replaceFile mishaps path (Utf8.encode text)
    (done.1, done.2.mapError fun e => .document ⟨.write, path, .file e⟩)

def writeDocument (t : Tree) (mishaps : Mishaps) (preserveEndings : Bool) (d : Document) :
    Tree × Except Fault Unit :=
  t.writeText mishaps d.path (d.render preserveEndings)

end Tree

/-- The unified diff between a document as it was read and as it would be written. -/
def Source.Document.diff (d : Document) (preserveEndings : Bool) : Text :=
  Patch.unified d.path d.asRead (d.render preserveEndings)

/-- What an edit of one file has come to. -/
structure Mutation where
  outcome : Source.Outcome
  path : Text
  target : Option Target
  /-- The number of the line that the initialization follows, counted from one. -/
  anchorLine : Option Nat
  importAdded : Bool
  linesAdded : Nat
  written : Bool
  diff : Option Text
  deriving DecidableEq, Repr

/-- What edits of files go by. -/
structure Editor where
  plan : Plan
  patterns : EntryPatterns

def Settings.editor (s : Settings) : Except Fault Editor := do
  let plan ← s.plan
  let patterns ← s.patterns
  return ⟨plan, patterns⟩

def Source.graftInto (plan : Plan) (d : Document) (target : Option Target) (c : Credentials) :
    Except Fault (Document × Edit) :=
  (graft plan d target c).mapError fun
    | .indentNotText => .mistyped
    | .unwritable => (plan.fault?.getD .tooManyDigits).fault

namespace Editor

/-- The target in a document; there is none to look for where the library is called already. -/
def target? (e : Editor) (kind : Option EntryKind) (d : Document) : Option Target :=
  if Source.isInstalled e.plan.sdk d then none else Source.classify e.patterns kind d.lines

/-- The edit of a document as a mutation of its file that is not written yet. -/
def mutation (e : Editor) (target : Option Target) (d : Document) (edit : Edit) : Mutation where
  outcome := edit.outcome
  path := d.path
  target := target
  anchorLine := edit.anchorIndex.map (· + 1)
  importAdded := edit.importIndex.isSome
  linesAdded := edit.linesAdded
  written := false
  diff := if edit.outcome = .inserted then some (d.diff e.plan.preserveEndings) else none

def edit (e : Editor) (kind : Option EntryKind) (d : Document) (c : Credentials) :
    Except Fault (Document × Mutation) :=
  let target := e.target? kind d
  (Source.graftInto e.plan d target c).map fun (d, edit) => (d, e.mutation target d edit)

end Editor

namespace Tree

def inspect (t : Tree) (e : Editor) (path : Text) (kind : Option EntryKind) :
    Except Fault (Option Target) :=
  (t.readDocument path).map fun d => Source.classify e.patterns kind d.lines

def edit (t : Tree) (e : Editor) (path : Text) (kind : Option EntryKind) (c : Credentials) :
    Except Fault (Document × Mutation) :=
  match t.readDocument path with
  | .error f => .error f
  | .ok d => e.edit kind d c

/-- The tree with the file at a path edited, and what the edit has come to. Nothing is written
unless something was inserted, nor in a dry run. -/
def mutate (t : Tree) (mishaps : Mishaps) (e : Editor) (path : Text) (kind : Option EntryKind)
    (c : Credentials) (dryRun : Bool) : Tree × Except Fault Mutation :=
  match t.edit e path kind c with
  | .error f => (t, .error f)
  | .ok (d, m) =>
    if m.outcome = .inserted ∧ dryRun = false then
      match t.writeDocument mishaps e.plan.preserveEndings d with
      | (t, .ok ()) => (t, .ok { m with written := true })
      | (t, .error f) => (t, .error f)
    else (t, .ok m)

end Tree

end SdkGraft

import SdkGraft.Source.Anchor
import SdkGraft.Source.Snippet
import SdkGraft.Source.Document
import SdkGraft.Value.Display

/-!
# Grafting the initialization into a document

* `Plan` : what is inserted and how;
* `isInstalled` : the document calls the library already;
* `graft` : the import and the initialization put into a document at a target;
* `Edit` : what has been done, told by indices into the new lines.
-/

namespace SdkGraft.Source

/-- What is inserted and how. -/
structure Plan where
  sdk : Sdk
  /-- What keeps a name of the library from being written into code. -/
  fault? : Option Value.ShowFault
  preserveEndings : Bool
  /-- The unit of indentation where the document shows none, if it is a text. -/
  defaultIndent : Option Text
  deriving DecidableEq, Repr

def Plan.isWritable (p : Plan) : Bool := p.fault?.isNone

inductive Outcome where
  | inserted
  | alreadyPresent
  | noAnchor
  deriving DecidableEq, Repr

def Outcome.name : Outcome → Text
  | .inserted => "inserted".toList
  | .alreadyPresent => "already-present".toList
  | .noAnchor => "no-anchor".toList

structure Edit where
  outcome : Outcome
  /-- Where the new import stands, if one was needed. -/
  importIndex : Option Nat
  /-- The line that the initialization follows. -/
  anchorIndex : Option Nat
  linesAdded : Nat
  deriving DecidableEq, Repr

def Edit.nothing (outcome : Outcome) : Edit := ⟨outcome, none, none, 0⟩

/-- Why a graft cannot be worked out. -/
inductive GraftFault where
  /-- The unit of indentation of a document is unknown and the default is no text. -/
  | indentNotText
  /-- A name of the library cannot be written into code. -/
  | unwritable
  deriving DecidableEq, Repr

def isInstalled (sdk : Sdk) (d : Document) : Bool := Text.occursIn sdk.initCall d.text

/-- The index of the line after which the initialization goes, if it is inside the document. -/
def anchorIn? (lines : List Text) (target : Option Target) : Option Nat :=
  match target with
  | none => none
  | some t => if 0 ≤ t.anchor ∧ t.anchor < lines.length then some t.anchor.toNat else none

def needsConstructor (t : Target) : Bool := t.kind == .annotatedRoot && !t.hasConstructor

def insertLines (sdk : Sdk) (lines : List Text) (anchor : Nat) (code : List Text) : List Text × Edit :=
  match insertImport? sdk.moduleName lines with
  | none =>
    (lines.take (anchor + 1) ++ code ++ lines.drop (anchor + 1),
      ⟨.inserted, none, some anchor, code.length⟩)
  | some (index, withImport) =>
    let anchor := if index ≤ anchor then anchor + 1 else anchor
    (withImport.take (anchor + 1) ++ code ++ withImport.drop (anchor + 1),
      ⟨.inserted, some index, some anchor, code.length + 1⟩)

/-- The document with the initialization in it, and what has been done. A document that calls the
library already, and one without a place for the call, stay as they are. -/
def graft (plan : Plan) (d : Document) (target : Option Target) (c : Credentials) :
    Except GraftFault (Document × Edit) :=
  if isInstalled plan.sdk d then .ok (d, .nothing .alreadyPresent)
  else
    match target, anchorIn? d.lines target with
    | some t, some anchor =>
      match (detectUnit d.lines).or plan.defaultIndent with
      | none => .error .indentNotText
      | some unit =>
        if plan.isWritable then
          let base := Text.leading (d.lines.getD anchor []) ++ unit
          let code := snippet plan.sdk c base unit (needsConstructor t)
          let done := insertLines plan.sdk d.lines anchor code
          .ok (⟨d.path, done.1, d.ending, d.hasMark, d.asRead⟩, done.2)
        else .error .unwritable
    | _, _ => .ok (d, .nothing .noAnchor)

end SdkGraft.Source

import SdkGraft.Patch.Script

/-!
# Hunks

A script cut into hunks: its changes with a few unchanged rows around them.

* `Row` : a row of a hunk; `Hunk` : its rows and where they begin in the two lists;
* `hunks` : the hunks of a script, changes closer than twice the context in one hunk;
* `Hunk.old`, `Hunk.new` : the rows of the two lists that a hunk covers.
-/

namespace SdkGraft.Patch

variable {α : Type}

inductive Row (α : Type) where
  | context (row : α)
  | removed (row : α)
  | added (row : α)
  deriving DecidableEq, Repr

/-- A part of a script that holds changes. -/
structure Hunk (α : Type) where
  /-- How many rows of the old list stand before the hunk. -/
  oldStart : Nat
  /-- How many rows of the new list stand before the hunk. -/
  newStart : Nat
  rows : List (Row α)
  deriving DecidableEq, Repr

/-- The row of the old list, if it is one. -/
def Row.old? : Row α → Option α
  | .context row => some row
  | .removed row => some row
  | .added _ => none

/-- The row of the new list, if it is one. -/
def Row.new? : Row α → Option α
  | .context row => some row
  | .removed _ => none
  | .added row => some row

def Hunk.old (h : Hunk α) : List α := h.rows.filterMap Row.old?

def Hunk.new (h : Hunk α) : List α := h.rows.filterMap Row.new?

def Hunk.append (h : Hunk α) (rows : List (Row α)) : Hunk α := { h with rows := h.rows ++ rows }

/-- The rows of a change: what goes, then what comes. -/
def changeRows (removed added : List α) : List (Row α) :=
  removed.map Row.removed ++ added.map Row.added

/-- How many unchanged rows are shown around a change. -/
def contextSize : Nat := 3

/-- The hunks of a script whose first step stands at `old` and `new`. An open hunk holds a change
already; between hunks, unchanged rows open the next one with the last of them. -/
def hunksFrom (old new : Nat) : (opened : Option (Hunk α)) → List (Step α) → List (Hunk α)
  | opened, [] => opened.toList
  | opened, [.keep rows] =>
    (opened.map (·.append ((rows.take contextSize).map Row.context))).toList
  | opened, .keep rows :: rest =>
    let skipped := rows.length - contextSize
    let fresh : Hunk α := ⟨old + skipped, new + skipped, (rows.drop skipped).map Row.context⟩
    match opened with
    | none => hunksFrom (old + rows.length) (new + rows.length) (some fresh) rest
    | some h =>
      if 2 * contextSize < rows.length then
        h.append ((rows.take contextSize).map Row.context)
          :: hunksFrom (old + rows.length) (new + rows.length) (some fresh) rest
      else
        hunksFrom (old + rows.length) (new + rows.length)
          (some (h.append (rows.map Row.context))) rest
  | opened, .change removed added :: rest =>
    let h := opened.getD ⟨old, new, []⟩
    hunksFrom (old + removed.length) (new + added.length)
      (some (h.append (changeRows removed added))) rest

def hunks (script : List (Step α)) : List (Hunk α) := hunksFrom 0 0 none script

end SdkGraft.Patch

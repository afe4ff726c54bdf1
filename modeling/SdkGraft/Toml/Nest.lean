import SdkGraft.Value.Basic

/-!
# Tables within tables

* `Key` : the names that lead to a value; `onNest` : changing the table that a key leads to;
* `Marks` : which tables have been declared and which are closed to additions.
-/

namespace SdkGraft.Toml

abbrev Key := List Text

/-- The table with the table that a key leads to changed; missing tables are made. A list of tables
stands for its last one, if `throughLists`. -/
def onNest (throughLists : Bool) (change : Table → Option Table) : Key → Table → Option Table
  | [], t => change t
  | k :: rest, t =>
    match t.get? k with
    | none => (onNest throughLists change rest []).map fun sub => t.put k (.table sub)
    | some (.table sub) => (onNest throughLists change rest sub).map fun sub => t.put k (.table sub)
    | some (.list items) =>
      match throughLists, items.getLast? with
      | true, some (.table sub) =>
        (onNest throughLists change rest sub).map fun sub =>
          t.put k (.list (items.dropLast ++ [.table sub]))
      | _, _ => none
    | some _ => none

/-- The table with a new name in it; a known one is refused. -/
def addNew (name : Text) (v : Value) (t : Table) : Option Table :=
  match t.get? name with
  | none => some (t.put name v)
  | some _ => none

def addToList (name : Text) (t : Table) : Option Table :=
  match t.get? name with
  | none => some (t.put name (.list [.table []]))
  | some (.list items) => some (t.put name (.list (items ++ [.table []])))
  | some _ => none

/-- Which tables have been declared and which are closed to additions. -/
structure Marks where
  /-- Tables that a header or dotted names have made and that no header may make again. -/
  declared : List Key
  /-- Tables and lists written in one piece, closed with all below them. -/
  closed : List Key
  /-- Tables made by dotted names since the last header. -/
  pending : List Key

namespace Marks

def none : Marks := ⟨[], [], []⟩

def isDeclared (m : Marks) (key : Key) : Bool := m.declared.contains key

/-- The place or one above it is closed. -/
def isClosed (m : Marks) (key : Key) : Bool := m.closed.any (·.isPrefixOf key)

def declare (m : Marks) (key : Key) : Marks := { m with declared := key :: m.declared }

def close (m : Marks) (key : Key) : Marks := { m with closed := key :: m.closed }

/-- The table is declared from the next header on. -/
def declareLater (m : Marks) (key : Key) : Marks := { m with pending := key :: m.pending }

/-- What was to be declared at the next header is declared. -/
def atHeader (m : Marks) : Marks := ⟨m.pending ++ m.declared, m.closed, []⟩

/-- The place and all below it are as if never seen: a list has got a new table. -/
def forget (m : Marks) (key : Key) : Marks :=
  { m with
    declared := m.declared.filter fun k => !key.isPrefixOf k
    closed := m.closed.filter fun k => !key.isPrefixOf k }

end Marks

end SdkGraft.Toml

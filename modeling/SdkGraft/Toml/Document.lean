import SdkGraft.Toml.Value

/-!
# Configuration files

* `Sheet` : what has been read of a file: its tables, and where assignments go;
* `header`, `assignment` : the two kinds of statement;
* `parse` : a whole file as a table, or why it is refused.
-/

namespace SdkGraft.Toml

/-- What has been read of a file. -/
structure Sheet where
  tables : Table
  marks : Marks
  /-- The table that assignments go to. -/
  current : Key

def Sheet.blank : Sheet := ⟨[], .none, []⟩

def tableHeader (s : Sheet) : Reader Sheet := fun t => do
  let (k, rest) ← key (dropSpaces t)
  if s.marks.isDeclared k || s.marks.isClosed k then none
  else
    let tables ← onNest true some k s.tables
    let rest ← expect [']'] rest
    return (⟨tables, s.marks.declare k, k⟩, rest)

/-- A header that puts one more table into a list, its brackets read. -/
def listHeader (s : Sheet) : Reader Sheet := fun t => do
  let (k, rest) ← key (dropSpaces t)
  if s.marks.isClosed k then none
  else
    let (parent, stem) := splitKey k
    let tables ← onNest true (addToList stem) parent s.tables
    let rest ← expect [']', ']'] rest
    return (⟨tables, (s.marks.forget k).declare k, k⟩, rest)

def header (s : Sheet) : Reader Sheet := fun t =>
  let s := { s with marks := s.marks.atHeader }
  match t with
  | '[' :: r => listHeader s r
  | r => tableHeader s r

/-- The tables between the current one and the value of a dotted key, outermost first. -/
def between (current k : Key) : List Key :=
  (List.range (k.length - 1)).map fun i => current ++ k.take (i + 1)

/-- An assignment of a value that weighs at most `room`. -/
def assignment (room : Nat) (s : Sheet) : ValueReader Sheet := fun t => do
  let (k, rest) ← judged (assigned t)
  let (v, rest) ← value room rest
  let way := between s.current k
  let (parent, stem) := splitKey k
  if way.any s.marks.isDeclared || s.marks.isClosed (s.current ++ parent) then .error .malformed
  else
    let tables ← judged (onNest true (addNew stem v) (s.current ++ parent) s.tables)
    let marks := way.foldl Marks.declareLater s.marks
    let marks := if isCompound v then marks.close (s.current ++ k) else marks
    return (⟨tables, marks, s.current⟩, rest)

/-- One statement, with the spaces behind it; there may be none on the line. -/
def statement (room : Nat) (s : Sheet) : ValueReader Sheet := fun t =>
  let read :=
    match t with
    | '[' :: r => judged (header s r)
    | c :: _ => if isBare c || c == '"' || c == '\'' then assignment room s t else .ok (s, t)
    | [] => .ok (s, t)
  read.map fun e => (e.1, dropSpaces e.2)

/-- The lines of a file after those read so far, at most `n`. -/
def statementsIn (room : Nat) : (n : Nat) → Sheet → Text → Judged Sheet
  | 0, _, _ => .error .malformed
  | n + 1, s, t => do
    let (s, rest) ← statement room s (dropSpaces t)
    match ← judged (dropComment? rest) with
    | [] => return s
    | '\n' :: r => statementsIn room n s r
    | _ => .error .malformed

/-- The table that a file writes, if none of its values weighs more than `room`. -/
def parse (room : Nat) (t : Text) : Judged Table :=
  let t := Text.foldCrlf t
  (statementsIn room (t.length + 1) .blank t).map Sheet.tables

end SdkGraft.Toml

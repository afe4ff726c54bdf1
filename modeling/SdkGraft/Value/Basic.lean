import SdkGraft.Number.Shortest
import SdkGraft.Value.Moment

/-!
# Configuration values

* `Value` : what a configuration file or a caller can give for a setting, of any shape;
* `Table` : named values in the order in which their names first came;
* `Table.get?`, `Table.put` : looking up and setting one name (`get?_put_self`, `get?_put_of_ne`);
* `Value.isSet` : false, zero and everything empty count as not set;
* `Value.flag?` : the truth value that a value stands for;
* `Value.depth` : how many values stand in one another;
* `Stack` : how many may, before the stack of the interpreter ends;
* `Table.overlay` : one table laid over another, subtables merged name by name.
-/

namespace SdkGraft

inductive Value where
  | null
  | bool (b : Bool)
  | int (i : Int)
  | real (x : Float)
  | moment (m : Moment)
  | text (t : Text)
  | list (items : List Value)
  | table (fields : List (Text × Value))

abbrev Table := List (Text × Value)

instance : Inhabited Value := ⟨.null⟩

/-- How many values may stand in one another before the interpreter's stack ends. How much of it is left
depends on who calls. -/
structure Stack where
  /-- What a value of a configuration file may weigh together with those it stands in. -/
  reading : Nat
  /-- How deep a table may be that is copied. -/
  copying : Nat
  /-- How deep a value may be that is written as a text. -/
  showing : Nat
  deriving DecidableEq, Repr

def Stack.plenty : Stack := ⟨900, 400, 900⟩

namespace Table

/-- The value of `key`, if the table has one. -/
def get? : Table → Text → Option Value
  | [], _ => none
  | (k, v) :: rest, key => if k = key then some v else get? rest key

/-- The table with `value` for `key`: a new name goes to the end, a known one keeps its place. -/
def put : Table → Text → Value → Table
  | [], key, value => [(key, value)]
  | (k, v) :: rest, key, value => if k = key then (k, value) :: rest else (k, v) :: put rest key value

theorem get?_put_self (t : Table) (key : Text) (value : Value) :
    (put t key value).get? key = some value := by
  induction t with
  | nil => simp [put, get?]
  | cons e rest ih =>
    obtain ⟨k, v⟩ := e
    by_cases h : k = key
    · simp [put, get?, h]
    · simp [put, get?, h, ih]

theorem get?_put_of_ne (t : Table) {key other : Text} (value : Value) (hne : other ≠ key) :
    (put t key value).get? other = t.get? other := by
  induction t with
  | nil => simp [put, get?, Ne.symm hne]
  | cons e rest ih =>
    obtain ⟨k, v⟩ := e
    by_cases h : k = key
    · subst h; simp [put, get?, Ne.symm hne]
    · by_cases ho : k = other
      · subst ho; simp [put, get?, h]
      · simp [put, get?, h, ho, ih]

end Table

namespace Value

def text? : Value → Option Text
  | .text t => some t
  | _ => none

def table? : Value → Option Table
  | .table fields => some fields
  | _ => none

def list? : Value → Option (List Value)
  | .list items => some items
  | _ => none

/-- How many digits a whole number in a message can have. -/
def mostDigits : Nat := 4300

/-- The value counts as given: it is neither absent nor false, zero or empty. -/
def isSet : Value → Bool
  | .null => false
  | .bool b => b
  | .int i => i != 0
  | .real x => x != 0.0
  | .moment _ => true
  | .text t => !t.isEmpty
  | .list items => !items.isEmpty
  | .table fields => !fields.isEmpty

def yesWords : List Text := ["1", "t", "y", "on", "yes", "true"].map String.toList

def noWords : List Text := ["0", "f", "n", "no", "off", "false"].map String.toList

/-- The truth value that a value stands for: itself, zero or one, or a word in small or capital
letters; `none` for anything else. -/
def flag? : Value → Option Bool
  | .bool b => some b
  | .int i => if i = 0 then some false else if i = 1 then some true else none
  | .text t =>
    let word := t.map Char.toLower
    if yesWords.contains word then some true
    else if noWords.contains word then some false
    else none
  | _ => none

mutual

/-- How many values stand in one another, the innermost one counted. -/
def depth : Value → Nat
  | .list items => itemsDepth items + 1
  | .table fields => fieldsDepth fields + 1
  | _ => 1

def itemsDepth : List Value → Nat
  | [] => 0
  | v :: rest => max v.depth (itemsDepth rest)

def fieldsDepth : List (Text × Value) → Nat
  | [] => 0
  | (_, v) :: rest => max v.depth (fieldsDepth rest)

end

theorem depth_pos (v : Value) : 0 < v.depth := by
  cases v <;> simp [depth]

/-! ## Laying one value over another -/

/-- A value laid over an older one: two tables are merged, anything else replaces. -/
def overlayOn (old : Option Value) : Value → Value
  | .table fields =>
    match old with
    | some (.table base) => .table (overlayFields base fields)
    | _ => .table fields
  | v => v
where
  /-- The fields of a table laid over `base` one after the other. -/
  overlayFields (base : List (Text × Value)) : List (Text × Value) → List (Text × Value)
    | [] => base
    | (key, v) :: rest =>
      overlayFields (Table.put base key (overlayOn (Table.get? base key) v)) rest

end Value

/-- `override` laid over `base`, subtables merged name by name. -/
def Table.overlay (base override : Table) : Table :=
  Value.overlayOn.overlayFields base override

end SdkGraft

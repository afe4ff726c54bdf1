import SdkGraft.Value.Basic
import SdkGraft.Text.Quoted

/-!
# Values in messages

* `Value.display` : a value as messages and inserted code show it: a text as it is, inside lists
  and tables between quotation marks;
* `Value.showFault?` : what keeps a value from being shown: a whole number with too many digits, or too many
  values in one another.
-/

namespace SdkGraft.Value

/-- A truth value as messages show it. -/
def displayBool (b : Bool) : Text := if b then "True".toList else "False".toList

/-- A value inside a list or a table, where texts are quoted. -/
def displayInside : Value → Text
  | .null => "None".toList
  | .bool b => displayBool b
  | .int i => Text.decimalInt i
  | .real x => Number.written x
  | .moment m => m.inside
  | .text t => Text.quoted t
  | .list items => '[' :: displayItems items ++ [']']
  | .table fields => '\x7b' :: displayFields fields ++ ['\x7d']
where
  /-- The items with commas between them. -/
  displayItems : List Value → Text
    | [] => []
    | [v] => v.displayInside
    | v :: w :: rest => v.displayInside ++ ", ".toList ++ displayItems (w :: rest)
  /-- The named values with commas between them. -/
  displayFields : List (Text × Value) → Text
    | [] => []
    | [(k, v)] => Text.quoted k ++ ": ".toList ++ v.displayInside
    | (k, v) :: e :: rest =>
      Text.quoted k ++ ": ".toList ++ v.displayInside ++ ", ".toList ++ displayFields (e :: rest)

/-- A value as messages show it: a text stands for itself, a moment without the names of its parts. -/
def display : Value → Text
  | .text t => t
  | .moment m => m.text
  | v => v.displayInside

inductive ShowFault where
  /-- A whole number has too many digits. -/
  | tooManyDigits
  /-- Values stand in too many others. -/
  | tooDeep
  deriving DecidableEq, Repr

/-- What comes first of all that keeps a value from being written inside others, `room` of them. -/
def insideFault? : (room : Nat) → Value → Option ShowFault
  | 0, _ => some .tooDeep
  | room + 1, v =>
    match v with
    | .int i => if i.natAbs < 10 ^ mostDigits then none else some .tooManyDigits
    | .list items => items.findSome? (insideFault? room)
    | .table fields => fields.findSome? fun e => insideFault? room e.2
    | _ => none

/-- What comes first of all that keeps a value from being shown; a text stands for itself. -/
def showFault? (room : Nat) : Value → Option ShowFault
  | .text _ => none
  | v => insideFault? room v

end SdkGraft.Value

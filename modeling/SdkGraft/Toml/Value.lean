import SdkGraft.Toml.Quote
import SdkGraft.Toml.Number
import SdkGraft.Toml.Nest

/-!
# Reading configuration files: keys and values

* `key` : names with dots between them;
* `value` : a value of any kind; lists and tables in one piece hold further values, and the more
  they weigh the sooner there are too many of them.
-/

namespace SdkGraft.Toml

/-- A character of a name without quotes. -/
def isBare (c : Char) : Bool := c.isAlphanum || c == '-' || c == '_'

def name : Reader Text := fun t =>
  let bare := t.takeWhile isBare
  if bare.isEmpty then lineString t else some (bare, t.dropWhile isBare)

/-- Names with dots between them, at most `n`, and the spaces behind them. -/
def keyIn : (n : Nat) → Reader Key
  | 0, _ => none
  | n + 1, t =>
    (name t).bind fun e =>
      match dropSpaces e.2 with
      | '.' :: r => (keyIn n (dropSpaces r)).map fun f => (e.1 :: f.1, f.2)
      | rest => some ([e.1], rest)

def key : Reader Key := fun t => keyIn (t.length + 1) t

def assigned : Reader Key := fun t =>
  (key t).bind fun e => (expect ['='] e.2).map fun r => (e.1, dropSpaces r)

def splitKey (k : Key) : Key × Text := (k.dropLast, k.getLast?.getD [])

/-- A value is written in one piece of several values. -/
def isCompound : Value → Bool
  | .list _ => true
  | .table _ => true
  | _ => false

/-- The table in one piece with one more assignment, and what is closed in it. -/
def addInline (closed : List Key) (t : Table) (k : Key) (v : Value) : Option (List Key × Table) :=
  if closed.any (·.isPrefixOf k) then none
  else
    let (parent, stem) := splitKey k
    (onNest false (addNew stem v) parent t).map fun t =>
      (if isCompound v then k :: closed else closed, t)

/-- A value that is neither a list nor a table. -/
def simple : ValueReader Value := fun t =>
  match t with
  | '"' :: _ => judged ((string t).map fun e => (.text e.1, e.2))
  | '\'' :: _ => judged ((string t).map fun e => (.text e.1, e.2))
  | _ =>
    match expect "true".toList t, expect "false".toList t, moment t with
    | some r, _, _ => .ok (.bool true, r)
    | _, some r, _ => .ok (.bool false, r)
    | _, _, some m => judged m
    | _, _, none => number t

def listWeight : Nat := 2

def tableWeight : Nat := 3

mutual

/-- A value that weighs at most `room`, with at most `n` steps of reading. -/
def valueIn : (n room : Nat) → ValueReader Value
  | 0, _, _ => .error .malformed
  | n + 1, room, '[' :: r => do
    if room < listWeight then .error .tooDeep
    else
      let (items, rest) ← itemsIn n (room - listWeight) [] (← judged (dropFiller? r))
      return (.list items, rest)
  | n + 1, room, '\x7b' :: r => do
    if room < tableWeight then .error .tooDeep
    else
      match dropSpaces r with
      | '\x7d' :: rest => return (.table [], rest)
      | rest =>
        let (fields, rest) ← fieldsIn n (room - tableWeight) [] [] rest
        return (.table fields, rest)
  | _ + 1, _, t => simple t

/-- The items of a list behind those read so far, up to the bracket that closes it. -/
def itemsIn : (n room : Nat) → (before : List Value) → ValueReader (List Value)
  | 0, _, _, _ => .error .malformed
  | _ + 1, _, before, ']' :: r => .ok (before, r)
  | n + 1, room, before, t => do
    let (v, rest) ← valueIn n room t
    match ← judged (dropFiller? rest) with
    | ']' :: r => return (before ++ [v], r)
    | ',' :: r => itemsIn n room (before ++ [v]) (← judged (dropFiller? r))
    | _ => .error .malformed

/-- The assignments of a table behind those read so far, up to the brace that closes it. -/
def fieldsIn : (n room : Nat) → (closed : List Key) → (before : Table) → ValueReader Table
  | 0, _, _, _, _ => .error .malformed
  | n + 1, room, closed, before, t => do
    let (k, rest) ← judged (assigned t)
    let (v, rest) ← valueIn n room rest
    let (closed, fields) ← judged (addInline closed before k v)
    match dropSpaces rest with
    | '\x7d' :: r => return (fields, r)
    | ',' :: r => fieldsIn n room closed fields (dropSpaces r)
    | _ => .error .malformed

end

/-- A value that weighs at most `room`. -/
def value (room : Nat) : ValueReader Value := fun t => valueIn (2 * t.length + 2) room t

end SdkGraft.Toml

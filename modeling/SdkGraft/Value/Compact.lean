import SdkGraft.Value.Basic
import SdkGraft.Text.Quoted

/-!
# Values on one line for machines

* `Value.compact` : a value in the JSON format without any blanks, every character beyond plain
  ASCII written as its sixteen-bit units in base sixteen.
-/

namespace SdkGraft.Value

/-- One sixteen-bit unit as an escape. -/
def escapedUnit (n : Nat) : Text := '\\' :: 'u' :: Text.hex 4 n

def escapedChar (c : Char) : Text :=
  if c = '"' ∨ c = '\\' then ['\\', c]
  else if c = '\n' then ['\\', 'n']
  else if c = '\r' then ['\\', 'r']
  else if c = '\t' then ['\\', 't']
  else if c = '\x0c' then ['\\', 'f']
  else if c = '\x08' then ['\\', 'b']
  else if 0x20 ≤ c.toNat ∧ c.toNat < 0x7F then [c]
  else if c.toNat < 0x10000 then escapedUnit c.toNat
  else
    let n := c.toNat - 0x10000
    escapedUnit (0xD800 + n / 0x400) ++ escapedUnit (0xDC00 + n % 0x400)

def compactText (t : Text) : Text := '"' :: t.flatMap escapedChar ++ ['"']

/-- A number with a fraction; what is no finite number has a name. -/
def compactReal (x : Float) : Text :=
  if x.isNaN then "NaN".toList
  else if x.isInf then (if x < 0.0 then "-Infinity".toList else "Infinity".toList)
  else Number.written x

/-- A value on one line, without blanks between its parts. -/
def compact : Value → Text
  | .null => "null".toList
  | .bool b => if b then "true".toList else "false".toList
  | .int i => Text.decimalInt i
  | .real x => compactReal x
  | .moment m => compactText m.text
  | .text t => compactText t
  | .list items => '[' :: compactItems items ++ [']']
  | .table fields => '\x7b' :: compactFields fields ++ ['\x7d']
where
  /-- The items with commas between them. -/
  compactItems : List Value → Text
    | [] => []
    | [v] => v.compact
    | v :: w :: rest => v.compact ++ ',' :: compactItems (w :: rest)
  /-- The named values with commas between them. -/
  compactFields : List (Text × Value) → Text
    | [] => []
    | [(k, v)] => compactText k ++ ':' :: v.compact
    | (k, v) :: e :: rest => compactText k ++ ':' :: v.compact ++ ',' :: compactFields (e :: rest)

end SdkGraft.Value

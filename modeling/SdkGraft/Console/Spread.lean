import SdkGraft.Console.Wrap
import SdkGraft.Value.Display

/-!
# Values over several lines

* `spread` : a value on one line if it fits there, and otherwise with a line for each of its parts
  (`spread_of_fits`).
-/

namespace SdkGraft.Console

def partIndent : Nat := 4

def separator : Text := ", ".toList

/-- A value behind its name fits into a line, so far to the right, with a comma behind it or not. -/
def fits (width indent : Nat) (name : Text) (inner : Bool) (v : Value) : Bool :=
  indent + columns (name ++ v.displayInside) + (if inner then separator.length else 0) ≤ width

/-- A line so far to the right. -/
def indented (indent : Nat) (line : Text) : Text := List.replicate indent ' ' ++ line

mutual

/-- The lines of a value behind its name, so far to the right; `inner` if it is a part of another
one, and with a comma behind it unless it is the last one. -/
def spreadLines (width indent : Nat) (name : Text) (inner comma : Bool) (v : Value) : List Text :=
  let ending := if comma then [','] else []
  if fits width indent name inner v then [indented indent (name ++ v.displayInside ++ ending)]
  else
    match v with
    | .list (item :: rest) =>
      indented indent (name ++ ['[']) :: spreadItems width (indent + partIndent) (item :: rest)
        ++ [indented indent (']' :: ending)]
    | .table (field :: rest) =>
      indented indent (name ++ ['\x7b']) :: spreadFields width (indent + partIndent) (field :: rest)
        ++ [indented indent ('\x7d' :: ending)]
    | v => [indented indent (name ++ v.displayInside ++ ending)]

def spreadItems (width indent : Nat) : List Value → List Text
  | [] => []
  | v :: rest => spreadLines width indent [] true (!rest.isEmpty) v ++ spreadItems width indent rest

def spreadFields (width indent : Nat) : List (Text × Value) → List Text
  | [] => []
  | (key, v) :: rest =>
    spreadLines width indent (Text.quoted key ++ ": ".toList) true (!rest.isEmpty) v
      ++ spreadFields width indent rest

end

/-- A value on one line if it fits there, and otherwise with a line for each of its parts. -/
def spread (width : Nat) (v : Value) : Text := Text.unlines (spreadLines width 0 [] false false v)

theorem spread_of_fits {width : Nat} {v : Value} (h : columns v.displayInside ≤ width) :
    spread width v = v.displayInside := by
  have one : fits width 0 [] false v = true := by simpa [fits] using h
  have line : spreadLines width 0 [] false false v = [v.displayInside] := by
    unfold spreadLines
    simp [one, indented]
  rw [spread, line]
  rfl

end SdkGraft.Console

import SdkGraft.Value.Display

/-!
# Printing for machines

* `withoutStyles` : a text without what looks like the name of a style;
* `withoutCodes` : a text without the codes that terminals obey (`withoutCodes_of_no_escape`);
* `machinePrint` : values printed for machines.
-/

namespace SdkGraft.Console

/-! ## Styles -/

/-- How many characters of the text are the name of a style and its closing bracket, the opening
bracket read: small letters and spaces, perhaps behind a slash. -/
def styleLength? (t : Text) : Option Nat :=
  let body := if t.head? = some '/' then t.drop 1 else t
  let name := body.takeWhile fun c => ('a' ≤ c && c ≤ 'z') || c == ' '
  if name.isEmpty then none
  else if (body.drop name.length).head? = some ']' then
    some (t.length - body.length + name.length + 1)
  else none

/-- The text without the names of styles, its first `skip` characters left out. -/
def withoutStylesFrom : (skip : Nat) → Text → Text
  | _, [] => []
  | skip + 1, _ :: r => withoutStylesFrom skip r
  | 0, c :: r =>
    if c = '[' then
      match styleLength? r with
      | some n => withoutStylesFrom n r
      | none => c :: withoutStylesFrom 0 r
    else c :: withoutStylesFrom 0 r

/-- The text without the names of styles and their brackets. -/
def withoutStyles (t : Text) : Text := withoutStylesFrom 0 t

/-! ## Codes -/

def escapeChar : Char := '\x1b'

/-- How many characters a code takes, its first one read: a bracket, digits and signs between them,
and a letter. -/
def codeLength? (t : Text) : Option Nat :=
  match t with
  | '[' :: r =>
    let marks := r.takeWhile fun c => c.isDigit || c == ';' || c == '?'
    if (r.drop marks.length).head?.any Char.isAlpha then some (marks.length + 2) else none
  | _ => none

/-- The text without codes, its first `skip` characters left out. -/
def withoutCodesFrom : (skip : Nat) → Text → Text
  | _, [] => []
  | skip + 1, _ :: r => withoutCodesFrom skip r
  | 0, c :: r =>
    if c = escapeChar then
      match codeLength? r with
      | some n => withoutCodesFrom n r
      | none => c :: withoutCodesFrom 0 r
    else c :: withoutCodesFrom 0 r

/-- The text without the codes that terminals obey, as it is printed where the output is no terminal. -/
def withoutCodes (t : Text) : Text := withoutCodesFrom 0 t

/-- A text without the character that starts codes has none. -/
theorem withoutCodes_of_no_escape {t : Text} (h : escapeChar ∉ t) : withoutCodes t = t := by
  rw [withoutCodes]
  induction t with
  | nil => rfl
  | cons c r ih =>
    rw [List.mem_cons, not_or] at h
    rw [withoutCodesFrom, if_neg (Ne.symm h.1), ih h.2]

/-! ## Printing -/

/-- A line as it is printed for machines, to a file or a pipe; a terminal would get the codes, too. -/
def machineLine (t : Text) : Text := withoutCodes t ++ ['\n']

/-- What is printed for a machine of one value: a text without styles and outer blanks unless
nothing is left, any other value if it counts as given. -/
def machineItem (v : Value) : Text :=
  match v with
  | .text t =>
    let plain := Text.trim (withoutStyles t)
    if plain.isEmpty then [] else machineLine plain
  | v => if v.isSet then machineLine v.display else []

def machinePrint (values : List Value) : Text := values.flatMap machineItem

end SdkGraft.Console

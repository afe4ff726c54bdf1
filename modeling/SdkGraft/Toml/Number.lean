import SdkGraft.Toml.Scan
import SdkGraft.Value.Basic

/-!
# Reading configuration files: numbers and moments

* `Refusal` : why a file is refused; `ValueReader` : a reader that tells why;
* `number` : an integer in base ten, sixteen, eight or two, or a number with a fraction or an
  exponent;
* `moment` : a date, a time of day, or both, checked against the calendar.
-/

namespace SdkGraft.Toml

inductive Refusal where
  /-- It breaks the rules of the format. -/
  | malformed
  /-- An integer in base ten has too many digits. -/
  | tooManyDigits
  /-- Values stand in too many others. -/
  | tooDeep
  deriving DecidableEq, Repr

abbrev Judged (α : Type) := Except Refusal α

def judged {α : Type} (read : Option α) : Judged α :=
  match read with
  | some a => .ok a
  | none => .error .malformed

abbrev ValueReader (α : Type) := Text → Judged (α × Text)

/-! ## Numbers -/

/-- A sign, if there is one, and whether it is a minus. -/
def sign : Text → Bool × Text
  | '-' :: r => (true, r)
  | '+' :: r => (false, r)
  | t => (false, t)

def signed (negative : Bool) (n : Nat) : Int := if negative then -n else n

/-- The digits behind a point, if they are there. -/
def fraction (t : Text) : Text × Text :=
  match t with
  | '.' :: r =>
    match digits Char.isDigit r with
    | some (ds, rest) => (ds, rest)
    | none => ([], t)
  | _ => ([], t)

/-- An exponent, if it is there. -/
def exponent (t : Text) : Option Int × Text :=
  match t with
  | c :: r =>
    if c = 'e' ∨ c = 'E' then
      let s := sign r
      match digits Char.isDigit s.2 with
      | some (ds, rest) => (some (signed s.1 (numberOf 10 ds)), rest)
      | none => (none, t)
    else (none, t)
  | [] => (none, t)

/-- The digits before a point: a zero alone, or digits that begin with another. -/
def whole : Reader Text
  | '0' :: r => some (['0'], r)
  | t => digits Char.isDigit t

def based (base : Nat) (isDigit : Char → Bool) : Reader Value := fun t =>
  (digits isDigit t).map fun e => (.int (numberOf base e.1), e.2)

def realValue (negative : Bool) (ds : Text) (power : Int) : Value :=
  let x := Number.floatOfDigits (numberOf 10 ds) power
  .real (if negative then -x else x)

/-- A number in base ten; `none` if there is none. An integer has at most as many digits as can
stand in a message. -/
def decimal (t : Text) : Option (Judged (Value × Text)) :=
  let s := sign t
  (whole s.2).map fun w =>
    let f := fraction w.2
    let e := exponent f.2
    if f.1.isEmpty && e.1.isNone then
      if Value.mostDigits < w.1.length then .error .tooManyDigits
      else .ok (.int (signed s.1 (numberOf 10 w.1)), w.2)
    else .ok (realValue s.1 (w.1 ++ f.1) (e.1.getD 0 - f.1.length), e.2)

/-- A number that is none, or too large for any digits. -/
def special : Reader Value := fun t =>
  let s := sign t
  let infinite : Float := 1.0 / 0.0
  match expect "inf".toList s.2 with
  | some r => some (.real (if s.1 then -infinite else infinite), r)
  | none => (expect "nan".toList s.2).map fun r => (.real (0.0 / 0.0), r)

def number : ValueReader Value := fun t =>
  let marked :=
    match t with
    | '0' :: 'x' :: r => based 16 isHexDigit r
    | '0' :: 'o' :: r => based 8 (fun c => '0' ≤ c && c ≤ '7') r
    | '0' :: 'b' :: r => based 2 (fun c => c == '0' || c == '1') r
    | _ => none
  match marked, decimal t with
  | some e, _ => .ok e
  | none, some judged => judged
  | none, none => judged (special t)

/-! ## Moments -/

/-- Exactly `count` digits that write a number from `low` to `high`. -/
def fixed (count low high : Nat) : Reader Nat := fun t =>
  let ds := t.take count
  let n := numberOf 10 ds
  if ds.length = count ∧ ds.all Char.isDigit ∧ low ≤ n ∧ n ≤ high then some (n, t.drop count) else none

def date : Reader Day := fun t => do
  let (y, t) ← fixed 4 0 9999 t
  let t ← expect ['-'] t
  let (m, t) ← fixed 2 1 12 t
  let t ← expect ['-'] t
  let (d, t) ← fixed 2 1 31 t
  return (⟨y, m, d⟩, t)

/-- Millionths of a second, if there are any; further digits do not count. -/
def millionths (t : Text) : Nat × Text :=
  match t with
  | '.' :: r =>
    let ds := r.takeWhile Char.isDigit
    if ds.isEmpty then (0, t)
    else (numberOf 10 ((ds ++ List.replicate 6 '0').take 6), r.dropWhile Char.isDigit)
  | _ => (0, t)

def timeOfDay : Reader Clock := fun t => do
  let (h, t) ← fixed 2 0 23 t
  let t ← expect [':'] t
  let (m, t) ← fixed 2 0 59 t
  let t ← expect [':'] t
  let (s, t) ← fixed 2 0 59 t
  let (parts, t) := millionths t
  return (⟨h, m, s, parts⟩, t)

/-- By how many minutes a time is ahead of the common one. -/
def offset : Reader Int := fun t =>
  match t with
  | 'Z' :: r => some (0, r)
  | 'z' :: r => some (0, r)
  | c :: r =>
    if c = '+' ∨ c = '-' then do
      let (h, r) ← fixed 2 0 23 r
      let r ← expect [':'] r
      let (m, r) ← fixed 2 0 59 r
      return (signed (c = '-') (60 * h + m), r)
    else none
  | [] => none

/-- A time of day behind a date, and how far it is ahead. -/
def timeBehind : Reader (Clock × Option Int)
  | c :: r =>
    if c = 'T' ∨ c = 't' ∨ c = ' ' then
      (timeOfDay r).map fun e =>
        match offset e.2 with
        | some (o, rest) => ((e.1, some o), rest)
        | none => ((e.1, none), e.2)
    else none
  | [] => none

/-- A date, a time of day, or both; `none` if the text is not of that form, and no value if the
calendar does not have the date. -/
def moment (t : Text) : Option (Option (Value × Text)) :=
  match date t with
  | some (d, rest) =>
    some (if d.isReal then
      match timeBehind rest with
      | some (time, rest) => some (.moment (.both d time.1 time.2), rest)
      | none => some (.moment (.day d), rest)
    else none)
  | none => (timeOfDay t).map fun e => some (.moment (.clock e.1), e.2)

end SdkGraft.Toml

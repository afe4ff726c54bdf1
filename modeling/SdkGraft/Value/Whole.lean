import SdkGraft.Text.Blank
import SdkGraft.Value.Basic

/-!
# Whole numbers

* `Text.whole?` : the whole number that a text writes (`whole?_of_empty`);
* `Value.whole?` : the whole number that a value stands for.
-/

namespace SdkGraft

namespace Text

/-- White space that may stand around a number: the separators of records do not. -/
def isSpaceAround (c : Char) : Bool := isBlank c && !(0x1C ≤ c.toNat && c.toNat ≤ 0x1F)

/-- The text without white space at its ends. -/
def withoutSpaces (t : Text) : Text :=
  ((t.dropWhile isSpaceAround).reverse.dropWhile isSpaceAround).reverse

/-- A number without the zeros in front of its first digit, and without the low lines between them;
`none` if it does not begin with a digit, or if no digit, fraction or minus sign follows. -/
def withoutZeros? (t : Text) : Option Text :=
  match t with
  | '0' :: _ =>
    let zeros := t.takeWhile fun c => c == '0' || c == '_'
    let rest := t.drop zeros.length
    match rest with
    | [] => some (zeros.drop (zeros.length - 1))
    | '.' :: _ => some (zeros.drop (zeros.length - 1) ++ rest)
    | c :: _ => if c.isDigit || c = '-' then some rest else none
  | c :: _ => if c.isDigit then some t else none
  | [] => none

/-- A number without its fraction; `none` if that is not made of zeros. -/
def withoutFraction? (t : Text) : Option Text :=
  let whole := t.takeWhile (· != '.')
  match t.drop whole.length with
  | [] => some whole
  | _ :: zeros => if !zeros.isEmpty && zeros.all (· == '0') then some whole else none

/-- A number without the low lines between its characters; `none` if one stands at an end or behind
another one. -/
def withoutLowLines? (t : Text) : Option Text :=
  if t.head? = some '_' || endsWith t ['_'] || occursIn ['_', '_'] t then none
  else some (t.filter (· != '_'))

/-- The number that digits write, behind a minus sign or not; a zero stands in front of none, and
there are not too many. -/
def digits? (negative : Bool) (t : Text) : Option Int :=
  let size := t.length + if negative then 1 else 0
  if t.isEmpty || !t.all Char.isDigit || (t.head? = some '0' && t.length ≠ 1)
      || Value.mostDigits < size then none
  else
    let n : Nat := t.foldl (fun n c => 10 * n + (c.toNat - '0'.toNat)) 0
    some (if negative then -n else n)

def whole? (t : Text) : Option Int := do
  let t := withoutSpaces t
  let negative := t.head? = some '-'
  let unsigned := if negative || t.head? = some '+' then t.drop 1 else t
  match ← withoutLowLines? (← withoutFraction? (← withoutZeros? unsigned)) with
  | '-' :: digits => if negative then none else digits? true digits
  | digits => digits? negative digits

theorem whole?_of_empty {t : Text} (h : withoutSpaces t = []) : whole? t = none := by
  simp [whole?, h, withoutZeros?]

end Text

/-- The whole number that a value stands for: itself, one or zero, or what a text writes. -/
def Value.whole? : Value → Option Int
  | .int i => some i
  | .bool b => some (if b then 1 else 0)
  | .text t => Text.whole? t
  | _ => none

end SdkGraft

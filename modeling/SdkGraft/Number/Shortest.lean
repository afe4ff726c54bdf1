import SdkGraft.Text.Basic

/-!
# Numbers with a fraction, written with the fewest digits

* `Ratio` : a quotient of natural numbers, compared exactly;
* `Span` : the exact value of a float and the ends of what is read as that float;
* `Span.shortest` : the fewest digits that are read as the float, the nearest of those;
* `floatOfDigits` : the float that digits and a power of ten stand for;
* `written` : a float as text, positional from a ten-thousandth up to sixteen digits.
-/

namespace SdkGraft.Number

/-! ## Exact comparison -/

/-- A quotient of two natural numbers, the second of them not zero. -/
structure Ratio where
  num : Nat
  den : Nat
  deriving DecidableEq, Repr

namespace Ratio

def scaled (n base : Nat) (e : Int) : Ratio := ⟨n * base.pow e.toNat, base.pow (-e).toNat⟩

def isBelow (a b : Ratio) : Bool := a.num * b.den < b.num * a.den

def isSame (a b : Ratio) : Bool := a.num * b.den == b.num * a.den

/-- How many whole steps of a second quotient fit into the first. -/
def steps (a step : Ratio) : Nat := a.num * step.den / (a.den * step.num)

end Ratio

/-! ## Digits -/

/-- The exact value of a positive float, and the ends of what is read as that float. -/
structure Span where
  value : Ratio
  low : Ratio
  high : Ratio
  /-- The ends are read as the float, too. -/
  closed : Bool
  deriving DecidableEq, Repr

/-- Digits with a power of ten behind them. -/
structure Scaled where
  digits : Nat
  power : Int
  deriving DecidableEq, Repr

def Scaled.ratio (d : Scaled) : Ratio := .scaled d.digits 10 d.power

namespace Span

/-- The span of the float with these bits, which is positive and finite. Below a power of two the
next float is half as far away as above. -/
def ofBits (bits : UInt64) : Span :=
  let fraction := bits.toNat % Nat.pow 2 52
  let exponent := bits.toNat / Nat.pow 2 52 % Nat.pow 2 11
  let m := if exponent = 0 then fraction else Nat.pow 2 52 + fraction
  let q : Int := (max exponent 1 : Nat) - 1075
  let below := if fraction = 0 ∧ 1 < exponent then 1 else 2
  ⟨.scaled m 2 q, .scaled (4 * m - below) 2 (q - 2), .scaled (4 * m + 2) 2 (q - 2), m % 2 == 0⟩

/-- The number is read as the float. -/
def holds (s : Span) (r : Ratio) : Bool :=
  (s.low.isBelow r && r.isBelow s.high) || (s.closed && (r.isSame s.low || r.isSame s.high))

/-- The least power of ten that is greater than the value. -/
def topPower (s : Span) : Int :=
  (((List.range 640).map fun i : Nat => Int.ofNat i - 325).find? fun k =>
    s.value.isBelow (.scaled 1 10 k)).getD 310

/-- What `count` digits can come nearest to the value with, if it is read as the float: the digits
below and above it, the nearer first, of two as near the even one. -/
def withDigits? (s : Span) (count : Nat) : Option Scaled :=
  let power := s.topPower - count
  let below := s.value.steps (.scaled 1 10 power)
  let middle : Ratio := .scaled (2 * below + 1) 10 power
  let double : Ratio := ⟨2 * s.value.num, s.value.den⟩
  let upFirst := middle.isBelow double || (middle.isSame double && below % 2 == 1)
  (if upFirst then [below + 1, below] else [below, below + 1]).map (Scaled.mk · power)
    |>.find? fun d => s.holds d.ratio

/-- The fewest digits that are read as the float; seventeen are always enough. -/
def shortest (s : Span) : Scaled :=
  ((List.range 17).findSome? fun n => s.withDigits? (n + 1)).getD
    ⟨s.value.steps (.scaled 1 10 (s.topPower - 17)), s.topPower - 17⟩

end Span

/-! ## Reading and writing -/

/-- The float nearest to some digits times a power of ten. What is far beyond the largest float is
infinite, what is far below the smallest is zero. -/
def floatOfDigits (digits : Nat) (power : Int) : Float :=
  let top := (Text.decimal digits).length + power
  if digits = 0 ∨ top < -330 then 0.0
  else if 310 < top then 1.0 / 0.0
  else Float.ofScientific digits (power < 0) power.natAbs

/-- Digits and where the point stands among them, the zeros at the end dropped. -/
def significant (d : Scaled) : Text × Int :=
  let ds := Text.decimal d.digits
  ((ds.reverse.dropWhile (· == '0')).reverse, ds.length + d.power)

def exponentText (e : Int) : Text :=
  let ds := Text.decimal e.natAbs
  'e' :: (if e < 0 then '-' else '+') :: List.replicate (2 - ds.length) '0' ++ ds

/-- Digits with a point at its place, or with an exponent if the place is far away. -/
def layout (ds : Text) (point : Int) : Text :=
  if -4 < point ∧ point ≤ 0 then "0.".toList ++ List.replicate point.natAbs '0' ++ ds
  else if 0 < point ∧ point ≤ 16 then
    let n := point.toNat
    let behind := ds.drop n
    ds.take n ++ List.replicate (n - ds.length) '0' ++ '.' :: if behind.isEmpty then ['0'] else behind
  else
    let behind := ds.drop 1
    ds.take 1 ++ (if behind.isEmpty then [] else '.' :: behind) ++ exponentText (point - 1)

/-- A float that is a number, without its sign. -/
def magnitude (x : Float) : Text :=
  if x.isInf then "inf".toList
  else if x == 0.0 then "0.0".toList
  else
    let d := significant (Span.ofBits x.toBits).shortest
    layout d.1 d.2

/-- A float as text. -/
def written (x : Float) : Text :=
  if x.isNaN then "nan".toList
  else (if Nat.pow 2 63 ≤ x.toBits.toNat then ['-'] else []) ++ magnitude x

end SdkGraft.Number

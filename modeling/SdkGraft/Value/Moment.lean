import SdkGraft.Text.Basic

/-!
# Moments

* `Day`, `Clock`, `Moment` : a day of the calendar, a time of day, or both, perhaps with how far the
  time is from the common one;
* `Day.isReal` : the calendar has the day;
* `Moment.text` : a moment on its own; `Moment.inside` : a moment in a list or a table.
-/

namespace SdkGraft

structure Day where
  year : Nat
  month : Nat
  day : Nat
  deriving DecidableEq, Repr

structure Clock where
  hour : Nat
  minute : Nat
  second : Nat
  /-- Millionths of a second. -/
  micros : Nat
  deriving DecidableEq, Repr

/-- A day, a time of day, or both. -/
inductive Moment where
  | day (d : Day)
  | clock (c : Clock)
  /-- Both, and by how many minutes the time is ahead of the common one, if that is known. -/
  | both (d : Day) (c : Clock) (ahead : Option Int)
  deriving DecidableEq, Repr

def daysIn (year month : Nat) : Nat :=
  if month = 2 then
    if year % 4 = 0 ∧ (year % 100 ≠ 0 ∨ year % 400 = 0) then 29 else 28
  else if month = 4 ∨ month = 6 ∨ month = 9 ∨ month = 11 then 30
  else 31

/-- The calendar has the day; its years are counted from one. -/
def Day.isReal (d : Day) : Bool := 1 ≤ d.year && d.day ≤ daysIn d.year d.month

/-! ## On its own -/

def padded (width n : Nat) : Text :=
  let ds := Text.decimal n
  List.replicate (width - ds.length) '0' ++ ds

/-- A day as text. -/
def Day.text (d : Day) : Text := padded 4 d.year ++ '-' :: padded 2 d.month ++ '-' :: padded 2 d.day

/-- A time of day as text; parts of a second only if there are any. -/
def Clock.text (c : Clock) : Text :=
  padded 2 c.hour ++ ':' :: padded 2 c.minute ++ ':' :: padded 2 c.second
    ++ if c.micros = 0 then [] else '.' :: padded 6 c.micros

/-- How far a time is ahead, in hours and minutes. -/
def aheadText (ahead : Int) : Text :=
  (if ahead < 0 then '-' else '+') :: padded 2 (ahead.natAbs / 60) ++ ':' :: padded 2 (ahead.natAbs % 60)

def Moment.text : Moment → Text
  | .day d => d.text
  | .clock c => c.text
  | .both d c ahead => d.text ++ ' ' :: c.text ++ (ahead.map aheadText).getD []

/-! ## In a list or a table -/

def called (name : String) (arguments : List Text) : Text :=
  name.toList ++ '(' :: Text.joinWith ", ".toList arguments ++ [')']

def Day.numbers (d : Day) : List Nat := [d.year, d.month, d.day]

/-- The numbers of a time of day: what is zero at the end is left out behind the minutes. -/
def Clock.numbers (c : Clock) : List Nat :=
  [c.hour, c.minute]
    ++ if c.micros ≠ 0 then [c.second, c.micros] else if c.second ≠ 0 then [c.second] else []

/-- How far a time is ahead, as a span of whole days and the seconds beyond them. -/
def aheadInside (ahead : Int) : Text :=
  let zone (arguments : List Text) : Text :=
    called "datetime.timezone" [called "datetime.timedelta" arguments]
  let seconds (minutes : Int) : Text := "seconds=".toList ++ Text.decimalInt (60 * minutes)
  if ahead = 0 then "datetime.timezone.utc".toList
  else if ahead < 0 then zone ["days=-1".toList, seconds (24 * 60 + ahead)]
  else zone [seconds ahead]

def Moment.inside : Moment → Text
  | .day d => called "datetime.date" (d.numbers.map Text.decimal)
  | .clock c => called "datetime.time" (c.numbers.map Text.decimal)
  | .both d c ahead =>
    called "datetime.datetime" ((d.numbers ++ c.numbers).map Text.decimal
      ++ (ahead.map fun a => "tzinfo=".toList ++ aheadInside a).toList)

end SdkGraft

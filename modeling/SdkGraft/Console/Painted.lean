import SdkGraft.Text.Basic

/-!
# Painted texts

A text in which tags paint stretches.

* `Stretch` : a stretch of a text, and whether it can be painted;
* `Painted` : a text with its stretches;
* `Painted.append`, `Painted.joined` : painted texts one behind the other;
* `Painted.intoParts` : a painted text in parts, each with what is left of the stretches
  (`map_text_partsFrom`);
* `Painted.patches` : a text cut where stretches begin and end (`flatten_patches`).
-/

namespace SdkGraft.Console

/-! ## Stretches -/

/-- A stretch of a text, from one place up to another. -/
structure Stretch where
  start : Nat
  stop : Nat
  /-- The style that it is painted in lacks no number. -/
  isSound : Bool
  deriving DecidableEq, Repr

/-- The stretch so many characters further behind. -/
def Stretch.moved (n : Nat) (s : Stretch) : Stretch := ⟨s.start + n, s.stop + n, s.isSound⟩

/-- What is left of a stretch between two places, if it covers any of what stands there. -/
def Stretch.between? (start stop : Nat) (s : Stretch) : Option Stretch :=
  if s.start - start < min s.stop stop - start then
    some ⟨s.start - start, min s.stop stop - start, s.isSound⟩
  else none

/-! ## Painted texts -/

structure Painted where
  text : Text
  stretches : List Stretch
  deriving DecidableEq, Repr

namespace Painted

def plain (t : Text) : Painted := ⟨t, []⟩

/-- Every stretch can be painted. -/
def isSound (p : Painted) : Bool := p.stretches.all Stretch.isSound

def append (p q : Painted) : Painted :=
  ⟨p.text ++ q.text, p.stretches ++ q.stretches.map (Stretch.moved p.text.length)⟩

def joined : List Painted → Painted
  | [] => plain []
  | [p] => p
  | p :: q :: rest => (p.append (plain [' '])).append (joined (q :: rest))

/-- The text with blanks behind it; what is painted up to its end is painted further. -/
def widened (n : Nat) (p : Painted) : Painted :=
  ⟨p.text ++ List.replicate n ' ',
    p.stretches.map fun s => if p.text.length ≤ s.stop then { s with stop := s.stop + n } else s⟩

/-- The text given up for a shorter one, and no stretch beyond its end. -/
def shortenedTo (t : Text) (p : Painted) : Painted :=
  if t.length < p.text.length then
    ⟨t, (p.stretches.filter fun s => s.start < t.length).map fun s =>
      { s with stop := min s.stop t.length }⟩
  else ⟨t, p.stretches⟩

/-- Parts of a text, the first one at a place, `gap` characters being left out between neighbours. -/
def partsFrom (p : Painted) (gap : Nat) : (place : Nat) → List Text → List Painted
  | _, [] => []
  | place, part :: rest =>
    let stop := place + part.length
    ⟨part, p.stretches.filterMap (Stretch.between? place stop)⟩ :: p.partsFrom gap (stop + gap) rest

/-- A text in parts, `gap` characters being left out between neighbours. A stretch that covers
nothing gets lost, unless there is one part only. -/
def intoParts (p : Painted) (gap : Nat) (parts : List Text) : List Painted :=
  match parts with
  | [_] => [p]
  | parts => p.partsFrom gap 0 parts

def patchesFrom (marks : List Nat) : (place : Nat) → Text → List Text
  | _, [] => []
  | place, c :: r =>
    match patchesFrom marks (place + 1) r with
    | [] => [[c]]
    | patch :: rest =>
      if marks.contains (place + 1) then [c] :: patch :: rest else (c :: patch) :: rest

/-- The text cut where stretches begin and end. -/
def patches (p : Painted) : List Text :=
  patchesFrom (p.stretches.flatMap fun s => [s.start, s.stop]) 0 p.text

/-! ## Laws -/

theorem map_text_partsFrom (p : Painted) (gap place : Nat) (parts : List Text) :
    (p.partsFrom gap place parts).map text = parts := by
  induction parts generalizing place with
  | nil => rfl
  | cons part rest ih => rw [partsFrom, List.map_cons, ih]

theorem flatten_patchesFrom (marks : List Nat) (place : Nat) (t : Text) :
    (patchesFrom marks place t).flatten = t := by
  induction t generalizing place with
  | nil => rfl
  | cons c r ih =>
    have ih := ih (place + 1)
    rw [patchesFrom]
    generalize patchesFrom marks (place + 1) r = parts at ih
    subst ih
    cases parts with
    | nil => rfl
    | cons patch rest => dsimp only; split <;> simp

/-- Nothing is lost by cutting a text where stretches begin and end. -/
theorem flatten_patches (p : Painted) : p.patches.flatten = p.text := flatten_patchesFrom _ 0 p.text

end Painted

end SdkGraft.Console

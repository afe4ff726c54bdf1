import SdkGraft.Text.Basic

/-!
# Blank characters

* `isBlank` : the white space of Unicode with the four information separators;
* `Text.trimStart`, `Text.trimEnd`, `Text.trim` : blanks removed at the ends;
* `Text.leading` : the blanks a line starts with (`leading_append_trimStart`);
* `Text.words` : what stands between blanks.
-/

namespace SdkGraft

def blankRanges : List (Nat × Nat) :=
  [(0x09, 0x0D), (0x1C, 0x20), (0x85, 0x85), (0xA0, 0xA0), (0x1680, 0x1680), (0x2000, 0x200A),
   (0x2028, 0x2029), (0x202F, 0x202F), (0x205F, 0x205F), (0x3000, 0x3000)]

/-- `n` lies in one of the closed ranges. -/
def inRanges (ranges : List (Nat × Nat)) (n : Nat) : Bool :=
  ranges.any fun r => r.1 ≤ n && n ≤ r.2

/-- White space: separators of lines, words and records. -/
def isBlank (c : Char) : Bool := inRanges blankRanges c.toNat

/-- Every character that the core library calls white space is blank. -/
theorem isBlank_of_isWhitespace (c : Char) (h : c.isWhitespace = true) : isBlank c = true := by
  simp [Char.isWhitespace] at h
  rcases h with ((h | h) | h) | h <;> subst h <;> decide

namespace Text

/-- The text without the blanks at its beginning. -/
def trimStart (t : Text) : Text := t.dropWhile isBlank

/-- The text without the blanks at its end. -/
def trimEnd (t : Text) : Text := (t.reverse.dropWhile isBlank).reverse

/-- The text without the blanks at either end. -/
def trim (t : Text) : Text := trimEnd (trimStart t)

/-- The blanks at the beginning of the text: the indentation of a line. -/
def leading (t : Text) : Text := t.takeWhile isBlank

def isAllBlank (t : Text) : Bool := t.all isBlank

/-- The words of a text: what stands between blanks. -/
def words (t : Text) : List Text :=
  (splitAt ' ' (t.map fun c => if isBlank c then ' ' else c)).filter fun w => !w.isEmpty

@[simp] theorem leading_append_trimStart (t : Text) : leading t ++ trimStart t = t :=
  List.takeWhile_append_dropWhile

theorem isBlank_of_mem_leading {t : Text} {c : Char} (h : c ∈ leading t) : isBlank c = true :=
  List.all_eq_true.1 List.all_takeWhile c h

/-- The rest after one blank or more, if the text begins with a blank. -/
def dropBlanks? : Text → Option Text
  | [] => none
  | c :: r => if isBlank c then some (trimStart r) else none

end Text

end SdkGraft

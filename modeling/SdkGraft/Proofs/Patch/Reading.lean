import SdkGraft.Patch.Unified

/-!
# Reading a unified diff

What a unified diff states, read from its rows alone.

* `readRange?`, `readRanges?` : the ranges in the row that opens a hunk (`readRanges?_headerRow`);
* `readRow?` : what happens to a row, by its sign (`readRow?_written`);
* `StatedHunk`, `readHunks?` : the hunks of a diff, with the counts they state, and their rows;
* `readHunks?_written` : hunks are read as they were written.
-/

namespace SdkGraft.Patch

/-! ## Numbers and ranges -/

def readNumber? (t : Text) : Option (Nat × Text) :=
  match t.takeWhile Char.isDigit with
  | [] => none
  | digits => some (Nat.ofDigitChars 10 digits 0, t.dropWhile Char.isDigit)

/-- The range at the beginning of a text: how many rows stand before it, how many it has, and the rest of the text.
A range of one row is written as its number alone, one without rows with the number of the row before. -/
def readRange? (t : Text) : Option ((Nat × Nat) × Text) := do
  let (first, rest) ← readNumber? t
  match rest with
  | ',' :: more =>
    let (count, rest) ← readNumber? more
    return ((if count = 0 then first else first - 1, count), rest)
  | _ => return ((first - 1, 1), rest)

def readRanges? (row : Text) : Option ((Nat × Nat) × (Nat × Nat)) := do
  let (old, rest) ← readRange? (← Text.dropStart? "@@ -".toList row)
  let (new, rest) ← readRange? (← Text.dropStart? " +".toList rest)
  if rest = " @@\n".toList then some (old, new) else none

section
variable {c : Char} {t : Text}

theorem readNumber?_decimal (n : Nat) (hc : c.isDigit = false) :
    readNumber? (Text.decimal n ++ c :: t) = some (n, c :: t) := by
  have hdigits : ∀ d ∈ Text.decimal n, d.isDigit = true := fun d hd =>
    Nat.isDigit_of_mem_toDigits (by decide) (by decide) hd
  have hc : ¬ c.isDigit = true := by simp [hc]
  rw [readNumber?, List.takeWhile_append_of_pos hdigits, List.dropWhile_append_of_pos hdigits,
    List.takeWhile_cons_of_neg hc, List.dropWhile_cons_of_neg hc, List.append_nil]
  split
  · exact absurd ‹_› Nat.toDigits_ne_nil
  · rw [Text.decimal, Nat.ofDigitChars_ten_toDigits]

theorem readRange?_rangeText (start length : Nat) (hc : c.isDigit = false) (hcomma : c ≠ ',') :
    readRange? (rangeText start length ++ c :: t) = some ((start, length), c :: t) := by
  rw [readRange?, rangeText]
  split
  · rename_i hone
    rw [readNumber?_decimal _ hc]
    simp [hcomma, hone]
  · rw [List.append_assoc, List.cons_append, readNumber?_decimal _ (by decide)]
    simp only [Option.bind_eq_bind, Option.bind_some, readNumber?_decimal _ hc]
    split <;> simp

end

theorem readRanges?_headerRow (h : Hunk Text) :
    readRanges? (headerRow h) = some ((h.oldStart, h.old.length), (h.newStart, h.new.length)) := by
  let rest : Text := " +".toList ++ (rangeText h.newStart h.new.length ++ " @@\n".toList)
  have hrow : headerRow h = "@@ -".toList ++ (rangeText h.oldStart h.old.length ++ rest) := by
    change "@@ -".toList ++ _ ++ " +".toList ++ _ ++ " @@\n".toList = _
    rw [List.append_assoc, List.append_assoc, List.append_assoc]
  have hold : readRange? (rangeText h.oldStart h.old.length ++ rest) = some ((h.oldStart, h.old.length), rest) :=
    readRange?_rangeText _ _ (by decide) (by decide)
  have hnew : readRange? (rangeText h.newStart h.new.length ++ " @@\n".toList) =
      some ((h.newStart, h.new.length), " @@\n".toList) :=
    readRange?_rangeText _ _ (by decide) (by decide)
  have hbegin : Text.dropStart? "@@ -".toList (headerRow h) = some (rangeText h.oldStart h.old.length ++ rest) :=
    Text.dropStart?_eq_some_iff.2 hrow
  have hmiddle : Text.dropStart? " +".toList rest = some (rangeText h.newStart h.new.length ++ " @@\n".toList) :=
    Text.dropStart?_eq_some_iff.2 rfl
  simp only [readRanges?, hbegin, hold, hmiddle, hnew, Option.bind_eq_bind, Option.bind_some]
  rfl

/-! ## Rows and hunks -/

def readRow? : Text → Option (Row Text)
  | ' ' :: row => some (.context row)
  | '-' :: row => some (.removed row)
  | '+' :: row => some (.added row)
  | _ => none

theorem readRow?_written (r : Row Text) : readRow? r.written = some r := by cases r <;> rfl

/-- A hunk as a diff states it: its rows, and how many of them it says the two lists have. -/
structure StatedHunk extends Hunk Text where
  oldCount : Nat
  newCount : Nat
  deriving DecidableEq, Repr

def readFrom? : List Text → Option (List (Row Text) × List StatedHunk)
  | [] => some ([], [])
  | row :: rest => do
    let (rows, hs) ← readFrom? rest
    match readRow? row with
    | some r => return (r :: rows, hs)
    | none =>
      let ((oldStart, oldCount), (newStart, newCount)) ← readRanges? row
      return ([], { oldStart, newStart, rows, oldCount, newCount } :: hs)

def readHunks? (rows : List Text) : Option (List StatedHunk) :=
  match readFrom? rows with
  | some ([], hs) => some hs
  | _ => none

def Hunk.stated (h : Hunk Text) : StatedHunk := { h with oldCount := h.old.length, newCount := h.new.length }

theorem readFrom?_rows (rows : List (Row Text)) {rest : List Text} {more : List (Row Text)} {hs : List StatedHunk}
    (h : readFrom? rest = some (more, hs)) :
    readFrom? (rows.map Row.written ++ rest) = some (rows ++ more, hs) := by
  induction rows with
  | nil => exact h
  | cons row rows ih =>
    rw [List.map_cons, List.cons_append, readFrom?, ih, Option.bind_eq_bind, Option.bind_some, readRow?_written]
    rfl

theorem readFrom?_hunks (hs : List (Hunk Text)) :
    readFrom? (hs.flatMap fun h => headerRow h :: h.rows.map Row.written) = some ([], hs.map Hunk.stated) := by
  induction hs with
  | nil => rfl
  | cons h hs ih =>
    have hsign : readRow? (headerRow h) = none := rfl
    rw [List.flatMap_cons, List.cons_append, readFrom?, readFrom?_rows h.rows ih, Option.bind_eq_bind,
      Option.bind_some, hsign, readRanges?_headerRow, List.append_nil]
    rfl

/-- Hunks are read as they were written. -/
theorem readHunks?_written (hs : List (Hunk Text)) :
    readHunks? (hs.flatMap fun h => headerRow h :: h.rows.map Row.written) = some (hs.map Hunk.stated) := by
  rw [readHunks?, readFrom?_hunks]

end SdkGraft.Patch

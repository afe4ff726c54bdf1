import SdkGraft.Patch.Hunk
import SdkGraft.Text.Breaks

/-!
# Unified diffs

* `sourceRows` : the rows of a text, its carriage-return pairs folded;
* `hunksBetween` : the hunks between two texts;
* `unifiedRows` : the rows of a unified diff; `unified` : them written one after the other.
-/

namespace SdkGraft.Patch

/-- The rows of a text as a diff shows them. -/
def sourceRows (t : Text) : List Text := Text.rows (Text.foldCrlf t)

def hunksBetween (old new : Text) : List (Hunk Text) :=
  hunks (steps (sourceRows old) (sourceRows new))

/-- The rows a hunk covers: the number of the first and how many, of one row the number only, of
none the number of the row before. -/
def rangeText (start length : Nat) : Text :=
  if length = 1 then Text.decimal (start + 1)
  else Text.decimal (if length = 0 then start else start + 1) ++ ',' :: Text.decimal length

def headerRow (h : Hunk Text) : Text :=
  "@@ -".toList ++ rangeText h.oldStart h.old.length ++ " +".toList
    ++ rangeText h.newStart h.new.length ++ " @@\n".toList

def Row.written : Row Text → Text
  | .context row => ' ' :: row
  | .removed row => '-' :: row
  | .added row => '+' :: row

def fileRows (path : Text) : List Text :=
  ["--- a/".toList ++ path ++ ['\n'], "+++ b/".toList ++ path ++ ['\n']]

/-- The rows of a unified diff; none if the texts have the same rows. -/
def unifiedRows (path old new : Text) : List Text :=
  match hunksBetween old new with
  | [] => []
  | hs => fileRows path ++ hs.flatMap fun h => headerRow h :: h.rows.map Row.written

/-- The unified diff between two versions of a file. Rows stand as they are, so a last row without
a break runs into the next. -/
def unified (path old new : Text) : Text := (unifiedRows path old new).flatten

end SdkGraft.Patch

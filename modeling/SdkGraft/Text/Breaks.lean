import SdkGraft.Text.Basic

/-!
# Rows

* `Text.isBreak` : the characters that end a row: more of them than the line feed;
* `Text.rows` : the rows of a text, each with what ends it (`flatten_rows`).
-/

namespace SdkGraft.Text

def isBreak (c : Char) : Bool :=
  c == '\n' || c == '\r' || c == '\x0b' || c == '\x0c' || c == '\x1c' || c == '\x1d' || c == '\x1e'
    || c == '\u0085' || c == '\u2028' || c == '\u2029'

/-- The rest of a row put in front of the rows that follow it. -/
def consToFirst (c : Char) : List Text → List Text
  | [] => [[c]]
  | row :: rest => (c :: row) :: rest

/-- The rows of a text, each with the break that ends it; a carriage return and the line feed
after it are one break, and no row is empty. -/
def rows : Text → List Text
  | [] => []
  | '\r' :: '\n' :: r => ['\r', '\n'] :: rows r
  | c :: r => if isBreak c then [c] :: rows r else consToFirst c (rows r)

theorem flatten_consToFirst (c : Char) (ls : List Text) :
    (consToFirst c ls).flatten = c :: ls.flatten := by
  cases ls <;> simp [consToFirst]

theorem flatten_rows (t : Text) : (rows t).flatten = t := by
  fun_induction rows t with
  | case1 => rfl
  | case2 r ih => simp [ih]
  | case3 c r _ hb ih => simp [ih]
  | case4 c r _ hb ih => rw [flatten_consToFirst, ih]

end SdkGraft.Text

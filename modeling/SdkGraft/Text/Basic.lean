/-!
# Texts as lists of characters

* `Text` : a list of characters, the carrier of every text the library works on;
* `Text.lines`, `Text.unlines` : cutting at line feeds and joining again (`unlines_lines`);
* `Text.foldCrlf`, `Text.expandLf` : carriage-return pairs to line feeds and back;
* `Text.occursIn`, `Text.dropStart?` : searching and peeling a known beginning;
* `Text.decimal` : the decimal digits of a number.
-/

namespace SdkGraft

/-- A text is its list of characters. -/
abbrev Text := List Char

namespace Text

/-- The decimal digits of `n`. -/
def decimal (n : Nat) : Text := Nat.toDigits 10 n

/-- The decimal digits of `i`, after a minus sign if it is negative. -/
def decimalInt : Int → Text
  | .ofNat n => decimal n
  | .negSucc n => '-' :: decimal (n + 1)

/-! ## Searching -/

/-- `part` stands somewhere in the text as a run of neighbouring characters. -/
def occursIn (part : Text) : Text → Bool
  | [] => part.isEmpty
  | c :: r => part.isPrefixOf (c :: r) || occursIn part r

/-- The rest of the text after `start`, if the text begins with it. -/
def dropStart? : (start text : Text) → Option Text
  | [], t => some t
  | _ :: _, [] => none
  | s :: ss, c :: cs => if s = c then dropStart? ss cs else none

/-- The text ends with `ending`. -/
def endsWith (text ending : Text) : Bool := ending.isSuffixOf text

theorem dropStart?_eq_some_iff {start t r : Text} : dropStart? start t = some r ↔ t = start ++ r := by
  induction start generalizing t with
  | nil => simp [dropStart?, eq_comm]
  | cons s ss ih =>
    cases t with
    | nil => simp [dropStart?]
    | cons c cs =>
      by_cases h : s = c
      · simp [dropStart?, h, ih]
      · simp [dropStart?, h, Ne.symm h]

/-! ## Cutting and joining -/

/-- The pieces of the text between the separators; there is always at least one. -/
def splitAt (sep : Char) : Text → List Text
  | [] => [[]]
  | c :: r =>
    if c = sep then [] :: splitAt sep r
    else match splitAt sep r with
      | [] => [[c]]
      | piece :: pieces => (c :: piece) :: pieces

/-- The texts in order, with `sep` between neighbours. -/
def joinWith (sep : Text) : List Text → Text
  | [] => []
  | [t] => t
  | t :: u :: rest => t ++ sep ++ joinWith sep (u :: rest)

/-- The lines of a text: the pieces between line feeds. -/
def lines (t : Text) : List Text := splitAt '\n' t

/-- The text whose lines are `ls`. -/
def unlines (ls : List Text) : Text := joinWith ['\n'] ls

theorem splitAt_ne_nil (sep : Char) (t : Text) : splitAt sep t ≠ [] := by
  cases t with
  | nil => simp [splitAt]
  | cons c r =>
    by_cases h : c = sep
    · simp [splitAt, h]
    · rw [splitAt, if_neg h]; split <;> simp

theorem joinWith_splitAt (sep : Char) (t : Text) : joinWith [sep] (splitAt sep t) = t := by
  induction t with
  | nil => rfl
  | cons c r ih =>
    have hne := splitAt_ne_nil sep r
    revert ih hne
    by_cases h : c = sep
    · rw [splitAt, if_pos h]
      cases splitAt sep r with
      | nil => simp
      | cons p ps => intro ih _; simp [joinWith, ih, h]
    · rw [splitAt, if_neg h]
      cases splitAt sep r with
      | nil => simp
      | cons p ps =>
        intro ih _
        cases ps with
        | nil => simpa [joinWith] using ih
        | cons q qs => simpa [joinWith] using ih

theorem unlines_lines (t : Text) : unlines (lines t) = t := joinWith_splitAt '\n' t

theorem not_mem_of_mem_splitAt {sep : Char} {t p : Text} (h : p ∈ splitAt sep t) : sep ∉ p := by
  induction t generalizing p with
  | nil => simp only [splitAt, List.mem_singleton] at h; simp [h]
  | cons c r ih =>
    by_cases hc : c = sep
    · rw [splitAt, if_pos hc] at h
      rcases List.mem_cons.1 h with h | h
      · simp [h]
      · exact ih h
    · rw [splitAt, if_neg hc] at h
      have hne := splitAt_ne_nil sep r
      generalize splitAt sep r = pieces at ih h hne
      cases pieces with
      | nil => exact absurd rfl hne
      | cons q qs =>
        rcases List.mem_cons.1 h with h | h
        · have hq : sep ∉ q := ih List.mem_cons_self
          simp [h, hq, Ne.symm hc]
        · exact ih (List.mem_cons_of_mem _ h)

/-! ## Line endings -/

/-- Every carriage return that stands directly before a line feed is dropped. -/
def foldCrlf : Text → Text
  | '\r' :: '\n' :: r => '\n' :: foldCrlf r
  | c :: r => c :: foldCrlf r
  | [] => []

/-- Every line feed gets a carriage return before it. -/
def expandLf : Text → Text
  | [] => []
  | c :: r => if c = '\n' then '\r' :: '\n' :: expandLf r else c :: expandLf r

/-- A carriage return directly before a line feed stands in the text. -/
def hasCrlf (t : Text) : Bool := occursIn ['\r', '\n'] t

/-- Every carriage return, with the line feed that may follow it, becomes one line feed. -/
def foldReturns : Text → Text
  | '\r' :: '\n' :: r => '\n' :: foldReturns r
  | c :: r => (if c = '\r' then '\n' else c) :: foldReturns r
  | [] => []

end Text

end SdkGraft

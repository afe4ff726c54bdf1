import SdkGraft.Proofs.Source.Lexing

/-!
# Source read character by character

* `Mode`, `Mode.step`, `Mode.endLine` : what a reading is in the middle of, and how it goes on;
* `Mode.run`, `Mode.readLine`, `readLines` : the code that is read (`Mode.run_append`);
* `Mode.tame`, `tameLines` : every literal closes on its line, and no block comment holds a double quote;
* `readsAlike` : a tame line without its literals and comments is what is read of it;
* `Mode.run_blanks`, `Mode.readLine_blanks` : the blanks at its ends make no difference;
* `lineCode_eq_readLine`, `codeParts_eq_readLines` : the code of tame lines is what is read of them.
-/

namespace SdkGraft.Source

/-! ## Reading -/

inductive Mode where
  | code
  /-- In code behind a slash, which may begin a comment. -/
  | slash
  | string
  /-- In a string literal behind a backslash, which takes the next character along. -/
  | escape
  | lineComment
  | blockComment
  /-- In a block comment behind a star, which may end it. -/
  | star
  deriving DecidableEq, Repr

namespace Mode

def isString : Mode → Bool
  | .string | .escape => true
  | _ => false

def isBlock : Mode → Bool
  | .blockComment | .star => true
  | _ => false

/-- One more character: the code it adds, and what the reading is in the middle of then. Of a literal only its
quotes are code. -/
def step : Mode → Char → Text × Mode
  | .code, c =>
    if c = '"' then (['"'], .string) else if c = '/' then ([], .slash) else ([c], .code)
  | .slash, c =>
    if c = '/' then ([], .lineComment)
    else if c = '*' then ([], .blockComment)
    else if c = '"' then (['/', '"'], .string)
    else (['/', c], .code)
  | .string, c =>
    if c = '"' then (['"'], .code) else if c = '\\' then ([], .escape) else ([], .string)
  | .escape, _ => ([], .string)
  | .lineComment, _ => ([], .lineComment)
  | .blockComment, c => if c = '*' then ([], .star) else ([], .blockComment)
  | .star, c =>
    if c = '/' then ([], .code) else if c = '*' then ([], .star) else ([], .blockComment)

/-- The end of a line: the code that is still due, and where the next line begins. Only block comments go on. -/
def endLine : Mode → Text × Mode
  | .slash => (['/'], .code)
  | .blockComment | .star => ([], .blockComment)
  | _ => ([], .code)

/-- The code of some characters, and what the reading is in the middle of behind them. -/
def run (m : Mode) : Text → Text × Mode
  | [] => ([], m)
  | c :: r =>
    let rest := run (m.step c).2 r
    ((m.step c).1 ++ rest.1, rest.2)

/-- The code of the rest of a line, and where the next line begins. -/
def readLine (m : Mode) (line : Text) : Text × Mode :=
  let done := m.run line
  (done.1 ++ done.2.endLine.1, done.2.endLine.2)

/-- No double quote stands in a block comment. -/
def noQuoteInBlock (m : Mode) : Text → Bool
  | [] => true
  | c :: r => !(c == '"' && m.isBlock) && noQuoteInBlock (m.step c).2 r

/-- In the rest of the line no double quote stands in a block comment, and every string literal closes. -/
def tame (m : Mode) (line : Text) : Bool := m.noQuoteInBlock line && !(m.run line).2.isString

/-- Where a line begins, in a block comment or in code. -/
def atStart (inBlock : Bool) : Mode := if inBlock then .blockComment else .code

end Mode

def readLines (m : Mode) : List Text → List Text
  | [] => []
  | line :: rest => Text.trim (m.readLine line).1 :: readLines (m.readLine line).2 rest

/-- In all lines no double quote stands in a block comment, and every string literal closes on its line. -/
def tameLines (m : Mode) : List Text → Bool
  | [] => true
  | line :: rest => m.tame line && tameLines (m.readLine line).2 rest

namespace Mode

variable {m : Mode} {a b r : Text} {c : Char}

theorem run_cons (m : Mode) (c : Char) (r : Text) :
    m.run (c :: r) = ((m.step c).1 ++ ((m.step c).2.run r).1, ((m.step c).2.run r).2) := rfl

theorem run_append (m : Mode) (a b : Text) :
    m.run (a ++ b) = ((m.run a).1 ++ ((m.run a).2.run b).1, ((m.run a).2.run b).2) := by
  induction a generalizing m with
  | nil => rfl
  | cons c r ih => rw [List.cons_append, run_cons, ih, run_cons, List.append_assoc]

theorem readLine_cons (m : Mode) (c : Char) (r : Text) :
    m.readLine (c :: r) = ((m.step c).1 ++ ((m.step c).2.readLine r).1, ((m.step c).2.readLine r).2) := by
  simp only [readLine, run_cons, List.append_assoc]

theorem readLine_append (m : Mode) (a b : Text) :
    m.readLine (a ++ b) = ((m.run a).1 ++ ((m.run a).2.readLine b).1, ((m.run a).2.readLine b).2) := by
  simp only [readLine, run_append, List.append_assoc]

theorem tame_cons (m : Mode) (c : Char) (r : Text) :
    m.tame (c :: r) = (!(c == '"' && m.isBlock) && (m.step c).2.tame r) := by
  simp only [tame, noQuoteInBlock, run_cons, Bool.and_assoc]

theorem tame_append (m : Mode) (a b : Text) :
    m.tame (a ++ b) = (m.noQuoteInBlock a && (m.run a).2.tame b) := by
  induction a generalizing m with
  | nil => rfl
  | cons c r ih => rw [List.cons_append, tame_cons, ih, noQuoteInBlock, run_cons, Bool.and_assoc]

/-! ### Slashes and stars -/

theorem readLine_lineComment (t : Text) : lineComment.readLine t = ([], .code) := by
  have hrun : lineComment.run t = ([], .lineComment) := by
    induction t with
    | nil => rfl
    | cons c r ih =>
      rw [run_cons]
      show ([] ++ (lineComment.run r).1, (lineComment.run r).2) = _
      rw [ih]
      rfl
  rw [readLine, hrun]
  rfl

theorem step_slash (hslash : c ≠ '/') (hstar : c ≠ '*') :
    slash.step c = ('/' :: (code.step c).1, (code.step c).2) := by
  simp only [step, hslash, hstar, if_false]
  split <;> rfl

theorem readLine_slash (hslash : ∀ s, r ≠ '/' :: s) (hstar : ∀ s, r ≠ '*' :: s) :
    slash.readLine r = ('/' :: (code.readLine r).1, (code.readLine r).2) := by
  cases r with
  | nil => rfl
  | cons c s =>
    rw [readLine_cons, readLine_cons, step_slash (fun h => hslash s (by rw [h])) fun h => hstar s (by rw [h])]
    rfl

theorem tame_slash (hslash : ∀ s, r ≠ '/' :: s) (hstar : ∀ s, r ≠ '*' :: s) : slash.tame r = code.tame r := by
  cases r with
  | nil => rfl
  | cons c s =>
    rw [tame_cons, tame_cons, step_slash (fun h => hslash s (by rw [h])) fun h => hstar s (by rw [h])]
    rfl

theorem step_star (h : c ≠ '/') : star.step c = blockComment.step c := by
  simp only [step, h, if_false]

theorem readLine_star (h : ∀ s, r ≠ '/' :: s) : star.readLine r = blockComment.readLine r := by
  cases r with
  | nil => rfl
  | cons c s => rw [readLine_cons, readLine_cons, step_star fun hc => h s (by rw [hc])]

theorem tame_star (h : ∀ s, r ≠ '/' :: s) : star.tame r = blockComment.tame r := by
  cases r with
  | nil => rfl
  | cons c s =>
    rw [tame_cons, tame_cons, step_star fun hc => h s (by rw [hc])]
    rfl

end Mode

/-! ## Literals -/

open Mode

/-- The body of a literal ends at the quote where a reading of it ends. -/
theorem exists_of_literalBody? {r body : Text} (h : literalBody? r = some body) :
    ∃ rest, r = (body ++ ['"']) ++ rest ∧ string.run (body ++ ['"']) = (['"'], .code) ∧
      string.noQuoteInBlock (body ++ ['"']) = true := by
  fun_induction literalBody? r generalizing body with
  | case1 => cases h
  | case2 => cases h
  | case3 c r hc ih =>
    obtain ⟨body, hbody, rfl⟩ := Option.map_eq_some_iff.1 h
    obtain ⟨rest, rfl, hrun, hquote⟩ := ih hbody
    refine ⟨rest, rfl, ?_, ?_⟩
    · rw [List.cons_append, List.cons_append, run_cons, run_cons]
      exact hrun
    · rw [List.cons_append, List.cons_append, noQuoteInBlock, noQuoteInBlock,
        show string.step '\\' = ([], .escape) from rfl, show escape.step c = ([], .string) from rfl, hquote]
      simp [isBlock]
  | case4 r => cases h; exact ⟨r, rfl, rfl, rfl⟩
  | case5 => cases h
  | case6 c r _ hquote hback ih =>
    obtain ⟨body, hbody, rfl⟩ := Option.map_eq_some_iff.1 h
    obtain ⟨rest, rfl, hrun, hfits⟩ := ih hbody
    have hstep : string.step c = ([], .string) := by simp [step, hquote, hback]
    refine ⟨rest, rfl, ?_, ?_⟩
    · rw [List.cons_append, run_cons, hstep, hrun]
      rfl
    · rw [List.cons_append, noQuoteInBlock, hstep, hfits]
      simp [isBlock]

/-- What closes no literal is read to its end as one. -/
theorem isString_run_of_literalBody? {r : Text} (hline : '\n' ∉ r) (h : literalBody? r = none) :
    (string.run r).2.isString = true := by
  fun_induction literalBody? r with
  | case1 => rfl
  | case2 => simp at hline
  | case3 c r hc ih =>
    rw [run_cons, run_cons]
    exact ih (fun hm => hline (by simp [hm])) (Option.map_eq_none_iff.1 h)
  | case4 => cases h
  | case5 r hno =>
    cases r with
    | nil => rfl
    | cons c r => exact absurd rfl (hno c r rfl)
  | case6 c r _ hquote hback ih =>
    have hstep : string.step c = ([], .string) := by simp [step, hquote, hback]
    rw [run_cons, hstep]
    exact ih (fun hm => hline (by simp [hm])) (Option.map_eq_none_iff.1 h)

/-- A literal is left as two quotes. -/
theorem eraseLiterals_of_literalBody? {r body rest : Text} (h : literalBody? r = some body)
    (hr : r = (body ++ ['"']) ++ rest) : eraseLiterals ('"' :: r) = '"' :: '"' :: eraseLiterals rest := by
  have hskip : segmentsFrom (body.length + 1) r = segmentsFrom 0 rest := by
    have := segmentsFrom_skip (body ++ ['"']) rest
    rwa [List.length_append, List.length_singleton, ← hr] at this
  rw [eraseLiterals, segments, segmentsFrom, if_pos rfl, h]
  simp only [hskip]
  rfl

theorem eraseLiterals_cons {c : Char} (h : c ≠ '"') (r : Text) : eraseLiterals (c :: r) = c :: eraseLiterals r :=
  eraseLiterals_append_of_no_quote (a := [c]) (by simpa using h.symm) r

/-- A text begins with a quote where it does without its literals, and else with the same character. -/
theorem head?_eraseLiterals (t : Text) : (eraseLiterals t).head? = t.head? := by
  cases t with
  | nil => rfl
  | cons c r =>
    by_cases hc : c = '"'
    · subst hc
      rw [eraseLiterals, segments, segmentsFrom, if_pos rfl]
      cases literalBody? r <;> rfl
    · rw [eraseLiterals_cons hc]
      rfl

/-! ## Lines -/

theorem keepCode_cons {c : Char} {r : Text} (h : c = '/' → ∀ s, r ≠ '/' :: s ∧ r ≠ '*' :: s) :
    keepCode false (c :: r) = (c :: (keepCode false r).1, (keepCode false r).2) := by
  rw [keepCode]
  · exact fun s hc hr => (h hc s).1 hr
  · exact fun s hc hr => (h hc s).2 hr

theorem keepCode_cons_of_block {c : Char} {r : Text} (h : c = '*' → ∀ s, r ≠ '/' :: s) :
    keepCode true (c :: r) = keepCode true r := by
  rw [keepCode]
  exact fun s hc hr => h hc s hr

theorem eraseLiterals_ne_cons {c : Char} {r : Text} (h : ∀ s, r ≠ c :: s) (s : Text) : eraseLiterals r ≠ c :: s := by
  intro hs
  have hhead := head?_eraseLiterals r
  rw [hs] at hhead
  cases r with
  | nil => cases hhead
  | cons d r =>
    cases hhead
    exact h r rfl

/-- Of the rest of a line, if it is tame, is read what is left of it without its literals and comments. -/
def ReadsAlike (inBlock : Bool) (line : Text) : Prop :=
  (atStart inBlock).tame line = true → (atStart inBlock).readLine line =
    ((keepCode inBlock (eraseLiterals line)).1, atStart (keepCode inBlock (eraseLiterals line)).2)

namespace ReadsAlike

variable {c : Char} {r : Text}

theorem nil (inBlock : Bool) : ReadsAlike inBlock [] := by
  intro _
  cases inBlock <;> rfl

/-! ### In a block comment -/

theorem comment (hstar : c = '*' → ∀ s, r ≠ '/' :: s) (h : ReadsAlike true r) : ReadsAlike true (c :: r) := by
  intro htame
  rw [atStart, if_pos rfl] at *
  have hquote : c ≠ '"' := by
    rintro rfl
    rw [tame_cons] at htame
    simp [isBlock] at htame
  have hstep : (blockComment.step c).1 = [] ∧ (blockComment.step c).2.tame r = blockComment.tame r ∧
      (blockComment.step c).2.readLine r = blockComment.readLine r := by
    by_cases hc : c = '*'
    · subst hc
      exact ⟨rfl, tame_star (hstar rfl), readLine_star (hstar rfl)⟩
    · simp [step, hc]
  rw [tame_cons, hstep.2.1, Bool.and_eq_true] at htame
  rw [readLine_cons, hstep.1, hstep.2.2, eraseLiterals_cons hquote,
    keepCode_cons_of_block fun hc => eraseLiterals_ne_cons (hstar hc)]
  exact h htame.2

theorem commentEnd (h : ReadsAlike false r) : ReadsAlike true ('*' :: '/' :: r) := by
  intro htame
  rw [tame_cons, tame_cons, Bool.and_eq_true, Bool.and_eq_true] at htame
  rw [readLine_cons, readLine_cons, eraseLiterals_cons (by decide), eraseLiterals_cons (by decide), keepCode]
  exact h htame.2.2

/-! ### In code -/

theorem char (hquote : c ≠ '"') (hslash : c = '/' → ∀ s, r ≠ '/' :: s ∧ r ≠ '*' :: s) (h : ReadsAlike false r) :
    ReadsAlike false (c :: r) := by
  intro htame
  have hstep : (code.step c).2.tame r = code.tame r ∧
      code.readLine (c :: r) = (c :: (code.readLine r).1, (code.readLine r).2) := by
    by_cases hc : c = '/'
    · subst hc
      have hr := hslash rfl
      exact ⟨tame_slash (fun s => (hr s).1) fun s => (hr s).2, readLine_slash (fun s => (hr s).1) fun s => (hr s).2⟩
    · have hstep : code.step c = ([c], .code) := by simp [step, hquote, hc]
      exact ⟨by rw [hstep], by rw [readLine_cons, hstep]; rfl⟩
  have hrest : code.tame r = true := by
    rw [← hstep.1]
    rw [show atStart false = code from rfl, tame_cons, Bool.and_eq_true] at htame
    exact htame.2
  rw [show atStart false = code from rfl, hstep.2, eraseLiterals_cons hquote, keepCode_cons fun hc s =>
    ⟨eraseLiterals_ne_cons (fun s => (hslash hc s).1) s, eraseLiterals_ne_cons (fun s => (hslash hc s).2) s⟩]
  rw [show code.readLine r = _ from h hrest]

theorem lineComment (r : Text) : ReadsAlike false ('/' :: '/' :: r) := by
  intro _
  rw [readLine_cons, readLine_cons, eraseLiterals_cons (by decide), eraseLiterals_cons (by decide),
    keepCode_of_comment]
  exact readLine_lineComment r

theorem blockComment (h : ReadsAlike true r) : ReadsAlike false ('/' :: '*' :: r) := by
  intro htame
  rw [tame_cons, tame_cons, Bool.and_eq_true, Bool.and_eq_true] at htame
  rw [readLine_cons, readLine_cons, eraseLiterals_cons (by decide), eraseLiterals_cons (by decide), keepCode]
  exact h htame.2.2

theorem literal {body rest : Text} (hbody : literalBody? r = some body) (hr : r = (body ++ ['"']) ++ rest)
    (hrun : string.run (body ++ ['"']) = (['"'], .code)) (h : ReadsAlike false rest) :
    ReadsAlike false ('"' :: r) := by
  intro htame
  have hcode : ∀ t, keepCode false ('"' :: t) = ('"' :: (keepCode false t).1, (keepCode false t).2) := fun t =>
    keepCode_cons fun hc => by cases hc
  rw [tame_cons, hr, show (atStart false).step '"' = (['"'], .string) from rfl, tame_append, hrun,
    Bool.and_eq_true, Bool.and_eq_true] at htame
  rw [readLine_cons, show (atStart false).step '"' = (['"'], .string) from rfl, hr, readLine_append, hrun, ← hr,
    eraseLiterals_of_literalBody? hbody hr, hcode, hcode]
  rw [show code.readLine rest = _ from h htame.2.2]
  rfl

end ReadsAlike

/-- A tame line without its literals and comments is what is read of it. -/
theorem readsAlike {line : Text} (hline : '\n' ∉ line) (inBlock : Bool) : ReadsAlike inBlock line := by
  match inBlock, line with
  | inBlock, [] => exact .nil inBlock
  | true, c :: r =>
    have hr : '\n' ∉ r := fun hm => hline (List.mem_cons_of_mem c hm)
    by_cases hend : c = '*' ∧ ∃ s, r = '/' :: s
    · obtain ⟨rfl, s, rfl⟩ := hend
      exact .commentEnd (readsAlike (fun hm => hr (List.mem_cons_of_mem '/' hm)) false)
    · exact .comment (fun hc s hs => hend ⟨hc, s, hs⟩) (readsAlike hr true)
  | false, c :: r =>
    have hr : '\n' ∉ r := fun hm => hline (List.mem_cons_of_mem c hm)
    by_cases hquote : c = '"'
    · subst hquote
      cases hbody : literalBody? r with
      | some body =>
        obtain ⟨rest, hrest, hrun, -⟩ := exists_of_literalBody? hbody
        have hshort : rest.length < r.length := by
          rw [hrest, List.length_append, List.length_append, List.length_singleton]
          omega
        exact .literal hbody hrest hrun (readsAlike (fun hm => hr (by rw [hrest]; exact List.mem_append_right _ hm)) false)
      | none =>
        -- such a line is not tame
        intro htame
        rw [tame, run_cons, show (atStart false).step '"' = (['"'], .string) from rfl,
          isString_run_of_literalBody? hr hbody] at htame
        simp at htame
    by_cases hcomment : c = '/' ∧ ∃ s, r = '/' :: s ∨ r = '*' :: s
    · obtain ⟨rfl, s, rfl | rfl⟩ := hcomment
      · exact .lineComment s
      · exact .blockComment (readsAlike (fun hm => hr (List.mem_cons_of_mem '*' hm)) true)
    · exact .char hquote (fun hc s => ⟨fun hs => hcomment ⟨hc, s, .inl hs⟩, fun hs => hcomment ⟨hc, s, .inr hs⟩⟩)
        (readsAlike hr false)
termination_by line.length

/-! ## Blanks at the ends -/

namespace Mode

variable {m : Mode} {b : Text}

theorem ne_of_isBlank {c d : Char} (hc : isBlank c = true) (hd : isBlank d = false) : c ≠ d := by
  rintro rfl
  rw [hc] at hd
  cases hd

theorem run_code_blanks (hb : Text.isAllBlank b = true) : code.run b = (b, .code) := by
  induction b with
  | nil => rfl
  | cons c r ih =>
    rw [Text.isAllBlank_cons_iff] at hb
    have hstep : code.step c = ([c], .code) := by
      simp [step, ne_of_isBlank hb.1 (show isBlank '"' = false by decide),
        ne_of_isBlank hb.1 (show isBlank '/' = false by decide)]
    rw [run_cons, hstep, ih hb.2]
    rfl

theorem run_blockComment_blanks (hb : Text.isAllBlank b = true) : blockComment.run b = ([], .blockComment) := by
  induction b with
  | nil => rfl
  | cons c r ih =>
    rw [Text.isAllBlank_cons_iff] at hb
    have hstep : blockComment.step c = ([], .blockComment) := by
      simp [step, ne_of_isBlank hb.1 (show isBlank '*' = false by decide)]
    rw [run_cons, hstep, ih hb.2]
    rfl

/-- Blanks at the beginning of a line are code or comment, and nothing begins in them. -/
theorem run_blanks (hb : Text.isAllBlank b = true) (inBlock : Bool) :
    ∃ kept, Text.isAllBlank kept = true ∧ (atStart inBlock).run b = (kept, atStart inBlock) := by
  cases inBlock with
  | false => exact ⟨b, hb, run_code_blanks hb⟩
  | true => exact ⟨[], rfl, run_blockComment_blanks hb⟩

theorem readLine_blanks (hb : Text.isAllBlank b = true) (hm : m.isString = false) :
    ∃ kept, Text.isAllBlank kept = true ∧ m.readLine b = (m.endLine.1 ++ kept, m.endLine.2) := by
  have hne : ∀ d, isBlank d = false → ∀ s, b ≠ d :: s := by
    rintro d hd s rfl
    exact ne_of_isBlank (Text.isBlank_of_mem hb (List.mem_cons_self ..)) hd rfl
  have hcode : code.readLine b = (b, .code) := by
    rw [readLine, run_code_blanks hb]
    exact congrArg (·, Mode.code) (List.append_nil b)
  have hblock : blockComment.readLine b = ([], .blockComment) := by
    rw [readLine, run_blockComment_blanks hb]
    rfl
  cases m with
  | code => exact ⟨b, hb, hcode⟩
  | slash =>
    refine ⟨b, hb, ?_⟩
    rw [readLine_slash (hne '/' (by decide)) (hne '*' (by decide)), hcode]
    rfl
  | string => cases hm
  | escape => cases hm
  | lineComment => exact ⟨[], rfl, readLine_lineComment b⟩
  | blockComment => exact ⟨[], rfl, hblock⟩
  | star =>
    refine ⟨[], rfl, ?_⟩
    rw [readLine_star (hne '/' (by decide)), hblock]
    rfl

theorem isString_run_blanks (hb : Text.isAllBlank b = true) (hm : m.isString = true) :
    (m.run b).2.isString = true := by
  induction b generalizing m with
  | nil => exact hm
  | cons c r ih =>
    rw [Text.isAllBlank_cons_iff] at hb
    rw [run_cons]
    refine ih hb.2 ?_
    cases m with
    | string =>
      simp only [step, ne_of_isBlank hb.1 (show isBlank '"' = false by decide), if_false]
      split <;> rfl
    | escape => rfl
    | _ => cases hm

end Mode

/-! ## Documents -/

/-- The code of a tame line is what is read of it, and the comment state behind it is the one read. -/
theorem lineCode_eq_readLine {line : Text} (hline : '\n' ∉ line) {inBlock : Bool}
    (h : (atStart inBlock).tame line = true) :
    (lineCode inBlock line).1 = Text.trim ((atStart inBlock).readLine line).1 ∧
      atStart (lineCode inBlock line).2 = ((atStart inBlock).readLine line).2 := by
  obtain ⟨a, b, ha, hb, hends⟩ := Text.exists_trim line
  obtain ⟨lead, hlead, hrun⟩ := run_blanks ha inBlock
  have hrest : (atStart inBlock).tame (Text.trim line ++ b) = true := by
    rw [hends, tame_append, hrun, Bool.and_eq_true] at h
    exact h.2
  have hopen : ((atStart inBlock).run (Text.trim line)).2.isString = false := by
    refine Bool.eq_false_iff.2 fun hstring => ?_
    rw [tame, run_append, isString_run_blanks hb hstring, Bool.not_true, Bool.and_false] at hrest
    cases hrest
  have htame : (atStart inBlock).tame (Text.trim line) = true := by
    rw [tame_append, Bool.and_eq_true] at hrest
    rw [tame, hrest.1, hopen]
    rfl
  obtain ⟨tail, htail, hlast⟩ := readLine_blanks hb hopen
  have hkept := readsAlike (fun hm => hline (Text.mem_of_mem_trim hm)) inBlock htame
  have hread := calc (atStart inBlock).readLine line
      = (atStart inBlock).readLine (a ++ (Text.trim line ++ b)) := congrArg _ hends
    _ = (lead ++ (((atStart inBlock).readLine (Text.trim line)).1 ++ tail),
          ((atStart inBlock).readLine (Text.trim line)).2) := by
      rw [readLine_append, hrun, readLine_append, hlast, readLine, List.append_assoc]
  rw [hread, hkept]
  refine ⟨?_, rfl⟩
  rw [Text.trim_append_of_isAllBlank hlead, Text.trim_append_blanks htail]
  rfl

theorem codePartsFrom_eq_readLines {lines : List Text} (hline : ∀ line ∈ lines, '\n' ∉ line) {inBlock : Bool}
    (h : tameLines (atStart inBlock) lines = true) :
    codePartsFrom inBlock lines = readLines (atStart inBlock) lines := by
  induction lines generalizing inBlock with
  | nil => rfl
  | cons line rest ih =>
    rw [tameLines, Bool.and_eq_true] at h
    obtain ⟨hcode, hstate⟩ := lineCode_eq_readLine (hline line (List.mem_cons_self ..)) h.1
    rw [← hstate] at h
    rw [codePartsFrom, readLines, hcode, ← hstate, ih (fun l hl => hline l (List.mem_cons_of_mem line hl)) h.2]

/-- The code of lines is what is read of them character by character, if in them every string literal closes on
its line and no block comment holds a double quote. -/
theorem codeParts_eq_readLines {lines : List Text} (hline : ∀ line ∈ lines, '\n' ∉ line)
    (h : tameLines .code lines = true) : codeParts lines = readLines .code lines :=
  codePartsFrom_eq_readLines hline h

/-- Delimiters that overlap, stand in literals, or end what has not begun. -/
theorem codeParts_eq_readLines_of_overlaps :
    codeParts
        [" a /*/ b */ c //* d".toList, "*/ e \"/* \\\" // */\" /* f */ g /".toList, "h /* i **".toList,
          "// j".toList, "k */ \"\" //".toList] =
      ["a  c".toList, "*/ e \"\"  g /".toList, "h".toList, [], "\"\"".toList] :=
  codeParts_eq_readLines (by decide) (by decide)

end SdkGraft.Source

import SdkGraft.Proofs.Text.Blanks
import SdkGraft.Source.Anchor
import SdkGraft.Credentials

/-!
# What the code of a line depends on

* `segments_append_of_no_quote`, `segments_literal` : a line taken apart from its left end;
* `bare` : a line trimmed, its literals emptied; `codePartsFrom_eq_of_bare` : the code of lines depends
  on nothing else;
* `lineCode_of_no_slash`, `lineCode_of_comment`, `lineCode_of_no_star` : lines that are all code, or
  none of it;
* `Braces.read_depth`, `Braces.read_opened` : the depth of braces is a count, and what is opened stays told;
  `Braces.readAll` : over many lines;
* `Deepens` : lines that keep the comment state and shift the depth of braces (`Deepens.append`, `Deepens.cons`):
  `deepens_of_no_star`, `deepens_of_no_slash`, `deepens_of_comment`.
-/

namespace SdkGraft.Source

/-! ## Literals -/

theorem segmentsFrom_skip (skipped r : Text) :
    segmentsFrom skipped.length (skipped ++ r) = segmentsFrom 0 r := by
  induction skipped with
  | nil => rfl
  | cons c cs ih => rw [List.length_cons, List.cons_append, segmentsFrom, ih]

theorem segments_append_of_no_quote {a : Text} (h : '"' ∉ a) (r : Text) :
    segments (a ++ r) = a.map Segment.char ++ segments r := by
  induction a with
  | nil => rfl
  | cons c s ih =>
    have hc : c ≠ '"' := fun hc => h (by simp [hc])
    have ih := ih fun hs => h (by simp [hs])
    simp only [segments] at ih ⊢
    rw [List.cons_append, segmentsFrom, if_neg hc, ih, List.map_cons, List.cons_append]

theorem literalBody?_of_fit {body : Text} (hq : '"' ∉ body) (hb : '\\' ∉ body) (r : Text) :
    literalBody? (body ++ '"' :: r) = some body := by
  induction body with
  | nil => simp [literalBody?]
  | cons c s ih =>
    have hcq : c ≠ '"' := fun hc => hq (by simp [hc])
    have hcb : c ≠ '\\' := fun hc => hb (by simp [hc])
    have ih := ih (fun hs => hq (by simp [hs])) fun hs => hb (by simp [hs])
    rw [List.cons_append, literalBody?, if_neg hcq, if_neg hcb, ih]
    · rfl
    · intro c' r' hc
      exact absurd hc hcb

/-- A text without quotes and backslashes between quotes is one literal. -/
theorem segments_literal {body : Text} (hq : '"' ∉ body) (hb : '\\' ∉ body) (r : Text) :
    segments ('"' :: (body ++ '"' :: r)) = .literal body :: segments r := by
  have hskip : segmentsFrom (body.length + 1) (body ++ '"' :: r) = segmentsFrom 0 r := by
    have := segmentsFrom_skip (body ++ ['"']) r
    simpa using this
  rw [segments, segmentsFrom, if_pos rfl, literalBody?_of_fit hq hb]
  simp only
  rw [hskip, segments]

theorem flatMap_erased_map_char (a : Text) : (a.map Segment.char).flatMap Segment.erased = a := by
  induction a with
  | nil => rfl
  | cons c s ih => rw [List.map_cons, List.flatMap_cons, ih]; rfl

theorem eraseLiterals_append_of_no_quote {a : Text} (h : '"' ∉ a) (r : Text) :
    eraseLiterals (a ++ r) = a ++ eraseLiterals r := by
  rw [eraseLiterals, segments_append_of_no_quote h, List.flatMap_append, flatMap_erased_map_char,
    eraseLiterals]

theorem eraseLiterals_literal {body : Text} (hq : '"' ∉ body) (hb : '\\' ∉ body) (r : Text) :
    eraseLiterals ('"' :: (body ++ '"' :: r)) = '"' :: '"' :: eraseLiterals r := by
  rw [eraseLiterals, segments_literal hq hb, List.flatMap_cons, eraseLiterals]
  rfl

theorem eraseLiterals_of_no_quote {a : Text} (h : '"' ∉ a) : eraseLiterals a = a := by
  have := eraseLiterals_append_of_no_quote h []
  simpa [eraseLiterals, segments, segmentsFrom] using this

theorem literals_append_of_no_quote {a : Text} (h : '"' ∉ a) (r : Text) :
    literals (a ++ r) = literals r := by
  simp [literals, segments_append_of_no_quote h, List.filterMap_map]

theorem literals_literal {body : Text} (hq : '"' ∉ body) (hb : '\\' ∉ body) (r : Text) :
    literals ('"' :: (body ++ '"' :: r)) = body :: literals r := by
  rw [literals, segments_literal hq hb]
  rfl

theorem literals_of_no_quote {a : Text} (h : '"' ∉ a) : literals a = [] := by
  have := literals_append_of_no_quote h []
  simpa [literals, segments, segmentsFrom] using this

/-! ## Bare lines -/

/-- A line trimmed, the contents of its literals taken out. -/
def bare (line : Text) : Text := eraseLiterals (Text.trim line)

theorem bare_of_no_quote {line : Text} (h : '"' ∉ line) : bare line = Text.trim line :=
  eraseLiterals_of_no_quote fun hm => h (Text.mem_of_mem_trim hm)

theorem lineCode_eq_of_bare (inBlock : Bool) {l m : Text} (h : bare l = bare m) :
    lineCode inBlock l = lineCode inBlock m := by
  simp only [bare] at h
  rw [lineCode, lineCode, h]

/-- The code of lines, and the comment state behind them, depend only on the bare lines. -/
theorem codePartsFrom_eq_of_bare {ls ms : List Text} (h : ls.map bare = ms.map bare) (inBlock : Bool) :
    codePartsFrom inBlock ls = codePartsFrom inBlock ms ∧ openAfter inBlock ls = openAfter inBlock ms := by
  induction ls generalizing ms inBlock with
  | nil =>
    cases ms with
    | nil => exact ⟨rfl, rfl⟩
    | cons m ms => simp at h
  | cons l ls ih =>
    cases ms with
    | nil => simp at h
    | cons m ms =>
      simp only [List.map_cons, List.cons.injEq] at h
      have hl := lineCode_eq_of_bare inBlock h.1
      obtain ⟨h1, h2⟩ := ih h.2 (lineCode inBlock m).2
      exact ⟨by rw [codePartsFrom, codePartsFrom, hl, h1],
        by rw [openAfter, openAfter, hl, h2]⟩

/-! ## Comments -/

theorem keepCode_of_no_slash {t : Text} (h : '/' ∉ t) : keepCode false t = (t, false) := by
  induction t with
  | nil => rfl
  | cons c s ih =>
    have hc : c ≠ '/' := fun hc => h (by simp [hc])
    have ih := ih fun hs => h (by simp [hs])
    rw [keepCode]
    · simp only [ih]
    · intro r hr
      simp [hc] at hr
    · intro r hr
      simp [hc] at hr

theorem keepCode_of_comment (t : Text) : keepCode false ('/' :: '/' :: t) = ([], false) := rfl

theorem keepCode_of_no_star {t : Text} (h : '*' ∉ t) : keepCode true t = ([], true) := by
  induction t with
  | nil => rfl
  | cons c s ih =>
    have hc : c ≠ '*' := fun hc => h (by simp [hc])
    rw [keepCode]
    · exact ih fun hs => h (by simp [hs])
    · intro r hr
      simp [hc] at hr

theorem lineCode_eq_keepCode (inBlock : Bool) (line : Text) :
    lineCode inBlock line = (Text.trim (keepCode inBlock (bare line)).1, (keepCode inBlock (bare line)).2) := rfl

/-- Outside of comments, a line without a slash is code. -/
theorem lineCode_of_no_slash {line : Text} (h : '/' ∉ bare line) :
    lineCode false line = (Text.trim (bare line), false) := by
  rw [lineCode_eq_keepCode, keepCode_of_no_slash h]

theorem lineCode_of_comment {line rest : Text} (h : bare line = '/' :: '/' :: rest) :
    lineCode false line = ([], false) := by
  rw [lineCode_eq_keepCode, h, keepCode_of_comment]
  rfl

/-- Inside a block comment, a line without a star is comment. -/
theorem lineCode_of_no_star {line : Text} (h : '*' ∉ bare line) : lineCode true line = ([], true) := by
  rw [lineCode_eq_keepCode, keepCode_of_no_star h]
  rfl

theorem codePartsFrom_of_no_star {lines : List Text} (h : ∀ line ∈ lines, '*' ∉ bare line) :
    codePartsFrom true lines = List.replicate lines.length [] := by
  induction lines with
  | nil => rfl
  | cons line rest ih =>
    rw [codePartsFrom, lineCode_of_no_star (h line (by simp)), ih fun l hl => h l (by simp [hl])]
    rfl

/-! ## Braces -/

theorem Braces.ext {b b' : Braces} (hdepth : b.depth = b'.depth) (hopened : b.opened = b'.opened) : b = b' := by
  cases b
  cases b'
  cases hdepth
  cases hopened
  rfl

theorem Braces.step_depth (b : Braces) (c : Char) :
    (b.step c).depth = b.depth + [c].count '\x7b' - [c].count '\x7d' := by
  rw [Braces.step]
  split
  · rename_i h; subst h; simp
  split
  · rename_i h; subst h; simp
  · rename_i h1 h2; simp [h1, h2]

theorem Braces.read_depth (b : Braces) (code : Text) :
    (b.read code).depth = b.depth + code.count '\x7b' - code.count '\x7d' := by
  induction code generalizing b with
  | nil => simp [Braces.read]
  | cons c r ih =>
    have hstep := b.step_depth c
    have hcount : ∀ brace : Char, (c :: r).count brace = [c].count brace + r.count brace := fun brace => by
      rw [← List.count_append, List.singleton_append]
    rw [show b.read (c :: r) = (b.step c).read r from rfl, ih, hstep, hcount, hcount]
    omega

theorem Braces.none_read_depth (code : Text) :
    (Braces.none.read code).depth = code.count '\x7b' - code.count '\x7d' := by
  rw [Braces.none.read_depth, show Braces.none.depth = 0 from rfl, Int.zero_add]

/-- A brace has been opened if one was before, or if the code opens one. -/
theorem Braces.read_opened (b : Braces) (code : Text) :
    (b.read code).opened = (b.opened || decide ('\x7b' ∈ code)) := by
  induction code generalizing b with
  | nil => simp [Braces.read]
  | cons c r ih =>
    rw [show b.read (c :: r) = (b.step c).read r from rfl, ih]
    unfold Braces.step
    split
    · rename_i hc
      simp [hc]
    split
    · rename_i hc
      simp [hc]
    · rename_i hopening hclosing
      simp [Ne.symm hopening]

/-- Code without braces leaves them as they are. -/
theorem Braces.read_of_not_mem {code : Text} (hopening : '\x7b' ∉ code) (hclosing : '\x7d' ∉ code) (b : Braces) :
    b.read code = b := by
  induction code with
  | nil => rfl
  | cons c r ih =>
    rw [List.mem_cons, not_or] at hopening hclosing
    have hstep : b.step c = b := by
      unfold Braces.step
      rw [if_neg (Ne.symm hopening.1), if_neg (Ne.symm hclosing.1)]
    show (b.step c).read r = b
    rw [hstep, ih hopening.2 hclosing.2]

def Braces.readAll (b : Braces) (codes : List Text) : Braces := codes.foldl Braces.read b

theorem Braces.readAll_cons (b : Braces) (code : Text) (codes : List Text) :
    b.readAll (code :: codes) = (b.read code).readAll codes := rfl

theorem Braces.readAll_append (b : Braces) (codes codes' : List Text) :
    b.readAll (codes ++ codes') = (b.readAll codes).readAll codes' := List.foldl_append

theorem Braces.readAll_depth (b : Braces) (codes : List Text) :
    (b.readAll codes).depth = b.depth + (Braces.none.readAll codes).depth := by
  induction codes generalizing b with
  | nil => simp [Braces.readAll, Braces.none]
  | cons code rest ih =>
    have h0 : Braces.none.depth = 0 := rfl
    rw [readAll_cons, readAll_cons, ih, ih (Braces.none.read code), b.read_depth,
      Braces.none.read_depth, h0]
    omega

theorem Braces.readAll_opened {b : Braces} (h : b.opened = true) (codes : List Text) :
    (b.readAll codes).opened = true := by
  induction codes generalizing b with
  | nil => exact h
  | cons code rest ih =>
    apply ih
    rw [b.read_opened, h, Bool.true_or]

/-! ## Lines between other lines -/

/-- How much deeper the braces are after the lines. -/
def nesting (inBlock : Bool) (lines : List Text) : Int :=
  (Braces.none.readAll (codePartsFrom inBlock lines)).depth

theorem openAfter_append (inBlock : Bool) (before after : List Text) :
    openAfter inBlock (before ++ after) = openAfter (openAfter inBlock before) after := by
  induction before generalizing inBlock with
  | nil => rfl
  | cons line rest ih => rw [List.cons_append, openAfter, ih, openAfter]

theorem nesting_append (inBlock : Bool) (before after : List Text) :
    nesting inBlock (before ++ after) =
      nesting inBlock before + nesting (openAfter inBlock before) after := by
  rw [nesting, codePartsFrom_append, Braces.readAll_append, Braces.readAll_depth, nesting, nesting]

theorem nesting_singleton (inBlock : Bool) (line : Text) :
    nesting inBlock [line] =
      (lineCode inBlock line).1.count '\x7b' - (lineCode inBlock line).1.count '\x7d' :=
  Braces.none_read_depth _

/-- The lines leave the comment state as they find it, and the braces deeper by `k`. -/
structure Deepens (inBlock : Bool) (lines : List Text) (k : Int) : Prop where
  state : openAfter inBlock lines = inBlock
  depth : nesting inBlock lines = k

theorem Deepens.append {inBlock : Bool} {xs ys : List Text} {j k : Int} (hx : Deepens inBlock xs j)
    (hy : Deepens inBlock ys k) : Deepens inBlock (xs ++ ys) (j + k) where
  state := by rw [openAfter_append, hx.state, hy.state]
  depth := by rw [nesting_append, hx.state, hx.depth, hy.depth]

theorem Deepens.cons {inBlock : Bool} {line : Text} {lines : List Text} {j k : Int} (hline : Deepens inBlock [line] j)
    (hlines : Deepens inBlock lines k) : Deepens inBlock (line :: lines) (j + k) := hline.append hlines

theorem Deepens.of_bare {inBlock : Bool} {xs ys : List Text} {k : Int} (h : xs.map bare = ys.map bare)
    (hy : Deepens inBlock ys k) : Deepens inBlock xs k where
  state := by rw [(codePartsFrom_eq_of_bare h inBlock).2, hy.state]
  depth := by rw [nesting, (codePartsFrom_eq_of_bare h inBlock).1]; exact hy.depth

/-- What follows lines that keep the comment state is read as if they were not there. -/
theorem Deepens.codePartsFrom_append {inBlock : Bool} {lines : List Text} {k : Int}
    (h : Deepens inBlock lines k) (after : List Text) :
    codePartsFrom inBlock (lines ++ after) = codePartsFrom inBlock lines ++ codePartsFrom inBlock after := by
  rw [Source.codePartsFrom_append, h.state]

/-- Inside a block comment, lines without a star are comment. -/
theorem deepens_of_no_star {lines : List Text} (h : ∀ line ∈ lines, '*' ∉ bare line) :
    Deepens true lines 0 := by
  induction lines with
  | nil => exact ⟨rfl, rfl⟩
  | cons line rest ih =>
    have hline := lineCode_of_no_star (h line (by simp))
    have hone : Deepens true [line] 0 :=
      ⟨by rw [openAfter, hline]; rfl, by rw [nesting_singleton, hline]; rfl⟩
    exact hone.cons (ih fun l hl => h l (by simp [hl]))

/-- Outside of comments, a line without a slash is code. -/
theorem deepens_of_no_slash {line : Text} (h : '/' ∉ bare line) :
    Deepens false [line] ((bare line).count '\x7b' - (bare line).count '\x7d') := by
  have hline := lineCode_of_no_slash h
  refine ⟨by rw [openAfter, hline]; rfl, ?_⟩
  rw [nesting_singleton, hline, Text.count_trim (by decide), Text.count_trim (by decide)]

theorem deepens_of_comment {line rest : Text} (h : bare line = '/' :: '/' :: rest) :
    Deepens false [line] 0 := by
  have hline := lineCode_of_comment h
  exact ⟨by rw [openAfter, hline]; rfl, by rw [nesting_singleton, hline]; rfl⟩

end SdkGraft.Source

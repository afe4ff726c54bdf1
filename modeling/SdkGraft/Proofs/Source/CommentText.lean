import SdkGraft.Proofs.Source.Reading
import SdkGraft.Settings.Basic

/-!
# The text of comments

* `SameButComment` : two lines that differ in the text of one comment (`SameButComment.readLine_eq`);
* `modeAfter` : what a reading of lines is in the middle of behind them (`atStart_openAfter`);
* `codeParts_of_sameButComment` : the code of tame lines does not depend on the text of comments;
* `analysis_of_sameButComment` : nor does what is found in a document;
* `classify_of_quote_in_comment` : a double quote in a block comment is not tame, and changes what is found.
-/

namespace SdkGraft.Source

open Mode

/-! ## One line -/

/-- The lines, their reading begun in the middle of `m`, differ in the text of one comment at most. -/
inductive SameButComment (m : Mode) : Text → Text → Prop where
  /-- In a block comment, the text up to its end, or to the end of the line if it goes on behind that. -/
  | block {head text text' tail : Text} (hm : (m.run head).2 = .blockComment)
      (htext : Text.occursIn "*/".toList text = false) (htext' : Text.occursIn "*/".toList text' = false)
      (htail : tail = [] ∨ ∃ rest, tail = '*' :: '/' :: rest) :
      SameButComment m (head ++ (text ++ tail)) (head ++ (text' ++ tail))
  /-- In a line comment, the rest of the line. -/
  | line {head text text' : Text} (hm : (m.run head).2 = .lineComment) :
      SameButComment m (head ++ text) (head ++ text')

namespace Mode

theorem run_comment {m : Mode} {text : Text} (hm : m.isBlock = true) (hend : m = .star → text.head? ≠ some '/')
    (htext : Text.occursIn "*/".toList text = false) : (m.run text).1 = [] ∧ (m.run text).2.isBlock = true := by
  induction text generalizing m with
  | nil => exact ⟨rfl, hm⟩
  | cons c r ih =>
    rw [Text.occursIn, Bool.or_eq_false_iff] at htext
    have hstep : m.step c = blockComment.step c := by
      cases m with
      | blockComment => rfl
      | star => exact step_star fun hc => hend rfl (by rw [hc]; rfl)
      | _ => cases hm
    rw [run_cons, hstep]
    by_cases hc : c = '*'
    · subst hc
      refine ih rfl (fun _ hr => ?_) htext.2
      cases r with
      | nil => cases hr
      | cons d s =>
        cases hr
        exact Bool.noConfusion htext.1
    · rw [show blockComment.step c = ([], .blockComment) by simp [step, hc]]
      exact ih rfl (fun h => by cases h) htext.2

/-- What follows the text of a block comment on its line is read as if the text were not there. -/
theorem readLine_comment {text tail : Text} (htext : Text.occursIn "*/".toList text = false)
    (htail : tail = [] ∨ ∃ rest, tail = '*' :: '/' :: rest) :
    blockComment.readLine (text ++ tail) = blockComment.readLine tail := by
  obtain ⟨hcode, hblock⟩ := run_comment (m := .blockComment) rfl (fun h => by cases h) htext
  rw [readLine_append, hcode, List.nil_append]
  cases hmode : (blockComment.run text).2 with
  | blockComment => rfl
  | star => obtain rfl | ⟨rest, rfl⟩ := htail <;> rfl
  | _ => rw [hmode] at hblock; cases hblock

end Mode

theorem SameButComment.readLine_eq {m : Mode} {line line' : Text} (h : SameButComment m line line') :
    m.readLine line' = m.readLine line := by
  cases h with
  | @block head text text' tail hm htext htext' htail =>
    rw [readLine_append m head, readLine_append m head, hm, readLine_comment htext htail,
      readLine_comment htext' htail]
  | @line head text text' hm =>
    rw [readLine_append m head, readLine_append m head, hm, readLine_lineComment, readLine_lineComment]

theorem atStart_injective {b b' : Bool} (h : atStart b = atStart b') : b = b' := by
  cases b <;> cases b' <;> first | rfl | cases h

theorem lineCode_of_sameButComment {inBlock : Bool} {line line' : Text} (hline : '\n' ∉ line) (hline' : '\n' ∉ line')
    (h : (atStart inBlock).tame line = true) (h' : (atStart inBlock).tame line' = true)
    (hsame : SameButComment (atStart inBlock) line line') : lineCode inBlock line' = lineCode inBlock line := by
  obtain ⟨hcode, hstate⟩ := lineCode_eq_readLine hline h
  obtain ⟨hcode', hstate'⟩ := lineCode_eq_readLine hline' h'
  rw [hsame.readLine_eq] at hcode' hstate'
  exact Prod.ext (hcode'.trans hcode.symm) (atStart_injective (hstate'.trans hstate.symm))

/-! ## Documents -/

/-- What a reading of lines is in the middle of behind them. -/
def modeAfter (m : Mode) : List Text → Mode
  | [] => m
  | line :: rest => modeAfter (m.readLine line).2 rest

theorem tameLines_append (m : Mode) (before after : List Text) :
    tameLines m (before ++ after) = (tameLines m before && tameLines (modeAfter m before) after) := by
  induction before generalizing m with
  | nil => rfl
  | cons line rest ih => rw [List.cons_append, tameLines, ih, tameLines, modeAfter, Bool.and_assoc]

/-- Behind tame lines a reading is in a block comment where one is open. -/
theorem atStart_openAfter {lines : List Text} (hline : ∀ line ∈ lines, '\n' ∉ line) {inBlock : Bool}
    (h : tameLines (atStart inBlock) lines = true) :
    atStart (openAfter inBlock lines) = modeAfter (atStart inBlock) lines := by
  induction lines generalizing inBlock with
  | nil => rfl
  | cons line rest ih =>
    rw [tameLines, Bool.and_eq_true] at h
    obtain ⟨-, hstate⟩ := lineCode_eq_readLine (hline line (List.mem_cons_self ..)) h.1
    rw [← hstate] at h
    rw [openAfter, modeAfter, ← hstate, ih (fun l hl => hline l (List.mem_cons_of_mem line hl)) h.2]

/-- The code of tame lines, and of any lines behind them, does not depend on the text of comments. -/
theorem codeParts_of_sameButComment {before after : List Text} {line line' : Text}
    (hlines : ∀ l ∈ before ++ [line, line'], '\n' ∉ l) (h : tameLines .code (before ++ [line]) = true)
    (h' : tameLines .code (before ++ [line']) = true) (hsame : SameButComment (modeAfter .code before) line line') :
    codeParts (before ++ line' :: after) = codeParts (before ++ line :: after) := by
  rw [tameLines_append, Bool.and_eq_true] at h h'
  have hmode : atStart (openAfter false before) = modeAfter (atStart false) before :=
    atStart_openAfter (fun l hl => hlines l (List.mem_append_left _ hl)) h.1
  have htame : ∀ l, tameLines (modeAfter .code before) [l] = true → (modeAfter .code before).tame l = true :=
    fun l hl => (Bool.and_eq_true_iff.1 hl).1
  have hcode : lineCode (openAfter false before) line' = lineCode (openAfter false before) line :=
    lineCode_of_sameButComment (hlines line (by simp)) (hlines line' (by simp)) (by rw [hmode]; exact htame _ h.2)
      (by rw [hmode]; exact htame _ h'.2) (by rw [hmode]; exact hsame)
  rw [codeParts, codeParts, codePartsFrom_append, codePartsFrom_append, codePartsFrom, codePartsFrom, hcode]

/-- Where the initialization goes, whether the library is imported and where its import goes does not depend on the
text of a comment, if up to there every string literal closes on its line and no block comment holds a double
quote. -/
theorem analysis_of_sameButComment {before after : List Text} {line line' : Text}
    (hlines : ∀ l ∈ before ++ [line, line'], '\n' ∉ l) (h : tameLines .code (before ++ [line]) = true)
    (h' : tameLines .code (before ++ [line']) = true) (hsame : SameButComment (modeAfter .code before) line line')
    (p : EntryPatterns) (kind : Option EntryKind) (moduleName : Text) :
    classify p kind (before ++ line' :: after) = classify p kind (before ++ line :: after) ∧
      hasImport moduleName (before ++ line' :: after) = hasImport moduleName (before ++ line :: after) ∧
      importIndex (before ++ line' :: after) = importIndex (before ++ line :: after) := by
  have hcodes : codeParts (before ++ line' :: after) = codeParts (before ++ line :: after) :=
    codeParts_of_sameButComment hlines h h' hsame
  refine ⟨?_, ?_, ?_⟩
  · simp only [classify, hcodes]
  · rw [hasImport, hcodes, hasImport]
  · rw [importIndex, hcodes, importIndex]

/-- Braces and the beginnings of other comments and literals are no code where a comment is open. -/
theorem analysis_of_comment_between_literals :
    let before := ["import Plengi /* \x7b".toList]
    let line := "\x7d */ let s = \"/*\" /* a */ // \"".toList
    let line' := "\x7d */ let s = \"/*\" /*/ \x7b // * */ // \"".toList
    let after := ["@main struct NotesApp \x7b".toList]
    ∃ p, Settings.byDefault.patterns = .ok p ∧
      classify p none (before ++ line' :: after) = classify p none (before ++ line :: after) ∧
      hasImport "Plengi".toList (before ++ line' :: after) = hasImport "Plengi".toList (before ++ line :: after) ∧
      importIndex (before ++ line' :: after) = importIndex (before ++ line :: after) :=
  ⟨_, rfl, analysis_of_sameButComment (by decide) (by decide) (by decide)
    (@SameButComment.block _ "\x7d */ let s = \"/*\" /*".toList " a ".toList "/ \x7b // * ".toList "*/ // \"".toList
      (by decide) (by decide) (by decide) (.inr ⟨_, rfl⟩)) _ none _⟩

/-- A double quote in a block comment begins a literal that closes behind the comment: its end is overlooked, and
nothing is found in the rest of the document. -/
theorem classify_of_quote_in_comment :
    let line := "/* 5 inches */ let title = \"Notes\"".toList
    let line' := "/* 5\" */ let title = \"Notes\"".toList
    let after := ["@main".toList, "struct NotesApp: App \x7b".toList, "\x7d".toList]
    SameButComment .code line line' ∧ ∃ p, Settings.byDefault.patterns = .ok p ∧
      classify p none (line :: after) = some ⟨.annotatedRoot, 2, false, none⟩ ∧
      classify p none (line' :: after) = none := by
  refine ⟨@SameButComment.block _ "/*".toList " 5 inches ".toList " 5\" ".toList "*/ let title = \"Notes\"".toList
    rfl rfl rfl (.inr ⟨_, rfl⟩), _, rfl, ?_, ?_⟩ <;> rfl

end SdkGraft.Source

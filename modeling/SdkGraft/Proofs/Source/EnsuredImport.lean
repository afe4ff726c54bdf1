import Mathlib.Logic.Function.Iterate
import SdkGraft.Proofs.Source.CommentText
import SdkGraft.Proofs.Source.ImportGrammar
import SdkGraft.Proofs.Source.Reanalysis

/-!
# Imports that are found and imports that are put in

* `insertImport?_of_code` : a line whose code is an import of the module is found, if none of its attributes has
  arguments, and overlooked otherwise; `insertImport?_of_statement` : so it is whatever comments stand around it;
* `IsAfterLast` : a place directly behind the last element with a property (`isAfterLast_afterLast`);
* `IsWord` : a name whose import is one line of code, or none in a comment (`IsWord.codeParts_insertAt`);
* `IsLost` : an import goes into an open comment, where each call puts one more (`IsLost.iterate_imported`);
* `PutsImport`, `insertImport?_putsImport` : a missing import is put behind the last one, and found there if no block
  comment is open.
-/

namespace SdkGraft.Source

open Mode

/-! ## Imports that are found -/

theorem insertImport?_eq_none_iff {moduleName : Text} {lines : List Text} :
    insertImport? moduleName lines = none ↔ hasImport moduleName lines = true := by
  unfold insertImport?
  split
  · rename_i h
    exact iff_of_true rfl h
  · rename_i h
    exact iff_of_false (by simp) h

theorem hasImport_iff {moduleName : Text} {lines : List Text} : hasImport moduleName lines = true ↔
    ∃ (j : Nat) (code : Text), (codeParts lines)[j]? = some code ∧ importsModule moduleName code = true := by
  rw [hasImport, List.any_eq_true]
  constructor
  · rintro ⟨part, hpart, himport⟩
    obtain ⟨j, hj⟩ := List.mem_iff_getElem?.1 hpart
    exact ⟨j, part, hj, himport⟩
  · rintro ⟨j, part, hj, himport⟩
    exact ⟨part, List.mem_of_getElem? hj, himport⟩

/-- Some line of the document other than line `i` imports the module. -/
def HasOtherImport (moduleName : Text) (lines : List Text) (i : Nat) : Prop :=
  ∃ (j : Nat) (code : Text), j ≠ i ∧ (codeParts lines)[j]? = some code ∧ importsModule moduleName code = true

/-- Where the code of a line is a statement that imports the module, nothing is put in, if none of its attributes has
arguments. If one has, the statement is overlooked, and only another import keeps a second one out. -/
theorem insertImport?_of_code {lines : List Text} {i : Nat} {st : ImportStatement} (hst : st.IsProper)
    (hline : (codeParts lines)[i]? = some st.text) :
    (st.IsPlain → insertImport? st.moduleName lines = none) ∧
      (¬ st.IsPlain → (insertImport? st.moduleName lines = none ↔ HasOtherImport st.moduleName lines i)) := by
  rw [insertImport?_eq_none_iff, hasImport_iff]
  constructor
  · intro hplain
    exact ⟨i, st.text, hline, importsModule_iff.2 ⟨st, hst, hplain, rfl, rfl⟩⟩
  · intro harguments
    have hoverlooked : importsModule st.moduleName st.text = false := by
      rw [importsModule, afterImport?_of_not_isPlain hst harguments, Option.any_none]
    constructor
    · rintro ⟨j, part, hj, himport⟩
      refine ⟨j, part, ?_, hj, himport⟩
      rintro rfl
      cases hline.symm.trans hj
      rw [hoverlooked] at himport
      cases himport
    · rintro ⟨j, part, -, hj, himport⟩
      exact ⟨j, part, hj, himport⟩

theorem getElem?_codeParts_of_readLine {before : List Text} {line : Text} (hlines : ∀ l ∈ before ++ [line], '\n' ∉ l)
    (h : tameLines .code (before ++ [line]) = true) (after : List Text) :
    (codeParts (before ++ line :: after))[before.length]? =
      some (Text.trim ((modeAfter .code before).readLine line).1) := by
  rw [tameLines_append, Bool.and_eq_true] at h
  have hmode : atStart (openAfter false before) = modeAfter (atStart false) before :=
    atStart_openAfter (fun l hl => hlines l (List.mem_append_left _ hl)) h.1
  have htame : (atStart (openAfter false before)).tame line = true := by
    rw [hmode]
    exact (Bool.and_eq_true_iff.1 h.2).1
  have hcode := (lineCode_eq_readLine (hlines line (by simp)) htame).1
  rw [hmode] at hcode
  rw [codeParts, codePartsFrom_append, codePartsFrom, hcode, ← codePartsFrom_length false before,
    List.getElem?_append_right (Nat.le_refl _), Nat.sub_self]
  rfl

/-- Up to the line of a statement, let every string literal close on its line and no block comment hold a double
quote. If no attribute of the statement has arguments, it is found, whatever comments stand around it, and nothing is
put in; and if one has, it is overlooked, and only another import keeps a second one out. -/
theorem insertImport?_of_statement {before after : List Text} {line : Text} {st : ImportStatement}
    (hlines : ∀ l ∈ before ++ [line], '\n' ∉ l) (htame : tameLines .code (before ++ [line]) = true)
    (hst : st.IsProper) (hcode : Text.trim ((modeAfter .code before).readLine line).1 = st.text) :
    (st.IsPlain → insertImport? st.moduleName (before ++ line :: after) = none) ∧
      (¬ st.IsPlain → (insertImport? st.moduleName (before ++ line :: after) = none ↔
        HasOtherImport st.moduleName (before ++ line :: after) before.length)) := by
  have hline := getElem?_codeParts_of_readLine hlines htame after
  rw [hcode] at hline
  exact insertImport?_of_code hst hline

/-- Attributes, tabulators, a semicolon, and comments on either side. -/
theorem insertImport?_of_statement_between_comments :
    let before := ["import UIKit /* \x7b".toList]
    let line := "import Maps */ @testable  @_exported\timport Plengi ; // \"SDK\"".toList
    let after := ["class A \x7b\x7d".toList]
    let st : ImportStatement :=
      ⟨[⟨"testable".toList, none, "  ".toList⟩, ⟨"_exported".toList, none, "\t".toList⟩], " ".toList,
        "Plengi".toList, " ".toList, true⟩
    tameLines .code (before ++ [line]) = true ∧ st.IsProper ∧ st.IsPlain ∧
      Text.trim ((modeAfter .code before).readLine line).1 = st.text ∧
      insertImport? st.moduleName (before ++ line :: after) = none := by
  intro before line after st
  have htame : tameLines .code (before ++ [line]) = true := by decide
  have hst : st.IsProper := by decide
  have hplain : st.IsPlain := by decide
  have hcode : Text.trim ((modeAfter .code before).readLine line).1 = st.text := by decide
  exact ⟨htame, hst, hplain, hcode, (insertImport?_of_statement (by decide) htame hst hcode).1 hplain⟩

/-- A statement whose attribute has arguments is overlooked, and the module imported a second time. -/
theorem insertImport?_of_arguments_import :
    let st : ImportStatement :=
      ⟨[⟨"_spi".toList, some "Internal".toList, " ".toList⟩], " ".toList, "Plengi".toList, [], false⟩
    let line := "@_spi(Internal) import Plengi".toList
    st.IsProper ∧ Text.trim ((modeAfter .code ["import UIKit".toList]).readLine line).1 = st.text ∧
      insertImport? "Plengi".toList ["import UIKit".toList, line, "class A \x7b\x7d".toList] =
        some (1, ["import UIKit".toList, "import Plengi".toList, line, "class A \x7b\x7d".toList]) :=
  ⟨by decide, by decide, rfl⟩

/-! ## The place of a new import -/

/-- The place is directly behind the last element that `q` holds of, or in front of all if it holds of none. -/
structure IsAfterLast {α : Type} (q : α → Bool) (xs : List α) (i : Nat) : Prop where
  le : i ≤ xs.length
  last : ∀ j, i = j + 1 → ∃ x, xs[j]? = some x ∧ q x = true
  none_behind : ∀ x ∈ xs.drop i, q x = false

section
variable {α : Type} {q : α → Bool} {xs : List α} {i k : Nat}

theorem IsAfterLast.unique (hi : IsAfterLast q xs i) (hk : IsAfterLast q xs k) : i = k := by
  have hle : ∀ {i k : Nat}, IsAfterLast q xs i → IsAfterLast q xs k → i ≤ k := by
    intro i k hi hk
    refine Nat.le_of_not_lt fun hlt => ?_
    obtain ⟨x, hx, hq⟩ := hi.last (i - 1) (by omega)
    have hmem : x ∈ xs.drop k := List.mem_iff_getElem?.2 ⟨i - 1 - k, by
      rw [List.getElem?_drop, Nat.add_sub_cancel' (by omega), hx]⟩
    rw [hk.none_behind x hmem] at hq
    cases hq
  exact Nat.le_antisymm (hle hi hk) (hle hk hi)

/-- An element that `q` does not hold of may be put there, and the place is the same. -/
theorem IsAfterLast.insertAt (h : IsAfterLast q xs i) {x : α} (hx : q x = false) :
    IsAfterLast q (insertAt i [x] xs) i where
  le := by
    rw [length_insertAt h.le]
    exact Nat.le_trans h.le (Nat.le_add_right ..)
  last := fun j hj => by
    rw [← shiftFrom_of_lt (show j < i by omega) [x].length, getElem?_insertAt h.le]
    exact h.last j hj
  none_behind := by
    rw [drop_insertAt h.le [x] (Nat.le_refl i), Nat.sub_self]
    exact List.forall_mem_cons.2 ⟨hx, h.none_behind⟩

end

theorem isAfterLast_afterLast (q : Text → Bool) (codes : List Text) : IsAfterLast q codes (afterLast q codes) where
  le := afterLast_le q codes
  last := fun _ hj => exists_of_afterLast hj
  none_behind := by
    induction codes with
    | nil => simp
    | cons part rest ih =>
      unfold afterLast
      split
      · rename_i hnone
        rw [hnone, List.drop_zero] at ih
        split
        · exact ih
        · rename_i hpart
          exact List.forall_mem_cons.2 ⟨by simpa using hpart, ih⟩
      · rename_i n hn
        rw [hn] at ih
        exact ih

/-! ## The code of an import -/

structure IsWord (moduleName : Text) : Prop where
  ne_nil : moduleName ≠ []
  all_isWordChar : moduleName.all isWordChar = true

theorem importsModule_importStatement (moduleName : Text) :
    importsModule moduleName (importStatement moduleName) = true := by
  have hplain : ArePlain [] := fun a ha => absurd ha List.not_mem_nil
  have hnames : namesModule moduleName (" ".toList ++ (moduleName ++ [])) = true :=
    namesModule_iff.2 ⟨_, _, by decide, by decide, by decide, rfl⟩
  have hstatement : importStatement moduleName =
      attributesText [] ++ ("import".toList ++ (" ".toList ++ (moduleName ++ []))) := by
    rw [List.append_nil]
    rfl
  rw [importsModule, hstatement, afterImport?_text hplain]
  exact hnames

namespace IsWord

variable {moduleName : Text} (h : IsWord moduleName)
include h

theorem isWordChar_of_mem {c : Char} (hc : c ∈ moduleName) : isWordChar c = true :=
  List.all_eq_true.1 h.all_isWordChar c hc

theorem not_mem : ∀ ch ∈ lexicalChars, ch ∉ moduleName := by
  have hnot : ∀ ch ∈ lexicalChars, isWordChar ch = false := forall_lexicalChars.2 (by decide)
  intro ch hch hmem
  have hword := h.isWordChar_of_mem hmem
  rw [hnot ch hch] at hword
  cases hword

theorem trim_importStatement : Text.trim (importStatement moduleName) = importStatement moduleName := by
  have hlast : isBlank (moduleName.getLast h.ne_nil) = false := by
    refine Bool.eq_false_iff.2 fun hblank => ?_
    have hword := h.isWordChar_of_mem (List.getLast_mem h.ne_nil)
    rw [isWordChar_of_isBlank hblank] at hword
    cases hword
  have hends : importStatement moduleName =
      'i' :: ("mport ".toList ++ moduleName.dropLast) ++ [moduleName.getLast h.ne_nil] := by
    rw [List.cons_append, List.append_assoc, List.dropLast_append_getLast]
    rfl
  rw [hends]
  exact Text.trim_of_ends (by decide) hlast _

/-- Outside of comments an import is code as it stands. -/
theorem lineCode_false : lineCode false (importStatement moduleName) = (importStatement moduleName, false) := by
  rw [lineCode_of_no_slash (not_mem_bare_importStatement h.not_mem '/' (by decide)), bare_importStatement h.not_mem,
    h.trim_importStatement, h.trim_importStatement]

theorem lineCode_true : lineCode true (importStatement moduleName) = ([], true) :=
  lineCode_of_no_star (not_mem_bare_importStatement h.not_mem '*' (by decide))

/-- With an import put anywhere, the code of the lines is that of the others and of the import. -/
theorem codeParts_insertAt {lines : List Text} {i : Nat} (hi : i ≤ lines.length) :
    codeParts (insertAt i [importStatement moduleName] lines) =
      insertAt i [(lineCode (openAfter false (lines.take i)) (importStatement moduleName)).1] (codeParts lines) := by
  have hone : ∀ (inBlock : Bool) (line : Text), codePartsFrom inBlock [line] = [(lineCode inBlock line).1] :=
    fun _ _ => rfl
  rw [codeParts, codePartsFrom_insertAt (deepens_import h.not_mem) hi false, hone, codeParts]

end IsWord

/-! ## Imports that are put in -/

section
variable {moduleName : Text} {lines : List Text} {i : Nat}

theorem insertImport?_of_not_hasImport (h : hasImport moduleName lines = false) :
    insertImport? moduleName lines =
      some (importIndex lines, insertAt (importIndex lines) [importStatement moduleName] lines) := by
  rw [insertImport?, if_neg (by simp [h]), insertAt, List.append_assoc, List.singleton_append]

theorem importIndex_eq_of_isAfterLast (h : IsAfterLast isImport (codeParts lines) i) : importIndex lines = i :=
  (isAfterLast_afterLast isImport (codeParts lines)).unique h

/-- An import that is put in is one more import, if its code is one where it stands. -/
theorem IsWord.hasImport_insertAt (h : IsWord moduleName) (hi : i ≤ lines.length) :
    hasImport moduleName (insertAt i [importStatement moduleName] lines) =
      (hasImport moduleName lines || importsModule moduleName
        (lineCode (openAfter false (lines.take i)) (importStatement moduleName)).1) := by
  rw [hasImport, h.codeParts_insertAt hi, any_insertAt, List.any_cons, List.any_nil, Bool.or_false, hasImport]

/-- The module is not imported, and behind the last import, where one would go, a block comment is open. -/
structure IsLost (moduleName : Text) (lines : List Text) (i : Nat) : Prop where
  missing : hasImport moduleName lines = false
  place : IsAfterLast isImport (codeParts lines) i
  inBlock : openAfter false (lines.take i) = true

theorem IsLost.le (hlost : IsLost moduleName lines i) : i ≤ lines.length := codeParts_length lines ▸ hlost.place.le

theorem IsLost.insertAt (hlost : IsLost moduleName lines i) (h : IsWord moduleName) :
    IsLost moduleName (insertAt i [importStatement moduleName] lines) i where
  missing := by
    rw [h.hasImport_insertAt (hlost.le), hlost.missing, hlost.inBlock, h.lineCode_true]
    rfl
  place := by
    rw [h.codeParts_insertAt (hlost.le), hlost.inBlock, h.lineCode_true]
    exact hlost.place.insertAt rfl
  inBlock := by
    rw [take_insertAt_le (hlost.le) _ (Nat.le_refl i)]
    exact hlost.inBlock

theorem IsLost.insertImport?_eq (hlost : IsLost moduleName lines i) :
    insertImport? moduleName lines = some (i, Source.insertAt i [importStatement moduleName] lines) := by
  rw [insertImport?_of_not_hasImport hlost.missing, importIndex_eq_of_isAfterLast hlost.place]

theorem IsLost.imported_eq (hlost : IsLost moduleName lines i) :
    imported moduleName lines = Source.insertAt i [importStatement moduleName] lines := by
  rw [imported, if_neg (by simp [hlost.missing]), importIndex_eq_of_isAfterLast hlost.place]

/-- Each call puts one more import into the comment. -/
theorem IsLost.iterate_imported (hlost : IsLost moduleName lines i) (h : IsWord moduleName) (n : Nat) :
    (imported moduleName)^[n] lines =
      Source.insertAt i (List.replicate n (importStatement moduleName)) lines := by
  induction n generalizing lines with
  | zero =>
    rw [Function.iterate_zero_apply, List.replicate_zero, Source.insertAt, List.append_nil, List.take_append_drop]
  | succ n ih =>
    rw [Function.iterate_succ_apply, hlost.imported_eq, ih (hlost.insertAt h),
      insertAt_insertAt (hlost.le), List.replicate_succ']

/-- Of lines without an import are made lines with one more, the import, directly behind the last import that they have
(`isImport_iff` tells what counts as one). Where no block comment is open it is found, and nothing is put in a second
time; in an open one it is not, and is put in again. -/
structure PutsImport (moduleName : Text) (lines : List Text) (i : Nat) (lines' : List Text) : Prop where
  lines_eq : lines' = insertAt i [importStatement moduleName] lines
  place : IsAfterLast isImport (codeParts lines) i
  found : openAfter false (lines.take i) = false → hasImport moduleName lines' = true ∧
    insertImport? moduleName lines' = none
  lost : openAfter false (lines.take i) = true → hasImport moduleName lines' = false ∧
    insertImport? moduleName lines' = some (i, insertAt i [importStatement moduleName] lines')

/-- A module that is imported is left alone, any other is imported behind the last import. The import is found
afterwards if and only if no block comment is open there. -/
theorem insertImport?_putsImport (h : IsWord moduleName) (lines : List Text) :
    (hasImport moduleName lines = true ∧ insertImport? moduleName lines = none) ∨
      (hasImport moduleName lines = false ∧ ∃ i lines', insertImport? moduleName lines = some (i, lines') ∧
        PutsImport moduleName lines i lines') := by
  cases himport : hasImport moduleName lines with
  | true => exact .inl ⟨rfl, insertImport?_eq_none_iff.2 himport⟩
  | false =>
    have hplace := isAfterLast_afterLast isImport (codeParts lines)
    refine .inr ⟨rfl, _, _, insertImport?_of_not_hasImport himport, rfl, hplace, fun hlive => ?_, fun hopen => ?_⟩
    · have hfound : hasImport moduleName (insertAt (importIndex lines) [importStatement moduleName] lines) = true := by
        rw [h.hasImport_insertAt (importIndex_le lines), hlive, h.lineCode_false, importsModule_importStatement,
          Bool.or_true]
      exact ⟨hfound, insertImport?_eq_none_iff.2 hfound⟩
    · have hlost : IsLost moduleName lines (importIndex lines) := ⟨himport, hplace, hopen⟩
      exact ⟨(hlost.insertAt h).missing, (hlost.insertAt h).insertImport?_eq⟩

end

/-- An import in a comment does not count, and the end of the comment does not keep the last import from being one. -/
theorem insertImport?_putsImport_behind_comment :
    let lines := ["/* import Plengi".toList, "*/ @testable import Weather // \x7b".toList, "class A \x7b\x7d".toList]
    IsWord "Plengi".toList ∧ ∃ lines', insertImport? "Plengi".toList lines = some (2, lines') ∧
      PutsImport "Plengi".toList lines 2 lines' := by
  intro lines
  have hword : IsWord "Plengi".toList := ⟨by decide, by decide⟩
  refine ⟨hword, ?_⟩
  obtain ⟨himport, -⟩ | ⟨-, i, lines', h, hputs⟩ := insertImport?_putsImport hword lines
  · exact absurd himport (by decide)
  · have hplace : insertImport? "Plengi".toList lines = some (2, _) := rfl
    cases hplace.symm.trans h
    exact ⟨_, hplace, hputs⟩

/-- Where the line of the last import leaves a block comment open, the import stands in the comment: it is not found,
and put in a second time. -/
theorem insertImport?_twice_in_comment :
    let lines := ["import UIKit /* the".toList, "   views */".toList, "class A \x7b\x7d".toList]
    let lines' :=
      ["import UIKit /* the".toList, "import Plengi".toList, "   views */".toList, "class A \x7b\x7d".toList]
    insertImport? "Plengi".toList lines = some (1, lines') ∧ hasImport "Plengi".toList lines' = false ∧
      insertImport? "Plengi".toList lines' = some (1, insertAt 1 ["import Plengi".toList] lines') :=
  ⟨rfl, rfl, rfl⟩

end SdkGraft.Source

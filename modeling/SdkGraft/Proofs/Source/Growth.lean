import SdkGraft.Proofs.Patch.Unified
import SdkGraft.Proofs.Source.GraftEffect
import SdkGraft.Install.Mutation

/-!
# An edited document has more lines

* `Text.count_foldCrlf`, `Text.count_expandLf` : line feeds are not lost when pairs are folded or expanded;
* `lineCount` : how many lines there are once texts are joined (`count_unlines`);
* `lineCount_insertLines` : an insertion adds some;
* `count_render` : they are all written, however the lines end;
* `diff_ne_nil_of_graft` : so the diff of an insertion is not empty.
-/

namespace SdkGraft.Text

theorem count_foldCrlf (t : Text) : (foldCrlf t).count '\n' = t.count '\n' := by
  fun_induction foldCrlf t with
  | case1 r ih => simp [ih]
  | case2 c r hpair ih => rw [List.count_cons, ih, List.count_cons]
  | case3 => rfl

theorem count_expandLf (t : Text) : (expandLf t).count '\n' = t.count '\n' := by
  fun_induction expandLf t with
  | case1 => rfl
  | case2 r ih => simp [ih]
  | case3 c r hc ih => rw [List.count_cons, ih, List.count_cons]

end SdkGraft.Text

namespace SdkGraft.Source

/-! ## Lines -/

/-- How many lines a text has that the texts are the lines of, a line feed in one of them counted too. -/
def lineCount (ls : List Text) : Nat := ls.flatten.count '\n' + ls.length

theorem lineCount_cons (l : Text) (rest : List Text) : lineCount (l :: rest) = l.count '\n' + 1 + lineCount rest := by
  rw [lineCount, lineCount, List.flatten_cons, List.count_append, List.length_cons]
  omega

theorem lineCount_append (xs ys : List Text) : lineCount (xs ++ ys) = lineCount xs + lineCount ys := by
  rw [lineCount, lineCount, lineCount, List.flatten_append, List.count_append, List.length_append]
  omega

theorem lineCount_pos {ls : List Text} (h : ls ≠ []) : 0 < lineCount ls :=
  Nat.add_pos_right _ (List.length_pos_iff.2 h)

theorem count_unlines {ls : List Text} (h : ls ≠ []) : (Text.unlines ls).count '\n' + 1 = lineCount ls := by
  induction ls with
  | nil => exact absurd rfl h
  | cons l rest ih =>
    rw [lineCount_cons]
    rcases eq_or_ne rest [] with rfl | hne
    · rfl
    · rw [Text.unlines_cons hne, List.count_append, List.count_cons_self, ← ih hne]
      omega

theorem lineCount_insertAt (i : Nat) (xs ls : List Text) :
    lineCount (insertAt i xs ls) = lineCount ls + lineCount xs := by
  have hsplit := lineCount_append (ls.take i) (ls.drop i)
  rw [List.take_append_drop] at hsplit
  rw [insertAt, lineCount_append, lineCount_append]
  omega

theorem lineCount_insertLines (sdk : Sdk) (lines : List Text) (a : Nat) (code : List Text) :
    lineCount lines + lineCount code ≤ lineCount (insertLines sdk lines a code).1 := by
  cases himport : hasImport sdk.moduleName lines with
  | true =>
    rw [insertLines_of_hasImport himport, lineCount_insertAt]
  | false =>
    rw [insertLines_of_not_hasImport himport, lineCount_insertAt, lineCount_insertAt]
    omega

theorem graftCode_ne_nil (sdk : Sdk) (d : Document) (t : Target) (c : Credentials) (a : Nat) (unit : Text) :
    graftCode sdk d t c a unit ≠ [] := by
  rw [graftCode, snippet, reindent]
  exact fun h => Text.splitAt_ne_nil _ _ (List.map_eq_nil_iff.1 h)

/-! ## Documents -/

/-- Writing a document keeps its line feeds, and adds none. -/
theorem count_render (d : Document) (preserve : Bool) : (d.render preserve).count '\n' = d.text.count '\n' := by
  have hbody : (if preserve then d.ending.normalize d.text else d.text).count '\n' = d.text.count '\n' := by
    cases preserve with
    | false => rfl
    | true =>
      rw [if_pos rfl]
      cases d.ending with
      | lf => exact Text.count_foldCrlf d.text
      | crlf => exact (Text.count_expandLf _).trans (Text.count_foldCrlf d.text)
  rw [Document.render]
  split
  · rw [List.count_cons_of_ne (by decide), hbody]
  · exact hbody

theorem count_ofText (path read : Text) : (Document.ofText path read).text.count '\n' = read.count '\n' := by
  rw [Document.ofText_text, Text.count_foldCrlf]
  cases read with
  | nil => rfl
  | cons c r =>
    rw [dropMark]
    split
    · rename_i hc
      rw [hc, List.count_cons_of_ne (by decide)]
    · rfl

theorem count_text_graftAt (sdk : Sdk) {d : Document} (hne : d.lines ≠ []) (t : Target) (c : Credentials) (a : Nat)
    (unit : Text) : d.text.count '\n' < (graftAt sdk d t c a unit).1.text.count '\n' := by
  have hcode := lineCount_pos (graftCode_ne_nil sdk d t c a unit)
  have hgrown : lineCount d.lines + lineCount (graftCode sdk d t c a unit) ≤
      lineCount (graftAt sdk d t c a unit).1.lines := lineCount_insertLines sdk d.lines a _
  have hne' : (graftAt sdk d t c a unit).1.lines ≠ [] := by
    intro hnil
    rw [hnil, show lineCount [] = 0 from rfl] at hgrown
    omega
  have hbefore := count_unlines hne
  have hafter := count_unlines hne'
  rw [Document.text, Document.text]
  omega

/-- The diff of an insertion into a document that was read is not empty. -/
theorem diff_ne_nil_of_graft {plan : Plan} {path read : Text} {d' : Document} {target : Option Target}
    {c : Credentials} {edit : Edit} (h : graft plan (.ofText path read) target c = .ok (d', edit))
    (hinserted : edit.outcome = .inserted) (preserve : Bool) : d'.diff preserve ≠ [] := by
  obtain ⟨t, a, unit, -, ha, -, heq⟩ := exists_of_graft_inserted h hinserted
  have hdone : d' = (graftAt plan.sdk (.ofText path read) t c a unit).1 := congrArg Prod.fst heq
  have hgrown := count_text_graftAt plan.sdk (List.ne_nil_of_length_pos (Nat.zero_lt_of_lt ha)) t c a unit
  rw [← hdone, count_ofText] at hgrown
  intro hnil
  rw [Document.diff, show d'.asRead = read by rw [hdone]; rfl] at hnil
  have hfold := congrArg (List.count '\n') (Patch.foldCrlf_eq_of_unified hnil)
  rw [Text.count_foldCrlf, Text.count_foldCrlf, count_render] at hfold
  omega

end SdkGraft.Source

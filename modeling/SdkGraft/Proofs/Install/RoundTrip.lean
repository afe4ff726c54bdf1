import SdkGraft.Proofs.Install.Contents
import SdkGraft.Proofs.Install.Stages
import SdkGraft.Proofs.Text.Endings

/-!
# Files that are read and written again

* `normalize_detect_eq_self_iff` : which texts are as they were when their pairs are folded and their lines ended
  again as `LineEnding.detect` says;
* `render_ofText` : a document that has just been read is written as its whole text, the mark included, with the
  pairs folded and the lines ended again;
* `Document.HoldsText` : what a document that has just been read has to do with the text;
* `exists_readDocument_holdsText` : every text in a file is read as such a document.
-/

namespace SdkGraft

namespace Source

variable {text : Text}

/-! ## Line endings -/

theorem normalize_append (ending : LineEnding) {a : Text} (hcr : '\r' ∉ a) (hlf : '\n' ∉ a) (t : Text) :
    ending.normalize (a ++ t) = a ++ ending.normalize t := by
  cases ending with
  | lf => exact Text.foldCrlf_append hcr t
  | crlf =>
    rw [LineEnding.normalize, Text.foldCrlf_append hcr, Text.expandLf_append, Text.expandLf_of_not_mem hlf]
    rfl

theorem detect_eq_crlf_iff : LineEnding.detect text = .crlf ↔ ['\r', '\n'] <:+: text := by
  rw [LineEnding.detect, Text.hasCrlf, ← Text.occursIn_iff]
  split <;> simp_all

/-- Folded and ended again, a text is as it was if it has no pairs, or if all its line feeds are in pairs and no
other carriage return stands directly before one. -/
theorem normalize_detect_eq_self_iff :
    (LineEnding.detect text).normalize (Text.foldCrlf text) = text ↔
      ¬ ['\r', '\n'] <:+: text ∨
        (∀ a b, text = a ++ '\n' :: b → a.getLast? = some '\r') ∧ ¬ ['\r', '\r', '\n'] <:+: text := by
  by_cases hpair : ['\r', '\n'] <:+: text
  · rw [detect_eq_crlf_iff.2 hpair, LineEnding.normalize, or_iff_right (not_not_intro hpair)]
    constructor
    · intro h
      -- What is expanded again had been folded once, so the second folding has found no pairs.
      have hfold : Text.foldCrlf (Text.foldCrlf text) = Text.foldCrlf text := by
        rw [← Text.foldCrlf_expandLf (Text.foldCrlf (Text.foldCrlf text)), h]
      rw [hfold] at h
      exact ⟨Text.expandLf_foldCrlf_iff.1 h,
        fun hdouble => Text.foldCrlf_eq_self_iff.1 hfold (Text.pair_infix_foldCrlf_iff.2 hdouble)⟩
    · rintro ⟨hall, hdouble⟩
      have hfold : Text.foldCrlf (Text.foldCrlf text) = Text.foldCrlf text :=
        Text.foldCrlf_eq_self_iff.2 fun h => hdouble (Text.pair_infix_foldCrlf_iff.1 h)
      rw [hfold, Text.expandLf_foldCrlf_iff.2 hall]
  · have hdetect : LineEnding.detect text = .lf := by
      rw [LineEnding.detect, Text.hasCrlf, if_neg fun h => hpair (Text.occursIn_iff.1 h)]
    have hfold := Text.foldCrlf_eq_self_iff.2 hpair
    rw [hdetect, LineEnding.normalize, hfold, hfold]
    exact iff_of_true rfl (.inl hpair)

/-! ## Documents -/

theorem render_eq_mark_append (d : Document) (preserve : Bool) :
    d.render preserve = d.mark ++ if preserve then d.ending.normalize d.text else d.text := by
  rw [Document.render, Document.mark]
  split <;> rfl

theorem mark_append_text (path text : Text) :
    (Document.ofText path text).mark ++ (Document.ofText path text).text = Text.foldCrlf text := by
  have hmark := not_mem_mark (c := '\r') (by decide) (Document.ofText path text)
  rw [Document.ofText_text, ← Text.foldCrlf_append hmark, mark_append_dropMark]

/-- A document that has just been read is written as its whole text, mark and all. -/
theorem render_ofText (path text : Text) (preserve : Bool) :
    (Document.ofText path text).render preserve =
      if preserve then (LineEnding.detect text).normalize (Text.foldCrlf text) else Text.foldCrlf text := by
  rw [render_eq_mark_append]
  cases preserve with
  | false => exact mark_append_text path text
  | true =>
    have hcr := not_mem_mark (c := '\r') (by decide) (Document.ofText path text)
    have hlf := not_mem_mark (c := '\n') (by decide) (Document.ofText path text)
    rw [if_pos rfl, if_pos rfl, ← normalize_append _ hcr hlf, mark_append_text]
    rfl

theorem isModified_ofText (path text : Text) : (Document.ofText path text).isModified = false := by
  rw [Document.isModified, Document.ofText_text]
  exact bne_self_eq_false _

theorem exists_lines_ofText (path text : Text) : ∃ first rest, (Document.ofText path text).lines = first :: rest ∧
    Text.lines (Text.foldCrlf text) = ((Document.ofText path text).mark ++ first) :: rest := by
  have hlf := not_mem_mark (c := '\n') (by decide) (Document.ofText path text)
  rw [← mark_append_text path text, Document.ofText_text]
  exact Text.splitAt_append_of_not_mem hlf _

/-- A document holds the text of a file, nothing edited: which texts it is written as, whether the endings are
preserved or not; its lines; and the one mark in front of them. -/
structure Document.HoldsText (d : Document) (text : Text) : Prop where
  preserved : d.render true = text ↔
    ¬ ['\r', '\n'] <:+: text ∨
      (∀ a b, text = a ++ '\n' :: b → a.getLast? = some '\r') ∧ ¬ ['\r', '\r', '\n'] <:+: text
  folded : d.render false = text ↔ ¬ ['\r', '\n'] <:+: text
  not_modified : d.isModified = false
  single : ∀ l ∈ d.lines, '\n' ∉ l
  mark_iff : d.mark = [byteOrderMark] ↔ ∃ body, text = byteOrderMark :: body
  first : ∃ first rest, d.lines = first :: rest ∧ Text.lines (Text.foldCrlf text) = (d.mark ++ first) :: rest
  restored : ∀ preserve, d.render preserve = d.mark ++ { d with hasMark := false }.render preserve

theorem holdsText_ofText (path text : Text) : (Document.ofText path text).HoldsText text where
  preserved := by
    rw [render_ofText, if_pos rfl]
    exact normalize_detect_eq_self_iff
  folded := by
    rw [render_ofText, if_neg Bool.false_ne_true]
    exact Text.foldCrlf_eq_self_iff
  not_modified := isModified_ofText path text
  single := fun _ hl => Text.not_mem_of_mem_splitAt hl
  mark_iff := by
    cases text with
    | nil => simp [Document.mark, Document.ofText]
    | cons c r => by_cases hc : c = byteOrderMark <;> simp [Document.mark, Document.ofText, hc]
  first := exists_lines_ofText path text
  restored := fun preserve => by
    rw [render_eq_mark_append, render_eq_mark_append { Document.ofText path text with hasMark := false }]
    rfl

end Source

namespace Tree

open Source (Document)

/-- Every text in a file is read as a document that holds it. -/
theorem exists_readDocument_holdsText {t : Tree} {path text : Text} (hnull : '\x00' ∉ path)
    (hread : t.readFile path = .ok (Utf8.encode text)) :
    ∃ d, t.readDocument path = .ok d ∧ d.HoldsText text :=
  ⟨.ofText path text, readDocument_eq_ok_iff.2 ⟨hnull, _, text, hread, Utf8.decode_encode text, rfl⟩,
    Source.holdsText_ofText path text⟩

def mixedText : Text := "\ufeffa\r\nb\n".toList

/-- A file whose lines do not all end alike is not written as it was read, whether endings are preserved or not; its
mark is. -/
theorem readDocument_of_mixed_file :
    ∃ d, (oneFileProject (Utf8.encode mixedText) 0o644).readDocument "p/App.swift".toList = .ok d ∧
      d.render true = "\ufeffa\r\nb\r\n".toList ∧ d.render false = "\ufeffa\nb\n".toList ∧
      d.render true ≠ mixedText ∧ d.render false ≠ mixedText ∧ d.mark = [Source.byteOrderMark] := by
  have hread : (oneFileProject (Utf8.encode mixedText) 0o644).readFile "p/App.swift".toList =
      .ok (Utf8.encode mixedText) := Except.of_toOption_eq_some (by decide +kernel)
  obtain ⟨d, hd, hholds⟩ := exists_readDocument_holdsText (by decide) hread
  obtain rfl : Document.ofText "p/App.swift".toList mixedText = d := by
    have hseen := readDocument_eq_ok_iff.2 ⟨by decide, _, mixedText, hread, Utf8.decode_encode _, rfl⟩
    exact Except.ok.inj (hseen.symm.trans hd)
  refine ⟨_, hd, by decide +kernel, by decide +kernel, ?_, ?_, hholds.mark_iff.2 ⟨_, rfl⟩⟩
  · intro h
    rcases hholds.preserved.1 h with hnone | ⟨hall, -⟩
    · exact hnone (Text.occursIn_iff.1 (by decide +kernel))
    · exact absurd (hall "\ufeffa\r\nb".toList [] (by decide +kernel)) (by decide +kernel)
  · intro h
    exact hholds.folded.1 h (Text.occursIn_iff.1 (by decide +kernel))

end Tree

end SdkGraft

import SdkGraft.Proofs.Text.Lines
import SdkGraft.Source.Document

/-!
# What a text holds, under other line breaks

* `occursIn_iff` : a part occurs where it is a run of neighbouring characters;
* `IsOneLine` : neither a carriage return nor a line feed stands in the text (`isOneLine_iff`);
* `Rebroken t u` : `u` is `t` with its runs of line breaks exchanged for other such runs
  (`rebroken_foldCrlf`, `rebroken_foldReturns`, `rebroken_expandLf`);
* `Rebroken.occursIn_eq` : a part of one line occurs in both or in neither;
* `occursIn_unlines` : a part of one line occurs in joined lines where it occurs in one of them;
* `occursIn_render` : writing a document keeps what stands in it.
-/

namespace SdkGraft.Text

/-! ## Occurrences -/

theorem occursIn_iff {part t : Text} : occursIn part t = true ↔ part <:+: t := by
  induction t with
  | nil => simp [occursIn]
  | cons c r ih => rw [occursIn, Bool.or_eq_true, List.isPrefixOf_iff_prefix, ih, List.infix_cons_iff]

theorem occursIn_append_left {part t : Text} (before : Text) (h : occursIn part t = true) :
    occursIn part (before ++ t) = true :=
  occursIn_iff.2 ((occursIn_iff.1 h).trans (List.suffix_append before t).isInfix)

theorem occursIn_middle (before part after : Text) : occursIn part (before ++ part ++ after) = true :=
  occursIn_iff.2 ⟨before, after, rfl⟩

@[simp] theorem occursIn_nil_left (t : Text) : occursIn [] t = true :=
  occursIn_iff.2 ⟨[], t, rfl⟩

theorem occursIn_cons_of_not_mem {part t : Text} {c : Char} (hc : c ∉ part) (hne : part ≠ []) :
    occursIn part (c :: t) = occursIn part t := by
  rw [occursIn]
  cases part with
  | nil => exact absurd rfl hne
  | cons p ps =>
    have hp : p ≠ c := fun h => hc (by simp [h])
    simp [hp]

/-! ## Line breaks -/

def isLineEnding (c : Char) : Bool := c == '\r' || c == '\n'

def IsOneLine (t : Text) : Prop := ∀ c ∈ t, isLineEnding c = false

instance (t : Text) : Decidable (IsOneLine t) := List.decidableBAll _ t

theorem IsOneLine.not_mem {t : Text} (h : IsOneLine t) {c : Char} (hc : isLineEnding c = true) : c ∉ t :=
  fun hm => by simp [h c hm] at hc

theorem isOneLine_iff {t : Text} : IsOneLine t ↔ '\r' ∉ t ∧ '\n' ∉ t := by
  refine ⟨fun h => ⟨h.not_mem rfl, h.not_mem rfl⟩, fun ⟨hcr, hlf⟩ c hc => ?_⟩
  rw [isLineEnding, Bool.or_eq_false_iff]
  exact ⟨beq_false_of_ne fun h => hcr (h ▸ hc), beq_false_of_ne fun h => hlf (h ▸ hc)⟩

theorem IsOneLine.append {a b : Text} (ha : IsOneLine a) (hb : IsOneLine b) : IsOneLine (a ++ b) :=
  fun c hc => (List.mem_append.1 hc).elim (ha c) (hb c)

/-- `u` is `t` with its runs of line breaks exchanged for other such runs. -/
inductive Rebroken : Text → Text → Prop where
  | nil : Rebroken [] []
  | char (c : Char) {t u : Text} : Rebroken t u → Rebroken (c :: t) (c :: u)
  | breaks {a b t u : Text} (ha : ∀ c ∈ a, isLineEnding c = true) (hb : ∀ c ∈ b, isLineEnding c = true)
      (ha' : a ≠ []) (hb' : b ≠ []) : Rebroken t u → Rebroken (a ++ t) (b ++ u)

theorem Rebroken.ending {a b t u : Text} (ha : a ∈ [['\n'], ['\r'], ['\r', '\n']])
    (hb : b ∈ [['\n'], ['\r'], ['\r', '\n']]) (h : Rebroken t u) : Rebroken (a ++ t) (b ++ u) := by
  have hends : ∀ e ∈ [['\n'], ['\r'], ['\r', '\n']], (∀ c ∈ e, isLineEnding c = true) ∧ e ≠ [] := by
    simp [isLineEnding]
  exact .breaks (hends a ha).1 (hends b hb).1 (hends a ha).2 (hends b hb).2 h

theorem rebroken_foldCrlf (t : Text) : Rebroken t (foldCrlf t) := by
  fun_induction foldCrlf t with
  | case1 r ih =>
    exact .ending (a := ['\r', '\n']) (b := ['\n']) (by simp) (by simp) ih
  | case2 c r _ ih => exact .char c ih
  | case3 => exact .nil

theorem rebroken_foldReturns (t : Text) : Rebroken t (foldReturns t) := by
  fun_induction foldReturns t with
  | case1 r ih =>
    exact .ending (a := ['\r', '\n']) (b := ['\n']) (by simp) (by simp) ih
  | case2 c r _ ih =>
    by_cases h : c = '\r'
    · subst h
      exact .ending (a := ['\r']) (b := ['\n']) (by simp) (by simp) ih
    · rw [if_neg h]; exact .char c ih
  | case3 => exact .nil

theorem rebroken_expandLf (t : Text) : Rebroken t (expandLf t) := by
  induction t with
  | nil => exact .nil
  | cons c r ih =>
    by_cases h : c = '\n'
    · subst h
      exact .ending (a := ['\n']) (b := ['\r', '\n']) (by simp) (by simp) ih
    · rw [expandLf, if_neg h]; exact .char c ih

/-- An occurrence of a part of one line never begins inside a run of line breaks. -/
theorem occursIn_breaks_append {part b : Text} (t : Text) (hp : IsOneLine part) (hne : part ≠ [])
    (hb : ∀ c ∈ b, isLineEnding c = true) : occursIn part (b ++ t) = occursIn part t := by
  induction b with
  | nil => rfl
  | cons c r ih =>
    rw [List.cons_append, occursIn_cons_of_not_mem (hp.not_mem (hb c (by simp))) hne]
    exact ih fun x hx => hb x (by simp [hx])

/-- Nor does it reach into one. -/
theorem isPrefixOf_breaks_append {part b : Text} (t : Text) (hp : IsOneLine part)
    (hb : ∀ c ∈ b, isLineEnding c = true) (hne : b ≠ []) : part.isPrefixOf (b ++ t) = part.isEmpty := by
  cases b with
  | nil => exact absurd rfl hne
  | cons c r =>
    cases part with
    | nil => simp
    | cons p ps =>
      have hpc : (p == c) = false := beq_false_of_ne fun h => hp.not_mem (hb c (by simp)) (by simp [h])
      rw [List.cons_append, List.isPrefixOf_cons_cons, hpc]
      rfl

theorem Rebroken.isPrefixOf_eq {t u : Text} (h : Rebroken t u) {part : Text} (hp : IsOneLine part) :
    part.isPrefixOf t = part.isPrefixOf u := by
  induction h generalizing part with
  | nil => rfl
  | char c _ ih =>
    cases part with
    | nil => simp
    | cons p ps =>
      rw [List.isPrefixOf_cons_cons, List.isPrefixOf_cons_cons, ih fun x hx => hp x (by simp [hx])]
  | breaks ha hb ha' hb' _ _ =>
    rw [isPrefixOf_breaks_append _ hp ha ha', isPrefixOf_breaks_append _ hp hb hb']

/-- A part of one line occurs in a text however its lines are broken. -/
theorem Rebroken.occursIn_eq {t u : Text} (h : Rebroken t u) {part : Text} (hp : IsOneLine part) :
    occursIn part t = occursIn part u := by
  rcases eq_or_ne part [] with rfl | hne
  · simp
  induction h with
  | nil => rfl
  | char c h ih => rw [occursIn, occursIn, ih, (Rebroken.char c h).isPrefixOf_eq hp]
  | breaks ha hb _ _ _ ih =>
    rw [occursIn_breaks_append _ hp hne ha, occursIn_breaks_append _ hp hne hb, ih]

/-! ## Lines -/

theorem isPrefixOf_append_lf {part : Text} (hp : '\n' ∉ part) (a b : Text) :
    part.isPrefixOf (a ++ '\n' :: b) = part.isPrefixOf a := by
  induction a generalizing part with
  | nil =>
    cases part with
    | nil => rfl
    | cons p ps =>
      have hpc : (p == '\n') = false := beq_false_of_ne fun h => hp (by simp [h])
      rw [List.nil_append, List.isPrefixOf_cons_cons, hpc]
      rfl
  | cons c r ih =>
    cases part with
    | nil => rfl
    | cons p ps =>
      rw [List.cons_append, List.isPrefixOf_cons_cons, List.isPrefixOf_cons_cons, ih fun h => hp (by simp [h])]

theorem occursIn_append_lf {part : Text} (hp : '\n' ∉ part) (hne : part ≠ []) (a b : Text) :
    occursIn part (a ++ '\n' :: b) = (occursIn part a || occursIn part b) := by
  induction a with
  | nil =>
    rw [List.nil_append, occursIn_cons_of_not_mem hp hne]
    cases part with
    | nil => exact absurd rfl hne
    | cons p ps => rfl
  | cons c r ih =>
    have hpre := isPrefixOf_append_lf hp (c :: r) b
    rw [List.cons_append] at hpre ⊢
    rw [occursIn, occursIn, hpre, ih, Bool.or_assoc]

/-- A part without a line feed occurs in joined lines where it occurs in one of them. -/
theorem occursIn_unlines {part : Text} (hp : '\n' ∉ part) (hne : part ≠ []) (ls : List Text) :
    occursIn part (unlines ls) = ls.any (occursIn part) := by
  induction ls with
  | nil =>
    cases part with
    | nil => exact absurd rfl hne
    | cons p ps => rfl
  | cons l rest ih =>
    rcases eq_or_ne rest [] with rfl | hrest
    · simp [unlines, joinWith]
    · rw [unlines_cons hrest, occursIn_append_lf hp hne, ih, List.any_cons]

theorem occursIn_unlines_of_subset {part : Text} (hp : '\n' ∉ part) {ls ms : List Text} (h : ls ⊆ ms)
    (hl : occursIn part (unlines ls) = true) : occursIn part (unlines ms) = true := by
  rcases eq_or_ne part [] with rfl | hne
  · simp
  rw [occursIn_unlines hp hne, List.any_eq_true] at hl ⊢
  obtain ⟨l, hm, hl⟩ := hl
  exact ⟨l, h hm, hl⟩

end SdkGraft.Text

namespace SdkGraft.Source

open Text (IsOneLine)

/-- A text of one line without a byte order mark: reading and writing files leaves it alone. -/
def IsPlain (t : Text) : Prop := IsOneLine t ∧ byteOrderMark ∉ t

instance (t : Text) : Decidable (IsPlain t) := inferInstanceAs (Decidable (_ ∧ _))

theorem IsPlain.not_mem_lf {t : Text} (h : IsPlain t) : '\n' ∉ t := h.1.not_mem rfl

theorem occursIn_dropMark {part : Text} (h : byteOrderMark ∉ part) (t : Text) :
    Text.occursIn part (dropMark t) = Text.occursIn part t := by
  rcases eq_or_ne part [] with rfl | hne
  · simp
  cases t with
  | nil => rfl
  | cons c r =>
    by_cases hc : c = byteOrderMark
    · subst hc
      rw [dropMark, if_pos rfl, Text.occursIn_cons_of_not_mem h hne]
    · rw [dropMark, if_neg hc]

theorem occursIn_normalize {part : Text} (h : IsOneLine part) (ending : LineEnding) (t : Text) :
    Text.occursIn part (ending.normalize t) = Text.occursIn part t := by
  cases ending with
  | lf => exact ((Text.rebroken_foldCrlf t).occursIn_eq h).symm
  | crlf =>
    rw [LineEnding.normalize, ← (Text.rebroken_expandLf _).occursIn_eq h,
      ← (Text.rebroken_foldCrlf t).occursIn_eq h]

theorem occursIn_render {part : Text} (h : IsPlain part) (d : Document) (preserveEndings : Bool) :
    Text.occursIn part (d.render preserveEndings) = Text.occursIn part d.text := by
  have hbody : Text.occursIn part (if preserveEndings then d.ending.normalize d.text else d.text)
      = Text.occursIn part d.text := by
    split
    · exact occursIn_normalize h.1 _ _
    · rfl
  rcases eq_or_ne part [] with rfl | hne
  · simp
  rw [Document.render]
  split
  · rw [Text.occursIn_cons_of_not_mem h.2 hne, hbody]
  · exact hbody

theorem occursIn_ofText {part : Text} (h : IsPlain part) (path t : Text) :
    Text.occursIn part (Document.ofText path t).text = Text.occursIn part t := by
  rw [Document.ofText_text, ← (Text.rebroken_foldCrlf _).occursIn_eq h.1, occursIn_dropMark h.2]

end SdkGraft.Source

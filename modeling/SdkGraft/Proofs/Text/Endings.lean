import SdkGraft.Proofs.Text.Occurrence

/-!
# Texts whose lines all end alike

* `foldCrlf_expandLf`, `expandLf_foldCrlf_iff` : when one undoes the other;
* `foldCrlf_eq_self_iff`, `pair_infix_foldCrlf_iff` : the pairs in a text, and those left by folding;
* `Text.HasOneEnding` : carriage returns stand only before line feeds, before all of them or before none;
* `Text.hasOneEnding_iff` : there are none, or folding the pairs and expanding them again undoes itself;
* `foldCrlf_joinWith`, `normalize_unlines` : joined lines as they are read, and as they are written;
* `ofText_lines` : a document read from such a text is its lines;
* `render_lines` : a document of such lines is written with its own ending between them.
-/

namespace SdkGraft.Text

variable {t : Text}

/-! ## Folding and expanding -/

theorem foldCrlf_cons {c : Char} (h : c ≠ '\r') (t : Text) : foldCrlf (c :: t) = c :: foldCrlf t := by
  rw [foldCrlf]
  rintro r rfl
  exact absurd rfl h

theorem foldCrlf_append {a : Text} (h : '\r' ∉ a) (t : Text) : foldCrlf (a ++ t) = a ++ foldCrlf t := by
  induction a with
  | nil => rfl
  | cons c r ih =>
    rw [List.mem_cons, not_or] at h
    rw [List.cons_append, foldCrlf_cons (Ne.symm h.1), ih h.2, List.cons_append]

theorem foldCrlf_of_not_mem (h : '\r' ∉ t) : foldCrlf t = t := by
  rw [← List.append_nil t, foldCrlf_append h]
  rfl

theorem expandLf_append (a t : Text) : expandLf (a ++ t) = expandLf a ++ expandLf t := by
  induction a with
  | nil => rfl
  | cons c r ih =>
    rw [List.cons_append, expandLf, expandLf, ih]
    split <;> rfl

theorem expandLf_of_not_mem (h : '\n' ∉ t) : expandLf t = t := by
  induction t with
  | nil => rfl
  | cons c r ih =>
    rw [List.mem_cons, not_or] at h
    rw [expandLf, if_neg (Ne.symm h.1), ih h.2]

theorem getLast?_of_expandLf (a b : Text) (ht : expandLf t = a ++ '\n' :: b) : a.getLast? = some '\r' := by
  induction t generalizing a with
  | nil => simp [expandLf] at ht
  | cons c r ih =>
    rw [expandLf] at ht
    split at ht
    · cases a with
      | nil => cases ht
      | cons x a =>
        cases a with
        | nil =>
          cases ht
          rfl
        | cons y a =>
          have hlast := ih a (List.cons.inj (List.cons.inj ht).2).2
          rw [List.getLast?_cons, List.getLast?_cons, hlast]
          rfl
    · rename_i hc
      cases a with
      | nil => exact absurd (List.cons.inj ht).1 hc
      | cons x a =>
        have hlast := ih a (List.cons.inj ht).2
        rw [List.getLast?_cons, hlast]
        rfl

theorem foldCrlf_expandLf (t : Text) : foldCrlf (expandLf t) = t := by
  induction t with
  | nil => rfl
  | cons c r ih =>
    rw [expandLf]
    split
    · rename_i hc
      rw [foldCrlf, ih, hc]
    · rw [foldCrlf, ih]
      -- An expanded text does not begin with a line feed, so there is no pair here.
      intro s _ hs
      cases getLast?_of_expandLf [] s hs

/-- Expanding undoes folding where every line feed stands behind a carriage return. -/
theorem expandLf_foldCrlf_iff :
    expandLf (foldCrlf t) = t ↔ ∀ a b, t = a ++ '\n' :: b → a.getLast? = some '\r' := by
  constructor
  · intro h a b hab
    exact getLast?_of_expandLf a b (h.trans hab)
  · intro hall
    fun_induction foldCrlf t with
    | case1 r ih =>
      rw [expandLf, if_pos rfl, ih fun a b h => ?_]
      have hlast := hall ('\r' :: '\n' :: a) b (by rw [h]; rfl)
      cases a with
      | nil => cases hlast
      | cons x a => rwa [List.getLast?_cons_cons, List.getLast?_cons_cons] at hlast
    | case2 c r hpair ih =>
      have hlf : c ≠ '\n' := by
        rintro rfl
        cases hall [] r rfl
      rw [expandLf, if_neg hlf, ih fun a b h => ?_]
      have hlast := hall (c :: a) b (by rw [h]; rfl)
      cases a with
      | nil => exact (hpair b (Option.some.inj hlast) h).elim
      | cons x a => rwa [List.getLast?_cons_cons] at hlast
    | case3 => rfl

/-! ## Pairs -/

/-- A text without pairs is folded already. -/
theorem foldCrlf_eq_self_iff : foldCrlf t = t ↔ ¬ ['\r', '\n'] <:+: t := by
  fun_induction foldCrlf t with
  | case1 r ih =>
    constructor
    · intro h
      cases h
    · intro h
      exact absurd (List.IsPrefix.isInfix ⟨r, rfl⟩) h
  | case2 c r hpair ih =>
    rw [List.infix_cons_iff, not_or, List.cons_inj_right, ih]
    refine ⟨fun h => ⟨?_, h⟩, fun h => h.2⟩
    rintro ⟨s, hs⟩
    cases hs
    exact hpair s rfl rfl
  | case3 => simp

/-- Folding leaves a pair exactly where two carriage returns stood before a line feed. -/
theorem pair_infix_foldCrlf_iff : ['\r', '\n'] <:+: foldCrlf t ↔ ['\r', '\r', '\n'] <:+: t := by
  fun_induction foldCrlf t with
  | case1 r ih =>
    rw [List.infix_cons_iff, List.infix_cons_iff, List.infix_cons_iff, ih]
    simp
  | case2 c r hpair ih =>
    rw [List.infix_cons_iff, List.infix_cons_iff, ih]
    refine or_congr_left ?_
    rw [List.cons_prefix_cons, List.cons_prefix_cons]
    refine and_congr_right fun hc => ?_
    subst hc
    -- Behind this carriage return stands no line feed: one comes there only by folding a pair.
    constructor
    · intro h
      revert h
      fun_cases foldCrlf r with
      | case1 s => exact fun _ => ⟨s, rfl⟩
      | case2 d s =>
        intro h
        obtain rfl := (List.cons_prefix_cons.1 h).1
        exact (hpair s rfl rfl).elim
      | case3 => simp
    · rintro ⟨s, rfl⟩
      exact ⟨foldCrlf s, rfl⟩
  | case3 => simp

/-! ## One ending -/

/-- Every carriage return stands directly before a line feed, and either every line feed stands directly behind
a carriage return or none does. -/
structure HasOneEnding (t : Text) : Prop where
  paired : ∀ a b, t = a ++ '\r' :: b → b.head? = some '\n'
  alike : (∀ a b, t = a ++ '\n' :: b → a.getLast? = some '\r') ∨
    ∀ a b, t = a ++ '\n' :: b → a.getLast? ≠ some '\r'

/-- Where both characters stand in pairs only, folding leaves no carriage return, and expanding undoes it. -/
theorem foldCrlf_of_paired (hpaired : ∀ a b, t = a ++ '\r' :: b → b.head? = some '\n')
    (hall : ∀ a b, t = a ++ '\n' :: b → a.getLast? = some '\r') :
    '\r' ∉ foldCrlf t ∧ expandLf (foldCrlf t) = t := by
  refine ⟨?_, expandLf_foldCrlf_iff.2 hall⟩
  clear hall
  fun_induction foldCrlf t with
  | case1 r ih =>
    have hrest := ih fun a b h => hpaired ('\r' :: '\n' :: a) b (by rw [h]; rfl)
    simp [hrest]
  | case2 c r hpair ih =>
    have hcr : c ≠ '\r' := by
      rintro rfl
      obtain ⟨b, hb⟩ := List.head?_eq_some_iff.1 (hpaired [] r rfl)
      exact hpair b rfl hb
    have hrest := ih fun a b h => hpaired (c :: a) b (by rw [h]; rfl)
    simp [hrest, Ne.symm hcr]
  | case3 => simp

theorem paired_expandLf (h : '\r' ∉ t) (a b : Text) (ht : expandLf t = a ++ '\r' :: b) :
    b.head? = some '\n' := by
  induction t generalizing a with
  | nil => simp [expandLf] at ht
  | cons c r ih =>
    rw [List.mem_cons, not_or] at h
    rw [expandLf] at ht
    split at ht
    · cases a with
      | nil =>
        cases ht
        rfl
      | cons x a =>
        cases a with
        | nil => cases ht
        | cons y a => exact ih h.2 a (List.cons.inj (List.cons.inj ht).2).2
    · cases a with
      | nil => exact absurd (List.cons.inj ht).1.symm h.1
      | cons x a => exact ih h.2 a (List.cons.inj ht).2

/-- The lines of a text end alike if no carriage return is there, or if the pairs can be folded and expanded
again. -/
theorem hasOneEnding_iff :
    HasOneEnding t ↔ '\r' ∉ t ∨ ('\r' ∉ foldCrlf t ∧ expandLf (foldCrlf t) = t) := by
  constructor
  · intro h
    by_cases hcr : '\r' ∈ t
    · refine .inr (foldCrlf_of_paired h.paired (h.alike.resolve_right fun hnone => ?_))
      obtain ⟨a, b, hab⟩ := List.append_of_mem hcr
      obtain ⟨b', hb⟩ := List.head?_eq_some_iff.1 (h.paired a b hab)
      exact hnone (a ++ ['\r']) b' (by simp [hab, hb]) (by simp)
    · exact .inl hcr
  · rintro (hno | ⟨hno, hback⟩)
    · refine ⟨fun a b h => absurd (by simp [h]) hno, .inr fun a b h hlast => hno ?_⟩
      rw [h]
      exact List.mem_append_left _ (List.mem_of_getLast? hlast)
    · exact ⟨fun a b h => paired_expandLf hno a b (hback.trans h),
        .inl fun a b h => getLast?_of_expandLf a b (hback.trans h)⟩

instance (t : Text) : Decidable (HasOneEnding t) := decidable_of_iff _ hasOneEnding_iff.symm

/-! ## Lines -/

theorem isOneLine_of_mem_lines (h : '\r' ∉ t) {l : Text} (hl : l ∈ lines t) : IsOneLine l :=
  isOneLine_iff.2 ⟨fun hcr => h (mem_of_mem_splitAt hl hcr), not_mem_of_mem_splitAt hl⟩

end SdkGraft.Text

namespace SdkGraft.Source

open Text (IsOneLine HasOneEnding)

variable {ls : List Text}

/-- The lines joined by an ending, as they are read. -/
theorem foldCrlf_joinWith (ending : LineEnding) (h : ∀ l ∈ ls, IsOneLine l) :
    Text.foldCrlf (Text.joinWith ending.text ls) = Text.unlines ls := by
  induction ls with
  | nil => rfl
  | cons l rest ih =>
    have hl : '\r' ∉ l := (h l (by simp)).not_mem rfl
    rcases eq_or_ne rest [] with rfl | hne
    · exact Text.foldCrlf_of_not_mem hl
    · have hrest := ih fun x hx => h x (by simp [hx])
      rw [Text.joinWith_cons _ hne, Text.unlines_cons hne, List.append_assoc, Text.foldCrlf_append hl, ← hrest]
      cases ending with
      | lf => exact congrArg (l ++ ·) (Text.foldCrlf_cons (by decide) _)
      | crlf => rfl

theorem expandLf_unlines (h : ∀ l ∈ ls, IsOneLine l) :
    Text.expandLf (Text.unlines ls) = Text.joinWith LineEnding.crlf.text ls := by
  induction ls with
  | nil => rfl
  | cons l rest ih =>
    have hl : '\n' ∉ l := (h l (by simp)).not_mem rfl
    rcases eq_or_ne rest [] with rfl | hne
    · exact Text.expandLf_of_not_mem hl
    · have hrest := ih fun x hx => h x (by simp [hx])
      rw [Text.joinWith_cons _ hne, Text.unlines_cons hne, Text.expandLf_append, Text.expandLf_of_not_mem hl,
        List.append_assoc, ← hrest]
      rfl

/-- The lines joined by line feeds, as they are written. -/
theorem normalize_unlines (ending : LineEnding) (h : ∀ l ∈ ls, IsOneLine l) :
    ending.normalize (Text.unlines ls) = Text.joinWith ending.text ls := by
  have hfold : Text.foldCrlf (Text.unlines ls) = Text.unlines ls := foldCrlf_joinWith .lf h
  cases ending with
  | lf => exact hfold
  | crlf => rw [LineEnding.normalize, hfold, expandLf_unlines h]

/-! ## Documents -/

/-- What stands before the first line of a document in its file. -/
def Document.mark (d : Document) : Text := if d.hasMark then [byteOrderMark] else []

theorem mark_append_dropMark (path text : Text) : (Document.ofText path text).mark ++ dropMark text = text := by
  cases text with
  | nil => rfl
  | cons c r =>
    by_cases hc : c = byteOrderMark
    · subst hc
      rw [dropMark, if_pos rfl]
      rfl
    · have hmark : (Document.ofText path (c :: r)).hasMark = false :=
        beq_false_of_ne fun h => hc (Option.some.inj h)
      rw [Document.mark, hmark, dropMark, if_neg hc]
      rfl

theorem not_mem_mark {c : Char} (h : c ≠ byteOrderMark) (d : Document) : c ∉ d.mark := by
  rw [Document.mark]
  split
  · simpa using h
  · simp

theorem ofText_lines {text : Text} (h : HasOneEnding text) (path : Text) :
    (∀ l ∈ (Document.ofText path text).lines, IsOneLine l) ∧
      text = (Document.ofText path text).mark ++
        Text.joinWith (LineEnding.detect text).text (Document.ofText path text).lines := by
  have hwhole := mark_append_dropMark path text
  have hmark := not_mem_mark (c := '\r') (by decide) (Document.ofText path text)
  have hmark' := not_mem_mark (c := '\n') (by decide) (Document.ofText path text)
  have hlines : (Document.ofText path text).lines = Text.lines (Text.foldCrlf (dropMark text)) := rfl
  generalize (Document.ofText path text).mark = mark at hwhole hmark hmark' ⊢
  rw [hlines]
  by_cases hcr : '\r' ∈ text
  · have hdetect : LineEnding.detect text = .crlf := by
      obtain ⟨a, b, hab⟩ := List.append_of_mem hcr
      obtain ⟨b', rfl⟩ := List.head?_eq_some_iff.1 (h.paired a b hab)
      rw [LineEnding.detect, if_pos]
      exact Text.occursIn_iff.2 ⟨a, b', by simp [hab]⟩
    obtain ⟨hno, hback⟩ := (Text.hasOneEnding_iff.1 h).resolve_left (not_not_intro hcr)
    rw [← hwhole, Text.foldCrlf_append hmark] at hno hback
    rw [Text.expandLf_append, Text.expandLf_of_not_mem hmark'] at hback
    have hbody := List.append_cancel_left hback
    have hone : ∀ l ∈ Text.lines (Text.foldCrlf (dropMark text)), IsOneLine l := fun l hl =>
      Text.isOneLine_of_mem_lines (fun hm => hno (List.mem_append_right _ hm)) hl
    refine ⟨hone, ?_⟩
    rw [hdetect, ← expandLf_unlines hone, Text.unlines_lines, hbody, hwhole]
  · have hdetect : LineEnding.detect text = .lf := by
      rw [LineEnding.detect, if_neg]
      intro hpair
      exact hcr ((Text.occursIn_iff.1 hpair).subset (by simp))
    have hbody : '\r' ∉ dropMark text := fun hm => hcr (hwhole ▸ List.mem_append_right _ hm)
    rw [Text.foldCrlf_of_not_mem hbody]
    refine ⟨fun l hl => Text.isOneLine_of_mem_lines hbody hl, ?_⟩
    rw [hdetect]
    exact hwhole.symm.trans (congrArg (mark ++ ·) (Text.unlines_lines _).symm)

theorem render_lines {d : Document} (h : ∀ l ∈ d.lines, IsOneLine l) :
    d.render true = d.mark ++ Text.joinWith d.ending.text d.lines := by
  rw [Document.render, if_pos rfl, Document.text, normalize_unlines d.ending h, Document.mark]
  split <;> rfl

end SdkGraft.Source

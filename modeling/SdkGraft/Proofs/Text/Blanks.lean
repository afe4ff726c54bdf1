import SdkGraft.Text.Blank

/-!
# Blanks at the ends of a text

* `trim_append_of_isAllBlank`, `trim_trimStart` : the indentation of a line is trimmed away;
* `trim_append_blanks`, `exists_trimEnd`, `exists_trim`, `trim_trim` : so are the blanks at its end, and nothing else is;
* `trim_of_isAllBlank`, `trim_of_ends` : nothing is left of blanks, all of what has none at its ends;
* `count_trim`, `infix_trimEnd` : no other character is lost, and no part without blanks;
* `isAllBlank_cons_iff`, `isAllBlank_append`, `isAllBlank_flatten_replicate` : blank texts one after the other;
* `trimStart_trimStart`, `leading_trimStart`, `leading_append_of_isAllBlank` : what indentation a line has when it is
  given another one.
-/

namespace SdkGraft.Text

/-- No character that prints is blank, if it is one of the first 128. -/
theorem isBlank_of_printing {c : Char} (hmin : 0x20 < c.toNat) (hmax : c.toNat < 0x80) : isBlank c = false := by
  simp [isBlank, inRanges, blankRanges]
  omega

theorem isBlank_of_mem {t : Text} (h : isAllBlank t = true) {c : Char} (hc : c ∈ t) :
    isBlank c = true := List.all_eq_true.1 h c hc

theorem trimStart_append_of_isAllBlank {b : Text} (h : isAllBlank b = true) (t : Text) :
    trimStart (b ++ t) = trimStart t := by
  rw [trimStart, List.dropWhile_append_of_pos fun c hc => isBlank_of_mem h hc, trimStart]

theorem trim_append_of_isAllBlank {b : Text} (h : isAllBlank b = true) (t : Text) :
    trim (b ++ t) = trim t := by rw [trim, trimStart_append_of_isAllBlank h, trim]

theorem isAllBlank_leading (t : Text) : isAllBlank (leading t) = true := List.all_takeWhile

theorem trim_trimStart (t : Text) : trim (trimStart t) = trim t := by
  have h := trim_append_of_isAllBlank (isAllBlank_leading t) (trimStart t)
  rw [leading_append_trimStart] at h
  exact h.symm

theorem trim_of_isAllBlank {t : Text} (h : isAllBlank t = true) : trim t = [] := by
  have := trim_append_of_isAllBlank h []
  simpa [trim, trimStart, trimEnd] using this

theorem trimStart_of_isAllBlank {t : Text} (h : isAllBlank t = true) : trimStart t = [] := by
  have := trimStart_append_of_isAllBlank h []
  rwa [List.append_nil] at this

theorem trimEnd_append_of_isAllBlank {b : Text} (h : isAllBlank b = true) (t : Text) :
    trimEnd (t ++ b) = trimEnd t := by
  rw [trimEnd, List.reverse_append,
    List.dropWhile_append_of_pos fun c hc => isBlank_of_mem h (List.mem_reverse.1 hc), trimEnd]

theorem trim_append_blanks {b : Text} (h : isAllBlank b = true) (t : Text) : trim (t ++ b) = trim t := by
  have hstart : trimStart (t ++ b) = trimStart t ++ b ∨ trimStart (t ++ b) = [] ∧ trimStart t = [] := by
    simp only [trimStart, List.dropWhile_append]
    split
    · rename_i hnil
      exact .inr ⟨trimStart_of_isAllBlank h, List.isEmpty_iff.1 hnil⟩
    · exact .inl rfl
  rcases hstart with hstart | ⟨hstart, ht⟩
  · rw [trim, hstart, trimEnd_append_of_isAllBlank h, trim]
  · rw [trim, hstart, trim, ht]

theorem exists_trimEnd (t : Text) : ∃ b, isAllBlank b = true ∧ t = trimEnd t ++ b := by
  refine ⟨(t.reverse.takeWhile isBlank).reverse, ?_, ?_⟩
  · rw [isAllBlank, List.all_reverse]
    exact List.all_takeWhile
  · rw [trimEnd, ← List.reverse_append, List.takeWhile_append_dropWhile, List.reverse_reverse]

theorem exists_trim (t : Text) :
    ∃ a b, isAllBlank a = true ∧ isAllBlank b = true ∧ t = a ++ (trim t ++ b) := by
  obtain ⟨b, hb, hend⟩ := exists_trimEnd (trimStart t)
  exact ⟨leading t, b, isAllBlank_leading t, hb, by rw [trim, ← hend, leading_append_trimStart]⟩

theorem trim_trim (t : Text) : trim (trim t) = trim t := by
  obtain ⟨a, b, ha, hb, ht⟩ := exists_trim t
  have h : trim t = trim (a ++ (trim t ++ b)) := congrArg trim ht
  rw [trim_append_of_isAllBlank ha, trim_append_blanks hb] at h
  exact h.symm

theorem mem_of_mem_trim {t : Text} {c : Char} (h : c ∈ trim t) : c ∈ t := by
  rw [trim, trimEnd, List.mem_reverse] at h
  have hstart := List.mem_reverse.1 ((List.dropWhile_sublist isBlank).subset h)
  exact (List.dropWhile_sublist isBlank).subset hstart

theorem count_trimStart {c : Char} (h : isBlank c = false) (t : Text) : (trimStart t).count c = t.count c := by
  have hno : c ∉ leading t := fun hm => by simp [isBlank_of_mem_leading hm] at h
  have hsum := congrArg (List.count c) (leading_append_trimStart t)
  rwa [List.count_append, List.count_eq_zero.2 hno, Nat.zero_add] at hsum

theorem count_trimEnd {c : Char} (h : isBlank c = false) (t : Text) : (trimEnd t).count c = t.count c := by
  have hreverse := count_trimStart h t.reverse
  rwa [List.count_reverse, trimStart, ← List.count_reverse] at hreverse

/-- Trimming takes away blanks only. -/
theorem count_trim {c : Char} (h : isBlank c = false) (t : Text) : (trim t).count c = t.count c := by
  rw [trim, count_trimEnd h, count_trimStart h]

theorem isAllBlank_cons_iff {c : Char} {t : Text} :
    isAllBlank (c :: t) = true ↔ isBlank c = true ∧ isAllBlank t = true := by
  rw [isAllBlank, List.all_cons, Bool.and_eq_true, isAllBlank]

theorem isAllBlank_append {a b : Text} (ha : isAllBlank a = true) (hb : isAllBlank b = true) :
    isAllBlank (a ++ b) = true := by simp_all [isAllBlank]

theorem isAllBlank_flatten_replicate {u : Text} (h : isAllBlank u = true) (n : Nat) :
    isAllBlank (List.replicate n u).flatten = true := by
  induction n with
  | zero => rfl
  | succ n ih => rw [List.replicate_succ, List.flatten_cons]; exact isAllBlank_append h ih

theorem trimStart_of_head {c : Char} (h : isBlank c = false) (t : Text) :
    trimStart (c :: t) = c :: t := by simp [trimStart, h]

theorem trimEnd_of_last {c : Char} (h : isBlank c = false) (t : Text) :
    trimEnd (t ++ [c]) = t ++ [c] := by simp [trimEnd, h]

theorem trim_of_ends {c d : Char} (hc : isBlank c = false) (hd : isBlank d = false) (t : Text) :
    trim (c :: t ++ [d]) = c :: t ++ [d] := by
  rw [trim, List.cons_append, trimStart_of_head hc, ← List.cons_append, trimEnd_of_last hd]

theorem leading_of_head {c : Char} (h : isBlank c = false) (t : Text) : leading (c :: t) = [] := by
  simp [leading, h]

theorem isAllBlank_of_head {c : Char} (h : isBlank c = false) (t : Text) :
    isAllBlank (c :: t) = false := by simp [isAllBlank, h]

/-- A part without blanks stands in front of the blanks at the end. -/
theorem infix_trimEnd {t u : Text} (hu : ∀ c ∈ u, isBlank c = false) (h : u <:+: t) : u <:+: trimEnd t := by
  obtain ⟨b, hb, ht⟩ := exists_trimEnd t
  obtain ⟨before, after, hwhole⟩ := h
  rw [ht] at hwhole
  obtain ⟨between, hend, -⟩ | ⟨reach, hstart, hrest⟩ := List.append_eq_append_iff.1 hwhole
  · exact ⟨before, between, hend.symm⟩
  · -- What of the part would reach into the blanks has a last character, the last one of the part.
    obtain rfl | ⟨reach, c, rfl⟩ := List.eq_nil_or_concat reach
    · exact ⟨before, [], by rw [hstart, List.append_nil, List.append_nil]⟩
    obtain rfl | ⟨u, d, rfl⟩ := List.eq_nil_or_concat u
    · exact List.nil_infix
    rw [List.concat_eq_append, List.concat_eq_append, ← List.append_assoc, ← List.append_assoc] at hstart
    have hlast : d = c := List.singleton_inj.1 (List.append_inj_right' hstart rfl)
    have hblank := isBlank_of_mem hb (c := c) (by simp [hrest])
    rw [← hlast, hu d (by simp)] at hblank
    cases hblank

/-! ## Another indentation -/

theorem trimStart_trimStart (t : Text) : trimStart (trimStart t) = trimStart t := by
  have h := trimStart_append_of_isAllBlank (isAllBlank_leading t) (trimStart t)
  rw [leading_append_trimStart] at h
  exact h.symm

theorem leading_trimStart (t : Text) : leading (trimStart t) = [] := by
  have h := leading_append_trimStart (trimStart t)
  rw [trimStart_trimStart] at h
  exact List.append_left_eq_self.1 h

theorem leading_append_of_isAllBlank {b : Text} (h : isAllBlank b = true) (t : Text) :
    leading (b ++ t) = b ++ leading t :=
  List.takeWhile_append_of_pos fun _ hc => isBlank_of_mem h hc

theorem isAllBlank_append_trimStart {b : Text} (h : isAllBlank b = true) (t : Text) :
    isAllBlank (b ++ trimStart t) = isAllBlank t := by
  have hleading := isAllBlank_leading t
  have hwhole := congrArg isAllBlank (leading_append_trimStart t)
  simp only [isAllBlank, List.all_append] at h hleading hwhole ⊢
  rw [← hwhole, h, hleading]

end SdkGraft.Text

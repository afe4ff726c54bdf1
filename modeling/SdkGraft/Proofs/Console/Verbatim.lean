import Mathlib.Algebra.Order.BigOperators.Group.List
import Mathlib.Algebra.Order.Group.Nat
import SdkGraft.Proofs.Console.Cut
import SdkGraft.Console.Markup

/-!
# Texts that machines are shown as they are

A text for machines is escaped as if tags in it were painted, and then loses what looks like the name of a style, and
the codes that terminals obey. Most texts come through all three unchanged.

* `count_flatMap_le`, `count_eq_of_flatMap` : counting a character in texts one behind the other;
* `IsTagName`, `tag?_eq_some_iff` : what can stand between the brackets of a tag; `IsTag` : a tag;
* `flatMap_text_pieces`, `exists_tag_mem_pieces_iff` : the pieces of a text are all of it, and its tags are pieces;
* `count_escape`, `le_count_escape`, `escape_eq_self_of_count` : escaping adds backslashes, or nothing at all;
* `IsVerbatim` : a text that all three leave as it is (`isVerbatim_iff`).
-/

namespace SdkGraft.Console

/-! ## Counting -/

section
variable {α : Type} {f g : α → Text} {l : List α} {c : Char}

theorem count_flatMap_le (h : ∀ a ∈ l, (f a).count c ≤ (g a).count c) :
    (l.flatMap f).count c ≤ (l.flatMap g).count c := by
  rw [List.count_flatMap, List.count_flatMap]
  exact List.sum_le_sum h

/-- Where one text of each kind has no more of a character, and all together have as many, each has as many. -/
theorem count_eq_of_flatMap (h : ∀ a ∈ l, (f a).count c ≤ (g a).count c)
    (hsum : (l.flatMap f).count c = (l.flatMap g).count c) : ∀ a ∈ l, (f a).count c = (g a).count c := by
  rw [List.count_flatMap, List.count_flatMap] at hsum
  intro a ha
  by_contra hne
  have hlt := List.sum_lt_sum (List.count c ∘ f) (List.count c ∘ g) h ⟨a, ha, lt_of_le_of_ne (h a ha) hne⟩
  exact absurd hsum (Nat.ne_of_lt hlt)

end

variable {t r inner : Text} {c : Char} {n skip : Nat}

/-! ## Tags -/

/-- A character that a tag can start with. -/
def isTagStart (c : Char) : Bool := ('a' ≤ c && c ≤ 'z') || c == '#' || c == '/' || c == '@'

structure IsTagName (inner : Text) : Prop where
  starts : inner.head?.any isTagStart = true
  no_bracket : ∀ c ∈ inner, c ≠ '[' ∧ c ≠ ']'

def IsTag (u : Text) : Prop := ∃ inner, IsTagName inner ∧ u = '[' :: (inner ++ [']'])

theorem tag?_eq_some_iff : tag? r = some inner ↔ IsTagName inner ∧ ∃ rest, r = inner ++ ']' :: rest := by
  constructor
  · intro h
    unfold tag? at h
    extract_lets opens at h
    split at h
    · rename_i inner' hopens
      split at h
      · rename_i hnext
        obtain ⟨rest, hrest : r = inner' ++ ']' :: rest⟩ := exists_of_next hnext
        have hno : ∀ c ∈ inner', c ≠ '[' ∧ c ≠ ']' := by
          intro c hc
          have := List.all_eq_true.1 List.all_takeWhile c hc
          simpa using this
        rw [Option.some.inj h] at hrest hno
        refine ⟨⟨?_, hno⟩, rest, hrest⟩
        rw [hrest] at hopens
        cases inner with
        | nil => cases hopens
        | cons c s => exact hopens
      · cases h
    · cases h
  · rintro ⟨hname, rest, rfl⟩
    have htake : (inner ++ ']' :: rest).takeWhile (fun c => c != '[' && c != ']') = inner :=
      takeWhile_append_cons (fun c hc => by simpa using hname.no_bracket c hc) (by decide) rest
    have hopens : (inner ++ ']' :: rest).head?.any isTagStart = true := by
      have := hname.starts
      cases inner with
      | nil => cases this
      | cons c s => exact this
    have hnext : ((inner ++ ']' :: rest).drop inner.length).head? = some ']' := by simp
    unfold isTagStart at hopens
    simp only [tag?, hopens, htake, hnext, if_true]

/-! ## Pieces -/

/-- A piece as it stands in the text. -/
def Piece.text : Piece → Text
  | .char c => [c]
  | .bracket slashes => backslashes slashes ++ ['[']
  | .tag slashes inner => backslashes slashes ++ '[' :: (inner ++ [']'])

theorem flatMap_text_map_char (t : Text) : (t.map Piece.char).flatMap Piece.text = t := by
  induction t with
  | nil => rfl
  | cons c t ih => rw [List.map_cons, List.flatMap_cons, ih]; rfl

theorem backslashes_append_cons (n : Nat) (t : Text) : backslashes n ++ '\\' :: t = backslashes (n + 1) ++ t := by
  rw [backslashes, backslashes, List.replicate_succ', List.append_assoc, List.singleton_append]

/-- The pieces of a text behind backslashes are all of it, but for what is left out. -/
theorem flatMap_text_piecesFrom (h : skip = 0 ∨ n = 0) :
    (piecesFrom skip n t).flatMap Piece.text = backslashes n ++ t.drop skip := by
  fun_induction piecesFrom skip n t with
  | case1 skip n => simp [flatMap_text_map_char]
  | case2 n skip c r ih =>
    obtain h | rfl := h
    · cases h
    · exact ih (.inr rfl)
  | case3 n r ih => rw [ih (.inl rfl), List.drop_zero, List.drop_zero, backslashes_append_cons]
  | case4 n r inner htag _ ih =>
    obtain ⟨-, rest, rfl⟩ := tag?_eq_some_iff.1 htag
    rw [List.flatMap_cons, ih (.inr rfl), Piece.text]
    simp [backslashes]
  | case5 n r htag _ ih =>
    rw [List.flatMap_cons, ih (.inl rfl), Piece.text]
    simp [backslashes]
  | case6 n c r hback hopen ih =>
    rw [List.flatMap_append, List.flatMap_cons, ih (.inl rfl), flatMap_text_map_char, Piece.text]
    simp [backslashes]

theorem flatMap_text_pieces (t : Text) : (pieces t).flatMap Piece.text = t := flatMap_text_piecesFrom (.inl rfl)

theorem isTagName_of_mem_piecesFrom {slashes : Nat} (h : Piece.tag slashes inner ∈ piecesFrom skip n t) :
    IsTagName inner := by
  fun_induction piecesFrom skip n t with
  | case1 skip n => simp at h
  | case2 n skip c r ih => exact ih h
  | case3 n r ih => exact ih h
  | case4 n r inner' htag _ ih =>
    obtain h | h := List.mem_cons.1 h
    · cases h
      exact (tag?_eq_some_iff.1 htag).1
    · exact ih h
  | case5 n r htag _ ih =>
    obtain h | h := List.mem_cons.1 h
    · cases h
    · exact ih h
  | case6 n c r hback hopen ih =>
    obtain h | h := List.mem_append.1 h
    · simp at h
    · obtain h | h := List.mem_cons.1 h
      · cases h
      · exact ih h

theorem tag?_eq_none_of_pieces (h : ∀ slashes inner, Piece.tag slashes inner ∉ piecesFrom 0 n t) :
    ∀ r, '[' :: r <:+ t → tag? r = none := by
  induction t generalizing n with
  | nil => intro r hr; simp at hr
  | cons c s ih =>
    intro r hr
    rw [piecesFrom] at h
    by_cases hback : c = '\\'
    · rw [if_pos hback] at h
      obtain hr | hr := List.suffix_cons_iff.1 hr
      · cases hr
        exact absurd hback (by decide)
      · exact ih h r hr
    rw [if_neg hback] at h
    by_cases hopen : c = '['
    · rw [if_pos hopen] at h
      cases htag : tag? s with
      | some inner =>
        simp only [htag] at h
        exact absurd List.mem_cons_self (h n inner)
      | none =>
        simp only [htag] at h
        obtain hr | hr := List.suffix_cons_iff.1 hr
        · cases hr
          exact htag
        · exact ih (fun slashes inner hm => h slashes inner (List.mem_cons_of_mem _ hm)) r hr
    · rw [if_neg hopen] at h
      obtain hr | hr := List.suffix_cons_iff.1 hr
      · cases hr
        exact absurd rfl hopen
      · exact ih (fun slashes inner hm =>
          h slashes inner (List.mem_append_right _ (List.mem_cons_of_mem _ hm))) r hr

/-- Some piece of a text is a tag just if a tag stands in it. -/
theorem exists_tag_mem_pieces_iff :
    (∃ slashes inner, Piece.tag slashes inner ∈ pieces t) ↔ ∃ u, IsTag u ∧ u <:+: t := by
  constructor
  · rintro ⟨slashes, inner, h⟩
    refine ⟨_, ⟨inner, isTagName_of_mem_piecesFrom h, rfl⟩, ?_⟩
    have hpiece : (Piece.tag slashes inner).text <:+: (pieces t).flatMap Piece.text := by
      obtain ⟨before, after, hpieces⟩ := List.append_of_mem h
      rw [hpieces, List.flatMap_append, List.flatMap_cons, ← List.append_assoc]
      exact List.infix_append _ _ _
    rw [flatMap_text_pieces] at hpiece
    exact (List.suffix_append _ _).isInfix.trans hpiece
  · rintro ⟨u, ⟨inner, hname, rfl⟩, hin⟩
    by_contra hnone
    simp only [not_exists] at hnone
    obtain ⟨s, hprefix, hsuffix⟩ := List.infix_iff_prefix_suffix.1 hin
    obtain ⟨rest, rfl⟩ := hprefix
    have htag := tag?_eq_none_of_pieces hnone _ hsuffix
    have hfound : tag? (inner ++ [']'] ++ rest) = some inner := tag?_eq_some_iff.2 ⟨hname, rest, by simp⟩
    cases hfound.symm.trans htag

/-! ## Escaping -/

theorem count_backslashes (n : Nat) : (backslashes n).count '\\' = n := List.count_replicate_self

theorem count_backslashes_of_ne (h : c ≠ '\\') (n : Nat) : (backslashes n).count c = 0 := by
  simp [backslashes, List.count_replicate, h.symm]

theorem Piece.count_escaped (h : c ≠ '\\') (p : Piece) : p.escaped.count c = p.text.count c := by
  cases p with
  | char d => rfl
  | bracket slashes => rfl
  | tag slashes inner => simp [escaped, text, count_backslashes_of_ne h]

theorem Piece.le_count_escaped (p : Piece) : p.text.count '\\' ≤ p.escaped.count '\\' := by
  cases p with
  | char d => exact le_rfl
  | bracket slashes => exact le_rfl
  | tag slashes inner =>
    simp only [escaped, text, List.append_assoc, List.cons_append, List.count_append, count_backslashes]
    omega

theorem Piece.count_escaped_tag (slashes : Nat) (inner : Text) :
    (Piece.tag slashes inner).text.count '\\' ≠ (Piece.tag slashes inner).escaped.count '\\' := by
  simp only [escaped, text, List.append_assoc, List.cons_append, List.count_append, count_backslashes]
  omega

theorem flatMap_escaped_of_no_tag {ps : List Piece} (h : ∀ slashes inner, Piece.tag slashes inner ∉ ps) :
    ps.flatMap Piece.escaped = ps.flatMap Piece.text := by
  refine List.flatMap_congr fun p hp => ?_
  cases p with
  | char c => rfl
  | bracket slashes => rfl
  | tag slashes inner => exact absurd hp (h slashes inner)

def EndsInOne (t : Text) : Prop := ['\\'] <:+ t ∧ ¬ ['\\', '\\'] <:+ t

theorem doubleLast_of_endsInOne (h : EndsInOne t) : doubleLast t = t ++ ['\\'] := by
  rw [doubleLast, if_pos]
  simp only [Text.endsWith, Bool.and_eq_true, Bool.not_eq_true', Bool.eq_false_iff, ne_eq, List.isSuffixOf_iff_suffix]
  exact h

theorem doubleLast_of_not (h : ¬ EndsInOne t) : doubleLast t = t := by
  rw [doubleLast, if_neg]
  simp only [Text.endsWith, Bool.and_eq_true, Bool.not_eq_true', Bool.eq_false_iff, ne_eq, List.isSuffixOf_iff_suffix]
  exact h

theorem count_doubleLast (h : c ≠ '\\') (t : Text) : (doubleLast t).count c = t.count c := by
  by_cases hend : EndsInOne t
  · rw [doubleLast_of_endsInOne hend, List.count_append, List.count_singleton, if_neg (by simpa using h.symm),
      Nat.add_zero]
  · rw [doubleLast_of_not hend]

theorem count_escape (h : c ≠ '\\') (t : Text) : (escape t).count c = t.count c := by
  have hpieces : ((pieces t).flatMap Piece.escaped).count c = ((pieces t).flatMap Piece.text).count c := by
    rw [List.count_flatMap, List.count_flatMap]
    exact congrArg List.sum (List.map_congr_left fun p _ => p.count_escaped h)
  rw [escape, count_doubleLast h, hpieces, flatMap_text_pieces]

theorem le_count_doubleLast (t : Text) : t.count '\\' ≤ (doubleLast t).count '\\' := by
  by_cases hend : EndsInOne t
  · rw [doubleLast_of_endsInOne hend, List.count_append]
    exact Nat.le_add_right _ _
  · rw [doubleLast_of_not hend]

theorem le_count_flatMap_escaped (t : Text) : t.count '\\' ≤ ((pieces t).flatMap Piece.escaped).count '\\' := by
  have h : ((pieces t).flatMap Piece.text).count '\\' ≤ ((pieces t).flatMap Piece.escaped).count '\\' :=
    count_flatMap_le fun p _ => p.le_count_escaped
  rwa [flatMap_text_pieces] at h

theorem le_count_escape (t : Text) : t.count '\\' ≤ (escape t).count '\\' :=
  (le_count_flatMap_escaped t).trans (le_count_doubleLast _)

theorem escape_eq_self_of (htag : ∀ slashes inner, Piece.tag slashes inner ∉ pieces t) (hend : ¬ EndsInOne t) :
    escape t = t := by
  rw [escape, flatMap_escaped_of_no_tag htag, flatMap_text_pieces, doubleLast_of_not hend]

/-- Where escaping adds no backslash, there is nothing to escape. -/
theorem no_tag_of_count_escape (h : (escape t).count '\\' = t.count '\\') :
    (∀ slashes inner, Piece.tag slashes inner ∉ pieces t) ∧ ¬ EndsInOne t := by
  have hpieces := le_count_flatMap_escaped t
  have hlast := le_count_doubleLast ((pieces t).flatMap Piece.escaped)
  have htags : ∀ slashes inner, Piece.tag slashes inner ∉ pieces t := by
    intro slashes inner hm
    refine Piece.count_escaped_tag slashes inner (count_eq_of_flatMap (fun p _ => p.le_count_escaped) ?_ _ hm)
    rw [flatMap_text_pieces]
    rw [escape] at h
    omega
  refine ⟨htags, fun hend => ?_⟩
  rw [escape, flatMap_escaped_of_no_tag htags, flatMap_text_pieces, doubleLast_of_endsInOne hend, List.count_append,
    List.count_singleton_self] at h
  omega

theorem escape_eq_self_of_count (h : (escape t).count '\\' = t.count '\\') : escape t = t :=
  escape_eq_self_of (no_tag_of_count_escape h).1 (no_tag_of_count_escape h).2

theorem escape_eq_self_iff : escape t = t ↔ (∀ u, IsTag u → ¬ u <:+: t) ∧ ¬ EndsInOne t := by
  have htags : (∀ slashes inner, Piece.tag slashes inner ∉ pieces t) ↔ ∀ u, IsTag u → ¬ u <:+: t := by
    have := not_congr (exists_tag_mem_pieces_iff (t := t))
    simpa only [not_exists, not_and] using this
  rw [← htags]
  exact ⟨fun h => no_tag_of_count_escape (congrArg _ h), fun h => escape_eq_self_of h.1 h.2⟩

/-! ## Texts left as they are -/

/-- A text that machines are shown as it is. -/
structure IsVerbatim (t : Text) : Prop where
  no_tag : ∀ u, IsTag u → ¬ u <:+: t
  no_style : ∀ u, IsStyle u → ¬ u <:+: t
  no_code : ∀ u, IsCode u → ¬ u <:+: t
  no_last : ¬ EndsInOne t

theorem withoutStyles_eq_self_iff : withoutStyles t = t ↔ ∀ u, IsStyle u → ¬ u <:+: t := by
  rw [withoutStyles_eq, cutFrom_eq_self_iff removes_styles]

theorem withoutCodes_eq_self_iff : withoutCodes t = t ↔ ∀ u, IsCode u → ¬ u <:+: t := by
  rw [withoutCodes_eq, cutFrom_eq_self_iff removes_codes]

/-- Escaping and both ways of cutting leave such a text as it is, and no other. -/
theorem isVerbatim_iff : IsVerbatim t ↔ escape t = t ∧ withoutStyles t = t ∧ withoutCodes t = t := by
  rw [escape_eq_self_iff, withoutStyles_eq_self_iff, withoutCodes_eq_self_iff]
  exact ⟨fun h => ⟨⟨h.no_tag, h.no_last⟩, h.no_style, h.no_code⟩, fun h => ⟨h.1.1, h.2.1, h.2.2, h.1.2⟩⟩

instance (t : Text) : Decidable (IsVerbatim t) := decidable_of_iff _ isVerbatim_iff.symm

/-- Brackets and backslashes are all that can be taken for something else. -/
theorem isVerbatim_of_not_mem (hopen : '[' ∉ t) (hback : '\\' ∉ t) : IsVerbatim t where
  no_tag := by
    rintro u ⟨inner, -, rfl⟩ hin
    exact hopen (hin.mem List.mem_cons_self)
  no_style := by
    rintro u hu hin
    obtain ⟨r, rfl⟩ := removes_styles.starts u hu
    exact hopen (hin.mem List.mem_cons_self)
  no_code := by
    rintro u ⟨hmarks, hc⟩ hin
    exact hopen (hin.mem (List.mem_cons_of_mem _ List.mem_cons_self))
  no_last := fun h => hback (h.1.mem List.mem_cons_self)

end SdkGraft.Console

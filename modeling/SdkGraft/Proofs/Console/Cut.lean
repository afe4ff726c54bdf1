import Mathlib.Data.List.Infix
import SdkGraft.Console.Machine
import SdkGraft.Proofs.Text.Blanks

/-!
# What is cut out of a text for machines

* `takeWhile_append_cons`, `exists_of_next` : reading up to a character of another kind;
* `cutFrom` : a text without the parts that begin with one character; `Removes` : which parts these are;
* `cutFrom_append`, `cutFrom_append_of_not_mem` : what is left of a part, and of a text without that character;
* `cutFrom_eq_self_iff` : a text is left as it is if no part stands in it; `eq_self_of_count_cutFrom` : or if none of
  these characters is lost;
* `IsStyle`, `removes_styles` : names of styles are cut out; `IsCode`, `removes_codes` : so are codes.
-/

namespace SdkGraft.Console

/-! ## Reading up to a character -/

section
variable {t : Text} {c : Char}

theorem takeWhile_append_cons {p : Char → Bool} (ht : ∀ x ∈ t, p x = true) (hc : p c = false) (r : Text) :
    (t ++ c :: r).takeWhile p = t := by
  rw [List.takeWhile_append_of_pos ht, List.takeWhile_cons_of_neg (by simp [hc]), List.append_nil]

theorem drop_takeWhile_length (p : Char → Bool) (t : Text) :
    t.takeWhile p ++ t.drop (t.takeWhile p).length = t := by
  conv_rhs => rw [← List.take_append_drop (t.takeWhile p).length t]
  rw [← List.prefix_iff_eq_take.1 (List.takeWhile_prefix p)]

theorem exists_of_next {p : Char → Bool} (h : (t.drop (t.takeWhile p).length).head? = some c) :
    ∃ rest, t = t.takeWhile p ++ c :: rest := by
  obtain ⟨rest, hrest⟩ := List.head?_eq_some_iff.1 h
  exact ⟨rest, by rw [← hrest, drop_takeWhile_length]⟩

end

/-! ## Cutting -/

/-- The text without the parts that begin with `start`, of which `length?` tells how far they go on; its first `skip`
characters left out. -/
def cutFrom (start : Char) (length? : Text → Option Nat) : (skip : Nat) → Text → Text
  | _, [] => []
  | skip + 1, _ :: r => cutFrom start length? skip r
  | 0, c :: r =>
    if c = start then
      match length? r with
      | some n => cutFrom start length? n r
      | none => c :: cutFrom start length? 0 r
    else c :: cutFrom start length? 0 r

/-- The parts to cut out begin with `start`, and `length?` finds them. -/
structure Removes (start : Char) (length? : Text → Option Nat) (IsPart : Text → Prop) : Prop where
  starts : ∀ u, IsPart u → ∃ r, u = start :: r
  finds : ∀ r n, length? r = some n ↔ ∃ u, IsPart (start :: u) ∧ u.length = n ∧ u <+: r

variable {t r u : Text} {c start : Char} {n : Nat}

section
variable {length? : Text → Option Nat} {IsPart : Text → Prop}

theorem cutFrom_sublist (start : Char) (length? : Text → Option Nat) (skip : Nat) (t : Text) :
    (cutFrom start length? skip t).Sublist t := by
  fun_induction cutFrom start length? skip t with
  | case1 => exact .slnil
  | case2 _ _ _ ih => exact ih.cons _
  | case3 _ _ _ ih => exact ih.cons _
  | case4 _ _ ih => exact ih.cons_cons _
  | case5 _ _ _ ih => exact ih.cons_cons _

theorem cutFrom_append_of_not_mem (ht : start ∉ t) (r : Text) :
    cutFrom start length? 0 (t ++ r) = t ++ cutFrom start length? 0 r := by
  induction t with
  | nil => rfl
  | cons c t ih =>
    rw [List.mem_cons, not_or] at ht
    rw [List.cons_append, cutFrom, if_neg (Ne.symm ht.1), ih ht.2, List.cons_append]

theorem cutFrom_skip (t r : Text) : cutFrom start length? t.length (t ++ r) = cutFrom start length? 0 r := by
  induction t with
  | nil => rfl
  | cons c t ih => exact ih

theorem cutFrom_append (h : Removes start length? IsPart) (hu : IsPart u) (r : Text) :
    cutFrom start length? 0 (u ++ r) = cutFrom start length? 0 r := by
  obtain ⟨v, rfl⟩ := h.starts _ hu
  have hfound : length? (v ++ r) = some v.length := (h.finds _ _).2 ⟨v, hu, rfl, List.prefix_append v r⟩
  rw [List.cons_append, cutFrom, if_pos rfl, hfound]
  exact cutFrom_skip v r

/-- Where a part is cut out, one of the characters that parts begin with is lost. -/
theorem eq_self_of_count_cutFrom (h : (cutFrom start length? 0 t).count start = t.count start) :
    cutFrom start length? 0 t = t := by
  induction t with
  | nil => rfl
  | cons c r ih =>
    rw [cutFrom] at h ⊢
    by_cases hc : c = start
    · rw [if_pos hc] at h ⊢
      subst hc
      cases hlength : length? r with
      | some n =>
        have hle := (cutFrom_sublist c length? n r).count_le c
        simp only [hlength, List.count_cons_self] at h
        omega
      | none =>
        simp only [hlength, List.count_cons_self, Nat.add_right_cancel_iff] at h
        simp only [ih h]
    · simp only [if_neg hc, List.count_cons_of_ne hc] at h ⊢
      rw [ih h]

/-- Nothing is cut out of a text just if no part stands in it. -/
theorem cutFrom_eq_self_iff (h : Removes start length? IsPart) :
    cutFrom start length? 0 t = t ↔ ∀ u, IsPart u → ¬ u <:+: t := by
  constructor
  · rintro hself u hu ⟨a, b, rfl⟩
    -- Up to the part at most as many of its first characters are left, and of the part itself none.
    have hlost : ∀ a : Text, (cutFrom start length? 0 (a ++ (u ++ b))).length < (a ++ (u ++ b)).length := by
      intro a
      induction a with
      | nil =>
        obtain ⟨v, rfl⟩ := h.starts _ hu
        rw [List.nil_append, cutFrom_append h hu]
        have hle := (cutFrom_sublist start length? 0 b).length_le
        simp only [List.length_append, List.length_cons]
        omega
      | cons c a ih =>
        rw [List.cons_append, cutFrom]
        have hskip := fun n => (cutFrom_sublist start length? n (a ++ (u ++ b))).length_le
        split
        · split
          · exact Nat.lt_succ_of_le (hskip _)
          · exact Nat.succ_lt_succ ih
        · exact Nat.succ_lt_succ ih
    have := hlost a
    rw [← List.append_assoc, hself] at this
    exact absurd this (Nat.lt_irrefl _)
  · intro hnone
    induction t with
    | nil => rfl
    | cons c r ih =>
      have hrest := ih fun u hu hin => hnone u hu (List.infix_cons hin)
      rw [cutFrom, hrest]
      by_cases hc : c = start
      · subst hc
        cases hlength : length? r with
        | none => simp
        | some n =>
          obtain ⟨u, hu, -, hprefix⟩ := (h.finds _ _).1 hlength
          exact absurd ((List.prefix_cons_inj c).2 hprefix).isInfix (hnone _ hu)
      · rw [if_neg hc]

end

/-! ## Styles -/

def isStyleChar (c : Char) : Bool := ('a' ≤ c && c ≤ 'z') || c == ' '

/-- The name of a style between square brackets, perhaps behind a slash. -/
inductive IsStyle : Text → Prop where
  | opening {name : Text} (hne : name ≠ []) (hname : ∀ c ∈ name, isStyleChar c = true) :
      IsStyle ('[' :: (name ++ [']']))
  | closing {name : Text} (hne : name ≠ []) (hname : ∀ c ∈ name, isStyleChar c = true) :
      IsStyle ('[' :: '/' :: (name ++ [']']))

theorem withoutStylesFrom_eq (skip : Nat) (t : Text) :
    withoutStylesFrom skip t = cutFrom '[' styleLength? skip t := by
  fun_induction withoutStylesFrom skip t with
  | case1 => rw [cutFrom]
  | case2 _ _ _ ih => rw [cutFrom, ih]
  | case3 _ _ hlength ih => rw [cutFrom, if_pos rfl, hlength, ih]
  | case4 _ hlength ih => rw [cutFrom, if_pos rfl, hlength, ih]
  | case5 _ _ hc ih => rw [cutFrom, if_neg hc, ih]

theorem withoutStyles_eq (t : Text) : withoutStyles t = cutFrom '[' styleLength? 0 t := withoutStylesFrom_eq 0 t

theorem withoutStyles_sublist (t : Text) : (withoutStyles t).Sublist t := by
  rw [withoutStyles_eq]
  exact cutFrom_sublist _ _ _ _

theorem withoutStyles_of_count_eq (h : (withoutStyles t).count '[' = t.count '[') : withoutStyles t = t := by
  rw [withoutStyles_eq] at h ⊢
  exact eq_self_of_count_cutFrom h

theorem styleLength?_opening {name : Text} (hne : name ≠ []) (hname : ∀ c ∈ name, isStyleChar c = true) (r : Text) :
    styleLength? (name ++ ']' :: r) = some (name.length + 1) := by
  have hslash : (name ++ ']' :: r).head? ≠ some '/' := by
    obtain ⟨c, name, rfl⟩ := List.exists_cons_of_ne_nil hne
    intro h
    have hc := hname c List.mem_cons_self
    rw [Option.some.inj h] at hc
    exact absurd hc (by decide)
  have htake : (name ++ ']' :: r).takeWhile isStyleChar = name := takeWhile_append_cons hname (by decide) r
  unfold isStyleChar at htake
  rw [styleLength?, if_neg hslash]
  simp [htake, hne]

theorem styleLength?_closing {name : Text} (hne : name ≠ []) (hname : ∀ c ∈ name, isStyleChar c = true) (r : Text) :
    styleLength? ('/' :: (name ++ ']' :: r)) = some (name.length + 2) := by
  have htake : (name ++ ']' :: r).takeWhile isStyleChar = name := takeWhile_append_cons hname (by decide) r
  unfold isStyleChar at htake
  simp [styleLength?, htake, hne]
  omega

theorem exists_of_styleLength? (h : styleLength? r = some n) : ∃ name rest, name ≠ [] ∧
    (∀ c ∈ name, isStyleChar c = true) ∧ (r = name ++ ']' :: rest ∨ r = '/' :: (name ++ ']' :: rest)) := by
  unfold styleLength? at h
  extract_lets body name at h
  have hbody : r = body ∨ r = '/' :: body := by
    by_cases hslash : r.head? = some '/'
    · obtain ⟨rest, rfl⟩ := List.head?_eq_some_iff.1 hslash
      exact .inr rfl
    · exact .inl (if_neg hslash).symm
  split at h
  · cases h
  rename_i hempty
  split at h
  · rename_i hnext
    obtain ⟨rest, hrest : body = name ++ ']' :: rest⟩ := exists_of_next hnext
    rw [hrest] at hbody
    exact ⟨name, rest, fun hnil => hempty (List.isEmpty_iff.2 hnil),
      fun c hc => List.all_eq_true.1 List.all_takeWhile c hc, hbody⟩
  · cases h

theorem removes_styles : Removes '[' styleLength? IsStyle where
  starts u hu := by cases hu <;> exact ⟨_, rfl⟩
  finds r n := by
    have hfound : ∀ u, IsStyle ('[' :: u) → ∀ rest, styleLength? (u ++ rest) = some u.length := by
      intro u hu rest
      cases hu with
      | opening hne hname => simp [styleLength?_opening hne hname]
      | closing hne hname => simp [styleLength?_closing hne hname]
    constructor
    · intro h
      obtain ⟨name, rest, hne, hname, rfl | rfl⟩ := exists_of_styleLength? h
      · rw [styleLength?_opening hne hname] at h
        exact ⟨name ++ [']'], .opening hne hname, by simpa using h, rest, by simp⟩
      · rw [styleLength?_closing hne hname] at h
        exact ⟨'/' :: (name ++ [']']), .closing hne hname, by simpa using h, rest, by simp⟩
    · rintro ⟨u, hu, rfl, rest, rfl⟩
      exact hfound u hu rest

/-! ## Codes -/

/-- A character between the bracket and the letter of a code. -/
def isMark (c : Char) : Bool := c.isDigit || c == ';' || c == '?'

inductive IsCode : Text → Prop where
  | mk {marks : Text} {c : Char} (hmarks : ∀ m ∈ marks, isMark m = true) (hc : c.isAlpha = true) :
      IsCode (escapeChar :: '[' :: (marks ++ [c]))

theorem isMark_of_isAlpha (h : c.isAlpha = true) : isMark c = false := by
  cases hmark : isMark c with
  | false => rfl
  | true =>
    rw [isMark, Bool.or_eq_true, Bool.or_eq_true, beq_iff_eq, beq_iff_eq] at hmark
    obtain (hdigit | rfl) | rfl := hmark
    · delta Char.isAlpha Char.isUpper Char.isLower at h
      delta Char.isDigit at hdigit
      grind
    · exact absurd h (by decide)
    · exact absurd h (by decide)

theorem withoutCodesFrom_eq (skip : Nat) (t : Text) :
    withoutCodesFrom skip t = cutFrom escapeChar codeLength? skip t := by
  fun_induction withoutCodesFrom skip t with
  | case1 => rw [cutFrom]
  | case2 _ _ _ ih => rw [cutFrom, ih]
  | case3 _ _ hlength ih => rw [cutFrom, if_pos rfl, hlength, ih]
  | case4 _ hlength ih => rw [cutFrom, if_pos rfl, hlength, ih]
  | case5 _ _ hc ih => rw [cutFrom, if_neg hc, ih]

theorem withoutCodes_eq (t : Text) : withoutCodes t = cutFrom escapeChar codeLength? 0 t := withoutCodesFrom_eq 0 t

theorem withoutCodes_sublist (t : Text) : (withoutCodes t).Sublist t := by
  rw [withoutCodes_eq]
  exact cutFrom_sublist _ _ _ _

theorem withoutCodes_of_count_eq (h : (withoutCodes t).count escapeChar = t.count escapeChar) :
    withoutCodes t = t := by
  rw [withoutCodes_eq] at h ⊢
  exact eq_self_of_count_cutFrom h

theorem codeLength?_marks {marks : Text} (hmarks : ∀ m ∈ marks, isMark m = true) (hc : c.isAlpha = true) (r : Text) :
    codeLength? ('[' :: (marks ++ c :: r)) = some (marks.length + 2) := by
  have htake : (marks ++ c :: r).takeWhile isMark = marks := takeWhile_append_cons hmarks (isMark_of_isAlpha hc) r
  unfold isMark at htake
  simp [codeLength?, htake, hc]

theorem exists_of_codeLength? (h : codeLength? r = some n) : ∃ marks c rest,
    (∀ m ∈ marks, isMark m = true) ∧ c.isAlpha = true ∧ r = '[' :: (marks ++ c :: rest) := by
  unfold codeLength? at h
  split at h
  · rename_i body
    extract_lets marks at h
    split at h
    · rename_i hnext
      obtain ⟨c, hhead, hc⟩ := (Option.any_eq_true _ _).1 hnext
      obtain ⟨rest, hrest⟩ := exists_of_next hhead
      exact ⟨_, c, rest, fun m hm => List.all_eq_true.1 List.all_takeWhile m hm, hc, congrArg _ hrest⟩
    · cases h
  · cases h

theorem removes_codes : Removes escapeChar codeLength? IsCode where
  starts u hu := by cases hu; exact ⟨_, rfl⟩
  finds r n := by
    constructor
    · intro h
      obtain ⟨marks, c, rest, hmarks, hc, rfl⟩ := exists_of_codeLength? h
      rw [codeLength?_marks hmarks hc] at h
      exact ⟨'[' :: (marks ++ [c]), .mk hmarks hc, by simpa using h, rest, by simp⟩
    · rintro ⟨u, hu, rfl, rest, rfl⟩
      cases hu with
      | mk hmarks hc => simp [codeLength?_marks hmarks hc]

theorem IsCode.not_blank (h : IsCode u) : ∀ c ∈ u, isBlank c = false := by
  obtain ⟨hmarks, hletter⟩ := h
  have hmark : ∀ c, isMark c = true ∨ c.isAlpha = true → isBlank c = false := by
    intro c hc
    delta isMark Char.isAlpha Char.isUpper Char.isLower Char.isDigit at hc
    simp only [Bool.or_eq_true, beq_iff_eq, Bool.and_eq_true, decide_eq_true_eq, UInt32.le_iff_toNat_le,
      ge_iff_le] at hc
    have hrange : ∀ low high, 0x20 < low → high < 0x80 → low ≤ c.toNat ∧ c.toNat ≤ high → isBlank c = false :=
      fun _ _ hlow hhigh h =>
        Text.isBlank_of_printing (Nat.lt_of_lt_of_le hlow h.1) (Nat.lt_of_le_of_lt h.2 hhigh)
    obtain ((hc | rfl) | rfl) | hc | hc := hc
    · exact hrange _ _ (by decide) (by decide) hc
    · decide
    · decide
    · exact hrange _ _ (by decide) (by decide) hc
    · exact hrange _ _ (by decide) (by decide) hc
  intro c hc
  simp only [List.mem_cons, List.mem_append, List.not_mem_nil, or_false] at hc
  obtain rfl | rfl | hc | rfl := hc
  · decide
  · decide
  · exact hmark c (.inl (hmarks c hc))
  · exact hmark c (.inr hletter)

end SdkGraft.Console

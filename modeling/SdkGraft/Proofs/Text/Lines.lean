import Mathlib.Logic.Basic
import SdkGraft.Text.Basic

/-!
# Lines joined and cut apart

* `splitAt_append_cons`, `splitAt_append`, `splitAt_append_of_not_mem` : cutting at a separator, at the
  first one, and before it;
* `splitAt_joinWith`, `lines_unlines` : joined pieces without separators are cut apart again;
* `mem_of_mem_joinWith`, `mem_of_mem_splitAt` : where characters come from;
* `joinWith_cons`, `joinWith_concat` : one more piece at either end; `unlines_cons`, `unlines_concat` : for
  lines.
-/

namespace SdkGraft.Text

theorem splitAt_of_not_mem {sep : Char} {t : Text} (h : sep ∉ t) : splitAt sep t = [t] := by
  induction t with
  | nil => rfl
  | cons c r ih =>
    rw [splitAt, if_neg fun hc => h (by simp [hc]), ih fun hr => h (by simp [hr])]

theorem splitAt_append {sep : Char} {t : Text} (h : sep ∉ t) (r : Text) :
    splitAt sep (t ++ sep :: r) = t :: splitAt sep r := by
  induction t with
  | nil => simp [splitAt]
  | cons c s ih =>
    rw [List.cons_append, splitAt, if_neg fun hc => h (by simp [hc]), ih fun hs => h (by simp [hs])]

theorem splitAt_append_cons (sep : Char) (a b : Text) :
    splitAt sep (a ++ sep :: b) = splitAt sep a ++ splitAt sep b := by
  induction a with
  | nil => simp [splitAt]
  | cons c r ih =>
    by_cases hc : c = sep
    · rw [List.cons_append, splitAt, if_pos hc, ih, splitAt, if_pos hc, List.cons_append]
    · obtain ⟨piece, pieces, hr⟩ := List.exists_cons_of_ne_nil (splitAt_ne_nil sep r)
      rw [List.cons_append, splitAt, if_neg hc, ih, splitAt, if_neg hc, hr]
      rfl

theorem splitAt_joinWith {sep : Char} {ts : List Text} (hne : ts ≠ []) (h : ∀ t ∈ ts, sep ∉ t) :
    splitAt sep (joinWith [sep] ts) = ts := by
  induction ts with
  | nil => exact absurd rfl hne
  | cons t rest ih =>
    cases rest with
    | nil => exact splitAt_of_not_mem (h t (by simp))
    | cons u us =>
      have hrest := ih (by simp) fun x hx => h x (by simp [hx])
      rw [joinWith, List.append_assoc, List.singleton_append, splitAt_append (h t (by simp)), hrest]

theorem splitAt_append_of_not_mem {sep : Char} {a : Text} (h : sep ∉ a) (b : Text) :
    ∃ piece pieces, splitAt sep b = piece :: pieces ∧ splitAt sep (a ++ b) = (a ++ piece) :: pieces := by
  obtain ⟨piece, pieces, hb⟩ := List.exists_cons_of_ne_nil (splitAt_ne_nil sep b)
  refine ⟨piece, pieces, hb, ?_⟩
  induction a with
  | nil => exact hb
  | cons c s ih =>
    rw [List.cons_append, splitAt, if_neg fun hc => h (by simp [hc]), ih fun hs => h (by simp [hs])]
    rfl

theorem mem_joinWith_of_mem (sep : Text) {ts : List Text} {t : Text} (h : t ∈ ts) {c : Char} (hc : c ∈ t) :
    c ∈ joinWith sep ts := by
  induction ts with
  | nil => cases h
  | cons u rest ih =>
    cases rest with
    | nil => rw [List.mem_singleton.1 h] at hc; exact hc
    | cons v vs =>
      rw [joinWith, List.mem_append, List.mem_append]
      rcases List.mem_cons.1 h with rfl | h
      · exact .inl (.inl hc)
      · exact .inr (ih h)

theorem mem_of_mem_joinWith {sep : Char} {ts : List Text} {c : Char} (h : c ∈ joinWith [sep] ts) :
    c = sep ∨ ∃ t ∈ ts, c ∈ t := by
  induction ts with
  | nil => cases h
  | cons u rest ih =>
    cases rest with
    | nil => exact .inr ⟨u, List.mem_singleton.2 rfl, h⟩
    | cons v vs =>
      rw [joinWith, List.mem_append, List.mem_append, List.mem_singleton] at h
      obtain (h | h) | h := h
      · exact .inr ⟨u, List.mem_cons_self, h⟩
      · exact .inl h
      · obtain h | ⟨t, ht, hc⟩ := ih h
        · exact .inl h
        · exact .inr ⟨t, List.mem_cons_of_mem _ ht, hc⟩

theorem mem_of_mem_splitAt {sep c : Char} {t piece : Text} (h : piece ∈ splitAt sep t) (hc : c ∈ piece) :
    c ∈ t := by
  have hmem := mem_joinWith_of_mem [sep] h hc
  rwa [joinWith_splitAt] at hmem

theorem lines_unlines {ls : List Text} (hne : ls ≠ []) (h : ∀ l ∈ ls, '\n' ∉ l) :
    lines (unlines ls) = ls := splitAt_joinWith hne h

theorem joinWith_cons (sep : Text) {t : Text} {ts : List Text} (hne : ts ≠ []) :
    joinWith sep (t :: ts) = t ++ sep ++ joinWith sep ts := by
  cases ts with
  | nil => exact absurd rfl hne
  | cons u rest => rw [joinWith]

theorem joinWith_concat (sep : Text) {ts : List Text} (hne : ts ≠ []) (t : Text) :
    joinWith sep (ts ++ [t]) = joinWith sep ts ++ sep ++ t := by
  induction ts with
  | nil => exact absurd rfl hne
  | cons u rest ih =>
    rcases eq_or_ne rest [] with rfl | hrest
    · rfl
    · rw [List.cons_append, joinWith_cons sep (by simp), ih hrest, joinWith_cons sep hrest]
      simp only [List.append_assoc]

theorem unlines_cons {l : Text} {ls : List Text} (hne : ls ≠ []) :
    unlines (l :: ls) = l ++ '\n' :: unlines ls := by
  rw [unlines, joinWith_cons _ hne, List.append_assoc]
  rfl

theorem unlines_concat {ls : List Text} (hne : ls ≠ []) (l : Text) :
    unlines (ls ++ [l]) = unlines ls ++ '\n' :: l := by
  rw [unlines, joinWith_concat _ hne, List.append_assoc]
  rfl

end SdkGraft.Text

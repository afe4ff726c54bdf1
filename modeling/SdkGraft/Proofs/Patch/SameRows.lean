import SdkGraft.Patch.Hunk

/-!
# The script of a list to itself

The longest block that a list shares with itself is all of it, though some of its rows may be too common to begin a
block: the search never leaves the diagonal.

* `sharedRun_le_left`, `sharedRun_le_right` : no run is longer than that of a list with itself;
* `bestAgainst_self`, `bestFrom_onDiagonal` : the best block begins at the same row in both lists;
* `longestBlock_self`, `steps_self`, `hunks_steps_self` : so nothing changes.
-/

namespace SdkGraft.Patch

variable {α : Type} [DecidableEq α] {popular : α → Bool} {as bs : List α} {found : Block}

/-! ## Runs -/

theorem sharedStart_self (as : List α) : sharedStart as as = as.length := by
  induction as with
  | nil => rfl
  | cons a as ih => rw [sharedStart, if_pos rfl, ih, List.length_cons]

theorem sharedRun_le_left (popular : α → Bool) (as bs : List α) :
    sharedRun popular as bs ≤ sharedRun popular as as := by
  fun_induction sharedRun popular as bs with
  | case1 a as b bs h ih =>
    obtain ⟨rfl, hpopular⟩ : a = b ∧ popular a = false := by simpa using h
    simp only [sharedRun, hpopular, decide_true, Bool.not_false, Bool.and_self, if_true]
    omega
  | case2 => omega
  | case3 => omega

theorem sharedRun_le_right (popular : α → Bool) (as bs : List α) :
    sharedRun popular as bs ≤ sharedRun popular bs bs := by
  fun_induction sharedRun popular as bs with
  | case1 a as b bs h ih =>
    obtain ⟨rfl, hpopular⟩ : a = b ∧ popular a = false := by simpa using h
    simp only [sharedRun, hpopular, decide_true, Bool.not_false, Bool.and_self, if_true]
    omega
  | case2 => omega
  | case3 => omega

theorem sharedRun_of_popular {a : α} (h : popular a = true) : sharedRun popular (a :: as) (a :: bs) = 0 := by
  simp [sharedRun, h]

/-! ## The search -/

omit [DecidableEq α] in
theorem Block.better_of_le {x y : Block} (h : y.length ≤ x.length) : x.better y = x := if_neg (Nat.not_lt.2 h)

theorem Block.length_le_better (x y : Block) : x.length ≤ (x.better y).length ∧ y.length ≤ (x.better y).length := by
  unfold Block.better
  split <;> omega

/-- Rows where no longer run begins do not change what has been found. -/
theorem bestAgainst_drop {i j m : Nat} (hm : m ≤ bs.length)
    (h : ∀ k < m, sharedRun popular as (bs.drop k) ≤ found.length) :
    bestAgainst popular as i found j bs = bestAgainst popular as i found (j + m) (bs.drop m) := by
  induction m generalizing j bs with
  | zero => rfl
  | succ m ih =>
    cases bs with
    | nil => simp at hm
    | cons b bs =>
      have hhead : sharedRun popular as (b :: bs) ≤ found.length := h 0 (Nat.succ_pos m)
      rw [bestAgainst, Block.better_of_le hhead, ih (Nat.le_of_succ_le_succ hm) fun k hk => h (k + 1) (by omega),
        List.drop_succ_cons, Nat.add_assoc, Nat.add_comm 1]

/-- Against itself the best that begins at a row is the run from that same row, if those before it are no better. -/
theorem bestAgainst_self {i : Nat} (hi : i < as.length)
    (h : ∀ k < i, sharedRun popular (as.drop k) (as.drop k) ≤ found.length) :
    bestAgainst popular (as.drop i) i found 0 as =
      found.better ⟨i, i, sharedRun popular (as.drop i) (as.drop i)⟩ := by
  have hbefore : ∀ k < i, sharedRun popular (as.drop i) (as.drop k) ≤ found.length := fun k hk =>
    Nat.le_trans (sharedRun_le_right popular _ _) (h k hk)
  rw [bestAgainst_drop (Nat.le_of_lt hi) hbefore, Nat.zero_add]
  generalize hown : as.drop i = own
  cases own with
  | nil =>
    rw [List.drop_eq_nil_iff] at hown
    omega
  | cons a rest =>
    have hbehind : ∀ k < rest.length, sharedRun popular (a :: rest) (rest.drop k) ≤
        (found.better ⟨i, i, sharedRun popular (a :: rest) (a :: rest)⟩).length := fun k _ =>
      Nat.le_trans (sharedRun_le_left popular _ _) (Block.length_le_better found ⟨i, i, _⟩).2
    rw [bestAgainst, bestAgainst_drop (Nat.le_refl _) hbehind, List.drop_length, bestAgainst]

def Block.OnDiagonal (x : Block) : Prop := x.old = x.new

theorem bestFrom_onDiagonal {i : Nat} (hfound : found.OnDiagonal)
    (h : ∀ k < i, sharedRun popular (as.drop k) (as.drop k) ≤ found.length) {rest : List α}
    (hrest : rest = as.drop i) : (bestFrom popular as found i rest).OnDiagonal := by
  induction rest generalizing found i with
  | nil => exact hfound
  | cons a rest ih =>
    have hi : i < as.length := by
      have hlength := congrArg List.length hrest
      rw [List.length_cons, List.length_drop] at hlength
      omega
    have hnext : rest = as.drop (i + 1) := by
      rw [← List.drop_drop, ← hrest]
      rfl
    have hbest : (if popular a then found else bestAgainst popular (a :: rest) i found 0 as) =
        found.better ⟨i, i, sharedRun popular (as.drop i) (as.drop i)⟩ := by
      split
      · rename_i hpopular
        rw [← hrest, sharedRun_of_popular hpopular, Block.better_of_le (Nat.zero_le _)]
      · rw [hrest]
        exact bestAgainst_self hi h
    rw [bestFrom, hbest]
    refine ih ?_ (fun k hk => ?_) hnext
    · unfold Block.better
      split
      · rfl
      · exact hfound
    · have hlonger := Block.length_le_better found ⟨i, i, sharedRun popular (as.drop i) (as.drop i)⟩
      rcases Nat.lt_succ_iff_lt_or_eq.1 hk with hk | rfl
      · exact Nat.le_trans (h k hk) hlonger.1
      · exact hlonger.2

/-! ## The script -/

theorem longestBlock_self (popular : α → Bool) (as : List α) :
    longestBlock popular as as = ⟨0, 0, as.length⟩ := by
  have hshared : (bestFrom popular as ⟨0, 0, 0⟩ 0 as).Shared as as :=
    bestFrom_shared popular ⟨Nat.zero_le _, Nat.zero_le _, fun _ h => absurd h (Nat.not_lt_zero _)⟩ 0 as rfl
  have hdiagonal : (bestFrom popular as ⟨0, 0, 0⟩ 0 as).OnDiagonal :=
    bestFrom_onDiagonal (show (⟨0, 0, 0⟩ : Block).OnDiagonal from rfl) (fun k h => absurd h (Nat.not_lt_zero k)) rfl
  rw [longestBlock]
  generalize bestFrom popular as ⟨0, 0, 0⟩ 0 as = found at hshared hdiagonal ⊢
  obtain ⟨old, new, length⟩ := found
  obtain rfl : old = new := hdiagonal
  have hfits : old + length ≤ as.length := hshared.1
  simp only [Block.extend, extraBefore, sharedStart_self, List.length_reverse, List.length_take, List.length_drop,
    Block.mk.injEq]
  omega

theorem stepsBetween_self (popular : α → Bool) (as : List α) :
    stepsBetween popular as as = if as = [] then [] else [.keep as] := by
  have hnil : stepsBetween popular ([] : List α) [] = [] := by
    rw [stepsBetween, longestBlock_self, if_neg (by simp), replaceAll]
    rfl
  split
  · rename_i has
    rw [has, hnil]
  · rename_i has
    rw [stepsBetween, longestBlock_self, if_pos (List.length_pos_iff.2 has), List.take_zero, hnil, Nat.zero_add,
      List.drop_length, hnil, List.drop_zero, List.take_length]
    rfl

/-- From a list to itself all rows are kept. -/
theorem steps_self (as : List α) : steps as as = if as = [] then [] else [.keep as] := by
  rw [steps, stepsBetween_self]
  split <;> rfl

theorem hunks_steps_self (as : List α) : hunks (steps as as) = [] := by
  rw [steps_self]
  split <;> rfl

end SdkGraft.Patch

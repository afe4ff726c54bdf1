/-!
# Edit scripts

How one list of rows becomes another, told by the rows that both share. The longest shared block
is kept and the rows before and after it are compared again; rows that are too common to mean much
do not begin a block, but may extend one.

* `Step`, `source`, `target` : a script and the two lists it stands for;
* `longestBlock` : the longest shared block, the earliest of its length (`longestBlock_shared`);
* `isPopular` : the rows that are too common;
* `steps` : the script between two lists, which stands for both (`source_steps`, `target_steps`).
-/

namespace SdkGraft.Patch

variable {α : Type}

/-- One step of a script: rows that stay, or rows that give way to others. -/
inductive Step (α : Type) where
  | keep (rows : List α)
  | change (removed added : List α)
  deriving DecidableEq, Repr

def Step.old : Step α → List α
  | .keep rows => rows
  | .change removed _ => removed

def Step.new : Step α → List α
  | .keep rows => rows
  | .change _ added => added

def source (script : List (Step α)) : List α := script.flatMap Step.old

def target (script : List (Step α)) : List α := script.flatMap Step.new

/-! ## The longest shared block -/

/-- A shared block: where it begins in the one list and in the other, and its length. -/
structure Block where
  old : Nat
  new : Nat
  length : Nat
  deriving DecidableEq, Repr

variable [DecidableEq α]

/-- How many rows two lists share at their beginnings. -/
def sharedStart : List α → List α → Nat
  | a :: as, b :: bs => if a = b then sharedStart as bs + 1 else 0
  | _, _ => 0

def sharedRun (popular : α → Bool) : List α → List α → Nat
  | a :: as, b :: bs => if a = b && !popular a then sharedRun popular as bs + 1 else 0
  | _, _ => 0

/-- The better of two blocks: the longer one, the first if they are equally long. -/
def Block.better (x y : Block) : Block := if x.length < y.length then y else x

/-- The best block that begins with the first row of `as`, against what has been found so far. -/
def bestAgainst (popular : α → Bool) (as : List α) (i : Nat) :
    (found : Block) → (j : Nat) → List α → Block
  | found, _, [] => found
  | found, j, b :: bs =>
    bestAgainst popular as i (found.better ⟨i, j, sharedRun popular as (b :: bs)⟩) (j + 1) bs

/-- The best block over all beginnings in `as`, against what has been found so far. -/
def bestFrom (popular : α → Bool) (bs : List α) : (found : Block) → (i : Nat) → List α → Block
  | found, _, [] => found
  | found, i, a :: as =>
    bestFrom popular bs
      (if popular a then found else bestAgainst popular (a :: as) i found 0 bs) (i + 1) as

/-- How far a block can be extended to the front. -/
def extraBefore (as bs : List α) (x : Block) : Nat :=
  sharedStart (as.take x.old).reverse (bs.take x.new).reverse

/-- A block extended at both ends as far as the rows agree. -/
def Block.extend (as bs : List α) (x : Block) : Block :=
  let before := extraBefore as bs x
  let after := sharedStart (as.drop (x.old + x.length)) (bs.drop (x.new + x.length))
  ⟨x.old - before, x.new - before, before + x.length + after⟩

/-- The longest shared block that begins with a row that is not popular, extended at both ends. -/
def longestBlock (popular : α → Bool) (as bs : List α) : Block :=
  (bestFrom popular bs ⟨0, 0, 0⟩ 0 as).extend as bs

/-! ## The longest shared block is shared -/

def Block.Shared (as bs : List α) (x : Block) : Prop :=
  x.old + x.length ≤ as.length ∧ x.new + x.length ≤ bs.length ∧
    ∀ r, r < x.length → as[x.old + r]? = bs[x.new + r]?

theorem sharedStart_spec (as bs : List α) :
    sharedStart as bs ≤ as.length ∧ sharedStart as bs ≤ bs.length ∧
      ∀ r, r < sharedStart as bs → as[r]? = bs[r]? := by
  fun_induction sharedStart as bs with
  | case1 as b bs ih =>
    refine ⟨Nat.succ_le_succ ih.1, Nat.succ_le_succ ih.2.1, fun r hr => ?_⟩
    cases r with
    | zero => rfl
    | succ r => simpa using ih.2.2 r (by omega)
  | case2 => simp
  | case3 => simp

theorem sharedRun_le (popular : α → Bool) (as bs : List α) :
    sharedRun popular as bs ≤ sharedStart as bs := by
  fun_induction sharedRun popular as bs with
  | case1 a as b bs h ih =>
    have : a = b := by simp_all
    simp only [sharedStart, this, if_true]
    omega
  | case2 => omega
  | case3 => omega

omit [DecidableEq α] in
theorem Block.Shared.better {as bs : List α} {x y : Block} (hx : x.Shared as bs)
    (hy : y.Shared as bs) : (x.better y).Shared as bs := by
  unfold Block.better
  split
  · exact hy
  · exact hx

theorem bestAgainst_shared (popular : α → Bool) {as bs : List α} {i : Nat} (hi : i ≤ as.length)
    {found : Block} (hf : found.Shared as bs) (j : Nat) (rest : List α)
    (hrest : rest = bs.drop j) :
    (bestAgainst popular (as.drop i) i found j rest).Shared as bs := by
  induction rest generalizing found j with
  | nil => exact hf
  | cons b rest ih =>
    have hj : j < bs.length := by
      have := congrArg List.length hrest
      simp only [List.length_cons, List.length_drop] at this
      omega
    have hnext : rest = bs.drop (j + 1) := by
      rw [← List.drop_drop, ← hrest]
      rfl
    have hrun := sharedRun_le popular (as.drop i) (bs.drop j)
    have hstart := sharedStart_spec (as.drop i) (bs.drop j)
    simp only [List.length_drop, List.getElem?_drop] at hstart
    refine ih (hf.better ?_) (j + 1) hnext
    rw [hrest]
    refine ⟨?_, ?_, fun r hr => hstart.2.2 r ?_⟩
    · dsimp only
      omega
    · dsimp only
      omega
    · dsimp only at hr
      omega

theorem bestFrom_shared (popular : α → Bool) {as bs : List α} {found : Block}
    (hf : found.Shared as bs) (i : Nat) (rest : List α) (hrest : rest = as.drop i) :
    (bestFrom popular bs found i rest).Shared as bs := by
  induction rest generalizing found i with
  | nil => exact hf
  | cons a rest ih =>
    have hi : i ≤ as.length := by
      have := congrArg List.length hrest
      simp only [List.length_cons, List.length_drop] at this
      omega
    have hnext : rest = as.drop (i + 1) := by
      rw [← List.drop_drop, ← hrest]
      rfl
    refine ih ?_ (i + 1) hnext
    split
    · exact hf
    · rw [hrest]
      exact bestAgainst_shared popular hi hf 0 bs rfl

theorem extraBefore_spec (as bs : List α) (x : Block) :
    extraBefore as bs x ≤ x.old ∧ extraBefore as bs x ≤ x.new ∧
      ∀ r, r < extraBefore as bs x →
        (as.take x.old)[(as.take x.old).length - 1 - r]? =
          (bs.take x.new)[(bs.take x.new).length - 1 - r]? := by
  have h := sharedStart_spec (as.take x.old).reverse (bs.take x.new).reverse
  simp only [List.length_reverse] at h
  refine ⟨?_, ?_, fun r hr => ?_⟩
  · have := h.1
    rw [List.length_take] at this
    exact Nat.le_trans this (Nat.min_le_left _ _)
  · have := h.2.1
    rw [List.length_take] at this
    exact Nat.le_trans this (Nat.min_le_left _ _)
  · have hr' : r < sharedStart (as.take x.old).reverse (bs.take x.new).reverse := hr
    have := h.2.2 r hr'
    rwa [List.getElem?_reverse (by omega), List.getElem?_reverse (by omega)] at this

theorem Block.Shared.extend {as bs : List α} {x : Block} (hx : x.Shared as bs) :
    (x.extend as bs).Shared as bs := by
  obtain ⟨ha, hb, hrows⟩ := hx
  have hbefore := extraBefore_spec as bs x
  have hafter := sharedStart_spec (as.drop (x.old + x.length)) (bs.drop (x.new + x.length))
  simp only [List.length_drop, List.getElem?_drop] at hafter
  simp only [List.length_take] at hbefore
  unfold Block.extend
  generalize extraBefore as bs x = before at *
  generalize sharedStart (as.drop (x.old + x.length)) (bs.drop (x.new + x.length)) = after at *
  refine ⟨?_, ?_, fun r hr => ?_⟩
  · dsimp only
    omega
  · dsimp only
    omega
  · dsimp only at hr ⊢
    by_cases h1 : r < before
    · have h := hbefore.2.2 (before - 1 - r) (by omega)
      have e1 : min x.old as.length - 1 - (before - 1 - r) = x.old - before + r := by omega
      have e2 : min x.new bs.length - 1 - (before - 1 - r) = x.new - before + r := by omega
      rw [e1, e2, List.getElem?_take, List.getElem?_take, if_pos (by omega), if_pos (by omega)] at h
      exact h
    · by_cases h2 : r < before + x.length
      · have h := hrows (r - before) (by omega)
        have e1 : x.old + (r - before) = x.old - before + r := by omega
        have e2 : x.new + (r - before) = x.new - before + r := by omega
        rwa [e1, e2] at h
      · have h := hafter.2.2 (r - before - x.length) (by omega)
        have e1 : x.old + x.length + (r - before - x.length) = x.old - before + r := by omega
        have e2 : x.new + x.length + (r - before - x.length) = x.new - before + r := by omega
        rwa [e1, e2] at h

theorem longestBlock_shared (popular : α → Bool) (as bs : List α) :
    (longestBlock popular as bs).Shared as bs :=
  (bestFrom_shared popular ⟨Nat.zero_le _, Nat.zero_le _, fun _ h => absurd h (Nat.not_lt_zero _)⟩
    0 as rfl).extend

omit [DecidableEq α] in
theorem Block.Shared.rows_eq {as bs : List α} {x : Block} (h : x.Shared as bs) :
    (as.drop x.old).take x.length = (bs.drop x.new).take x.length := by
  refine List.ext_getElem? fun r => ?_
  rw [List.getElem?_take, List.getElem?_take]
  split
  · rename_i hr
    simpa only [List.getElem?_drop] using h.2.2 r hr
  · rfl

/-! ## The script -/

def replaceAll (as bs : List α) : List (Step α) :=
  if as.isEmpty && bs.isEmpty then [] else [.change as bs]

/-- The script between two lists: around the longest shared block, and so on in what is left. -/
def stepsBetween (popular : α → Bool) (as bs : List α) : List (Step α) :=
  let x := longestBlock popular as bs
  if 0 < x.length then
    stepsBetween popular (as.take x.old) (bs.take x.new)
      ++ .keep ((as.drop x.old).take x.length)
        :: stepsBetween popular (as.drop (x.old + x.length)) (bs.drop (x.new + x.length))
  else replaceAll as bs
termination_by as.length
decreasing_by
  all_goals
    have hlong : 0 < (longestBlock popular as bs).length := by assumption
    have hfits := (longestBlock_shared popular as bs).1
    simp only [List.length_take, List.length_drop]
    omega

def joinKept : List (Step α) → List (Step α)
  | [] => []
  | .keep xs :: rest =>
    match joinKept rest with
    | .keep ys :: more => .keep (xs ++ ys) :: more
    | more => .keep xs :: more
  | step :: rest => step :: joinKept rest

/-- A list is long enough for its popular rows to be set aside. -/
def isLong (bs : List α) : Bool := 200 ≤ bs.length

/-- A row stands in a long list more often than once in a hundred rows. -/
def isPopular (bs : List α) (b : α) : Bool := isLong bs && bs.length / 100 + 1 < bs.count b

def steps (as bs : List α) : List (Step α) :=
  let popular := (bs.eraseDups.filter (isPopular bs))
  joinKept (stepsBetween (fun b => popular.contains b) as bs)

/-! ## A script stands for its two lists -/

omit [DecidableEq α] in
theorem take_append_take_append_drop (as : List α) (i n : Nat) :
    as.take i ++ ((as.drop i).take n ++ as.drop (i + n)) = as := by
  rw [← List.drop_drop, List.take_append_drop, List.take_append_drop]

theorem source_stepsBetween (popular : α → Bool) (as bs : List α) :
    source (stepsBetween popular as bs) = as := by
  fun_induction stepsBetween popular as bs with
  | case1 as bs x _ ih1 ih2 =>
    simp only [source, List.flatMap_append, List.flatMap_cons, Step.old] at ih1 ih2 ⊢
    rw [ih1, ih2, take_append_take_append_drop]
  | case2 as bs =>
    unfold replaceAll
    split
    · rename_i h
      simp_all [source]
    · simp [source, Step.old]

theorem target_stepsBetween (popular : α → Bool) (as bs : List α) :
    target (stepsBetween popular as bs) = bs := by
  fun_induction stepsBetween popular as bs with
  | case1 as bs x _ ih1 ih2 =>
    have hshared : x.Shared as bs := longestBlock_shared popular as bs
    simp only [target, List.flatMap_append, List.flatMap_cons, Step.new] at ih1 ih2 ⊢
    rw [ih1, ih2, hshared.rows_eq, take_append_take_append_drop]
  | case2 as bs =>
    unfold replaceAll
    split
    · rename_i h
      simp_all [target]
    · simp [target, Step.new]

omit [DecidableEq α] in
theorem source_joinKept (script : List (Step α)) : source (joinKept script) = source script := by
  fun_induction joinKept script <;> simp_all [source, Step.old]

omit [DecidableEq α] in
theorem target_joinKept (script : List (Step α)) : target (joinKept script) = target script := by
  fun_induction joinKept script <;> simp_all [target, Step.new]

theorem source_steps (as bs : List α) : source (steps as bs) = as :=
  (source_joinKept _).trans (source_stepsBetween _ as bs)

theorem target_steps (as bs : List α) : target (steps as bs) = bs :=
  (target_joinKept _).trans (target_stepsBetween _ as bs)

end SdkGraft.Patch

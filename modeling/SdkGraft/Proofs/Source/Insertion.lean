import Mathlib.Order.Monotone.Basic
import Mathlib.Tactic.Conv
import SdkGraft.Proofs.Source.Lexing

/-!
# Lines put between other lines

* `insertAt i xs ls` : the lines `xs` before line `i` of `ls`; `shiftFrom` : where the old lines stand
  then (`getElem?_insertAt`); `insertAt_insertAt`, `any_insertAt` : more lines there, and what holds of one of them;
* `removeAt i n ls` : the lines without `n` of them, from line `i` on (`removeAt_insertAt`);
* `codePartsFrom_insertAt` : if the new lines keep the comment state, the code of the old lines stays, and so
  does the comment state behind them (`openAfter_take_insertAt`);
* `readAll_take_insertAt` : if they are balanced too, so does the depth of braces before each of them.
-/

namespace SdkGraft.Source

/-! ## Positions -/

section
variable {α : Type}

/-- The list with `xs` before its element `i`. -/
def insertAt (i : Nat) (xs ls : List α) : List α := ls.take i ++ xs ++ ls.drop i

/-- The list without `n` elements, from element `i` on. -/
def removeAt (i n : Nat) (ls : List α) : List α := ls.take i ++ ls.drop (i + n)

/-- Where the index `j` of a list is after `n` elements have been put before element `i`. -/
def shiftFrom (i n j : Nat) : Nat := if i ≤ j then j + n else j

theorem shiftFrom_of_le {i j : Nat} (h : i ≤ j) (n : Nat) : shiftFrom i n j = j + n := if_pos h

theorem shiftFrom_of_lt {i j : Nat} (h : j < i) (n : Nat) : shiftFrom i n j = j := if_neg (by omega)

theorem shiftFrom_strictMono (i n : Nat) : StrictMono (shiftFrom i n) := by
  intro j k h
  unfold shiftFrom
  split <;> split <;> omega

theorem shiftFrom_add {i j : Nat} (h : j ≤ i) (n k : Nat) : shiftFrom i n (j + k) = j + shiftFrom (i - j) n k := by
  unfold shiftFrom
  split <;> split <;> omega

theorem shiftFrom_add_of_le {i j : Nat} (h : i ≤ j) (n k : Nat) : shiftFrom i n (j + k) = j + n + k := by
  rw [shiftFrom_of_le (by omega)]
  omega

theorem length_insertAt {i : Nat} {ls : List α} (h : i ≤ ls.length) (xs : List α) :
    (insertAt i xs ls).length = ls.length + xs.length := by
  rw [insertAt, List.length_append, List.length_append, List.length_take, List.length_drop]
  omega

theorem shiftFrom_lt_length_insertAt {i : Nat} {ls : List α} (h : i ≤ ls.length) (xs : List α) {j : Nat}
    (hj : j < ls.length) : shiftFrom i xs.length j < (insertAt i xs ls).length := by
  rw [length_insertAt h, shiftFrom]
  split <;> omega

theorem mem_of_mem_insertAt {i : Nat} {xs ls : List α} {x : α} (h : x ∈ insertAt i xs ls) :
    x ∈ ls ∨ x ∈ xs := by
  rw [insertAt, List.mem_append, List.mem_append] at h
  obtain (h | h) | h := h
  · exact .inl (List.mem_of_mem_take h)
  · exact .inr h
  · exact .inl (List.mem_of_mem_drop h)

/-- What was put in stands where it was put. -/
theorem getElem?_insertAt_self {i : Nat} {ls : List α} (h : i ≤ ls.length) {xs : List α} {j : Nat}
    (hj : j < xs.length) : (insertAt i xs ls)[i + j]? = xs[j]? := by
  have hfront : (ls.take i).length = i := by rw [List.length_take, Nat.min_eq_left h]
  rw [insertAt, List.append_assoc, List.getElem?_append_right (by omega), hfront, Nat.add_sub_cancel_left,
    List.getElem?_append_left hj]

theorem getElem?_insertAt {i : Nat} {ls : List α} (h : i ≤ ls.length) (xs : List α) (j : Nat) :
    (insertAt i xs ls)[shiftFrom i xs.length j]? = ls[j]? := by
  have hfront : (ls.take i ++ xs).length = i + xs.length := by
    rw [List.length_append, List.length_take, Nat.min_eq_left h]
  unfold insertAt shiftFrom
  split
  · rename_i hij
    rw [List.getElem?_append_right (by omega), hfront, List.getElem?_drop]
    congr 1
    omega
  · rename_i hij
    rw [List.append_assoc, List.getElem?_append_left (by rw [List.length_take]; omega),
      List.getElem?_take_of_lt (by omega)]

theorem take_insertAt_le {i : Nat} {ls : List α} (h : i ≤ ls.length) (xs : List α) {j : Nat} (hj : j ≤ i) :
    (insertAt i xs ls).take j = ls.take j := by
  rw [insertAt, List.append_assoc, List.take_append_of_le_length (by rw [List.length_take]; omega),
    List.take_take, Nat.min_eq_left hj]

theorem take_insertAt_ge {i : Nat} {ls : List α} (h : i ≤ ls.length) (xs : List α) {j : Nat} (hj : i ≤ j) :
    (insertAt i xs ls).take (j + xs.length) = ls.take i ++ xs ++ (ls.take j).drop i := by
  have hfront : (ls.take i ++ xs).length = i + xs.length := by
    rw [List.length_append, List.length_take, Nat.min_eq_left h]
  rw [insertAt, List.take_append, List.take_of_length_le (by omega), hfront, List.drop_take]
  congr 2
  omega

theorem take_append_drop_take {i j : Nat} (h : i ≤ j) {ls : List α} :
    ls.take i ++ (ls.take j).drop i = ls.take j := by
  rw [List.drop_take, ← List.take_add, Nat.add_sub_cancel' h]

theorem drop_insertAt_le {i : Nat} {ls : List α} (h : i ≤ ls.length) (xs : List α) {j : Nat} (hj : j ≤ i) :
    (insertAt i xs ls).drop j = (ls.take i).drop j ++ xs ++ ls.drop i := by
  rw [insertAt, List.append_assoc, List.drop_append_of_le_length (by rw [List.length_take]; omega),
    List.append_assoc]

theorem drop_insertAt {i : Nat} {ls : List α} (h : i ≤ ls.length) (xs : List α) {j : Nat} (hj : j ≤ i) :
    (insertAt i xs ls).drop j = insertAt (i - j) xs (ls.drop j) := by
  rw [drop_insertAt_le h xs hj, insertAt, List.drop_take, List.drop_drop, Nat.add_sub_cancel' hj]

theorem drop_insertAt_ge {i : Nat} {ls : List α} (h : i ≤ ls.length) (xs : List α) {j : Nat} (hj : i ≤ j) :
    (insertAt i xs ls).drop (j + xs.length) = ls.drop j := by
  have hfront : (ls.take i ++ xs).length = i + xs.length := by
    rw [List.length_append, List.length_take, Nat.min_eq_left h]
  rw [insertAt, List.drop_append, List.drop_eq_nil_of_le (by omega), hfront, List.nil_append, List.drop_drop]
  congr 1
  omega

theorem insertAt_insertAt {i : Nat} {ls : List α} (h : i ≤ ls.length) (xs ys : List α) :
    insertAt i xs (insertAt i ys ls) = insertAt i (xs ++ ys) ls := by
  have hfront : insertAt 0 ys (ls.drop i) = ys ++ ls.drop i := rfl
  rw [insertAt, take_insertAt_le h ys (Nat.le_refl i), drop_insertAt h ys (Nat.le_refl i), Nat.sub_self, hfront,
    insertAt, List.append_assoc, List.append_assoc, List.append_assoc]

theorem any_insertAt (q : α → Bool) (i : Nat) (xs ls : List α) :
    (insertAt i xs ls).any q = (ls.any q || xs.any q) := by
  have hls : ls.any q = ((ls.take i).any q || (ls.drop i).any q) := by
    rw [← List.any_append, List.take_append_drop]
  rw [insertAt, List.any_append, List.any_append, hls, Bool.or_right_comm]

theorem removeAt_insertAt {i : Nat} {ls : List α} (h : i ≤ ls.length) (xs : List α) :
    removeAt i xs.length (insertAt i xs ls) = ls := by
  rw [removeAt, take_insertAt_le h xs (Nat.le_refl i), drop_insertAt_ge h xs (Nat.le_refl i),
    List.take_append_drop]

theorem prefix_drop_insertAt {i : Nat} {ls : List α} (h : i ≤ ls.length) (xs : List α) :
    xs <+: (insertAt i xs ls).drop i := by
  have hnone : (ls.take i).drop i = [] := List.drop_eq_nil_of_le (by rw [List.length_take]; omega)
  rw [drop_insertAt_le h xs (Nat.le_refl i), hnone, List.nil_append]
  exact List.prefix_append xs _

end

/-! ## Code -/

theorem codePartsFrom_take_drop (inBlock : Bool) {ls : List Text} {i : Nat} (h : i ≤ ls.length) :
    codePartsFrom inBlock (ls.take i) = (codePartsFrom inBlock ls).take i ∧
      codePartsFrom (openAfter inBlock (ls.take i)) (ls.drop i) = (codePartsFrom inBlock ls).drop i := by
  have hsplit := codePartsFrom_append inBlock (ls.take i) (ls.drop i)
  have hlength : (codePartsFrom inBlock (ls.take i)).length = i := by
    rw [codePartsFrom_length, List.length_take, Nat.min_eq_left h]
  rw [List.take_append_drop] at hsplit
  rw [hsplit]
  exact ⟨(List.take_left' hlength).symm, (List.drop_left' hlength).symm⟩

/-- Lines that keep the comment state put their own code between the code of the others. -/
theorem codePartsFrom_insertAt {xs : List Text} {k : Int} (h : ∀ inBlock, Deepens inBlock xs k) {i : Nat}
    {ls : List Text} (hi : i ≤ ls.length) (inBlock : Bool) :
    codePartsFrom inBlock (insertAt i xs ls) =
      insertAt i (codePartsFrom (openAfter inBlock (ls.take i)) xs) (codePartsFrom inBlock ls) := by
  obtain ⟨htake, hdrop⟩ := codePartsFrom_take_drop inBlock hi
  rw [insertAt, List.append_assoc, codePartsFrom_append, (h _).codePartsFrom_append, htake, hdrop,
    ← List.append_assoc, insertAt]

/-- Lines that keep the comment state leave it behind every other line as it was. -/
theorem openAfter_take_insertAt {xs : List Text} {k : Int} (h : ∀ inBlock, Deepens inBlock xs k) {i : Nat}
    {ls : List Text} (hi : i ≤ ls.length) (inBlock : Bool) (j : Nat) :
    openAfter inBlock ((insertAt i xs ls).take (shiftFrom i xs.length j + 1)) =
      openAfter inBlock (ls.take (j + 1)) := by
  unfold shiftFrom
  split
  · rename_i hij
    rw [Nat.add_right_comm, take_insertAt_ge hi xs (by omega), ← take_append_drop_take (show i ≤ j + 1 by omega),
      openAfter_append, openAfter_append, openAfter_append, (h _).state, take_append_drop_take (by omega)]
  · rename_i hij
    rw [take_insertAt_le hi xs (by omega)]

/-- Balanced lines leave the depth of braces before every other line as it was. -/
theorem readAll_take_insertAt {xs codes : List Text} {i : Nat} (hi : i ≤ codes.length)
    (hx : (Braces.none.readAll xs).depth = 0) (j : Nat) :
    (Braces.none.readAll ((insertAt i xs codes).take (shiftFrom i xs.length j))).depth =
      (Braces.none.readAll (codes.take j)).depth := by
  unfold shiftFrom
  split
  · rename_i hij
    rw [take_insertAt_ge hi xs hij]
    conv_rhs => rw [← take_append_drop_take hij]
    rw [Braces.readAll_append, Braces.readAll_append, Braces.readAll_append,
      Braces.readAll_depth, (Braces.none.readAll _).readAll_depth xs, hx,
      Braces.readAll_depth (Braces.none.readAll (codes.take i))]
    omega
  · rename_i hij
    rw [take_insertAt_le hi xs (by omega)]

end SdkGraft.Source

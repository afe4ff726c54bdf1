import SdkGraft.Proofs.Source.GraftCode
import SdkGraft.Proofs.Source.Overlooked

/-!
# A constructor put into a root

* `findConstructorFrom?_append_eq_none` : code that begins no constructor is passed;
* `findConstructor?_insertedCodes` : behind a line that leaves one brace open and no comment, the inserted
  constructor is found; behind any other line it is not.
-/

namespace SdkGraft.Source

variable {sdk : Sdk} {codes xs : List Text}

theorem Braces.depth_le_of_not_opened {code : Text} (h : (Braces.none.read code).opened = false) :
    (Braces.none.read code).depth ≤ 0 := by
  rw [Braces.none.read_opened, Bool.or_eq_false_iff, decide_eq_false_iff_not] at h
  rw [Braces.none_read_depth, List.count_eq_zero.2 h.2]
  omega

/-- Code that begins no constructor is passed, unless the braces are all closed in it. -/
theorem findConstructorFrom?_append_eq_none {rest : List Text} (hstart : ∀ x ∈ xs, startsConstructor x = false)
    {b : Braces} (h : xs ≠ [] ∧ (b.readAll xs).isClosed = true ∨ findConstructorFrom? (b.readAll xs) rest = none) :
    findConstructorFrom? b (xs ++ rest) = none := by
  induction xs generalizing b with
  | nil =>
    rcases h with ⟨hne, -⟩ | h
    · exact absurd rfl hne
    · exact h
  | cons x xs ih =>
    have hx := hstart x List.mem_cons_self
    rw [List.cons_append, findConstructorFrom?, if_neg (by simp [hx])]
    split
    · rfl
    · rename_i hopen
      rw [ih (fun y hy => hstart y (List.mem_cons_of_mem x hy))]
      · rfl
      · rcases h with ⟨-, hclosed⟩ | h
        · refine .inl ⟨?_, hclosed⟩
          rintro rfl
          exact hopen hclosed
        · exact .inr h

theorem readAll_snippetCodes_depth (h : sdk.IsInert) (b : Braces) :
    (b.readAll (snippetCodes sdk true)).depth = b.depth := by
  have hopening := count_opening_bareCall h.opening
  have hclosing : (bareCall sdk).count '\x7d' = 0 :=
    List.count_eq_zero.2 (not_mem_bareCall h.closing (by decide) (by decide) (by decide))
  have hcall : ∀ b : Braces, (b.read (bareCall sdk)).depth = b.depth + 1 := fun b => by
    rw [b.read_depth, hopening, hclosing]
    omega
  simp only [snippetCodes, branchCodes, if_true, List.cons_append, List.nil_append, Braces.readAll_cons]
  simp only [Braces.readAll, List.foldl_nil, Braces.read_depth _ "\x7d".toList,
    Braces.read_depth _ "\x7d else \x7b".toList, Braces.read_depth _ [], hcall,
    Braces.read_depth _ "init() \x7b".toList]
  simp

theorem exists_snippetCodes_eq_cons (hcall : startsConstructor (bareCall sdk) = false) :
    ∃ tail, snippetCodes sdk true = "init() \x7b".toList :: tail ∧ tail ≠ [] ∧
      ∀ x ∈ tail, startsConstructor x = false := by
  refine ⟨branchCodes sdk ++ ["\x7d".toList], if_pos rfl, by simp, fun x hx => ?_⟩
  simp only [branchCodes, List.mem_append, List.mem_cons, List.not_mem_nil, or_false] at hx
  rcases hx with (rfl | rfl | rfl | rfl | rfl | rfl) | rfl
  · exact hcall
  all_goals rfl

/-- The inserted constructor is found if it stands directly inside the declaration. Otherwise the inserted code
is passed: it stands too deep, or no brace is open before it and its own are closed in it. -/
theorem findConstructorFrom?_snippetCodes (h : sdk.IsInert) (hcall : startsConstructor (bareCall sdk) = false)
    {b : Braces} (hnever : b.opened = false → b.depth ≤ 0) {rest : List Text}
    (hnone : findConstructorFrom? b rest = none) :
    findConstructorFrom? b (snippetCodes sdk true ++ rest) = if b.depth = 1 then some 0 else none := by
  obtain ⟨tail, hcodes, hne, htail⟩ := exists_snippetCodes_eq_cons hcall
  have hdepth := readAll_snippetCodes_depth h b
  rw [hcodes, Braces.readAll_cons] at hdepth
  have hopened : ((b.read "init() \x7b".toList).readAll tail).opened = true := by
    apply Braces.readAll_opened
    rw [b.read_opened, Bool.or_eq_true]
    exact .inr rfl
  rw [hcodes, List.cons_append, findConstructorFrom?]
  by_cases hfound : b.opened = true ∧ b.depth = 1
  · rw [if_pos (by rw [hfound.1, hfound.2]; rfl), if_pos hfound.2]
  · have hdeep : b.depth ≠ 1 := by
      intro hone
      cases hb : b.opened with
      | true => exact hfound ⟨hb, hone⟩
      | false =>
        have hshallow := hnever hb
        omega
    rw [if_neg (by simp [hdeep]), if_neg hdeep]
    split
    · rfl
    · rw [findConstructorFrom?_append_eq_none htail, Option.map_none]
      generalize (b.read "init() \x7b".toList).readAll tail = b' at hdepth hopened ⊢
      cases hb : b.opened with
      | true =>
        rw [Braces.ext hdepth (hopened.trans hb.symm)]
        exact .inr hnone
      | false =>
        refine .inl ⟨hne, ?_⟩
        unfold Braces.isClosed
        rw [hopened, hdepth]
        simpa using hnever hb

/-- Behind the line of a root without a constructor, the inserted one becomes its constructor if the line leaves
one brace open and no comment. -/
theorem findConstructor?_insertedCodes (h : sdk.IsInert) (hcall : startsConstructor (bareCall sdk) = false)
    {declaration : Nat} {code : Text} (hcode : codes[declaration]? = some code)
    (hnone : findConstructor? codes declaration = none) (inBlock : Bool) :
    findConstructor? (insertAt (declaration + 1) (insertedCodes sdk true inBlock) codes) declaration =
      if code.count '\x7b' = code.count '\x7d' + 1 ∧ inBlock = false then some (declaration + 1) else none := by
  obtain ⟨hlt, hget⟩ := List.getElem?_eq_some_iff.1 hcode
  have hdrop : codes.drop declaration = code :: codes.drop (declaration + 1) := by
    rw [List.drop_eq_getElem_cons hlt, hget]
  have hdepth := Braces.none_read_depth code
  unfold findConstructor? at hnone ⊢
  rw [Option.map_eq_none_iff, hdrop, findConstructorFrom?, if_neg (by simp [Braces.none])] at hnone
  rw [drop_insertAt (show declaration + 1 ≤ codes.length from hlt) _ (Nat.le_add_right _ 1),
    Nat.add_sub_cancel_left, hdrop]
  generalize codes.drop (declaration + 1) = rest at hnone ⊢
  show (findConstructorFrom? Braces.none (code :: (insertedCodes sdk true inBlock ++ rest))).map (declaration + ·) = _
  rw [findConstructorFrom?, if_neg (by simp [Braces.none])]
  cases hclosed : (Braces.none.read code).isClosed with
  | true =>
    unfold Braces.isClosed at hclosed
    rw [Bool.and_eq_true, decide_eq_true_eq] at hclosed
    rw [if_pos rfl, if_neg (by omega)]
    rfl
  | false =>
    rw [hclosed, if_neg (by simp), Option.map_eq_none_iff] at hnone
    rw [if_neg (by simp)]
    cases inBlock with
    | true =>
      have hquiet : ∀ x ∈ insertedCodes sdk true true, IsQuiet x := by
        intro x hx
        rw [List.eq_of_mem_replicate hx]
        exact ⟨List.not_mem_nil, List.not_mem_nil, rfl⟩
      rw [findConstructorFrom?_quiet_append hquiet hclosed, hnone, if_neg (by simp)]
      rfl
    | false =>
      show ((findConstructorFrom? (Braces.none.read code) (snippetCodes sdk true ++ rest)).map _).map _ = _
      rw [findConstructorFrom?_snippetCodes h hcall Braces.depth_le_of_not_opened hnone, hdepth]
      by_cases hone : code.count '\x7b' = code.count '\x7d' + 1
      · rw [if_pos (by omega), if_pos ⟨hone, rfl⟩]
        rfl
      · rw [if_neg (by omega), if_neg fun hand => hone hand.1]
        rfl

end SdkGraft.Source

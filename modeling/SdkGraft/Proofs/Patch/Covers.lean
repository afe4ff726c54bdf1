import SdkGraft.Proofs.Patch.Unified

/-!
# What hunks cover

* `Covers` : hunks, one behind the other, tell how some rows become others;
* `Covers.skip` : rows that stay may stand in front;
* `covers_hunksFrom`, `covers_hunks` : the hunks of a script do, by induction on the script with a hunk open or not;
* `StandsAt`, `Covers.apart`, `Covers.standsAt` : where hunks stand, and what stands there;
* `replaceRange`, `Covers.replaced` : the rows of each hunk put in the place of the old ones.
-/

namespace SdkGraft.Patch

variable {α : Type}

/-- The hunks tell how the rows `as` become `bs`, if `old` and `new` other rows stand before them: `gap` rows at least
stay before the first hunk, one at least before each other hunk, and all that are left behind the last. -/
inductive Covers : (gap old new : Nat) → List (Hunk α) → List α → List α → Prop where
  | rest {gap old new : Nat} (rows : List α) : Covers gap old new [] rows rows
  | hunk {gap old new : Nat} {kept as bs : List α} {h : Hunk α} {hs : List (Hunk α)} (hgap : gap ≤ kept.length)
      (hold : h.oldStart = old + kept.length) (hnew : h.newStart = new + kept.length)
      (hrest : Covers 1 (h.oldStart + h.old.length) (h.newStart + h.new.length) hs as bs) :
      Covers gap old new (h :: hs) (kept ++ (h.old ++ as)) (kept ++ (h.new ++ bs))

theorem Covers.skip {gap old new k : Nat} {rows as bs : List α} {hs : List (Hunk α)}
    (h : Covers 0 (old + k) (new + k) hs (rows.drop k ++ as) (rows.drop k ++ bs)) (hk : k ≤ rows.length)
    (hgap : gap ≤ k) : Covers gap old new hs (rows ++ as) (rows ++ bs) := by
  have hlength : (rows.take k).length = k := by rw [List.length_take, Nat.min_eq_left hk]
  have hsplit : ∀ more, rows ++ more = rows.take k ++ (rows.drop k ++ more) := fun more => by
    rw [← List.append_assoc, List.take_append_drop]
  rw [hsplit as, hsplit bs]
  generalize rows.drop k ++ as = as, rows.drop k ++ bs = bs at h
  cases h with
  | rest rows => exact .rest _
  | @hunk _ _ _ kept as bs h hs _ hold hnew hrest =>
    rw [← List.append_assoc, ← List.append_assoc _ kept]
    refine .hunk ?_ ?_ ?_ hrest
    all_goals rw [List.length_append, hlength]
    all_goals omega

theorem Covers.cons {h : Hunk α} {hs : List (Hunk α)} {as bs : List α}
    (hrest : Covers 1 (h.oldStart + h.old.length) (h.newStart + h.new.length) hs as bs) :
    Covers 0 h.oldStart h.newStart (h :: hs) (h.old ++ as) (h.new ++ bs) :=
  @Covers.hunk _ 0 _ _ [] _ _ _ _ (Nat.zero_le _) rfl rfl hrest

/-! ## The hunks of a script -/

section
variable {h : Hunk α} {rows : List (Row α)}

theorem Hunk.old_append : (h.append rows).old = h.old ++ rows.filterMap Row.old? := List.filterMap_append ..

theorem Hunk.new_append : (h.append rows).new = h.new ++ rows.filterMap Row.new? := List.filterMap_append ..

theorem filterMap_old?_context (rows : List α) : (rows.map Row.context).filterMap Row.old? = rows := by
  simp [Function.comp_def, Row.old?]

theorem filterMap_new?_context (rows : List α) : (rows.map Row.context).filterMap Row.new? = rows := by
  simp [Function.comp_def, Row.new?]

theorem filterMap_old?_changeRows (removed added : List α) :
    (changeRows removed added).filterMap Row.old? = removed := by
  simp [changeRows, Function.comp_def, Row.old?]

theorem filterMap_new?_changeRows (removed added : List α) :
    (changeRows removed added).filterMap Row.new? = added := by
  simp [changeRows, Function.comp_def, Row.new?]

/-- A hunk that goes up to two places and has more rows that stay goes up to the places behind them. -/
theorem Hunk.ends_append_context {old new : Nat} (hold : h.oldStart + h.old.length = old)
    (hnew : h.newStart + h.new.length = new) (rows : List α) :
    h.oldStart + (h.append (rows.map Row.context)).old.length = old + rows.length ∧
      h.newStart + (h.append (rows.map Row.context)).new.length = new + rows.length := by
  rw [Hunk.old_append, Hunk.new_append, filterMap_old?_context, filterMap_new?_context, List.length_append,
    List.length_append]
  omega

theorem Covers.close {old new : Nat} (hold : h.oldStart + h.old.length = old)
    (hnew : h.newStart + h.new.length = new) (rows : List α) {hs : List (Hunk α)} {as bs : List α}
    (hrest : Covers 1 (old + rows.length) (new + rows.length) hs as bs) :
    Covers 0 h.oldStart h.newStart (h.append (rows.map Row.context) :: hs) (h.old ++ (rows ++ as))
      (h.new ++ (rows ++ bs)) := by
  obtain ⟨hold', hnew'⟩ := Hunk.ends_append_context hold hnew rows
  rw [← hold', ← hnew'] at hrest
  have hclosed := Covers.cons (h := h.append (rows.map Row.context)) hrest
  rwa [Hunk.old_append, Hunk.new_append, filterMap_old?_context, filterMap_new?_context, List.append_assoc,
    List.append_assoc] at hclosed

end

/-- The hunk that rows in front of a change open: the last of them. -/
def opening (old new : Nat) (rows : List α) : Hunk α :=
  ⟨old + (rows.length - contextSize), new + (rows.length - contextSize),
    (rows.drop (rows.length - contextSize)).map Row.context⟩

section
variable {old new : Nat} {rows : List α}

theorem opening_old : (opening old new rows).old = rows.drop (rows.length - contextSize) := filterMap_old?_context _

theorem opening_new : (opening old new rows).new = rows.drop (rows.length - contextSize) := filterMap_new?_context _

theorem opening_ends : (opening old new rows).oldStart + (opening old new rows).old.length = old + rows.length ∧
    (opening old new rows).newStart + (opening old new rows).new.length = new + rows.length := by
  rw [opening_old, opening_new, List.length_drop, opening]
  dsimp only
  omega

/-- What a new hunk covers, the rows that stay before it may be put in front of, but for `k` of them. -/
theorem Covers.skip_opening {g k : Nat} {hs : List (Hunk α)} {as bs : List α}
    (h : Covers 0 (opening old new rows).oldStart (opening old new rows).newStart hs
      ((opening old new rows).old ++ as) ((opening old new rows).new ++ bs))
    (hk : k + g ≤ rows.length - contextSize) :
    Covers g (old + k) (new + k) hs (rows.drop k ++ as) (rows.drop k ++ bs) := by
  have hskip : k + (rows.length - contextSize - k) = rows.length - contextSize := by omega
  refine Covers.skip (k := rows.length - contextSize - k) ?_ ?_ (by omega)
  · rw [List.drop_drop, hskip, Nat.add_assoc, Nat.add_assoc, hskip]
    rwa [opening_old, opening_new] at h
  · rw [List.length_drop]
    omega

end

/-- The hunks from a place of a script on cover what is left of it, together with the open hunk, if there is one: it
goes up to that place. -/
theorem covers_hunksFrom {old new : Nat} {opened : Option (Hunk α)} {script : List (Step α)}
    (hold : (opened.getD ⟨old, new, []⟩).oldStart + (opened.getD ⟨old, new, []⟩).old.length = old)
    (hnew : (opened.getD ⟨old, new, []⟩).newStart + (opened.getD ⟨old, new, []⟩).new.length = new) :
    Covers 0 (opened.getD ⟨old, new, []⟩).oldStart (opened.getD ⟨old, new, []⟩).newStart
      (hunksFrom old new opened script) ((opened.getD ⟨old, new, []⟩).old ++ source script)
      ((opened.getD ⟨old, new, []⟩).new ++ target script) := by
  fun_induction hunksFrom old new opened script with
  | case1 old new opened =>
    cases opened with
    | none => exact .rest _
    | some h => exact (Covers.rest []).cons
  | case2 old new opened rows =>
    cases opened with
    | none => exact .rest _
    | some h =>
      have hclosed := Covers.close hold hnew (rows.take contextSize) (.rest (rows.drop contextSize))
      rw [List.take_append_drop] at hclosed
      simpa [source, target, Step.old, Step.new] using hclosed
  | case3 old new rows rest hrest skipped fresh ih =>
    -- no hunk is open: all but the last of the rows stay in front of the new one
    exact (ih opening_ends.1 opening_ends.2).skip_opening (k := 0) (Nat.zero_le _)
  | case4 old new rows rest hrest skipped fresh hunk hlong ih =>
    -- the first of the rows close the open hunk, the last open a new one, and one at least is left between them
    have hbehind := (ih opening_ends.1 opening_ends.2).skip_opening (g := 1) (k := contextSize) (by omega)
    have htaken : (rows.take contextSize).length = contextSize := by
      rw [List.length_take]
      omega
    rw [← htaken] at hbehind
    have hclosed := Covers.close hold hnew (rows.take contextSize) hbehind
    rw [htaken, ← List.append_assoc (rows.take contextSize), ← List.append_assoc (rows.take contextSize),
      List.take_append_drop] at hclosed
    exact hclosed
  | case5 old new rows rest hrest hunk hshort ih =>
    obtain ⟨hold', hnew'⟩ := Hunk.ends_append_context hold hnew rows
    have hcovers := ih hold' hnew'
    rw [Option.getD_some, Hunk.old_append, Hunk.new_append, filterMap_old?_context, filterMap_new?_context,
      List.append_assoc, List.append_assoc] at hcovers
    exact hcovers
  | case6 old new opened removed added rest hunk ih =>
    have hcovers := ih ?_ ?_
    · rw [Option.getD_some, Hunk.old_append, Hunk.new_append, filterMap_old?_changeRows, filterMap_new?_changeRows,
        List.append_assoc, List.append_assoc] at hcovers
      exact hcovers
    · rw [Option.getD_some, Hunk.old_append, filterMap_old?_changeRows, List.length_append, ← Nat.add_assoc]
      exact congrArg (· + removed.length) hold
    · rw [Option.getD_some, Hunk.new_append, filterMap_new?_changeRows, List.length_append, ← Nat.add_assoc]
      exact congrArg (· + added.length) hnew

/-- The hunks of a script tell how its old list becomes the new one. -/
theorem covers_hunks (script : List (Step α)) : Covers 0 0 0 (hunks script) (source script) (target script) :=
  @covers_hunksFrom _ 0 0 none script rfl rfl

/-! ## Where hunks stand -/

/-- The rows stand in a list, behind so many of its rows. -/
def StandsAt (rows : List α) (start : Nat) (as : List α) : Prop :=
  ∃ before after, as = before ++ (rows ++ after) ∧ before.length = start

theorem StandsAt.take_drop {rows as : List α} {start : Nat} (h : StandsAt rows start as) :
    start + rows.length ≤ as.length ∧ (as.drop start).take rows.length = rows := by
  obtain ⟨before, after, rfl, rfl⟩ := h
  constructor
  · simp only [List.length_append]
    omega
  · rw [List.drop_left, List.take_left]

def replaceRange (start length : Nat) (rows as : List α) : List α :=
  as.take start ++ (rows ++ as.drop (start + length))

def Hunk.replace (h : Hunk α) (as : List α) : List α := replaceRange h.oldStart h.old.length h.new as

theorem Hunk.replace_standing {h : Hunk α} {before : List α} (hstart : before.length = h.oldStart) (after : List α) :
    h.replace (before ++ (h.old ++ after)) = before ++ (h.new ++ after) := by
  rw [Hunk.replace, replaceRange, ← hstart, List.take_left, ← List.append_assoc before h.old, ← List.length_append,
    List.drop_left]

namespace Covers
variable {gap old new : Nat} {hs : List (Hunk α)} {as bs : List α}

theorem le_oldStart (hcovers : Covers gap old new hs as bs) : ∀ h ∈ hs, old + gap ≤ h.oldStart := by
  induction hcovers with
  | rest => simp
  | hunk hgap hold hnew hrest ih =>
    rintro later (_ | ⟨_, hlater⟩)
    · omega
    · have := ih later hlater
      omega

theorem apart (hcovers : Covers gap old new hs as bs) :
    hs.Pairwise fun h later => h.oldStart + h.old.length < later.oldStart := by
  induction hcovers with
  | rest => exact .nil
  | hunk hgap hold hnew hrest ih => exact .cons hrest.le_oldStart ih

/-- The rows of a hunk stand in both lists where it says; the induction is on the hunks, and `before` and `before'` are
what stands in front of those that are left. -/
theorem standsAt (hcovers : Covers gap old new hs as bs) {before before' : List α} (hbefore : before.length = old)
    (hbefore' : before'.length = new) :
    ∀ h ∈ hs, StandsAt h.old h.oldStart (before ++ as) ∧ StandsAt h.new h.newStart (before' ++ bs) := by
  induction hcovers generalizing before before' with
  | rest => simp
  | @hunk _ _ _ kept as bs first hs hgap hold hnew hrest ih =>
    have hkept : (before ++ kept).length = first.oldStart := by rw [List.length_append, hbefore, hold]
    have hkept' : (before' ++ kept).length = first.newStart := by rw [List.length_append, hbefore', hnew]
    rintro h (_ | ⟨_, hlater⟩)
    · exact ⟨⟨before ++ kept, as, (List.append_assoc ..).symm, hkept⟩,
        ⟨before' ++ kept, bs, (List.append_assoc ..).symm, hkept'⟩⟩
    · rw [← List.append_assoc, ← List.append_assoc, ← List.append_assoc, ← List.append_assoc]
      exact ih (by rw [List.length_append, hkept]) (by rw [List.length_append, hkept']) h hlater

/-- What the hunks cover is replaced by what they tell, the last first, so that the others keep their places; the
induction is on the hunks, and `before` is what stands in front of those that are left. -/
theorem replaced (hcovers : Covers gap old new hs as bs) {before : List α} (hbefore : before.length = old) :
    hs.foldr Hunk.replace (before ++ as) = before ++ bs := by
  induction hcovers generalizing before with
  | rest => rfl
  | @hunk _ _ _ kept as bs first hs hgap hold hnew hrest ih =>
    have hkept : (before ++ kept).length = first.oldStart := by rw [List.length_append, hbefore, hold]
    have hlater : hs.foldr Hunk.replace (before ++ (kept ++ (first.old ++ as))) =
        before ++ kept ++ (first.old ++ bs) := by
      have hbehind : (before ++ kept ++ first.old).length = first.oldStart + first.old.length := by
        rw [List.length_append, hkept]
      simpa only [List.append_assoc] using ih hbehind
    calc (first :: hs).foldr Hunk.replace (before ++ (kept ++ (first.old ++ as)))
        = first.replace (hs.foldr Hunk.replace (before ++ (kept ++ (first.old ++ as)))) := rfl
      _ = first.replace (before ++ kept ++ (first.old ++ bs)) := congrArg first.replace hlater
      _ = before ++ kept ++ (first.new ++ bs) := Hunk.replace_standing hkept bs
      _ = before ++ (kept ++ (first.new ++ bs)) := List.append_assoc ..

end Covers

end SdkGraft.Patch
